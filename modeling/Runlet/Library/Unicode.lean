import Mathlib.Data.List.Basic

/-!
# Tables of characters

What the methods of a text look up about a character: its lower-case letter, whether it has a case,
whether it is passed over when one asks for the case of its neighbours, and whether it is printed as
it is.  The tables are those of Unicode 15.0, by the codes of the characters.

`lowerCode?_of_lowerCode?` is what lower case rests on: no lower-case letter has a lower case of its
own.  The tables are gone through with `Nat.ble` and `Nat.beq`, which the kernel computes.
-/

namespace Unicode

/-- Capitals at equal distances, `stride` apart, whose lower-case letters are at the same distances
from `image` on. -/
structure CaseRun where
  first : ℕ
  last : ℕ
  stride : ℕ
  image : ℕ
  deriving DecidableEq

namespace CaseRun

def covers (run : CaseRun) (n : ℕ) : Bool :=
  Nat.ble run.first n && Nat.ble n run.last && Nat.beq ((n - run.first) % run.stride) 0

def lower (run : CaseRun) (n : ℕ) : ℕ :=
  run.image + (n - run.first)

end CaseRun

/-- The letters whose lower case is one other letter. -/
def lowerRuns : List CaseRun :=
  [⟨0x41, 0x5A, 1, 0x61⟩, ⟨0xC0, 0xD6, 1, 0xE0⟩, ⟨0xD8, 0xDE, 1, 0xF8⟩, ⟨0x100, 0x12E, 2, 0x101⟩,
   ⟨0x132, 0x136, 2, 0x133⟩, ⟨0x139, 0x147, 2, 0x13A⟩, ⟨0x14A, 0x176, 2, 0x14B⟩,
   ⟨0x178, 0x178, 1, 0xFF⟩, ⟨0x179, 0x17D, 2, 0x17A⟩, ⟨0x181, 0x181, 1, 0x253⟩,
   ⟨0x182, 0x184, 2, 0x183⟩, ⟨0x186, 0x186, 1, 0x254⟩, ⟨0x187, 0x187, 1, 0x188⟩,
   ⟨0x189, 0x18A, 1, 0x256⟩, ⟨0x18B, 0x18B, 1, 0x18C⟩, ⟨0x18E, 0x18E, 1, 0x1DD⟩,
   ⟨0x18F, 0x18F, 1, 0x259⟩, ⟨0x190, 0x190, 1, 0x25B⟩, ⟨0x191, 0x191, 1, 0x192⟩,
   ⟨0x193, 0x193, 1, 0x260⟩, ⟨0x194, 0x194, 1, 0x263⟩, ⟨0x196, 0x196, 1, 0x269⟩,
   ⟨0x197, 0x197, 1, 0x268⟩, ⟨0x198, 0x198, 1, 0x199⟩, ⟨0x19C, 0x19C, 1, 0x26F⟩,
   ⟨0x19D, 0x19D, 1, 0x272⟩, ⟨0x19F, 0x19F, 1, 0x275⟩, ⟨0x1A0, 0x1A4, 2, 0x1A1⟩,
   ⟨0x1A6, 0x1A6, 1, 0x280⟩, ⟨0x1A7, 0x1A7, 1, 0x1A8⟩, ⟨0x1A9, 0x1A9, 1, 0x283⟩,
   ⟨0x1AC, 0x1AC, 1, 0x1AD⟩, ⟨0x1AE, 0x1AE, 1, 0x288⟩, ⟨0x1AF, 0x1AF, 1, 0x1B0⟩,
   ⟨0x1B1, 0x1B2, 1, 0x28A⟩, ⟨0x1B3, 0x1B5, 2, 0x1B4⟩, ⟨0x1B7, 0x1B7, 1, 0x292⟩,
   ⟨0x1B8, 0x1B8, 1, 0x1B9⟩, ⟨0x1BC, 0x1BC, 1, 0x1BD⟩, ⟨0x1C4, 0x1C4, 1, 0x1C6⟩,
   ⟨0x1C5, 0x1C5, 1, 0x1C6⟩, ⟨0x1C7, 0x1C7, 1, 0x1C9⟩, ⟨0x1C8, 0x1C8, 1, 0x1C9⟩,
   ⟨0x1CA, 0x1CA, 1, 0x1CC⟩, ⟨0x1CB, 0x1DB, 2, 0x1CC⟩, ⟨0x1DE, 0x1EE, 2, 0x1DF⟩,
   ⟨0x1F1, 0x1F1, 1, 0x1F3⟩, ⟨0x1F2, 0x1F4, 2, 0x1F3⟩, ⟨0x1F6, 0x1F6, 1, 0x195⟩,
   ⟨0x1F7, 0x1F7, 1, 0x1BF⟩, ⟨0x1F8, 0x21E, 2, 0x1F9⟩, ⟨0x220, 0x220, 1, 0x19E⟩,
   ⟨0x222, 0x232, 2, 0x223⟩, ⟨0x23A, 0x23A, 1, 0x2C65⟩, ⟨0x23B, 0x23B, 1, 0x23C⟩,
   ⟨0x23D, 0x23D, 1, 0x19A⟩, ⟨0x23E, 0x23E, 1, 0x2C66⟩, ⟨0x241, 0x241, 1, 0x242⟩,
   ⟨0x243, 0x243, 1, 0x180⟩, ⟨0x244, 0x244, 1, 0x289⟩, ⟨0x245, 0x245, 1, 0x28C⟩,
   ⟨0x246, 0x24E, 2, 0x247⟩, ⟨0x370, 0x372, 2, 0x371⟩, ⟨0x376, 0x376, 1, 0x377⟩,
   ⟨0x37F, 0x37F, 1, 0x3F3⟩, ⟨0x386, 0x386, 1, 0x3AC⟩, ⟨0x388, 0x38A, 1, 0x3AD⟩,
   ⟨0x38C, 0x38C, 1, 0x3CC⟩, ⟨0x38E, 0x38F, 1, 0x3CD⟩, ⟨0x391, 0x3A1, 1, 0x3B1⟩,
   ⟨0x3A3, 0x3AB, 1, 0x3C3⟩, ⟨0x3CF, 0x3CF, 1, 0x3D7⟩, ⟨0x3D8, 0x3EE, 2, 0x3D9⟩,
   ⟨0x3F4, 0x3F4, 1, 0x3B8⟩, ⟨0x3F7, 0x3F7, 1, 0x3F8⟩, ⟨0x3F9, 0x3F9, 1, 0x3F2⟩,
   ⟨0x3FA, 0x3FA, 1, 0x3FB⟩, ⟨0x3FD, 0x3FF, 1, 0x37B⟩, ⟨0x400, 0x40F, 1, 0x450⟩,
   ⟨0x410, 0x42F, 1, 0x430⟩, ⟨0x460, 0x480, 2, 0x461⟩, ⟨0x48A, 0x4BE, 2, 0x48B⟩,
   ⟨0x4C0, 0x4C0, 1, 0x4CF⟩, ⟨0x4C1, 0x4CD, 2, 0x4C2⟩, ⟨0x4D0, 0x52E, 2, 0x4D1⟩,
   ⟨0x531, 0x556, 1, 0x561⟩, ⟨0x10A0, 0x10C5, 1, 0x2D00⟩, ⟨0x10C7, 0x10C7, 1, 0x2D27⟩,
   ⟨0x10CD, 0x10CD, 1, 0x2D2D⟩, ⟨0x13A0, 0x13EF, 1, 0xAB70⟩, ⟨0x13F0, 0x13F5, 1, 0x13F8⟩,
   ⟨0x1C90, 0x1CBA, 1, 0x10D0⟩, ⟨0x1CBD, 0x1CBF, 1, 0x10FD⟩, ⟨0x1E00, 0x1E94, 2, 0x1E01⟩,
   ⟨0x1E9E, 0x1E9E, 1, 0xDF⟩, ⟨0x1EA0, 0x1EFE, 2, 0x1EA1⟩, ⟨0x1F08, 0x1F0F, 1, 0x1F00⟩,
   ⟨0x1F18, 0x1F1D, 1, 0x1F10⟩, ⟨0x1F28, 0x1F2F, 1, 0x1F20⟩, ⟨0x1F38, 0x1F3F, 1, 0x1F30⟩,
   ⟨0x1F48, 0x1F4D, 1, 0x1F40⟩, ⟨0x1F59, 0x1F5F, 2, 0x1F51⟩, ⟨0x1F68, 0x1F6F, 1, 0x1F60⟩,
   ⟨0x1F88, 0x1F8F, 1, 0x1F80⟩, ⟨0x1F98, 0x1F9F, 1, 0x1F90⟩, ⟨0x1FA8, 0x1FAF, 1, 0x1FA0⟩,
   ⟨0x1FB8, 0x1FB9, 1, 0x1FB0⟩, ⟨0x1FBA, 0x1FBB, 1, 0x1F70⟩, ⟨0x1FBC, 0x1FBC, 1, 0x1FB3⟩,
   ⟨0x1FC8, 0x1FCB, 1, 0x1F72⟩, ⟨0x1FCC, 0x1FCC, 1, 0x1FC3⟩, ⟨0x1FD8, 0x1FD9, 1, 0x1FD0⟩,
   ⟨0x1FDA, 0x1FDB, 1, 0x1F76⟩, ⟨0x1FE8, 0x1FE9, 1, 0x1FE0⟩, ⟨0x1FEA, 0x1FEB, 1, 0x1F7A⟩,
   ⟨0x1FEC, 0x1FEC, 1, 0x1FE5⟩, ⟨0x1FF8, 0x1FF9, 1, 0x1F78⟩, ⟨0x1FFA, 0x1FFB, 1, 0x1F7C⟩,
   ⟨0x1FFC, 0x1FFC, 1, 0x1FF3⟩, ⟨0x2126, 0x2126, 1, 0x3C9⟩, ⟨0x212A, 0x212A, 1, 0x6B⟩,
   ⟨0x212B, 0x212B, 1, 0xE5⟩, ⟨0x2132, 0x2132, 1, 0x214E⟩, ⟨0x2160, 0x216F, 1, 0x2170⟩,
   ⟨0x2183, 0x2183, 1, 0x2184⟩, ⟨0x24B6, 0x24CF, 1, 0x24D0⟩, ⟨0x2C00, 0x2C2F, 1, 0x2C30⟩,
   ⟨0x2C60, 0x2C60, 1, 0x2C61⟩, ⟨0x2C62, 0x2C62, 1, 0x26B⟩, ⟨0x2C63, 0x2C63, 1, 0x1D7D⟩,
   ⟨0x2C64, 0x2C64, 1, 0x27D⟩, ⟨0x2C67, 0x2C6B, 2, 0x2C68⟩, ⟨0x2C6D, 0x2C6D, 1, 0x251⟩,
   ⟨0x2C6E, 0x2C6E, 1, 0x271⟩, ⟨0x2C6F, 0x2C6F, 1, 0x250⟩, ⟨0x2C70, 0x2C70, 1, 0x252⟩,
   ⟨0x2C72, 0x2C72, 1, 0x2C73⟩, ⟨0x2C75, 0x2C75, 1, 0x2C76⟩, ⟨0x2C7E, 0x2C7F, 1, 0x23F⟩,
   ⟨0x2C80, 0x2CE2, 2, 0x2C81⟩, ⟨0x2CEB, 0x2CED, 2, 0x2CEC⟩, ⟨0x2CF2, 0x2CF2, 1, 0x2CF3⟩,
   ⟨0xA640, 0xA66C, 2, 0xA641⟩, ⟨0xA680, 0xA69A, 2, 0xA681⟩, ⟨0xA722, 0xA72E, 2, 0xA723⟩,
   ⟨0xA732, 0xA76E, 2, 0xA733⟩, ⟨0xA779, 0xA77B, 2, 0xA77A⟩, ⟨0xA77D, 0xA77D, 1, 0x1D79⟩,
   ⟨0xA77E, 0xA786, 2, 0xA77F⟩, ⟨0xA78B, 0xA78B, 1, 0xA78C⟩, ⟨0xA78D, 0xA78D, 1, 0x265⟩,
   ⟨0xA790, 0xA792, 2, 0xA791⟩, ⟨0xA796, 0xA7A8, 2, 0xA797⟩, ⟨0xA7AA, 0xA7AA, 1, 0x266⟩,
   ⟨0xA7AB, 0xA7AB, 1, 0x25C⟩, ⟨0xA7AC, 0xA7AC, 1, 0x261⟩, ⟨0xA7AD, 0xA7AD, 1, 0x26C⟩,
   ⟨0xA7AE, 0xA7AE, 1, 0x26A⟩, ⟨0xA7B0, 0xA7B0, 1, 0x29E⟩, ⟨0xA7B1, 0xA7B1, 1, 0x287⟩,
   ⟨0xA7B2, 0xA7B2, 1, 0x29D⟩, ⟨0xA7B3, 0xA7B3, 1, 0xAB53⟩, ⟨0xA7B4, 0xA7C2, 2, 0xA7B5⟩,
   ⟨0xA7C4, 0xA7C4, 1, 0xA794⟩, ⟨0xA7C5, 0xA7C5, 1, 0x282⟩, ⟨0xA7C6, 0xA7C6, 1, 0x1D8E⟩,
   ⟨0xA7C7, 0xA7C9, 2, 0xA7C8⟩, ⟨0xA7D0, 0xA7D0, 1, 0xA7D1⟩, ⟨0xA7D6, 0xA7D8, 2, 0xA7D7⟩,
   ⟨0xA7F5, 0xA7F5, 1, 0xA7F6⟩, ⟨0xFF21, 0xFF3A, 1, 0xFF41⟩, ⟨0x10400, 0x10427, 1, 0x10428⟩,
   ⟨0x104B0, 0x104D3, 1, 0x104D8⟩, ⟨0x10570, 0x1057A, 1, 0x10597⟩, ⟨0x1057C, 0x1058A, 1, 0x105A3⟩,
   ⟨0x1058C, 0x10592, 1, 0x105B3⟩, ⟨0x10594, 0x10595, 1, 0x105BB⟩, ⟨0x10C80, 0x10CB2, 1, 0x10CC0⟩,
   ⟨0x118A0, 0x118BF, 1, 0x118C0⟩, ⟨0x16E40, 0x16E5F, 1, 0x16E60⟩, ⟨0x1E900, 0x1E921, 1, 0x1E922⟩]

/-- The characters with a case, those that `caseIgnorableRanges` has left out. -/
def casedRanges : List (ℕ × ℕ) :=
  [(0x41, 0x5A), (0x61, 0x7A), (0xAA, 0xAA), (0xB5, 0xB5), (0xBA, 0xBA), (0xC0, 0xD6),
   (0xD8, 0xF6), (0xF8, 0x1BA), (0x1BC, 0x1BF), (0x1C4, 0x293), (0x295, 0x2AF), (0x370, 0x373),
   (0x376, 0x377), (0x37B, 0x37D), (0x37F, 0x37F), (0x386, 0x386), (0x388, 0x38A), (0x38C, 0x38C),
   (0x38E, 0x3A1), (0x3A3, 0x3F5), (0x3F7, 0x481), (0x48A, 0x52F), (0x531, 0x556), (0x560, 0x588),
   (0x10A0, 0x10C5), (0x10C7, 0x10C7), (0x10CD, 0x10CD), (0x10D0, 0x10FA), (0x10FD, 0x10FF),
   (0x13A0, 0x13F5), (0x13F8, 0x13FD), (0x1C80, 0x1C88), (0x1C90, 0x1CBA), (0x1CBD, 0x1CBF),
   (0x1D00, 0x1D2B), (0x1D6B, 0x1D77), (0x1D79, 0x1D9A), (0x1E00, 0x1F15), (0x1F18, 0x1F1D),
   (0x1F20, 0x1F45), (0x1F48, 0x1F4D), (0x1F50, 0x1F57), (0x1F59, 0x1F59), (0x1F5B, 0x1F5B),
   (0x1F5D, 0x1F5D), (0x1F5F, 0x1F7D), (0x1F80, 0x1FB4), (0x1FB6, 0x1FBC), (0x1FBE, 0x1FBE),
   (0x1FC2, 0x1FC4), (0x1FC6, 0x1FCC), (0x1FD0, 0x1FD3), (0x1FD6, 0x1FDB), (0x1FE0, 0x1FEC),
   (0x1FF2, 0x1FF4), (0x1FF6, 0x1FFC), (0x2102, 0x2102), (0x2107, 0x2107), (0x210A, 0x2113),
   (0x2115, 0x2115), (0x2119, 0x211D), (0x2124, 0x2124), (0x2126, 0x2126), (0x2128, 0x2128),
   (0x212A, 0x212D), (0x212F, 0x2134), (0x2139, 0x2139), (0x213C, 0x213F), (0x2145, 0x2149),
   (0x214E, 0x214E), (0x2160, 0x217F), (0x2183, 0x2184), (0x24B6, 0x24E9), (0x2C00, 0x2C7B),
   (0x2C7E, 0x2CE4), (0x2CEB, 0x2CEE), (0x2CF2, 0x2CF3), (0x2D00, 0x2D25), (0x2D27, 0x2D27),
   (0x2D2D, 0x2D2D), (0xA640, 0xA66D), (0xA680, 0xA69B), (0xA722, 0xA76F), (0xA771, 0xA787),
   (0xA78B, 0xA78E), (0xA790, 0xA7CA), (0xA7D0, 0xA7D1), (0xA7D3, 0xA7D3), (0xA7D5, 0xA7D9),
   (0xA7F5, 0xA7F6), (0xA7FA, 0xA7FA), (0xAB30, 0xAB5A), (0xAB60, 0xAB68), (0xAB70, 0xABBF),
   (0xFB00, 0xFB06), (0xFB13, 0xFB17), (0xFF21, 0xFF3A), (0xFF41, 0xFF5A), (0x10400, 0x1044F),
   (0x104B0, 0x104D3), (0x104D8, 0x104FB), (0x10570, 0x1057A), (0x1057C, 0x1058A),
   (0x1058C, 0x10592), (0x10594, 0x10595), (0x10597, 0x105A1), (0x105A3, 0x105B1),
   (0x105B3, 0x105B9), (0x105BB, 0x105BC), (0x10C80, 0x10CB2), (0x10CC0, 0x10CF2),
   (0x118A0, 0x118DF), (0x16E40, 0x16E7F), (0x1D400, 0x1D454), (0x1D456, 0x1D49C),
   (0x1D49E, 0x1D49F), (0x1D4A2, 0x1D4A2), (0x1D4A5, 0x1D4A6), (0x1D4A9, 0x1D4AC),
   (0x1D4AE, 0x1D4B9), (0x1D4BB, 0x1D4BB), (0x1D4BD, 0x1D4C3), (0x1D4C5, 0x1D505),
   (0x1D507, 0x1D50A), (0x1D50D, 0x1D514), (0x1D516, 0x1D51C), (0x1D51E, 0x1D539),
   (0x1D53B, 0x1D53E), (0x1D540, 0x1D544), (0x1D546, 0x1D546), (0x1D54A, 0x1D550),
   (0x1D552, 0x1D6A5), (0x1D6A8, 0x1D6C0), (0x1D6C2, 0x1D6DA), (0x1D6DC, 0x1D6FA),
   (0x1D6FC, 0x1D714), (0x1D716, 0x1D734), (0x1D736, 0x1D74E), (0x1D750, 0x1D76E),
   (0x1D770, 0x1D788), (0x1D78A, 0x1D7A8), (0x1D7AA, 0x1D7C2), (0x1D7C4, 0x1D7CB),
   (0x1DF00, 0x1DF09), (0x1DF0B, 0x1DF1E), (0x1DF25, 0x1DF2A), (0x1E900, 0x1E943),
   (0x1F130, 0x1F149), (0x1F150, 0x1F169), (0x1F170, 0x1F189)]

/-- The characters that are passed over when the case of a neighbour is asked for. -/
def caseIgnorableRanges : List (ℕ × ℕ) :=
  [(0x27, 0x27), (0x2E, 0x2E), (0x3A, 0x3A), (0x5E, 0x5E), (0x60, 0x60), (0xA8, 0xA8),
   (0xAD, 0xAD), (0xAF, 0xAF), (0xB4, 0xB4), (0xB7, 0xB8), (0x2B0, 0x36F), (0x374, 0x375),
   (0x37A, 0x37A), (0x384, 0x385), (0x387, 0x387), (0x483, 0x489), (0x559, 0x559), (0x55F, 0x55F),
   (0x591, 0x5BD), (0x5BF, 0x5BF), (0x5C1, 0x5C2), (0x5C4, 0x5C5), (0x5C7, 0x5C7), (0x5F4, 0x5F4),
   (0x600, 0x605), (0x610, 0x61A), (0x61C, 0x61C), (0x640, 0x640), (0x64B, 0x65F), (0x670, 0x670),
   (0x6D6, 0x6DD), (0x6DF, 0x6E8), (0x6EA, 0x6ED), (0x70F, 0x70F), (0x711, 0x711), (0x730, 0x74A),
   (0x7A6, 0x7B0), (0x7EB, 0x7F5), (0x7FA, 0x7FA), (0x7FD, 0x7FD), (0x816, 0x82D), (0x859, 0x85B),
   (0x888, 0x888), (0x890, 0x891), (0x898, 0x89F), (0x8C9, 0x902), (0x93A, 0x93A), (0x93C, 0x93C),
   (0x941, 0x948), (0x94D, 0x94D), (0x951, 0x957), (0x962, 0x963), (0x971, 0x971), (0x981, 0x981),
   (0x9BC, 0x9BC), (0x9C1, 0x9C4), (0x9CD, 0x9CD), (0x9E2, 0x9E3), (0x9FE, 0x9FE), (0xA01, 0xA02),
   (0xA3C, 0xA3C), (0xA41, 0xA42), (0xA47, 0xA48), (0xA4B, 0xA4D), (0xA51, 0xA51), (0xA70, 0xA71),
   (0xA75, 0xA75), (0xA81, 0xA82), (0xABC, 0xABC), (0xAC1, 0xAC5), (0xAC7, 0xAC8), (0xACD, 0xACD),
   (0xAE2, 0xAE3), (0xAFA, 0xAFF), (0xB01, 0xB01), (0xB3C, 0xB3C), (0xB3F, 0xB3F), (0xB41, 0xB44),
   (0xB4D, 0xB4D), (0xB55, 0xB56), (0xB62, 0xB63), (0xB82, 0xB82), (0xBC0, 0xBC0), (0xBCD, 0xBCD),
   (0xC00, 0xC00), (0xC04, 0xC04), (0xC3C, 0xC3C), (0xC3E, 0xC40), (0xC46, 0xC48), (0xC4A, 0xC4D),
   (0xC55, 0xC56), (0xC62, 0xC63), (0xC81, 0xC81), (0xCBC, 0xCBC), (0xCBF, 0xCBF), (0xCC6, 0xCC6),
   (0xCCC, 0xCCD), (0xCE2, 0xCE3), (0xD00, 0xD01), (0xD3B, 0xD3C), (0xD41, 0xD44), (0xD4D, 0xD4D),
   (0xD62, 0xD63), (0xD81, 0xD81), (0xDCA, 0xDCA), (0xDD2, 0xDD4), (0xDD6, 0xDD6), (0xE31, 0xE31),
   (0xE34, 0xE3A), (0xE46, 0xE4E), (0xEB1, 0xEB1), (0xEB4, 0xEBC), (0xEC6, 0xEC6), (0xEC8, 0xECE),
   (0xF18, 0xF19), (0xF35, 0xF35), (0xF37, 0xF37), (0xF39, 0xF39), (0xF71, 0xF7E), (0xF80, 0xF84),
   (0xF86, 0xF87), (0xF8D, 0xF97), (0xF99, 0xFBC), (0xFC6, 0xFC6), (0x102D, 0x1030),
   (0x1032, 0x1037), (0x1039, 0x103A), (0x103D, 0x103E), (0x1058, 0x1059), (0x105E, 0x1060),
   (0x1071, 0x1074), (0x1082, 0x1082), (0x1085, 0x1086), (0x108D, 0x108D), (0x109D, 0x109D),
   (0x10FC, 0x10FC), (0x135D, 0x135F), (0x1712, 0x1714), (0x1732, 0x1733), (0x1752, 0x1753),
   (0x1772, 0x1773), (0x17B4, 0x17B5), (0x17B7, 0x17BD), (0x17C6, 0x17C6), (0x17C9, 0x17D3),
   (0x17D7, 0x17D7), (0x17DD, 0x17DD), (0x180B, 0x180F), (0x1843, 0x1843), (0x1885, 0x1886),
   (0x18A9, 0x18A9), (0x1920, 0x1922), (0x1927, 0x1928), (0x1932, 0x1932), (0x1939, 0x193B),
   (0x1A17, 0x1A18), (0x1A1B, 0x1A1B), (0x1A56, 0x1A56), (0x1A58, 0x1A5E), (0x1A60, 0x1A60),
   (0x1A62, 0x1A62), (0x1A65, 0x1A6C), (0x1A73, 0x1A7C), (0x1A7F, 0x1A7F), (0x1AA7, 0x1AA7),
   (0x1AB0, 0x1ACE), (0x1B00, 0x1B03), (0x1B34, 0x1B34), (0x1B36, 0x1B3A), (0x1B3C, 0x1B3C),
   (0x1B42, 0x1B42), (0x1B6B, 0x1B73), (0x1B80, 0x1B81), (0x1BA2, 0x1BA5), (0x1BA8, 0x1BA9),
   (0x1BAB, 0x1BAD), (0x1BE6, 0x1BE6), (0x1BE8, 0x1BE9), (0x1BED, 0x1BED), (0x1BEF, 0x1BF1),
   (0x1C2C, 0x1C33), (0x1C36, 0x1C37), (0x1C78, 0x1C7D), (0x1CD0, 0x1CD2), (0x1CD4, 0x1CE0),
   (0x1CE2, 0x1CE8), (0x1CED, 0x1CED), (0x1CF4, 0x1CF4), (0x1CF8, 0x1CF9), (0x1D2C, 0x1D6A),
   (0x1D78, 0x1D78), (0x1D9B, 0x1DFF), (0x1FBD, 0x1FBD), (0x1FBF, 0x1FC1), (0x1FCD, 0x1FCF),
   (0x1FDD, 0x1FDF), (0x1FED, 0x1FEF), (0x1FFD, 0x1FFE), (0x200B, 0x200F), (0x2018, 0x2019),
   (0x2024, 0x2024), (0x2027, 0x2027), (0x202A, 0x202E), (0x2060, 0x2064), (0x2066, 0x206F),
   (0x2071, 0x2071), (0x207F, 0x207F), (0x2090, 0x209C), (0x20D0, 0x20F0), (0x2C7C, 0x2C7D),
   (0x2CEF, 0x2CF1), (0x2D6F, 0x2D6F), (0x2D7F, 0x2D7F), (0x2DE0, 0x2DFF), (0x2E2F, 0x2E2F),
   (0x3005, 0x3005), (0x302A, 0x302D), (0x3031, 0x3035), (0x303B, 0x303B), (0x3099, 0x309E),
   (0x30FC, 0x30FE), (0xA015, 0xA015), (0xA4F8, 0xA4FD), (0xA60C, 0xA60C), (0xA66F, 0xA672),
   (0xA674, 0xA67D), (0xA67F, 0xA67F), (0xA69C, 0xA69F), (0xA6F0, 0xA6F1), (0xA700, 0xA721),
   (0xA770, 0xA770), (0xA788, 0xA78A), (0xA7F2, 0xA7F4), (0xA7F8, 0xA7F9), (0xA802, 0xA802),
   (0xA806, 0xA806), (0xA80B, 0xA80B), (0xA825, 0xA826), (0xA82C, 0xA82C), (0xA8C4, 0xA8C5),
   (0xA8E0, 0xA8F1), (0xA8FF, 0xA8FF), (0xA926, 0xA92D), (0xA947, 0xA951), (0xA980, 0xA982),
   (0xA9B3, 0xA9B3), (0xA9B6, 0xA9B9), (0xA9BC, 0xA9BD), (0xA9CF, 0xA9CF), (0xA9E5, 0xA9E6),
   (0xAA29, 0xAA2E), (0xAA31, 0xAA32), (0xAA35, 0xAA36), (0xAA43, 0xAA43), (0xAA4C, 0xAA4C),
   (0xAA70, 0xAA70), (0xAA7C, 0xAA7C), (0xAAB0, 0xAAB0), (0xAAB2, 0xAAB4), (0xAAB7, 0xAAB8),
   (0xAABE, 0xAABF), (0xAAC1, 0xAAC1), (0xAADD, 0xAADD), (0xAAEC, 0xAAED), (0xAAF3, 0xAAF4),
   (0xAAF6, 0xAAF6), (0xAB5B, 0xAB5F), (0xAB69, 0xAB6B), (0xABE5, 0xABE5), (0xABE8, 0xABE8),
   (0xABED, 0xABED), (0xFB1E, 0xFB1E), (0xFBB2, 0xFBC2), (0xFE00, 0xFE0F), (0xFE13, 0xFE13),
   (0xFE20, 0xFE2F), (0xFE52, 0xFE52), (0xFE55, 0xFE55), (0xFEFF, 0xFEFF), (0xFF07, 0xFF07),
   (0xFF0E, 0xFF0E), (0xFF1A, 0xFF1A), (0xFF3E, 0xFF3E), (0xFF40, 0xFF40), (0xFF70, 0xFF70),
   (0xFF9E, 0xFF9F), (0xFFE3, 0xFFE3), (0xFFF9, 0xFFFB), (0x101FD, 0x101FD), (0x102E0, 0x102E0),
   (0x10376, 0x1037A), (0x10780, 0x10785), (0x10787, 0x107B0), (0x107B2, 0x107BA),
   (0x10A01, 0x10A03), (0x10A05, 0x10A06), (0x10A0C, 0x10A0F), (0x10A38, 0x10A3A),
   (0x10A3F, 0x10A3F), (0x10AE5, 0x10AE6), (0x10D24, 0x10D27), (0x10EAB, 0x10EAC),
   (0x10EFD, 0x10EFF), (0x10F46, 0x10F50), (0x10F82, 0x10F85), (0x11001, 0x11001),
   (0x11038, 0x11046), (0x11070, 0x11070), (0x11073, 0x11074), (0x1107F, 0x11081),
   (0x110B3, 0x110B6), (0x110B9, 0x110BA), (0x110BD, 0x110BD), (0x110C2, 0x110C2),
   (0x110CD, 0x110CD), (0x11100, 0x11102), (0x11127, 0x1112B), (0x1112D, 0x11134),
   (0x11173, 0x11173), (0x11180, 0x11181), (0x111B6, 0x111BE), (0x111C9, 0x111CC),
   (0x111CF, 0x111CF), (0x1122F, 0x11231), (0x11234, 0x11234), (0x11236, 0x11237),
   (0x1123E, 0x1123E), (0x11241, 0x11241), (0x112DF, 0x112DF), (0x112E3, 0x112EA),
   (0x11300, 0x11301), (0x1133B, 0x1133C), (0x11340, 0x11340), (0x11366, 0x1136C),
   (0x11370, 0x11374), (0x11438, 0x1143F), (0x11442, 0x11444), (0x11446, 0x11446),
   (0x1145E, 0x1145E), (0x114B3, 0x114B8), (0x114BA, 0x114BA), (0x114BF, 0x114C0),
   (0x114C2, 0x114C3), (0x115B2, 0x115B5), (0x115BC, 0x115BD), (0x115BF, 0x115C0),
   (0x115DC, 0x115DD), (0x11633, 0x1163A), (0x1163D, 0x1163D), (0x1163F, 0x11640),
   (0x116AB, 0x116AB), (0x116AD, 0x116AD), (0x116B0, 0x116B5), (0x116B7, 0x116B7),
   (0x1171D, 0x1171F), (0x11722, 0x11725), (0x11727, 0x1172B), (0x1182F, 0x11837),
   (0x11839, 0x1183A), (0x1193B, 0x1193C), (0x1193E, 0x1193E), (0x11943, 0x11943),
   (0x119D4, 0x119D7), (0x119DA, 0x119DB), (0x119E0, 0x119E0), (0x11A01, 0x11A0A),
   (0x11A33, 0x11A38), (0x11A3B, 0x11A3E), (0x11A47, 0x11A47), (0x11A51, 0x11A56),
   (0x11A59, 0x11A5B), (0x11A8A, 0x11A96), (0x11A98, 0x11A99), (0x11C30, 0x11C36),
   (0x11C38, 0x11C3D), (0x11C3F, 0x11C3F), (0x11C92, 0x11CA7), (0x11CAA, 0x11CB0),
   (0x11CB2, 0x11CB3), (0x11CB5, 0x11CB6), (0x11D31, 0x11D36), (0x11D3A, 0x11D3A),
   (0x11D3C, 0x11D3D), (0x11D3F, 0x11D45), (0x11D47, 0x11D47), (0x11D90, 0x11D91),
   (0x11D95, 0x11D95), (0x11D97, 0x11D97), (0x11EF3, 0x11EF4), (0x11F00, 0x11F01),
   (0x11F36, 0x11F3A), (0x11F40, 0x11F40), (0x11F42, 0x11F42), (0x13430, 0x13440),
   (0x13447, 0x13455), (0x16AF0, 0x16AF4), (0x16B30, 0x16B36), (0x16B40, 0x16B43),
   (0x16F4F, 0x16F4F), (0x16F8F, 0x16F9F), (0x16FE0, 0x16FE1), (0x16FE3, 0x16FE4),
   (0x1AFF0, 0x1AFF3), (0x1AFF5, 0x1AFFB), (0x1AFFD, 0x1AFFE), (0x1BC9D, 0x1BC9E),
   (0x1BCA0, 0x1BCA3), (0x1CF00, 0x1CF2D), (0x1CF30, 0x1CF46), (0x1D167, 0x1D169),
   (0x1D173, 0x1D182), (0x1D185, 0x1D18B), (0x1D1AA, 0x1D1AD), (0x1D242, 0x1D244),
   (0x1DA00, 0x1DA36), (0x1DA3B, 0x1DA6C), (0x1DA75, 0x1DA75), (0x1DA84, 0x1DA84),
   (0x1DA9B, 0x1DA9F), (0x1DAA1, 0x1DAAF), (0x1E000, 0x1E006), (0x1E008, 0x1E018),
   (0x1E01B, 0x1E021), (0x1E023, 0x1E024), (0x1E026, 0x1E02A), (0x1E030, 0x1E06D),
   (0x1E08F, 0x1E08F), (0x1E130, 0x1E13D), (0x1E2AE, 0x1E2AE), (0x1E2EC, 0x1E2EF),
   (0x1E4EB, 0x1E4EF), (0x1E8D0, 0x1E8D6), (0x1E944, 0x1E94B), (0x1F3FB, 0x1F3FF),
   (0xE0001, 0xE0001), (0xE0020, 0xE007F), (0xE0100, 0xE01EF)]

/-- The characters that `str.isprintable` refuses. -/
def nonPrintableRanges : List (ℕ × ℕ) :=
  [(0x0, 0x1F), (0x7F, 0xA0), (0xAD, 0xAD), (0x378, 0x379), (0x380, 0x383), (0x38B, 0x38B),
   (0x38D, 0x38D), (0x3A2, 0x3A2), (0x530, 0x530), (0x557, 0x558), (0x58B, 0x58C), (0x590, 0x590),
   (0x5C8, 0x5CF), (0x5EB, 0x5EE), (0x5F5, 0x605), (0x61C, 0x61C), (0x6DD, 0x6DD), (0x70E, 0x70F),
   (0x74B, 0x74C), (0x7B2, 0x7BF), (0x7FB, 0x7FC), (0x82E, 0x82F), (0x83F, 0x83F), (0x85C, 0x85D),
   (0x85F, 0x85F), (0x86B, 0x86F), (0x88F, 0x897), (0x8E2, 0x8E2), (0x984, 0x984), (0x98D, 0x98E),
   (0x991, 0x992), (0x9A9, 0x9A9), (0x9B1, 0x9B1), (0x9B3, 0x9B5), (0x9BA, 0x9BB), (0x9C5, 0x9C6),
   (0x9C9, 0x9CA), (0x9CF, 0x9D6), (0x9D8, 0x9DB), (0x9DE, 0x9DE), (0x9E4, 0x9E5), (0x9FF, 0xA00),
   (0xA04, 0xA04), (0xA0B, 0xA0E), (0xA11, 0xA12), (0xA29, 0xA29), (0xA31, 0xA31), (0xA34, 0xA34),
   (0xA37, 0xA37), (0xA3A, 0xA3B), (0xA3D, 0xA3D), (0xA43, 0xA46), (0xA49, 0xA4A), (0xA4E, 0xA50),
   (0xA52, 0xA58), (0xA5D, 0xA5D), (0xA5F, 0xA65), (0xA77, 0xA80), (0xA84, 0xA84), (0xA8E, 0xA8E),
   (0xA92, 0xA92), (0xAA9, 0xAA9), (0xAB1, 0xAB1), (0xAB4, 0xAB4), (0xABA, 0xABB), (0xAC6, 0xAC6),
   (0xACA, 0xACA), (0xACE, 0xACF), (0xAD1, 0xADF), (0xAE4, 0xAE5), (0xAF2, 0xAF8), (0xB00, 0xB00),
   (0xB04, 0xB04), (0xB0D, 0xB0E), (0xB11, 0xB12), (0xB29, 0xB29), (0xB31, 0xB31), (0xB34, 0xB34),
   (0xB3A, 0xB3B), (0xB45, 0xB46), (0xB49, 0xB4A), (0xB4E, 0xB54), (0xB58, 0xB5B), (0xB5E, 0xB5E),
   (0xB64, 0xB65), (0xB78, 0xB81), (0xB84, 0xB84), (0xB8B, 0xB8D), (0xB91, 0xB91), (0xB96, 0xB98),
   (0xB9B, 0xB9B), (0xB9D, 0xB9D), (0xBA0, 0xBA2), (0xBA5, 0xBA7), (0xBAB, 0xBAD), (0xBBA, 0xBBD),
   (0xBC3, 0xBC5), (0xBC9, 0xBC9), (0xBCE, 0xBCF), (0xBD1, 0xBD6), (0xBD8, 0xBE5), (0xBFB, 0xBFF),
   (0xC0D, 0xC0D), (0xC11, 0xC11), (0xC29, 0xC29), (0xC3A, 0xC3B), (0xC45, 0xC45), (0xC49, 0xC49),
   (0xC4E, 0xC54), (0xC57, 0xC57), (0xC5B, 0xC5C), (0xC5E, 0xC5F), (0xC64, 0xC65), (0xC70, 0xC76),
   (0xC8D, 0xC8D), (0xC91, 0xC91), (0xCA9, 0xCA9), (0xCB4, 0xCB4), (0xCBA, 0xCBB), (0xCC5, 0xCC5),
   (0xCC9, 0xCC9), (0xCCE, 0xCD4), (0xCD7, 0xCDC), (0xCDF, 0xCDF), (0xCE4, 0xCE5), (0xCF0, 0xCF0),
   (0xCF4, 0xCFF), (0xD0D, 0xD0D), (0xD11, 0xD11), (0xD45, 0xD45), (0xD49, 0xD49), (0xD50, 0xD53),
   (0xD64, 0xD65), (0xD80, 0xD80), (0xD84, 0xD84), (0xD97, 0xD99), (0xDB2, 0xDB2), (0xDBC, 0xDBC),
   (0xDBE, 0xDBF), (0xDC7, 0xDC9), (0xDCB, 0xDCE), (0xDD5, 0xDD5), (0xDD7, 0xDD7), (0xDE0, 0xDE5),
   (0xDF0, 0xDF1), (0xDF5, 0xE00), (0xE3B, 0xE3E), (0xE5C, 0xE80), (0xE83, 0xE83), (0xE85, 0xE85),
   (0xE8B, 0xE8B), (0xEA4, 0xEA4), (0xEA6, 0xEA6), (0xEBE, 0xEBF), (0xEC5, 0xEC5), (0xEC7, 0xEC7),
   (0xECF, 0xECF), (0xEDA, 0xEDB), (0xEE0, 0xEFF), (0xF48, 0xF48), (0xF6D, 0xF70), (0xF98, 0xF98),
   (0xFBD, 0xFBD), (0xFCD, 0xFCD), (0xFDB, 0xFFF), (0x10C6, 0x10C6), (0x10C8, 0x10CC),
   (0x10CE, 0x10CF), (0x1249, 0x1249), (0x124E, 0x124F), (0x1257, 0x1257), (0x1259, 0x1259),
   (0x125E, 0x125F), (0x1289, 0x1289), (0x128E, 0x128F), (0x12B1, 0x12B1), (0x12B6, 0x12B7),
   (0x12BF, 0x12BF), (0x12C1, 0x12C1), (0x12C6, 0x12C7), (0x12D7, 0x12D7), (0x1311, 0x1311),
   (0x1316, 0x1317), (0x135B, 0x135C), (0x137D, 0x137F), (0x139A, 0x139F), (0x13F6, 0x13F7),
   (0x13FE, 0x13FF), (0x1680, 0x1680), (0x169D, 0x169F), (0x16F9, 0x16FF), (0x1716, 0x171E),
   (0x1737, 0x173F), (0x1754, 0x175F), (0x176D, 0x176D), (0x1771, 0x1771), (0x1774, 0x177F),
   (0x17DE, 0x17DF), (0x17EA, 0x17EF), (0x17FA, 0x17FF), (0x180E, 0x180E), (0x181A, 0x181F),
   (0x1879, 0x187F), (0x18AB, 0x18AF), (0x18F6, 0x18FF), (0x191F, 0x191F), (0x192C, 0x192F),
   (0x193C, 0x193F), (0x1941, 0x1943), (0x196E, 0x196F), (0x1975, 0x197F), (0x19AC, 0x19AF),
   (0x19CA, 0x19CF), (0x19DB, 0x19DD), (0x1A1C, 0x1A1D), (0x1A5F, 0x1A5F), (0x1A7D, 0x1A7E),
   (0x1A8A, 0x1A8F), (0x1A9A, 0x1A9F), (0x1AAE, 0x1AAF), (0x1ACF, 0x1AFF), (0x1B4D, 0x1B4F),
   (0x1B7F, 0x1B7F), (0x1BF4, 0x1BFB), (0x1C38, 0x1C3A), (0x1C4A, 0x1C4C), (0x1C89, 0x1C8F),
   (0x1CBB, 0x1CBC), (0x1CC8, 0x1CCF), (0x1CFB, 0x1CFF), (0x1F16, 0x1F17), (0x1F1E, 0x1F1F),
   (0x1F46, 0x1F47), (0x1F4E, 0x1F4F), (0x1F58, 0x1F58), (0x1F5A, 0x1F5A), (0x1F5C, 0x1F5C),
   (0x1F5E, 0x1F5E), (0x1F7E, 0x1F7F), (0x1FB5, 0x1FB5), (0x1FC5, 0x1FC5), (0x1FD4, 0x1FD5),
   (0x1FDC, 0x1FDC), (0x1FF0, 0x1FF1), (0x1FF5, 0x1FF5), (0x1FFF, 0x200F), (0x2028, 0x202F),
   (0x205F, 0x206F), (0x2072, 0x2073), (0x208F, 0x208F), (0x209D, 0x209F), (0x20C1, 0x20CF),
   (0x20F1, 0x20FF), (0x218C, 0x218F), (0x2427, 0x243F), (0x244B, 0x245F), (0x2B74, 0x2B75),
   (0x2B96, 0x2B96), (0x2CF4, 0x2CF8), (0x2D26, 0x2D26), (0x2D28, 0x2D2C), (0x2D2E, 0x2D2F),
   (0x2D68, 0x2D6E), (0x2D71, 0x2D7E), (0x2D97, 0x2D9F), (0x2DA7, 0x2DA7), (0x2DAF, 0x2DAF),
   (0x2DB7, 0x2DB7), (0x2DBF, 0x2DBF), (0x2DC7, 0x2DC7), (0x2DCF, 0x2DCF), (0x2DD7, 0x2DD7),
   (0x2DDF, 0x2DDF), (0x2E5E, 0x2E7F), (0x2E9A, 0x2E9A), (0x2EF4, 0x2EFF), (0x2FD6, 0x2FEF),
   (0x2FFC, 0x3000), (0x3040, 0x3040), (0x3097, 0x3098), (0x3100, 0x3104), (0x3130, 0x3130),
   (0x318F, 0x318F), (0x31E4, 0x31EF), (0x321F, 0x321F), (0xA48D, 0xA48F), (0xA4C7, 0xA4CF),
   (0xA62C, 0xA63F), (0xA6F8, 0xA6FF), (0xA7CB, 0xA7CF), (0xA7D2, 0xA7D2), (0xA7D4, 0xA7D4),
   (0xA7DA, 0xA7F1), (0xA82D, 0xA82F), (0xA83A, 0xA83F), (0xA878, 0xA87F), (0xA8C6, 0xA8CD),
   (0xA8DA, 0xA8DF), (0xA954, 0xA95E), (0xA97D, 0xA97F), (0xA9CE, 0xA9CE), (0xA9DA, 0xA9DD),
   (0xA9FF, 0xA9FF), (0xAA37, 0xAA3F), (0xAA4E, 0xAA4F), (0xAA5A, 0xAA5B), (0xAAC3, 0xAADA),
   (0xAAF7, 0xAB00), (0xAB07, 0xAB08), (0xAB0F, 0xAB10), (0xAB17, 0xAB1F), (0xAB27, 0xAB27),
   (0xAB2F, 0xAB2F), (0xAB6C, 0xAB6F), (0xABEE, 0xABEF), (0xABFA, 0xABFF), (0xD7A4, 0xD7AF),
   (0xD7C7, 0xD7CA), (0xD7FC, 0xF8FF), (0xFA6E, 0xFA6F), (0xFADA, 0xFAFF), (0xFB07, 0xFB12),
   (0xFB18, 0xFB1C), (0xFB37, 0xFB37), (0xFB3D, 0xFB3D), (0xFB3F, 0xFB3F), (0xFB42, 0xFB42),
   (0xFB45, 0xFB45), (0xFBC3, 0xFBD2), (0xFD90, 0xFD91), (0xFDC8, 0xFDCE), (0xFDD0, 0xFDEF),
   (0xFE1A, 0xFE1F), (0xFE53, 0xFE53), (0xFE67, 0xFE67), (0xFE6C, 0xFE6F), (0xFE75, 0xFE75),
   (0xFEFD, 0xFF00), (0xFFBF, 0xFFC1), (0xFFC8, 0xFFC9), (0xFFD0, 0xFFD1), (0xFFD8, 0xFFD9),
   (0xFFDD, 0xFFDF), (0xFFE7, 0xFFE7), (0xFFEF, 0xFFFB), (0xFFFE, 0xFFFF), (0x1000C, 0x1000C),
   (0x10027, 0x10027), (0x1003B, 0x1003B), (0x1003E, 0x1003E), (0x1004E, 0x1004F),
   (0x1005E, 0x1007F), (0x100FB, 0x100FF), (0x10103, 0x10106), (0x10134, 0x10136),
   (0x1018F, 0x1018F), (0x1019D, 0x1019F), (0x101A1, 0x101CF), (0x101FE, 0x1027F),
   (0x1029D, 0x1029F), (0x102D1, 0x102DF), (0x102FC, 0x102FF), (0x10324, 0x1032C),
   (0x1034B, 0x1034F), (0x1037B, 0x1037F), (0x1039E, 0x1039E), (0x103C4, 0x103C7),
   (0x103D6, 0x103FF), (0x1049E, 0x1049F), (0x104AA, 0x104AF), (0x104D4, 0x104D7),
   (0x104FC, 0x104FF), (0x10528, 0x1052F), (0x10564, 0x1056E), (0x1057B, 0x1057B),
   (0x1058B, 0x1058B), (0x10593, 0x10593), (0x10596, 0x10596), (0x105A2, 0x105A2),
   (0x105B2, 0x105B2), (0x105BA, 0x105BA), (0x105BD, 0x105FF), (0x10737, 0x1073F),
   (0x10756, 0x1075F), (0x10768, 0x1077F), (0x10786, 0x10786), (0x107B1, 0x107B1),
   (0x107BB, 0x107FF), (0x10806, 0x10807), (0x10809, 0x10809), (0x10836, 0x10836),
   (0x10839, 0x1083B), (0x1083D, 0x1083E), (0x10856, 0x10856), (0x1089F, 0x108A6),
   (0x108B0, 0x108DF), (0x108F3, 0x108F3), (0x108F6, 0x108FA), (0x1091C, 0x1091E),
   (0x1093A, 0x1093E), (0x10940, 0x1097F), (0x109B8, 0x109BB), (0x109D0, 0x109D1),
   (0x10A04, 0x10A04), (0x10A07, 0x10A0B), (0x10A14, 0x10A14), (0x10A18, 0x10A18),
   (0x10A36, 0x10A37), (0x10A3B, 0x10A3E), (0x10A49, 0x10A4F), (0x10A59, 0x10A5F),
   (0x10AA0, 0x10ABF), (0x10AE7, 0x10AEA), (0x10AF7, 0x10AFF), (0x10B36, 0x10B38),
   (0x10B56, 0x10B57), (0x10B73, 0x10B77), (0x10B92, 0x10B98), (0x10B9D, 0x10BA8),
   (0x10BB0, 0x10BFF), (0x10C49, 0x10C7F), (0x10CB3, 0x10CBF), (0x10CF3, 0x10CF9),
   (0x10D28, 0x10D2F), (0x10D3A, 0x10E5F), (0x10E7F, 0x10E7F), (0x10EAA, 0x10EAA),
   (0x10EAE, 0x10EAF), (0x10EB2, 0x10EFC), (0x10F28, 0x10F2F), (0x10F5A, 0x10F6F),
   (0x10F8A, 0x10FAF), (0x10FCC, 0x10FDF), (0x10FF7, 0x10FFF), (0x1104E, 0x11051),
   (0x11076, 0x1107E), (0x110BD, 0x110BD), (0x110C3, 0x110CF), (0x110E9, 0x110EF),
   (0x110FA, 0x110FF), (0x11135, 0x11135), (0x11148, 0x1114F), (0x11177, 0x1117F),
   (0x111E0, 0x111E0), (0x111F5, 0x111FF), (0x11212, 0x11212), (0x11242, 0x1127F),
   (0x11287, 0x11287), (0x11289, 0x11289), (0x1128E, 0x1128E), (0x1129E, 0x1129E),
   (0x112AA, 0x112AF), (0x112EB, 0x112EF), (0x112FA, 0x112FF), (0x11304, 0x11304),
   (0x1130D, 0x1130E), (0x11311, 0x11312), (0x11329, 0x11329), (0x11331, 0x11331),
   (0x11334, 0x11334), (0x1133A, 0x1133A), (0x11345, 0x11346), (0x11349, 0x1134A),
   (0x1134E, 0x1134F), (0x11351, 0x11356), (0x11358, 0x1135C), (0x11364, 0x11365),
   (0x1136D, 0x1136F), (0x11375, 0x113FF), (0x1145C, 0x1145C), (0x11462, 0x1147F),
   (0x114C8, 0x114CF), (0x114DA, 0x1157F), (0x115B6, 0x115B7), (0x115DE, 0x115FF),
   (0x11645, 0x1164F), (0x1165A, 0x1165F), (0x1166D, 0x1167F), (0x116BA, 0x116BF),
   (0x116CA, 0x116FF), (0x1171B, 0x1171C), (0x1172C, 0x1172F), (0x11747, 0x117FF),
   (0x1183C, 0x1189F), (0x118F3, 0x118FE), (0x11907, 0x11908), (0x1190A, 0x1190B),
   (0x11914, 0x11914), (0x11917, 0x11917), (0x11936, 0x11936), (0x11939, 0x1193A),
   (0x11947, 0x1194F), (0x1195A, 0x1199F), (0x119A8, 0x119A9), (0x119D8, 0x119D9),
   (0x119E5, 0x119FF), (0x11A48, 0x11A4F), (0x11AA3, 0x11AAF), (0x11AF9, 0x11AFF),
   (0x11B0A, 0x11BFF), (0x11C09, 0x11C09), (0x11C37, 0x11C37), (0x11C46, 0x11C4F),
   (0x11C6D, 0x11C6F), (0x11C90, 0x11C91), (0x11CA8, 0x11CA8), (0x11CB7, 0x11CFF),
   (0x11D07, 0x11D07), (0x11D0A, 0x11D0A), (0x11D37, 0x11D39), (0x11D3B, 0x11D3B),
   (0x11D3E, 0x11D3E), (0x11D48, 0x11D4F), (0x11D5A, 0x11D5F), (0x11D66, 0x11D66),
   (0x11D69, 0x11D69), (0x11D8F, 0x11D8F), (0x11D92, 0x11D92), (0x11D99, 0x11D9F),
   (0x11DAA, 0x11EDF), (0x11EF9, 0x11EFF), (0x11F11, 0x11F11), (0x11F3B, 0x11F3D),
   (0x11F5A, 0x11FAF), (0x11FB1, 0x11FBF), (0x11FF2, 0x11FFE), (0x1239A, 0x123FF),
   (0x1246F, 0x1246F), (0x12475, 0x1247F), (0x12544, 0x12F8F), (0x12FF3, 0x12FFF),
   (0x13430, 0x1343F), (0x13456, 0x143FF), (0x14647, 0x167FF), (0x16A39, 0x16A3F),
   (0x16A5F, 0x16A5F), (0x16A6A, 0x16A6D), (0x16ABF, 0x16ABF), (0x16ACA, 0x16ACF),
   (0x16AEE, 0x16AEF), (0x16AF6, 0x16AFF), (0x16B46, 0x16B4F), (0x16B5A, 0x16B5A),
   (0x16B62, 0x16B62), (0x16B78, 0x16B7C), (0x16B90, 0x16E3F), (0x16E9B, 0x16EFF),
   (0x16F4B, 0x16F4E), (0x16F88, 0x16F8E), (0x16FA0, 0x16FDF), (0x16FE5, 0x16FEF),
   (0x16FF2, 0x16FFF), (0x187F8, 0x187FF), (0x18CD6, 0x18CFF), (0x18D09, 0x1AFEF),
   (0x1AFF4, 0x1AFF4), (0x1AFFC, 0x1AFFC), (0x1AFFF, 0x1AFFF), (0x1B123, 0x1B131),
   (0x1B133, 0x1B14F), (0x1B153, 0x1B154), (0x1B156, 0x1B163), (0x1B168, 0x1B16F),
   (0x1B2FC, 0x1BBFF), (0x1BC6B, 0x1BC6F), (0x1BC7D, 0x1BC7F), (0x1BC89, 0x1BC8F),
   (0x1BC9A, 0x1BC9B), (0x1BCA0, 0x1CEFF), (0x1CF2E, 0x1CF2F), (0x1CF47, 0x1CF4F),
   (0x1CFC4, 0x1CFFF), (0x1D0F6, 0x1D0FF), (0x1D127, 0x1D128), (0x1D173, 0x1D17A),
   (0x1D1EB, 0x1D1FF), (0x1D246, 0x1D2BF), (0x1D2D4, 0x1D2DF), (0x1D2F4, 0x1D2FF),
   (0x1D357, 0x1D35F), (0x1D379, 0x1D3FF), (0x1D455, 0x1D455), (0x1D49D, 0x1D49D),
   (0x1D4A0, 0x1D4A1), (0x1D4A3, 0x1D4A4), (0x1D4A7, 0x1D4A8), (0x1D4AD, 0x1D4AD),
   (0x1D4BA, 0x1D4BA), (0x1D4BC, 0x1D4BC), (0x1D4C4, 0x1D4C4), (0x1D506, 0x1D506),
   (0x1D50B, 0x1D50C), (0x1D515, 0x1D515), (0x1D51D, 0x1D51D), (0x1D53A, 0x1D53A),
   (0x1D53F, 0x1D53F), (0x1D545, 0x1D545), (0x1D547, 0x1D549), (0x1D551, 0x1D551),
   (0x1D6A6, 0x1D6A7), (0x1D7CC, 0x1D7CD), (0x1DA8C, 0x1DA9A), (0x1DAA0, 0x1DAA0),
   (0x1DAB0, 0x1DEFF), (0x1DF1F, 0x1DF24), (0x1DF2B, 0x1DFFF), (0x1E007, 0x1E007),
   (0x1E019, 0x1E01A), (0x1E022, 0x1E022), (0x1E025, 0x1E025), (0x1E02B, 0x1E02F),
   (0x1E06E, 0x1E08E), (0x1E090, 0x1E0FF), (0x1E12D, 0x1E12F), (0x1E13E, 0x1E13F),
   (0x1E14A, 0x1E14D), (0x1E150, 0x1E28F), (0x1E2AF, 0x1E2BF), (0x1E2FA, 0x1E2FE),
   (0x1E300, 0x1E4CF), (0x1E4FA, 0x1E7DF), (0x1E7E7, 0x1E7E7), (0x1E7EC, 0x1E7EC),
   (0x1E7EF, 0x1E7EF), (0x1E7FF, 0x1E7FF), (0x1E8C5, 0x1E8C6), (0x1E8D7, 0x1E8FF),
   (0x1E94C, 0x1E94F), (0x1E95A, 0x1E95D), (0x1E960, 0x1EC70), (0x1ECB5, 0x1ED00),
   (0x1ED3E, 0x1EDFF), (0x1EE04, 0x1EE04), (0x1EE20, 0x1EE20), (0x1EE23, 0x1EE23),
   (0x1EE25, 0x1EE26), (0x1EE28, 0x1EE28), (0x1EE33, 0x1EE33), (0x1EE38, 0x1EE38),
   (0x1EE3A, 0x1EE3A), (0x1EE3C, 0x1EE41), (0x1EE43, 0x1EE46), (0x1EE48, 0x1EE48),
   (0x1EE4A, 0x1EE4A), (0x1EE4C, 0x1EE4C), (0x1EE50, 0x1EE50), (0x1EE53, 0x1EE53),
   (0x1EE55, 0x1EE56), (0x1EE58, 0x1EE58), (0x1EE5A, 0x1EE5A), (0x1EE5C, 0x1EE5C),
   (0x1EE5E, 0x1EE5E), (0x1EE60, 0x1EE60), (0x1EE63, 0x1EE63), (0x1EE65, 0x1EE66),
   (0x1EE6B, 0x1EE6B), (0x1EE73, 0x1EE73), (0x1EE78, 0x1EE78), (0x1EE7D, 0x1EE7D),
   (0x1EE7F, 0x1EE7F), (0x1EE8A, 0x1EE8A), (0x1EE9C, 0x1EEA0), (0x1EEA4, 0x1EEA4),
   (0x1EEAA, 0x1EEAA), (0x1EEBC, 0x1EEEF), (0x1EEF2, 0x1EFFF), (0x1F02C, 0x1F02F),
   (0x1F094, 0x1F09F), (0x1F0AF, 0x1F0B0), (0x1F0C0, 0x1F0C0), (0x1F0D0, 0x1F0D0),
   (0x1F0F6, 0x1F0FF), (0x1F1AE, 0x1F1E5), (0x1F203, 0x1F20F), (0x1F23C, 0x1F23F),
   (0x1F249, 0x1F24F), (0x1F252, 0x1F25F), (0x1F266, 0x1F2FF), (0x1F6D8, 0x1F6DB),
   (0x1F6ED, 0x1F6EF), (0x1F6FD, 0x1F6FF), (0x1F777, 0x1F77A), (0x1F7DA, 0x1F7DF),
   (0x1F7EC, 0x1F7EF), (0x1F7F1, 0x1F7FF), (0x1F80C, 0x1F80F), (0x1F848, 0x1F84F),
   (0x1F85A, 0x1F85F), (0x1F888, 0x1F88F), (0x1F8AE, 0x1F8AF), (0x1F8B2, 0x1F8FF),
   (0x1FA54, 0x1FA5F), (0x1FA6E, 0x1FA6F), (0x1FA7D, 0x1FA7F), (0x1FA89, 0x1FA8F),
   (0x1FABE, 0x1FABE), (0x1FAC6, 0x1FACD), (0x1FADC, 0x1FADF), (0x1FAE9, 0x1FAEF),
   (0x1FAF9, 0x1FAFF), (0x1FB93, 0x1FB93), (0x1FBCB, 0x1FBEF), (0x1FBFA, 0x1FFFF),
   (0x2A6E0, 0x2A6FF), (0x2B73A, 0x2B73F), (0x2B81E, 0x2B81F), (0x2CEA2, 0x2CEAF),
   (0x2EBE1, 0x2F7FF), (0x2FA1E, 0x2FFFF), (0x3134B, 0x3134F), (0x323B0, 0xE00FF),
   (0xE01F0, 0x10FFFF)]

def inRanges (ranges : List (ℕ × ℕ)) (n : ℕ) : Bool :=
  ranges.any fun range => range.1 ≤ n && n ≤ range.2

/-! ## Lower-case letters -/

namespace CaseRun

/-- The letters of a run. -/
def codes (run : CaseRun) : List ℕ :=
  List.range' run.first ((run.last - run.first) / run.stride + 1) run.stride

theorem covers_iff {run : CaseRun} {n : ℕ} :
    run.covers n = true ↔
      run.first ≤ n ∧ n ≤ run.last ∧ (n - run.first) % run.stride = 0 := by
  simp only [covers, Bool.and_eq_true, Nat.ble_eq, Nat.beq_eq, and_assoc]

theorem mem_codes {run : CaseRun} {n : ℕ} (h : run.covers n = true) : n ∈ run.codes := by
  obtain ⟨hfirst, hlast, hstride⟩ := covers_iff.mp h
  rw [codes, List.mem_range']
  refine ⟨(n - run.first) / run.stride,
    Nat.lt_succ_of_le (Nat.div_le_div_right (Nat.sub_le_sub_right hlast _)), ?_⟩
  rw [Nat.mul_div_cancel' (Nat.dvd_of_mod_eq_zero hstride), Nat.add_sub_cancel' hfirst]

end CaseRun

/-- A set of codes, as the bits of a number. -/
def mask (l : List ℕ) : ℕ :=
  l.foldr (fun n bits => Nat.lor (Nat.shiftLeft 1 n) bits) 0

theorem testBit_mask {l : List ℕ} {n : ℕ} (h : n ∈ l) : (mask l).testBit n = true := by
  induction l with
  | nil => exact absurd h List.not_mem_nil
  | cons m l ih =>
    change (1 <<< m ||| mask l).testBit n = true
    rw [Nat.testBit_or, Bool.or_eq_true]
    rcases List.mem_cons.mp h with rfl | h
    · exact Or.inl (by simp)
    · exact Or.inr (ih h)

/-- The letters and what they become have no bit in common. -/
theorem lowerRuns_apart :
    mask (lowerRuns.flatMap CaseRun.codes) &&&
      mask (lowerRuns.flatMap fun run => run.codes.map run.lower) = 0 := by
  decide +kernel

/-- The code of the lower-case letter of a letter, if that is one other letter. -/
def lowerCode? (n : ℕ) : Option ℕ :=
  (lowerRuns.find? fun run => run.covers n).map fun run => run.lower n

theorem lowerCode?_eq_none_iff {n : ℕ} :
    lowerCode? n = none ↔ ∀ run ∈ lowerRuns, ¬ run.covers n = true := by
  rw [lowerCode?, Option.map_eq_none_iff, List.find?_eq_none]

theorem exists_run {n m : ℕ} (h : lowerCode? n = some m) :
    ∃ run ∈ lowerRuns, run.covers n = true ∧ run.lower n = m := by
  obtain ⟨run, hrun, hlower⟩ := Option.map_eq_some_iff.mp h
  have hcovers := List.find?_some hrun
  exact ⟨run, List.mem_of_find?_eq_some hrun, hcovers, hlower⟩

/-- **A lower-case letter has no other lower case.** -/
theorem lowerCode?_of_lowerCode? {n m : ℕ} (h : lowerCode? n = some m) : lowerCode? m = none := by
  obtain ⟨run, hmem, hcovers, rfl⟩ := exists_run h
  rw [lowerCode?_eq_none_iff]
  intro other hother hcovers'
  have hletter : (mask (lowerRuns.flatMap CaseRun.codes)).testBit (run.lower n) = true :=
    testBit_mask (List.mem_flatMap.mpr ⟨other, hother, CaseRun.mem_codes hcovers'⟩)
  have himage : (mask (lowerRuns.flatMap fun run => run.codes.map run.lower)).testBit
      (run.lower n) = true :=
    testBit_mask (List.mem_flatMap.mpr
      ⟨run, hmem, List.mem_map_of_mem (CaseRun.mem_codes hcovers)⟩)
  have hboth := Nat.testBit_and (mask (lowerRuns.flatMap CaseRun.codes))
    (mask (lowerRuns.flatMap fun run => run.codes.map run.lower)) (run.lower n)
  rw [hletter, himage, lowerRuns_apart, Nat.zero_testBit] at hboth
  exact Bool.false_ne_true hboth

end Unicode
