import Runlet.Library.Json

/-!
# Digits

`str.isdecimal` and `str.isdigit` of a character, and `int` of a text.  A superscript or a circled
number is a digit that is not decimal: `isdigit` accepts it and `int` refuses it.  `int` also
refuses more than 4300 digits.
-/

namespace Digits

/-- The zero of each block of ten decimal digits. -/
def decimalBlocks : List ℕ :=
  [0x30, 0x660, 0x6F0, 0x7C0, 0x966, 0x9E6, 0xA66, 0xAE6, 0xB66, 0xBE6, 0xC66, 0xCE6, 0xD66,
    0xDE6, 0xE50, 0xED0, 0xF20, 0x1040, 0x1090, 0x17E0, 0x1810, 0x1946, 0x19D0, 0x1A80, 0x1A90,
    0x1B50, 0x1BB0, 0x1C40, 0x1C50, 0xA620, 0xA8D0, 0xA900, 0xA9D0, 0xA9F0, 0xAA50, 0xABF0,
    0xFF10, 0x104A0, 0x10D30, 0x11066, 0x110F0, 0x11136, 0x111D0, 0x112F0, 0x11450, 0x114D0,
    0x11650, 0x116C0, 0x11730, 0x118E0, 0x11950, 0x11C50, 0x11D50, 0x11DA0, 0x11F50, 0x16A60,
    0x16AC0, 0x16B50, 0x1D7CE, 0x1D7D8, 0x1D7E2, 0x1D7EC, 0x1D7F6, 0x1E140, 0x1E2F0, 0x1E4F0,
    0x1E950, 0x1FBF0]

/-- The blocks of digits that are not decimal. -/
def otherBlocks : List (ℕ × ℕ) :=
  [(0xB2, 0xB3), (0xB9, 0xB9), (0x1369, 0x1371), (0x19DA, 0x19DA), (0x2070, 0x2070),
    (0x2074, 0x2079), (0x2080, 0x2089), (0x2460, 0x2468), (0x2474, 0x247C), (0x2488, 0x2490),
    (0x24EA, 0x24EA), (0x24F5, 0x24FD), (0x24FF, 0x24FF), (0x2776, 0x277E), (0x2780, 0x2788),
    (0x278A, 0x2792), (0x10A40, 0x10A43), (0x10E60, 0x10E68), (0x11052, 0x1105A),
    (0x1F100, 0x1F10A)]

def isDecimal (c : Char) : Bool :=
  decimalBlocks.any fun first => first ≤ c.toNat && c.toNat < first + 10

def isDigit (c : Char) : Bool :=
  isDecimal c || otherBlocks.any fun block => block.1 ≤ c.toNat && c.toNat ≤ block.2

/-- `str.isdigit` of a text. -/
def isDigits (s : String) : Bool :=
  !s.toList.isEmpty && s.toList.all isDigit

def decimalValue (c : Char) : ℕ :=
  ((decimalBlocks.find? fun first => first ≤ c.toNat && c.toNat < first + 10).map
    fun first => c.toNat - first).getD 0

/-- What `int` raises for a text that is not a number. -/
def invalidLiteral (s : String) : String :=
  "invalid literal for int() with base 10: " ++ String.ofList ((Json.quoted s).toList.take 200)

def tooManyDigits (n : ℕ) : String :=
  "Exceeds the limit (4300 digits) for integer string conversion: value has " ++ toString n ++
    " digits; use sys.set_int_max_str_digits() to increase the limit"

/-- The number that digits stand for. -/
def value (l : List Char) : ℕ :=
  l.foldl (fun n c => 10 * n + decimalValue c) 0

/-- `int` of digits, after a minus sign or without one. -/
def read (s : String) : Except String ℤ :=
  let digits := if s.toList.head? = some '-' then s.toList.tail else s.toList
  if digits.isEmpty || !digits.all isDecimal then .error (invalidLiteral s)
  else if 4300 < digits.length then .error (tooManyDigits digits.length)
  else .ok (if s.toList.head? = some '-' then -value digits else value digits)

/-- The digits that `int` does not read. -/
def Unreadable (s : String) : Prop :=
  isDigits s = true ∧ ((∃ c ∈ s.toList, isDecimal c = false) ∨ 4300 < s.toList.length)

theorem head?_ne_minus {s : String} (h : isDigits s = true) : s.toList.head? ≠ some '-' := by
  intro hhead
  have hall := (Bool.and_eq_true_iff.mp h).2
  have hminus := List.all_eq_true.mp hall '-' (List.mem_of_mem_head? hhead)
  exact absurd hminus (by decide)

theorem exists_read_iff {s : String} (h : isDigits s = true) :
    (∃ n, read s = .ok n) ↔ ¬ Unreadable s := by
  have hempty : s.toList.isEmpty = false := by
    simpa using (Bool.and_eq_true_iff.mp h).1
  have hread : read s =
      if !s.toList.all isDecimal then .error (invalidLiteral s)
      else if 4300 < s.toList.length then .error (tooManyDigits s.toList.length)
      else .ok (value s.toList) := by
    simp only [read, if_neg (head?_ne_minus h), hempty, Bool.false_or]
  rw [hread, Unreadable]
  by_cases hdecimal : s.toList.all isDecimal = true
  · have hnone : ¬ ∃ c ∈ s.toList, isDecimal c = false := by
      rintro ⟨c, hc, hfalse⟩
      exact absurd (List.all_eq_true.mp hdecimal c hc) (by rw [hfalse]; exact Bool.false_ne_true)
    by_cases hlong : 4300 < s.toList.length
    · simp [hdecimal, hlong, h]
    · simp [hdecimal, hlong, hnone]
  · have hsome : ∃ c ∈ s.toList, isDecimal c = false := by
      obtain ⟨c, hc, hfalse⟩ := List.all_eq_false.mp (Bool.eq_false_iff.mpr hdecimal)
      exact ⟨c, hc, Bool.eq_false_iff.mpr hfalse⟩
    simp [hdecimal, hsome, h]

end Digits
