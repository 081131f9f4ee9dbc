import Runlet.Library.Text

/-!
# SHA-256

The hash function by its published definition, on a text through its UTF-8 encoding: pad the
message, cut it into blocks of sixteen 32-bit words, extend each block to sixty-four words, and
run the compression rounds over the eight-word state.  Words are natural numbers below `2 ^ 32`.
Everything is structural recursion on lists, so a digest evaluates.
-/

namespace Sha256

/-- The UTF-8 encoding of a character. -/
def utf8Char (c : Char) : List Nat :=
  let n := c.toNat
  if n < 0x80 then [n]
  else if n < 0x800 then [0xC0 + n / 0x40, 0x80 + n % 0x40]
  else if n < 0x10000 then [0xE0 + n / 0x1000, 0x80 + n / 0x40 % 0x40, 0x80 + n % 0x40]
  else [0xF0 + n / 0x40000, 0x80 + n / 0x1000 % 0x40, 0x80 + n / 0x40 % 0x40, 0x80 + n % 0x40]

/-- The UTF-8 encoding of a text. -/
def utf8 (s : String) : List Nat :=
  s.toList.flatMap utf8Char

/-- The big-endian bytes of a number. -/
def bigEndian : Nat → Nat → List Nat
  | 0, _ => []
  | k + 1, n => bigEndian k (n / 256) ++ [n % 256]

/-- The padded message: a one bit, zeros, and the length in bits. -/
def pad (message : List Nat) : List Nat :=
  message ++ [0x80] ++ List.replicate ((119 - message.length % 64) % 64) 0 ++
    bigEndian 8 (8 * message.length)

/-- The 32-bit words of a byte list. -/
def words : List Nat → List Nat
  | a :: b :: c :: d :: l => (((a * 256 + b) * 256 + c) * 256 + d) :: words l
  | _ => []

def rotr (k n : Nat) : Nat :=
  (n >>> k) ||| (n <<< (32 - k)) % 4294967296

/-- The round constants. -/
def roundConstants : List Nat :=
  [0x428a2f98, 0x71374491, 0xb5c0fbcf, 0xe9b5dba5, 0x3956c25b, 0x59f111f1, 0x923f82a4, 0xab1c5ed5,
   0xd807aa98, 0x12835b01, 0x243185be, 0x550c7dc3, 0x72be5d74, 0x80deb1fe, 0x9bdc06a7, 0xc19bf174,
   0xe49b69c1, 0xefbe4786, 0x0fc19dc6, 0x240ca1cc, 0x2de92c6f, 0x4a7484aa, 0x5cb0a9dc, 0x76f988da,
   0x983e5152, 0xa831c66d, 0xb00327c8, 0xbf597fc7, 0xc6e00bf3, 0xd5a79147, 0x06ca6351, 0x14292967,
   0x27b70a85, 0x2e1b2138, 0x4d2c6dfc, 0x53380d13, 0x650a7354, 0x766a0abb, 0x81c2c92e, 0x92722c85,
   0xa2bfe8a1, 0xa81a664b, 0xc24b8b70, 0xc76c51a3, 0xd192e819, 0xd6990624, 0xf40e3585, 0x106aa070,
   0x19a4c116, 0x1e376c08, 0x2748774c, 0x34b0bcb5, 0x391c0cb3, 0x4ed8aa4a, 0x5b9cca4f, 0x682e6ff3,
   0x748f82ee, 0x78a5636f, 0x84c87814, 0x8cc70208, 0x90befffa, 0xa4506ceb, 0xbef9a3f7, 0xc67178f2]

/-- One word of the message schedule from the sixteen before it, the latest first. -/
def nextWord (w : List Nat) : Nat :=
  let w2 := w.getD 1 0
  let w15 := w.getD 14 0
  let s0 := (rotr 7 w15 ^^^ rotr 18 w15) ^^^ (w15 >>> 3)
  let s1 := (rotr 17 w2 ^^^ rotr 19 w2) ^^^ (w2 >>> 10)
  (w.getD 15 0 + s0 + w.getD 6 0 + s1) % 4294967296

/-- Prepend `k` schedule words. -/
def extend : Nat → List Nat → List Nat
  | 0, w => w
  | k + 1, w => extend k (nextWord w :: w)

/-- The eight working words. -/
structure State where
  a : Nat
  b : Nat
  c : Nat
  d : Nat
  e : Nat
  f : Nat
  g : Nat
  h : Nat
  deriving DecidableEq

/-- One compression round, with the round constant and the schedule word. -/
def round (s : State) (kw : Nat × Nat) : State :=
  let s1 := (rotr 6 s.e ^^^ rotr 11 s.e) ^^^ rotr 25 s.e
  let ch := (s.e &&& s.f) ^^^ ((4294967295 - s.e) &&& s.g)
  let t1 := s.h + s1 + ch + kw.1 + kw.2
  let s0 := (rotr 2 s.a ^^^ rotr 13 s.a) ^^^ rotr 22 s.a
  let maj := ((s.a &&& s.b) ^^^ (s.a &&& s.c)) ^^^ (s.b &&& s.c)
  ⟨(t1 + s0 + maj) % 4294967296, s.a, s.b, s.c, (s.d + t1) % 4294967296, s.e, s.f, s.g⟩

def State.add (s r : State) : State :=
  ⟨(s.a + r.a) % 4294967296, (s.b + r.b) % 4294967296, (s.c + r.c) % 4294967296,
    (s.d + r.d) % 4294967296, (s.e + r.e) % 4294967296, (s.f + r.f) % 4294967296,
    (s.g + r.g) % 4294967296, (s.h + r.h) % 4294967296⟩

/-- The compression of one block of sixteen words. -/
def compress (s : State) (block : List Nat) : State :=
  s.add ((roundConstants.zip (extend 48 block.reverse).reverse).foldl round s)

/-- Feed the blocks to the compression; `fuel` bounds their number. -/
def blocks : Nat → State → List Nat → State
  | 0, s, _ => s
  | fuel + 1, s, w =>
    match w with
    | [] => s
    | w => blocks fuel (compress s (w.take 16)) (w.drop 16)

def initial : State :=
  ⟨0x6a09e667, 0xbb67ae85, 0x3c6ef372, 0xa54ff53a, 0x510e527f, 0x9b05688c, 0x1f83d9ab, 0x5be0cd19⟩

def hexChar (n : Nat) : Char :=
  ['0', '1', '2', '3', '4', '5', '6', '7', '8', '9', 'a', 'b', 'c', 'd', 'e', 'f'].getD n '0'

/-- A word as eight hexadecimal digits. -/
def hexWord (n : Nat) : List Char :=
  (bigEndian 4 n).flatMap fun b => [hexChar (b / 16), hexChar (b % 16)]

/-- The hexadecimal digest of a text. -/
def hexdigest (s : String) : String :=
  let w := words (pad (utf8 s))
  let r := blocks w.length initial w
  String.ofList ([r.a, r.b, r.c, r.d, r.e, r.f, r.g, r.h].flatMap hexWord)

example : hexdigest "abc" =
    "ba7816bf8f01cfea414140de5dae2223b00361a396177a9cb410ff61f20015ad" := by
  decide +kernel

end Sha256
