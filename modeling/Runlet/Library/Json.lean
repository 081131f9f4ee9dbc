import Runlet.Library.Text
import Mathlib.Data.List.Sort
import Mathlib.Data.Rat.Defs

/-!
# JSON values

The values a JSON column holds, as the program sees them after decoding, and the two ways it
turns them into text: `Json.text`, the text of a value (`str`), and `Json.dumps`, the canonical
serialization with sorted keys and no blanks (`Json.dumpsSpaced` is the same with the default
blanks).

A floating-point number is finite, and carried as its literal together with the rational it stands
for: the literal is what is printed, the rational is what is compared.  An object is its list of
entries in insertion order.
-/

inductive Json where
  | null
  | bool (b : Bool)
  | int (n : Int)
  | float (literal : String) (value : Rat)
  | str (s : String)
  | arr (items : List Json)
  | obj (entries : List (String × Json))
  deriving Repr, Inhabited

namespace Json

/-- The value under a key of an object; no other value has keys. -/
def get? (v : Json) (name : String) : Option Json :=
  match v with
  | .obj entries => (entries.find? fun e => e.1 == name).map Prod.snd
  | _ => none

/-- The items of an array; `[]` for any other value. -/
def items : Json → List Json
  | .arr l => l
  | _ => []

/-- The truth value: empty text, containers, zero and `null` are false. -/
def truthy : Json → Bool
  | .null => false
  | .bool b => b
  | .int n => n != 0
  | .float _ q => q != 0
  | .str s => s != ""
  | .arr l => !l.isEmpty
  | .obj l => !l.isEmpty

/-- `a or b`, where a missing value counts as `null`. -/
def orElse (a b : Option Json) : Option Json :=
  if a.any truthy then a else b

/-- Overwrite or append one entry of an object. -/
def put (entries : List (String × Json)) (name : String) (v : Json) : List (String × Json) :=
  if entries.any fun e => e.1 == name then
    entries.map fun e => if e.1 == name then (name, v) else e
  else entries ++ [(name, v)]

/-! ## Text -/

/-- A digit of the hexadecimal system. -/
def hexDigit (n : Nat) : Char :=
  (['0', '1', '2', '3', '4', '5', '6', '7', '8', '9', 'a', 'b', 'c', 'd', 'e', 'f'].getD n '0')

/-- `\uXXXX`. -/
def unicodeEscape (n : Nat) : List Char :=
  ['\\', 'u', hexDigit (n / 4096 % 16), hexDigit (n / 256 % 16), hexDigit (n / 16 % 16),
    hexDigit (n % 16)]

/-- The escape of a character that is not printed as it is: `\x`, `\u` or `\U`. -/
def reprEscape (n : Nat) : List Char :=
  if n < 0x100 then ['\\', 'x', hexDigit (n / 16), hexDigit (n % 16)]
  else if n < 0x10000 then unicodeEscape n
  else '\\' :: 'U' :: (unicodeEscape (n / 65536)).drop 2 ++ (unicodeEscape n).drop 2

/-- One character of a text between quotes. -/
def reprChar (quote c : Char) : List Char :=
  if c = quote || c = '\\' then ['\\', c]
  else if c = '\n' then ['\\', 'n']
  else if c = '\r' then ['\\', 'r']
  else if c = '\t' then ['\\', 't']
  else if c.toNat < 32 then reprEscape c.toNat
  else if c.toNat < 127 then [c]
  else if Unicode.inRanges Unicode.nonPrintableRanges c.toNat then reprEscape c.toNat
  else [c]

/-- `repr` of a text, which is how it is shown inside a container: single quotes, unless they occur
in the text and double ones do not. -/
def quoted (s : String) : String :=
  let quote := if s.toList.contains '\'' && !s.toList.contains '"' then '"' else '\''
  String.ofList (quote :: s.toList.flatMap (reprChar quote) ++ [quote])

mutual

/-- How a value is shown inside a container. -/
def shown : Json → String
  | .null => "None"
  | .bool b => if b then "True" else "False"
  | .int n => toString n
  | .float literal _ => literal
  | .str s => quoted s
  | .arr l => "[" ++ Text.joinWith ", " (shownList l) ++ "]"
  | .obj l => "\x7b" ++ Text.joinWith ", " (shownEntries l) ++ "\x7d"

def shownList : List Json → List String
  | [] => []
  | v :: l => shown v :: shownList l

def shownEntries : List (String × Json) → List String
  | [] => []
  | (k, v) :: l => (quoted k ++ ": " ++ shown v) :: shownEntries l

end

/-- The text of a value. -/
def text : Json → String
  | .str s => s
  | v => shown v

/-! ## Canonical serialization -/

/-- One character of a serialized text.  With `ascii` every character outside the printable
ASCII range is escaped, the ones above the basic plane as a surrogate pair. -/
def escapeChar (ascii : Bool) (c : Char) : List Char :=
  let n := c.toNat
  if c = '"' then ['\\', '"']
  else if c = '\\' then ['\\', '\\']
  else if c = '\n' then ['\\', 'n']
  else if c = '\r' then ['\\', 'r']
  else if c = '\t' then ['\\', 't']
  else if n = 8 then ['\\', 'b']
  else if n = 12 then ['\\', 'f']
  else if n < 32 then unicodeEscape n
  else if ascii && 126 < n then
    if n < 0x10000 then unicodeEscape n
    else unicodeEscape (0xD800 + (n - 0x10000) / 0x400) ++
      unicodeEscape (0xDC00 + (n - 0x10000) % 0x400)
  else [c]

def dumpsText (ascii : Bool) (s : String) : String :=
  String.ofList (['"'] ++ s.toList.flatMap (escapeChar ascii) ++ ['"'])

mutual

/-- The serialization with sorted keys, and with `blank` behind every comma and colon. -/
def serialize (blank : String) (ascii : Bool) : Json → String
  | .null => "null"
  | .bool b => if b then "true" else "false"
  | .int n => toString n
  | .float literal _ => literal
  | .str s => dumpsText ascii s
  | .arr l => "[" ++ Text.joinWith ("," ++ blank) (serializeList blank ascii l) ++ "]"
  | .obj l =>
    let sorted := (serializeEntries blank ascii l).insertionSort fun a b => a.1.toList ≤ b.1.toList
    "\x7b" ++ Text.joinWith ("," ++ blank)
      (sorted.map fun e => dumpsText ascii e.1 ++ (":" ++ blank) ++ e.2) ++ "\x7d"

def serializeList (blank : String) (ascii : Bool) : List Json → List String
  | [] => []
  | v :: l => serialize blank ascii v :: serializeList blank ascii l

def serializeEntries (blank : String) (ascii : Bool) : List (String × Json) → List (String × String)
  | [] => []
  | (k, v) :: l => (k, serialize blank ascii v) :: serializeEntries blank ascii l

end

/-- The serialization without blanks. -/
def dumps (ascii : Bool) (v : Json) : String :=
  serialize "" ascii v

/-- The serialization with the blanks that are put by default. -/
def dumpsSpaced (ascii : Bool) (v : Json) : String :=
  serialize " " ascii v

example : dumps true (.obj [("b", .arr [.int 2, .null]), ("a", .str "é\n")]) =
    "\x7b\"a\":\"\\u00e9\\n\",\"b\":[2,null]\x7d" := by decide

end Json
