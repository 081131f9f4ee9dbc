import Runlet.Library.Json
import Mathlib.Data.Nat.Log

/-!
# State signatures

`build_state_signature` of `crawler_service/extractors/state_probe.py`: the name a crawl gives to
the state of a page, from the route and from what the state context holds.  Six entries of the
context have a place and a label of their own; the others follow in the order of their keys.
-/

namespace Runlet

namespace StateProbe

/-! ## Values -/

/-- The power of ten of the first digit of a number that is not zero. -/
def leadingPower (q : Rat) : Int :=
  if q.den ≤ q.num.natAbs then Nat.log 10 (q.num.natAbs / q.den)
  else -(Nat.clog 10 ((q.den + q.num.natAbs - 1) / q.num.natAbs) : Int)

/-- The nearest whole number, an even one in the middle. -/
def roundHalfEven (q : Rat) : Int :=
  if q - q.floor < 1 / 2 then q.floor
  else if 1 / 2 < q - q.floor then q.floor + 1
  else if q.floor % 2 = 0 then q.floor
  else q.floor + 1

/-- The six digits of a number, and the power of ten of the first one. -/
def sixDigits (q : Rat) : List Char × Int :=
  let power := leadingPower q
  let digits := (roundHalfEven ((if q < 0 then -q else q) * (10 : Rat) ^ (5 - power))).toNat
  if digits = 10 ^ 6 then ("100000".toList, power + 1) else (Nat.toDigits 10 digits, power)

/-- Digits with a point after the first few of them, and no zeros at the end. -/
def pointed (whole : ℕ) (digits : List Char) : List Char :=
  let fraction := (digits.drop whole).rdropWhile (· == '0')
  if fraction.isEmpty then digits.take whole else digits.take whole ++ '.' :: fraction

/-- A power of ten of two digits at least, with its sign. -/
def exponent (power : Int) : List Char :=
  let digits := Nat.toDigits 10 power.natAbs
  (if power < 0 then 'e' :: ['-'] else 'e' :: ['+']) ++
    if digits.length = 1 then '0' :: digits else digits

/-- `format(value, "g")` of a number that is not whole. -/
def formatGeneral (q : Rat) : String :=
  let (digits, power) := sixDigits q
  let magnitude :=
    if power < -4 || 6 ≤ power then pointed 1 digits ++ exponent power
    else if 0 ≤ power then pointed (power.toNat + 1) digits
    else pointed 1 (List.replicate power.natAbs '0' ++ digits)
  String.ofList (if q < 0 then '-' :: magnitude else magnitude)

example : [1 / 2, -5 / 4, 100001 / 10, 1 / 30000, 1 / 3, 12345675 / 10].map formatGeneral =
    ["0.5", "-1.25", "10000.1", "3.33333e-05", "0.333333", "1.23457e+06"] := by
  decide +kernel

/-- `_normalize_signature_value`. -/
def normalizeSignatureValue : Json → Option String
  | .bool b => some (if b then "true" else "false")
  | .int n => some (toString n)
  | .float _ q => some (if q.den = 1 then toString q.num else formatGeneral q)
  | .str s =>
    let normalized := Text.replaceChar ' ' '_' (Text.lower (Text.strip s))
    if normalized = "" then none else some normalized
  | _ => none

/-! ## Signatures -/

/-- The entries with a label of their own, in the order in which they are written. -/
def labelledKeys : List (String × String) :=
  [("active_tab", "tab="), ("modal_title", "modal="), ("drawer_title", "drawer="),
    ("view_mode", "view="), ("panel_title", "panel="), ("tree_node", "tree=")]

/-- The value of a context under a key, as a signature has it. -/
def contextValue (stateContext : List (String × Json)) (key : String) : Option String :=
  ((Json.obj stateContext).get? key).bind normalizeSignatureValue

/-- What an entry with a label adds. -/
def labelledSuffix (stateContext : List (String × Json)) (entry : String × String) :
    Option String :=
  (contextValue stateContext entry.1).map fun value =>
    if entry.1 = "active_tab" ∧ value = "default" then "default" else entry.2 ++ value

/-- The key of another entry, as a signature has it. -/
def extraKey (key : String) : String :=
  Text.replaceChar ' ' '_' (Text.replaceChar '-' '_' (Text.lower (Text.strip key)))

/-- What any other entry adds: an entry whose labelled value was written is not written again. -/
def extraField (stateContext : List (String × Json)) (key : String) : Option String :=
  if key ∈ labelledKeys.map (·.1) then none
  else
    (contextValue stateContext key).bind fun value =>
      if extraKey key = "" then none else some (extraKey key ++ "=" ++ value)

/-- The keys of a context in order. -/
def sortedKeys (stateContext : List (String × Json)) : List String :=
  (stateContext.map (·.1)).insertionSort fun a b => a.toList ≤ b.toList

/-- `s.lstrip("/")`. -/
def lstripSlash (s : String) : String :=
  String.ofList (s.toList.dropWhile (· == '/'))

/-- What a signature has of the route. -/
def routeSegment (routePath : String) : String :=
  let stripped := Text.strip routePath
  let normalizedRoute :=
    if Text.startsWith "/" stripped then stripped else "/" ++ lstripSlash stripped
  let segment := Text.replaceChar '/' ':' (Text.stripChar '/' normalizedRoute)
  if segment = "" then "root" else segment

def buildStateSignature (routePath : String) (stateContext : List (String × Json)) : String :=
  let suffixes := labelledKeys.filterMap (labelledSuffix stateContext) ++
    (sortedKeys stateContext).filterMap (extraField stateContext)
  Text.joinWith ":"
    (routeSegment routePath :: if suffixes.isEmpty then ["default"] else suffixes)

example : buildStateSignature "/users/list/"
    [("view-kind", .str "Big Grid"), ("modal_title", .str " New User "), ("active_tab", .null)] =
    "users:list:modal=new_user:view_kind=big_grid" := by
  decide +kernel

end StateProbe

end Runlet
