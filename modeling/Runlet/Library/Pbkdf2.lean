import Runlet.Library.Sha256

/-!
# HMAC and PBKDF2

`hmac.new(key, message, sha256)` and `hashlib.pbkdf2_hmac("sha256", password, salt, iterations)` by
their published definitions, on lists of bytes.  The derived key has the length of a digest, so one
block is enough.
-/

namespace Sha256

/-- The bytes of a digest. -/
def digest (message : List Nat) : List Nat :=
  let w := words (pad message)
  let r := blocks w.length initial w
  [r.a, r.b, r.c, r.d, r.e, r.f, r.g, r.h].flatMap (bigEndian 4)

/-- A key of the length of a block: a longer one is hashed, and zeros are added. -/
def blockKey (key : List Nat) : List Nat :=
  let key := if 64 < key.length then digest key else key
  key ++ List.replicate (64 - key.length) 0

def hmac (key message : List Nat) : List Nat :=
  digest ((blockKey key).map (· ^^^ 0x5C) ++
    digest ((blockKey key).map (· ^^^ 0x36) ++ message))

/-- The iterations after the first one: each hashes the last result and is added to the sum. -/
def pbkdf2Rounds (password : List Nat) : Nat → List Nat → List Nat → List Nat
  | 0, _, total => total
  | rounds + 1, last, total =>
    let next := hmac password last
    pbkdf2Rounds password rounds next (List.zipWith (· ^^^ ·) total next)

def pbkdf2Hmac (password salt : List Nat) (iterations : Nat) : List Nat :=
  let first := hmac password (salt ++ bigEndian 4 1)
  pbkdf2Rounds password (iterations - 1) first first

/-- `bytes.hex()`. -/
def hex (bytes : List Nat) : String :=
  String.ofList (bytes.flatMap fun b => [hexChar (b / 16), hexChar (b % 16)])

example : hex (pbkdf2Hmac (utf8 "password") (utf8 "salt") 2) =
    "ae4d0c95af6b46d32d0adff928f06dd02a303f8ef3c251dfd6e2d85a95474c43" := by
  decide +kernel

end Sha256
