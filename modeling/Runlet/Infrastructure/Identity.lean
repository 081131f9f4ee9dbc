import Runlet.Infrastructure.Database

/-!
# Users and their credentials

The rows of `infrastructure/db/models/identity.py` that a login and a request read, and the settings
they use.  A user name, the hash of a session token and the hash of an access token are unique.
-/

namespace Runlet

open KeyedTable

structure User where
  id : UUID
  username : String
  passwordHash : String
  status : String := "active"

instance : Keyed UUID User := ⟨User.id⟩

structure UserSession where
  id : UUID
  userId : UUID
  sessionTokenHash : String
  issuedAt : DateTime
  expiresAt : DateTime
  revokedAt : Option DateTime := none

instance : Keyed UUID UserSession := ⟨UserSession.id⟩

/-- A personal access token. -/
structure UserPat where
  id : UUID
  userId : UUID
  name : String
  tokenPrefix : String
  tokenHash : String
  allowedChannels : List String := ["skills"]
  allowedActions : Option (List String) := none
  allowedSystemIds : Option (List String) := none
  issuedAt : DateTime
  expiresAt : DateTime
  lastUsedAt : Option DateTime := none
  revokedAt : Option DateTime := none

instance : Keyed UUID UserPat := ⟨UserPat.id⟩

structure ConsoleDb where
  users : Table User := .empty
  userSessions : Table UserSession := .empty
  userPats : Table UserPat := .empty

/-- What a request may fail with: an answer of the endpoint, or an exception nothing catches. -/
inductive ConsoleError where
  | httpException (statusCode : ℕ) (detail : String)
  | valueError (text : String)
  | integrityError (column : String)
  deriving DecidableEq

/-- The settings that credentials depend on. -/
structure AuthSettings where
  consoleUsername : String := "admin"
  consolePassword : String := "admin"
  sessionSecret : String
  sessionTtlHours : ℕ := 8
  patAllowedTtlDays : List Int := [3, 7]
  passwordPepper : Option String := none

/-- A text of hexadecimal digits, as `secrets.token_hex` draws it. -/
structure HexText where
  text : String
  hex : ∀ c ∈ text.toList, c ∈ "0123456789abcdef".toList

/-- A span of time, in microseconds. -/
def days (n : Int) : Int :=
  n * (24 * 3600 * 1000000)

def hours (n : ℕ) : ℕ :=
  n * (3600 * 1000000)

end Runlet
