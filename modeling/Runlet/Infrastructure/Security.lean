import Runlet.Infrastructure.Identity
import Runlet.Library.Pbkdf2
import Runlet.Library.Words

/-!
# Tokens, sessions and passwords

`infrastructure/security`: what is stored of a token or a password, how a presented one is compared
with it, and how a credential is issued, revoked and found.  An access token is found by its prefix
and compared with the salted hash of each row; a session is found by the hash of its token.
-/

namespace Runlet

open KeyedTable

namespace Security

/-! ## Salted hashes -/

def algo : String := "pbkdf2_sha256"

def defaultIterations : ℕ := 260000

/-- The hexadecimal key derived from a text. -/
@[irreducible] def derived (payload salt : String) (iterations : ℕ) : String :=
  Sha256.hex (Sha256.pbkdf2Hmac (Sha256.utf8 payload) (Sha256.utf8 salt) iterations)

/-- The text that is stored: how the key was derived, and the key. -/
def storedHash (payload salt : String) : String :=
  Text.joinWith "$" [algo, toString defaultIterations, salt, derived payload salt defaultIterations]

/-- `s.split(c, n)`. -/
def splitAtMost (c : Char) : ℕ → List Char → List (List Char)
  | 0, l => [l]
  | n + 1, l =>
    match l.dropWhile (· != c) with
    | [] => [l]
    | _ :: rest => l.takeWhile (· != c) :: splitAtMost c n rest

/-- A text compared with what is stored of one. -/
def verifyStored (payload stored : String) : Except ConsoleError Bool :=
  match (splitAtMost '$' 3 stored.toList).map String.ofList with
  | [algorithm, iterationsRaw, salt, digest] =>
    if algorithm ≠ algo then .ok false
    else
      match Text.parseInt iterationsRaw with
      | none => .ok false
      | some iterations =>
        if iterations ≤ 0 then .error (.valueError "iteration value must be greater than 0.")
        else .ok (decide (derived payload salt iterations.toNat = digest))
  | _ => .ok false

theorem splitAtMost_append {c : Char} {a : List Char} (h : c ∉ a) (n : ℕ) (rest : List Char) :
    splitAtMost c (n + 1) (a ++ c :: rest) = a :: splitAtMost c n rest := by
  have hpos : ∀ b ∈ a, (b != c) = true := fun b hb => by
    rw [bne_iff_ne]
    rintro rfl
    exact h hb
  have hdrop : (c :: rest).dropWhile (fun b => b != c) = c :: rest :=
    List.dropWhile_cons_of_neg (by simp)
  have htake : (c :: rest).takeWhile (fun b => b != c) = [] :=
    List.takeWhile_cons_of_neg (by simp)
  rw [splitAtMost, List.dropWhile_append_of_pos hpos, hdrop, List.takeWhile_append_of_pos hpos,
    htake, List.append_nil]

theorem dollar_notMem (salt : HexText) : '$' ∉ salt.text.toList := fun h =>
  absurd (salt.hex _ h) (by decide)

/-- What was stored of a text is compared by the keys. -/
theorem verifyStored_storedHash (payload payload' : String) (salt : HexText) :
    verifyStored payload (storedHash payload' salt.text) =
      .ok (decide (derived payload salt.text defaultIterations =
        derived payload' salt.text defaultIterations)) := by
  have hdollar : "$".toList = ['$'] := by decide
  have halgo : '$' ∉ algo.toList := by decide
  have hiterations : '$' ∉ (toString defaultIterations).toList := by decide
  have hparse : Text.parseInt (toString defaultIterations) = some 260000 := by decide +kernel
  have hparts : (splitAtMost '$' 3 (storedHash payload' salt.text).toList).map String.ofList =
      [algo, toString defaultIterations, salt.text,
        derived payload' salt.text defaultIterations] := by
    rw [storedHash, Text.toList_joinWith, hdollar]
    simp only [List.map_cons, List.map_nil, List.intercalate_cons_cons,
      List.intercalate_singleton, List.append_assoc, List.singleton_append]
    rw [splitAtMost_append halgo, splitAtMost_append hiterations,
      splitAtMost_append (dollar_notMem salt), splitAtMost]
    simp only [List.map_cons, List.map_nil, String.ofList_toList]
  unfold verifyStored
  rw [hparts]
  dsimp only
  rw [if_neg (not_not.mpr rfl), hparse]
  rfl

/-! ## Passwords -/

/-- `_apply_pepper`. -/
def applyPepper (settings : AuthSettings) (password : String) : String :=
  if settings.passwordPepper.getD "" = "" then password
  else password ++ settings.passwordPepper.getD ""

def hashPassword (settings : AuthSettings) (password : String) (salt : HexText) : String :=
  storedHash (applyPepper settings password) salt.text

def verifyPassword (settings : AuthSettings) (password passwordHash : String) :
    Except ConsoleError Bool :=
  verifyStored (applyPepper settings password) passwordHash

/-! ## Personal access tokens -/

/-- `_build_token_prefix`. -/
def buildTokenPrefix (token : String) : String :=
  String.ofList (token.toList.take 16)

def hashPat (token : String) (salt : HexText) : String :=
  storedHash token salt.text

def verifyPat (token tokenHash : String) : Except ConsoleError Bool :=
  verifyStored token tokenHash

section

variable (settings : AuthSettings) (ids : IdSource) (now : DateTime)

/-- The row of a new token. -/
def newPat (userId : UUID) (name plaintext : String) (ttlDays : Int) (salt : HexText) (id : UUID) :
    UserPat where
  id := id
  userId := userId
  name := name
  tokenPrefix := buildTokenPrefix plaintext
  tokenHash := hashPat plaintext salt
  issuedAt := now
  expiresAt := ((now : Int) + days ttlDays).toNat

theorem key_newPat (userId : UUID) (name plaintext : String) (ttlDays : Int) (salt : HexText)
    (id : UUID) : key (newPat now userId name plaintext ttlDays salt id) = id := rfl

/-- `issue_pat`; `random` is what `secrets.token_urlsafe` draws. -/
def issuePat (userId : UUID) (name : String) (ttlDays : Int) (random : String) (salt : HexText)
    (db : ConsoleDb) : ConsoleDb × Except ConsoleError (String × UserPat) :=
  if ttlDays ∉ settings.patAllowedTtlDays then
    (db, .error (.valueError "expires_in_days must be within allowed pat ttl values"))
  else
    let plaintext := "rpat_" ++ random
    let record := newPat now userId name plaintext ttlDays salt (db.userPats.nextKey ids)
    if db.userPats.rows.any fun row => row.tokenHash = record.tokenHash then
      (db, .error (.integrityError "token_hash"))
    else
      ({ db with
          userPats := db.userPats.insert ids (newPat now userId name plaintext ttlDays salt)
            (key_newPat now userId name plaintext ttlDays salt) }, .ok (plaintext, record))

/-- The first of the rows that a token opens. -/
def firstOpened (token : String) : List UserPat → Except ConsoleError (Option UserPat)
  | [] => .ok none
  | record :: rest =>
    if record.revokedAt.isSome then firstOpened token rest
    else if record.expiresAt ≤ now then firstOpened token rest
    else
      match verifyPat token record.tokenHash with
      | .error e => .error e
      | .ok true => .ok (some record)
      | .ok false => firstOpened token rest

/-- The time a token was last used is written into its row. -/
def touchPat (db : ConsoleDb) (id : UUID) : ConsoleDb :=
  { db with
    userPats := db.userPats.update (fun row => row.id = id)
      fun row => { row with lastUsedAt := some now } }

def getPatForToken (token : String) (db : ConsoleDb) :
    ConsoleDb × Except ConsoleError (Option UserPat) :=
  if token = "" then (db, .ok none)
  else
    match firstOpened now token
      (db.userPats.select fun row => row.tokenPrefix = buildTokenPrefix token) with
    | .error e => (db, .error e)
    | .ok none => (db, .ok none)
    | .ok (some record) =>
      (touchPat now db record.id, .ok (some { record with lastUsedAt := some now }))

/-! ## Sessions -/

/-- `_hash_session_token`. -/
def hashSessionToken (token : String) : String :=
  Sha256.hexdigest (settings.sessionSecret ++ ":" ++ token)

/-- The row of a new session. -/
def newSession (user : User) (token : String) (id : UUID) : UserSession where
  id := id
  userId := user.id
  sessionTokenHash := hashSessionToken settings token
  issuedAt := now
  expiresAt := now + hours settings.sessionTtlHours

theorem key_newSession (user : User) (token : String) (id : UUID) :
    key (newSession settings now user token id) = id := rfl

def issueSession (user : User) (token : String) (db : ConsoleDb) :
    ConsoleDb × Except ConsoleError UserSession :=
  if db.userSessions.rows.any fun row => row.sessionTokenHash = hashSessionToken settings token then
    (db, .error (.integrityError "session_token_hash"))
  else
    ({ db with
        userSessions := db.userSessions.insert ids (newSession settings now user token)
          (key_newSession settings now user token) },
      .ok (newSession settings now user token (db.userSessions.nextKey ids)))

/-- The session with the hash of a token. -/
def sessionOf (token : String) (db : ConsoleDb) : Option UserSession :=
  db.userSessions.first? fun row => row.sessionTokenHash = hashSessionToken settings token

/-- The session is marked as revoked. -/
def revokeRow (db : ConsoleDb) (id : UUID) : ConsoleDb :=
  { db with
    userSessions := db.userSessions.update (fun row => row.id = id)
      fun row => { row with revokedAt := some now } }

def revokeSession (token : String) (db : ConsoleDb) : ConsoleDb :=
  match sessionOf settings token db with
  | none => db
  | some record => if record.revokedAt.isNone then revokeRow now db record.id else db

def getUserForSession (token : String) (db : ConsoleDb) : ConsoleDb × Option User :=
  match sessionOf settings token db with
  | none => (db, none)
  | some record =>
    if record.revokedAt.isSome then (db, none)
    else if record.expiresAt ≤ now then (revokeRow now db record.id, none)
    else
      match db.users.get? record.userId with
      | none => (db, none)
      | some user => (db, if user.status ≠ "active" then none else some user)

end

end Security

end Runlet
