import Runlet.Infrastructure.Security

/-!
# Who a request comes from

`api/deps_auth.py` and the endpoints that issue and revoke credentials, `api/endpoints/console_auth.py`
and `api/endpoints/platform_auth.py`.  A request carries an `Authorization` header with an access
token, or a cookie with a session; the header is looked at first.

A `Call` is one request to these endpoints, or a change of a user's status in the database; `step`
makes it and says what came of it, and `Console.run` makes calls one after the other while the clock
goes on.
-/

namespace Runlet

open KeyedTable

structure Principal where
  channel : String
  subjectType : String
  subjectId : String
  userId : Option UUID := none
  deriving DecidableEq

namespace Authentication

open Security

/-! ## Resolving -/

section

variable (settings : AuthSettings) (ids : IdSource) (now : DateTime)

def requireConsoleUser (consoleSession : Option String) (db : ConsoleDb) :
    ConsoleDb × Except ConsoleError User :=
  if consoleSession.getD "" = "" then (db, .error (.httpException 401 "Not authenticated"))
  else
    match getUserForSession settings now (consoleSession.getD "") db with
    | (db, some user) => (db, .ok user)
    | (db, none) => (db, .error (.httpException 401 "Session expired"))

/-- `_parse_bearer_token`. -/
def parseBearerToken : Option String → Except ConsoleError (Option String)
  | none => .ok none
  | some authorization =>
    match (splitAtMost ' ' 1 authorization.toList).map String.ofList with
    | [scheme, token] =>
      if Text.lower scheme ≠ "bearer" || token = "" then
        .error (.httpException 401 "Invalid authorization header")
      else .ok (some (Text.strip token))
    | _ => .error (.httpException 401 "Invalid authorization header")

def principalOf (channel : String) (userId : UUID) : Principal where
  channel := channel
  subjectType := "human"
  subjectId := "user:" ++ userId.text
  userId := some userId

def resolvePrincipal (authorization consoleSession : Option String) (db : ConsoleDb) :
    ConsoleDb × Except ConsoleError Principal :=
  match parseBearerToken authorization with
  | .error e => (db, .error e)
  | .ok bearer =>
    if bearer.getD "" ≠ "" then
      match getPatForToken now (bearer.getD "") db with
      | (db, .error e) => (db, .error e)
      | (db, .ok none) => (db, .error (.httpException 401 "Invalid token"))
      | (db, .ok (some pat)) => (db, .ok (principalOf "skills" pat.userId))
    else if consoleSession.getD "" ≠ "" then
      match getUserForSession settings now (consoleSession.getD "") db with
      | (db, none) => (db, .error (.httpException 401 "Session expired"))
      | (db, some user) => (db, .ok (principalOf "web_console" user.id))
    else (db, .error (.httpException 401 "Not authenticated"))

/-! ## Endpoints -/

def newUser (salt : HexText) (id : UUID) : User where
  id := id
  username := settings.consoleUsername
  passwordHash := hashPassword settings settings.consolePassword salt

theorem key_newUser (salt : HexText) (id : UUID) : key (newUser settings salt id) = id := rfl

/-- `_ensure_seed_user`. -/
def ensureSeedUser (salt : HexText) (db : ConsoleDb) : ConsoleDb × Option User :=
  if settings.consoleUsername = "" || settings.consolePassword = "" then (db, none)
  else
    match db.users.first? fun user => user.username = settings.consoleUsername with
    | some existing => (db, some existing)
    | none =>
      ({ db with users := db.users.insert ids (newUser settings salt) (key_newUser settings salt) },
        some (newUser settings salt (db.users.nextKey ids)))

/-- The user of a login; the console's own user is created at the first one. -/
def loginUser (username password : String) (salt : HexText) (db : ConsoleDb) :
    ConsoleDb × Option User :=
  match db.users.first? fun user => user.username = username with
  | some user => (db, some user)
  | none =>
    if username = settings.consoleUsername ∧ password = settings.consolePassword then
      ensureSeedUser settings ids salt db
    else (db, none)

/-- `login`; `random` is the token that is drawn. -/
def login (username password random : String) (salt : HexText) (db : ConsoleDb) :
    ConsoleDb × Except ConsoleError UserSession :=
  match loginUser settings ids username password salt db with
  | (db, none) => (db, .error (.httpException 401 "Invalid credentials"))
  | (db, some user) =>
    match verifyPassword settings password user.passwordHash with
    | .error e => (db, .error e)
    | .ok false => (db, .error (.httpException 401 "Invalid credentials"))
    | .ok true =>
      if user.status ≠ "active" then (db, .error (.httpException 403 "User inactive"))
      else issueSession settings ids now user random db

def logout (consoleSession : Option String) (db : ConsoleDb) : ConsoleDb :=
  if consoleSession.getD "" = "" then db
  else revokeSession settings now (consoleSession.getD "") db

/-- `[3, 7]`, as the list of the allowed spans is written in a refusal. -/
def listText (l : List Int) : String :=
  "[" ++ Text.joinWith ", " (l.map toString) ++ "]"

def createPat (consoleSession : Option String) (name : String) (expiresInDays : Int)
    (random : String) (salt : HexText) (db : ConsoleDb) :
    ConsoleDb × Except ConsoleError (String × UserPat) :=
  match requireConsoleUser settings now consoleSession db with
  | (db, .error e) => (db, .error e)
  | (db, .ok user) =>
    if expiresInDays ∉ settings.patAllowedTtlDays then
      (db, .error (.httpException 422
        ("expires_in_days must be one of " ++ listText settings.patAllowedTtlDays)))
    else
      match issuePat settings ids now user.id name expiresInDays random salt db with
      | (db, .error (.valueError text)) => (db, .error (.httpException 422 text))
      | outcome => outcome

/-- A token of the user is marked as revoked. -/
def markPat (db : ConsoleDb) (id : UUID) : ConsoleDb :=
  { db with
    userPats := db.userPats.update (fun row => row.id = id)
      fun row => { row with revokedAt := some now } }

def revokePat (consoleSession : Option String) (patId : UUID) (db : ConsoleDb) :
    ConsoleDb × Except ConsoleError Unit :=
  match requireConsoleUser settings now consoleSession db with
  | (db, .error e) => (db, .error e)
  | (db, .ok user) =>
    match db.userPats.first? fun row => row.id = patId && row.userId = user.id with
    | none => (db, .error (.httpException 404 "PAT not found"))
    | some record =>
      (if record.revokedAt.isNone then markPat now db record.id else db, .ok ())

end

/-! ## Calls -/

inductive Call where
  | login (username password random : String) (salt : HexText)
  | logout (consoleSession : Option String)
  | createPat (consoleSession : Option String) (name : String) (expiresInDays : Int)
      (random : String) (salt : HexText)
  | revokePat (consoleSession : Option String) (patId : UUID)
  /-- An operator changes the status of a user; no endpoint does. -/
  | setStatus (userId : UUID) (status : String)
  | consoleRequest (consoleSession : Option String)
  | request (authorization consoleSession : Option String)

/-- What came of a call, as far as it is about credentials. -/
inductive Outcome where
  | loggedIn (token : String) (record : UserSession)
  | loggedOut (token : String)
  | patCreated (token : String) (record : UserPat)
  | patRevoked (patId : UUID)
  | resolved (principal : Principal)
  | nothing

variable (settings : AuthSettings) (ids : IdSource) (now : DateTime)

def step (db : ConsoleDb) : Call → ConsoleDb × Outcome
  | .login username password random salt =>
    match login settings ids now username password random salt db with
    | (db, .ok record) => (db, .loggedIn random record)
    | (db, .error _) => (db, .nothing)
  | .logout consoleSession =>
    (logout settings now consoleSession db,
      if consoleSession.getD "" = "" then .nothing else .loggedOut (consoleSession.getD ""))
  | .createPat consoleSession name expiresInDays random salt =>
    match createPat settings ids now consoleSession name expiresInDays random salt db with
    | (db, .ok (token, record)) => (db, .patCreated token record)
    | (db, .error _) => (db, .nothing)
  | .revokePat consoleSession patId =>
    match revokePat settings now consoleSession patId db with
    | (db, .ok ()) => (db, .patRevoked patId)
    | (db, .error _) => (db, .nothing)
  | .setStatus userId status =>
    ({ db with
        users := db.users.update (fun user => user.id = userId) fun user =>
          { user with status := status } }, .nothing)
  | .consoleRequest consoleSession =>
    ((requireConsoleUser settings now consoleSession db).1, .nothing)
  | .request authorization consoleSession =>
    match resolvePrincipal settings now authorization consoleSession db with
    | (db, .ok principal) => (db, .resolved principal)
    | (db, .error _) => (db, .nothing)

end Authentication

end Runlet
