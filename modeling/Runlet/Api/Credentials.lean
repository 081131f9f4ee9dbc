import Runlet.Api.Authentication
import Runlet.Library.Covering

/-!
# A credential opens while it is valid

The ledger of a run is what the calls have issued and revoked, token by token: a credential is
valid while it is not revoked and not expired, and a request should be resolved exactly when the
token it presents is that of a valid credential whose owner is active (`Entitled`).

`Refines` connects the tables with the ledger: the rows of a kind and its credentials are the same
up to what is stored of the token, and a session that was used too late is marked as revoked without
being so in the ledger.  Every call keeps it (`Refines.step`).  Under it a session is resolved as it
should be, and an access token whether or not its owner is active (`resolvePrincipal_iff`).
-/

namespace Runlet

open KeyedTable Security Authentication

/-! ## The ledger -/

structure Credential where
  id : UUID
  token : String
  owner : UUID
  expiresAt : DateTime
  revoked : Bool := false

/-- The credential is neither revoked nor expired. -/
def Credential.Valid (credential : Credential) (now : DateTime) : Prop :=
  credential.revoked = false ∧ now < credential.expiresAt

/-- A credential is revoked when it is one of some. -/
def Credential.revokeIf (p : Credential → Bool) (credential : Credential) : Credential :=
  if p credential then { credential with revoked := true } else credential

structure Ledger where
  sessions : List Credential := []
  pats : List Credential := []

namespace Ledger

/-- What came of a call is written down. -/
def record (ledger : Ledger) : Outcome → Ledger
  | .loggedIn token record =>
    { ledger with
      sessions := ledger.sessions ++
        [{ id := record.id, token := token, owner := record.userId,
           expiresAt := record.expiresAt }] }
  | .loggedOut token =>
    { ledger with sessions := ledger.sessions.map (Credential.revokeIf fun c => c.token = token) }
  | .patCreated token record =>
    { ledger with
      pats := ledger.pats ++
        [{ id := record.id, token := token, owner := record.userId,
           expiresAt := record.expiresAt }] }
  | .patRevoked patId =>
    { ledger with pats := ledger.pats.map (Credential.revokeIf fun c => c.id = patId) }
  | .resolved _ => ledger
  | .nothing => ledger

end Ledger

/-- The tables, what was issued and revoked so far, and the time. -/
structure Console where
  db : ConsoleDb
  ledger : Ledger := {}
  clock : DateTime := 0

namespace Console

variable (settings : AuthSettings) (ids : IdSource)

/-- A call, some time after the one before. -/
def next (console : Console) (call : ℕ × Call) : Console :=
  let now := console.clock + call.1
  let made := step settings ids now console.db call.2
  ⟨made.1, console.ledger.record made.2, now⟩

/-- Calls one after the other, from a console without credentials. -/
def run (users : Table User) (calls : List (ℕ × Call)) : Console :=
  calls.foldl (next settings ids) { db := { users := users } }

end Console

namespace Credentials

/-! ## Who should be resolved -/

/-- The token a request presents. -/
inductive Presented where
  | pat (token : String)
  | session (token : String)

/-- The header comes first; a header that cannot be read presents nothing. -/
def presented (authorization consoleSession : Option String) : Option Presented :=
  match parseBearerToken authorization with
  | .error _ => none
  | .ok bearer =>
    if bearer.getD "" ≠ "" then some (.pat (bearer.getD ""))
    else if consoleSession.getD "" ≠ "" then some (.session (consoleSession.getD ""))
    else none

/-- A valid credential with the token has this owner. -/
def Opens (credentials : List Credential) (now : DateTime) (token : String) (owner : UUID) : Prop :=
  ∃ credential ∈ credentials, credential.token = token ∧ credential.Valid now ∧
    credential.owner = owner

def IsActive (db : ConsoleDb) (userId : UUID) : Prop :=
  ∃ user, db.users.get? userId = some user ∧ user.status = "active"

/-- The principal of a request by the one rule for both kinds of credentials. -/
def Entitled (console : Console) (now : DateTime) (principal : Principal) : Presented → Prop
  | .pat token => ∃ owner, Opens console.ledger.pats now token owner ∧
      IsActive console.db owner ∧ principal = principalOf "skills" owner
  | .session token => ∃ owner, Opens console.ledger.sessions now token owner ∧
      IsActive console.db owner ∧ principal = principalOf "web_console" owner

/-! ## What is assumed of the tokens -/

/-- The session tokens of a call. -/
def sessionTokens : Call → List String
  | .login _ _ random _ => [random]
  | .logout consoleSession => [consoleSession.getD ""]
  | _ => []

/-- The access token a call draws. -/
def patTokens : Call → List String
  | .createPat _ _ _ random _ => ["rpat_" ++ random]
  | _ => []

def Presented.sessionTokens : Presented → List String
  | .pat _ => []
  | .session token => [token]

def Presented.patTokens : Presented → List String
  | .pat token => [token]
  | .session _ => []

/-- No two of these tokens have one digest. -/
structure Distinguished (settings : AuthSettings) (sessions pats : List String) : Prop where
  sessions : ∀ t ∈ sessions, ∀ t' ∈ sessions,
    hashSessionToken settings t = hashSessionToken settings t' → t = t'
  pats : ∀ t ∈ pats, ∀ t' ∈ pats, ∀ salt : HexText,
    derived t salt.text defaultIterations = derived t' salt.text defaultIterations → t = t'

/-! ## Tables and ledger -/

/-- A session row and its credential.  A row that is marked may have been used too late. -/
structure SessionMatches (settings : AuthSettings) (now : DateTime) (row : UserSession)
    (credential : Credential) : Prop where
  id : row.id = credential.id
  hash : row.sessionTokenHash = hashSessionToken settings credential.token
  owner : row.userId = credential.owner
  expires : row.expiresAt = credential.expiresAt
  unmarked : row.revokedAt = none → credential.revoked = false
  marked : row.revokedAt ≠ none → credential.revoked = true ∨ credential.expiresAt ≤ now

/-- The row of an access token and its credential. -/
structure PatMatches (row : UserPat) (credential : Credential) : Prop where
  id : row.id = credential.id
  tokenPrefix : row.tokenPrefix = buildTokenPrefix credential.token
  hash : ∃ salt, row.tokenHash = hashPat credential.token salt
  owner : row.userId = credential.owner
  expires : row.expiresAt = credential.expiresAt
  revoked : row.revokedAt.isSome = credential.revoked

variable {settings : AuthSettings} {ids : IdSource} {now now' : DateTime} {db db' : ConsoleDb}
  {ledger : Ledger} {S P : List String}

/-- The tables tell what the ledger tells; `S` and `P` are the tokens of the calls so far. -/
structure Refines (settings : AuthSettings) (S P : List String) (now : DateTime) (db : ConsoleDb)
    (ledger : Ledger) : Prop where
  sessions : db.userSessions.Covers (SessionMatches settings now) ledger.sessions
  pats : db.userPats.Covers PatMatches ledger.pats
  known : ∀ credential ∈ ledger.sessions, credential.token ∈ S
  drawn : (ledger.pats.map (·.token)).Sublist P
  unique : ∀ row ∈ db.userSessions, ∀ row' ∈ db.userSessions,
    row.sessionTokenHash = row'.sessionTokenHash → row = row'

namespace SessionMatches

theorem later {row : UserSession} {credential : Credential}
    (h : SessionMatches settings now row credential) (hle : now ≤ now') :
    SessionMatches settings now' row credential :=
  { h with marked := fun hne => (h.marked hne).imp_right fun hexpired => hexpired.trans hle }

/-- A row is used as long as its credential is valid. -/
theorem valid_iff {row : UserSession} {credential : Credential}
    (h : SessionMatches settings now row credential) :
    credential.Valid now ↔ row.revokedAt = none ∧ ¬ row.expiresAt ≤ now := by
  unfold Credential.Valid
  rw [h.expires, not_le]
  constructor
  · rintro ⟨hopen, hlive⟩
    refine ⟨?_, hlive⟩
    by_contra hne
    rcases h.marked hne with hrevoked | hexpired
    · rw [hopen] at hrevoked
      exact Bool.false_ne_true hrevoked
    · exact absurd hlive (not_lt.mpr hexpired)
  · rintro ⟨hnone, hlive⟩
    exact ⟨h.unmarked hnone, hlive⟩

end SessionMatches

namespace Refines

theorem later (h : Refines settings S P now db ledger) (hle : now ≤ now') :
    Refines settings S P now' db ledger :=
  { h with sessions := h.sessions.mono fun _ _ _ _ hmatch => hmatch.later hle }

/-- The users, and when a token was last used, are not in the ledger. -/
theorem of_rows (h : Refines settings S P now db ledger)
    (hsessions : db'.userSessions = db.userSessions)
    (hpats : db'.userPats.Covers PatMatches ledger.pats) :
    Refines settings S P now db' ledger where
  sessions := hsessions ▸ h.sessions
  pats := hpats
  known := h.known
  drawn := h.drawn
  unique := hsessions ▸ h.unique

theorem tokens (h : Refines settings S P now db ledger) {S' P' : List String}
    (hS : ∀ t ∈ S, t ∈ S') (hP : P.Sublist P') : Refines settings S' P' now db ledger :=
  { h with
    known := fun credential hcredential => hS _ (h.known credential hcredential)
    drawn := h.drawn.trans hP }

theorem touchPat (h : Refines settings S P now db ledger) (patId : UUID) :
    Refines settings S P now (Security.touchPat now db patId) ledger := by
  refine h.of_rows rfl ?_
  rw [← List.map_id ledger.pats]
  refine Table.Covers.update h.pats (f := fun row : UserPat => { row with lastUsedAt := some now })
    (fun _ => rfl) fun row _ credential _ hmatch => ?_
  unfold Table.rewrite
  split
  · exact ⟨hmatch.id, hmatch.tokenPrefix, hmatch.hash, hmatch.owner, hmatch.expires,
      hmatch.revoked⟩
  · exact hmatch

/-! ### Marking sessions -/

theorem covers_revokeRow {R R' : UserSession → Credential → Prop} {l : List Credential}
    (h : db.userSessions.Covers R l) (sessionId : UUID) {g : Credential → Credential}
    (hmarked : ∀ row ∈ db.userSessions, ∀ credential ∈ l, R row credential → row.id = sessionId →
      R' { row with revokedAt := some now } (g credential))
    (hother : ∀ row ∈ db.userSessions, ∀ credential ∈ l, R row credential → row.id ≠ sessionId →
      R' row (g credential)) :
    (revokeRow now db sessionId).userSessions.Covers R' (l.map g) := by
  refine Table.Covers.update h (f := fun row : UserSession => { row with revokedAt := some now })
    (fun _ => rfl) fun row hrow credential hcredential hmatch => ?_
  unfold Table.rewrite
  split
  · rename_i hid
    exact hmarked row hrow credential hcredential hmatch (of_decide_eq_true hid)
  · rename_i hid
    exact hother row hrow credential hcredential hmatch fun heq => hid (decide_eq_true heq)

/-- Marking a row keeps its hash. -/
theorem unique_revokeRow (h : ∀ row ∈ db.userSessions, ∀ row' ∈ db.userSessions,
    row.sessionTokenHash = row'.sessionTokenHash → row = row') (sessionId : UUID) :
    ∀ row ∈ (revokeRow now db sessionId).userSessions,
      ∀ row' ∈ (revokeRow now db sessionId).userSessions,
        row.sessionTokenHash = row'.sessionTokenHash → row = row' := by
  have hkeep : ∀ a ∈ (revokeRow now db sessionId).userSessions, ∃ b ∈ db.userSessions,
      Table.rewrite (fun other => other.id = sessionId)
        (fun other : UserSession => { other with revokedAt := some now }) b = a ∧
        b.sessionTokenHash = a.sessionTokenHash := by
    intro a ha
    obtain ⟨b, hb, hba⟩ := List.mem_map.mp ha
    refine ⟨b, hb, hba, ?_⟩
    rw [← hba]
    unfold Table.rewrite
    split <;> rfl
  intro a ha b hb hhash
  obtain ⟨a', ha', rfl, hhash'⟩ := hkeep a ha
  obtain ⟨b', hb', rfl, hhash''⟩ := hkeep b hb
  rw [h a' ha' b' hb' (hhash'.trans (hhash.trans hhash''.symm))]

/-- A session that is used too late is marked; in the ledger it is expired. -/
theorem revokeExpired (h : Refines settings S P now db ledger) {row : UserSession}
    (hrow : row ∈ db.userSessions) (hexpired : row.expiresAt ≤ now) :
    Refines settings S P now (revokeRow now db row.id) ledger where
  sessions := by
    rw [← List.map_id ledger.sessions]
    refine covers_revokeRow h.sessions row.id (fun other hother credential _ hmatch hid => ?_)
      fun _ _ _ _ hmatch _ => hmatch
    obtain rfl := Table.eq_of_key_eq hother hrow hid
    exact ⟨hmatch.id, hmatch.hash, hmatch.owner, hmatch.expires,
      fun hnone => absurd hnone (Option.some_ne_none _),
      fun _ => Or.inr (hmatch.expires ▸ hexpired)⟩
  pats := h.pats
  known := h.known
  drawn := h.drawn
  unique := unique_revokeRow h.unique row.id

theorem getUserForSession (h : Refines settings S P now db ledger) (token : String) :
    Refines settings S P now (Security.getUserForSession settings now token db).1 ledger := by
  unfold Security.getUserForSession
  cases hfind : sessionOf settings token db with
  | none => exact h
  | some row =>
    dsimp only
    split
    · exact h
    · split
      · rename_i hexpired
        exact h.revokeExpired (Table.mem_of_first? hfind) hexpired
      · cases db.users.get? row.userId with
        | none => exact h
        | some user => exact h

theorem requireConsoleUser (h : Refines settings S P now db ledger)
    (consoleSession : Option String) :
    Refines settings S P now
      (Authentication.requireConsoleUser settings now consoleSession db).1 ledger := by
  unfold Authentication.requireConsoleUser
  split
  · exact h
  · have hnext := h.getUserForSession (consoleSession.getD "")
    split <;> rename_i heq <;> rw [heq] at hnext <;> exact hnext

theorem getPatForToken (h : Refines settings S P now db ledger) (token : String) :
    Refines settings S P now (Security.getPatForToken now token db).1 ledger := by
  unfold Security.getPatForToken
  split
  · exact h
  · cases firstOpened now token
      (db.userPats.select fun row => row.tokenPrefix = buildTokenPrefix token) with
    | error e => exact h
    | ok found =>
      cases found with
      | none => exact h
      | some record => exact h.touchPat record.id

theorem resolvePrincipal (h : Refines settings S P now db ledger)
    (authorization consoleSession : Option String) :
    Refines settings S P now
      (Authentication.resolvePrincipal settings now authorization consoleSession db).1 ledger := by
  unfold Authentication.resolvePrincipal
  cases parseBearerToken authorization with
  | error e => exact h
  | ok bearer =>
    dsimp only
    split
    · have hnext := h.getPatForToken (bearer.getD "")
      split <;> rename_i heq <;> rw [heq] at hnext <;> exact hnext
    · split
      · have hnext := h.getUserForSession (consoleSession.getD "")
        split <;> rename_i heq <;> rw [heq] at hnext <;> exact hnext
      · exact h

/-! ### Issuing -/

theorem issueSession (h : Refines settings S P now db ledger) {user : User} {token : String}
    {record : UserSession}
    (hissued : (Security.issueSession settings ids now user token db).2 = .ok record) :
    Refines settings (S ++ [token]) P now (Security.issueSession settings ids now user token db).1
      (ledger.record (.loggedIn token record)) := by
  unfold Security.issueSession at hissued ⊢
  split
  · rename_i htaken
    rw [if_pos htaken] at hissued
    exact absurd hissued.symm (by simp)
  · rename_i hfree
    rw [if_neg hfree] at hissued
    obtain rfl : newSession settings now user token (db.userSessions.nextKey ids) = record := by
      simpa using hissued
    have hnew : ∀ row ∈ db.userSessions,
        row.sessionTokenHash ≠ hashSessionToken settings token := fun row hrow hhash =>
      hfree (List.any_eq_true.mpr ⟨row, hrow, by simpa using hhash⟩)
    refine ⟨h.sessions.insert (fun _ => rfl) ⟨rfl, rfl, rfl, rfl, fun _ => rfl, fun hne => absurd rfl hne⟩,
      h.pats, ?_, h.drawn, ?_⟩
    · intro credential hcredential
      rcases List.mem_append.mp hcredential with hcredential | hcredential
      · exact List.mem_append_left _ (h.known credential hcredential)
      · rw [List.mem_singleton.mp hcredential]
        exact List.mem_append_right _ List.mem_cons_self
    · intro a ha b hb hhash
      rcases List.mem_append.mp ha with ha | ha <;> rcases List.mem_append.mp hb with hb | hb
      · exact h.unique a ha b hb hhash
      · rw [List.mem_singleton.mp hb] at hhash
        exact absurd hhash (hnew a ha)
      · rw [List.mem_singleton.mp ha] at hhash
        exact absurd hhash.symm (hnew b hb)
      · rw [List.mem_singleton.mp ha, List.mem_singleton.mp hb]

theorem issueSession_error {user : User} {token : String} {e : ConsoleError}
    (h : (Security.issueSession settings ids now user token db).2 = .error e) :
    (Security.issueSession settings ids now user token db).1 = db := by
  unfold Security.issueSession at h ⊢
  split
  · rfl
  · rename_i hfree
    rw [if_neg hfree] at h
    exact absurd h (by simp)

theorem issuePat_error {userId : UUID} {name : String} {ttlDays : Int} {random : String}
    {salt : HexText} {e : ConsoleError}
    (h : (Security.issuePat settings ids now userId name ttlDays random salt db).2 = .error e) :
    (Security.issuePat settings ids now userId name ttlDays random salt db).1 = db := by
  unfold Security.issuePat at h ⊢
  dsimp only at h ⊢
  split_ifs at h ⊢
  · rfl
  · rfl

theorem issuePat (h : Refines settings S P now db ledger) {userId : UUID} {name : String}
    {ttlDays : Int} {random token : String} {salt : HexText} {record : UserPat}
    (hissued : (Security.issuePat settings ids now userId name ttlDays random salt db).2 =
      .ok (token, record)) :
    Refines settings S (P ++ ["rpat_" ++ random]) now
      (Security.issuePat settings ids now userId name ttlDays random salt db).1
      (ledger.record (.patCreated token record)) := by
  unfold Security.issuePat at hissued ⊢
  split
  · rename_i hrefused
    rw [if_pos hrefused] at hissued
    exact absurd hissued.symm (by simp)
  · rename_i hallowed
    rw [if_neg hallowed] at hissued
    dsimp only at hissued ⊢
    split
    · rename_i htaken
      rw [if_pos htaken] at hissued
      exact absurd hissued.symm (by simp)
    · rename_i hfree
      rw [if_neg hfree] at hissued
      obtain ⟨rfl, rfl⟩ : "rpat_" ++ random = token ∧
          newPat now userId name ("rpat_" ++ random) ttlDays salt (db.userPats.nextKey ids) =
            record := by simpa using hissued
      refine ⟨h.sessions, h.pats.insert (fun _ => rfl) ⟨rfl, rfl, ⟨salt, rfl⟩, rfl, rfl, rfl⟩, h.known,
        ?_, h.unique⟩
      rw [Ledger.record, List.map_append]
      exact h.drawn.append (List.Sublist.refl _)

/-! ### Revoking -/

theorem sessionTokens_revokeIf {l : List Credential} (p : Credential → Bool)
    (h : ∀ credential ∈ l, credential.token ∈ S) :
    ∀ credential ∈ l.map (Credential.revokeIf p), credential.token ∈ S := by
  intro credential hcredential
  obtain ⟨other, hother, rfl⟩ := List.mem_map.mp hcredential
  unfold Credential.revokeIf
  split <;> exact h other hother

/-- A logout revokes the session of its token and no other. -/
theorem revokeSession (h : Refines settings S P now db ledger) {token : String}
    (hdistinct : ∀ t ∈ S, hashSessionToken settings t = hashSessionToken settings token →
      t = token) :
    Refines settings S P now (Security.revokeSession settings now token db)
      (ledger.record (.loggedOut token)) := by
  -- The credentials of the token are those whose row has its hash.
  have htoken : ∀ row ∈ db.userSessions, ∀ credential ∈ ledger.sessions,
      SessionMatches settings now row credential →
        (row.sessionTokenHash = hashSessionToken settings token ↔ credential.token = token) :=
    fun row _ credential hcredential hmatch => by
      rw [hmatch.hash]
      exact ⟨hdistinct _ (h.known credential hcredential), fun heq => by rw [heq]⟩
  have htokens := sessionTokens_revokeIf (fun c => c.token = token) h.known
  unfold Security.revokeSession
  cases hfind : sessionOf settings token db with
  | none =>
    have hnone := Table.first?_eq_none_iff.mp hfind
    refine ⟨h.sessions.map fun row hrow credential hcredential hmatch => ?_, h.pats, htokens,
      h.drawn, h.unique⟩
    have hne := of_decide_eq_false (hnone row hrow)
    rw [htoken row hrow credential hcredential hmatch] at hne
    rw [Credential.revokeIf, if_neg (by simpa using hne)]
    exact hmatch
  | some found =>
    have hfound := Table.mem_of_first? hfind
    have hpred := Table.pred_of_first? hfind
    have hhash : found.sessionTokenHash = hashSessionToken settings token :=
      of_decide_eq_true hpred
    -- The row that is found is the only one with the hash.
    have hid : ∀ row ∈ db.userSessions, ∀ credential ∈ ledger.sessions,
        SessionMatches settings now row credential →
          (row.id = found.id ↔ credential.token = token) :=
      fun row hrow credential hcredential hmatch => by
        rw [← htoken row hrow credential hcredential hmatch]
        exact ⟨fun heq => by rw [Table.eq_of_key_eq hrow hfound heq, hhash],
          fun heq => by rw [h.unique row hrow found hfound (heq.trans hhash.symm)]⟩
    dsimp only
    split
    · refine ⟨?_, h.pats, htokens, h.drawn, unique_revokeRow h.unique found.id⟩
      refine covers_revokeRow h.sessions found.id
        (fun row hrow credential hcredential hmatch heq => ?_)
        fun row hrow credential hcredential hmatch hne => ?_
      · have hpos := (hid row hrow credential hcredential hmatch).mp heq
        rw [Credential.revokeIf, if_pos (by simpa using hpos)]
        exact ⟨hmatch.id, hmatch.hash, hmatch.owner, hmatch.expires,
          fun hnone => absurd hnone (Option.some_ne_none _), fun _ => Or.inl rfl⟩
      · have hneg := fun hpos => hne ((hid row hrow credential hcredential hmatch).mpr hpos)
        rw [Credential.revokeIf, if_neg (by simpa using hneg)]
        exact hmatch
    · rename_i hmarked
      refine ⟨h.sessions.map fun row hrow credential hcredential hmatch => ?_, h.pats, htokens,
        h.drawn, h.unique⟩
      unfold Credential.revokeIf
      split
      · rename_i hpos
        obtain rfl := Table.eq_of_key_eq hrow hfound
          ((hid row hrow credential hcredential hmatch).mpr (by simpa using hpos))
        exact ⟨hmatch.id, hmatch.hash, hmatch.owner, hmatch.expires,
          fun hnone => absurd (by rw [hnone]; rfl) hmarked, fun _ => Or.inl rfl⟩
      · exact hmatch

theorem map_token_revokeIf (l : List Credential) (p : Credential → Bool) :
    (l.map (Credential.revokeIf p)).map (·.token) = l.map (·.token) := by
  rw [List.map_map]
  refine List.map_congr_left fun credential _ => ?_
  change (Credential.revokeIf p credential).token = credential.token
  unfold Credential.revokeIf
  split <;> rfl

/-- A token that is found is marked, and one that is marked stays so. -/
theorem markPat (h : Refines settings S P now db ledger) {record : UserPat}
    (hrecord : record ∈ db.userPats) :
    Refines settings S P now
      (if record.revokedAt.isNone then Authentication.markPat now db record.id else db)
      (ledger.record (.patRevoked record.id)) := by
  have htokens : ((ledger.pats.map (Credential.revokeIf fun c => c.id = record.id)).map
      (·.token)).Sublist P := by
    rw [map_token_revokeIf]
    exact h.drawn
  split
  · refine ⟨h.sessions, ?_, h.known, htokens, h.unique⟩
    refine Table.Covers.update h.pats (f := fun row : UserPat => { row with revokedAt := some now })
      (fun _ => rfl) fun row hrow credential hcredential hmatch => ?_
    unfold Table.rewrite Credential.revokeIf
    beta_reduce
    rw [hmatch.id]
    split
    · exact ⟨rfl, hmatch.tokenPrefix, hmatch.hash, hmatch.owner, hmatch.expires, rfl⟩
    · exact hmatch
  · rename_i hmarked
    refine ⟨h.sessions, h.pats.map fun row hrow credential hcredential hmatch => ?_,
      h.known, htokens, h.unique⟩
    unfold Credential.revokeIf
    split
    · rename_i hpos
      have hid : row.id = record.id := hmatch.id.trans (of_decide_eq_true hpos)
      obtain rfl := Table.eq_of_key_eq hrow hrecord hid
      refine ⟨hmatch.id, hmatch.tokenPrefix, hmatch.hash, hmatch.owner, hmatch.expires, ?_⟩
      cases hrow' : row.revokedAt with
      | none => exact absurd (by rw [hrow']; rfl) hmarked
      | some at_ => rfl
    · exact hmatch

/-! ### Every call -/

theorem loginUser (h : Refines settings S P now db ledger) (username password : String)
    (salt : HexText) : Refines settings S P now
      (Authentication.loginUser settings ids username password salt db).1 ledger := by
  have hrows : (Authentication.loginUser settings ids username password salt db).1.userSessions =
      db.userSessions ∧ (Authentication.loginUser settings ids username password salt db).1.userPats =
        db.userPats := by
    unfold Authentication.loginUser ensureSeedUser
    repeat' split
    all_goals exact ⟨rfl, rfl⟩
  exact h.of_rows hrows.1 (hrows.2 ▸ h.pats)

theorem login (h : Refines settings S P now db ledger) (username password random : String)
    (salt : HexText) : Refines settings (S ++ [random]) P now
      (step settings ids now db (.login username password random salt)).1
      (ledger.record (step settings ids now db (.login username password random salt)).2) := by
  have huser := @loginUser settings ids now db ledger S P h username password salt
  have hkept : ∀ db', Refines settings S P now db' ledger →
      Refines settings (S ++ [random]) P now db' ledger := fun db' h' =>
    h'.tokens (fun t ht => List.mem_append_left [random] ht) (List.Sublist.refl P)
  unfold step Authentication.login
  dsimp only
  cases hfound : Authentication.loginUser settings ids username password salt db with
  | mk db₁ found =>
    rw [hfound] at huser
    cases found with
    | none => exact hkept db₁ huser
    | some user =>
      dsimp only
      cases verifyPassword settings password user.passwordHash with
      | error e => exact hkept db₁ huser
      | ok verified =>
        cases verified with
        | false => exact hkept db₁ huser
        | true =>
          dsimp only
          split_ifs
          · exact hkept db₁ huser
          · cases hissued : Security.issueSession settings ids now user random db₁ with
            | mk db₂ issued =>
              cases issued with
              | error e =>
                have hkeep := issueSession_error (by rw [hissued])
                rw [hissued] at hkeep
                rw [hkeep]
                exact hkept db₁ huser
              | ok record =>
                have hnext := @issueSession settings ids now db₁ ledger S P huser user random
                  record (by rw [hissued])
                rw [hissued] at hnext
                exact hnext

theorem createPat (h : Refines settings S P now db ledger) (consoleSession : Option String)
    (name : String) (expiresInDays : Int) (random : String) (salt : HexText) :
    Refines settings S (P ++ ["rpat_" ++ random]) now
      (step settings ids now db (.createPat consoleSession name expiresInDays random salt)).1
      (ledger.record
        (step settings ids now db (.createPat consoleSession name expiresInDays random salt)).2) := by
  have huser := h.requireConsoleUser consoleSession
  have hkept : ∀ db', Refines settings S P now db' ledger →
      Refines settings S (P ++ ["rpat_" ++ random]) now db' ledger := fun db' h' =>
    h'.tokens (fun _ ht => ht) (List.sublist_append_left P _)
  unfold step Authentication.createPat
  dsimp only
  cases hfound : Authentication.requireConsoleUser settings now consoleSession db with
  | mk db₁ found =>
    rw [hfound] at huser
    cases found with
    | error e => exact hkept db₁ huser
    | ok user =>
      dsimp only
      by_cases hrefused : expiresInDays ∉ settings.patAllowedTtlDays
      · rw [if_pos hrefused]
        exact hkept db₁ huser
      · rw [if_neg hrefused]
        cases hissued : Security.issuePat settings ids now user.id name expiresInDays random salt
          db₁ with
        | mk db₂ issued =>
          cases issued with
          | error e =>
            have hkeep := issuePat_error (by rw [hissued])
            rw [hissued] at hkeep
            obtain rfl : db₂ = db₁ := hkeep
            cases e <;> exact hkept db₂ huser
          | ok issued =>
            have hnext := @issuePat settings ids now db₁ ledger S P huser user.id name expiresInDays
              random issued.1 salt issued.2 (by rw [hissued])
            rw [hissued] at hnext
            exact hnext

theorem revokePat (h : Refines settings S P now db ledger) (consoleSession : Option String)
    (patId : UUID) : Refines settings S P now
      (step settings ids now db (.revokePat consoleSession patId)).1
      (ledger.record (step settings ids now db (.revokePat consoleSession patId)).2) := by
  have huser := h.requireConsoleUser consoleSession
  unfold step Authentication.revokePat
  dsimp only
  cases hfound : Authentication.requireConsoleUser settings now consoleSession db with
  | mk db₁ found =>
    rw [hfound] at huser
    cases found with
    | error e => exact huser
    | ok user =>
      dsimp only
      cases hrecord : db₁.userPats.first? fun row => row.id = patId && row.userId = user.id with
      | none => exact huser
      | some record =>
        have hpred := Table.pred_of_first? hrecord
        rw [Bool.and_eq_true, decide_eq_true_iff] at hpred
        have hnext := huser.markPat (Table.mem_of_first? hrecord)
        rw [hpred.1] at hnext
        rw [← hpred.1] at hnext ⊢
        exact hnext

/-- **Every call keeps tables and ledger together.** -/
theorem step (h : Refines settings S P now db ledger) (call : Call)
    (hdistinct : ∀ t ∈ S, ∀ t' ∈ sessionTokens call,
      hashSessionToken settings t = hashSessionToken settings t' → t = t') :
    Refines settings (S ++ sessionTokens call) (P ++ patTokens call) now
      (Authentication.step settings ids now db call).1
      (ledger.record (Authentication.step settings ids now db call).2) := by
  have hnone : Refines settings (S ++ []) (P ++ []) now db ledger := by
    rw [List.append_nil, List.append_nil]
    exact h
  cases call with
  | login username password random salt =>
    change Refines settings (S ++ [random]) (P ++ []) now _ _
    rw [List.append_nil]
    exact h.login username password random salt
  | logout consoleSession =>
    have hkept := h.tokens (fun t ht => List.mem_append_left [consoleSession.getD ""] ht)
      (List.Sublist.refl P)
    unfold Authentication.step Authentication.logout
    change Refines settings (S ++ [consoleSession.getD ""]) (P ++ []) now _ _
    rw [List.append_nil]
    dsimp only
    split
    · exact hkept
    · exact (h.revokeSession fun t ht => hdistinct t ht _ List.mem_cons_self).tokens
        (fun t ht => List.mem_append_left _ ht) (List.Sublist.refl P)
  | createPat consoleSession name expiresInDays random salt =>
    change Refines settings (S ++ []) (P ++ ["rpat_" ++ random]) now _ _
    rw [List.append_nil]
    exact h.createPat consoleSession name expiresInDays random salt
  | revokePat consoleSession patId =>
    change Refines settings (S ++ []) (P ++ []) now _ _
    rw [List.append_nil, List.append_nil]
    exact h.revokePat consoleSession patId
  | setStatus userId status => exact hnone.of_rows rfl hnone.pats
  | consoleRequest consoleSession => exact hnone.requireConsoleUser consoleSession
  | request authorization consoleSession =>
    have hnext := hnone.resolvePrincipal authorization consoleSession
    unfold Authentication.step
    dsimp only
    split <;> rename_i heq <;> rw [heq] at hnext <;> exact hnext

/-- **Every run keeps tables and ledger together.** -/
theorem run {console : Console} (h : Refines settings S P console.clock console.db console.ledger)
    (calls : List (ℕ × Call))
    (hdistinct : ∀ t ∈ S ++ calls.flatMap fun call => sessionTokens call.2,
      ∀ t' ∈ S ++ calls.flatMap fun call => sessionTokens call.2,
        hashSessionToken settings t = hashSessionToken settings t' → t = t') :
    Refines settings (S ++ calls.flatMap fun call => sessionTokens call.2)
      (P ++ calls.flatMap fun call => patTokens call.2)
      (calls.foldl (Console.next settings ids) console).clock
      (calls.foldl (Console.next settings ids) console).db
      (calls.foldl (Console.next settings ids) console).ledger := by
  induction calls generalizing console S P with
  | nil =>
    rw [List.flatMap_nil, List.flatMap_nil, List.append_nil, List.append_nil]
    exact h
  | cons call calls ih =>
    rw [List.flatMap_cons, List.flatMap_cons, ← List.append_assoc, ← List.append_assoc]
    rw [List.flatMap_cons, ← List.append_assoc] at hdistinct
    have hlater := h.later (Nat.le_add_right console.clock call.1)
    refine @ih (S ++ sessionTokens call.2) (P ++ patTokens call.2)
      (console.next settings ids call) (@step settings ids _ _ _ S P hlater call.2
        fun t ht t' ht' => hdistinct t ?_ t' ?_) hdistinct
    · exact List.mem_append_left _ (List.mem_append_left _ ht)
    · exact List.mem_append_left _ (List.mem_append_right _ ht')

end Refines

/-! ## Resolving -/

/-- The row is in use, and the token opens it. -/
def Opened (now : DateTime) (token : String) (row : UserPat) : Prop :=
  row.revokedAt = none ∧ ¬ row.expiresAt ≤ now ∧ verifyPat token row.tokenHash = .ok true

/-- The loop over the rows ends with one that is opened, when there is one. -/
theorem firstOpened_spec {token : String} {rows : List UserPat}
    (h : ∀ row ∈ rows, ∃ verified, verifyPat token row.tokenHash = .ok verified) :
    ∃ found, firstOpened now token rows = .ok found ∧
      (∀ row, found = some row → row ∈ rows ∧ Opened now token row) ∧
      (found = none → ∀ row ∈ rows, ¬ Opened now token row) := by
  induction rows with
  | nil => exact ⟨none, rfl, fun row hrow => absurd hrow.symm (Option.some_ne_none row),
      fun _ row hrow => absurd hrow List.not_mem_nil⟩
  | cons first rows ih =>
    obtain ⟨⟨verified, hverified⟩, hrest⟩ := List.forall_mem_cons.mp h
    obtain ⟨found, hfound, hsome, hnone⟩ := ih hrest
    -- A row that is passed over is not opened, and the loop goes on.
    have hpass : ¬ Opened now token first → firstOpened now token (first :: rows) =
        firstOpened now token rows → ∃ found, firstOpened now token (first :: rows) = .ok found ∧
          (∀ row, found = some row → row ∈ first :: rows ∧ Opened now token row) ∧
          (found = none → ∀ row ∈ first :: rows, ¬ Opened now token row) := by
      intro hclosed hgo
      refine ⟨found, hgo.trans hfound, fun row hrow => ?_, fun hno => ?_⟩
      · exact (hsome row hrow).imp_left (List.mem_cons_of_mem _)
      · exact List.forall_mem_cons.mpr ⟨hclosed, hnone hno⟩
    by_cases hrevoked : first.revokedAt.isSome = true
    · refine hpass (fun hopened => ?_) (by rw [firstOpened, if_pos hrevoked])
      rw [hopened.1] at hrevoked
      exact Bool.false_ne_true hrevoked
    · by_cases hexpired : first.expiresAt ≤ now
      · refine hpass (fun hopened => hopened.2.1 hexpired) ?_
        rw [firstOpened, if_neg hrevoked, if_pos hexpired]
      · cases verified with
        | false =>
          refine hpass (fun hopened => ?_) ?_
          · rw [hopened.2.2] at hverified
            exact absurd (Except.ok.inj hverified) (by decide)
          · rw [firstOpened, if_neg hrevoked, if_neg hexpired, hverified]
        | true =>
          refine ⟨some first, by rw [firstOpened, if_neg hrevoked, if_neg hexpired, hverified],
            fun row hrow => ?_, fun hno => absurd hno (Option.some_ne_none first)⟩
          rw [← Option.some_inj.mp hrow]
          exact ⟨List.mem_cons_self, Option.not_isSome_iff_eq_none.mp hrevoked, hexpired,
            hverified⟩

namespace Refines

variable {token : String}

/-- A row is opened by the token of its credential, and by no other. -/
theorem opened_iff {row : UserPat} {credential : Credential} (h : PatMatches row credential)
    (hdistinct : ∀ salt : HexText, derived token salt.text defaultIterations =
      derived credential.token salt.text defaultIterations → token = credential.token) :
    Opened now token row ↔ credential.token = token ∧ credential.Valid now := by
  obtain ⟨salt, hsalt⟩ := h.hash
  have hrevoked : row.revokedAt = none ↔ credential.revoked = false := by
    rw [← h.revoked]
    exact Option.isNone_iff_eq_none.symm.trans Option.isSome_eq_false_iff.symm
  unfold Opened Credential.Valid
  rw [hsalt, hashPat, verifyPat, verifyStored_storedHash, hrevoked, h.expires, not_le]
  have hverified : (Except.ok (decide (derived token salt.text defaultIterations =
      derived credential.token salt.text defaultIterations)) : Except ConsoleError Bool) =
        .ok true ↔ credential.token = token := by
    rw [Except.ok.injEq, decide_eq_true_iff]
    exact ⟨fun heq => (hdistinct salt heq).symm, fun heq => by rw [heq]⟩
  rw [hverified]
  tauto

/-- A session is resolved exactly when it is valid and its owner is active. -/
theorem getUserForSession_iff (h : Refines settings S P now db ledger)
    (hdistinct : ∀ t ∈ S, hashSessionToken settings t = hashSessionToken settings token →
      t = token) (user : User) :
    (Security.getUserForSession settings now token db).2 = some user ↔
      ∃ owner, Opens ledger.sessions now token owner ∧ db.users.get? owner = some user ∧
        user.status = "active" := by
  have hsame : ∀ row ∈ db.userSessions, row.sessionTokenHash = hashSessionToken settings token →
      ∀ owner, (Opens ledger.sessions now token owner ↔
        (row.revokedAt = none ∧ ¬ row.expiresAt ≤ now) ∧ row.userId = owner) := by
    intro row hrow hhash owner
    constructor
    · rintro ⟨credential, hcredential, htoken, hvalid, howner⟩
      obtain ⟨other, hother, hmatch⟩ := h.sessions.tells credential hcredential
      obtain rfl := h.unique other hother row hrow
        (hmatch.hash.trans (htoken ▸ hhash.symm))
      exact ⟨hmatch.valid_iff.mp hvalid, hmatch.owner.trans howner⟩
    · rintro ⟨hlive, howner⟩
      obtain ⟨credential, hcredential, hmatch⟩ := h.sessions.told row hrow
      exact ⟨credential, hcredential,
        hdistinct _ (h.known credential hcredential) (hmatch.hash.symm.trans hhash),
        hmatch.valid_iff.mpr hlive, hmatch.owner.symm.trans howner⟩
  unfold Security.getUserForSession
  cases hfind : sessionOf settings token db with
  | none =>
    have hnone := Table.first?_eq_none_iff.mp hfind
    refine iff_of_false (Option.some_ne_none user).symm ?_
    rintro ⟨owner, ⟨credential, hcredential, htoken, -⟩, -⟩
    obtain ⟨row, hrow, hmatch⟩ := h.sessions.tells credential hcredential
    exact of_decide_eq_false (hnone row hrow) (hmatch.hash.trans (by rw [htoken]))
  | some row =>
    have hpred := Table.pred_of_first? hfind
    have howners := hsame row (Table.mem_of_first? hfind) (of_decide_eq_true hpred)
    simp only [howners]
    by_cases hrevoked : row.revokedAt = none
    · by_cases hexpired : row.expiresAt ≤ now
      · simp [hrevoked, hexpired]
      · cases huser : db.users.get? row.userId with
        | none => simp [hrevoked, hexpired, huser]
        | some found =>
          by_cases hactive : found.status = "active"
          · simp [hrevoked, hexpired, huser, hactive]
            rintro rfl
            exact hactive
          · simp [hrevoked, hexpired, huser, hactive]
            rintro rfl
            exact hactive
    · simp [hrevoked, Option.isSome_iff_ne_none.mpr hrevoked]

/-- An access token is resolved exactly when it is valid; the user it names is its owner. -/
theorem getPatForToken_spec (h : Refines settings S P now db ledger) (hne : token ≠ "")
    (hfresh : P.Nodup)
    (hdistinct : ∀ t ∈ P, ∀ salt : HexText, derived token salt.text defaultIterations =
      derived t salt.text defaultIterations → token = t) :
    ∃ found, (Security.getPatForToken now token db).2 = .ok found ∧
      ∀ owner, (∃ pat, found = some pat ∧ pat.userId = owner) ↔
        Opens ledger.pats now token owner := by
  have htokens : ∀ credential ∈ ledger.pats, credential.token ∈ P := fun credential hcredential =>
    h.drawn.subset (List.mem_map_of_mem hcredential)
  have hopened : ∀ row credential, credential ∈ ledger.pats → PatMatches row credential →
      (Opened now token row ↔ credential.token = token ∧ credential.Valid now) :=
    fun row credential hcredential hmatch =>
      opened_iff hmatch (hdistinct _ (htokens credential hcredential))
  have hverified : ∀ row ∈ db.userPats.select fun row => row.tokenPrefix = buildTokenPrefix token,
      ∃ verified, verifyPat token row.tokenHash = .ok verified := by
    intro row hrow
    obtain ⟨credential, -, hmatch⟩ := h.pats.told row (Table.mem_select.mp hrow).1
    obtain ⟨salt, hsalt⟩ := hmatch.hash
    exact ⟨_, by rw [hsalt, hashPat, verifyPat, verifyStored_storedHash]⟩
  obtain ⟨found, hfound, hsome, hnone⟩ := @firstOpened_spec now token _ hverified
  unfold Security.getPatForToken
  rw [if_neg hne, hfound]
  cases found with
  | none =>
    refine ⟨none, rfl, fun owner => iff_of_false ?_ ?_⟩
    · rintro ⟨pat, hpat, -⟩
      exact Option.some_ne_none pat hpat.symm
    · rintro ⟨credential, hcredential, htoken, hvalid, -⟩
      obtain ⟨row, hrow, hmatch⟩ := h.pats.tells credential hcredential
      refine hnone rfl row (Table.mem_select.mpr ⟨hrow, ?_⟩)
        ((hopened row credential hcredential hmatch).mpr ⟨htoken, hvalid⟩)
      rw [hmatch.tokenPrefix, htoken]
      exact decide_eq_true rfl
  | some row =>
    obtain ⟨hrow, hrowOpened⟩ := hsome row rfl
    obtain ⟨credential, hcredential, hmatch⟩ := h.pats.told row (Table.mem_select.mp hrow).1
    obtain ⟨htoken, hvalid⟩ :=
      (hopened row credential hcredential hmatch).mp hrowOpened
    refine ⟨_, rfl, fun owner => ⟨?_, ?_⟩⟩
    · rintro ⟨pat, hpat, howner⟩
      rw [← Option.some_inj.mp hpat] at howner
      exact ⟨credential, hcredential, htoken, hvalid, hmatch.owner.symm.trans howner⟩
    · rintro ⟨other, hother, htoken', -, howner⟩
      obtain rfl := List.inj_on_of_nodup_map (h.drawn.nodup hfresh) hother hcredential
        (htoken'.trans htoken.symm)
      exact ⟨_, rfl, hmatch.owner.trans howner⟩

end Refines

/-! ## Requests -/

/-- The principal of a request: on the path of the access tokens the owner is not looked at. -/
def Named (db : ConsoleDb) (ledger : Ledger) (now : DateTime) (principal : Principal) :
    Presented → Prop
  | .pat token => ∃ owner, Opens ledger.pats now token owner ∧
      principal = principalOf "skills" owner
  | .session token => ∃ owner, Opens ledger.sessions now token owner ∧ IsActive db owner ∧
      principal = principalOf "web_console" owner

theorem resolvePrincipal_iff (h : Refines settings S P now db ledger)
    {authorization consoleSession : Option String} (hfresh : P.Nodup)
    (hdistinct : Distinguished settings
      (S ++ (presented authorization consoleSession).toList.flatMap Presented.sessionTokens)
      (P ++ (presented authorization consoleSession).toList.flatMap Presented.patTokens))
    (principal : Principal) :
    (Authentication.resolvePrincipal settings now authorization consoleSession db).2 =
        .ok principal ↔
      ∃ token ∈ presented authorization consoleSession, Named db ledger now principal token := by
  unfold presented at hdistinct ⊢
  unfold Authentication.resolvePrincipal
  cases hbearer : parseBearerToken authorization with
  | error e => simp
  | ok bearer =>
    rw [hbearer] at hdistinct
    dsimp only at hdistinct ⊢
    by_cases hpat : bearer.getD "" ≠ ""
    · rw [if_pos hpat] at hdistinct ⊢
      rw [if_pos hpat]
      obtain ⟨found, hfound, howner⟩ := h.getPatForToken_spec hpat hfresh fun t ht salt =>
        hdistinct.pats _ (List.mem_append_right _ (by simp [Presented.patTokens])) t
          (List.mem_append_left _ ht) salt
      have hnamed : (∃ token ∈ some (Presented.pat (bearer.getD "")),
          Named db ledger now principal token) ↔
          ∃ pat, found = some pat ∧ principal = principalOf "skills" pat.userId := by
        simp only [Option.mem_def, Option.some.injEq, exists_eq_left', Named, ← howner]
        constructor
        · rintro ⟨owner, ⟨pat, hpat, rfl⟩, hprincipal⟩
          exact ⟨pat, hpat, hprincipal⟩
        · rintro ⟨pat, hpat, hprincipal⟩
          exact ⟨pat.userId, ⟨pat, hpat, rfl⟩, hprincipal⟩
      rw [hnamed]
      cases hrun : getPatForToken now (bearer.getD "") db with
      | mk db₁ result =>
        rw [hrun] at hfound
        obtain rfl : result = .ok found := hfound
        cases found with
        | none => simp
        | some pat => simp [eq_comm]
    · rw [if_neg hpat] at hdistinct ⊢
      rw [if_neg hpat]
      by_cases hsession : consoleSession.getD "" ≠ ""
      · rw [if_pos hsession] at hdistinct ⊢
        rw [if_pos hsession]
        have huser := h.getUserForSession_iff fun t ht heq => hdistinct.sessions t
          (List.mem_append_left _ ht) (consoleSession.getD "")
          (List.mem_append_right _ (by simp [Presented.sessionTokens])) heq
        have hnamed : (∃ token ∈ some (Presented.session (consoleSession.getD "")),
            Named db ledger now principal token) ↔
            ∃ user, (getUserForSession settings now (consoleSession.getD "") db).2 = some user ∧
              principal = principalOf "web_console" user.id := by
          simp only [Option.mem_def, Option.some.injEq, exists_eq_left', Named, huser]
          constructor
          · rintro ⟨owner, hopens, ⟨user, hget, hactive⟩, hprincipal⟩
            have hid : user.id = owner := Table.key_of_get? hget
            exact ⟨user, ⟨owner, hopens, hget, hactive⟩, by rw [hprincipal, hid]⟩
          · rintro ⟨user, ⟨owner, hopens, hget, hactive⟩, hprincipal⟩
            have hid : user.id = owner := Table.key_of_get? hget
            exact ⟨owner, hopens, ⟨user, hget, hactive⟩, by rw [hprincipal, hid]⟩
        rw [hnamed]
        cases getUserForSession settings now (consoleSession.getD "") db with
        | mk db₁ result =>
          cases result with
          | none => simp
          | some user => simp [eq_comm]
      · rw [if_neg hsession] at hdistinct ⊢
        rw [if_neg hsession]
        simp

theorem refines_run (settings : AuthSettings) (ids : IdSource) (users : Table User)
    (calls : List (ℕ × Call))
    (hdistinct : ∀ t ∈ calls.flatMap fun call => sessionTokens call.2,
      ∀ t' ∈ calls.flatMap fun call => sessionTokens call.2,
        hashSessionToken settings t = hashSessionToken settings t' → t = t') :
    Refines settings (calls.flatMap fun call => sessionTokens call.2)
      (calls.flatMap fun call => patTokens call.2) (Console.run settings ids users calls).clock
      (Console.run settings ids users calls).db (Console.run settings ids users calls).ledger := by
  have hstart : Refines settings [] [] 0 { users := users } {} :=
    ⟨Table.Covers.empty, Table.Covers.empty, fun _ h => absurd h List.not_mem_nil,
      List.Sublist.refl _, fun _ h => absurd h (Table.notMem_empty _)⟩
  exact @Refines.run settings ids [] [] { db := { users := users } } hstart calls hdistinct

/-- **A request is resolved as it should be exactly when no valid access token of a user who is not
active is presented.**  The calls of the run, and the request after it, are arbitrary; the tokens
they draw are new, and no two tokens have one digest. -/
theorem resolved_iff_entitled_iff (settings : AuthSettings) (ids : IdSource) (users : Table User)
    (calls : List (ℕ × Call)) (elapsed : ℕ) (authorization consoleSession : Option String)
    (hfresh : (calls.flatMap fun call => patTokens call.2).Nodup)
    (hdistinct : Distinguished settings
      ((calls.flatMap fun call => sessionTokens call.2) ++
        (presented authorization consoleSession).toList.flatMap Presented.sessionTokens)
      ((calls.flatMap fun call => patTokens call.2) ++
        (presented authorization consoleSession).toList.flatMap Presented.patTokens)) :
    let console := Console.run settings ids users calls
    let now := console.clock + elapsed
    (∀ principal, (resolvePrincipal settings now authorization consoleSession console.db).2 =
        .ok principal ↔ ∃ token ∈ presented authorization consoleSession,
          Entitled console now principal token) ↔
      ∀ token, presented authorization consoleSession = some (.pat token) →
        ∀ owner, Opens console.ledger.pats now token owner → IsActive console.db owner := by
  intro console now
  have hrefines := (refines_run settings ids users calls fun t ht t' ht' =>
    hdistinct.sessions t (List.mem_append_left _ ht) t' (List.mem_append_left _ ht')).later
      (Nat.le_add_right console.clock elapsed)
  simp only [@resolvePrincipal_iff settings now console.db console.ledger _ _ hrefines
    authorization consoleSession hfresh hdistinct]
  cases presented authorization consoleSession with
  | none => simp
  | some token =>
    cases token with
    | session token =>
      refine iff_of_true (fun principal => ?_) fun token htoken => ?_
      · simp only [Option.mem_def, Option.some.injEq, exists_eq_left', Named, Entitled]
      · exact absurd (Option.some_inj.mp htoken) fun heq => by cases heq
    | pat token =>
      simp only [Option.mem_def, Option.some.injEq, exists_eq_left', Named, Entitled,
        Presented.pat.injEq, forall_eq']
      constructor
      · intro hall owner hopens
        obtain ⟨other, -, hactive, hprincipal⟩ :=
          (hall (principalOf "skills" owner)).mp ⟨owner, hopens, rfl⟩
        have howner : some owner = some other := congrArg Principal.userId hprincipal
        rwa [Option.some_inj.mp howner]
      · intro hall principal
        constructor
        · rintro ⟨owner, hopens, hprincipal⟩
          exact ⟨owner, hopens, hall owner hopens, hprincipal⟩
        · rintro ⟨owner, hopens, -, hprincipal⟩
          exact ⟨owner, hopens, hprincipal⟩

end Credentials

/-! ## A user who was deactivated -/

namespace Credentials.DeactivatedSample

def settings : AuthSettings := { sessionSecret := "console" }

def salt : HexText := ⟨"00ff", Text.forall_mem_toList (by decide)⟩

/-- A user whose password is `secret`, derived in one iteration. -/
def users : Table User :=
  .single
    { id := 1, username := "ada",
      passwordHash := "pbkdf2_sha256$1$00ff$" ++ derived "secret" "00ff" 1 }

/-- The user logs in, issues a token, and is deactivated. -/
def calls : List (ℕ × Call) :=
  [(0, .login "ada" "secret" "cookie" salt),
    (1, .createPat (some "cookie") "ci" 3 "token" salt),
    (1, .setStatus 1 "inactive")]

def console : Console :=
  Console.run settings IdSource.ascending users calls

def bearer : Option String :=
  some "Bearer rpat_token"

/-- What the calls leave, and their tokens. -/
theorem console_eq :
    (console.ledger.pats.map fun c => (c.token, c.owner, c.expiresAt, c.revoked)) =
        [("rpat_token", 1, 259200000001, false)] ∧
      (console.db.users.get? 1).map (·.status) = some "inactive" ∧
      console.clock + 3600000000 < 259200000001 ∧
      parseBearerToken bearer = .ok (some "rpat_token") ∧
      (calls.flatMap fun call => sessionTokens call.2) = ["cookie"] ∧
      (calls.flatMap fun call => patTokens call.2) = ["rpat_token"] := by
  decide +kernel

theorem presented_bearer : presented bearer none = some (.pat "rpat_token") := by
  obtain ⟨-, -, -, hparse, -, -⟩ := console_eq
  unfold presented
  rw [hparse]
  exact if_pos (by decide)

theorem fresh : (calls.flatMap fun call => patTokens call.2).Nodup := by
  obtain ⟨-, -, -, -, -, htokens⟩ := console_eq
  rw [htokens]
  exact List.nodup_singleton _

/-- All tokens of one kind are one token here. -/
theorem distinguished : Distinguished settings
    ((calls.flatMap fun call => sessionTokens call.2) ++
      (presented bearer none).toList.flatMap Presented.sessionTokens)
    ((calls.flatMap fun call => patTokens call.2) ++
      (presented bearer none).toList.flatMap Presented.patTokens) := by
  obtain ⟨-, -, -, -, hsessions, hpats⟩ := console_eq
  rw [presented_bearer, hsessions, hpats]
  constructor
  · intro t ht t' ht' _
    rw [List.mem_singleton.mp ht, List.mem_singleton.mp ht']
  · intro t ht t' ht' _ _
    have hone : ∀ s ∈ ["rpat_token", "rpat_token"], s = "rpat_token" := by simp
    rw [hone t ht, hone t' ht']

/-- The token is that of a valid credential. -/
theorem opens_console : Opens console.ledger.pats (console.clock + 3600000000) "rpat_token" 1 := by
  obtain ⟨hpats, -, hclock, -, -, -⟩ := console_eq
  obtain ⟨credential, hcredential, hfields⟩ : ∃ credential ∈ console.ledger.pats,
      (credential.token, credential.owner, credential.expiresAt, credential.revoked) =
        ("rpat_token", 1, 259200000001, false) := by
    refine List.mem_map.mp ?_
    rw [hpats]
    exact List.mem_cons_self
  simp only [Prod.mk.injEq] at hfields
  obtain ⟨htoken, howner, hexpires, hrevoked⟩ := hfields
  exact ⟨credential, hcredential, htoken, ⟨hrevoked, hexpires ▸ hclock⟩, howner⟩

theorem not_isActive : ¬ IsActive console.db 1 := by
  rintro ⟨user, huser, hactive⟩
  obtain ⟨-, hstatus, -, -, -, -⟩ := console_eq
  rw [huser, Option.map_some, hactive] at hstatus
  exact absurd hstatus (by decide)

theorem resolved_iff_entitled_iff_deactivated :
    (∀ principal, (resolvePrincipal settings (console.clock + 3600000000) bearer none
        console.db).2 = .ok principal ↔ ∃ token ∈ presented bearer none,
          Entitled console (console.clock + 3600000000) principal token) ↔
      ∀ token, presented bearer none = some (.pat token) →
        ∀ owner, Opens console.ledger.pats (console.clock + 3600000000) token owner →
          IsActive console.db owner :=
  resolved_iff_entitled_iff settings IdSource.ascending users calls 3600000000 bearer none fresh
    distinguished

/-- The access token of a deactivated user is resolved. -/
theorem deactivated_resolved :
    ¬ ∀ (settings : AuthSettings) (ids : IdSource) (users : Table User) (calls : List (ℕ × Call))
      (elapsed : ℕ) (authorization consoleSession : Option String),
      (calls.flatMap fun call => patTokens call.2).Nodup →
      Distinguished settings
        ((calls.flatMap fun call => sessionTokens call.2) ++
          (presented authorization consoleSession).toList.flatMap Presented.sessionTokens)
        ((calls.flatMap fun call => patTokens call.2) ++
          (presented authorization consoleSession).toList.flatMap Presented.patTokens) →
      ∀ principal, (resolvePrincipal settings
          ((Console.run settings ids users calls).clock + elapsed) authorization consoleSession
            (Console.run settings ids users calls).db).2 = .ok principal ↔
        ∃ token ∈ presented authorization consoleSession,
          Entitled (Console.run settings ids users calls)
            ((Console.run settings ids users calls).clock + elapsed) principal token := by
  intro hclaim
  have hrefines := (refines_run settings IdSource.ascending users calls fun t ht t' ht' =>
    distinguished.sessions t (List.mem_append_left _ ht) t' (List.mem_append_left _ ht')).later
      (Nat.le_add_right console.clock 3600000000)
  have hresolved : (resolvePrincipal settings (console.clock + 3600000000) bearer none
      console.db).2 = .ok (principalOf "skills" 1) := by
    refine (resolvePrincipal_iff hrefines fresh distinguished _).mpr ?_
    rw [presented_bearer]
    exact ⟨_, rfl, 1, opens_console, rfl⟩
  obtain ⟨token, htoken, hentitled⟩ := (hclaim settings IdSource.ascending users calls 3600000000
    bearer none fresh distinguished (principalOf "skills" 1)).mp hresolved
  rw [presented_bearer] at htoken
  obtain rfl := Option.some_inj.mp htoken
  obtain ⟨owner, -, hactive, hprincipal⟩ := hentitled
  have howner : some 1 = some owner := congrArg Principal.userId hprincipal
  exact not_isActive (Option.some_inj.mp howner ▸ hactive)

end Credentials.DeactivatedSample

end Runlet
