import NpdPortal.Identity.Accounts

/-!
# Logins, session checks and logouts

The services of `identity/` statement by statement.  A login writes its rows in
one transaction, whose statements are the `LoginPoint`s; a session check reads
two rows and may write `last_seen_at` in a transaction of its own; a logout
reads the session and revokes it.
-/

namespace NpdPortal

/-- The exceptions of the identity services, with their texts. -/
inductive IdentityError where
  | httpException (status : ℕ) (detail : String)
  | runtimeError (message : String)
  | integrityError
  deriving DecidableEq, Repr

/-- The configuration of the sessions and the digest of the tokens. -/
structure IdentityConfig where
  /-- `sha256(token.encode()).hexdigest()`. -/
  sha256 : String → String
  sessionMaxAgeSeconds : ℤ

/-- `timedelta(seconds=settings.session_max_age_seconds)`. -/
def IdentityConfig.sessionMaxAge (config : IdentityConfig) : Time :=
  config.sessionMaxAgeSeconds * 1000000

/-! ## The login -/

/-- What the identity provider says about the user. -/
structure UserInfo where
  iss : String
  sub : String
  email : Option String
  emailVerified : Option Bool
  deriving DecidableEq, Repr

/-- A verified external identity. -/
structure VerifiedIdentity where
  issuer : String
  subject : String
  email : String
  deriving DecidableEq, Repr

def VerifiedIdentity.pair (verified : VerifiedIdentity) : String × String :=
  (verified.issuer, verified.subject)

/-- The first check of `auth_callback`; an empty address counts as missing. -/
def UserInfo.verified (info : UserInfo) : Except IdentityError VerifiedIdentity :=
  match info.email with
  | some email =>
      if email ≠ "" ∧ info.emailVerified = some true then
        .ok { issuer := info.iss, subject := info.sub, email }
      else .error (.httpException 403 "Email not verified")
  | none => .error (.httpException 403 "Email not verified")

/-- The values a login is given: fresh ids, a fresh token and the times. -/
structure LoginContext where
  userId : Uuid
  identityId : Uuid
  sessionId : Uuid
  token : String
  now : Time
  dbNow : Time
  deriving DecidableEq, Repr

/-- `create_application_session`. -/
def createApplicationSession (config : IdentityConfig) (context : LoginContext) (userId : Uuid) :
    ApplicationSession where
  id := context.sessionId
  userId := userId
  tokenHash := config.sha256 context.token
  expiresAt := context.now + config.sessionMaxAge
  lastSeenAt := context.dbNow
  revokedAt := none

/-- The rows of a new account. -/
structure NewAccount where
  user : User
  identity : ExternalIdentity
  quota : UserQuota
  deriving DecidableEq, Repr

/-- The next statement of `_login_and_create_session` with the local variables in scope. -/
inductive LoginPoint where
  | selectingIdentity
  | readingUser (identity : ExternalIdentity)
  | insertingUser
  /-- The user is inserted; the next query flushes the identity first. -/
  | insertingIdentity (user : User)
  | readingPlan (user : User) (identity : ExternalIdentity)
  /-- The commit, with the token it is to return and the time it was issued. -/
  | committing (account : NewAccount ⊕ ExternalIdentity) (session : ApplicationSession)
      (token : String) (issuedAt : Time)
  deriving DecidableEq, Repr

/-- What a statement of a login leads to. -/
inductive LoginOutcome where
  | proceed (point : LoginPoint)
  /-- The transaction is rolled back and the exception is raised. -/
  | raise (error : IdentityError)
  /-- The rows after the commit. -/
  | commit (tables : AccountTables)

/-- The identity of a new user. -/
def newIdentity (context : LoginContext) (verified : VerifiedIdentity) (user : User) :
    ExternalIdentity where
  id := context.identityId
  userId := user.id
  issuer := verified.issuer
  subject := verified.subject
  email := verified.email
  emailVerified := true

/-- The identity of a known user with the address of this login. -/
def ExternalIdentity.withEmail (identity : ExternalIdentity) (email : String) :
    ExternalIdentity :=
  { identity with email, emailVerified := true }

/-- The tables with what a login writes. -/
def Accounts.withLogin (db : Accounts) (account : NewAccount ⊕ ExternalIdentity)
    (session : ApplicationSession) : AccountTables :=
  match account with
  | .inl account => { db.toAccountTables with
      users := db.users ++ [account.user]
      externalIdentities := db.externalIdentities ++ [account.identity]
      userQuotas := db.userQuotas ++ [account.quota]
      applicationSessions := db.applicationSessions ++ [session] }
  | .inr identity => { db.toAccountTables with
      externalIdentities := KeyedRows.replace ExternalIdentity.id identity db.externalIdentities
      applicationSessions := db.applicationSessions ++ [session] }

/-- What a login adds to the sessions. -/
theorem Accounts.sessions_withLogin {db next : Accounts} {account : NewAccount ⊕ ExternalIdentity}
    {session : ApplicationSession} (tables : next.toAccountTables = db.withLogin account session) :
    next.applicationSessions = db.applicationSessions ++ [session] := by
  rw [tables]
  cases account <;> rfl

/-- One statement of `_login_and_create_session`; an insert that must wait is not made here. -/
def VerifiedIdentity.next (verified : VerifiedIdentity) (config : IdentityConfig) (db : Accounts)
    (context : LoginContext) (point : LoginPoint) : LoginOutcome :=
  match point with
  | .selectingIdentity =>
      match db.identity? verified.pair with
      | some identity => .proceed (.readingUser identity)
      | none => .proceed .insertingUser
  | .readingUser identity =>
      match db.user? identity.userId with
      | none => .raise (.runtimeError "identity references missing user")
      | some user =>
          if user.isActive = false then .raise (.httpException 403 "User is inactive")
          else .proceed (.committing (.inr (identity.withEmail verified.email))
            (createApplicationSession config context user.id) context.token context.now)
  | .insertingUser =>
      if context.userId ∈ db.users.map (·.id) then .raise .integrityError
      else .proceed (.insertingIdentity { id := context.userId, isActive := true })
  | .insertingIdentity user =>
      if context.identityId ∈ db.externalIdentities.map (·.id) ∨
          verified.pair ∈ db.externalIdentities.map (·.pair) then .raise .integrityError
      else .proceed (.readingPlan user (newIdentity context verified user))
  | .readingPlan user identity =>
      match db.planByCode? "starter" with
      | none => .raise (.runtimeError "compute plan is missing")
      | some plan =>
          if plan.isActive = false then .raise (.runtimeError "compute plan is inactive")
          else if user.isActive = false then .raise (.httpException 403 "User is inactive")
          else .proceed (.committing
            (.inl { user, identity, quota := ⟨user.id, plan.id, .active⟩ })
            (createApplicationSession config context user.id) context.token context.now)
  | .committing account session _ _ => .commit (db.withLogin account session)

/-! ## The session check -/

/-- `LAST_SEEN_UPDATE_INTERVAL`, five minutes. -/
def lastSeenUpdateInterval : Time := 5 * 60 * 1000000

/-- The checks of `get_current_user` on the rows it has read. -/
def checkSession (session : ApplicationSession) (user : User) (now : Time) :
    Except IdentityError User :=
  if session.revokedAt ≠ none then .error (.httpException 401 "Invalid session")
  else if session.expiresAt ≤ now then .error (.httpException 401 "Invalid session")
  else if user.isActive = false then .error (.httpException 401 "Invalid session")
  else .ok user

/-- `get_current_user` also writes `last_seen_at`. -/
def NeedsTouch (session : ApplicationSession) (now : Time) : Prop :=
  lastSeenUpdateInterval ≤ now - session.lastSeenAt

instance (session : ApplicationSession) (now : Time) : Decidable (NeedsTouch session now) :=
  inferInstanceAs (Decidable (_ ≤ _))

/-- The session of a cookie; without a cookie none is looked up. -/
def Accounts.sessionOfCookie? (db : Accounts) (config : IdentityConfig) (cookie : Option String) :
    Option ApplicationSession :=
  cookie.bind fun token => db.sessionByHash? (config.sha256 token)

/-- What a request without a session ends with. -/
def missingSession (cookie : Option String) : IdentityError :=
  if cookie = none then .httpException 401 "Authentication required"
  else .httpException 401 "Invalid session"

/-- The `UPDATE` of `get_current_user`. -/
def Accounts.touch (db : Accounts) (sessionId : Uuid) (now : Time) : Accounts :=
  db.updateSession sessionId (fun row => { row with lastSeenAt := now }) fun _ => ⟨rfl, rfl, rfl⟩

theorem Accounts.mem_touch {db : Accounts} {sessionId : Uuid} {now : Time}
    {row : ApplicationSession} : row ∈ (db.touch sessionId now).applicationSessions ↔
      ∃ old ∈ db.applicationSessions,
        (if old.id = sessionId then { old with lastSeenAt := now } else old) = row :=
  List.mem_map

/-! ## The logout -/

/-- What `revoke_user_session` is to write after it has read the session. -/
def revocation (session : Option ApplicationSession) (now : Time) : Option (Uuid × Time) :=
  match session with
  | none => none
  | some session => if session.revokedAt ≠ none then none else some (session.id, now)

/-- The flush of `revoke_user_session`. -/
def Accounts.revoke (db : Accounts) : Option (Uuid × Time) → Accounts
  | none => db
  | some (sessionId, now) =>
      db.updateSession sessionId (fun row => { row with revokedAt := some now })
        fun _ => ⟨rfl, rfl, rfl⟩

theorem Accounts.mem_revoke {db : Accounts} {sessionId : Uuid} {now : Time}
    {row : ApplicationSession} : row ∈ (db.revoke (some (sessionId, now))).applicationSessions ↔
      ∃ old ∈ db.applicationSessions,
        (if old.id = sessionId then { old with revokedAt := some now } else old) = row :=
  List.mem_map

end NpdPortal
