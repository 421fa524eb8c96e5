import NpdPortal.Identity.Services
import NpdPortal.Library.LabelledSystem

/-!
# The identity services as a transition system

Any number of callbacks, session checks and logouts are under way at once.
Every statement is a step and sees what was committed before, as with READ
COMMITTED in PostgreSQL.  An inserted identity holds its entry in the unique
index until its transaction ends, and an insert that conflicts with such an
entry waits.
-/

namespace NpdPortal

/-- An `auth_callback` under way. -/
structure Callback where
  id : ℕ
  verified : VerifiedIdentity
  /-- The first attempt was rolled back. -/
  retried : Bool
  point : LoginPoint
  deriving DecidableEq, Repr

/-- The user a callback has inserted and not committed. -/
def Callback.pendingUser? (callback : Callback) : Option Uuid :=
  match callback.point with
  | .insertingIdentity user | .readingPlan user _ => some user.id
  | .committing (.inl account) .. => some account.user.id
  | _ => none

/-- The identity a callback has inserted and not committed. -/
def Callback.pendingIdentity? (callback : Callback) : Option ExternalIdentity :=
  match callback.point with
  | .readingPlan _ identity => some identity
  | .committing (.inl account) .. => some account.identity
  | _ => none

/-- The session a callback is about to commit. -/
def Callback.pendingSession? (callback : Callback) : Option ApplicationSession :=
  match callback.point with
  | .committing _ session .. => some session
  | _ => none

/-- The point of a `get_current_user` under way. -/
inductive CheckPoint where
  | found (session : Option ApplicationSession)
  | checking (session : ApplicationSession) (user : Option User)
  | touching (sessionId : Uuid) (now : Time)
  deriving DecidableEq, Repr

/-- A `get_current_user` under way. -/
structure Check where
  id : ℕ
  cookie : Option String
  point : CheckPoint
  deriving DecidableEq, Repr

/-- A `logout` that has read the session. -/
structure Logout where
  id : ℕ
  cookie : Option String
  session : Option ApplicationSession
  write : Option (Uuid × Time)
  deriving DecidableEq, Repr

/-- The state of the identity services. -/
structure IdentityWorld where
  clock : Time
  db : Accounts
  callbacks : List Callback
  checks : List Check
  logouts : List Logout
  /-- The id of the next request. -/
  nextId : ℕ

/-- A committed login. -/
structure Login where
  verified : VerifiedIdentity
  userId : Uuid
  newUser : Bool
  token : String
  issuedAt : Time
  deriving DecidableEq, Repr

/-- What is observable of a step. -/
inductive IdentityEvent where
  /-- The clock or the plans were changed. -/
  | administered
  | activitySet (userId : Uuid) (active : Bool)
  | begun (id : ℕ) (info : UserInfo)
  /-- A statement that leaves the transaction open. -/
  | proceeded (id : ℕ)
  /-- The first attempt ended with an `IntegrityError`. -/
  | retried (id : ℕ)
  | loggedIn (id : ℕ) (login : Login)
  | raised (id : ℕ) (error : IdentityError)
  /-- The callback was cancelled and rolled back. -/
  | abandoned (id : ℕ)
  | sessionRead (id : ℕ) (cookie : Option String) (session : Option ApplicationSession)
  | userRead (id : ℕ) (user : Option User)
  | decided (id : ℕ) (now : Time) (outcome : Except IdentityError User)
  | touched (id : ℕ)
  | logoutRead (id : ℕ) (cookie : Option String) (session : Option ApplicationSession)
  | loggedOut (id : ℕ) (cookie : Option String) (session : Option ApplicationSession)

/-- The choices of the environment for one step. -/
inductive IdentityAction where
  | tick (later : Time)
  | administer (plans : List ComputePlan)
  | setActive (userId : Uuid) (active : Bool)
  | callback (info : UserInfo)
  | proceed (id : ℕ) (context : LoginContext)
  | abandon (id : ℕ)
  | authenticate (cookie : Option String)
  | continueCheck (id : ℕ)
  | logout (cookie : Option String)
  | commitLogout (id : ℕ)

namespace IdentityWorld

/-- No account exists. -/
def initial (clock : Time) : IdentityWorld where
  clock := clock
  db := { users := [], externalIdentities := [], userQuotas := [], computePlans := []
          applicationSessions := [], valid := by decide }
  callbacks := []
  checks := []
  logouts := []
  nextId := 0

/-- `uuid4` and `token_urlsafe` do not return a value that is in use, and the digest of the token
is not in use either. -/
structure Fresh (world : IdentityWorld) (config : IdentityConfig) (context : LoginContext) :
    Prop where
  userId : context.userId ∉ world.db.users.map (·.id) ∧
    some context.userId ∉ world.callbacks.map (·.pendingUser?)
  identityId : context.identityId ∉ world.db.externalIdentities.map (·.id) ∧
    some context.identityId ∉ world.callbacks.map fun callback =>
      callback.pendingIdentity?.map (·.id)
  sessionId : context.sessionId ∉ world.db.applicationSessions.map (·.id) ∧
    some context.sessionId ∉ world.callbacks.map fun callback =>
      callback.pendingSession?.map (·.id)
  tokenHash : config.sha256 context.token ∉ world.db.applicationSessions.map (·.tokenHash) ∧
    some (config.sha256 context.token) ∉ world.callbacks.map fun callback =>
      callback.pendingSession?.map (·.tokenHash)

theorem fresh_iff (world : IdentityWorld) (config : IdentityConfig) (context : LoginContext) :
    world.Fresh config context ↔
      (context.userId ∉ world.db.users.map (·.id) ∧
        some context.userId ∉ world.callbacks.map (·.pendingUser?)) ∧
      (context.identityId ∉ world.db.externalIdentities.map (·.id) ∧
        some context.identityId ∉ world.callbacks.map fun callback =>
          callback.pendingIdentity?.map (·.id)) ∧
      (context.sessionId ∉ world.db.applicationSessions.map (·.id) ∧
        some context.sessionId ∉ world.callbacks.map fun callback =>
          callback.pendingSession?.map (·.id)) ∧
      (config.sha256 context.token ∉ world.db.applicationSessions.map (·.tokenHash) ∧
        some (config.sha256 context.token) ∉ world.callbacks.map fun callback =>
          callback.pendingSession?.map (·.tokenHash)) :=
  ⟨fun ⟨a, b, c, d⟩ => ⟨a, b, c, d⟩, fun ⟨a, b, c, d⟩ => ⟨a, b, c, d⟩⟩

instance (world : IdentityWorld) (config : IdentityConfig) (context : LoginContext) :
    Decidable (world.Fresh config context) :=
  decidable_of_iff _ (world.fresh_iff config context).symm

/-- Another callback holds the entry which this one is about to insert. -/
def Waits (world : IdentityWorld) (callback : Callback) : Prop :=
  ∃ user, callback.point = .insertingIdentity user ∧
    ∃ other ∈ world.callbacks, other.id ≠ callback.id ∧
      other.pendingIdentity?.map (·.pair) = some callback.verified.pair

instance (world : IdentityWorld) (callback : Callback) : Decidable (world.Waits callback) :=
  match same : callback.point with
  | .insertingIdentity user =>
      decidable_of_iff (∃ other ∈ world.callbacks, other.id ≠ callback.id ∧
          other.pendingIdentity?.map (·.pair) = some callback.verified.pair)
        ⟨fun held => ⟨user, same, held⟩, fun ⟨_, _, held⟩ => held⟩
  | .selectingIdentity | .readingUser _ | .insertingUser | .readingPlan .. | .committing .. =>
      isFalse fun ⟨_, atPoint, _⟩ => by simp [same] at atPoint

/-- The world after a callback has ended. -/
def close (world : IdentityWorld) (id : ℕ) : IdentityWorld :=
  { world with callbacks := world.callbacks.filter (·.id ≠ id) }

/-- The transaction of a callback ended with an exception: `auth_callback` calls
`_login_and_create_session` once more after an `IntegrityError`. -/
def failCallback (world : IdentityWorld) (callback : Callback) (error : IdentityError) :
    IdentityEvent × IdentityWorld :=
  if error = .integrityError ∧ callback.retried = false then
    (.retried callback.id, { world with
      callbacks := KeyedRows.replace Callback.id
        { callback with retried := true, point := .selectingIdentity } world.callbacks })
  else (.raised callback.id error, world.close callback.id)

/-- One statement of a callback. -/
def proceedCallback (config : IdentityConfig) (world : IdentityWorld) (callback : Callback)
    (context : LoginContext) : IdentityEvent × IdentityWorld :=
  match callback.verified.next config world.db context callback.point with
  | .proceed point => (.proceeded callback.id, { world with
      callbacks := KeyedRows.replace Callback.id { callback with point } world.callbacks })
  | .raise error => world.failCallback callback error
  | .commit tables =>
      match Accounts.commit tables, callback.point with
      | some db, .committing account session token issuedAt =>
          (.loggedIn callback.id {
              verified := callback.verified, userId := session.userId
              newUser := account.isLeft, token, issuedAt },
            { world.close callback.id with db })
      | _, _ => world.failCallback callback .integrityError

/-- A session check goes on. -/
def proceedCheck (world : IdentityWorld) (check : Check) : IdentityEvent × IdentityWorld :=
  let others := world.checks.filter (·.id ≠ check.id)
  let goTo point := KeyedRows.replace Check.id { check with point } world.checks
  match check.point with
  | .found none => (.decided check.id world.clock (.error (missingSession check.cookie)),
      { world with checks := others })
  | .found (some session) =>
      let user := world.db.user? session.userId
      (.userRead check.id user, { world with checks := goTo (.checking session user) })
  | .checking _ none => (.decided check.id world.clock
      (.error (.runtimeError "session references missing user")), { world with checks := others })
  | .checking session (some user) =>
      match checkSession session user world.clock with
      | .error error =>
          (.decided check.id world.clock (.error error), { world with checks := others })
      | .ok user => (.decided check.id world.clock (.ok user), { world with
          checks := if NeedsTouch session world.clock then goTo (.touching session.id world.clock)
            else others })
  | .touching sessionId now => (.touched check.id, { world with
      db := world.db.touch sessionId now, checks := others })

/-- One step; `none` when the action is not possible in this state. -/
def step? (config : IdentityConfig) (action : IdentityAction) (world : IdentityWorld) :
    Option (IdentityEvent × IdentityWorld) :=
  match action with
  | .tick later =>
      if world.clock ≤ later then some (.administered, { world with clock := later }) else none
  | .administer plans =>
      match Accounts.commit { world.db.toAccountTables with computePlans := plans } with
      | some db =>
          if ∀ plan ∈ world.db.computePlans, plan.id ∈ plans.map (·.id) then
            some (.administered, { world with db })
          else none
      | none => none
  | .setActive userId active =>
      if userId ∈ world.db.users.map (·.id) then
        some (.activitySet userId active, { world with db := world.db.setActive userId active })
      else none
  | .callback info =>
      match info.verified with
      | .error error => some (.raised world.nextId error, { world with nextId := world.nextId + 1 })
      | .ok verified => some (.begun world.nextId info, { world with
          callbacks := world.callbacks ++
            [{ id := world.nextId, verified, retried := false, point := .selectingIdentity }]
          nextId := world.nextId + 1 })
  | .proceed id context =>
      match KeyedRows.lookup Callback.id id world.callbacks with
      | none => none
      | some callback =>
          if world.Waits callback ∨ ¬world.Fresh config context ∨ context.now ≠ world.clock then
            none
          else some (world.proceedCallback config callback context)
  | .abandon id =>
      if id ∈ world.callbacks.map (·.id) then some (.abandoned id, world.close id) else none
  | .authenticate cookie =>
      let session := world.db.sessionOfCookie? config cookie
      some (.sessionRead world.nextId cookie session, { world with
        checks := world.checks ++ [{ id := world.nextId, cookie, point := .found session }]
        nextId := world.nextId + 1 })
  | .continueCheck id =>
      match KeyedRows.lookup Check.id id world.checks with
      | none => none
      | some check => some (world.proceedCheck check)
  | .logout cookie =>
      let session := world.db.sessionOfCookie? config cookie
      some (.logoutRead world.nextId cookie session, { world with
        logouts := world.logouts ++
          [{ id := world.nextId, cookie, session, write := revocation session world.clock }]
        nextId := world.nextId + 1 })
  | .commitLogout id =>
      match KeyedRows.lookup Logout.id id world.logouts with
      | none => none
      | some logout => some (.loggedOut id logout.cookie logout.session, { world with
          db := world.db.revoke logout.write
          logouts := world.logouts.filter (·.id ≠ id) })

end IdentityWorld

/-- The identity services, started without accounts. -/
def identity (config : IdentityConfig) : LabelledSystem IdentityWorld IdentityEvent :=
  LabelledSystem.ofFunction (fun world => ∃ clock, world = .initial clock)
    (IdentityWorld.step? config)

end NpdPortal
