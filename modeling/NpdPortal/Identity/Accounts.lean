import NpdPortal.Portal.Database

/-!
# Users, identities and application sessions

The tables of the login and of the session check with their declared
constraints.  Like a `Database`, an `Accounts` is a committed state, and a
transaction that would violate a constraint is rejected as a whole.
-/

namespace NpdPortal

/-- A row of `users`. -/
structure User where
  id : Uuid
  isActive : Bool
  deriving DecidableEq, Repr

/-- A row of `external_identities`. -/
structure ExternalIdentity where
  id : Uuid
  userId : Uuid
  issuer : String
  subject : String
  email : String
  emailVerified : Bool
  deriving DecidableEq, Repr

/-- The columns of `uq_external_identities_issuer_subject`. -/
def ExternalIdentity.pair (identity : ExternalIdentity) : String × String :=
  (identity.issuer, identity.subject)

/-- A row of `application_sessions`. -/
structure ApplicationSession where
  id : Uuid
  userId : Uuid
  tokenHash : String
  expiresAt : Time
  lastSeenAt : Time
  revokedAt : Option Time
  deriving DecidableEq, Repr

/-- The tables, in insertion order, without their constraints. -/
structure AccountTables where
  users : List User
  externalIdentities : List ExternalIdentity
  userQuotas : List UserQuota
  computePlans : List ComputePlan
  applicationSessions : List ApplicationSession
  deriving DecidableEq, Repr

/-- The declared constraints. -/
structure AccountTables.Valid (tables : AccountTables) : Prop where
  /-- Primary key of `users`. -/
  userIds : (tables.users.map (·.id)).Nodup
  /-- Primary key of `external_identities`. -/
  identityIds : (tables.externalIdentities.map (·.id)).Nodup
  /-- `uq_external_identities_issuer_subject`. -/
  pairs : (tables.externalIdentities.map (·.pair)).Nodup
  /-- Primary key of `user_quota`. -/
  quotaUsers : (tables.userQuotas.map (·.userId)).Nodup
  /-- Primary key of `compute_plans`. -/
  planIds : (tables.computePlans.map (·.id)).Nodup
  /-- `uq_compute_plans_code`. -/
  planCodes : (tables.computePlans.map (·.code)).Nodup
  /-- Primary key of `application_sessions`. -/
  sessionIds : (tables.applicationSessions.map (·.id)).Nodup
  /-- The unique `application_sessions.token_hash`. -/
  tokenHashes : (tables.applicationSessions.map (·.tokenHash)).Nodup
  /-- Foreign key of `external_identities.user_id`. -/
  identityUsers : ∀ identity ∈ tables.externalIdentities,
    identity.userId ∈ tables.users.map (·.id)
  /-- Foreign key of `user_quota.user_id`. -/
  quotaOwners : ∀ quota ∈ tables.userQuotas, quota.userId ∈ tables.users.map (·.id)
  /-- Foreign key of `user_quota.compute_plan_id`. -/
  quotaPlans : ∀ quota ∈ tables.userQuotas,
    quota.computePlanId ∈ tables.computePlans.map (·.id)
  /-- Foreign key of `application_sessions.user_id`. -/
  sessionUsers : ∀ session ∈ tables.applicationSessions,
    session.userId ∈ tables.users.map (·.id)

theorem AccountTables.valid_iff (tables : AccountTables) : tables.Valid ↔
    (tables.users.map (·.id)).Nodup ∧ (tables.externalIdentities.map (·.id)).Nodup ∧
    (tables.externalIdentities.map (·.pair)).Nodup ∧ (tables.userQuotas.map (·.userId)).Nodup ∧
    (tables.computePlans.map (·.id)).Nodup ∧ (tables.computePlans.map (·.code)).Nodup ∧
    (tables.applicationSessions.map (·.id)).Nodup ∧
    (tables.applicationSessions.map (·.tokenHash)).Nodup ∧
    (∀ identity ∈ tables.externalIdentities, identity.userId ∈ tables.users.map (·.id)) ∧
    (∀ quota ∈ tables.userQuotas, quota.userId ∈ tables.users.map (·.id)) ∧
    (∀ quota ∈ tables.userQuotas, quota.computePlanId ∈ tables.computePlans.map (·.id)) ∧
    (∀ session ∈ tables.applicationSessions, session.userId ∈ tables.users.map (·.id)) := by
  constructor
  · rintro ⟨h1, h2, h3, h4, h5, h6, h7, h8, h9, h10, h11, h12⟩
    exact ⟨h1, h2, h3, h4, h5, h6, h7, h8, h9, h10, h11, h12⟩
  · rintro ⟨h1, h2, h3, h4, h5, h6, h7, h8, h9, h10, h11, h12⟩
    exact ⟨h1, h2, h3, h4, h5, h6, h7, h8, h9, h10, h11, h12⟩

instance (tables : AccountTables) : Decidable tables.Valid :=
  decidable_of_iff _ tables.valid_iff.symm

/-- A committed state of these tables. -/
structure Accounts extends AccountTables where
  /-- Every committed state satisfies the declared constraints. -/
  valid : toAccountTables.Valid

namespace Accounts

/-- Commit `tables`, or reject the transaction with an `IntegrityError`. -/
def commit (tables : AccountTables) : Option Accounts :=
  if valid : tables.Valid then some ⟨tables, valid⟩ else none

variable (db : Accounts)

/-- The row of `users` with the given id. -/
def user? (id : Uuid) : Option User := KeyedRows.lookup User.id id db.users

/-- The row of `external_identities` of a pair. -/
def identity? (pair : String × String) : Option ExternalIdentity :=
  KeyedRows.lookup ExternalIdentity.pair pair db.externalIdentities

/-- The row of `compute_plans` with the given code. -/
def planByCode? (code : String) : Option ComputePlan :=
  KeyedRows.lookup ComputePlan.code code db.computePlans

/-- The row of `application_sessions` with the given hash. -/
def sessionByHash? (tokenHash : String) : Option ApplicationSession :=
  KeyedRows.lookup ApplicationSession.tokenHash tokenHash db.applicationSessions

variable {db}

theorem commit_eq_some {tables : AccountTables} {next : Accounts}
    (committed : commit tables = some next) : next.toAccountTables = tables := by
  unfold commit at committed
  split at committed
  · cases committed
    rfl
  · cases committed

theorem commit_of_valid {tables : AccountTables} (valid : tables.Valid) :
    commit tables = some ⟨tables, valid⟩ := by
  simp [commit, valid]

theorem user?_eq_some_iff {id : Uuid} {user : User} :
    db.user? id = some user ↔ user ∈ db.users ∧ user.id = id :=
  KeyedRows.lookup_eq_some_iff db.valid.userIds

theorem identity?_eq_some_iff {pair : String × String} {identity : ExternalIdentity} :
    db.identity? pair = some identity ↔
      identity ∈ db.externalIdentities ∧ identity.pair = pair :=
  KeyedRows.lookup_eq_some_iff db.valid.pairs

theorem identity?_eq_none_iff {pair : String × String} :
    db.identity? pair = none ↔ pair ∉ db.externalIdentities.map (·.pair) :=
  KeyedRows.lookup_eq_none_iff

theorem planByCode?_eq_some_iff {code : String} {plan : ComputePlan} :
    db.planByCode? code = some plan ↔ plan ∈ db.computePlans ∧ plan.code = code :=
  KeyedRows.lookup_eq_some_iff db.valid.planCodes

theorem sessionByHash?_eq_some_iff {tokenHash : String} {session : ApplicationSession} :
    db.sessionByHash? tokenHash = some session ↔
      session ∈ db.applicationSessions ∧ session.tokenHash = tokenHash :=
  KeyedRows.lookup_eq_some_iff db.valid.tokenHashes

/-- `UPDATE application_sessions ... WHERE id = id`, which keeps the keys of the row. -/
def updateSession (db : Accounts) (id : Uuid) (change : ApplicationSession → ApplicationSession)
    (keeps : ∀ row, (change row).id = row.id ∧ (change row).tokenHash = row.tokenHash ∧
      (change row).userId = row.userId) : Accounts where
  toAccountTables := { db.toAccountTables with
    applicationSessions := db.applicationSessions.map fun row =>
      if row.id = id then change row else row }
  valid := by
    have same : ∀ {Column : Type} (column : ApplicationSession → Column),
        (∀ row, column (change row) = column row) →
        (db.applicationSessions.map fun row => if row.id = id then change row else row).map column =
          db.applicationSessions.map column := by
      intro Column column kept
      rw [List.map_map]
      apply List.map_congr_left
      intro row _
      by_cases isRow : row.id = id <;> simp [isRow, kept]
    refine { db.valid with
      sessionIds := ?_
      tokenHashes := ?_
      sessionUsers := ?_ }
    · rw [same _ fun row => (keeps row).1]
      exact db.valid.sessionIds
    · rw [same _ fun row => (keeps row).2.1]
      exact db.valid.tokenHashes
    · intro row rowMem
      rcases List.mem_map.mp rowMem with ⟨old, oldMem, rfl⟩
      have kept := db.valid.sessionUsers old oldMem
      by_cases isRow : old.id = id <;> simp only [isRow, if_true, if_false]
      · rwa [(keeps old).2.2]
      · exact kept

/-- `UPDATE users SET is_active = active WHERE id = id`. -/
def setActive (db : Accounts) (id : Uuid) (active : Bool) : Accounts where
  toAccountTables := { db.toAccountTables with
    users := db.users.map fun user =>
      if user.id = id then { user with isActive := active } else user }
  valid := by
    have ids : (db.users.map fun user =>
        if user.id = id then { user with isActive := active } else user).map (·.id) =
          db.users.map (·.id) := by
      rw [List.map_map]
      apply List.map_congr_left
      intro user _
      by_cases isUser : user.id = id <;> simp [isUser]
    exact { db.valid with
      userIds := by simpa only [ids] using db.valid.userIds
      identityUsers := by simpa only [ids] using db.valid.identityUsers
      quotaOwners := by simpa only [ids] using db.valid.quotaOwners
      sessionUsers := by simpa only [ids] using db.valid.sessionUsers }

end Accounts

end NpdPortal
