import NpdPortal.Identity.Moves
import NpdPortal.Library.Exclusive

/-!
# The unique indexes during concurrent logins

An open callback has entries in unique indexes which are not committed.  No two
callbacks have the same entry and none is committed, so that every commit
succeeds; the one conflict that can surface is an insert of a pair which another
callback has committed since this one looked for it.
-/

namespace NpdPortal

/-- An entry of a unique index. -/
inductive IndexEntry where
  | user (id : Uuid)
  | identity (id : Uuid)
  | pair (pair : String × String)
  | session (id : Uuid)
  | tokenHash (hash : String)
  deriving DecidableEq, Repr

/-- The entry is committed. -/
def Accounts.Has (db : Accounts) : IndexEntry → Prop
  | .user id => id ∈ db.users.map (·.id)
  | .identity id => id ∈ db.externalIdentities.map (·.id)
  | .pair pair => pair ∈ db.externalIdentities.map (·.pair)
  | .session id => id ∈ db.applicationSessions.map (·.id)
  | .tokenHash hash => hash ∈ db.applicationSessions.map (·.tokenHash)

/-- The entries which a callback has, or is about to flush with its commit. -/
def Callback.entries (callback : Callback) : List IndexEntry :=
  match callback.point with
  | .selectingIdentity | .readingUser _ | .insertingUser => []
  | .insertingIdentity user => [.user user.id]
  | .readingPlan user identity => [.user user.id, .identity identity.id, .pair identity.pair]
  | .committing (.inl account) session .. =>
      [.user account.user.id, .identity account.identity.id, .pair account.identity.pair,
        .session session.id, .tokenHash session.tokenHash]
  | .committing (.inr _) session .. => [.session session.id, .tokenHash session.tokenHash]

/-- The columns of an identity that no login changes. -/
structure ExternalIdentity.SameAccount (identity other : ExternalIdentity) : Prop where
  id : other.id = identity.id
  userId : other.userId = identity.userId
  pair : other.pair = identity.pair

theorem ExternalIdentity.SameAccount.refl (identity : ExternalIdentity) :
    identity.SameAccount identity :=
  ⟨rfl, rfl, rfl⟩

theorem ExternalIdentity.SameAccount.symm {identity other : ExternalIdentity}
    (same : identity.SameAccount other) : other.SameAccount identity :=
  ⟨same.id.symm, same.userId.symm, same.pair.symm⟩

theorem ExternalIdentity.SameAccount.trans {first second third : ExternalIdentity}
    (before : first.SameAccount second) (after : second.SameAccount third) :
    first.SameAccount third :=
  ⟨after.id.trans before.id, after.userId.trans before.userId, after.pair.trans before.pair⟩

/-- The identity is stored, perhaps with another address. -/
def Accounts.Knows (db : Accounts) (identity : ExternalIdentity) : Prop :=
  ∃ row ∈ db.externalIdentities, identity.SameAccount row

/-- What the statements of a callback have found in the tables. -/
def Callback.Settled (callback : Callback) (db : Accounts) : Prop :=
  match callback.point with
  | .selectingIdentity => callback.retried = true → db.Has (.pair callback.verified.pair)
  | .readingUser identity => db.Knows identity
  | .insertingUser | .insertingIdentity _ => callback.retried = false
  | .readingPlan .. => True
  | .committing (.inl account) .. => account.quota.computePlanId ∈ db.computePlans.map (·.id)
  | .committing (.inr identity) .. => db.Knows identity

/-- The callbacks and the tables fit together. -/
structure IdentityWorld.Reserved (config : IdentityConfig) (world : IdentityWorld) : Prop where
  ids : (world.callbacks.map (·.id)).Nodup
  known : ∀ callback ∈ world.callbacks, callback.id < world.nextId
  exclusive : Exclusive Callback.entries world.callbacks
  vacant : ∀ callback ∈ world.callbacks, ∀ entry ∈ callback.entries, ¬world.db.Has entry
  settled : ∀ callback ∈ world.callbacks, callback.Settled world.db
  prepared : ∀ callback ∈ world.callbacks, callback.Prepared config

section Entries

variable {callback : Callback}

theorem Callback.user_mem_entries {id : Uuid} :
    .user id ∈ callback.entries ↔ some id = callback.pendingUser? := by
  unfold Callback.entries Callback.pendingUser?
  cases callback.point with
  | committing account => cases account <;> simp
  | _ => simp

theorem Callback.identity_mem_entries {id : Uuid} :
    .identity id ∈ callback.entries ↔ some id = callback.pendingIdentity?.map (·.id) := by
  unfold Callback.entries Callback.pendingIdentity?
  cases callback.point with
  | committing account => cases account <;> simp
  | _ => simp

theorem Callback.pair_mem_entries {pair : String × String} :
    .pair pair ∈ callback.entries ↔ some pair = callback.pendingIdentity?.map (·.pair) := by
  unfold Callback.entries Callback.pendingIdentity?
  cases callback.point with
  | committing account => cases account <;> simp
  | _ => simp

theorem Callback.session_mem_entries {id : Uuid} :
    .session id ∈ callback.entries ↔ some id = callback.pendingSession?.map (·.id) := by
  unfold Callback.entries Callback.pendingSession?
  cases callback.point with
  | committing account => cases account <;> simp
  | _ => simp

theorem Callback.tokenHash_mem_entries {hash : String} :
    .tokenHash hash ∈ callback.entries ↔
      some hash = callback.pendingSession?.map (·.tokenHash) := by
  unfold Callback.entries Callback.pendingSession?
  cases callback.point with
  | committing account => cases account <;> simp
  | _ => simp

end Entries

section Taking

variable {config : IdentityConfig} {world : IdentityWorld} {callback : Callback}
  {context : LoginContext}

/-- Nobody has the entry. -/
def IdentityWorld.Available (world : IdentityWorld) (callback : Callback) (entry : IndexEntry) :
    Prop :=
  ¬world.db.Has entry ∧ ∀ other ∈ world.callbacks, other.id ≠ callback.id → entry ∉ other.entries

theorem IdentityWorld.Fresh.user (fresh : world.Fresh config context) :
    world.Available callback (.user context.userId) := by
  refine ⟨fresh.userId.1, fun other otherMem _ isEntry => fresh.userId.2 ?_⟩
  exact List.mem_map.mpr ⟨other, otherMem, (Callback.user_mem_entries.mp isEntry).symm⟩

theorem IdentityWorld.Fresh.identity (fresh : world.Fresh config context) :
    world.Available callback (.identity context.identityId) := by
  refine ⟨fresh.identityId.1, fun other otherMem _ isEntry => fresh.identityId.2 ?_⟩
  exact List.mem_map.mpr ⟨other, otherMem, (Callback.identity_mem_entries.mp isEntry).symm⟩

theorem IdentityWorld.Fresh.session (fresh : world.Fresh config context) :
    world.Available callback (.session context.sessionId) := by
  refine ⟨fresh.sessionId.1, fun other otherMem _ isEntry => fresh.sessionId.2 ?_⟩
  exact List.mem_map.mpr ⟨other, otherMem, (Callback.session_mem_entries.mp isEntry).symm⟩

theorem IdentityWorld.Fresh.token (fresh : world.Fresh config context) :
    world.Available callback (.tokenHash (config.sha256 context.token)) := by
  refine ⟨fresh.tokenHash.1, fun other otherMem _ isEntry => fresh.tokenHash.2 ?_⟩
  exact List.mem_map.mpr ⟨other, otherMem, (Callback.tokenHash_mem_entries.mp isEntry).symm⟩

/-- A callback that does not wait finds its pair in no open transaction. -/
theorem pair_available {user : User} (free : ¬world.Waits callback)
    (atInsert : callback.point = .insertingIdentity user)
    (absent : callback.verified.pair ∉ world.db.externalIdentities.map (·.pair)) :
    world.Available callback (.pair callback.verified.pair) := by
  refine ⟨absent, fun other otherMem differs isEntry => free ⟨user, atInsert, other, otherMem,
    differs, (Callback.pair_mem_entries.mp isEntry).symm⟩⟩

/-- A statement keeps the entries of its callback and takes only available ones. -/
theorem entries_proceed {point : LoginPoint} (takes : world.Takes config callback context)
    (goesOn : callback.verified.next config world.db context callback.point = .proceed point) :
    ∀ entry ∈ Callback.entries { callback with point },
      entry ∈ callback.entries ∨ world.Available callback entry := by
  intro entry isEntry
  cases atPoint : callback.point with
  | selectingIdentity =>
      simp only [atPoint, VerifiedIdentity.next] at goesOn
      split at goesOn <;> cases goesOn <;> simp [Callback.entries] at isEntry
  | readingUser identity =>
      simp only [atPoint, VerifiedIdentity.next] at goesOn
      split at goesOn
      · cases goesOn
      · split at goesOn
        · cases goesOn
        · cases goesOn
          simp only [Callback.entries, List.mem_cons, List.not_mem_nil, or_false] at isEntry
          rcases isEntry with rfl | rfl
          · exact .inr takes.fresh.session
          · exact .inr takes.fresh.token
  | insertingUser =>
      simp only [atPoint, VerifiedIdentity.next] at goesOn
      split at goesOn
      · cases goesOn
      · cases goesOn
        simp only [Callback.entries, List.mem_cons, List.not_mem_nil, or_false] at isEntry
        exact .inr (isEntry ▸ takes.fresh.user)
  | insertingIdentity user =>
      simp only [atPoint, VerifiedIdentity.next] at goesOn
      split at goesOn
      · cases goesOn
      · rename_i absent
        cases goesOn
        simp only [Callback.entries, List.mem_cons, List.not_mem_nil, or_false] at isEntry
        rcases isEntry with rfl | rfl | rfl
        · exact .inl (by simp [Callback.entries, atPoint])
        · exact .inr takes.fresh.identity
        · exact .inr (pair_available takes.free atPoint fun isPair => absent (.inr isPair))
  | readingPlan user identity =>
      simp only [atPoint, VerifiedIdentity.next] at goesOn
      split at goesOn
      · cases goesOn
      · split at goesOn
        · cases goesOn
        · split at goesOn
          · cases goesOn
          · cases goesOn
            simp only [Callback.entries, List.mem_cons, List.not_mem_nil, or_false] at isEntry
            rcases isEntry with rfl | rfl | rfl | rfl | rfl
            · exact .inl (by simp [Callback.entries, atPoint])
            · exact .inl (by simp [Callback.entries, atPoint])
            · exact .inl (by simp [Callback.entries, atPoint])
            · exact .inr takes.fresh.session
            · exact .inr takes.fresh.token
  | committing => simp [atPoint, VerifiedIdentity.next] at goesOn

end Taking

section Tables

variable {config : IdentityConfig} {world next : IdentityWorld} {event : IdentityEvent}
  {db later : Accounts} {callback : Callback}

/-- What no step takes out of the tables. -/
structure Accounts.Extends (db later : Accounts) : Prop where
  userIds : ∀ id ∈ db.users.map (·.id), id ∈ later.users.map (·.id)
  identities : ∀ identity ∈ db.externalIdentities, later.Knows identity
  planIds : ∀ id ∈ db.computePlans.map (·.id), id ∈ later.computePlans.map (·.id)

theorem Accounts.Extends.of_eq (users : later.users = db.users)
    (identities : later.externalIdentities = db.externalIdentities)
    (plans : later.computePlans = db.computePlans) : db.Extends later where
  userIds := by simp [users]
  identities identity stored := ⟨identity, identities ▸ stored, .refl identity⟩
  planIds := by simp [plans]

theorem Accounts.Knows.mono {identity : ExternalIdentity} (knows : db.Knows identity)
    (extends_ : db.Extends later) : later.Knows identity := by
  rcases knows with ⟨row, rowMem, same⟩
  rcases extends_.identities row rowMem with ⟨after, afterMem, further⟩
  exact ⟨after, afterMem, same.trans further⟩

theorem Accounts.Knows.has {identity : ExternalIdentity} (knows : db.Knows identity) :
    db.Has (.pair identity.pair) := by
  rcases knows with ⟨row, rowMem, same⟩
  exact List.mem_map.mpr ⟨row, rowMem, same.pair⟩

theorem Accounts.Has.pair_mono {pair : String × String} (has : db.Has (.pair pair))
    (extends_ : db.Extends later) : later.Has (.pair pair) := by
  rcases List.mem_map.mp has with ⟨row, rowMem, rfl⟩
  exact (extends_.identities row rowMem).has

theorem Callback.Settled.mono (settled : callback.Settled db) (extends_ : db.Extends later) :
    callback.Settled later := by
  unfold Callback.Settled at *
  cases atPoint : callback.point with
  | selectingIdentity =>
      simp only [atPoint] at settled ⊢
      exact fun isRetry => (settled isRetry).pair_mono extends_
  | readingUser identity =>
      simp only [atPoint] at settled ⊢
      exact settled.mono extends_
  | committing account =>
      cases account with
      | inl account =>
          simp only [atPoint] at settled ⊢
          exact extends_.planIds _ settled
      | inr identity =>
          simp only [atPoint] at settled ⊢
          exact settled.mono extends_
  | insertingUser | insertingIdentity => simpa only [atPoint] using settled
  | readingPlan => simp only

/-- An update of a known identity keeps the indexes of the identities. -/
theorem Accounts.Knows.replace {identity : ExternalIdentity} (knows : db.Knows identity) :
    (KeyedRows.replace ExternalIdentity.id identity db.externalIdentities).map (·.pair) =
        db.externalIdentities.map (·.pair) ∧
      (KeyedRows.replace ExternalIdentity.id identity db.externalIdentities).map (·.userId) =
        db.externalIdentities.map (·.userId) := by
  rcases knows with ⟨row, rowMem, same⟩
  have isRow : ∀ old ∈ db.externalIdentities, old.id = identity.id → old = row :=
    fun old oldMem sameId =>
      KeyedRows.eq_of_key_eq db.valid.identityIds oldMem rowMem (sameId.trans same.id.symm)
  constructor
  · apply KeyedRows.map_replace
    intro old oldMem sameId
    rw [isRow old oldMem sameId, same.pair]
  · apply KeyedRows.map_replace
    intro old oldMem sameId
    rw [isRow old oldMem sameId, same.userId]

/-- The commit of a prepared login satisfies the constraints. -/
theorem withLogin_valid {account : NewAccount ⊕ ExternalIdentity} {session : ApplicationSession}
    {token : String} {issuedAt : Time}
    (atCommit : callback.point = .committing account session token issuedAt)
    (vacant : ∀ entry ∈ callback.entries, ¬db.Has entry) (settled : callback.Settled db)
    (prepared : callback.Prepared config) : (db.withLogin account session).Valid := by
  simp only [Callback.entries, atCommit] at vacant
  simp only [Callback.Settled, atCommit] at settled
  simp only [Callback.Prepared, atCommit] at prepared
  have snoc : ∀ {Row Column : Type} {column : Row → Column} {rows : List Row} {row : Row},
      (rows.map column).Nodup → column row ∉ rows.map column →
        ((rows ++ [row]).map column).Nodup := by
    intro Row Column column rows row distinct absent
    rw [List.map_append, List.map_singleton]
    exact List.nodup_append.mpr ⟨distinct, List.nodup_singleton _, by simpa using absent⟩
  cases account with
  | inl account =>
      simp only [List.mem_cons, List.not_mem_nil, or_false, forall_eq_or_imp, forall_eq] at vacant
      rcases vacant with ⟨newUser, newIdentity, newPair, newSession, newHash⟩
      rcases prepared with ⟨_, _, _, _, identityUser, _, quotaUser, sessionUser⟩
      have widened : ∀ {id : Uuid}, id ∈ db.users.map (·.id) →
          id ∈ (db.users ++ [account.user]).map (·.id) := by
        intro id known
        rw [List.map_append]
        exact List.mem_append_left _ known
      have own : account.user.id ∈ (db.users ++ [account.user]).map (·.id) := by simp
      refine { db.valid with
        userIds := snoc db.valid.userIds newUser
        identityIds := snoc db.valid.identityIds newIdentity
        pairs := snoc db.valid.pairs newPair
        quotaUsers := snoc db.valid.quotaUsers ?_
        sessionIds := snoc db.valid.sessionIds newSession
        tokenHashes := snoc db.valid.tokenHashes newHash
        identityUsers := ?_
        quotaOwners := ?_
        quotaPlans := ?_
        sessionUsers := ?_ }
      · intro isKnown
        rcases List.mem_map.mp isKnown with ⟨quota, quotaMem, same⟩
        exact newUser ((same.trans quotaUser) ▸ db.valid.quotaOwners quota quotaMem)
      · intro identity stored
        rcases List.mem_append.mp stored with old | new
        · exact widened (db.valid.identityUsers identity old)
        · rw [List.mem_singleton.mp new, identityUser]
          exact own
      · intro quota stored
        rcases List.mem_append.mp stored with old | new
        · exact widened (db.valid.quotaOwners quota old)
        · rw [List.mem_singleton.mp new, quotaUser]
          exact own
      · intro quota stored
        rcases List.mem_append.mp stored with old | new
        · exact db.valid.quotaPlans quota old
        · rw [List.mem_singleton.mp new]
          exact settled
      · intro row stored
        rcases List.mem_append.mp stored with old | new
        · exact widened (db.valid.sessionUsers row old)
        · rw [List.mem_singleton.mp new, sessionUser]
          exact own
  | inr identity =>
      simp only [List.mem_cons, List.not_mem_nil, or_false, forall_eq_or_imp, forall_eq] at vacant
      rcases vacant with ⟨newSession, newHash⟩
      rcases prepared with ⟨_, _, _, _, sessionUser⟩
      have kept := settled.replace
      have identityUsers : ∀ id ∈ db.externalIdentities.map (·.userId),
          id ∈ db.users.map (·.id) := by
        intro id isUser
        rcases List.mem_map.mp isUser with ⟨row, rowMem, rfl⟩
        exact db.valid.identityUsers row rowMem
      refine { db.valid with
        identityIds := ?_
        pairs := ?_
        sessionIds := snoc db.valid.sessionIds newSession
        tokenHashes := snoc db.valid.tokenHashes newHash
        identityUsers := ?_
        sessionUsers := ?_ }
      · simpa only [Accounts.withLogin, KeyedRows.map_key_replace] using db.valid.identityIds
      · simpa only [Accounts.withLogin, kept.1] using db.valid.pairs
      · intro row stored
        exact identityUsers _ (kept.2 ▸ List.mem_map_of_mem stored)
      · intro row stored
        rcases List.mem_append.mp stored with old | new
        · exact db.valid.sessionUsers row old
        · rcases settled with ⟨row, rowMem, same⟩
          rw [List.mem_singleton.mp new, ← sessionUser, ← same.userId]
          exact db.valid.identityUsers row rowMem

/-- A login takes nothing out of the tables. -/
theorem withLogin_extends {account : NewAccount ⊕ ExternalIdentity} {session : ApplicationSession}
    {token : String} {issuedAt : Time}
    (tables : later.toAccountTables = db.withLogin account session)
    (atCommit : callback.point = .committing account session token issuedAt)
    (settled : callback.Settled db) : db.Extends later := by
  simp only [Callback.Settled, atCommit] at settled
  cases account with
  | inl account =>
      have users : later.users = db.users ++ [account.user] := by rw [tables]; rfl
      have identities : later.externalIdentities = db.externalIdentities ++ [account.identity] := by
        rw [tables]; rfl
      have plans : later.computePlans = db.computePlans := by rw [tables]; rfl
      refine ⟨fun id known => ?_, fun identity stored => ?_, by simp [plans]⟩
      · rw [users, List.map_append]
        exact List.mem_append_left _ known
      · exact ⟨identity, identities ▸ List.mem_append_left _ stored, .refl identity⟩
  | inr updated =>
      have users : later.users = db.users := by rw [tables]; rfl
      have identities : later.externalIdentities =
          KeyedRows.replace ExternalIdentity.id updated db.externalIdentities := by
        rw [tables]; rfl
      have plans : later.computePlans = db.computePlans := by rw [tables]; rfl
      refine ⟨by simp [users], fun identity stored => ?_, by simp [plans]⟩
      rcases settled with ⟨row, rowMem, same⟩
      by_cases isRow : identity.id = updated.id
      · have sameRow := KeyedRows.eq_of_key_eq db.valid.identityIds stored rowMem
          (isRow.trans same.id.symm)
        rw [sameRow]
        exact ⟨updated, identities ▸ KeyedRows.mem_replace.mpr (.inl ⟨rfl, row, rowMem, same.id⟩),
          same.symm⟩
      · exact ⟨identity, identities ▸ KeyedRows.mem_replace.mpr (.inr ⟨stored, isRow⟩),
          .refl identity⟩

/-- A login commits the entries of its callback and no others. -/
theorem withLogin_has {account : NewAccount ⊕ ExternalIdentity} {session : ApplicationSession}
    {token : String} {issuedAt : Time} {entry : IndexEntry}
    (tables : later.toAccountTables = db.withLogin account session)
    (atCommit : callback.point = .committing account session token issuedAt)
    (settled : callback.Settled db) (has : later.Has entry) :
    db.Has entry ∨ entry ∈ callback.entries := by
  simp only [Callback.Settled, atCommit] at settled
  simp only [Callback.entries, atCommit]
  have sessions := Accounts.sessions_withLogin tables
  cases account with
  | inl account =>
      have users : later.users = db.users ++ [account.user] := by rw [tables]; rfl
      have identities : later.externalIdentities = db.externalIdentities ++ [account.identity] := by
        rw [tables]; rfl
      cases entry <;> simp_all [Accounts.Has]
  | inr updated =>
      have users : later.users = db.users := by rw [tables]; rfl
      have ids : later.externalIdentities.map (·.id) = db.externalIdentities.map (·.id) := by
        rw [tables]
        exact KeyedRows.map_key_replace _ _
      have pairs : later.externalIdentities.map (·.pair) = db.externalIdentities.map (·.pair) := by
        rw [tables]
        exact settled.replace.1
      cases entry <;> simp only [Accounts.Has, users, ids, pairs, sessions] at has ⊢ <;>
        simp_all

/-- No step takes rows out of these tables. -/
theorem IdentityMove.extends (move : IdentityMove config world event next)
    (reserved : world.Reserved config) : world.db.Extends next.db := by
  cases move with
  | planned db plans tables kept =>
      refine ⟨by simp [tables], fun identity stored => ⟨identity, by simpa [tables] using stored,
        .refl identity⟩, fun id known => ?_⟩
      rcases List.mem_map.mp known with ⟨plan, planMem, rfl⟩
      rw [tables]
      exact kept plan planMem
  | activitySet userId active =>
      refine ⟨fun id known => ?_, fun identity stored => ⟨identity, stored, .refl identity⟩,
        fun id known => known⟩
      rcases List.mem_map.mp known with ⟨user, userMem, rfl⟩
      refine List.mem_map.mpr ⟨_, List.mem_map_of_mem userMem, ?_⟩
      split <;> rfl
  | loggedIn callback account session token issuedAt db isOpen atCommit tables =>
      exact withLogin_extends tables atCommit (reserved.settled callback isOpen)
  | touched => exact .of_eq rfl rfl rfl
  | loggedOut logout =>
      cases written : logout.write <;> exact .of_eq rfl rfl rfl
  | _ => exact .of_eq rfl rfl rfl

/-- A new entry in an index was the entry of a callback that has committed it. -/
theorem IdentityMove.has (move : IdentityMove config world event next)
    (reserved : world.Reserved config) {entry : IndexEntry} (has : next.db.Has entry) :
    world.db.Has entry ∨ ∃ callback ∈ world.callbacks, entry ∈ callback.entries ∧
      callback ∉ next.callbacks := by
  cases move with
  | planned db plans tables =>
      exact .inl (by cases entry <;> simpa [Accounts.Has, tables] using has)
  | activitySet userId active =>
      refine .inl ?_
      cases entry with
      | user id =>
          rcases List.mem_map.mp has with ⟨row, rowMem, rfl⟩
          rcases List.mem_map.mp rowMem with ⟨user, userMem, rfl⟩
          refine List.mem_map.mpr ⟨user, userMem, ?_⟩
          split <;> rfl
      | _ => exact has
  | loggedIn callback account session token issuedAt db isOpen atCommit tables =>
      rcases withLogin_has tables atCommit (reserved.settled callback isOpen) has with old | new
      · exact .inl old
      · exact .inr ⟨callback, isOpen, new, by simp [IdentityWorld.close]⟩
  | touched check sessionId now =>
      refine .inl ?_
      cases entry with
      | session id | tokenHash id =>
          rcases List.mem_map.mp has with ⟨row, rowMem, rfl⟩
          rcases Accounts.mem_touch.mp rowMem with ⟨old, oldMem, rfl⟩
          refine List.mem_map.mpr ⟨old, oldMem, ?_⟩
          split <;> rfl
      | _ => exact has
  | loggedOut logout =>
      refine .inl ?_
      cases written : logout.write with
      | none => simpa only [written, Accounts.revoke] using has
      | some write =>
          simp only [written] at has
          cases entry with
          | session id | tokenHash id =>
              rcases List.mem_map.mp has with ⟨row, rowMem, rfl⟩
              rcases Accounts.mem_revoke.mp rowMem with ⟨old, oldMem, rfl⟩
              refine List.mem_map.mpr ⟨old, oldMem, ?_⟩
              split <;> rfl
          | _ => exact has
  | _ => exact .inl has

end Tables

section Runs

variable {config : IdentityConfig} {world next : IdentityWorld} {event : IdentityEvent}
  {callback : Callback} {context : LoginContext}

theorem Callback.Settled.proceed {point : LoginPoint} (settled : callback.Settled world.db)
    (goesOn : callback.verified.next config world.db context callback.point = .proceed point) :
    Callback.Settled { callback with point } world.db := by
  cases atPoint : callback.point with
  | selectingIdentity =>
      simp only [Callback.Settled, atPoint] at settled
      simp only [atPoint, VerifiedIdentity.next] at goesOn
      split at goesOn
      · rename_i identity found
        cases goesOn
        exact ⟨identity, (Accounts.identity?_eq_some_iff.mp found).1, .refl identity⟩
      · rename_i missing
        cases goesOn
        -- a retry finds the identity on which the first attempt has failed
        exact Bool.eq_false_of_not_eq_true fun isRetry =>
          Accounts.identity?_eq_none_iff.mp missing (settled isRetry)
  | readingUser identity =>
      simp only [Callback.Settled, atPoint] at settled
      simp only [atPoint, VerifiedIdentity.next] at goesOn
      split at goesOn
      · cases goesOn
      · split at goesOn
        · cases goesOn
        · cases goesOn
          rcases settled with ⟨row, rowMem, same⟩
          exact ⟨row, rowMem, same.id, same.userId, same.pair⟩
  | insertingUser =>
      simp only [Callback.Settled, atPoint] at settled
      simp only [atPoint, VerifiedIdentity.next] at goesOn
      split at goesOn
      · cases goesOn
      · cases goesOn
        exact settled
  | insertingIdentity user =>
      simp only [atPoint, VerifiedIdentity.next] at goesOn
      split at goesOn
      · cases goesOn
      · cases goesOn
        trivial
  | readingPlan user identity =>
      simp only [atPoint, VerifiedIdentity.next] at goesOn
      split at goesOn
      · cases goesOn
      · rename_i plan found
        split at goesOn
        · cases goesOn
        · split at goesOn
          · cases goesOn
          · cases goesOn
            exact List.mem_map_of_mem (Accounts.planByCode?_eq_some_iff.mp found).1
  | committing => simp [atPoint, VerifiedIdentity.next] at goesOn

/-- The only `IntegrityError` of a callback: its pair was committed since it was looked up. -/
theorem IdentityWorld.Reserved.conflict (reserved : world.Reserved config)
    (takes : world.Takes config callback context)
    (raises : world.Raises config callback context .integrityError) :
    callback.retried = false ∧ world.db.Has (.pair callback.verified.pair) := by
  have settled := reserved.settled callback takes.isOpen
  rcases raises with raises | ⟨_, account, session, token, issuedAt, atCommit, rejected⟩
  · cases atPoint : callback.point with
    | insertingIdentity user =>
        simp only [Callback.Settled, atPoint] at settled
        simp only [atPoint, VerifiedIdentity.next] at raises
        split at raises
        · rename_i conflict
          exact ⟨settled, conflict.resolve_left takes.fresh.identityId.1⟩
        · cases raises
    | insertingUser =>
        simp only [atPoint, VerifiedIdentity.next] at raises
        split at raises
        · rename_i taken
          exact absurd taken takes.fresh.userId.1
        · cases raises
    | selectingIdentity =>
        simp only [atPoint, VerifiedIdentity.next] at raises
        split at raises <;> cases raises
    | readingUser identity =>
        simp only [atPoint, VerifiedIdentity.next] at raises
        split at raises
        · cases raises
        · split at raises <;> cases raises
    | readingPlan user identity =>
        simp only [atPoint, VerifiedIdentity.next] at raises
        split at raises
        · cases raises
        · split at raises
          · cases raises
          · split at raises <;> cases raises
    | committing => simp [atPoint, VerifiedIdentity.next] at raises
  · have valid := withLogin_valid atCommit (reserved.vacant callback takes.isOpen) settled
      (reserved.prepared callback takes.isOpen)
    rw [Accounts.commit_of_valid valid] at rejected
    cases rejected

theorem IdentityMove.callbackIds (move : IdentityMove config world event next)
    (distinct : (world.callbacks.map (·.id)).Nodup)
    (known : ∀ callback ∈ world.callbacks, callback.id < world.nextId) :
    (next.callbacks.map (·.id)).Nodup := by
  have fewer : ∀ id, ((world.callbacks.filter (·.id ≠ id)).map (·.id)).Nodup :=
    fun id => distinct.sublist (List.filter_sublist.map _)
  cases move with
  | begun info verified =>
      rw [List.map_append]
      refine List.nodup_append.mpr
        ⟨distinct, List.nodup_singleton _, fun id isKnown other isNew => ?_⟩
      rcases List.mem_map.mp isKnown with ⟨callback, isOpen, rfl⟩
      rw [List.mem_singleton.mp isNew]
      exact (known callback isOpen).ne
  | proceeded => simpa only [KeyedRows.map_key_replace] using distinct
  | retried => simpa only [KeyedRows.map_key_replace] using distinct
  | raised => exact fewer _
  | loggedIn => exact fewer _
  | abandoned => exact fewer _
  | _ => exact distinct

theorem IdentityMove.exclusive (move : IdentityMove config world event next)
    (reserved : world.Reserved config) : Exclusive Callback.entries next.callbacks := by
  have old := reserved.exclusive
  cases move with
  | begun info verified => exact old.append_idle rfl
  | proceeded callback context point takes goesOn =>
      apply old.replace
      intro other otherOpen differs entry isEntry inOther
      rcases entries_proceed takes goesOn entry isEntry with own | ⟨_, available⟩
      · exact differs (by rw [old other otherOpen callback takes.isOpen entry inOther own])
      · exact available other otherOpen differs inOther
  | retried => exact old.replace (by simp [Callback.entries])
  | raised => exact old.subset fun _ => List.mem_of_mem_filter
  | loggedIn => exact old.subset fun _ => List.mem_of_mem_filter
  | abandoned => exact old.subset fun _ => List.mem_of_mem_filter
  | _ => exact old

theorem IdentityMove.callback_known (move : IdentityMove config world event next)
    (known : ∀ callback ∈ world.callbacks, callback.id < world.nextId) :
    ∀ callback ∈ next.callbacks, callback.id < next.nextId := by
  intro callback isOpen
  rcases move.callback_after isOpen with old | ⟨_, _, isNew, later, _⟩ |
    ⟨old, context, takes, _, _, rfl⟩ | ⟨old, context, point, takes, _, _, rfl⟩
  · exact (known callback old).trans_le move.nextId_le
  · omega
  · exact (known old takes.isOpen).trans_le move.nextId_le
  · exact (known old takes.isOpen).trans_le move.nextId_le

/-- A step keeps the callbacks and the tables fitting together. -/
theorem IdentityMove.reserved (move : IdentityMove config world event next)
    (reserved : world.Reserved config) : next.Reserved config := by
  have extended := move.extends reserved
  have kept : ∀ callback ∈ world.callbacks, callback ∈ next.callbacks →
      ∀ entry ∈ callback.entries, ¬next.db.Has entry := by
    intro callback isOpen stays entry isEntry has
    rcases move.has reserved has with old | ⟨other, otherOpen, isOther, ended⟩
    · exact reserved.vacant callback isOpen entry isEntry old
    · exact ended (reserved.exclusive callback isOpen other otherOpen entry isEntry isOther ▸ stays)
  refine ⟨move.callbackIds reserved.ids reserved.known, move.callback_known reserved.known,
    move.exclusive reserved, ?_, ?_, ?_⟩
  · intro callback isOpen
    rcases move.callback_after isOpen with old | ⟨atStart, _⟩ | ⟨old, context, _, _, _, rfl⟩ |
      ⟨old, context, point, takes, isLabel, goesOn, rfl⟩
    · exact kept callback old isOpen
    · simp [Callback.entries, atStart]
    · simp [Callback.entries]
    · intro entry isEntry
      rw [move.db_of_callback (congrArg IdentityEvent.callback? isLabel) (by simp [isLabel])]
      rcases entries_proceed takes goesOn entry isEntry with own | ⟨vacant, _⟩
      · exact reserved.vacant old takes.isOpen entry own
      · exact vacant
  · intro callback isOpen
    rcases move.callback_after isOpen with old | ⟨atStart, first, _⟩ |
      ⟨old, context, takes, raises, _, rfl⟩ | ⟨old, context, point, takes, _, goesOn, rfl⟩
    · exact (reserved.settled callback old).mono extended
    · simp [Callback.Settled, atStart, first]
    · exact fun _ => (reserved.conflict takes raises).2.pair_mono extended
    · exact ((reserved.settled old takes.isOpen).proceed goesOn).mono extended
  · intro callback isOpen
    rcases move.callback_after isOpen with old | ⟨atStart, _⟩ | ⟨old, context, _, _, _, rfl⟩ |
      ⟨old, context, point, takes, _, goesOn, rfl⟩
    · exact reserved.prepared callback old
    · simp [Callback.Prepared, atStart]
    · trivial
    · exact (reserved.prepared old takes.isOpen).proceed goesOn

theorem reserved_of_reachable (reachable : (identity config).Reachable world) :
    world.Reserved config := by
  refine reachable.invariant (motive := IdentityWorld.Reserved config) ?_ ?_
  · rintro state ⟨clock, rfl⟩
    exact ⟨List.nodup_nil, by simp [IdentityWorld.initial], .nil, by simp [IdentityWorld.initial],
      by simp [IdentityWorld.initial], by simp [IdentityWorld.initial]⟩
  · intro state label later reserved step
    exact (identity_move step).reserved reserved

end Runs

end NpdPortal
