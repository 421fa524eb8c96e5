import NpdPortal.Identity.System

/-!
# Steps of the identity services

`IdentityMove` lists everything a step can do; the invariants of whole runs are
derived from it.
-/

namespace NpdPortal

/-- A callback took a statement. -/
structure IdentityWorld.Takes (world : IdentityWorld) (config : IdentityConfig)
    (callback : Callback) (context : LoginContext) : Prop where
  isOpen : callback ∈ world.callbacks
  free : ¬world.Waits callback
  fresh : world.Fresh config context
  now : context.now = world.clock

/-- The statement of a callback ends with this exception. -/
def IdentityWorld.Raises (world : IdentityWorld) (config : IdentityConfig) (callback : Callback)
    (context : LoginContext) (error : IdentityError) : Prop :=
  callback.verified.next config world.db context callback.point = .raise error ∨
    error = .integrityError ∧ ∃ account session token issuedAt,
      callback.point = .committing account session token issuedAt ∧
      Accounts.commit (world.db.withLogin account session) = none

/-- Everything a step can do. -/
inductive IdentityMove (config : IdentityConfig) (world : IdentityWorld) :
    IdentityEvent → IdentityWorld → Prop where
  | ticked (later : Time) (forward : world.clock ≤ later) :
      IdentityMove config world .administered { world with clock := later }
  | planned (db : Accounts) (plans : List ComputePlan)
      (tables : db.toAccountTables = { world.db.toAccountTables with computePlans := plans })
      (kept : ∀ plan ∈ world.db.computePlans, plan.id ∈ plans.map (·.id)) :
      IdentityMove config world .administered { world with db }
  | activitySet (userId : Uuid) (active : Bool) (known : userId ∈ world.db.users.map (·.id)) :
      IdentityMove config world (.activitySet userId active)
        { world with db := world.db.setActive userId active }
  | refused (info : UserInfo) (error : IdentityError) (unverified : info.verified = .error error) :
      IdentityMove config world (.raised world.nextId error)
        { world with nextId := world.nextId + 1 }
  | begun (info : UserInfo) (verified : VerifiedIdentity)
      (isVerified : info.verified = .ok verified) :
      IdentityMove config world (.begun world.nextId info) { world with
        callbacks := world.callbacks ++
          [{ id := world.nextId, verified, retried := false, point := .selectingIdentity }]
        nextId := world.nextId + 1 }
  | proceeded (callback : Callback) (context : LoginContext) (point : LoginPoint)
      (takes : world.Takes config callback context)
      (goesOn : callback.verified.next config world.db context callback.point = .proceed point) :
      IdentityMove config world (.proceeded callback.id) { world with
        callbacks := KeyedRows.replace Callback.id { callback with point } world.callbacks }
  | retried (callback : Callback) (context : LoginContext)
      (takes : world.Takes config callback context)
      (raises : world.Raises config callback context .integrityError)
      (first : callback.retried = false) :
      IdentityMove config world (.retried callback.id) { world with
        callbacks := KeyedRows.replace Callback.id
          { callback with retried := true, point := .selectingIdentity } world.callbacks }
  | raised (callback : Callback) (context : LoginContext) (error : IdentityError)
      (takes : world.Takes config callback context)
      (raises : world.Raises config callback context error)
      (last : error = .integrityError → callback.retried = true) :
      IdentityMove config world (.raised callback.id error) (world.close callback.id)
  | loggedIn (callback : Callback) (account : NewAccount ⊕ ExternalIdentity)
      (session : ApplicationSession) (token : String) (issuedAt : Time) (db : Accounts)
      (isOpen : callback ∈ world.callbacks)
      (atCommit : callback.point = .committing account session token issuedAt)
      (tables : db.toAccountTables = world.db.withLogin account session) :
      IdentityMove config world
        (.loggedIn callback.id ⟨callback.verified, session.userId, account.isLeft, token, issuedAt⟩)
        { world.close callback.id with db }
  | abandoned (id : ℕ) : IdentityMove config world (.abandoned id) (world.close id)
  | sessionRead (cookie : Option String) :
      IdentityMove config world
        (.sessionRead world.nextId cookie (world.db.sessionOfCookie? config cookie)) { world with
          checks := world.checks ++ [{ id := world.nextId, cookie
                                       point := .found (world.db.sessionOfCookie? config cookie) }]
          nextId := world.nextId + 1 }
  | userRead (check : Check) (session : ApplicationSession) (isOpen : check ∈ world.checks)
      (found : check.point = .found (some session)) :
      IdentityMove config world (.userRead check.id (world.db.user? session.userId)) { world with
        checks := KeyedRows.replace Check.id
          { check with point := .checking session (world.db.user? session.userId) } world.checks }
  | decided (check : Check) (outcome : Except IdentityError User) (checks : List Check)
      (isOpen : check ∈ world.checks)
      (decides : check.point = .found none ∧ outcome = .error (missingSession check.cookie) ∨
        ∃ session user, check.point = .checking session user ∧
          outcome = match user with
            | none => .error (.runtimeError "session references missing user")
            | some user => checkSession session user world.clock)
      (others : ∀ other : Check, other.id ≠ check.id → (other ∈ checks ↔ other ∈ world.checks))
      (own : ∀ other ∈ checks, other.id = check.id → ∃ sessionId,
        other.point = .touching sessionId world.clock)
      (ids : (checks.map (·.id)).Sublist (world.checks.map (·.id))) :
      IdentityMove config world (.decided check.id world.clock outcome) { world with checks }
  | touched (check : Check) (sessionId : Uuid) (now : Time) (isOpen : check ∈ world.checks)
      (atTouch : check.point = .touching sessionId now) :
      IdentityMove config world (.touched check.id) { world with
        db := world.db.touch sessionId now, checks := world.checks.filter (·.id ≠ check.id) }
  | logoutRead (cookie : Option String) :
      IdentityMove config world
        (.logoutRead world.nextId cookie (world.db.sessionOfCookie? config cookie)) { world with
          logouts := world.logouts ++ [{ id := world.nextId, cookie
                                         session := world.db.sessionOfCookie? config cookie
                                         write := revocation
                                           (world.db.sessionOfCookie? config cookie) world.clock }]
          nextId := world.nextId + 1 }
  | loggedOut (logout : Logout) (isOpen : logout ∈ world.logouts) :
      IdentityMove config world (.loggedOut logout.id logout.cookie logout.session) { world with
        db := world.db.revoke logout.write
        logouts := world.logouts.filter (·.id ≠ logout.id) }

section Moves

variable {config : IdentityConfig} {world next : IdentityWorld} {event : IdentityEvent}

/-- A transaction that ends with an exception. -/
theorem failCallback_move {callback : Callback} {context : LoginContext} {error : IdentityError}
    (takes : world.Takes config callback context)
    (raises : world.Raises config callback context error) :
    IdentityMove config world (world.failCallback callback error).1
      (world.failCallback callback error).2 := by
  unfold IdentityWorld.failCallback
  split
  · rename_i again
    exact .retried callback context takes (again.1 ▸ raises) again.2
  · rename_i ends
    refine .raised callback context error takes raises fun isIntegrity => ?_
    simpa [isIntegrity] using ends

theorem proceedCallback_move {callback : Callback} {context : LoginContext}
    (takes : world.Takes config callback context) :
    IdentityMove config world (world.proceedCallback config callback context).1
      (world.proceedCallback config callback context).2 := by
  unfold IdentityWorld.proceedCallback
  cases taken : callback.verified.next config world.db context callback.point with
  | proceed point => exact .proceeded callback context point takes taken
  | raise error => exact failCallback_move takes (.inl taken)
  | commit tables =>
      cases atPoint : callback.point with
      | committing account session token issuedAt =>
          rw [atPoint] at taken
          cases taken
          cases committed : Accounts.commit (world.db.withLogin account session) with
          | some db =>
              simp only [committed]
              exact .loggedIn callback account session token issuedAt db takes.isOpen atPoint
                (Accounts.commit_eq_some committed)
          | none =>
              simp only [committed]
              exact failCallback_move takes
                (.inr ⟨rfl, account, session, token, issuedAt, atPoint, committed⟩)
      | selectingIdentity =>
          rw [atPoint] at taken
          simp only [VerifiedIdentity.next] at taken
          split at taken <;> cases taken
      | readingUser identity =>
          rw [atPoint] at taken
          simp only [VerifiedIdentity.next] at taken
          split at taken
          · cases taken
          · split at taken <;> cases taken
      | insertingUser =>
          rw [atPoint] at taken
          simp only [VerifiedIdentity.next] at taken
          split at taken <;> cases taken
      | insertingIdentity user =>
          rw [atPoint] at taken
          simp only [VerifiedIdentity.next] at taken
          split at taken <;> cases taken
      | readingPlan user identity =>
          rw [atPoint] at taken
          simp only [VerifiedIdentity.next] at taken
          split at taken
          · cases taken
          · split at taken
            · cases taken
            · split at taken <;> cases taken

theorem proceedCheck_move {check : Check} (isOpen : check ∈ world.checks) :
    IdentityMove config world (world.proceedCheck check).1 (world.proceedCheck check).2 := by
  have removed : ∀ other : Check, other.id ≠ check.id →
      (other ∈ world.checks.filter (·.id ≠ check.id) ↔ other ∈ world.checks) := by
    intro other differs
    simp [differs]
  have noOwn : ∀ other ∈ world.checks.filter (·.id ≠ check.id), other.id = check.id →
      ∃ sessionId, other.point = .touching sessionId world.clock := by
    intro other otherMem same
    simp [same] at otherMem
  have fewer : ((world.checks.filter (·.id ≠ check.id)).map (·.id)).Sublist
      (world.checks.map (·.id)) := List.filter_sublist.map _
  unfold IdentityWorld.proceedCheck
  cases atPoint : check.point with
  | found session =>
      cases session with
      | none => exact .decided check _ _ isOpen (.inl ⟨atPoint, rfl⟩) removed noOwn fewer
      | some session => exact .userRead check session isOpen atPoint
  | checking session user =>
      cases user with
      | none =>
          exact .decided check _ _ isOpen (.inr ⟨session, none, atPoint, rfl⟩) removed noOwn fewer
      | some user =>
          simp only
          cases checked : checkSession session user world.clock with
          | error error =>
              exact .decided check _ _ isOpen (.inr ⟨session, some user, atPoint, checked.symm⟩)
                removed noOwn fewer
          | ok accepted =>
              refine .decided check _ _ isOpen (.inr ⟨session, some user, atPoint, checked.symm⟩)
                ?_ ?_ ?_
              · intro other differs
                split
                · rw [KeyedRows.mem_replace]
                  constructor
                  · rintro (⟨rfl, _⟩ | ⟨otherMem, _⟩)
                    · exact absurd rfl differs
                    · exact otherMem
                  · exact fun otherMem => .inr ⟨otherMem, differs⟩
                · exact removed other differs
              · intro other otherMem same
                split at otherMem
                · rcases KeyedRows.mem_replace.mp otherMem with ⟨rfl, _⟩ | ⟨_, differs⟩
                  · exact ⟨session.id, rfl⟩
                  · exact absurd same differs
                · exact noOwn other otherMem same
              · split
                · simp
                · exact fewer
  | touching sessionId now => exact .touched check sessionId now isOpen atPoint

/-- Every step is one of the listed ones. -/
theorem identity_move (step : (identity config).step world event next) :
    IdentityMove config world event next := by
  rcases step with ⟨action, step⟩
  cases action with
  | tick later =>
      simp only [IdentityWorld.step?] at step
      split at step
      · rename_i forward
        cases step
        exact .ticked later forward
      · cases step
  | administer plans =>
      simp only [IdentityWorld.step?] at step
      split at step
      · rename_i db committed
        split at step
        · rename_i kept
          cases step
          exact .planned db plans (Accounts.commit_eq_some committed) kept
        · cases step
      · cases step
  | setActive userId active =>
      simp only [IdentityWorld.step?] at step
      split at step
      · rename_i known
        cases step
        exact .activitySet userId active known
      · cases step
  | callback info =>
      simp only [IdentityWorld.step?] at step
      split at step
      · rename_i error unverified
        cases step
        exact .refused info error unverified
      · rename_i verified isVerified
        cases step
        exact .begun info verified isVerified
  | proceed id context =>
      simp only [IdentityWorld.step?] at step
      split at step
      · cases step
      · rename_i callback found
        split at step
        · cases step
        · rename_i free
          simp only [not_or, not_not] at free
          have takes : world.Takes config callback context :=
            ⟨KeyedRows.mem_of_lookup found, free.1, free.2.1, free.2.2⟩
          have moved := proceedCallback_move takes
          rw [Option.some.inj step] at moved
          exact moved
  | abandon id =>
      simp only [IdentityWorld.step?] at step
      split at step
      · cases step
        exact .abandoned id
      · cases step
  | authenticate cookie =>
      cases step
      exact .sessionRead cookie
  | continueCheck id =>
      simp only [IdentityWorld.step?] at step
      split at step
      · cases step
      · rename_i check found
        have moved : IdentityMove config world (world.proceedCheck check).1
            (world.proceedCheck check).2 := proceedCheck_move (KeyedRows.mem_of_lookup found)
        rw [Option.some.inj step] at moved
        exact moved
  | logout cookie =>
      cases step
      exact .logoutRead cookie
  | commitLogout id =>
      simp only [IdentityWorld.step?] at step
      split at step
      · cases step
      · rename_i logout found
        obtain rfl : logout.id = id := KeyedRows.key_of_lookup found
        cases step
        exact .loggedOut logout (KeyedRows.mem_of_lookup found)

theorem IdentityMove.nextId_le (move : IdentityMove config world event next) :
    world.nextId ≤ next.nextId := by
  cases move <;> first | exact le_rfl | exact Nat.le_succ _

/-- The callback that takes the step. -/
def IdentityEvent.callback? : IdentityEvent → Option ℕ
  | .begun id _ | .proceeded id | .retried id | .loggedIn id _ | .raised id _ | .abandoned id =>
      some id
  | _ => none

/-- A callback changes the tables only with its commit. -/
theorem IdentityMove.db_of_callback (move : IdentityMove config world event next) {id : ℕ}
    (own : event.callback? = some id) (uncommitted : ∀ login, event ≠ .loggedIn id login) :
    next.db = world.db := by
  cases move with
  | loggedIn callback account session token issuedAt =>
      simp only [IdentityEvent.callback?, Option.some.injEq] at own
      exact absurd rfl (own ▸ uncommitted _)
  | planned | activitySet | touched | loggedOut => cases own
  | _ => rfl

/-- What the local variables of a callback say about each other. -/
def Callback.Prepared (config : IdentityConfig) (callback : Callback) : Prop :=
  match callback.point with
  | .selectingIdentity | .insertingUser => True
  | .readingUser identity => identity.pair = callback.verified.pair
  | .insertingIdentity user => user.isActive = true
  | .readingPlan user identity => user.isActive = true ∧ identity.userId = user.id ∧
      identity.pair = callback.verified.pair
  | .committing account session token issuedAt =>
      session.tokenHash = config.sha256 token ∧
      session.expiresAt = issuedAt + config.sessionMaxAge ∧ session.revokedAt = none ∧
      match account with
      | .inl account => account.user.isActive = true ∧ account.identity.userId = account.user.id ∧
          account.identity.pair = callback.verified.pair ∧
          account.quota.userId = account.user.id ∧ session.userId = account.user.id
      | .inr identity => identity.pair = callback.verified.pair ∧ identity.userId = session.userId

/-- A statement keeps the local variables consistent. -/
theorem Callback.Prepared.proceed {callback : Callback} {context : LoginContext}
    {point : LoginPoint} (prepared : callback.Prepared config)
    (goesOn : callback.verified.next config world.db context callback.point = .proceed point) :
    Callback.Prepared config { callback with point } := by
  unfold Callback.Prepared at prepared
  cases atPoint : callback.point with
  | selectingIdentity =>
      simp only [atPoint, VerifiedIdentity.next] at goesOn
      split at goesOn
      · rename_i found
        cases goesOn
        exact (Accounts.identity?_eq_some_iff.mp found).2
      · cases goesOn
        trivial
  | readingUser identity =>
      simp only [atPoint, VerifiedIdentity.next] at goesOn prepared
      split at goesOn
      · cases goesOn
      · rename_i user found
        split at goesOn
        · cases goesOn
        · cases goesOn
          exact ⟨rfl, rfl, rfl, prepared, (Accounts.user?_eq_some_iff.mp found).2.symm⟩
  | insertingUser =>
      simp only [atPoint, VerifiedIdentity.next] at goesOn
      split at goesOn
      · cases goesOn
      · cases goesOn
        rfl
  | insertingIdentity user =>
      simp only [atPoint, VerifiedIdentity.next] at goesOn prepared
      split at goesOn
      · cases goesOn
      · cases goesOn
        exact ⟨prepared, rfl, rfl⟩
  | readingPlan user identity =>
      simp only [atPoint, VerifiedIdentity.next] at goesOn prepared
      split at goesOn
      · cases goesOn
      · split at goesOn
        · cases goesOn
        · split at goesOn
          · cases goesOn
          · cases goesOn
            exact ⟨rfl, rfl, rfl, prepared.1, prepared.2.1, prepared.2.2, rfl, rfl⟩
  | committing account session token issuedAt =>
      simp [atPoint, VerifiedIdentity.next] at goesOn

/-- Where an open callback comes from. -/
theorem IdentityMove.callback_after (move : IdentityMove config world event next)
    {callback : Callback} (isOpen : callback ∈ next.callbacks) :
    callback ∈ world.callbacks ∨
    (callback.point = .selectingIdentity ∧ callback.retried = false ∧ callback.id = world.nextId ∧
      next.nextId = world.nextId + 1 ∧
      ∃ info, event = .begun callback.id info ∧ info.verified = .ok callback.verified) ∨
    (∃ old context, world.Takes config old context ∧
      world.Raises config old context .integrityError ∧ event = .retried old.id ∧
      callback = { old with retried := true, point := .selectingIdentity }) ∨
    ∃ old context point, world.Takes config old context ∧ event = .proceeded old.id ∧
      old.verified.next config world.db context old.point = .proceed point ∧
      callback = { old with point } := by
  cases move with
  | begun info callerVerified verified =>
      rcases List.mem_append.mp isOpen with old | new
      · exact .inl old
      · rcases List.mem_singleton.mp new with rfl
        exact .inr (.inl ⟨rfl, rfl, rfl, rfl, info, rfl, verified⟩)
  | proceeded old context point takes goesOn =>
      rcases KeyedRows.mem_replace.mp isOpen with ⟨rfl, _⟩ | ⟨kept, _⟩
      · exact .inr (.inr (.inr ⟨old, context, point, takes, rfl, goesOn, rfl⟩))
      · exact .inl kept
  | retried old context takes raises =>
      rcases KeyedRows.mem_replace.mp isOpen with ⟨rfl, _⟩ | ⟨kept, _⟩
      · exact .inr (.inr (.inl ⟨old, context, takes, raises, rfl, rfl⟩))
      · exact .inl kept
  | raised => exact .inl (List.mem_of_mem_filter isOpen)
  | loggedIn => exact .inl (List.mem_of_mem_filter isOpen)
  | abandoned => exact .inl (List.mem_of_mem_filter isOpen)
  | _ => exact .inl isOpen

theorem prepared_of_reachable (reachable : (identity config).Reachable world) :
    ∀ callback ∈ world.callbacks, callback.Prepared config := by
  refine reachable.invariant (motive := fun world =>
    ∀ callback ∈ world.callbacks, callback.Prepared config) ?_ ?_
  · rintro state ⟨clock, rfl⟩ callback isOpen
    exact absurd isOpen List.not_mem_nil
  · intro state label later prepared step callback isOpen
    rcases (identity_move step).callback_after isOpen with old | ⟨atStart, _⟩ |
      ⟨old, _, _, _, _, rfl⟩ | ⟨old, context, point, takes, _, goesOn, rfl⟩
    · exact prepared callback old
    · simp [Callback.Prepared, atStart]
    · trivial
    · exact (prepared old takes.isOpen).proceed goesOn

end Moves

end NpdPortal
