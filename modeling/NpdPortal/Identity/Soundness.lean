import NpdPortal.Identity.Moves

/-!
# Who a session token is accepted for

The stored rows are compared with the history: a row exists for every committed
login and is revoked exactly after a committed logout.  A session check decides
on rows it has read earlier, and accepts a token exactly if the history before
these reads does.
-/

namespace NpdPortal

/-- The tokens an event shows. -/
def IdentityEvent.tokens : IdentityEvent → List String
  | .loggedIn _ login => [login.token]
  | .sessionRead _ cookie _ | .logoutRead _ cookie _ | .loggedOut _ cookie _ => cookie.toList
  | _ => []

/-- Different tokens of the history have different digests. -/
def NoCollision (config : IdentityConfig) (history : List IdentityEvent) : Prop :=
  ∀ first ∈ history.flatMap IdentityEvent.tokens, ∀ second ∈ history.flatMap IdentityEvent.tokens,
    config.sha256 first = config.sha256 second → first = second

/-- A logout with this token found its session and committed. -/
def LoggedOut (history : List IdentityEvent) (token : String) : Prop :=
  ∃ id row, .loggedOut id (some token) (some row) ∈ history

/-- The activity of a user after an event. -/
def IdentityEvent.activity (userId : Uuid) (active : Bool) : IdentityEvent → Bool
  | .loggedIn _ login => if login.newUser = true ∧ login.userId = userId then true else active
  | .activitySet id value => if id = userId then value else active
  | _ => active

/-- The user was created, and the activity was last set to true. -/
def ActiveAfter (history : List IdentityEvent) (userId : Uuid) : Prop :=
  history.foldl (fun active event => event.activity userId active) false = true

/-- The row a login has written. -/
structure Login.Wrote (config : IdentityConfig) (login : Login) (session : ApplicationSession) :
    Prop where
  tokenHash : session.tokenHash = config.sha256 login.token
  userId : session.userId = login.userId
  expiresAt : session.expiresAt = login.issuedAt + config.sessionMaxAge

/-- How a later version of a session row compares with an earlier one. -/
structure ApplicationSession.Onward (session later : ApplicationSession) : Prop where
  id : later.id = session.id
  userId : later.userId = session.userId
  tokenHash : later.tokenHash = session.tokenHash
  expiresAt : later.expiresAt = session.expiresAt
  revoked : session.revokedAt ≠ none → later.revokedAt ≠ none

theorem ApplicationSession.Onward.refl (session : ApplicationSession) : session.Onward session :=
  ⟨rfl, rfl, rfl, rfl, fun revoked => revoked⟩

theorem ApplicationSession.Onward.trans {first second third : ApplicationSession}
    (before : first.Onward second) (after : second.Onward third) : first.Onward third :=
  ⟨after.id.trans before.id, after.userId.trans before.userId,
    after.tokenHash.trans before.tokenHash, after.expiresAt.trans before.expiresAt,
    fun revoked => after.revoked (before.revoked revoked)⟩

section Rows

variable {config : IdentityConfig} {world next : IdentityWorld} {event : IdentityEvent}
  {history : List IdentityEvent}

theorem ApplicationSession.onward_touch (session : ApplicationSession) (sessionId : Uuid)
    (now : Time) :
    session.Onward
      (if session.id = sessionId then { session with lastSeenAt := now } else session) := by
  split <;> exact ⟨rfl, rfl, rfl, rfl, fun revoked => revoked⟩

theorem ApplicationSession.onward_revoke (session : ApplicationSession) (sessionId : Uuid)
    (now : Time) :
    session.Onward
      (if session.id = sessionId then { session with revokedAt := some now } else session) := by
  split <;> exact ⟨rfl, rfl, rfl, rfl, fun revoked => by simp_all⟩

/-- Every session row is followed by one that comes after it. -/
theorem IdentityMove.onward (move : IdentityMove config world event next)
    {session : ApplicationSession} (stored : session ∈ world.db.applicationSessions) :
    ∃ later ∈ next.db.applicationSessions, session.Onward later := by
  cases move with
  | planned db plans tables => exact ⟨session, by simpa [tables] using stored, .refl session⟩
  | loggedIn callback account row token issuedAt db _ _ tables =>
      refine ⟨session, ?_, .refl session⟩
      rw [Accounts.sessions_withLogin tables]
      exact List.mem_append_left _ stored
  | touched check sessionId now =>
      exact ⟨_, Accounts.mem_touch.mpr ⟨session, stored, rfl⟩, session.onward_touch sessionId now⟩
  | loggedOut logout =>
      cases written : logout.write with
      | none => exact ⟨session, stored, .refl session⟩
      | some write =>
          exact ⟨_, Accounts.mem_revoke.mpr ⟨session, stored, rfl⟩, session.onward_revoke _ _⟩
  | _ => exact ⟨session, stored, .refl session⟩

/-- Every session row after a step was there before, with the same activity unless the step is a
logout that writes it, or is the row of a login. -/
theorem IdentityMove.session_after (move : IdentityMove config world event next)
    {session : ApplicationSession} (stored : session ∈ next.db.applicationSessions) :
    (∃ old ∈ world.db.applicationSessions, old.Onward session ∧
      (session.revokedAt ≠ none → old.revokedAt ≠ none ∨ ∃ logout ∈ world.logouts, ∃ now,
        event = .loggedOut logout.id logout.cookie logout.session ∧
          logout.write = some (session.id, now))) ∨
    ∃ callback ∈ world.callbacks, ∃ account token issuedAt,
      callback.point = .committing account session token issuedAt ∧
        event = .loggedIn callback.id
          ⟨callback.verified, session.userId, account.isLeft, token, issuedAt⟩ := by
  have same : session ∈ world.db.applicationSessions →
      ∃ old ∈ world.db.applicationSessions, old.Onward session ∧
        (session.revokedAt ≠ none → old.revokedAt ≠ none ∨ ∃ logout ∈ world.logouts, ∃ now,
          event = .loggedOut logout.id logout.cookie logout.session ∧
            logout.write = some (session.id, now)) :=
    fun old => ⟨session, old, .refl session, .inl⟩
  cases move with
  | planned db plans tables => exact .inl (same (by simpa [tables] using stored))
  | loggedIn callback account row token issuedAt db isOpen atCommit tables =>
      simp only [Accounts.sessions_withLogin tables, List.mem_append, List.mem_singleton] at stored
      rcases stored with old | rfl
      · exact .inl (same old)
      · exact .inr ⟨callback, isOpen, account, token, issuedAt, atCommit, rfl⟩
  | touched check sessionId now =>
      rcases Accounts.mem_touch.mp stored with ⟨old, oldMem, rfl⟩
      refine .inl ⟨old, oldMem, old.onward_touch sessionId now, fun revoked => .inl ?_⟩
      split at revoked <;> exact revoked
  | loggedOut logout isOpen =>
      cases written : logout.write with
      | none =>
          simp only [written, Accounts.revoke] at stored
          exact .inl (same stored)
      | some write =>
          rcases write with ⟨sessionId, now⟩
          simp only [written] at stored
          rcases Accounts.mem_revoke.mp stored with ⟨old, oldMem, rfl⟩
          refine .inl ⟨old, oldMem, old.onward_revoke _ _, fun revoked => ?_⟩
          by_cases isSession : old.id = sessionId
          · refine .inr ⟨logout, isOpen, now, rfl, ?_⟩
            simp [isSession, written]
          · rw [if_neg isSession] at revoked
            exact .inl revoked
  | _ => exact .inl (same stored)

end Rows

section Histories

variable {config : IdentityConfig} {world next : IdentityWorld} {event : IdentityEvent}
  {history : List IdentityEvent}

/-- Every committed login has its row. -/
theorem exists_row_of_loggedIn (execution : (identity config).Execution history world) :
    ∀ id login, .loggedIn id login ∈ history →
      ∃ session ∈ world.db.applicationSessions, login.Wrote config session := by
  refine execution.invariant (motive := fun history world =>
    ∀ id login, .loggedIn id login ∈ history →
      ∃ session ∈ world.db.applicationSessions, login.Wrote config session) ?_ ?_
  · rintro state _ id login impossible
    exact absurd impossible List.not_mem_nil
  · intro earlier state label later before rows step id login isMember
    have move := identity_move step
    rcases List.mem_append.mp isMember with old | isLast
    · rcases rows id login old with ⟨session, stored, wrote⟩
      rcases move.onward stored with ⟨row, rowMem, onward⟩
      exact ⟨row, rowMem, onward.tokenHash.trans wrote.tokenHash,
        onward.userId.trans wrote.userId, onward.expiresAt.trans wrote.expiresAt⟩
    · rcases List.mem_singleton.mp isLast with rfl
      cases move with
      | loggedIn callback account session token issuedAt db isOpen atCommit tables =>
          have prepared := prepared_of_reachable before.reachable callback isOpen
          simp only [Callback.Prepared, atCommit] at prepared
          refine ⟨session, ?_, prepared.1, rfl, prepared.2.1⟩
          rw [Accounts.sessions_withLogin tables]
          exact List.mem_append_right _ (List.mem_singleton_self _)

/-- Every row was written by a committed login. -/
theorem exists_loggedIn_of_row (execution : (identity config).Execution history world) :
    ∀ session ∈ world.db.applicationSessions,
      ∃ id login, .loggedIn id login ∈ history ∧ login.Wrote config session := by
  refine execution.invariant (motive := fun history world =>
    ∀ session ∈ world.db.applicationSessions,
      ∃ id login, .loggedIn id login ∈ history ∧ login.Wrote config session) ?_ ?_
  · rintro state ⟨clock, rfl⟩ session stored
    exact absurd stored List.not_mem_nil
  · intro earlier state label later before written step session stored
    rcases (identity_move step).session_after stored with ⟨old, oldMem, onward, _⟩ |
      ⟨callback, isOpen, account, token, issuedAt, atCommit, rfl⟩
    · rcases written old oldMem with ⟨id, login, isMember, wrote⟩
      exact ⟨id, login, List.mem_append_left _ isMember, onward.tokenHash.trans wrote.tokenHash,
        onward.userId.trans wrote.userId, onward.expiresAt.trans wrote.expiresAt⟩
    · have prepared := prepared_of_reachable before.reachable callback isOpen
      simp only [Callback.Prepared, atCommit] at prepared
      exact ⟨_, _, List.mem_append_right _ (List.mem_singleton_self _), prepared.1, rfl,
        prepared.2.1⟩

/-- The session which a cookie led to, as it is stored now. -/
def FollowedBy (config : IdentityConfig) (world : IdentityWorld) (cookie : Option String)
    (session : ApplicationSession) : Prop :=
  ∃ token, cookie = some token ∧ session.tokenHash = config.sha256 token ∧
    ∃ stored ∈ world.db.applicationSessions, session.Onward stored

theorem FollowedBy.move {cookie : Option String} {session : ApplicationSession}
    (followed : FollowedBy config world cookie session)
    (move : IdentityMove config world event next) : FollowedBy config next cookie session := by
  rcases followed with ⟨token, isToken, hash, stored, storedMem, onward⟩
  rcases move.onward storedMem with ⟨later, laterMem, further⟩
  exact ⟨token, isToken, hash, later, laterMem, onward.trans further⟩

theorem followedBy_of_cookie {cookie : Option String} {session : ApplicationSession}
    (found : world.db.sessionOfCookie? config cookie = some session) :
    FollowedBy config world cookie session := by
  cases cookie with
  | none => cases found
  | some token =>
      rcases Accounts.sessionByHash?_eq_some_iff.mp found with ⟨stored, hash⟩
      exact ⟨token, rfl, hash, session, stored, .refl session⟩

/-- What the open logouts have read and are about to write. -/
theorem logouts_of_reachable (reachable : (identity config).Reachable world) :
    ∀ logout ∈ world.logouts, (∃ now, logout.write = revocation logout.session now) ∧
      ∀ session ∈ logout.session, FollowedBy config world logout.cookie session := by
  refine reachable.invariant (motive := fun world =>
    ∀ logout ∈ world.logouts, (∃ now, logout.write = revocation logout.session now) ∧
      ∀ session ∈ logout.session, FollowedBy config world logout.cookie session) ?_ ?_
  · rintro state ⟨clock, rfl⟩ logout isOpen
    exact absurd isOpen List.not_mem_nil
  · intro state label later known step logout isOpen
    have move := identity_move step
    have kept : logout ∈ state.logouts → (∃ now, logout.write = revocation logout.session now) ∧
        ∀ session ∈ logout.session, FollowedBy config later logout.cookie session := by
      intro old
      rcases known logout old with ⟨write, sessions⟩
      exact ⟨write, fun session isSession => (sessions session isSession).move move⟩
    cases move with
    | logoutRead cookie =>
        rcases List.mem_append.mp isOpen with old | new
        · exact kept old
        · rcases List.mem_singleton.mp new with rfl
          refine ⟨⟨state.clock, rfl⟩, fun session isSession => ?_⟩
          have followed : FollowedBy config state cookie session := followedBy_of_cookie isSession
          exact followed
    | loggedOut => exact kept (List.mem_of_mem_filter isOpen)
    | _ => exact kept isOpen

/-- A session whose logout has committed stays revoked. -/
theorem revoked_of_loggedOut (execution : (identity config).Execution history world) :
    ∀ id cookie session, .loggedOut id cookie (some session) ∈ history →
      ∃ token, cookie = some token ∧ session.tokenHash = config.sha256 token ∧
        ∃ stored ∈ world.db.applicationSessions,
          session.Onward stored ∧ stored.revokedAt ≠ none := by
  refine execution.invariant (motive := fun history world =>
    ∀ id cookie session, .loggedOut id cookie (some session) ∈ history →
      ∃ token, cookie = some token ∧ session.tokenHash = config.sha256 token ∧
        ∃ stored ∈ world.db.applicationSessions,
          session.Onward stored ∧ stored.revokedAt ≠ none) ?_ ?_
  · rintro state _ id cookie session impossible
    exact absurd impossible List.not_mem_nil
  · intro earlier state label later before revoked step id cookie session isMember
    have move := identity_move step
    rcases List.mem_append.mp isMember with old | isLast
    · rcases revoked id cookie session old with ⟨token, isToken, hash, stored, storedMem, onward,
        isRevoked⟩
      rcases move.onward storedMem with ⟨row, rowMem, further⟩
      exact ⟨token, isToken, hash, row, rowMem, onward.trans further, further.revoked isRevoked⟩
    · rcases List.mem_singleton.mp isLast with rfl
      generalize found : some session = read at move
      cases move with
      | loggedOut logout isOpen =>
          rcases logouts_of_reachable before.reachable logout isOpen with ⟨⟨now, write⟩, sessions⟩
          rcases sessions session found.symm with ⟨token, isToken, hash, stored, storedMem, onward⟩
          refine ⟨token, isToken, hash, ?_⟩
          rw [← found] at write
          simp only [revocation] at write
          split at write
          · rename_i isRevoked
            exact ⟨stored, by simpa [write, Accounts.revoke] using storedMem, onward,
              onward.revoked isRevoked⟩
          · refine ⟨_, ?_, onward.trans (stored.onward_revoke session.id now), ?_⟩
            · rw [write]
              exact Accounts.mem_revoke.mpr ⟨stored, storedMem, rfl⟩
            · simp [onward.id]

/-- A session is revoked only by a logout that has committed. -/
theorem loggedOut_of_revoked (execution : (identity config).Execution history world) :
    ∀ session ∈ world.db.applicationSessions, session.revokedAt ≠ none →
      ∃ id cookie row, .loggedOut id cookie (some row) ∈ history ∧ row.id = session.id := by
  refine execution.invariant (motive := fun history world =>
    ∀ session ∈ world.db.applicationSessions, session.revokedAt ≠ none →
      ∃ id cookie row, .loggedOut id cookie (some row) ∈ history ∧ row.id = session.id) ?_ ?_
  · rintro state ⟨clock, rfl⟩ session stored
    exact absurd stored List.not_mem_nil
  · intro earlier state label later before known step session stored isRevoked
    rcases (identity_move step).session_after stored with ⟨old, oldMem, onward, source⟩ |
      ⟨callback, isOpen, account, token, issuedAt, atCommit, rfl⟩
    · rcases source isRevoked with wasRevoked | ⟨logout, isOpen, now, rfl, write⟩
      · rcases known old oldMem wasRevoked with ⟨id, cookie, row, isMember, same⟩
        exact ⟨id, cookie, row, List.mem_append_left _ isMember, same.trans onward.id.symm⟩
      · rcases (logouts_of_reachable before.reachable logout isOpen).1 with ⟨read, isRead⟩
        rw [write] at isRead
        cases found : logout.session with
        | none => simp [found, revocation] at isRead
        | some row =>
            simp only [found, revocation] at isRead
            split at isRead
            · cases isRead
            · simp only [Option.some.injEq, Prod.mk.injEq] at isRead
              exact ⟨logout.id, logout.cookie, row,
                List.mem_append_right _ (List.mem_singleton_self _), isRead.1.symm⟩
    · have prepared := prepared_of_reachable before.reachable callback isOpen
      simp only [Callback.Prepared, atCommit] at prepared
      exact absurd prepared.2.2.1 isRevoked

theorem activeAfter_append (history : List IdentityEvent) (event : IdentityEvent)
    (userId : Uuid) : ActiveAfter (history ++ [event]) userId ↔
      event.activity userId (history.foldl (fun active event => event.activity userId active)
        false) = true := by
  simp [ActiveAfter]

/-- The stored activity of a user is the one the history has left. -/
theorem isActive_iff (execution : (identity config).Execution history world) :
    ∀ user ∈ world.db.users, user.isActive = true ↔ ActiveAfter history user.id := by
  refine execution.invariant (motive := fun history world =>
    ∀ user ∈ world.db.users, user.isActive = true ↔ ActiveAfter history user.id) ?_ ?_
  · rintro state ⟨clock, rfl⟩ user stored
    exact absurd stored List.not_mem_nil
  · intro earlier state label later before known step user stored
    have move := identity_move step
    rw [activeAfter_append]
    have kept : user ∈ state.db.users → label.activity user.id
        (earlier.foldl (fun active event => event.activity user.id active) false) =
          earlier.foldl (fun active event => event.activity user.id active) false →
        (user.isActive = true ↔ label.activity user.id
          (earlier.foldl (fun active event => event.activity user.id active) false) = true) := by
      intro old same
      rw [same]
      exact known user old
    cases move with
    | planned db plans tables => exact kept (by simpa [tables] using stored) rfl
    | activitySet userId active =>
        rcases List.mem_map.mp stored with ⟨old, oldMem, rfl⟩
        by_cases isUser : old.id = userId
        · simp [isUser, IdentityEvent.activity]
        · simp only [if_neg isUser] at kept ⊢
          exact kept oldMem (by simp [IdentityEvent.activity, Ne.symm isUser])
    | loggedIn callback account session token issuedAt db isOpen atCommit tables =>
        have prepared := prepared_of_reachable before.reachable callback isOpen
        simp only [Callback.Prepared, atCommit] at prepared
        cases account with
        | inl account =>
            rcases prepared with ⟨_, _, _, isActive, _, _, _, isUser⟩
            have users : db.users = state.db.users ++ [account.user] := by rw [tables]; rfl
            simp only [users, List.mem_append, List.mem_singleton] at stored
            rcases stored with old | rfl
            · have differs : session.userId ≠ user.id := by
                intro same
                have distinct := db.valid.userIds
                rw [users, List.map_append, List.nodup_append] at distinct
                exact distinct.2.2 user.id (List.mem_map_of_mem old) account.user.id (by simp)
                  (same.symm.trans isUser)
              exact kept old (by simp [IdentityEvent.activity, differs])
            · simp [IdentityEvent.activity, isUser, isActive]
        | inr identity =>
            have users : db.users = state.db.users := by rw [tables]; rfl
            rw [users] at stored
            exact kept stored (by simp [IdentityEvent.activity])
    | loggedOut logout =>
        cases written : logout.write <;> simp only [written] at stored <;> exact kept stored rfl
    | _ => exact kept stored rfl

/-- The ids of the open session checks were given out before. -/
theorem checkIds_of_reachable (reachable : (identity config).Reachable world) :
    ∀ check ∈ world.checks, check.id < world.nextId := by
  refine reachable.invariant (motive := fun world =>
    ∀ check ∈ world.checks, check.id < world.nextId) ?_ ?_
  · rintro state ⟨clock, rfl⟩ check isOpen
    exact absurd isOpen List.not_mem_nil
  · intro state label later known step check isOpen
    cases identity_move step with
    | refused => exact (known check isOpen).trans (Nat.lt_succ_self _)
    | begun => exact (known check isOpen).trans (Nat.lt_succ_self _)
    | sessionRead cookie =>
        rcases List.mem_append.mp isOpen with old | new
        · exact (known check old).trans (Nat.lt_succ_self _)
        · rcases List.mem_singleton.mp new with rfl
          exact Nat.lt_succ_self _
    | userRead old session oldOpen =>
        rcases KeyedRows.mem_replace.mp isOpen with ⟨rfl, _⟩ | ⟨kept, _⟩
        · exact known old oldOpen
        · exact known check kept
    | decided old outcome checks oldOpen decides others own =>
        by_cases same : check.id = old.id
        · rw [same]
          exact known old oldOpen
        · exact known check ((others check same).mp isOpen)
    | touched => exact known check (List.mem_of_mem_filter isOpen)
    | logoutRead => exact (known check isOpen).trans (Nat.lt_succ_self _)
    | _ => exact known check isOpen

end Histories

section Checks

variable {config : IdentityConfig} {world next later final : IdentityWorld}
  {first rest : List IdentityEvent} {id : ℕ} {cookie : Option String}
  {session : Option ApplicationSession}

/-- What a check which read `session` after `first` has done in the events `rest`. -/
def Check.Follows (check : Check) (first : List IdentityEvent)
    (session : Option ApplicationSession) (rest : List IdentityEvent) : Prop :=
  match check.point with
  | .found found => session = found ∧ ∀ user, .userRead check.id user ∉ rest
  | .checking found user => session = some found ∧ ∃ second third,
      rest = second ++ .userRead check.id user :: third ∧
      (∀ other, .userRead check.id other ∉ second) ∧
      (∀ other, .userRead check.id other ∉ third) ∧
      ∃ row, user = some row ∧ row.id = found.userId ∧
        (row.isActive = true ↔ ActiveAfter (first ++ second) row.id)
  | .touching _ _ => True

theorem Check.Follows.append {check : Check} {label : IdentityEvent}
    (follows : check.Follows first session rest)
    (quiet : ∀ user, label ≠ .userRead check.id user) :
    check.Follows first session (rest ++ [label]) := by
  unfold Check.Follows at *
  cases atPoint : check.point with
  | found found =>
      simp only [atPoint] at follows ⊢
      refine ⟨follows.1, fun user isMember => ?_⟩
      rcases List.mem_append.mp isMember with old | isLast
      · exact follows.2 user old
      · exact quiet user (List.mem_singleton.mp isLast).symm
  | checking found user =>
      simp only [atPoint] at follows ⊢
      rcases follows with ⟨same, second, third, rfl, before, after, row⟩
      refine ⟨same, second, third ++ [label], by simp, before, fun other isMember => ?_, row⟩
      rcases List.mem_append.mp isMember with old | isLast
      · exact after other old
      · exact quiet other (List.mem_singleton.mp isLast).symm
  | touching => simp

/-- Along a run the session row of a check comes onward. -/
theorem onward_of_identity_run {history : List IdentityEvent} {row : ApplicationSession}
    (run : (identity config).Run world history next)
    (stored : row ∈ world.db.applicationSessions) :
    ∃ after ∈ next.db.applicationSessions, row.Onward after := by
  refine run.invariant (motive := fun world =>
    ∃ after ∈ world.db.applicationSessions, row.Onward after) ?_ ⟨row, stored, .refl row⟩
  rintro state label following ⟨after, afterMem, onward⟩ step
  rcases (identity_move step).onward afterMem with ⟨further, furtherMem, toFurther⟩
  exact ⟨further, furtherMem, onward.trans toFurther⟩

/-- After its first read a check only goes on with what it has read. -/
theorem follows_of_run (execution : (identity config).Execution first world)
    (reads : (identity config).step world (.sessionRead id cookie session) next)
    (run : (identity config).Run next rest later) :
    id < later.nextId ∧ ∀ check ∈ later.checks, check.id = id →
      check.Follows (first ++ [.sessionRead id cookie session]) session rest := by
  have started := execution.snoc reads
  induction run with
  | nil =>
      have ids := checkIds_of_reachable execution.reachable
      cases identity_move reads with
      | sessionRead =>
          refine ⟨Nat.lt_succ_self _, fun check isOpen same => ?_⟩
          rcases List.mem_append.mp isOpen with old | new
          · exact absurd same (ids check old).ne
          · rcases List.mem_singleton.mp new with rfl
            exact ⟨rfl, fun user => List.not_mem_nil⟩
  | @snoc state after events label before step ih =>
      rcases ih with ⟨known, follows⟩
      have move := identity_move step
      refine ⟨known.trans_le move.nextId_le, fun check isOpen same => ?_⟩
      have kept : check ∈ state.checks → (∀ user, label ≠ .userRead check.id user) →
          check.Follows (first ++ [.sessionRead id cookie session]) session (events ++ [label]) :=
        fun old quiet => (follows check old same).append quiet
      cases move with
      | sessionRead other =>
          rcases List.mem_append.mp isOpen with old | new
          · exact kept old (by simp)
          · rcases List.mem_singleton.mp new with rfl
            exact absurd same known.ne'
      | userRead reader found readerOpen atFound =>
          rcases KeyedRows.mem_replace.mp isOpen with ⟨rfl, _⟩ | ⟨old, differs⟩
          · have followed := follows reader readerOpen same
            simp only [Check.Follows, atFound] at followed ⊢
            rcases followed with ⟨isSession, unread⟩
            refine ⟨isSession, events, [], rfl, unread, by simp, ?_⟩
            have stored : found ∈ world.db.applicationSessions := by
              cases identity_move reads with
              | sessionRead =>
                  cases cookie with
                  | none => cases isSession
                  | some token => exact (Accounts.sessionByHash?_eq_some_iff.mp isSession).1
            have atNext : found ∈ next.db.applicationSessions := by
              cases identity_move reads
              exact stored
            rcases onward_of_identity_run before atNext with ⟨row, rowMem, onward⟩
            have isUser := state.db.valid.sessionUsers row rowMem
            rcases List.mem_map.mp isUser with ⟨user, userMem, sameUser⟩
            have read : state.db.user? found.userId = some user :=
              Accounts.user?_eq_some_iff.mpr ⟨userMem, sameUser.trans onward.userId⟩
            refine ⟨user, read, sameUser.trans onward.userId, ?_⟩
            exact isActive_iff (started.append before) user userMem
          · refine kept old fun user sameRead => ?_
            simp only [IdentityEvent.userRead.injEq] at sameRead
            exact differs sameRead.1.symm
      | decided own outcome checks ownOpen decides others touching =>
          by_cases isOwn : check.id = own.id
          · rcases touching check isOpen isOwn with ⟨sessionId, atTouch⟩
            simp [Check.Follows, atTouch]
          · exact kept ((others check isOwn).mp isOpen) (by simp)
      | touched => exact kept (List.mem_of_mem_filter isOpen) (by simp)
      | _ => exact kept isOpen (by simp)

/-- A history which has the token issued to the user in time, and no logout of it. -/
structure Entitled (config : IdentityConfig) (history : List IdentityEvent) (token : String)
    (userId : Uuid) (now : Time) : Prop where
  issued : ∃ callback login, .loggedIn callback login ∈ history ∧ login.token = token ∧
    login.userId = userId ∧ now < login.issuedAt + config.sessionMaxAge
  notRevoked : ¬LoggedOut history token

/-- The one row of a digest. -/
theorem Accounts.session_unique {db : Accounts} {first second : ApplicationSession}
    (firstMem : first ∈ db.applicationSessions) (secondMem : second ∈ db.applicationSessions)
    (same : first.tokenHash = second.tokenHash) : first = second :=
  List.inj_on_of_nodup_map db.valid.tokenHashes firstMem secondMem same

/-- The row a cookie leads to is there for a login with this token. -/
theorem loggedIn_of_cookie (execution : (identity config).Execution first world)
    (distinct : NoCollision config (first ++ [.sessionRead id cookie session]))
    {found : ApplicationSession} {token : String} (isToken : cookie = some token)
    (stored : found ∈ world.db.applicationSessions)
    (hash : found.tokenHash = config.sha256 token) :
    ∃ callback login, .loggedIn callback login ∈ first ∧ login.token = token ∧
      login.Wrote config found := by
  rcases exists_loggedIn_of_row execution found stored with ⟨callback, login, isMember, wrote⟩
  refine ⟨callback, login, isMember, ?_, wrote⟩
  apply distinct
  · exact List.mem_flatMap.mpr ⟨_, List.mem_append_left _ isMember, List.mem_singleton_self _⟩
  · exact List.mem_flatMap.mpr ⟨_, List.mem_append_right _ (List.mem_singleton_self _),
      by simp [IdentityEvent.tokens, isToken]⟩
  · exact wrote.tokenHash.symm.trans hash

/-- The row a cookie leads to is revoked exactly after a logout with this token. -/
theorem revoked_iff (execution : (identity config).Execution first world)
    (distinct : NoCollision config (first ++ [.sessionRead id cookie session]))
    {found : ApplicationSession} {token : String} (isToken : cookie = some token)
    (stored : found ∈ world.db.applicationSessions)
    (hash : found.tokenHash = config.sha256 token) :
    found.revokedAt ≠ none ↔ LoggedOut first token := by
  constructor
  · intro isRevoked
    rcases loggedOut_of_revoked execution found stored isRevoked with
      ⟨logout, other, row, isMember, sameId⟩
    rcases revoked_of_loggedOut execution logout other row isMember with
      ⟨used, isUsed, usedHash, after, afterMem, onward, _⟩
    have sameRow : after = found :=
      List.inj_on_of_nodup_map world.db.valid.sessionIds afterMem stored (onward.id.trans sameId)
    have sameToken : used = token := by
      apply distinct
      · exact List.mem_flatMap.mpr ⟨_, List.mem_append_left _ isMember,
          by simp [IdentityEvent.tokens, isUsed]⟩
      · exact List.mem_flatMap.mpr ⟨_, List.mem_append_right _ (List.mem_singleton_self _),
          by simp [IdentityEvent.tokens, isToken]⟩
      · rw [← usedHash, ← hash, ← sameRow]
        exact onward.tokenHash.symm
    rw [isUsed, sameToken] at isMember
    exact ⟨logout, row, isMember⟩
  · rintro ⟨logout, row, isMember⟩
    rcases revoked_of_loggedOut execution logout (some token) row isMember with
      ⟨used, isUsed, usedHash, after, afterMem, onward, isRevoked⟩
    cases isUsed
    have sameRow : after = found := world.db.session_unique afterMem stored
      (onward.tokenHash.trans (usedHash.trans hash.symm))
    exact sameRow ▸ isRevoked

/-- The history speaks for a token exactly if the row of the token does. -/
theorem entitled_iff (execution : (identity config).Execution first world)
    (distinct : NoCollision config (first ++ [.sessionRead id cookie session]))
    {found : ApplicationSession} {token : String} (isToken : cookie = some token)
    (stored : found ∈ world.db.applicationSessions)
    (hash : found.tokenHash = config.sha256 token) (userId : Uuid) (now : Time) :
    Entitled config first token userId now ↔
      found.userId = userId ∧ now < found.expiresAt ∧ found.revokedAt = none := by
  have revoked := revoked_iff execution distinct isToken stored hash
  constructor
  · rintro ⟨⟨callback, login, isMember, sameToken, sameUser, inTime⟩, kept⟩
    rcases exists_row_of_loggedIn execution callback login isMember with ⟨row, rowMem, wrote⟩
    have sameRow : row = found := by
      apply world.db.session_unique rowMem stored
      rw [wrote.tokenHash, sameToken, hash]
    rw [← sameRow] at revoked ⊢
    exact ⟨wrote.userId.trans sameUser, wrote.expiresAt ▸ inTime,
      not_not.mp fun isRevoked => kept (revoked.mp isRevoked)⟩
  · rintro ⟨sameUser, inTime, isOpen⟩
    rcases loggedIn_of_cookie execution distinct isToken stored hash with
      ⟨callback, login, isMember, sameToken, wrote⟩
    refine ⟨⟨callback, login, isMember, sameToken, wrote.userId.symm.trans sameUser, ?_⟩, ?_⟩
    · rw [← wrote.expiresAt]
      exact inTime
    · exact fun loggedOut => revoked.mpr loggedOut isOpen

theorem checkSession_eq_ok {row : ApplicationSession} {user accepted : User} {now : Time} :
    checkSession row user now = .ok accepted ↔
      (now < row.expiresAt ∧ row.revokedAt = none ∧ user.isActive = true) ∧ user = accepted := by
  unfold checkSession
  split
  · simp_all
  · split
    · simp_all
    · split
      · simp_all
      · simp_all

/-- The place where an event stands is determined if it does not stand before or after. -/
theorem split_unique {Label : Type*} {here there : Label} {before after other later : List Label}
    (same : before ++ here :: after = other ++ there :: later) (notBefore : there ∉ before)
    (notAfter : there ∉ after) : before = other := by
  rcases List.append_eq_append_iff.mp same with ⟨middle, rfl, rest⟩ | ⟨middle, rfl, rest⟩
  · cases middle with
    | nil => simp
    | cons event middle =>
        simp only [List.cons_append, List.cons.injEq] at rest
        exact absurd (rest.2 ▸ List.mem_append_right _ List.mem_cons_self) notAfter
  · cases middle with
    | nil => simp
    | cons event middle =>
        simp only [List.cons_append, List.cons.injEq] at rest
        exact absurd (rest.1 ▸ List.mem_append_right _ List.mem_cons_self) notBefore

/-- The clock never goes back. -/
theorem clock_of_identity_run {history : List IdentityEvent}
    (run : (identity config).Run world history next) : world.clock ≤ next.clock := by
  refine run.invariant (motive := fun state => world.clock ≤ state.clock) ?_ le_rfl
  intro state label following before step
  cases identity_move step with
  | ticked later forward => exact before.trans forward
  | _ => exact before

/-- The user a check had read, and what the history says about it. -/
theorem read_of_decided (execution : (identity config).Execution first world)
    (reads : (identity config).step world (.sessionRead id cookie session) next)
    (run : (identity config).Run next rest later)
    {now : Time} {outcome : Except IdentityError User}
    (decides : (identity config).step later (.decided id now outcome) final) :
    (session = none ∧ ∃ error, outcome = .error error) ∨
    ∃ found user second third, session = some found ∧ outcome = checkSession found user now ∧
      rest = second ++ .userRead id (some user) :: third ∧
      (∀ other, .userRead id other ∉ second) ∧ (∀ other, .userRead id other ∉ third) ∧
      user.id = found.userId ∧
      (user.isActive = true ↔
        ActiveAfter (first ++ [.sessionRead id cookie session] ++ second) user.id) := by
  have follows := (follows_of_run execution reads run).2
  cases identity_move decides with
  | decided check outcome checks isOpen decided others own =>
      have followed := follows check isOpen rfl
      rcases decided with ⟨atFound, rfl⟩ | ⟨found, user, atCheck, rfl⟩
      · simp only [Check.Follows, atFound] at followed
        exact .inl ⟨followed.1, _, rfl⟩
      · simp only [Check.Follows, atCheck] at followed
        rcases followed with ⟨isFound, second, third, isRest, before, after, row, rfl, isUser,
          active⟩
        exact .inr ⟨found, row, second, third, isFound, rfl, isRest, before, after, isUser, active⟩

/-- A request is accepted, and as this user, exactly if the history before its reads speaks for
its token: a committed login issued it to the user and it has not expired when the request looks
at the clock, no logout of it was committed before the session was read, and the user was active
when the user was read.  Whatever happens later, the row of a token keeps its user and its expiry,
a revoked row stays revoked, and the clock does not go back. -/
theorem sessions_sound (execution : (identity config).Execution first world)
    (reads : (identity config).step world (.sessionRead id cookie session) next)
    (run : (identity config).Run next rest later) {now : Time}
    {outcome : Except IdentityError User}
    (decides : (identity config).step later (.decided id now outcome) final)
    (distinct : NoCollision config (first ++ [.sessionRead id cookie session])) :
    now = later.clock ∧
    (∀ userId, (∃ user, outcome = .ok user ∧ user.id = userId) ↔
      ∃ token, cookie = some token ∧ Entitled config first token userId now ∧
        ∃ user second third, rest = second ++ .userRead id user :: third ∧
          ActiveAfter (first ++ [.sessionRead id cookie session] ++ second) userId) ∧
    ∀ {history : List IdentityEvent} {after : IdentityWorld},
      (identity config).Run world history after → world.clock ≤ after.clock ∧
        ∀ row ∈ world.db.applicationSessions,
          ∃ kept, after.db.sessionByHash? row.tokenHash = some kept ∧ row.Onward kept := by
  refine ⟨?_, fun userId => ?_, fun onwards => ⟨clock_of_identity_run onwards, ?_⟩⟩
  · cases identity_move decides
    rfl
  · have isSession : session = world.db.sessionOfCookie? config cookie := by
      cases identity_move reads
      rfl
    rcases read_of_decided execution reads run decides with ⟨missing, error, rfl⟩ |
      ⟨found, user, second, third, isFound, rfl, isRest, before, after, isUser, active⟩
    · constructor
      · rintro ⟨user, impossible, _⟩
        cases impossible
      · rintro ⟨token, rfl, ⟨⟨callback, login, isMember, sameToken, _⟩, _⟩, _⟩
        rcases exists_row_of_loggedIn execution callback login isMember with ⟨row, rowMem, wrote⟩
        have there : world.db.sessionByHash? (config.sha256 token) = some row :=
          Accounts.sessionByHash?_eq_some_iff.mpr
            ⟨rowMem, wrote.tokenHash.trans (by rw [sameToken])⟩
        rw [missing] at isSession
        exact absurd (isSession.trans there) (by simp)
    · rw [isFound] at isSession
      cases cookie with
      | none => cases isSession
      | some token =>
          rcases Accounts.sessionByHash?_eq_some_iff.mp isSession.symm with ⟨stored, hash⟩
          have entitled := entitled_iff execution distinct rfl stored hash userId now
          constructor
          · rintro ⟨accepted, isOk, rfl⟩
            rcases checkSession_eq_ok.mp isOk with ⟨⟨inTime, isOpen, isActive⟩, rfl⟩
            exact ⟨token, rfl, entitled.mpr ⟨isUser.symm, inTime, isOpen⟩, some user, second, third,
              isRest, active.mp isActive⟩
          · rintro ⟨shown, isShown, speaks, read, other, remaining, isOther, isActive⟩
            obtain rfl : token = shown := Option.some.inj isShown
            rcases entitled.mp speaks with ⟨sameUser, inTime, isOpen⟩
            have samePlace : second = other :=
              split_unique (isRest.symm.trans isOther) (before read) (after read)
            rw [← samePlace, ← isUser.trans sameUser] at isActive
            exact ⟨user, checkSession_eq_ok.mpr ⟨⟨inTime, isOpen, active.mpr isActive⟩, rfl⟩,
              isUser.trans sameUser⟩
  · intro row rowMem
    rcases onward_of_identity_run onwards rowMem with ⟨kept, keptMem, onward⟩
    exact ⟨kept, Accounts.sessionByHash?_eq_some_iff.mpr ⟨keptMem, onward.tokenHash⟩, onward⟩

end Checks

namespace IdentityWorld

/-- The labels and the world after the actions, starting with `world`. -/
def perform (config : IdentityConfig) (actions : List IdentityAction) (world : IdentityWorld) :
    List IdentityEvent × IdentityWorld :=
  (LabelledSystem.perform (step? config) actions world).getD ([], world)

theorem perform_run (config : IdentityConfig) (actions : List IdentityAction)
    (world : IdentityWorld) : (identity config).Run world (perform config actions world).1
      (perform config actions world).2 := by
  unfold perform
  cases performed : LabelledSystem.perform (step? config) actions world with
  | none => exact .nil
  | some outcome => exact LabelledSystem.run_of_perform performed

end IdentityWorld

/-- Sessions of a week, and the digests of two tokens. -/
def sampleConfig : IdentityConfig where
  sha256 token :=
    if token = "R2Fq1xk3" then
      "eac06828e1a449e682914a6153c04a6bca4780c8ac45048726c2297d5a459c0c"
    else if token = "h7Vw0bZs" then
      "259c7b06c94cef02fb8758fd428185b704fbe6543ed029122df2fdd0c4e80d2c"
    else token
  sessionMaxAgeSeconds := 7 * 24 * 60 * 60

/-- The values given to one statement of a login at a time. -/
def sampleValues (statement : ℕ) (now : Time) : LoginContext where
  userId := statement
  identityId := 50 + statement
  sessionId := 60 + statement
  token := if statement = 4 then "R2Fq1xk3" else "unused"
  now := now
  dbNow := now

/-- A new user logs in. -/
def sampleFirstLogin : List IdentityAction :=
  [.administer [⟨21, "starter", 2, 4, 4096, 40, 0, true⟩],
    .callback ⟨"https://id.example", "user", some "user@example.com", some true⟩] ++
  [1, 2, 3, 4, 5].map fun statement => .proceed 0 (sampleValues statement 0)

/-- The world after this login. -/
def sampleAccount : List IdentityEvent × IdentityWorld :=
  IdentityWorld.perform sampleConfig sampleFirstLogin (.initial 0)

/-- A request with the token of this login reads the session. -/
def sampleRead : List IdentityEvent × IdentityWorld :=
  IdentityWorld.perform sampleConfig [.authenticate (some "R2Fq1xk3")] sampleAccount.2

/-- The request reads the user; then a logout of the same token commits, and time passes. -/
def sampleOvertaken : List IdentityEvent × IdentityWorld :=
  IdentityWorld.perform sampleConfig
    [.continueCheck 1, .logout (some "R2Fq1xk3"), .commitLogout 2, .tick 5] sampleRead.2

/-- The row of this session. -/
def sampleSession : ApplicationSession where
  id := 64
  userId := 2
  tokenHash := sampleConfig.sha256 "R2Fq1xk3"
  expiresAt := 7 * 24 * 60 * 60 * 1000000
  lastSeenAt := 0
  revokedAt := none

set_option maxRecDepth 10000 in
/-- The request is accepted, since no logout had committed when it read the session; the session
keeps its expiry. -/
theorem sessions_sound_overtaken :
    Entitled sampleConfig sampleAccount.1 "R2Fq1xk3" 2 5 ∧
      ∃ kept, sampleOvertaken.2.db.sessionByHash? sampleSession.tokenHash = some kept ∧
        kept.expiresAt = sampleSession.expiresAt := by
  have execution : (identity sampleConfig).Execution sampleAccount.1 sampleAccount.2 :=
    ⟨.initial 0, ⟨0, rfl⟩, IdentityWorld.perform_run _ _ _⟩
  have reads : (identity sampleConfig).step sampleAccount.2
      (.sessionRead 1 (some "R2Fq1xk3") (some sampleSession)) sampleRead.2 :=
    ⟨.authenticate (some "R2Fq1xk3"), rfl⟩
  have run : (identity sampleConfig).Run sampleRead.2 sampleOvertaken.1 sampleOvertaken.2 :=
    IdentityWorld.perform_run _ _ _
  have decides : (identity sampleConfig).step sampleOvertaken.2 (.decided 1 5 (.ok ⟨2, true⟩))
      (IdentityWorld.perform sampleConfig [.continueCheck 1] sampleOvertaken.2).2 :=
    ⟨.continueCheck 1, rfl⟩
  have distinct : NoCollision sampleConfig (sampleAccount.1 ++
      [IdentityEvent.sessionRead 1 (some "R2Fq1xk3") (some sampleSession)]) := by
    intro one isOne other isOther _
    have tokens : (sampleAccount.1 ++ [IdentityEvent.sessionRead 1 (some "R2Fq1xk3")
        (some sampleSession)]).flatMap IdentityEvent.tokens = ["R2Fq1xk3", "R2Fq1xk3"] := rfl
    rw [tokens] at isOne isOther
    simp only [List.mem_cons, List.not_mem_nil, or_false, or_self] at isOne isOther
    exact isOne.trans isOther.symm
  have sound := sessions_sound execution reads run decides distinct
  rcases (sound.2.1 2).mp ⟨⟨2, true⟩, rfl, rfl⟩ with ⟨token, isToken, entitled, _⟩
  cases isToken
  refine ⟨entitled, ?_⟩
  have onwards := (IdentityWorld.perform_run sampleConfig [.authenticate (some "R2Fq1xk3")]
    sampleAccount.2).append run
  rcases (sound.2.2 onwards).2 sampleSession (by decide +kernel) with ⟨kept, isKept, onward⟩
  exact ⟨kept, isKept, onward.expiresAt⟩

end NpdPortal
