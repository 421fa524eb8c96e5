import NpdPortal.Identity.Reservations
import NpdPortal.Identity.Soundness

/-!
# One account per external identity

Whatever callbacks race, the committed tables hold one identity, one user and
one quota for every pair that has logged in, one retry is enough, and a callback
that raises has committed nothing.
-/

namespace NpdPortal

/-- Every user has an identity and a quota. -/
def Accounts.Complete (db : Accounts) : Prop :=
  ∀ user ∈ db.users, (∃ identity ∈ db.externalIdentities, identity.userId = user.id) ∧
    ∃ quota ∈ db.userQuotas, quota.userId = user.id

/-- What a callback raises: the identity provider has not verified the address, the user is
inactive, or the starter plan is missing or inactive. -/
def loginErrors : List IdentityError :=
  [.httpException 403 "Email not verified", .httpException 403 "User is inactive",
    .runtimeError "compute plan is missing", .runtimeError "compute plan is inactive"]

section Steps

variable {config : IdentityConfig} {world next : IdentityWorld} {event : IdentityEvent}
  {callback : Callback} {context : LoginContext}

theorem IdentityMove.complete (move : IdentityMove config world event next)
    (reserved : world.Reserved config) (complete : world.db.Complete) : next.db.Complete := by
  have extended := move.extends reserved
  have onward : ∀ user ∈ world.db.users,
      ∃ identity ∈ next.db.externalIdentities, identity.userId = user.id := by
    intro user stored
    rcases (complete user stored).1 with ⟨identity, identityMem, sameUser⟩
    rcases extended.identities identity identityMem with ⟨later, laterMem, same⟩
    exact ⟨later, laterMem, same.userId.trans sameUser⟩
  cases move with
  | planned db plans tables =>
      intro user stored
      rw [tables] at stored ⊢
      exact complete user stored
  | activitySet userId active =>
      intro user stored
      rcases List.mem_map.mp stored with ⟨old, oldMem, rfl⟩
      have same :
          (if old.id = userId then { old with isActive := active } else old).id = old.id := by
        split <;> rfl
      rw [same]
      exact complete old oldMem
  | loggedIn callback account session token issuedAt db isOpen atCommit tables =>
      have prepared := reserved.prepared callback isOpen
      simp only [Callback.Prepared, atCommit] at prepared
      intro user stored
      cases account with
      | inl account =>
          rcases prepared with ⟨_, _, _, _, identityUser, _, quotaUser, _⟩
          have users : db.users = world.db.users ++ [account.user] := by rw [tables]; rfl
          have identities : db.externalIdentities =
              world.db.externalIdentities ++ [account.identity] := by rw [tables]; rfl
          have quotas : db.userQuotas = world.db.userQuotas ++ [account.quota] := by
            rw [tables]; rfl
          simp only [users, identities, quotas, List.mem_append, List.mem_singleton] at stored ⊢
          rcases stored with old | rfl
          · rcases complete user old with ⟨⟨identity, identityMem, own⟩, quota, quotaMem, ownQuota⟩
            exact ⟨⟨identity, .inl identityMem, own⟩, quota, .inl quotaMem, ownQuota⟩
          · exact ⟨⟨account.identity, .inr rfl, identityUser⟩, account.quota, .inr rfl, quotaUser⟩
      | inr identity =>
          have users : db.users = world.db.users := by rw [tables]; rfl
          have quotas : db.userQuotas = world.db.userQuotas := by rw [tables]; rfl
          simp only [users] at stored
          refine ⟨onward user stored, ?_⟩
          simp only [quotas]
          exact (complete user stored).2
  | loggedOut logout =>
      cases written : logout.write <;> exact complete
  | _ => exact complete

theorem complete_of_reachable (reachable : (identity config).Reachable world) :
    world.db.Complete := by
  have both : world.Reserved config ∧ world.db.Complete := by
    refine reachable.invariant (motive := fun world =>
      world.Reserved config ∧ world.db.Complete) ?_ ?_
    · rintro state ⟨clock, rfl⟩
      exact ⟨reserved_of_reachable ⟨_, [], ⟨clock, rfl⟩, .nil⟩, fun user stored =>
        absurd stored List.not_mem_nil⟩
    · intro state label later known step
      have move := identity_move step
      exact ⟨move.reserved known.1, move.complete known.1 known.2⟩
  exact both.2

/-- A callback whose second attempt ends never ends with an `IntegrityError`. -/
theorem IdentityMove.error_mem (move : IdentityMove config world event next)
    (reserved : world.Reserved config) {id : ℕ} {error : IdentityError}
    (isRaised : event = .raised id error) : error ∈ loginErrors := by
  cases move with
  | refused info refusal unverified =>
      cases isRaised
      unfold UserInfo.verified at unverified
      split at unverified
      · split at unverified
        · cases unverified
        · cases unverified
          simp [loginErrors]
      · cases unverified
        simp [loginErrors]
  | raised callback context raisedError takes raises last =>
      cases isRaised
      by_cases isIntegrity : error = .integrityError
      · subst isIntegrity
        have first := (reserved.conflict takes raises).1
        rw [last rfl] at first
        cases first
      · have raises := raises.resolve_right fun both => isIntegrity both.1
        have settled := reserved.settled callback takes.isOpen
        cases atPoint : callback.point with
        | selectingIdentity =>
            simp only [atPoint, VerifiedIdentity.next] at raises
            split at raises <;> cases raises
        | readingUser identity =>
            simp only [Callback.Settled, atPoint] at settled
            simp only [atPoint, VerifiedIdentity.next] at raises
            split at raises
            · rename_i missing
              rcases settled with ⟨row, rowMem, same⟩
              have known := world.db.valid.identityUsers row rowMem
              rw [same.userId] at known
              exact absurd known (KeyedRows.lookup_eq_none_iff.mp missing)
            · split at raises
              · cases raises
                simp [loginErrors]
              · cases raises
        | insertingUser =>
            simp only [atPoint, VerifiedIdentity.next] at raises
            split at raises
            · cases raises
              exact absurd rfl isIntegrity
            · cases raises
        | insertingIdentity user =>
            simp only [atPoint, VerifiedIdentity.next] at raises
            split at raises
            · cases raises
              exact absurd rfl isIntegrity
            · cases raises
        | readingPlan user identity =>
            simp only [atPoint, VerifiedIdentity.next] at raises
            split at raises
            · cases raises
              simp [loginErrors]
            · split at raises
              · cases raises
                simp [loginErrors]
              · split at raises <;> cases raises
                simp [loginErrors]
        | committing => simp [atPoint, VerifiedIdentity.next] at raises
  | _ => cases isRaised

end Steps

section Histories

variable {config : IdentityConfig} {world : IdentityWorld} {history : List IdentityEvent}

/-- Every open callback works for the identity it was begun with. -/
theorem begun_of_callback (execution : (identity config).Execution history world) :
    ∀ callback ∈ world.callbacks, ∃ info, .begun callback.id info ∈ history ∧
      info.verified = .ok callback.verified := by
  refine execution.invariant (motive := fun history world =>
    ∀ callback ∈ world.callbacks, ∃ info, .begun callback.id info ∈ history ∧
      info.verified = .ok callback.verified) ?_ ?_
  · rintro state ⟨clock, rfl⟩ callback isOpen
    exact absurd isOpen List.not_mem_nil
  · intro earlier state label later before begun step callback isOpen
    have kept : ∀ old ∈ state.callbacks, ∃ info, .begun old.id info ∈ earlier ++ [label] ∧
        info.verified = .ok old.verified := by
      intro old oldOpen
      rcases begun old oldOpen with ⟨info, isMember, verified⟩
      exact ⟨info, List.mem_append_left _ isMember, verified⟩
    rcases (identity_move step).callback_after isOpen with old | ⟨_, _, _, _, info, rfl, verified⟩ |
      ⟨old, context, takes, _, _, rfl⟩ | ⟨old, context, point, takes, _, _, rfl⟩
    · exact kept callback old
    · exact ⟨info, List.mem_append_right _ (List.mem_singleton_self _), verified⟩
    · exact kept old takes.isOpen
    · exact kept old takes.isOpen

/-- A committed login has the identity of its own pair, for the user of its session. -/
theorem identity_of_loggedIn (execution : (identity config).Execution history world) :
    ∀ id login, .loggedIn id login ∈ history →
      (∃ info, .begun id info ∈ history ∧ info.verified = .ok login.verified) ∧
      ∃ identity ∈ world.db.externalIdentities, identity.pair = login.verified.pair ∧
        identity.userId = login.userId := by
  refine execution.invariant (motive := fun history world =>
    ∀ id login, .loggedIn id login ∈ history →
      (∃ info, .begun id info ∈ history ∧ info.verified = .ok login.verified) ∧
      ∃ identity ∈ world.db.externalIdentities, identity.pair = login.verified.pair ∧
        identity.userId = login.userId) ?_ ?_
  · rintro state _ id login impossible
    exact absurd impossible List.not_mem_nil
  · intro earlier state label later before known step id login isMember
    have move := identity_move step
    have reserved := reserved_of_reachable before.reachable
    rcases List.mem_append.mp isMember with old | isLast
    · rcases known id login old with ⟨⟨info, isBegun, verified⟩, identity, stored, pair, user⟩
      rcases (move.extends reserved).identities identity stored with ⟨row, rowMem, same⟩
      exact ⟨⟨info, List.mem_append_left _ isBegun, verified⟩, row, rowMem, same.pair.trans pair,
        same.userId.trans user⟩
    · rcases List.mem_singleton.mp isLast with rfl
      cases move with
      | loggedIn callback account session token issuedAt db isOpen atCommit tables =>
          rcases begun_of_callback before callback isOpen with ⟨info, isBegun, verified⟩
          refine ⟨⟨info, List.mem_append_left _ isBegun, verified⟩, ?_⟩
          have prepared := reserved.prepared callback isOpen
          have settled := reserved.settled callback isOpen
          simp only [Callback.Prepared, atCommit] at prepared
          simp only [Callback.Settled, atCommit] at settled
          cases account with
          | inl account =>
              rcases prepared with ⟨_, _, _, _, identityUser, pair, _, sessionUser⟩
              refine ⟨account.identity, ?_, pair, identityUser.trans sessionUser.symm⟩
              have identities : db.externalIdentities =
                  state.db.externalIdentities ++ [account.identity] := by rw [tables]; rfl
              simp [identities]
          | inr identity =>
              rcases prepared with ⟨_, _, _, pair, user⟩
              rcases settled with ⟨row, rowMem, same⟩
              refine ⟨identity, ?_, pair, user⟩
              have identities : db.externalIdentities =
                  KeyedRows.replace ExternalIdentity.id identity state.db.externalIdentities := by
                rw [tables]; rfl
              exact identities ▸ KeyedRows.mem_replace.mpr (.inl ⟨rfl, row, rowMem, same.id⟩)

/-- The callback has raised or committed. -/
def Ended (history : List IdentityEvent) (id : ℕ) : Prop :=
  (∃ error, .raised id error ∈ history) ∨ ∃ login, .loggedIn id login ∈ history

/-- A callback that has ended is closed for ever. -/
theorem closed_of_ended (execution : (identity config).Execution history world) :
    ∀ id, Ended history id →
      id < world.nextId ∧ ∀ callback ∈ world.callbacks, callback.id ≠ id := by
  refine execution.invariant (motive := fun history world => ∀ id, Ended history id →
    id < world.nextId ∧ ∀ callback ∈ world.callbacks, callback.id ≠ id) ?_ ?_
  · rintro state _ id (⟨error, impossible⟩ | ⟨login, impossible⟩) <;>
      exact absurd impossible List.not_mem_nil
  · intro earlier state label later before closed step id ended
    have move := identity_move step
    have reserved := reserved_of_reachable before.reachable
    have onward : (id < state.nextId ∧ ∀ callback ∈ state.callbacks, callback.id ≠ id) →
        id < later.nextId ∧ ∀ callback ∈ later.callbacks, callback.id ≠ id := by
      rintro ⟨known, isClosed⟩
      refine ⟨known.trans_le move.nextId_le, fun callback isOpen => ?_⟩
      rcases move.callback_after isOpen with old | ⟨_, _, isNew, _⟩ |
        ⟨old, context, takes, _, _, rfl⟩ | ⟨old, context, point, takes, _, _, rfl⟩
      · exact isClosed callback old
      · exact fun same => absurd known (same ▸ isNew ▸ lt_irrefl _)
      · exact isClosed old takes.isOpen
      · exact isClosed old takes.isOpen
    have last : (∃ error, label = .raised id error) ∨ (∃ login, label = .loggedIn id login) →
        id < later.nextId ∧ ∀ callback ∈ later.callbacks, callback.id ≠ id := by
      intro isLast
      cases move with
      | refused info error unverified =>
          rcases isLast with ⟨_, same⟩ | ⟨_, same⟩
          · cases same
            exact ⟨Nat.lt_succ_self _, fun callback isOpen => (reserved.known callback isOpen).ne⟩
          · cases same
      | raised callback context error takes =>
          rcases isLast with ⟨_, same⟩ | ⟨_, same⟩
          · cases same
            exact ⟨reserved.known callback takes.isOpen, fun other isOpen =>
              of_decide_eq_true (List.mem_filter.mp isOpen).2⟩
          · cases same
      | loggedIn callback account session token issuedAt db isOpen =>
          rcases isLast with ⟨_, same⟩ | ⟨_, same⟩
          · cases same
          · cases same
            exact ⟨reserved.known callback isOpen, fun other isOpen =>
              of_decide_eq_true (List.mem_filter.mp isOpen).2⟩
      | _ => rcases isLast with ⟨_, same⟩ | ⟨_, same⟩ <;> cases same
    rcases ended with ⟨error, isMember⟩ | ⟨login, isMember⟩
    · rcases List.mem_append.mp isMember with old | isLast
      · exact onward (closed id (.inl ⟨error, old⟩))
      · exact last (.inl ⟨error, (List.mem_singleton.mp isLast).symm⟩)
    · rcases List.mem_append.mp isMember with old | isLast
      · exact onward (closed id (.inr ⟨login, old⟩))
      · exact last (.inr ⟨login, (List.mem_singleton.mp isLast).symm⟩)

/-- No callback has both raised and committed. -/
theorem notLoggedIn_of_raised (execution : (identity config).Execution history world) :
    ∀ id error login, .raised id error ∈ history → .loggedIn id login ∉ history := by
  refine execution.invariant (motive := fun history _ =>
    ∀ id error login, .raised id error ∈ history → .loggedIn id login ∉ history) ?_ ?_
  · rintro state _ id error login impossible
    exact absurd impossible List.not_mem_nil
  · intro earlier state label later before exclusive step id error login raised loggedIn
    have move := identity_move step
    have closed := closed_of_ended before id
    rcases List.mem_append.mp raised with oldRaised | lastRaised <;>
      rcases List.mem_append.mp loggedIn with oldLogin | lastLogin
    · exact exclusive id error login oldRaised oldLogin
    · rcases List.mem_singleton.mp lastLogin with rfl
      cases move with
      | loggedIn callback account session token issuedAt db isOpen =>
          exact (closed (.inl ⟨error, oldRaised⟩)).2 callback isOpen rfl
    · rcases List.mem_singleton.mp lastRaised with rfl
      cases move with
      | refused => exact absurd (closed (.inr ⟨login, oldLogin⟩)).1 (lt_irrefl _)
      | raised callback context error takes =>
          exact (closed (.inr ⟨login, oldLogin⟩)).2 callback takes.isOpen rfl
    · rcases List.mem_singleton.mp lastRaised with rfl
      cases List.mem_singleton.mp lastLogin

/-- However callbacks for any pairs overlap: every pair has at most one identity, which refers to
one user with one quota; every user has an identity and a quota; a callback raises no
`IntegrityError`; a callback that commits does so for the user of its own pair; and a callback that
raises has changed nothing. -/
theorem one_account_per_identity (execution : (identity config).Execution history world) :
    (∀ first ∈ world.db.externalIdentities, ∀ second ∈ world.db.externalIdentities,
      first.pair = second.pair → first = second) ∧
    (∀ identity ∈ world.db.externalIdentities,
      (∃! user, user ∈ world.db.users ∧ user.id = identity.userId) ∧
      ∃! quota, quota ∈ world.db.userQuotas ∧ quota.userId = identity.userId) ∧
    (∀ user ∈ world.db.users,
      (∃ identity ∈ world.db.externalIdentities, identity.userId = user.id) ∧
      ∃ quota ∈ world.db.userQuotas, quota.userId = user.id) ∧
    (∀ id error, .raised id error ∈ history →
      error ∈ loginErrors ∧ ∀ login, .loggedIn id login ∉ history) ∧
    (∀ id login, .loggedIn id login ∈ history →
      (∃ info, .begun id info ∈ history ∧ info.verified = .ok login.verified) ∧
      (∃ identity ∈ world.db.externalIdentities, identity.pair = login.verified.pair ∧
        identity.userId = login.userId) ∧
      ∃ session ∈ world.db.applicationSessions, login.Wrote config session) ∧
    ∀ id event next, (identity config).step world event next → event.callback? = some id →
      (∀ login, event ≠ .loggedIn id login) → next.db = world.db := by
  have valid := world.db.valid
  have complete := complete_of_reachable execution.reachable
  refine ⟨?_, ?_, complete, ?_, ?_, ?_⟩
  · intro first firstMem second secondMem same
    exact KeyedRows.eq_of_key_eq valid.pairs firstMem secondMem same
  · intro identity stored
    rcases List.mem_map.mp (valid.identityUsers identity stored) with ⟨user, userMem, sameUser⟩
    rcases (complete user userMem).2 with ⟨quota, quotaMem, ownQuota⟩
    constructor
    · refine ⟨user, ⟨userMem, sameUser⟩, ?_⟩
      rintro other ⟨otherMem, sameOther⟩
      exact KeyedRows.eq_of_key_eq valid.userIds otherMem userMem (sameOther.trans sameUser.symm)
    · refine ⟨quota, ⟨quotaMem, ownQuota.trans sameUser⟩, ?_⟩
      rintro other ⟨otherMem, sameOther⟩
      exact KeyedRows.eq_of_key_eq valid.quotaUsers otherMem quotaMem
        (sameOther.trans (ownQuota.trans sameUser).symm)
  · intro id error raised
    refine ⟨?_, fun login => notLoggedIn_of_raised execution id error login raised⟩
    rcases List.append_of_mem raised with ⟨first, rest, rfl⟩
    rcases execution.split with ⟨before, after, isBefore, step, _⟩
    exact (identity_move step).error_mem (reserved_of_reachable isBefore.reachable) rfl
  · intro id login loggedIn
    rcases identity_of_loggedIn execution id login loggedIn with ⟨begun, account⟩
    exact ⟨begun, account, exists_row_of_loggedIn execution id login loggedIn⟩
  · intro id event next step own uncommitted
    exact (identity_move step).db_of_callback own uncommitted

end Histories

/-- The values given to one statement of a login. -/
def sampleStatement (callback statement : ℕ) (token : String) : IdentityAction :=
  .proceed callback {
    userId := 10 * callback + statement
    identityId := 50 + 10 * callback + statement
    sessionId := 80 + 10 * callback + statement
    token := token
    now := 0
    dbNow := 0 }

/-- Two callbacks for one new pair have both looked it up before the first one inserts it. -/
def sampleLoginRace : List IdentityAction :=
  [.administer [⟨21, "starter", 2, 4, 4096, 40, 0, true⟩],
    .callback ⟨"https://id.example", "user", some "user@example.com", some true⟩,
    .callback ⟨"https://id.example", "user", some "user@example.com", some true⟩,
    sampleStatement 0 1 "", sampleStatement 1 1 "", sampleStatement 0 2 "",
    sampleStatement 1 2 "", sampleStatement 0 3 "", sampleStatement 0 4 "R2Fq1xk3",
    sampleStatement 0 5 "", sampleStatement 1 3 "", sampleStatement 1 4 "",
    sampleStatement 1 5 "h7Vw0bZs", sampleStatement 1 6 ""]

/-- The world after the race. -/
def sampleRaced : List IdentityEvent × IdentityWorld :=
  IdentityWorld.perform sampleConfig sampleLoginRace (.initial 0)

set_option maxRecDepth 10000 in
/-- The second callback is retried; both have a session for the one user. -/
theorem one_account_race :
    .retried 1 ∈ sampleRaced.1 ∧ sampleRaced.2.callbacks = [] ∧
      sampleRaced.2.db.applicationSessions.map (·.userId) = [2, 2] ∧
      (∃! user, user ∈ sampleRaced.2.db.users ∧ user.id = 2) ∧
      ∃! quota, quota ∈ sampleRaced.2.db.userQuotas ∧ quota.userId = 2 := by
  have execution : (identity sampleConfig).Execution sampleRaced.1 sampleRaced.2 :=
    ⟨.initial 0, ⟨0, rfl⟩, IdentityWorld.perform_run _ _ _⟩
  have retried : sampleRaced.1[10]? = some (.retried 1) := rfl
  refine ⟨List.mem_of_getElem? retried, rfl, rfl, ?_⟩
  exact (one_account_per_identity execution).2.1
    ⟨53, 2, "https://id.example", "user", "user@example.com", true⟩ (by decide +kernel)

end NpdPortal
