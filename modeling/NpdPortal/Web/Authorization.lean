import NpdPortal.Web.Front

/-!
# Who asked for a row

Every VM and every operation goes back to a request that has begun on the site,
which has entered with the user of its session, which a login had issued.
-/

namespace NpdPortal

/-! ## The request behind a row -/

/-- The operation is what the request asks for. -/
def WebRequest.Asks (request : WebRequest) (operation : Operation) : Prop :=
  match request with
  | .create call => operation.operationType = .vmCreate ∧
      operation.idempotencyKey = call.idempotencyKey
  | .enqueue call => operation.operationType = call.operationType ∧
      operation.virtualMachineId = call.vmId ∧ operation.idempotencyKey = call.idempotencyKey

theorem WebRequest.Asks.of_same {request : WebRequest} {operation later : Operation}
    (asks : request.Asks operation) (same : operation.SameIdentity later) : request.Asks later := by
  cases request with
  | create call =>
      exact ⟨same.operationType.trans asks.1, same.idempotencyKey.trans asks.2⟩
  | enqueue call =>
      exact ⟨same.operationType.trans asks.1, same.virtualMachineId.trans asks.2.1,
        same.idempotencyKey.trans asks.2.2⟩

section Requested

variable {state next : Site} {history : List SiteEvent}

/-- Workers and the administration add neither VMs nor operations. -/
theorem Progress.background_ids {world after : World} {event : Event}
    (progress : Progress world event after) (notWeb : event ≠ .requested) :
    after.db.virtualMachines.map (·.id) = world.db.virtualMachines.map (·.id) ∧
      after.db.operations.map (·.id) = world.db.operations.map (·.id) := by
  have ofMoved : ∀ {evidence operation updated vm position reached change},
      Moved world.db after.db evidence operation updated vm position reached change →
        after.db.virtualMachines.map (·.id) = world.db.virtualMachines.map (·.id) ∧
          after.db.operations.map (·.id) = world.db.operations.map (·.id) := by
    intro evidence operation updated vm position reached change moved
    rw [moved.virtualMachines, moved.operations]
    exact ⟨KeyedRows.map_key_replace _ _, KeyedRows.map_key_replace _ _⟩
  cases progress with
  | unchanged => exact absurd rfl notWeb
  | created => exact absurd rfl notWeb
  | enqueued => exact absurd rfl notWeb
  | administered db administers => simp [administers.vms, administers.operations]
  | marked db operation updated vm stage request target moved => exact ofMoved moved
  | followed db operation updated vm position reached change evidence exchanges _ _ moved =>
      exact ofMoved moved
  | stored index dispatch outcome db operation updated vm position reached change _ _ moved =>
      exact ofMoved moved
  | _ => exact ⟨rfl, rfl⟩

/-- A VM row after a step of the background was there before. -/
theorem Progress.vm_before {world after : World} {event : Event}
    (progress : Progress world event after) (notWeb : event ≠ .requested) {vm : VirtualMachine}
    (stored : vm ∈ after.db.virtualMachines) : ∃ old ∈ world.db.virtualMachines, old.Onward vm := by
  have isId : vm.id ∈ world.db.virtualMachines.map (·.id) := by
    rw [← (progress.background_ids notWeb).1]
    exact List.mem_map_of_mem stored
  rcases List.mem_map.mp isId with ⟨old, oldMem, same⟩
  rcases progress.onward oldMem with ⟨later, laterMem, onward⟩
  rcases KeyedRows.eq_of_key_eq after.db.valid.vmIds laterMem stored (onward.id.trans same) with rfl
  exact ⟨old, oldMem, onward⟩

theorem Progress.operation_before {world after : World} {event : Event}
    (progress : Progress world event after) (notWeb : event ≠ .requested) {operation : Operation}
    (stored : operation ∈ after.db.operations) :
    ∃ old ∈ world.db.operations, old.SameIdentity operation := by
  have isId : operation.id ∈ world.db.operations.map (·.id) := by
    rw [← (progress.background_ids notWeb).2]
    exact List.mem_map_of_mem stored
  rcases List.mem_map.mp isId with ⟨old, oldMem, same⟩
  rcases progress.forward oldMem with ⟨later, laterMem, forward⟩
  rcases KeyedRows.eq_of_key_eq after.db.valid.operationIds laterMem stored
    (forward.identity.id.trans same) with rfl
  exact ⟨old, oldMem, forward.identity⟩

/-- The rows of a site and its open requests go back to requests that have begun. -/
structure Site.Requested (history : List SiteEvent) (state : Site) : Prop where
  sessions : ∀ session ∈ state.sessions, .begun session.work.request ∈ history
  vms : ∀ vm ∈ state.world.db.virtualMachines, ∃ call, .begun (.create call) ∈ history ∧
    call.userId = vm.ownerUserId ∧ vm.MatchesRequest call.request
  operations : ∀ operation ∈ state.world.db.operations, ∃ request, .begun request ∈ history ∧
    request.Asks operation ∧ ∃ vm ∈ state.world.db.virtualMachines,
      vm.id = operation.virtualMachineId ∧ vm.ownerUserId = request.userId

/-- The rows after a commit are those before and the ones of the request. -/
theorem Commits.requested {db after : Database} {committed : Work} {reply : WebReply}
    (commits : Commits db after committed reply) :
    (∀ vm ∈ after.virtualMachines, vm ∈ db.virtualMachines ∨ ∃ call,
      committed.request = .create call ∧ call.userId = vm.ownerUserId ∧
        vm.MatchesRequest call.request) ∧
    ∀ operation ∈ after.operations, operation ∈ db.operations ∨
      committed.request.Asks operation ∧ ∃ vm ∈ after.virtualMachines,
        vm.id = operation.virtualMachineId ∧ vm.ownerUserId = committed.request.userId := by
  cases commits with
  | create call quota plan vm operation created performed =>
      have isNew : newVm vm.id call.userId call.request ∈ after.virtualMachines := by
        simp [created.tables]
      constructor
      · intro row stored
        rw [created.tables] at stored
        rcases List.mem_append.mp stored with old | new
        · exact .inl old
        · rcases List.mem_singleton.mp new with rfl
          exact .inr ⟨call, rfl, rfl, rfl, rfl, rfl, rfl, rfl⟩
      · intro row stored
        rw [created.tables] at stored
        rcases List.mem_append.mp stored with old | new
        · exact .inl old
        · rcases List.mem_singleton.mp new with rfl
          exact .inr ⟨⟨rfl, rfl⟩, _, isNew, rfl, rfl⟩
  | enqueue call statuses vm operation enqueued performed =>
      rcases Database.virtualMachine?_eq_some_iff.mp enqueued.vmStored with ⟨vmMem, isVm⟩
      have kept : after.virtualMachines = db.virtualMachines := by rw [enqueued.tables]
      constructor
      · intro row stored
        rw [kept] at stored
        exact .inl stored
      · intro row stored
        rw [enqueued.tables] at stored
        rcases List.mem_append.mp stored with old | new
        · exact .inl old
        · rcases List.mem_singleton.mp new with rfl
          exact .inr ⟨⟨rfl, rfl, rfl⟩, vm, kept ▸ vmMem, isVm, enqueued.owner⟩

/-- Rows that were there before keep their requests. -/
theorem Site.Requested.kept (requested : state.Requested history) (event : SiteEvent)
    {world : World} (precedes : state.world.db.Precedes world.db)
    (vms : ∀ vm ∈ world.db.virtualMachines, ∃ old ∈ state.world.db.virtualMachines, old.Onward vm)
    (operations : ∀ operation ∈ world.db.operations,
      ∃ old ∈ state.world.db.operations, old.SameIdentity operation) :
    (∀ vm ∈ world.db.virtualMachines, ∃ call, .begun (.create call) ∈ history ++ [event] ∧
      call.userId = vm.ownerUserId ∧ vm.MatchesRequest call.request) ∧
    ∀ operation ∈ world.db.operations, ∃ request, .begun request ∈ history ++ [event] ∧
      request.Asks operation ∧ ∃ vm ∈ world.db.virtualMachines,
        vm.id = operation.virtualMachineId ∧ vm.ownerUserId = request.userId := by
  constructor
  · intro vm stored
    rcases vms vm stored with ⟨old, oldMem, onward⟩
    rcases requested.vms old oldMem with ⟨call, isBegun, owner, asked⟩
    exact ⟨call, List.mem_append_left _ isBegun, owner.trans onward.ownerUserId.symm,
      (onward.matchesRequest _).mpr asked⟩
  · intro operation stored
    rcases operations operation stored with ⟨old, oldMem, same⟩
    rcases requested.operations old oldMem with ⟨request, isBegun, asks, vm, vmMem, isVm, owner⟩
    rcases precedes.vms vm vmMem with ⟨later, laterMem, onward⟩
    exact ⟨request, List.mem_append_left _ isBegun, asks.of_same same, later, laterMem,
      onward.id.trans (isVm.trans same.virtualMachineId.symm), onward.ownerUserId.trans owner⟩

/-- In every run of the site each row was asked for by a request that has begun. -/
theorem requested_of_execution (execution : site.Execution history state) :
    state.Requested history := by
  refine execution.invariant (motive := fun history state => state.Requested history) ?_ ?_
  · rintro _ rfl
    exact ⟨fun _ opened => (by cases opened), fun _ stored => (by cases stored),
      fun _ stored => (by cases stored)⟩
  · intro earlier before event after early requested step
    have sound := site_sound_of_reachable early.reachable
    have progress := site_step_progress sound step
    have precedes := progress.precedes sound
    have opened : ∀ session ∈ after.sessions, .begun session.work.request ∈ earlier ++ [event] := by
      intro session isOpen
      rcases Site.mem_of_step sound step isOpen with old | ⟨request, rfl, begins⟩ |
        ⟨_, other, context, otherOpen, goes⟩
      · exact List.mem_append_left _ (requested.sessions session old)
      · have same : request.start.request = request := by cases request <;> rfl
        rw [begins, same]
        exact List.mem_append_right _ (List.mem_singleton_self _)
      · rw [(Work.holds_of_next (sound.holds other otherOpen) goes).2]
        exact List.mem_append_left _ (requested.sessions other otherOpen)
    have unchanged : after.world = before.world → after.Requested (earlier ++ [event]) := by
      intro same
      rcases requested.kept event precedes
        (fun vm stored => ⟨vm, same ▸ stored, .refl vm⟩)
        (fun operation stored => ⟨operation, same ▸ stored, .refl operation⟩) with
        ⟨vms, operations⟩
      exact ⟨opened, vms, operations⟩
    cases progress with
    | background label world moves notWeb permits =>
        have moved := step_progress sound.world moves
        rcases requested.kept (.background label) precedes
          (fun vm stored => moved.vm_before notWeb stored)
          (fun operation stored => moved.operation_before notWeb stored) with ⟨vms, operations⟩
        exact ⟨opened, vms, operations⟩
    | committed session reply db isOpen holds commits =>
        rcases commits.requested with ⟨vms, operations⟩
        have isBegun := List.mem_append_left [SiteEvent.answered session.work.request (.ok reply)]
          (requested.sessions session isOpen)
        refine ⟨opened, fun vm stored => ?_, fun operation stored => ?_⟩
        · rcases vms vm stored with old | ⟨call, same, owner, asked⟩
          · rcases requested.vms vm old with ⟨call, begun, facts⟩
            exact ⟨call, List.mem_append_left _ begun, facts⟩
          · exact ⟨call, same ▸ isBegun, owner, asked⟩
        · rcases operations operation stored with old | ⟨asks, owned⟩
          · rcases requested.operations operation old with ⟨request, begun, asks, vm, vmMem, isVm,
              owner⟩
            rcases precedes.vms vm vmMem with ⟨later, laterMem, onward⟩
            exact ⟨request, List.mem_append_left _ begun, asks, later, laterMem,
              onward.id.trans isVm, onward.ownerUserId.trans owner⟩
          · exact ⟨_, isBegun, asks, owned⟩
    | _ => exact unchanged rfl

end Requested

/-! ## The session behind a request -/

/-- A verified request has a cookie and submits its token. -/
theorem token_of_verifyCsrf {csrfSecret : String} {request : FormRequest}
    {sessionToken headerToken : Option String}
    (verified : verifyCsrf csrfSecret request sessionToken headerToken = .ok ()) :
    ∃ token, sessionToken = some token ∧
      request.Submits headerToken (makeCsrfToken csrfSecret token) := by
  cases sessionToken with
  | none => cases verified
  | some token =>
      by_cases filled : ∃ submitted, request.Submits headerToken submitted ∧ submitted ≠ ""
      · rcases filled with ⟨submitted, submits, notEmpty⟩
        rw [verifyCsrf_submitted csrfSecret token submits notEmpty] at verified
        split at verified
        · split at verified
          · rename_i same
            exact ⟨token, rfl, same ▸ submits⟩
          · cases verified
        · cases verified
      · rw [verifyCsrf_missing csrfSecret token fun submitted submits =>
          Decidable.byContradiction fun notEmpty => filled ⟨submitted, submits, notEmpty⟩]
          at verified
        cases verified

/-- The request was posted with the CSRF token of its cookie, and its session, which a login had
issued to the user and no logout had revoked, was accepted afterwards. -/
def Authorized (config : FrontConfig) (history : List FrontEvent) (post : Post) (userId : Uuid) :
    Prop :=
  ∃ first rest checkId token session now user,
    history = first ++ .posted (.sessionRead checkId (some token) session) post :: rest ∧
    post.cookie = some token ∧
    post.form.Submits post.csrfHeader (makeCsrfToken config.csrfSecret token) ∧
    .identity (.decided checkId now (.ok user)) ∈ rest ∧ user.id = userId ∧
    Entitled config.identity (first.filterMap FrontEvent.identity?) token userId now

/-- What is known of a guarded request. -/
structure Guarded.Known (config : FrontConfig) (history : List FrontEvent) (entry : Guarded) :
    Prop where
  posted : ∃ first rest session,
    history = first ++ .posted (.sessionRead entry.checkId entry.post.cookie session)
      entry.post :: rest
  verified : verifyCsrf config.csrfSecret entry.post.form entry.post.cookie
    entry.post.csrfHeader = .ok ()
  authorized : ∀ user, entry.user = some user → Authorized config history entry.post user.id

section Authorizing

variable {config : FrontConfig} {state next : Front} {event : FrontEvent}
  {history : List FrontEvent}

theorem Authorized.snoc {post : Post} {userId : Uuid}
    (authorized : Authorized config history post userId) (event : FrontEvent) :
    Authorized config (history ++ [event]) post userId := by
  rcases authorized with ⟨first, rest, checkId, token, session, now, user, rfl, cookie, submits,
    decided, isUser, entitled⟩
  exact ⟨first, rest ++ [event], checkId, token, session, now, user, by simp, cookie, submits,
    List.mem_append_left _ decided, isUser, entitled⟩

theorem Guarded.Known.snoc {entry : Guarded} (known : entry.Known config history)
    (event : FrontEvent) : entry.Known config (history ++ [event]) where
  posted := by
    rcases known.posted with ⟨first, rest, session, rfl⟩
    exact ⟨first, rest ++ [event], session, by simp⟩
  verified := known.verified
  authorized user isUser := (known.authorized user isUser).snoc event

theorem NoCollision.of_append {config : IdentityConfig} {history later : List IdentityEvent}
    (distinct : NoCollision config (history ++ later)) : NoCollision config history := by
  intro one isOne other isOther
  refine distinct one ?_ other ?_ <;> rw [List.flatMap_append]
  · exact List.mem_append_left _ isOne
  · exact List.mem_append_left _ isOther

theorem session_of_read {config : IdentityConfig} {world after : IdentityWorld} {id : ℕ}
    {cookie : Option String} {session : Option ApplicationSession}
    (reads : (identity config).step world (.sessionRead id cookie session) after) :
    session = world.db.sessionOfCookie? config cookie := by
  cases identity_move reads
  rfl

/-- A session that was accepted makes the request one of the user who logged in. -/
theorem Guarded.Known.decided {entry : Guarded} (known : entry.Known config history)
    (execution : (front config).Execution history state)
    (distinct : NoCollision config.identity (history.filterMap FrontEvent.identity?)) {now : Time}
    {user : User} {world : IdentityWorld}
    (decides : (identity config.identity).step state.identity
      (.decided entry.checkId now (.ok user)) world) :
    Authorized config (history ++ [.identity (.decided entry.checkId now (.ok user))]) entry.post
      user.id := by
  rcases known.posted with ⟨first, rest, session, rfl⟩
  rcases token_of_verifyCsrf known.verified with ⟨token, cookie, submits⟩
  have observed := identity_of_front execution
  have splits : (first ++ .posted (.sessionRead entry.checkId entry.post.cookie session)
      entry.post :: rest).filterMap FrontEvent.identity? =
        first.filterMap FrontEvent.identity? ++
          .sessionRead entry.checkId entry.post.cookie session ::
            rest.filterMap FrontEvent.identity? := by
    simp [FrontEvent.identity?]
  rw [splits] at observed distinct
  rcases observed.split with ⟨before, after, early, reads, run⟩
  rw [← List.singleton_append, ← List.append_assoc] at distinct
  have noCollision := distinct.of_append
  rcases read_of_decided early reads run decides with ⟨_, _, raises⟩ |
    ⟨found, read, _, _, isFound, accepts, _, _, _, isUser, _⟩
  · cases raises
  · have isSession := session_of_read reads
    rw [isFound, cookie] at isSession
    rcases Accounts.sessionByHash?_eq_some_iff.mp isSession.symm with ⟨stored, hash⟩
    rcases checkSession_eq_ok.mp accepts.symm with ⟨⟨inTime, isOpen, _⟩, rfl⟩
    have entitled := (entitled_iff early noCollision cookie stored hash read.id now).mpr
      ⟨isUser.symm, inTime, isOpen⟩
    exact ⟨first, rest ++ [.identity (.decided entry.checkId now (.ok read))], entry.checkId, token,
      session, now, read, by simp [cookie], cookie, submits,
      List.mem_append_right _ (List.mem_singleton_self _), rfl, entitled⟩

theorem mem_admit {guarded : List Guarded} {event : IdentityEvent} {entry : Guarded}
    (admitted : entry ∈ settle event guarded) :
    entry ∈ guarded ∨ ∃ old ∈ guarded, ∃ now user,
      event = .decided old.checkId now (.ok user) ∧ entry = { old with user := some user } := by
  cases event with
  | decided id now outcome =>
      cases outcome with
      | error error => exact .inl (List.mem_of_mem_filter admitted)
      | ok user =>
          rcases List.mem_map.mp admitted with ⟨old, oldMem, rfl⟩
          split
          · rename_i same
            exact .inr ⟨old, oldMem, now, user, by rw [same], rfl⟩
          · exact .inl oldMem
  | _ => exact .inl admitted

/-- What has passed both dependencies is authorized, along every run. -/
theorem authorized_of_execution (execution : (front config).Execution history state)
    (distinct : NoCollision config.identity (history.filterMap FrontEvent.identity?)) :
    (∀ entry ∈ state.guarded, entry.Known config history) ∧
      ∀ post user, .entered post user ∈ history → Authorized config history post user.id := by
  revert distinct
  refine execution.invariant (motive := fun history state =>
    NoCollision config.identity (history.filterMap FrontEvent.identity?) →
      (∀ entry ∈ state.guarded, entry.Known config history) ∧
        ∀ post user, .entered post user ∈ history → Authorized config history post user.id) ?_ ?_
  · rintro _ ⟨clock, rfl⟩ _
    exact ⟨fun _ isGuarded => (by cases isGuarded), fun _ _ isEntered => (by cases isEntered)⟩
  · intro earlier before event after early ih step distinct
    have noCollision : NoCollision config.identity (earlier.filterMap FrontEvent.identity?) := by
      rw [List.filterMap_append] at distinct
      exact distinct.of_append
    rcases ih noCollision with ⟨known, authorized⟩
    have kept : ∀ entry ∈ before.guarded, entry.Known config (earlier ++ [event]) :=
      fun entry isGuarded => (known entry isGuarded).snoc event
    have entered : (∀ post user, event ≠ .entered post user) → ∀ post user,
        .entered post user ∈ earlier ++ [event] →
          Authorized config (earlier ++ [event]) post user.id := by
      intro other post user isEntered
      rcases List.mem_append.mp isEntered with old | new
      · exact (authorized post user old).snoc event
      · exact absurd (List.mem_singleton.mp new).symm (other post user)
    cases frontStep_of_step step with
    | identity event world moves =>
        refine ⟨fun entry admitted => ?_, entered (by simp)⟩
        rcases mem_admit admitted with old | ⟨old, oldMem, now, user, rfl, rfl⟩
        · exact kept entry old
        · have knownOld := kept old oldMem
          refine ⟨knownOld.posted, knownOld.verified, fun other isUser => ?_⟩
          cases isUser
          exact (known old oldMem).decided early noCollision moves
    | refused post error => exact ⟨kept, entered (by simp)⟩
    | posted post world verified moves =>
        refine ⟨fun entry isGuarded => ?_, entered (by simp)⟩
        rcases List.mem_append.mp isGuarded with old | new
        · exact kept entry old
        · rcases List.mem_singleton.mp new with rfl
          exact ⟨⟨earlier, [], _, rfl⟩, verified, fun _ isUser => (by cases isUser)⟩
    | entered checkId post user world isGuarded moves =>
        refine ⟨fun entry remains => kept entry (List.mem_of_mem_filter remains), ?_⟩
        intro other named isEntered
        rcases List.mem_append.mp isEntered with old | new
        · exact (authorized other named old).snoc _
        · cases List.mem_singleton.mp new
          exact ((known _ isGuarded).authorized user rfl).snoc _
    | site event world moves notBegun => exact ⟨kept, entered (by simp)⟩

/-- A request begins on the site only when it enters. -/
theorem entered_of_begun (execution : (front config).Execution history state) :
    ∀ request, .begun request ∈ history.filterMap FrontEvent.site? →
      ∃ post user, .entered post user ∈ history ∧ request = post.ask.request user.id := by
  refine execution.invariant (motive := fun history _ =>
    ∀ request, .begun request ∈ history.filterMap FrontEvent.site? →
      ∃ post user, .entered post user ∈ history ∧ request = post.ask.request user.id) ?_ ?_
  · intro _ _ request isBegun
    cases isBegun
  · intro earlier before event after _ ih step request isBegun
    rw [List.filterMap_append] at isBegun
    rcases List.mem_append.mp isBegun with old | new
    · rcases ih request old with ⟨post, user, isEntered, same⟩
      exact ⟨post, user, List.mem_append_left _ isEntered, same⟩
    · cases frontStep_of_step step with
      | entered checkId post user world isGuarded moves =>
          simp only [List.filterMap_cons, FrontEvent.site?, List.filterMap_nil,
            List.mem_singleton, SiteEvent.begun.injEq] at new
          exact ⟨post, user, List.mem_append_right _ (List.mem_singleton_self _), new⟩
      | site event world moves notBegun =>
          simp only [List.filterMap_cons, FrontEvent.site?, List.filterMap_nil,
            List.mem_singleton] at new
          exact absurd new.symm (notBegun request)
      | _ => simp [FrontEvent.site?] at new

/-- The operation is what the endpoint was asked for. -/
def Ask.Asks (ask : Ask) (operation : Operation) : Prop :=
  match ask with
  | .create _ idempotencyKey => operation.operationType = .vmCreate ∧
      operation.idempotencyKey = idempotencyKey
  | .enqueue vmId operationType idempotencyKey => operation.operationType = operationType ∧
      operation.virtualMachineId = vmId ∧ operation.idempotencyKey = idempotencyKey

/-- The creation of a VM was asked for by its owner. -/
theorem vm_authorized (execution : (front config).Execution history state)
    (distinct : NoCollision config.identity (history.filterMap FrontEvent.identity?))
    {vm : VirtualMachine} (stored : vm ∈ state.site.world.db.virtualMachines) :
    ∃ post request idempotencyKey, post.ask = .create request idempotencyKey ∧
      vm.MatchesRequest request ∧ Authorized config history post vm.ownerUserId := by
  have requested := requested_of_execution (site_of_front execution)
  rcases requested.vms vm stored with ⟨call, isBegun, owner, asked⟩
  rcases entered_of_begun execution _ isBegun with ⟨post, user, isEntered, same⟩
  cases asks : post.ask with
  | enqueue => simp [asks, Ask.request] at same
  | create request idempotencyKey =>
      simp only [asks, Ask.request, WebRequest.create.injEq] at same
      subst same
      exact ⟨post, request, idempotencyKey, asks, asked,
        owner ▸ (authorized_of_execution execution distinct).2 post user isEntered⟩

/-- An operation was asked for by the owner of its VM. -/
theorem operation_authorized (execution : (front config).Execution history state)
    (distinct : NoCollision config.identity (history.filterMap FrontEvent.identity?))
    {operation : Operation} (stored : operation ∈ state.site.world.db.operations) :
    ∃ vm ∈ state.site.world.db.virtualMachines, vm.id = operation.virtualMachineId ∧
      ∃ post, post.ask.Asks operation ∧ Authorized config history post vm.ownerUserId := by
  have requested := requested_of_execution (site_of_front execution)
  rcases requested.operations operation stored with
    ⟨request, isBegun, isAsked, vm, vmMem, isVm, owner⟩
  rcases entered_of_begun execution _ isBegun with ⟨post, user, isEntered, rfl⟩
  refine ⟨vm, vmMem, isVm, post, ?_, ?_⟩
  · cases asks : post.ask <;> simpa [asks, Ask.request, WebRequest.Asks, Ask.Asks] using isAsked
  · have isUser : vm.ownerUserId = user.id := by
      rw [owner]
      cases post.ask <;> rfl
    rw [isUser]
    exact (authorized_of_execution execution distinct).2 post user isEntered

/-- Every VM and every operation was asked for by its owner: in every run in which no two tokens
collide, the row goes back to a POST request with the CSRF token of its own cookie, whose session
a login had issued to the owner of the VM and no logout had revoked when it was read. -/
theorem rows_authorized (execution : (front config).Execution history state)
    (distinct : NoCollision config.identity (history.filterMap FrontEvent.identity?)) :
    (∀ vm ∈ state.site.world.db.virtualMachines, ∃ post request idempotencyKey,
      post.ask = .create request idempotencyKey ∧ vm.MatchesRequest request ∧
        Authorized config history post vm.ownerUserId) ∧
    ∀ operation ∈ state.site.world.db.operations, ∃ vm ∈ state.site.world.db.virtualMachines,
      vm.id = operation.virtualMachineId ∧ ∃ post, post.ask.Asks operation ∧
        Authorized config history post vm.ownerUserId := by
  constructor
  · intro vm stored
    exact vm_authorized execution distinct stored
  · intro operation stored
    exact operation_authorized execution distinct stored

end Authorizing

section Sample

namespace Front

/-- The labels and the state after the actions, starting with `state`. -/
def perform (config : FrontConfig) (actions : List FrontAction) (state : Front) :
    List FrontEvent × Front :=
  (LabelledSystem.perform (step? config) actions state).getD ([], state)

theorem perform_run (config : FrontConfig) (actions : List FrontAction) (state : Front) :
    (front config).Run state (perform config actions state).1 (perform config actions state).2 := by
  unfold perform
  cases performed : LabelledSystem.perform (step? config) actions state with
  | none => exact .nil
  | some outcome => exact LabelledSystem.run_of_perform performed

end Front

def sampleFrontConfig : FrontConfig where
  identity := sampleConfig
  csrfSecret := "secret"

/-- User 2 asks for a VM with the CSRF token of the cookie. -/
def samplePost : Post where
  cookie := some "R2Fq1xk3"
  csrfHeader := some (makeCsrfToken "secret" "R2Fq1xk3")
  form := { contentType := none, form := [] }
  ask := .create { sampleRequest with sshPublicKeyId := 12 } "key"

/-- User 2 has logged in, and has a quota and an SSH key. -/
def sampleArrived : List FrontEvent × Front :=
  Front.perform sampleFrontConfig
    (sampleFirstLogin.map .identity ++ [.site (.background (.administer sampleUsers))]) (.initial 0)

def samplePosted : Front :=
  { sampleArrived.2 with
    identity := { sampleArrived.2.identity with
      checks := [{ id := 1, cookie := some "R2Fq1xk3", point := .found (some sampleSession) }]
      nextId := 2 }
    guarded := [⟨1, samplePost, none⟩] }

/-- The session is accepted, the request enters, and its statements are executed. -/
def sampleServed : List FrontEvent × Front :=
  Front.perform sampleFrontConfig ([.identity (.continueCheck 1), .identity (.continueCheck 1),
    .enter 1 1] ++ List.replicate 8 (.site (.proceed 1 ⟨31, 41, 5⟩))) samplePosted

/-- The whole history. -/
def sampleFrontHistory : List FrontEvent :=
  sampleArrived.1 ++
    [.posted (.sessionRead 1 (some "R2Fq1xk3") (some sampleSession)) samplePost] ++ sampleServed.1

theorem samplePost_step : (front sampleFrontConfig).step sampleArrived.2
    (.posted (.sessionRead 1 (some "R2Fq1xk3") (some sampleSession)) samplePost) samplePosted := by
  have verified : verifyCsrf "secret" samplePost.form samplePost.cookie samplePost.csrfHeader =
      .ok () := by
    have submits : samplePost.form.Submits samplePost.csrfHeader
        (makeCsrfToken "secret" "R2Fq1xk3") := .header _
    have compared := verifyCsrf_submitted "secret" "R2Fq1xk3" submits
      (makeCsrfToken_ne_empty "secret" "R2Fq1xk3")
    rwa [if_pos (isAscii_makeCsrfToken "secret" "R2Fq1xk3"), if_pos rfl] at compared
  refine ⟨.post samplePost, ?_⟩
  unfold Front.step?
  simp only [sampleFrontConfig, verified]
  rfl

theorem sampleServed_execution :
    (front sampleFrontConfig).Execution sampleFrontHistory sampleServed.2 :=
  ⟨.initial 0, ⟨0, rfl⟩, ((Front.perform_run _ _ _).snoc samplePost_step).append
    (Front.perform_run _ _ _)⟩

theorem sampleFrontHistory_distinct :
    NoCollision sampleConfig (sampleFrontHistory.filterMap FrontEvent.identity?) := by
  intro one isOne other isOther _
  have tokens : (sampleFrontHistory.filterMap FrontEvent.identity?).flatMap
      IdentityEvent.tokens = ["R2Fq1xk3", "R2Fq1xk3"] := rfl
  rw [tokens] at isOne isOther
  simp only [List.mem_cons, List.not_mem_nil, or_false, or_self] at isOne isOther
  exact isOne.trans isOther.symm

set_option maxRecDepth 10000 in
/-- The VM of user 2 goes back to the login of user 2. -/
theorem sampleServed_authorized :
    ∃ vm ∈ sampleServed.2.site.world.db.virtualMachines, vm.id = 31 ∧ vm.ownerUserId = 2 ∧
      ∃ post, Authorized sampleFrontConfig sampleFrontHistory post 2 := by
  let vm := newVm 31 2 { sampleRequest with sshPublicKeyId := 12 }
  have stored : vm ∈ sampleServed.2.site.world.db.virtualMachines := by decide +kernel
  rcases (rows_authorized sampleServed_execution sampleFrontHistory_distinct).1 vm stored with
    ⟨post, _, _, _, _, authorized⟩
  exact ⟨vm, stored, rfl, rfl, post, authorized⟩

end Sample

end NpdPortal
