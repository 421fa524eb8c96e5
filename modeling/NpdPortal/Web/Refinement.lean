import NpdPortal.Web.Statements

/-!
# The site refines the portal

Locks and index entries are exclusive, so what an open request has established
stays true until it commits, and its commit is one step of the portal.  Every
other step of a request leaves the committed rows alone.  What holds of the
reachable worlds of the portal therefore holds with interleaved requests.
-/

namespace NpdPortal

/-- The invariant of the site. -/
structure Site.Sound (state : Site) : Prop where
  world : state.world.Sound
  ids : (state.sessions.map (·.id)).Nodup
  exclusive : Exclusive (fun session => session.work.resources) state.sessions
  holds : ∀ session ∈ state.sessions, session.work.Holds state.world.db

/-- Everything a step of a sound site can do. -/
inductive SiteProgress (state : Site) : SiteEvent → Site → Prop where
  | background (event : Event) (world : World) (step : portal.step state.world event world)
      (notWeb : event ≠ .requested) (permits : state.Permits world) :
      SiteProgress state (.background event) { state with world }
  | begun (id : ℕ) (request : WebRequest) (fresh : id ∉ state.sessions.map (·.id)) :
      SiteProgress state (.begun request)
        { state with sessions := state.sessions ++ [⟨id, request.start⟩] }
  | proceeded (session : Session) (work : Work) (opened : session ∈ state.sessions)
      (holds : work.Holds state.world.db) (sameRequest : work.request = session.work.request)
      (available : state.Available session.id work) :
      SiteProgress state (.proceeded session.work.request)
        { state with sessions := KeyedRows.replace Session.id ⟨session.id, work⟩ state.sessions }
  /-- The request raised, and its transaction was rolled back. -/
  | raised (session : Session) (error : Error) (opened : session ∈ state.sessions) :
      SiteProgress state (.answered session.work.request (.error error))
        (state.close session.id state.world)
  /-- The row of an earlier request was returned. -/
  | returned (session : Session) (reply : WebReply) (opened : session ∈ state.sessions)
      (answers : reply.Answers state.world.db session.work.request) :
      SiteProgress state (.answered session.work.request (.ok reply))
        (state.close session.id state.world)
  /-- The inserted rows were committed. -/
  | committed (session : Session) (reply : WebReply) (db : Database)
      (opened : session ∈ state.sessions) (holds : session.work.Holds state.world.db)
      (commits : Commits state.world.db db session.work reply) :
      SiteProgress state (.answered session.work.request (.ok reply))
        (state.close session.id { state.world with db })
  | aborted (session : Session) (opened : session ∈ state.sessions) :
      SiteProgress state (.aborted session.work.request) (state.close session.id state.world)

section Step

variable {state next : Site} {event : SiteEvent}

/-- Only the web actions are labelled as requests. -/
theorem World.step?_ne_requested {action : Action} {world after : World} {event : Event}
    (notWeb : action.isWeb = false) (step : World.step? action world = some (event, after)) :
    event ≠ .requested := by
  rintro rfl
  cases action with
  | createVm => cases notWeb
  | enqueue => cases notWeb
  | administer administration =>
      simp only [World.step?] at step
      split at step
      · cases step
      · split at step <;> cases step
  | select now locked operationId provider stamp dbNow =>
      simp only [World.step?] at step
      split at step
      · cases step
      · rename_i operation _
        split at step
        · rcases world.selectStep_label operation provider stamp dbNow with
            ⟨exchanges, committed, label⟩
          rw [Option.some.inj step] at label
          cases label
        · cases step
  | submit index provider =>
      simp only [World.step?] at step
      split at step <;> cases step
  | store index stamp dbNow =>
      simp only [World.step?] at step
      split at step
      · split at step <;> cases step
      · cases step
  | lose index =>
      simp only [World.step?] at step
      split at step <;> cases step

/-- Every step of a sound site is one of the listed ones. -/
theorem site_step_progress (sound : state.Sound) (step : site.step state event next) :
    SiteProgress state event next := by
  rcases step with ⟨action, step⟩
  cases action with
  | background action =>
      simp only [Site.step?] at step
      split at step
      · cases step
      · rename_i notWeb
        split at step
        · rename_i worldEvent world ran
          split at step <;> cases step
          exact .background worldEvent world ⟨action, ran⟩
            (World.step?_ne_requested (by simpa using notWeb) ran) ‹_›
        · cases step
  | begin id request =>
      simp only [Site.step?] at step
      split at step <;> cases step
      exact .begun id request ‹_›
  | proceed id context =>
      simp only [Site.step?] at step
      split at step
      · cases step
      · rename_i session found
        rcases (KeyedRows.lookup_eq_some_iff sound.ids).mp found with ⟨opened, rfl⟩
        have holds := sound.holds session opened
        split at step
        · rename_i work goes
          split at step <;> cases step
          rcases Work.holds_of_next holds goes with ⟨laterHolds, sameRequest⟩
          exact .proceeded session work opened laterHolds sameRequest ‹_›
        · rename_i result ends
          cases step
          cases result with
          | error error => exact .raised session error opened
          | ok reply => exact .returned session reply opened (Work.answers_of_next holds ends)
        · rename_i vms operations reply commits
          split at step <;> cases step
          · exact .committed session reply _ opened holds
              (Work.commits_of_next holds commits ‹_›)
          · exact .raised session .integrityError opened
  | abort id =>
      simp only [Site.step?] at step
      split at step <;> cases step
      rename_i session found
      rcases (KeyedRows.lookup_eq_some_iff sound.ids).mp found with ⟨opened, rfl⟩
      exact .aborted session opened

/-! ## The invariant -/

/-- A step of a worker or of the administration moves one operation or leaves them alone. -/
theorem Progress.background_operations {world after : World} {event : Event}
    (progress : Progress world event after) (notWeb : event ≠ .requested) :
    (∃ evidence operation updated vm position reached change,
      Moved world.db after.db evidence operation updated vm position reached change) ∨
    after.db.operations = world.db.operations := by
  cases progress with
  | unchanged => exact absurd rfl notWeb
  | created => exact absurd rfl notWeb
  | enqueued => exact absurd rfl notWeb
  | administered db administers => exact .inr administers.operations
  | marked db operation updated vm stage request target moved =>
      exact .inl ⟨_, _, _, _, _, _, _, moved⟩
  | followed db operation updated vm position reached change evidence exchanges _ _ moved =>
      exact .inl ⟨_, _, _, _, _, _, _, moved⟩
  | stored index dispatch outcome db operation updated vm position reached change _ _ moved =>
      exact .inl ⟨_, _, _, _, _, _, _, moved⟩
  | _ => exact .inr rfl

theorem Progress.sshPublicKeys {world after : World} {event : Event}
    (progress : Progress world event after) :
    ∀ key ∈ world.db.sshPublicKeys, key ∈ after.db.sshPublicKeys := by
  intro key keyMem
  cases progress with
  | created db context userId request idempotencyKey created => rwa [created.tables]
  | enqueued db context userId vmId operationType idempotencyKey vm enqueued =>
      rwa [enqueued.tables]
  | administered db administers => exact administers.sshKeys key keyMem
  | marked db operation updated vm stage request target moved => rwa [moved.sshPublicKeys]
  | followed db operation updated vm position reached change evidence exchanges _ _ moved =>
      rwa [moved.sshPublicKeys]
  | stored index dispatch outcome db operation updated vm position reached change _ _ moved =>
      rwa [moved.sshPublicKeys]
  | _ => exact keyMem

/-- A move writes no key of an operation. -/
theorem Moved.operation_columns {db after : Database} {evidence : Evidence}
    {operation updated : Operation} {vm : VirtualMachine} {position reached : Position}
    {change : VmChange}
    (moved : Moved db after evidence operation updated vm position reached change) :
    after.operations.map (·.id) = db.operations.map (·.id) ∧
      after.operations.map (·.idempotencyKey) = db.operations.map (·.idempotencyKey) := by
  rw [moved.operations]
  refine ⟨KeyedRows.map_key_replace _ _, KeyedRows.map_replace _ fun old oldMem same => ?_⟩
  have isOperation : old = operation := KeyedRows.eq_of_key_eq db.valid.operationIds oldMem
    moved.stored (same.trans moved.identity.id)
  rw [isOperation, moved.identity.idempotencyKey]

/-- A VM without an active operation is not moved. -/
theorem Moved.inactive {db after : Database} {evidence : Evidence}
    {operation updated : Operation} {vm : VirtualMachine} {position reached : Position}
    {change : VmChange}
    (moved : Moved db after evidence operation updated vm position reached change) {id : Uuid}
    (inactive : ∀ operation ∈ db.operationsOf id, ¬operation.Active) :
    ∀ operation ∈ after.operationsOf id, ¬operation.Active := by
  have active : operation.Active := moved.atPosition.active_iff.mpr moved.advance.not_terminal
  have other : id ≠ vm.id := by
    rintro rfl
    exact inactive operation (Database.mem_operationsOf.mpr ⟨moved.stored, moved.vmId.symm⟩) active
  rwa [moved.operationsOf_of_ne other]

/-- What a worker or the administration commits leaves an open request alone. -/
theorem Progress.evolves {world after : World} {event : Event}
    (progress : Progress world event after) (notWeb : event ≠ .requested) {work : Work}
    (kept : ∀ resource ∈ work.resources, resource.Kept world.db after.db) :
    world.db.Evolves after.db work where
  sshKeys := progress.sshPublicKeys
  plans := progress.planOf
  kept := kept
  vacant := by
    have columns : after.db.operations.map (·.id) = world.db.operations.map (·.id) ∧
        after.db.operations.map (·.idempotencyKey) =
          world.db.operations.map (·.idempotencyKey) := by
      rcases progress.background_operations notWeb with ⟨_, _, _, _, _, _, _, moved⟩ | same
      · exact moved.operation_columns
      · exact ⟨by rw [same], by rw [same]⟩
    intro resource _ vacant
    cases resource with
    | operation id =>
        rw [Resource.Vacant, columns.1]
        exact vacant
    | idempotencyKey key =>
        rw [Resource.Vacant, columns.2]
        exact vacant
    | userQuota userId => trivial
    | virtualMachine id => trivial
  usage userId _ := by
    rcases progress.usage with atMost | ⟨_, _, _, _, isWeb, _⟩
    · exact atMost userId
    · exact absurd isWeb notWeb
  inactive id _ inactive := by
    rcases progress.background_operations notWeb with ⟨_, _, _, _, _, _, _, moved⟩ | same
    · exact moved.inactive inactive
    · unfold Database.operationsOf at inactive ⊢
      rwa [same]
  operations operation stored := by
    rcases progress.forward stored with ⟨later, laterMem, forward⟩
    exact ⟨later, laterMem, forward.identity⟩
  vms _ := progress.onward

/-- Rows whose resources a request does not hold may be inserted. -/
theorem Database.evolves_of_append {db after : Database} {work : Work}
    {vms : List VirtualMachine} {operations : List Operation}
    (tables : after.toTables = { db.toTables with
      virtualMachines := db.virtualMachines ++ vms
      operations := db.operations ++ operations })
    (otherVms : ∀ vm ∈ vms, .virtualMachine vm.id ∉ work.resources ∧
      .userQuota vm.ownerUserId ∉ work.resources)
    (otherOperations : ∀ operation ∈ operations, .operation operation.id ∉ work.resources ∧
      .idempotencyKey operation.idempotencyKey ∉ work.resources ∧
      .virtualMachine operation.virtualMachineId ∉ work.resources) :
    db.Evolves after work where
  sshKeys := by
    rw [tables]
    exact fun _ keyMem => keyMem
  plans {userId plan} stored := by
    refine ⟨plan, ?_, .refl plan⟩
    rw [← stored]
    simp [Database.planOf, Database.userQuota?, Database.computePlan?, tables]
  kept resource resourceMem := by
    cases resource with
    | userQuota userId => simp [Resource.Kept, Database.userQuota?, tables]
    | virtualMachine id =>
        have absent : KeyedRows.lookup VirtualMachine.id id vms = none := by
          rw [KeyedRows.lookup_eq_none_iff]
          rintro same
          rcases List.mem_map.mp same with ⟨vm, vmMem, rfl⟩
          exact (otherVms vm vmMem).1 resourceMem
        simp [Resource.Kept, Database.virtualMachine?, tables, KeyedRows.lookup_append, absent]
    | operation id => trivial
    | idempotencyKey key => trivial
  vacant resource resourceMem vacant := by
    cases resource with
    | operation id =>
        simp only [Resource.Vacant, tables, List.map_append, List.mem_append] at vacant ⊢
        rintro (old | new)
        · exact vacant old
        · rcases List.mem_map.mp new with ⟨operation, operationMem, rfl⟩
          exact (otherOperations operation operationMem).1 resourceMem
    | idempotencyKey key =>
        simp only [Resource.Vacant, tables, List.map_append, List.mem_append] at vacant ⊢
        rintro (old | new)
        · exact vacant old
        · rcases List.mem_map.mp new with ⟨operation, operationMem, rfl⟩
          exact (otherOperations operation operationMem).2.1 resourceMem
    | userQuota userId => trivial
    | virtualMachine id => trivial
  usage userId resourceMem := by
    have others : (vms.filter fun vm => vm.ownerUserId = userId ∧ vm.ConsumesQuota) = [] := by
      rw [List.filter_eq_nil_iff]
      intro vm vmMem chosen
      rcases of_decide_eq_true chosen with ⟨rfl, _⟩
      exact (otherVms vm vmMem).2 resourceMem
    have same : after.consumingVms userId = db.consumingVms userId := by
      unfold Database.consumingVms
      rw [tables, List.filter_append, others, List.append_nil]
    unfold getUserComputeUsage
    rw [same]
    exact .refl _
  inactive id resourceMem inactive operation operationMem := by
    rcases Database.mem_operationsOf.mp operationMem with ⟨stored, rfl⟩
    rw [tables] at stored
    rcases List.mem_append.mp stored with old | new
    · exact inactive operation (Database.mem_operationsOf.mpr ⟨old, rfl⟩)
    · exact absurd resourceMem (otherOperations operation new).2.2
  operations operation stored := by
    rw [tables]
    exact ⟨operation, List.mem_append_left _ stored, .refl operation⟩
  vms vm stored := by
    rw [tables]
    exact ⟨vm, List.mem_append_left _ stored, .refl vm⟩

/-- What another request commits leaves an open request alone. -/
theorem Commits.evolves {db after : Database} {committed work : Work} {reply : WebReply}
    (commits : Commits db after committed reply) (holds : committed.Holds db)
    (disjoint : ∀ resource ∈ committed.resources, resource ∉ work.resources) :
    db.Evolves after work := by
  cases commits with
  | create call quota plan vm operation created performed =>
      rcases holds with ⟨_, _, _, isNewOperation, _⟩
      have sameKey : operation.idempotencyKey = call.idempotencyKey := by
        rw [isNewOperation]
        rfl
      refine Database.evolves_of_append created.tables (fun row rowMem => ?_)
        fun row rowMem => ?_
      · rcases List.mem_singleton.mp rowMem with rfl
        exact ⟨disjoint (.virtualMachine vm.id) (by simp [Work.resources]),
          disjoint (.userQuota call.userId) (by simp [Work.resources])⟩
      · rcases List.mem_singleton.mp rowMem with rfl
        exact ⟨disjoint (.operation operation.id) (by simp [Work.resources]),
          disjoint (.idempotencyKey call.idempotencyKey) (by simp [Work.resources, sameKey]),
          disjoint (.virtualMachine vm.id) (by simp [Work.resources])⟩
  | enqueue call statuses vm operation enqueued performed =>
      rcases holds with ⟨_, isNewOperation, _⟩
      have sameKey : operation.idempotencyKey = call.idempotencyKey := by
        rw [isNewOperation]
        rfl
      have sameVm : vm.id = call.vmId :=
        (Database.virtualMachine?_eq_some_iff.mp enqueued.vmStored).2
      have tables : after.toTables = { db.toTables with
          virtualMachines := db.virtualMachines ++ []
          operations := db.operations ++ [newLifecycleOperation operation.id call.vmId
            call.operationType call.idempotencyKey operation.updatedAt] } := by
        rw [enqueued.tables, List.append_nil]
      refine Database.evolves_of_append tables (by simp) fun row rowMem => ?_
      rcases List.mem_singleton.mp rowMem with rfl
      exact ⟨disjoint (.operation operation.id) (by simp [Work.resources]),
        disjoint (.idempotencyKey call.idempotencyKey) (by simp [Work.resources, sameKey]),
        disjoint (.virtualMachine call.vmId) (by simp [Work.resources, sameVm])⟩

/-- A commit is one step of the portal. -/
theorem Commits.portal_step {db after : Database} {committed : Work} {reply : WebReply}
    (commits : Commits db after committed reply) (inFlight : List Flight) :
    portal.step ⟨db, inFlight⟩ .requested ⟨after, inFlight⟩ := by
  cases commits with
  | create call quota plan vm operation created performed =>
      refine ⟨.createVm ⟨vm.id, operation.id, operation.updatedAt⟩ call.userId call.request
        call.idempotencyKey, ?_⟩
      simp only [World.step?, performed, World.afterRequest]
  | enqueue call statuses vm operation enqueued performed =>
      refine ⟨.enqueue ⟨0, operation.id, operation.updatedAt⟩ call.userId call.vmId
        call.operationType call.idempotencyKey, ?_⟩
      simp only [World.step?, performed, World.afterRequest]

/-- A step of the site is a step of the portal or keeps the world. -/
theorem SiteProgress.world (progress : SiteProgress state event next) :
    next.world = state.world ∨ ∃ label, portal.step state.world label next.world := by
  cases progress with
  | background label world step notWeb permits => exact .inr ⟨label, step⟩
  | committed session reply db opened holds commits =>
      exact .inr ⟨.requested, commits.portal_step state.world.inFlight⟩
  | _ => exact .inl rfl

theorem Site.mem_close {id : ℕ} {world : World} {session : Session} :
    session ∈ (state.close id world).sessions ↔ session ∈ state.sessions ∧ session.id ≠ id := by
  simp [Site.close]

/-- Closing a session keeps the invariant, if what is committed leaves the others alone. -/
theorem Site.Sound.close (sound : state.Sound) {id : ℕ} {world : World} (worldSound : world.Sound)
    (holds : ∀ session ∈ state.sessions, session.id ≠ id → session.work.Holds world.db) :
    (state.close id world).Sound where
  world := worldSound
  ids := sound.ids.sublist (List.filter_sublist.map _)
  exclusive := sound.exclusive.subset (List.filter_subset_self _)
  holds session sessionMem := by
    rcases Site.mem_close.mp sessionMem with ⟨opened, others⟩
    exact holds session opened others

theorem WebRequest.start_holds (request : WebRequest) (db : Database) : request.start.Holds db := by
  cases request <;> trivial

theorem WebRequest.start_resources (request : WebRequest) : request.start.resources = [] := by
  cases request <;> rfl

/-- The invariant is kept by every step. -/
theorem SiteProgress.sound (progress : SiteProgress state event next) (sound : state.Sound) :
    next.Sound := by
  have kept : ∀ id, (state.close id state.world).Sound := fun id =>
    sound.close sound.world fun session opened _ => sound.holds session opened
  cases progress with
  | background label world step notWeb permits =>
      have worldProgress := step_progress sound.world step
      refine ⟨worldProgress.sound sound.world, sound.ids, sound.exclusive,
        fun session opened => ?_⟩
      exact (sound.holds session opened).mono
        (worldProgress.evolves notWeb (permits session opened))
  | begun id request fresh =>
      refine ⟨sound.world, ?_, sound.exclusive.append_idle request.start_resources, ?_⟩
      · rw [List.map_append, List.nodup_append]
        refine ⟨sound.ids, by simp, fun old oldMem new newMem => ?_⟩
        obtain rfl : new = id := by simpa using newMem
        exact fun same => fresh (same ▸ oldMem)
      · intro session opened
        rcases List.mem_append.mp opened with old | new
        · exact sound.holds session old
        · rcases List.mem_singleton.mp new with rfl
          exact request.start_holds _
  | proceeded session work opened holds sameRequest available =>
      refine ⟨sound.world, ?_, sound.exclusive.replace available, fun other otherMem => ?_⟩
      · simpa only [KeyedRows.map_key_replace] using sound.ids
      · rcases KeyedRows.mem_replace.mp otherMem with ⟨rfl, _⟩ | ⟨old, _⟩
        · exact holds
        · exact sound.holds other old
  | raised session error opened => exact kept session.id
  | returned session reply opened answers => exact kept session.id
  | aborted session opened => exact kept session.id
  | committed session reply db opened holds commits =>
      have worldProgress := step_progress sound.world (commits.portal_step state.world.inFlight)
      refine sound.close (worldProgress.sound sound.world) fun other otherOpened differs => ?_
      refine (sound.holds other otherOpened).mono (commits.evolves holds ?_)
      intro resource held alsoHeld
      refine differs (congrArg Session.id ?_)
      exact sound.exclusive other otherOpened session opened resource alsoHeld held

end Step

theorem Site.initial_sound : Site.initial.Sound where
  world := World.initial_sound
  ids := List.nodup_nil
  exclusive := .nil
  holds _ opened := absurd opened List.not_mem_nil

section Runs

variable {state next : Site} {event : SiteEvent}

/-- Every reachable state of the site is sound. -/
theorem site_sound_of_reachable (reachable : site.Reachable state) : state.Sound := by
  refine reachable.invariant ?_ ?_
  · rintro source rfl
    exact Site.initial_sound
  · intro before event after sound step
    exact (site_step_progress sound step).sound sound

/-- The site refines the portal. -/
theorem site_refines_portal : LabelledSystem.Refines site portal Site.world where
  initial := by
    rintro source rfl
    rfl
  step reachable step :=
    (site_step_progress (site_sound_of_reachable reachable) step).world

/-- Requests that overlap lead to no world which requests one after another do not. -/
theorem site_reachable_world (reachable : site.Reachable state) : portal.Reachable state.world :=
  site_refines_portal.reachable reachable

/-- Every row of the first database has come forward in the second. -/
structure Database.Precedes (db later : Database) : Prop where
  operations : ∀ operation ∈ db.operations, ∃ updated ∈ later.operations,
    operation.Forward updated
  vms : ∀ vm ∈ db.virtualMachines, ∃ row ∈ later.virtualMachines, vm.Onward row

theorem Database.Precedes.refl (db : Database) : db.Precedes db where
  operations operation stored := ⟨operation, stored, .refl operation⟩
  vms vm stored := ⟨vm, stored, .refl vm⟩

theorem Database.Precedes.trans {first second third : Database} (before : first.Precedes second)
    (after : second.Precedes third) : first.Precedes third where
  operations operation stored := by
    rcases before.operations operation stored with ⟨middle, middleMem, toMiddle⟩
    rcases after.operations middle middleMem with ⟨updated, updatedMem, toUpdated⟩
    exact ⟨updated, updatedMem, toMiddle.trans toUpdated⟩
  vms vm stored := by
    rcases before.vms vm stored with ⟨middle, middleMem, toMiddle⟩
    rcases after.vms middle middleMem with ⟨row, rowMem, toRow⟩
    exact ⟨row, rowMem, toMiddle.trans toRow⟩

theorem Progress.precedes {world later : World} {label : Event}
    (progress : Progress world label later) : world.db.Precedes later.db where
  operations _ stored := progress.forward stored
  vms _ stored := progress.onward stored

theorem SiteProgress.precedes (progress : SiteProgress state event next) (sound : state.Sound) :
    state.world.db.Precedes next.world.db := by
  rcases progress.world with same | ⟨label, step⟩
  · rw [same]
    exact .refl _
  · exact (step_progress sound.world step).precedes

/-- Along every run of the site the rows only come forward. -/
theorem site_precedes_of_run {history : List SiteEvent} (reachable : site.Reachable state)
    (run : site.Run state history next) : state.world.db.Precedes next.world.db := by
  refine run.relates (motive := fun first second => first.world.db.Precedes second.world.db)
    (fun state => .refl _) (fun before after => before.trans after) ?_ reachable
  intro before label after beforeReachable step
  have sound := site_sound_of_reachable beforeReachable
  exact (site_step_progress sound step).precedes sound

end Runs

end NpdPortal
