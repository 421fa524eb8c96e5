import NpdPortal.Web.Tenants

/-!
# Requests that overlap and requests one after another

In `serial` a request is one transaction, at the moment it is answered.  Every
history of the site is a history of `serial`: under READ COMMITTED, with the
locks and the unique indexes, a request that succeeds has read nothing that was
no longer true when it was answered.
-/

namespace NpdPortal

/-- The steps of a portal whose requests run alone. -/
inductive SerialStep (world : World) : SiteEvent → World → Prop where
  | background (event : Event) (next : World) (step : portal.step world event next) :
      SerialStep world (.background event) next
  | begun (request : WebRequest) : SerialStep world (.begun request) world
  | proceeded (request : WebRequest) : SerialStep world (.proceeded request) world
  | served (request : WebRequest) (reply : WebReply) (context : RequestContext) (db : Database)
      (performed : request.perform world.db context = .ok (db, reply)) :
      SerialStep world (.answered request (.ok reply)) { world with db }
  | raised (request : WebRequest) (error : Error) :
      SerialStep world (.answered request (.error error)) world
  | aborted (request : WebRequest) : SerialStep world (.aborted request) world

/-- The portal with one request at a time. -/
def serial : LabelledSystem World SiteEvent where
  initial := fun world => world = .initial
  step := SerialStep

/-- What the first two statements of a create have found is still so. -/
def Work.Passed (db : Database) (work : Work) : Prop :=
  ∀ call point, work = .create call point →
    (point ≠ .checkingSshKey → checkSshKey db call.userId call.request = .ok ()) ∧
    (point ≠ .checkingSshKey → point ≠ .lockingQuota →
      ∃ quota, db.userQuota? call.userId = some quota)

section Passing

variable {db : Database} {context : RequestContext} {work later : Work}

theorem WebRequest.start_passed (request : WebRequest) (db : Database) :
    request.start.Passed db := by
  rintro call point starts
  cases request with
  | create other =>
      cases starts
      exact ⟨fun notFirst => absurd rfl notFirst, fun notFirst => absurd rfl notFirst⟩
  | enqueue other => cases starts

/-- A statement of a create finds the SSH key and the quota, or they were found before. -/
theorem Work.Passed.next (passed : work.Passed db) (holds : work.Holds db)
    (goes : work.next db context = .proceed later) : later.Passed db := by
  rcases Work.holds_of_next holds goes with ⟨_, sameRequest⟩
  rintro call point rfl
  cases work with
  | enqueue other otherPoint => cases sameRequest
  | create other otherPoint =>
      cases sameRequest
      rcases passed call otherPoint rfl with ⟨sshKey, quota⟩
      cases otherPoint with
      | checkingSshKey =>
          rcases Outcome.orRaise_eq_proceed.mp goes with ⟨_, checked, ends⟩
          cases ends
          exact ⟨fun _ => checked, fun _ notSecond => absurd rfl notSecond⟩
      | lockingQuota =>
          rcases Outcome.orRaise_eq_proceed.mp goes with ⟨row, stored, ends⟩
          cases ends
          exact ⟨fun _ => sshKey (by simp), fun _ _ => ⟨row, found_eq_ok.mp stored⟩⟩
      | _ => exact ⟨fun _ => sshKey (by simp), fun _ _ => quota (by simp) (by simp)⟩

/-- SSH keys and quotas are never removed. -/
theorem Work.Passed.mono (passed : work.Passed db) {world next : World} {event : Event}
    (progress : Progress world event next) (isDb : world.db = db) : work.Passed next.db := by
  subst isDb
  intro call point isCreate
  rcases passed call point isCreate with ⟨sshKey, quota⟩
  refine ⟨fun notFirst => checkSshKey_mono progress.sshPublicKeys (sshKey notFirst),
    fun notFirst notSecond => ?_⟩
  rcases quota notFirst notSecond with ⟨row, stored⟩
  have planStored := world.db.valid.quotaPlans row (Database.userQuota?_eq_some_iff.mp stored).1
  rcases List.mem_map.mp planStored with ⟨plan, planMem, isPlan⟩
  have hasPlan : world.db.planOf call.userId = some plan :=
    Database.planOf_eq_some.mpr ⟨row, stored, Database.computePlan?_eq_some_iff.mpr
      ⟨planMem, isPlan⟩⟩
  rcases progress.planOf hasPlan with ⟨other, otherStored, _⟩
  rcases Database.planOf_eq_some.mp otherStored with ⟨later, laterStored, _⟩
  exact ⟨later, laterStored⟩

end Passing

section Sessions

variable {state next : Site} {event : SiteEvent}

/-- A session was open before, has just begun, or has executed a statement. -/
theorem Site.mem_of_step (sound : state.Sound) (step : site.step state event next)
    {session : Session} (opened : session ∈ next.sessions) :
    session ∈ state.sessions ∨
      (∃ request : WebRequest, event = .begun request ∧ session.work = request.start) ∨
      next.world = state.world ∧ ∃ old context, old ∈ state.sessions ∧
        old.work.next state.world.db context = .proceed session.work := by
  rcases step with ⟨action, step⟩
  cases action with
  | background action =>
      simp only [Site.step?] at step
      split at step
      · cases step
      · split at step
        · split at step <;> cases step
          exact .inl opened
        · cases step
  | begin id request =>
      simp only [Site.step?] at step
      split at step <;> cases step
      rcases List.mem_append.mp opened with old | new
      · exact .inl old
      · rcases List.mem_singleton.mp new with rfl
        exact .inr (.inl ⟨request, rfl, rfl⟩)
  | proceed id context =>
      simp only [Site.step?] at step
      split at step
      · cases step
      · rename_i old found
        rcases (KeyedRows.lookup_eq_some_iff sound.ids).mp found with ⟨oldOpened, rfl⟩
        split at step
        · rename_i work goes
          split at step <;> cases step
          rcases KeyedRows.mem_replace.mp opened with ⟨rfl, _⟩ | ⟨kept, _⟩
          · exact .inr (.inr ⟨rfl, old, context, oldOpened, goes⟩)
          · exact .inl kept
        · cases step
          exact .inl (Site.mem_close.mp opened).1
        · split at step <;> cases step <;> exact .inl (Site.mem_close.mp opened).1
  | abort id =>
      simp only [Site.step?] at step
      split at step <;> cases step
      exact .inl (Site.mem_close.mp opened).1

/-- The statement that ends a request. -/
theorem Site.ends_of_step (sound : state.Sound) {request : WebRequest}
    {result : Except Error WebReply} (step : site.step state (.answered request result) next) :
    ∃ session ∈ state.sessions, ∃ context, session.work.request = request ∧
      (session.work.next state.world.db context = .reply result ∧ next.world = state.world ∨
        ∃ vms operations reply,
          session.work.next state.world.db context = .commit vms operations reply ∧
          ((∃ db, state.world.db.insert vms operations = some db ∧ result = .ok reply ∧
              next.world = { state.world with db }) ∨
            state.world.db.insert vms operations = none ∧ result = .error .integrityError ∧
              next.world = state.world)) := by
  rcases step with ⟨action, step⟩
  cases action with
  | background action =>
      simp only [Site.step?] at step
      split at step
      · cases step
      · split at step
        · split at step <;> cases step
        · cases step
  | begin id request =>
      simp only [Site.step?] at step
      split at step <;> cases step
  | proceed id context =>
      simp only [Site.step?] at step
      split at step
      · cases step
      · rename_i session found
        refine ⟨session, ((KeyedRows.lookup_eq_some_iff sound.ids).mp found).1, context, ?_⟩
        split at step
        · split at step <;> cases step
        · rename_i ends
          cases step
          exact ⟨rfl, .inl ⟨ends, rfl⟩⟩
        · rename_i vms operations reply commits
          split at step
          · rename_i db inserted
            cases step
            exact ⟨rfl, .inr ⟨vms, operations, reply, commits, .inl ⟨db, inserted, rfl, rfl⟩⟩⟩
          · rename_i rejected
            cases step
            exact ⟨rfl, .inr ⟨vms, operations, reply, commits, .inr ⟨rejected, rfl, rfl⟩⟩⟩
  | abort id =>
      simp only [Site.step?] at step
      split at step <;> cases step

/-- The SSH key and the quota of an open create are still there. -/
theorem site_passed_of_reachable (reachable : site.Reachable state) :
    ∀ session ∈ state.sessions, session.work.Passed state.world.db := by
  rcases reachable with ⟨source, history, initial, run⟩
  have execution : site.Execution history state := ⟨source, initial, run⟩
  refine execution.invariant (motive := fun _ state =>
    ∀ session ∈ state.sessions, session.work.Passed state.world.db) ?_ ?_
  · rintro _ rfl session opened
    cases opened
  · intro _ before event after early ih step session opened
    have sound := site_sound_of_reachable early.reachable
    rcases Site.mem_of_step sound step opened with old | ⟨request, _, begins⟩ |
      ⟨same, earlier, context, earlierOpened, goes⟩
    · rcases (site_step_progress sound step).world with same | ⟨label, moves⟩
      · rw [same]
        exact ih session old
      · exact (ih session old).mono (step_progress sound.world moves) rfl
    · rw [begins]
      exact request.start_passed _
    · rw [same]
      exact (ih earlier earlierOpened).next (sound.holds earlier earlierOpened) goes

end Sessions

section Serial

variable {db : Database} {context : RequestContext} {work : Work} {reply : WebReply}
  {state next : Site} {event : SiteEvent}

/-- Reading the VM of an operation needs the columns only that are never written. -/
theorem readExistingVm_congr {operation other : Operation} (same : operation.SameIdentity other)
    (userId : Uuid) (request : VirtualMachineCreate) :
    readExistingVm db other userId request = readExistingVm db operation userId request := by
  simp only [readExistingVm, same.operationType, same.virtualMachineId]

/-- The operation that was read with a key is the one which has it now. -/
theorem Database.Knows.current {idempotencyKey : String} {operation : Operation}
    (knows : db.Knows idempotencyKey operation) :
    ∃ current, db.operationByKey? idempotencyKey = some current ∧
      operation.SameIdentity current := by
  rcases knows with ⟨sameKey, current, currentMem, same⟩
  exact ⟨current, Database.operationByKey?_eq_some_iff.mpr
    ⟨currentMem, same.idempotencyKey.trans sameKey⟩, same⟩

/-- A create that returns an earlier VM would return it as one transaction. -/
theorem CreateCall.performs_of_read {call : CreateCall} {operation : Operation}
    (knows : db.Knows call.idempotencyKey operation)
    (sshKey : checkSshKey db call.userId call.request = .ok ())
    (quota : ∃ quota, db.userQuota? call.userId = some quota)
    (read : WebReply.vm <$> readExistingVm db operation call.userId call.request = .ok reply) :
    (WebRequest.create call).perform db context = .ok (db, reply) := by
  rcases knows.current with ⟨current, keyed, same⟩
  rcases quota with ⟨row, stored⟩
  rcases map_eq_ok.mp read with ⟨vm, readVm, rfl⟩
  have existing : getExistingVmForCreateRequest db call.idempotencyKey call.userId call.request =
      .ok (some vm) := by
    simp [getExistingVmForCreateRequest, keyed, readExistingVm_congr same, readVm]
  simp [WebRequest.perform, createVm, sshKey, stored, existing]

/-- A request that returns the row of an earlier one would return it as one transaction. -/
theorem Work.performs_of_reply (passed : work.Passed db) (holds : work.Holds db)
    (ends : work.next db context = .reply (.ok reply)) :
    work.request.perform db context = .ok (db, reply) := by
  cases work with
  | create call point =>
      rcases passed call point rfl with ⟨sshKey, quota⟩
      cases point with
      | readingExisting _ operation =>
          exact CreateCall.performs_of_read holds (sshKey (by simp)) (quota (by simp) (by simp))
            (Outcome.reply.inj ends)
      | recheckingExisting operation =>
          exact CreateCall.performs_of_read holds (sshKey (by simp)) (quota (by simp) (by simp))
            (Outcome.reply.inj ends)
      | checkingSshKey | lockingQuota | readingPlan _ | readingUsage _ _ | rechecking =>
          rcases Outcome.orRaise_eq_reply.mp ends with ⟨_, _, ends⟩
          cases ends
      | lookingUp quota =>
          simp only [Work.next, CreateCall.next] at ends
          split at ends
          · cases ends
          · rcases Outcome.orRaise_eq_reply.mp ends with ⟨_, _, ends⟩
            cases ends
      | insertingVm _ _ | insertingOperation _ _ _ =>
          simp only [Work.next, CreateCall.next] at ends
          split at ends <;> cases ends
      | committing _ _ _ _ => cases ends
  | enqueue call point =>
      cases point with
      | lockingVm =>
          rcases Outcome.orRaise_eq_reply.mp ends with ⟨_, _, ends⟩
          rcases Outcome.orRaise_eq_reply.mp ends with ⟨_, _, ends⟩
          cases ends
      | lookingUp statuses vm =>
          have locked : call.Locked db statuses vm := holds
          simp only [Work.next, EnqueueCall.next] at ends
          split at ends
          · rename_i existing keyed
            rcases map_eq_ok.mp (Outcome.reply.inj ends) with ⟨operation, checked, rfl⟩
            rw [locked.vm_id] at checked
            simp [Work.request, WebRequest.perform, enqueueVmOperation, locked.allowed, locked.own,
              getExistingOperation, keyed, checked]
          · cases ends
      | checkingActive statuses vm =>
          rcases Outcome.orRaise_eq_reply.mp ends with ⟨_, _, ends⟩
          rcases Outcome.orRaise_eq_reply.mp ends with ⟨_, _, ends⟩
          cases ends
      | inserting statuses vm =>
          simp only [Work.next, EnqueueCall.next] at ends
          split at ends <;> cases ends
      | committing _ _ _ => cases ends
      | rechecking vm =>
          rcases holds with ⟨kind, row, rowMem, isRow, owner⟩
          rcases map_eq_ok.mp (Outcome.reply.inj ends) with ⟨operation, checked, rfl⟩
          have own : ownVm? db call.userId call.vmId = some row := ownVm?_eq_some.mpr
            ⟨Database.virtualMachine?_eq_some_iff.mpr ⟨rowMem, isRow⟩, owner⟩
          have allowed : ∃ statuses, allowedStatuses call.operationType = some statuses := by
            revert kind
            cases call.operationType <;> simp [allowedStatuses]
          rcases allowed with ⟨statuses, allowed⟩
          unfold recheckEnqueue at checked
          split at checked
          · rename_i existing keyed
            simp [Work.request, WebRequest.perform, enqueueVmOperation, allowed, own,
              getExistingOperation, keyed, checked]
          · cases checked

/-- A committed request is one transaction on the rows it is committed to. -/
theorem Commits.performs {after : Database} {committed : Work}
    (commits : Commits db after committed reply) :
    ∃ context, committed.request.perform db context = .ok (after, reply) := by
  cases commits with
  | create call quota plan vm operation created performed =>
      refine ⟨⟨vm.id, operation.id, operation.updatedAt⟩, ?_⟩
      simp only [Work.request, WebRequest.perform, performed]
      rfl
  | enqueue call statuses vm operation enqueued performed =>
      refine ⟨⟨0, operation.id, operation.updatedAt⟩, ?_⟩
      simp only [Work.request, WebRequest.perform, performed]
      rfl

/-- A request that succeeds would have succeeded as one transaction when it was answered. -/
theorem served_of_step (reachable : site.Reachable state) {request : WebRequest}
    (step : site.step state (.answered request (.ok reply)) next) :
    SerialStep state.world (.answered request (.ok reply)) next.world := by
  have sound := site_sound_of_reachable reachable
  rcases Site.ends_of_step sound step with ⟨session, opened, context, rfl, ⟨ends, same⟩ |
    ⟨vms, operations, other, commits, ⟨db, inserted, isReply, same⟩ | ⟨_, raises, _⟩⟩⟩
  · have performed := Work.performs_of_reply (site_passed_of_reachable reachable session opened)
      (sound.holds session opened) ends
    rw [same]
    exact .served _ reply context state.world.db performed
  · cases isReply
    have committed := Work.commits_of_next (sound.holds session opened) commits inserted
    rcases committed.performs with ⟨given, performed⟩
    rw [same]
    exact .served _ reply given db performed
  · cases raises

/-- Every step of the site is one of `serial` with the same label. -/
theorem serialStep_of_step (reachable : site.Reachable state)
    (step : site.step state event next) : SerialStep state.world event next.world := by
  have sound := site_sound_of_reachable reachable
  cases site_step_progress sound step with
  | background event world moves notWeb permits => exact .background event world moves
  | begun id request fresh => exact .begun request
  | proceeded session work opened holds sameRequest available => exact .proceeded _
  | raised session error opened => exact .raised _ error
  | aborted session opened => exact .aborted _
  | returned session reply opened answers => exact served_of_step reachable step
  | committed session reply db opened holds commits => exact served_of_step reachable step

/-- The site is strictly serializable: its history, answers included, is one of requests that run
one at a time, each at a moment between its beginning and its answer, and it leads to the same
database. -/
theorem site_serializable {history : List SiteEvent} (execution : site.Execution history state) :
    serial.Execution history state.world := by
  refine execution.simulated ?_ serialStep_of_step
  rintro _ rfl
  rfl

/-- The race for a key, one request at a time. -/
theorem sampleRace_serial :
    let ran := Site.initial.perform sampleRace
    serial.Execution ran.1 ran.2.world ∧ (ran.1.filterMap SiteEvent.served?).length = 2 :=
  ⟨site_serializable (Site.perform_execution sampleRace), by decide +kernel⟩

end Serial

end NpdPortal
