import NpdPortal.Runs.Submission

/-!
# Outcomes that are stored late

A worker may be delayed between its call and the transaction that stores the
outcome.  The transactions of a create and of a start compare the marker with
the stage of the call; the shared lifecycle transaction does not, so the
outcome of the shutdown of a reboot is accepted at the dispatch of its start.
`Misdirected` is this case; in every other one a late outcome is refused.
-/

namespace NpdPortal

/-- The row waits for the outcome of this stage. -/
structure Operation.Awaits (operation : Operation) (stage : Stage) : Prop where
  status : operation.status = .processing
  phase : operation.phase = some stage.dispatchPhase ∨ operation.phase = some stage.reconcilePhase
  task : operation.providerTaskId = none

/-- A step that stores an outcome changes the rows only while the operation waits for the
stage of the call. -/
def RespectsStage (world : World) (event : Event) (next : World) : Prop :=
  ∀ dispatch outcome committed, event = .stored dispatch outcome committed →
    next.db ≠ world.db →
    ∃ operation stage, world.db.operation? dispatch.operationId = some operation ∧
      dispatch.stage operation.operationType = some stage ∧ operation.Awaits stage

/-- The outcome would be stored for a lifecycle stage of a VM with this row. -/
def AcceptedFor (vm : VirtualMachine) : Except Error ProviderResult → Prop
  | .error _ => True
  | .ok (.task none) => True
  | .ok (.task (some task)) =>
      vm.providerNode = some task.node ∧ vm.providerVmid = some task.vmid
  | .ok _ => False

/-- The outcome of the shutdown of a reboot which has reached the dispatch of its start. -/
structure Misdirected (db : Database) (dispatch : Dispatch)
    (outcome : Except Error ProviderResult) : Prop where
  sent : dispatch.stage .vmReboot = some .rebootShutdown
  row : ∃ operation vm, db.operation? dispatch.operationId = some operation ∧
    operation.operationType = .vmReboot ∧ operation.phase = some Stage.rebootStart.dispatchPhase ∧
    db.virtualMachine? operation.virtualMachineId = some vm ∧ AcceptedFor vm outcome
  fits : (Evidence.outcome outcome).Fits

/-! ## Markers of the commands under way -/

/-- Every stage that is under way has been marked. -/
def FlightsMarked (world : World) : Prop :=
  ∀ flight ∈ world.inFlight, ∀ operation ∈ world.db.operations, ∀ stage,
    flight.dispatch.For stage operation → ∀ position : Position, position.Matches operation →
      stage.index < position.marked

section Marks

variable {history : List Event} {world next : World} {event : Event}

theorem Dispatch.For.before_sameIdentity {dispatch : Dispatch} {stage : Stage}
    {operation updated : Operation} (isFor : dispatch.For stage updated)
    (same : operation.SameIdentity updated) : dispatch.For stage operation := by
  rcases isFor.made with ⟨before, request, target, made, sameId⟩
  exact ⟨same.operationType.symm.trans isFor.kind, before, request, target, made,
    sameId.trans same.id⟩

theorem Progress.flightsMarked (progress : Progress world event next) (sound : world.Sound)
    (marked : FlightsMarked world) : FlightsMarked next := by
  have keeps : ∀ flight ∈ world.inFlight, ∀ operation ∈ next.db.operations, ∀ stage,
      flight.dispatch.For stage operation → ∀ position : Position, position.Matches operation →
        stage.index < position.marked := by
    intro flight flightMem operation stored stage isFor position atPosition
    rcases progress.origin sound stored atPosition with
      ⟨old, oldMem, earlier, atEarlier, same, le⟩ | fresh
    · exact (marked flight flightMem old oldMem stage (isFor.before_sameIdentity same) earlier
        atEarlier).trans_le le
    · rcases sound.flights flight flightMem with ⟨known, knownMem, _, isKnown⟩
      exact absurd (isKnown.operationId.symm.trans isFor.operationId) (fresh known knownMem)
  intro flight flightMem
  cases progress with
  | marked db operation updated vm stage request target moved =>
      rcases List.mem_append.mp flightMem with old | new
      · exact keeps flight old
      · rcases List.mem_singleton.mp new with rfl
        intro other otherMem otherStage isFor position atPosition
        have isMarked : (stage.dispatch operation request target).For stage updated :=
          ⟨moved.atReached.operationType, operation, request, target, rfl, moved.identity.id.symm⟩
        obtain rfl : other = updated := KeyedRows.eq_of_key_eq db.valid.operationIds otherMem
          (Database.operation?_eq_some_iff.mp moved.stored_updated).1
          (isFor.operationId.symm.trans isMarked.operationId)
        rcases isFor.stage_unique isMarked with rfl
        rcases atPosition.unique moved.atReached with rfl
        exact Nat.lt_succ_self _
  | submitted index dispatch provider submitting =>
      rcases List.mem_or_eq_of_mem_set flightMem with old | rfl
      · exact keeps flight old
      · exact keeps (.submitting dispatch) (List.mem_of_getElem? submitting)
  | stored => exact keeps flight (List.mem_of_mem_eraseIdx flightMem)
  | refused => exact keeps flight (List.mem_of_mem_eraseIdx flightMem)
  | lost => exact keeps flight (List.mem_of_mem_eraseIdx flightMem)
  | _ => exact keeps flight flightMem

theorem flightsMarked_of_reachable (reachable : portal.Reachable world) : FlightsMarked world := by
  rcases reachable with ⟨source, history, initial, run⟩
  have execution : portal.Execution history world := ⟨source, initial, run⟩
  refine execution.invariant (motive := fun _ world => FlightsMarked world) ?_ ?_
  · rintro state rfl flight flightMem
    exact absurd flightMem List.not_mem_nil
  · intro earlier state event later before marked step
    have sound := sound_of_reachable before.reachable
    exact (step_progress sound step).flightsMarked sound marked

/-- A move marks the stage it waits for, or no stage. -/
theorem Advance.marked_source {evidence : Evidence} {position reached : Position}
    {change : VmChange} (advance : Advance evidence position reached change) :
    reached.marked = position.marked ∨
      ∃ stage, evidence = .marked ∧ position = .pending stage ∧ reached = .dispatching stage := by
  have after : ∀ stage : Stage, stage.after.marked = stage.index + 1 := by decide
  cases advance with
  | mark stage => exact .inr ⟨stage, rfl, rfl, rfl⟩
  | pollSucceeded stage => exact .inl (after stage)
  | confirmed stage position state awaits =>
      rcases awaits with rfl | rfl <;> exact .inl (after stage)
  | storeDone stage => exact .inl (after stage)
  | unconfirmed stage position state awaits => rcases awaits with rfl | rfl <;> exact .inl rfl
  | readRaised stage position error awaits => rcases awaits with rfl | rfl <;> exact .inl rfl
  | review stage position awaits => rcases awaits with rfl | rfl <;> exact .inl rfl
  | storeTask stage position result task _ waiting =>
      rcases waiting with rfl | ⟨rfl, _⟩ <;> exact .inl rfl
  | _ => exact .inl rfl

/-- The stages of one type are told apart by their place. -/
theorem Stage.eq_of_index : ∀ first second : Stage, first.operationType = second.operationType →
    first.index = second.index → first = second := by
  decide

/-- The markers of the stages an operation has reached were stored. -/
theorem markerStored_of_execution (execution : portal.Execution history world) :
    ∀ operation ∈ world.db.operations, ∀ position : Position, position.Matches operation →
      ∀ stage, stage.operationType = operation.operationType → stage.index < position.marked →
        MarkerStored history operation.id stage := by
  refine execution.invariant (motive := fun history world =>
    ∀ operation ∈ world.db.operations, ∀ position : Position, position.Matches operation →
      ∀ stage, stage.operationType = operation.operationType → stage.index < position.marked →
        MarkerStored history operation.id stage) ?_ ?_
  · rintro state rfl operation operationMem
    exact absurd operationMem List.not_mem_nil
  · intro earlier state event later before stored step updated updatedMem reached atReached stage
      kind isMarked
    have progress := step_progress (sound_of_reachable before.reachable) step
    rcases progress.row_after updatedMem with old | ⟨evidence, operation, vm, position, other,
      change, moved, given⟩ | ⟨first, isFirst, atFirst⟩
    · exact (stored updated old reached atReached stage kind isMarked).mono
    · rcases moved.atReached.unique atReached with rfl
      have fromOld : stage.index < position.marked →
          MarkerStored (earlier ++ [event]) updated.id stage := by
        intro wasMarked
        rw [moved.identity.id]
        exact (stored operation moved.stored position moved.atPosition stage
          (kind.trans moved.sameType) wasMarked).mono
      rcases moved.advance.marked_source with same | ⟨current, rfl, rfl, rfl⟩
      · exact fromOld (same ▸ isMarked)
      · simp only [Position.marked] at isMarked fromOld
        by_cases isOld : stage.index < current.index
        · exact fromOld isOld
        · have isCurrent : stage = current :=
            Stage.eq_of_index stage current (kind.trans moved.atReached.operationType) (by omega)
          subst isCurrent
          rcases given with ⟨exchanges, rfl, shows⟩
          cases shows
          exact ⟨operation, updated, by simp, rfl, moved.atReached.status,
            moved.atReached.phase_of_dispatching, moved.atReached.providerTaskId_eq_none rfl⟩
    · rcases atFirst.unique atReached with rfl
      simp [Position.marked, isFirst] at isMarked

end Marks

/-! ## When an outcome is stored -/

section Stores

variable {world next : World}

/-- A result that is accepted finds its stage, or a stage it is not told from. -/
theorem Position.replied_awaits {position : Position} {dispatched : Stage} {stamp : Time}
    {operation : Operation} {vm : VirtualMachine} {target : ProviderPlacement}
    {result : ProviderResult} {changes : Changes}
    (placed : vm.providerNode = some target.node ∧ vm.providerVmid = some target.vmid)
    (accepted : position.replied dispatched stamp operation vm target result = some changes) :
    ∃ current, position.Awaits current ∧ dispatched.Shares current ∧
      (current.operationType = .vmReboot → position = .dispatching current ∧
        AcceptedFor vm (.ok result)) := by
  cases position with
  | dispatching current =>
      simp only [Position.replied] at accepted
      split at accepted
      · rename_i shares
        refine ⟨current, .inl rfl, shares, fun reboot => ⟨rfl, ?_⟩⟩
        rcases Option.bind_eq_some_iff.mp accepted with ⟨reply, replies, accepted⟩
        cases current <;> simp only [Stage.operationType, reduceCtorEq] at reboot <;>
          rcases result with _ | (_ | task) | _ <;>
          simp only [Stage.reply, Option.some.injEq, reduceCtorEq] at replies <;> subst replies <;>
          first
          | exact trivial
          | (simp only [Stage.replied] at accepted
             split at accepted
             · rename_i addressed
               exact ⟨placed.1.trans (congrArg some addressed.1.symm),
                 placed.2.trans (congrArg some addressed.2.symm)⟩
             · cases accepted)
      · cases accepted
  | reconciling current =>
      simp only [Position.replied] at accepted
      split at accepted
      · rename_i late
        refine ⟨current, .inr rfl, late.1, fun reboot => ?_⟩
        have notLate : ¬current.AcceptsLateTask := by
          cases current <;> simp_all [Stage.AcceptsLateTask, Stage.operationType]
        exact absurd late.2 notLate
      · cases accepted
  | _ => cases accepted

theorem Position.raised_awaits {position : Position} {dispatched : Stage} {stamp : Time}
    {operation : Operation} {changes : Changes}
    (accepted : position.raised dispatched stamp operation = some changes) :
    ∃ current, position = .dispatching current ∧ dispatched.Shares current := by
  cases position with
  | dispatching current =>
      simp only [Position.raised] at accepted
      split at accepted
      · exact ⟨current, rfl, ‹_›⟩
      · cases accepted
  | _ => cases accepted

theorem Position.Awaits.row {position : Position} {stage : Stage} {operation : Operation}
    (awaits : position.Awaits stage) (atPosition : position.Matches operation) :
    operation.Awaits stage := by
  rcases atPosition.of_awaits awaits with ⟨_, processing, noTask⟩
  exact ⟨processing, atPosition.phase_of_awaits awaits, noTask⟩

/-- The storing transaction a step consists of. -/
theorem exists_store_of_step {dispatch : Dispatch} {outcome : Except Error ProviderResult}
    {committed : Bool} (step : portal.step world (.stored dispatch outcome committed) next) :
    ∃ stamp dbNow, Flight.storing dispatch outcome ∈ world.inFlight ∧
      (World.storeDatabase world.db dispatch outcome stamp dbNow).getD world.db = next.db := by
  rcases step with ⟨action, step⟩
  cases action with
  | store index stamp dbNow =>
      simp only [World.step?] at step
      split at step
      · rename_i storing
        split at step <;> cases step
        · rename_i db committedTo
          exact ⟨stamp, dbNow, List.mem_of_getElem? storing, by rw [committedTo]; rfl⟩
        · rename_i refused
          exact ⟨stamp, dbNow, List.mem_of_getElem? storing, by rw [refused]; rfl⟩
      · cases step
  | select now locked operationId provider stamp dbNow =>
      simp only [World.step?] at step
      split at step
      · cases step
      · rename_i operation _
        split at step
        · rcases world.selectStep_label operation provider stamp dbNow with
            ⟨exchanges, committed, label⟩
          rw [Option.some.inj step] at label
          cases label
        · cases step
  | createVm => simp [World.step?] at step
  | enqueue => simp [World.step?] at step
  | administer administration =>
      simp only [World.step?] at step
      split at step
      · cases step
      · split at step <;> cases step
  | submit index provider =>
      simp only [World.step?] at step
      split at step <;> cases step
  | lose index =>
      simp only [World.step?] at step
      split at step <;> cases step

/-- What a stored outcome finds. -/
theorem awaits_of_stored {db : Database} {before operation : Operation} {dispatched : Stage}
    {request : Option CreateVmRequest} {sentTo : ProviderPlacement} {position : Position}
    {vm : VirtualMachine} {stamp : Time} {outcome : Except Error ProviderResult}
    {changes : Changes} (found : db.operation? before.id = some operation)
    (atPosition : position.Matches operation)
    (ready : ¬position.Terminal → Ready db operation vm position)
    (kind : operation.operationType = dispatched.operationType)
    (accepted : storeOutcome stamp db (dispatched.dispatch before request sentTo) outcome =
      .ok changes) :
    ∃ current, position.Awaits current ∧ dispatched.Shares current ∧
      (current.operationType = .vmReboot → position = .dispatching current ∧
        AcceptedFor vm outcome) := by
  have computed : (storeOutcome stamp db (dispatched.dispatch before request sentTo)
      outcome).toOption = some changes := by
    rw [accepted]
    rfl
  cases outcome with
  | error error =>
      rcases Position.raised_awaits
        ((storeUnknown_eq stamp found atPosition kind).symm.trans computed) with
        ⟨current, rfl, shares⟩
      exact ⟨current, .inl rfl, shares, fun _ => ⟨rfl, trivial⟩⟩
  | ok result =>
      by_cases waits : ∃ current, position.Awaits current
      · rcases waits with ⟨current, awaits⟩
        rcases (ready (by rcases awaits with rfl | rfl <;> exact id)).placed_of_ne
            (by rcases awaits with rfl | rfl <;> simp) with ⟨target, isPlaced⟩
        exact Position.replied_awaits ⟨isPlaced.node, isPlaced.vmid⟩
          ((storeOutcome_eq stamp (.ok result) found isPlaced atPosition kind).symm.trans computed)
      · have refused : (storeOutcome stamp db (dispatched.dispatch before request sentTo)
            (.ok result)).toOption = none :=
          storeResult_of_not_awaiting stamp result found atPosition kind (not_exists.mp waits)
        exact absurd (refused.symm.trans computed) (by simp)

/-- The outcome of the shutdown is accepted at the dispatch of the start. -/
theorem storeOutcome_misdirected {db : Database} {before operation : Operation}
    {target : ProviderPlacement} {vm : VirtualMachine} (request : Option CreateVmRequest)
    (sentTo : ProviderPlacement) (stamp : Time) {outcome : Except Error ProviderResult}
    (found : db.operation? before.id = some operation)
    (placed : Placed db operation vm target)
    (atStart : (Position.dispatching .rebootStart).Matches operation)
    (accepted : AcceptedFor vm outcome) :
    ∃ changes, storeOutcome stamp db (Stage.rebootShutdown.dispatch before request sentTo)
      outcome = .ok changes := by
  have shares : Stage.rebootShutdown.Shares .rebootStart := .inr ⟨rfl, rfl⟩
  have computed : (storeOutcome stamp db (Stage.rebootShutdown.dispatch before request sentTo)
      outcome).toOption = _ :=
    storeOutcome_eq stamp outcome found placed atStart atStart.operationType
  have isSome : ∃ changes, (storeOutcome stamp db
      (Stage.rebootShutdown.dispatch before request sentTo) outcome).toOption = some changes := by
    rw [computed]
    rcases outcome with error | _ | (_ | task) | _
    · simp [Position.raised, shares]
    · exact accepted.elim
    · simp [Position.replied, shares, Stage.reply, Stage.replied]
    · have addressed : task.node = target.node ∧ task.vmid = target.vmid :=
        ⟨Option.some.inj (accepted.1.symm.trans placed.node),
          Option.some.inj (accepted.2.symm.trans placed.vmid)⟩
      simp [Position.replied, shares, Stage.reply, Stage.replied, addressed]
    · exact accepted.elim
  rcases isSome with ⟨changes, same⟩
  cases stored : storeOutcome stamp db
      (Stage.rebootShutdown.dispatch before request sentTo) outcome with
  | error error => simp [stored, Except.toOption] at same
  | ok other => exact ⟨other, rfl⟩

/-- A stored outcome moves the operation away from its position. -/
theorem Advance.outcome_ne {outcome : Except Error ProviderResult} {position reached : Position}
    {change : VmChange} (advance : Advance (.outcome outcome) position reached change) :
    reached ≠ position := by
  cases advance with
  | storeTask stage position result task _ waiting =>
      rcases waiting with rfl | ⟨rfl, _⟩ <;> simp
  | storeDone stage result done => cases stage <;> simp [Stage.after, Stage.next]
  | storeInProgress stage result inProgress => simp
  | storeUnknown stage error => simp

theorem Moved.outcome_db_ne {db next : Database} {outcome : Except Error ProviderResult}
    {operation updated : Operation} {vm : VirtualMachine} {position reached : Position}
    {change : VmChange}
    (moved : Moved db next (.outcome outcome) operation updated vm position reached change) :
    next ≠ db := by
  rintro rfl
  have found : next.operation? operation.id = some operation :=
    Database.operation?_eq_some_iff.mpr ⟨moved.stored, rfl⟩
  rcases Option.some.inj (found.symm.trans moved.stored_updated) with rfl
  exact moved.advance.outcome_ne (moved.atReached.unique moved.atPosition)

/-- A stored outcome changes the rows of its own stage, unless it is misdirected. -/
theorem respectsStage_iff {dispatch : Dispatch} {outcome : Except Error ProviderResult}
    {committed : Bool} (reachable : portal.Reachable world)
    (step : portal.step world (.stored dispatch outcome committed) next) :
    RespectsStage world (.stored dispatch outcome committed) next ↔
      ¬Misdirected world.db dispatch outcome := by
  have sound := sound_of_reachable reachable
  rcases exists_store_of_step step with ⟨stamp, dbNow, storing, result⟩
  rcases sound.flights _ storing with ⟨operation, stored, stage, isFor⟩
  simp only [Flight.dispatch] at isFor
  rcases sound.db.ready stored with ⟨position, vm, atPosition, vmMem, vmId, prepared⟩
  have marked := flightsMarked_of_reachable reachable _ storing operation stored stage isFor
    position atPosition
  have stageEq := isFor.stage_eq
  rcases isFor.made with ⟨before, request, sentTo, rfl, sameId⟩
  have found : world.db.operation? before.id = some operation :=
    Database.operation?_eq_some_iff.mpr ⟨stored, sameId.symm⟩
  have foundDispatch : world.db.operation?
      (stage.dispatch before request sentTo).operationId = some operation := by
    rwa [Stage.dispatch_operationId]
  constructor
  · rintro respects ⟨sent, row, fits⟩
    rcases row with ⟨other, otherVm, otherFound, reboot, phase, vmFound, accepted⟩
    rcases Option.some.inj (foundDispatch.symm.trans otherFound) with rfl
    rw [reboot] at stageEq
    rcases Option.some.inj (stageEq.symm.trans sent) with rfl
    rcases Position.eq_dispatching (phase ▸ atPosition.phase) with rfl
    rcases prepared id with ⟨ready, status⟩
    rcases Option.some.inj (ready.vmStored.symm.trans vmFound) with rfl
    rcases ready.placed_of_ne (by simp) with ⟨target, placed⟩
    rcases storeOutcome_misdirected request sentTo stamp found placed
      atPosition accepted with ⟨changes, storedChanges⟩
    rcases storeOutcome_refines found atPosition (fun _ => ready)
      isFor.kind storedChanges with ⟨reached, refines⟩
    rcases refines.exists_flush dbNow stored vmMem (by simp) fits with ⟨db, flushed⟩
    rcases moved_of_flush stored ready status atPosition refines
      (fun marked => by cases marked) flushed with ⟨change, moved⟩
    have written : db = next.db := by
      simpa [World.storeDatabase, foundDispatch, storedChanges, flushed] using result
    subst written
    rcases respects _ _ _ rfl moved.outcome_db_ne with ⟨row, waiting, rowFound, waits, awaits⟩
    rcases Option.some.inj (foundDispatch.symm.trans rowFound) with rfl
    rcases Option.some.inj (stageEq.symm.trans (reboot ▸ waits)) with rfl
    rcases awaits.phase with other | other <;>
      exact absurd (phase.symm.trans other) (by decide)
  · rintro directed _ _ _ same changed
    cases same
    have isSome : ∃ db, World.storeDatabase world.db (stage.dispatch before request sentTo)
        outcome stamp dbNow = some db := by
      cases computed : World.storeDatabase world.db (stage.dispatch before request sentTo)
          outcome stamp dbNow with
      | none => exact absurd (by simpa [computed] using result.symm) changed
      | some db => exact ⟨db, rfl⟩
    rcases isSome with ⟨db, computed⟩
    unfold World.storeDatabase at computed
    split at computed
    · rename_i other changes otherFound accepted
      rcases awaits_of_stored found atPosition
        (fun running => (prepared running).1) isFor.kind accepted with
        ⟨current, awaits, shares, reboot⟩
      rcases shares with rfl | ⟨sentReboot, currentReboot⟩
      · exact ⟨operation, stage, foundDispatch, stageEq, awaits.row atPosition⟩
      · rcases reboot currentReboot with ⟨rfl, isAccepted⟩
        rcases prepared id with ⟨ready, _⟩
        cases stage <;> cases current <;>
          simp only [Stage.operationType, reduceCtorEq] at sentReboot currentReboot
        · exact ⟨operation, _, foundDispatch, stageEq, awaits.row atPosition⟩
        · rcases Option.some.inj (foundDispatch.symm.trans otherFound) with rfl
          rcases storeOutcome_refines found atPosition (fun running => (prepared running).1)
            isFor.kind accepted with ⟨reached, refines⟩
          have fits := refines.evidence_fits (by simp)
            (operation_fits_of_flush stored refines.identity computed)
          exact absurd ⟨rfl, ⟨operation, vm, foundDispatch, isFor.kind,
            atPosition.phase_of_dispatching, ready.vmStored, isAccepted⟩, fits⟩ directed
        · simp [Stage.index, Position.marked] at marked
        · exact ⟨operation, _, foundDispatch, stageEq, awaits.row atPosition⟩
    · cases computed

end Stores

/-! ## Runs without a misdirected outcome -/

/-- The call for this stage of the operation has returned the task. -/
def TaskOf (history : List Event) (operation : Operation) (stage : Stage) (taskId : String) :
    Prop :=
  ∃ dispatch exchanges result task, .submitted dispatch exchanges (.ok result) ∈ history ∧
    dispatch.operationId = operation.id ∧
    dispatch.stage operation.operationType = some stage ∧
    stage.reply result = some (.task task) ∧ task.taskId = taskId

/-- The step learned that this stage of the operation is complete: from the power state, from
the task of the stage, or from the result of the call for the stage. -/
def Event.Completes (history : List Event) (operation : Operation) (stage : Stage) :
    Event → Prop
  | .selected _ exchanges _ =>
      (∃ vmId node vmid state, ⟨.getVmPowerState vmId node vmid, .ok state⟩ ∈ exchanges ∧
        stage.Confirms state) ∨
      ∃ task status, ⟨.getTaskStatus task, .ok status⟩ ∈ exchanges ∧
        status.status = .succeeded ∧ TaskOf history operation stage task.taskId
  | .stored dispatch (.ok result) true => dispatch.operationId = operation.id ∧
      dispatch.stage operation.operationType = some stage ∧ stage.reply result = some .done
  | _ => False

/-- A step by which a reboot succeeds has learned that its start is complete. -/
def RebootsByStart (history : List Event) (world : World) (event : Event) (next : World) : Prop :=
  ∀ operation ∈ world.db.operations, operation.operationType = .vmReboot →
    operation.status ≠ .succeeded → ∀ updated ∈ next.db.operation? operation.id,
      updated.status = .succeeded → event.Completes history operation .rebootStart

/-- Every stored task was returned by the call for the stage it is stored for. -/
def TasksOfStages (history : List Event) (world : World) : Prop :=
  ∀ operation ∈ world.db.operations, ∀ position : Position, position.Matches operation →
    ∀ stage, (∃ backoff, position = .polling stage backoff) ∨ position = .failed stage →
      ∃ taskId, operation.providerTaskId = some taskId ∧ TaskOf history operation stage taskId

/-- In this run an outcome is applied to its own stage only. -/
structure StagesRespected (history : List Event) (world : World) : Prop where
  stored : portal.Along history world fun _ before event after =>
    RespectsStage before event after
  tasks : TasksOfStages history world
  reboots : portal.Along history world RebootsByStart

/-- No step of this run stores a misdirected outcome. -/
def NoneMisdirected (history : List Event) (world : World) : Prop :=
  portal.Along history world fun _ before event _ => ∀ dispatch outcome committed,
    event = .stored dispatch outcome committed → ¬Misdirected before.db dispatch outcome

section Runs

variable {history : List Event} {world next : World} {event : Event}

theorem TaskOf.mono {operation : Operation} {stage : Stage} {taskId : String}
    (taskOf : TaskOf history operation stage taskId) :
    TaskOf (history ++ [event]) operation stage taskId := by
  rcases taskOf with ⟨dispatch, exchanges, result, task, submitted, facts⟩
  exact ⟨dispatch, exchanges, result, task, List.mem_append_left _ submitted, facts⟩

theorem TaskOf.of_sameIdentity {operation updated : Operation} {stage : Stage} {taskId : String}
    (taskOf : TaskOf history operation stage taskId) (same : operation.SameIdentity updated) :
    TaskOf history updated stage taskId := by
  rcases taskOf with ⟨dispatch, exchanges, result, task, submitted, id, kind, replies, sameTask⟩
  exact ⟨dispatch, exchanges, result, task, submitted, id.trans same.id.symm,
    same.operationType ▸ kind, replies, sameTask⟩

/-- Every outcome that is carried to a storing transaction was returned by its call. -/
def OutcomesReturned (history : List Event) (world : World) : Prop :=
  ∀ dispatch outcome, .storing dispatch outcome ∈ world.inFlight →
    ∃ exchanges, .submitted dispatch exchanges outcome ∈ history

theorem Progress.outcomesReturned (progress : Progress world event next)
    (returned : OutcomesReturned history world) :
    OutcomesReturned (history ++ [event]) next := by
  have keeps : ∀ dispatch outcome, Flight.storing dispatch outcome ∈ world.inFlight →
      ∃ exchanges, .submitted dispatch exchanges outcome ∈ history ++ [event] := by
    intro dispatch outcome storing
    rcases returned dispatch outcome storing with ⟨exchanges, submitted⟩
    exact ⟨exchanges, List.mem_append_left _ submitted⟩
  intro dispatch outcome storing
  cases progress with
  | marked db operation updated vm stage request target moved =>
      rcases List.mem_append.mp storing with old | new
      · exact keeps dispatch outcome old
      · cases List.mem_singleton.mp new
  | submitted index sent provider submitting =>
      rcases List.mem_or_eq_of_mem_set storing with old | same
      · exact keeps dispatch outcome old
      · cases same
        exact ⟨_, List.mem_append_right _ (List.mem_singleton_self _)⟩
  | stored => exact keeps dispatch outcome (List.mem_of_mem_eraseIdx storing)
  | refused => exact keeps dispatch outcome (List.mem_of_mem_eraseIdx storing)
  | lost => exact keeps dispatch outcome (List.mem_of_mem_eraseIdx storing)
  | _ => exact keeps dispatch outcome storing

theorem outcomesReturned_of_execution (execution : portal.Execution history world) :
    OutcomesReturned history world := by
  refine execution.invariant ?_ ?_
  · rintro state rfl dispatch outcome storing
    exact absurd storing List.not_mem_nil
  · intro earlier state event later before returned step
    exact (step_progress (sound_of_reachable before.reachable) step).outcomesReturned returned

/-- The stage whose marker a row stores is that of its position. -/
theorem Operation.Awaits.position {operation : Operation} {stage : Stage} {position : Position}
    (awaits : operation.Awaits stage) (atPosition : position.Matches operation) :
    position.Awaits stage := by
  have stores := atPosition.phase
  rcases awaits.phase with phase | phase <;> rw [phase] at stores
  · exact .inl (Position.eq_dispatching stores)
  · exact .inr (Position.eq_reconciling stores)

theorem Position.Awaits.unique {position : Position} {first second : Stage}
    (isFirst : position.Awaits first) (isSecond : position.Awaits second) : first = second := by
  rcases isFirst with rfl | rfl <;> rcases isSecond with same | same <;> cases same <;> rfl

/-- A stored outcome that respects its stage was returned by the call for the stage whose
position it finds. -/
theorem Moved.stage_of_respects {dispatch : Dispatch} {outcome : Except Error ProviderResult}
    {operation updated : Operation} {vm : VirtualMachine} {position reached : Position}
    {change : VmChange} {stage : Stage}
    (moved : Moved world.db next.db (.outcome outcome) operation updated vm position reached
      change)
    (same : dispatch.operationId = operation.id) (awaits : position.Awaits stage)
    (respects : RespectsStage world (.stored dispatch outcome true) next) :
    dispatch.stage operation.operationType = some stage := by
  rcases respects dispatch outcome true rfl moved.outcome_db_ne with
    ⟨row, waiting, rowFound, waits, rowAwaits⟩
  have found : world.db.operation? dispatch.operationId = some operation :=
    Database.operation?_eq_some_iff.mpr ⟨moved.stored, same.symm⟩
  rcases Option.some.inj (found.symm.trans rowFound) with rfl
  rw [waits, (rowAwaits.position moved.atPosition).unique awaits]

theorem Progress.storing {dispatch : Dispatch} {outcome : Except Error ProviderResult}
    {committed : Bool} (progress : Progress world (.stored dispatch outcome committed) next) :
    .storing dispatch outcome ∈ world.inFlight := by
  cases progress with
  | stored _ _ _ _ _ _ _ _ _ _ storing => exact List.mem_of_getElem? storing
  | refused _ _ _ storing => exact List.mem_of_getElem? storing

/-- A task is stored by the outcome of the call, and kept by every other move. -/
theorem Advance.task_source {evidence : Evidence} {position reached : Position}
    {change : VmChange} {stage : Stage} (advance : Advance evidence position reached change)
    (hasTask : (∃ backoff, reached = .polling stage backoff) ∨ reached = .failed stage) :
    ((∃ backoff, position = .polling stage backoff) ∧
      ∀ operation, evidence.task stage operation = operation.providerTaskId) ∨
    ∃ result task, evidence = .outcome (.ok result) ∧ position.Awaits stage ∧
      stage.reply result = some (.task task) := by
  have after : ∀ first : Stage,
      ¬((∃ backoff, first.after = .polling stage backoff) ∨ first.after = .failed stage) := by
    intro first
    cases first <;> simp [Stage.after, Stage.next]
  cases advance with
  | pollRunning first backoff status _ =>
      rcases hasTask with ⟨_, same⟩ | same <;> cases same
      exact .inl ⟨⟨backoff, rfl⟩, fun _ => rfl⟩
  | pollFailed first backoff status _ =>
      rcases hasTask with ⟨_, same⟩ | same <;> cases same
      exact .inl ⟨⟨backoff, rfl⟩, fun _ => rfl⟩
  | pollRaised first backoff error =>
      rcases hasTask with ⟨_, same⟩ | same <;> cases same
      exact .inl ⟨⟨backoff, rfl⟩, fun _ => rfl⟩
  | storeTask first position result task carries waiting =>
      rcases hasTask with ⟨_, same⟩ | same <;> cases same
      exact .inr ⟨result, task, rfl, waiting.imp id And.left, carries⟩
  | pollSucceeded first => exact absurd hasTask (after first)
  | confirmed first => exact absurd hasTask (after first)
  | storeDone first => exact absurd hasTask (after first)
  | _ => rcases hasTask with ⟨_, same⟩ | same <;> cases same

/-- A row that has a task got it from the call for its stage, when that is so before the step and
the outcome stored for it respects the stage. -/
theorem Progress.taskOf (progress : Progress world event next)
    (returned : OutcomesReturned history world) {updated : Operation}
    (updatedMem : updated ∈ next.db.operations) {reached : Position}
    (atReached : reached.Matches updated) {stage : Stage}
    (hasTask : (∃ backoff, reached = .polling stage backoff) ∨ reached = .failed stage)
    (before : ∀ operation ∈ world.db.operations, operation.SameIdentity updated →
      ∀ position : Position, position.Matches operation →
      (∃ backoff, position = .polling stage backoff) ∨ position = .failed stage →
      ∃ taskId, operation.providerTaskId = some taskId ∧ TaskOf history operation stage taskId)
    (respects : ∀ dispatch outcome, event = .stored dispatch outcome true →
      dispatch.operationId = updated.id → RespectsStage world event next) :
    ∃ taskId, updated.providerTaskId = some taskId ∧
      TaskOf (history ++ [event]) updated stage taskId := by
  rcases progress.row_after updatedMem with stored | ⟨evidence, operation, vm, position, other,
    change, moved, given⟩ | ⟨first, _, atFirst⟩
  · rcases before updated stored (.refl updated) reached atReached hasTask with
      ⟨taskId, storedTask, taskOf⟩
    exact ⟨taskId, storedTask, taskOf.mono⟩
  · rcases moved.atReached.unique atReached with rfl
    rw [moved.task stage hasTask]
    rcases moved.advance.task_source hasTask with ⟨polling, keeps⟩ |
      ⟨result, task, rfl, awaits, carries⟩
    · rcases before operation moved.stored moved.identity position moved.atPosition (.inl polling)
        with ⟨taskId, storedTask, taskOf⟩
      exact ⟨taskId, (keeps operation).trans storedTask,
        (taskOf.of_sameIdentity moved.identity).mono⟩
    · rcases given with ⟨dispatch, rfl, same⟩
      rcases returned dispatch _ progress.storing with ⟨exchanges, submitted⟩
      have kind := moved.stage_of_respects same awaits
        (respects dispatch _ rfl (same.trans moved.identity.id.symm))
      refine ⟨task.taskId, by simp [Evidence.task, carries], ?_⟩
      exact (TaskOf.of_sameIdentity ⟨dispatch, exchanges, result, task, submitted, same, kind,
        carries, rfl⟩ moved.identity).mono
  · rcases atFirst.unique atReached with rfl
    rcases hasTask with ⟨backoff, same⟩ | same <;> cases same

/-- Tasks stay those of their stages while outcomes respect them. -/
theorem Progress.tasksOfStages (progress : Progress world event next)
    (returned : OutcomesReturned history world) (tasks : TasksOfStages history world)
    (respects : RespectsStage world event next) :
    TasksOfStages (history ++ [event]) next := by
  intro updated updatedMem reached atReached stage hasTask
  apply progress.taskOf returned updatedMem atReached hasTask
  · intro operation stored _ position atPosition polling
    exact tasks operation stored position atPosition stage polling
  · exact fun _ _ _ _ => respects

/-- The evidence by which a move completes a stage. -/
def Evidence.Completes (evidence : Evidence) (position : Position) (stage : Stage) : Prop :=
  match evidence with
  | .polled (.ok status) => (∃ backoff, position = .polling stage backoff) ∧
      status.status = .succeeded
  | .read (.ok state) => position.Awaits stage ∧ stage.Confirms state
  | .outcome (.ok result) => position = .dispatching stage ∧ stage.reply result = some .done
  | _ => False

/-- A move stays in its stage, without success, or completes it. -/
theorem Advance.completed_source {evidence : Evidence} {position reached : Position}
    {change : VmChange} (advance : Advance evidence position reached change) :
    (reached.stageIndex = position.stageIndex ∧
      ∀ operationType, reached ≠ .succeeded operationType) ∨
    ∃ stage : Stage, reached = stage.after ∧ evidence.Completes position stage := by
  cases advance with
  | pollSucceeded stage backoff status succeeded =>
      exact .inr ⟨stage, rfl, ⟨backoff, rfl⟩, succeeded⟩
  | confirmed stage position state awaits confirms => exact .inr ⟨stage, rfl, awaits, confirms⟩
  | storeDone stage result done => exact .inr ⟨stage, rfl, rfl, done⟩
  | unconfirmed stage position state awaits =>
      rcases awaits with rfl | rfl <;> exact .inl ⟨rfl, by simp⟩
  | readRaised stage position error awaits =>
      rcases awaits with rfl | rfl <;> exact .inl ⟨rfl, by simp⟩
  | review stage position awaits => rcases awaits with rfl | rfl <;> exact .inl ⟨rfl, by simp⟩
  | storeTask stage position result task _ waiting =>
      rcases waiting with rfl | ⟨rfl, _⟩ <;> exact .inl ⟨rfl, by simp⟩
  | _ => exact .inl ⟨rfl, by simp⟩

/-- A move that ends an operation with success completes its last stage. -/
theorem Advance.succeeded_source {evidence : Evidence} {position : Position}
    {operationType : OperationType} {change : VmChange}
    (advance : Advance evidence position (.succeeded operationType) change) :
    ∃ stage : Stage, stage.next = none ∧ stage.operationType = operationType ∧
      evidence.Completes position stage := by
  rcases advance.completed_source with ⟨_, unfinished⟩ | ⟨stage, reaches, completes⟩
  · exact absurd rfl (unfinished operationType)
  · refine ⟨stage, ?_, ?_, completes⟩ <;> cases stage <;> cases reaches <;> rfl

/-- A reboot that succeeds has learned that its start is complete. -/
theorem Progress.rebootsByStart (progress : Progress world event next)
    (tasks : TasksOfStages history world) (respects : RespectsStage world event next) :
    RebootsByStart history world event next := by
  intro operation stored reboot unfinished updated updatedFound succeeded
  rcases progress.row stored with kept |
    ⟨evidence, other, vm, position, reached, change, moved, given⟩
  · have found := Database.operation?_eq_some_iff.mpr ⟨kept, rfl⟩
    rcases Option.some.inj (found.symm.trans updatedFound) with rfl
    exact absurd succeeded unfinished
  · rcases Option.some.inj (moved.stored_updated.symm.trans updatedFound) with rfl
    have status := moved.atReached.status
    rw [succeeded] at status
    have advance := moved.advance
    have atReached := moved.atReached
    cases reached with
    | succeeded operationType =>
        obtain rfl : operationType = .vmReboot :=
          (moved.identity.operationType.trans reboot).symm.trans atReached.operationType |>.symm
        rcases advance.succeeded_source with ⟨stage, last, kind, source⟩
        obtain rfl : stage = .rebootStart := by
          cases stage <;> simp_all [Stage.operationType, Stage.next]
        cases evidence with
        | polled answer =>
            cases answer with
            | error error => exact source.elim
            | ok status =>
                rcases source with ⟨polling, done⟩
                rcases given with ⟨exchanges, rfl, task, storedTask, _, _, rfl⟩
                rcases tasks operation stored position moved.atPosition .rebootStart (.inl polling)
                  with ⟨taskId, sameTask, taskOf⟩
                rcases Option.some.inj (storedTask.symm.trans sameTask) with rfl
                exact .inr ⟨task, status, List.mem_singleton_self _, done, taskOf⟩
        | read answer =>
            cases answer with
            | error error => exact source.elim
            | ok state =>
                rcases given with ⟨exchanges, rfl, target, _, _, rfl⟩
                exact .inl ⟨_, _, _, state, List.mem_singleton_self _, source.2⟩
        | outcome answer =>
            cases answer with
            | error error => exact source.elim
            | ok result =>
                rcases source with ⟨atStage, done⟩
                rcases given with ⟨dispatch, rfl, same⟩
                exact ⟨same, moved.stage_of_respects same (.inl atStage) respects, done⟩
        | _ => exact source.elim
    | _ => cases status

/-- An outcome is applied to its own stage in exactly the runs that store no misdirected
one. -/
theorem stagesRespected_iff (execution : portal.Execution history world) :
    StagesRespected history world ↔ NoneMisdirected history world := by
  constructor
  · rintro ⟨respected, _, _⟩
    refine respected.mono ?_
    rintro first before event after early step respects dispatch outcome committed rfl
    exact (respectsStage_iff early.reachable step).mp respects
  · intro directed
    have respected : portal.Along history world fun _ before event after =>
        RespectsStage before event after := by
      refine directed.mono ?_
      intro first before event after early step notMisdirected dispatch outcome committed same
      subst same
      exact (respectsStage_iff early.reachable step).mpr (notMisdirected _ _ _ rfl) _ _ _ rfl
    have tasks : ∀ {first : List Event} {before : World}, portal.Execution first before →
        portal.Along first before (fun _ before event after => RespectsStage before event after) →
        TasksOfStages first before := by
      intro first before early along
      refine along.invariant ?_ ?_ early
      · rintro state rfl operation operationMem
        exact absurd operationMem List.not_mem_nil
      · intro earlier state event later reached known step respects
        exact (step_progress (sound_of_reachable reached.reachable) step).tasksOfStages
          (outcomesReturned_of_execution reached) known respects
    refine ⟨respected, tasks execution respected, ?_⟩
    rintro first event rest before after rfl early step run
    exact (step_progress (sound_of_reachable early.reachable) step).rebootsByStart
      (tasks early (respected.before step run))
      (respected first event rest before after rfl early step run)

/-- The second event stores an outcome of a shutdown after the first one has marked the start
of the same reboot. -/
def Event.outrunsShutdown : Event → Event → Bool
  | .selected _ _ (some row), .stored dispatch _ _ =>
      row.id = dispatch.operationId ∧ row.phase = some Stage.rebootStart.dispatchPhase ∧
        dispatch.stage .vmReboot = some .rebootShutdown
  | _, _ => false

/-- A run which stores the outcome of every shutdown before the start is marked has no
misdirected outcome. -/
theorem noneMisdirected_of_pairwise
    (ordered : history.Pairwise fun earlier later => earlier.outrunsShutdown later = false) :
    NoneMisdirected history world := by
  rintro first event rest before after rfl early _ _ dispatch outcome committed rfl
    ⟨sent, ⟨operation, vm, found, reboot, phase, _⟩, _⟩
  rcases Database.operation?_eq_some_iff.mp found with ⟨stored, sameId⟩
  rcases (sound_of_reachable early.reachable).db.ready stored with ⟨position, _, atPosition, _⟩
  obtain rfl : position = .dispatching .rebootStart :=
    Position.eq_dispatching (phase ▸ atPosition.phase)
  rcases markerStored_of_execution early operation stored _ atPosition .rebootStart
    reboot.symm (Nat.lt_succ_self _) with ⟨selected, row, inFirst, rowId, _, rowPhase, _⟩
  have inTime := (List.pairwise_append.mp ordered).2.2 _ inFirst _ List.mem_cons_self
  simp [Event.outrunsShutdown, rowId, sameId, rowPhase, sent] at inTime

end Runs

/-- A call or a storing transaction for this stage. -/
def Event.dispatchedFor (stage : Stage) : Event → Bool
  | .submitted dispatch _ _ | .stored dispatch _ _ =>
      dispatch.stage stage.operationType = some stage
  | _ => false

/-- The VM is rebooted by the operation 42, whose worker is never delayed. -/
def sampleTimelyReboot : List Action :=
  sampleRunningVm ++ [.enqueue ⟨0, 42, 6⟩ 1 31 .vmReboot "reboot"] ++ sampleIteration 42 7 ++
  [.select 8 [] 42 (sampleProvider .running .succeeded) 8 8] ++ sampleIteration 42 9

/-- The outcome of the shutdown is stored before the start is marked: every outcome of the
run is applied to its own stage. -/
theorem sampleTimelyReboot_stagesRespected :
    let history := (World.initial.perform sampleTimelyReboot).1
    let world := (World.initial.perform sampleTimelyReboot).2
    StagesRespected history world ∧ history.any (Event.dispatchedFor .rebootShutdown) ∧
      history.any (Event.dispatchedFor .rebootStart) ∧
      (world.db.operation? 42).map (·.status) = some .succeeded := by
  intro history world
  refine ⟨?_, by decide +kernel, by decide +kernel, by decide +kernel⟩
  refine (stagesRespected_iff ⟨.initial, rfl, World.initial.perform_run sampleTimelyReboot⟩).mpr ?_
  exact noneMisdirected_of_pairwise (by decide +kernel)

/-- The VM is to be rebooted by the operation 42.  The worker that sent the shutdown is
delayed; another one finds the VM stopped and marks the start. -/
def sampleReboot : List Action :=
  sampleRunningVm ++
  [.enqueue ⟨0, 42, 6⟩ 1 31 .vmReboot "reboot",
    .select 7 [] 42 (sampleProvider .running .running) 7 7,
    .submit 0 (sampleProvider .running .running),
    .select (8 + dispatchGrace) [] 42 (sampleProvider .stopped .running) 8 8,
    .select (9 + dispatchGrace) [] 42 (sampleProvider .stopped .running) 9 9]

set_option maxRecDepth 10000 in
/-- The task of the shutdown is stored as the task of the start, and when it has succeeded
the reboot succeeds and the VM is running although no start was sent. -/
theorem sampleReboot_not_stagesRespected :
    let marked := World.initial.perform sampleReboot
    let stored := marked.2.perform [.store 0 10 10]
    let polled := stored.2.perform [.select 11 [] 42 (sampleProvider .stopped .succeeded) 11 11]
    ¬StagesRespected (marked.1 ++ stored.1) stored.2 ∧
    (stored.2.db.operation? 42).map (fun operation =>
      (operation.phase, operation.providerTaskId)) = some (some "start", some "UPID:shutdown") ∧
    (polled.2.db.operation? 42).map (·.status) = some .succeeded ∧
    (polled.2.db.virtualMachine? 31).map (·.status) = some .running ∧
    ((marked.1 ++ stored.1 ++ polled.1).map
      (Event.sends 42 .vmReboot .rebootStart)).sum = 0 := by
  intro marked stored polled
  refine ⟨fun respected => ?_, by decide +kernel, by decide +kernel, by decide +kernel,
    by decide +kernel⟩
  have unsent : (marked.1 ++ stored.1).any (Event.dispatchedFor .rebootStart) = false := by
    decide +kernel
  have row : stored.2.db.operations[1]? = some {
      id := 42, virtualMachineId := 31, operationType := .vmReboot, status := .processing,
      phase := some "start", idempotencyKey := "reboot", attempts := 2, lastErrorCode := none,
      providerTaskId := some "UPID:shutdown", updatedAt := 10 } := by decide +kernel
  rcases respected.tasks _ (List.mem_of_getElem? row) (.polling .rebootStart false)
      ⟨rfl, rfl, List.mem_singleton_self _, rfl⟩ .rebootStart (.inl ⟨false, rfl⟩) with
    ⟨taskId, _, dispatch, exchanges, result, task, submitted, _, kind, _⟩
  have sent := List.any_eq_false.mp unsent _ submitted
  exact sent (decide_eq_true kind)

end NpdPortal
