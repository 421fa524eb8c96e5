import Mathlib.Algebra.Order.BigOperators.Group.List
import NpdPortal.Runs.Coupled
import NpdPortal.Runs.LateOutcomes

/-!
# A created VM is started only after every earlier step was confirmed

The stages of a create are confirmed by the power state of the VM, by the task
of the stage or by the result of its call.  Along a run the confirmation of
every stage that the operation has left behind stays in the history, and the
outcome of a call that was lost confirms nothing any more.
-/

namespace NpdPortal

/-- The step called the provider for this stage of the operation. -/
def Event.Calls (operation : Operation) (stage : Stage) : Event → Prop
  | .selected chosen exchanges _ => chosen.id = operation.id ∧
      ∃ exchange ∈ exchanges, stage.Sends exchange.call
  | .submitted dispatch exchanges _ => dispatch.operationId = operation.id ∧
      ∃ exchange ∈ exchanges, stage.Sends exchange.call
  | _ => False

/-- The step confirmed this stage of the operation: by the power state of its VM, read after the
marker of the stage was stored, by the stored task, which the call of the stage returned, or by
the result of that call. -/
def Event.Confirms (history : List Event) (operation : Operation) (stage : Stage) :
    Event → Prop
  | .selected chosen exchanges (some _) => chosen.id = operation.id ∧
      ((MarkerStored history operation.id stage ∧ ∃ node vmid state,
        exchanges = [⟨.getVmPowerState operation.virtualMachineId node vmid, .ok state⟩] ∧
          stage.Confirms state) ∨
      ∃ task status, exchanges = [⟨.getTaskStatus task, .ok status⟩] ∧
        status.status = .succeeded ∧ chosen.providerTaskId = some task.taskId ∧
        TaskOf history operation stage task.taskId)
  | .stored dispatch (.ok result) true => dispatch.operationId = operation.id ∧
      dispatch.stage operation.operationType = some stage ∧ stage.reply result = some .done ∧
      ∃ exchanges, .submitted dispatch exchanges (.ok result) ∈ history
  | _ => False

/-- Some step of this history confirmed the stage of the operation. -/
def Confirmed (history : List Event) (operation : Operation) (stage : Stage) : Prop :=
  ∃ before event after, history = before ++ event :: after ∧
    event.Confirms before operation stage

/-- The outcome of a call for this stage of the operation is not stored: the call raised, its
worker was lost, or the storing transaction was refused. -/
def Event.LosesOutcome (operation : Operation) (stage : Stage) : Event → Prop
  | .submitted dispatch _ (.error _) | .stored dispatch _ false =>
      dispatch.operationId = operation.id ∧ dispatch.stage operation.operationType = some stage
  | .lost flight => flight.dispatch.operationId = operation.id ∧
      flight.dispatch.stage operation.operationType = some stage
  | _ => False

section Steps

variable {history : List Event} {world next : World} {event : Event}
  {operation updated : Operation} {stage : Stage} {later : List Event}

theorem Event.Confirms.of_sameIdentity (confirms : event.Confirms history operation stage)
    (same : operation.SameIdentity updated) : event.Confirms history updated stage := by
  cases event with
  | selected chosen exchanges committed =>
      cases committed with
      | none => exact confirms
      | some row =>
          rcases confirms with ⟨id, ⟨marker, node, vmid, state, read, confirms⟩ |
            ⟨task, status, polled, succeeded, stored, taskOf⟩⟩
          · rw [← same.id] at id marker
            rw [← same.virtualMachineId] at read
            exact ⟨id, .inl ⟨marker, node, vmid, state, read, confirms⟩⟩
          · exact ⟨id.trans same.id.symm, .inr ⟨task, status, polled, succeeded, stored,
              taskOf.of_sameIdentity same⟩⟩
  | stored dispatch outcome committed =>
      cases outcome with
      | error error => exact confirms
      | ok result =>
          cases committed with
          | false => exact confirms
          | true =>
              rcases confirms with ⟨id, kind, done, submitted⟩
              exact ⟨id.trans same.id.symm, same.operationType ▸ kind, done, submitted⟩
  | _ => exact confirms

theorem Confirmed.of_sameIdentity (confirmed : Confirmed history operation stage)
    (same : operation.SameIdentity updated) : Confirmed history updated stage := by
  rcases confirmed with ⟨before, event, after, whole, confirms⟩
  exact ⟨before, event, after, whole, confirms.of_sameIdentity same⟩

theorem Confirmed.append (confirmed : Confirmed history operation stage) (later : List Event) :
    Confirmed (history ++ later) operation stage := by
  rcases confirmed with ⟨before, event, after, rfl, confirms⟩
  exact ⟨before, event, after ++ later, by simp, confirms⟩

/-- A step that stores an outcome for an operation other than a reboot respects its stage. -/
theorem respectsStage_of_ne_reboot {dispatch : Dispatch} {outcome : Except Error ProviderResult}
    {committed : Bool} (reachable : portal.Reachable world)
    (step : portal.step world (.stored dispatch outcome committed) next)
    (stored : operation ∈ world.db.operations) (same : dispatch.operationId = operation.id)
    (notReboot : operation.operationType ≠ .vmReboot) :
    RespectsStage world (.stored dispatch outcome committed) next := by
  rw [respectsStage_iff reachable step]
  rintro ⟨_, ⟨row, vm, found, reboot, _⟩, _⟩
  have isOperation : world.db.operation? dispatch.operationId = some operation :=
    Database.operation?_eq_some_iff.mpr ⟨stored, same.symm⟩
  rcases Option.some.inj (isOperation.symm.trans found) with rfl
  exact notReboot reboot

/-! ## What is known of every run -/

/-- The task of a create was returned by the call for the stage it is stored for. -/
theorem taskOf_of_execution (execution : portal.Execution history world) :
    ∀ operation ∈ world.db.operations, operation.operationType ≠ .vmReboot →
      ∀ position : Position, position.Matches operation →
      ∀ stage, (∃ backoff, position = .polling stage backoff) ∨ position = .failed stage →
      ∃ taskId, operation.providerTaskId = some taskId ∧
        TaskOf history operation stage taskId := by
  refine execution.invariant (motive := fun history world =>
    ∀ operation ∈ world.db.operations, operation.operationType ≠ .vmReboot →
      ∀ position : Position, position.Matches operation →
      ∀ stage, (∃ backoff, position = .polling stage backoff) ∨ position = .failed stage →
      ∃ taskId, operation.providerTaskId = some taskId ∧
        TaskOf history operation stage taskId) ?_ ?_
  · rintro state rfl operation operationMem
    exact absurd operationMem List.not_mem_nil
  · intro earlier state event later before tasks step updated updatedMem notReboot reached
      atReached stage hasTask
    have progress := step_progress (sound_of_reachable before.reachable) step
    apply progress.taskOf (outcomesReturned_of_execution before) updatedMem atReached hasTask
    · intro operation stored same position atPosition polling
      exact tasks operation stored (same.operationType ▸ notReboot) position atPosition stage
        polling
    · rintro dispatch outcome rfl isUpdated
      rcases progress.label_known (sound_of_reachable before.reachable) rfl with
        ⟨operation, stored, same⟩
      rcases progress.forward stored with ⟨other, otherMem, forward⟩
      obtain rfl : other = updated := KeyedRows.eq_of_key_eq later.db.valid.operationIds otherMem
        updatedMem (forward.identity.id.trans (same.trans isUpdated))
      exact respectsStage_of_ne_reboot before.reachable step stored same.symm
        (forward.identity.operationType ▸ notReboot)

/-- A move that completes a stage is a step that confirms it. -/
theorem Moved.confirms (execution : portal.Execution history world)
    (step : portal.step world event next) {evidence : Evidence} {vm : VirtualMachine}
    {position reached : Position} {change : VmChange}
    (moved : Moved world.db next.db evidence operation updated vm position reached change)
    (given : evidence.GivenBy operation updated vm event)
    (notReboot : operation.operationType ≠ .vmReboot)
    (completes : evidence.Completes position stage) :
    event.Confirms history operation stage := by
  have kind := moved.atPosition.operationType
  cases evidence with
  | polled answer =>
      cases answer with
      | error error => exact completes.elim
      | ok status =>
          rcases completes with ⟨polling, succeeded⟩
          rcases given with ⟨exchanges, rfl, task, storedTask, _, _, rfl⟩
          rcases taskOf_of_execution execution operation moved.stored notReboot position
            moved.atPosition stage (.inl polling) with ⟨taskId, sameTask, taskOf⟩
          rcases Option.some.inj (storedTask.symm.trans sameTask) with rfl
          exact ⟨rfl, .inr ⟨task, status, rfl, succeeded, storedTask, taskOf⟩⟩
  | read answer =>
      cases answer with
      | error error => exact completes.elim
      | ok state =>
          rcases completes with ⟨awaits, confirms⟩
          rcases given with ⟨exchanges, rfl, target, _, _, rfl⟩
          have marker : MarkerStored history operation.id stage := by
            apply markerStored_of_execution execution operation moved.stored position
              moved.atPosition stage
            · rcases awaits with rfl | rfl <;> exact kind.symm
            · rcases awaits with rfl | rfl <;> exact Nat.lt_succ_self _
          exact ⟨rfl, .inl ⟨marker, target.node, target.vmid, state, by rw [moved.vmId],
            confirms⟩⟩
  | outcome answer =>
      cases answer with
      | error error => exact completes.elim
      | ok result =>
          rcases completes with ⟨atStage, done⟩
          rcases given with ⟨dispatch, rfl, same⟩
          have progress := step_progress (sound_of_reachable execution.reachable) step
          rcases outcomesReturned_of_execution execution dispatch _ progress.storing with
            ⟨exchanges, submitted⟩
          have respects := respectsStage_of_ne_reboot execution.reachable step moved.stored same
            notReboot
          exact ⟨same, moved.stage_of_respects same (.inl atStage) respects, done, exchanges,
            submitted⟩
  | _ => exact completes.elim

theorem Stage.after_stageIndex : ∀ stage : Stage, stage.after.stageIndex = stage.index + 1 := by
  decide

theorem Stage.after_operationType : ∀ stage : Stage,
    stage.after.operationType = stage.operationType := by
  decide

theorem Evidence.Completes.stageIndex {evidence : Evidence} {position : Position}
    (completes : evidence.Completes position stage) : position.stageIndex = stage.index := by
  cases evidence with
  | polled answer =>
      cases answer with
      | error error => exact completes.elim
      | ok status =>
          rcases completes with ⟨⟨backoff, rfl⟩, _⟩
          rfl
  | read answer =>
      cases answer with
      | error error => exact completes.elim
      | ok state => rcases completes with ⟨rfl | rfl, _⟩ <;> rfl
  | outcome answer =>
      cases answer with
      | error error => exact completes.elim
      | ok result =>
          rcases completes with ⟨rfl, _⟩
          rfl
  | _ => exact completes.elim

/-- Every stage which a create has left behind was confirmed. -/
theorem confirmed_of_execution (execution : portal.Execution history world) :
    ∀ operation ∈ world.db.operations, operation.operationType ≠ .vmReboot →
      ∀ position : Position, position.Matches operation →
      ∀ stage, stage.operationType = operation.operationType →
        stage.index < position.stageIndex → Confirmed history operation stage := by
  refine execution.invariant (motive := fun history world =>
    ∀ operation ∈ world.db.operations, operation.operationType ≠ .vmReboot →
      ∀ position : Position, position.Matches operation →
      ∀ stage, stage.operationType = operation.operationType →
        stage.index < position.stageIndex → Confirmed history operation stage) ?_ ?_
  · rintro state rfl operation operationMem
    exact absurd operationMem List.not_mem_nil
  · intro earlier state event later before confirmed step updated updatedMem notReboot reached
      atReached stage kind left
    have progress := step_progress (sound_of_reachable before.reachable) step
    rcases progress.row_after updatedMem with old | ⟨evidence, operation, vm, position, other,
      change, moved, given⟩ | ⟨first, isFirst, atFirst⟩
    · exact (confirmed updated old notReboot reached atReached stage kind left).append [event]
    · rcases moved.atReached.unique atReached with rfl
      have oldNotReboot : operation.operationType ≠ .vmReboot := moved.sameType ▸ notReboot
      have fromOld : stage.index < position.stageIndex →
          Confirmed (earlier ++ [event]) updated stage := by
        intro wasLeft
        exact ((confirmed operation moved.stored oldNotReboot position moved.atPosition stage
          (kind.trans moved.sameType) wasLeft).append [event]).of_sameIdentity moved.identity
      rcases moved.advance.completed_source with ⟨same, _⟩ | ⟨current, rfl, completes⟩
      · exact fromOld (same ▸ left)
      · rw [current.after_stageIndex] at left
        rw [completes.stageIndex] at fromOld
        by_cases isOld : stage.index < current.index
        · exact fromOld isOld
        · have isCurrent : stage = current := by
            apply Stage.eq_of_index stage current _ (by omega)
            rw [kind, moved.atReached.operationType, current.after_operationType]
          subst isCurrent
          have confirms := moved.confirms before step given oldNotReboot completes
          exact ⟨earlier, event, [], rfl, confirms.of_sameIdentity moved.identity⟩
    · rcases atFirst.unique atReached with rfl
      simp [Position.stageIndex, isFirst] at left

/-! ## Calls -/

theorem Stage.eq_of_sends {first second : Stage} {call : AdapterCall}
    (sameType : first.operationType = second.operationType) (isFirst : first.Sends call)
    (isSecond : second.Sends call) : first = second := by
  cases call <;> cases first <;> cases second <;>
    simp_all [Stage.Sends, Stage.operationType]

theorem Stage.Sends.mutates {call : AdapterCall} (sends : stage.Sends call) : call.Mutates := by
  cases call <;> cases stage <;> simp_all [Stage.Sends, AdapterCall.Mutates]

theorem Position.marked_le_stageIndex : ∀ position : Position,
    position.marked ≤ position.stageIndex + 1 := by
  decide

/-- A step calls the provider for a stage only by a worker that is about to send it. -/
theorem Progress.calls (progress : Progress world event next) (sound : world.Sound)
    (stored : operation ∈ world.db.operations)
    (kind : stage.operationType = operation.operationType)
    (calls : event.Calls operation stage) :
    ∃ dispatch, .submitting dispatch ∈ world.inFlight ∧ dispatch.For stage operation := by
  cases progress with
  | aborted chosen exchanges _ harmless =>
      rcases calls with ⟨_, exchange, exchangeMem, sends⟩
      exact absurd sends.mutates (harmless exchange exchangeMem)
  | marked =>
      rcases calls with ⟨_, exchange, exchangeMem, _⟩
      exact absurd exchangeMem List.not_mem_nil
  | followed db chosen updated vm position reached change evidence exchanges shows =>
      rcases calls with ⟨_, exchange, exchangeMem, sends⟩
      exact absurd sends.mutates (shows.harmless exchange exchangeMem)
  | submitted index dispatch provider submitting =>
      have inFlight := List.mem_of_getElem? submitting
      rcases sound.flights _ inFlight with ⟨other, otherMem, sent, isFor⟩
      rcases calls with ⟨same, exchange, exchangeMem, sends⟩
      obtain rfl : other = operation := KeyedRows.eq_of_key_eq world.db.valid.operationIds
        otherMem stored (isFor.operationId.symm.trans same)
      refine ⟨dispatch, inFlight, ?_⟩
      rcases isFor.made with ⟨before, request, target, made, sameId⟩
      simp only [Flight.dispatch] at made
      subst made
      rcases sent.submit_exchanges before request target provider with none | ⟨one, sendsOne, only⟩
      · simp [none] at exchangeMem
      · rw [only, List.mem_singleton] at exchangeMem
        subst exchangeMem
        have isStage : stage = sent := Stage.eq_of_sends (kind.trans isFor.kind) sends sendsOne
        exact isStage ▸ isFor
  | _ => exact calls.elim

/-- The stages before the one that is called were left behind. -/
theorem Progress.stageIndex_le_of_calls (progress : Progress world event next)
    (reachable : portal.Reachable world) (stored : operation ∈ world.db.operations)
    (kind : stage.operationType = operation.operationType) (calls : event.Calls operation stage)
    {position : Position} (atPosition : position.Matches operation) :
    stage.index ≤ position.stageIndex := by
  rcases progress.calls (sound_of_reachable reachable) stored kind calls with
    ⟨dispatch, inFlight, isFor⟩
  have marked := flightsMarked_of_reachable reachable _ inFlight operation stored stage isFor
    position atPosition
  have bound := position.marked_le_stageIndex
  omega

/-! ## Outcomes that are lost -/

/-- The result of a call for this stage was stored. -/
def OutcomeStored (history : List Event) (operation : Operation) (stage : Stage) : Prop :=
  ∃ dispatch result, .stored dispatch (.ok result) true ∈ history ∧
    dispatch.operationId = operation.id ∧ dispatch.stage operation.operationType = some stage

/-- The calls whose outcome is stored or lost: a worker under way may still do either. -/
def Tally.outcomes : Tally where
  event id operationType stage
    | .submitted dispatch _ (.error _) | .stored dispatch (.ok _) _
    | .lost (.submitting dispatch) | .lost (.storing dispatch (.ok _)) =>
        if dispatch.operationId = id ∧ dispatch.stage operationType = some stage then 1 else 0
    | _ => 0
  flight id operationType stage
    | .submitting dispatch | .storing dispatch (.ok _) =>
        if dispatch.operationId = id ∧ dispatch.stage operationType = some stage then 1 else 0
    | .storing _ (.error _) => 0
  other := by
    intro id operationType stage step differs
    rcases step with _ | _ | _ | ⟨dispatch, exchanges, _ | _⟩ | ⟨dispatch, _ | _, committed⟩ |
      ⟨dispatch | ⟨dispatch, _ | _⟩⟩ <;> simp_all [Event.operationId, Flight.dispatch]
  selected _ _ _ _ _ _ _ := rfl
  dispatched _ _ _ _ := le_rfl
  submitted := by
    intro id operationType stage dispatch exchanges outcome _
    cases outcome <;> simp
  stored := by
    intro id operationType stage dispatch outcome committed
    cases outcome <;> simp
  lost := by
    intro id operationType stage worker
    rcases worker with dispatch | ⟨dispatch, _ | _⟩ <;> simp

theorem OutcomeStored.append (stored : OutcomeStored history operation stage)
    (later : List Event) : OutcomeStored (history ++ later) operation stage := by
  rcases stored with ⟨dispatch, result, eventMem, isFor⟩
  exact ⟨dispatch, result, List.mem_append_left _ eventMem, isFor⟩

theorem OutcomeStored.of_sameIdentity (stored : OutcomeStored history operation stage)
    (same : operation.SameIdentity updated) : OutcomeStored history updated stage := by
  rcases stored with ⟨dispatch, result, eventMem, id, kind⟩
  exact ⟨dispatch, result, eventMem, id.trans same.id.symm, same.operationType ▸ kind⟩

/-- The operation has the task of this stage or has left the stage behind. -/
def Position.Past (position : Position) (stage : Stage) : Prop :=
  stage.index < position.stageIndex ∨ (∃ backoff, position = .polling stage backoff) ∨
    position = .failed stage

/-- A stage that is not read is passed only by the result of its call. -/
theorem outcomeStored_of_execution (execution : portal.Execution history world) :
    ∀ operation ∈ world.db.operations, operation.operationType ≠ .vmReboot →
      ∀ position : Position, position.Matches operation →
      ∀ stage, stage.operationType = operation.operationType → stage.NeedsReview →
        position.Past stage → OutcomeStored history operation stage := by
  refine execution.invariant (motive := fun history world =>
    ∀ operation ∈ world.db.operations, operation.operationType ≠ .vmReboot →
      ∀ position : Position, position.Matches operation →
      ∀ stage, stage.operationType = operation.operationType → stage.NeedsReview →
        position.Past stage → OutcomeStored history operation stage) ?_ ?_
  · rintro state rfl operation operationMem
    exact absurd operationMem List.not_mem_nil
  · intro earlier state event later before outcomes step updated updatedMem notReboot reached
      atReached stage kind unread past
    have progress := step_progress (sound_of_reachable before.reachable) step
    rcases progress.row_after updatedMem with old | ⟨evidence, operation, vm, position, other,
      change, moved, given⟩ | ⟨first, isFirst, atFirst⟩
    · exact (outcomes updated old notReboot reached atReached stage kind unread past).append [event]
    · rcases moved.atReached.unique atReached with rfl
      have oldNotReboot : operation.operationType ≠ .vmReboot := moved.sameType ▸ notReboot
      have fromOld : position.Past stage → OutcomeStored (earlier ++ [event]) updated stage := by
        intro wasPast
        exact ((outcomes operation moved.stored oldNotReboot position moved.atPosition stage
          (kind.trans moved.sameType) unread wasPast).append [event]).of_sameIdentity
            moved.identity
      have fromOutcome : ∀ result, evidence = .outcome (.ok result) → position.Awaits stage →
          OutcomeStored (earlier ++ [event]) updated stage := by
        rintro result rfl awaits
        rcases given with ⟨dispatch, rfl, same⟩
        have respects := respectsStage_of_ne_reboot before.reachable step moved.stored same
          oldNotReboot
        have stored : OutcomeStored (earlier ++ [.stored dispatch (.ok result) true]) operation
            stage := ⟨dispatch, result, by simp, same, moved.stage_of_respects same awaits respects⟩
        exact stored.of_sameIdentity moved.identity
      rcases past with left | hasTask
      · rcases moved.advance.completed_source with ⟨same, _⟩ | ⟨current, rfl, completes⟩
        · exact fromOld (.inl (same ▸ left))
        · rw [current.after_stageIndex] at left
          by_cases isOld : stage.index < current.index
          · exact fromOld (.inl (completes.stageIndex ▸ isOld))
          · have isCurrent : stage = current := by
              apply Stage.eq_of_index stage current _ (by omega)
              rw [kind, moved.atReached.operationType, current.after_operationType]
            subst isCurrent
            rcases evidence with _ | _ | (_ | status) | (_ | state) | _ | (_ | result)
            case polled.ok => exact fromOld (.inr (.inl completes.1))
            case read.ok =>
              cases stage <;> first | exact unread.elim | exact completes.2.elim
            case outcome.ok => exact fromOutcome result rfl (.inl completes.1)
            all_goals exact completes.elim
      · rcases moved.advance.task_source hasTask with ⟨polling, _⟩ | ⟨result, _, rfl, awaits, _⟩
        · exact fromOld (.inr (.inl polling))
        · exact fromOutcome result rfl awaits
    · rcases atFirst.unique atReached with rfl
      rcases past with left | ⟨_, same⟩ | same
      · simp [Position.stageIndex, isFirst] at left
      · cases same
      · cases same

/-- The outcome a worker carries to its storing transaction was returned by its call. -/
theorem submitted_of_storing {dispatch : Dispatch} {outcome : Except Error ProviderResult}
    {first rest : List Event} (execution : portal.Execution (first ++ event :: rest) world)
    (storing : ∀ {before after : World}, Progress before event after →
      .storing dispatch outcome ∈ before.inFlight) :
    ∃ exchanges, .submitted dispatch exchanges outcome ∈ first ++ event :: rest := by
  rcases execution.split with ⟨before, after, early, step, _⟩
  have progress := step_progress (sound_of_reachable early.reachable) step
  rcases outcomesReturned_of_execution early dispatch outcome (storing progress) with
    ⟨exchanges, submitted⟩
  exact ⟨exchanges, List.mem_append_left _ submitted⟩

/-- A step that loses an outcome was counted, or the call before it. -/
theorem exists_lost (execution : portal.Execution history world) {event : Event}
    (eventMem : event ∈ history) (loses : event.LosesOutcome operation stage) :
    ∃ other ∈ history, Tally.outcomes.event operation.id operation.operationType stage other = 1 ∧
      ∀ dispatch result, other ≠ .stored dispatch (.ok result) true := by
  rcases List.append_of_mem eventMem with ⟨first, rest, rfl⟩
  rcases event with _ | _ | _ | ⟨dispatch, exchanges, error | result⟩ |
    ⟨dispatch, error | result, _ | _⟩ | ⟨dispatch | ⟨dispatch, error | result⟩⟩
  case submitted.error => exact ⟨_, eventMem, if_pos loses, by simp⟩
  case stored.ok.false => exact ⟨_, eventMem, if_pos loses, by simp⟩
  case lost.submitting => exact ⟨_, eventMem, if_pos loses, by simp⟩
  case lost.storing.ok => exact ⟨_, eventMem, if_pos loses, by simp⟩
  case stored.error.false =>
    rcases submitted_of_storing execution Progress.storing with ⟨exchanges, submitted⟩
    exact ⟨_, submitted, if_pos loses, by simp⟩
  case lost.storing.error =>
    have storing : ∀ {before after : World},
        Progress before (.lost (.storing dispatch (.error error))) after →
        .storing dispatch (.error error) ∈ before.inFlight := by
      intro before after progress
      cases progress with
      | lost index flight inFlight => exact List.mem_of_getElem? inFlight
    rcases submitted_of_storing execution storing with ⟨exchanges, submitted⟩
    exact ⟨_, submitted, if_pos loses, by simp⟩
  all_goals exact loses.elim

theorem two_le_sum_map {α : Type} {weight : α → ℕ} {values : List α} {first second : α}
    (firstMem : first ∈ values) (secondMem : second ∈ values) (differ : first ≠ second)
    (isFirst : weight first = 1) (isSecond : weight second = 1) :
    2 ≤ (values.map weight).sum := by
  induction values with
  | nil => cases firstMem
  | cons value rest ih =>
      have single : ∀ other ∈ rest, weight other = 1 → 1 ≤ (rest.map weight).sum := by
        intro other otherMem one
        exact one ▸ List.single_le_sum (by simp) _ (List.mem_map_of_mem otherMem)
      simp only [List.map_cons, List.sum_cons]
      rcases List.mem_cons.mp firstMem with rfl | firstRest <;>
        rcases List.mem_cons.mp secondMem with rfl | secondRest
      · exact absurd rfl differ
      · have later := single second secondRest isSecond
        omega
      · have later := single first firstRest isFirst
        omega
      · have later := ih firstRest secondRest
        omega

/-- The outcome of a call is stored or lost, not both. -/
theorem OutcomeStored.not_lost (execution : portal.Execution history world)
    (stored : operation ∈ world.db.operations)
    (outcomeStored : OutcomeStored history operation stage) :
    ∀ event ∈ history, ¬event.LosesOutcome operation stage := by
  intro event eventMem loses
  rcases outcomeStored with ⟨dispatch, result, storedMem, isFor⟩
  rcases exists_lost execution eventMem loses with ⟨other, otherMem, counted, differs⟩
  rcases (sound_of_reachable execution.reachable).db.ready stored with ⟨position, _, atPosition, _⟩
  have bound := total_le_of_execution .outcomes execution operation stored position atPosition stage
  have both := two_le_sum_map otherMem storedMem (differs dispatch result) counted (if_pos isFor)
  simp only [Tally.total] at bound
  split at bound <;> omega

/-- The outcome of this stage is unknown. -/
def Position.Unknown (position : Position) (stage : Stage) : Prop :=
  position = .reconciling stage ∨ position = .review stage

/-- A stage that is not read stays unknown. -/
theorem Advance.unknown {evidence : Evidence} {position reached : Position} {change : VmChange}
    (advance : Advance evidence position reached change) (unread : stage.NeedsReview)
    (unknown : position.Unknown stage) : reached.Unknown stage := by
  rcases unknown with rfl | rfl
  · cases advance with
    | confirmed current _ state awaits confirms =>
        rcases awaits with same | same <;> cases same
        cases stage <;> first | exact unread.elim | exact confirms.elim
    | unconfirmed current _ state awaits _ readable =>
        rcases awaits with same | same <;> cases same
        exact absurd unread readable
    | readRaised current _ error awaits readable =>
        rcases awaits with same | same <;> cases same
        exact absurd unread readable
    | review current _ awaits =>
        rcases awaits with same | same <;> cases same
        exact .inr rfl
    | storeTask current _ result task _ waiting =>
        rcases waiting with same | ⟨same, late⟩ <;> cases same
        cases stage <;> first | exact unread.elim | exact late.elim
  · cases advance with
    | confirmed _ _ _ awaits => rcases awaits with same | same <;> cases same
    | unconfirmed _ _ _ awaits => rcases awaits with same | same <;> cases same
    | readRaised _ _ _ awaits => rcases awaits with same | same <;> cases same
    | review _ _ awaits => rcases awaits with same | same <;> cases same
    | storeTask _ _ _ _ _ waiting => rcases waiting with same | ⟨same, _⟩ <;> cases same

theorem unknown_of_run (reachable : portal.Reachable world) (run : portal.Run world history next)
    (unread : stage.NeedsReview) (stored : operation ∈ world.db.operations) {position : Position}
    (atPosition : position.Matches operation) (unknown : position.Unknown stage) :
    ∃ updated ∈ next.db.operations, operation.SameIdentity updated ∧
      ∃ reached : Position, reached.Matches updated ∧ reached.Unknown stage := by
  refine run.relates (motive := fun first second => ∀ operation ∈ first.db.operations,
    ∀ position : Position, position.Matches operation → position.Unknown stage →
    ∃ updated ∈ second.db.operations, operation.SameIdentity updated ∧
      ∃ reached : Position, reached.Matches updated ∧ reached.Unknown stage) ?_ ?_ ?_ reachable
    operation stored position atPosition unknown
  · exact fun state operation operationMem position atPosition unknown =>
      ⟨operation, operationMem, .refl operation, position, atPosition, unknown⟩
  · intro first second third before after operation operationMem position atPosition unknown
    rcases before operation operationMem position atPosition unknown with
      ⟨middle, middleMem, toMiddle, between, atBetween, stillUnknown⟩
    rcases after middle middleMem between atBetween stillUnknown with
      ⟨updated, updatedMem, toUpdated, rest⟩
    exact ⟨updated, updatedMem, toMiddle.trans toUpdated, rest⟩
  · intro state event later stateReachable step operation operationMem position atPosition unknown
    have progress := step_progress (sound_of_reachable stateReachable) step
    rcases progress.row operationMem with kept | ⟨_, updated, _, before, reached, _, moved, _⟩
    · exact ⟨operation, kept, .refl operation, position, atPosition, unknown⟩
    · rcases atPosition.unique moved.atPosition with rfl
      exact ⟨updated, (Database.operation?_eq_some_iff.mp moved.stored_updated).1, moved.identity,
        reached, moved.atReached, moved.advance.unknown unread unknown⟩

/-! ## The result -/

theorem Event.Calls.of_id (calls : event.Calls operation stage) (same : updated.id = operation.id) :
    event.Calls updated stage := by
  cases event with
  | selected => exact ⟨calls.1.trans same.symm, calls.2⟩
  | submitted => exact ⟨calls.1.trans same.symm, calls.2⟩
  | _ => exact calls.elim

/-- The state before a step of a run, with the row as it was there. -/
theorem exists_before_call {first rest : List Event}
    (execution : portal.Execution (first ++ event :: rest) world)
    (stored : operation ∈ world.db.operations)
    (kind : stage.operationType = operation.operationType)
    (calls : event.Calls operation stage) :
    ∃ before after row, portal.Execution first before ∧ portal.step before event after ∧
      portal.Run after rest world ∧ row ∈ before.db.operations ∧ row.SameIdentity operation ∧
      ∀ position : Position, position.Matches row → stage.index ≤ position.stageIndex := by
  rcases execution.split with ⟨before, after, early, step, later⟩
  have progress := step_progress (sound_of_reachable early.reachable) step
  have label : event.operationId = some operation.id := by
    cases event with
    | selected => exact congrArg some calls.1
    | submitted => exact congrArg some calls.1
    | _ => exact calls.elim
  rcases progress.label_known (sound_of_reachable early.reachable) label with ⟨row, rowMem, same⟩
  rcases forward_of_run early.reachable (.append (.snoc .nil step) later) rowMem with
    ⟨updated, updatedMem, forward⟩
  obtain rfl : updated = operation := KeyedRows.eq_of_key_eq world.db.valid.operationIds updatedMem
    stored (forward.identity.id.trans same)
  refine ⟨before, after, row, early, step, later, rowMem, forward.identity, ?_⟩
  intro position atPosition
  exact progress.stageIndex_le_of_calls early.reachable rowMem
    (kind.trans forward.identity.operationType) (calls.of_id same) atPosition

theorem Position.eq_review : ∀ (position : Position) (stage : Stage), stage.NeedsReview →
    stage.reviewPhase ∈ position.phases → position = .review stage := by
  decide

theorem Stage.index_of_needsReview : ∀ stage : Stage, stage.NeedsReview →
    stage.index < Stage.initialStart.index := by
  decide

/-- A create whose row stores an unknown outcome never calls its start. -/
theorem unknown_not_started (early : portal.Execution history world)
    (run : portal.Run world later next) (stored : operation ∈ world.db.operations)
    (create : operation.operationType = .vmCreate) (unread : stage.NeedsReview)
    {position : Position} (atPosition : position.Matches operation)
    (unknown : position.Unknown stage) :
    ∀ event ∈ history ++ later, ¬event.Calls operation .initialStart := by
  have early_stage : ∀ {other : Position}, other.Unknown stage →
      other.stageIndex < Stage.initialStart.index := by
    rintro other (rfl | rfl) <;> exact stage.index_of_needsReview unread
  have isStart : Stage.initialStart.operationType = operation.operationType := create.symm
  intro event eventMem calls
  rcases List.mem_append.mp eventMem with isEarlier | isLater
  · rcases List.append_of_mem isEarlier with ⟨first, rest, rfl⟩
    rcases exists_before_call early stored isStart calls with
      ⟨before, after, row, toBefore, step, toWorld, rowMem, same, reached⟩
    rcases (sound_of_reachable toBefore.reachable).db.ready rowMem with ⟨place, _, atPlace, _⟩
    rcases forward_of_run toBefore.reachable (.append (.snoc .nil step) toWorld) rowMem with
      ⟨updated, updatedMem, forward⟩
    obtain rfl : updated = operation := KeyedRows.eq_of_key_eq world.db.valid.operationIds
      updatedMem stored (forward.identity.id.trans same.id.symm)
    rcases forward.stages place atPlace with ⟨still, atStill, le⟩
    rcases atStill.unique atPosition with rfl
    have least := reached place atPlace
    have most := early_stage unknown
    omega
  · rcases List.append_of_mem isLater with ⟨first, rest, rfl⟩
    rcases run.split with ⟨before, after, toBefore, step, _⟩
    rcases unknown_of_run early.reachable toBefore unread stored atPosition unknown with
      ⟨row, rowMem, same, place, atPlace, stillUnknown⟩
    have reachable := (early.append toBefore).reachable
    have least := (step_progress (sound_of_reachable reachable) step).stageIndex_le_of_calls
      reachable rowMem (isStart.trans same.operationType.symm) (calls.of_id same.id) atPlace
    have most := early_stage stillUnknown
    omega

/-- A create calls a stage only after each earlier one was confirmed, its VM is running only after
the start was confirmed, and an outcome which is lost or unknown is never followed by the
start. -/
theorem create_confirmed_in_order (execution : portal.Execution history world)
    (stored : operation ∈ world.db.operations) (create : operation.operationType = .vmCreate) :
    (∀ earlier later : Stage, earlier.operationType = .vmCreate →
      later.operationType = .vmCreate → earlier.index < later.index →
      ∀ before event after, history = before ++ event :: after → event.Calls operation later →
        Confirmed before operation earlier) ∧
    (∀ vm ∈ world.db.virtualMachines, vm.id = operation.virtualMachineId →
      vm.status = .running → Confirmed history operation .initialStart) ∧
    (∀ stage : Stage, stage.operationType = .vmCreate → stage.NeedsReview →
      (∃ event ∈ history, event.LosesOutcome operation stage) →
      ∀ event ∈ history, ¬event.Calls operation .initialStart) ∧
    ∀ stage : Stage, stage.operationType = .vmCreate → stage.NeedsReview →
      ∀ first rest state row, history = first ++ rest → portal.Execution first state →
        portal.Run state rest world → state.db.operation? operation.id = some row →
        row.phase = some stage.reconcilePhase ∨ row.phase = stage.reviewPhase →
        ∀ event ∈ history, ¬event.Calls operation .initialStart := by
  have notReboot : ∀ {row : Operation}, row.SameIdentity operation →
      row.operationType ≠ .vmReboot := by
    intro row same reboot
    simp [← same.operationType, create] at reboot
  refine ⟨?_, ?_, ?_, ?_⟩
  · rintro earlier later isEarlier isLater order before event after rfl calls
    rcases exists_before_call execution stored (isLater.trans create.symm) calls with
      ⟨state, _, row, early, _, _, rowMem, same, reached⟩
    rcases (sound_of_reachable early.reachable).db.ready rowMem with ⟨position, _, atPosition, _⟩
    have left := reached position atPosition
    have kind : earlier.operationType = row.operationType := by
      rw [isEarlier, ← same.operationType, create]
    exact (confirmed_of_execution early row rowMem (notReboot same) position atPosition earlier kind
      (by omega)).of_sameIdentity same
  · intro vm vmMem isVm running
    have sound := sound_of_reachable execution.reachable
    rcases sound.db.coupled vm vmMem with ⟨_, earlier, latest, shape, coupled⟩
    have invariant := coupled.vmInvariant shape
    rcases invariant.settled (.inl running) with ⟨⟨row, rowMem, rowCreate, succeeded⟩, _⟩
    have operationMem : operation ∈ world.db.operationsOf vm.id :=
      Database.mem_operationsOf.mpr ⟨stored, isVm.symm⟩
    obtain rfl : row = operation :=
      invariant.oneCreate.unique ⟨rowMem, rowCreate⟩ ⟨operationMem, create⟩
    rcases sound.db.ready stored with ⟨position, _, atPosition, _⟩
    have done : position.stageIndex = 4 := by
      have status := atPosition.status
      have kind := atPosition.operationType
      rw [succeeded] at status
      cases position with
      | succeeded operationType =>
          rcases kind.symm.trans create with rfl
          rfl
      | _ => cases status
    exact confirmed_of_execution execution row stored (by simp [create]) position atPosition
      .initialStart create.symm (by rw [done]; decide)
  · rintro stage kind unread ⟨event, eventMem, loses⟩ other otherMem calls
    rcases List.append_of_mem otherMem with ⟨first, rest, rfl⟩
    have isStart : Stage.initialStart.operationType = operation.operationType := create.symm
    rcases exists_before_call execution stored isStart calls with
      ⟨state, _, row, early, _, _, rowMem, same, reached⟩
    rcases (sound_of_reachable early.reachable).db.ready rowMem with ⟨position, _, atPosition, _⟩
    have left : stage.index < position.stageIndex :=
      (stage.index_of_needsReview unread).trans_le (reached position atPosition)
    have sameKind : stage.operationType = row.operationType := by
      rw [kind, ← same.operationType, create]
    have outcomeStored := outcomeStored_of_execution early row rowMem (notReboot same) position
      atPosition stage sameKind unread (.inl left)
    exact ((outcomeStored.append (other :: rest)).of_sameIdentity same).not_lost execution stored
      event eventMem loses
  · rintro stage kind unread first rest state row rfl early run found phase event eventMem calls
    rcases Database.operation?_eq_some_iff.mp found with ⟨rowMem, rowId⟩
    rcases (sound_of_reachable early.reachable).db.ready rowMem with ⟨position, _, atPosition, _⟩
    have unknown : position.Unknown stage := by
      have stores := atPosition.phase
      rcases phase with isReconcile | isReview
      · exact .inl (Position.eq_reconciling (isReconcile ▸ stores))
      · exact .inr (position.eq_review stage unread (isReview ▸ stores))
    rcases forward_of_run early.reachable run rowMem with ⟨updated, updatedMem, forward⟩
    obtain rfl : updated = operation := KeyedRows.eq_of_key_eq world.db.valid.operationIds
      updatedMem stored (forward.identity.id.trans rowId)
    exact unknown_not_started early run rowMem (forward.identity.operationType.symm.trans create)
      unread atPosition unknown event eventMem (calls.of_id rowId)

end Steps

set_option maxRecDepth 10000 in
/-- In the run of the sample create the VM is running, and its start was confirmed. -/
theorem sampleRunningVm_confirmed :
    let history := (World.initial.perform sampleRunningVm).1
    let world := (World.initial.perform sampleRunningVm).2
    ∃ operation ∈ world.db.operations, ∃ vm ∈ world.db.virtualMachines,
      vm.id = operation.virtualMachineId ∧ vm.status = .running ∧
        Confirmed history operation .initialStart := by
  intro history world
  have stored : world.db.operations[0]? = some {
      id := 41, virtualMachineId := 31, operationType := .vmCreate, status := .succeeded,
      phase := some "complete", idempotencyKey := "create", attempts := 4, lastErrorCode := none,
      providerTaskId := none, updatedAt := 5 } := by decide +kernel
  have vmStored : world.db.virtualMachines[0]? = some { newVm 31 1 sampleRequest with
      status := .running, providerNode := some "node", providerVmid := some 100 } := by
    decide +kernel
  refine ⟨_, List.mem_of_getElem? stored, _, List.mem_of_getElem? vmStored, rfl, rfl, ?_⟩
  have execution : portal.Execution history world :=
    ⟨.initial, rfl, World.initial.perform_run sampleRunningVm⟩
  exact (create_confirmed_in_order execution (List.mem_of_getElem? stored) rfl).2.1 _
    (List.mem_of_getElem? vmStored) rfl rfl

end NpdPortal
