import NpdPortal.Runs.Queue

/-!
# Polls that raise

What is left of the polls of one task when the last of them answered.  The
polls are those of any run: between them the other operations move, workers
crash and late outcomes arrive.  A poll that raises leaves a back-off phase and
an error code, and the stages differ in what a later poll removes of them.
-/

namespace NpdPortal

open PyString

/-- The answer to a poll. -/
abbrev PollAnswer := Except Error ProviderTaskStatus

/-- The answer to the poll of this operation which a step made. -/
def Event.poll? (operationId : Uuid) : Event → Option PollAnswer
  | .selected operation [⟨.getTaskStatus _, answer⟩] (some _) =>
      if operation.id = operationId then some answer else none
  | _ => none

/-- In a run from `world` to `after` the task of this operation was polled with the answers
`before` and then, in the last step, with the answer `last`. -/
structure World.Polls (world : World) (operation : Operation) (before : List PollAnswer)
    (last : ProviderTaskStatus) (after : World) : Prop where
  run : ∃ history middle event, portal.Run world history middle ∧
    history.filterMap (·.poll? operation.id) = before ∧ portal.step middle event after ∧
    event.poll? operation.id = some (.ok last)
  /-- The answers `succeeded` and `failed` end the polls of a task. -/
  unfinished : ∀ status, .ok status ∈ before → status.status = .running

/-- What is seen of an operation and its VM. -/
structure Standing where
  status : OperationStatus
  phase : Option String
  providerTaskId : Option String
  lastErrorCode : Option String
  vmStatus : Option VmStatus
  deriving DecidableEq, Repr

/-- The standing of a row whose VM has this status. -/
def Operation.standing (operation : Operation) (vmStatus : Option VmStatus) : Standing where
  status := operation.status
  phase := operation.phase
  providerTaskId := operation.providerTaskId
  lastErrorCode := operation.lastErrorCode
  vmStatus := vmStatus

def Database.standing (db : Database) (operationId : Uuid) : Option Standing :=
  (db.operation? operationId).map fun operation =>
    operation.standing ((db.virtualMachine? operation.virtualMachineId).map (·.status))

/-- Nothing is left of a back-off; a failed task leaves the code of the provider. -/
structure Standing.NoBackoff (standing : Standing) (last : TaskState) : Prop where
  phase : startswith (standing.phase.getD "") "poll_backoff" = false
  code : last = .failed ∨ standing.lastErrorCode ≠ some "provider_status_unavailable"

theorem Standing.noBackoff_iff (standing : Standing) (last : TaskState) :
    standing.NoBackoff last ↔
      startswith (standing.phase.getD "") "poll_backoff" = false ∧
        (last = .failed ∨ standing.lastErrorCode ≠ some "provider_status_unavailable") :=
  ⟨fun ⟨phase, code⟩ => ⟨phase, code⟩, fun ⟨phase, code⟩ => ⟨phase, code⟩⟩

/-- The standings after two sequences of polls are the same and nothing is left of a back-off. -/
def Transparent (operationId : Uuid) (last : TaskState) (after clean : World) : Prop :=
  ∃ standing, after.db.standing operationId = some standing ∧
    clean.db.standing operationId = some standing ∧ standing.NoBackoff last

/-- The condition under which nothing is left of the polls that raised. -/
def Operation.ForgetsExceptions (operation : Operation) (before : List PollAnswer)
    (last : TaskState) : Prop :=
  last = .succeeded ∨
  match operation.operationType with
  | .vmCreate => True
  | .vmStart => last = .running ∨
      match before.getLast? with
      | none => operation.phase ≠ some "poll_backoff"
      | some answer => answer.isOk
  | .vmReboot => last = .failed ∨
      (∀ answer ∈ before, answer.isOk) ∧
        operation.lastErrorCode ≠ some "provider_status_unavailable"
  | .vmShutdown | .vmStop | .vmDelete =>
      (∀ answer ∈ before, answer.isOk) ∧ operation.phase ≠ some "poll_backoff" ∧
        (last = .failed ∨ operation.lastErrorCode ≠ some "provider_status_unavailable")

/-! ## The columns which a poll writes -/

/-- The columns a poll may change while the task runs. -/
structure PollColumns where
  phase : Option String
  lastErrorCode : Option String

def Operation.pollColumns (operation : Operation) : PollColumns where
  phase := operation.phase
  lastErrorCode := operation.lastErrorCode

namespace Stage

/-- The columns after a poll that did not end the task. -/
def unfinished (stage : Stage) (columns : PollColumns) : PollAnswer → PollColumns
  | .error _ => ⟨some stage.backoffPhase, some "provider_status_unavailable"⟩
  | .ok _ => {
      phase := if stage.endsBackoff then some stage.taskPhase else columns.phase
      lastErrorCode := if stage.clearsError then none else columns.lastErrorCode }

/-- A task that failed leaves the phase as it is. -/
def KeepsPhase (stage : Stage) : Prop :=
  stage = .start ∨ stage.endsBackoff = false

instance : DecidablePred KeepsPhase := fun _ => inferInstanceAs (Decidable (_ ∨ _))

/-- The standing after the last poll. -/
def ended (stage : Stage) (task : Option String) (last : ProviderTaskStatus)
    (columns : PollColumns) : Standing :=
  match last.status with
  | .running => {
      status := .processing
      phase := (stage.unfinished columns (.ok last)).phase
      providerTaskId := task
      lastErrorCode := (stage.unfinished columns (.ok last)).lastErrorCode
      vmStatus := some stage.waitStatus }
  | .succeeded => {
      status := stage.after.status
      phase := stage.after.phases.head?.join
      providerTaskId := none
      lastErrorCode := none
      vmStatus := some (stage.pollChange.newStatus stage.waitStatus) }
  | .failed => {
      status := .failed
      phase := if stage.KeepsPhase then columns.phase else some stage.taskPhase
      providerTaskId := task
      lastErrorCode := some (failureCode last)
      vmStatus := some (stage.failChange.newStatus stage.waitStatus) }

/-- The change of the VM row by the last poll. -/
def endChange (stage : Stage) : TaskState → VmChange
  | .running => .keep
  | .succeeded => stage.pollChange
  | .failed => stage.failChange

end Stage

section Rows

variable {stage : Stage} {stamp : Time} {operation : Operation} {vm : VirtualMachine}
  {backoff : Bool}

/-- Of a poll that does not end the task the columns are left. -/
theorem Stage.polled_unfinished (stage : Stage) (stamp : Time) (operation : Operation)
    (vm : VirtualMachine) {answer : PollAnswer}
    (running : ∀ status, answer = .ok status → status.status = .running) :
    (stage.polled stamp operation vm answer).operation.pollColumns =
        stage.unfinished operation.pollColumns answer ∧
      (stage.polled stamp operation vm answer).operation.providerTaskId =
        operation.providerTaskId := by
  cases answer with
  | error error => exact ⟨rfl, rfl⟩
  | ok status => simp [polled, running status rfl, unfinished, Operation.pollColumns]

theorem Stage.polled_vm (last : ProviderTaskStatus) :
    (stage.polled stamp operation vm (.ok last)).vm = (stage.endChange last.status).write vm := by
  cases state : last.status <;> simp [polled, state, endChange, VmChange.write]

theorem Stage.completed_phase (stage : Stage) (operation : Operation) :
    (stage.completed operation).phase = stage.after.phases.head?.join := by
  cases stage <;> rfl

/-- The row after the last poll. -/
theorem Stage.polled_standing (last : ProviderTaskStatus)
    (atStage : (Position.polling stage backoff).Matches operation) :
    (stage.polled stamp operation vm (.ok last)).operation.standing
        (some ((stage.endChange last.status).newStatus stage.waitStatus)) =
      stage.ended operation.providerTaskId last operation.pollColumns := by
  have status : operation.status = .processing := atStage.status
  cases state : last.status with
  | running =>
      simpa [polled, state, Operation.standing, ended, unfinished, Operation.pollColumns,
        endChange, VmChange.newStatus] using status
  | succeeded =>
      have phase := stage.completed_phase operation
      have reached := (stage.completed_matches atStage.operationType).status
      have noTask : (stage.completed operation).providerTaskId = none := by
        cases stage <;> rfl
      simp [polled, state, Operation.standing, ended, endChange, phase, reached, noTask]
  | failed =>
      simp only [polled, state, Operation.standing, ended, endChange, Operation.pollColumns,
        KeepsPhase]
      cases stage <;> rfl

end Rows

/-! ## The steps of a run -/

/-- The VM row as it is committed. -/
theorem Database.flush_virtualMachine? {db next : Database} {operation : Operation}
    {vm : VirtualMachine} {changes : Changes} {change : VmChange} {dbNow : Time}
    (vmStored : db.virtualMachine? operation.virtualMachineId = some vm)
    (written : changes.vm = change.write vm)
    (flushed : db.flush dbNow operation changes = some next) :
    next.virtualMachine? operation.virtualMachineId = some (change.apply vm) := by
  rcases Database.virtualMachine?_eq_some_iff.mp vmStored with ⟨vmMem, vmId⟩
  rw [Database.virtualMachine?_eq_some_iff, Database.commit_eq_some flushed, written]
  refine ⟨?_, by rw [VmChange.apply_id, vmId]⟩
  cases change with
  | keep => exact vmMem
  | _ => exact KeyedRows.mem_replace.mpr (.inl ⟨rfl, vm, vmMem, rfl⟩)

theorem Operation.onUpdate_standing (before after : Operation) (dbNow : Time)
    (vmStatus : Option VmStatus) :
    (before.onUpdate after dbNow).standing vmStatus = after.standing vmStatus := by
  unfold Operation.onUpdate
  split
  · rfl
  · split <;> rfl

section Steps

variable {world next : World} {event : Event} {operation : Operation} {stage : Stage}
  {backoff : Bool}

/-- The selecting transaction a step consists of. -/
theorem exists_select_of_step {exchanges : List Exchange} {committed : Option Operation}
    (step : portal.step world (.selected operation exchanges committed) next) :
    ∃ now locked provider stamp dbNow, Selects now locked world.db operation ∧
      world.selectStep operation provider stamp dbNow =
        (.selected operation exchanges committed, next) := by
  rcases step with ⟨action, step⟩
  cases action with
  | select now locked operationId provider stamp dbNow =>
      simp only [World.step?] at step
      split at step
      · cases step
      · rename_i selected _
        split at step
        · rename_i selects
          rcases world.selectStep_label selected provider stamp dbNow with
            ⟨exchanges, committed, label⟩
          have same := Option.some.inj step
          rw [same] at label
          cases label
          exact ⟨now, locked, provider, stamp, dbNow, selects, same⟩
        · cases step
  | createVm => simp [World.step?] at step
  | enqueue => simp [World.step?] at step
  | administer administration =>
      simp only [World.step?] at step
      split at step
      · cases step
      · split at step <;> cases step
  | submit index provider =>
      simp only [World.step?] at step
      split at step <;> cases step
  | store index stamp dbNow =>
      simp only [World.step?] at step
      split at step
      · split at step <;> cases step
      · cases step
  | lose index =>
      simp only [World.step?] at step
      split at step <;> cases step

theorem Event.poll?_eq_some {answer : PollAnswer}
    (polls : event.poll? operation.id = some answer) :
    ∃ selected task updated, selected.id = operation.id ∧
      event = .selected selected [⟨.getTaskStatus task, answer⟩] (some updated) := by
  unfold Event.poll? at polls
  split at polls
  · rename_i selected task given updated
    split at polls
    · cases polls
      exact ⟨selected, task, updated, by assumption, rfl⟩
    · cases polls
  · cases polls

/-- A step which does not poll the task keeps the row. -/
theorem Progress.kept_of_polling (progress : Progress world event next)
    (stored : operation ∈ world.db.operations)
    (atStage : (Position.polling stage backoff).Matches operation)
    (noPoll : event.poll? operation.id = none) : operation ∈ next.db.operations := by
  rcases progress.row stored with kept | ⟨evidence, updated, vm, position, reached, change,
    moved, given⟩
  · exact kept
  · have isPolling := moved.atPosition.unique atStage
    have advance := moved.advance
    subst isPolling
    have polled : ∃ answer, evidence = .polled answer := by
      cases advance with
      | pollRunning | pollSucceeded | pollFailed | pollRaised => exact ⟨_, rfl⟩
      | confirmed _ _ _ awaits => simp [Position.Awaits] at awaits
      | unconfirmed _ _ _ awaits => simp [Position.Awaits] at awaits
      | readRaised _ _ _ awaits => simp [Position.Awaits] at awaits
      | review _ _ awaits => simp [Position.Awaits] at awaits
      | storeTask _ _ _ _ _ waiting => simp at waiting
    rcases polled with ⟨answer, rfl⟩
    rcases given with ⟨_, rfl, _, _, _, _, rfl⟩
    simp [Event.poll?] at noPoll

/-- A step which polls the task writes the row of the stage. -/
theorem exists_polled_of_step (sound : world.Sound) (step : portal.step world event next)
    (stored : operation ∈ world.db.operations)
    (atStage : (Position.polling stage backoff).Matches operation) {answer : PollAnswer}
    (polls : event.poll? operation.id = some answer) :
    ∃ stamp dbNow vm, world.db.virtualMachine? operation.virtualMachineId = some vm ∧
      vm.status = stage.waitStatus ∧
      world.db.flush dbNow operation (stage.polled stamp operation vm answer) = some next.db := by
  rcases Event.poll?_eq_some polls with ⟨selected, task, updated, sameId, rfl⟩
  rcases exists_select_of_step step with ⟨now, locked, provider, stamp, dbNow, selects, selecting⟩
  obtain rfl : selected = operation :=
    KeyedRows.eq_of_key_eq world.db.valid.operationIds selects.stored stored sameId
  rcases sound.db.ready stored with ⟨position, vm, atPosition, _, _, prepared⟩
  rcases atPosition.unique atStage with rfl
  rcases prepared id with ⟨ready, status⟩
  rcases ready.placed_of_ne (by simp) with ⟨target, placed⟩
  rcases runSelected_polling stamp placed atStage with ⟨taskId, _, computed⟩
  refine ⟨stamp, dbNow, vm, ready.vmStored, by simpa [Position.vmStatuses] using status, ?_⟩
  unfold World.selectStep at selecting
  rw [computed, Program.run_call, Program.run_done] at selecting
  simp only at selecting
  split at selecting
  · cases selecting
  · rename_i db flushed
    simp only [Prod.mk.injEq, Event.selected.injEq, true_and, List.cons.injEq, and_true]
      at selecting
    rcases selecting with ⟨⟨same, _⟩, rfl⟩
    cases same
    exact flushed

/-- Along the polls which do not end the task the row stays at its stage and its columns are
those the polls have written. -/
theorem polling_of_run {history : List Event} {before : List PollAnswer}
    (reachable : portal.Reachable world) (run : portal.Run world history next)
    (stored : operation ∈ world.db.operations)
    (atStage : (Position.polling stage backoff).Matches operation)
    (polls : history.filterMap (·.poll? operation.id) = before)
    (unfinished : ∀ status, .ok status ∈ before → status.status = .running) :
    ∃ updated ∈ next.db.operations, operation.SameIdentity updated ∧
      (∃ backoff, (Position.polling stage backoff).Matches updated) ∧
      updated.providerTaskId = operation.providerTaskId ∧
      updated.pollColumns = before.foldl stage.unfinished operation.pollColumns := by
  induction run generalizing before with
  | nil =>
      subst polls
      exact ⟨operation, stored, .refl operation, ⟨backoff, atStage⟩, rfl, rfl⟩
  | @snoc middle target earlier event run last ih =>
      rw [List.filterMap_append] at polls
      rcases ih rfl
          (fun status isThere => unfinished status (polls ▸ List.mem_append_left _ isThere))
        with ⟨row, rowMem, identity, ⟨marked, atRow⟩, task, columns⟩
      rcases reachable with ⟨source, first, initial, toWorld⟩
      have sound := sound_of_reachable ⟨source, _, initial, toWorld.append run⟩
      cases polled : event.poll? row.id with
      | none =>
          refine ⟨row, (step_progress sound last).kept_of_polling rowMem atRow polled, identity,
            ⟨marked, atRow⟩, task, ?_⟩
          rw [columns, ← polls]
          simp [← identity.id, polled]
      | some answer =>
          have isLast : before = earlier.filterMap (·.poll? operation.id) ++ [answer] := by
            rw [← polls]
            simp [← identity.id, polled]
          have running : ∀ status, answer = .ok status → status.status = .running := by
            rintro status rfl
            exact unfinished status (by simp [isLast])
          rcases exists_polled_of_step sound last rowMem atRow polled with
            ⟨stamp, dbNow, vm, _, _, flushed⟩
          rcases stage.polled_unfinished stamp row vm running with ⟨columnsAfter, taskAfter⟩
          have refines : ∃ reached, (stage.polled stamp row vm answer).Refines (.polled answer)
              (.polling stage marked) row vm reached := Stage.polled_refines answer atRow
          rcases refines with ⟨reached, change, advance, atReached, same, _⟩
          have isPolling : ∃ marked, reached = .polling stage marked := by
            cases advance with
            | pollRunning => exact ⟨_, rfl⟩
            | pollRaised => exact ⟨_, rfl⟩
            | pollSucceeded _ _ status succeeded => simp [running status rfl] at succeeded
            | pollFailed _ _ status failed => simp [running status rfl] at failed
          rcases isPolling with ⟨later, rfl⟩
          refine ⟨row.onUpdate (stage.polled stamp row vm answer).operation dbNow,
            (Database.operation?_eq_some_iff.mp
              (Database.flush_operation? rowMem same flushed)).1,
            identity.trans (Operation.onUpdate_sameIdentity dbNow same),
            ⟨later, atReached.onUpdate dbNow⟩, ?_, ?_⟩
          · have standing := row.onUpdate_standing (stage.polled stamp row vm answer).operation
              dbNow none
            rw [← task, ← taskAfter]
            exact congrArg Standing.providerTaskId standing
          · have standing := row.onUpdate_standing (stage.polled stamp row vm answer).operation
              dbNow none
            rw [isLast, List.foldl_append, List.foldl_cons, List.foldl_nil, ← columns,
              ← columnsAfter]
            exact congrArg (fun standing => PollColumns.mk standing.phase standing.lastErrorCode)
              standing

/-- The standing after all polls of a task. -/
theorem World.Polls.standing {before : List PollAnswer} {last : ProviderTaskStatus}
    (polls : world.Polls operation before last next) (reachable : portal.Reachable world)
    (stored : operation ∈ world.db.operations)
    (atStage : (Position.polling stage backoff).Matches operation) :
    next.db.standing operation.id = some (stage.ended operation.providerTaskId last
      (before.foldl stage.unfinished operation.pollColumns)) := by
  rcases polls.run with ⟨history, middle, event, run, asked, step, polled⟩
  rcases polling_of_run reachable run stored atStage asked polls.unfinished with
    ⟨row, rowMem, identity, ⟨marked, atRow⟩, task, columns⟩
  rcases reachable with ⟨source, first, initial, toWorld⟩
  have sound := sound_of_reachable ⟨source, _, initial, toWorld.append run⟩
  rw [← identity.id] at polled
  rcases exists_polled_of_step sound step rowMem atRow polled with
    ⟨stamp, dbNow, vm, vmStored, waits, flushed⟩
  have refines : ∃ reached, (stage.polled stamp row vm (.ok last)).Refines (.polled (.ok last))
      (.polling stage marked) row vm reached := Stage.polled_refines (.ok last) atRow
  rcases refines with ⟨reached, change, advance, atReached, same, written, _⟩
  have found := Database.flush_operation? rowMem same flushed
  have vmFound := Database.flush_virtualMachine? vmStored (Stage.polled_vm last) flushed
  have sameVm := (Operation.onUpdate_sameIdentity dbNow same).virtualMachineId
  rw [Database.standing, ← identity.id, found, Option.map_some, sameVm, vmFound, Option.map_some,
    Operation.onUpdate_standing, VmChange.apply_status, waits, Stage.polled_standing last atRow,
    task, columns]

end Steps

/-! ## Every sequence of answers is polled in some run -/

section Existence

variable {world : World} {operation : Operation} {stage : Stage} {backoff : Bool}

/-- An adapter which answers polls with this answer and nothing else. -/
def pollingProvider (answer : PollAnswer) : Provider := fun _ call =>
  match call with
  | .getTaskStatus _ => answer
  | _ => .error (.provider "unavailable")

/-- The task is polled by a worker which finds no other row unlocked. -/
theorem exists_poll (reachable : portal.Reachable world) (stored : operation ∈ world.db.operations)
    (atStage : (Position.polling stage backoff).Matches operation) (answer : PollAnswer)
    (fits : (Evidence.polled answer).Fits) :
    ∃ event next, portal.step world event next ∧ event.poll? operation.id = some answer := by
  let now := operation.updatedAt + dispatchGrace
  let locked := (world.db.operations.map (·.id)).filter (· ≠ operation.id)
  have selects : Selects now locked world.db operation := by
    refine ⟨stored, by simp [locked], atStage.eligible_of_processed trivial le_rfl, ?_⟩
    intro other otherMem unlocked _
    by_contra younger
    refine unlocked (List.mem_filter.mpr ⟨List.mem_map_of_mem otherMem, ?_⟩)
    rw [decide_eq_true_eq]
    intro same
    rcases KeyedRows.eq_of_key_eq world.db.valid.operationIds otherMem stored same with rfl
    exact younger le_rfl
  have found : world.db.operation? operation.id = some operation :=
    Database.operation?_eq_some_iff.mpr ⟨stored, rfl⟩
  have performed : portal.step world
      (world.selectStep operation (pollingProvider answer) now now).1
      (world.selectStep operation (pollingProvider answer) now now).2 := by
    refine ⟨.select now locked operation.id (pollingProvider answer) now now, ?_⟩
    simp only [World.step?, found, if_pos selects]
  refine ⟨_, _, performed, ?_⟩
  rcases (sound_of_reachable reachable).db.ready stored with ⟨position, vm, atPosition, vmMem, _,
    prepared⟩
  rcases atPosition.unique atStage with rfl
  rcases (prepared id).1.placed_of_ne (by simp) with ⟨target, placed⟩
  rcases runSelected_polling now placed atStage with ⟨taskId, _, computed⟩
  have vmMem := (Database.virtualMachine?_eq_some_iff.mp placed.vmStored).1
  have moves : ∃ reached, (stage.polled now operation vm answer).Refines (.polled answer)
      (.polling stage backoff) operation vm reached := Stage.polled_refines answer atStage
  rcases moves with ⟨reached, refines⟩
  rcases refines.exists_flush now stored vmMem (by simp) fits with ⟨next, flushed⟩
  unfold World.selectStep
  rw [computed, Program.run_call, Program.run_done]
  simp only [pollingProvider, flushed]
  simp [Event.poll?, Database.flush_operation? stored refines.identity flushed]

/-- The polls of a task may have any answers; a failed task with an error code that its column
does not take is polled again. -/
theorem exists_polls (reachable : portal.Reachable world) (stored : operation ∈ world.db.operations)
    (atStage : (Position.polling stage backoff).Matches operation) (before : List PollAnswer)
    (last : ProviderTaskStatus) (unfinished : ∀ status, .ok status ∈ before →
      status.status = .running)
    (fits : last.status = .failed → Sql.FitsVarchar 100 (failureCode last)) :
    ∃ after, world.Polls operation before last after := by
  have polled : ∀ history middle, portal.Run world history middle →
      (∀ status, .ok status ∈ history.filterMap (·.poll? operation.id) →
        status.status = .running) → ∀ answer, (Evidence.polled answer).Fits →
      ∃ event next, portal.step middle event next ∧ event.poll? operation.id = some answer := by
    intro history middle run running answer answerFits
    rcases polling_of_run reachable run stored atStage rfl running with
      ⟨row, rowMem, identity, ⟨marked, atRow⟩, _⟩
    rcases reachable with ⟨source, first, initial, toWorld⟩
    rw [← identity.id]
    exact exists_poll ⟨source, _, initial, toWorld.append run⟩ rowMem atRow answer answerFits
  have reaches : ∃ history middle, portal.Run world history middle ∧
      history.filterMap (·.poll? operation.id) = before := by
    induction before using List.reverseRecOn with
    | nil => exact ⟨[], world, .nil, rfl⟩
    | append_singleton earlier answer ih =>
        rcases ih (fun status isThere => unfinished status (List.mem_append_left _ isThere)) with
          ⟨history, middle, run, asked⟩
        have answerFits : (Evidence.polled answer).Fits := by
          cases answer with
          | error error => trivial
          | ok status =>
              intro failed
              simp [unfinished status (by simp)] at failed
        rcases polled history middle run (fun status isThere => unfinished status
          (List.mem_append_left _ (asked ▸ isThere))) answer answerFits with
          ⟨event, next, step, polls⟩
        exact ⟨history ++ [event], next, run.snoc step, by simp [asked, polls]⟩
  rcases reaches with ⟨history, middle, run, asked⟩
  rcases polled history middle run (asked ▸ unfinished) (.ok last) fits with
    ⟨event, next, step, polls⟩
  exact ⟨next, ⟨history, middle, event, run, asked, step, polls⟩, unfinished⟩

end Existence

/-! ## What the polls that raised leave -/

section Columns

variable {stage : Stage} {columns : PollColumns} {before : List PollAnswer}

/-- Where no poll clears the error code one exception leaves it for good. -/
theorem Stage.foldl_lastErrorCode (keeps : stage.clearsError = false) (columns : PollColumns)
    (before : List PollAnswer) :
    (before.foldl stage.unfinished columns).lastErrorCode =
      if ∀ answer ∈ before, answer.isOk then columns.lastErrorCode
      else some "provider_status_unavailable" := by
  induction before generalizing columns with
  | nil => simp
  | cons answer rest ih =>
      rw [List.foldl_cons, ih]
      cases answer with
      | error error =>
          have raised : ¬∀ entry ∈ (.error error :: rest : List PollAnswer), entry.isOk :=
            fun all => Bool.false_ne_true (all _ List.mem_cons_self)
          rw [if_neg raised]
          exact ite_self _
      | ok status =>
          have isOk : Except.isOk (.ok status : PollAnswer) = true := rfl
          simp [unfinished, keeps, isOk]

/-- Where no poll ends the back-off one exception leaves its phase for good. -/
theorem Stage.foldl_phase (keeps : stage.endsBackoff = false) (columns : PollColumns)
    (before : List PollAnswer) :
    (before.foldl stage.unfinished columns).phase =
      if ∀ answer ∈ before, answer.isOk then columns.phase else some stage.backoffPhase := by
  induction before generalizing columns with
  | nil => simp
  | cons answer rest ih =>
      rw [List.foldl_cons, ih]
      cases answer with
      | error error =>
          have raised : ¬∀ entry ∈ (.error error :: rest : List PollAnswer), entry.isOk :=
            fun all => Bool.false_ne_true (all _ List.mem_cons_self)
          rw [if_neg raised]
          exact ite_self _
      | ok status =>
          have isOk : Except.isOk (.ok status : PollAnswer) = true := rfl
          simp [unfinished, keeps, isOk]

/-- Elsewhere the last poll decides the phase. -/
theorem Stage.foldl_phase_of_endsBackoff (ends : stage.endsBackoff = true)
    (columns : PollColumns) (before : List PollAnswer) :
    (before.foldl stage.unfinished columns).phase =
      match before.getLast? with
      | none => columns.phase
      | some answer => some (if answer.isOk then stage.taskPhase else stage.backoffPhase) := by
  rcases before.eq_nil_or_concat with rfl | ⟨earlier, answer, rfl⟩
  · rfl
  · cases answer <;> simp [unfinished, ends, Except.isOk, Except.toBool]

/-- The phases which the worker takes for a back-off. -/
theorem Stage.startswith_backoff (stage : Stage) :
    startswith stage.taskPhase "poll_backoff" = false ∧
      startswith stage.backoffPhase "poll_backoff" = true ∧
      startswith (stage.after.phases.head?.join.getD "") "poll_backoff" = false := by
  revert stage
  decide

/-- The error code without the polls that raised. -/
theorem Stage.lastErrorCode_filter_iff (keeps : stage.clearsError = false) :
    ((before.foldl stage.unfinished columns).lastErrorCode =
        ((before.filter (·.isOk)).foldl stage.unfinished columns).lastErrorCode ∧
      (before.foldl stage.unfinished columns).lastErrorCode ≠ some "provider_status_unavailable") ↔
      (∀ answer ∈ before, answer.isOk) ∧
        columns.lastErrorCode ≠ some "provider_status_unavailable" := by
  rw [foldl_lastErrorCode keeps, foldl_lastErrorCode keeps,
    if_pos fun answer isThere => (List.mem_filter.mp isThere).2]
  by_cases noneRaised : ∀ answer ∈ before, answer.isOk
  · rw [if_pos noneRaised]
    exact ⟨fun ⟨_, cleared⟩ => ⟨noneRaised, cleared⟩, fun ⟨_, cleared⟩ => ⟨rfl, cleared⟩⟩
  · rw [if_neg noneRaised]
    exact ⟨fun ⟨_, cleared⟩ => absurd rfl cleared, fun ⟨all, _⟩ => absurd all noneRaised⟩

/-- The phase without the polls that raised, where no poll ends the back-off. -/
theorem Stage.phase_filter_iff (keeps : stage.endsBackoff = false) :
    ((before.foldl stage.unfinished columns).phase =
        ((before.filter (·.isOk)).foldl stage.unfinished columns).phase ∧
      startswith ((before.foldl stage.unfinished columns).phase.getD "") "poll_backoff" = false) ↔
      (∀ answer ∈ before, answer.isOk) ∧
        startswith (columns.phase.getD "") "poll_backoff" = false := by
  rw [foldl_phase keeps, foldl_phase keeps,
    if_pos fun answer isThere => (List.mem_filter.mp isThere).2]
  by_cases noneRaised : ∀ answer ∈ before, answer.isOk
  · rw [if_pos noneRaised]
    exact ⟨fun ⟨_, cleared⟩ => ⟨noneRaised, cleared⟩, fun ⟨_, cleared⟩ => ⟨rfl, cleared⟩⟩
  · rw [if_neg noneRaised, Option.getD_some, stage.startswith_backoff.2.1]
    exact ⟨fun ⟨_, cleared⟩ => absurd cleared (by simp), fun ⟨all, _⟩ => absurd all noneRaised⟩

/-- The same where a poll ends it. -/
theorem Stage.phase_filter_iff_of_endsBackoff (ends : stage.endsBackoff = true) :
    ((before.foldl stage.unfinished columns).phase =
        ((before.filter (·.isOk)).foldl stage.unfinished columns).phase ∧
      startswith ((before.foldl stage.unfinished columns).phase.getD "") "poll_backoff" = false) ↔
      match before.getLast? with
      | none => startswith (columns.phase.getD "") "poll_backoff" = false
      | some answer => answer.isOk := by
  rw [foldl_phase_of_endsBackoff ends, foldl_phase_of_endsBackoff ends]
  rcases before.eq_nil_or_concat with rfl | ⟨earlier, answer, rfl⟩
  · simp
  · cases answed : answer.isOk <;>
      simp [List.filter_append, answed, stage.startswith_backoff]

end Columns

section Transparency

variable {world after clean : World} {operation : Operation} {stage : Stage} {backoff : Bool}
  {before : List PollAnswer} {last : ProviderTaskStatus}

/-- The standings after the last poll, with and without the polls that raised. -/
theorem Stage.ended_filter_iff (stage : Stage) (task : Option String) (columns : PollColumns)
    (before : List PollAnswer) (last : ProviderTaskStatus) :
    (stage.ended task last (before.foldl stage.unfinished columns) =
        stage.ended task last ((before.filter (·.isOk)).foldl stage.unfinished columns) ∧
      (stage.ended task last (before.foldl stage.unfinished columns)).NoBackoff last.status) ↔
      match last.status with
      | .succeeded => True
      | .running =>
          (stage.endsBackoff = false → (∀ answer ∈ before, answer.isOk) ∧
            startswith (columns.phase.getD "") "poll_backoff" = false) ∧
          (stage.clearsError = false → (∀ answer ∈ before, answer.isOk) ∧
            columns.lastErrorCode ≠ some "provider_status_unavailable")
      | .failed => stage.KeepsPhase →
          if stage.endsBackoff then
            match before.getLast? with
            | none => startswith (columns.phase.getD "") "poll_backoff" = false
            | some answer => answer.isOk
          else (∀ answer ∈ before, answer.isOk) ∧
            startswith (columns.phase.getD "") "poll_backoff" = false := by
  rcases stage.startswith_backoff with ⟨taskPhase, _, donePhase⟩
  cases state : last.status with
  | succeeded =>
      simp only [ended, state, iff_true]
      exact ⟨trivial, donePhase, .inr (by simp)⟩
  | running =>
      rw [forall_congr' fun keeps => (phase_filter_iff keeps).symm,
        forall_congr' fun keeps => (lastErrorCode_filter_iff keeps).symm]
      simp only [ended, state, unfinished, Standing.noBackoff_iff, Standing.mk.injEq, true_and,
        and_true, reduceCtorEq, false_or]
      cases ends : stage.endsBackoff <;> cases clears : stage.clearsError <;>
        simp [taskPhase, and_assoc, and_left_comm]
  | failed =>
      simp only [ended, state, Standing.noBackoff_iff, Standing.mk.injEq, true_and, and_true,
        true_or]
      by_cases keeps : stage.KeepsPhase
      · cases ends : stage.endsBackoff with
        | true => simpa [keeps] using phase_filter_iff_of_endsBackoff ends
        | false => simpa [keeps] using phase_filter_iff ends
      · simp [keeps, taskPhase]

/-- The condition at a row that is polled. -/
theorem forgetsExceptions_iff (atStage : (Position.polling stage backoff).Matches operation) :
    operation.ForgetsExceptions before last.status ↔
      match last.status with
      | .succeeded => True
      | .running =>
          (stage.endsBackoff = false → (∀ answer ∈ before, answer.isOk) ∧
            startswith (operation.phase.getD "") "poll_backoff" = false) ∧
          (stage.clearsError = false → (∀ answer ∈ before, answer.isOk) ∧
            operation.lastErrorCode ≠ some "provider_status_unavailable")
      | .failed => stage.KeepsPhase →
          if stage.endsBackoff then
            match before.getLast? with
            | none => startswith (operation.phase.getD "") "poll_backoff" = false
            | some answer => answer.isOk
          else (∀ answer ∈ before, answer.isOk) ∧
            startswith (operation.phase.getD "") "poll_backoff" = false := by
  have phase := atStage.phase_of_polling
  have kind : operation.operationType = stage.operationType := atStage.operationType
  have marked : startswith (operation.phase.getD "") "poll_backoff" = backoff := by
    rcases stage.startswith_backoff with ⟨taskPhase, backoffPhase, _⟩
    rw [phase]
    cases backoff with
    | false => exact taskPhase
    | true => exact backoffPhase
  unfold Operation.ForgetsExceptions
  rw [kind, marked, phase]
  cases state : last.status <;> cases stage <;> cases backoff <;>
    simp +decide [Stage.operationType]

/-- The task of an operation that is polled is not a task of one that has failed. -/
theorem World.Polls.exists_stage (polls : world.Polls operation before last after)
    (reachable : portal.Reachable world) (stored : operation ∈ world.db.operations)
    (task : operation.providerTaskId.isSome) :
    ∃ stage backoff, (Position.polling stage backoff).Matches operation := by
  rcases (sound_of_reachable reachable).db.ready stored with ⟨position, _, atPosition, _⟩
  have hasTask := atPosition.task
  rw [task] at hasTask
  cases position with
  | polling stage backoff => exact ⟨stage, backoff, atPosition⟩
  | failed stage =>
      rcases polls.run with ⟨history, middle, event, run, _, step, polled⟩
      rcases forward_of_run reachable run stored with ⟨row, rowMem, forward⟩
      rcases forward.final (by simp [Operation.Active, atPosition.status, Position.status]) with rfl
      rcases Event.poll?_eq_some polled with ⟨selected, _, _, sameId, rfl⟩
      rcases exists_select_of_step step with ⟨now, _, _, _, _, selects, _⟩
      obtain rfl : selected = row :=
        KeyedRows.eq_of_key_eq middle.db.valid.operationIds selects.stored rowMem sameId
      exact False.elim (atPosition.eligible_iff_due.mp selects.eligible)
  | _ => cases hasTask

/-- The polls that raised leave nothing behind exactly when the operation forgets them. -/
theorem failedPolls_forgotten_iff (reachable : portal.Reachable world)
    (stored : operation ∈ world.db.operations) (task : operation.providerTaskId.isSome)
    (polls : world.Polls operation before last after)
    (without : world.Polls operation (before.filter (·.isOk)) last clean) :
    Transparent operation.id last.status after clean ↔
      operation.ForgetsExceptions before last.status := by
  rcases polls.exists_stage reachable stored task with ⟨stage, backoff, atStage⟩
  rw [forgetsExceptions_iff atStage]
  refine Iff.trans ?_ (stage.ended_filter_iff operation.providerTaskId operation.pollColumns before
    last)
  unfold Transparent
  rw [polls.standing reachable stored atStage, without.standing reachable stored atStage]
  constructor
  · rintro ⟨standing, isAfter, isClean, cleared⟩
    cases isAfter
    exact ⟨(Option.some.inj isClean).symm, cleared⟩
  · rintro ⟨same, cleared⟩
    exact ⟨_, rfl, congrArg some same.symm, cleared⟩

end Transparency

/-! ## A poll that raised and one that found the task running -/

/-- The task of a stop is stored. -/
def sampleStopTask : List Action :=
  sampleRunningVm ++
  [.enqueue ⟨0, 42, 6⟩ 1 31 .vmStop "stop",
    .select 7 [] 42 (sampleProvider .running .running) 7 7,
    .submit 0 (sampleProvider .running .running), .store 0 8 8]

def sampleStopOperation : Operation where
  id := 42
  virtualMachineId := 31
  operationType := .vmStop
  status := .processing
  phase := some "await_task"
  idempotencyKey := "stop"
  attempts := 1
  lastErrorCode := none
  providerTaskId := some "UPID:stop"
  updatedAt := 8

def sampleFailedPoll : Action := .select 9 [] 42 unavailableProvider 9 9

def sampleRunningPoll : Action :=
  .select (9 + reconcileDelay) [] 42 (sampleProvider .running .running) 10 10

/-- The polls which actions perform. -/
theorem World.polls_of_perform {world : World} {operation : Operation} {actions : List Action}
    {last : Action} {status : ProviderTaskStatus} {before : List PollAnswer}
    (asked : (world.perform actions).1.filterMap (·.poll? operation.id) = before)
    (performed : ∃ event, step? last (world.perform actions).2 =
      some (event, ((world.perform actions).2.perform [last]).2) ∧
        event.poll? operation.id = some (.ok status))
    (unfinished : ∀ status, .ok status ∈ before → status.status = .running) :
    world.Polls operation before status ((world.perform actions).2.perform [last]).2 := by
  rcases performed with ⟨event, stepped, polled⟩
  exact ⟨⟨_, _, event, world.perform_run actions, asked, ⟨last, stepped⟩, polled⟩, unfinished⟩

def sampleStopWorld : World := (World.initial.perform sampleStopTask).2

def sampleStopAfter : World :=
  ((sampleStopWorld.perform [sampleFailedPoll]).2.perform [sampleRunningPoll]).2

/-- The same without the poll that raised. -/
def sampleStopClean : World := ((sampleStopWorld.perform []).2.perform [sampleRunningPoll]).2

set_option maxRecDepth 10000 in
theorem sampleStopAfter_polls :
    sampleStopWorld.Polls sampleStopOperation [.error (.provider "unavailable")]
      { status := .running } sampleStopAfter :=
  World.polls_of_perform rfl ⟨_, rfl, rfl⟩ (by simp)

set_option maxRecDepth 10000 in
theorem sampleStopClean_polls :
    sampleStopWorld.Polls sampleStopOperation [] { status := .running } sampleStopClean :=
  World.polls_of_perform rfl ⟨_, rfl, rfl⟩ (by simp)

theorem sampleStopWorld_reachable : portal.Reachable sampleStopWorld :=
  World.perform_reachable sampleStopTask

set_option maxRecDepth 10000 in
theorem sampleStopOperation_stored : sampleStopOperation ∈ sampleStopWorld.db.operations := by
  decide +kernel

theorem sampleStop_forgotten_iff :
    Transparent 42 .running sampleStopAfter sampleStopClean ↔
      sampleStopOperation.ForgetsExceptions [.error (.provider "unavailable")] .running :=
  failedPolls_forgotten_iff sampleStopWorld_reachable sampleStopOperation_stored rfl
    sampleStopAfter_polls sampleStopClean_polls

set_option maxRecDepth 10000 in
theorem sampleStopAfter_standing :
    sampleStopAfter.db.standing 42 = some {
      status := .processing
      phase := some "poll_backoff"
      providerTaskId := some "UPID:stop"
      lastErrorCode := some "provider_status_unavailable"
      vmStatus := some .running } := rfl

/-- The poll that found the task running left the back-off as it was. -/
theorem sampleStop_not_transparent :
    ¬∀ (world : World) (operation : Operation) (before : List PollAnswer)
      (last : ProviderTaskStatus) (after clean : World), portal.Reachable world →
      operation ∈ world.db.operations → operation.providerTaskId.isSome →
      world.Polls operation before last after →
      world.Polls operation (before.filter (·.isOk)) last clean →
      Transparent operation.id last.status after clean := by
  intro always
  rcases always sampleStopWorld sampleStopOperation _ _ sampleStopAfter sampleStopClean
    sampleStopWorld_reachable sampleStopOperation_stored rfl sampleStopAfter_polls
    sampleStopClean_polls with ⟨standing, isAfter, _, cleared⟩
  cases sampleStopAfter_standing.symm.trans isAfter
  exact absurd cleared.phase (by decide)

end NpdPortal
