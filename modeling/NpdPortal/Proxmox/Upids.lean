import NpdPortal.Proxmox.Hosting
import NpdPortal.Proxmox.Nodes
import NpdPortal.Proxmox.Paths
import NpdPortal.Runs.LateOutcomes

/-!
# The identifiers of tasks

The portal stores the identifier of a task as a text and later polls the task
with it.  Here the text is followed from the answer of the provider through the
row of the operation to the path of the poll.
-/

namespace NpdPortal

open PyJson ProxmoxClient

/-- The call sent a request that changes something, and the answer is this identifier of a task. -/
def HttpProxmoxAdapter.Answered (adapter : HttpProxmoxAdapter) (call : AdapterCall)
    (server : HttpServer) (taskId : String) : Prop :=
  ∃ request body, ⟨request, .ok body⟩ ∈ (Program.run server 0 (adapter.perform call)).1 ∧
    request.Mutates ∧ ∃ data, dataOf body = .ok data ∧ NamesTask data taskId

/-- A call for the operation has returned a task with this identifier. -/
def TaskReturned (history : List Event) (operationId : Uuid) (taskId : String) : Prop :=
  ∃ dispatch exchanges result stage task, .submitted dispatch exchanges (.ok result) ∈ history ∧
    dispatch.operationId = operationId ∧ Stage.reply stage result = some (.task task) ∧
    task.taskId = taskId

/-- No identifier of a task is a dot segment. -/
theorem NamesTask.not_isDotSegment {data : PyJson} {taskId : String}
    (names : NamesTask data taskId) : ¬Url.IsDotSegment taskId := by
  have isUpid := names.isUpid
  rintro (rfl | rfl) <;> exact absurd isUpid (by decide)

/-- The tasks that a call can return are those of its command. -/
theorem HttpProxmoxAdapter.returned_tasksAt {adapter : HttpProxmoxAdapter} {call : AdapterCall}
    {command : GuardedCommand call.Answer} (isCommand : adapter.command? call = some command) :
    command.TasksAt call.returned? command.node command.vmid := by
  cases call <;> simp only [command?, Option.some.injEq, reduceCtorEq] at isCommand <;>
    subst isCommand
  case cloneVm request node vmid => exact cloneCommand_tasksAt request
  case configureVm request node vmid => exact configureCommand_tasksAt request
  case resizeVmDisk request node vmid => exact resizeCommand_tasksAt request
  case startVm portalVmId node vmid => exact startCommand_tasksAt
  case shutdownVm portalVmId node vmid => exact powerOffCommand_tasksAt _ _
  case stopVm portalVmId node vmid => exact powerOffCommand_tasksAt _ _
  case deleteVm portalVmId node vmid => exact deleteCommand_tasksAt

theorem HttpProxmoxAdapter.command_mutates {adapter : HttpProxmoxAdapter} {call : AdapterCall}
    {command : GuardedCommand call.Answer} (isCommand : adapter.command? call = some command) :
    command.request.Mutates := by
  cases call <;> simp only [command?, Option.some.injEq, reduceCtorEq] at isCommand <;>
    subst isCommand <;>
    simp [cloneCommand, cloneRequest, configureCommand, configureRequest, resizeCommand,
      resizeRequest, startCommand, startRequest, shutdownCommand, shutdownRequest, stopCommand,
      stopRequest, powerOffCommand, deleteCommand, deleteRequest, Request.Mutates]

/-- The identifier of a task that a call returned is the text which the server answered. -/
theorem HttpProxmoxAdapter.answered_of_returned {adapter : HttpProxmoxAdapter}
    {call : AdapterCall} {server : HttpServer} {value : call.Answer} {task : ProviderTask}
    (returned : (Program.run server 0 (adapter.perform call)).2 = .ok value)
    (isTask : call.returned? value = some task) : adapter.Answered call server task.taskId := by
  have commands : call.Mutates := by
    cases call <;> trivial
  rcases Option.isSome_iff_exists.mp ((adapter.command?_isSome call).mpr commands) with
    ⟨command, isCommand⟩
  rw [Answered, adapter.perform_eq_program isCommand]
  rw [adapter.perform_eq_program isCommand] at returned
  rcases (returned_tasksAt isCommand).returned returned task isTask with
    ⟨_, _, body, sent, named⟩
  exact ⟨command.request, body, sent, command_mutates isCommand, named⟩

theorem HttpProxmoxAdapter.Answered.not_isDotSegment {adapter : HttpProxmoxAdapter}
    {call : AdapterCall} {server : HttpServer} {taskId : String}
    (answered : adapter.Answered call server taskId) : ¬Url.IsDotSegment taskId := by
  rcases answered with ⟨_, _, _, _, _, _, names⟩
  exact names.not_isDotSegment

section Runs

variable {history : List Event} {world next : World} {event : Event}

theorem TaskReturned.mono {operationId : Uuid} {taskId : String}
    (returned : TaskReturned history operationId taskId) :
    TaskReturned (history ++ [event]) operationId taskId := by
  rcases returned with ⟨dispatch, exchanges, result, stage, task, submitted, facts⟩
  exact ⟨dispatch, exchanges, result, stage, task, List.mem_append_left _ submitted, facts⟩

/-- A step that stores a task stores one that a call for the operation returned. -/
theorem Progress.taskReturned (progress : Progress world event next)
    (outcomes : OutcomesReturned history world)
    (before : ∀ operation ∈ world.db.operations, ∀ taskId ∈ operation.providerTaskId,
      TaskReturned history operation.id taskId) :
    ∀ updated ∈ next.db.operations, ∀ taskId ∈ updated.providerTaskId,
      TaskReturned (history ++ [event]) updated.id taskId := by
  intro updated updatedMem taskId stored
  rcases progress.row_after updatedMem with old | ⟨evidence, operation, vm, position, reached,
    change, moved, given⟩ | ⟨first, _, atFirst⟩
  · exact (before updated old taskId stored).mono
  · have hasTask : reached.hasTask = true := by
      rw [← moved.atReached.task, Option.isSome_iff_exists]
      exact ⟨taskId, stored⟩
    have atTask : ∃ stage, (∃ backoff, reached = .polling stage backoff) ∨
        reached = .failed stage := by
      cases reached <;> simp [Position.hasTask] at hasTask ⊢
    rcases atTask with ⟨stage, atTask⟩
    have kept := moved.task stage atTask
    rw [moved.identity.id]
    rcases moved.advance.task_source atTask with ⟨_, keeps⟩ |
      ⟨result, task, rfl, awaits, carries⟩
    · rw [keeps] at kept
      exact (before operation moved.stored taskId (kept ▸ stored)).mono
    · rcases given with ⟨dispatch, rfl, same⟩
      rcases outcomes dispatch _ progress.storing with ⟨exchanges, submitted⟩
      have isTask : task.taskId = taskId := by
        rw [kept] at stored
        simpa [Evidence.task, carries] using stored
      exact TaskReturned.mono ⟨dispatch, exchanges, result, stage, task, submitted, same, carries,
        isTask⟩
  · have noTask := atFirst.providerTaskId_eq_none rfl
    simp [noTask] at stored

/-- Every stored task was returned by a call for its operation. -/
theorem taskReturned_of_execution (execution : portal.Execution history world) :
    ∀ operation ∈ world.db.operations, ∀ taskId ∈ operation.providerTaskId,
      TaskReturned history operation.id taskId := by
  refine execution.invariant (motive := fun history world =>
    ∀ operation ∈ world.db.operations, ∀ taskId ∈ operation.providerTaskId,
      TaskReturned history operation.id taskId) ?_ ?_
  · rintro state rfl operation operationMem
    exact absurd operationMem List.not_mem_nil
  · intro earlier state event later before returned step
    exact (step_progress (sound_of_reachable before.reachable) step).taskReturned
      (outcomesReturned_of_execution before) returned

/-- The result of a submission is what the one call of the dispatch returned. -/
theorem Dispatch.submit_returned {dispatch : Dispatch} {provider : Provider}
    {result : ProviderResult} (returned : (Program.run provider 0 dispatch.submit).2 = .ok result) :
    ∃ call value, ⟨call, .ok value⟩ ∈ (Program.run provider 0 dispatch.submit).1 ∧
      call.returned? value = result.task? := by
  have ofCall : ∀ (call : AdapterCall) (wrap : call.Answer → ProviderResult),
      (∀ value, call.returned? value = (wrap value).task?) →
      dispatch.submit = (do
        let value ← Program.perform call
        pure (wrap value)) →
      ∃ call value, ⟨call, .ok value⟩ ∈ (Program.run provider 0 dispatch.submit).1 ∧
        call.returned? value = result.task? := by
    intro call wrap same shape
    rw [shape] at returned ⊢
    simp only [Program.perform_eq, Program.call_bind, Program.run_call] at returned ⊢
    generalize provider 0 call = answer at returned ⊢
    cases answer with
    | error error => cases returned
    | ok value =>
        cases returned
        exact ⟨call, value, .head _, same value⟩
  cases dispatch with
  | create operationId vmId phase request target =>
      cases request with
      | none =>
          simp only [submit, found_none] at returned
          repeat' split at returned
          any_goals cases returned
          exact ofCall (.startVm vmId target.node target.vmid) .task (fun _ => rfl)
            (by simp [submit, *])
      | some request =>
          simp only [submit, found_some] at returned
          split at returned
          · exact ofCall (.cloneVm request target.node target.vmid) .clone (fun _ => rfl)
              (by simp [submit, *])
          · split at returned
            · exact ofCall (.configureVm request target.node target.vmid) .task (fun _ => rfl)
                (by simp [submit, *])
            · split at returned
              · exact ofCall (.resizeVmDisk request target.node target.vmid) .task (fun _ => rfl)
                  (by simp [submit, *])
              · split at returned
                · exact ofCall (.startVm vmId target.node target.vmid) .task (fun _ => rfl)
                    (by simp [submit, *])
                · cases returned
  | start operationId vmId target =>
      exact ofCall (.startVm vmId target.node target.vmid) .task (fun _ => rfl) rfl
  | lifecycle operationId vmId command target =>
      simp only [submit] at returned
      split at returned
      · exact ofCall (.shutdownVm vmId target.node target.vmid) .task (fun _ => rfl)
          (by simp [submit, *])
      · split at returned
        · exact ofCall (.stopVm vmId target.node target.vmid) .task (fun _ => rfl)
            (by simp [submit, *])
        · split at returned
          · exact ofCall (.startVm vmId target.node target.vmid) .task (fun _ => rfl)
              (by simp [submit, *])
          · split at returned
            · exact ofCall (.deleteVm vmId target.node target.vmid) .delete (fun _ => rfl)
                (by simp [submit, *])
            · cases returned

theorem submitted_of_execution (execution : portal.Execution history world) {dispatch : Dispatch}
    {exchanges : List Exchange} {outcome : Except Error ProviderResult}
    (submitted : .submitted dispatch exchanges outcome ∈ history) :
    ∃ provider : Provider, exchanges = (Program.run provider 0 dispatch.submit).1 ∧
      outcome = (Program.run provider 0 dispatch.submit).2 := by
  rcases List.append_of_mem submitted with ⟨earlier, later, rfl⟩
  rcases execution.split with ⟨before, after, earlierExecution, step, _⟩
  cases step_progress (sound_of_reachable earlierExecution.reachable) step with
  | submitted index sent provider submitting => exact ⟨provider, rfl, rfl⟩

theorem Progress.selected_stored {operation : Operation} {exchanges : List Exchange}
    {committed : Option Operation}
    (progress : Progress world (.selected operation exchanges committed) next) :
    operation ∈ world.db.operations := by
  cases progress with
  | aborted _ _ stored => exact stored
  | marked _ _ _ _ _ _ _ moved => exact moved.stored
  | followed _ _ _ _ _ _ _ _ _ _ _ moved => exact moved.stored

end Runs

/-- A poll asks for a task that an earlier call for the same operation returned at the placement of
the VM.  Whenever the adapter returned it, the provider has answered with this very text, and the
path of the poll is read back as the node and the text. -/
theorem HttpProxmoxAdapter.polls_read_back (adapter : HttpProxmoxAdapter) {history : List Event}
    {world next : World} {operation : Operation} {exchanges : List Exchange}
    {committed : Option Operation} {task : ProviderTask} {status : Except Error ProviderTaskStatus}
    {server : HttpServer} {poll : HttpExchange} (execution : portal.Execution history world)
    (selects : portal.step world (.selected operation exchanges committed) next)
    (polls : ⟨.getTaskStatus task, status⟩ ∈ exchanges) (isName : Url.IsHostName task.node)
    (asked : poll ∈ (Program.run server 0 (adapter.perform (.getTaskStatus task))).1) :
    world.db.PlacedAt operation.id ⟨task.node, task.vmid⟩ ∧
      ∃ dispatch sent outcome call value, .submitted dispatch sent outcome ∈ history ∧
        dispatch.operationId = operation.id ∧ ⟨call, .ok value⟩ ∈ sent ∧
        ∀ (sender : HttpProxmoxAdapter) (provider : HttpServer),
          (Program.run provider 0 (sender.perform call)).2 = .ok value →
          sender.Answered call provider task.taskId ∧
            ApiPath.read poll.call.path.text = some (.taskStatus task.node task.taskId) := by
  have isPath := getTaskStatus_path asked
  have target := (selected_targets execution.reachable selects).1 task status polls
  have stored := (step_progress (sound_of_reachable execution.reachable) selects).selected_stored
  rcases taskReturned_of_execution execution operation stored task.taskId target.1 with
    ⟨dispatch, sent, result, stage, returned, submitted, same, carries, named⟩
  rcases submitted_of_execution execution submitted with ⟨provider, rfl, outcome⟩
  rcases Dispatch.submit_returned outcome.symm with ⟨call, value, called, isTask⟩
  rw [Stage.task_of_reply carries] at isTask
  refine ⟨target.2, dispatch, _, _, call, value, submitted, same, called, ?_⟩
  intro sender answering returned
  have answered : sender.Answered call answering task.taskId :=
    named ▸ answered_of_returned returned isTask
  refine ⟨answered, ?_⟩
  rw [isPath]
  exact ApiPath.read_text ⟨isName, answered.not_isDotSegment⟩

set_option maxRecDepth 10000 in
theorem HttpProxmoxAdapter.polls_read_back_clone :
    ∃ dispatch sent outcome call value, .submitted dispatch sent outcome ∈
        (World.initial.perform sampleClone).1 ∧
      dispatch.operationId = 41 ∧ ⟨call, .ok value⟩ ∈ sent ∧
      ∀ (sender : HttpProxmoxAdapter) (provider : HttpServer),
        (Program.run provider 0 (sender.perform call)).2 = .ok value →
        sender.Answered call provider "UPID:pve:0001" ∧
          ApiPath.read (ApiPath.taskStatus "node" "UPID:pve:0001").text =
            some (.taskStatus "node" "UPID:pve:0001") := by
  rcases sampleClone_polled with ⟨operation, committed, next, isOperation, selects⟩
  have asked : ⟨{ method := .get, path := .taskStatus "node" "UPID:pve:0001" },
      .ok (.dict [("data", .str "UPID:pve:0001")])⟩ ∈
      (Program.run (sampleServer [] "running" .null) 0
        (sampleTwoNodes.perform (.getTaskStatus ⟨"UPID:pve:0001", 100, "node"⟩))).1 := .head _
  have readBack := sampleTwoNodes.polls_read_back
    ⟨.initial, rfl, World.initial.perform_run sampleClone⟩ selects (List.mem_singleton_self _)
    (by decide) asked
  rw [isOperation] at readBack
  exact readBack.2

end NpdPortal
