import NpdPortal.Proxmox.Ownership
import NpdPortal.Runs.Targets

/-!
# Where a task is polled

The worker polls a task at the node of the VM.  Every command but the clone
sends its request to that node; the clone sends it to the node of the template.
-/

namespace NpdPortal

open PyJson ProxmoxClient

/-- The task in the result of a command. -/
def AdapterCall.returned? : (call : AdapterCall) → call.Answer → Option ProviderTask
  | .cloneVm .., result => result.task
  | .configureVm .., task | .resizeVmDisk .., task | .startVm .., task | .shutdownVm .., task
  | .stopVm .., task => task
  | .deleteVm .., result => result.task
  | _, _ => none

/-- A worker made this call for the operation, it returned the task, and this is the request it
sent. -/
def HttpProxmoxAdapter.Created (adapter : HttpProxmoxAdapter) (history : List Event)
    (operationId : Uuid) (taskId : String) (call : AdapterCall) (request : Request) : Prop :=
  ∃ dispatch exchanges outcome value task server,
    .submitted dispatch exchanges outcome ∈ history ∧ dispatch.operationId = operationId ∧
    ⟨call, .ok value⟩ ∈ exchanges ∧ call.returned? value = some task ∧ task.taskId = taskId ∧
    (Program.run server 0 (adapter.perform call)).2 = .ok value ∧
    (∃ exchange ∈ (Program.run server 0 (adapter.perform call)).1, exchange.call = request) ∧
    request.Mutates

/-- The call is a clone. -/
def AdapterCall.Clones : AdapterCall → Prop
  | .cloneVm .. => True
  | _ => False

section Requests

variable {adapter : HttpProxmoxAdapter} {call : AdapterCall}

/-- A poll asks the node of the task. -/
theorem getTaskStatus_path {task : ProviderTask} {server : HttpServer} {exchange : HttpExchange}
    (made : exchange ∈ (Program.run server 0 (adapter.perform (.getTaskStatus task))).1) :
    exchange.call.path = .taskStatus task.node task.taskId := by
  have uses : (adapter.perform (.getTaskStatus task)).Uses fun request =>
      request.path = .taskStatus task.node task.taskId := adapter.getTaskStatus_uses task rfl
  exact uses.of_mem_run made

/-- Where the request of a command goes. -/
theorem HttpProxmoxAdapter.command?_node {command : GuardedCommand call.Answer}
    (isCommand : adapter.command? call = some command) (passes : command.precondition = .ok ()) :
    call.target? = some ⟨command.node, command.vmid⟩ ∧
      (call.Clones → command.node = adapter.targetNode ∧
        command.request.path.node? = some adapter.templateNode) ∧
      (¬call.Clones → command.request.path.node? = some command.node) := by
  cases call <;> simp only [command?, Option.some.injEq, reduceCtorEq] at isCommand <;>
    subst isCommand
  case cloneVm request node vmid =>
    refine ⟨rfl, fun _ => ⟨?_, rfl⟩, fun other => absurd trivial other⟩
    simp only [cloneCommand] at passes
    rcases bind_eq_ok.mp passes with ⟨_, onTarget, _⟩
    unfold onTargetNode at onTarget
    split at onTarget
    · assumption
    · cases onTarget
  all_goals exact ⟨rfl, fun clones => clones.elim, fun _ => rfl⟩

/-- A command sends its request to the node it is called with, the clone to the node of the
template. -/
theorem HttpProxmoxAdapter.request_node {server : HttpServer} {exchange : HttpExchange}
    (made : exchange ∈ (Program.run server 0 (adapter.perform call)).1)
    (mutates : exchange.call.Mutates) : ∃ node vmid, call.target? = some ⟨node, vmid⟩ ∧
      (call.Clones → node = adapter.targetNode ∧
        exchange.call.path.node? = some adapter.templateNode) ∧
      (¬call.Clones → exchange.call.path.node? = some node) := by
  by_cases commands : call.Mutates
  · rcases Option.isSome_iff_exists.mp ((adapter.command?_isSome call).mpr commands) with
      ⟨command, isCommand⟩
    rw [adapter.perform_eq_program isCommand] at made
    have traced := command.trace adapter server
    generalize (Program.run server 0 (command.program adapter)).1 = exchanges at *
    have isRequest : command.precondition = .ok () → exchange.call = command.request →
        ∃ node vmid, call.target? = some ⟨node, vmid⟩ ∧
          (call.Clones → node = adapter.targetNode ∧
            exchange.call.path.node? = some adapter.templateNode) ∧
          (¬call.Clones → exchange.call.path.node? = some node) := by
      intro passes same
      rw [same]
      exact ⟨command.node, command.vmid, command?_node isCommand passes⟩
    cases traced with
    | quiet _ reads => exact absurd mutates (reads exchange made)
    | sent body resource passes =>
        simp only [List.mem_cons, List.not_mem_nil, or_false] at made
        rcases made with rfl | rfl
        · exact absurd rfl mutates
        · exact isRequest passes rfl
    | sentAfterStatus body answer resource status passes =>
        simp only [List.mem_cons, List.not_mem_nil, or_false] at made
        rcases made with rfl | rfl | rfl
        · exact absurd rfl mutates
        · exact absurd rfl mutates
        · exact isRequest passes rfl
  · exact absurd mutates ((adapter.perform_reads commands).of_mem_run made)

end Requests

/-- A task is polled at the node that received its command exactly if the command is not a
clone, or the template is at the node of the VMs. -/
theorem HttpProxmoxAdapter.polled_where_sent_iff (adapter : HttpProxmoxAdapter)
    {history : List Event} {world next : World} {operation : Operation}
    {exchanges : List Exchange} {committed : Option Operation} {task : ProviderTask}
    {status : Except Error ProviderTaskStatus} {call : AdapterCall} {request : Request}
    {server : HttpServer} {poll : HttpExchange} (execution : portal.Execution history world)
    (selects : portal.step world (.selected operation exchanges committed) next)
    (polls : ⟨.getTaskStatus task, status⟩ ∈ exchanges)
    (created : adapter.Created history operation.id task.taskId call request)
    (asked : poll ∈ (Program.run server 0 (adapter.perform (.getTaskStatus task))).1) :
    poll.call.path.node? = request.path.node? ↔
      (call.Clones → adapter.templateNode = adapter.targetNode) := by
  rcases created with ⟨dispatch, sent, outcome, value, own, sender, submitted, same, called, _, _,
    _, ⟨exchange, made, isRequest⟩, mutates⟩
  rcases (placedAt_of_execution execution).1 dispatch sent outcome submitted with ⟨placed, targets⟩
  have polled := ((selected_targets execution.reachable selects).1 task status polls).2
  rw [same] at placed
  have sameTarget := polled.unique placed
  have target := targets _ called
  rcases adapter.request_node made (isRequest ▸ mutates) with ⟨node, vmid, isTarget, clones, others⟩
  rw [target, Option.some.injEq, ← sameTarget, ProviderPlacement.mk.injEq] at isTarget
  rw [getTaskStatus_path asked, ApiPath.node?, ← isRequest]
  by_cases clone : call.Clones
  · rcases clones clone with ⟨onTarget, atTemplate⟩
    rw [atTemplate, isTarget.1, onTarget, Option.some.injEq]
    exact ⟨fun equal _ => equal.symm, fun equal => (equal clone).symm⟩
  · rw [others clone, isTarget.1]
    exact ⟨fun _ isClone => absurd isClone clone, fun _ => rfl⟩

/-- A configuration whose template is at another node. -/
def sampleTwoNodes : HttpProxmoxAdapter := { sampleAdapter with
  targetNode := "node", templateNode := "template", templateImageId := "almalinux-9" }

/-- A provider that takes the clone. -/
def sampleCloning : Provider := fun index call =>
  match call with
  | .cloneVm _ node vmid =>
      .ok { state := .submitted, task := some ⟨"UPID:pve:0001", vmid, node⟩ }
  | call => sampleProvider .running .running index call

/-- The clone of VM 31 was sent for operation 41 and its task is stored. -/
def sampleClone : List Action :=
  [.administer sampleAdministration, .createVm ⟨31, 41, 0⟩ 1 sampleRequest "create",
    .select 1 [] 41 sampleCloning 1 1, .select 2 [] 41 sampleCloning 2 2, .submit 0 sampleCloning,
    .store 0 3 3]

/-- What the worker asks the adapter for. -/
def sampleCloneRequest : CreateVmRequest := ⟨31, "almalinux-9", 1, 1024, 10, "ssh-ed25519 AAAA"⟩

set_option maxRecDepth 10000 in
/-- The clone goes to the node of the template. -/
theorem sampleClone_created :
    sampleTwoNodes.Created (World.initial.perform sampleClone).1 41 "UPID:pve:0001"
      (.cloneVm sampleCloneRequest "node" 100)
      (cloneRequest "template" "node" 9000 100 (vmName 31) "local" "npd") := by
  have submitted : (World.initial.perform sampleClone).1[4]? = some (.submitted
      (.create 41 31 "clone" (some sampleCloneRequest) ⟨"node", 100⟩)
      [⟨.cloneVm sampleCloneRequest "node" 100,
        .ok { state := .submitted, task := some ⟨"UPID:pve:0001", 100, "node"⟩ }⟩]
      (.ok (.clone { state := .submitted, task := some ⟨"UPID:pve:0001", 100, "node"⟩ }))) := rfl
  exact ⟨_, _, _, _, ⟨"UPID:pve:0001", 100, "node"⟩, sampleServer [] "running" .null,
    List.mem_of_getElem? submitted, rfl, List.mem_singleton_self _, rfl, rfl, rfl,
    ⟨_, .tail _ (.head _), rfl⟩, by decide⟩

set_option maxRecDepth 10000 in
/-- The task of the clone is polled. -/
theorem sampleClone_polled : ∃ operation committed next,
    operation.id = 41 ∧ portal.step (World.initial.perform sampleClone).2
      (.selected operation [⟨.getTaskStatus ⟨"UPID:pve:0001", 100, "node"⟩,
        .ok { status := .running }⟩] committed) next :=
  ⟨_, _, _, rfl, .select 4 [] 41 sampleCloning 4 4, rfl⟩

set_option maxRecDepth 10000 in
/-- The task of the clone is polled at a node where it does not run. -/
theorem HttpProxmoxAdapter.clone_polled_elsewhere :
    ¬∀ (adapter : HttpProxmoxAdapter) (history : List Event) (world next : World)
      (operation : Operation) (exchanges : List Exchange) (committed : Option Operation)
      (task : ProviderTask) (status : Except Error ProviderTaskStatus) (call : AdapterCall)
      (request : Request) (server : HttpServer) (poll : HttpExchange),
      portal.Execution history world →
      portal.step world (.selected operation exchanges committed) next →
      ⟨.getTaskStatus task, status⟩ ∈ exchanges →
      adapter.Created history operation.id task.taskId call request →
      poll ∈ (Program.run server 0 (adapter.perform (.getTaskStatus task))).1 →
      poll.call.path.node? = request.path.node? := by
  intro polledWhereSent
  rcases sampleClone_polled with ⟨operation, committed, next, isOperation, selects⟩
  have sameNode := polledWhereSent sampleTwoNodes _ _ next operation _ committed _ _ _ _
    (sampleServer [] "running" .null) _
    ⟨.initial, rfl, World.initial.perform_run sampleClone⟩ selects (List.mem_singleton_self _)
    (isOperation ▸ sampleClone_created) (.head _)
  exact absurd sameNode (by decide)

set_option maxRecDepth 10000 in
theorem HttpProxmoxAdapter.polled_where_sent_iff_clone :
    ∃ operation exchanges committed next, portal.step (World.initial.perform sampleClone).2
        (.selected operation exchanges committed) next ∧
      ((ApiPath.taskStatus "node" "UPID:pve:0001").node? =
        (cloneRequest "template" "node" 9000 100 (vmName 31) "local" "npd").path.node? ↔
          ((AdapterCall.cloneVm sampleCloneRequest "node" 100).Clones →
            sampleTwoNodes.templateNode = sampleTwoNodes.targetNode)) := by
  rcases sampleClone_polled with ⟨operation, committed, next, isOperation, selects⟩
  have asked : ⟨{ method := .get, path := .taskStatus "node" "UPID:pve:0001" },
      .ok (.dict [("data", .str "UPID:pve:0001")])⟩ ∈
      (Program.run (sampleServer [] "running" .null) 0
        (sampleTwoNodes.perform (.getTaskStatus ⟨"UPID:pve:0001", 100, "node"⟩))).1 := .head _
  refine ⟨operation, _, committed, next, selects, ?_⟩
  exact polled_where_sent_iff sampleTwoNodes
    ⟨.initial, rfl, World.initial.perform_run sampleClone⟩ selects (List.mem_singleton_self _)
    (isOperation ▸ sampleClone_created) asked

end NpdPortal
