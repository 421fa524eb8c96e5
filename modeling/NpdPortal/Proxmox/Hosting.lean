import Mathlib.Data.Finset.Basic
import NpdPortal.Proxmox.Locks
import NpdPortal.Proxmox.UnknownOutcomes

/-!
# The resources of the provider

The VMIDs that exist at the provider, as far as the portal has caused it: a
resource comes into being some time after its clone was requested and is gone
some time after its deletion was.  Locks, power states and tasks are left to
the answers of the provider.
-/

namespace NpdPortal

open PyJson ProxmoxClient

/-- The VMID which a clone request asks for. -/
def Request.cloned? (request : Request) : Option ℤ :=
  match request.method, request.path, request.data.lookup "newid" with
  | .post, .qemu _ _ "/clone", some (.int vmid) => some vmid
  | _, _, _ => none

/-- The VMID which a request deletes. -/
def Request.deleted? (request : Request) : Option ℤ :=
  match request.method, request.path with
  | .delete, .qemu _ vmid "" => some vmid
  | _, _ => none

/-- The VMIDs at the provider, and the requests of the portal that are still to take effect. -/
structure Hosting where
  cloning : Finset ℤ
  existing : Finset ℤ
  deleting : Finset ℤ
  deriving DecidableEq

namespace Hosting

/-- Before the first request. -/
def empty : Hosting := ⟨∅, ∅, ∅⟩

variable (hosting : Hosting)

/-- The requests were sent. -/
def after (made : List HttpExchange) : Hosting where
  cloning := hosting.cloning ∪ (made.filterMap (·.call.cloned?)).toFinset
  existing := hosting.existing
  deleting := hosting.deleting ∪ (made.filterMap (·.call.deleted?)).toFinset

/-- A requested clone comes into being. -/
def create (vmid : ℤ) : Hosting where
  cloning := hosting.cloning.erase vmid
  existing := insert vmid hosting.existing
  deleting := hosting.deleting

/-- A resource whose deletion was requested is gone. -/
def remove (vmid : ℤ) : Hosting where
  cloning := hosting.cloning
  existing := hosting.existing.erase vmid
  deleting := hosting.deleting

/-- A resource list shows, of these VMIDs, those that exist. -/
def Shows (vmids : List ℤ) (exchange : HttpExchange) : Prop :=
  match exchange.answer >>= listedIn with
  | .ok resources => exchange.call = resourcesRequest →
      ∀ vmid ∈ vmids, resources.any (hasVmid vmid) = decide (vmid ∈ hosting.existing)
  | .error _ => True

instance (vmids : List ℤ) (exchange : HttpExchange) :
    Decidable (hosting.Shows vmids exchange) := by
  unfold Shows
  split <;> infer_instance

end Hosting

theorem Request.mutates_of_cloned {request : Request} {vmid : ℤ}
    (cloned : request.cloned? = some vmid) : request.Mutates := by
  intro isGet
  simp [Request.cloned?, isGet] at cloned

theorem Request.mutates_of_deleted {request : Request} {vmid : ℤ}
    (deleted : request.deleted? = some vmid) : request.Mutates := by
  intro isGet
  simp [Request.deleted?, isGet] at deleted

/-! ## What a VMID is used for -/

namespace Hosting

/-- The resource was requested, and its deletion was not. -/
def Holds (hosting : Hosting) (vmid : ℤ) : Prop :=
  (vmid ∈ hosting.cloning ∨ vmid ∈ hosting.existing) ∧ vmid ∉ hosting.deleting

/-- The VMID plays no part. -/
def Free (hosting : Hosting) (vmid : ℤ) : Prop :=
  vmid ∉ hosting.cloning ∧ vmid ∉ hosting.existing ∧ vmid ∉ hosting.deleting

variable {hosting : Hosting} {vmid other : ℤ} {made : List HttpExchange}

theorem after_nil (hosting : Hosting) : hosting.after [] = hosting := by
  simp [after]

/-- Reading changes nothing. -/
theorem after_of_reads (reads : ∀ exchange ∈ made, ¬exchange.call.Mutates) :
    hosting.after made = hosting := by
  have noClone : made.filterMap (·.call.cloned?) = [] := by
    apply List.filterMap_eq_nil_iff.mpr
    intro exchange exchangeMem
    by_contra cloned
    rcases Option.ne_none_iff_exists'.mp cloned with ⟨vmid, isClone⟩
    exact reads exchange exchangeMem (Request.mutates_of_cloned isClone)
  have noDelete : made.filterMap (·.call.deleted?) = [] := by
    apply List.filterMap_eq_nil_iff.mpr
    intro exchange exchangeMem
    by_contra deleted
    rcases Option.ne_none_iff_exists'.mp deleted with ⟨vmid, isDelete⟩
    exact reads exchange exchangeMem (Request.mutates_of_deleted isDelete)
  simp [after, noClone, noDelete]

theorem mem_after_cloning : vmid ∈ (hosting.after made).cloning ↔
    vmid ∈ hosting.cloning ∨ ∃ exchange ∈ made, exchange.call.cloned? = some vmid := by
  simp [after]

theorem mem_after_deleting : vmid ∈ (hosting.after made).deleting ↔
    vmid ∈ hosting.deleting ∨ ∃ exchange ∈ made, exchange.call.deleted? = some vmid := by
  simp [after]

theorem Holds.after (holds : hosting.Holds vmid)
    (kept : ∀ exchange ∈ made, exchange.call.deleted? ≠ some vmid) :
    (hosting.after made).Holds vmid := by
  refine ⟨holds.1.imp_left fun cloning => mem_after_cloning.mpr (.inl cloning), ?_⟩
  intro deleting
  rcases mem_after_deleting.mp deleting with before | ⟨exchange, exchangeMem, deleted⟩
  · exact holds.2 before
  · exact kept exchange exchangeMem deleted

theorem Free.after (free : hosting.Free vmid)
    (kept : ∀ exchange ∈ made, exchange.call.cloned? ≠ some vmid ∧
      exchange.call.deleted? ≠ some vmid) : (hosting.after made).Free vmid := by
  refine ⟨?_, free.2.1, ?_⟩
  · intro cloning
    rcases mem_after_cloning.mp cloning with before | ⟨exchange, exchangeMem, cloned⟩
    · exact free.1 before
    · exact (kept exchange exchangeMem).1 cloned
  · intro deleting
    rcases mem_after_deleting.mp deleting with before | ⟨exchange, exchangeMem, deleted⟩
    · exact free.2.2 before
    · exact (kept exchange exchangeMem).2 deleted

/-- A free VMID for which a clone was requested. -/
theorem Free.holds_after (free : hosting.Free vmid)
    (cloned : ∃ exchange ∈ made, exchange.call.cloned? = some vmid)
    (kept : ∀ exchange ∈ made, exchange.call.deleted? ≠ some vmid) :
    (hosting.after made).Holds vmid := by
  refine ⟨.inl (mem_after_cloning.mpr (.inr cloned)), ?_⟩
  intro deleting
  rcases mem_after_deleting.mp deleting with before | ⟨exchange, exchangeMem, deleted⟩
  · exact free.2.2 before
  · exact kept exchange exchangeMem deleted

theorem Holds.create (holds : hosting.Holds vmid) (other : ℤ) :
    (hosting.create other).Holds vmid := by
  refine ⟨?_, holds.2⟩
  by_cases same : vmid = other
  · exact .inr (Finset.mem_insert.mpr (.inl same))
  · exact holds.1.imp (fun cloning => Finset.mem_erase.mpr ⟨same, cloning⟩)
      fun existing => Finset.mem_insert_of_mem existing

theorem Free.create (free : hosting.Free vmid) (cloning : other ∈ hosting.cloning) :
    (hosting.create other).Free vmid := by
  refine ⟨fun inErased => free.1 (Finset.mem_of_mem_erase inErased), ?_, free.2.2⟩
  intro inserted
  rcases Finset.mem_insert.mp inserted with rfl | existing
  · exact free.1 cloning
  · exact free.2.1 existing

theorem Holds.remove (holds : hosting.Holds vmid) (deleting : other ∈ hosting.deleting) :
    (hosting.remove other).Holds vmid := by
  refine ⟨holds.1.imp_right fun existing => Finset.mem_erase.mpr ⟨?_, existing⟩, holds.2⟩
  rintro rfl
  exact holds.2 deleting

theorem Free.remove (free : hosting.Free vmid) (other : ℤ) : (hosting.remove other).Free vmid :=
  ⟨free.1, fun inErased => free.2.1 (Finset.mem_of_mem_erase inErased), free.2.2⟩

end Hosting

/-! ## What a call of the adapter does -/

section Requests

variable {adapter : HttpProxmoxAdapter} {call : AdapterCall} {server : HttpServer}
  {exchange : HttpExchange} {vmid : ℤ}

/-- A request that changes something is the one of the command. -/
theorem HttpProxmoxAdapter.exists_command_of_made
    (made : exchange ∈ (Program.run server 0 (adapter.perform call)).1)
    (mutates : exchange.call.Mutates) :
    ∃ command, adapter.command? call = some command ∧ exchange.call = command.request := by
  by_cases commands : call.Mutates
  · rcases Option.isSome_iff_exists.mp ((adapter.command?_isSome call).mpr commands) with
      ⟨command, isCommand⟩
    rw [adapter.perform_eq_program isCommand] at made
    exact ⟨command, isCommand, command.call_of_mutates adapter made mutates⟩
  · exact absurd mutates ((adapter.perform_reads commands).of_mem_run made)

/-- Only `clone_vm` requests a clone, with its own VMID. -/
theorem HttpProxmoxAdapter.eq_cloneVm_of_made
    (made : exchange ∈ (Program.run server 0 (adapter.perform call)).1)
    (cloned : exchange.call.cloned? = some vmid) :
    ∃ request node, call = .cloneVm request node vmid := by
  rcases adapter.exists_command_of_made made (Request.mutates_of_cloned cloned) with
    ⟨command, isCommand, isRequest⟩
  rw [isRequest] at cloned
  cases call <;> simp only [command?, Option.some.injEq, reduceCtorEq] at isCommand <;>
    subst isCommand
  case cloneVm request node own =>
    cases cloned
    exact ⟨request, node, rfl⟩
  all_goals cases cloned

/-- Only `delete_vm` requests a deletion, of its own VMID. -/
theorem HttpProxmoxAdapter.eq_deleteVm_of_made
    (made : exchange ∈ (Program.run server 0 (adapter.perform call)).1)
    (deleted : exchange.call.deleted? = some vmid) :
    ∃ portalVmId node, call = .deleteVm portalVmId node vmid := by
  rcases adapter.exists_command_of_made made (Request.mutates_of_deleted deleted) with
    ⟨command, isCommand, isRequest⟩
  rw [isRequest] at deleted
  cases call <;> simp only [command?, Option.some.injEq, reduceCtorEq] at isCommand <;>
    subst isCommand
  case deleteVm portalVmId node own =>
    cases deleted
    exact ⟨portalVmId, node, rfl⟩
  all_goals cases deleted

end Requests

section Results

variable {adapter : HttpProxmoxAdapter} {server : HttpServer} {portalVmId : Uuid} {node : String}
  {vmid : ℤ}

/-- The data of an answer is the identifier of a task. -/
structure NamesTask (data : PyJson) (taskId : String) : Prop where
  isText : data = .str taskId
  isUpid : PyString.startswith taskId "UPID:" = true

theorem taskOf_eq_ok {message : String} {data : PyJson} {task : Option ProviderTask}
    (answered : taskOf message node vmid data = .ok task) :
    ∃ taskId, NamesTask data taskId ∧ task = some ⟨taskId, vmid, node⟩ := by
  rcases bind_eq_ok.mp answered with ⟨taskId, isUpid, result⟩
  cases result
  refine ⟨taskId, ?_, rfl⟩
  unfold upidOf at isUpid
  split at isUpid
  · split at isUpid <;> cases isUpid
    exact ⟨rfl, ‹_›⟩
  · cases isUpid

/-- The placement in the answer to the request for a VMID. -/
def placementIn (adapter : HttpProxmoxAdapter) (body : PyJson) :
    Except ClientError ProviderPlacement := do
  let data ← dataOf body
  match data with
  | .str text =>
      match PyString.int? text with
      | none => .error (.valueError "Invalid Proxmox next VMID value: " data)
      | some vmid =>
          if 0 < vmid then .ok { node := adapter.targetNode, vmid }
          else .error (.valueError "Invalid Proxmox next VMID value: " (.int vmid))
  | _ => .error (.valueError "Invalid Proxmox next VMID response: " data)

theorem HttpProxmoxAdapter.chooseCloneTarget_eq (adapter : HttpProxmoxAdapter) :
    adapter.chooseCloneTarget =
      .call { method := .get, path := .clusterNextid } fun answer =>
        .done (answer >>= placementIn adapter) := by
  unfold chooseCloneTarget getNextVmid requestData
  simp only [Program.perform_eq, Program.call_bind]
  congr 1
  funext answer
  rcases answer with error | body
  · rfl
  simp only [placementIn, ok_bind, Program.liftT_eq, Program.done_ok_bind]
  cases dataOf body with
  | error error => rfl
  | ok data =>
      cases data with
      | str text =>
          simp only [Program.done_ok_bind, ok_bind, Http.expect_eq]
          cases PyString.int? text with
          | none => rfl
          | some vmid =>
              simp only [Program.done_ok_bind, Http.require_eq]
              split <;> rfl
      | _ => rfl

/-- A placement is on the configured node. -/
theorem HttpProxmoxAdapter.chooseCloneTarget_returned {request : CreateVmRequest}
    {target : ProviderPlacement}
    (returned : (Program.run server 0 (adapter.perform (.chooseCloneTarget request))).2 =
      .ok target) : target.node = adapter.targetNode ∧ 0 < target.vmid := by
  rw [perform, chooseCloneTarget_eq, Program.run_call, Program.run_done] at returned
  rcases bind_eq_ok.mp returned with ⟨body, _, placed⟩
  rcases bind_eq_ok.mp placed with ⟨data, _, chosen⟩
  split at chosen
  · split at chosen
    · cases chosen
    · split at chosen <;> cases chosen
      exact ⟨rfl, ‹_›⟩
  · cases chosen

/-- A clone found its VMID in use, or it was requested and has a task. -/
theorem HttpProxmoxAdapter.clone_returned {request : CreateVmRequest}
    {value : ProviderCloneResult}
    (returned : (Program.run server 0 (adapter.perform (.cloneVm request node vmid))).2 =
      .ok value) :
    (∃ body resource, ⟨resourcesRequest, .ok body⟩ ∈
        (Program.run server 0 (adapter.perform (.cloneVm request node vmid))).1 ∧
      ownedIn adapter request.vmId node vmid body = .ok (some resource)) ∨
    (∃ taskId, value = { state := .submitted, task := some ⟨taskId, vmid, node⟩ }) ∧
      ∃ exchange ∈ (Program.run server 0 (adapter.perform (.cloneVm request node vmid))).1,
        exchange.call.cloned? = some vmid := by
  have shape : adapter.perform (.cloneVm request node vmid) =
      (cloneCommand adapter request node vmid).program adapter := adapter.perform_eq_program rfl
  rw [shape] at returned ⊢
  rcases GuardedCommand.exists_of_returned adapter _ returned with
    ⟨body, found, listed, owned, decided⟩
  cases found with
  | some resource => exact .inl ⟨body, resource, listed, owned⟩
  | none =>
      right
      rcases decided with finished | ⟨reads, _⟩ | ⟨_, answer, data, sent, _, answered⟩
      · simp [cloneCommand] at finished
      · simp [cloneCommand] at reads
      · rcases bind_eq_ok.mp answered with ⟨task, isTask, result⟩
        rcases taskOf_eq_ok isTask with ⟨taskId, _, rfl⟩
        cases result
        exact ⟨⟨taskId, rfl⟩, _, sent, rfl⟩

/-- A deletion found nothing, has a task, or it found a lock. -/
theorem HttpProxmoxAdapter.delete_returned {value : ProviderDeleteResult}
    (returned : (Program.run server 0 (adapter.perform (.deleteVm portalVmId node vmid))).2 =
      .ok value) :
    value = { state := .succeeded } ∨
    (∃ taskId, value = { state := .submitted, task := some ⟨taskId, vmid, node⟩ }) ∨
    value = { state := .inProgress } ∧
      ∃ exchange ∈ (Program.run server 0 (adapter.perform (.deleteVm portalVmId node vmid))).1,
        exchange.call = resourcesRequest ∧ ReportsLock node vmid exchange := by
  have shape : adapter.perform (.deleteVm portalVmId node vmid) =
      (deleteCommand adapter portalVmId node vmid).program adapter :=
    adapter.perform_eq_program rfl
  rw [shape] at returned ⊢
  rcases GuardedCommand.exists_of_returned adapter _ returned with
    ⟨body, found, listed, owned, decided⟩
  rcases decided with finished | ⟨_, status, ended⟩ | ⟨_, answer, data, _, _, answered⟩
  · cases found with
    | none =>
        cases finished
        exact .inl rfl
    | some resource =>
        simp only [deleteCommand] at finished
        split at finished
        · cases finished
        · rename_i locked
          cases finished
          rcases exists_of_ownedIn owned with ⟨resources, lists, matching, _⟩
          have isListed : resource ∈ resources.filter (hasVmid vmid) := by
            rw [show resources.filter (hasVmid vmid) = [resource] from matching]
            exact List.mem_singleton_self resource
          rcases List.mem_filter.mp isListed with ⟨resourceMem, isVmid⟩
          exact .inr (.inr ⟨rfl, _, listed, rfl, body, rfl,
            .inl ⟨rfl, resources, resource, lists, resourceMem, isVmid, by simpa using locked⟩⟩)
  · simp only [deleteCommand] at ended
    split at ended <;> cases ended
  · rcases bind_eq_ok.mp answered with ⟨task, isTask, result⟩
    rcases taskOf_eq_ok isTask with ⟨taskId, _, rfl⟩
    cases result
    exact .inr (.inl ⟨taskId, rfl⟩)

/-- A command reads the resources once, before any other request. -/
theorem GuardedCommand.answer_of_listing {α : Type} {command : GuardedCommand α}
    (mutates : command.request.Mutates) {exchange : HttpExchange}
    (made : exchange ∈ (Program.run server 0 (command.program adapter)).1)
    (isListing : exchange.call = resourcesRequest) :
    exchange.answer = server 0 resourcesRequest := by
  have otherwise : ∀ {program : Http α} {index : ℕ},
      program.Uses (fun request => request ≠ resourcesRequest) →
      exchange ∉ (Program.run server index program).1 :=
    fun uses later => uses.of_mem_run later isListing
  have notListing : command.request ≠ resourcesRequest := by
    intro same
    rw [same] at mutates
    exact mutates rfl
  have sends : command.send.Uses fun request => request ≠ resourcesRequest :=
    ⟨notListing, fun _ => trivial⟩
  unfold program at made
  split at made
  · cases made
  · split at made
    · rw [Program.run_call] at made
      rcases List.mem_cons.mp made with rfl | later
      · rfl
      · refine absurd later (otherwise ?_)
        repeat' split
        any_goals trivial
        refine ⟨by simp [resourcesRequest, statusRequest], fun _ => ?_⟩
        dsimp only
        repeat' split
        all_goals trivial
    · cases made

/-- A deletion that finds its VM locked is in progress. -/
theorem HttpProxmoxAdapter.inProgress_of_locked {value : ProviderDeleteResult}
    (returned : (Program.run server 0 (adapter.perform (.deleteVm portalVmId node vmid))).2 =
      .ok value) {exchange : HttpExchange}
    (made : exchange ∈ (Program.run server 0 (adapter.perform (.deleteVm portalVmId node vmid))).1)
    (isListing : exchange.call = resourcesRequest) (locked : ReportsLock node vmid exchange) :
    value = { state := .inProgress } := by
  have shape : adapter.perform (.deleteVm portalVmId node vmid) =
      (deleteCommand adapter portalVmId node vmid).program adapter :=
    adapter.perform_eq_program rfl
  rw [shape] at returned made
  rcases GuardedCommand.exists_of_returned adapter _ returned with
    ⟨body, found, listed, owned, decided⟩
  have mutates : (deleteCommand adapter portalVmId node vmid).request.Mutates := by
    simp [deleteCommand, deleteRequest, Request.Mutates]
  have isFirst := GuardedCommand.answer_of_listing mutates made isListing
  rw [← GuardedCommand.answer_of_listing mutates listed rfl] at isFirst
  rcases exists_of_ownedIn owned with ⟨resources, lists, matching⟩
  rcases locked with ⟨other, answered, ⟨_, others, resource, otherLists, resourceMem, isVmid,
    hasLock⟩ | ⟨isStatus, _⟩⟩
  · rw [isFirst] at answered
    cases answered
    rcases lists.unique otherLists with rfl
    have inMatching : resource ∈ resources.filter (hasVmid vmid) :=
      List.mem_filter.mpr ⟨resourceMem, isVmid⟩
    cases found with
    | none =>
        rw [show resources.filter (hasVmid vmid) = [] from matching] at inMatching
        cases inMatching
    | some own =>
        rw [show resources.filter (hasVmid vmid) = [own] from matching.1,
          List.mem_singleton] at inMatching
        subst inMatching
        have finishes : (deleteCommand adapter portalVmId node vmid).onResource (some resource) =
            .ok (.finish { state := .inProgress }) := by
          simp [deleteCommand, hasLock]
        rcases decided with finished | ⟨reads, _⟩ | ⟨sends | reads, _⟩
        · rw [finishes] at finished
          cases finished
          rfl
        · rw [finishes] at reads
          cases reads
        · rw [finishes] at sends
          cases sends
        · rw [finishes] at reads
          cases reads
  · rw [isListing] at isStatus
    simp [resourcesRequest, statusRequest] at isStatus

/-- The tasks of the results are those of the VM, and were named in the answer. -/
structure GuardedCommand.TasksAt {α : Type} (command : GuardedCommand α)
    (task? : α → Option ProviderTask) (node : String) (vmid : ℤ) : Prop where
  onResource : ∀ resource value, command.onResource resource = .ok (.finish value) →
    task? value = none
  onStatus : ∀ resource status value, command.onStatus resource status = .ok (some value) →
    task? value = none
  onAnswer : ∀ data value, command.onAnswer data = .ok value → ∀ task ∈ task? value,
    task.node = node ∧ task.vmid = vmid ∧ NamesTask data task.taskId

/-- A task that a command returned was named in the answer to its request. -/
theorem GuardedCommand.TasksAt.returned {α : Type} {command : GuardedCommand α}
    {task? : α → Option ProviderTask} (tasksAt : command.TasksAt task? node vmid) {value : α}
    (returned : (Program.run server 0 (command.program adapter)).2 = .ok value) :
    ∀ task ∈ task? value, task.node = node ∧ task.vmid = vmid ∧ ∃ answer,
      ⟨command.request, .ok answer⟩ ∈ (Program.run server 0 (command.program adapter)).1 ∧
        ∃ data, dataOf answer = .ok data ∧ NamesTask data task.taskId := by
  intro task isTask
  rcases GuardedCommand.exists_of_returned adapter _ returned with
    ⟨body, found, _, _, finished | ⟨_, status, ended⟩ | ⟨_, answer, data, sent, isData, answered⟩⟩
  · simp [tasksAt.onResource found value finished] at isTask
  · simp [tasksAt.onStatus found status value ended] at isTask
  · rcases tasksAt.onAnswer data value answered task isTask with ⟨onNode, onVmid, named⟩
    exact ⟨onNode, onVmid, answer, sent, data, isData, named⟩

theorem taskOf_tasksAt {message : String} {data : PyJson} {value : Option ProviderTask}
    (answered : taskOf message node vmid data = .ok value) :
    ∀ task ∈ value, task.node = node ∧ task.vmid = vmid ∧ NamesTask data task.taskId := by
  rcases taskOf_eq_ok answered with ⟨taskId, named, rfl⟩
  rintro task ⟨⟩
  exact ⟨rfl, rfl, named⟩

theorem ifUnlocked_ne_finish {α : Type} {missing locked : String} {decision : Decision α}
    {found : Option Fields} {value : α} (goesOn : ∀ value, decision ≠ .finish value) :
    ifUnlocked vmid missing locked decision found ≠ .ok (.finish value) := by
  intro finished
  rcases ifUnlocked_eq_ok finished with ⟨_, _, _, same⟩
  exact goesOn value same

theorem cloneCommand_tasksAt (request : CreateVmRequest) :
    (cloneCommand adapter request node vmid).TasksAt (·.task) node vmid := by
  refine ⟨?_, by simp [cloneCommand], ?_⟩
  · intro resource value finished
    cases resource with
    | none => simp [cloneCommand] at finished
    | some fields =>
        simp only [cloneCommand] at finished
        split at finished
        · cases finished
          rfl
        · split at finished <;> cases finished
          rfl
  · intro data value answered
    rcases bind_eq_ok.mp answered with ⟨task, isTask, result⟩
    cases result
    exact taskOf_tasksAt isTask

theorem deleteCommand_tasksAt :
    (deleteCommand adapter portalVmId node vmid).TasksAt (·.task) node vmid := by
  refine ⟨?_, ?_, ?_⟩
  · intro resource value finished
    cases resource with
    | none =>
        cases finished
        rfl
    | some fields =>
        simp only [deleteCommand] at finished
        split at finished <;> cases finished
        rfl
  · intro resource status value ended
    simp only [deleteCommand] at ended
    split at ended <;> cases ended
  · intro data value answered
    rcases bind_eq_ok.mp answered with ⟨task, isTask, result⟩
    cases result
    exact taskOf_tasksAt isTask

theorem configureCommand_tasksAt (request : CreateVmRequest) :
    (configureCommand adapter request node vmid).TasksAt id node vmid := by
  refine ⟨fun _ _ finished => absurd finished (ifUnlocked_ne_finish (by simp)), ?_, ?_⟩
  · intro resource status value ended
    cases ended
  · intro data value answered
    simp only [configureCommand] at answered
    split at answered
    · cases answered
      simp
    · exact taskOf_tasksAt answered

theorem resizeCommand_tasksAt (request : CreateVmRequest) :
    (resizeCommand adapter request node vmid).TasksAt id node vmid := by
  refine ⟨fun _ _ finished => absurd finished (ifUnlocked_ne_finish (by simp)), ?_,
    fun _ _ => taskOf_tasksAt⟩
  intro resource status value ended
  simp only [resizeCommand] at ended
  rcases bind_eq_ok.mp ended with ⟨size, _, ended⟩
  split at ended
  · split at ended
    · cases ended
      rfl
    · split at ended <;> cases ended
  · cases ended

theorem startCommand_tasksAt :
    (startCommand adapter portalVmId node vmid).TasksAt id node vmid := by
  refine ⟨?_, ?_, fun _ _ => taskOf_tasksAt⟩
  · intro resource value finished
    cases resource <;> simp [startCommand] at finished
  · intro resource status value ended
    simp only [startCommand] at ended
    rcases bind_eq_ok.mp ended with ⟨power, _, ended⟩
    split at ended
    · split at ended <;> cases ended
      rfl
    · cases ended

theorem powerOffCommand_tasksAt (request : String → ℤ → Request) (message : String) :
    (powerOffCommand request message portalVmId node vmid).TasksAt id node vmid := by
  refine ⟨fun _ _ finished => absurd finished (ifUnlocked_ne_finish (by simp)), ?_,
    fun _ _ => taskOf_tasksAt⟩
  intro resource status value ended
  simp only [powerOffCommand] at ended
  rcases bind_eq_ok.mp ended with ⟨power, _, ended⟩
  split at ended <;> cases ended
  rfl

end Results

end NpdPortal
