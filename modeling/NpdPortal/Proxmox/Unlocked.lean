import Mathlib.Data.List.Count
import NpdPortal.Runs.Carrying

/-!
# A provider without locks

A provider which lists the VMs of the portal that exist, without a lock, takes
every command and reports every task as finished.  The adapter returns from
every call that fits what the provider shows.
-/

namespace NpdPortal

open PyJson ProxmoxClient

/-- A response with this data. -/
def bodyOf (data : PyJson) : PyJson := .dict [("data", data)]

namespace HttpProxmoxAdapter

variable (adapter : HttpProxmoxAdapter)

/-- The resource of a VM of the portal, without a lock. -/
def entry (vm : VirtualMachine) (vmid : ℤ) : Fields :=
  [("vmid", .int vmid), ("type", .str "qemu"), ("name", .str (vmName vm.id)),
    ("pool", .str adapter.pool), ("node", .str adapter.targetNode)]

/-- The resources of the VMs that exist. -/
def entries (vms : List VirtualMachine) (existing : Finset ℤ) : List Fields :=
  vms.filterMap fun vm => vm.providerVmid.bind fun vmid =>
    if vmid ∈ existing then some (adapter.entry vm vmid) else none

/-- The provider; it offers a VMID and reports one power state for every VM. -/
def unlockedServer (vms : List VirtualMachine) (existing : Finset ℤ) (offered power : String) :
    HttpServer := fun _ request =>
  match request.path with
  | .clusterNextid => .ok (bodyOf (.str offered))
  | .clusterResources => .ok (bodyOf (.list ((adapter.entries vms existing).map .dict)))
  | .qemu _ vmid "/status/current" => .ok (bodyOf (.dict [("vmid", .int vmid),
        ("status", .str power), ("maxdisk", .int 1)]))
  | .taskStatus _ upid => .ok (bodyOf (.dict [("upid", .str upid), ("status", .str "stopped"),
        ("exitstatus", .str "OK")]))
  | _ => .ok (bodyOf (.str "UPID:"))

end HttpProxmoxAdapter

/-! ## What the provider lists -/

section Lists

variable {adapter : HttpProxmoxAdapter} {db : Database} {existing : Finset ℤ}
  {vm : VirtualMachine} {vmid : ℤ}

theorem allFields_map (resources : List Fields) :
    allFields (resources.map .dict) = some resources := by
  induction resources with
  | nil => rfl
  | cons resource rest ih => simp [allFields, PyJson.dict?, ih]

theorem Lists.listedIn_eq {body : PyJson} {resources : List Fields}
    (lists : Lists body resources) : listedIn body = .ok resources := by
  rcases lists with ⟨fields, rfl, isData⟩
  simp [listedIn, dataOf, isData, PyJson.list?, allFields_map]

theorem listedIn_bodyOf (resources : List Fields) :
    listedIn (bodyOf (.list (resources.map .dict))) = .ok resources :=
  Lists.listedIn_eq ⟨_, rfl, rfl⟩

theorem withVmid_of_int {resources : List Fields} (vmid : ℤ)
    (integers : ∀ resource ∈ resources, ∃ own, resource.get "vmid" = .int own) :
    withVmid vmid resources = .ok (resources.filter (hasVmid vmid)) := by
  have returns : ∃ matching, withVmid vmid resources = .ok matching := by
    induction resources with
    | nil => exact ⟨[], rfl⟩
    | cons resource rest ih =>
        rcases integers resource (by simp) with ⟨own, isInt⟩
        rcases ih fun other otherMem => integers other (List.mem_cons_of_mem resource otherMem) with
          ⟨others, found⟩
        exact ⟨if own = vmid then resource :: others else others,
          by simp [withVmid, isInt, PyJson.int?, found]⟩
  rcases returns with ⟨matching, found⟩
  rw [found, withVmid_eq_ok found]

theorem mem_entries {vms : List VirtualMachine} {resource : Fields} :
    resource ∈ adapter.entries vms existing ↔ ∃ vm ∈ vms, ∃ vmid, vm.providerVmid = some vmid ∧
      vmid ∈ existing ∧ resource = adapter.entry vm vmid := by
  simp only [HttpProxmoxAdapter.entries, List.mem_filterMap]
  constructor
  · rintro ⟨vm, vmMem, shown⟩
    rcases Option.bind_eq_some_iff.mp shown with ⟨vmid, placed, shown⟩
    split at shown <;> cases shown
    exact ⟨vm, vmMem, vmid, placed, ‹_›, rfl⟩
  · rintro ⟨vm, vmMem, vmid, placed, exists_, rfl⟩
    exact ⟨vm, vmMem, by simp [placed, exists_]⟩

theorem hasVmid_entry {own : ℤ} : hasVmid vmid (adapter.entry vm own) = decide (own = vmid) :=
  rfl

/-- A VMID is listed if and only if it exists. -/
theorem any_entries (known : vmid ∈ db.providerVmids) :
    (adapter.entries db.virtualMachines existing).any (hasVmid vmid) =
      decide (vmid ∈ existing) := by
  rcases List.mem_filterMap.mp known with ⟨vm, vmMem, placed⟩
  rw [Bool.eq_iff_iff, decide_eq_true_eq, List.any_eq_true]
  constructor
  · rintro ⟨resource, listed, isVmid⟩
    rcases mem_entries.mp listed with ⟨other, otherMem, own, _, exists_, rfl⟩
    rw [hasVmid_entry, decide_eq_true_eq] at isVmid
    exact isVmid ▸ exists_
  · intro exists_
    exact ⟨_, mem_entries.mpr ⟨vm, vmMem, vmid, placed, exists_, rfl⟩, by simp [hasVmid_entry]⟩

/-- The resources of a placed VM. -/
theorem filter_entries (vmMem : vm ∈ db.virtualMachines) (placed : vm.providerVmid = some vmid) :
    (adapter.entries db.virtualMachines existing).filter (hasVmid vmid) =
      (if vmid ∈ existing then some (adapter.entry vm vmid) else none).toList := by
  have distinct : db.virtualMachines.Nodup := List.Nodup.of_map _ db.valid.vmIds
  rw [HttpProxmoxAdapter.entries, List.filter_filterMap,
    KeyedRows.filterMap_of_unique distinct vmMem]
  · by_cases exists_ : vmid ∈ existing <;> simp [placed, exists_, hasVmid_entry]
  · intro other otherMem differs
    cases otherPlaced : other.providerVmid with
    | none => simp
    | some own =>
        have notVmid : own ≠ vmid := by
          rintro rfl
          exact differs (Database.eq_of_providerVmid otherMem vmMem otherPlaced placed)
        by_cases exists_ : own ∈ existing <;> simp [exists_, hasVmid_entry, notVmid]

/-- The list shows the owned resource of a VM. -/
theorem ownedIn_entries (adapter : HttpProxmoxAdapter) (existing : Finset ℤ)
    (vmMem : vm ∈ db.virtualMachines) (placed : vm.providerVmid = some vmid) :
    ownedIn adapter vm.id adapter.targetNode vmid
        (bodyOf (.list ((adapter.entries db.virtualMachines existing).map .dict))) =
      .ok (if vmid ∈ existing then some (adapter.entry vm vmid) else none) := by
  have integers : ∀ resource ∈ adapter.entries db.virtualMachines existing,
      ∃ own, resource.get "vmid" = .int own := by
    intro resource listed
    rcases mem_entries.mp listed with ⟨other, _, own, _, _, rfl⟩
    exact ⟨own, rfl⟩
  simp only [ownedIn, resourceIn, listedIn_bodyOf, ok_bind, withVmid_of_int vmid integers,
    filter_entries vmMem placed]
  by_cases exists_ : vmid ∈ existing
  · have owned : ownershipError adapter vm.id adapter.targetNode vmid (adapter.entry vm vmid) =
        none := by
      have owns : adapter.Owns vm.id adapter.targetNode (adapter.entry vm vmid) :=
        ⟨equalsText_iff.mpr rfl, equalsText_iff.mpr rfl, equalsText_iff.mpr rfl,
          equalsText_iff.mpr rfl⟩
      simp only [ownershipError, owns.type, owns.name, owns.pool, owns.node, if_true]
    simp [exists_, owned]
  · simp [exists_]

end Lists

/-! ## What the adapter returns -/

section Returned

variable {adapter : HttpProxmoxAdapter} {db : Database} {existing : Finset ℤ}
  {vm : VirtualMachine} {target : ProviderPlacement} {offered power : String}

/-- The power state which the commands of a stage expect. -/
def Stage.expectedPower : Stage → String
  | .shutdown | .stop | .rebootShutdown => "running"
  | _ => "stopped"

/-- The columns take the tasks of this provider. -/
theorem ProviderResult.fits_of_taskId {result : ProviderResult}
    (named : ∀ task ∈ result.task?, task.taskId = "UPID:") :
    (Evidence.outcome (.ok result)).Fits := by
  intro task carries
  rw [named task carries]
  decide

/-- A command returns when its request is answered with a task. -/
theorem GuardedCommand.exists_returned {α : Type} {command : GuardedCommand α}
    {server : HttpServer} {result : α → ProviderResult} (sends : command.Sends adapter server)
    (answered : ∀ n, server n command.request = .ok (bodyOf (.str "UPID:")))
    (accepts : ∃ value, command.onAnswer (.str "UPID:") = .ok value ∧
      ∀ task ∈ (result value).task?, task.taskId = "UPID:") :
    ∃ value, (Program.run server 0 (command.program adapter)).2 = .ok value ∧
      (Evidence.outcome (.ok (result value))).Fits := by
  rcases GuardedCommand.run_of_sends sends with ⟨n, ran⟩
  rcases accepts with ⟨value, accepted, named⟩
  refine ⟨value, ?_, ProviderResult.fits_of_taskId named⟩
  rw [ran, answered n]
  exact accepted

/-- A command that has nothing to send returns. -/
theorem GuardedCommand.returned_of_finish {α : Type} {command : GuardedCommand α}
    {server : HttpServer} {body : PyJson} {found : Option Fields} {value : α}
    (passes : command.precondition = .ok ()) (positive : 0 < command.vmid)
    (listing : server 0 resourcesRequest = .ok body)
    (owned : ownedIn adapter command.portalVmId command.node command.vmid body = .ok found)
    (finishes : command.onResource found = .ok (.finish value)) :
    (Program.run server 0 (command.program adapter)).2 = .ok value := by
  unfold GuardedCommand.program
  simp only [passes, if_pos positive, Program.run_call, listing, ok_bind, owned, finishes,
    Program.run_done]

/-- The status of a VM. -/
def statusFields (vmid : ℤ) (power : String) : Fields :=
  [("vmid", .int vmid), ("status", .str power), ("maxdisk", .int 1)]

theorem statusIn_bodyOf (vmid : ℤ) (power : String) :
    statusIn vmid (bodyOf (.dict (statusFields vmid power))) = .ok (statusFields vmid power) := by
  have isVmid : ((statusFields vmid power).get "vmid").equalsInt vmid = true :=
    decide_eq_true_eq.mpr rfl
  have data : dataOf (bodyOf (.dict (statusFields vmid power))) =
      .ok (.dict (statusFields vmid power)) := rfl
  simp only [statusIn, data, ok_bind, PyJson.dict?, isVmid, if_true]

/-- The commands of the stages return with this provider, with tasks which the columns take. -/
theorem Stage.exists_returned (stage : Stage) {built : CreateVmRequest}
    (vmMem : vm ∈ db.virtualMachines) (vmid : vm.providerVmid = some target.vmid)
    (onTarget : target.node = adapter.targetNode) (positive : 0 < target.vmid)
    (fits : built.FitsVm vm) (storage : 0 < vm.requestedStorageGb)
    (image : vm.imageId = adapter.templateImageId)
    (shown : stage ≠ .delete → (stage = .clone ↔ target.vmid ∉ existing)) :
    ∃ value, (Program.run
      (adapter.unlockedServer db.virtualMachines existing offered stage.expectedPower) 0
      (adapter.perform (stage.command vm.id built target))).2 = .ok value ∧
      (Evidence.outcome (.ok ((stage.command vm.id built target).result value))).Fits := by
  rcases target with ⟨node, own⟩
  obtain rfl : node = adapter.targetNode := onTarget
  have passes : onTargetNode adapter adapter.targetNode = .ok () := if_pos rfl
  have owned := ownedIn_entries adapter existing vmMem vmid
  have ownedBuilt := owned
  rw [← fits.vmId] at ownedBuilt
  have known := fun power => statusIn_bodyOf own power
  cases stage with
  | clone =>
      have absent := (shown (by simp)).mp rfl
      rw [if_neg absent] at ownedBuilt
      have shape : adapter.perform (.cloneVm built adapter.targetNode own) =
          (cloneCommand adapter built adapter.targetNode own).program adapter :=
        adapter.perform_eq_program rfl
      simp only [Stage.command, shape]
      refine GuardedCommand.exists_returned ⟨?_, positive, _, none, rfl, ownedBuilt, .inl rfl⟩
        (fun _ => rfl) ⟨_, rfl, by rintro _ ⟨⟩; rfl⟩
      simp [cloneCommand, passes, fits.imageId, image]
  | delete =>
      have shape : adapter.perform (.deleteVm vm.id adapter.targetNode own) =
          (deleteCommand adapter vm.id adapter.targetNode own).program adapter :=
        adapter.perform_eq_program rfl
      simp only [Stage.command, shape]
      by_cases present : own ∈ existing
      · rw [if_pos present] at owned
        exact GuardedCommand.exists_returned ⟨passes, positive, _, _, rfl, owned,
          .inr ⟨rfl, _, _, rfl, known _, rfl⟩⟩ (fun _ => rfl) ⟨_, rfl, by rintro _ ⟨⟩; rfl⟩
      · rw [if_neg present] at owned
        exact ⟨_, GuardedCommand.returned_of_finish passes positive rfl owned rfl,
          ProviderResult.fits_of_taskId (by rintro _ ⟨⟩)⟩
  | configure =>
      have present : own ∈ existing := by simpa using shown
      rw [if_pos present] at ownedBuilt
      have shape : adapter.perform (.configureVm built adapter.targetNode own) =
          (configureCommand adapter built adapter.targetNode own).program adapter :=
        adapter.perform_eq_program rfl
      simp only [Stage.command, shape]
      exact GuardedCommand.exists_returned ⟨passes, positive, _, _, rfl, ownedBuilt, .inl rfl⟩
        (fun _ => rfl) ⟨_, rfl, by rintro _ ⟨⟩; rfl⟩
  | resize =>
      have present : own ∈ existing := by simpa using shown
      rw [if_pos present] at ownedBuilt
      have shape : adapter.perform (.resizeVmDisk built adapter.targetNode own) =
          (resizeCommand adapter built adapter.targetNode own).program adapter :=
        adapter.perform_eq_program rfl
      have smaller : (1 : ℤ) < built.storageGb * 1024 ^ 3 := by
        rw [fits.storageGb]
        omega
      simp only [Stage.command, shape]
      exact GuardedCommand.exists_returned ⟨passes, positive, _, _, rfl, ownedBuilt,
        .inr ⟨rfl, _, _, rfl, known _, resizeCommand_sends_iff.mpr ⟨1, rfl, one_pos, smaller⟩⟩⟩
        (fun _ => rfl) ⟨_, rfl, by rintro _ ⟨⟩; rfl⟩
  | initialStart | start | rebootStart =>
      have present : own ∈ existing := by simpa using shown
      rw [if_pos present] at owned
      have shape : adapter.perform (.startVm vm.id adapter.targetNode own) =
          (startCommand adapter vm.id adapter.targetNode own).program adapter :=
        adapter.perform_eq_program rfl
      simp only [Stage.command, shape]
      exact GuardedCommand.exists_returned ⟨passes, positive, _, _, rfl, owned,
        .inr ⟨rfl, _, _, rfl, known _, rfl⟩⟩ (fun _ => rfl) ⟨_, rfl, by rintro _ ⟨⟩; rfl⟩
  | shutdown | rebootShutdown =>
      have present : own ∈ existing := by simpa using shown
      rw [if_pos present] at owned
      have shape : adapter.perform (.shutdownVm vm.id adapter.targetNode own) =
          (shutdownCommand vm.id adapter.targetNode own).program adapter :=
        adapter.perform_eq_program rfl
      simp only [Stage.command, shape]
      exact GuardedCommand.exists_returned ⟨rfl, positive, _, _, rfl, owned,
        .inr ⟨rfl, _, _, rfl, known _, rfl⟩⟩ (fun _ => rfl) ⟨_, rfl, by rintro _ ⟨⟩; rfl⟩
  | stop =>
      have present : own ∈ existing := by simpa using shown
      rw [if_pos present] at owned
      have shape : adapter.perform (.stopVm vm.id adapter.targetNode own) =
          (stopCommand vm.id adapter.targetNode own).program adapter :=
        adapter.perform_eq_program rfl
      simp only [Stage.command, shape]
      exact GuardedCommand.exists_returned ⟨rfl, positive, _, _, rfl, owned,
        .inr ⟨rfl, _, _, rfl, known _, rfl⟩⟩ (fun _ => rfl) ⟨_, rfl, by rintro _ ⟨⟩; rfl⟩

/-- Every task has succeeded. -/
theorem HttpProxmoxAdapter.getTaskStatus_unlocked (adapter : HttpProxmoxAdapter)
    (vms : List VirtualMachine) (task : ProviderTask) :
    (Program.run (adapter.unlockedServer vms existing offered power) 0
      (adapter.perform (.getTaskStatus task))).2 = .ok { status := .succeeded } := by
  let fields : Fields :=
    [("upid", .str task.taskId), ("status", .str "stopped"), ("exitstatus", .str "OK")]
  have answered : adapter.unlockedServer vms existing offered power 0
      { method := .get, path := .taskStatus task.node task.taskId } = .ok (bodyOf (.dict fields)) :=
    rfl
  have isTask : (fields.get "upid").equalsText task.taskId = true := equalsText_iff.mpr rfl
  have client : ∀ (data : PyJson), dataOf (bodyOf data) = .ok data := fun _ => rfl
  have isStatus : fields.get "status" = .str "stopped" := rfl
  unfold perform getTaskStatus ProxmoxClient.getTaskStatus requestData
  simp only [Program.perform_eq, Program.call_bind, Program.run_call, answered, client,
    Program.liftT_eq, Program.done_ok_bind, Http.expect_eq, PyJson.dict?, isStatus, Program.pure_eq,
    Http.require_eq, isTask, if_true]
  rfl

/-- The offered VMID is chosen. -/
theorem HttpProxmoxAdapter.chooseCloneTarget_unlocked (adapter : HttpProxmoxAdapter)
    (vms : List VirtualMachine) (request : CreateVmRequest) {vmid : ℤ}
    (offers : PyString.int? offered = some vmid) (positive : 0 < vmid) :
    (Program.run (adapter.unlockedServer vms existing offered power) 0
      (adapter.perform (.chooseCloneTarget request))).2 =
        .ok { node := adapter.targetNode, vmid } := by
  rw [perform, chooseCloneTarget_eq, Program.run_call, Program.run_done]
  have answered : adapter.unlockedServer vms existing offered power 0
      { method := .get, path := .clusterNextid } = .ok (bodyOf (.str offered)) := rfl
  have data : dataOf (bodyOf (.str offered)) = .ok (.str offered) := rfl
  simp only [answered, ok_bind, placementIn, data, offers, if_pos positive]

/-- Its resource lists are right. -/
theorem HttpProxmoxAdapter.shows_unlocked {hosting : Hosting} {exchange : HttpExchange} {n : ℕ}
    (answered : exchange.answer =
      adapter.unlockedServer db.virtualMachines hosting.existing offered power n exchange.call) :
    hosting.Shows db.providerVmids exchange := by
  by_cases isListing : exchange.call = resourcesRequest
  · have answer : exchange.answer = .ok (bodyOf (.list
        ((adapter.entries db.virtualMachines hosting.existing).map .dict))) := by
      rw [answered, isListing]
      rfl
    simp only [Hosting.Shows, answer, ok_bind, listedIn_bodyOf]
    exact fun _ vmid known => any_entries known
  · unfold Hosting.Shows
    split
    · exact fun same => absurd same isListing
    · trivial

/-- Its resource lists show no lock. -/
theorem HttpProxmoxAdapter.not_reportsLock_unlocked {vms : List VirtualMachine}
    {exchange : HttpExchange} {n : ℕ} {node : String} {vmid : ℤ}
    (answered : exchange.answer =
      adapter.unlockedServer vms existing offered power n exchange.call)
    (isListing : exchange.call = resourcesRequest) : ¬ReportsLock node vmid exchange := by
  rintro ⟨body, isBody, ⟨_, resources, resource, lists, resourceMem, _, locked⟩ | ⟨isStatus, _⟩⟩
  · rw [answered, isListing] at isBody
    have own : Lists body (adapter.entries vms existing) := by
      cases isBody
      exact ⟨_, rfl, rfl⟩
    rw [lists.unique own] at resourceMem
    rcases mem_entries.mp resourceMem with ⟨vm, _, own, _, _, rfl⟩
    cases locked
  · rw [isListing] at isStatus
    simp [resourcesRequest, statusRequest] at isStatus

end Returned

end NpdPortal
