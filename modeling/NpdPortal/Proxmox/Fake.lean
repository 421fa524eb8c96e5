import Mathlib.Logic.Function.Basic
import NpdPortal.Library.Printing
import NpdPortal.Portal.Contracts

/-!
# The fake adapter

`FakeProxmoxAdapter` of `proxmox/fake.py`: an adapter which keeps the provider
in memory, places every VM by its own id and ends every task at once.
-/

namespace NpdPortal

/-- The attributes of the adapter; its dicts and its set are functions. -/
structure FakeProxmoxAdapter where
  node : String := "fake-node"
  nodeText : Sql.FitsText node := by decide
  createdVms : ℤ → Option CreateVmRequest := fun _ => none
  taskStatuses : String → Option ProviderTaskStatus := fun _ => none
  deletedVmids : ℤ → Bool := fun _ => false
  powerStates : ℤ → Option PowerState := fun _ => none

namespace FakeProxmoxAdapter

/-- `_vmid_for_vm_id`. -/
def vmidForVmId (vmId : Uuid) : ℤ := 100000 + (vmId.toNat % 899900000 : ℕ)

/-- The column takes every VMID of the adapter. -/
theorem vmidForVmId_fits (vmId : Uuid) : Sql.FitsInteger (vmidForVmId vmId) := by
  have below : vmId.toNat % 899900000 < 899900000 := Nat.mod_lt _ (by decide)
  unfold vmidForVmId
  constructor <;> omega

/-- The id of the task of an operation. -/
def taskId (operationType : String) (vmId : Uuid) : String :=
  "fake:" ++ operationType ++ ":" ++ PyString.uuidText vmId

/-- The columns take the ids of the tasks. -/
theorem taskId_fits {operationType : String} (known : operationType ∈
    ["clone", "resize", "start", "shutdown", "stop", "delete"]) (vmId : Uuid) :
    Sql.FitsVarchar 255 (taskId operationType vmId) := by
  have isWord : Sql.FitsVarchar 8 operationType := by
    revert operationType
    decide
  constructor
  · intro isNul
    simp only [taskId, String.toList_append, List.mem_append] at isNul
    rcases isNul with ((inHead | inWord) | inColon) | inId
    · exact absurd inHead (by decide)
    · exact isWord.1 inWord
    · exact absurd inColon (by decide)
    · rcases PyString.mem_uuidText inId with isHyphen | ⟨digit, isDigit, same⟩
      · exact absurd isHyphen (by decide)
      · revert digit
        decide
  · have words := isWord.2
    simp only [taskId, String.length_append, PyString.length_uuidText]
    have head : "fake:".length = 5 := rfl
    have colon : ":".length = 1 := rfl
    omega

variable (fake : FakeProxmoxAdapter)

/-- The two checks which the methods make of their target. -/
def checkTarget (vmId : Uuid) (node : String) (vmid : ℤ) : Except Error Unit := do
  require (node = fake.node) (.provider "fake provider node does not match")
  require (vmid = vmidForVmId vmId) (.provider "fake provider VMID does not match")

/-- A new task, which has already succeeded. -/
def issue (operationType : String) (vmId : Uuid) (node : String) (vmid : ℤ) :
    ProviderTask × FakeProxmoxAdapter :=
  let task : ProviderTask := ⟨taskId operationType vmId, vmid, node⟩
  let statuses := Function.update fake.taskStatuses task.taskId (some { status := .succeeded })
  (task, { fake with taskStatuses := statuses })

/-- The adapter after a new power state was recorded. -/
def withPower (vmid : ℤ) (power : Option PowerState) : FakeProxmoxAdapter :=
  { fake with powerStates := Function.update fake.powerStates vmid power }

/-- `choose_clone_target`. -/
def chooseCloneTarget (request : CreateVmRequest) : ProviderPlacement where
  node := fake.node
  vmid := vmidForVmId request.vmId

/-- `clone_vm`. -/
def cloneVm (request : CreateVmRequest) (node : String) (vmid : ℤ) :
    Except Error (ProviderCloneResult × FakeProxmoxAdapter) := do
  fake.checkTarget request.vmId node vmid
  let (task, next) := fake.issue "clone" request.vmId node vmid
  pure ({ state := .submitted, task := some task },
    { next.withPower vmid (some .stopped) with
      createdVms := Function.update fake.createdVms vmid (some request) })

/-- `get_task_status`. -/
def getTaskStatus (task : ProviderTask) : Except Error ProviderTaskStatus :=
  let invalid := Error.provider "invalid fake provider task id"
  match fake.taskStatuses task.taskId with
  | some status => pure status
  | none =>
      match task.taskId.splitOn ":" with
      | [head, operationType, rawVmId] => do
          require (head = "fake" ∧ operationType ∈
            ["clone", "resize", "start", "shutdown", "stop", "delete"]) invalid
          let vmId ← found (PyString.uuid? rawVmId) invalid
          require (task.vmid = vmidForVmId vmId)
            (.provider "fake provider VMID does not match task")
          require (task.node = fake.node) (.provider "fake provider node does not match task")
          pure { status := .succeeded }
      | _ => throw invalid

/-- `configure_vm`. -/
def configureVm (request : CreateVmRequest) (node : String) (vmid : ℤ) :
    Except Error (Option ProviderTask × FakeProxmoxAdapter) := do
  fake.checkTarget request.vmId node vmid
  pure (none, fake)

/-- `resize_vm_disk`. -/
def resizeVmDisk (request : CreateVmRequest) (node : String) (vmid : ℤ) :
    Except Error (Option ProviderTask × FakeProxmoxAdapter) := do
  fake.checkTarget request.vmId node vmid
  let (task, next) := fake.issue "resize" request.vmId node vmid
  pure (some task, next)

/-- The command of a power change. -/
def changePower (operationType : String) (power : PowerState) (portalVmId : Uuid)
    (node : String) (vmid : ℤ) : Except Error (Option ProviderTask × FakeProxmoxAdapter) := do
  fake.checkTarget portalVmId node vmid
  let (task, next) := fake.issue operationType portalVmId node vmid
  pure (some task, next.withPower vmid (some power))

/-- `start_vm`. -/
def startVm := fake.changePower "start" .running

/-- `shutdown_vm`. -/
def shutdownVm := fake.changePower "shutdown" .stopped

/-- `stop_vm`. -/
def stopVm := fake.changePower "stop" .stopped

/-- `get_vm_power_state`. -/
def getVmPowerState (portalVmId : Uuid) (node : String) (vmid : ℤ) :
    Except Error ProviderVmState := do
  fake.checkTarget portalVmId node vmid
  if fake.deletedVmids vmid then pure { status := .missing }
  else if fake.createdVms vmid = none ∧ fake.powerStates vmid = none then
    pure { status := .missing }
  else pure { status := (fake.powerStates vmid).getD .stopped }

/-- `delete_vm`. -/
def deleteVm (portalVmId : Uuid) (node : String) (vmid : ℤ) :
    Except Error (ProviderDeleteResult × FakeProxmoxAdapter) := do
  fake.checkTarget portalVmId node vmid
  if fake.deletedVmids vmid then pure ({ state := .succeeded }, fake)
  else
    let (task, next) := fake.issue "delete" portalVmId node vmid
    pure ({ state := .submitted, task := some task },
      { next.withPower vmid none with
        deletedVmids := Function.update fake.deletedVmids vmid true
        createdVms := Function.update fake.createdVms vmid none })

/-- What a method answers, and the adapter it leaves; one that raises has changed nothing. -/
def answered {α : Type} (result : Except Error (α × FakeProxmoxAdapter)) :
    Except Error α × FakeProxmoxAdapter :=
  match result with
  | .ok (value, next) => (.ok value, next)
  | .error error => (.error error, fake)

/-- The methods of the adapter. -/
def call : (call : AdapterCall) → Except Error call.Answer × FakeProxmoxAdapter
  | .getVmPowerState vmId node vmid => (fake.getVmPowerState vmId node vmid, fake)
  | .chooseCloneTarget request => (.ok (fake.chooseCloneTarget request), fake)
  | .getTaskStatus task => (fake.getTaskStatus task, fake)
  | .cloneVm request node vmid => fake.answered (fake.cloneVm request node vmid)
  | .configureVm request node vmid => fake.answered (fake.configureVm request node vmid)
  | .resizeVmDisk request node vmid => fake.answered (fake.resizeVmDisk request node vmid)
  | .startVm vmId node vmid => fake.answered (fake.startVm vmId node vmid)
  | .shutdownVm vmId node vmid => fake.answered (fake.shutdownVm vmId node vmid)
  | .stopVm vmId node vmid => fake.answered (fake.stopVm vmId node vmid)
  | .deleteVm vmId node vmid => fake.answered (fake.deleteVm vmId node vmid)

end FakeProxmoxAdapter

end NpdPortal
