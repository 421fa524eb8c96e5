import Mathlib.Algebra.Ring.Int.Defs
import NpdPortal.Portal.Contracts
import NpdPortal.Proxmox.Client

/-!
# The HTTP adapter

The methods of `HttpProxmoxAdapter` as programs over the HTTP requests of its
client.  `HttpProxmoxAdapter.perform` is the adapter as the worker sees it.
-/

namespace NpdPortal

open PyJson ProxmoxClient

/-- The configuration of the adapter. -/
structure HttpProxmoxAdapter where
  targetNode : String
  pool : String
  templateNode : String
  templateVmid : ℤ
  templateImageId : String
  storage : String
  cloudInitUser : String
  ipconfig0 : String
  nameserver : String
  searchDomain : String
  deriving DecidableEq, Repr

/-- `_vm_name`. -/
def vmName (vmId : Uuid) : String := s!"npd-{PyString.uuidText vmId}"

/-- `status in {"running", "stopped"}`; a list or a dict cannot be looked up in a set. -/
def powerStatus (message : String) (status : PyJson) : Except ClientError PowerState :=
  match status with
  | .str "running" => .ok .running
  | .str "stopped" => .ok .stopped
  | .list _ => .error (.typeError "unhashable type: 'list'")
  | .dict _ => .error (.typeError "unhashable type: 'dict'")
  | _ => .error (.runtimeError message status)

/-- The text of a power state. -/
def PowerState.text : PowerState → String
  | .running => "running"
  | .stopped => "stopped"
  | .missing => "missing"

namespace HttpProxmoxAdapter

variable (adapter : HttpProxmoxAdapter)

/-- `choose_clone_target`. -/
def chooseCloneTarget : Http ProviderPlacement := do
  let vmid ← getNextVmid
  pure { node := adapter.targetNode, vmid }

/-- `_find_owned_vm_resource`. -/
def findOwnedVmResource (portalVmId : Uuid) (node : String) (vmid : ℤ) :
    Http (Option Fields) := do
  match ← findVmResource vmid with
  | none => pure none
  | some resource =>
      Http.require ((resource.get "type").equalsText "qemu" = true)
        (.resourceConflict s!"VMID {vmid} belongs to a non-QEMU resource")
      Http.require ((resource.get "name").equalsText (vmName portalVmId) = true)
        (.resourceConflict s!"VMID {vmid} has unexpected name")
      Http.require ((resource.get "pool").equalsText adapter.pool = true)
        (.resourceConflict s!"VMID {vmid} belongs to another pool")
      Http.require ((resource.get "node").equalsText node = true)
        (.resourceConflict s!"VMID {vmid} belongs to another node")
      pure (some resource)

/-- The node must be the configured one. -/
def requireTargetNode (node : String) : Http Unit :=
  Http.require (node = adapter.targetNode) (.valueError "unexpected Proxmox target node")

/-- `clone_vm`. -/
def cloneVm (request : CreateVmRequest) (node : String) (vmid : ℤ) :
    Http ProviderCloneResult := do
  adapter.requireTargetNode node
  Http.require (request.imageId = adapter.templateImageId)
    (.valueError s!"unsupported VM image: {request.imageId}")
  match ← adapter.findOwnedVmResource request.vmId node vmid with
  | some resource =>
      let lock := resource.get "lock"
      if lock.equalsText "clone" then pure { state := .inProgress }
      else do
        Http.require (lock.isNone = true)
          (.resourceConflict s!"VMID {vmid} has unexpected lock: " lock)
        pure { state := .succeeded }
  | none =>
      let upid ← ProxmoxClient.cloneVm adapter.templateNode node adapter.templateVmid vmid
        (vmName request.vmId) adapter.storage adapter.pool
      pure { state := .submitted, task := some { taskId := upid, node, vmid } }

/-- `get_task_status`. -/
def getTaskStatus (task : ProviderTask) : Http ProviderTaskStatus := do
  let data ← ProxmoxClient.getTaskStatus task.node task.taskId
  Http.require ((data.get "upid").equalsText task.taskId = true)
    (.runtimeError "Proxmox returned status for another task")
  let status := data.get "status"
  if status.equalsText "running" then pure { status := .running }
  else do
    Http.require (status.equalsText "stopped" = true)
      (.runtimeError "unknown Proxmox task status: " status)
    match data.get "exitstatus" with
    | .str exitStatus =>
        if exitStatus = "OK" then pure { status := .succeeded }
        else pure { status := .failed, errorCode := some "proxmox_task_failed" }
    | _ => Program.raise (.runtimeError "finished Proxmox task has no exit status")

/-- A resource that must exist and must not be locked. -/
def requireUnlocked (vmid : ℤ) (missing locked : String) (resource : Option Fields) :
    Http Unit := do
  match resource with
  | none => Program.raise (.runtimeError s!"VMID {vmid} is missing{missing}")
  | some resource =>
      let lock := resource.get "lock"
      Http.require (lock.isNone = true) (.runtimeError s!"VMID {vmid} is locked{locked}: " lock)

/-- `configure_vm`. -/
def configureVm (request : CreateVmRequest) (node : String) (vmid : ℤ) :
    Http (Option ProviderTask) := do
  adapter.requireTargetNode node
  let resource ← adapter.findOwnedVmResource request.vmId node vmid
  requireUnlocked vmid " before configuration" " before configuration" resource
  let upid ← ProxmoxClient.configureVm node vmid request.vcpus request.memoryMb
    adapter.cloudInitUser adapter.ipconfig0 adapter.nameserver adapter.searchDomain
    request.sshPublicKey s!"npd-portal;npd-{PyString.uuidText request.vmId}"
  pure (upid.map fun taskId => { taskId, node, vmid })

/-- `maxdisk`, which must be a positive integer. -/
def diskSize (vmid : ℤ) (size : PyJson) : Except ClientError ℤ :=
  match size with
  | .int value =>
      if 0 < value then .ok value else .error (.runtimeError s!"VMID {vmid} has invalid disk size")
  | _ => .error (.runtimeError s!"VMID {vmid} has invalid disk size")

/-- `resize_vm_disk`. -/
def resizeVmDisk (request : CreateVmRequest) (node : String) (vmid : ℤ) :
    Http (Option ProviderTask) := do
  adapter.requireTargetNode node
  let resource ← adapter.findOwnedVmResource request.vmId node vmid
  requireUnlocked vmid " before disk resize" " before disk resize" resource
  let vmStatus ← getVmCurrentStatus node vmid
  let currentSizeBytes ← diskSize vmid (vmStatus.get "maxdisk")
  let requestedSizeBytes : ℤ := request.storageGb * 1024 ^ 3
  Http.require (currentSizeBytes ≤ requestedSizeBytes)
    (.runtimeError s!"VMID {vmid} disk is larger than requested")
  if currentSizeBytes = requestedSizeBytes then pure none
  else do
    let upid ← ProxmoxClient.resizeVmDisk node vmid "scsi0" request.storageGb
    pure (some { taskId := upid, node, vmid })

/-- `get_vm_power_state`. -/
def getVmPowerState (portalVmId : Uuid) (node : String) (vmid : ℤ) : Http ProviderVmState := do
  adapter.requireTargetNode node
  match ← adapter.findOwnedVmResource portalVmId node vmid with
  | none => pure { status := .missing }
  | some resource =>
      let vmStatus ← getVmCurrentStatus node vmid
      let status ← powerStatus s!"VMID {vmid} has unexpected status: " (vmStatus.get "status")
      pure { status, locked := !(resource.get "lock").isNone || !(vmStatus.get "lock").isNone }

/-- `start_vm`. -/
def startVm (portalVmId : Uuid) (node : String) (vmid : ℤ) : Http (Option ProviderTask) := do
  let state ← adapter.getVmPowerState portalVmId node vmid
  Http.require (state.locked = false) (.runtimeError s!"VMID {vmid} is locked before start")
  match state.status with
  | .running => pure none
  | .missing => Program.raise (.runtimeError
      s!"VMID {vmid} has unexpected status before start: {state.status.text}")
  | .stopped =>
      let upid ← ProxmoxClient.startVm node vmid
      pure (some { taskId := upid, node, vmid })

/-- `_get_owned_vm_status`; it looks at the lock of the resource only. -/
def getOwnedVmStatus (portalVmId : Uuid) (node : String) (vmid : ℤ) : Http PowerState := do
  let resource ← adapter.findOwnedVmResource portalVmId node vmid
  requireUnlocked vmid "" "" resource
  let vmStatus ← getVmCurrentStatus node vmid
  powerStatus s!"VMID {vmid} has unexpected status: " (vmStatus.get "status")

/-- `shutdown_vm` and `stop_vm`, which send different commands to a running VM. -/
def powerOff (send : String → ℤ → Http String) (portalVmId : Uuid) (node : String) (vmid : ℤ) :
    Http (Option ProviderTask) := do
  let currentStatus ← adapter.getOwnedVmStatus portalVmId node vmid
  if currentStatus = .stopped then pure none
  else do
    let upid ← send node vmid
    pure (some { taskId := upid, node, vmid })

/-- `shutdown_vm`. -/
def shutdownVm : Uuid → String → ℤ → Http (Option ProviderTask) :=
  adapter.powerOff ProxmoxClient.shutdownVm

/-- `stop_vm`. -/
def stopVm : Uuid → String → ℤ → Http (Option ProviderTask) :=
  adapter.powerOff ProxmoxClient.stopVm

/-- `delete_vm`; it looks at the lock of the resource only. -/
def deleteVm (portalVmId : Uuid) (node : String) (vmid : ℤ) : Http ProviderDeleteResult := do
  adapter.requireTargetNode node
  match ← adapter.findOwnedVmResource portalVmId node vmid with
  | none => pure { state := .succeeded }
  | some resource =>
      if (resource.get "lock").isNone then do
        let vmStatus ← getVmCurrentStatus node vmid
        Http.require ((vmStatus.get "status").equalsText "stopped" = true)
          (.runtimeError s!"VMID {vmid} must be stopped before delete")
        let upid ← ProxmoxClient.deleteVm node vmid
        pure { state := .submitted, task := some { taskId := upid, node, vmid } }
      else pure { state := .inProgress }

/-- The adapter as the worker calls it. -/
def perform : (call : AdapterCall) → Http call.Answer
  | .getVmPowerState portalVmId node vmid => adapter.getVmPowerState portalVmId node vmid
  | .chooseCloneTarget _ => adapter.chooseCloneTarget
  | .getTaskStatus task => getTaskStatus task
  | .cloneVm request node vmid => adapter.cloneVm request node vmid
  | .configureVm request node vmid => adapter.configureVm request node vmid
  | .resizeVmDisk request node vmid => adapter.resizeVmDisk request node vmid
  | .startVm portalVmId node vmid => adapter.startVm portalVmId node vmid
  | .shutdownVm portalVmId node vmid => adapter.shutdownVm portalVmId node vmid
  | .stopVm portalVmId node vmid => adapter.stopVm portalVmId node vmid
  | .deleteVm portalVmId node vmid => adapter.deleteVm portalVmId node vmid

end HttpProxmoxAdapter

end NpdPortal
