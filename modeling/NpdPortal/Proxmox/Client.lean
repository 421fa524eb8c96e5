import NpdPortal.Library.Json
import NpdPortal.Library.Printing
import NpdPortal.Library.Program
import NpdPortal.Library.Text

/-!
# The client of the Proxmox API

The methods of `ProxmoxClient` which the adapter uses, as programs over the
HTTP requests they make.  A request is answered with the decoded body or with
the exception it ends with.
-/

namespace NpdPortal

/-- The exceptions of the client and of the adapter; `shown` is the value printed at the end of
the message. -/
inductive ClientError where
  /-- An exception of the HTTP library: the transport, the time limit, the status or the body. -/
  | http (message : String)
  | runtimeError (message : String) (shown : PyJson := .null)
  | valueError (message : String) (shown : PyJson := .null)
  | typeError (message : String)
  | resourceConflict (message : String) (shown : PyJson := .null)

inductive Method where
  | get
  | post
  | put
  | delete
  deriving DecidableEq, Repr

/-- The paths of the API. -/
inductive ApiPath where
  | clusterNextid
  | clusterResources
  /-- A VM, with the rest of the path. -/
  | qemu (node : String) (vmid : ℤ) (rest : String)
  | taskStatus (node upid : String)
  deriving DecidableEq, Repr

/-- The path as the client writes it, with the node as it is given. -/
def ApiPath.text : ApiPath → String
  | clusterNextid => "cluster/nextid"
  | clusterResources => "cluster/resources"
  | qemu node vmid rest => s!"nodes/{node}/qemu/{vmid}{rest}"
  | taskStatus node upid => s!"nodes/{node}/tasks/{PyString.quote upid}/status"

/-- The node a path goes to. -/
def ApiPath.node? : ApiPath → Option String
  | qemu node _ _ | taskStatus node _ => some node
  | _ => none

inductive FormValue where
  | int (value : ℤ)
  | text (value : String)
  deriving DecidableEq, Repr

/-- One HTTP request. -/
structure Request where
  method : Method
  path : ApiPath
  data : List (String × FormValue) := []
  params : List (String × FormValue) := []
  deriving DecidableEq, Repr

/-- The request may change something. -/
def Request.Mutates (request : Request) : Prop := request.method ≠ .get

instance : DecidablePred Request.Mutates := fun _ => inferInstanceAs (Decidable (_ ≠ _))

/-- Code that makes HTTP requests. -/
abbrev Http := Program Request (fun _ => PyJson) ClientError

/-- A request and how it ended. -/
abbrev HttpExchange := Program.Exchange Request (fun _ => PyJson) ClientError

/-- The provider behind the API. -/
abbrev HttpServer := Program.Environment Request (fun _ => PyJson) ClientError

namespace Http

/-- Go on only if the condition holds. -/
def require (condition : Prop) [Decidable condition] (error : ClientError) : Http Unit :=
  .done (if condition then .ok () else .error error)

/-- The value, or the error. -/
def expect {α : Type} (value : Option α) (error : ClientError) : Http α :=
  .done (match value with
    | some value => .ok value
    | none => .error error)

end Http

namespace ProxmoxClient

open PyJson

/-- The `data` of a response body. -/
def dataOf (body : PyJson) : Except ClientError PyJson :=
  match body with
  | .dict fields =>
      match fields.lookup "data" with
      | some data => .ok data
      | none => .error (.runtimeError "Proxmox response has no data field")
  | _ => .error (.runtimeError "invalid Proxmox response body")

/-- `_request_data`. -/
def requestData (request : Request) : Http PyJson := do
  let body ← Program.perform request
  dataOf body

/-- The answer to a command must be the identifier of a task. -/
def upidOf (message : String) (data : PyJson) : Except ClientError String :=
  match data with
  | .str upid =>
      if PyString.startswith upid "UPID:" then .ok upid else .error (.valueError message data)
  | _ => .error (.valueError message data)

/-- A command that is answered with the identifier of its task. -/
def command (request : Request) (message : String) : Http String := do
  let data ← requestData request
  upidOf message data

/-- `get_next_vmid`. -/
def getNextVmid : Http ℤ := do
  let data ← requestData { method := .get, path := .clusterNextid }
  match data with
  | .str text =>
      let vmid ← Http.expect (PyString.int? text)
        (.valueError "Invalid Proxmox next VMID value: " data)
      Http.require (0 < vmid) (.valueError "Invalid Proxmox next VMID value: " (.int vmid))
      pure vmid
  | _ => Program.raise (.valueError "Invalid Proxmox next VMID response: " data)

def cloneRequest (sourceNode targetNode : String) (templateVmid newVmid : ℤ)
    (name storage pool : String) : Request where
  method := .post
  path := .qemu sourceNode templateVmid "/clone"
  data := [("newid", .int newVmid), ("name", .text name), ("full", .int 1),
    ("storage", .text storage), ("pool", .text pool), ("target", .text targetNode)]

/-- `clone_vm`. -/
def cloneVm (sourceNode targetNode : String) (templateVmid newVmid : ℤ)
    (name storage pool : String) : Http String :=
  command (cloneRequest sourceNode targetNode templateVmid newVmid name storage pool)
    "Invalid Proxmox clone request response: "

/-- `get_task_status`. -/
def getTaskStatus (node upid : String) : Http Fields := do
  let data ← requestData { method := .get, path := .taskStatus node upid }
  let error := ClientError.valueError "Invalid Proxmox status request response: " data
  let fields ← Http.expect data.dict? error
  match fields.get "status" with
  | .str _ => pure fields
  | _ => Program.raise error

def configureRequest (node : String) (vmid : ℤ) (vcpus memoryMb : ℕ)
    (cloudInitUser ipconfig0 nameserver searchDomain sshPublicKey tags : String) : Request where
  method := .post
  path := .qemu node vmid "/config"
  data := [("cores", .int vcpus), ("memory", .int memoryMb), ("ciuser", .text cloudInitUser),
    ("ipconfig0", .text ipconfig0), ("nameserver", .text nameserver),
    ("searchdomain", .text searchDomain), ("sshkeys", .text (PyString.quote sshPublicKey)),
    ("protection", .int 0), ("tags", .text tags)]

/-- `configure_vm`; only this command may be answered with null. -/
def configureVm (node : String) (vmid : ℤ) (vcpus memoryMb : ℕ)
    (cloudInitUser ipconfig0 nameserver searchDomain sshPublicKey tags : String) :
    Http (Option String) := do
  let result ← requestData (configureRequest node vmid vcpus memoryMb cloudInitUser ipconfig0
    nameserver searchDomain sshPublicKey tags)
  if result.isNone then pure none
  else do
    let upid ← upidOf "Invalid Proxmox configure VM response: " result
    pure (some upid)

def resizeRequest (node : String) (vmid : ℤ) (disk : String) (sizeGb : ℕ) : Request where
  method := .put
  path := .qemu node vmid "/resize"
  data := [("disk", .text disk), ("size", .text s!"{sizeGb}G")]

/-- `resize_vm_disk`. -/
def resizeVmDisk (node : String) (vmid : ℤ) (disk : String) (sizeGb : ℕ) : Http String := do
  Http.require (0 < sizeGb) (.valueError "disk size must be positive")
  command (resizeRequest node vmid disk sizeGb) "Invalid Proxmox resize VM disk response: "

def startRequest (node : String) (vmid : ℤ) : Request where
  method := .post
  path := .qemu node vmid "/status/start"

/-- `start_vm`. -/
def startVm (node : String) (vmid : ℤ) : Http String :=
  command (startRequest node vmid) "Invalid Proxmox start VM response: "

def shutdownRequest (node : String) (vmid : ℤ) : Request where
  method := .post
  path := .qemu node vmid "/status/shutdown"
  data := [("timeout", .int 60), ("forceStop", .int 0)]

/-- `shutdown_vm` with its default time limit. -/
def shutdownVm (node : String) (vmid : ℤ) : Http String :=
  command (shutdownRequest node vmid) "Invalid Proxmox shutdown VM response: "

def stopRequest (node : String) (vmid : ℤ) : Request where
  method := .post
  path := .qemu node vmid "/status/stop"

/-- `stop_vm`. -/
def stopVm (node : String) (vmid : ℤ) : Http String :=
  command (stopRequest node vmid) "Invalid Proxmox stop VM response: "

def deleteRequest (node : String) (vmid : ℤ) : Request where
  method := .delete
  path := .qemu node vmid ""
  params := [("purge", .int 1)]

/-- `delete_vm`. -/
def deleteVm (node : String) (vmid : ℤ) : Http String :=
  command (deleteRequest node vmid) "Invalid Proxmox delete VM response: "

/-- The fields of every item, if all of them are a `dict`. -/
def allFields : List PyJson → Option (List Fields)
  | [] => some []
  | item :: rest => do
      let fields ← item.dict?
      let others ← allFields rest
      pure (fields :: others)

/-- The request for the VMs of the cluster. -/
def resourcesRequest : Request :=
  { method := .get, path := .clusterResources, params := [("type", .text "vm")] }

/-- `list_vm_resources`. -/
def listVmResources : Http (List Fields) := do
  let data ← requestData resourcesRequest
  let items ← Http.expect data.list? (.valueError "Invalid Proxmox cluster/resources response")
  Http.expect (allFields items) (.valueError "Invalid VM resource in Proxmox response")

/-- The resources with this VMID, if every resource has an integer VMID. -/
def withVmid (vmid : ℤ) : List Fields → Except ClientError (List Fields)
  | [] => .ok []
  | resource :: rest =>
      match (resource.get "vmid").int? with
      | none => .error (.valueError "Invalid VMID in Proxmox resource: " (resource.get "vmid"))
      | some own => do
          let others ← withVmid vmid rest
          pure (if own = vmid then resource :: others else others)

/-- `find_vm_resource`. -/
def findVmResource (vmid : ℤ) : Http (Option Fields) := do
  Http.require (0 < vmid) (.valueError "VMID must be positive")
  let resources ← listVmResources
  let matching ← withVmid vmid resources
  match matching with
  | [] => pure none
  | [resource] => pure (some resource)
  | _ => Program.raise (.runtimeError s!"Proxmox returned multiple resources with VMID {vmid}")

/-- The request for the status of a VM. -/
def statusRequest (node : String) (vmid : ℤ) : Request :=
  { method := .get, path := .qemu node vmid "/status/current" }

/-- `get_vm_current_status`. -/
def getVmCurrentStatus (node : String) (vmid : ℤ) : Http Fields := do
  let data ← requestData (statusRequest node vmid)
  let fields ← Http.expect data.dict? (.valueError "Invalid Proxmox VM status response: " data)
  Http.require ((fields.get "vmid").equalsInt vmid = true)
    (.valueError "Proxmox returned status for another VM")
  pure fields

end ProxmoxClient

end NpdPortal
