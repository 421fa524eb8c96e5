import NpdPortal.Proxmox.HttpAdapter

/-!
# The shape of a command

Every command of the adapter first finds the resource of its VM, may then read
the status of the VM, and sends one request last.  `GuardedCommand` is this
shape; `HttpProxmoxAdapter.perform_eq_program` says that the seven commands
have it.
-/

namespace NpdPortal

open PyJson ProxmoxClient

/-- What a command decides when it has found its resource. -/
inductive Decision (α : Type) where
  /-- There is nothing to send. -/
  | finish (value : α)
  /-- The request is sent. -/
  | send
  /-- The status of the VM is read first. -/
  | read

/-- A command as the checks around its one request. -/
structure GuardedCommand (α : Type) where
  portalVmId : Uuid
  node : String
  vmid : ℤ
  /-- What is checked before any request. -/
  precondition : Except ClientError Unit
  onResource : Option Fields → Except ClientError (Decision α)
  /-- The decision on the status; nothing is sent when it is a value. -/
  onStatus : Option Fields → Fields → Except ClientError (Option α)
  request : Request
  onAnswer : PyJson → Except ClientError α

section Answers

/-- The resources in the answer to `resourcesRequest`. -/
def listedIn (body : PyJson) : Except ClientError (List Fields) := do
  let data ← dataOf body
  match data.list? with
  | none => .error (.valueError "Invalid Proxmox cluster/resources response")
  | some items =>
      match allFields items with
      | none => .error (.valueError "Invalid VM resource in Proxmox response")
      | some resources => .ok resources

/-- The resource of a VMID in that answer. -/
def resourceIn (vmid : ℤ) (body : PyJson) : Except ClientError (Option Fields) := do
  let resources ← listedIn body
  match ← withVmid vmid resources with
  | [] => .ok none
  | [resource] => .ok (some resource)
  | _ => .error (.runtimeError s!"Proxmox returned multiple resources with VMID {vmid}")

/-- The four checks of the ownership test. -/
def ownershipError (adapter : HttpProxmoxAdapter) (portalVmId : Uuid) (node : String) (vmid : ℤ)
    (resource : Fields) : Option ClientError :=
  if (resource.get "type").equalsText "qemu" = true then
    if (resource.get "name").equalsText (vmName portalVmId) = true then
      if (resource.get "pool").equalsText adapter.pool = true then
        if (resource.get "node").equalsText node = true then none
        else some (.resourceConflict s!"VMID {vmid} belongs to another node")
      else some (.resourceConflict s!"VMID {vmid} belongs to another pool")
    else some (.resourceConflict s!"VMID {vmid} has unexpected name")
  else some (.resourceConflict s!"VMID {vmid} belongs to a non-QEMU resource")

/-- The owned resource of a VMID in that answer. -/
def ownedIn (adapter : HttpProxmoxAdapter) (portalVmId : Uuid) (node : String) (vmid : ℤ)
    (body : PyJson) : Except ClientError (Option Fields) := do
  match ← resourceIn vmid body with
  | none => .ok none
  | some resource =>
      match ownershipError adapter portalVmId node vmid resource with
      | none => .ok (some resource)
      | some error => .error error

/-- The fields in the answer to `statusRequest`. -/
def statusIn (vmid : ℤ) (body : PyJson) : Except ClientError Fields := do
  let data ← dataOf body
  match data.dict? with
  | none => .error (.valueError "Invalid Proxmox VM status response: " data)
  | some fields =>
      if (fields.get "vmid").equalsInt vmid = true then .ok fields
      else .error (.valueError "Proxmox returned status for another VM")

end Answers

namespace GuardedCommand

variable {α : Type}

/-- The last request of a command. -/
def send (command : GuardedCommand α) : Http α :=
  .call command.request fun answer => .done (do
    let body ← answer
    let data ← dataOf body
    command.onAnswer data)

/-- The command as a program. -/
def program (adapter : HttpProxmoxAdapter) (command : GuardedCommand α) : Http α :=
  match command.precondition with
  | .error error => .done (.error error)
  | .ok () =>
      if 0 < command.vmid then
        .call resourcesRequest fun listing =>
          match listing >>= ownedIn adapter command.portalVmId command.node command.vmid with
          | .error error => .done (.error error)
          | .ok resource =>
              match command.onResource resource with
              | .error error => .done (.error error)
              | .ok (.finish value) => .done (.ok value)
              | .ok .send => command.send
              | .ok .read =>
                  .call (statusRequest command.node command.vmid) fun status =>
                    match status >>= statusIn command.vmid with
                    | .error error => .done (.error error)
                    | .ok fields =>
                        match command.onStatus resource fields with
                        | .error error => .done (.error error)
                        | .ok (some value) => .done (.ok value)
                        | .ok none => command.send
      else .done (.error (.valueError "VMID must be positive"))

end GuardedCommand

section Equations

variable (adapter : HttpProxmoxAdapter)

theorem Http.require_eq (condition : Prop) [Decidable condition] (error : ClientError) :
    Http.require condition error = if condition then .done (.ok ()) else .done (.error error) := by
  unfold Http.require
  split <;> rfl

theorem Http.expect_eq {α : Type} (value : Option α) (error : ClientError) :
    Http.expect value error = match value with
      | some value => .done (.ok value)
      | none => .done (.error error) := by
  cases value <;> rfl

theorem findVmResource_eq (vmid : ℤ) :
    findVmResource vmid =
      if 0 < vmid then .call resourcesRequest fun listing => .done (listing >>= resourceIn vmid)
      else .done (.error (.valueError "VMID must be positive")) := by
  unfold findVmResource
  rw [Http.require_eq]
  split
  · simp only [listVmResources, requestData, Program.perform_eq, Program.call_bind,
      Program.done_ok_bind]
    congr 1
    funext listing
    rcases listing with error | body
    · rfl
    simp only [resourceIn, listedIn, ok_bind, Program.done_ok_bind]
    cases dataOf body with
    | error error => rfl
    | ok data =>
        simp only [Http.expect_eq, ok_bind, Program.liftT_eq, Program.done_ok_bind]
        cases data.list? with
        | none => rfl
        | some items =>
            simp only [Program.done_ok_bind]
            cases allFields items with
            | none => rfl
            | some resources =>
                simp only [Program.done_ok_bind, ok_bind]
                cases withVmid vmid resources with
                | error error => rfl
                | ok matching =>
                    simp only [Program.done_ok_bind, ok_bind]
                    rcases matching with _ | ⟨resource, _ | ⟨_, _⟩⟩ <;> rfl
  · rfl

theorem findOwnedVmResource_eq (portalVmId : Uuid) (node : String) (vmid : ℤ) :
    adapter.findOwnedVmResource portalVmId node vmid =
      if 0 < vmid then
        .call resourcesRequest fun listing =>
          .done (listing >>= ownedIn adapter portalVmId node vmid)
      else .done (.error (.valueError "VMID must be positive")) := by
  unfold HttpProxmoxAdapter.findOwnedVmResource
  rw [findVmResource_eq]
  split
  · simp only [Program.call_bind]
    congr 1
    funext listing
    rcases listing with error | body
    · rfl
    simp only [ownedIn, ok_bind]
    cases resourceIn vmid body with
    | error error => rfl
    | ok found =>
        cases found with
        | none => rfl
        | some resource =>
            simp only [Program.done_ok_bind, ok_bind, ownershipError, Http.require_eq]
            split
            · simp only [Program.done_ok_bind]
              split
              · simp only [Program.done_ok_bind]
                split
                · simp only [Program.done_ok_bind]
                  split <;> rfl
                · rfl
              · rfl
            · rfl
  · rfl

theorem getVmCurrentStatus_eq (node : String) (vmid : ℤ) :
    getVmCurrentStatus node vmid =
      .call (statusRequest node vmid) fun status => .done (status >>= statusIn vmid) := by
  unfold getVmCurrentStatus requestData
  simp only [Program.perform_eq, Program.call_bind]
  congr 1
  funext status
  rcases status with error | body
  · rfl
  simp only [statusIn, ok_bind, Program.done_ok_bind]
  cases dataOf body with
  | error error => rfl
  | ok data =>
      simp only [Http.expect, Http.require_eq, Program.liftT_eq, ok_bind, Program.done_ok_bind]
      cases data.dict? with
      | none => rfl
      | some fields =>
          simp only [Program.done_ok_bind]
          split <;> rfl

/-! ## The seven commands -/

/-- The commands go to the configured node only. -/
def onTargetNode (node : String) : Except ClientError Unit :=
  if node = adapter.targetNode then .ok ()
  else .error (.valueError "unexpected Proxmox target node")

/-- What a command does with a resource that must exist and must not be locked. -/
def ifUnlocked {α : Type} (vmid : ℤ) (missing locked : String) (decision : Decision α) :
    Option Fields → Except ClientError (Decision α)
  | none => .error (.runtimeError s!"VMID {vmid} is missing{missing}")
  | some resource =>
      if (resource.get "lock").isNone = true then .ok decision
      else .error (.runtimeError s!"VMID {vmid} is locked{locked}: " (resource.get "lock"))

/-- The task of a command, from the answer to its request. -/
def taskOf (message node : String) (vmid : ℤ) (data : PyJson) :
    Except ClientError (Option ProviderTask) := do
  let upid ← upidOf message data
  .ok (some { taskId := upid, node, vmid })

def cloneCommand (request : CreateVmRequest) (node : String) (vmid : ℤ) :
    GuardedCommand ProviderCloneResult where
  portalVmId := request.vmId
  node := node
  vmid := vmid
  precondition := do
    onTargetNode adapter node
    if request.imageId = adapter.templateImageId then .ok ()
    else .error (.valueError s!"unsupported VM image: {request.imageId}")
  onResource
    | none => .ok .send
    | some resource =>
        if (resource.get "lock").equalsText "clone" = true then
          .ok (.finish { state := .inProgress })
        else if (resource.get "lock").isNone = true then .ok (.finish { state := .succeeded })
        else .error (.resourceConflict s!"VMID {vmid} has unexpected lock: " (resource.get "lock"))
  onStatus _ _ := .ok none
  request := cloneRequest adapter.templateNode node adapter.templateVmid vmid
    (vmName request.vmId) adapter.storage adapter.pool
  onAnswer data := do
    let task ← taskOf "Invalid Proxmox clone request response: " node vmid data
    .ok { state := .submitted, task }

def configureCommand (request : CreateVmRequest) (node : String) (vmid : ℤ) :
    GuardedCommand (Option ProviderTask) where
  portalVmId := request.vmId
  node := node
  vmid := vmid
  precondition := onTargetNode adapter node
  onResource := ifUnlocked vmid " before configuration" " before configuration" .send
  onStatus _ _ := .ok none
  request := configureRequest node vmid request.vcpus request.memoryMb adapter.cloudInitUser
    adapter.ipconfig0 adapter.nameserver adapter.searchDomain request.sshPublicKey
    s!"npd-portal;npd-{PyString.uuidText request.vmId}"
  onAnswer data :=
    if data.isNone = true then .ok none
    else taskOf "Invalid Proxmox configure VM response: " node vmid data

def resizeCommand (request : CreateVmRequest) (node : String) (vmid : ℤ) :
    GuardedCommand (Option ProviderTask) where
  portalVmId := request.vmId
  node := node
  vmid := vmid
  precondition := onTargetNode adapter node
  onResource := ifUnlocked vmid " before disk resize" " before disk resize" .read
  onStatus _ status := do
    let size ← HttpProxmoxAdapter.diskSize vmid (status.get "maxdisk")
    if size ≤ request.storageGb * 1024 ^ 3 then
      if size = request.storageGb * 1024 ^ 3 then .ok (some none)
      else if 0 < request.storageGb then .ok none
      else .error (.valueError "disk size must be positive")
    else .error (.runtimeError s!"VMID {vmid} disk is larger than requested")
  request := resizeRequest node vmid "scsi0" request.storageGb
  onAnswer := taskOf "Invalid Proxmox resize VM disk response: " node vmid

def startCommand (portalVmId : Uuid) (node : String) (vmid : ℤ) :
    GuardedCommand (Option ProviderTask) where
  portalVmId := portalVmId
  node := node
  vmid := vmid
  precondition := onTargetNode adapter node
  onResource
    | none => .error (.runtimeError
        s!"VMID {vmid} has unexpected status before start: {PowerState.missing.text}")
    | some _ => .ok .read
  onStatus resource status := do
    let power ← powerStatus s!"VMID {vmid} has unexpected status: " (status.get "status")
    let listed := resource.getD []
    if (listed.get "lock").isNone = true ∧ (status.get "lock").isNone = true then
      if power = .running then .ok (some none) else .ok none
    else .error (.runtimeError s!"VMID {vmid} is locked before start")
  request := startRequest node vmid
  onAnswer := taskOf "Invalid Proxmox start VM response: " node vmid

/-- The commands `shutdown_vm` and `stop_vm`. -/
def powerOffCommand (request : String → ℤ → Request) (message : String) (portalVmId : Uuid)
    (node : String) (vmid : ℤ) : GuardedCommand (Option ProviderTask) where
  portalVmId := portalVmId
  node := node
  vmid := vmid
  precondition := .ok ()
  onResource := ifUnlocked vmid "" "" .read
  onStatus _ status := do
    let power ← powerStatus s!"VMID {vmid} has unexpected status: " (status.get "status")
    if power = .stopped then .ok (some none) else .ok none
  request := request node vmid
  onAnswer := taskOf message node vmid

def shutdownCommand : Uuid → String → ℤ → GuardedCommand (Option ProviderTask) :=
  powerOffCommand shutdownRequest "Invalid Proxmox shutdown VM response: "

def stopCommand : Uuid → String → ℤ → GuardedCommand (Option ProviderTask) :=
  powerOffCommand stopRequest "Invalid Proxmox stop VM response: "

def deleteCommand (portalVmId : Uuid) (node : String) (vmid : ℤ) :
    GuardedCommand ProviderDeleteResult where
  portalVmId := portalVmId
  node := node
  vmid := vmid
  precondition := onTargetNode adapter node
  onResource
    | none => .ok (.finish { state := .succeeded })
    | some resource =>
        if (resource.get "lock").isNone = true then .ok .read
        else .ok (.finish { state := .inProgress })
  onStatus _ status :=
    if (status.get "status").equalsText "stopped" = true then .ok none
    else .error (.runtimeError s!"VMID {vmid} must be stopped before delete")
  request := deleteRequest node vmid
  onAnswer data := do
    let task ← taskOf "Invalid Proxmox delete VM response: " node vmid data
    .ok { state := .submitted, task }

/-- The command a call of the adapter is. -/
def HttpProxmoxAdapter.command? : (call : AdapterCall) → Option (GuardedCommand call.Answer)
  | .cloneVm request node vmid => some (cloneCommand adapter request node vmid)
  | .configureVm request node vmid => some (configureCommand adapter request node vmid)
  | .resizeVmDisk request node vmid => some (resizeCommand adapter request node vmid)
  | .startVm portalVmId node vmid => some (startCommand adapter portalVmId node vmid)
  | .shutdownVm portalVmId node vmid => some (shutdownCommand portalVmId node vmid)
  | .stopVm portalVmId node vmid => some (stopCommand portalVmId node vmid)
  | .deleteVm portalVmId node vmid => some (deleteCommand adapter portalVmId node vmid)
  | _ => none

/-- The calls that are commands are those that send something. -/
theorem HttpProxmoxAdapter.command?_isSome (call : AdapterCall) :
    (adapter.command? call).isSome = true ↔ call.Mutates := by
  cases call <;> simp [command?, AdapterCall.Mutates]

theorem requireTargetNode_eq (node : String) :
    adapter.requireTargetNode node = .done (onTargetNode adapter node) := rfl

theorem done_bind {α β : Type} (result : Except ClientError α) (next : α → Http β) :
    (.done result >>= next : Http β) = match result with
      | .ok value => next value
      | .error error => .done (.error error) := by
  cases result <;> rfl

section Program

variable {α : Type} (command : GuardedCommand α)

/-- A command as the adapter writes it: check, find, decide, read, decide and send. -/
theorem GuardedCommand.program_eq : command.program adapter = (do
    Program.done command.precondition
    let resource ← adapter.findOwnedVmResource command.portalVmId command.node command.vmid
    let decision ← (Program.done (command.onResource resource) : Http _)
    match decision with
    | .finish value => .done (.ok value)
    | .send => command.send
    | .read => do
        let status ← getVmCurrentStatus command.node command.vmid
        let finished ← (Program.done (command.onStatus resource status) : Http _)
        match finished with
        | some value => .done (.ok value)
        | none => command.send) := by
  unfold GuardedCommand.program
  rw [findOwnedVmResource_eq]
  cases command.precondition with
  | error error => rfl
  | ok checked =>
      simp only [Program.done_ok_bind]
      by_cases positive : 0 < command.vmid
      · simp only [if_pos positive, Program.call_bind]
        congr 1
        funext listing
        cases listing >>= ownedIn adapter command.portalVmId command.node command.vmid with
        | error error => rfl
        | ok resource =>
            simp only [Program.done_ok_bind]
            cases command.onResource resource with
            | error error => rfl
            | ok decision =>
                cases decision with
                | finish value => rfl
                | send => rfl
                | read =>
                    simp only [Program.done_ok_bind, getVmCurrentStatus_eq, Program.call_bind]
                    congr 1
                    funext status
                    cases status >>= statusIn command.vmid with
                    | error error => rfl
                    | ok fields =>
                        simp only [Program.done_ok_bind]
                        cases command.onStatus resource fields with
                        | error error => rfl
                        | ok finished => cases finished <;> rfl
      · simp only [if_neg positive]
        rfl

/-- The last request of a command whose answer is the task of the request. -/
theorem GuardedCommand.send_eq (message : String) (finish : Option ProviderTask → α)
    (answers : ∀ data, command.onAnswer data = do
      let task ← taskOf message command.node command.vmid data
      .ok (finish task)) :
    command.send = (do
      let upid ← ProxmoxClient.command command.request message
      .done (.ok (finish
        (some { taskId := upid, node := command.node, vmid := command.vmid })))) := by
  unfold GuardedCommand.send ProxmoxClient.command requestData
  simp only [Program.perform_eq, Program.call_bind]
  congr 1
  funext answer
  rcases answer with error | body
  · rfl
  simp only [Program.liftT_eq, Program.done_ok_bind, ok_bind, answers]
  cases dataOf body with
  | error error => rfl
  | ok data =>
      simp only [Program.done_ok_bind, ok_bind, taskOf]
      cases upidOf message data <;> rfl

end Program

theorem taskOf_finish (message node : String) (vmid : ℤ) (data : PyJson) :
    taskOf message node vmid data = (do
      let task ← taskOf message node vmid data
      .ok (id task)) := by
  cases taskOf message node vmid data <;> rfl

theorem powerStatus_cases {message : String} {status : PyJson} {power : PowerState}
    (known : powerStatus message status = .ok power) : power = .running ∨ power = .stopped := by
  unfold powerStatus at known
  split at known <;> cases known <;> simp

theorem startVm_eq_program (portalVmId : Uuid) (node : String) (vmid : ℤ) :
    adapter.startVm portalVmId node vmid =
      (startCommand adapter portalVmId node vmid).program adapter := by
  rw [GuardedCommand.program_eq]
  unfold HttpProxmoxAdapter.startVm HttpProxmoxAdapter.getVmPowerState
  rw [requireTargetNode_eq, Program.bind_assoc, Program.bind_assoc]
  congr 1
  funext checked
  congr 1
  funext resource
  cases resource with
  | none => rfl
  | some resource =>
      simp only [startCommand, Program.done_ok_bind, Program.bind_assoc]
      congr 1
      funext status
      simp only [Program.liftT_eq, done_bind]
      cases known : powerStatus s!"VMID {vmid} has unexpected status: " (status.get "status") with
      | error error => rfl
      | ok power =>
          simp only [ok_bind, Option.getD_some, Program.pure_eq, Program.done_ok_bind,
            Http.require_eq]
          by_cases unlocked :
              (resource.get "lock").isNone = true ∧ (status.get "lock").isNone = true
          · rcases powerStatus_cases known with rfl | rfl
            · simp [unlocked]
            · simp only [unlocked, Bool.not_true, Bool.or_self, if_true, Program.done_ok_bind,
                and_self, reduceCtorEq, if_false]
              exact (GuardedCommand.send_eq (startCommand adapter portalVmId node vmid) _ id
                (taskOf_finish _ _ _)).symm
          · have locked :
                (!(resource.get "lock").isNone || !(status.get "lock").isNone) = true := by
              simp only [Bool.or_eq_true, Bool.not_eq_true']
              simp only [not_and, Bool.not_eq_true] at unlocked
              by_cases first : (resource.get "lock").isNone = true
              · exact .inr (unlocked first)
              · exact .inl (by simpa using first)
            simp [unlocked, locked]

theorem powerOff_eq_program {request : String → ℤ → Request} {message : String}
    {send : String → ℤ → Http String}
    (sends : ∀ node vmid, send node vmid = ProxmoxClient.command (request node vmid) message)
    (portalVmId : Uuid) (node : String) (vmid : ℤ) :
    adapter.powerOff send portalVmId node vmid =
      (powerOffCommand request message portalVmId node vmid).program adapter := by
  rw [GuardedCommand.program_eq]
  unfold HttpProxmoxAdapter.powerOff HttpProxmoxAdapter.getOwnedVmStatus
  simp only [powerOffCommand, Program.done_ok_bind, Program.bind_assoc]
  congr 1
  funext resource
  cases resource with
  | none => rfl
  | some resource =>
      simp only [HttpProxmoxAdapter.requireUnlocked, ifUnlocked, Http.require_eq]
      split
      · simp only [Program.done_ok_bind]
        congr 1
        funext status
        simp only [Program.liftT_eq, done_bind]
        cases powerStatus s!"VMID {vmid} has unexpected status: " (status.get "status") with
        | error error => rfl
        | ok power =>
            simp only [ok_bind]
            by_cases stopped : power = .stopped
            · simp [stopped]
            · simp only [if_neg stopped, sends]
              exact (GuardedCommand.send_eq (powerOffCommand request message portalVmId node vmid) _
                id (taskOf_finish _ _ _)).symm
      · rfl

theorem deleteVm_eq_program (portalVmId : Uuid) (node : String) (vmid : ℤ) :
    adapter.deleteVm portalVmId node vmid =
      (deleteCommand adapter portalVmId node vmid).program adapter := by
  rw [GuardedCommand.program_eq]
  unfold HttpProxmoxAdapter.deleteVm
  rw [requireTargetNode_eq]
  congr 1
  funext checked
  congr 1
  funext resource
  cases resource with
  | none => rfl
  | some resource =>
      simp only [deleteCommand]
      split
      · simp only [Program.done_ok_bind]
        congr 1
        funext status
        simp only [Http.require_eq]
        split
        · simp only [Program.done_ok_bind]
          exact (GuardedCommand.send_eq (deleteCommand adapter portalVmId node vmid) _
            (fun task => { state := .submitted, task }) fun _ => rfl).symm
        · rfl
      · rfl

theorem resizeVmDisk_eq_program (request : CreateVmRequest) (node : String) (vmid : ℤ) :
    adapter.resizeVmDisk request node vmid =
      (resizeCommand adapter request node vmid).program adapter := by
  rw [GuardedCommand.program_eq]
  unfold HttpProxmoxAdapter.resizeVmDisk
  rw [requireTargetNode_eq]
  congr 1
  funext checked
  congr 1
  funext resource
  cases resource with
  | none => rfl
  | some resource =>
      simp only [HttpProxmoxAdapter.requireUnlocked, resizeCommand, ifUnlocked, Http.require_eq]
      split
      · simp only [Program.done_ok_bind]
        congr 1
        funext status
        simp only [Program.liftT_eq, done_bind]
        cases HttpProxmoxAdapter.diskSize vmid (status.get "maxdisk") with
        | error error => rfl
        | ok size =>
            simp only [ok_bind]
            by_cases fits : size ≤ request.storageGb * 1024 ^ 3
            · by_cases same : size = request.storageGb * 1024 ^ 3
              · simp [same]
              · simp only [if_pos fits, if_neg same, Program.done_ok_bind,
                  ProxmoxClient.resizeVmDisk, Http.require_eq]
                by_cases positive : 0 < request.storageGb
                · simp only [if_pos positive, Program.done_ok_bind]
                  exact (GuardedCommand.send_eq (resizeCommand adapter request node vmid) _ id
                    (taskOf_finish _ _ _)).symm
                · simp only [if_neg positive]
                  rfl
            · simp only [if_neg fits]
              rfl
      · rfl

theorem configureVm_eq_program (request : CreateVmRequest) (node : String) (vmid : ℤ) :
    adapter.configureVm request node vmid =
      (configureCommand adapter request node vmid).program adapter := by
  rw [GuardedCommand.program_eq]
  unfold HttpProxmoxAdapter.configureVm
  rw [requireTargetNode_eq]
  congr 1
  funext checked
  congr 1
  funext resource
  cases resource with
  | none => rfl
  | some resource =>
      simp only [HttpProxmoxAdapter.requireUnlocked, configureCommand, ifUnlocked, Http.require_eq]
      split
      · simp only [Program.done_ok_bind, GuardedCommand.send, ProxmoxClient.configureVm,
          requestData, Program.perform_eq, Program.call_bind]
        congr 1
        funext answer
        rcases answer with error | body
        · rfl
        simp only [Program.liftT_eq, Program.done_ok_bind, ok_bind]
        cases dataOf body with
        | error error => rfl
        | ok data =>
            simp only [Program.done_ok_bind, ok_bind, taskOf]
            split
            · rfl
            · cases upidOf "Invalid Proxmox configure VM response: " data <;> rfl
      · rfl

theorem cloneVm_eq_program (request : CreateVmRequest) (node : String) (vmid : ℤ) :
    adapter.cloneVm request node vmid =
      (cloneCommand adapter request node vmid).program adapter := by
  rw [GuardedCommand.program_eq]
  unfold HttpProxmoxAdapter.cloneVm
  rw [requireTargetNode_eq]
  simp only [cloneCommand]
  cases onTargetNode adapter node with
  | error error => rfl
  | ok checked =>
      simp only [Program.done_ok_bind, ok_bind, Http.require_eq]
      split
      · simp only [Program.done_ok_bind]
        congr 1
        funext resource
        cases resource with
        | none =>
            simp only [Program.done_ok_bind]
            exact (GuardedCommand.send_eq (cloneCommand adapter request node vmid) _
              (fun task => { state := .submitted, task }) fun _ => rfl).symm
        | some resource =>
            simp only
            split
            · rfl
            · split <;> rfl
      · rfl

section Traces

variable {α : Type} (command : GuardedCommand α)

/-- The answers let the command send its request. -/
def GuardedCommand.Sends (server : HttpServer) : Prop :=
  command.precondition = .ok () ∧ 0 < command.vmid ∧ ∃ body resource,
    server 0 resourcesRequest = .ok body ∧
    ownedIn adapter command.portalVmId command.node command.vmid body = .ok resource ∧
    (command.onResource resource = .ok .send ∨
      command.onResource resource = .ok .read ∧ ∃ answer status,
        server 1 (statusRequest command.node command.vmid) = .ok answer ∧
        statusIn command.vmid answer = .ok status ∧ command.onStatus resource status = .ok none)

/-- The exchanges of a command with this server. -/
inductive GuardedCommand.Trace (server : HttpServer) : List HttpExchange → Prop where
  /-- The command only reads. -/
  | quiet (made : List HttpExchange) (reads : ∀ exchange ∈ made, ¬exchange.call.Mutates)
      (short : made.length ≤ 2) (silent : ¬command.Sends adapter server) : Trace server made
  /-- The request is sent when the resource is found. -/
  | sent (body : PyJson) (resource : Option Fields) (passes : command.precondition = .ok ())
      (positive : 0 < command.vmid) (listing : server 0 resourcesRequest = .ok body)
      (owned : ownedIn adapter command.portalVmId command.node command.vmid body = .ok resource)
      (decides : command.onResource resource = .ok .send) :
      Trace server [⟨resourcesRequest, .ok body⟩, ⟨command.request, server 1 command.request⟩]
  /-- The request is sent after the status was read. -/
  | sentAfterStatus (body answer : PyJson) (resource : Option Fields) (status : Fields)
      (passes : command.precondition = .ok ()) (positive : 0 < command.vmid)
      (listing : server 0 resourcesRequest = .ok body)
      (owned : ownedIn adapter command.portalVmId command.node command.vmid body = .ok resource)
      (reads : command.onResource resource = .ok .read)
      (current : server 1 (statusRequest command.node command.vmid) = .ok answer)
      (known : statusIn command.vmid answer = .ok status)
      (decides : command.onStatus resource status = .ok none) :
      Trace server [⟨resourcesRequest, .ok body⟩,
        ⟨statusRequest command.node command.vmid, .ok answer⟩,
        ⟨command.request, server 2 command.request⟩]

theorem GuardedCommand.trace (server : HttpServer) :
    command.Trace adapter server (Program.run server 0 (command.program adapter)).1 := by
  have listingReads : ¬resourcesRequest.Mutates := by decide
  have statusReads : ¬(statusRequest command.node command.vmid).Mutates := by
    simp [statusRequest, Request.Mutates]
  unfold GuardedCommand.program
  cases checked : command.precondition with
  | error error =>
      exact .quiet _ (by simp) (by simp) fun sends => by simp [Sends, checked] at sends
  | ok passed =>
      by_cases positive : 0 < command.vmid
      · simp only [if_pos positive, Program.run_call]
        generalize listing : server 0 resourcesRequest = first
        rcases first with error | body
        · refine .quiet _ (by simpa using listingReads) (by simp) fun sends => ?_
          rcases sends with ⟨_, _, body, _, answered, _⟩
          simp [listing] at answered
        cases owned : ownedIn adapter command.portalVmId command.node command.vmid body with
        | error error =>
            simp only [ok_bind, owned]
            refine .quiet _ (by simpa using listingReads) (by simp) fun sends => ?_
            rcases sends with ⟨_, _, other, _, answered, isOwned, _⟩
            rcases Except.ok.inj (listing.symm.trans answered) with rfl
            simp [owned] at isOwned
        | ok resource =>
            have decision : command.Sends adapter server →
                command.onResource resource = .ok .send ∨
                command.onResource resource = .ok .read ∧ ∃ answer status,
                  server 1 (statusRequest command.node command.vmid) = .ok answer ∧
                  statusIn command.vmid answer = .ok status ∧
                  command.onStatus resource status = .ok none := by
              rintro ⟨_, _, other, found, answered, isOwned, decided⟩
              rcases Except.ok.inj (listing.symm.trans answered) with rfl
              rcases Except.ok.inj (owned.symm.trans isOwned) with rfl
              exact decided
            simp only [ok_bind, owned]
            cases decided : command.onResource resource with
            | error error =>
                refine .quiet _ (by simpa using listingReads) (by simp) fun sends => ?_
                simpa [decided] using decision sends
            | ok found =>
                cases found with
                | finish value =>
                    refine .quiet _ (by simpa using listingReads) (by simp) fun sends => ?_
                    simpa [decided] using decision sends
                | send => exact .sent body resource checked positive listing owned decided
                | read =>
                    have readsBoth : ∀ exchange ∈ [(⟨resourcesRequest, .ok body⟩ : HttpExchange),
                        ⟨statusRequest command.node command.vmid,
                          server 1 (statusRequest command.node command.vmid)⟩],
                        ¬exchange.call.Mutates := by
                      simp [listingReads, statusReads]
                    simp only [Program.run_call]
                    generalize current : server 1 (statusRequest command.node command.vmid) = second
                      at readsBoth decision
                    rcases second with error | answer
                    · refine .quiet _ readsBoth (by simp) fun sends => ?_
                      simpa [decided] using decision sends
                    cases known : statusIn command.vmid answer with
                    | error error =>
                        simp only [ok_bind, known]
                        refine .quiet _ readsBoth (by simp) fun sends => ?_
                        simpa [decided, known] using decision sends
                    | ok status =>
                        simp only [ok_bind, known]
                        cases decides : command.onStatus resource status with
                        | error error =>
                            refine .quiet _ readsBoth (by simp) fun sends => ?_
                            simpa [decided, known, decides] using decision sends
                        | ok finished =>
                            cases finished with
                            | some value =>
                                refine .quiet _ readsBoth (by simp) fun sends => ?_
                                simpa [decided, known, decides] using decision sends
                            | none =>
                                exact .sentAfterStatus body answer resource status checked positive
                                  listing owned decided current known decides
      · simp only [if_neg positive]
        exact .quiet _ (by simp) (by simp) fun sends => positive sends.2.1

/-- What a command that returned has read, and whether it sent its request. -/
theorem GuardedCommand.exists_of_returned {server : HttpServer} {value : α}
    (returned : (Program.run server 0 (command.program adapter)).2 = .ok value) :
    ∃ body resource, ⟨resourcesRequest, .ok body⟩ ∈ (Program.run server 0
        (command.program adapter)).1 ∧
      ownedIn adapter command.portalVmId command.node command.vmid body = .ok resource ∧
      (command.onResource resource = .ok (.finish value) ∨
        (command.onResource resource = .ok .read ∧
          ∃ status, command.onStatus resource status = .ok (some value)) ∨
        (command.onResource resource = .ok .send ∨ command.onResource resource = .ok .read) ∧
          ∃ answer data, ⟨command.request, .ok answer⟩ ∈
              (Program.run server 0 (command.program adapter)).1 ∧
            dataOf answer = .ok data ∧ command.onAnswer data = .ok value) := by
  have answered : ∀ {index : ℕ}, (Program.run server index command.send).2 = .ok value →
      ∃ answer data, ⟨command.request, .ok answer⟩ ∈ (Program.run server index command.send).1 ∧
        dataOf answer = .ok data ∧ command.onAnswer data = .ok value := by
    intro index ends
    rcases bind_eq_ok.mp ends with ⟨answer, isAnswer, rest⟩
    rcases bind_eq_ok.mp rest with ⟨data, isData, ends⟩
    exact ⟨answer, data, by simp [send, isAnswer], isData, ends⟩
  unfold GuardedCommand.program at returned ⊢
  cases checked : command.precondition with
  | error error => simp [checked] at returned
  | ok passed =>
      by_cases positive : 0 < command.vmid
      · simp only [checked, if_pos positive, Program.run_call] at returned ⊢
        generalize server 0 resourcesRequest = first at returned ⊢
        rcases first with error | body
        · cases returned
        simp only [ok_bind] at returned ⊢
        cases owned : ownedIn adapter command.portalVmId command.node command.vmid body with
        | error error => simp [owned] at returned
        | ok resource =>
            simp only [owned] at returned ⊢
            refine ⟨body, resource, List.mem_cons_self .., owned, ?_⟩
            cases decided : command.onResource resource with
            | error error => simp [decided] at returned
            | ok decision =>
                simp only [decided] at returned ⊢
                cases decision with
                | finish other =>
                    cases returned
                    exact .inl rfl
                | send =>
                    rcases answered returned with ⟨answer, data, sent, taken⟩
                    exact .inr (.inr ⟨.inl rfl, answer, data, .tail _ sent, taken⟩)
                | read =>
                    simp only [Program.run_call] at returned ⊢
                    generalize server 1 (statusRequest command.node command.vmid) = second
                      at returned ⊢
                    rcases second with error | answer
                    · cases returned
                    simp only [ok_bind] at returned ⊢
                    cases known : statusIn command.vmid answer with
                    | error error => simp [known] at returned
                    | ok status =>
                        simp only [known] at returned ⊢
                        cases decides : command.onStatus resource status with
                        | error error => simp [decides] at returned
                        | ok finished =>
                            simp only [decides] at returned ⊢
                            cases finished with
                            | some other =>
                                cases returned
                                exact .inr (.inl ⟨trivial, status, decides⟩)
                            | none =>
                                rcases answered returned with ⟨answer, data, sent, taken⟩
                                exact .inr (.inr ⟨.inr trivial, answer, data,
                                  .tail _ (.tail _ sent), taken⟩)
      · simp [checked, positive] at returned

/-- The only request of a command that changes something is its own. -/
theorem GuardedCommand.call_of_mutates {server : HttpServer} {exchange : HttpExchange}
    (made : exchange ∈ (Program.run server 0 (command.program adapter)).1)
    (mutates : exchange.call.Mutates) : exchange.call = command.request := by
  have listingReads : ¬resourcesRequest.Mutates := by decide
  have traced := command.trace adapter server
  generalize (Program.run server 0 (command.program adapter)).1 = exchanges at *
  cases traced with
  | quiet _ reads => exact absurd mutates (reads exchange made)
  | sent =>
      rcases List.mem_pair.mp made with rfl | rfl
      · exact absurd mutates listingReads
      · rfl
  | sentAfterStatus =>
      simp only [List.mem_cons, List.not_mem_nil, or_false] at made
      rcases made with rfl | rfl | rfl
      · exact absurd mutates listingReads
      · simp [statusRequest, Request.Mutates] at mutates
      · rfl

end Traces

/-- Every command of the adapter has the shape. -/
theorem HttpProxmoxAdapter.perform_eq_program {call : AdapterCall}
    {command : GuardedCommand call.Answer} (isCommand : adapter.command? call = some command) :
    adapter.perform call = command.program adapter := by
  cases call <;> simp only [command?, Option.some.injEq, reduceCtorEq] at isCommand <;>
    subst isCommand
  · exact cloneVm_eq_program adapter _ _ _
  · exact configureVm_eq_program adapter _ _ _
  · exact resizeVmDisk_eq_program adapter _ _ _
  · exact startVm_eq_program adapter _ _ _
  · exact powerOff_eq_program adapter (fun _ _ => rfl) _ _ _
  · exact powerOff_eq_program adapter (fun _ _ => rfl) _ _ _
  · exact deleteVm_eq_program adapter _ _ _

end Equations

end NpdPortal
