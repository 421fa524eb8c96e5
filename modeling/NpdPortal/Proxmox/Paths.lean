import NpdPortal.Library.Urls
import NpdPortal.Proxmox.Ownership

/-!
# The paths of the API

Every path which the client sends to a node with the name of a host is read
back as the path it was written for, whatever the identifiers of tasks are that
the provider has handed out.  So a request never goes to another path than the
adapter meant, and the text of an SSH key arrives as it is stored.
-/

namespace NpdPortal

open ProxmoxClient

/-- What the paths below a VM end with. -/
def qemuPaths : List String :=
  ["", "/clone", "/config", "/resize", "/status/current", "/status/start", "/status/shutdown",
    "/status/stop"]

/-- The node of the path has the name of a host, and the task the identifier of no dot segment. -/
def ApiPath.Plain : ApiPath → Prop
  | clusterNextid | clusterResources => True
  | qemu node _ rest => Url.IsHostName node ∧ rest ∈ qemuPaths
  | taskStatus node upid => Url.IsHostName node ∧ ¬Url.IsDotSegment upid

/-- How the segments of a path are read. -/
def ApiPath.ofSegments : List String → Option ApiPath
  | ["cluster", "nextid"] => some .clusterNextid
  | ["cluster", "resources"] => some .clusterResources
  | ["nodes", node, "tasks", upid, "status"] => some (.taskStatus node upid)
  | "nodes" :: node :: "qemu" :: vmid :: rest =>
      (PyString.int? vmid).map fun vmid => .qemu node vmid (String.join (rest.map ("/" ++ ·)))
  | _ => none

/-- How a path is read. -/
def ApiPath.read (text : String) : Option ApiPath := (Url.segments? text).bind ofSegments

section Reading

/-- The end of a path below a VM, by its segments. -/
theorem exists_segments_of_qemuPaths : ∀ rest ∈ qemuPaths, ∃ segments : List String,
    rest = String.join (segments.map ("/" ++ ·)) ∧ ∀ segment ∈ segments,
      Url.Writes segment segment := by
  intro rest restMem
  have inList : rest ∈ ([[], ["clone"], ["config"], ["resize"], ["status", "current"],
      ["status", "start"], ["status", "shutdown"], ["status", "stop"]] : List (List String)).map
        fun segments => String.join (segments.map ("/" ++ ·)) := by
    revert rest
    decide
  rcases List.mem_map.mp inList with ⟨segments, segmentsMem, rfl⟩
  refine ⟨segments, rfl, ?_⟩
  have names : ∀ segment ∈ segments, Url.IsHostName segment := by
    revert segments
    decide
  exact fun segment segmentMem => .hostName (names segment segmentMem)

/-- The path is read back. -/
theorem ApiPath.read_text {path : ApiPath} (plain : path.Plain) : read path.text = some path := by
  cases path with
  | clusterNextid => decide
  | clusterResources => decide
  | qemu node vmid rest =>
      rcases exists_segments_of_qemuPaths rest plain.2 with ⟨segments, rfl, writesRest⟩
      have writes : List.Forall₂ Url.Writes ("nodes" :: node :: "qemu" :: toString vmid :: segments)
          ("nodes" :: node :: "qemu" :: toString vmid :: segments) :=
        .cons (.hostName (by decide)) (.cons (.hostName plain.1) (.cons (.hostName (by decide))
          (.cons (.int vmid) (List.forall₂_same.mpr writesRest))))
      unfold read
      rw [Url.segments?_eq (by simp [text, toString, List.flatMap_map]) writes]
      have isVmid := PyString.int?_toString vmid
      simpa [ofSegments] using isVmid
  | taskStatus node upid =>
      have writes : List.Forall₂ Url.Writes ["nodes", node, "tasks", PyString.quote upid, "status"]
          ["nodes", node, "tasks", upid, "status"] :=
        .cons (.hostName (by decide)) (.cons (.hostName plain.1) (.cons (.hostName (by decide))
          (.cons (.quote plain.2) (.cons (.hostName (by decide)) .nil))))
      unfold read
      rw [Url.segments?_eq (by simp [text, toString]) writes]
      simp [ofSegments]

end Reading

/-! ## The requests of the adapter -/

/-- The node which a call of the adapter is given. -/
def AdapterCall.node? : AdapterCall → Option String
  | .getTaskStatus task => some task.node
  | .chooseCloneTarget _ => none
  | .getVmPowerState _ node _ | .cloneVm _ node _ | .configureVm _ node _ | .resizeVmDisk _ node _
  | .startVm _ node _ | .shutdownVm _ node _ | .stopVm _ node _ | .deleteVm _ node _ => some node

/-- The call names a node like a host, and no task like a dot segment. -/
structure AdapterCall.Plain (call : AdapterCall) : Prop where
  node : ∀ node ∈ call.node?, Url.IsHostName node
  task : ∀ task, call = .getTaskStatus task → ¬Url.IsDotSegment task.taskId

/-- A server reads the request as the adapter meant it. -/
structure Request.ReadsBack (request : Request) (call : AdapterCall) : Prop where
  path : request.path.Plain
  sshKeys : ∀ written, ("sshkeys", .text written) ∈ request.data →
    ∃ asked node vmid, call = .configureVm asked node vmid ∧
      PyString.unquote? written = some asked.sshPublicKey

section Requests

variable {adapter : HttpProxmoxAdapter} {call : AdapterCall} {allowed : Request → Prop}

/-- What a command may send. -/
theorem GuardedCommand.uses {α : Type} {command : GuardedCommand α}
    (listing : allowed resourcesRequest)
    (status : allowed (statusRequest command.node command.vmid)) (own : allowed command.request) :
    (command.program adapter).Uses allowed := by
  unfold program
  split
  · trivial
  · split
    · refine ⟨listing, fun listed => ?_⟩
      dsimp only
      split
      · trivial
      · split
        · trivial
        · trivial
        · exact ⟨own, fun _ => trivial⟩
        · refine ⟨status, fun answer => ?_⟩
          dsimp only
          split
          · trivial
          · split
            · trivial
            · trivial
            · exact ⟨own, fun _ => trivial⟩
    · trivial

/-- What a read of the power state may send. -/
theorem HttpProxmoxAdapter.getVmPowerState_uses {portalVmId : Uuid} {node : String} {vmid : ℤ}
    (listing : allowed resourcesRequest) (status : allowed (statusRequest node vmid)) :
    (adapter.getVmPowerState portalVmId node vmid).Uses allowed := by
  unfold HttpProxmoxAdapter.getVmPowerState
  rw [requireTargetNode_eq, findOwnedVmResource_eq, getVmCurrentStatus_eq]
  apply Program.Uses.bind
  · trivial
  · intro checked
    apply Program.Uses.bind
    · split
      · exact ⟨listing, fun _ => trivial⟩
      · trivial
    · intro resource
      cases resource with
      | none => trivial
      | some fields =>
          apply Program.Uses.bind
          · exact ⟨status, fun _ => trivial⟩
          · intro current
            simp only [Program.liftT_eq, done_bind]
            cases powerStatus s!"VMID {vmid} has unexpected status: " (current.get "status") <;>
              trivial

/-- What the choice of a placement may send. -/
theorem HttpProxmoxAdapter.chooseCloneTarget_uses
    (asks : allowed { method := .get, path := .clusterNextid }) :
    adapter.chooseCloneTarget.Uses allowed := by
  unfold HttpProxmoxAdapter.chooseCloneTarget getNextVmid
  apply Program.Uses.bind
  · apply Program.Uses.bind
    · exact ⟨asks, fun answer => by rcases answer with _ | _ <;> trivial⟩
    · intro data
      cases data <;> try trivial
      rename_i text
      simp only [Http.expect_eq]
      cases PyString.int? text with
      | none => trivial
      | some vmid =>
          rw [Program.done_ok_bind, Http.require_eq]
          split <;> trivial
  · exact fun _ => trivial

/-- Whatever is answered, every request of the adapter is read back. -/
theorem HttpProxmoxAdapter.perform_readsBack
    (templatePlain : Url.IsHostName adapter.templateNode) (callPlain : call.Plain) :
    (adapter.perform call).Uses (·.ReadsBack call) := by
  have listing : resourcesRequest.ReadsBack call := ⟨trivial, by simp [resourcesRequest]⟩
  have status : ∀ node ∈ call.node?, ∀ vmid, (statusRequest node vmid).ReadsBack call :=
    fun node isNode vmid =>
      ⟨⟨callPlain.node node isNode, by simp [qemuPaths]⟩, by simp [statusRequest]⟩
  have ofCommand : ∀ {command : GuardedCommand call.Answer}, adapter.command? call = some command →
      command.node ∈ call.node? → command.request.ReadsBack call →
      (adapter.perform call).Uses (·.ReadsBack call) := by
    intro command isCommand isNode own
    rw [adapter.perform_eq_program isCommand]
    exact command.uses listing (status _ isNode _) own
  cases call with
  | getVmPowerState portalVmId node vmid =>
      exact adapter.getVmPowerState_uses listing (status node rfl vmid)
  | chooseCloneTarget request => exact adapter.chooseCloneTarget_uses ⟨trivial, by simp⟩
  | getTaskStatus task =>
      exact adapter.getTaskStatus_uses task
        ⟨⟨callPlain.node _ rfl, callPlain.task task rfl⟩, by simp⟩
  | cloneVm request node vmid =>
      exact ofCommand rfl rfl ⟨⟨templatePlain, by simp [qemuPaths]⟩,
        by simp [cloneCommand, cloneRequest]⟩
  | configureVm request node vmid =>
      refine ofCommand rfl rfl ⟨⟨callPlain.node _ rfl, by simp [qemuPaths]⟩,
        fun written isWritten => ?_⟩
      have isQuoted : written = PyString.quote request.sshPublicKey := by
        simpa [configureCommand, configureRequest] using isWritten
      exact ⟨request, node, vmid, rfl, by rw [isQuoted, PyString.unquote?_quote]⟩
  | resizeVmDisk request node vmid =>
      exact ofCommand rfl rfl ⟨⟨callPlain.node _ rfl, by simp [qemuPaths]⟩,
        by simp [resizeCommand, resizeRequest]⟩
  | startVm portalVmId node vmid =>
      exact ofCommand rfl rfl ⟨⟨callPlain.node _ rfl, by simp [qemuPaths]⟩,
        by simp [startCommand, startRequest]⟩
  | shutdownVm portalVmId node vmid =>
      exact ofCommand rfl rfl ⟨⟨callPlain.node _ rfl, by simp [qemuPaths]⟩,
        by simp [shutdownCommand, powerOffCommand, shutdownRequest]⟩
  | stopVm portalVmId node vmid =>
      exact ofCommand rfl rfl ⟨⟨callPlain.node _ rfl, by simp [qemuPaths]⟩,
        by simp [stopCommand, powerOffCommand, stopRequest]⟩
  | deleteVm portalVmId node vmid =>
      exact ofCommand rfl rfl ⟨⟨callPlain.node _ rfl, by simp [qemuPaths]⟩,
        by simp [deleteCommand, deleteRequest]⟩

end Requests

/-- Every request of every method goes to the path it was written for: a server reads the nodes,
VMIDs and task identifiers that the adapter meant, and decodes the SSH key of the VM. -/
theorem HttpProxmoxAdapter.requests_read_back (adapter : HttpProxmoxAdapter) {call : AdapterCall}
    {server : HttpServer} {exchange : HttpExchange}
    (templatePlain : Url.IsHostName adapter.templateNode) (callPlain : call.Plain)
    (made : exchange ∈ (Program.run server 0 (adapter.perform call)).1) :
    ApiPath.read exchange.call.path.text = some exchange.call.path ∧
      ∀ written, ("sshkeys", .text written) ∈ exchange.call.data →
        ∃ asked node vmid, call = .configureVm asked node vmid ∧
          PyString.unquote? written = some asked.sshPublicKey := by
  have readsBack := (adapter.perform_readsBack templatePlain callPlain).of_mem_run made
  exact ⟨ApiPath.read_text readsBack.path, readsBack.sshKeys⟩

/-- The identifier of a task which would lead to another path if it were not escaped. -/
def sampleTask : ProviderTask where
  taskId := "UPID:pve/../../qemu/100/status/stop?"
  node := "pve"
  vmid := 100

theorem sampleTask_plain : (AdapterCall.getTaskStatus sampleTask).Plain where
  node := by decide
  task := by
    rintro task ⟨⟩
    decide

theorem sampleTask_read_back :
    ApiPath.read (ApiPath.taskStatus "pve" "UPID:pve/../../qemu/100/status/stop?").text =
      some (.taskStatus "pve" "UPID:pve/../../qemu/100/status/stop?") := by
  have asked : ⟨{ method := .get, path := .taskStatus sampleTask.node sampleTask.taskId },
      .ok (.dict [("data", .str "UPID:pve:0001")])⟩ ∈
      (Program.run (sampleServer [] "running" .null) 0
        (sampleAdapter.perform (.getTaskStatus sampleTask))).1 := .head _
  exact (sampleAdapter.requests_read_back (by decide) sampleTask_plain asked).1

end NpdPortal
