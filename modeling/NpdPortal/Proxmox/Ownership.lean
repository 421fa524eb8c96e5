import NpdPortal.Proxmox.Commands

/-!
# The ownership guard

A command sends its one request last, and only if the resource list of the same
command shows that the VMID is free, for a clone, or belongs to exactly one
resource that carries the marks of the portal VM.
-/

namespace NpdPortal

open PyJson ProxmoxClient

/-- The ownership test of `_find_owned_vm_resource`. -/
structure HttpProxmoxAdapter.Owns (adapter : HttpProxmoxAdapter) (portalVmId : Uuid)
    (node : String) (resource : Fields) : Prop where
  type : (resource.get "type").equalsText "qemu" = true
  name : (resource.get "name").equalsText (vmName portalVmId) = true
  pool : (resource.get "pool").equalsText adapter.pool = true
  node : (resource.get "node").equalsText node = true

/-- The answer lists these resources. -/
def Lists (body : PyJson) (resources : List Fields) : Prop :=
  ∃ fields, body = .dict fields ∧ fields.lookup "data" = some (.list (resources.map .dict))

/-- The resource has this VMID. -/
def hasVmid (vmid : ℤ) (resource : Fields) : Bool := (resource.get "vmid").equalsInt vmid

/-- The portal VM of a command, with its node and VMID. -/
def AdapterCall.vm? : AdapterCall → Option (Uuid × String × ℤ)
  | .configureVm request node vmid | .resizeVmDisk request node vmid =>
      some (request.vmId, node, vmid)
  | .startVm portalVmId node vmid | .shutdownVm portalVmId node vmid
  | .stopVm portalVmId node vmid | .deleteVm portalVmId node vmid => some (portalVmId, node, vmid)
  | _ => none

/-- What must have been read before a command sends its request, and where the request goes. -/
def HttpProxmoxAdapter.Guards (adapter : HttpProxmoxAdapter) (call : AdapterCall)
    (before : List HttpExchange) (sent : Request) : Prop :=
  ∃ body resources, ⟨resourcesRequest, .ok body⟩ ∈ before ∧ Lists body resources ∧
    match call with
    | .cloneVm request node vmid =>
        resources.filter (hasVmid vmid) = [] ∧ sent = cloneRequest adapter.templateNode node
          adapter.templateVmid vmid (vmName request.vmId) adapter.storage adapter.pool
    | call => ∃ portalVmId node vmid resource, call.vm? = some (portalVmId, node, vmid) ∧
        resources.filter (hasVmid vmid) = [resource] ∧ adapter.Owns portalVmId node resource ∧
        ∃ rest, sent.path = .qemu node vmid rest

section Answers

variable {adapter : HttpProxmoxAdapter} {portalVmId : Uuid} {node : String} {vmid : ℤ}
  {body : PyJson}

theorem equalsText_iff {value : PyJson} {text : String} :
    value.equalsText text = true ↔ value = .str text := by
  cases value <;> simp [PyJson.equalsText]

/-- Different portal VMs have different names at the provider. -/
theorem vmName_injective : Function.Injective vmName := by
  intro first second same
  apply PyString.uuidText_injective
  unfold vmName at same
  generalize PyString.uuidText first = left at same
  generalize PyString.uuidText second = right at same
  exact (String.append_right_inj _).mp same

/-- No resource is owned by two portal VMs. -/
theorem HttpProxmoxAdapter.Owns.unique {other : HttpProxmoxAdapter} {otherId : Uuid}
    {otherNode : String} {resource : Fields} (owns : adapter.Owns portalVmId node resource)
    (otherOwns : other.Owns otherId otherNode resource) : portalVmId = otherId := by
  have first := equalsText_iff.mp owns.name
  have second := equalsText_iff.mp otherOwns.name
  have same : vmName portalVmId = vmName otherId := by
    rw [first] at second
    exact PyJson.str.inj second
  exact vmName_injective same

theorem allFields_eq_some {items : List PyJson} {resources : List Fields}
    (all : allFields items = some resources) : items = resources.map .dict := by
  induction items generalizing resources with
  | nil => simp_all [allFields]
  | cons item rest ih =>
      cases item with
      | dict fields =>
          cases isRest : allFields rest with
          | none => simp [allFields, PyJson.dict?, isRest] at all
          | some others =>
              simp only [allFields, PyJson.dict?, isRest, Option.bind_eq_bind, Option.bind_some,
                Option.pure_def, Option.some.injEq] at all
              rw [← all, List.map_cons, ih isRest]
      | _ => simp [allFields, PyJson.dict?] at all

theorem lists_of_listedIn {resources : List Fields} (listed : listedIn body = .ok resources) :
    Lists body resources := by
  unfold listedIn at listed
  rcases bind_eq_ok.mp listed with ⟨data, isData, listed⟩
  cases body with
  | dict fields =>
      refine ⟨fields, rfl, ?_⟩
      unfold dataOf at isData
      simp only at isData
      split at isData
      · rename_i stored found
        cases isData
        cases data <;> simp [PyJson.list?] at listed
        rename_i items
        cases all : allFields items with
        | none => simp [all] at listed
        | some others =>
            simp only [all, Except.ok.injEq] at listed
            subst listed
            rw [found, allFields_eq_some all]
      · cases isData
  | _ => simp [dataOf] at isData

theorem withVmid_eq_ok {resources matching : List Fields}
    (found : withVmid vmid resources = .ok matching) :
    matching = resources.filter (hasVmid vmid) := by
  induction resources generalizing matching with
  | nil =>
      cases found
      rfl
  | cons resource rest ih =>
      simp only [withVmid] at found
      cases own : (resource.get "vmid").int? with
      | none => simp [own] at found
      | some value =>
          simp only [own] at found
          rcases bind_eq_ok.mp found with ⟨others, isRest, kept⟩
          rcases ih isRest with rfl
          have matches_ : hasVmid vmid resource = decide (value = vmid) := by
            unfold hasVmid
            cases known : resource.get "vmid" <;> simp_all [PyJson.int?, PyJson.equalsInt]
          simp only [pure_eq_ok, Except.ok.injEq] at kept
          rw [List.filter_cons, matches_, ← kept]
          by_cases same : value = vmid <;> simp [same]

theorem owns_of_ownershipError {resource : Fields}
    (passes : ownershipError adapter portalVmId node vmid resource = none) :
    adapter.Owns portalVmId node resource := by
  unfold ownershipError at passes
  split at passes
  · split at passes
    · split at passes
      · split at passes
        · constructor <;> assumption
        · cases passes
      · cases passes
    · cases passes
  · cases passes

/-- The resource that a command found in the list. -/
theorem listed_of_ownedIn {found : Option Fields}
    (owned : ownedIn adapter portalVmId node vmid body = .ok found) :
    ∃ resources, listedIn body = .ok resources ∧
      match found with
      | none => resources.filter (hasVmid vmid) = []
      | some resource => resources.filter (hasVmid vmid) = [resource] ∧
          adapter.Owns portalVmId node resource := by
  unfold ownedIn resourceIn at owned
  rcases bind_eq_ok.mp owned with ⟨listed, isListed, owned⟩
  rcases bind_eq_ok.mp isListed with ⟨resources, isResources, isListed⟩
  rcases bind_eq_ok.mp isListed with ⟨matching, isMatching, isListed⟩
  have filtered := withVmid_eq_ok isMatching
  refine ⟨resources, isResources, ?_⟩
  rcases matching with _ | ⟨resource, _ | ⟨second, rest⟩⟩
  · cases isListed
    cases owned
    exact filtered.symm
  · cases isListed
    simp only at owned
    cases test : ownershipError adapter portalVmId node vmid resource with
    | none =>
        simp only [test, Except.ok.injEq] at owned
        subst owned
        exact ⟨filtered.symm, owns_of_ownershipError test⟩
    | some error => simp [test] at owned
  · cases isListed

theorem exists_of_ownedIn {found : Option Fields}
    (owned : ownedIn adapter portalVmId node vmid body = .ok found) :
    ∃ resources, Lists body resources ∧
      match found with
      | none => resources.filter (hasVmid vmid) = []
      | some resource => resources.filter (hasVmid vmid) = [resource] ∧
          adapter.Owns portalVmId node resource := by
  rcases listed_of_ownedIn owned with ⟨resources, listed, matching⟩
  exact ⟨resources, lists_of_listedIn listed, matching⟩

end Answers

section Guard

variable (adapter : HttpProxmoxAdapter)

theorem ifUnlocked_eq_ok {α : Type} {vmid : ℤ} {missing locked : String}
    {decision decided : Decision α} {found : Option Fields}
    (passes : ifUnlocked vmid missing locked decision found = .ok decided) :
    ∃ resource, found = some resource ∧ (resource.get "lock").isNone = true ∧
      decision = decided := by
  cases found with
  | none => simp [ifUnlocked] at passes
  | some resource =>
      simp only [ifUnlocked] at passes
      split at passes
      · rename_i unlocked
        exact ⟨resource, rfl, unlocked, Except.ok.inj passes⟩
      · cases passes

/-- A command goes on only with a resource of its VM; the clone only without any. -/
theorem HttpProxmoxAdapter.command?_guards {call : AdapterCall}
    {command : GuardedCommand call.Answer} (isCommand : adapter.command? call = some command)
    {body : PyJson} {found : Option Fields}
    (owned : ownedIn adapter command.portalVmId command.node command.vmid body = .ok found)
    (goesOn : command.onResource found = .ok .send ∨ command.onResource found = .ok .read)
    {before : List HttpExchange} (listed : ⟨resourcesRequest, .ok body⟩ ∈ before) :
    command.request.Mutates ∧ adapter.Guards call before command.request := by
  rcases exists_of_ownedIn owned with ⟨resources, lists, matching⟩
  cases call <;> simp only [command?, Option.some.injEq, reduceCtorEq] at isCommand <;>
    subst isCommand
  case cloneVm request node vmid =>
    cases found with
    | none =>
        refine ⟨by simp [cloneCommand, cloneRequest, Request.Mutates], ?_⟩
        exact ⟨body, resources, listed, lists, matching, rfl⟩
    | some resource =>
        simp only [cloneCommand] at goesOn
        split at goesOn
        · simp at goesOn
        · split at goesOn <;> simp at goesOn
  case startVm portalVmId node vmid =>
    cases found with
    | none => simp [startCommand] at goesOn
    | some resource =>
        refine ⟨by simp [startCommand, startRequest, Request.Mutates], ?_⟩
        exact ⟨body, resources, listed, lists, portalVmId, node, vmid, resource, rfl, matching.1,
          matching.2, _, rfl⟩
  case deleteVm portalVmId node vmid =>
    cases found with
    | none => simp [deleteCommand] at goesOn
    | some resource =>
        refine ⟨by simp [deleteCommand, deleteRequest, Request.Mutates], ?_⟩
        exact ⟨body, resources, listed, lists, portalVmId, node, vmid, resource, rfl, matching.1,
          matching.2, _, rfl⟩
  all_goals
    have isSome : ∃ resource, found = some resource := by
      rcases goesOn with passes | passes <;>
        exact (ifUnlocked_eq_ok passes).imp fun _ known => known.1
    rcases isSome with ⟨resource, rfl⟩
    refine ⟨by simp [configureCommand, configureRequest, resizeCommand, resizeRequest,
      shutdownCommand, shutdownRequest, stopCommand, stopRequest, powerOffCommand,
      Request.Mutates], ?_⟩
    exact ⟨body, resources, listed, lists, _, _, _, resource, rfl, matching.1, matching.2, _, rfl⟩

/-- A poll makes one request. -/
theorem HttpProxmoxAdapter.getTaskStatus_uses (task : ProviderTask) {allowed : Request → Prop}
    (asks : allowed { method := .get, path := .taskStatus task.node task.taskId }) :
    (adapter.perform (.getTaskStatus task)).Uses allowed := by
  have requireUses : ∀ (condition : Prop) [Decidable condition] (error : ClientError),
      (Http.require condition error).Uses allowed := fun _ _ _ => trivial
  unfold perform HttpProxmoxAdapter.getTaskStatus ProxmoxClient.getTaskStatus
  apply Program.Uses.bind
  · apply Program.Uses.bind
    · exact ⟨asks, fun answer => by rcases answer with _ | _ <;> trivial⟩
    · intro data
      cases data <;> try trivial
      rename_i fields
      simp only [Http.expect_eq, dict?, Program.done_ok_bind]
      split <;> trivial
  · intro data
    apply (requireUses _ _).bind
    intro checked
    simp only
    split
    · trivial
    · apply (requireUses _ _).bind
      intro stopped
      split
      · split <;> trivial
      · trivial

/-- The other methods of the adapter only read. -/
theorem HttpProxmoxAdapter.perform_reads {call : AdapterCall} (reads : ¬call.Mutates) :
    (adapter.perform call).Uses fun request => ¬request.Mutates := by
  have requireReads : ∀ (condition : Prop) [Decidable condition] (error : ClientError),
      (Http.require condition error).Uses fun request => ¬request.Mutates :=
    fun _ _ _ => trivial
  have dataReads : ∀ path : ApiPath,
      (requestData { method := .get, path }).Uses fun request => ¬request.Mutates := by
    intro path
    exact ⟨by simp [Request.Mutates], fun answer => by rcases answer with _ | _ <;> trivial⟩
  cases call <;> simp only [AdapterCall.Mutates, not_true_eq_false, not_false_eq_true] at reads
  case getVmPowerState portalVmId node vmid =>
    unfold perform getVmPowerState
    apply (requireReads _ _).bind
    intro checked
    apply Program.Uses.bind
    · rw [findOwnedVmResource_eq]
      split
      · exact ⟨by decide, fun listing => trivial⟩
      · trivial
    · intro found
      cases found with
      | none => trivial
      | some resource =>
          apply Program.Uses.bind
          · rw [getVmCurrentStatus_eq]
            exact ⟨by simp [statusRequest, Request.Mutates], fun status => trivial⟩
          · intro fields
            simp only [Program.liftT_eq, done_bind]
            cases powerStatus s!"VMID {vmid} has unexpected status: " (fields.get "status") <;>
              trivial
  case chooseCloneTarget request =>
    unfold perform chooseCloneTarget getNextVmid
    apply Program.Uses.bind
    · apply (dataReads _).bind
      intro data
      cases data <;> try trivial
      rename_i text
      simp only [Http.expect_eq]
      cases PyString.int? text with
      | none => trivial
      | some vmid =>
          rw [Program.done_ok_bind]
          apply (requireReads _ _).bind
          intro positive
          trivial
    · exact fun _ => trivial
  case getTaskStatus task => exact adapter.getTaskStatus_uses task (by simp [Request.Mutates])

/-- A command sends at most one request that changes something.  It sends it last, and only to
the resource which the list of the same command shows to be the VM's own, or, for a clone, to be
free.  No resource is owned by two portal VMs. -/
theorem HttpProxmoxAdapter.mutation_guarded :
    (∀ (call : AdapterCall) (server : HttpServer) (before after : List HttpExchange)
      (exchange : HttpExchange),
      (Program.run server 0 (adapter.perform call)).1 = before ++ exchange :: after →
      exchange.call.Mutates →
      call.Mutates ∧ after = [] ∧ (∀ earlier ∈ before, ¬earlier.call.Mutates) ∧
        adapter.Guards call before exchange.call) ∧
    ∀ (first second : Uuid) (node otherNode : String) (resource : Fields),
      adapter.Owns first node resource → adapter.Owns second otherNode resource →
      first = second := by
  refine ⟨?_, fun _ _ _ _ _ owns otherOwns => owns.unique otherOwns⟩
  intro call server before after exchange made mutates
  have isMade : exchange ∈ (Program.run server 0 (adapter.perform call)).1 := by simp [made]
  by_cases commands : call.Mutates
  · rcases Option.isSome_iff_exists.mp ((adapter.command?_isSome call).mpr commands) with
      ⟨command, isCommand⟩
    rw [adapter.perform_eq_program isCommand] at made isMade
    have listingReads : ¬resourcesRequest.Mutates := by decide
    have statusReads : ¬(statusRequest command.node command.vmid).Mutates := by
      simp [statusRequest, Request.Mutates]
    have traced := command.trace adapter server
    generalize (Program.run server 0 (command.program adapter)).1 = exchanges at *
    cases traced with
    | quiet _ reads => exact absurd mutates (reads exchange isMade)
    | sent body resource passes positive listing owned decides =>
        rcases before with _ | ⟨first, _ | ⟨second, before⟩⟩
        · simp only [List.nil_append, List.cons.injEq] at made
          rcases made with ⟨rfl, _⟩
          exact absurd mutates listingReads
        · simp only [List.cons_append, List.nil_append, List.cons.injEq] at made
          rcases made with ⟨rfl, rfl, rfl⟩
          exact ⟨commands, rfl, by simpa using listingReads,
            (adapter.command?_guards isCommand owned (.inl decides) (by simp)).2⟩
        · simp at made
    | sentAfterStatus body answer resource status passes positive listing owned readsStatus =>
        rcases before with _ | ⟨first, _ | ⟨second, _ | ⟨third, before⟩⟩⟩
        · simp only [List.nil_append, List.cons.injEq] at made
          rcases made with ⟨rfl, _⟩
          exact absurd mutates listingReads
        · simp only [List.cons_append, List.nil_append, List.cons.injEq] at made
          rcases made with ⟨rfl, rfl, _⟩
          exact absurd mutates statusReads
        · simp only [List.cons_append, List.nil_append, List.cons.injEq] at made
          rcases made with ⟨rfl, rfl, rfl, rfl⟩
          exact ⟨commands, rfl, by simp [listingReads, statusReads],
            (adapter.command?_guards isCommand owned (.inr readsStatus) (by simp)).2⟩
        · simp at made
  · exact absurd mutates ((adapter.perform_reads commands).of_mem_run isMade)

end Guard

/-- A configuration. -/
def sampleAdapter : HttpProxmoxAdapter where
  targetNode := "pve"
  pool := "npd"
  templateNode := "pve"
  templateVmid := 9000
  templateImageId := "debian"
  storage := "local"
  cloudInitUser := "npd"
  ipconfig0 := "ip=dhcp"
  nameserver := "10.0.0.1"
  searchDomain := "lan"

/-- The resource of VM 7 with VMID 100. -/
def sampleResource (lock : PyJson) : PyJson :=
  .dict [("vmid", .int 100), ("type", .str "qemu"), ("name", .str (vmName 7)),
    ("pool", .str "npd"), ("node", .str "pve"), ("lock", lock)]

/-- A server with one VM, which takes every request. -/
def sampleServer (resources : List PyJson) (status : String) (lock : PyJson) : HttpServer :=
  fun _ request =>
    match request.path with
    | .clusterResources => .ok (.dict [("data", .list resources)])
    | .qemu _ vmid "/status/current" => .ok (.dict [("data", .dict [("vmid", .int vmid),
        ("status", .str status), ("maxdisk", .int 1), ("lock", lock)])])
    | _ => .ok (.dict [("data", .str "UPID:pve:0001")])

set_option maxRecDepth 10000 in
theorem HttpProxmoxAdapter.mutation_guarded_stop :
    sampleAdapter.Guards (.stopVm 7 "pve" 100)
      (Program.run (sampleServer [sampleResource .null] "running" .null) 0
        (sampleAdapter.perform (.stopVm 7 "pve" 100))).1.dropLast (stopRequest "pve" 100) := by
  have guarded := (mutation_guarded sampleAdapter).1 (.stopVm 7 "pve" 100)
    (sampleServer [sampleResource .null] "running" .null)
    (Program.run (sampleServer [sampleResource .null] "running" .null) 0
        (sampleAdapter.perform (.stopVm 7 "pve" 100))).1.dropLast []
    ⟨stopRequest "pve" 100, .ok (.dict [("data", .str "UPID:pve:0001")])⟩ rfl (by decide)
  exact guarded.2.2.2

end NpdPortal
