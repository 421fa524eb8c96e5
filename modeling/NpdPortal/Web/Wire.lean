import NpdPortal.Runs.Carrying
import NpdPortal.Web.Authorization

/-!
# What is sent to the provider

The commands of the worker carry the columns of the VM rows, which nothing
writes after the request that inserted them.  So whatever reaches the provider
is what the owner of the VM has asked for.
-/

namespace NpdPortal

open ProxmoxClient

/-- The request which the command of a stage sends for a VM. -/
def HttpProxmoxAdapter.stageRequest (adapter : HttpProxmoxAdapter) (stage : Stage)
    (vm : VirtualMachine) (publicKey : String) (target : ProviderPlacement) : Request :=
  match stage with
  | .clone => cloneRequest adapter.templateNode target.node adapter.templateVmid target.vmid
      (vmName vm.id) adapter.storage adapter.pool
  | .configure => configureRequest target.node target.vmid vm.requestedVcpus vm.requestedMemoryMb
      adapter.cloudInitUser adapter.ipconfig0 adapter.nameserver adapter.searchDomain publicKey
      s!"npd-portal;npd-{PyString.uuidText vm.id}"
  | .resize => resizeRequest target.node target.vmid "scsi0" vm.requestedStorageGb
  | .initialStart | .start | .rebootStart => startRequest target.node target.vmid
  | .shutdown | .rebootShutdown => shutdownRequest target.node target.vmid
  | .stop => stopRequest target.node target.vmid
  | .delete => deleteRequest target.node target.vmid

/-- The public key which the VM was requested with. -/
def Database.IsKeyOf (db : Database) (vm : VirtualMachine) (publicKey : String) : Prop :=
  ∃ key ∈ db.sshPublicKeys, vm.sshPublicKeyId = some key.id ∧ key.ownerUserId = vm.ownerUserId ∧
    key.publicKey = publicKey

/-- The request has the columns of the VM and the text of its key. -/
structure CreateVmRequest.Describes (request : CreateVmRequest) (db : Database)
    (vm : VirtualMachine) : Prop extends request.FitsVm vm where
  vcpus : request.vcpus = vm.requestedVcpus
  memoryMb : request.memoryMb = vm.requestedMemoryMb
  isKey : db.IsKeyOf vm request.sshPublicKey

/-- The dispatch is for a stage of this operation and for the placement of its VM. -/
structure Dispatch.Serves (dispatch : Dispatch) (db : Database) (stage : Stage)
    (operation : Operation) (vm : VirtualMachine) (target : ProviderPlacement) : Prop where
  stored : operation ∈ db.operations
  operationType : operation.operationType = stage.operationType
  vmStored : vm ∈ db.virtualMachines
  vmId : vm.id = operation.virtualMachineId
  node : vm.providerNode = some target.node
  vmid : vm.providerVmid = some target.vmid
  made : ∃ request, dispatch = stage.dispatch operation request target ∧
    (stage.operationType = .vmCreate → stage ≠ .initialStart →
      ∃ built, request = some built ∧ built.Describes db vm)

section Requests

variable {db : Database} {vm : VirtualMachine} {stage : Stage} {target : ProviderPlacement}

theorem describes_of_buildCreateVmRequest {request : CreateVmRequest}
    (built : buildCreateVmRequest db vm = .ok request) : request.Describes db vm := by
  have fits := fitsVm_of_buildCreateVmRequest built
  simp only [buildCreateVmRequest, bind_eq_ok] at built
  rcases built with ⟨keyId, hasKey, key, isStored, _, owned, result⟩
  rcases Database.sshPublicKey?_eq_some_iff.mp (found_eq_ok.mp isStored) with ⟨keyMem, isKey⟩
  cases result
  refine ⟨fits, rfl, rfl, key, keyMem, ?_, require_eq_ok.mp owned, rfl⟩
  rw [found_eq_ok.mp hasKey, isKey]

/-- What the adapter sends for the command of a stage. -/
theorem HttpProxmoxAdapter.sent_eq (adapter : HttpProxmoxAdapter) {vmId : Uuid}
    {built : CreateVmRequest}
    (describes : stage.operationType = .vmCreate → stage ≠ .initialStart → built.Describes db vm)
    {server : HttpServer} {sent : HttpExchange}
    (made : sent ∈ (Program.run server 0
      (adapter.perform (stage.command vmId built target))).1)
    (mutates : sent.call.Mutates) :
    sent.call = adapter.stageRequest stage vm built.sshPublicKey target := by
  have ofCommand : ∀ {call : AdapterCall} {command : GuardedCommand call.Answer},
      adapter.command? call = some command →
      sent ∈ (Program.run server 0 (adapter.perform call)).1 → sent.call = command.request := by
    intro call command isCommand isMade
    rw [adapter.perform_eq_program isCommand] at isMade
    exact command.call_of_mutates adapter isMade mutates
  cases stage with
  | clone =>
      have columns := describes rfl (by simp)
      rw [ofCommand rfl made]
      simp only [cloneCommand, stageRequest, columns.vmId]
  | configure =>
      have columns := describes rfl (by simp)
      rw [ofCommand rfl made]
      simp only [configureCommand, stageRequest, columns.vmId, columns.vcpus, columns.memoryMb]
  | resize =>
      have columns := describes rfl (by simp)
      rw [ofCommand rfl made]
      simp only [resizeCommand, stageRequest, columns.storageGb]
  | initialStart | start | rebootStart | shutdown | rebootShutdown | stop | delete =>
      exact ofCommand rfl made

end Requests

/-! ## Along the runs of the portal -/

section Runs

variable {world next : World} {event : Event} {history : List Event} {operation : Operation}
  {vm : VirtualMachine} {stage : Stage} {target : ProviderPlacement} {dispatch : Dispatch}

/-- A new dispatch serves the selected operation. -/
theorem World.serves_of_selectStep (sound : world.Sound) {now stamp dbNow : Time}
    {locked : List Uuid} (selects : Selects now locked world.db operation) {provider : Provider}
    {flight : Flight}
    (inFlight : flight ∈ (world.selectStep operation provider stamp dbNow).2.inFlight) :
    flight ∈ world.inFlight ∨
      ∃ stage vm target, flight.dispatch.Serves world.db stage operation vm target := by
  by_cases old : flight ∈ world.inFlight
  · exact .inl old
  right
  have isNew : ∃ changes dispatch, flight = .submitting dispatch ∧
      (Program.run provider 0 (runSelected stamp world.db operation)).2 =
        .ok (changes, some dispatch) ∧
      (world.selectStep operation provider stamp dbNow).2.inFlight =
        world.inFlight ++ [.submitting dispatch] := by
    unfold World.selectStep at inFlight ⊢
    simp only at inFlight ⊢
    split at inFlight
    · exact absurd inFlight old
    · rename_i changes made ran
      split at inFlight
      · exact absurd inFlight old
      · rename_i db flushed
        cases made with
        | none => exact absurd (by simpa using inFlight) old
        | some dispatch =>
            have isLast : flight = .submitting dispatch := by
              simpa [old] using inFlight
            exact ⟨changes, dispatch, isLast, ran, by simp⟩
  rcases isNew with ⟨changes, dispatch, rfl, ran, dispatches⟩
  rcases exists_pending_of_dispatch sound selects dispatches with
    ⟨stage, vm, target, atStage, placed, hasKey⟩
  rcases runSelected_pending stamp placed (fun _ => hasKey) atStage with
    ⟨request, given, computed⟩
  rw [computed, Program.run_done] at ran
  cases ran
  rcases Database.virtualMachine?_eq_some_iff.mp placed.vmStored with ⟨vmMem, vmId⟩
  refine ⟨stage, vm, target, selects.stored, atStage.operationType, vmMem, vmId, placed.node,
    placed.vmid, request, rfl, ?_⟩
  intro creates notStart
  rcases given creates notStart with ⟨built, isBuilt, isRequest⟩
  exact ⟨built, isRequest, describes_of_buildCreateVmRequest isBuilt⟩

/-- What a dispatch serves stays what it serves. -/
theorem Dispatch.Serves.progress (serves : dispatch.Serves world.db stage operation vm target)
    (progress : Progress world event next) : ∃ updated row, operation.id = updated.id ∧
      dispatch.Serves next.db stage updated row target := by
  rcases progress.forward serves.stored with ⟨updated, updatedMem, forward⟩
  rcases progress.onward serves.vmStored with ⟨row, rowMem, onward⟩
  rcases onward.placement (by simp [serves.vmid]) with ⟨sameNode, sameVmid⟩
  rcases serves.made with ⟨request, rfl, given⟩
  refine ⟨updated, row, forward.identity.id.symm, updatedMem,
    forward.identity.operationType.trans serves.operationType, rowMem,
    onward.id.trans (serves.vmId.trans forward.identity.virtualMachineId.symm),
    sameNode.trans serves.node, sameVmid.trans serves.vmid, request,
    Stage.dispatch_congr forward.identity.id forward.identity.virtualMachineId request, ?_⟩
  intro creates notStart
  rcases given creates notStart with ⟨built, isRequest, columns⟩
  rcases columns.isKey with ⟨key, keyMem, isKey, owned, text⟩
  exact ⟨built, isRequest, {
    vmId := columns.vmId.trans onward.id.symm
    imageId := columns.imageId.trans onward.imageId.symm
    storageGb := columns.storageGb.trans onward.requestedStorageGb.symm
    vcpus := columns.vcpus.trans onward.requestedVcpus.symm
    memoryMb := columns.memoryMb.trans onward.requestedMemoryMb.symm
    isKey := ⟨key, progress.sshPublicKeys key keyMem, onward.sshPublicKeyId.trans isKey,
      owned.trans onward.ownerUserId.symm, text⟩ }⟩

/-- The dispatch serves some operation. -/
def Dispatch.Served (dispatch : Dispatch) (db : Database) : Prop :=
  ∃ stage operation vm target, dispatch.Serves db stage operation vm target

theorem Dispatch.Served.progress (served : dispatch.Served world.db)
    (progress : Progress world event next) : dispatch.Served next.db := by
  rcases served with ⟨stage, operation, vm, target, serves⟩
  rcases serves.progress progress with ⟨updated, row, _, serves⟩
  exact ⟨stage, updated, row, target, serves⟩

/-- The dispatches under way after a step serve an operation. -/
theorem flights_served_of_step (sound : world.Sound) (step : portal.step world event next)
    (served : ∀ flight ∈ world.inFlight, flight.dispatch.Served world.db) :
    ∀ flight ∈ next.inFlight, flight.dispatch.Served next.db := by
  have progress := step_progress sound step
  intro flight inFlight
  refine Dispatch.Served.progress ?_ progress
  rcases step with ⟨action, step⟩
  cases action with
  | createVm context userId request idempotencyKey =>
      simp only [World.step?, World.afterRequest] at step
      cases step
      split at inFlight <;> exact served flight inFlight
  | enqueue context userId vmId operationType idempotencyKey =>
      simp only [World.step?, World.afterRequest] at step
      cases step
      split at inFlight <;> exact served flight inFlight
  | administer administration =>
      simp only [World.step?] at step
      split at step
      · cases step
      · split at step <;> cases step
        exact served flight inFlight
  | select now locked operationId provider stamp dbNow =>
      simp only [World.step?] at step
      split at step
      · cases step
      · split at step
        · rename_i operation _ selects
          have isNext : (world.selectStep operation provider stamp dbNow).2 = next :=
            congrArg Prod.snd (Option.some.inj step)
          rcases World.serves_of_selectStep sound selects (isNext ▸ inFlight) with old | isNew
          · exact served flight old
          · rcases isNew with ⟨stage, vm, target, serves⟩
            exact ⟨stage, operation, vm, target, serves⟩
        · cases step
  | submit index provider =>
      simp only [World.step?] at step
      split at step <;> cases step
      rename_i dispatch submitting
      rcases List.mem_or_eq_of_mem_set inFlight with old | rfl
      · exact served flight old
      · exact served (.submitting dispatch) (List.mem_of_getElem? submitting)
  | store index stamp dbNow =>
      simp only [World.step?] at step
      split at step
      · split at step <;> cases step <;> exact served flight (List.mem_of_mem_eraseIdx inFlight)
      · cases step
  | lose index =>
      simp only [World.step?] at step
      split at step <;> cases step
      exact served flight (List.mem_of_mem_eraseIdx inFlight)

/-- Every call outside a transaction is that of a dispatch which serves an operation. -/
theorem served_of_execution (execution : portal.Execution history world) :
    (∀ dispatch exchanges outcome, .submitted dispatch exchanges outcome ∈ history →
      dispatch.Served world.db ∧ ∃ provider,
        exchanges = (Program.run provider 0 dispatch.submit).1) ∧
    ∀ flight ∈ world.inFlight, flight.dispatch.Served world.db := by
  refine execution.invariant (motive := fun history world =>
    (∀ dispatch exchanges outcome, .submitted dispatch exchanges outcome ∈ history →
      dispatch.Served world.db ∧ ∃ provider,
        exchanges = (Program.run provider 0 dispatch.submit).1) ∧
    ∀ flight ∈ world.inFlight, flight.dispatch.Served world.db) ?_ ?_
  · rintro state rfl
    exact ⟨fun _ _ _ impossible => absurd impossible List.not_mem_nil,
      fun flight inFlight => absurd inFlight List.not_mem_nil⟩
  · rintro earlier state event later before ⟨submitted, flights⟩ step
    have sound := sound_of_reachable before.reachable
    have progress := step_progress sound step
    refine ⟨fun dispatch exchanges outcome isMember => ?_,
      flights_served_of_step sound step flights⟩
    rcases List.mem_append.mp isMember with old | isLast
    · rcases submitted dispatch exchanges outcome old with ⟨served, calls⟩
      exact ⟨served.progress progress, calls⟩
    · rcases List.mem_singleton.mp isLast with rfl
      cases progress with
      | submitted index dispatch provider submitting =>
          exact ⟨flights (.submitting dispatch) (List.mem_of_getElem? submitting), provider, rfl⟩

/-- The HTTP request is that of a stage of the operation and carries the columns of its VM. -/
structure HttpProxmoxAdapter.SendsFor (adapter : HttpProxmoxAdapter) (db : Database)
    (operation : Operation) (vm : VirtualMachine) (request : Request) : Prop where
  stored : operation ∈ db.operations
  vmStored : vm ∈ db.virtualMachines
  vmId : vm.id = operation.virtualMachineId
  made : ∃ stage target publicKey, operation.operationType = stage.operationType ∧
    vm.providerNode = some target.node ∧ vm.providerVmid = some target.vmid ∧
    (stage = .configure → db.IsKeyOf vm publicKey) ∧
    request = adapter.stageRequest stage vm publicKey target

theorem Dispatch.Serves.sent (serves : dispatch.Serves world.db stage operation vm target)
    {provider : Provider} {exchange : Exchange}
    (called : exchange ∈ (Program.run provider 0 dispatch.submit).1)
    (adapter : HttpProxmoxAdapter) {server : HttpServer} {sent : HttpExchange}
    (made : sent ∈ (Program.run server 0 (adapter.perform exchange.call)).1)
    (mutates : sent.call.Mutates) : adapter.SendsFor world.db operation vm sent.call := by
  rcases serves.made with ⟨request, rfl, given⟩
  have isBuilt : ∃ built, (stage.operationType = .vmCreate → stage ≠ .initialStart →
      request = some built) ∧
      (stage.operationType = .vmCreate → stage ≠ .initialStart → built.Describes world.db vm) := by
    by_cases creates : stage.operationType = .vmCreate ∧ stage ≠ .initialStart
    · rcases given creates.1 creates.2 with ⟨built, isRequest, columns⟩
      exact ⟨built, fun _ _ => isRequest, fun _ _ => columns⟩
    · exact ⟨⟨0, "", 0, 0, 0, ""⟩, fun creation notStart => absurd ⟨creation, notStart⟩ creates,
        fun creation notStart => absurd ⟨creation, notStart⟩ creates⟩
  rcases isBuilt with ⟨built, isRequest, describes⟩
  rw [stage.submit_eq operation built target isRequest, Program.run_call, Program.run_done,
    List.mem_singleton] at called
  subst called
  refine ⟨serves.stored, serves.vmStored, serves.vmId, stage, target, built.sshPublicKey,
    serves.operationType, serves.node, serves.vmid, ?_, adapter.sent_eq describes made mutates⟩
  rintro rfl
  exact (describes rfl (by simp)).isKey

/-- Whatever is sent in a run of the portal is sent for an operation and its VM. -/
theorem sent_of_execution (execution : portal.Execution history world) (occurs : event ∈ history)
    {exchange : Exchange} (called : exchange ∈ event.exchanges) (adapter : HttpProxmoxAdapter)
    {server : HttpServer} {sent : HttpExchange}
    (made : sent ∈ (Program.run server 0 (adapter.perform exchange.call)).1)
    (mutates : sent.call.Mutates) :
    ∃ operation vm, event.operationId = some operation.id ∧
      adapter.SendsFor world.db operation vm sent.call := by
  have sends : exchange.call.Mutates := by
    by_contra reads
    exact (adapter.perform_reads reads).of_mem_run made mutates
  cases event with
  | submitted dispatch exchanges outcome =>
      rcases (served_of_execution execution).1 dispatch exchanges outcome occurs with
        ⟨⟨stage, operation, vm, target, serves⟩, provider, rfl⟩
      refine ⟨operation, vm, ?_, serves.sent called adapter made mutates⟩
      rcases serves.made with ⟨request, rfl, _⟩
      simp [Event.operationId, Stage.dispatch_operationId]
  | selected operation exchanges committed =>
      rcases List.append_of_mem occurs with ⟨first, rest, rfl⟩
      rcases execution.split with ⟨before, after, early, step, _⟩
      have progress := step_progress (sound_of_reachable early.reachable) step
      exact absurd sends (progress.selected_harmless exchange called)
  | _ => cases called

end Runs

/-! ## From the cookie to the provider -/

/-- What the portal sees of a history of the site is among the labels of one of its histories. -/
theorem portal_of_site {history : List SiteEvent} {state : Site}
    (execution : site.Execution history state) : ∃ events, portal.Execution events state.world ∧
      ∀ event, .background event ∈ history → event ∈ events := by
  refine execution.invariant (motive := fun history state => ∃ events,
    portal.Execution events state.world ∧
      ∀ event, .background event ∈ history → event ∈ events) ?_ ?_
  · rintro state rfl
    exact ⟨[], ⟨.initial, rfl, .nil⟩, fun event occurs => absurd occurs List.not_mem_nil⟩
  · rintro earlier before label after early ⟨events, execution, contains⟩ step
    have progress := site_step_progress (site_sound_of_reachable early.reachable) step
    have others : (∀ event, label ≠ .background event) → ∃ events,
        portal.Execution events after.world ∧
          ∀ event, .background event ∈ earlier ++ [label] → event ∈ events := by
      intro notBackground
      have isEarlier : ∀ event, .background event ∈ earlier ++ [label] →
          .background event ∈ earlier := by
        intro event occurs
        rcases List.mem_append.mp occurs with old | new
        · exact old
        · exact absurd (List.mem_singleton.mp new).symm (notBackground event)
      rcases progress.world with same | ⟨seen, moves⟩
      · exact ⟨events, same ▸ execution, fun event occurs =>
          contains event (isEarlier event occurs)⟩
      · exact ⟨events ++ [seen], execution.snoc moves, fun event occurs =>
          List.mem_append_left _ (contains event (isEarlier event occurs))⟩
    cases progress with
    | background event world moves =>
        refine ⟨events ++ [event], execution.snoc moves, fun other occurs => ?_⟩
        rcases List.mem_append.mp occurs with old | new
        · exact List.mem_append_left _ (contains other old)
        · cases List.mem_singleton.mp new
          exact List.mem_append_right _ (List.mem_singleton_self _)
    | _ => exact others fun event same => by cases same

/-- Every request that changes something at the provider is sent for an operation which the owner
of its VM has asked for, and carries what the owner asked the VM to be: in every run in which no
two tokens collide, both go back to POST requests with a valid CSRF token and session. -/
theorem sent_authorized {config : FrontConfig} {history : List FrontEvent} {state : Front}
    (execution : (front config).Execution history state)
    (distinct : NoCollision config.identity (history.filterMap FrontEvent.identity?))
    {event : Event} (occurs : .site (.background event) ∈ history) {exchange : Exchange}
    (called : exchange ∈ event.exchanges) (adapter : HttpProxmoxAdapter) (server : HttpServer)
    {sent : HttpExchange}
    (made : sent ∈ (Program.run server 0 (adapter.perform exchange.call)).1)
    (mutates : sent.call.Mutates) :
    ∃ operation vm, event.operationId = some operation.id ∧
      adapter.SendsFor state.site.world.db operation vm sent.call ∧
      (∃ post, post.ask.Asks operation ∧ Authorized config history post vm.ownerUserId) ∧
      ∃ post request idempotencyKey, post.ask = .create request idempotencyKey ∧
        vm.MatchesRequest request ∧ Authorized config history post vm.ownerUserId := by
  rcases portal_of_site (site_of_front execution) with ⟨events, portalExecution, contains⟩
  have isBackground : event ∈ events :=
    contains event (List.mem_filterMap.mpr ⟨_, occurs, rfl⟩)
  rcases sent_of_execution portalExecution isBackground called adapter made mutates with
    ⟨operation, vm, isOperation, sendsFor⟩
  refine ⟨operation, vm, isOperation, sendsFor, ?_,
    vm_authorized execution distinct sendsFor.vmStored⟩
  rcases operation_authorized execution distinct sendsFor.stored with
    ⟨own, ownMem, isOwn, post, asks, authorized⟩
  rcases KeyedRows.eq_of_key_eq state.site.world.db.valid.vmIds ownMem sendsFor.vmStored
    (isOwn.trans sendsFor.vmId.symm) with rfl
  exact ⟨post, asks, authorized⟩

section Sample

/-- The VM 31 is placed and cloned, and the command that configures it is sent. -/
def sampleConfiguring : List Action :=
  [.select 6 [] 41 (sampleProvider .running .running) 6 6] ++ sampleIteration 41 7 ++
    [.select 8 [] 41 (sampleProvider .running .running) 8 8,
      .submit 0 (sampleProvider .running .running)]

def sampleConfigured : List FrontEvent × Front :=
  Front.perform sampleFrontConfig
    (sampleConfiguring.map fun action => .site (.background action)) sampleServed.2

def sampleNodeAdapter : HttpProxmoxAdapter := { sampleImageAdapter with targetNode := "node" }

/-- A server with the clone. -/
def sampleCloneServer : HttpServer :=
  sampleServer [.dict [("vmid", .int 100), ("type", .str "qemu"), ("name", .str (vmName 31)),
    ("pool", .str "npd"), ("node", .str "node")]] "stopped" .null

/-- What user 2 asked for is what is sent. -/
def sampleConfigureRequest : Request :=
  configureRequest "node" 100 sampleRequest.requestedVcpus sampleRequest.requestedMemoryMb "npd"
    "ip=dhcp" "10.0.0.1" "lan" "ssh-ed25519 BBBB" s!"npd-portal;npd-{PyString.uuidText 31}"

theorem sampleConfigured_distinct : NoCollision sampleConfig
    ((sampleFrontHistory ++ sampleConfigured.1).filterMap FrontEvent.identity?) := by
  have noLogin : (sampleConfigured.1.filterMap FrontEvent.identity?).isEmpty = true := by
    decide +kernel
  rw [List.filterMap_append, List.isEmpty_iff.mp noLogin, List.append_nil]
  exact sampleFrontHistory_distinct

set_option maxRecDepth 10000 in
/-- The configuration of VM 31 goes back to the login of user 2. -/
theorem sampleConfigured_sent : ∃ operation vm, some 41 = some operation.id ∧
    sampleNodeAdapter.SendsFor sampleConfigured.2.site.world.db operation vm
      sampleConfigureRequest ∧
    ∃ post, Authorized sampleFrontConfig (sampleFrontHistory ++ sampleConfigured.1) post
      vm.ownerUserId := by
  let call : AdapterCall :=
    .configureVm ⟨31, "almalinux-9", 1, 1024, 10, "ssh-ed25519 BBBB"⟩ "node" 100
  have execution : (front sampleFrontConfig).Execution (sampleFrontHistory ++ sampleConfigured.1)
      sampleConfigured.2 :=
    sampleServed_execution.append (Front.perform_run _ _ _)
  have isCalled : (sampleConfigured.1.any fun
      | .site (.background event) => decide (event.operationId = some 41) &&
          event.exchanges.any fun exchange => decide (exchange.call = call)
      | _ => false) = true := by
    decide +kernel
  have isSent : ((Program.run sampleCloneServer 0
      (sampleNodeAdapter.perform call)).1.any fun sent =>
        decide (sent.call = sampleConfigureRequest)) = true := by
    decide +kernel
  rcases List.any_eq_true.mp isCalled with ⟨label, occurs, calls⟩
  split at calls
  · rename_i event
    rcases Bool.and_eq_true_iff.mp calls with ⟨isOperation, inEvent⟩
    rcases List.any_eq_true.mp inEvent with ⟨exchange, called, isCall⟩
    rcases List.any_eq_true.mp isSent with ⟨sent, made, isRequest⟩
    rw [← of_decide_eq_true isCall] at made
    have isConfigure := of_decide_eq_true isRequest
    have mutates : sent.call.Mutates := by
      rw [isConfigure]
      decide
    rcases sent_authorized execution sampleConfigured_distinct
      (List.mem_append_right sampleFrontHistory occurs) called sampleNodeAdapter
      sampleCloneServer made mutates with
      ⟨operation, vm, isOwn, sendsFor, _, post, _, _, _, _, authorized⟩
    rw [isConfigure] at sendsFor
    exact ⟨operation, vm, (of_decide_eq_true isOperation).symm.trans isOwn, sendsFor, post,
      authorized⟩
  · cases calls

end Sample

end NpdPortal
