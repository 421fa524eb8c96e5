import NpdPortal.Runs.Carrying

/-!
# A worker that is never disturbed

The invariant of a deployment in whose runs no deletion met a lock: between
the iterations every active operation waits for its dispatch or for its task,
and the resource of a VM is at the provider when its status says so.
-/

namespace NpdPortal

open PyJson ProxmoxClient

def AdapterCall.deletes : AdapterCall → Bool
  | .deleteVm .. => true
  | _ => false

/-- A deletion is called while the resource list shows a lock of its VM. -/
def DeploymentEvent.LockedDelete : DeploymentEvent → Prop
  | .portal (.submitted _ exchanges _) made => ∃ portalVmId node vmid,
      (∃ answer, ⟨.deleteVm portalVmId node vmid, answer⟩ ∈ exchanges) ∧
        ∃ exchange ∈ made, exchange.call = resourcesRequest ∧ ReportsLock node vmid exchange
  | _ => False

/-- A deletion is called. -/
def DeploymentEvent.deletes : DeploymentEvent → Bool
  | .portal (.submitted _ exchanges _) _ => exchanges.any fun exchange => exchange.call.deletes
  | _ => false

theorem DeploymentEvent.not_lockedDelete {event : DeploymentEvent}
    (notDeleted : event.deletes = false) : ¬event.LockedDelete := by
  cases event with
  | portal event made =>
      cases event with
      | submitted dispatch exchanges outcome =>
          rintro ⟨portalVmId, node, vmid, ⟨answer, called⟩, _⟩
          exact List.any_eq_false.mp notDeleted _ called rfl
      | _ => exact id
  | _ => exact id

/-! ## The invariant -/

/-- Where an operation is while no worker is under way with it. -/
inductive Position.Undisturbed : Position → Prop where
  | pending (stage : Stage) : Undisturbed (.pending stage)
  | polling (stage : Stage) : Undisturbed (.polling stage false)
  | succeeded (operationType : OperationType) : Undisturbed (.succeeded operationType)
  | failed (stage : Stage) : Undisturbed (.failed stage)

theorem Stage.after_undisturbed (stage : Stage) : stage.after.Undisturbed := by
  unfold Stage.after
  cases stage.next with
  | none => exact .succeeded _
  | some later => exact .pending later

/-- The resource of a VM with this status is at the provider. -/
def VmStatus.Live : VmStatus → Prop
  | .provisioning | .running | .stopped => True
  | _ => False

/-- The VM can be created here, and its resource is at the provider when its status says so;
the outcomes for `busy` are still to be stored. -/
structure VirtualMachine.Hosted (vm : VirtualMachine) (adapter : HttpProxmoxAdapter)
    (hosting : Hosting) (busy : List ℤ) : Prop where
  image : (imageMinStorageGb vm.imageId).isSome = true
  storage : 0 < vm.requestedStorageGb
  placement : ∀ vmid ∈ vm.providerVmid, vm.providerNode = some adapter.targetNode ∧ 0 < vmid
  absent : vm.status = .pending → ∀ vmid ∈ vm.providerVmid, vmid ∉ busy → hosting.Free vmid
  present : vm.status.Live → ∀ vmid ∈ vm.providerVmid, hosting.Holds vmid

/-- What holds of the worker between its transactions. -/
inductive Flight.Undisturbed (hosting : Hosting) (db : Database) : Flight → Prop where
  | submitting {dispatch : Dispatch} {row : Operation} {vm : VirtualMachine} {stage : Stage}
      {target : ProviderPlacement} {request : Option CreateVmRequest}
      (carries : Carries db dispatch row vm stage target request) :
      Undisturbed hosting db (.submitting dispatch)
  | storing {dispatch : Dispatch} {row : Operation} {vm : VirtualMachine} {stage : Stage}
      {target : ProviderPlacement} {request : Option CreateVmRequest} {result : ProviderResult}
      (carries : Carries db dispatch row vm stage target request)
      (accepts : stage.Accepts target result) (fits : (Evidence.outcome (.ok result)).Fits)
      (cloned : stage = .clone → hosting.Holds target.vmid) :
      Undisturbed hosting db (.storing dispatch (.ok result))

/-- The VMIDs whose outcome is still to be stored. -/
def World.busyVmids (world : World) : List ℤ :=
  world.inFlight.filterMap fun flight =>
    match flight with
    | .submitting _ => none
    | .storing dispatch _ => some dispatch.target.vmid

/-- The invariant of a deployment whose worker is never disturbed. -/
structure Deployment.Undisturbed (adapter : HttpProxmoxAdapter) (state : Deployment) : Prop where
  sound : state.world.Sound
  known : ∀ vmid, ¬state.hosting.Free vmid → vmid ∈ state.world.db.providerVmids
  vms : ∀ vm ∈ state.world.db.virtualMachines,
    vm.Hosted adapter state.hosting state.world.busyVmids
  alone : state.world.inFlight.length ≤ 1
  flights : ∀ flight ∈ state.world.inFlight, flight.Undisturbed state.hosting state.world.db
  rows : ∀ operation ∈ state.world.db.operations, ∃ position : Position,
    position.Matches operation ∧ (position.Undisturbed ∨ ∃ stage, position = .dispatching stage ∧
      ∃ flight ∈ state.world.inFlight, flight.dispatch.operationId = operation.id)

/-! ## What a move does to the VM -/

section Moves

variable {adapter : HttpProxmoxAdapter} {hosting : Hosting} {busy : List ℤ} {vm : VirtualMachine}
  {evidence : Evidence} {position reached : Position} {change : VmChange} {status : VmStatus}

/-- Only the stored outcome of a clone makes a VM live. -/
theorem Advance.live_of_live (advance : Advance evidence position reached change)
    (before : status ∈ position.vmStatuses) (live : (change.newStatus status).Live) :
    status.Live ∨ position = .dispatching .clone ∨ position = .reconciling .clone := by
  cases advance with
  | mark stage =>
      cases stage <;> simp_all [Position.vmStatuses, Stage.markChange, VmChange.newStatus,
        Stage.waitStatus, VmStatus.Live]
  | confirmed stage position state awaits =>
      rcases awaits with rfl | rfl <;> cases stage <;>
        simp_all [Position.vmStatuses, Stage.waitStatus, VmStatus.Live, Stage.doneChange,
          Stage.doneStatus, VmChange.newStatus]
  | storeTask stage position result task carries waiting =>
      rcases waiting with rfl | ⟨rfl, late⟩ <;> cases stage <;>
        simp_all [Position.vmStatuses, Stage.waitStatus, VmStatus.Live, Stage.taskChange,
          VmChange.newStatus]
  | storeDone stage result done =>
      cases stage <;> simp_all [Position.vmStatuses, Stage.waitStatus, VmStatus.Live,
        Stage.doneChange, Stage.doneStatus, VmChange.newStatus]
  | storeInProgress stage result inProgress =>
      cases stage <;> simp_all [Position.vmStatuses, Stage.waitStatus, VmStatus.Live,
        Stage.taskChange, VmChange.newStatus]
  | pollSucceeded stage backoff answer succeeded =>
      cases stage <;> simp_all [Position.vmStatuses, Stage.waitStatus, VmStatus.Live,
        Stage.pollChange, Stage.doneChange, Stage.doneStatus, VmChange.newStatus]
  | pollFailed stage backoff answer failed =>
      cases stage <;> simp_all [Position.vmStatuses, Stage.waitStatus, VmStatus.Live,
        Stage.failChange, Stage.operationType, VmChange.newStatus]
  | _ => exact .inl live

/-- A poll that is answered leads on. -/
theorem Advance.undisturbed_of_polled {stage : Stage} {answer : Except Error ProviderTaskStatus}
    (advance : Advance (.polled answer) (.polling stage false) reached change)
    (answered : answer.isOk = true) : reached.Undisturbed := by
  cases advance with
  | pollRunning => exact .polling stage
  | pollSucceeded => exact stage.after_undisturbed
  | pollFailed => exact .failed stage
  | pollRaised => cases answered

/-- No move takes a VM back to `pending`. -/
theorem Advance.pending_of_pending (advance : Advance evidence position reached change)
    (pending : change.newStatus status = .pending) : status = .pending := by
  cases advance with
  | mark stage => cases stage <;> simp_all [Stage.markChange, VmChange.newStatus]
  | pollSucceeded stage =>
      cases stage <;>
        simp_all [Stage.pollChange, Stage.doneChange, Stage.doneStatus, VmChange.newStatus]
  | pollFailed stage =>
      cases stage <;> simp_all [Stage.failChange, Stage.operationType, VmChange.newStatus]
  | confirmed stage =>
      cases stage <;> simp_all [Stage.doneChange, Stage.doneStatus, VmChange.newStatus]
  | storeTask stage => cases stage <;> simp_all [Stage.taskChange, VmChange.newStatus]
  | storeDone stage =>
      cases stage <;> simp_all [Stage.doneChange, Stage.doneStatus, VmChange.newStatus]
  | storeInProgress stage => cases stage <;> simp_all [Stage.taskChange, VmChange.newStatus]
  | _ => exact pending

end Moves

/-! ## Requests -/

/-- What a step of the web application adds. -/
structure World.Serves (world next : World) : Prop where
  inFlight : next.inFlight = world.inFlight
  operations : ∃ inserted, next.db.operations = world.db.operations ++ inserted ∧
    ∀ operation ∈ inserted, ∃ stage, (Position.pending stage).Matches operation
  virtualMachines : ∃ inserted, next.db.virtualMachines = world.db.virtualMachines ++ inserted ∧
    ∀ vm ∈ inserted, vm.providerVmid = none ∧ (imageMinStorageGb vm.imageId).isSome = true ∧
      0 < vm.requestedStorageGb

section Requests

variable {world next : World} {db after : Database}

theorem World.Serves.refl (world : World) : world.Serves world :=
  ⟨rfl, ⟨[], by simp, by simp⟩, ⟨[], by simp, by simp⟩⟩

/-- A new VM has an image that is allowed. -/
theorem image_of_createVm {context : RequestContext} {userId : Uuid}
    {request : VirtualMachineCreate} {idempotencyKey : String} {vm : VirtualMachine}
    (created : createVm db context userId request idempotencyKey = .ok (after, vm)) :
    after = db ∨ (imageMinStorageGb request.imageId).isSome = true := by
  simp only [createVm, bind_eq_ok, found_eq_ok] at created
  rcases created with ⟨_, _, quota, _, existing, _, created⟩
  cases existing with
  | some other =>
      cases created
      exact .inl rfl
  | none =>
      simp only [bind_eq_ok, found_eq_ok, checkQuotaAndImage] at created
      rcases created with ⟨_, ⟨_, _, minimum, isMinimum, _⟩, _⟩
      exact .inr (Option.isSome_iff_exists.mpr ⟨minimum, isMinimum⟩)

theorem World.serves_of_request {action : Action} {event : Event} (isRequest : action.IsRequest)
    (step : World.step? action world = some (event, next)) : world.Serves next := by
  cases action with
  | createVm context userId request idempotencyKey =>
      simp only [World.step?, Option.some.injEq, Prod.mk.injEq] at step
      rcases step with ⟨_, rfl⟩
      cases result : createVm world.db context userId request idempotencyKey with
      | error error => exact .refl world
      | ok served =>
          rcases served with ⟨db, vm⟩
          rcases createVm_eq_ok result with ⟨created, _⟩ | ⟨rfl, _⟩
          · refine ⟨rfl, ⟨_, by rw [World.afterRequest, created.tables], ?_⟩,
              ⟨_, by rw [World.afterRequest, created.tables], ?_⟩⟩
            · intro operation operationMem
              rw [List.mem_singleton.mp operationMem]
              exact ⟨.clone, newCreateOperation_matches _ _ _⟩
            · intro row rowMem
              rw [List.mem_singleton.mp rowMem]
              refine ⟨rfl, ?_, request.storagePositive⟩
              rcases image_of_createVm result with rfl | allowed
              · have unchanged := congrArg (fun tables => tables.virtualMachines.length)
                  created.tables
                simp at unchanged
              · exact allowed
          · exact .refl world
  | enqueue context userId vmId operationType idempotencyKey =>
      simp only [World.step?, Option.some.injEq, Prod.mk.injEq] at step
      rcases step with ⟨_, rfl⟩
      cases result : enqueueVmOperation world.db context userId vmId operationType
          idempotencyKey with
      | error error => exact .refl world
      | ok served =>
          rcases served with ⟨db, operation⟩
          rcases enqueueVmOperation_eq_ok result with ⟨vm, enqueued, _⟩ | ⟨rfl, _⟩
          · refine ⟨rfl, ⟨_, by rw [World.afterRequest, enqueued.tables], ?_⟩,
              ⟨[], by simp [World.afterRequest, enqueued.tables], by simp⟩⟩
            intro operation operationMem
            rw [List.mem_singleton.mp operationMem]
            refine ⟨operationType.firstStage, newLifecycleOperation_matches _ _ _ ?_⟩
            rintro rfl
            rcases enqueued.allowed with ⟨statuses, allowed, _⟩
            cases allowed
          · exact .refl world
  | administer administration =>
      simp only [World.step?] at step
      split at step
      · cases step
      · split at step <;> cases step
        rename_i administers
        exact ⟨rfl, ⟨[], by simp [administers.operations], by simp⟩,
          ⟨[], by simp [administers.vms], by simp⟩⟩
  | _ => cases isRequest

/-- The rows which the worker is under way with are found again. -/
theorem World.Serves.carries (serves : world.Serves next) {dispatch : Dispatch} {row : Operation}
    {vm : VirtualMachine} {stage : Stage} {target : ProviderPlacement}
    {request : Option CreateVmRequest}
    (carries : Carries world.db dispatch row vm stage target request) :
    Carries next.db dispatch row vm stage target request := by
  rcases serves.operations with ⟨_, operations, _⟩
  rcases serves.virtualMachines with ⟨_, vms, _⟩
  rcases Database.virtualMachine?_eq_some_iff.mp carries.placed.vmStored with ⟨vmMem, vmId⟩
  have vmStored : next.db.virtualMachine? row.virtualMachineId = some vm := by
    apply Database.virtualMachine?_eq_some_iff.mpr
    rw [vms]
    exact ⟨List.mem_append_left _ vmMem, vmId⟩
  refine ⟨?_, ⟨vmStored, carries.placed.node, carries.placed.vmid⟩, carries.atRow, carries.made,
    carries.asks⟩
  rw [operations]
  exact List.mem_append_left _ carries.stored

/-- A request leaves the worker alone. -/
theorem Deployment.Undisturbed.served {adapter : HttpProxmoxAdapter} {state : Deployment}
    (undisturbed : state.Undisturbed adapter) (serves : state.world.Serves next)
    (sound : next.Sound) (clock : Time) :
    Deployment.Undisturbed adapter { state with world := next, clock } where
  sound := sound
  known vmid notFree := by
    rcases serves.virtualMachines with ⟨_, vms, _⟩
    have before := undisturbed.known vmid notFree
    unfold Database.providerVmids at before ⊢
    rw [vms, List.filterMap_append]
    exact List.mem_append_left _ before
  vms vm vmMem := by
    rcases serves.virtualMachines with ⟨_, vms, new⟩
    have sameBusy : next.busyVmids = state.world.busyVmids := by
      rw [World.busyVmids, serves.inFlight, World.busyVmids]
    simp only [vms, List.mem_append] at vmMem
    rw [sameBusy]
    rcases vmMem with old | inserted
    · exact undisturbed.vms vm old
    · rcases new vm inserted with ⟨unplaced, image, storage⟩
      refine ⟨image, storage, ?_, ?_, ?_⟩ <;> simp [unplaced]
  alone := by
    rw [serves.inFlight]
    exact undisturbed.alone
  flights flight flightMem := by
    rw [serves.inFlight] at flightMem
    cases undisturbed.flights flight flightMem with
    | submitting carries => exact .submitting (serves.carries carries)
    | storing carries accepts fits cloned =>
        exact .storing (serves.carries carries) accepts fits cloned
  rows operation operationMem := by
    rcases serves.operations with ⟨_, operations, new⟩
    simp only [operations, List.mem_append] at operationMem
    rw [serves.inFlight]
    rcases operationMem with old | inserted
    · exact undisturbed.rows operation old
    · rcases new operation inserted with ⟨stage, atStage⟩
      exact ⟨_, atStage, .inl (.pending stage)⟩

end Requests

/-! ## The worker -/

section Worker

variable {adapter : HttpProxmoxAdapter} {state : Deployment} {next : Database}
  {evidence : Evidence} {operation updated : Operation} {vm : VirtualMachine}
  {position reached : Position} {change : VmChange}

theorem World.eq_singleton {world : World} {flight : Flight} (alone : world.inFlight.length ≤ 1)
    (first : world.inFlight[0]? = some flight) : world.inFlight = [flight] := by
  rcases flights : world.inFlight with _ | ⟨head, tail⟩
  · simp [flights] at first
  · rw [flights] at first alone
    cases first
    have noTail : tail = [] := by simpa using alone
    rw [noTail]

/-- The VMs after a move. -/
theorem Deployment.Undisturbed.hosted_of_moved (undisturbed : state.Undisturbed adapter)
    (moved : Moved state.world.db next evidence operation updated vm position reached change)
    {busy : List ℤ}
    (chosen : ∀ target, evidence = .placed target → vm.providerVmid = none ∧
      target.node = adapter.targetNode ∧ 0 < target.vmid ∧ state.hosting.Free target.vmid)
    (cloned : position = .dispatching .clone ∨ position = .reconciling .clone →
      ∀ vmid ∈ vm.providerVmid, state.hosting.Holds vmid)
    (stored : ∀ vmid ∈ state.world.busyVmids, vmid ∈ busy ∨
      vm.providerVmid = some vmid ∧ change.newStatus vm.status ≠ .pending) :
    ∀ other ∈ next.virtualMachines, other.Hosted adapter state.hosting busy := by
  intro other otherMem
  rw [moved.virtualMachines, KeyedRows.mem_replace] at otherMem
  rcases otherMem with ⟨rfl, _⟩ | ⟨otherMem, differs⟩
  · have before := undisturbed.vms vm moved.vmMem
    have columns : (change.apply vm).imageId = vm.imageId ∧
        (change.apply vm).requestedStorageGb = vm.requestedStorageGb := by
      cases change <;> exact ⟨rfl, rfl⟩
    have image : (imageMinStorageGb (change.apply vm).imageId).isSome = true := by
      rw [columns.1]
      exact before.image
    have storage : 0 < (change.apply vm).requestedStorageGb := by
      rw [columns.2]
      exact before.storage
    by_cases places : ∃ target, evidence = .placed target
    · rcases places with ⟨target, rfl⟩
      rcases chosen target rfl with ⟨_, node, positive, free⟩
      have status := moved.status
      have advance := moved.advance
      cases advance
      refine ⟨image, storage, ?_, ?_, ?_⟩
      · rintro vmid ⟨⟩
        exact ⟨congrArg some node, positive⟩
      · rintro _ vmid ⟨⟩ _
        exact free
      · intro live
        rw [show ((VmChange.place target).apply vm).status = .pending from
          List.mem_singleton.mp status] at live
        cases live
    · have kept : (change.apply vm).providerNode = vm.providerNode ∧
          (change.apply vm).providerVmid = vm.providerVmid := by
        cases change with
        | place target =>
            exact absurd rfl (moved.advance.ne_place (not_exists.mp places) target)
        | _ => exact ⟨rfl, rfl⟩
      refine ⟨image, storage, ?_, ?_, ?_⟩
      · rw [kept.1, kept.2]
        exact before.placement
      · rw [kept.2, VmChange.apply_status]
        intro pending vmid vmidMem notBusy
        refine before.absent (moved.advance.pending_of_pending pending) vmid vmidMem ?_
        intro wasBusy
        rcases stored vmid wasBusy with isBusy | ⟨_, notPending⟩
        · exact notBusy isBusy
        · exact notPending pending
      · rw [kept.2, VmChange.apply_status]
        intro live
        rcases moved.advance.live_of_live moved.status live with wasLive | atClone | atClone
        · exact before.present wasLive
        · exact cloned (.inl atClone)
        · exact cloned (.inr atClone)
  · have before := undisturbed.vms other otherMem
    refine ⟨before.image, before.storage, before.placement, ?_, before.present⟩
    intro pending vmid vmidMem notBusy
    refine before.absent pending vmid vmidMem ?_
    intro wasBusy
    rcases stored vmid wasBusy with isBusy | ⟨isVm, _⟩
    · exact notBusy isBusy
    · rcases Database.eq_of_providerVmid otherMem moved.vmMem vmidMem isVm with rfl
      exact differs (change.apply_id other).symm

/-- The operations after a move. -/
theorem Deployment.Undisturbed.rows_of_moved (undisturbed : state.Undisturbed adapter)
    (moved : Moved state.world.db next evidence operation updated vm position reached change)
    {flights : List Flight}
    (own : ∀ flight ∈ state.world.inFlight, flight.dispatch.operationId = operation.id)
    (reaches : reached.Undisturbed ∨ ∃ stage, reached = .dispatching stage ∧
      ∃ flight ∈ flights, flight.dispatch.operationId = operation.id) :
    ∀ other ∈ next.operations, ∃ position : Position, position.Matches other ∧
      (position.Undisturbed ∨ ∃ stage, position = .dispatching stage ∧
        ∃ flight ∈ flights, flight.dispatch.operationId = other.id) := by
  intro other otherMem
  rw [moved.operations, KeyedRows.mem_replace] at otherMem
  rcases otherMem with ⟨rfl, _⟩ | ⟨otherMem, differs⟩
  · rw [moved.identity.id]
    exact ⟨reached, moved.atReached, reaches⟩
  · rcases undisturbed.rows other otherMem with
      ⟨current, atOther, rests | ⟨_, _, flight, inFlight, same⟩⟩
    · exact ⟨current, atOther, .inl rests⟩
    · rw [own flight inFlight, ← moved.identity.id] at same
      exact absurd same.symm differs

/-- A transaction of the worker keeps the invariant. -/
theorem Deployment.Undisturbed.of_moved (undisturbed : state.Undisturbed adapter)
    (moved : Moved state.world.db next evidence operation updated vm position reached change)
    {flights : List Flight} (sound : World.Sound ⟨next, flights⟩)
    (chosen : ∀ target, evidence = .placed target → vm.providerVmid = none ∧
      target.node = adapter.targetNode ∧ 0 < target.vmid ∧ state.hosting.Free target.vmid)
    (cloned : position = .dispatching .clone ∨ position = .reconciling .clone →
      ∀ vmid ∈ vm.providerVmid, state.hosting.Holds vmid)
    (stored : ∀ vmid ∈ state.world.busyVmids, vmid ∈ World.busyVmids ⟨next, flights⟩ ∨
      vm.providerVmid = some vmid ∧ change.newStatus vm.status ≠ .pending)
    (own : ∀ flight ∈ state.world.inFlight, flight.dispatch.operationId = operation.id)
    (reaches : reached.Undisturbed ∨ ∃ stage, reached = .dispatching stage ∧
      ∃ flight ∈ flights, flight.dispatch.operationId = operation.id)
    (alone : flights.length ≤ 1) (kept : ∀ flight ∈ flights, flight.Undisturbed state.hosting next)
    (clock : Time) : Deployment.Undisturbed adapter ⟨⟨next, flights⟩, state.hosting, clock⟩ where
  sound := sound
  known vmid notFree := by
    have before := undisturbed.known vmid notFree
    by_cases places : ∃ target, evidence = .placed target
    · rcases places with ⟨target, rfl⟩
      exact (moved.mem_providerVmids (chosen target rfl).1 vmid).mpr (.inl before)
    · rw [moved.providerVmids_eq (not_exists.mp places)]
      exact before
  vms := undisturbed.hosted_of_moved moved chosen cloned stored
  alone := alone
  flights := kept
  rows := undisturbed.rows_of_moved moved own reaches

/-- A selecting transaction keeps the invariant. -/
theorem Deployment.Undisturbed.selected (undisturbed : state.Undisturbed adapter)
    {now stamp dbNow : Time} {server : HttpServer} {committed : Operation}
    {exchanges : List Exchange} {world : World} (alone : state.world.inFlight = [])
    (selects : Selects now [] state.world.db operation)
    (ran : state.world.selectStep operation (adapter.provider server) stamp dbNow =
      (.selected operation exchanges (some committed), world))
    (returned : ∀ exchange ∈ exchanges, exchange.answer.isOk = true) (sound : world.Sound)
    (clock : Time) :
    Deployment.Undisturbed adapter { world, clock
                                     hosting := state.hosting.after (adapter.made server
                                       (.selected operation exchanges (some committed))) } := by
  rcases undisturbed.sound.db.ready selects.stored with ⟨position, vm, atPosition, _, _, prepared⟩
  have processed := atPosition.processed_of_eligible selects.eligible
  rcases undisturbed.rows operation selects.stored with ⟨current, atCurrent, waits⟩
  rcases atPosition.unique atCurrent with rfl
  have rests : position.Undisturbed := by
    rcases waits with rests | ⟨_, _, flight, inFlight, _⟩
    · exact rests
    · simp [alone] at inFlight
  have notBusy : state.world.busyVmids = [] := by simp [World.busyVmids, alone]
  -- Nothing but reads is made before the commit.
  have reads : (∀ exchange ∈ exchanges, ¬exchange.call.Mutates) →
      state.hosting.after (adapter.made server (.selected operation exchanges (some committed))) =
        state.hosting :=
    fun harmless => Hosting.after_of_reads (HttpProxmoxAdapter.made_reads harmless)
  cases rests with
  | pending stage =>
      rcases prepared id with ⟨ready, status⟩
      rcases ready.placement with ⟨target, node, vmid⟩ | ⟨atClone, noNode, noVmid⟩
      · rcases World.selectStep_pending selects.stored ready status atPosition
          ⟨ready.vmStored, node, vmid⟩ (adapter.provider server) stamp dbNow with
          ⟨marked, row, request, computed, moved, carries⟩
        rw [ran] at computed
        cases computed
        rw [reads (by simp)]
        refine undisturbed.of_moved moved sound ?_ ?_ ?_ ?_ ?_ ?_ ?_ clock
        · intro _ same
          cases same
        · rintro (same | same) <;> cases same
        · simp [notBusy]
        · simp [alone]
        · exact .inr ⟨stage, rfl, _, List.mem_append_right _ (List.mem_singleton_self _),
            stage.dispatch_operationId _ _ _⟩
        · simp [alone]
        · intro flight flightMem
          rw [alone, List.nil_append, List.mem_singleton] at flightMem
          rw [flightMem]
          exact .submitting carries
      · cases atClone
        rcases World.selectStep_unplaced selects.stored ready atPosition noVmid
          (adapter.provider server) stamp dbNow with ⟨request, computed⟩
        rw [ran] at computed
        cases answered : adapter.provider server 0 (.chooseCloneTarget request) with
        | error error =>
            rw [answered] at computed
            cases computed
        | ok target =>
            rw [answered] at computed
            simp only at computed
            split at computed
            · cases computed
            · rename_i next flushed
              cases computed
              rcases moved_of_flush selects.stored ready status atPosition
                (placed_refines target atPosition) (fun marked => by cases marked) flushed with
                ⟨change, moved⟩
              have fresh := ((Database.placement_flush_iff dbNow selects.stored moved.vmMem
                noVmid).mp ⟨next, flushed⟩).1
              have free : state.hosting.Free target.vmid :=
                by_contra fun used => fresh (undisturbed.known target.vmid used)
              rcases HttpProxmoxAdapter.chooseCloneTarget_returned
                (HttpProxmoxAdapter.returned_of_provider answered) with ⟨onNode, positive⟩
              rw [reads (by simp [AdapterCall.Mutates])]
              refine undisturbed.of_moved moved sound ?_ ?_ ?_ ?_ ?_ ?_ ?_ clock
              · rintro other ⟨⟩
                exact ⟨noVmid, onNode, positive, free⟩
              · rintro (same | same) <;> cases same
              · simp [notBusy]
              · simp [alone]
              · exact .inl (.pending .clone)
              · simp [alone]
              · simp [alone]
  | polling stage =>
      rcases prepared id with ⟨ready, status⟩
      rcases World.selectStep_polling selects.stored ready status atPosition
        (adapter.provider server) stamp dbNow with ⟨task, written, next, computed, _, moves⟩
      rw [ran] at computed
      cases computed
      rcases moves committed rfl with ⟨reached, change, moved⟩
      have isOk := returned _ (List.mem_singleton_self _)
      rw [reads (by simp [AdapterCall.Mutates])]
      refine undisturbed.of_moved moved sound ?_ ?_ ?_ ?_ ?_ ?_ ?_ clock
      · intro _ same
        cases same
      · rintro (same | same) <;> cases same
      · simp [notBusy]
      · simp [alone]
      · exact .inl (moved.advance.undisturbed_of_polled isOk)
      · simp [alone]
      · simp [alone]
  | succeeded operationType => exact False.elim processed
  | failed stage => exact False.elim processed

/-- A storing transaction keeps the invariant. -/
theorem Deployment.Undisturbed.stored (undisturbed : state.Undisturbed adapter)
    {stamp dbNow : Time} {dispatch : Dispatch} {outcome : Except Error ProviderResult}
    (storing : state.world.inFlight[0]? = some (.storing dispatch outcome))
    (committed : World.storeDatabase state.world.db dispatch outcome stamp dbNow = some next)
    (sound : World.Sound ⟨next, state.world.inFlight.eraseIdx 0⟩) (clock : Time) :
    Deployment.Undisturbed adapter
      { state with clock, world := ⟨next, state.world.inFlight.eraseIdx 0⟩ } := by
  have isOnly := World.eq_singleton undisturbed.alone storing
  have nothingLeft : state.world.inFlight.eraseIdx 0 = [] := by simp [isOnly]
  rw [nothingLeft] at sound ⊢
  cases undisturbed.flights _ (List.mem_of_getElem? storing) with
  | @storing _ row vm stage target request result carries accepts _ cloned =>
      rcases carries.exists_moved undisturbed.sound.db committed with
        ⟨updated, reached, change, moved⟩
      refine undisturbed.of_moved moved sound ?_ ?_ ?_ ?_ ?_ ?_ ?_ clock
      · intro _ same
        cases same
      · rintro (same | same) <;> cases same
        intro vmid vmidMem
        rw [Option.some.inj (vmidMem.symm.trans carries.placed.vmid)]
        exact cloned rfl
      · intro vmid busy
        have isTarget : vmid = target.vmid := by
          simpa [World.busyVmids, isOnly, carries.dispatch_target] using busy
        subst isTarget
        refine .inr ⟨carries.placed.vmid, ?_⟩
        intro pending
        have wasPending := moved.advance.pending_of_pending pending
        have status := moved.status
        rw [wasPending] at status
        rcases moved.advance.of_accepts accepts with ⟨_, rfl⟩ | ⟨_, _, notClone⟩
        · cases stage <;> simp_all [Position.vmStatuses, Stage.waitStatus, Stage.taskChange,
            VmChange.newStatus]
        · cases stage <;> simp_all [Position.vmStatuses, Stage.waitStatus]
      · simp [isOnly, Flight.dispatch, carries.operationId]
      · rcases moved.advance.of_accepts accepts with ⟨rfl, _⟩ | ⟨rfl, _⟩
        · exact .inl (.polling stage)
        · exact .inl stage.after_undisturbed
      · simp
      · simp

section Submitting

variable {server : HttpServer} {dispatch : Dispatch} {row : Operation} {stage : Stage}
  {target : ProviderPlacement} {request : Option CreateVmRequest} {built : CreateVmRequest}

/-- The requests of the command of a stage. -/
def Stage.exchanges (adapter : HttpProxmoxAdapter) (server : HttpServer) (stage : Stage)
    (vmId : Uuid) (built : CreateVmRequest) (target : ProviderPlacement) : List HttpExchange :=
  (Program.run server 0 (adapter.perform (stage.command vmId built target))).1

/-- A submission which returned has called the command of its stage, for its VM. -/
theorem Carries.exists_called {db : Database}
    (carries : Carries db dispatch row vm stage target request) {exchanges : List Exchange}
    {result : ProviderResult}
    (ran : Program.run (adapter.provider server) 0 dispatch.submit = (exchanges, .ok result)) :
    ∃ built value,
      exchanges = [⟨stage.command row.virtualMachineId built target, .ok value⟩] ∧
      result = (stage.command row.virtualMachineId built target).result value ∧
      (Program.run server 0
        (adapter.perform (stage.command row.virtualMachineId built target))).2 = .ok value ∧
      adapter.made server (.submitted dispatch exchanges (.ok result)) =
        stage.exchanges adapter server row.virtualMachineId built target := by
  rcases carries.submit_eq with ⟨built, _, submits⟩
  rw [submits, Program.run_call, Program.run_done] at ran
  cases answered : adapter.provider server 0
      (stage.command row.virtualMachineId built target) with
  | error error =>
      rw [answered] at ran
      cases ran
  | ok value =>
      rw [answered] at ran
      cases ran
      refine ⟨built, value, rfl, rfl, HttpProxmoxAdapter.returned_of_provider answered, ?_⟩
      simp [HttpProxmoxAdapter.made, Event.exchanges, Stage.exchanges]

theorem Stage.ne_of_exchanges {vmId : Uuid} {vmid : ℤ} (other : vmid ≠ target.vmid) :
    ∀ exchange ∈ stage.exchanges adapter server vmId built target,
      exchange.call.cloned? ≠ some vmid ∧ exchange.call.deleted? ≠ some vmid :=
  fun _ made => ⟨fun cloned => other ((Stage.made_own made).1 cloned).2,
    fun deleted => other ((Stage.made_own made).2 deleted).2⟩

theorem Stage.not_deleted_of_ne {vmId : Uuid} (notDelete : stage ≠ .delete) {vmid : ℤ} :
    ∀ exchange ∈ stage.exchanges adapter server vmId built target,
      exchange.call.deleted? ≠ some vmid :=
  fun _ made deleted => notDelete ((Stage.made_own made).2 deleted).1

/-- The command uses no VMID but the one of its VM. -/
theorem Deployment.Undisturbed.known_after (undisturbed : state.Undisturbed adapter)
    (carries : Carries state.world.db dispatch row vm stage target request) {vmid : ℤ}
    (notFree : ¬(state.hosting.after
      (stage.exchanges adapter server row.virtualMachineId built target)).Free vmid) :
    vmid ∈ state.world.db.providerVmids := by
  by_contra unknown
  have free : state.hosting.Free vmid := by_contra fun used => unknown (undisturbed.known vmid used)
  refine notFree (free.after (Stage.ne_of_exchanges ?_))
  rintro rfl
  exact unknown carries.vmid_mem

/-- The VMs while the outcome of the command is to be stored. -/
theorem Deployment.Undisturbed.hosted_after (undisturbed : state.Undisturbed adapter)
    (carries : Carries state.world.db dispatch row vm stage target request)
    (notBusy : state.world.busyVmids = []) :
    ∀ other ∈ state.world.db.virtualMachines, other.Hosted adapter (state.hosting.after
      (stage.exchanges adapter server row.virtualMachineId built target)) [target.vmid] := by
  intro other otherMem
  have before := undisturbed.vms other otherMem
  have status := carries.status undisturbed.sound.db
  have vmMem := (Database.virtualMachine?_eq_some_iff.mp carries.placed.vmStored).1
  refine ⟨before.image, before.storage, before.placement, ?_, ?_⟩
  · intro pending vmid vmidMem free
    have differs : vmid ≠ target.vmid := by simpa using free
    refine (before.absent pending vmid vmidMem ?_).after (Stage.ne_of_exchanges differs)
    simp [notBusy]
  · intro live vmid vmidMem
    refine (before.present live vmid vmidMem).after ?_
    intro exchange made deleted
    rcases (Stage.made_own made).2 deleted with ⟨rfl, rfl⟩
    -- A VM that is being deleted is not live.
    rcases Database.eq_of_providerVmid otherMem vmMem vmidMem carries.placed.vmid with rfl
    rw [show other.status = .deleting from List.mem_singleton.mp status] at live
    cases live

/-- The outcome of the command is accepted, and a clone was requested. -/
theorem Deployment.Undisturbed.flight_after (undisturbed : state.Undisturbed adapter)
    (carries : Carries state.world.db dispatch row vm stage target request)
    (notBusy : state.world.busyVmids = [])
    {value : (stage.command row.virtualMachineId built target).Answer}
    (returned : (Program.run server 0
      (adapter.perform (stage.command row.virtualMachineId built target))).2 = .ok value)
    (fits : (Evidence.outcome
      (.ok ((stage.command row.virtualMachineId built target).result value))).Fits)
    (shows : ∀ exchange ∈ stage.exchanges adapter server row.virtualMachineId built target,
      state.hosting.Shows state.world.db.providerVmids exchange)
    (unlocked : stage = .delete → ∀ exchange ∈
      stage.exchanges adapter server row.virtualMachineId built target,
        exchange.call = resourcesRequest → ¬ReportsLock target.node target.vmid exchange) :
    Flight.Undisturbed (state.hosting.after
      (stage.exchanges adapter server row.virtualMachineId built target)) state.world.db
      (.storing dispatch
        (.ok ((stage.command row.virtualMachineId built target).result value))) := by
  by_cases isClone : stage = .clone
  · subst isClone
    have vmMem := (Database.virtualMachine?_eq_some_iff.mp carries.placed.vmStored).1
    have status := carries.status undisturbed.sound.db
    have free := (undisturbed.vms vm vmMem).absent (List.mem_singleton.mp status) target.vmid
      carries.placed.vmid (by simp [notBusy])
    rcases Stage.clone_accepts free carries.vmid_mem shows returned with ⟨accepts, sent⟩
    exact .storing carries accepts fits fun _ =>
      free.holds_after sent (Stage.not_deleted_of_ne (by simp))
  · rcases Stage.accepts_of_returned isClone returned with
      accepts | ⟨isDelete, exchange, made, isListing, locked⟩
    · exact .storing carries accepts fits fun same => absurd same isClone
    · exact absurd locked (unlocked isDelete exchange made isListing)

/-- A call of the adapter that met no lock keeps the invariant. -/
theorem Deployment.Undisturbed.submitted (undisturbed : state.Undisturbed adapter)
    {exchanges : List Exchange} {result : ProviderResult}
    (submitting : state.world.inFlight[0]? = some (.submitting dispatch))
    (ran : Program.run (adapter.provider server) 0 dispatch.submit = (exchanges, .ok result))
    (fits : (Evidence.outcome (.ok result)).Fits)
    (shows : ∀ exchange ∈ adapter.made server (.submitted dispatch exchanges (.ok result)),
      state.hosting.Shows state.world.db.providerVmids exchange)
    (unlocked : ¬DeploymentEvent.LockedDelete (.portal (.submitted dispatch exchanges (.ok result))
      (adapter.made server (.submitted dispatch exchanges (.ok result)))))
    (sound : World.Sound { state.world with
      inFlight := state.world.inFlight.set 0 (.storing dispatch (.ok result)) }) (clock : Time) :
    Deployment.Undisturbed adapter
      { clock
        world := { state.world with
          inFlight := state.world.inFlight.set 0 (.storing dispatch (.ok result)) }
        hosting := state.hosting.after
          (adapter.made server (.submitted dispatch exchanges (.ok result))) } := by
  have isOnly := World.eq_singleton undisturbed.alone submitting
  have notBusy : state.world.busyVmids = [] := by simp [World.busyVmids, isOnly]
  have flights : state.world.inFlight.set 0 (.storing dispatch (.ok result)) =
      [.storing dispatch (.ok result)] := by simp [isOnly]
  rw [flights] at sound ⊢
  cases undisturbed.flights _ (List.mem_of_getElem? submitting) with
  | @submitting _ row vm stage target request carries =>
      rcases carries.exists_called ran with ⟨built, value, rfl, rfl, returned, isMade⟩
      rw [isMade] at shows unlocked ⊢
      refine ⟨sound, fun vmid => undisturbed.known_after carries, ?_, by simp, ?_, ?_⟩
      · have busy : World.busyVmids ⟨state.world.db, [.storing dispatch
            (.ok ((stage.command row.virtualMachineId built target).result value))]⟩ =
            [target.vmid] := by simp [World.busyVmids, carries.dispatch_target]
        rw [busy]
        exact undisturbed.hosted_after carries notBusy
      · intro flight flightMem
        rw [List.mem_singleton.mp flightMem]
        refine undisturbed.flight_after carries notBusy returned fits shows ?_
        rintro rfl exchange made isListing locked
        exact unlocked ⟨_, target.node, target.vmid, ⟨_, List.mem_singleton_self _⟩,
          exchange, made, isListing, locked⟩
      · intro operation operationMem
        rcases undisturbed.rows operation operationMem with
          ⟨position, atPosition, rests | ⟨marked, isMarked, flight, inFlight, same⟩⟩
        · exact ⟨position, atPosition, .inl rests⟩
        · rw [isOnly, List.mem_singleton] at inFlight
          rw [inFlight] at same
          exact ⟨position, atPosition, .inr ⟨marked, isMarked, _, List.mem_singleton_self _, same⟩⟩

end Submitting

/-- The provider works through the requests it was sent. -/
theorem Deployment.Undisturbed.provided (undisturbed : state.Undisturbed adapter)
    {hosting : Hosting} (free : ∀ vmid, state.hosting.Free vmid → hosting.Free vmid)
    (holds : ∀ vmid, state.hosting.Holds vmid → hosting.Holds vmid) :
    Deployment.Undisturbed adapter { state with hosting } where
  sound := undisturbed.sound
  known vmid notFree := undisturbed.known vmid fun isFree => notFree (free vmid isFree)
  vms vm vmMem := by
    have before := undisturbed.vms vm vmMem
    refine ⟨before.image, before.storage, before.placement, ?_, ?_⟩
    · intro pending vmid vmidMem notBusy
      exact free vmid (before.absent pending vmid vmidMem notBusy)
    · intro live vmid vmidMem
      exact holds vmid (before.present live vmid vmidMem)
  alone := undisturbed.alone
  flights flight flightMem := by
    cases undisturbed.flights flight flightMem with
    | submitting carries => exact .submitting carries
    | storing carries accepts fits cloned =>
        exact .storing carries accepts fits fun isClone => holds _ (cloned isClone)
  rows := undisturbed.rows

end Worker

/-! ## Whole runs -/

section Steps

variable {adapter : HttpProxmoxAdapter} {state next : Deployment} {label : DeploymentEvent}

/-- A step in which no deletion meets a lock keeps the invariant. -/
theorem Deployment.Undisturbed.step (undisturbed : state.Undisturbed adapter)
    (progress : state.Progress adapter label next) (unlocked : ¬label.LockedDelete) :
    next.Undisturbed adapter := by
  have sound : next.world.Sound := by
    cases label with
    | portal event made =>
        exact (NpdPortal.step_progress undisturbed.sound progress.portal_step).sound
          undisturbed.sound
    | created vmid =>
        cases progress
        exact undisturbed.sound
    | removed vmid =>
        cases progress
        exact undisturbed.sound
  cases progress with
  | requested action event world clock isRequest step =>
      exact undisturbed.served (World.serves_of_request isRequest step) sound clock
  | selected now stamp dbNow clock server operation committed exchanges world alone selects ran
      returned shows =>
      cases committed with
      | none =>
          have own : state.Progress adapter _ _ := .selected now stamp dbNow clock server operation
            none exchanges world alone selects ran returned shows
          rw [own.eq_of_aborted undisturbed.sound]
          exact undisturbed.served (.refl _) undisturbed.sound clock
      | some committed => exact undisturbed.selected alone selects ran returned sound clock
  | submitted clock server dispatch exchanges result submitting ran fits shows =>
      exact undisturbed.submitted submitting ran fits shows unlocked sound clock
  | stored stamp dbNow clock dispatch outcome db storing committed =>
      exact undisturbed.stored storing committed sound clock
  | created vmid cloning =>
      exact undisturbed.provided (fun _ free => free.create cloning)
        fun _ holds => holds.create vmid
  | removed vmid existing deleting =>
      exact undisturbed.provided (fun _ free => free.remove vmid) fun _ holds =>
        holds.remove deleting

theorem Deployment.undisturbed_of_initial (isInitial : (deployment adapter).initial state) :
    state.Undisturbed adapter := by
  rcases isInitial with ⟨world, hosting⟩
  refine ⟨?_, ?_, ?_, ?_, ?_, ?_⟩ <;> rw [world]
  · exact World.initial_sound
  · intro vmid notFree
    rw [hosting] at notFree
    exact absurd ⟨by simp [Hosting.empty], by simp [Hosting.empty], by simp [Hosting.empty]⟩ notFree
  · exact fun vm vmMem => absurd vmMem List.not_mem_nil
  · exact Nat.zero_le 1
  · exact fun flight flightMem => absurd flightMem List.not_mem_nil
  · exact fun operation operationMem => absurd operationMem List.not_mem_nil

/-- A worker no deletion of which met a lock was never disturbed. -/
theorem Deployment.undisturbed_of_execution {history : List DeploymentEvent}
    (execution : (deployment adapter).Execution history state)
    (unlocked : ∀ event ∈ history, ¬event.LockedDelete) : state.Undisturbed adapter := by
  revert unlocked
  refine execution.invariant (motive := fun history state =>
    (∀ event ∈ history, ¬event.LockedDelete) → state.Undisturbed adapter) ?_ ?_
  · exact fun state isInitial _ => undisturbed_of_initial isInitial
  · intro earlier before label after _ ih step unlocked
    have undisturbed := ih fun event eventMem => unlocked event (List.mem_append_left _ eventMem)
    exact undisturbed.step (step_progress step)
      (unlocked label (List.mem_append_right _ (List.mem_singleton_self label)))

end Steps

end NpdPortal
