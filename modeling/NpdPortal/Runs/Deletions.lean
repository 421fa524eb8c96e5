import NpdPortal.Proxmox.Unlocked
import NpdPortal.Runs.Undisturbed

/-!
# Deletions and the provider

Whatever locks the worker meets, the provider is asked to delete only what
belongs to a VM that is being deleted.  A deletion which the adapter has not
sent leaves the VM where it is until its outcome is stored.
-/

namespace NpdPortal

open PyJson ProxmoxClient

/-- The VM is being deleted, or it is deleted. -/
def VmStatus.Leaving (status : VmStatus) : Prop := status = .deleting ∨ status = .deleted

/-- What holds of the worker between its transactions, whatever locks it has met. -/
inductive Flight.Careful (hosting : Hosting) (db : Database) : Flight → Prop where
  | submitting {dispatch : Dispatch} {row : Operation} {vm : VirtualMachine} {stage : Stage}
      {target : ProviderPlacement} {request : Option CreateVmRequest}
      (carries : Carries db dispatch row vm stage target request)
      (kept : target.vmid ∉ hosting.deleting) : Careful hosting db (.submitting dispatch)
  | storing {dispatch : Dispatch} {row : Operation} {vm : VirtualMachine} {stage : Stage}
      {target : ProviderPlacement} {request : Option CreateVmRequest} {result : ProviderResult}
      (carries : Carries db dispatch row vm stage target request)
      (notSent : result = .delete { state := .inProgress } →
        target.vmid ∈ hosting.existing ∧ target.vmid ∉ hosting.deleting) :
      Careful hosting db (.storing dispatch (.ok result))

/-- The invariant of the deletions of a deployment. -/
structure Deployment.Careful (state : Deployment) : Prop where
  deleting : ∀ vmid ∈ state.hosting.deleting, ∃ vm ∈ state.world.db.virtualMachines,
    vm.providerVmid = some vmid ∧ vm.status.Leaving
  alone : state.world.inFlight.length ≤ 1
  flights : ∀ flight ∈ state.world.inFlight, flight.Careful state.hosting state.world.db

/-- A VM that is leaving does not come back. -/
theorem Advance.leaving_of_leaving {evidence : Evidence} {position reached : Position}
    {change : VmChange} {status : VmStatus} (advance : Advance evidence position reached change)
    (before : status ∈ position.vmStatuses) (leaving : status.Leaving) :
    (change.newStatus status).Leaving := by
  cases advance with
  | mark stage =>
      cases stage <;> simp_all [Position.vmStatuses, Stage.waitStatus, VmStatus.Leaving]
  | confirmed stage position state awaits =>
      rcases awaits with rfl | rfl <;> cases stage <;> rcases leaving with rfl | rfl <;>
        simp_all [Position.vmStatuses, Stage.waitStatus, VmStatus.Leaving, Stage.doneChange,
          Stage.doneStatus, VmChange.newStatus]
  | storeTask stage position result task carries waiting =>
      rcases waiting with rfl | ⟨rfl, late⟩ <;> cases stage <;> rcases leaving with rfl | rfl <;>
        simp_all [Position.vmStatuses, Stage.waitStatus, VmStatus.Leaving, Stage.taskChange,
          VmChange.newStatus]
  | storeDone stage result done =>
      cases stage <;> simp_all [Position.vmStatuses, Stage.waitStatus, VmStatus.Leaving,
        Stage.doneChange, Stage.doneStatus, VmChange.newStatus]
  | storeInProgress stage result inProgress =>
      cases stage <;> simp_all [Position.vmStatuses, Stage.waitStatus, VmStatus.Leaving,
        Stage.taskChange, VmChange.newStatus]
  | pollSucceeded stage backoff answer succeeded =>
      cases stage <;> simp_all [Position.vmStatuses, Stage.waitStatus, VmStatus.Leaving,
        Stage.pollChange, Stage.doneChange, Stage.doneStatus, VmChange.newStatus]
  | pollFailed stage backoff answer failed =>
      cases stage <;> simp_all [Position.vmStatuses, Stage.waitStatus, VmStatus.Leaving,
        Stage.failChange, Stage.operationType, VmChange.newStatus]
  | _ => exact leaving

/-- A pending operation is not one of a VM that is leaving. -/
theorem Stage.not_leaving_of_pending {stage : Stage} {status : VmStatus}
    (waits : status ∈ (Position.pending stage).vmStatuses) : ¬status.Leaving := by
  cases stage <;> simp_all [Position.vmStatuses, Stage.waitStatus, VmStatus.Leaving]

section Steps

variable {adapter : HttpProxmoxAdapter} {state next : Deployment} {label : DeploymentEvent}
  {evidence : Evidence} {operation updated : Operation} {vm : VirtualMachine}
  {position reached : Position} {change : VmChange}

/-- The VMs whose deletion was requested, after a move. -/
theorem Deployment.Careful.deleting_of_moved (careful : state.Careful) {db : Database}
    (moved : Moved state.world.db db evidence operation updated vm position reached change) :
    ∀ vmid ∈ state.hosting.deleting, ∃ vm ∈ db.virtualMachines,
      vm.providerVmid = some vmid ∧ vm.status.Leaving := by
  intro vmid deleting
  rcases careful.deleting vmid deleting with ⟨other, otherMem, isVmid, leaving⟩
  by_cases same : other.id = vm.id
  · rcases KeyedRows.eq_of_key_eq state.world.db.valid.vmIds otherMem moved.vmMem same with rfl
    refine ⟨change.apply other, ?_, ?_, ?_⟩
    · rw [moved.virtualMachines, KeyedRows.mem_replace]
      exact .inl ⟨rfl, other, otherMem, (change.apply_id other).symm⟩
    · by_cases places : ∃ target, evidence = .placed target
      · -- Only a VM that is to be created is placed.
        rcases places with ⟨target, rfl⟩
        have status := moved.status
        have advance := moved.advance
        cases advance
        exact absurd leaving (Stage.not_leaving_of_pending status)
      · cases change with
        | place target => exact absurd rfl (moved.advance.ne_place (not_exists.mp places) target)
        | _ => exact isVmid
    · rw [VmChange.apply_status]
      exact moved.advance.leaving_of_leaving moved.status leaving
  · refine ⟨other, ?_, isVmid, leaving⟩
    rw [moved.virtualMachines, KeyedRows.mem_replace, change.apply_id]
    exact .inr ⟨otherMem, same⟩

/-- A request leaves the worker alone. -/
theorem Deployment.Careful.served (careful : state.Careful) {world : World}
    (serves : state.world.Serves world) (clock : Time) :
    Deployment.Careful { state with world, clock } where
  deleting vmid deleting := by
    rcases careful.deleting vmid deleting with ⟨vm, stored, isVmid, leaving⟩
    rcases serves.virtualMachines with ⟨_, vms, _⟩
    refine ⟨vm, ?_, isVmid, leaving⟩
    rw [vms]
    exact List.mem_append_left _ stored
  alone := by
    rw [serves.inFlight]
    exact careful.alone
  flights flight inFlight := by
    rw [serves.inFlight] at inFlight
    cases careful.flights flight inFlight with
    | submitting carries kept => exact .submitting (serves.carries carries) kept
    | storing carries notSent => exact .storing (serves.carries carries) notSent

/-- A marked deletion is one of a VM whose deletion was not requested. -/
theorem Deployment.Careful.not_deleting_of_pending (careful : state.Careful) {stage : Stage}
    {target : ProviderPlacement} (stored : vm ∈ state.world.db.virtualMachines)
    (isVmid : vm.providerVmid = some target.vmid)
    (waits : vm.status ∈ (Position.pending stage).vmStatuses) :
    target.vmid ∉ state.hosting.deleting := by
  intro deleting
  rcases careful.deleting target.vmid deleting with ⟨other, otherMem, sameVmid, leaving⟩
  rcases Database.eq_of_providerVmid otherMem stored sameVmid isVmid with rfl
  exact Stage.not_leaving_of_pending waits leaving

/-- A selecting transaction keeps the invariant. -/
theorem Deployment.Careful.selected (careful : state.Careful) (sound : state.world.Sound)
    {stamp dbNow clock : Time} {server : HttpServer} {row : Operation}
    {exchanges : List Exchange} {world : World} {made : List HttpExchange}
    (alone : state.world.inFlight = [])
    (ran : state.world.selectStep operation (adapter.provider server) stamp dbNow =
      (.selected operation exchanges (some row), world))
    (step : portal.step state.world (.selected operation exchanges (some row)) world)
    (kept : state.hosting.after made = state.hosting) :
    Deployment.Careful { world, clock, hosting := state.hosting.after made } := by
  rw [kept]
  have progress := NpdPortal.step_progress sound step
  generalize isNext : world = later at progress
  cases progress with
  | marked db _ _ vm stage request target moved =>
      rcases moved.ready.placement with ⟨target, node, vmid⟩ | ⟨atClone, _, noVmid⟩
      · have placed : Placed state.world.db operation vm target :=
          ⟨moved.ready.vmStored, node, vmid⟩
        rcases World.selectStep_pending moved.stored moved.ready moved.status moved.atPosition
          placed (adapter.provider server) stamp dbNow with
          ⟨marked, row, request, computed, moved, carries⟩
        rw [← isNext, (Prod.mk.inj (ran.symm.trans computed)).2]
        refine ⟨careful.deleting_of_moved moved, by simp [alone], ?_⟩
        intro flight inFlight
        rw [alone, List.nil_append, List.mem_singleton] at inFlight
        rw [inFlight]
        exact .submitting carries
          (careful.not_deleting_of_pending moved.vmMem vmid moved.status)
      · cases atClone
        rcases World.selectStep_unplaced moved.stored moved.ready moved.atPosition noVmid
          (adapter.provider server) stamp dbNow with ⟨request, computed⟩
        rw [ran] at computed
        repeat' split at computed
        all_goals cases computed
  | followed db _ _ vm position reached change evidence _ shows unmarked moved =>
      subst isNext
      refine ⟨careful.deleting_of_moved moved, careful.alone, ?_⟩
      simp [alone]

section Submitting

variable {server : HttpServer} {dispatch : Dispatch} {row : Operation} {stage : Stage}
  {target : ProviderPlacement} {request : Option CreateVmRequest} {built : CreateVmRequest}

/-- A deletion that was not sent has found the VM, and requests nothing. -/
theorem Deployment.Careful.notSent_after
    (carries : Carries state.world.db dispatch row vm stage target request)
    (kept : target.vmid ∉ state.hosting.deleting)
    {value : (stage.command row.virtualMachineId built target).Answer}
    (returned : (Program.run server 0
      (adapter.perform (stage.command row.virtualMachineId built target))).2 = .ok value)
    (shows : ∀ exchange ∈ stage.exchanges adapter server row.virtualMachineId built target,
      state.hosting.Shows state.world.db.providerVmids exchange)
    (notSent : (stage.command row.virtualMachineId built target).result value =
      .delete { state := .inProgress }) :
    target.vmid ∈ state.hosting.existing ∧ target.vmid ∉ (state.hosting.after
      (stage.exchanges adapter server row.virtualMachineId built target)).deleting := by
  cases stage <;> simp only [Stage.command, AdapterCall.result, reduceCtorEq] at notSent
  case delete =>
    rcases ProviderResult.delete.inj notSent with rfl
    have reads : ∀ exchange ∈
        Stage.delete.exchanges adapter server row.virtualMachineId built target,
        ¬exchange.call.Mutates := fun exchange made =>
      adapter.not_mutates_of_inProgress returned rfl made
    rw [Hosting.after_of_reads reads]
    refine ⟨?_, kept⟩
    rcases HttpProxmoxAdapter.delete_returned returned with same | ⟨_, same⟩ | ⟨_, found⟩
    · cases same
    · cases same
    · rcases found with ⟨exchange, made, isListing, body, answered, listed | ⟨isStatus, _⟩⟩
      · rcases listed with ⟨_, resources, resource, lists, resourceMem, isVmid, _⟩
        have shown := shows exchange made
        simp only [Hosting.Shows, answered, ok_bind, lists.listedIn_eq] at shown
        have present := shown isListing target.vmid carries.vmid_mem
        rw [List.any_eq_true.mpr ⟨resource, resourceMem, isVmid⟩] at present
        exact of_decide_eq_true present.symm
      · rw [isListing] at isStatus
        simp [resourcesRequest, statusRequest] at isStatus

/-- A call of the adapter keeps the invariant. -/
theorem Deployment.Careful.submitted (careful : state.Careful) (sound : state.world.Sound)
    {exchanges : List Exchange} {result : ProviderResult}
    (submitting : state.world.inFlight[0]? = some (.submitting dispatch))
    (ran : Program.run (adapter.provider server) 0 dispatch.submit = (exchanges, .ok result))
    (shows : ∀ exchange ∈ adapter.made server (.submitted dispatch exchanges (.ok result)),
      state.hosting.Shows state.world.db.providerVmids exchange) (clock : Time) :
    Deployment.Careful
      { clock
        world := { state.world with
          inFlight := state.world.inFlight.set 0 (.storing dispatch (.ok result)) }
        hosting := state.hosting.after
          (adapter.made server (.submitted dispatch exchanges (.ok result))) } := by
  have isOnly := World.eq_singleton careful.alone submitting
  cases careful.flights _ (List.mem_of_getElem? submitting) with
  | @submitting _ row vm stage target request carries kept =>
      rcases carries.exists_called ran with ⟨built, value, rfl, rfl, returned, isMade⟩
      rw [isMade] at shows ⊢
      refine ⟨?_, by simp [isOnly], ?_⟩
      · intro vmid deleting
        rcases Hosting.mem_after_deleting.mp deleting with before | ⟨exchange, made, deleted⟩
        · exact careful.deleting vmid before
        · rcases (Stage.made_own made).2 deleted with ⟨rfl, rfl⟩
          have status := carries.status sound.db
          exact ⟨vm, (Database.virtualMachine?_eq_some_iff.mp carries.placed.vmStored).1,
            carries.placed.vmid, .inl (List.mem_singleton.mp status)⟩
      · intro flight inFlight
        simp only [isOnly, List.set_cons_zero, List.mem_singleton] at inFlight
        rw [inFlight]
        exact .storing carries (Careful.notSent_after carries kept returned shows)

end Submitting

/-- A stored outcome keeps the invariant. -/
theorem Deployment.Careful.stored (careful : state.Careful) (sound : state.world.Sound)
    {dispatch : Dispatch} {outcome : Except Error ProviderResult} {stamp dbNow : Time}
    {db : Database} (storing : state.world.inFlight[0]? = some (.storing dispatch outcome))
    (committed : World.storeDatabase state.world.db dispatch outcome stamp dbNow = some db)
    (clock : Time) :
    Deployment.Careful
      { state with clock, world := ⟨db, state.world.inFlight.eraseIdx 0⟩ } := by
  have nothingLeft : state.world.inFlight.eraseIdx 0 = [] := by
    simp [World.eq_singleton careful.alone storing]
  cases careful.flights _ (List.mem_of_getElem? storing) with
  | storing carries _ =>
      rcases carries.exists_moved sound.db committed with ⟨updated, reached, change, moved⟩
      rw [nothingLeft]
      exact ⟨careful.deleting_of_moved moved, Nat.zero_le 1, by simp⟩

/-- The provider works through the requests it was sent. -/
theorem Deployment.Careful.provided (careful : state.Careful) {hosting : Hosting}
    (deleting : hosting.deleting = state.hosting.deleting)
    (existing : ∀ vmid ∈ state.hosting.existing, vmid ∉ state.hosting.deleting →
      vmid ∈ hosting.existing) : Deployment.Careful { state with hosting } where
  deleting vmid isDeleting := careful.deleting vmid (deleting ▸ isDeleting)
  alone := careful.alone
  flights flight inFlight := by
    cases careful.flights flight inFlight with
    | submitting carries kept => exact .submitting carries (deleting ▸ kept)
    | storing carries notSent =>
        refine .storing carries fun isNotSent => ?_
        rcases notSent isNotSent with ⟨present, kept⟩
        exact ⟨existing _ present kept, deleting ▸ kept⟩

theorem Deployment.Careful.step (careful : state.Careful) (sound : state.world.Sound)
    (progress : state.Progress adapter label next) : next.Careful := by
  cases progress with
  | requested action event world clock isRequest step =>
      exact careful.served (World.serves_of_request isRequest step) clock
  | selected now stamp dbNow clock server operation committed exchanges world alone selects ran
      returned shows =>
      have own : state.Progress adapter _ _ := .selected now stamp dbNow clock server operation
        committed exchanges world alone selects ran returned shows
      cases committed with
      | none =>
          rw [own.eq_of_aborted sound]
          exact careful.served (.refl _) clock
      | some row =>
          have harmless := (NpdPortal.step_progress sound own.portal_step).selected_harmless
          exact careful.selected sound alone ran own.portal_step
            (Hosting.after_of_reads (HttpProxmoxAdapter.made_reads harmless))
  | submitted clock server dispatch exchanges result submitting ran fits shows =>
      exact careful.submitted sound submitting ran shows clock
  | stored stamp dbNow clock dispatch outcome db storing committed =>
      exact careful.stored sound storing committed clock
  | created vmid cloning =>
      exact careful.provided rfl fun _ present _ => Finset.mem_insert_of_mem present
  | removed vmid existing deleting =>
      refine careful.provided rfl fun other present kept => Finset.mem_erase.mpr ⟨?_, present⟩
      rintro rfl
      exact kept deleting

theorem Deployment.careful_of_reachable (reachable : (deployment adapter).Reachable state) :
    state.Careful := by
  rcases reachable with ⟨source, history, initial, run⟩
  have execution : (deployment adapter).Execution history state := ⟨source, initial, run⟩
  refine execution.invariant (motive := fun _ state => state.Careful) ?_ ?_
  · intro state isInitial
    refine ⟨?_, ?_, ?_⟩
    · simp [isInitial.2, Hosting.empty]
    · simp [isInitial.1, World.initial]
    · simp [isInitial.1, World.initial]
  · intro earlier state label next before careful step
    exact careful.step (sound_of_reachable before.reachable) (step_progress step)

end Steps

end NpdPortal
