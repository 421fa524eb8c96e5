import NpdPortal.Runs.Deletions

/-!
# Deletions that met a lock

A deletion which the adapter did not send, because the provider reported a
lock, is stored as one whose outcome is unknown.  The worker then waits until
the VM is missing, and never sends the deletion again: while the portal alone
removes VMs, the operation never ends.
-/

namespace NpdPortal

open PyJson ProxmoxClient

/-- The worker waits for a deletion that was not requested. -/
structure Deployment.Stranded (state : Deployment) (operationId : Uuid)
    (target : ProviderPlacement) : Prop where
  reconciles : ∃ operation ∈ state.world.db.operations, operation.id = operationId ∧
    (Position.reconciling .delete).Matches operation
  placed : state.world.db.PlacedAt operationId target
  existing : target.vmid ∈ state.hosting.existing
  notDeleting : target.vmid ∉ state.hosting.deleting
  flights : ∀ flight ∈ state.world.inFlight,
    flight.dispatch.operationId ≠ operationId ∧ flight.dispatch.target.vmid ≠ target.vmid

/-- The stored outcome of a deletion is that it was not sent. -/
def DeploymentEvent.NotSent (operationId : Uuid) (target : ProviderPlacement) :
    DeploymentEvent → Prop
  | .portal (.stored (.lifecycle id _ "delete" sentTo)
      (.ok (.delete ⟨.inProgress, none⟩)) true) _ =>
      id = operationId ∧ sentTo = target
  | _ => False

instance (operationId : Uuid) (target : ProviderPlacement) :
    DecidablePred (DeploymentEvent.NotSent operationId target) := fun event => by
  unfold DeploymentEvent.NotSent
  split <;> infer_instance

/-! ## What the worker reads -/

section Reads

variable {adapter : HttpProxmoxAdapter} {server : HttpServer} {portalVmId : Uuid} {node : String}
  {vmid : ℤ}

/-- A VM is missing when the list does not show it. -/
theorem HttpProxmoxAdapter.missing_returned {state : ProviderVmState}
    (returned : (Program.run server 0 (adapter.perform (.getVmPowerState portalVmId node vmid))).2 =
      .ok state) (missing : state.status = .missing) :
    ∃ body, ⟨resourcesRequest, .ok body⟩ ∈
        (Program.run server 0 (adapter.perform (.getVmPowerState portalVmId node vmid))).1 ∧
      ownedIn adapter portalVmId node vmid body = .ok none := by
  change (Program.run server 0 (adapter.getVmPowerState portalVmId node vmid)).2 = _ at returned
  change ∃ body, _ ∈ (Program.run server 0 (adapter.getVmPowerState portalVmId node vmid)).1 ∧ _
  unfold getVmPowerState at returned ⊢
  rw [requireTargetNode_eq, findOwnedVmResource_eq] at returned ⊢
  cases checked : onTargetNode adapter node with
  | error error =>
      rw [checked] at returned
      cases returned
  | ok _ =>
      simp only [checked, Program.done_ok_bind] at returned ⊢
      split at returned
      · rename_i positive
        simp only [if_pos positive, Program.call_bind, Program.run_call] at returned ⊢
        cases listing : server 0 resourcesRequest with
        | error error =>
            rw [listing] at returned
            cases returned
        | ok body =>
            refine ⟨body, List.mem_cons_self, ?_⟩
            simp only [listing, ok_bind] at returned
            cases owned : ownedIn adapter portalVmId node vmid body with
            | error error =>
                rw [owned] at returned
                cases returned
            | ok found =>
                cases found with
                | none => rfl
                | some resource =>
                    -- A listed VM is running or stopped.
                    exfalso
                    simp only [owned, Program.done_ok_bind, getVmCurrentStatus_eq,
                      Program.call_bind, Program.run_call, Program.liftT_eq] at returned
                    cases status : server 1 (statusRequest node vmid) >>= statusIn vmid with
                    | error error =>
                        rw [status] at returned
                        cases returned
                    | ok fields =>
                        simp only [status, Program.done_ok_bind] at returned
                        cases known : powerStatus s!"VMID {vmid} has unexpected status: "
                            (fields.get "status") with
                        | error error =>
                            rw [known] at returned
                            cases returned
                        | ok power =>
                            rw [known] at returned
                            cases returned
                            rcases powerStatus_cases known with rfl | rfl <;> cases missing
      · cases returned

end Reads

section Selections

/-- The answers in a selecting transaction are those of the provider. -/
theorem World.exists_answer_of_selectStep {world next : World} {operation : Operation}
    {provider : Provider} {stamp dbNow : Time} {exchanges : List Exchange}
    {committed : Option Operation}
    (ran : world.selectStep operation provider stamp dbNow =
      (.selected operation exchanges committed, next)) :
    ∀ exchange ∈ exchanges, ∃ n, exchange.answer = provider n exchange.call := by
  have isRun : exchanges = (Program.run provider 0 (runSelected stamp world.db operation)).1 := by
    have label := congrArg Prod.fst ran
    unfold World.selectStep at label
    simp only at label
    split at label
    · cases label
      rfl
    · split at label <;> cases label <;> rfl
  intro exchange made
  rw [isRun] at made
  exact Program.exists_answer_of_mem_run made

/-- A VM has one active operation. -/
theorem Database.Sound.eq_of_active {db : Database} (sound : db.Sound) {first second : Operation}
    (firstMem : first ∈ db.operations) (secondMem : second ∈ db.operations)
    (isFirst : first.Active) (isSecond : second.Active)
    (same : first.virtualMachineId = second.virtualMachineId) : first = second := by
  rcases Database.exists_vm_of_operation firstMem with ⟨vm, vmMem, vmId⟩
  rcases sound.coupled vm vmMem with ⟨position, earlier, latest, shape, coupled⟩
  have isLatest : ∀ operation ∈ db.operations, operation.Active →
      operation.virtualMachineId = vm.id → operation = latest := by
    intro operation stored active ofVm
    have operationMem : operation ∈ earlier ++ [latest] := by
      rw [← shape]
      exact Database.mem_operationsOf.mpr ⟨stored, ofVm⟩
    rcases List.mem_append.mp operationMem with isEarlier | isLatest
    · rcases coupled.ended operation isEarlier with ⟨ending, atEnding, terminal⟩
      exact absurd terminal (atEnding.active_iff.mp active)
    · exact List.mem_singleton.mp isLatest
  rw [isLatest first firstMem isFirst vmId.symm,
    isLatest second secondMem isSecond (same.symm.trans vmId.symm)]

end Selections

/-! ## The operation stays where it is -/

/-- Only a missing VM confirms a deletion whose outcome is unknown. -/
theorem Advance.of_reconciling_delete {evidence : Evidence} {reached : Position}
    {change : VmChange} (advance : Advance evidence (.reconciling .delete) reached change) :
    reached = .reconciling .delete ∨
      ∃ state : ProviderVmState, evidence = .read (.ok state) ∧ state.status = .missing := by
  generalize isFrom : Position.reconciling .delete = position at advance
  cases advance with
  | confirmed stage _ state awaits confirms =>
      subst isFrom
      rcases awaits with same | same <;> cases same
      exact .inr ⟨state, rfl, confirms⟩
  | unconfirmed stage _ _ awaits =>
      subst isFrom
      rcases awaits with same | same <;> cases same
      exact .inl rfl
  | readRaised stage _ _ awaits =>
      subst isFrom
      rcases awaits with same | same <;> cases same
      exact .inl rfl
  | review stage _ awaits needsReview =>
      subst isFrom
      rcases awaits with same | same <;> cases same
      exact False.elim needsReview
  | storeTask stage _ _ _ _ waiting =>
      subst isFrom
      rcases waiting with same | ⟨same, late⟩ <;> cases same
      exact False.elim late
  | _ => cases isFrom

section Steps

variable {adapter : HttpProxmoxAdapter} {state next : Deployment} {label : DeploymentEvent}
  {operationId : Uuid} {target : ProviderPlacement}

/-- The HTTP requests of a step. -/
def DeploymentEvent.made : DeploymentEvent → List HttpExchange
  | .portal _ made => made
  | _ => []

/-- A VM that exists is not read as missing. -/
theorem Deployment.Progress.not_missing {operation : Operation} {exchanges : List Exchange}
    {committed : Option Operation} {made : List HttpExchange} {vmId : Uuid}
    {read : ProviderVmState} (progress : state.Progress adapter
      (.portal (.selected operation exchanges committed) made) next)
    (reads : ⟨.getVmPowerState vmId target.node target.vmid, .ok read⟩ ∈ exchanges)
    (known : target.vmid ∈ state.world.db.providerVmids)
    (existing : target.vmid ∈ state.hosting.existing) : read.status ≠ .missing := by
  intro missing
  cases progress with
  | requested action _ _ _ isRequest served =>
      rcases World.event_of_request isRequest served with same | same <;> cases same
  | selected now stamp dbNow clock server _ _ _ world alone selects ran returned shows =>
      rcases World.exists_answer_of_selectStep ran _ reads with ⟨n, answered⟩
      rcases HttpProxmoxAdapter.missing_returned
        (HttpProxmoxAdapter.returned_of_provider answered.symm) missing with ⟨body, listed, owned⟩
      rcases listed_of_ownedIn owned with ⟨resources, isListed, noneListed⟩
      simp only at noneListed
      have shown := shows ⟨resourcesRequest, .ok body⟩ (List.mem_flatMap.mpr ⟨_, reads, listed⟩)
      simp only [Hosting.Shows, ok_bind, isListed] at shown
      have present := shown trivial target.vmid known
      rw [decide_eq_true existing] at present
      rcases List.any_eq_true.mp present with ⟨resource, inList, isVmid⟩
      have found := List.mem_filter.mpr ⟨inList, isVmid⟩
      rw [noneListed] at found
      cases found

/-- The deletion is not requested. -/
theorem Deployment.Stranded.not_deleted (stranded : state.Stranded operationId target)
    (sound : state.world.Sound) (progress : state.Progress adapter label next) :
    ∀ exchange ∈ label.made, exchange.call.deleted? ≠ some target.vmid := by
  intro exchange made deleted
  have mutates := Request.mutates_of_deleted deleted
  cases progress with
  | selected now stamp dbNow clock server operation committed exchanges world alone selects ran
      returned shows =>
      have own : state.Progress adapter _ _ := .selected now stamp dbNow clock server operation
        committed exchanges world alone selects ran returned shows
      have harmless := (NpdPortal.step_progress sound own.portal_step).selected_harmless
      have reads : ∀ exchange ∈
          adapter.made server (.selected operation exchanges committed),
          ¬exchange.call.Mutates := HttpProxmoxAdapter.made_reads harmless
      exact reads exchange made mutates
  | submitted clock server dispatch exchanges result submitting ran shows =>
      rcases List.mem_flatMap.mp made with ⟨called, calledMem, madeBy⟩
      rcases HttpProxmoxAdapter.eq_deleteVm_of_made madeBy deleted with ⟨id, node, isDelete⟩
      have isExchange : called ∈ (Program.run (adapter.provider server) 0 dispatch.submit).1 := by
        rw [ran]
        exact calledMem
      have isTarget := dispatch.submit_target (adapter.provider server) isExchange
      rw [isDelete] at isTarget
      have sameVmid : dispatch.target.vmid = target.vmid := by
        rw [← Option.some.inj isTarget]
      exact (stranded.flights _ (List.mem_of_getElem? submitting)).2 sameVmid
  | requested | stored | created | removed => cases made

/-- The operation still waits. -/
theorem Deployment.Stranded.reconciles_of_progress (stranded : state.Stranded operationId target)
    (sound : state.world.Sound) (progress : state.Progress adapter label next) :
    ∃ operation ∈ next.world.db.operations, operation.id = operationId ∧
      (Position.reconciling .delete).Matches operation := by
  rcases stranded.reconciles with ⟨operation, stored, same, atDelete⟩
  cases label with
  | portal event made =>
      rcases (NpdPortal.step_progress sound progress.portal_step).row stored with
        kept | ⟨evidence, updated, vm, position, reached, change, moved, given⟩
      · exact ⟨operation, kept, same, atDelete⟩
      · have advance := moved.advance
        rw [moved.atPosition.unique atDelete] at advance
        rcases advance.of_reconciling_delete with rfl | ⟨read, rfl, missing⟩
        · exact ⟨updated, (Database.operation?_eq_some_iff.mp moved.stored_updated).1,
            moved.identity.id.trans same, moved.atReached⟩
        · exfalso
          rcases given with ⟨exchanges, rfl, own, node, vmid, rfl⟩
          have placed : state.world.db.PlacedAt operationId own :=
            ⟨operation, stored, same, vm, moved.vmMem, moved.vmId, node, vmid⟩
          rcases placed.unique stranded.placed with rfl
          have known : own.vmid ∈ state.world.db.providerVmids :=
            List.mem_filterMap.mpr ⟨vm, moved.vmMem, vmid⟩
          exact progress.not_missing (List.mem_singleton_self _) known stranded.existing missing
  | created vmid =>
      cases progress
      exact stranded.reconciles
  | removed vmid =>
      cases progress
      exact stranded.reconciles

/-- A pending operation is one of another VM. -/
theorem Deployment.Stranded.ne_of_pending (stranded : state.Stranded operationId target)
    (sound : state.world.Sound) {operation : Operation} {stage : Stage} {sentTo : ProviderPlacement}
    (atPending : (Position.pending stage).Matches operation)
    (stored : operation ∈ state.world.db.operations)
    (placed : state.world.db.PlacedAt operation.id sentTo) :
    operation.id ≠ operationId ∧ sentTo.vmid ≠ target.vmid := by
  rcases stranded.reconciles with ⟨own, ownStored, ownId, atDelete⟩
  have differs : operation ≠ own := by
    rintro rfl
    cases atPending.unique atDelete
  constructor
  · rintro sameId
    exact differs (KeyedRows.eq_of_key_eq state.world.db.valid.operationIds stored ownStored
      (sameId.trans ownId.symm))
  · intro sameVmid
    rcases placed with ⟨row, rowStored, rowId, vm, vmMem, vmId, _, vmid⟩
    rcases stranded.placed with ⟨other, otherStored, otherId, otherVm, otherMem, otherVmId, _,
      otherVmid⟩
    rcases KeyedRows.eq_of_key_eq state.world.db.valid.operationIds rowStored stored rowId with rfl
    rcases KeyedRows.eq_of_key_eq state.world.db.valid.operationIds otherStored ownStored
      (otherId.trans ownId.symm) with rfl
    rw [← sameVmid] at otherVmid
    rcases Database.eq_of_providerVmid vmMem otherMem vmid otherVmid with rfl
    refine differs (sound.db.eq_of_active stored ownStored ?_ ?_ (vmId.symm.trans otherVmId))
    · exact atPending.active_iff.mpr id
    · exact atDelete.active_iff.mpr id

/-- A worker that sets out does so for another VM. -/
theorem Deployment.Stranded.flights_of_progress (stranded : state.Stranded operationId target)
    (reachable : (deployment adapter).Reachable state)
    (progress : state.Progress adapter label next) :
    ∀ flight ∈ next.world.inFlight,
      flight.dispatch.operationId ≠ operationId ∧ flight.dispatch.target.vmid ≠ target.vmid := by
  have sound := Deployment.sound_of_reachable reachable
  intro flight inFlight
  cases progress with
  | requested action event world clock isRequest step =>
      rw [(World.serves_of_request isRequest step).inFlight] at inFlight
      exact stranded.flights flight inFlight
  | selected now stamp dbNow clock server operation committed exchanges world alone selects ran
      returned shows =>
      have own : state.Progress adapter _ _ := .selected now stamp dbNow clock server operation
        committed exchanges world alone selects ran returned shows
      have step := own.portal_step
      have placed := (selected_targets ((deployment_refines adapter).reachable reachable) step).2
        flight inFlight
      cases NpdPortal.step_progress sound step with
      | aborted | followed => exact stranded.flights flight inFlight
      | marked _ _ _ vm stage request sentTo moved =>
          rcases List.mem_append.mp inFlight with old | isNew
          · exact stranded.flights flight old
          · rw [List.mem_singleton] at isNew
            subst isNew
            have isPlaced := placed.resolve_left fun old => by simp [alone] at old
            simp only [Flight.dispatch, Stage.dispatch_operationId, Stage.dispatch_target]
              at isPlaced ⊢
            exact stranded.ne_of_pending sound moved.atPosition moved.stored isPlaced
  | submitted clock server dispatch exchanges result submitting ran shows =>
      rcases List.mem_or_eq_of_mem_set inFlight with old | rfl
      · exact stranded.flights flight old
      · have sent := stranded.flights _ (List.mem_of_getElem? submitting)
        exact sent
  | stored stamp dbNow clock dispatch outcome db storing committed =>
      exact stranded.flights flight (List.mem_of_mem_eraseIdx inFlight)
  | created vmid cloning => exact stranded.flights flight inFlight
  | removed vmid existing deleting => exact stranded.flights flight inFlight

theorem Deployment.Stranded.step (stranded : state.Stranded operationId target)
    (reachable : (deployment adapter).Reachable state)
    (progress : state.Progress adapter label next) : next.Stranded operationId target := by
  have sound := Deployment.sound_of_reachable reachable
  have placed : next.world.db.PlacedAt operationId target := by
    cases label with
    | portal event made =>
        exact (NpdPortal.step_progress sound progress.portal_step).placedAt stranded.placed
    | created vmid =>
        cases progress
        exact stranded.placed
    | removed vmid =>
        cases progress
        exact stranded.placed
  have after : ∀ exchanges : List HttpExchange,
      (∀ exchange ∈ exchanges, exchange.call.deleted? ≠ some target.vmid) →
      target.vmid ∉ (state.hosting.after exchanges).deleting := by
    intro exchanges kept deleting
    rcases Hosting.mem_after_deleting.mp deleting with before | ⟨exchange, made, deleted⟩
    · exact stranded.notDeleting before
    · exact kept exchange made deleted
  have hosting : target.vmid ∈ next.hosting.existing ∧ target.vmid ∉ next.hosting.deleting := by
    have kept := stranded.not_deleted sound progress
    cases progress with
    | requested | stored => exact ⟨stranded.existing, stranded.notDeleting⟩
    | selected | submitted => exact ⟨stranded.existing, after _ kept⟩
    | created vmid =>
        exact ⟨Finset.mem_insert_of_mem stranded.existing, stranded.notDeleting⟩
    | removed vmid existing deleting =>
        refine ⟨Finset.mem_erase.mpr ⟨?_, stranded.existing⟩, stranded.notDeleting⟩
        intro same
        exact stranded.notDeleting (same ▸ deleting)
  exact ⟨stranded.reconciles_of_progress sound progress, placed, hosting.1, hosting.2,
    stranded.flights_of_progress reachable progress⟩

end Steps

/-! ## Whole runs -/

section Runs

variable {adapter : HttpProxmoxAdapter} {state before after final : Deployment}
  {operationId : Uuid} {target : ProviderPlacement}

theorem Deployment.Stranded.run {later : List DeploymentEvent}
    (stranded : state.Stranded operationId target)
    (reachable : (deployment adapter).Reachable state)
    (run : (deployment adapter).Run state later final) :
    final.Stranded operationId target ∧
      ∀ event ∈ later, ∀ exchange ∈ event.made, exchange.call.deleted? ≠ some target.vmid := by
  have all : (deployment adapter).Reachable final ∧ final.Stranded operationId target ∧
      ∀ event ∈ later, ∀ exchange ∈ event.made, exchange.call.deleted? ≠ some target.vmid := by
    induction run with
    | nil => exact ⟨reachable, stranded, by simp⟩
    | snoc _ last ih =>
        rcases ih with ⟨middleReachable, middleStranded, notDeleted⟩
        have progress := step_progress last
        refine ⟨middleReachable.step last, middleStranded.step middleReachable progress, ?_⟩
        intro event eventMem
        rcases List.mem_append.mp eventMem with earlier | isLast
        · exact notDeleted event earlier
        · rw [List.mem_singleton.mp isLast]
          exact middleStranded.not_deleted (sound_of_reachable middleReachable) progress
  exact all.2

/-- The stored result of a deletion that was not sent. -/
theorem Advance.reached_of_notSent {position reached : Position} {change : VmChange}
    (advance : Advance (.outcome (.ok (.delete { state := .inProgress }))) position reached
      change) : reached = .reconciling .delete := by
  generalize isResult : ProviderResult.delete { state := .inProgress } = result at advance
  cases advance with
  | storeTask stage _ _ task carries => subst isResult; cases stage <;> cases carries
  | storeDone stage _ done => subst isResult; cases stage <;> cases done
  | storeInProgress stage _ inProgress =>
      subst isResult
      cases stage <;> first | rfl | cases inProgress

theorem DeploymentEvent.NotSent.eq {label : DeploymentEvent}
    (notSent : label.NotSent operationId target) : ∃ vmId made, label =
      .portal (.stored (.lifecycle operationId vmId "delete" target)
        (.ok (.delete { state := .inProgress })) true) made := by
  unfold DeploymentEvent.NotSent at notSent
  split at notSent
  · rcases notSent with ⟨rfl, rfl⟩
    exact ⟨_, _, rfl⟩
  · exact False.elim notSent

theorem Deployment.stranded_of_notSent {label : DeploymentEvent}
    (reachable : (deployment adapter).Reachable before)
    (step : (deployment adapter).step before label after)
    (notSent : label.NotSent operationId target) : after.Stranded operationId target := by
  rcases notSent.eq with ⟨vmId, made, rfl⟩
  have progress := step_progress step
  have careful := careful_of_reachable reachable
  have portalProgress := NpdPortal.step_progress (sound_of_reachable reachable)
    progress.portal_step
  rcases (deployment_refines adapter).reachable reachable with ⟨source, events, initial, toBefore⟩
  have flights := (placedAt_of_execution ⟨source, initial, toBefore⟩).2
  have reconciles : ∃ operation ∈ after.world.db.operations, operation.id = operationId ∧
      (Position.reconciling .delete).Matches operation := by
    generalize after.world = later at portalProgress ⊢
    cases portalProgress with
    | stored index _ _ db operation updated vm position reached change storing same moved =>
        refine ⟨updated, (Database.operation?_eq_some_iff.mp moved.stored_updated).1,
          moved.identity.id.trans same, ?_⟩
        rw [← moved.advance.reached_of_notSent]
        exact moved.atReached
  cases progress with
  | requested action _ _ _ isRequest served =>
      rcases World.event_of_request isRequest served with same | same <;> cases same
  | stored stamp dbNow clock _ _ db storing committed =>
      have isPlaced := flights _ (List.mem_of_getElem? storing)
      have found : target.vmid ∈ before.hosting.existing ∧
          target.vmid ∉ before.hosting.deleting := by
        cases careful.flights _ (List.mem_of_getElem? storing) with
        | storing carries notSent =>
            have isTarget := carries.dispatch_target
            subst isTarget
            exact notSent rfl
      refine ⟨reconciles, portalProgress.placedAt isPlaced, found.1, found.2, ?_⟩
      intro flight inFlight
      simp [World.eq_singleton careful.alone storing] at inFlight

/-- The adapter did not send a deletion of the one worker: however long its calls return, the
deletion is never sent, the VM is left there and the operation never ends. -/
theorem Deployment.lockedDelete_stranded {history later : List DeploymentEvent}
    {label : DeploymentEvent} (execution : (deployment adapter).Execution history before)
    (step : (deployment adapter).step before label after)
    (notSent : label.NotSent operationId target)
    (run : (deployment adapter).Run after later final) :
    (∃ operation ∈ final.world.db.operations, operation.id = operationId ∧
      operation.status = .processing ∧ operation.phase = some "reconcile_delete") ∧
    target.vmid ∈ final.hosting.existing ∧
    ∀ event ∈ later, ∀ exchange ∈ event.made, exchange.call.deleted? ≠ some target.vmid := by
  have reachable := execution.reachable
  have afterReachable := reachable.step step
  have stranded := stranded_of_notSent reachable step notSent
  rcases stranded.run afterReachable run with ⟨atEnd, notDeleted⟩
  refine ⟨?_, atEnd.existing, notDeleted⟩
  rcases atEnd.reconciles with ⟨operation, stored, same, atDelete⟩
  exact ⟨operation, stored, same, atDelete.status, atDelete.phase_of_reconciling⟩

end Runs

/-- A provider at which the VM 31 exists, with this lock and power state. -/
def sampleHost (lock : PyJson) (power : String) : HttpServer := fun index request =>
  if request = resourcesRequest then
    .ok (bodyOf (.list [.dict (("lock", lock) ::
      sampleImageAdapter.entry (newVm 31 1 sampleRequest) 100)]))
  else sampleImageAdapter.unlockedServer [] ∅ "100" power index request

/-- One iteration of the worker. -/
def samplePass (operationId : Uuid) (now : Time) (server : HttpServer) : List DeploymentAction :=
  [.select now operationId server now now now, .submit server now, .store now now now]

/-- The VM 31 is created and stopped; a backup has begun when it is to be deleted. -/
def sampleLockedDelete : List DeploymentAction :=
  let absent := sampleImageAdapter.unlockedServer [] ∅ "100" ""
  let hosted := fun power => sampleHost .null power
  [.request (.administer sampleAdministration) 0,
    .request (.createVm ⟨31, 41, 0⟩ 1 sampleRequest "create") 0,
    .select 1 41 absent 1 1 1] ++ samplePass 41 2 absent ++
  [.create 100, .select 3 41 (hosted "stopped") 3 3 3] ++ samplePass 41 4 (hosted "stopped") ++
  [.select 5 41 (hosted "stopped") 5 5 5] ++ samplePass 41 6 (hosted "stopped") ++
  [.select 7 41 (hosted "stopped") 7 7 7] ++ samplePass 41 8 (hosted "stopped") ++
  [.select 9 41 (hosted "running") 9 9 9,
    .request (.enqueue ⟨0, 42, 10⟩ 1 31 .vmStop "stop") 10] ++
  samplePass 42 11 (hosted "running") ++
  [.select 12 42 (hosted "stopped") 12 12 12,
    .request (.enqueue ⟨0, 43, 13⟩ 1 31 .vmDelete "delete") 13,
    .select 14 43 (hosted "stopped") 14 14 14, .submit (sampleHost (.str "backup") "stopped") 14]

/-- The outcome of the deletion is stored. -/
@[irreducible]
def sampleNotSent : List DeploymentEvent × Deployment :=
  (Deployment.initial.perform sampleImageAdapter sampleLockedDelete).2.perform sampleImageAdapter
    [.store 15 15 15]

/-- It says that the deletion was not sent. -/
theorem sampleNotSent_step : ∃ label : DeploymentEvent, label.NotSent 43 ⟨"pve", 100⟩ ∧
    (deployment sampleImageAdapter).step
      (Deployment.initial.perform sampleImageAdapter sampleLockedDelete).2 label
      sampleNotSent.2 := by
  have notSent : ∀ label ∈ sampleNotSent.1, label.NotSent 43 ⟨"pve", 100⟩ := by decide +kernel
  have single : sampleNotSent.1.length = 1 := by decide +kernel
  rcases List.length_eq_one_iff.mp single with ⟨label, isLabel⟩
  have stored : (deployment sampleImageAdapter).Run
      (Deployment.initial.perform sampleImageAdapter sampleLockedDelete).2 sampleNotSent.1
      sampleNotSent.2 := by
    unfold sampleNotSent
    exact Deployment.perform_run _ _ _
  rw [isLabel] at stored
  exact ⟨label, notSent label (isLabel ▸ List.mem_singleton_self label), stored.step_of_singleton⟩

set_option maxRecDepth 10000 in
/-- When the backup has ended the worker looks at the VM, and the deletion is not sent. -/
theorem sampleLockedDelete_stranded :
    let later : Time := 16 + dispatchGrace
    let final := (sampleNotSent.2.perform sampleImageAdapter
      [.select later 43 (sampleHost .null "stopped") later later later]).2
    (∃ operation ∈ final.world.db.operations, operation.id = 43 ∧
      operation.status = .processing ∧ operation.phase = some "reconcile_delete") ∧
    (100 : ℤ) ∈ final.hosting.existing := by
  intro later final
  rcases sampleNotSent_step with ⟨label, notSent, step⟩
  have stranded := Deployment.lockedDelete_stranded
    (Deployment.perform_execution sampleImageAdapter sampleLockedDelete) step notSent
    (sampleNotSent.2.perform_run sampleImageAdapter
      [.select later 43 (sampleHost .null "stopped") later later later])
  exact ⟨stranded.1, stranded.2.1⟩

end NpdPortal
