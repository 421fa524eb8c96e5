import NpdPortal.Runs.Polls
import NpdPortal.Web.Idempotency

/-!
# The invariants with overlapping requests

The coupling of the rows, the quota bound and the queue are proved of the
portal.  The site refines the portal, so they hold however the requests overlap.
-/

namespace NpdPortal

/-! ## Sample runs with worker steps -/

/-- The statements of an action whose request is alone and succeeds at once. -/
def SiteAction.alone : Action → List SiteAction
  | .createVm context userId request idempotencyKey =>
      .begin 1 (.create ⟨userId, request, idempotencyKey⟩) :: sampleStatements 1 8 context
  | .enqueue context userId vmId operationType idempotencyKey =>
      .begin 1 (.enqueue ⟨userId, vmId, operationType, idempotencyKey⟩) ::
        sampleStatements 1 5 context
  | action => [.background action]

/-- The VM 31 is stopped; the task of its delete fails. -/
def sampleFailedDelete : List Action :=
  sampleRunningVm ++
  [.enqueue ⟨0, 42, 6⟩ 1 31 .vmStop "stop"] ++ sampleIteration 42 7 ++
  [.select 8 [] 42 (sampleProvider .running .succeeded) 8 8,
    .enqueue ⟨0, 43, 9⟩ 1 31 .vmDelete "delete"] ++ sampleIteration 43 10 ++
  [.select 11 [] 43 (sampleProvider .stopped .failed) 11 11]

def sampleSite (actions : List Action) : Site :=
  (Site.initial.perform (actions.flatMap SiteAction.alone)).2

theorem sampleSite_reachable (actions : List Action) : site.Reachable (sampleSite actions) :=
  (Site.perform_execution (actions.flatMap SiteAction.alone)).reachable

/-- The VM with its quota as `sampleRunningVm` and `sampleFailedDelete` leave it. -/
def sampleVm (status : VmStatus) : VirtualMachine :=
  { newVm 31 1 sampleRequest with status, providerNode := some "node", providerVmid := some 100 }

/-! ## The coupling of the rows -/

section Coupling

variable {state : Site}

/-- In every reachable state the rows of every VM fit together, and a placement that is set is
kept for ever. -/
theorem vmInvariant_of_reachable (reachable : site.Reachable state) :
    (∀ vm ∈ state.world.db.virtualMachines, state.world.db.VmInvariant vm) ∧
    ∀ history later, site.Run state history later → ∀ vm ∈ state.world.db.virtualMachines,
      vm.providerNode ≠ none ∨ vm.providerVmid ≠ none →
        ∃ row, later.world.db.virtualMachine? vm.id = some row ∧
          row.providerNode = vm.providerNode ∧ row.providerVmid = vm.providerVmid := by
  have sound := (site_sound_of_reachable reachable).world.db
  have invariant : ∀ vm ∈ state.world.db.virtualMachines, state.world.db.VmInvariant vm := by
    intro vm vmMem
    rcases sound.coupled vm vmMem with ⟨position, earlier, latest, shape, coupled⟩
    exact coupled.vmInvariant shape
  refine ⟨invariant, ?_⟩
  intro history later run vm vmMem isSet
  rcases (site_precedes_of_run reachable run).vms vm vmMem with ⟨row, rowMem, onward⟩
  have placed : vm.providerVmid ≠ none := by
    rcases isSet with node | vmid
    · exact fun unset => node ((invariant vm vmMem).placement.mpr unset)
    · exact vmid
  exact ⟨row, Database.virtualMachine?_eq_some_iff.mpr ⟨rowMem, onward.id⟩,
    onward.placement placed⟩

end Coupling

set_option maxRecDepth 10000 in
/-- The VM whose delete has failed has three operations, of which the last holds it. -/
theorem sampleFailedDelete_vmInvariant :
    let db := (sampleSite sampleFailedDelete).world.db
    sampleVm .deleting ∈ db.virtualMachines ∧
      (db.operationsOf 31).map (fun operation => (operation.operationType, operation.status)) =
        [(.vmCreate, .succeeded), (.vmStop, .succeeded), (.vmDelete, .failed)] ∧
      db.VmInvariant (sampleVm .deleting) := by
  intro db
  have stored : sampleVm .deleting ∈ db.virtualMachines := by decide +kernel
  refine ⟨stored, by decide +kernel, ?_⟩
  exact (vmInvariant_of_reachable (sampleSite_reachable sampleFailedDelete)).1 _ stored

/-! ## The quota -/

section Quota

variable {state next : Site} {event : SiteEvent}

theorem remainingQuota_nonneg {plan : ComputePlan} {usage : ComputeUsage}
    (within : usage.Within plan) :
    0 ≤ (remainingQuota plan usage).vms ∧ 0 ≤ (remainingQuota plan usage).vcpus ∧
      0 ≤ (remainingQuota plan usage).memoryMb ∧ 0 ≤ (remainingQuota plan usage).storageGb := by
  rcases within with ⟨vms, vcpus, memoryMb, storageGb⟩
  simp only [remainingQuota]
  omega

/-- A step of the site that releases a VM is a step of a worker that has the evidence for it. -/
theorem SiteProgress.releases (progress : SiteProgress state event next) (sound : state.Sound)
    {vm later : VirtualMachine} (stored : vm ∈ state.world.db.virtualMachines)
    (laterStored : later ∈ next.world.db.virtualMachines) (same : later.id = vm.id)
    (consumes : vm.ConsumesQuota) (released : ¬later.ConsumesQuota) :
    ∃ label, event = .background label ∧ label.Releases state.world vm := by
  have kept : next.world = state.world → False := by
    intro unchanged
    rw [unchanged] at laterStored
    have isVm : later = vm :=
      KeyedRows.eq_of_key_eq state.world.db.valid.vmIds laterStored stored same
    exact released (isVm ▸ consumes)
  cases progress with
  | background label world step notWeb permits =>
      have worldProgress := step_progress sound.world step
      exact ⟨label, rfl, worldProgress.releases stored laterStored same consumes released⟩
  | committed session reply db opened holds commits =>
      have worldProgress :=
        step_progress sound.world (commits.portal_step state.world.inFlight)
      exact False.elim (worldProgress.releases stored laterStored same consumes released)
  | _ => exact (kept rfl).elim

/-- The usage of every user stays within the plan, and a VM is released only on the evidence of
the provider and for ever. -/
theorem quota_kept_of_reachable (reachable : site.Reachable state) :
    (∀ userId plan, state.world.db.planOf userId = some plan →
      let usage := getUserComputeUsage state.world.db userId
      usage.Within plan ∧ 0 ≤ (remainingQuota plan usage).vms ∧
        0 ≤ (remainingQuota plan usage).vcpus ∧ 0 ≤ (remainingQuota plan usage).memoryMb ∧
        0 ≤ (remainingQuota plan usage).storageGb) ∧
    (∀ vm ∈ state.world.db.virtualMachines, vm.ConsumesQuota →
      ∃ plan, state.world.db.planOf vm.ownerUserId = some plan) ∧
    (∀ event next, site.step state event next → ∀ vm ∈ state.world.db.virtualMachines,
      ∀ later ∈ next.world.db.virtualMachines, later.id = vm.id → vm.ConsumesQuota →
        ¬later.ConsumesQuota →
          ∃ label, event = .background label ∧ label.Releases state.world vm) ∧
    ∀ history later, site.Run state history later → ∀ vm ∈ state.world.db.virtualMachines,
      ¬vm.ConsumesQuota → ∃ row, later.world.db.virtualMachine? vm.id = some row ∧
        ¬row.ConsumesQuota := by
  have within := withinPlans_of_reachable (site_reachable_world reachable)
  have sound := site_sound_of_reachable reachable
  refine ⟨?_, ?_, ?_, ?_⟩
  · intro userId plan stored usage
    have isWithin : usage.Within plan := by
      rcases within userId with none | ⟨other, otherStored, isWithin⟩
      · exact usage_within_of_no_vms none plan
      · rw [stored] at otherStored
        cases otherStored
        exact isWithin
    exact ⟨isWithin, remainingQuota_nonneg isWithin⟩
  · intro vm vmMem consumes
    rcases within vm.ownerUserId with none | ⟨plan, stored, _⟩
    · have counted : vm ∈ state.world.db.consumingVms vm.ownerUserId := by
        simp [Database.consumingVms, vmMem, consumes]
      have empty := List.eq_nil_of_length_eq_zero none
      rw [empty] at counted
      exact absurd counted List.not_mem_nil
    · exact ⟨plan, stored⟩
  · intro event next step vm vmMem later laterMem same consumes released
    exact (site_step_progress sound step).releases sound vmMem laterMem same consumes released
  · intro history later run vm vmMem free
    rcases (site_precedes_of_run reachable run).vms vm vmMem with ⟨row, rowMem, onward⟩
    exact ⟨row, Database.virtualMachine?_eq_some_iff.mpr ⟨rowMem, onward.id⟩,
      onward.released free⟩

end Quota

set_option maxRecDepth 10000 in
/-- After the race for a key only the winner uses quota. -/
theorem sampleRace_quota :
    let db := (Site.initial.perform sampleRace).2.world.db
    (getUserComputeUsage db 1).usedVms = 1 ∧ (getUserComputeUsage db 2).usedVms = 0 ∧
      (getUserComputeUsage db 1).Within ⟨21, "starter", 2, 4, 4096, 40, 0, true⟩ := by
  intro db
  have reachable := (Site.perform_execution sampleRace).reachable
  have stored : db.planOf 1 = some ⟨21, "starter", 2, 4, 4096, 40, 0, true⟩ := by decide +kernel
  exact ⟨by decide +kernel, by decide +kernel,
    ((quota_kept_of_reachable reachable).1 1 _ stored).1⟩

/-! ## The queue -/

section Queue

variable {state : Site} {operation : Operation}

/-- Every active operation waits for an operator or is selected five minutes after its last
update, its phase is one of a few, and its selecting transaction is rolled back only by the
choice of a placement or by an error code which its column does not take. -/
theorem active_handled_of_reachable (reachable : site.Reachable state)
    (stored : operation ∈ state.world.db.operations) (active : operation.Active) :
    ((operation.phase = some "needs_review_create_configure" ∨
        operation.phase = some "needs_review_create_resize") ∨
      ∀ now, operation.updatedAt + dispatchGrace ≤ now → operation.Eligible now) ∧
    operation.phase ∈ operationPhases operation.operationType operation.status
      operation.providerTaskId.isSome ∧
    (operation.phase.getD "").length ≤ 32 ∧
    ∀ now provider stamp dbNow exchanges, operation.Eligible now →
      (state.world.selectStep operation provider stamp dbNow).1 =
        .selected operation exchanges none → RollsBack state.world.db exchanges := by
  have sound := (site_sound_of_reachable reachable).world
  rcases sound.db.ready stored with ⟨position, vm, atPosition, _⟩
  refine ⟨?_, atPosition.mem_operationPhases, atPosition.phase_length_le, ?_⟩
  · rcases atPosition.processed_or_review active with processed | review
    · exact .inr fun now rested => atPosition.eligible_of_processed processed rested
    · exact .inl review
  · intro now provider stamp dbNow exchanges eligible aborted
    exact selectStep_aborted sound stored eligible provider stamp dbNow aborted

end Queue

set_option maxRecDepth 10000 in
/-- The stop whose task is stored is selected, and what rolls its transaction back is known. -/
theorem sampleStopTask_handled :
    let state := sampleSite sampleStopTask
    sampleStopOperation ∈ state.world.db.operations ∧
      sampleStopOperation.Eligible (8 + dispatchGrace) ∧
      ∀ provider exchanges, (state.world.selectStep sampleStopOperation provider 9 9).1 =
        .selected sampleStopOperation exchanges none → RollsBack state.world.db exchanges := by
  intro state
  have stored : sampleStopOperation ∈ state.world.db.operations := by decide +kernel
  have handled := active_handled_of_reachable (sampleSite_reachable sampleStopTask) stored
    (by decide)
  have eligible : sampleStopOperation.Eligible (8 + dispatchGrace) := by
    rcases handled.1 with review | eligible
    · exact absurd review (by decide)
    · exact eligible _ le_rfl
  exact ⟨stored, eligible, fun provider exchanges =>
    handled.2.2.2 _ provider 9 9 exchanges eligible⟩

/-- The task has failed with an error code of more characters than the column has. -/
def sampleLongFailure : ProviderTaskStatus where
  status := .failed
  errorCode := some (String.ofList (List.replicate 101 'x'))

set_option maxRecDepth 10000 in
/-- The poll of a failed task rolls its transaction back although no placement is chosen. -/
theorem sampleStopTask_rolled_back :
    ¬∀ (state : Site) (operation : Operation), site.Reachable state →
      operation ∈ state.world.db.operations → operation.Active →
      ∀ now provider stamp dbNow exchanges, operation.Eligible now →
        (state.world.selectStep operation provider stamp dbNow).1 =
          .selected operation exchanges none →
        ∃ request answer, exchanges = [⟨.chooseCloneTarget request, answer⟩] := by
  intro onlyPlacement
  let state := sampleSite sampleStopTask
  have stored : sampleStopOperation ∈ state.world.db.operations := by decide +kernel
  have aborted : (state.world.selectStep sampleStopOperation
      (pollingProvider (.ok sampleLongFailure)) 9 9).1 =
      .selected sampleStopOperation
        [⟨.getTaskStatus ⟨"UPID:stop", 100, "node"⟩, .ok sampleLongFailure⟩] none := rfl
  rcases onlyPlacement state _ (sampleSite_reachable sampleStopTask) stored (by decide)
    (8 + dispatchGrace) _ 9 9 _ (by decide +kernel) aborted with ⟨request, answer, same⟩
  cases same

end NpdPortal
