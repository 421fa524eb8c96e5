import NpdPortal.Runs.DeadEnds
import NpdPortal.Runs.LockedDeletes

/-!
# Which operations can end

In front of a provider that works as it should, every active operation can
still end exactly if no deletion has met a lock: the worker does not send the
deletion again when the lock is released.
-/

namespace NpdPortal

open PyJson ProxmoxClient

/-- The worker and the provider can go on until the active operation they are asked for has
ended. -/
def Deployment.CanEnd (adapter : HttpProxmoxAdapter) (state : Deployment) : Prop :=
  ∀ operation ∈ state.world.db.operations, operation.Active → ∃ later final,
    (deployment adapter).Run state later final ∧ (∀ event ∈ later, event.OfWorker) ∧
      ∃ row ∈ final.world.db.operations, row.id = operation.id ∧
        (row.status = .succeeded ∨ row.status = .failed)

/-- A deletion was not sent, and never is. -/
inductive Deployment.Blocked (state : Deployment) (operationId : Uuid)
    (target : ProviderPlacement) : Prop where
  /-- This is still to be stored. -/
  | storing (vmId : Uuid) (operation : Operation)
      (flights : state.world.inFlight = [.storing (.lifecycle operationId vmId "delete" target)
        (.ok (.delete { state := .inProgress }))])
      (stored : operation ∈ state.world.db.operations) (same : operation.id = operationId)
      (atRow : (Position.dispatching .delete).Matches operation)
  | stranded (stranded : state.Stranded operationId target)

section Steps

variable {adapter : HttpProxmoxAdapter} {state next final : Deployment} {label : DeploymentEvent}
  {operationId : Uuid} {target : ProviderPlacement}

theorem Deployment.Blocked.processing (blocked : state.Blocked operationId target) :
    ∃ operation ∈ state.world.db.operations, operation.id = operationId ∧
      operation.status = .processing := by
  cases blocked with
  | storing vmId operation flights stored same atRow =>
      exact ⟨operation, stored, same, atRow.status⟩
  | stranded stranded =>
      rcases stranded.reconciles with ⟨operation, stored, same, atDelete⟩
      exact ⟨operation, stored, same, atDelete.status⟩

theorem Deployment.Blocked.step (blocked : state.Blocked operationId target)
    (reachable : (deployment adapter).Reachable state)
    (step : (deployment adapter).step state label next) : next.Blocked operationId target := by
  have progress := step_progress step
  cases blocked with
  | stranded stranded => exact .stranded (stranded.step reachable progress)
  | storing vmId operation flights stored same atRow =>
      cases progress with
      | requested action event world clock isRequest served =>
          have serves := World.serves_of_request isRequest served
          rcases serves.operations with ⟨_, operations, _⟩
          refine .storing vmId operation (serves.inFlight.trans flights) ?_ same atRow
          simp only [operations]
          exact List.mem_append_left _ stored
      | selected _ _ _ _ _ _ _ _ _ alone =>
          rw [flights] at alone
          cases alone
      | submitted clock server dispatch exchanges result submitting =>
          rw [flights] at submitting
          cases submitting
      | stored stamp dbNow clock dispatch outcome db storing committed =>
          rw [flights] at storing
          cases storing
          exact .stranded (stranded_of_notSent reachable step ⟨rfl, rfl⟩)
      | created vmid cloning => exact .storing vmId operation flights stored same atRow
      | removed vmid existing deleting => exact .storing vmId operation flights stored same atRow

theorem Deployment.Blocked.run {later : List DeploymentEvent}
    (blocked : state.Blocked operationId target)
    (reachable : (deployment adapter).Reachable state)
    (run : (deployment adapter).Run state later final) : final.Blocked operationId target := by
  refine LabelledSystem.Run.relates (motive := fun before after =>
    before.Blocked operationId target → after.Blocked operationId target) ?_ ?_ ?_ reachable run
      blocked
  · exact fun _ atStart => atStart
  · exact fun first second atStart => second (first atStart)
  · exact fun isReachable step before => before.step isReachable step

/-- The deletion cannot end. -/
theorem Deployment.Blocked.not_canEnd (blocked : state.Blocked operationId target)
    (reachable : (deployment adapter).Reachable state) : ¬state.CanEnd adapter := by
  intro canEnd
  rcases blocked.processing with ⟨operation, stored, same, status⟩
  rcases canEnd operation stored (.inr status) with
    ⟨later, final, run, _, row, rowMem, isOwn, ended⟩
  rcases (blocked.run reachable run).processing with ⟨other, otherMem, isOther, processing⟩
  rcases KeyedRows.eq_of_key_eq final.world.db.valid.operationIds rowMem otherMem
    ((isOwn.trans same).trans isOther.symm) with rfl
  rw [processing] at ended
  rcases ended with succeeded | failed
  · cases succeeded
  · cases failed

/-- A deletion that meets a lock is not sent. -/
theorem Deployment.blocked_of_lockedDelete (reachable : (deployment adapter).Reachable state)
    (step : (deployment adapter).step state label next) (locked : label.LockedDelete) :
    ∃ operationId target, next.Blocked operationId target := by
  have careful := careful_of_reachable reachable
  cases step_progress step with
  | submitted clock server dispatch exchanges result submitting ran fits shows =>
      rcases locked with ⟨portalVmId, node, vmid, ⟨answer, called⟩, exchange, made, isListing,
        isLocked⟩
      have isOnly := World.eq_singleton careful.alone submitting
      cases careful.flights _ (List.mem_of_getElem? submitting) with
      | @submitting _ row vm stage target request carries kept =>
          rcases carries.exists_called ran with ⟨built, value, rfl, rfl, returned, isMade⟩
          rw [isMade] at made
          have isCall := congrArg Program.Exchange.call (List.mem_singleton.mp called)
          cases stage <;> simp only [Stage.command, reduceCtorEq] at isCall
          cases isCall
          rcases HttpProxmoxAdapter.inProgress_of_locked returned made isListing isLocked with rfl
          refine ⟨row.id, target,
            .storing row.virtualMachineId row ?_ carries.stored rfl carries.atRow⟩
          simp only [isOnly, List.set_cons_zero, carries.made]
          rfl
  | requested action event world clock isRequest served =>
      rcases World.event_of_request isRequest served with rfl | rfl
      · exact False.elim locked
      · exact False.elim locked
  | selected | stored | created | removed => exact False.elim locked

/-- In every state of every run of the one worker whose calls return: all active operations can
still end exactly if no deletion has met a lock. -/
theorem Deployment.canEnd_iff {history : List DeploymentEvent}
    (image : (imageMinStorageGb adapter.templateImageId).isSome = true)
    (storable : Sql.FitsText adapter.targetNode)
    (few : state.world.db.virtualMachines.length < 2 ^ 31)
    (execution : (deployment adapter).Execution history state) :
    state.CanEnd adapter ↔ ∀ event ∈ history, ¬event.LockedDelete := by
  constructor
  · intro canEnd event eventMem locked
    rcases List.append_of_mem eventMem with ⟨earlier, later, rfl⟩
    rcases execution.split with ⟨before, after, toBefore, step, run⟩
    rcases blocked_of_lockedDelete toBefore.reachable step locked with
      ⟨operationId, target, blocked⟩
    exact (blocked.run (toBefore.reachable.step step) run).not_canEnd execution.reachable canEnd
  · intro unlocked operation stored active
    rcases (undisturbed_of_execution execution unlocked).exists_run image storable few with
      ⟨later, final, run, allowed, succeeds⟩
    rcases succeeds operation stored active with ⟨row, rowMem, same, succeeded⟩
    exact ⟨later, final, run, fun event eventMem => (allowed event eventMem).1, row, rowMem, same,
      .inl succeeded⟩

end Steps

/-! ## A backup begins while a VM is to be deleted -/

/-- The deletion is marked. -/
def sampleDeletion : List DeploymentAction := sampleLockedDelete.dropLast

set_option maxRecDepth 10000 in
/-- Before it meets the lock, the deletion can end. -/
theorem sampleDeletion_canEnd :
    let state := (Deployment.initial.perform sampleImageAdapter sampleDeletion).2
    (∃ operation ∈ state.world.db.operations, operation.id = 43 ∧ operation.Active) ∧
      state.CanEnd sampleImageAdapter := by
  intro state
  have notDeleted : ∀ event ∈ (Deployment.initial.perform sampleImageAdapter sampleDeletion).1,
      event.deletes = false := by decide +kernel
  refine ⟨by decide +kernel, ?_⟩
  exact (Deployment.canEnd_iff (by decide) (by decide) (by decide +kernel)
    (Deployment.perform_execution sampleImageAdapter sampleDeletion)).mpr
    fun event eventMem => event.not_lockedDelete (notDeleted event eventMem)

set_option maxRecDepth 10000 in
/-- After it, the deletion cannot. -/
theorem sampleNotSent_not_canEnd :
    ¬∀ (adapter : HttpProxmoxAdapter) (state : Deployment),
      (imageMinStorageGb adapter.templateImageId).isSome = true → Sql.FitsText adapter.targetNode →
      state.world.db.virtualMachines.length < 2 ^ 31 → (deployment adapter).Reachable state →
      state.CanEnd adapter := by
  intro always
  rcases sampleNotSent_step with ⟨label, notSent, step⟩
  have before := Deployment.perform_execution sampleImageAdapter sampleLockedDelete
  have stranded := Deployment.stranded_of_notSent before.reachable step notSent
  have reachable := before.reachable.step step
  exact (Deployment.Blocked.stranded stranded).not_canEnd reachable
    (always sampleImageAdapter _ (by decide) (by decide) (by decide +kernel) reachable)

end NpdPortal
