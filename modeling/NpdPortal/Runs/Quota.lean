import NpdPortal.Runs.Machines

/-!
# The quota along runs

A request is admitted against the usage of its owner, and every other step
leaves the usage as it is or lowers it, so the usage stays within the plan.  A
VM is released only on the evidence that it was not created or is deleted.
-/

namespace NpdPortal

/-- No number of the first usage is larger. -/
structure ComputeUsage.AtMost (usage other : ComputeUsage) : Prop where
  vms : usage.usedVms ≤ other.usedVms
  vcpus : usage.usedVcpus ≤ other.usedVcpus
  memoryMb : usage.usedMemoryMb ≤ other.usedMemoryMb
  storageGb : usage.usedStorageGb ≤ other.usedStorageGb

namespace ComputeUsage

variable {usage other : ComputeUsage} {plan raised : ComputePlan}
  {request : VirtualMachineCreate}

theorem AtMost.refl (usage : ComputeUsage) : usage.AtMost usage :=
  ⟨le_rfl, le_rfl, le_rfl, le_rfl⟩

theorem Within.mono (within : other.Within plan) (atMost : usage.AtMost other)
    (isRaised : plan.Raised raised) : usage.Within raised where
  vms := (atMost.vms.trans within.vms).trans isRaised.vms
  vcpus := (atMost.vcpus.trans within.vcpus).trans isRaised.vcpus
  memoryMb := (atMost.memoryMb.trans within.memoryMb).trans isRaised.memoryMb
  storageGb := (atMost.storageGb.trans within.storageGb).trans isRaised.storageGb

theorem Admits.mono (admits : other.Admits plan request) (atMost : usage.AtMost other)
    (isRaised : plan.Raised raised) : usage.Admits raised request where
  vms := (Nat.add_le_add_right atMost.vms _).trans (admits.vms.trans isRaised.vms)
  vcpus := (Nat.add_le_add_right atMost.vcpus _).trans (admits.vcpus.trans isRaised.vcpus)
  memoryMb :=
    (Nat.add_le_add_right atMost.memoryMb _).trans (admits.memoryMb.trans isRaised.memoryMb)
  storageGb :=
    (Nat.add_le_add_right atMost.storageGb _).trans (admits.storageGb.trans isRaised.storageGb)

end ComputeUsage

theorem ComputePlan.Raised.refl (plan : ComputePlan) : plan.Raised plan :=
  ⟨le_rfl, le_rfl, le_rfl, le_rfl⟩

theorem ComputePlan.Raised.trans {first second third : ComputePlan}
    (before : first.Raised second) (after : second.Raised third) : first.Raised third :=
  ⟨before.vms.trans after.vms, before.vcpus.trans after.vcpus,
    before.memoryMb.trans after.memoryMb, before.storageGb.trans after.storageGb⟩

section Usage

variable {db next : Database}

theorem usage_eq_of_vms (same : next.virtualMachines = db.virtualMachines) (userId : Uuid) :
    getUserComputeUsage next userId = getUserComputeUsage db userId := by
  simp [getUserComputeUsage, Database.consumingVms, same]

/-- A move of a VM adds nothing to the usage. -/
theorem usage_atMost_of_replace {vm written : VirtualMachine} (vmMem : vm ∈ db.virtualMachines)
    (consumes : vm.ConsumesQuota) (onward : vm.Onward written)
    (rows : next.virtualMachines =
      KeyedRows.replace VirtualMachine.id written db.virtualMachines) (userId : Uuid) :
    (getUserComputeUsage next userId).AtMost (getUserComputeUsage db userId) := by
  have isVm : ∀ old ∈ db.virtualMachines, old.id = written.id → old = vm := fun old oldMem same =>
    KeyedRows.eq_of_key_eq db.valid.vmIds oldMem vmMem (same.trans onward.id)
  have sums : ∀ value : VirtualMachine → ℕ, value written = value vm →
      ((next.consumingVms userId).map value).sum ≤ ((db.consumingVms userId).map value).sum := by
    intro value same
    unfold Database.consumingVms
    rw [rows]
    refine KeyedRows.sum_filter_replace_le _ value fun old oldMem equal chosen => ?_
    rcases isVm old oldMem equal with rfl
    simp only [decide_eq_true_eq] at chosen ⊢
    exact ⟨⟨onward.ownerUserId ▸ chosen.1, consumes⟩, same.le⟩
  refine ⟨?_, sums _ onward.requestedVcpus, sums _ onward.requestedMemoryMb,
    sums _ onward.requestedStorageGb⟩
  simpa [getUserComputeUsage] using sums (fun _ => 1) rfl

/-- The usage after a VM was inserted. -/
theorem usage_append (vm : VirtualMachine)
    (rows : next.virtualMachines = db.virtualMachines ++ [vm]) (userId : Uuid) :
    getUserComputeUsage next userId =
      if vm.ownerUserId = userId ∧ vm.ConsumesQuota then
        { usedVms := (getUserComputeUsage db userId).usedVms + 1
          usedVcpus := (getUserComputeUsage db userId).usedVcpus + vm.requestedVcpus
          usedMemoryMb := (getUserComputeUsage db userId).usedMemoryMb + vm.requestedMemoryMb
          usedStorageGb := (getUserComputeUsage db userId).usedStorageGb + vm.requestedStorageGb }
      else getUserComputeUsage db userId := by
  have selected : next.consumingVms userId = db.consumingVms userId ++
      if vm.ownerUserId = userId ∧ vm.ConsumesQuota then [vm] else [] := by
    unfold Database.consumingVms
    rw [rows, List.filter_append]
    by_cases counts : vm.ownerUserId = userId ∧ vm.ConsumesQuota <;> simp [counts]
  unfold getUserComputeUsage
  rw [selected]
  split <;> simp

end Usage

/-! ## The usage stays within the plan -/

section Runs

variable {world next : World} {event : Event}

/-- Only the request for a new VM adds to the usage. -/
theorem Progress.usage (progress : Progress world event next) :
    (∀ userId, (getUserComputeUsage next.db userId).AtMost
      (getUserComputeUsage world.db userId)) ∨
    ∃ context userId request idempotencyKey, event = .requested ∧
      Created world.db next.db context userId request idempotencyKey := by
  have keeps : next.db.virtualMachines = world.db.virtualMachines → ∀ userId,
      (getUserComputeUsage next.db userId).AtMost (getUserComputeUsage world.db userId) :=
    fun same userId => usage_eq_of_vms same userId ▸ .refl _
  cases progress with
  | created db context userId request idempotencyKey created =>
      exact .inr ⟨context, userId, request, idempotencyKey, rfl, created⟩
  | enqueued db context userId vmId operationType idempotencyKey vm enqueued =>
      exact .inl (keeps (by rw [enqueued.tables]))
  | administered db administers => exact .inl (keeps administers.vms)
  | marked db operation updated vm stage request target moved =>
      exact .inl fun userId => usage_atMost_of_replace moved.vmMem moved.consumes
        (moved.onward fun _ same => by cases same) moved.virtualMachines userId
  | followed db operation updated vm position reached change evidence exchanges shows _ moved =>
      refine .inl fun userId => usage_atMost_of_replace moved.vmMem moved.consumes
        (moved.onward ?_) moved.virtualMachines userId
      rintro target rfl
      exact shows.1
  | stored index dispatch outcome db operation updated vm position reached change _ _ moved =>
      exact .inl fun userId => usage_atMost_of_replace moved.vmMem moved.consumes
        (moved.onward fun _ same => by cases same) moved.virtualMachines userId
  | _ => exact .inl (keeps rfl)

theorem Database.planOf_eq_some {db : Database} {userId : Uuid} {plan : ComputePlan} :
    db.planOf userId = some plan ↔ ∃ quota, db.userQuota? userId = some quota ∧
      db.computePlan? quota.computePlanId = some plan := by
  simp [Database.planOf, Option.bind_eq_some_iff]

/-- No step lowers the plan of a user. -/
theorem Progress.planOf (progress : Progress world event next) {userId : Uuid}
    {plan : ComputePlan} (stored : world.db.planOf userId = some plan) :
    ∃ other, next.db.planOf userId = some other ∧ plan.Raised other := by
  have keeps : next.db.userQuotas = world.db.userQuotas →
      next.db.computePlans = world.db.computePlans →
      ∃ other, next.db.planOf userId = some other ∧ plan.Raised other := by
    intro quotas plans
    refine ⟨plan, ?_, .refl plan⟩
    rw [← stored]
    simp [Database.planOf, Database.userQuota?, Database.computePlan?, quotas, plans]
  cases progress with
  | created db context userId request idempotencyKey created =>
      exact keeps (by rw [created.tables]) (by rw [created.tables])
  | enqueued db context userId vmId operationType idempotencyKey vm enqueued =>
      exact keeps (by rw [enqueued.tables]) (by rw [enqueued.tables])
  | administered db administers =>
      rcases Database.planOf_eq_some.mp stored with ⟨quota, quotaStored, _⟩
      rcases Database.userQuota?_eq_some_iff.mp quotaStored with ⟨quotaMem, rfl⟩
      exact administers.plans quota quotaMem plan stored
  | marked db operation updated vm stage request target moved =>
      exact keeps (by rw [moved.tables]) (by rw [moved.tables])
  | followed db operation updated vm position reached change evidence exchanges _ _ moved =>
      exact keeps (by rw [moved.tables]) (by rw [moved.tables])
  | stored index dispatch outcome db operation updated vm position reached change _ _ moved =>
      exact keeps (by rw [moved.tables]) (by rw [moved.tables])
  | _ => exact keeps rfl rfl

/-- The usage of every user with a VM is within a plan. -/
def World.WithinPlans (world : World) : Prop :=
  ∀ userId, (getUserComputeUsage world.db userId).usedVms = 0 ∨
    ∃ plan, world.db.planOf userId = some plan ∧
      (getUserComputeUsage world.db userId).Within plan

/-- Without a VM nothing is used. -/
theorem usage_within_of_no_vms {db : Database} {userId : Uuid}
    (none : (getUserComputeUsage db userId).usedVms = 0) (plan : ComputePlan) :
    (getUserComputeUsage db userId).Within plan := by
  have empty : db.consumingVms userId = [] := List.eq_nil_of_length_eq_zero none
  constructor <;> simp [getUserComputeUsage, empty]

theorem Progress.withinPlans (progress : Progress world event next) (within : world.WithinPlans) :
    next.WithinPlans := by
  intro userId
  rcases progress.usage with atMost | ⟨context, owner, request, idempotencyKey, _, created⟩
  · rcases within userId with none | ⟨plan, stored, within⟩
    · exact .inl (Nat.le_zero.mp ((atMost userId).vms.trans none.le))
    · rcases progress.planOf stored with ⟨other, otherStored, raised⟩
      exact .inr ⟨other, otherStored, within.mono (atMost userId) raised⟩
  · have rows : next.db.virtualMachines =
        world.db.virtualMachines ++ [newVm context.vmId owner request] := by
      rw [created.tables]
    have usage := usage_append (newVm context.vmId owner request) rows userId
    by_cases counts : (newVm context.vmId owner request).ownerUserId = userId ∧
        (newVm context.vmId owner request).ConsumesQuota
    · rcases counts.1 with rfl
      rcases created.quota with ⟨quota, plan, quotaStored, _, planStored, admits⟩
      rcases progress.planOf (Database.planOf_eq_some.mpr ⟨quota, quotaStored, planStored⟩) with
        ⟨other, otherStored, raised⟩
      refine .inr ⟨other, otherStored, ?_⟩
      rw [usage, if_pos counts]
      exact ⟨admits.vms.trans raised.vms, admits.vcpus.trans raised.vcpus,
        admits.memoryMb.trans raised.memoryMb, admits.storageGb.trans raised.storageGb⟩
    · rw [usage, if_neg counts]
      rcases within userId with none | ⟨plan, stored, within⟩
      · exact .inl none
      · rcases progress.planOf stored with ⟨other, otherStored, raised⟩
        exact .inr ⟨other, otherStored, within.mono (.refl _) raised⟩

/-- In every reachable world the usage is within the plans. -/
theorem withinPlans_of_reachable (reachable : portal.Reachable world) : world.WithinPlans := by
  rcases reachable with ⟨source, history, initial, run⟩
  have execution : portal.Execution history world := ⟨source, initial, run⟩
  refine execution.invariant (motive := fun _ world => world.WithinPlans) ?_ ?_
  · rintro state rfl userId
    exact .inl rfl
  · intro earlier state event later before within step
    exact (step_progress (sound_of_reachable before.reachable) step).withinPlans within

end Runs

/-! ## What releases a VM -/

/-- The provider reported in this step that the create of the VM failed or that the VM is
deleted. -/
def Event.Releases (world : World) (vm : VirtualMachine) : Event → Prop
  | .selected operation exchanges (some _) => operation.virtualMachineId = vm.id ∧
      ((operation.operationType = .vmCreate ∧ ∃ task status,
          ⟨.getTaskStatus task, .ok status⟩ ∈ exchanges ∧
          operation.providerTaskId = some task.taskId ∧ status.status = .failed) ∨
        (operation.operationType = .vmDelete ∧ operation.status = .processing ∧
          ((∃ task status, ⟨.getTaskStatus task, .ok status⟩ ∈ exchanges ∧
              operation.providerTaskId = some task.taskId ∧ status.status = .succeeded) ∨
            ∃ node vmid state, ⟨.getVmPowerState vm.id node vmid, .ok state⟩ ∈ exchanges ∧
              state.status = .missing)))
  | .stored dispatch (.ok (.delete result)) true =>
      result.state = .succeeded ∧ ∃ operation ∈ world.db.operations,
        operation.id = dispatch.operationId ∧ operation.operationType = .vmDelete ∧
          operation.virtualMachineId = vm.id
  | _ => False

section Release

variable {world next : World} {event : Event}

/-- The change takes a VM out of the statuses that count. -/
def VmChange.Frees (change : VmChange) : Prop :=
  change = .setStatus .failed ∨ change = .setStatus .deleted

instance : DecidablePred VmChange.Frees := fun _ => inferInstanceAs (Decidable (_ ∨ _))

theorem VmChange.frees_of_released {change : VmChange} {status : VmStatus}
    (consumes : status ∈ quotaConsumingStatuses)
    (released : change.newStatus status ∉ quotaConsumingStatuses) : change.Frees := by
  cases change with
  | setStatus other =>
      have stays : other ∉ quotaConsumingStatuses := released
      cases other with
      | failed => exact .inl rfl
      | deleted => exact .inr rfl
      | _ => exact absurd (by decide) stays
  | _ => exact absurd consumes released

/-- The moves after which a VM no longer counts. -/
theorem Advance.releases {evidence : Evidence} {position reached : Position}
    {change : VmChange} (advance : Advance evidence position reached change)
    (frees : change.Frees) :
    (∃ stage backoff answer, position = .polling stage backoff ∧
      evidence = .polled (.ok answer) ∧
      ((stage.operationType = .vmCreate ∧ answer.status = .failed) ∨
        (stage = .delete ∧ answer.status = .succeeded))) ∨
    (∃ state, position.Awaits .delete ∧ evidence = .read (.ok state) ∧
      state.status = .missing) ∨
    ∃ result, position = .dispatching .delete ∧ evidence = .outcome (.ok result) ∧
      Stage.delete.reply result = some .done := by
  have onlyDelete : ∀ stage : Stage, stage.doneChange.Frees → stage = .delete := by decide
  have notMarked : ∀ stage : Stage, ¬stage.markChange.Frees := by decide
  have notTask : ∀ stage : Stage, ¬stage.taskChange.Frees := by decide
  cases advance with
  | pollSucceeded stage backoff answer succeeded =>
      have onPoll : ∀ stage : Stage, stage.pollChange.Frees → stage = .delete := by decide
      exact .inl ⟨stage, backoff, answer, rfl, rfl, .inr ⟨onPoll stage frees, succeeded⟩⟩
  | pollFailed stage backoff answer failed =>
      have onFail : ∀ stage : Stage, stage.failChange.Frees →
          stage.operationType = .vmCreate := by decide
      exact .inl ⟨stage, backoff, answer, rfl, rfl, .inl ⟨onFail stage frees, failed⟩⟩
  | confirmed stage position state awaits confirms =>
      rcases onlyDelete stage frees with rfl
      exact .inr (.inl ⟨state, awaits, rfl, confirms⟩)
  | storeDone stage result done =>
      rcases onlyDelete stage frees with rfl
      exact .inr (.inr ⟨result, rfl, rfl, done⟩)
  | mark stage => exact absurd frees (notMarked stage)
  | storeTask stage => exact absurd frees (notTask stage)
  | storeInProgress stage => exact absurd frees (notTask stage)
  | _ => rcases frees with same | same <;> cases same

/-- A VM is released only in a step in which the provider reported the reason. -/
theorem Progress.releases (progress : Progress world event next) {vm later : VirtualMachine}
    (stored : vm ∈ world.db.virtualMachines) (laterStored : later ∈ next.db.virtualMachines)
    (same : later.id = vm.id) (consumes : vm.ConsumesQuota) (released : ¬later.ConsumesQuota) :
    event.Releases world vm := by
  rcases progress.vm stored with kept | ⟨evidence, operation, updated, position, reached, change,
    moved, given, _, written⟩
  · rcases KeyedRows.eq_of_key_eq next.db.valid.vmIds laterStored kept same with rfl
    exact absurd consumes released
  · rcases KeyedRows.eq_of_key_eq next.db.valid.vmIds laterStored written
      (same.trans (change.apply_id vm).symm) with rfl
    have sameVm : operation.virtualMachineId = vm.id := moved.vmId.symm
    have frees : change.Frees := VmChange.frees_of_released consumes
      (by simpa [VirtualMachine.ConsumesQuota] using released)
    rcases moved.advance.releases frees with
      ⟨stage, backoff, answer, rfl, rfl, which⟩ | ⟨state, awaits, rfl, missing⟩ |
      ⟨result, rfl, rfl, done⟩
    · rcases given with ⟨exchanges, rfl, task, storedTask, _, _, rfl⟩
      refine ⟨sameVm, ?_⟩
      rcases which with ⟨isCreate, failed⟩ | ⟨rfl, succeeded⟩
      · exact .inl ⟨moved.atPosition.operationType.trans isCreate, task, answer,
          List.mem_singleton_self _, storedTask, failed⟩
      · exact .inr ⟨moved.atPosition.operationType, moved.atPosition.status,
          .inl ⟨task, answer, List.mem_singleton_self _, storedTask, succeeded⟩⟩
    · rcases given with ⟨exchanges, rfl, target, _, _, rfl⟩
      rcases moved.atPosition.of_awaits awaits with ⟨kind, processing, _⟩
      exact ⟨sameVm, .inr ⟨kind, processing, .inr ⟨target.node, target.vmid, state,
        List.mem_singleton_self _, missing⟩⟩⟩
    · rcases given with ⟨dispatch, rfl, sameId⟩
      rcases result with _ | _ | ⟨_ | _ | _, _ | _⟩ <;>
        simp only [Stage.reply, reduceCtorEq, Option.some.injEq] at done
      exact ⟨rfl, operation, moved.stored, sameId.symm, moved.atPosition.operationType, sameVm⟩

end Release

end NpdPortal
