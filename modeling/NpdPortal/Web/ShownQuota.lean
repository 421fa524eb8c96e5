import NpdPortal.Runs.Quota
import NpdPortal.Web.Tenants

/-!
# The quota that is shown

`GET /compute/quota` shows its caller what remains of the plan.  What it shows
is what the next request is checked against, and whatever others do, it stays
free for the caller.
-/

namespace NpdPortal

/-- The answer of `get_quota`; the three objects have the same keys. -/
structure QuotaResponse where
  status : QuotaStatus
  plan : String
  limits : RemainingQuota
  usage : RemainingQuota
  remaining : RemainingQuota
  deriving DecidableEq, Repr

/-- `get_quota`. -/
def getQuota (db : Database) (userId : Uuid) : Except Error QuotaResponse := do
  let uq ← found (db.userQuota? userId) (.runtimeError "user quota missing")
  let cp ← found (db.computePlan? uq.computePlanId) (.runtimeError "compute plan missing")
  let usage := getUserComputeUsage db userId
  pure {
    status := uq.status
    plan := cp.code
    limits := ⟨cp.maxVms, cp.maxTotalVcpus, cp.maxTotalMemoryMb, cp.maxTotalStorageGb,
      cp.maxSharedStorageGb⟩
    usage := ⟨usage.usedVms, usage.usedVcpus, usage.usedMemoryMb, usage.usedStorageGb, 0⟩
    remaining := remainingQuota cp usage }

namespace RemainingQuota

/-- The request asks for no more than remains. -/
structure Fits (remaining : RemainingQuota) (request : VirtualMachineCreate) : Prop where
  vms : 1 ≤ remaining.vms
  vcpus : request.requestedVcpus ≤ remaining.vcpus
  memoryMb : request.requestedMemoryMb ≤ remaining.memoryMb
  storageGb : request.requestedStorageGb ≤ remaining.storageGb

/-- What remains after the request. -/
def less (remaining : RemainingQuota) (request : VirtualMachineCreate) : RemainingQuota where
  vms := remaining.vms - 1
  vcpus := remaining.vcpus - request.requestedVcpus
  memoryMb := remaining.memoryMb - request.requestedMemoryMb
  storageGb := remaining.storageGb - request.requestedStorageGb
  sharedStorageGb := remaining.sharedStorageGb

end RemainingQuota

/-- Nothing but the limits of the plan can refuse the request. -/
structure Presentable (db : Database) (context : RequestContext) (userId : Uuid)
    (request : VirtualMachineCreate) (idempotencyKey : String) : Prop where
  sshKey : checkSshKey db userId request = .ok ()
  checked : ∀ quota ∈ db.userQuota? userId, checkQuotaAndImage quota request = .ok ()
  freshVm : context.vmId ∉ db.virtualMachines.map (·.id)
  freshOperation : context.operationId ∉ db.operations.map (·.id)
  unusedKey : idempotencyKey ∉ db.operations.map (·.idempotencyKey)

section Showing

variable {db next : Database} {context : RequestContext} {userId : Uuid}
  {request : VirtualMachineCreate} {idempotencyKey : String} {plan : ComputePlan}
  {usage : ComputeUsage} {shown : QuotaResponse}

/-- What is shown is what the limits are checked against. -/
theorem remainingQuota_fits_iff :
    (remainingQuota plan usage).Fits request ↔ usage.Admits plan request := by
  constructor
  · rintro ⟨vms, vcpus, memoryMb, storageGb⟩
    simp only [remainingQuota] at vms vcpus memoryMb storageGb
    constructor <;> omega
  · rintro ⟨vms, vcpus, memoryMb, storageGb⟩
    constructor <;> simp only [remainingQuota] <;> omega

theorem getQuota_eq_ok (isShown : getQuota db userId = .ok shown) :
    ∃ plan, db.planOf userId = some plan ∧
      shown.remaining = remainingQuota plan (getUserComputeUsage db userId) := by
  simp only [getQuota, bind_eq_ok, found_eq_ok] at isShown
  rcases isShown with ⟨quota, quotaStored, plan, planStored, same⟩
  cases same
  exact ⟨plan, Database.planOf_eq_some.mpr ⟨quota, quotaStored, planStored⟩, rfl⟩

theorem getQuota_of_planOf (isPlan : db.planOf userId = some plan) :
    ∃ shown, getQuota db userId = .ok shown ∧
      shown.remaining = remainingQuota plan (getUserComputeUsage db userId) := by
  rcases Database.planOf_eq_some.mp isPlan with ⟨quota, quotaStored, planStored⟩
  simp only [getQuota, quotaStored, found_some, ok_bind, planStored, pure_eq_ok]
  exact ⟨_, rfl, rfl⟩

theorem Presentable.keyed
    (presentable : Presentable db context userId request idempotencyKey) :
    db.operationByKey? idempotencyKey = none := by
  rw [Option.eq_none_iff_forall_ne_some]
  intro operation keyed
  rcases Database.operationByKey?_eq_some_iff.mp keyed with ⟨stored, isKey⟩
  exact presentable.unusedKey (List.mem_map.mpr ⟨operation, stored, isKey⟩)

/-- A presentable request is served exactly if it fits. -/
theorem Presentable.served_iff (isShown : getQuota db userId = .ok shown)
    (presentable : Presentable db context userId request idempotencyKey) :
    (∃ next vm, createVm db context userId request idempotencyKey = .ok (next, vm)) ↔
      shown.remaining.Fits request := by
  rcases getQuota_eq_ok isShown with ⟨plan, isPlan, remains⟩
  rw [remains, remainingQuota_fits_iff]
  constructor
  · rintro ⟨next, vm, served⟩
    rcases createVm_eq_ok served with ⟨created, _⟩ | ⟨_, before⟩
    · rcases created.quota with ⟨quota, other, quotaStored, _, planStored, admits⟩
      have same := Database.planOf_eq_some.mpr ⟨quota, quotaStored, planStored⟩
      rcases Option.some.inj (isPlan.symm.trans same) with rfl
      exact admits
    · rcases before.operation with ⟨operation, keyed, _⟩
      rw [presentable.keyed] at keyed
      cases keyed
  · intro admits
    rcases Database.planOf_eq_some.mp isPlan with ⟨quota, quotaStored, planStored⟩
    have inserts : db.insert [newVm context.vmId userId request]
        [newCreateOperation context.operationId context.vmId idempotencyKey context.now] ≠
          none := by
      rw [Ne, insert_create_eq_none_iff presentable.sshKey]
      simp [presentable.freshVm, presentable.freshOperation, presentable.unusedKey]
    rcases Option.ne_none_iff_exists'.mp inserts with ⟨next, inserted⟩
    exact ⟨next, _, createVm_of_insert context presentable.sshKey quotaStored
      (presentable.checked quota quotaStored) planStored admits presentable.keyed inserted⟩

/-- The next answer shows what the request has taken. -/
theorem Created.getQuota (isShown : NpdPortal.getQuota db userId = .ok shown)
    (created : Created db next context userId request idempotencyKey) :
    ∃ after, NpdPortal.getQuota next userId = .ok after ∧
      after.remaining = shown.remaining.less request := by
  rcases getQuota_eq_ok isShown with ⟨plan, isPlan, remains⟩
  have keeps : next.planOf userId = some plan := by
    rw [← isPlan]
    simp [Database.planOf, Database.userQuota?, Database.computePlan?, created.tables]
  have rows : next.virtualMachines =
      db.virtualMachines ++ [newVm context.vmId userId request] := by
    rw [created.tables]
  rcases getQuota_of_planOf keeps with ⟨after, isAfter, remainsAfter⟩
  refine ⟨after, isAfter, ?_⟩
  have consumes : (newVm context.vmId userId request).ConsumesQuota := by
    simp [VirtualMachine.ConsumesQuota, newVm, quotaConsumingStatuses]
  rw [remainsAfter, remains, usage_append _ rows userId, if_pos ⟨rfl, consumes⟩]
  simp [remainingQuota, RemainingQuota.less, newVm, Int.sub_sub]

end Showing

section Runs

variable {world next target : World} {event : Event} {later : List Event} {userId : Uuid}

/-- All VMs of the user in the second world are in the first. -/
def NoneCreated (userId : Uuid) (world target : World) : Prop :=
  ∀ vm ∈ target.db.virtualMachines, vm.ownerUserId = userId →
    vm.id ∈ world.db.virtualMachines.map (·.id)

/-- A step in which the user creates nothing adds nothing to the usage. -/
theorem Progress.usage_of_noneCreated (progress : Progress world event next)
    (none : NoneCreated userId world next) :
    (getUserComputeUsage next.db userId).AtMost (getUserComputeUsage world.db userId) := by
  rcases progress.usage with atMost | ⟨context, owner, request, idempotencyKey, _, created⟩
  · exact atMost userId
  · have rows : next.db.virtualMachines =
        world.db.virtualMachines ++ [newVm context.vmId owner request] := by
      rw [created.tables]
    have other : ¬((newVm context.vmId owner request).ownerUserId = userId ∧
        (newVm context.vmId owner request).ConsumesQuota) := by
      rintro ⟨own, _⟩
      have inNext : newVm context.vmId owner request ∈ next.db.virtualMachines := by
        rw [rows]
        exact List.mem_append_right _ (List.mem_singleton_self _)
      have taken := none _ inNext own
      have ids := next.db.valid.vmIds
      rw [rows, List.map_append, List.nodup_append] at ids
      exact ids.2.2 _ taken _ (List.mem_singleton_self _) rfl
    rw [usage_append _ rows userId, if_neg other]
    exact .refl _

theorem ComputeUsage.AtMost.trans {first second third : ComputeUsage}
    (before : first.AtMost second) (after : second.AtMost third) : first.AtMost third :=
  ⟨before.vms.trans after.vms, before.vcpus.trans after.vcpus,
    before.memoryMb.trans after.memoryMb, before.storageGb.trans after.storageGb⟩

/-- Whatever others do, the usage of the user does not grow and the plan is not lowered. -/
theorem usage_of_run (reachable : portal.Reachable world)
    (run : portal.Run world later target) (none : NoneCreated userId world target) :
    (getUserComputeUsage target.db userId).AtMost (getUserComputeUsage world.db userId) ∧
      ∀ plan, world.db.planOf userId = some plan →
        ∃ other, target.db.planOf userId = some other ∧ plan.Raised other := by
  induction run with
  | nil => exact ⟨.refl _, fun plan isPlan => ⟨plan, isPlan, .refl plan⟩⟩
  | @snoc middle target history event before last ih =>
      have middleReachable : portal.Reachable middle := by
        rcases reachable with ⟨source, first, initial, toWorld⟩
        exact ⟨source, _, initial, toWorld.append before⟩
      have progress := step_progress (sound_of_reachable middleReachable) last
      have early : NoneCreated userId world middle := by
        intro vm vmMem own
        rcases progress.onward vmMem with ⟨row, rowMem, onward⟩
        rw [← onward.id]
        exact none row rowMem (onward.ownerUserId.trans own)
      have late : NoneCreated userId middle target := by
        intro vm vmMem own
        rcases List.mem_map.mp (none vm vmMem own) with ⟨old, oldMem, same⟩
        rcases onward_of_run reachable before oldMem with ⟨row, rowMem, onward⟩
        exact List.mem_map.mpr ⟨row, rowMem, onward.id.trans same⟩
      rcases ih early with ⟨atMost, keepsPlan⟩
      refine ⟨(progress.usage_of_noneCreated late).trans atMost, fun plan isPlan => ?_⟩
      rcases keepsPlan plan isPlan with ⟨between, isBetween, toBetween⟩
      rcases progress.planOf isBetween with ⟨other, isOther, toOther⟩
      exact ⟨other, isOther, toBetween.trans toOther⟩

end Runs

/-- What `get_quota` shows is a promise: as long as the user creates no VM, whatever workers,
other users and administrators do, every request that fits what was shown fits later on.  A
presentable request is served exactly if it fits what is shown at its time, and the next answer
shows what it has taken. -/
theorem shown_quota_kept {world target : World} {later : List Event} {userId : Uuid}
    {shown : QuotaResponse} (reachable : portal.Reachable world)
    (run : portal.Run world later target) (none : NoneCreated userId world target)
    (isShown : getQuota world.db userId = .ok shown) :
    ∃ current, getQuota target.db userId = .ok current ∧
      (∀ request, shown.remaining.Fits request → current.remaining.Fits request) ∧
      ∀ context request idempotencyKey,
        Presentable target.db context userId request idempotencyKey →
        ((∃ next vm, createVm target.db context userId request idempotencyKey = .ok (next, vm)) ↔
          current.remaining.Fits request) ∧
        ∀ next vm, createVm target.db context userId request idempotencyKey = .ok (next, vm) →
          ∃ after, getQuota next userId = .ok after ∧
            after.remaining = current.remaining.less request := by
  rcases getQuota_eq_ok isShown with ⟨plan, isPlan, remains⟩
  rcases usage_of_run reachable run none with ⟨atMost, keepsPlan⟩
  rcases keepsPlan plan isPlan with ⟨other, isOther, raised⟩
  rcases getQuota_of_planOf isOther with ⟨current, isCurrent, remainsNow⟩
  refine ⟨current, isCurrent, ?_, ?_⟩
  · intro request fits
    rw [remains, remainingQuota_fits_iff] at fits
    rw [remainsNow, remainingQuota_fits_iff]
    exact fits.mono atMost raised
  · intro context request idempotencyKey presentable
    refine ⟨presentable.served_iff isCurrent, fun next vm served => ?_⟩
    rcases createVm_eq_ok served with ⟨created, _⟩ | ⟨_, before⟩
    · exact created.getQuota isCurrent
    · rcases before.operation with ⟨operation, keyed, _⟩
      rw [presentable.keyed] at keyed
      cases keyed

/-- User 1 has been shown the quota when user 2 creates a VM. -/
def sampleShown : World :=
  (World.initial.perform [.administer sampleUsers]).2

def sampleOthers : List Action :=
  [.createVm ⟨32, 42, 0⟩ 2 { sampleRequest with sshPublicKeyId := 12 } "other"]

set_option maxRecDepth 10000 in
theorem sampleShown_kept :
    ∃ next vm, createVm (sampleShown.perform sampleOthers).2.db ⟨31, 41, 1⟩ 1 sampleRequest
      "key" = .ok (next, vm) := by
  have reachable : portal.Reachable sampleShown :=
    ⟨.initial, _, rfl, World.initial.perform_run [.administer sampleUsers]⟩
  have isShown : getQuota sampleShown.db 1 = .ok ⟨.active, "starter", ⟨2, 4, 4096, 40, 0⟩,
      ⟨0, 0, 0, 0, 0⟩, ⟨2, 4, 4096, 40, 0⟩⟩ := by decide +kernel
  have none : NoneCreated 1 sampleShown (sampleShown.perform sampleOthers).2 := by
    unfold NoneCreated
    decide +kernel
  rcases shown_quota_kept reachable (sampleShown.perform_run sampleOthers) none isShown with
    ⟨current, _, keeps, serves⟩
  have presentable : Presentable (sampleShown.perform sampleOthers).2.db ⟨31, 41, 1⟩ 1
      sampleRequest "key" := by
    constructor <;> decide +kernel
  exact (serves _ _ _ presentable).1.mpr
    (keeps sampleRequest ⟨by decide, by decide, by decide, by decide⟩)

end NpdPortal
