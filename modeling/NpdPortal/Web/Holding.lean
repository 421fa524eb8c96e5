import NpdPortal.Library.Exclusive
import NpdPortal.Runs.Quota
import NpdPortal.Web.Sessions

/-!
# What an open request may rely on

`Work.Holds` states what the executed statements of a request have
established.  It stays true while other transactions commit, because they can
change neither the rows that the request has locked nor, under the lock of the
quota row, add to the usage of the user: `Database.Evolves` collects what a
commit of another transaction leaves alone.
-/

namespace NpdPortal

/-! ## What the statements establish -/

/-- The quota row of the user is locked. -/
structure CreateCall.Locked (call : CreateCall) (db : Database) (quota : UserQuota) : Prop where
  sshKey : checkSshKey db call.userId call.request = .ok ()
  quotaStored : db.userQuota? call.userId = some quota

/-- The quota row and the image allow the request. -/
structure CreateCall.Checked (call : CreateCall) (db : Database) (quota : UserQuota) : Prop
    extends call.Locked db quota where
  checked : checkQuotaAndImage quota call.request = .ok ()

/-- The plan was read; it may have been raised since. -/
structure CreateCall.Planned (call : CreateCall) (db : Database) (quota : UserQuota)
    (plan : ComputePlan) : Prop extends call.Checked db quota where
  planStored : ∃ current, db.computePlan? quota.computePlanId = some current ∧ plan.Raised current

/-- The plan has room for the request. -/
structure CreateCall.Admitted (call : CreateCall) (db : Database) (quota : UserQuota)
    (plan : ComputePlan) : Prop extends call.Planned db quota plan where
  admits : (getUserComputeUsage db call.userId).Admits plan call.request

/-- The operation which was read with this key is still stored, whatever its progress. -/
def Database.Knows (db : Database) (idempotencyKey : String) (operation : Operation) : Prop :=
  operation.idempotencyKey = idempotencyKey ∧
    ∃ current ∈ db.operations, operation.SameIdentity current

/-- The VM of the requester is locked. -/
structure EnqueueCall.Locked (call : EnqueueCall) (db : Database) (statuses : List VmStatus)
    (vm : VirtualMachine) : Prop where
  allowed : allowedStatuses call.operationType = some statuses
  own : ownVm? db call.userId call.vmId = some vm

/-- No operation of the VM is active and its status allows the operation. -/
structure EnqueueCall.Allowed (call : EnqueueCall) (db : Database) (statuses : List VmStatus)
    (vm : VirtualMachine) : Prop extends call.Locked db statuses vm where
  inactive : ∀ operation ∈ db.operationsOf call.vmId, ¬operation.Active
  status : vm.status ∈ statuses

/-- The index has no committed entry where a transaction has inserted one. -/
def Resource.Vacant (db : Database) : Resource → Prop
  | operation id => id ∉ db.operations.map (·.id)
  | idempotencyKey key => key ∉ db.operations.map (·.idempotencyKey)
  | userQuota _ | virtualMachine _ => True

/-- What the executed statements of a request have established. -/
def Work.Holds (db : Database) : Work → Prop
  | create call point =>
      match point with
      | .checkingSshKey | .rechecking => True
      | .lockingQuota => checkSshKey db call.userId call.request = .ok ()
      | .lookingUp quota => call.Locked db quota
      | .readingExisting _ operation | .recheckingExisting operation =>
          db.Knows call.idempotencyKey operation
      | .readingPlan quota => call.Checked db quota
      | .readingUsage quota plan => call.Planned db quota plan
      | .insertingVm quota plan => call.Admitted db quota plan
      | .insertingOperation quota plan vm => call.Admitted db quota plan ∧
          vm = newVm vm.id call.userId call.request ∧ db.virtualMachine? vm.id = none
      | .committing quota plan vm operation => call.Admitted db quota plan ∧
          vm = newVm vm.id call.userId call.request ∧ db.virtualMachine? vm.id = none ∧
          operation = newCreateOperation operation.id vm.id call.idempotencyKey
            operation.updatedAt ∧
          operation.id ∉ db.operations.map (·.id) ∧
          call.idempotencyKey ∉ db.operations.map (·.idempotencyKey)
  | enqueue call point =>
      match point with
      | .lockingVm => True
      | .lookingUp statuses vm | .checkingActive statuses vm => call.Locked db statuses vm
      | .inserting statuses vm => call.Allowed db statuses vm
      | .committing statuses vm operation => call.Allowed db statuses vm ∧
          operation = newLifecycleOperation operation.id vm.id call.operationType
            call.idempotencyKey operation.updatedAt ∧
          operation.id ∉ db.operations.map (·.id) ∧
          call.idempotencyKey ∉ db.operations.map (·.idempotencyKey)
      | .rechecking _ => call.operationType ≠ .vmCreate ∧
          ∃ row ∈ db.virtualMachines, row.id = call.vmId ∧ row.ownerUserId = call.userId

/-- What the commit of another transaction leaves alone for a request under way. -/
structure Database.Evolves (db next : Database) (work : Work) : Prop where
  sshKeys : ∀ key ∈ db.sshPublicKeys, key ∈ next.sshPublicKeys
  plans : ∀ {userId plan}, db.planOf userId = some plan →
    ∃ other, next.planOf userId = some other ∧ plan.Raised other
  kept : ∀ resource ∈ work.resources, resource.Kept db next
  vacant : ∀ resource ∈ work.resources, resource.Vacant db → resource.Vacant next
  usage : ∀ userId, .userQuota userId ∈ work.resources →
    (getUserComputeUsage next userId).AtMost (getUserComputeUsage db userId)
  inactive : ∀ id, .virtualMachine id ∈ work.resources →
    (∀ operation ∈ db.operationsOf id, ¬operation.Active) →
    ∀ operation ∈ next.operationsOf id, ¬operation.Active
  operations : ∀ operation ∈ db.operations, ∃ later ∈ next.operations,
    operation.SameIdentity later
  vms : ∀ vm ∈ db.virtualMachines, ∃ later ∈ next.virtualMachines, vm.Onward later

section Evolving

variable {db next : Database} {work : Work}

theorem checkSshKey_mono (kept : ∀ key ∈ db.sshPublicKeys, key ∈ next.sshPublicKeys)
    {userId : Uuid} {request : VirtualMachineCreate}
    (checked : checkSshKey db userId request = .ok ()) :
    checkSshKey next userId request = .ok () := by
  rcases require_eq_ok.mp checked with ⟨key, keyMem, facts⟩
  exact require_of ⟨key, kept key keyMem, facts⟩

theorem Database.Knows.mono {idempotencyKey : String} {operation : Operation}
    (knows : db.Knows idempotencyKey operation)
    (kept : ∀ operation ∈ db.operations, ∃ later ∈ next.operations,
      operation.SameIdentity later) : next.Knows idempotencyKey operation := by
  rcases knows with ⟨sameKey, current, currentMem, same⟩
  rcases kept current currentMem with ⟨later, laterMem, sameLater⟩
  exact ⟨sameKey, later, laterMem, same.trans sameLater⟩

section Create

variable {call : CreateCall} {quota : UserQuota} {plan : ComputePlan}

theorem CreateCall.Locked.mono (locked : call.Locked db quota) (evolves : db.Evolves next work)
    (holdsQuota : .userQuota call.userId ∈ work.resources) : call.Locked next quota where
  sshKey := checkSshKey_mono evolves.sshKeys locked.sshKey
  quotaStored := (evolves.kept _ holdsQuota).trans locked.quotaStored

theorem CreateCall.Checked.mono (checked : call.Checked db quota) (evolves : db.Evolves next work)
    (holdsQuota : .userQuota call.userId ∈ work.resources) : call.Checked next quota where
  toLocked := checked.toLocked.mono evolves holdsQuota
  checked := checked.checked

theorem CreateCall.Planned.mono (planned : call.Planned db quota plan)
    (evolves : db.Evolves next work) (holdsQuota : .userQuota call.userId ∈ work.resources) :
    call.Planned next quota plan where
  toChecked := planned.toChecked.mono evolves holdsQuota
  planStored := by
    rcases planned.planStored with ⟨current, stored, raised⟩
    rcases evolves.plans (Database.planOf_eq_some.mpr ⟨quota, planned.quotaStored, stored⟩) with
      ⟨other, otherStored, raisedOther⟩
    rcases Database.planOf_eq_some.mp otherStored with ⟨row, rowStored, otherOfRow⟩
    have same := (evolves.kept _ holdsQuota).trans planned.quotaStored
    rcases Option.some.inj (rowStored.symm.trans same) with rfl
    exact ⟨other, otherOfRow, raised.trans raisedOther⟩

theorem CreateCall.Admitted.mono (admitted : call.Admitted db quota plan)
    (evolves : db.Evolves next work) (holdsQuota : .userQuota call.userId ∈ work.resources) :
    call.Admitted next quota plan where
  toPlanned := admitted.toPlanned.mono evolves holdsQuota
  admits := admitted.admits.mono (evolves.usage _ holdsQuota) (.refl plan)

end Create

section Enqueue

variable {call : EnqueueCall} {statuses : List VmStatus} {vm : VirtualMachine}

theorem EnqueueCall.Locked.vm_id (locked : call.Locked db statuses vm) : vm.id = call.vmId :=
  (Database.virtualMachine?_eq_some_iff.mp (ownVm?_eq_some.mp locked.own).1).2

theorem EnqueueCall.Locked.mono (locked : call.Locked db statuses vm)
    (evolves : db.Evolves next work) (holdsVm : .virtualMachine vm.id ∈ work.resources) :
    call.Locked next statuses vm where
  allowed := locked.allowed
  own := by
    rcases ownVm?_eq_some.mp locked.own with ⟨stored, owner⟩
    have kept := evolves.kept _ holdsVm
    rw [Resource.Kept, locked.vm_id] at kept
    exact ownVm?_eq_some.mpr ⟨kept.trans stored, owner⟩

theorem EnqueueCall.Allowed.mono (allowed : call.Allowed db statuses vm)
    (evolves : db.Evolves next work) (holdsVm : .virtualMachine vm.id ∈ work.resources) :
    call.Allowed next statuses vm where
  toLocked := allowed.toLocked.mono evolves holdsVm
  inactive := by
    have inactive := evolves.inactive _ holdsVm
    rw [allowed.toLocked.vm_id] at inactive
    exact inactive allowed.inactive
  status := allowed.status

end Enqueue

/-- What was established stays true while other transactions commit. -/
theorem Work.Holds.mono (holds : work.Holds db) (evolves : db.Evolves next work) :
    work.Holds next := by
  have keeps := evolves.kept
  have vacant := evolves.vacant
  cases work with
  | create call point =>
      cases point with
      | checkingSshKey => trivial
      | rechecking => trivial
      | lockingQuota => exact checkSshKey_mono evolves.sshKeys holds
      | lookingUp quota =>
          exact CreateCall.Locked.mono holds evolves (by simp [Work.resources])
      | readingExisting quota operation => exact Database.Knows.mono holds evolves.operations
      | recheckingExisting operation => exact Database.Knows.mono holds evolves.operations
      | readingPlan quota =>
          exact CreateCall.Checked.mono holds evolves (by simp [Work.resources])
      | readingUsage quota plan =>
          exact CreateCall.Planned.mono holds evolves (by simp [Work.resources])
      | insertingVm quota plan =>
          exact CreateCall.Admitted.mono holds evolves (by simp [Work.resources])
      | insertingOperation quota plan vm =>
          rcases holds with ⟨admitted, isNew, fresh⟩
          exact ⟨admitted.mono evolves (by simp [Work.resources]), isNew,
            (keeps (.virtualMachine vm.id) (by simp [Work.resources])).trans fresh⟩
      | committing quota plan vm operation =>
          rcases holds with ⟨admitted, isNew, fresh, isNewOperation, freshId, freshKey⟩
          have sameKey : operation.idempotencyKey = call.idempotencyKey := by
            rw [isNewOperation]
            rfl
          refine ⟨admitted.mono evolves (by simp [Work.resources]), isNew,
            (keeps (.virtualMachine vm.id) (by simp [Work.resources])).trans fresh,
            isNewOperation, vacant (.operation operation.id) (by simp [Work.resources]) freshId,
            ?_⟩
          exact vacant (.idempotencyKey call.idempotencyKey) (by simp [Work.resources, sameKey])
            freshKey
  | enqueue call point =>
      cases point with
      | lockingVm => trivial
      | lookingUp statuses vm =>
          exact EnqueueCall.Locked.mono holds evolves (by simp [Work.resources])
      | checkingActive statuses vm =>
          exact EnqueueCall.Locked.mono holds evolves (by simp [Work.resources])
      | inserting statuses vm =>
          exact EnqueueCall.Allowed.mono holds evolves (by simp [Work.resources])
      | committing statuses vm operation =>
          rcases holds with ⟨allowed, isNewOperation, freshId, freshKey⟩
          have sameKey : operation.idempotencyKey = call.idempotencyKey := by
            rw [isNewOperation]
            rfl
          refine ⟨allowed.mono evolves (by simp [Work.resources]), isNewOperation,
            vacant (.operation operation.id) (by simp [Work.resources]) freshId, ?_⟩
          exact vacant (.idempotencyKey call.idempotencyKey) (by simp [Work.resources, sameKey])
            freshKey
      | rechecking vm =>
          rcases holds with ⟨kind, row, rowMem, sameId, owner⟩
          rcases evolves.vms row rowMem with ⟨later, laterMem, onward⟩
          exact ⟨kind, later, laterMem, onward.id.trans sameId,
            onward.ownerUserId.trans owner⟩

end Evolving

end NpdPortal
