import NpdPortal.Web.Acceptance

/-!
# What a request sees of other users

Two databases agree on a user when they have the same rows of the user.  Every
check of a request reads such rows only: the SSH key and the VM are looked up
with their owner, and the lookups by idempotency key and by VM come after a
check that leads to rows of the user.
-/

namespace NpdPortal

/-- The user a request is for. -/
def WebRequest.userId : WebRequest → Uuid
  | create call => call.userId
  | enqueue call => call.userId

/-- The VM is one of the user. -/
def Database.Owns (db : Database) (userId vmId : Uuid) : Prop :=
  ∃ vm ∈ db.virtualMachines, vm.id = vmId ∧ vm.ownerUserId = userId

/-- The databases have the same rows of the user. -/
structure Database.AgreesOn (userId : Uuid) (db other : Database) : Prop where
  sshKeys : ∀ key : SshPublicKey, key.ownerUserId = userId →
    (key ∈ db.sshPublicKeys ↔ key ∈ other.sshPublicKeys)
  quotas : ∀ quota : UserQuota, quota.userId = userId →
    (quota ∈ db.userQuotas ↔ quota ∈ other.userQuotas)
  plans : ∀ quota ∈ db.userQuotas, quota.userId = userId →
    ∀ plan : ComputePlan, plan.id = quota.computePlanId →
      (plan ∈ db.computePlans ↔ plan ∈ other.computePlans)
  vms : ∀ vm : VirtualMachine, vm.ownerUserId = userId →
    (vm ∈ db.virtualMachines ↔ vm ∈ other.virtualMachines)
  operations : ∀ operation : Operation, db.Owns userId operation.virtualMachineId →
    (operation ∈ db.operations ↔ operation ∈ other.operations)

/-- Only operations of the user have the key. -/
def Database.KeyOwnedBy (db : Database) (userId : Uuid) (idempotencyKey : String) : Prop :=
  ∀ operation ∈ db.operations, operation.idempotencyKey = idempotencyKey →
    db.Owns userId operation.virtualMachineId

/-- No row of another user has the new ids. -/
structure RequestContext.Spares (context : RequestContext) (userId : Uuid) (db : Database) :
    Prop where
  vm : ∀ vm ∈ db.virtualMachines, vm.id = context.vmId → vm.ownerUserId = userId
  operation : ∀ operation ∈ db.operations, operation.id = context.operationId →
    db.Owns userId operation.virtualMachineId

/-- The same error, or the same result with the same rows of the user. -/
def SameFor {α : Type} (userId : Uuid) : Except Error (Database × α) →
    Except Error (Database × α) → Prop
  | .ok (db, result), .ok (other, otherResult) => result = otherResult ∧ db.AgreesOn userId other
  | .error error, .error otherError => error = otherError
  | _, _ => False

namespace Database.AgreesOn

variable {userId : Uuid} {db other : Database}

theorem owns_iff (agrees : db.AgreesOn userId other) {vmId : Uuid} :
    db.Owns userId vmId ↔ other.Owns userId vmId := by
  constructor
  · rintro ⟨vm, stored, isVm, own⟩
    exact ⟨vm, (agrees.vms vm own).mp stored, isVm, own⟩
  · rintro ⟨vm, stored, isVm, own⟩
    exact ⟨vm, (agrees.vms vm own).mpr stored, isVm, own⟩

theorem symm (agrees : db.AgreesOn userId other) : other.AgreesOn userId db where
  sshKeys key own := (agrees.sshKeys key own).symm
  quotas quota own := (agrees.quotas quota own).symm
  plans quota stored own plan isPlan :=
    (agrees.plans quota ((agrees.quotas quota own).mpr stored) own plan isPlan).symm
  vms vm own := (agrees.vms vm own).symm
  operations operation owns := (agrees.operations operation (agrees.owns_iff.mpr owns)).symm

theorem refl (userId : Uuid) (db : Database) : db.AgreesOn userId db :=
  ⟨fun _ _ => .rfl, fun _ _ => .rfl, fun _ _ _ _ _ => .rfl, fun _ _ => .rfl, fun _ _ => .rfl⟩

/-- A lookup is the same where the rows it may find are. -/
theorem lookup_congr {Row Key : Type} [DecidableEq Key] {key : Row → Key} {id : Key}
    {rows others : List Row} (distinct : (rows.map key).Nodup)
    (othersDistinct : (others.map key).Nodup)
    (same : ∀ row, key row = id → (row ∈ rows ↔ row ∈ others)) :
    KeyedRows.lookup key id rows = KeyedRows.lookup key id others := by
  apply Option.ext
  intro row
  rw [KeyedRows.lookup_eq_some_iff distinct, KeyedRows.lookup_eq_some_iff othersDistinct]
  constructor
  · rintro ⟨stored, isRow⟩
    exact ⟨(same row isRow).mp stored, isRow⟩
  · rintro ⟨stored, isRow⟩
    exact ⟨(same row isRow).mpr stored, isRow⟩

theorem checkSshKey_eq (agrees : db.AgreesOn userId other) (request : VirtualMachineCreate) :
    checkSshKey db userId request = checkSshKey other userId request := by
  have same : (∃ key ∈ db.sshPublicKeys, key.id = request.sshPublicKeyId ∧
      key.ownerUserId = userId) ↔ ∃ key ∈ other.sshPublicKeys,
        key.id = request.sshPublicKeyId ∧ key.ownerUserId = userId := by
    constructor
    · rintro ⟨key, stored, isKey, own⟩
      exact ⟨key, (agrees.sshKeys key own).mp stored, isKey, own⟩
    · rintro ⟨key, stored, isKey, own⟩
      exact ⟨key, (agrees.sshKeys key own).mpr stored, isKey, own⟩
  simp only [checkSshKey, same]

theorem userQuota?_eq (agrees : db.AgreesOn userId other) :
    db.userQuota? userId = other.userQuota? userId :=
  lookup_congr db.valid.quotaUsers other.valid.quotaUsers agrees.quotas

theorem computePlan?_eq (agrees : db.AgreesOn userId other) {quota : UserQuota}
    (stored : db.userQuota? userId = some quota) :
    db.computePlan? quota.computePlanId = other.computePlan? quota.computePlanId := by
  rcases Database.userQuota?_eq_some_iff.mp stored with ⟨quotaMem, own⟩
  exact lookup_congr db.valid.planIds other.valid.planIds (agrees.plans quota quotaMem own)

/-- The usage is a sum over the rows in any order. -/
theorem usage_eq (agrees : db.AgreesOn userId other) :
    getUserComputeUsage db userId = getUserComputeUsage other userId := by
  have nodup : ∀ db : Database, (db.consumingVms userId).Nodup :=
    fun db => (db.valid.vmIds.of_map _).filter _
  have same : (db.consumingVms userId).Perm (other.consumingVms userId) := by
    rw [List.perm_ext_iff_of_nodup (nodup db) (nodup other)]
    intro vm
    simp only [Database.consumingVms, List.mem_filter, decide_eq_true_eq]
    constructor
    · rintro ⟨stored, own, consumes⟩
      exact ⟨(agrees.vms vm own).mp stored, own, consumes⟩
    · rintro ⟨stored, own, consumes⟩
      exact ⟨(agrees.vms vm own).mpr stored, own, consumes⟩
  simp only [getUserComputeUsage, same.length_eq, (same.map _).sum_nat]

theorem ownVm?_eq (agrees : db.AgreesOn userId other) (vmId : Uuid) :
    ownVm? db userId vmId = ownVm? other userId vmId := by
  apply Option.ext
  intro vm
  rw [ownVm?_eq_some, ownVm?_eq_some, Database.virtualMachine?_eq_some_iff,
    Database.virtualMachine?_eq_some_iff]
  constructor
  · rintro ⟨⟨stored, isVm⟩, own⟩
    exact ⟨⟨(agrees.vms vm own).mp stored, isVm⟩, own⟩
  · rintro ⟨⟨stored, isVm⟩, own⟩
    exact ⟨⟨(agrees.vms vm own).mpr stored, isVm⟩, own⟩

/-- A VM of the user is the same row in both. -/
theorem virtualMachine?_eq (agrees : db.AgreesOn userId other) {vmId : Uuid}
    (owns : db.Owns userId vmId) : db.virtualMachine? vmId = other.virtualMachine? vmId := by
  rcases owns with ⟨vm, stored, isVm, own⟩
  have inDb : db.virtualMachine? vmId = some vm :=
    Database.virtualMachine?_eq_some_iff.mpr ⟨stored, isVm⟩
  have inOther : other.virtualMachine? vmId = some vm :=
    Database.virtualMachine?_eq_some_iff.mpr ⟨(agrees.vms vm own).mp stored, isVm⟩
  rw [inDb, inOther]

theorem operationByKey?_eq (agrees : db.AgreesOn userId other) {idempotencyKey : String}
    (owned : db.KeyOwnedBy userId idempotencyKey)
    (otherOwned : other.KeyOwnedBy userId idempotencyKey) :
    db.operationByKey? idempotencyKey = other.operationByKey? idempotencyKey := by
  apply Option.ext
  intro operation
  rw [Database.operationByKey?_eq_some_iff, Database.operationByKey?_eq_some_iff]
  constructor
  · rintro ⟨stored, hasKey⟩
    exact ⟨(agrees.operations operation (owned operation stored hasKey)).mp stored, hasKey⟩
  · rintro ⟨stored, hasKey⟩
    have owns := agrees.owns_iff.mpr (otherOwned operation stored hasKey)
    exact ⟨(agrees.operations operation owns).mpr stored, hasKey⟩

theorem readExistingVm_eq (agrees : db.AgreesOn userId other) {operation : Operation}
    (owns : db.Owns userId operation.virtualMachineId) (request : VirtualMachineCreate) :
    readExistingVm db operation userId request = readExistingVm other operation userId request := by
  simp only [readExistingVm, agrees.virtualMachine?_eq owns]

theorem getExistingVm_eq (agrees : db.AgreesOn userId other) {idempotencyKey : String}
    (owned : db.KeyOwnedBy userId idempotencyKey)
    (otherOwned : other.KeyOwnedBy userId idempotencyKey) (request : VirtualMachineCreate) :
    getExistingVmForCreateRequest db idempotencyKey userId request =
      getExistingVmForCreateRequest other idempotencyKey userId request := by
  simp only [getExistingVmForCreateRequest, ← agrees.operationByKey?_eq owned otherOwned]
  cases stored : db.operationByKey? idempotencyKey with
  | none => rfl
  | some operation =>
      rcases Database.operationByKey?_eq_some_iff.mp stored with ⟨operationMem, hasKey⟩
      simp only [agrees.readExistingVm_eq (owned operation operationMem hasKey)]

theorem checkNoActiveOperation_eq (agrees : db.AgreesOn userId other) {vmId : Uuid}
    (owns : db.Owns userId vmId) :
    checkNoActiveOperation db vmId = checkNoActiveOperation other vmId := by
  have same : (∀ operation ∈ db.operationsOf vmId, ¬operation.Active) ↔
      ∀ operation ∈ other.operationsOf vmId, ¬operation.Active := by
    simp only [Database.mem_operationsOf]
    constructor
    · rintro inactive operation ⟨stored, rfl⟩
      exact inactive operation ⟨(agrees.operations operation owns).mpr stored, rfl⟩
    · rintro inactive operation ⟨stored, rfl⟩
      exact inactive operation ⟨(agrees.operations operation owns).mp stored, rfl⟩
  simp only [checkNoActiveOperation, same]

theorem vmId_mem_iff (agrees : db.AgreesOn userId other) {context : RequestContext}
    (spares : context.Spares userId db) (otherSpares : context.Spares userId other) :
    context.vmId ∈ db.virtualMachines.map (·.id) ↔
      context.vmId ∈ other.virtualMachines.map (·.id) := by
  simp only [List.mem_map]
  constructor
  · rintro ⟨vm, stored, isVm⟩
    exact ⟨vm, (agrees.vms vm (spares.vm vm stored isVm)).mp stored, isVm⟩
  · rintro ⟨vm, stored, isVm⟩
    exact ⟨vm, (agrees.vms vm (otherSpares.vm vm stored isVm)).mpr stored, isVm⟩

theorem operationId_mem_iff (agrees : db.AgreesOn userId other) {context : RequestContext}
    (spares : context.Spares userId db) (otherSpares : context.Spares userId other) :
    context.operationId ∈ db.operations.map (·.id) ↔
      context.operationId ∈ other.operations.map (·.id) := by
  simp only [List.mem_map]
  constructor
  · rintro ⟨operation, stored, isOperation⟩
    have owns := spares.operation operation stored isOperation
    exact ⟨operation, (agrees.operations operation owns).mp stored, isOperation⟩
  · rintro ⟨operation, stored, isOperation⟩
    have owns := agrees.owns_iff.mpr (otherSpares.operation operation stored isOperation)
    exact ⟨operation, (agrees.operations operation owns).mpr stored, isOperation⟩

theorem key_mem_iff (agrees : db.AgreesOn userId other) {idempotencyKey : String}
    (owned : db.KeyOwnedBy userId idempotencyKey)
    (otherOwned : other.KeyOwnedBy userId idempotencyKey) :
    idempotencyKey ∈ db.operations.map (·.idempotencyKey) ↔
      idempotencyKey ∈ other.operations.map (·.idempotencyKey) := by
  have same := agrees.operationByKey?_eq owned otherOwned
  rw [← not_iff_not, ← Database.operationByKey?_eq_none_iff, ← Database.operationByKey?_eq_none_iff,
    same]

/-- The same new rows keep the agreement. -/
theorem insert (agrees : db.AgreesOn userId other) {next otherNext : Database}
    {vms : List VirtualMachine} {operations : List Operation}
    (inserted : db.insert vms operations = some next)
    (otherInserted : other.insert vms operations = some otherNext) :
    next.AgreesOn userId otherNext := by
  have owned : ∀ {db next : Database}, db.insert vms operations = some next →
      ∀ operation ∈ db.operations, next.Owns userId operation.virtualMachineId →
        db.Owns userId operation.virtualMachineId := by
    rintro db next inserted operation stored ⟨vm, vmMem, isVm, own⟩
    rcases Database.exists_vm_of_operation stored with ⟨row, rowMem, isRow⟩
    have tables := Database.commit_eq_some inserted
    have rowInNext : row ∈ next.virtualMachines := by
      rw [tables]
      exact List.mem_append_left _ rowMem
    have same : row = vm :=
      KeyedRows.eq_of_key_eq next.valid.vmIds rowInNext vmMem (isRow.trans isVm.symm)
    exact ⟨row, rowMem, isRow, same ▸ own⟩
  have tables := Database.commit_eq_some inserted
  have otherTables := Database.commit_eq_some otherInserted
  have vmsIff : ∀ vm : VirtualMachine, vm.ownerUserId = userId →
      (vm ∈ next.virtualMachines ↔ vm ∈ otherNext.virtualMachines) := by
    intro vm own
    rw [tables, otherTables]
    simp only [List.mem_append, agrees.vms vm own]
  refine ⟨?_, ?_, ?_, vmsIff, ?_⟩
  · rw [tables, otherTables]
    exact agrees.sshKeys
  · rw [tables, otherTables]
    exact agrees.quotas
  · rw [tables, otherTables]
    exact agrees.plans
  · intro operation owns
    have otherOwns : otherNext.Owns userId operation.virtualMachineId := by
      rcases owns with ⟨vm, vmMem, isVm, own⟩
      exact ⟨vm, (vmsIff vm own).mp vmMem, isVm, own⟩
    have inNext : operation ∈ next.operations ↔ operation ∈ db.operations ++ operations := by
      rw [tables]
    have inOther : operation ∈ otherNext.operations ↔
        operation ∈ other.operations ++ operations := by rw [otherTables]
    rw [inNext, inOther, List.mem_append, List.mem_append]
    refine or_congr_left ⟨fun stored => ?_, fun stored => ?_⟩
    · exact (agrees.operations operation (owned inserted operation stored owns)).mp stored
    · have owns := agrees.owns_iff.mpr (owned otherInserted operation stored otherOwns)
      exact (agrees.operations operation owns).mpr stored

/-- New rows of one user are no rows of another. -/
theorem of_insert {next : Database} {vms : List VirtualMachine} {operations : List Operation}
    {tenant : Uuid} (differs : tenant ≠ userId)
    (tables : next.toTables = { db.toTables with
      virtualMachines := db.virtualMachines ++ vms, operations := db.operations ++ operations })
    (ownVms : ∀ vm ∈ vms, vm.ownerUserId = userId)
    (ownOperations : ∀ operation ∈ operations, next.Owns userId operation.virtualMachineId) :
    db.AgreesOn tenant next := by
  refine ⟨?_, ?_, ?_, ?_, ?_⟩
  · rw [tables]
    exact fun _ _ => .rfl
  · rw [tables]
    exact fun _ _ => .rfl
  · rw [tables]
    exact fun _ _ _ _ _ => .rfl
  · intro vm own
    rw [tables]
    simp only [List.mem_append]
    exact ⟨.inl, fun stored => stored.resolve_right fun new =>
      differs (own.symm.trans (ownVms vm new))⟩
  · rintro operation ⟨vm, vmMem, isVm, own⟩
    have inNext : operation ∈ next.operations ↔ operation ∈ db.operations ++ operations := by
      rw [tables]
    rw [inNext, List.mem_append]
    refine ⟨.inl, fun stored => stored.resolve_right fun new => ?_⟩
    rcases ownOperations operation new with ⟨row, rowMem, isRow, ownRow⟩
    have vmInNext : vm ∈ next.virtualMachines := by
      rw [tables]
      exact List.mem_append_left _ vmMem
    have same : vm = row :=
      KeyedRows.eq_of_key_eq next.valid.vmIds vmInNext rowMem (isVm.trans isRow.symm)
    exact differs (own.symm.trans ((congrArg VirtualMachine.ownerUserId same).trans ownRow))

end Database.AgreesOn

section Inserts

variable {userId : Uuid} {db other : Database} {context : RequestContext}
  {request : VirtualMachineCreate} {idempotencyKey : String}

/-- The insert of a create fails exactly if an id or the key is taken. -/
theorem insert_create_eq_none_iff (sshKey : checkSshKey db userId request = .ok ()) :
    db.insert [newVm context.vmId userId request]
        [newCreateOperation context.operationId context.vmId idempotencyKey context.now] = none ↔
      context.vmId ∈ db.virtualMachines.map (·.id) ∨
      context.operationId ∈ db.operations.map (·.id) ∨
      idempotencyKey ∈ db.operations.map (·.idempotencyKey) := by
  unfold Database.insert
  rw [Database.commit_eq_none_iff, not_iff_comm]
  simp only [not_or]
  constructor
  · rintro ⟨newVmId, newOperationId, newKey⟩
    refine { db.valid with
      vmIds := ?_
      operationIds := ?_
      idempotencyKeys := ?_
      providerVmids := ?_
      operationVms := ?_
      vmSshKeys := ?_
      vmFits := ?_
      operationFits := ?_ }
    · simpa [List.nodup_append, db.valid.vmIds, newVm] using newVmId
    · simpa [List.nodup_append, db.valid.operationIds, newCreateOperation] using newOperationId
    · simpa [List.nodup_append, db.valid.idempotencyKeys, newCreateOperation] using newKey
    · simpa [List.filterMap_append, newVm] using db.valid.providerVmids
    · intro operation stored
      rw [List.map_append]
      rcases List.mem_append.mp stored with old | new
      · exact List.mem_append_left _ (db.valid.operationVms operation old)
      · rw [List.mem_singleton.mp new]
        exact List.mem_append_right _ (List.mem_singleton_self _)
    · intro vm stored
      rcases List.mem_append.mp stored with old | new
      · exact db.valid.vmSshKeys vm old
      · rcases require_eq_ok.mp sshKey with ⟨key, keyMem, isKey, _⟩
        rw [List.mem_singleton.mp new]
        exact List.mem_cons_of_mem _ (List.mem_map.mpr ⟨key, keyMem, congrArg some isKey⟩)
    · intro vm stored
      rcases List.mem_append.mp stored with old | new
      · exact db.valid.vmFits vm old
      · rw [List.mem_singleton.mp new]
        exact newVm_fits _ _ _
    · intro operation stored
      rcases List.mem_append.mp stored with old | new
      · exact db.valid.operationFits operation old
      · rw [List.mem_singleton.mp new]
        exact newCreateOperation_fits _ _ _ _
  · intro valid
    have vmIds := valid.vmIds
    have operationIds := valid.operationIds
    have keys := valid.idempotencyKeys
    simp only [List.map_append, List.map_singleton, List.nodup_append] at vmIds operationIds keys
    refine ⟨fun taken => ?_, fun taken => ?_, fun taken => ?_⟩
    · exact vmIds.2.2 _ taken _ (List.mem_singleton_self _) rfl
    · exact operationIds.2.2 _ taken _ (List.mem_singleton_self _) rfl
    · exact keys.2.2 _ taken _ (List.mem_singleton_self _) rfl

/-- The insert of an enqueue fails exactly if the id or the key is taken. -/
theorem insert_enqueue_eq_none_iff {vmId : Uuid} {operationType : OperationType}
    (owns : db.Owns userId vmId) :
    db.insert [] [newLifecycleOperation context.operationId vmId operationType idempotencyKey
        context.now] = none ↔
      context.operationId ∈ db.operations.map (·.id) ∨
      idempotencyKey ∈ db.operations.map (·.idempotencyKey) := by
  constructor
  · intro rejected
    by_contra free
    rcases not_or.mp free with ⟨newId, newKey⟩
    rcases owns with ⟨vm, stored, isVm, _⟩
    have insertable : ∃ next, db.insert [] [newLifecycleOperation context.operationId vmId
        operationType idempotencyKey context.now] = some next :=
      Database.exists_insert (newLifecycleOperation_fits _ _ _ _ _) newId newKey
        (List.mem_map.mpr ⟨vm, stored, isVm⟩)
    rcases insertable with ⟨next, inserted⟩
    rw [rejected] at inserted
    cases inserted
  · intro taken
    refine Database.commit_eq_none_iff.mpr fun valid => ?_
    have operationIds := valid.operationIds
    have keys := valid.idempotencyKeys
    simp only [List.map_append, List.map_singleton, List.nodup_append] at operationIds keys
    rcases taken with takenId | takenKey
    · exact operationIds.2.2 _ takenId _ (List.mem_singleton_self _) rfl
    · exact keys.2.2 _ takenKey _ (List.mem_singleton_self _) rfl

end Inserts

section Requests

variable {userId : Uuid} {db other : Database} {context : RequestContext}
  {idempotencyKey : String}

/-- Inserts that fail in the same cases lead to the same outcome. -/
theorem sameFor_of_insert {α : Type} {vms : List VirtualMachine} {operations : List Operation}
    {result : α} {rechecked otherRechecked : Except Error α} (agrees : db.AgreesOn userId other)
    (sameCases : db.insert vms operations = none ↔ other.insert vms operations = none)
    (sameRecheck : rechecked = otherRechecked) :
    SameFor userId
      (match db.insert vms operations with
        | some next => pure (next, result)
        | none => do pure (db, ← rechecked))
      (match other.insert vms operations with
        | some next => pure (next, result)
        | none => do pure (other, ← otherRechecked)) := by
  subst sameRecheck
  cases inserted : db.insert vms operations with
  | none =>
      rw [sameCases.mp inserted]
      cases rechecked with
      | error error => exact rfl
      | ok value => exact ⟨rfl, agrees⟩
  | some next =>
      cases otherInserted : other.insert vms operations with
      | none =>
          rw [sameCases.mpr otherInserted] at inserted
          cases inserted
      | some otherNext => exact ⟨rfl, agrees.insert inserted otherInserted⟩

/-- A check with the same result leads on to the same outcome. -/
theorem SameFor.bind {α β : Type} {check : Except Error β}
    {next otherNext : β → Except Error (Database × α)}
    (same : ∀ value, check = .ok value → SameFor userId (next value) (otherNext value)) :
    SameFor userId (check >>= next) (check >>= otherNext) := by
  cases check with
  | error error => exact rfl
  | ok value => exact same value rfl

theorem createVm_sameFor (agrees : db.AgreesOn userId other)
    (owned : db.KeyOwnedBy userId idempotencyKey)
    (otherOwned : other.KeyOwnedBy userId idempotencyKey) (spares : context.Spares userId db)
    (otherSpares : context.Spares userId other) (request : VirtualMachineCreate) :
    SameFor userId (createVm db context userId request idempotencyKey)
      (createVm other context userId request idempotencyKey) := by
  simp only [createVm, recheckCreate, ← agrees.checkSshKey_eq, ← agrees.userQuota?_eq,
    ← agrees.getExistingVm_eq owned otherOwned, ← agrees.usage_eq]
  refine .bind fun _ sshKey => .bind fun quota quotaStored => .bind fun existing looked => ?_
  cases existing with
  | some vm => exact ⟨rfl, agrees⟩
  | none =>
      simp only [← agrees.computePlan?_eq (found_eq_ok.mp quotaStored)]
      refine .bind fun _ checked => .bind fun plan planStored => .bind fun _ admitted => ?_
      apply sameFor_of_insert agrees
      · have otherSshKey := agrees.checkSshKey_eq request ▸ sshKey
        exact (insert_create_eq_none_iff sshKey).trans
          ((or_congr (agrees.vmId_mem_iff spares otherSpares)
            (or_congr (agrees.operationId_mem_iff spares otherSpares)
              (agrees.key_mem_iff owned otherOwned))).trans
            (insert_create_eq_none_iff otherSshKey).symm)
      · rfl

theorem enqueueVmOperation_sameFor (agrees : db.AgreesOn userId other)
    (owned : db.KeyOwnedBy userId idempotencyKey)
    (otherOwned : other.KeyOwnedBy userId idempotencyKey) (spares : context.Spares userId db)
    (otherSpares : context.Spares userId other) (vmId : Uuid) (operationType : OperationType) :
    SameFor userId (enqueueVmOperation db context userId vmId operationType idempotencyKey)
      (enqueueVmOperation other context userId vmId operationType idempotencyKey) := by
  simp only [enqueueVmOperation, getExistingOperation, recheckEnqueue, ← agrees.ownVm?_eq,
    ← agrees.operationByKey?_eq owned otherOwned]
  refine .bind fun statuses allowed => .bind fun vm own => .bind fun existing looked => ?_
  cases existing with
  | some operation => exact ⟨rfl, agrees⟩
  | none =>
      have owns : db.Owns userId vmId := by
        rcases ownVm?_eq_some.mp (found_eq_ok.mp own) with ⟨stored, owner⟩
        rcases Database.virtualMachine?_eq_some_iff.mp stored with ⟨vmMem, isVm⟩
        exact ⟨vm, vmMem, isVm, owner⟩
      simp only [← agrees.checkNoActiveOperation_eq owns]
      refine .bind fun _ inactive => .bind fun _ status => ?_
      apply sameFor_of_insert agrees
      · exact (insert_enqueue_eq_none_iff owns).trans
          ((or_congr (agrees.operationId_mem_iff spares otherSpares)
            (agrees.key_mem_iff owned otherOwned)).trans
            (insert_enqueue_eq_none_iff (agrees.owns_iff.mp owns)).symm)
      · rfl

theorem Created.agreesOn {next : Database} {request : VirtualMachineCreate} {tenant : Uuid}
    (created : Created db next context userId request idempotencyKey)
    (differs : tenant ≠ userId) : db.AgreesOn tenant next := by
  refine .of_insert differs created.tables ?_ ?_
  · intro vm new
    rw [List.mem_singleton.mp new]
    rfl
  · intro operation new
    refine ⟨newVm context.vmId userId request, ?_, ?_, rfl⟩
    · rw [created.tables]
      exact List.mem_append_right _ (List.mem_singleton_self _)
    · rw [List.mem_singleton.mp new]
      rfl

theorem Enqueued.agreesOn {next : Database} {vmId : Uuid} {operationType : OperationType}
    {vm : VirtualMachine} {tenant : Uuid}
    (enqueued : Enqueued db next context userId vmId operationType idempotencyKey vm)
    (differs : tenant ≠ userId) : db.AgreesOn tenant next := by
  rcases Database.virtualMachine?_eq_some_iff.mp enqueued.vmStored with ⟨stored, isVm⟩
  have tables : next.toTables = { db.toTables with
      virtualMachines := db.virtualMachines ++ []
      operations := db.operations ++ [newLifecycleOperation context.operationId vmId operationType
        idempotencyKey context.now] } := by
    rw [List.append_nil]
    exact enqueued.tables
  refine .of_insert differs tables (fun _ new => absurd new List.not_mem_nil) ?_
  intro operation new
  refine ⟨vm, ?_, ?_, enqueued.owner⟩
  · rw [tables]
    exact List.mem_append_left _ stored
  · rw [List.mem_singleton.mp new, isVm]
    rfl

/-- An operation known by the key of the request is one of the user. -/
theorem owns_of_knows {operation : Operation} (owned : db.KeyOwnedBy userId idempotencyKey)
    (knows : db.Knows idempotencyKey operation) : db.Owns userId operation.virtualMachineId := by
  rcases knows with ⟨hasKey, current, stored, same⟩
  rw [← same.virtualMachineId]
  exact owned current stored (same.idempotencyKey.trans hasKey)

theorem EnqueueCall.Locked.owns {call : EnqueueCall} {statuses : List VmStatus}
    {vm : VirtualMachine} (locked : call.Locked db statuses vm) :
    db.Owns call.userId call.vmId := by
  rcases ownVm?_eq_some.mp locked.own with ⟨stored, owner⟩
  rcases Database.virtualMachine?_eq_some_iff.mp stored with ⟨vmMem, isVm⟩
  exact ⟨vm, vmMem, isVm, owner⟩

/-- Every statement of a request under way has the same outcome. -/
theorem Work.next_eq {work : Work} (holds : work.Holds db) (otherHolds : work.Holds other)
    (agrees : db.AgreesOn work.request.userId other)
    (owned : db.KeyOwnedBy work.request.userId work.request.idempotencyKey)
    (otherOwned : other.KeyOwnedBy work.request.userId work.request.idempotencyKey)
    (spares : context.Spares work.request.userId db)
    (otherSpares : context.Spares work.request.userId other) :
    work.next db context = work.next other context := by
  have sameKey := agrees.operationByKey?_eq owned otherOwned
  have keyTaken := agrees.key_mem_iff owned otherOwned
  have vmIdTaken := agrees.vmId_mem_iff spares otherSpares
  have operationIdTaken := agrees.operationId_mem_iff spares otherSpares
  cases work with
  | create call point =>
      simp only [Work.request, WebRequest.userId, WebRequest.idempotencyKey] at *
      cases point with
      | checkingSshKey => simp only [Work.next, CreateCall.next, agrees.checkSshKey_eq]
      | lockingQuota => simp only [Work.next, CreateCall.next, agrees.userQuota?_eq]
      | lookingUp quota => simp only [Work.next, CreateCall.next, sameKey]
      | readingExisting quota operation =>
          simp only [Work.next, CreateCall.next,
            agrees.readExistingVm_eq (owns_of_knows owned holds)]
      | readingPlan quota =>
          have checked : call.Checked db quota := holds
          simp only [Work.next, CreateCall.next, agrees.computePlan?_eq checked.quotaStored]
      | readingUsage quota plan => simp only [Work.next, CreateCall.next, agrees.usage_eq]
      | insertingVm quota plan => simp only [Work.next, CreateCall.next, vmIdTaken]
      | insertingOperation quota plan vm =>
          simp only [Work.next, CreateCall.next, operationIdTaken, keyTaken]
      | committing => rfl
      | rechecking => simp only [Work.next, CreateCall.next, sameKey]
      | recheckingExisting operation =>
          simp only [Work.next, CreateCall.next,
            agrees.readExistingVm_eq (owns_of_knows owned holds)]
  | enqueue call point =>
      simp only [Work.request, WebRequest.userId, WebRequest.idempotencyKey] at *
      cases point with
      | lockingVm => simp only [Work.next, EnqueueCall.next, agrees.ownVm?_eq]
      | lookingUp statuses vm => simp only [Work.next, EnqueueCall.next, sameKey]
      | checkingActive statuses vm =>
          have locked : call.Locked db statuses vm := holds
          simp only [Work.next, EnqueueCall.next, agrees.checkNoActiveOperation_eq locked.owns]
      | inserting statuses vm =>
          simp only [Work.next, EnqueueCall.next, operationIdTaken, keyTaken]
      | committing => rfl
      | rechecking vm => simp only [Work.next, EnqueueCall.next, recheckEnqueue, sameKey]

/-- The request as one undisturbed transaction. -/
def WebRequest.perform (db : Database) (context : RequestContext) :
    WebRequest → Except Error (Database × WebReply)
  | create call => do
      let (next, vm) ← createVm db context call.userId call.request call.idempotencyKey
      pure (next, .vm vm)
  | enqueue call => do
      let (next, operation) ← enqueueVmOperation db context call.userId call.vmId
        call.operationType call.idempotencyKey
      pure (next, .operation operation)

theorem SameFor.map {α β : Type} {first second : Except Error (Database × α)} (view : α → β)
    (same : SameFor userId first second) :
    SameFor userId (first >>= fun ran => pure (ran.1, view ran.2))
      (second >>= fun ran => pure (ran.1, view ran.2)) := by
  cases first <;> cases second <;> simp only [SameFor] at same
  · exact same
  · exact ⟨congrArg view same.1, same.2⟩

/-- A request has the same outcome and makes the same change to the rows of its user in any two
databases that agree on the user and do not use its key for an operation of another user; this
holds of the request as one transaction, and of every statement of it when requests overlap.
In every database it leaves the rows of every other user alone. -/
theorem tenants_isolated (request : WebRequest) :
    (∀ {db other : Database} {context : RequestContext}, db.AgreesOn request.userId other →
      db.KeyOwnedBy request.userId request.idempotencyKey →
      other.KeyOwnedBy request.userId request.idempotencyKey →
      context.Spares request.userId db → context.Spares request.userId other →
      SameFor request.userId (request.perform db context) (request.perform other context) ∧
        ∀ work : Work, work.request = request → work.Holds db → work.Holds other →
          work.next db context = work.next other context) ∧
    ∀ {db next : Database} {context : RequestContext} {tenant : Uuid}, tenant ≠ request.userId →
      (∀ reply, request.perform db context = .ok (next, reply) → db.AgreesOn tenant next) ∧
      ∀ (work : Work) (vms : List VirtualMachine) (operations : List Operation) (reply : WebReply),
        work.request = request → work.Holds db →
        work.next db context = .commit vms operations reply →
        db.insert vms operations = some next → db.AgreesOn tenant next := by
  refine ⟨?_, ?_⟩
  · intro db other context agrees owned otherOwned spares otherSpares
    refine ⟨?_, ?_⟩
    · cases request with
      | create call =>
          exact (createVm_sameFor agrees owned otherOwned spares otherSpares call.request).map
            WebReply.vm
      | enqueue call =>
          exact (enqueueVmOperation_sameFor agrees owned otherOwned spares otherSpares call.vmId
            call.operationType).map WebReply.operation
    · rintro work rfl holds otherHolds
      exact Work.next_eq holds otherHolds agrees owned otherOwned spares otherSpares
  · intro db next context tenant differs
    refine ⟨?_, ?_⟩
    · intro reply performed
      cases request with
      | create call =>
          rcases bind_eq_ok.mp performed with ⟨⟨ran, vm⟩, created, result⟩
          cases result
          rcases createVm_eq_ok created with ⟨new, _⟩ | ⟨same, _⟩
          · exact new.agreesOn differs
          · exact same ▸ .refl tenant db
      | enqueue call =>
          rcases bind_eq_ok.mp performed with ⟨⟨ran, operation⟩, enqueued, result⟩
          cases result
          rcases enqueueVmOperation_eq_ok enqueued with ⟨vm, new, _⟩ | ⟨same, _⟩
          · exact new.agreesOn differs
          · exact same ▸ .refl tenant db
    · rintro work vms operations reply rfl holds commits inserted
      cases work.commits_of_next holds commits inserted with
      | create call quota plan vm operation created => exact created.agreesOn differs
      | enqueue call statuses vm operation enqueued => exact enqueued.agreesOn differs

end Requests

/-- User 1 with a stopped VM; user 2 has another VM. -/
def sampleShared : Database where
  virtualMachines := [{ newVm 31 1 sampleRequest with status := .stopped },
    { newVm 32 2 { sampleRequest with sshPublicKeyId := 12 } with status := .stopped }]
  operations := [newCreateOperation 42 32 "other" 0]
  sshPublicKeys := sampleUsers.sshPublicKeys
  userQuotas := sampleUsers.userQuotas
  computePlans := sampleUsers.computePlans
  valid := by decide

/-- User 1 alone. -/
def sampleAlone : Database where
  virtualMachines := [{ newVm 31 1 sampleRequest with status := .stopped }]
  operations := []
  sshPublicKeys := [⟨11, 1, "ssh-ed25519 AAAA"⟩]
  userQuotas := [⟨1, 21, .active⟩]
  computePlans := sampleUsers.computePlans
  valid := by decide

theorem sampleShared_agrees : sampleShared.AgreesOn 1 sampleAlone where
  sshKeys key own := by
    simp only [sampleShared, sampleAlone, sampleUsers, List.mem_cons, List.not_mem_nil, or_false]
    refine ⟨fun stored => stored.resolve_right ?_, .inl⟩
    rintro rfl
    exact absurd own (by decide)
  quotas quota own := by
    simp only [sampleShared, sampleAlone, sampleUsers, List.mem_cons, List.not_mem_nil, or_false]
    refine ⟨fun stored => stored.resolve_right ?_, .inl⟩
    rintro rfl
    exact absurd own (by decide)
  plans _ _ _ _ _ := .rfl
  vms vm own := by
    simp only [sampleShared, sampleAlone, List.mem_cons, List.not_mem_nil, or_false]
    refine ⟨fun stored => stored.resolve_right ?_, .inl⟩
    rintro rfl
    exact absurd own (by decide)
  operations operation owns := by
    simp only [sampleShared, sampleAlone, List.mem_cons, List.not_mem_nil, or_false, iff_false]
    rintro rfl
    exact absurd owns (by unfold Database.Owns; decide)

/-- User 1 asks for a VM which is not theirs. -/
def sampleForeign : WebRequest := .enqueue ⟨1, 32, .vmStart, "new"⟩

/-- User 1 asks for a new VM. -/
def sampleOwn : WebRequest := .create ⟨1, sampleRequest, "new"⟩

/-- The VM of user 2 is as missing as one that does not exist, and a new VM of user 1 leaves the
rows of user 2 alone. -/
theorem tenants_isolated_shared :
    SameFor 1 (sampleForeign.perform sampleShared ⟨33, 43, 5⟩)
        (sampleForeign.perform sampleAlone ⟨33, 43, 5⟩) ∧
      (sampleForeign.perform sampleShared ⟨33, 43, 5⟩).isOk = false ∧
      ∃ next reply, sampleOwn.perform sampleShared ⟨33, 43, 5⟩ = .ok (next, reply) ∧
        sampleShared.AgreesOn 2 next := by
  refine ⟨?_, rfl, ?_⟩
  · have agrees : sampleShared.AgreesOn sampleForeign.userId sampleAlone := sampleShared_agrees
    refine ((tenants_isolated sampleForeign).1 agrees ?_ ?_ ?_ ?_).1
    · simp [Database.KeyOwnedBy, sampleShared, newCreateOperation, sampleForeign,
        WebRequest.idempotencyKey]
    · simp [Database.KeyOwnedBy, sampleAlone]
    · exact ⟨by simp [sampleShared, newVm], by simp [sampleShared, newCreateOperation]⟩
    · exact ⟨by simp [sampleAlone, newVm], by simp [sampleAlone]⟩
  · have differs : (2 : Uuid) ≠ sampleOwn.userId := by decide
    have succeeds : (sampleOwn.perform sampleShared ⟨33, 43, 5⟩).isOk = true := rfl
    cases performed : sampleOwn.perform sampleShared ⟨33, 43, 5⟩ with
    | error error =>
        rw [performed] at succeeds
        cases succeeds
    | ok ran =>
        exact ⟨ran.1, ran.2, rfl, ((tenants_isolated sampleOwn).2 differs).1 ran.2 performed⟩

end NpdPortal
