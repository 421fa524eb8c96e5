import NpdPortal.Web.Serial

/-!
# The VM endpoints

The handlers of `virtual_machines/router.py` and `web/router.py` around the two
services.  They turn the exceptions a request may end with into responses and
raise every other one again, which the client sees as an internal error.
-/

namespace NpdPortal

/-- What an endpoint sends back. -/
inductive Response where
  | json (status : ℕ) (body : WebReply)
  | redirect (status : ℕ) (url : String)
  | httpException (status : ℕ) (detail : String)
  deriving DecidableEq

/-- The `except` clauses around `create_vm`. -/
def createResponse (success : WebReply → Response) :
    Except Error WebReply → Except Error Response
  | .ok reply => .ok (success reply)
  | .error (.permissionError detail) => .ok (.httpException 403 detail)
  | .error (.valueError detail) => .ok (.httpException 409 detail)
  | .error error => .error error

/-- The `except` clauses around `enqueue_vm_operation`. -/
def enqueueResponse (success : WebReply → Response) :
    Except Error WebReply → Except Error Response
  | .ok reply => .ok (success reply)
  | .error (.lookupError detail) => .ok (.httpException 404 detail)
  | .error (.valueError detail) => .ok (.httpException 409 detail)
  | .error error => .error error

def createMyVm : Except Error WebReply → Except Error Response :=
  createResponse fun vm => .json 201 vm

def dashboardVms : Except Error WebReply → Except Error Response :=
  createResponse fun _ => .redirect 303 "/dashboard#vms"

/-- `_enqueue_lifecycle_operation`, behind the five command endpoints. -/
def enqueueLifecycleOperation : Except Error WebReply → Except Error Response :=
  enqueueResponse fun operation => .json 202 operation

def vmStart : Except Error WebReply → Except Error Response :=
  enqueueResponse fun _ => .redirect 303 "/dashboard#vms"

/-- The query of `operation_status`. -/
def operationStatus (db : Database) (currentUserId vmId operationId : Uuid) : Response :=
  let own : Operation → Prop := fun operation => operation.virtualMachineId = vmId ∧
    ∃ vm ∈ db.virtualMachines, vm.id = vmId ∧ vm.ownerUserId = currentUserId
  match (db.operation? operationId).filter fun operation => own operation with
  | some operation => .json 200 (.operation operation)
  | none => .httpException 404 "Operation not found"

/-- The query of `my_vms`, without its order. -/
def myVms (db : Database) (userId : Uuid) : List VirtualMachine :=
  db.virtualMachines.filter fun vm => vm.ownerUserId = userId

/-! ## No internal error -/

/-- Every endpoint of the request has a response for this result. -/
def WebRequest.Responds (request : WebRequest) (result : Except Error WebReply) : Prop :=
  match request with
  | .create _ => (createMyVm result).isOk ∧ (dashboardVms result).isOk
  | .enqueue _ => (enqueueLifecycleOperation result).isOk ∧ (vmStart result).isOk

section Errors

variable {db : Database} {context : RequestContext} {work : Work} {error : Error}
  {request : WebRequest}

theorem WebRequest.responds_ok (request : WebRequest) (reply : WebReply) :
    request.Responds (.ok reply) := by
  cases request <;> exact ⟨rfl, rfl⟩

theorem Outcome.orRaise_eq_raise {α : Type} {result : Except Error α} {next : α → Outcome} :
    Outcome.orRaise result next = .reply (.error error) ↔
      result = .error error ∨ ∃ value, result = .ok value ∧ next value = .reply (.error error) := by
  cases result <;> simp [Outcome.orRaise]

/-- The VM of an operation is there, so reading it raises no `RuntimeError`. -/
theorem readExistingVm_raises {operation : Operation} {userId : Uuid}
    {asked : VirtualMachineCreate} {idempotencyKey : String}
    (knows : db.Knows idempotencyKey operation)
    (raises : readExistingVm db operation userId asked = .error error) :
    ∃ detail, error = .valueError detail := by
  rcases knows with ⟨_, current, currentMem, same⟩
  simp only [readExistingVm, bind_eq_error, require_eq_error, found_eq_error] at raises
  rcases raises with ⟨_, rfl⟩ |
    ⟨_, _, ⟨missing, _⟩ | ⟨vm, _, ⟨_, rfl⟩ | ⟨_, _, ⟨_, rfl⟩ | ⟨_, _, ends⟩⟩⟩⟩
  · exact ⟨_, rfl⟩
  · have hasVm := db.valid.operationVms current currentMem
    rw [same.virtualMachineId] at hasVm
    exact absurd hasVm (KeyedRows.lookup_eq_none_iff.mp missing)
  · exact ⟨_, rfl⟩
  · exact ⟨_, rfl⟩
  · cases ends

/-- The checks of a create raise what its endpoints expect. -/
theorem checkQuotaAndImage_raises {quota : UserQuota} {asked : VirtualMachineCreate}
    (raises : checkQuotaAndImage quota asked = .error error) :
    (∃ detail, error = .permissionError detail) ∨ ∃ detail, error = .valueError detail := by
  simp only [checkQuotaAndImage, bind_eq_error, require_eq_error, found_eq_error] at raises
  rcases raises with ⟨_, rfl⟩ | ⟨_, _, ⟨_, rfl⟩ | ⟨_, _, _, rfl⟩⟩
  · exact .inl ⟨_, rfl⟩
  · exact .inr ⟨_, rfl⟩
  · exact .inr ⟨_, rfl⟩

theorem validateVmQuota_raises {plan : ComputePlan} {usage : ComputeUsage}
    {asked : VirtualMachineCreate} (raises : validateVmQuota plan usage asked = .error error) :
    ∃ detail, error = .valueError detail := by
  simp only [validateVmQuota, bind_eq_error, require_eq_error] at raises
  rcases raises with ⟨_, rfl⟩ | ⟨_, _, ⟨_, rfl⟩ | ⟨_, _, ⟨_, rfl⟩ | ⟨_, _, _, rfl⟩⟩⟩ <;>
    exact ⟨_, rfl⟩

/-- What the statements of a create raise. -/
theorem CreateCall.raises_of_next {call : CreateCall} {point : CreatePoint}
    (holds : (Work.create call point).Holds db)
    (ends : call.next db context point = .reply (.error error)) :
    (∃ detail, error = .permissionError detail) ∨ (∃ detail, error = .valueError detail) ∨
      db.userQuota? call.userId = none ∧ error = .runtimeError "user quota is missing" := by
  cases point with
  | checkingSshKey =>
      rcases Outcome.orRaise_eq_raise.mp ends with raises | ⟨_, _, ends⟩
      · exact .inr (.inl ⟨_, (require_eq_error.mp raises).2.symm⟩)
      · cases ends
  | lockingQuota =>
      rcases Outcome.orRaise_eq_raise.mp ends with raises | ⟨_, _, ends⟩
      · rcases found_eq_error.mp raises with ⟨missing, rfl⟩
        exact .inr (.inr ⟨missing, rfl⟩)
      · cases ends
  | lookingUp quota =>
      simp only [CreateCall.next] at ends
      split at ends
      · cases ends
      · rcases Outcome.orRaise_eq_raise.mp ends with raises | ⟨_, _, ends⟩
        · rcases checkQuotaAndImage_raises raises with denied | wrong
          · exact .inl denied
          · exact .inr (.inl wrong)
        · cases ends
  | readingExisting quota operation =>
      exact .inr (.inl (readExistingVm_raises holds (map_eq_error.mp (Outcome.reply.inj ends))))
  | readingPlan quota =>
      have checked : call.Checked db quota := holds
      rcases Outcome.orRaise_eq_raise.mp ends with raises | ⟨_, _, ends⟩
      · have quotaMem := (Database.userQuota?_eq_some_iff.mp checked.quotaStored).1
        exact absurd (db.valid.quotaPlans quota quotaMem)
          (KeyedRows.lookup_eq_none_iff.mp (found_eq_error.mp raises).1)
      · cases ends
  | readingUsage quota plan =>
      rcases Outcome.orRaise_eq_raise.mp ends with raises | ⟨_, _, ends⟩
      · exact .inr (.inl (validateVmQuota_raises raises))
      · cases ends
  | insertingVm quota plan =>
      simp only [CreateCall.next] at ends
      split at ends <;> cases ends
  | insertingOperation quota plan vm =>
      simp only [CreateCall.next] at ends
      split at ends <;> cases ends
  | committing quota plan vm operation => cases ends
  | rechecking =>
      rcases Outcome.orRaise_eq_raise.mp ends with raises | ⟨_, _, ends⟩
      · exact .inr (.inl ⟨_, (found_eq_error.mp raises).2.symm⟩)
      · cases ends
  | recheckingExisting operation =>
      exact .inr (.inl (readExistingVm_raises holds (map_eq_error.mp (Outcome.reply.inj ends))))

/-- What the statements of a lifecycle request raise. -/
theorem EnqueueCall.raises_of_next {call : EnqueueCall} {point : EnqueuePoint}
    (ends : call.next db context point = .reply (.error error)) :
    (∃ detail, error = .lookupError detail) ∨ ∃ detail, error = .valueError detail := by
  have compared : ∀ {existing : Operation} {vmId : Uuid},
      checkExistingOperation existing vmId call.operationType = .error error →
        ∃ detail, error = .valueError detail := by
    intro existing vmId raises
    simp only [checkExistingOperation, bind_eq_error, require_eq_error] at raises
    rcases raises with ⟨_, rfl⟩ | ⟨_, _, ends⟩
    · exact ⟨_, rfl⟩
    · cases ends
  cases point with
  | lockingVm =>
      rcases Outcome.orRaise_eq_raise.mp ends with raises | ⟨_, _, ends⟩
      · exact .inr ⟨_, (found_eq_error.mp raises).2.symm⟩
      · rcases Outcome.orRaise_eq_raise.mp ends with raises | ⟨_, _, ends⟩
        · exact .inl ⟨_, (found_eq_error.mp raises).2.symm⟩
        · cases ends
  | lookingUp statuses vm =>
      simp only [EnqueueCall.next] at ends
      split at ends
      · exact .inr (compared (map_eq_error.mp (Outcome.reply.inj ends)))
      · cases ends
  | checkingActive statuses vm =>
      rcases Outcome.orRaise_eq_raise.mp ends with raises | ⟨_, _, ends⟩
      · exact .inr ⟨_, (require_eq_error.mp raises).2.symm⟩
      · rcases Outcome.orRaise_eq_raise.mp ends with raises | ⟨_, _, ends⟩
        · exact .inr ⟨_, (require_eq_error.mp raises).2.symm⟩
        · cases ends
  | inserting statuses vm =>
      simp only [EnqueueCall.next] at ends
      split at ends <;> cases ends
  | committing statuses vm operation => cases ends
  | rechecking vm =>
      have raises := map_eq_error.mp (Outcome.reply.inj ends)
      unfold recheckEnqueue at raises
      split at raises
      · exact .inr (compared raises)
      · cases raises
        exact .inr ⟨_, rfl⟩

/-- The rows of an open request can be inserted when it commits. -/
theorem Work.inserts_of_next {vms : List VirtualMachine} {operations : List Operation}
    {reply : WebReply} (holds : work.Holds db)
    (commits : work.next db context = .commit vms operations reply) :
    ∃ next, db.insert vms operations = some next := by
  cases work with
  | create call point =>
      rcases CreateCall.commit_of_next commits with ⟨quota, plan, vm, operation, rfl, rfl, rfl, rfl⟩
      rcases holds with ⟨admitted, isNew, freshVm, isNewOperation, freshId, freshKey⟩
      have rejects : db.insert [newVm vm.id call.userId call.request] [newCreateOperation
          operation.id vm.id call.idempotencyKey operation.updatedAt] = none ↔
            vm.id ∈ db.virtualMachines.map (·.id) ∨ operation.id ∈ db.operations.map (·.id) ∨
              call.idempotencyKey ∈ db.operations.map (·.idempotencyKey) :=
        @insert_create_eq_none_iff call.userId db ⟨vm.id, operation.id, operation.updatedAt⟩
          call.request call.idempotencyKey admitted.sshKey
      rw [← isNew, ← isNewOperation] at rejects
      refine Option.ne_none_iff_exists'.mp fun rejected => ?_
      rcases rejects.mp rejected with taken | taken | taken
      · exact KeyedRows.lookup_eq_none_iff.mp freshVm taken
      · exact freshId taken
      · exact freshKey taken
  | enqueue call point =>
      rcases EnqueueCall.commit_of_next commits with ⟨statuses, vm, operation, rfl, rfl, rfl, rfl⟩
      rcases holds with ⟨allowed, isNew, freshId, freshKey⟩
      have sameKey : operation.idempotencyKey = call.idempotencyKey := by rw [isNew]; rfl
      have sameVm : operation.virtualMachineId = vm.id := by rw [isNew]; rfl
      have vmMem := (Database.virtualMachine?_eq_some_iff.mp
        (ownVm?_eq_some.mp allowed.own).1).1
      have fits : operation.Fits := by
        rw [isNew]
        exact newLifecycleOperation_fits _ _ _ _ _
      exact Database.exists_insert fits freshId (sameKey ▸ freshKey)
        (sameVm ▸ List.mem_map_of_mem vmMem)

/-- What a request raises has a response, or its user has no quota. -/
theorem Work.responds_of_next (holds : work.Holds db)
    (ends : work.next db context = .reply (.error error)) :
    work.request.Responds (.error error) ∨
      db.userQuota? work.request.userId = none ∧ (∃ call, work.request = .create call) ∧
        error = .runtimeError "user quota is missing" := by
  cases work with
  | create call point =>
      rcases CreateCall.raises_of_next holds ends with ⟨_, rfl⟩ | ⟨_, rfl⟩ | ⟨missing, rfl⟩
      · exact .inl ⟨rfl, rfl⟩
      · exact .inl ⟨rfl, rfl⟩
      · exact .inr ⟨missing, ⟨call, rfl⟩, rfl⟩
  | enqueue call point =>
      rcases EnqueueCall.raises_of_next ends with ⟨_, rfl⟩ | ⟨_, rfl⟩ <;> exact .inl ⟨rfl, rfl⟩

end Errors

section Responses

variable {state : Site} {history first later : List SiteEvent} {request : WebRequest}
  {result : Except Error WebReply} {reply : WebReply}

/-- However the requests overlap, every one ends with a response of its endpoint and never with
an internal error, unless a user without a quota asks for a VM; and a request that was refused
has changed nothing. -/
theorem responses_of_execution
    (execution : site.Execution (first ++ .answered request result :: later) state) :
    ∃ before after, site.Execution first before ∧
      site.step before (.answered request result) after ∧ site.Run after later state ∧
      (request.Responds result ∨
        before.world.db.userQuota? request.userId = none ∧ (∃ call, request = .create call) ∧
          result = .error (.runtimeError "user quota is missing")) ∧
      ∀ error, result = .error error → after.world = before.world := by
  rcases execution.split with ⟨before, after, early, step, run⟩
  have sound := site_sound_of_reachable early.reachable
  refine ⟨before, after, early, step, run, ?_⟩
  rcases Site.ends_of_step sound step with ⟨session, opened, context, rfl, ⟨ends, same⟩ |
    ⟨vms, operations, reply, commits, ⟨db, inserted, rfl, _⟩ | ⟨rejected, _, _⟩⟩⟩
  · refine ⟨?_, fun _ _ => same⟩
    cases result with
    | ok reply => exact .inl (WebRequest.responds_ok _ reply)
    | error error => simpa using Work.responds_of_next (sound.holds session opened) ends
  · refine ⟨.inl (WebRequest.responds_ok _ reply), ?_⟩
    intro error raises
    cases raises
  · -- The transaction holds the index entries of its rows, so it cannot lose them at the commit.
    rcases Work.inserts_of_next (sound.holds session opened) commits with ⟨db, inserted⟩
    rw [rejected] at inserted
    cases inserted

/-- The two requests for one key, up to the answer of the one that lost. -/
def sampleLostRace : List SiteAction := sampleRace.take 20

set_option maxRecDepth 10000 in
theorem sampleLostRace_responds :
    let ran := Site.initial.perform sampleLostRace
    let request := WebRequest.create ⟨2, { sampleRequest with sshPublicKeyId := 12 }, "key"⟩
    let result := Except.error (Error.valueError "idempotency key already used")
    createMyVm result = .ok (.httpException 409 "idempotency key already used") ∧
      ∃ before after, site.Execution ran.1.dropLast before ∧
        site.step before (.answered request result) after ∧ site.Run after [] ran.2 ∧
        (request.Responds result ∨
          before.world.db.userQuota? request.userId = none ∧ (∃ call, request = .create call) ∧
            result = .error (.runtimeError "user quota is missing")) ∧
        ∀ error, result = .error error → after.world = before.world := by
  intro ran request result
  have splits : ran.1 = ran.1.dropLast ++ .answered request result :: [] := rfl
  exact ⟨rfl, responses_of_execution (splits ▸ Site.perform_execution sampleLostRace)⟩

end Responses

/-! ## What a user sees -/

section Visible

variable {db : Database} {state target : Site} {history later : List SiteEvent}
  {request : WebRequest} {reply : WebReply}

/-- The operation is shown to the owner of its VM. -/
theorem operationStatus_of_owner {operation : Operation} {vm : VirtualMachine}
    (stored : operation ∈ db.operations) (vmMem : vm ∈ db.virtualMachines)
    (isVm : vm.id = operation.virtualMachineId) :
    operationStatus db vm.ownerUserId operation.virtualMachineId operation.id =
      .json 200 (.operation operation) := by
  have found := Database.operation?_eq_some_iff.mpr ⟨stored, rfl⟩
  have own : operation.virtualMachineId = operation.virtualMachineId ∧
      ∃ row ∈ db.virtualMachines, row.id = operation.virtualMachineId ∧
        row.ownerUserId = vm.ownerUserId := ⟨rfl, vm, vmMem, isVm, rfl⟩
  simp only [operationStatus, found, Option.filter_some, own, and_self, decide_true, if_true]

/-- Nobody else is shown anything of it, whichever VM they name. -/
theorem operationStatus_of_other {operation : Operation} {vm : VirtualMachine}
    (stored : operation ∈ db.operations) (vmMem : vm ∈ db.virtualMachines)
    (isVm : vm.id = operation.virtualMachineId) {other : Uuid} (differs : other ≠ vm.ownerUserId)
    (vmId : Uuid) :
    operationStatus db other vmId operation.id = .httpException 404 "Operation not found" := by
  have found := Database.operation?_eq_some_iff.mpr ⟨stored, rfl⟩
  have foreign : ¬(operation.virtualMachineId = vmId ∧
      ∃ row ∈ db.virtualMachines, row.id = vmId ∧ row.ownerUserId = other) := by
    rintro ⟨rfl, row, rowMem, isRow, owner⟩
    rcases KeyedRows.eq_of_key_eq db.valid.vmIds rowMem vmMem (isRow.trans isVm.symm) with rfl
    exact differs owner.symm
  simp only [operationStatus, found, Option.filter_some, foreign, decide_false, Bool.false_eq_true,
    if_false]

/-- The status of an operation from one moment to a later one, for its owner and for others. -/
structure Operation.ShownTo (operation : Operation) (userId : Uuid) (db later : Database) :
    Prop where
  /-- The client polls one operation, which only comes forward. -/
  shown : ∃ row next, operationStatus db userId operation.virtualMachineId operation.id =
      .json 200 (.operation row) ∧
    operationStatus later userId operation.virtualMachineId operation.id =
      .json 200 (.operation next) ∧ operation.SameIdentity row ∧ row.Forward next
  hidden : ∀ other ≠ userId, ∀ vmId, operationStatus later other vmId operation.id =
    .httpException 404 "Operation not found"

theorem Operation.shownTo_of_stored {operation row : Operation} {vm : VirtualMachine}
    {db later : Database} (identity : operation.SameIdentity row) (stored : row ∈ db.operations)
    (vmMem : vm ∈ db.virtualMachines) (isVm : vm.id = operation.virtualMachineId)
    (precedes : db.Precedes later) : operation.ShownTo vm.ownerUserId db later := by
  rcases precedes.operations row stored with ⟨next, nextMem, forward⟩
  rcases precedes.vms vm vmMem with ⟨machine, machineMem, onward⟩
  have isMachine : machine.id = next.virtualMachineId := by
    rw [onward.id, isVm, forward.identity.virtualMachineId, identity.virtualMachineId]
  have now := operationStatus_of_owner stored vmMem (isVm.trans identity.virtualMachineId.symm)
  have afterwards := operationStatus_of_owner nextMem machineMem isMachine
  rw [identity.virtualMachineId, identity.id] at now
  rw [forward.identity.virtualMachineId, forward.identity.id, identity.virtualMachineId,
    identity.id, onward.ownerUserId] at afterwards
  refine ⟨⟨row, next, now, afterwards, identity, forward⟩, fun other differs vmId => ?_⟩
  have foreign := operationStatus_of_other nextMem machineMem isMachine
    (onward.ownerUserId ▸ differs) vmId
  rwa [forward.identity.id, identity.id] at foreign

/-- The VM is in the list of its owner at both moments, and in no other one. -/
structure VirtualMachine.ListedFor (vm : VirtualMachine) (userId : Uuid) (db later : Database) :
    Prop where
  listed : ∃ row ∈ myVms db userId, ∃ next ∈ myVms later userId, vm.Onward row ∧ row.Onward next
  hidden : ∀ other ≠ userId, ∀ row ∈ myVms later other, row.id ≠ vm.id

theorem VirtualMachine.listedFor_of_stored {vm row : VirtualMachine} {db later : Database}
    (onward : vm.Onward row) (rowMem : row ∈ db.virtualMachines) (precedes : db.Precedes later) :
    vm.ListedFor vm.ownerUserId db later := by
  rcases precedes.vms row rowMem with ⟨next, nextMem, toNext⟩
  have owner : next.ownerUserId = vm.ownerUserId := toNext.ownerUserId.trans onward.ownerUserId
  refine ⟨⟨row, List.mem_filter.mpr ⟨rowMem, by simp [onward.ownerUserId]⟩, next,
    List.mem_filter.mpr ⟨nextMem, by simp [owner]⟩, onward, toNext⟩, ?_⟩
  intro other differs listed listedMem same
  rcases List.mem_filter.mp listedMem with ⟨stored, owned⟩
  rcases KeyedRows.eq_of_key_eq later.valid.vmIds stored nextMem
    (same.trans (toNext.id.trans onward.id).symm) with rfl
  exact differs ((of_decide_eq_true owned).symm.trans owner)

/-- What was answered with success is shown to the user who asked, at every later moment and as
far as it has come, and to nobody else. -/
theorem shown_of_execution (execution : site.Execution history state)
    (answered : .answered request (.ok reply) ∈ history) (run : site.Run state later target) :
    (∀ operation, reply = .operation operation →
      operation.ShownTo request.userId state.world.db target.world.db ∧
      ∃ vm : VirtualMachine, vm.id = operation.virtualMachineId ∧
        vm.ListedFor request.userId state.world.db target.world.db) ∧
    ∀ vm, reply = .vm vm → vm.ListedFor request.userId state.world.db target.world.db ∧
      ∃ operation : Operation, operation.idempotencyKey = request.idempotencyKey ∧
        operation.operationType = .vmCreate ∧ operation.virtualMachineId = vm.id ∧
        operation.ShownTo request.userId state.world.db target.world.db := by
  have answers := answers_of_execution execution answered
  have precedes := site_precedes_of_run execution.reachable run
  cases request with
  | create call =>
      cases reply with
      | operation operation => exact False.elim answers
      | vm vm =>
          rcases answers with ⟨owner, _, ⟨row, rowMem, onward⟩, stored, storedMem, sameKey, kind,
            sameVm⟩
          have isVm : row.id = stored.virtualMachineId := onward.id.trans sameVm.symm
          have rowOwner : row.ownerUserId = call.userId := onward.ownerUserId.trans owner
          have shown := Operation.shownTo_of_stored (.refl stored) storedMem rowMem isVm precedes
          have listed := VirtualMachine.listedFor_of_stored onward rowMem precedes
          rw [rowOwner] at shown
          rw [owner] at listed
          refine ⟨fun _ same => (by cases same), fun other same => ?_⟩
          cases same
          exact ⟨listed, stored, sameKey, kind, sameVm, shown⟩
  | enqueue call =>
      cases reply with
      | vm vm => exact False.elim answers
      | operation operation =>
          rcases answers with ⟨_, sameVm, _, _, ⟨stored, storedMem, identity⟩, row, rowMem, isRow,
            owner⟩
          have shown := Operation.shownTo_of_stored identity storedMem rowMem
            (isRow.trans sameVm.symm) precedes
          have listed := VirtualMachine.listedFor_of_stored (.refl row) rowMem precedes
          rw [owner] at shown listed
          refine ⟨fun other same => ?_, fun _ same => (by cases same)⟩
          cases same
          exact ⟨shown, row, isRow.trans sameVm.symm, listed⟩

theorem Site.perform_run (state : Site) (actions : List SiteAction) :
    site.Run state (state.perform actions).1 (state.perform actions).2 := by
  unfold Site.perform
  cases performed : LabelledSystem.perform Site.step? actions state with
  | none => exact .nil
  | some outcome => exact LabelledSystem.run_of_perform performed

set_option maxRecDepth 10000 in
/-- The first VM of the race is listed for user 1 when it was created and when the race is over,
and not for user 2. -/
theorem sampleRace_shown :
    let won := Site.initial.perform (sampleRace.take 17)
    let ended := won.2.perform (sampleRace.drop 17)
    (newVm 31 1 sampleRequest).ListedFor 1 won.2.world.db ended.2.world.db ∧
      ended.2.sessions = [] := by
  intro won ended
  have served : (.create ⟨1, sampleRequest, "key"⟩, .vm (newVm 31 1 sampleRequest)) ∈
      won.1.filterMap SiteEvent.served? := by decide +kernel
  have shown := shown_of_execution (Site.perform_execution (sampleRace.take 17))
    (answered_of_served served) (won.2.perform_run (sampleRace.drop 17))
  exact ⟨(shown.2 _ rfl).1, by decide +kernel⟩

end Visible

end NpdPortal
