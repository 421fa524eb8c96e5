import NpdPortal.Web.Holding

/-!
# Statements of a request

Every statement establishes what the next one relies on, a reply that is not an
error is the row of the request, and a commit is the undisturbed transaction
of the request on the rows that are committed at that moment.
-/

namespace NpdPortal

/-- The reply is the row of the request, as far as it may have been processed since. -/
def WebReply.Answers (db : Database) (request : WebRequest) (reply : WebReply) : Prop :=
  match request, reply with
  | .create call, .vm served => served.ownerUserId = call.userId ∧
      served.MatchesRequest call.request ∧
      (∃ row ∈ db.virtualMachines, served.Onward row) ∧
      ∃ stored ∈ db.operations, stored.idempotencyKey = call.idempotencyKey ∧
        stored.operationType = .vmCreate ∧ stored.virtualMachineId = served.id
  | .enqueue call, .operation served => call.operationType ≠ .vmCreate ∧
      served.virtualMachineId = call.vmId ∧ served.operationType = call.operationType ∧
      served.idempotencyKey = call.idempotencyKey ∧
      (∃ stored ∈ db.operations, served.SameIdentity stored) ∧
      ∃ row ∈ db.virtualMachines, row.id = call.vmId ∧ row.ownerUserId = call.userId
  | _, _ => False

section Statements

variable {db : Database} {context : RequestContext} {work later : Work}

theorem Outcome.orRaise_eq_proceed {α : Type} {result : Except Error α} {next : α → Outcome} :
    Outcome.orRaise result next = .proceed later ↔
      ∃ value, result = .ok value ∧ next value = .proceed later := by
  cases result <;> simp [Outcome.orRaise]

theorem Outcome.orRaise_eq_reply {α : Type} {result : Except Error α} {next : α → Outcome}
    {reply : WebReply} : Outcome.orRaise result next = .reply (.ok reply) ↔
      ∃ value, result = .ok value ∧ next value = .reply (.ok reply) := by
  cases result <;> simp [Outcome.orRaise]

theorem Outcome.orRaise_eq_commit {α : Type} {result : Except Error α} {next : α → Outcome}
    {vms : List VirtualMachine} {operations : List Operation} {reply : WebReply} :
    Outcome.orRaise result next = .commit vms operations reply ↔
      ∃ value, result = .ok value ∧ next value = .commit vms operations reply := by
  cases result <;> simp [Outcome.orRaise]

theorem Database.knows_of_operationByKey {idempotencyKey : String} {operation : Operation}
    (stored : db.operationByKey? idempotencyKey = some operation) :
    db.Knows idempotencyKey operation := by
  rcases Database.operationByKey?_eq_some_iff.mp stored with ⟨operationMem, sameKey⟩
  exact ⟨sameKey, operation, operationMem, .refl operation⟩

/-- A statement of a create establishes what the next one relies on. -/
theorem CreateCall.holds_of_next {call : CreateCall} {point : CreatePoint}
    (holds : (Work.create call point).Holds db)
    (next : call.next db context point = .proceed later) :
    later.Holds db ∧ later.request = .create call := by
  cases point with
  | checkingSshKey =>
      rcases Outcome.orRaise_eq_proceed.mp next with ⟨_, checked, goes⟩
      cases goes
      exact ⟨checked, rfl⟩
  | lockingQuota =>
      rcases Outcome.orRaise_eq_proceed.mp next with ⟨quota, stored, goes⟩
      cases goes
      exact ⟨⟨holds, found_eq_ok.mp stored⟩, rfl⟩
  | lookingUp quota =>
      simp only [CreateCall.next] at next
      split at next
      · rename_i operation stored
        cases next
        exact ⟨Database.knows_of_operationByKey stored, rfl⟩
      · rcases Outcome.orRaise_eq_proceed.mp next with ⟨_, checked, goes⟩
        cases goes
        exact ⟨⟨holds, checked⟩, rfl⟩
  | readingExisting quota operation => cases next
  | readingPlan quota =>
      rcases Outcome.orRaise_eq_proceed.mp next with ⟨plan, stored, goes⟩
      cases goes
      exact ⟨⟨holds, plan, found_eq_ok.mp stored, .refl plan⟩, rfl⟩
  | readingUsage quota plan =>
      rcases Outcome.orRaise_eq_proceed.mp next with ⟨_, validated, goes⟩
      cases goes
      exact ⟨⟨holds, validateVmQuota_eq_ok validated⟩, rfl⟩
  | insertingVm quota plan =>
      simp only [CreateCall.next] at next
      split at next <;> cases next
      · exact ⟨trivial, rfl⟩
      · rename_i fresh
        exact ⟨⟨holds, rfl, KeyedRows.lookup_eq_none_iff.mpr fresh⟩, rfl⟩
  | insertingOperation quota plan vm =>
      simp only [CreateCall.next] at next
      split at next <;> cases next
      · exact ⟨trivial, rfl⟩
      · rename_i fresh
        rcases not_or.mp fresh with ⟨freshId, freshKey⟩
        exact ⟨⟨holds.1, holds.2.1, holds.2.2, rfl, freshId, freshKey⟩, rfl⟩
  | committing quota plan vm operation => cases next
  | rechecking =>
      rcases Outcome.orRaise_eq_proceed.mp next with ⟨operation, stored, goes⟩
      cases goes
      exact ⟨Database.knows_of_operationByKey (found_eq_ok.mp stored), rfl⟩
  | recheckingExisting operation => cases next

/-- A statement of an enqueue establishes what the next one relies on. -/
theorem EnqueueCall.holds_of_next {call : EnqueueCall} {point : EnqueuePoint}
    (holds : (Work.enqueue call point).Holds db)
    (next : call.next db context point = .proceed later) :
    later.Holds db ∧ later.request = .enqueue call := by
  cases point with
  | lockingVm =>
      rcases Outcome.orRaise_eq_proceed.mp next with ⟨statuses, allowed, goes⟩
      rcases Outcome.orRaise_eq_proceed.mp goes with ⟨vm, own, goes⟩
      cases goes
      exact ⟨⟨found_eq_ok.mp allowed, found_eq_ok.mp own⟩, rfl⟩
  | lookingUp statuses vm =>
      simp only [EnqueueCall.next] at next
      split at next <;> cases next
      exact ⟨holds, rfl⟩
  | checkingActive statuses vm =>
      rcases Outcome.orRaise_eq_proceed.mp next with ⟨_, inactive, goes⟩
      rcases Outcome.orRaise_eq_proceed.mp goes with ⟨_, status, goes⟩
      cases goes
      exact ⟨⟨holds, require_eq_ok.mp inactive, require_eq_ok.mp status⟩, rfl⟩
  | inserting statuses vm =>
      have allowed : call.Allowed db statuses vm := holds
      simp only [EnqueueCall.next] at next
      split at next <;> cases next
      · rcases ownVm?_eq_some.mp allowed.own with ⟨stored, owner⟩
        refine ⟨⟨?_, vm, (Database.virtualMachine?_eq_some_iff.mp stored).1, allowed.vm_id,
          owner⟩, rfl⟩
        intro kind
        have statusesOf := allowed.allowed
        rw [kind] at statusesOf
        cases statusesOf
      · rename_i fresh
        rcases not_or.mp fresh with ⟨freshId, freshKey⟩
        exact ⟨⟨allowed, rfl, freshId, freshKey⟩, rfl⟩
  | committing statuses vm operation => cases next
  | rechecking vm => cases next

/-- Every statement establishes what the next one relies on. -/
theorem Work.holds_of_next (holds : work.Holds db) (next : work.next db context = .proceed later) :
    later.Holds db ∧ later.request = work.request := by
  cases work with
  | create call point => exact CreateCall.holds_of_next holds next
  | enqueue call point => exact EnqueueCall.holds_of_next holds next

/-! ## The end of a request -/

theorem Database.operationByKey?_eq_none_iff {idempotencyKey : String} :
    db.operationByKey? idempotencyKey = none ↔
      idempotencyKey ∉ db.operations.map (·.idempotencyKey) :=
  KeyedRows.lookup_eq_none_iff

theorem readExistingVm_answers {call : CreateCall} {operation : Operation} {reply : WebReply}
    (known : db.Knows call.idempotencyKey operation)
    (read : WebReply.vm <$> readExistingVm db operation call.userId call.request = .ok reply) :
    reply.Answers db (.create call) := by
  rcases map_eq_ok.mp read with ⟨vm, stored, rfl⟩
  rcases readExistingVm_eq_ok stored with ⟨kind, vmStored, owner, same⟩
  rcases Database.virtualMachine?_eq_some_iff.mp vmStored with ⟨vmMem, vmId⟩
  rcases known with ⟨sameKey, current, currentMem, identity⟩
  exact ⟨owner, same, ⟨vm, vmMem, .refl vm⟩, current, currentMem,
    identity.idempotencyKey.trans sameKey, identity.operationType.trans kind,
    identity.virtualMachineId.trans vmId.symm⟩

theorem checkExistingOperation_answers {call : EnqueueCall} {existing operation : Operation}
    (stored : db.operationByKey? call.idempotencyKey = some existing)
    (kind : call.operationType ≠ .vmCreate)
    (own : ∃ row ∈ db.virtualMachines, row.id = call.vmId ∧ row.ownerUserId = call.userId)
    (checked : checkExistingOperation existing call.vmId call.operationType = .ok operation) :
    (WebReply.operation operation).Answers db (.enqueue call) := by
  rcases checkExistingOperation_eq_ok checked with ⟨rfl, sameVm, sameType⟩
  rcases Database.operationByKey?_eq_some_iff.mp stored with ⟨operationMem, sameKey⟩
  exact ⟨kind, sameVm, sameType, sameKey, ⟨operation, operationMem, .refl operation⟩, own⟩

theorem EnqueueCall.Locked.kind {call : EnqueueCall} {statuses : List VmStatus}
    {vm : VirtualMachine} (locked : call.Locked db statuses vm) :
    call.operationType ≠ .vmCreate := by
  intro kind
  have allowed := locked.allowed
  rw [kind] at allowed
  cases allowed

theorem EnqueueCall.Locked.row {call : EnqueueCall} {statuses : List VmStatus}
    {vm : VirtualMachine} (locked : call.Locked db statuses vm) :
    ∃ row ∈ db.virtualMachines, row.id = call.vmId ∧ row.ownerUserId = call.userId := by
  rcases ownVm?_eq_some.mp locked.own with ⟨stored, owner⟩
  exact ⟨vm, (Database.virtualMachine?_eq_some_iff.mp stored).1, locked.vm_id, owner⟩

/-- A reply without a commit is the row of an earlier request. -/
theorem Work.answers_of_next {reply : WebReply} (holds : work.Holds db)
    (next : work.next db context = .reply (.ok reply)) : reply.Answers db work.request := by
  cases work with
  | create call point =>
      cases point with
      | checkingSshKey =>
          rcases Outcome.orRaise_eq_reply.mp next with ⟨_, _, ends⟩
          cases ends
      | lockingQuota =>
          rcases Outcome.orRaise_eq_reply.mp next with ⟨_, _, ends⟩
          cases ends
      | lookingUp quota =>
          simp only [Work.next, CreateCall.next] at next
          split at next
          · cases next
          · rcases Outcome.orRaise_eq_reply.mp next with ⟨_, _, ends⟩
            cases ends
      | readingExisting quota operation =>
          exact readExistingVm_answers holds (Outcome.reply.inj next)
      | readingPlan quota =>
          rcases Outcome.orRaise_eq_reply.mp next with ⟨_, _, ends⟩
          cases ends
      | readingUsage quota plan =>
          rcases Outcome.orRaise_eq_reply.mp next with ⟨_, _, ends⟩
          cases ends
      | insertingVm quota plan =>
          simp only [Work.next, CreateCall.next] at next
          split at next <;> cases next
      | insertingOperation quota plan vm =>
          simp only [Work.next, CreateCall.next] at next
          split at next <;> cases next
      | committing quota plan vm operation => cases next
      | rechecking =>
          rcases Outcome.orRaise_eq_reply.mp next with ⟨_, _, ends⟩
          cases ends
      | recheckingExisting operation =>
          exact readExistingVm_answers holds (Outcome.reply.inj next)
  | enqueue call point =>
      cases point with
      | lockingVm =>
          rcases Outcome.orRaise_eq_reply.mp next with ⟨_, _, ends⟩
          rcases Outcome.orRaise_eq_reply.mp ends with ⟨_, _, ends⟩
          cases ends
      | lookingUp statuses vm =>
          have locked : call.Locked db statuses vm := holds
          simp only [Work.next, EnqueueCall.next] at next
          split at next
          · rename_i existing stored
            rcases map_eq_ok.mp (Outcome.reply.inj next) with ⟨operation, checked, rfl⟩
            rw [locked.vm_id] at checked
            exact checkExistingOperation_answers stored locked.kind locked.row checked
          · cases next
      | checkingActive statuses vm =>
          rcases Outcome.orRaise_eq_reply.mp next with ⟨_, _, ends⟩
          rcases Outcome.orRaise_eq_reply.mp ends with ⟨_, _, ends⟩
          cases ends
      | inserting statuses vm =>
          simp only [Work.next, EnqueueCall.next] at next
          split at next <;> cases next
      | committing statuses vm operation => cases next
      | rechecking vm =>
          rcases holds with ⟨kind, own⟩
          rcases map_eq_ok.mp (Outcome.reply.inj next) with ⟨operation, checked, rfl⟩
          unfold recheckEnqueue at checked
          split at checked
          · exact checkExistingOperation_answers ‹_› kind own checked
          · cases checked

/-- The transaction a request commits. -/
inductive Commits (db next : Database) : Work → WebReply → Prop where
  | create (call : CreateCall) (quota : UserQuota) (plan : ComputePlan) (vm : VirtualMachine)
      (operation : Operation)
      (created : Created db next ⟨vm.id, operation.id, operation.updatedAt⟩ call.userId
        call.request call.idempotencyKey)
      (performed : createVm db ⟨vm.id, operation.id, operation.updatedAt⟩ call.userId
        call.request call.idempotencyKey = .ok (next, vm)) :
      Commits db next (.create call (.committing quota plan vm operation)) (.vm vm)
  | enqueue (call : EnqueueCall) (statuses : List VmStatus) (vm : VirtualMachine)
      (operation : Operation)
      (enqueued : Enqueued db next ⟨0, operation.id, operation.updatedAt⟩ call.userId
        call.vmId call.operationType call.idempotencyKey vm)
      (performed : enqueueVmOperation db ⟨0, operation.id, operation.updatedAt⟩ call.userId
        call.vmId call.operationType call.idempotencyKey = .ok (next, operation)) :
      Commits db next (.enqueue call (.committing statuses vm operation)) (.operation operation)

theorem CreateCall.commit_of_next {call : CreateCall} {point : CreatePoint}
    {vms : List VirtualMachine} {operations : List Operation} {reply : WebReply}
    (commits : call.next db context point = .commit vms operations reply) :
    ∃ quota plan vm operation, point = .committing quota plan vm operation ∧ vms = [vm] ∧
      operations = [operation] ∧ reply = .vm vm := by
  cases point with
  | committing quota plan vm operation =>
      cases commits
      exact ⟨quota, plan, vm, operation, rfl, rfl, rfl, rfl⟩
  | lookingUp quota =>
      simp only [CreateCall.next] at commits
      split at commits <;> simp [Outcome.orRaise_eq_commit] at commits
  | insertingVm quota plan =>
      simp only [CreateCall.next] at commits
      split at commits <;> cases commits
  | insertingOperation quota plan vm =>
      simp only [CreateCall.next] at commits
      split at commits <;> cases commits
  | _ => simp [CreateCall.next, Outcome.orRaise_eq_commit] at commits

theorem EnqueueCall.commit_of_next {call : EnqueueCall} {point : EnqueuePoint}
    {vms : List VirtualMachine} {operations : List Operation} {reply : WebReply}
    (commits : call.next db context point = .commit vms operations reply) :
    ∃ statuses vm operation, point = .committing statuses vm operation ∧ vms = [] ∧
      operations = [operation] ∧ reply = .operation operation := by
  cases point with
  | committing statuses vm operation =>
      cases commits
      exact ⟨statuses, vm, operation, rfl, rfl, rfl, rfl⟩
  | lookingUp statuses vm =>
      simp only [EnqueueCall.next] at commits
      split at commits <;> cases commits
  | inserting statuses vm =>
      simp only [EnqueueCall.next] at commits
      split at commits <;> cases commits
  | _ => simp [EnqueueCall.next, Outcome.orRaise_eq_commit] at commits

/-- A commit is the undisturbed transaction of the request on the committed rows. -/
theorem Work.commits_of_next {next : Database} {vms : List VirtualMachine}
    {operations : List Operation} {reply : WebReply} (holds : work.Holds db)
    (commits : work.next db context = .commit vms operations reply)
    (inserted : db.insert vms operations = some next) : Commits db next work reply := by
  cases work with
  | create call point =>
      rcases CreateCall.commit_of_next commits with ⟨quota, plan, vm, operation, rfl, rfl, rfl, rfl⟩
      rcases holds with ⟨admitted, isNew, _, isNewOperation, _, freshKey⟩
      rcases admitted.planStored with ⟨current, planStored, raised⟩
      have unused := Database.operationByKey?_eq_none_iff.mpr freshKey
      have performed : createVm db ⟨vm.id, operation.id, operation.updatedAt⟩ call.userId
          call.request call.idempotencyKey = .ok (next, vm) := by
        have ran := createVm_of_insert ⟨vm.id, operation.id, operation.updatedAt⟩
          admitted.sshKey admitted.quotaStored admitted.checked planStored
          (admitted.admits.mono (.refl _) raised) unused (by rwa [← isNew, ← isNewOperation])
        rwa [← isNew] at ran
      rcases createVm_eq_ok performed with ⟨created, _⟩ | ⟨_, before⟩
      · exact .create call quota plan vm operation created performed
      · rcases before.operation with ⟨other, keyed, _⟩
        simp [unused] at keyed
  | enqueue call point =>
      rcases EnqueueCall.commit_of_next commits with ⟨statuses, vm, operation, rfl, rfl, rfl, rfl⟩
      rcases holds with ⟨allowed, isNewOperation, _, freshKey⟩
      have unused := Database.operationByKey?_eq_none_iff.mpr freshKey
      rw [allowed.vm_id] at isNewOperation
      have performed : enqueueVmOperation db ⟨0, operation.id, operation.updatedAt⟩ call.userId
          call.vmId call.operationType call.idempotencyKey = .ok (next, operation) := by
        have ran := enqueueVmOperation_of_insert ⟨0, operation.id, operation.updatedAt⟩
          allowed.allowed allowed.own unused allowed.inactive allowed.status
          (by rwa [← isNewOperation])
        rwa [← isNewOperation] at ran
      rcases enqueueVmOperation_eq_ok performed with ⟨other, enqueued, _⟩ | ⟨_, before⟩
      · rcases Option.some.inj
          (enqueued.vmStored.symm.trans (ownVm?_eq_some.mp allowed.own).1) with rfl
        exact .enqueue call statuses other operation enqueued performed
      · have keyed := before.keyed
        simp [unused] at keyed

end Statements

end NpdPortal
