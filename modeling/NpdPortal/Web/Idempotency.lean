import NpdPortal.Web.Refinement

/-!
# Idempotency keys

One operation has a key, requests that succeed with the key are served with
that operation, and a request whose key belongs to something else raises and
commits nothing, whichever of the two services it goes to and wherever it loses
the race.
-/

namespace NpdPortal

/-- The key of the request belongs to an operation which the request does not ask for: that of
another user or VM, of another type or with another payload. -/
def Database.KeyTaken (db : Database) (request : WebRequest) : Prop :=
  ∃ operation ∈ db.operations, operation.idempotencyKey = request.idempotencyKey ∧
    ∃ vm ∈ db.virtualMachines, vm.id = operation.virtualMachineId ∧
      match request with
      | .create call => operation.operationType ≠ .vmCreate ∨ vm.ownerUserId ≠ call.userId ∨
          ¬vm.MatchesRequest call.request
      | .enqueue call => operation.operationType ≠ call.operationType ∨ vm.id ≠ call.vmId ∨
          vm.ownerUserId ≠ call.userId

/-- Two replies are the same VM or the same operation, at whichever time they were read. -/
def WebReply.SameRow : WebReply → WebReply → Prop
  | .vm first, .vm second => first.id = second.id
  | .operation first, .operation second => first.id = second.id
  | _, _ => False

section Rows

variable {db later : Database} {request other : WebRequest} {reply served : WebReply}

theorem VirtualMachine.Onward.matchesRequest {vm row : VirtualMachine} (onward : vm.Onward row)
    (request : VirtualMachineCreate) : row.MatchesRequest request ↔ vm.MatchesRequest request := by
  simp only [VirtualMachine.MatchesRequest, onward.requestedVcpus, onward.requestedMemoryMb,
    onward.requestedStorageGb, onward.imageId, onward.sshPublicKeyId]

theorem WebReply.Answers.mono (answers : reply.Answers db request) (precedes : db.Precedes later) :
    reply.Answers later request := by
  cases request with
  | create call =>
      cases reply with
      | operation operation => exact False.elim answers
      | vm vm =>
          rcases answers with ⟨owner, same, ⟨row, rowMem, onward⟩, stored, storedMem, sameKey, kind,
            sameVm⟩
          rcases precedes.vms row rowMem with ⟨next, nextMem, toNext⟩
          rcases precedes.operations stored storedMem with ⟨updated, updatedMem, forward⟩
          exact ⟨owner, same, ⟨next, nextMem, onward.trans toNext⟩, updated, updatedMem,
            forward.identity.idempotencyKey.trans sameKey,
            forward.identity.operationType.trans kind,
            forward.identity.virtualMachineId.trans sameVm⟩
  | enqueue call =>
      cases reply with
      | vm vm => exact False.elim answers
      | operation operation =>
          rcases answers with ⟨kind, sameVm, sameType, sameKey, ⟨stored, storedMem, identity⟩, row,
            rowMem, rowId, owner⟩
          rcases precedes.operations stored storedMem with ⟨updated, updatedMem, forward⟩
          rcases precedes.vms row rowMem with ⟨next, nextMem, toNext⟩
          exact ⟨kind, sameVm, sameType, sameKey,
            ⟨updated, updatedMem, identity.trans forward.identity⟩, next, nextMem,
            toNext.id.trans rowId, toNext.ownerUserId.trans owner⟩

/-- The operation with the key of a request which was answered. -/
theorem WebReply.Answers.keyed (answers : reply.Answers db request) :
    ∃ operation ∈ db.operations, operation.idempotencyKey = request.idempotencyKey := by
  cases request with
  | create call =>
      cases reply with
      | operation operation => exact False.elim answers
      | vm vm =>
          rcases answers with ⟨_, _, _, stored, storedMem, sameKey, _⟩
          exact ⟨stored, storedMem, sameKey⟩
  | enqueue call =>
      cases reply with
      | vm vm => exact False.elim answers
      | operation operation =>
          rcases answers with ⟨_, _, _, sameKey, ⟨stored, storedMem, identity⟩, _⟩
          exact ⟨stored, storedMem, identity.idempotencyKey.trans sameKey⟩

theorem Database.eq_of_key {first second : Operation} (firstMem : first ∈ db.operations)
    (secondMem : second ∈ db.operations) (same : first.idempotencyKey = second.idempotencyKey) :
    first = second :=
  KeyedRows.eq_of_key_eq db.valid.idempotencyKeys firstMem secondMem same

/-- Requests that were answered with one key were answered with one row. -/
theorem WebReply.Answers.sameRow (answers : reply.Answers db request)
    (others : served.Answers db other)
    (sameKey : request.idempotencyKey = other.idempotencyKey) : reply.SameRow served := by
  cases request with
  | create call =>
      cases reply with
      | operation operation => exact False.elim answers
      | vm vm =>
          rcases answers with ⟨_, _, _, stored, storedMem, storedKey, kind, sameVm⟩
          cases other with
          | create otherCall =>
              cases served with
              | operation operation => exact False.elim others
              | vm otherVm =>
                  rcases others with ⟨_, _, _, row, rowMem, rowKey, _, rowVm⟩
                  have same : stored = row := Database.eq_of_key storedMem rowMem
                    (storedKey.trans (sameKey.trans rowKey.symm))
                  subst same
                  exact sameVm.symm.trans rowVm
          | enqueue otherCall =>
              cases served with
              | vm otherVm => exact False.elim others
              | operation operation =>
                  rcases others with ⟨notCreate, _, sameType, rowKey, ⟨row, rowMem, identity⟩, _⟩
                  have same : stored = row := Database.eq_of_key storedMem rowMem
                    (storedKey.trans (sameKey.trans
                      (identity.idempotencyKey.trans rowKey).symm))
                  subst same
                  exact absurd (sameType.symm.trans (identity.operationType.symm.trans kind))
                    notCreate
  | enqueue call =>
      cases reply with
      | vm vm => exact False.elim answers
      | operation operation =>
          rcases answers with ⟨notCreate, _, sameType, storedKey, ⟨stored, storedMem, identity⟩, _⟩
          cases other with
          | create otherCall =>
              cases served with
              | operation operation => exact False.elim others
              | vm otherVm =>
                  rcases others with ⟨_, _, _, row, rowMem, rowKey, kind, _⟩
                  have same : stored = row := Database.eq_of_key storedMem rowMem
                    ((identity.idempotencyKey.trans storedKey).trans (sameKey.trans rowKey.symm))
                  subst same
                  exact absurd (sameType.symm.trans (identity.operationType.symm.trans kind))
                    notCreate
          | enqueue otherCall =>
              cases served with
              | vm otherVm => exact False.elim others
              | operation otherOperation =>
                  rcases others with ⟨_, _, _, rowKey, ⟨row, rowMem, rowIdentity⟩, _⟩
                  have same : stored = row := Database.eq_of_key storedMem rowMem
                    ((identity.idempotencyKey.trans storedKey).trans (sameKey.trans
                      (rowIdentity.idempotencyKey.trans rowKey).symm))
                  subst same
                  exact identity.id.symm.trans rowIdentity.id

/-- A key that belongs to another row does so ever after. -/
theorem Database.KeyTaken.mono (taken : db.KeyTaken request) (precedes : db.Precedes later) :
    later.KeyTaken request := by
  rcases taken with ⟨operation, stored, sameKey, vm, vmMem, vmId, differs⟩
  rcases precedes.operations operation stored with ⟨updated, updatedMem, forward⟩
  rcases precedes.vms vm vmMem with ⟨row, rowMem, onward⟩
  refine ⟨updated, updatedMem, forward.identity.idempotencyKey.trans sameKey, row, rowMem,
    onward.id.trans (vmId.trans forward.identity.virtualMachineId.symm), ?_⟩
  cases request with
  | create call =>
      simpa only [forward.identity.operationType, onward.ownerUserId,
        onward.matchesRequest] using differs
  | enqueue call =>
      simpa only [forward.identity.operationType, onward.ownerUserId, onward.id] using differs

/-- A request that was answered asks for the row its key belongs to. -/
theorem WebReply.Answers.not_keyTaken (answers : reply.Answers db request) :
    ¬db.KeyTaken request := by
  rintro ⟨operation, stored, sameKey, vm, vmMem, vmId, differs⟩
  cases request with
  | create call =>
      cases reply with
      | operation served => exact False.elim answers
      | vm served =>
          rcases answers with ⟨owner, same, ⟨row, rowMem, onward⟩, row', rowMem', rowKey, kind,
            sameVm⟩
          have sameRow : operation = row' := Database.eq_of_key stored rowMem'
            (sameKey.trans rowKey.symm)
          subst sameRow
          have isRow : vm = row := KeyedRows.eq_of_key_eq db.valid.vmIds vmMem rowMem
            (vmId.trans (sameVm.trans onward.id.symm))
          subst isRow
          rcases differs with otherType | otherUser | otherPayload
          · exact otherType kind
          · exact otherUser (onward.ownerUserId.trans owner)
          · exact otherPayload ((onward.matchesRequest call.request).mpr same)
  | enqueue call =>
      cases reply with
      | vm served => exact False.elim answers
      | operation served =>
          rcases answers with ⟨_, sameVm, sameType, servedKey, ⟨row, rowMem, identity⟩, own, ownMem,
            ownId, owner⟩
          have sameRow : operation = row := Database.eq_of_key stored rowMem
            (sameKey.trans (identity.idempotencyKey.trans servedKey).symm)
          subst sameRow
          have isOwn : vm = own := KeyedRows.eq_of_key_eq db.valid.vmIds vmMem ownMem
            (vmId.trans (identity.virtualMachineId.trans (sameVm.trans ownId.symm)))
          subst isOwn
          rcases differs with otherType | otherVm | otherUser
          · exact otherType (identity.operationType.trans sameType)
          · exact otherVm ownId
          · exact otherUser owner

/-- Committed rows answer their request, whose key was unused before. -/
theorem Commits.answers {committed : Work} (commits : Commits db later committed reply)
    (holds : committed.Holds db) : reply.Answers later committed.request ∧
      committed.request.idempotencyKey ∉ db.operations.map (·.idempotencyKey) := by
  cases commits with
  | create call quota plan vm operation created performed =>
      rcases holds with ⟨_, isNew, _, _, _, freshKey⟩
      have owner : vm.ownerUserId = call.userId := by
        rw [isNew]
        rfl
      have same : vm.MatchesRequest call.request := by
        rw [isNew]
        exact ⟨rfl, rfl, rfl, rfl, rfl⟩
      refine ⟨⟨owner, same, ⟨vm, ?_, .refl vm⟩, newCreateOperation operation.id vm.id
        call.idempotencyKey operation.updatedAt, ?_, rfl, rfl, rfl⟩, freshKey⟩
      · rw [created.tables]
        refine List.mem_append_right _ (List.mem_singleton.mpr isNew)
      · rw [created.tables]
        exact List.mem_append_right _ (List.mem_singleton_self _)
  | enqueue call statuses vm operation enqueued performed =>
      rcases holds with ⟨allowed, isNew, _, freshKey⟩
      have vmId : vm.id = call.vmId := allowed.vm_id
      rw [vmId] at isNew
      rcases allowed.row with ⟨row, rowMem, rowId, owner⟩
      have fields : operation.virtualMachineId = call.vmId ∧
          operation.operationType = call.operationType ∧
          operation.idempotencyKey = call.idempotencyKey := by
        rw [isNew]
        exact ⟨rfl, rfl, rfl⟩
      refine ⟨⟨allowed.kind, fields.1, fields.2.1, fields.2.2, ⟨operation, ?_, .refl operation⟩,
        row, ?_, rowId, owner⟩, freshKey⟩
      · rw [enqueued.tables]
        exact List.mem_append_right _ (List.mem_singleton.mpr isNew)
      · rw [enqueued.tables]
        exact rowMem

end Rows

section Runs

variable {state next : Site} {event : SiteEvent} {history : List SiteEvent}

/-- What a step of a request leaves behind. -/
theorem SiteProgress.answered (progress : SiteProgress state event next) :
    match event with
    | .background _ => True
    | .answered request (.ok reply) => reply.Answers next.world.db request ∧
        ¬state.world.db.KeyTaken request
    | _ => next.world = state.world := by
  cases progress with
  | background label world step notWeb permits => trivial
  | begun id request fresh => rfl
  | proceeded session work opened holds sameRequest available => rfl
  | raised session error opened => rfl
  | aborted session opened => rfl
  | returned session reply opened answers => exact ⟨answers, answers.not_keyTaken⟩
  | committed session reply db opened holds commits =>
      rcases commits.answers holds with ⟨answers, unused⟩
      refine ⟨answers, ?_⟩
      rintro ⟨operation, stored, sameKey, _⟩
      exact unused (sameKey ▸ List.mem_map_of_mem stored)

/-- Every answer of a run is still the row of its request. -/
theorem answers_of_execution (execution : site.Execution history state) {request : WebRequest}
    {reply : WebReply} (answered : .answered request (.ok reply) ∈ history) :
    reply.Answers state.world.db request := by
  refine execution.invariant (motive := fun history state => ∀ request reply,
    .answered request (.ok reply) ∈ history → reply.Answers state.world.db request) ?_ ?_
    request reply answered
  · intro source _ request reply answered
    exact absurd answered List.not_mem_nil
  · intro earlier before label after early answers step request reply answered
    have sound := site_sound_of_reachable early.reachable
    have progress := site_step_progress sound step
    rcases List.mem_append.mp answered with old | new
    · exact (answers request reply old).mono (progress.precedes sound)
    · have isLabel := List.mem_singleton.mp new
      subst isLabel
      exact progress.answered.1

/-- Keys are unique, requests that succeed with one key are served with one row, which is the
row they ask for, and a request whose key belongs to another row raises and commits nothing. -/
theorem idempotencyKeys_respected (execution : site.Execution history state) :
    (∀ first ∈ state.world.db.operations, ∀ second ∈ state.world.db.operations,
      first.idempotencyKey = second.idempotencyKey → first = second) ∧
    (∀ request other reply served, .answered request (.ok reply) ∈ history →
      .answered other (.ok served) ∈ history →
      request.idempotencyKey = other.idempotencyKey → reply.SameRow served) ∧
    (∀ call reply, .answered (.create call) (.ok reply) ∈ history →
      ∃ vm, reply = .vm vm ∧ vm.ownerUserId = call.userId ∧ vm.MatchesRequest call.request ∧
        ∃ row, state.world.db.virtualMachine? vm.id = some row ∧
          row.ownerUserId = call.userId ∧ row.MatchesRequest call.request) ∧
    (∀ source label after between, site.Reachable source → site.Run source between state →
      site.step state label after →
        (∀ request result, label = .answered request result →
          source.world.db.KeyTaken request → ∃ error, result = .error error) ∧
        ((∀ event, label ≠ .background event) →
          (∀ request reply, label ≠ .answered request (.ok reply)) →
            after.world = state.world)) := by
  refine ⟨fun first firstMem second secondMem => Database.eq_of_key firstMem secondMem, ?_, ?_, ?_⟩
  · intro request other reply served first second sameKey
    exact (answers_of_execution execution first).sameRow (answers_of_execution execution second)
      sameKey
  · intro call reply answered
    have answers := answers_of_execution execution answered
    cases reply with
    | operation operation => exact False.elim answers
    | vm vm =>
        rcases answers with ⟨owner, same, ⟨row, rowMem, onward⟩, _⟩
        exact ⟨vm, rfl, owner, same, row,
          Database.virtualMachine?_eq_some_iff.mpr ⟨rowMem, onward.id⟩,
          onward.ownerUserId.trans owner, (onward.matchesRequest call.request).mpr same⟩
  · intro source label after between reachable run step
    have sound := site_sound_of_reachable execution.reachable
    have answered := (site_step_progress sound step).answered
    constructor
    · rintro request result rfl taken
      cases result with
      | error error => exact ⟨error, rfl⟩
      | ok reply => exact absurd (taken.mono (site_precedes_of_run reachable run)) answered.2
    · intro notBackground notOk
      cases label with
      | background event => exact absurd rfl (notBackground event)
      | answered request result =>
          cases result with
          | error error => exact answered
          | ok reply => exact absurd rfl (notOk request reply)
      | _ => exact answered

end Runs

/-! ## A race for one key -/

namespace Site

/-- Perform actions one after another; the state is left as it is when one of them is not
possible. -/
def perform (state : Site) (actions : List SiteAction) : List SiteEvent × Site :=
  (LabelledSystem.perform step? actions state).getD ([], state)

theorem perform_execution (actions : List SiteAction) :
    site.Execution (initial.perform actions).1 (initial.perform actions).2 := by
  refine ⟨initial, rfl, ?_⟩
  unfold perform
  cases performed : LabelledSystem.perform step? actions initial with
  | none => exact .nil
  | some outcome => exact LabelledSystem.run_of_perform performed

end Site

/-- The request and its answer, for the requests that succeed. -/
def SiteEvent.served? : SiteEvent → Option (WebRequest × WebReply)
  | .answered request (.ok reply) => some (request, reply)
  | _ => none

theorem answered_of_served {history : List SiteEvent} {request : WebRequest} {reply : WebReply}
    (served : (request, reply) ∈ history.filterMap SiteEvent.served?) :
    .answered request (.ok reply) ∈ history := by
  rcases List.mem_filterMap.mp served with ⟨event, eventMem, same⟩
  cases event with
  | answered other result =>
      cases result with
      | error error => cases same
      | ok found =>
          cases same
          exact eventMem
  | _ => cases same

/-- Two users and their keys. -/
def sampleUsers : Administration where
  sshPublicKeys := [⟨11, 1, "ssh-ed25519 AAAA"⟩, ⟨12, 2, "ssh-ed25519 BBBB"⟩]
  userQuotas := [⟨1, 21, .active⟩, ⟨2, 21, .active⟩]
  computePlans := [⟨21, "starter", 2, 4, 4096, 40, 0, true⟩]

/-- Statements of the session `id`. -/
def sampleStatements (id count : ℕ) (context : RequestContext) : List SiteAction :=
  List.replicate count (.proceed id context)

/-- The users 1 and 2 create VMs with one key; both have looked the key up before the first
one commits, and the first one asks again when the worker has placed its VM. -/
def sampleRace : List SiteAction :=
  [.background (.administer sampleUsers),
    .begin 1 (.create ⟨1, sampleRequest, "key"⟩),
    .begin 2 (.create ⟨2, { sampleRequest with sshPublicKeyId := 12 }, "key"⟩)] ++
  sampleStatements 1 6 ⟨31, 41, 1⟩ ++ sampleStatements 2 6 ⟨32, 42, 1⟩ ++
  sampleStatements 1 2 ⟨31, 41, 2⟩ ++ sampleStatements 2 3 ⟨32, 42, 3⟩ ++
  [.background (.select 4 [] 41 (sampleProvider .running .running) 4 4),
    .begin 3 (.create ⟨1, sampleRequest, "key"⟩)] ++ sampleStatements 3 4 ⟨33, 43, 5⟩

set_option maxRecDepth 10000 in
/-- The user is answered twice, before and after the VM was placed, with the row of one VM, and
the key is taken for the other user, who has neither a VM nor an operation. -/
theorem sampleRace_respected :
    let ran := Site.initial.perform sampleRace
    let created := newVm 31 1 sampleRequest
    let placed := { created with providerNode := some "node", providerVmid := some 100 }
    ran.1.filterMap SiteEvent.served? =
      [(.create ⟨1, sampleRequest, "key"⟩, .vm created),
        (.create ⟨1, sampleRequest, "key"⟩, .vm placed)] ∧
      (WebReply.vm created).SameRow (.vm placed) ∧ ran.2.sessions = [] ∧
      ran.2.world.db.KeyTaken (.create ⟨2, { sampleRequest with sshPublicKeyId := 12 }, "key"⟩) ∧
      ran.2.world.db.virtualMachines = [placed] ∧
      ran.2.world.db.operations.map (·.id) = [41] := by
  intro ran created placed
  have served : ran.1.filterMap SiteEvent.served? =
      [(.create ⟨1, sampleRequest, "key"⟩, .vm created),
        (.create ⟨1, sampleRequest, "key"⟩, .vm placed)] := by decide +kernel
  have first : .answered (.create ⟨1, sampleRequest, "key"⟩) (.ok (.vm created)) ∈ ran.1 :=
    answered_of_served (served ▸ List.mem_cons_self)
  have second : .answered (.create ⟨1, sampleRequest, "key"⟩) (.ok (.vm placed)) ∈ ran.1 :=
    answered_of_served (served ▸ List.mem_cons_of_mem _ List.mem_cons_self)
  have respected := idempotencyKeys_respected (Site.perform_execution sampleRace)
  refine ⟨served, respected.2.1 _ _ _ _ first second rfl, by decide +kernel, ?_,
    by decide +kernel, by decide +kernel⟩
  refine ⟨{ newCreateOperation 41 31 "key" 2 with phase := some "clone" }, ?_, rfl, placed,
    by decide +kernel, rfl, .inr (.inl (by decide))⟩
  decide +kernel

end NpdPortal
