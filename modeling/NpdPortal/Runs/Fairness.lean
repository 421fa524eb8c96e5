import Mathlib.Algebra.Order.BigOperators.Group.List
import NpdPortal.Runs.Columns
import NpdPortal.Runs.Machines

/-!
# No operation is overtaken for long

The queue is ordered by `updated_at`, and a committed transaction of the worker
writes the time of its commit.  An operation that waits is therefore overtaken
by every other operation once, and once more by a create whose placement is
still to be chosen, because that transaction writes the VM row alone.
`Database.overtakers` is this bound; any number of workers uses it up.
-/

namespace NpdPortal

/-- The times which the transaction of the action reads and writes are not before `start`. -/
def Action.NotBefore (start : Time) : Action → Prop
  | .createVm context .. | .enqueue context .. => start ≤ context.now
  | .select now _ _ _ stamp dbNow => start ≤ now ∧ start ≤ stamp ∧ start ≤ dbNow
  | .store _ stamp dbNow => start ≤ stamp ∧ start ≤ dbNow
  | _ => True

instance (start : Time) : DecidablePred (Action.NotBefore start) := fun action => by
  cases action <;> unfold Action.NotBefore <;> infer_instance

/-- The query of the action skips this row, which is locked. -/
def Action.Skips (operationId : Uuid) : Action → Prop
  | .select _ locked .. => operationId ∈ locked
  | _ => False

instance (operationId : Uuid) : DecidablePred (Action.Skips operationId) := fun action => by
  cases action <;> unfold Action.Skips <;> infer_instance

/-- A selecting transaction was committed. -/
def Event.selections : Event → ℕ
  | .selected _ _ (some _) => 1
  | _ => 0

/-- The VM of the operation has a placement. -/
def Database.Located (db : Database) (operation : Operation) : Prop :=
  ∃ vm ∈ db.virtualMachines, vm.id = operation.virtualMachineId ∧ vm.providerVmid ≠ none

instance (db : Database) (operation : Operation) : Decidable (db.Located operation) :=
  inferInstanceAs (Decidable (∃ vm ∈ db.virtualMachines, _))

/-- How often an operation may be selected before `waiting`. -/
def Database.passes (db : Database) (waiting operation : Operation) : ℕ :=
  if operation.id ≠ waiting.id ∧ operation.Active ∧ operation.updatedAt ≤ waiting.updatedAt then
    if db.Located operation then 1 else 2
  else 0

/-- How often the others may be selected before `waiting`. -/
def Database.overtakers (db : Database) (waiting : Operation) : ℕ :=
  (db.operations.map (db.passes waiting)).sum

section Columns

variable {operation updated : Operation} {vm : VirtualMachine} {position : Position}
  {stamp dbNow start : Time}

/-- What a storing transaction accepts is the reply to the stage it finds. -/
theorem Position.exists_of_replied {dispatched : Stage} {target : ProviderPlacement}
    {result : ProviderResult} {changes : Changes}
    (accepted : position.replied dispatched stamp operation vm target result = some changes) :
    ∃ stage reply, position.Awaits stage ∧
      stage.replied stamp operation vm target reply = some changes := by
  cases position with
  | dispatching current =>
      simp only [Position.replied] at accepted
      split at accepted
      · rcases Option.bind_eq_some_iff.mp accepted with ⟨reply, _, replied⟩
        exact ⟨current, reply, .inl rfl, replied⟩
      · cases accepted
  | reconciling current =>
      simp only [Position.replied] at accepted
      split at accepted
      · split at accepted
        · rename_i task _
          exact ⟨current, .task task, .inr rfl, accepted⟩
        · cases accepted
      · cases accepted
  | _ => cases accepted

/-- A transaction of the worker that writes the row writes the time of its commit. -/
theorem Rewrites.stamped (rewrites : Rewrites stamp operation vm position updated)
    (atPosition : position.Matches operation) :
    (position = .pending .clone ∧ updated = operation) ∨ updated.updatedAt = stamp ∨
      updated ≠ operation ∧ updated.updatedAt = operation.updatedAt := by
  have status := atPosition.status
  have completed : ∀ stage : Stage, position.status = .processing →
      stage.completed operation ≠ operation ∧
        (stage.completed operation).updatedAt = operation.updatedAt := by
    intro stage processing
    constructor
    · intro same
      have kept : (stage.completed operation).status = .processing := by
        rw [same, status, processing]
      unfold Stage.completed at kept
      split at kept <;> cases kept
    · unfold Stage.completed
      split <;> rfl
  have awaiting : ∀ stage : Stage, position.Awaits stage → position.status = .processing := by
    rintro stage (rfl | rfl) <;> rfl
  cases rewrites with
  | placed => exact .inl ⟨rfl, rfl⟩
  | prepared stage => exact .inr (.inl rfl)
  | polled stage backoff answer =>
      right
      cases answer with
      | error error => exact .inl rfl
      | ok answer =>
          rcases state : answer.status with _ | _ | _
          · exact .inl (by simp only [Stage.polled, state])
          · right
            simpa only [Stage.polled, state] using completed stage rfl
          · simp only [Stage.polled, state]
            refine .inr ⟨fun same => ?_, trivial⟩
            have kept := congrArg Operation.status same
            rw [status] at kept
            cases kept
  | reconciled stage _ answer awaits readable =>
      right
      cases answer with
      | error error => exact .inl rfl
      | ok state =>
          by_cases confirms : stage.Confirms state
          · simp only [Stage.reconciled, if_pos confirms]
            exact .inr (completed stage (awaiting stage awaits))
          · simp only [Stage.reconciled, if_neg confirms]
            exact .inl rfl
  | reviewed stage _ awaits needsReview => exact .inr (.inl rfl)
  | replied _ dispatched target result changes accepted =>
      right
      rcases Position.exists_of_replied accepted with ⟨stage, reply, awaits, replied⟩
      cases reply with
      | task task =>
          simp only [Stage.replied] at replied
          split at replied <;> cases replied
          refine .inr ⟨fun same => ?_, rfl⟩
          have noTask := (atPosition.of_awaits awaits).2.2
          rw [← same] at noTask
          cases noTask
      | done =>
          cases replied
          exact .inr (completed stage (awaiting stage awaits))
      | inProgress =>
          cases replied
          exact .inl rfl
  | raised _ dispatched changes accepted =>
      rcases Position.raised_awaits accepted with ⟨stage, rfl, shares⟩
      simp only [Position.raised, if_pos shares, Option.some.injEq] at accepted
      subst accepted
      exact .inr (.inl rfl)

/-- After the commit the row is the one before, of a create which was placed, or it has a time
which is not before `start`. -/
theorem Rewrites.start_le (rewrites : Rewrites stamp operation vm position updated)
    (atPosition : position.Matches operation) (stampLater : start ≤ stamp)
    (dbNowLater : start ≤ dbNow) :
    (position = .pending .clone ∧ operation.onUpdate updated dbNow = operation) ∨
      start ≤ (operation.onUpdate updated dbNow).updatedAt := by
  unfold Operation.onUpdate
  rcases rewrites.stamped atPosition with ⟨atClone, rfl⟩ | stamped | ⟨changed, kept⟩
  · exact .inl ⟨atClone, if_pos rfl⟩
  · right
    split
    · exact stamped ▸ stampLater
    · split
      · exact dbNowLater
      · exact stamped ▸ stampLater
  · right
    rw [if_neg changed, if_pos kept]
    exact dbNowLater

end Columns

section Steps

variable {world next : World} {event : Event} {action : Action} {waiting : Operation}
  {start : Time}

/-- A placement that is set is kept. -/
theorem Progress.located (progress : Progress world event next) {operation : Operation}
    (located : world.db.Located operation) : next.db.Located operation := by
  rcases located with ⟨vm, vmMem, vmId, isPlaced⟩
  rcases progress.onward vmMem with ⟨later, laterMem, onward⟩
  exact ⟨later, laterMem, onward.id.trans vmId, (onward.placement isPlaced).2 ▸ isPlaced⟩

theorem Progress.passes_le (progress : Progress world event next) (waiting operation : Operation) :
    next.db.passes waiting operation ≤ world.db.passes waiting operation := by
  unfold Database.passes
  split
  · split
    · split <;> omega
    · rename_i notLocated
      rw [if_neg fun located => notLocated (progress.located located)]
  · exact le_rfl

/-- An operation with a later time does not come before the one that waits. -/
theorem Database.passes_of_later {db : Database} {operation : Operation}
    (young : waiting.updatedAt < start) (later : start ≤ operation.updatedAt) :
    db.passes waiting operation = 0 := by
  refine if_neg fun before => ?_
  exact absurd before.2.2 (by linarith)

/-- The operations before the one that waits when the step moves a row. -/
theorem Moved.overtakers_eq {db : Database} {evidence : Evidence} {operation updated : Operation}
    {vm : VirtualMachine} {position reached : Position} {change : VmChange}
    (moved : Moved world.db db evidence operation updated vm position reached change)
    (waiting : Operation) :
    db.overtakers waiting + db.passes waiting operation =
      (world.db.operations.map (db.passes waiting)).sum + db.passes waiting updated := by
  unfold Database.overtakers
  rw [moved.operations]
  exact KeyedRows.sum_replace (db.passes waiting) world.db.valid.operationIds moved.stored
    moved.identity.id.symm

theorem Progress.sum_passes_le (progress : Progress world event next) (waiting : Operation) :
    (world.db.operations.map (next.db.passes waiting)).sum ≤ world.db.overtakers waiting :=
  List.sum_le_sum fun operation _ => progress.passes_le waiting operation

/-- Inserted operations come after the one that waits. -/
theorem Progress.overtakers_of_inserted (progress : Progress world event next)
    {inserted : List Operation} (rows : next.db.operations = world.db.operations ++ inserted)
    (young : waiting.updatedAt < start) (later : ∀ row ∈ inserted, start ≤ row.updatedAt) :
    next.db.overtakers waiting ≤ world.db.overtakers waiting := by
  have none : (inserted.map (next.db.passes waiting)).sum = 0 := by
    refine List.sum_eq_zero fun count countMem => ?_
    rcases List.mem_map.mp countMem with ⟨row, rowMem, rfl⟩
    exact Database.passes_of_later young (later row rowMem)
  have kept := progress.sum_passes_le waiting
  unfold Database.overtakers at kept ⊢
  rw [rows, List.map_append, List.sum_append, none]
  exact kept

/-- A moved row that was written with a time does not come before the one that waits. -/
theorem Moved.overtakers_le (progress : Progress world event next) {evidence : Evidence}
    {operation updated : Operation} {vm : VirtualMachine} {position reached : Position}
    {change : VmChange}
    (moved : Moved world.db next.db evidence operation updated vm position reached change)
    (written : updated = operation ∨ start ≤ updated.updatedAt)
    (young : waiting.updatedAt < start) :
    next.db.overtakers waiting ≤ world.db.overtakers waiting := by
  have counted := moved.overtakers_eq waiting
  have kept := progress.sum_passes_le waiting
  rcases written with rfl | later
  · omega
  · rw [Database.passes_of_later young later] at counted
    omega

/-- A create whose placement was chosen may come before the one that waits once less. -/
theorem Moved.overtakers_lt_of_placed (progress : Progress world event next)
    {target : ProviderPlacement} {operation : Operation} {vm : VirtualMachine}
    {position reached : Position} {change : VmChange}
    (moved : Moved world.db next.db (.placed target) operation operation vm position reached change)
    (unplaced : vm.providerVmid = none) (before : operation.id ≠ waiting.id)
    (active : operation.Active) (older : operation.updatedAt ≤ waiting.updatedAt) :
    next.db.overtakers waiting + 1 ≤ world.db.overtakers waiting := by
  have counted := moved.overtakers_eq waiting
  have notLocated : ¬world.db.Located operation := by
    rintro ⟨other, otherMem, otherId, isPlaced⟩
    rcases KeyedRows.eq_of_key_eq world.db.valid.vmIds otherMem moved.vmMem
      (otherId.trans moved.vmId.symm) with rfl
    exact isPlaced unplaced
  have located : next.db.Located operation := by
    have advance := moved.advance
    cases advance with
    | place =>
        refine ⟨(VmChange.place target).apply vm, ?_, moved.vmId, by simp [VmChange.apply]⟩
        rw [moved.virtualMachines, KeyedRows.mem_replace]
        exact .inl ⟨rfl, vm, moved.vmMem, rfl⟩
  have fewer : (world.db.operations.map (next.db.passes waiting)).sum <
      (world.db.operations.map (world.db.passes waiting)).sum := by
    refine List.sum_lt_sum _ _ (fun other _ => progress.passes_le waiting other)
      ⟨operation, moved.stored, ?_⟩
    have isBefore : operation.id ≠ waiting.id ∧ operation.Active ∧
        operation.updatedAt ≤ waiting.updatedAt := ⟨before, active, older⟩
    unfold Database.passes
    rw [if_pos isBefore, if_pos located, if_pos isBefore, if_neg notLocated]
    exact Nat.one_lt_two
  unfold Database.overtakers at counted ⊢
  omega

/-- An operation which was selected and written comes no more before the one that waits. -/
theorem Moved.overtakers_lt_of_later (progress : Progress world event next) {evidence : Evidence}
    {operation updated : Operation} {vm : VirtualMachine} {position reached : Position}
    {change : VmChange}
    (moved : Moved world.db next.db evidence operation updated vm position reached change)
    (later : start ≤ updated.updatedAt) (young : waiting.updatedAt < start)
    (before : operation.id ≠ waiting.id) (active : operation.Active)
    (older : operation.updatedAt ≤ waiting.updatedAt) :
    next.db.overtakers waiting + 1 ≤ world.db.overtakers waiting := by
  have counted := moved.overtakers_eq waiting
  have kept := progress.sum_passes_le waiting
  have passes : 1 ≤ next.db.passes waiting operation := by
    unfold Database.passes
    rw [if_pos ⟨before, active, older⟩]
    split <;> omega
  rw [Database.passes_of_later young later] at counted
  omega

/-- A committed selection of another operation uses up one of its passes. -/
theorem World.selectStep_overtakers (sound : world.Sound) {now stamp dbNow : Time}
    {locked : List Uuid} {operation : Operation} {provider : Provider}
    (selects : Selects now locked world.db operation)
    (selecting : world.selectStep operation provider stamp dbNow = (event, next))
    (progress : Progress world event next) (nowLater : start ≤ now) (stampLater : start ≤ stamp)
    (dbNowLater : start ≤ dbNow) (unlocked : waiting.id ∉ locked)
    (waits : waiting ∈ world.db.operations) (eligible : waiting.Eligible start)
    (young : waiting.updatedAt < start) (before : operation.id ≠ waiting.id) :
    next.db.overtakers waiting + event.selections ≤ world.db.overtakers waiting := by
  have older := selects.oldest waiting waits unlocked (eligible.later nowLater)
  have active : operation.Active := (eligible_iff.mp selects.eligible).1
  rcases world.selectStep_label operation provider stamp dbNow with ⟨exchanges, committed, label⟩
  rw [selecting] at label
  simp only at label
  subst label
  cases committed with
  | none =>
      cases progress
      exact le_rfl
  | some updated =>
      rcases World.selectStep_rewrites sound selects.stored selects.eligible selecting with
        ⟨vm, position, written, atPosition, rewrites, found⟩
      have wrote := rewrites.start_le atPosition stampLater dbNowLater
      cases progress with
      | marked db _ _ _ stage request target moved =>
          have same := Option.some.inj (moved.stored_updated.symm.trans found)
          rw [← same] at wrote
          rcases wrote with ⟨_, unchanged⟩ | later
          · have status := moved.atReached.status
            rw [unchanged, moved.atPosition.status] at status
            cases status
          · exact moved.overtakers_lt_of_later (.marked db _ _ _ stage request target moved)
              later young before active older
      | followed db _ _ vm place reached change evidence _ shows unmarked moved =>
          have same := Option.some.inj (moved.stored_updated.symm.trans found)
          rw [← same] at wrote
          rcases wrote with ⟨rfl, unchanged⟩ | later
          · rcases atPosition.unique moved.atPosition with rfl
            have advance := moved.advance
            subst unchanged
            cases advance with
            | place target =>
                exact moved.overtakers_lt_of_placed
                  (.followed db _ _ vm _ _ _ _ _ shows unmarked moved) shows.1 before active older
            | mark => exact absurd rfl unmarked
            | confirmed _ _ _ awaits => simp [Position.Awaits] at awaits
            | unconfirmed _ _ _ awaits => simp [Position.Awaits] at awaits
            | readRaised _ _ _ awaits => simp [Position.Awaits] at awaits
            | review _ _ awaits => simp [Position.Awaits] at awaits
            | storeTask => exact shows.elim
          · exact moved.overtakers_lt_of_later
              (.followed db _ _ vm place reached change evidence _ shows unmarked moved) later young
              before active older

/-- A stored outcome brings no operation before the one that waits. -/
theorem World.storeDatabase_overtakers (sound : world.Sound) {dispatch : Dispatch}
    {outcome : Except Error ProviderResult} {stamp dbNow : Time}
    (storing : Flight.storing dispatch outcome ∈ world.inFlight)
    (committed : World.storeDatabase world.db dispatch outcome stamp dbNow = some next.db)
    (progress : Progress world (.stored dispatch outcome true) next) (stampLater : start ≤ stamp)
    (dbNowLater : start ≤ dbNow) (young : waiting.updatedAt < start) :
    next.db.overtakers waiting ≤ world.db.overtakers waiting := by
  cases progress with
  | stored index _ _ db operation updated vm position reached change atIndex isFor moved =>
      rcases World.storeDatabase_rewrites sound storing moved.stored isFor.symm committed with
        ⟨other, place, written, atPlace, rewrites, found⟩
      have same := Option.some.inj (moved.stored_updated.symm.trans found)
      have wrote := rewrites.start_le atPlace stampLater dbNowLater
      rw [← same] at wrote
      exact moved.overtakers_le
        (.stored index dispatch outcome db operation updated vm position reached change atIndex
          isFor moved) (wrote.imp_left And.right) young

/-- A step that is not made for the operation that waits brings no other before it, and a
selection uses up a pass. -/
theorem World.overtakers_step (sound : world.Sound)
    (stepped : World.step? action world = some (event, next)) (later : action.NotBefore start)
    (unskipped : ¬action.Skips waiting.id) (waits : waiting ∈ world.db.operations)
    (eligible : waiting.Eligible start) (young : waiting.updatedAt < start)
    (other : event.operationId ≠ some waiting.id) :
    next.db.overtakers waiting + event.selections ≤ world.db.overtakers waiting := by
  have progress := step_progress sound ⟨action, stepped⟩
  cases action with
  | createVm context userId request idempotencyKey =>
      simp only [World.step?, Option.some.injEq, Prod.mk.injEq] at stepped
      rcases stepped with ⟨rfl, rfl⟩
      cases result : createVm world.db context userId request idempotencyKey with
      | error error => exact le_rfl
      | ok served =>
          rcases served with ⟨db, vm⟩
          rw [result] at progress
          rcases createVm_eq_ok result with ⟨created, _⟩ | ⟨rfl, _⟩
          · have rows : db.operations = world.db.operations ++
                [newCreateOperation context.operationId context.vmId idempotencyKey
                  context.now] := by rw [created.tables]
            refine progress.overtakers_of_inserted rows young fun row rowMem => ?_
            rcases List.mem_singleton.mp rowMem with rfl
            exact later
          · exact le_rfl
  | enqueue context userId vmId operationType idempotencyKey =>
      simp only [World.step?, Option.some.injEq, Prod.mk.injEq] at stepped
      rcases stepped with ⟨rfl, rfl⟩
      cases result : enqueueVmOperation world.db context userId vmId operationType
          idempotencyKey with
      | error error => exact le_rfl
      | ok served =>
          rcases served with ⟨db, operation⟩
          rw [result] at progress
          rcases enqueueVmOperation_eq_ok result with ⟨vm, enqueued, _⟩ | ⟨rfl, _⟩
          · have rows : db.operations = world.db.operations ++
                [newLifecycleOperation context.operationId vmId operationType idempotencyKey
                  context.now] := by rw [enqueued.tables]
            refine progress.overtakers_of_inserted rows young fun row rowMem => ?_
            rcases List.mem_singleton.mp rowMem with rfl
            exact later
          · exact le_rfl
  | administer administration =>
      simp only [World.step?] at stepped
      split at stepped
      · cases stepped
      · split at stepped <;> cases stepped
        rename_i administered _ administers
        have rows : administered.operations = world.db.operations ++ [] := by
          simp [administers.operations]
        exact progress.overtakers_of_inserted rows young (by simp)
  | select now locked operationId provider stamp dbNow =>
      simp only [World.step?] at stepped
      split at stepped
      · cases stepped
      · split at stepped
        · rename_i operation _ selects
          have selecting := Option.some.inj stepped
          rcases later with ⟨nowLater, stampLater, dbNowLater⟩
          refine World.selectStep_overtakers sound selects selecting progress nowLater stampLater
            dbNowLater unskipped waits eligible young ?_
          intro same
          rcases world.selectStep_label operation provider stamp dbNow with ⟨_, _, label⟩
          rw [selecting] at label
          exact other ((congrArg Event.operationId label).trans (congrArg some same))
        · cases stepped
  | submit index provider =>
      simp only [World.step?] at stepped
      split at stepped <;> cases stepped
      exact le_rfl
  | store index stamp dbNow =>
      simp only [World.step?] at stepped
      split at stepped
      · rename_i dispatch outcome storing
        split at stepped <;> cases stepped
        · rename_i db committed
          exact World.storeDatabase_overtakers sound (List.mem_of_getElem? storing) committed
            progress later.1 later.2 young
        · exact le_rfl
      · cases stepped
  | lose index =>
      simp only [World.step?] at stepped
      split at stepped <;> cases stepped
      exact le_rfl

/-- The row of an operation for which no step is made is kept. -/
theorem Progress.keeps_waiting (progress : Progress world event next)
    (waits : waiting ∈ world.db.operations) (other : event.operationId ≠ some waiting.id) :
    waiting ∈ next.db.operations := by
  rcases progress.row waits with kept | ⟨_, _, _, _, _, _, _, given⟩
  · exact kept
  · exact absurd given.operationId other

/-- While an operation waits, every worker together commits at most `overtakers` selections of
other operations. -/
theorem selections_le_overtakers {actions : List Action} {history : List Event} {later : World}
    (reachable : portal.Reachable world) (waits : waiting ∈ world.db.operations)
    (eligible : waiting.Eligible start) (young : waiting.updatedAt < start)
    (performed : LabelledSystem.perform World.step? actions world = some (history, later))
    (times : ∀ action ∈ actions, action.NotBefore start)
    (unskipped : ∀ action ∈ actions, ¬action.Skips waiting.id)
    (unserved : ∀ event ∈ history, event.operationId ≠ some waiting.id) :
    (history.map Event.selections).sum + later.db.overtakers waiting ≤
      world.db.overtakers waiting := by
  induction actions generalizing world history with
  | nil =>
      simp only [LabelledSystem.perform, Option.some.injEq, Prod.mk.injEq] at performed
      rcases performed with ⟨rfl, rfl⟩
      simp
  | cons action rest ih =>
      simp only [LabelledSystem.perform] at performed
      cases stepped : World.step? action world with
      | none => simp [stepped] at performed
      | some outcome =>
          rcases outcome with ⟨event, next⟩
          cases remaining : LabelledSystem.perform World.step? rest next with
          | none => simp [stepped, remaining] at performed
          | some tail =>
              rcases tail with ⟨events, last⟩
              simp only [stepped, remaining, Option.some.injEq, Prod.mk.injEq] at performed
              rcases performed with ⟨rfl, rfl⟩
              have sound := sound_of_reachable reachable
              have step : portal.step world event next := ⟨action, stepped⟩
              have other := unserved event List.mem_cons_self
              have first := World.overtakers_step sound stepped (times action List.mem_cons_self)
                (unskipped action List.mem_cons_self) waits eligible young other
              have others := ih (reachable.step step)
                ((step_progress sound step).keeps_waiting waits other) remaining
                (fun action actionMem => times action (List.mem_cons_of_mem _ actionMem))
                (fun action actionMem => unskipped action (List.mem_cons_of_mem _ actionMem))
                (fun event eventMem => unserved event (List.mem_cons_of_mem _ eventMem))
              simp only [List.map_cons, List.sum_cons]
              omega

end Steps

theorem World.perform_eq_some {world : World} {actions : List Action}
    (possible : (LabelledSystem.perform step? actions world).isSome) :
    LabelledSystem.perform step? actions world = some (world.perform actions) := by
  rcases Option.isSome_iff_exists.mp possible with ⟨outcome, performed⟩
  rw [World.perform, performed, Option.getD_some]

/-- The older create of the sample queue is placed and dispatched. -/
def sampleOvertaking : List Action :=
  [.select 2 [] 41 (sampleProvider .running .running) 2 2,
    .select 3 [] 41 (sampleProvider .running .running) 3 3]

set_option maxRecDepth 10000 in
/-- It passes the younger create twice, and cannot pass it again. -/
theorem sampleQueue_overtaken :
    let world := (World.initial.perform sampleQueue).2
    let waiting := newCreateOperation 42 32 "second" 1
    world.db.overtakers waiting = 2 ∧
      ((world.perform sampleOvertaking).1.map Event.selections).sum = 2 ∧
      (world.perform sampleOvertaking).2.db.overtakers waiting = 0 := by
  intro world waiting
  have before : world.db.overtakers waiting = 2 := by decide +kernel
  have selected : ((world.perform sampleOvertaking).1.map Event.selections).sum = 2 := by
    decide +kernel
  have unserved : ∀ event ∈ (world.perform sampleOvertaking).1,
      event.operationId ≠ some waiting.id := by decide +kernel
  have eligible : waiting.Eligible 2 := by decide +kernel
  have performed : LabelledSystem.perform World.step? sampleOvertaking world =
      some ((world.perform sampleOvertaking).1, (world.perform sampleOvertaking).2) :=
    World.perform_eq_some (by decide +kernel)
  have bound : ((world.perform sampleOvertaking).1.map Event.selections).sum +
      (world.perform sampleOvertaking).2.db.overtakers waiting ≤ world.db.overtakers waiting :=
    selections_le_overtakers (World.perform_reachable sampleQueue)
      (by decide +kernel) eligible (by decide) performed (by decide) (by decide) unserved
  rw [selected, before] at bound
  exact ⟨before, selected, Nat.le_zero.mp (Nat.le_of_add_le_add_left bound)⟩

end NpdPortal
