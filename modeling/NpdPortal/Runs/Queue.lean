import NpdPortal.Runs.Coupled
import NpdPortal.Runs.Placements
import NpdPortal.Worker.Iterations

/-!
# The queue of the worker

Every active operation is at a position the worker processes or waits for an
operator, and its phase is one of a few.  A selecting transaction is rolled back
only by the choice of the placement or by an error code that is too long for its
column, and then it leaves the row where it was: at the head of the queue.
-/

namespace NpdPortal

/-! ## The phases -/

/-- The phases an operation may have, by its type, its status and whether a task is stored. -/
def operationPhases (operationType : OperationType) (status : OperationStatus) (hasTask : Bool) :
    List (Option String) :=
  let stages : List Stage := [.clone, .configure, .resize, .initialStart, .start, .shutdown,
    .stop, .delete, .rebootShutdown, .rebootStart]
  let ofStage := stages.filter fun stage => stage.operationType = operationType
  match status, hasTask with
  | .pending, false => ofStage.flatMap fun stage => (Position.pending stage).phases
  | .processing, false => ofStage.flatMap fun stage => (Position.dispatching stage).phases ++
      (Position.reconciling stage).phases ++ (Position.review stage).phases
  | .processing, true => ofStage.flatMap fun stage => (Position.polling stage false).phases ++
      (Position.polling stage true).phases
  | .succeeded, false => [some "complete"]
  | .failed, true => ofStage.flatMap fun stage => (Position.failed stage).phases
  | _, _ => []

theorem Position.phases_subset : ∀ position : Position, ∀ phase ∈ position.phases,
    phase ∈ operationPhases position.operationType position.status position.hasTask := by
  decide

theorem Position.Matches.mem_operationPhases {position : Position} {operation : Operation}
    (atPosition : position.Matches operation) :
    operation.phase ∈ operationPhases operation.operationType operation.status
      operation.providerTaskId.isSome := by
  rw [atPosition.operationType, atPosition.status, atPosition.task]
  exact position.phases_subset operation.phase atPosition.phase

/-- A phase is shorter than its column. -/
theorem Position.Matches.phase_length_le {position : Position} {operation : Operation}
    (atPosition : position.Matches operation) : (operation.phase.getD "").length ≤ 32 := by
  have fits := position.phases_fit _ atPosition.phase
  cases phase : operation.phase with
  | none => exact Nat.zero_le _
  | some text => exact (fits text phase).2

/-- An active operation that the worker does not process waits for an operator. -/
theorem Position.Matches.processed_or_review {position : Position} {operation : Operation}
    (atPosition : position.Matches operation) (active : operation.Active) :
    position.Processed ∨ operation.phase = some "needs_review_create_configure" ∨
      operation.phase = some "needs_review_create_resize" := by
  have running := atPosition.active_iff.mp active
  cases position with
  | review stage =>
      have phase := atPosition.phase
      cases stage <;> simp_all [Position.phases, Stage.reviewPhase]
  | succeeded operationType => exact absurd trivial running
  | failed stage => exact absurd trivial running
  | _ => exact .inl trivial

/-! ## The selecting transaction -/

/-- The operation row as it is committed. -/
theorem Database.flush_operation? {db next : Database} {operation : Operation}
    {changes : Changes} {dbNow : Time} (stored : operation ∈ db.operations)
    (identity : operation.SameIdentity changes.operation)
    (flushed : db.flush dbNow operation changes = some next) :
    next.operation? operation.id = some (operation.onUpdate changes.operation dbNow) := by
  have same := Operation.onUpdate_sameIdentity dbNow identity
  rw [Database.operation?_eq_some_iff, Database.commit_eq_some flushed]
  exact ⟨KeyedRows.mem_replace.mpr (.inl ⟨rfl, operation, stored, same.id.symm⟩), same.id⟩

section Selecting

variable {world : World} {operation : Operation} {now : Time}

/-- What rolls a selecting transaction back: the placement of a VM without one cannot be chosen
or is not taken by the columns, or the error code of a failed task is not. -/
inductive RollsBack (db : Database) : List Exchange → Prop where
  | raised (request : CreateVmRequest) (error : Error) :
      RollsBack db [⟨.chooseCloneTarget request, .error error⟩]
  | recorded (request : CreateVmRequest) (target : ProviderPlacement)
      (taken : target.vmid ∈ db.providerVmids) :
      RollsBack db [⟨.chooseCloneTarget request, .ok target⟩]
  | unstorable (request : CreateVmRequest) (target : ProviderPlacement)
      (refused : ¬(Sql.FitsInteger target.vmid ∧ Sql.FitsText target.node)) :
      RollsBack db [⟨.chooseCloneTarget request, .ok target⟩]
  | errorCode (task : ProviderTask) (status : ProviderTaskStatus)
      (failed : status.status = .failed) (refused : ¬Sql.FitsVarchar 100 (failureCode status)) :
      RollsBack db [⟨.getTaskStatus task, .ok status⟩]

/-- Of the evidence that is shown only an error code may not fit its column. -/
theorem Evidence.Shows.rollsBack {db : Database} {vm : VirtualMachine} {evidence : Evidence}
    {exchanges : List Exchange} (shows : evidence.Shows operation vm exchanges)
    (notPlaced : ∀ target, evidence ≠ .placed target) (misfits : ¬evidence.Fits) :
    RollsBack db exchanges := by
  cases evidence with
  | placed target => exact absurd rfl (notPlaced target)
  | polled answer =>
      rcases shows with ⟨task, _, _, _, rfl⟩
      cases answer with
      | error error => exact absurd trivial misfits
      | ok status =>
          rcases Classical.not_imp.mp misfits with ⟨failed, refused⟩
          exact .errorCode task status failed refused
  | outcome answer => exact shows.elim
  | _ => exact absurd trivial misfits

/-- Only these roll a selecting transaction back. -/
theorem selectStep_aborted (sound : world.Sound) (stored : operation ∈ world.db.operations)
    (eligible : operation.Eligible now) (provider : Provider) (stamp dbNow : Time)
    {exchanges : List Exchange}
    (aborted : (world.selectStep operation provider stamp dbNow).1 =
      .selected operation exchanges none) : RollsBack world.db exchanges := by
  rcases sound.db.ready stored with ⟨position, vm, atPosition, _, _, prepared⟩
  have processed := atPosition.processed_of_eligible eligible
  have running : ¬position.Terminal := by
    cases position <;> first | exact id | exact absurd processed id
  have ready := (prepared running).1
  have vmMem := (Database.virtualMachine?_eq_some_iff.mp ready.vmStored).1
  have selected := runSelected_selected stamp provider ready atPosition processed
  unfold World.selectStep at aborted
  generalize Program.run provider 0 (runSelected stamp world.db operation) = ran at selected aborted
  cases selected with
  | aborted request error atClone noVmid =>
      cases aborted
      exact .raised request error
  | placed request target atClone noVmid =>
      simp only at aborted
      split at aborted
      · rename_i rejected
        cases aborted
        by_cases taken : target.vmid ∈ world.db.providerVmids
        · exact .recorded request target taken
        · refine .unstorable request target fun fits => ?_
          rcases (Database.placement_flush_iff dbNow stored vmMem noVmid).mpr ⟨taken, fits⟩ with
            ⟨next, flushed⟩
          simp [rejected] at flushed
      · rename_i next flushed
        simp [Database.flush_operation? stored (.refl operation) flushed] at aborted
  | marked stage request target atStage isPlaced =>
      subst atStage
      have refines : (stage.prepared stamp operation vm).Refines .marked (.pending stage)
        operation vm (.dispatching stage) := Stage.prepared_refines atPosition
      rcases refines.exists_flush dbNow stored vmMem (by simp) trivial with ⟨next, flushed⟩
      simp [flushed, Database.flush_operation? stored refines.identity flushed] at aborted
  | followed evidence exchanges changes reached shows refines processing =>
      have notPlaced : ∀ target, evidence ≠ .placed target := by
        rintro target rfl
        rcases refines with ⟨change, advance, _⟩
        have status := atPosition.status
        cases advance
        simp [processing, Position.status] at status
      simp only at aborted
      split at aborted
      · rename_i rejected
        cases aborted
        refine shows.rollsBack notPlaced fun fits => ?_
        rcases refines.exists_flush dbNow stored vmMem notPlaced fits with ⟨next, flushed⟩
        simp [rejected] at flushed
      · rename_i next flushed
        simp [Database.flush_operation? stored refines.identity flushed] at aborted

end Selecting

/-! ## The order of the queue -/

/-- The selecting transaction raised or its commit was rejected. -/
def World.RolledBack (world : World) (operation : Operation) (provider : Provider)
    (stamp dbNow : Time) : Prop :=
  match (Program.run provider 0 (runSelected stamp world.db operation)).2 with
  | .error _ => True
  | .ok (changes, _) => world.db.flush dbNow operation changes = none

/-- From now on the worker does not come back to `failed` as long as it has not selected
`other` and `other` waits in the queue. -/
def World.Yields (world : World) (now : Time) (failed other : Uuid) : Prop :=
  ∀ history later clock, iterations.Run (world, now) history (later, clock) →
    (∀ operation ∈ history, operation.id ≠ other) →
    ∀ next ≥ clock, ∀ locked operation, Selects next locked later.db operation →
      (∃ waiting ∈ later.db.operations, waiting.id = other ∧ other ∉ locked ∧
        waiting.Eligible next) → operation.id ≠ failed

section Order

variable {world : World} {operation : Operation} {now : Time} {locked : List Uuid}
  {provider : Provider} {stamp dbNow : Time}

theorem World.RolledBack.selectStep (rolledBack : world.RolledBack operation provider stamp dbNow) :
    (world.selectStep operation provider stamp dbNow).2 = world := by
  unfold World.RolledBack at rolledBack
  unfold World.selectStep
  generalize Program.run provider 0 (runSelected stamp world.db operation) = ran at rolledBack
  rcases ran with ⟨exchanges, error | ⟨changes, dispatch⟩⟩
  · rfl
  · simp only at rolledBack
    simp only [rolledBack]

/-- A row that is selected stays in the queue while it is not written. -/
theorem Operation.Eligible.later {later : Time} (eligible : operation.Eligible now)
    (isLater : now ≤ later) : operation.Eligible later := by
  rw [eligible_iff] at eligible ⊢
  rcases eligible with ⟨active, pending | ⟨phase, old⟩ | ⟨phase, old⟩ | ⟨phase, old⟩ | task⟩
  · exact ⟨active, .inl pending⟩
  · exact ⟨active, .inr (.inl ⟨phase, by linarith⟩)⟩
  · exact ⟨active, .inr (.inr (.inl ⟨phase, by linarith⟩))⟩
  · exact ⟨active, .inr (.inr (.inr (.inl ⟨phase, by linarith⟩)))⟩
  · exact ⟨active, .inr (.inr (.inr (.inr task)))⟩

/-- A rolled back transaction leaves its row at the head of the queue: the worker may come back
to it at once, and as long as it does nothing younger is selected. -/
theorem rolledBack_selected_again (selects : Selects now locked world.db operation)
    (rolledBack : world.RolledBack operation provider stamp dbNow) {other : Operation}
    (waits : other ∈ world.db.operations) (unlocked : other.id ∉ locked)
    (eligible : other.Eligible now) :
    let after := (world.selectStep operation provider stamp dbNow).2
    after = world ∧ ¬after.Yields now operation.id other.id ∧
      ∀ later ≥ now, ∀ held, operation.id ∉ held → ∀ chosen, Selects later held after.db chosen →
        chosen.updatedAt ≤ operation.updatedAt := by
  intro after
  have same : after = world := rolledBack.selectStep
  rw [same]
  refine ⟨rfl, ?_, ?_⟩
  · intro yields
    exact yields [] world now .nil (by simp) now le_rfl locked operation selects
      ⟨other, waits, rfl, unlocked, eligible⟩ rfl
  · intro later isLater held free chosen chosenSelects
    exact chosenSelects.oldest operation selects.stored free (selects.eligible.later isLater)

end Order

/-- Two creates wait for their placement. -/
def sampleQueue : List Action :=
  [.administer sampleAdministration, .createVm ⟨31, 41, 0⟩ 1 sampleRequest "first",
    .createVm ⟨32, 42, 1⟩ 1 sampleRequest "second"]

/-- A provider which answers nothing. -/
def unavailableProvider : Provider := fun _ _ => .error (.provider "unavailable")

set_option maxRecDepth 10000 in
/-- The younger create waits behind the one whose placement cannot be chosen. -/
theorem sampleQueue_selected_again :
    let world := (World.initial.perform sampleQueue).2
    let first := newCreateOperation 41 31 "first" 0
    (world.selectStep first unavailableProvider 5 5).2 = world ∧
      ¬(world.selectStep first unavailableProvider 5 5).2.Yields 5 41 42 := by
  intro world first
  have selects : Selects 5 [] world.db first := by decide +kernel
  have rolledBack : world.RolledBack first unavailableProvider 5 5 := by
    have raises : (Program.run unavailableProvider 0 (runSelected 5 world.db first)).2 =
        .error (.provider "unavailable") := by decide +kernel
    simp only [World.RolledBack, raises]
  have waits : newCreateOperation 42 32 "second" 1 ∈ world.db.operations := by decide +kernel
  have again := rolledBack_selected_again selects rolledBack waits List.not_mem_nil
    (by decide +kernel)
  exact ⟨again.1, again.2.1⟩

set_option maxRecDepth 10000 in
/-- A rolled back transaction does not let the other operations pass. -/
theorem sampleQueue_not_yields :
    ¬∀ (world : World) (now : Time) (locked : List Uuid) (operation other : Operation)
      (provider : Provider) (stamp dbNow : Time), Selects now locked world.db operation →
      world.RolledBack operation provider stamp dbNow → other ∈ world.db.operations →
      other.id ≠ operation.id → other.id ∉ locked → other.Eligible now →
      (world.selectStep operation provider stamp dbNow).2.Yields now operation.id other.id := by
  intro yields
  let world := (World.initial.perform sampleQueue).2
  let first := newCreateOperation 41 31 "first" 0
  have selects : Selects 5 [] world.db first := by decide +kernel
  have raises : (Program.run unavailableProvider 0 (runSelected 5 world.db first)).2 =
      .error (.provider "unavailable") := by decide +kernel
  have rolledBack : world.RolledBack first unavailableProvider 5 5 := by
    simp only [World.RolledBack, raises]
  have waits : newCreateOperation 42 32 "second" 1 ∈ world.db.operations := by decide +kernel
  have eligible : (newCreateOperation 42 32 "second" 1).Eligible 5 := by decide +kernel
  have never := yields world 5 [] first _ unavailableProvider 5 5 selects rolledBack waits
    (by decide) List.not_mem_nil eligible
  rw [rolledBack.selectStep] at never
  exact never [] world 5 .nil (by simp) 5 le_rfl [] first selects
    ⟨_, waits, rfl, List.not_mem_nil, eligible⟩ rfl

end NpdPortal
