import NpdPortal.Worker.System

/-!
# Iterations of one worker

`run_once` of a worker which is alone: the selecting transaction, the provider
call when a dispatch was committed, and the transaction that stores its outcome.
`run_worker` calls it again and again.
-/

namespace NpdPortal

/-- What the environment decides in one call of `run_once`. -/
structure Turn where
  /-- The adapter during the selecting transaction. -/
  selecting : Provider
  /-- The adapter during the provider call. -/
  submitting : Provider
  /-- `datetime.now(UTC)` and the time of the database in the selecting transaction. -/
  stamp : Time
  dbNow : Time
  /-- The same in the storing transaction. -/
  storeStamp : Time
  storeDbNow : Time

namespace World

/-- `run_once` on the selected row. -/
def runOnce (world : World) (operation : Operation) (turn : Turn) : World :=
  let selected := (world.selectStep operation turn.selecting turn.stamp turn.dbNow).2
  (selected.perform [.submit world.inFlight.length turn.submitting,
    .store world.inFlight.length turn.storeStamp turn.storeDbNow]).2

end World

/-- The calls of `run_once` by one worker, labelled with the selected rows; the state has the
time of the last call. -/
def iterations : LabelledSystem (World × Time) Operation where
  initial state := state.1 = .initial
  step state operation next :=
    state.2 ≤ next.2 ∧ (∃ locked, Selects next.2 locked state.1.db operation) ∧
      ∃ turn, next.1 = state.1.runOnce operation turn

/-- One call of `run_once` is a run of the portal. -/
theorem World.runOnce_run {world : World} {operation : Operation} {now : Time}
    {locked : List Uuid} (selects : Selects now locked world.db operation) (turn : Turn) :
    ∃ history, portal.Run world history (world.runOnce operation turn) := by
  have stored : world.db.operation? operation.id = some operation :=
    Database.operation?_eq_some_iff.mpr ⟨selects.stored, rfl⟩
  have first : portal.step world
      (world.selectStep operation turn.selecting turn.stamp turn.dbNow).1
      (world.selectStep operation turn.selecting turn.stamp turn.dbNow).2 := by
    refine ⟨.select now locked operation.id turn.selecting turn.stamp turn.dbNow, ?_⟩
    simp only [World.step?, stored, if_pos selects]
  exact ⟨_, (LabelledSystem.Run.snoc .nil first).append (World.perform_run _ _)⟩

end NpdPortal
