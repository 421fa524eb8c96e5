import NpdPortal.Proxmox.Fake
import NpdPortal.Worker.Iterations

/-!
# A worker with the fake adapter

`run_once` of a single worker whose adapter is the fake one.  The adapter keeps
its state from one call to the next.
-/

namespace NpdPortal

/-- The committed database and the adapter between two calls of `run_once`. -/
structure FakeWorker where
  db : Database
  fake : FakeProxmoxAdapter

/-- The times read in one call of `run_once`. -/
structure Clock where
  /-- The time the selecting query compares with. -/
  now : Time
  stamp : Time
  dbNow : Time
  storeStamp : Time
  storeDbNow : Time

namespace FakeWorker

/-- `run_once` on the selected row; an error is raised out of the call. -/
def runOnce (worker : FakeWorker) (operation : Operation) (clock : Clock) :
    Except Error FakeWorker :=
  let selected := (runSelected clock.stamp worker.db operation).execute
    FakeProxmoxAdapter.call worker.fake
  match selected.1 with
  | .error error => .error error
  | .ok (changes, dispatch) =>
      match worker.db.flush clock.dbNow operation changes with
      | none => .error .integrityError
      | some db =>
          match dispatch with
          | none => .ok { db, fake := selected.2 }
          | some dispatch =>
              let submitted := dispatch.submit.execute FakeProxmoxAdapter.call selected.2
              -- A storing transaction that fails is logged and rolled back.
              let stored := World.storeDatabase db dispatch submitted.1 clock.storeStamp
                clock.storeDbNow
              .ok { db := stored.getD db, fake := submitted.2 }

/-- The selecting query finds an operation. -/
def Finds (worker : FakeWorker) (now : Time) : Prop :=
  ∃ operation ∈ worker.db.operations, operation.Eligible now

end FakeWorker

/-- The calls of `run_once` which process an operation, whichever eligible one is selected,
labelled with the selected rows. -/
def fakeWorker (start : FakeWorker) : LabelledSystem FakeWorker Operation where
  initial worker := worker = start
  step worker operation next :=
    operation ∈ worker.db.operations ∧ ∃ clock : Clock,
      operation.Eligible clock.now ∧ worker.runOnce operation clock = .ok next

section Portal

variable {worker next : FakeWorker} {operation : Operation} {clock : Clock}

/-- What the fake adapter answers in one call is a choice of the environment. -/
theorem FakeWorker.exists_turn (ran : worker.runOnce operation clock = .ok next) :
    ∃ turn, World.runOnce ⟨worker.db, []⟩ operation turn = ⟨next.db, []⟩ := by
  rcases Program.exists_run_eq_execute FakeProxmoxAdapter.call
    (runSelected clock.stamp worker.db operation) worker.fake 0 with ⟨selecting, selected⟩
  unfold FakeWorker.runOnce at ran
  simp only [← selected] at ran
  split at ran
  · cases ran
  · rename_i changes dispatch computed
    split at ran
    · cases ran
    · rename_i db flushed
      cases dispatch with
      | none =>
          cases ran
          refine ⟨⟨selecting, selecting, clock.stamp, clock.dbNow, 0, 0⟩, ?_⟩
          simp [World.runOnce, World.selectStep, computed, flushed, World.perform,
            LabelledSystem.perform, World.step?]
      | some dispatch =>
          rcases Program.exists_run_eq_execute FakeProxmoxAdapter.call dispatch.submit
            ((runSelected clock.stamp worker.db operation).execute FakeProxmoxAdapter.call
              worker.fake).2 0 with ⟨submitting, submitted⟩
          simp only [← submitted] at ran
          cases ran
          refine ⟨⟨selecting, submitting, clock.stamp, clock.dbNow, clock.storeStamp,
            clock.storeDbNow⟩, ?_⟩
          cases stored : World.storeDatabase db dispatch
              (Program.run submitting 0 dispatch.submit).2 clock.storeStamp clock.storeDbNow <;>
            simp [World.runOnce, World.selectStep, computed, flushed, World.perform,
              LabelledSystem.perform, World.step?, stored]

/-- The worker with the fake adapter is a worker of the portal. -/
theorem FakeWorker.portal_run {start target : FakeWorker} {history : List Operation}
    (run : (fakeWorker start).Run worker history target) :
    ∃ events, portal.Run ⟨worker.db, []⟩ events ⟨target.db, []⟩ := by
  induction run with
  | nil => exact ⟨[], .nil⟩
  | @snoc middle target history operation _ last ih =>
      rcases ih with ⟨events, before⟩
      rcases last with ⟨stored, clock, eligible, ran⟩
      rcases exists_turn ran with ⟨turn, same⟩
      -- The query returns this row when the others are locked.
      have selects : Selects clock.now ((middle.db.operations.map (·.id)).filter (· ≠ operation.id))
          middle.db operation := by
        refine ⟨stored, by simp, eligible, ?_⟩
        intro other otherMem unlocked _
        have sameId : other.id = operation.id := by
          by_contra differs
          exact unlocked
            (List.mem_filter.mpr ⟨List.mem_map_of_mem otherMem, by simpa using differs⟩)
        rw [KeyedRows.eq_of_key_eq middle.db.valid.operationIds otherMem stored sameId]
      let world : World := ⟨middle.db, []⟩
      have iteration : ∃ later, portal.Run world later (world.runOnce operation turn) :=
        World.runOnce_run selects turn
      rcases iteration with ⟨later, after⟩
      rw [same] at after
      exact ⟨events ++ later, before.append after⟩

end Portal

end NpdPortal
