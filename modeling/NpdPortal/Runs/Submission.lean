import Mathlib.Algebra.BigOperators.Group.List.Basic
import NpdPortal.Runs.Rows

/-!
# Every stage is sent at most once

The commands of the worker are counted along a run.  A stage is sent only by a
worker whose marker is committed, and the marker of a stage is committed only
while no later position of the operation has been reached, so the count cannot
exceed one.
-/

namespace NpdPortal

/-- The methods of the adapter that send the command of a stage. -/
def Stage.Sends : Stage → AdapterCall → Prop
  | .clone, .cloneVm .. => True
  | .configure, .configureVm .. => True
  | .resize, .resizeVmDisk .. => True
  | .initialStart, .startVm .. | .start, .startVm .. | .rebootStart, .startVm .. => True
  | .shutdown, .shutdownVm .. | .rebootShutdown, .shutdownVm .. => True
  | .stop, .stopVm .. => True
  | .delete, .deleteVm .. => True
  | _, _ => False

/-- The stage a dispatch belongs to, for an operation of this type. -/
def Dispatch.stage (operationType : OperationType) : Dispatch → Option Stage
  | .create _ _ phase _ _ =>
      if phase = "clone" then some .clone
      else if phase = "configure" then some .configure
      else if phase = "resize" then some .resize
      else if phase = "start" then some .initialStart
      else none
  | .start .. => some .start
  | .lifecycle _ _ command _ =>
      match operationType with
      | .vmShutdown => some .shutdown
      | .vmStop => some .stop
      | .vmDelete => some .delete
      | .vmReboot => if command = "start" then some .rebootStart else some .rebootShutdown
      | _ => none

/-- The mutating calls of a step for one stage of one operation. -/
def Event.sends (operationId : Uuid) (operationType : OperationType) (stage : Stage) : Event → ℕ
  | .selected operation exchanges _ =>
      if operation.id = operationId then exchanges.countP fun exchange => exchange.call.Mutates
      else 0
  | .submitted dispatch exchanges _ =>
      if dispatch.operationId = operationId ∧ dispatch.stage operationType = some stage then
        exchanges.countP fun exchange => exchange.call.Mutates
      else 0
  | _ => 0

/-- How many stages of an operation have been marked. -/
def Position.marked : Position → ℕ
  | .pending stage => stage.index
  | .dispatching stage | .reconciling stage | .polling stage _ | .review stage
  | .failed stage => stage.index + 1
  | .succeeded operationType => (Position.succeeded operationType).stageIndex

theorem Dispatch.For.stage_eq {dispatch : Dispatch} {stage : Stage} {operation : Operation}
    (isFor : dispatch.For stage operation) :
    dispatch.stage operation.operationType = some stage := by
  rcases isFor.made with ⟨before, request, target, rfl, _⟩
  rw [isFor.kind]
  cases stage <;> rfl

/-- A worker sends one command at most, and it is that of its stage. -/
theorem Stage.submit_exchanges (stage : Stage) (operation : Operation)
    (request : Option CreateVmRequest) (target : ProviderPlacement) (provider : Provider) :
    (Program.run provider 0 (stage.dispatch operation request target).submit).1 = [] ∨
    ∃ exchange, stage.Sends exchange.call ∧
      (Program.run provider 0 (stage.dispatch operation request target).submit).1 =
        [exchange] := by
  cases stage <;> cases request <;>
    simp +decide [Stage.dispatch, Dispatch.submit, Stage.Sends, Program.done_bind_ok]

/-- Every move keeps the marked stages marked. -/
theorem Advance.marked_le {evidence : Evidence} {position reached : Position}
    {change : VmChange} (advance : Advance evidence position reached change) :
    position.marked ≤ reached.marked := by
  have after : ∀ stage : Stage, stage.index + 1 ≤ stage.after.marked := by
    intro stage
    cases stage <;> decide
  cases advance with
  | mark stage => exact Nat.le_succ _
  | pollSucceeded stage backoff answer succeeded => exact after stage
  | confirmed stage position state awaits _ => rcases awaits with rfl | rfl <;> exact after stage
  | unconfirmed stage position state awaits _ _ => rcases awaits with rfl | rfl <;> exact le_rfl
  | readRaised stage position error awaits _ => rcases awaits with rfl | rfl <;> exact le_rfl
  | review stage position awaits _ => rcases awaits with rfl | rfl <;> exact le_rfl
  | storeTask stage position result task _ waiting =>
      rcases waiting with rfl | ⟨rfl, _⟩ <;> exact le_rfl
  | storeDone stage result done => exact after stage
  | _ => exact le_rfl

/-- A committed transaction has stored the marker of this stage. -/
def MarkerStored (history : List Event) (operationId : Uuid) (stage : Stage) : Prop :=
  ∃ selected row, .selected selected [] (some row) ∈ history ∧ row.id = operationId ∧
    row.status = .processing ∧ row.phase = some stage.dispatchPhase ∧ row.providerTaskId = none

/-! ## Tallies -/

/-- What the steps of a run count for one stage of an operation, and what the workers under way
may still count: one worker, from its dispatch to its end, counts at most one. -/
structure Tally where
  event : Uuid → OperationType → Stage → Event → ℕ
  flight : Uuid → OperationType → Stage → Flight → ℕ
  other : ∀ id operationType stage step, step.operationId ≠ some id →
    event id operationType stage step = 0
  selected : ∀ id operationType stage operation exchanges committed,
    (∀ exchange ∈ exchanges, ¬exchange.call.Mutates) →
    event id operationType stage (.selected operation exchanges committed) = 0
  dispatched : ∀ id operationType stage dispatch,
    flight id operationType stage (.submitting dispatch) ≤
      if dispatch.operationId = id ∧ dispatch.stage operationType = some stage then 1 else 0
  submitted : ∀ id operationType stage dispatch exchanges outcome, exchanges.length ≤ 1 →
    event id operationType stage (.submitted dispatch exchanges outcome) +
      flight id operationType stage (.storing dispatch outcome) ≤
    flight id operationType stage (.submitting dispatch)
  stored : ∀ id operationType stage dispatch outcome committed,
    event id operationType stage (.stored dispatch outcome committed) ≤
      flight id operationType stage (.storing dispatch outcome)
  lost : ∀ id operationType stage worker,
    event id operationType stage (.lost worker) ≤ flight id operationType stage worker

namespace Tally

/-- What a run has counted and may still count for a stage. -/
def total (tally : Tally) (history : List Event) (world : World) (operation : Operation)
    (stage : Stage) : ℕ :=
  (history.map (tally.event operation.id operation.operationType stage)).sum +
    (world.inFlight.map (tally.flight operation.id operation.operationType stage)).sum

/-- The commands of a stage which were sent or are about to be sent. -/
def sends : Tally where
  event := Event.sends
  flight id operationType stage
    | .submitting dispatch =>
        if dispatch.operationId = id ∧ dispatch.stage operationType = some stage then 1 else 0
    | .storing .. => 0
  other := by
    intro id operationType stage step differs
    cases step <;> simp_all [Event.sends, Event.operationId]
  selected := by
    intro id operationType stage operation exchanges committed harmless
    have none : exchanges.countP (fun exchange => exchange.call.Mutates) = 0 := by
      simpa [List.countP_eq_zero] using harmless
    simp [Event.sends, none]
  dispatched _ _ _ _ := le_rfl
  submitted := by
    intro id operationType stage dispatch exchanges outcome atMostOne
    have calls : exchanges.countP (fun exchange => exchange.call.Mutates) ≤ 1 :=
      List.countP_le_length.trans atMostOne
    simp only [Event.sends]
    split <;> omega
  stored _ _ _ _ _ _ := le_rfl
  lost _ _ _ _ := Nat.zero_le _

end Tally

/-- What a tally depends on. -/
structure Known (history : List Event) (world : World) : Prop where
  events : ∀ event ∈ history, ∀ id, event.operationId = some id →
    ∃ operation ∈ world.db.operations, operation.id = id
  flights : ∀ flight ∈ world.inFlight, ∃ operation ∈ world.db.operations, ∃ stage,
    flight.dispatch.For stage operation ∧ MarkerStored history operation.id stage

section Lists

variable {α : Type} (weight : α → ℕ)

theorem sum_map_set {values : List α} {index : ℕ} {old : α}
    (atIndex : values[index]? = some old) (new : α) :
    ((values.set index new).map weight).sum + weight old =
      (values.map weight).sum + weight new := by
  induction values generalizing index with
  | nil => simp at atIndex
  | cons value rest ih =>
      cases index with
      | zero =>
          obtain rfl : value = old := by simpa using atIndex
          simp only [List.set_cons_zero, List.map_cons, List.sum_cons]
          omega
      | succ index =>
          have later := ih (by simpa using atIndex)
          simp only [List.set_cons_succ, List.map_cons, List.sum_cons]
          omega

theorem sum_map_eraseIdx {values : List α} {index : ℕ} {old : α}
    (atIndex : values[index]? = some old) :
    ((values.eraseIdx index).map weight).sum + weight old = (values.map weight).sum := by
  induction values generalizing index with
  | nil => simp at atIndex
  | cons value rest ih =>
      cases index with
      | zero =>
          obtain rfl : value = old := by simpa using atIndex
          simp only [List.eraseIdx_cons_zero, List.map_cons, List.sum_cons]
          omega
      | succ index =>
          have later := ih (by simpa using atIndex)
          simp only [List.eraseIdx_cons_succ, List.map_cons, List.sum_cons]
          omega

end Lists

section Counting

variable {history : List Event} {world next : World} {event : Event}

theorem MarkerStored.mono {operationId : Uuid} {stage : Stage}
    (stored : MarkerStored history operationId stage) :
    MarkerStored (history ++ [event]) operationId stage := by
  rcases stored with ⟨selected, row, eventMem, facts⟩
  exact ⟨selected, row, List.mem_append_left _ eventMem, facts⟩

/-- An operation that is known stays known. -/
theorem Progress.knows (progress : Progress world event next) {id : Uuid}
    (known : ∃ operation ∈ world.db.operations, operation.id = id) :
    ∃ operation ∈ next.db.operations, operation.id = id := by
  rcases known with ⟨operation, stored, rfl⟩
  rcases progress.forward stored with ⟨updated, updatedMem, forward⟩
  exact ⟨updated, updatedMem, forward.identity.id⟩

/-- A dispatch stays that of its operation. -/
theorem Progress.keeps_for (progress : Progress world event next) {dispatch : Dispatch}
    (known : ∃ operation ∈ world.db.operations, ∃ stage, dispatch.For stage operation ∧
      MarkerStored history operation.id stage) :
    ∃ operation ∈ next.db.operations, ∃ stage, dispatch.For stage operation ∧
      MarkerStored (history ++ [event]) operation.id stage := by
  rcases known with ⟨operation, stored, stage, isFor, marker⟩
  rcases progress.forward stored with ⟨updated, updatedMem, forward⟩
  exact ⟨updated, updatedMem, stage, isFor.of_sameIdentity forward.identity,
    forward.identity.id.symm ▸ marker.mono⟩

/-- The operation of a step is stored before and after it. -/
theorem Progress.label_known (progress : Progress world event next) (sound : world.Sound)
    {id : Uuid} (label : event.operationId = some id) :
    ∃ operation ∈ world.db.operations, operation.id = id := by
  have ofFlight : ∀ flight ∈ world.inFlight, flight.dispatch.operationId = id →
      ∃ operation ∈ world.db.operations, operation.id = id := by
    intro flight flightMem same
    rcases sound.flights flight flightMem with ⟨operation, stored, stage, isFor⟩
    exact ⟨operation, stored, isFor.operationId.symm.trans same⟩
  cases progress with
  | unchanged => cases label
  | created => cases label
  | enqueued => cases label
  | administered => cases label
  | aborted operation exchanges stored _ => exact ⟨operation, stored, Option.some.inj label⟩
  | marked db operation updated vm stage request target moved =>
      exact ⟨operation, moved.stored, Option.some.inj label⟩
  | followed db operation updated vm position reached change evidence exchanges _ _ moved =>
      exact ⟨operation, moved.stored, Option.some.inj label⟩
  | submitted index dispatch provider submitting =>
      exact ofFlight _ (List.mem_of_getElem? submitting) (Option.some.inj label)
  | stored index dispatch outcome db operation updated vm position reached change storing _ _ =>
      exact ofFlight _ (List.mem_of_getElem? storing) (Option.some.inj label)
  | refused index dispatch outcome storing =>
      exact ofFlight _ (List.mem_of_getElem? storing) (Option.some.inj label)
  | lost index flight inFlight =>
      exact ofFlight _ (List.mem_of_getElem? inFlight) (Option.some.inj label)

theorem Progress.known (progress : Progress world event next) (sound : world.Sound)
    (known : Known history world) : Known (history ++ [event]) next := by
  have keeps : ∀ flight ∈ world.inFlight, ∃ operation ∈ next.db.operations, ∃ stage,
      flight.dispatch.For stage operation ∧
        MarkerStored (history ++ [event]) operation.id stage :=
    fun flight flightMem => progress.keeps_for (known.flights flight flightMem)
  constructor
  · intro other otherMem id label
    rcases List.mem_append.mp otherMem with old | new
    · exact progress.knows (known.events other old id label)
    · rcases List.mem_singleton.mp new with rfl
      exact progress.knows (progress.label_known sound label)
  · intro flight flightMem
    cases progress with
    | marked db operation updated vm stage request target moved =>
        rcases List.mem_append.mp flightMem with old | new
        · exact keeps flight old
        · rcases List.mem_singleton.mp new with rfl
          refine ⟨updated, (Database.operation?_eq_some_iff.mp moved.stored_updated).1, stage,
            ⟨moved.atReached.operationType, operation, request, target, rfl,
              moved.identity.id.symm⟩, ?_⟩
          exact ⟨operation, updated, by simp, rfl, moved.atReached.status,
            moved.atReached.phase_of_dispatching, moved.atReached.providerTaskId_eq_none rfl⟩
    | submitted index dispatch provider submitting =>
        rcases List.mem_or_eq_of_mem_set flightMem with old | rfl
        · exact keeps flight old
        · exact keeps (.submitting dispatch) (List.mem_of_getElem? submitting)
    | stored => exact keeps flight (List.mem_of_mem_eraseIdx flightMem)
    | refused => exact keeps flight (List.mem_of_mem_eraseIdx flightMem)
    | lost => exact keeps flight (List.mem_of_mem_eraseIdx flightMem)
    | _ => exact keeps flight flightMem

theorem known_of_execution (execution : portal.Execution history world) :
    Known history world := by
  refine execution.invariant ?_ ?_
  · rintro state rfl
    exact ⟨fun event eventMem => absurd eventMem List.not_mem_nil,
      fun flight flightMem => absurd flightMem List.not_mem_nil⟩
  · intro earlier state event later before known step
    have sound := sound_of_reachable before.reachable
    exact (step_progress sound step).known sound known

/-- A row after a step is new or follows a row whose stages it keeps marked. -/
theorem Progress.origin (progress : Progress world event next) (sound : world.Sound)
    {operation : Operation} {place : Position} (stored : operation ∈ next.db.operations)
    (atPlace : place.Matches operation) :
    (∃ old ∈ world.db.operations, ∃ position : Position, position.Matches old ∧
      old.SameIdentity operation ∧ position.marked ≤ place.marked) ∨
    ∀ old ∈ world.db.operations, old.id ≠ operation.id := by
  by_cases known : ∃ old ∈ world.db.operations, old.id = operation.id
  · left
    rcases known with ⟨old, oldMem, same⟩
    rcases sound.db.ready oldMem with ⟨position, _, atPosition, _⟩
    refine ⟨old, oldMem, position, atPosition, ?_⟩
    rcases progress.row oldMem with kept | ⟨_, updated, _, before, reached, _, moved, _⟩
    · obtain rfl : old = operation :=
        KeyedRows.eq_of_key_eq next.db.valid.operationIds kept stored same
      rcases atPosition.unique atPlace with rfl
      exact ⟨.refl old, le_rfl⟩
    · obtain rfl : updated = operation := KeyedRows.eq_of_key_eq next.db.valid.operationIds
        (Database.operation?_eq_some_iff.mp moved.stored_updated).1 stored
        (moved.identity.id.trans same)
      rcases atPosition.unique moved.atPosition with rfl
      rcases moved.atReached.unique atPlace with rfl
      exact ⟨moved.identity, moved.advance.marked_le⟩
  · exact .inr fun old oldMem same => known ⟨old, oldMem, same⟩

variable {tally : Tally}

theorem Tally.flight_le (tally : Tally) (id : Uuid) (operationType : OperationType)
    (stage : Stage) (flight : Flight) : tally.flight id operationType stage flight ≤
      if flight.dispatch.operationId = id ∧ flight.dispatch.stage operationType = some stage then 1
      else 0 := by
  cases flight with
  | submitting dispatch => exact tally.dispatched id operationType stage dispatch
  | storing dispatch outcome =>
      have sent := tally.submitted id operationType stage dispatch [] outcome (Nat.zero_le _)
      exact (Nat.le_of_add_left_le sent).trans (tally.dispatched id operationType stage dispatch)

/-- Nothing is counted for an operation which is not stored. -/
theorem Known.total_eq_zero (known : Known history world) {operation : Operation}
    (fresh : ∀ other ∈ world.db.operations, other.id ≠ operation.id) (stage : Stage) :
    tally.total history world operation stage = 0 := by
  have counted : (history.map
      (tally.event operation.id operation.operationType stage)).sum = 0 := by
    refine List.sum_eq_zero fun count countMem => ?_
    rcases List.mem_map.mp countMem with ⟨event, eventMem, rfl⟩
    refine tally.other _ _ _ _ fun label => ?_
    rcases known.events event eventMem _ label with ⟨other, otherMem, same⟩
    exact fresh other otherMem same
  have flying : (world.inFlight.map
      (tally.flight operation.id operation.operationType stage)).sum = 0 := by
    refine List.sum_eq_zero fun count countMem => ?_
    rcases List.mem_map.mp countMem with ⟨flight, flightMem, rfl⟩
    rcases known.flights flight flightMem with ⟨other, otherMem, _, isFor, _⟩
    have apart : flight.dispatch.operationId ≠ operation.id := fun same =>
      fresh other otherMem (isFor.operationId.symm.trans same)
    simpa [apart] using tally.flight_le operation.id operation.operationType stage flight
  rw [Tally.total, counted, flying]

/-- What a step adds to a total: the dispatch of a marked stage, and nothing else. -/
theorem Progress.total_le (progress : Progress world event next) (known : Known history world)
    {operation : Operation} (stored : operation ∈ next.db.operations) (stage : Stage) :
    tally.total (history ++ [event]) next operation stage ≤
        tally.total history world operation stage ∨
    tally.total (history ++ [event]) next operation stage ≤
        tally.total history world operation stage + 1 ∧
      ∃ before vm, Moved world.db next.db .marked before operation vm (.pending stage)
        (.dispatching stage) stage.markChange := by
  have snoc : tally.total (history ++ [event]) next operation stage =
      (history.map (tally.event operation.id operation.operationType stage)).sum +
        tally.event operation.id operation.operationType stage event +
        (next.inFlight.map (tally.flight operation.id operation.operationType stage)).sum := by
    simp [Tally.total]
  rw [snoc, Tally.total]
  cases progress with
  | aborted before exchanges _ harmless =>
      left
      rw [tally.selected _ _ _ _ _ _ harmless]
      omega
  | marked db before updated vm current request target moved =>
      have silent : tally.event operation.id operation.operationType stage
          (.selected before [] (some updated)) = 0 := tally.selected _ _ _ _ _ _ (by simp)
      have new := tally.flight_le operation.id operation.operationType stage
        (.submitting (current.dispatch before request target))
      have isFor : (current.dispatch before request target).For current updated :=
        ⟨moved.atReached.operationType, before, request, target, rfl, moved.identity.id.symm⟩
      simp only [Flight.dispatch, Stage.dispatch_operationId] at new
      simp only [List.map_append, List.map_cons, List.map_nil, List.sum_append, List.sum_cons,
        List.sum_nil, silent]
      by_cases mine : before.id = operation.id ∧
          (current.dispatch before request target).stage operation.operationType = some stage
      · rw [if_pos mine] at new
        obtain rfl : operation = updated := KeyedRows.eq_of_key_eq db.valid.operationIds stored
          (Database.operation?_eq_some_iff.mp moved.stored_updated).1
          (mine.1.symm.trans moved.identity.id.symm)
        obtain rfl : current = stage := Option.some.inj (isFor.stage_eq.symm.trans mine.2)
        exact .inr ⟨by omega, before, vm, moved⟩
      · rw [if_neg mine] at new
        exact .inl (by omega)
  | followed db before updated vm position reached change evidence exchanges shows _ moved =>
      left
      rw [tally.selected _ _ _ _ _ _ shows.harmless]
      simp only
      omega
  | submitted index dispatch provider submitting =>
      left
      rcases known.flights _ (List.mem_of_getElem? submitting) with ⟨_, _, sent, isFor, _⟩
      rcases isFor.made with ⟨before, request, target, made, _⟩
      simp only [Flight.dispatch] at made
      have atMostOne : (Program.run provider 0 dispatch.submit).1.length ≤ 1 := by
        rw [made]
        rcases sent.submit_exchanges before request target provider with none | ⟨_, _, one⟩
        · simp [none]
        · simp [one]
      have sending := tally.submitted operation.id operation.operationType stage dispatch _
        (Program.run provider 0 dispatch.submit).2 atMostOne
      have flights := sum_map_set (tally.flight operation.id operation.operationType stage)
        submitting (.storing dispatch (Program.run provider 0 dispatch.submit).2)
      simp only
      omega
  | stored index dispatch outcome db before updated vm position reached change storing =>
      left
      have ending := tally.stored operation.id operation.operationType stage dispatch outcome true
      have flights := sum_map_eraseIdx (tally.flight operation.id operation.operationType stage)
        storing
      simp only
      omega
  | refused index dispatch outcome storing =>
      left
      have ending := tally.stored operation.id operation.operationType stage dispatch outcome false
      have flights := sum_map_eraseIdx (tally.flight operation.id operation.operationType stage)
        storing
      simp only
      omega
  | lost index flight inFlight =>
      left
      have ending := tally.lost operation.id operation.operationType stage flight
      have flights := sum_map_eraseIdx (tally.flight operation.id operation.operationType stage)
        inFlight
      simp only
      omega
  | _ =>
      left
      rw [tally.other _ _ _ _ (by simp [Event.operationId])]
      simp

/-- A stage counts at most one, and nothing before it is marked. -/
theorem total_le_of_execution (tally : Tally) (execution : portal.Execution history world) :
    ∀ operation ∈ world.db.operations, ∀ position : Position, position.Matches operation →
      ∀ stage, tally.total history world operation stage ≤
        if stage.index < position.marked then 1 else 0 := by
  refine execution.invariant (motive := fun history world =>
    ∀ operation ∈ world.db.operations, ∀ position : Position, position.Matches operation →
      ∀ stage, tally.total history world operation stage ≤
        if stage.index < position.marked then 1 else 0) ?_ ?_
  · rintro state rfl operation operationMem
    exact absurd operationMem List.not_mem_nil
  · intro earlier state event later before bounded step operation stored place atPlace stage
    have sound := sound_of_reachable before.reachable
    have progress := step_progress sound step
    have known := known_of_execution before
    have marks : tally.total earlier state operation stage ≤
        if stage.index < place.marked then 1 else 0 := by
      rcases progress.origin sound stored atPlace with
        ⟨old, oldMem, position, atPosition, same, le⟩ | fresh
      · have sameRow : tally.total earlier state operation stage =
            tally.total earlier state old stage := by
          rw [Tally.total, Tally.total, same.id, same.operationType]
        rw [sameRow]
        refine (bounded old oldMem position atPosition stage).trans ?_
        split <;> split <;> omega
      · rw [known.total_eq_zero fresh]
        exact Nat.zero_le _
    rcases progress.total_le known stored stage with kept | ⟨added, old, vm, moved⟩
    · exact kept.trans marks
    · have sameRow : tally.total earlier state operation stage =
          tally.total earlier state old stage := by
        rw [Tally.total, Tally.total, moved.identity.id, moved.sameType]
      have unmarked := bounded old moved.stored (.pending stage) moved.atPosition stage
      rcases atPlace.unique moved.atReached with rfl
      simp only [Position.marked, lt_irrefl, if_false] at unmarked
      simp only [Position.marked, Nat.lt_succ_self, if_true]
      omega

/-- Selecting transactions send no command. -/
theorem Progress.selected_harmless {operation : Operation} {exchanges : List Exchange}
    {committed : Option Operation}
    (progress : Progress world (.selected operation exchanges committed) next) :
    ∀ exchange ∈ exchanges, ¬exchange.call.Mutates := by
  cases progress with
  | aborted _ _ _ harmless => exact harmless
  | marked => simp
  | followed _ _ _ _ _ _ _ _ _ shows => exact shows.harmless

/-- Every stage of every operation is sent at most once, never by a selecting transaction,
and only after a committed transaction has stored its marker. -/
theorem stage_sent_at_most_once (execution : portal.Execution history world) :
    (∀ operation ∈ world.db.operations, ∀ stage : Stage,
      stage.operationType = operation.operationType →
      (history.map (Event.sends operation.id operation.operationType stage)).sum ≤ 1) ∧
    (∀ operation exchanges committed, .selected operation exchanges committed ∈ history →
      ∀ exchange ∈ exchanges, ¬exchange.call.Mutates) ∧
    ∀ before dispatch exchanges outcome after,
      history = before ++ .submitted dispatch exchanges outcome :: after →
      ∃ operation ∈ world.db.operations, ∃ stage, dispatch.operationId = operation.id ∧
        dispatch.stage operation.operationType = some stage ∧
        (∀ exchange ∈ exchanges, stage.Sends exchange.call) ∧
        MarkerStored before operation.id stage := by
  refine ⟨?_, ?_, ?_⟩
  · intro operation stored stage kind
    rcases (sound_of_reachable execution.reachable).db.ready stored with
      ⟨position, _, atPosition, _⟩
    have bound := total_le_of_execution .sends execution operation stored position atPosition stage
    have atMostOne : (if stage.index < position.marked then 1 else 0) ≤ 1 := by
      split <;> omega
    simp only [Tally.total, Tally.sends] at bound
    omega
  · intro operation exchanges committed eventMem
    rcases List.append_of_mem eventMem with ⟨before, after, rfl⟩
    rcases execution.split with ⟨state, _, earlier, step, _⟩
    exact (step_progress (sound_of_reachable earlier.reachable) step).selected_harmless
  · rintro before dispatch exchanges outcome after rfl
    rcases execution.split with ⟨state, reached, earlier, step, later⟩
    have progress := step_progress (sound_of_reachable earlier.reachable) step
    have known := known_of_execution earlier
    cases progress with
    | submitted index dispatch provider submitting =>
        rcases known.flights _ (List.mem_of_getElem? submitting) with
          ⟨operation, stored, stage, isFor, marker⟩
        rcases forward_of_run earlier.reachable
          (.append (.snoc .nil step) later) stored with ⟨updated, updatedMem, forward⟩
        simp only [Flight.dispatch] at isFor
        refine ⟨updated, updatedMem, stage, ?_, ?_, ?_, forward.identity.id.symm ▸ marker⟩
        · exact isFor.operationId.trans forward.identity.id.symm
        · exact (isFor.of_sameIdentity forward.identity).stage_eq
        · rcases isFor.made with ⟨made, request, target, rfl, _⟩
          intro exchange exchangeMem
          rcases stage.submit_exchanges made request target provider with none | ⟨sent, sends, one⟩
          · simp [none] at exchangeMem
          · rw [one, List.mem_singleton] at exchangeMem
            exact exchangeMem ▸ sends

end Counting

set_option maxRecDepth 10000 in
/-- In the sample run the command of the stop is sent once, after its marker. -/
theorem sampleStop_sent_at_most_once :
    let history := (World.initial.perform sampleStop).1
    (history.map (Event.sends 42 .vmStop .stop)).sum = 1 ∧
      ∀ operation ∈ (World.initial.perform sampleStop).2.db.operations, ∀ stage : Stage,
        stage.operationType = operation.operationType →
        (history.map (Event.sends operation.id operation.operationType stage)).sum ≤ 1 :=
  ⟨by decide +kernel,
    (stage_sent_at_most_once ⟨.initial, rfl, World.initial.perform_run sampleStop⟩).1⟩

end NpdPortal
