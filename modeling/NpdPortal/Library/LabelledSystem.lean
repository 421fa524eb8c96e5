import Mathlib.Order.Basic
import Mathlib.Data.List.Basic

/-!
# Labelled transition systems and their runs

A system is given by its initial states and a labelled step relation.  A run
records the labels of its steps in order, so a property of the whole history
is a property of the label list and needs no ghost component in the state.
-/

universe u v w

/-- A labelled transition system. -/
structure LabelledSystem (State : Type u) (Label : Type v) where
  /-- The states a run may start from. -/
  initial : State → Prop
  /-- One step with its label. -/
  step : State → Label → State → Prop

namespace LabelledSystem

variable {State : Type u} {Label : Type v} (system : LabelledSystem State Label)

/-- `system.Run source history target`: the steps labelled `history` lead from
`source` to `target`. -/
inductive Run (source : State) : List Label → State → Prop where
  | nil : Run source [] source
  | snoc {middle target : State} {history : List Label} {label : Label}
      (before : Run source history middle) (last : system.step middle label target) :
      Run source (history ++ [label]) target

/-- A state which some run from an initial state ends in. -/
def Reachable (state : State) : Prop :=
  ∃ source history, system.initial source ∧ system.Run source history state

/-- A history together with the state it leads to from an initial state. -/
def Execution (history : List Label) (state : State) : Prop :=
  ∃ source, system.initial source ∧ system.Run source history state

variable {system}

theorem Execution.reachable {history : List Label} {state : State}
    (execution : system.Execution history state) : system.Reachable state := by
  rcases execution with ⟨source, initial, run⟩
  exact ⟨source, history, initial, run⟩

theorem Execution.snoc {history : List Label} {state next : State} {label : Label}
    (execution : system.Execution history state) (last : system.step state label next) :
    system.Execution (history ++ [label]) next := by
  rcases execution with ⟨source, initial, run⟩
  exact ⟨source, initial, run.snoc last⟩

theorem Reachable.step {state next : State} {label : Label}
    (reachable : system.Reachable state) (last : system.step state label next) :
    system.Reachable next := by
  rcases reachable with ⟨source, history, initial, run⟩
  exact ⟨source, history ++ [label], initial, run.snoc last⟩

theorem Run.append {source middle target : State} {first second : List Label}
    (before : system.Run source first middle) (after : system.Run middle second target) :
    system.Run source (first ++ second) target := by
  induction after with
  | nil => simpa using before
  | snoc _ last ih =>
      rw [← List.append_assoc]
      exact ih.snoc last

theorem Execution.append {history later : List Label} {state target : State}
    (execution : system.Execution history state) (run : system.Run state later target) :
    system.Execution (history ++ later) target := by
  rcases execution with ⟨source, initial, before⟩
  exact ⟨source, initial, before.append run⟩

theorem Run.eq_of_nil {source target : State} (run : system.Run source [] target) :
    target = source := by
  generalize whole : ([] : List Label) = history at run
  cases run with
  | nil => rfl
  | snoc before last => simp at whole

/-- A run with one label is a step. -/
theorem Run.step_of_singleton {source target : State} {label : Label}
    (run : system.Run source [label] target) : system.step source label target := by
  generalize whole : [label] = history at run
  cases run with
  | nil => cases whole
  | @snoc middle _ earlier last before step =>
      rcases List.append_inj' ((List.nil_append [label]).trans whole) rfl with ⟨rfl, same⟩
      cases same
      rwa [before.eq_of_nil] at step

/-- The step a label of a run stands for. -/
theorem Run.split {source target : State} {first second : List Label} {label : Label}
    (run : system.Run source (first ++ label :: second) target) :
    ∃ before after, system.Run source first before ∧ system.step before label after ∧
      system.Run after second target := by
  generalize whole : first ++ label :: second = history at run
  induction run generalizing second with
  | nil => simp at whole
  | @snoc middle final earlier last before step ih =>
      rcases List.eq_nil_or_concat second with rfl | ⟨later, other, rfl⟩
      · rcases List.append_inj' whole rfl with ⟨rfl, sameLabel⟩
        cases sameLabel
        exact ⟨middle, final, before, step, .nil⟩
      · have joined : (first ++ label :: later) ++ [other] = earlier ++ [last] := by
          rw [← whole]
          simp
        rcases List.append_inj' joined rfl with ⟨sameEarlier, sameLast⟩
        cases sameLast
        rcases ih sameEarlier with ⟨u, v, runFirst, stepLabel, runLater⟩
        exact ⟨u, v, runFirst, stepLabel, by simpa using runLater.snoc step⟩

/-- The step a label of a history stands for. -/
theorem Execution.split {first second : List Label} {label : Label} {state : State}
    (execution : system.Execution (first ++ label :: second) state) :
    ∃ before after, system.Execution first before ∧ system.step before label after ∧
      system.Run after second state := by
  rcases execution with ⟨source, initial, run⟩
  rcases run.split with ⟨before, after, runFirst, step, runSecond⟩
  exact ⟨before, after, ⟨source, initial, runFirst⟩, step, runSecond⟩

/-- A property every step preserves holds all along a run. -/
theorem Run.invariant {motive : State → Prop}
    (preserved : ∀ {state label next}, motive state → system.step state label next →
      motive next)
    {source target : State} {history : List Label}
    (run : system.Run source history target) (atSource : motive source) :
    motive target := by
  induction run with
  | nil => exact atSource
  | snoc _ last ih => exact preserved ih last

/-- The invariant rule: initial and preserved, hence true of every reachable state. -/
theorem Reachable.invariant {motive : State → Prop}
    (atStart : ∀ state, system.initial state → motive state)
    (preserved : ∀ {state label next}, motive state → system.step state label next →
      motive next)
    {state : State} (reachable : system.Reachable state) : motive state := by
  rcases reachable with ⟨source, history, initial, run⟩
  exact run.invariant preserved (atStart source initial)

/-- The invariant rule for properties of the history and the state it leads to. -/
theorem Execution.invariant {motive : List Label → State → Prop}
    (atStart : ∀ state, system.initial state → motive [] state)
    (preserved : ∀ {history state label next}, system.Execution history state →
      motive history state → system.step state label next →
      motive (history ++ [label]) next)
    {history : List Label} {state : State} (execution : system.Execution history state) :
    motive history state := by
  rcases execution with ⟨source, initial, run⟩
  induction run with
  | nil => exact atStart source initial
  | snoc before last ih => exact preserved ⟨source, initial, before⟩ ih last

/-- A reflexive and transitive relation every step of a reachable state respects
relates the two ends of a run. -/
theorem Run.relates {motive : State → State → Prop}
    (refl : ∀ state, motive state state)
    (trans : ∀ {a b c}, motive a b → motive b c → motive a c)
    (stepwise : ∀ {state label next}, system.Reachable state →
      system.step state label next → motive state next)
    {source target : State} {history : List Label} (reachable : system.Reachable source)
    (run : system.Run source history target) : motive source target := by
  have both : system.Reachable target ∧ motive source target := by
    induction run with
    | nil => exact ⟨reachable, refl source⟩
    | snoc _ last ih =>
        rcases ih with ⟨middleReachable, related⟩
        exact ⟨middleReachable.step last, trans related (stepwise middleReachable last)⟩
  exact both.2

/-- Every step of a run that leads here satisfies `property`, which is given the history
before the step as well. -/
def Along (system : LabelledSystem State Label) (history : List Label) (target : State)
    (property : List Label → State → Label → State → Prop) : Prop :=
  ∀ first label rest before after, history = first ++ label :: rest →
    system.Execution first before → system.step before label after →
    system.Run after rest target → property first before label after

section Along

variable {property : List Label → State → Label → State → Prop}

/-- The steps of a run before one of its steps. -/
theorem Along.before {first rest : List Label} {label : Label} {before after target : State}
    (along : system.Along (first ++ label :: rest) target property)
    (step : system.step before label after) (run : system.Run after rest target) :
    system.Along first before property := by
  rintro earlier other between state next rfl early last middle
  refine along earlier other (between ++ label :: rest) state next (by simp) early last ?_
  have joined := (middle.snoc step).append run
  simpa using joined

/-- The last step of a run and the steps before it. -/
theorem Along.snoc {history : List Label} {state next : State} {label : Label}
    (along : system.Along (history ++ [label]) next property)
    (execution : system.Execution history state) (last : system.step state label next) :
    system.Along history state property ∧ property history state label next :=
  ⟨along.before last .nil, along history label [] state next rfl execution last .nil⟩

/-- The invariant rule for runs whose steps all satisfy a property. -/
theorem Along.invariant {invariant : List Label → State → Prop}
    (atStart : ∀ state, system.initial state → invariant [] state)
    (preserved : ∀ {history state label next}, system.Execution history state →
      invariant history state → system.step state label next → property history state label next →
      invariant (history ++ [label]) next)
    {history : List Label} {state : State} (execution : system.Execution history state)
    (along : system.Along history state property) : invariant history state := by
  revert along
  refine execution.invariant (motive := fun history state =>
    system.Along history state property → invariant history state) ?_ ?_
  · exact fun state initial _ => atStart state initial
  · intro earlier before label after early ih step along
    rcases along.snoc early step with ⟨alongBefore, holds⟩
    exact preserved early (ih alongBefore) step holds

theorem Along.mono {other : List Label → State → Label → State → Prop} {history : List Label}
    {target : State} (along : system.Along history target property)
    (implies : ∀ {first before label after}, system.Execution first before →
      system.step before label after → property first before label after →
      other first before label after) : system.Along history target other :=
  fun first label rest before after whole early step run =>
    implies early step (along first label rest before after whole early step run)

end Along

section Ranking

variable {good goal : State → Prop} {allowed : Label → Prop} {rank : State → ℕ}

/-- The ranking rule: while every good state short of the goal has a way to a good state of lower
rank, every good state has a way to the goal. -/
theorem exists_run_of_rank
    (advance : ∀ state, good state → ¬goal state → ∃ history next,
      system.Run state history next ∧ (∀ label ∈ history, allowed label) ∧ good next ∧
        rank next < rank state) {state : State} (atStart : good state) :
    ∃ history next, system.Run state history next ∧ (∀ label ∈ history, allowed label) ∧
      good next ∧ goal next := by
  induction height : rank state using Nat.strongRecOn generalizing state with
  | ind height ih =>
      by_cases reached : goal state
      · exact ⟨[], state, .nil, by simp, atStart, reached⟩
      · rcases advance state atStart reached with ⟨first, next, run, isAllowed, goodNext, lower⟩
        rcases ih (rank next) (height ▸ lower) goodNext rfl with
          ⟨later, target, onward, laterAllowed, goodTarget, atGoal⟩
        refine ⟨first ++ later, target, run.append onward, ?_, goodTarget, atGoal⟩
        intro label labelMem
        rcases List.mem_append.mp labelMem with isFirst | isLater
        · exact isAllowed label isFirst
        · exact laterAllowed label isLater

end Ranking

section Simulation

variable {Concrete : Type u} {ConcreteLabel : Type v}
  {lower : LabelledSystem Concrete ConcreteLabel} {upper : LabelledSystem State Label}

/-- `abstraction` maps every reachable step of the lower system to a step of the
upper system or to no step at all. -/
structure Refines (lower : LabelledSystem Concrete ConcreteLabel)
    (upper : LabelledSystem State Label) (abstraction : Concrete → State) : Prop where
  /-- Initial states map to initial states. -/
  initial : ∀ state, lower.initial state → upper.initial (abstraction state)
  /-- A step maps to a stutter or to one step. -/
  step : ∀ {state label next}, lower.Reachable state → lower.step state label next →
    abstraction next = abstraction state ∨
      ∃ upperLabel, upper.step (abstraction state) upperLabel (abstraction next)

/-- What a refinement reaches, its abstraction reaches. -/
theorem Refines.reachable {abstraction : Concrete → State}
    (refines : Refines lower upper abstraction) {state : Concrete}
    (reachable : lower.Reachable state) : upper.Reachable (abstraction state) := by
  rcases reachable with ⟨source, history, initial, run⟩
  have both : lower.Reachable state ∧ upper.Reachable (abstraction state) := by
    induction run with
    | nil =>
        exact ⟨⟨source, [], initial, .nil⟩, ⟨_, [], refines.initial _ initial, .nil⟩⟩
    | snoc _ last ih =>
        rcases ih with ⟨lowerReachable, upperReachable⟩
        refine ⟨lowerReachable.step last, ?_⟩
        rcases refines.step lowerReachable last with same | ⟨upperLabel, upperStep⟩
        · rwa [same]
        · exact upperReachable.step upperStep
  exact both.2

/-- Where every step maps to the step of its part that the upper system sees, or to none, the
seen part of a history is a history of the upper system. -/
theorem Execution.projected {abstraction : Concrete → State} (view : ConcreteLabel → Option Label)
    (initial : ∀ state, lower.initial state → upper.initial (abstraction state))
    (step : ∀ {state label next}, lower.Reachable state → lower.step state label next →
      (∀ seen, view label = some seen →
        upper.step (abstraction state) seen (abstraction next)) ∧
      (view label = none → abstraction next = abstraction state))
    {history : List ConcreteLabel} {state : Concrete} (execution : lower.Execution history state) :
    upper.Execution (history.filterMap view) (abstraction state) := by
  refine execution.invariant (motive := fun history state =>
    upper.Execution (history.filterMap view) (abstraction state)) ?_ ?_
  · exact fun source isInitial => ⟨abstraction source, initial source isInitial, .nil⟩
  · intro earlier before label after early ih last
    rcases step early.reachable last with ⟨moves, stays⟩
    rw [List.filterMap_append]
    cases seen : view label with
    | none =>
        rw [stays seen]
        simpa [seen] using ih
    | some shown => simpa [seen] using ih.snoc (moves shown seen)

/-- Where every step maps to one with the same label, a history of the lower system is one of
the upper system. -/
theorem Execution.simulated {lower : LabelledSystem Concrete Label} {abstraction : Concrete → State}
    (initial : ∀ state, lower.initial state → upper.initial (abstraction state))
    (step : ∀ {state label next}, lower.Reachable state → lower.step state label next →
      upper.step (abstraction state) label (abstraction next))
    {history : List Label} {state : Concrete} (execution : lower.Execution history state) :
    upper.Execution history (abstraction state) := by
  have projected := execution.projected some initial fun reachable last =>
    ⟨fun seen same => Option.some.inj same ▸ step reachable last, fun none => by cases none⟩
  simpa using projected

end Simulation

section Executable

variable {Action : Type w}

/-- The system of an executable step function: an action fixes every choice the
environment makes. -/
def ofFunction (initial : State → Prop) (step? : Action → State → Option (Label × State)) :
    LabelledSystem State Label where
  initial := initial
  step state label next := ∃ action, step? action state = some (label, next)

/-- Perform a list of actions, collecting the labels. -/
def perform (step? : Action → State → Option (Label × State)) :
    List Action → State → Option (List Label × State)
  | [], state => some ([], state)
  | action :: rest, state =>
      match step? action state with
      | none => none
      | some (label, next) =>
          match perform step? rest next with
          | none => none
          | some (labels, final) => some (label :: labels, final)

theorem run_of_perform {initial : State → Prop}
    {step? : Action → State → Option (Label × State)} {actions : List Action}
    {state final : State} {labels : List Label}
    (performed : perform step? actions state = some (labels, final)) :
    (ofFunction initial step?).Run state labels final := by
  induction actions generalizing state labels with
  | nil =>
      simp only [perform, Option.some.injEq, Prod.mk.injEq] at performed
      rcases performed with ⟨rfl, rfl⟩
      exact .nil
  | cons action rest ih =>
      simp only [perform] at performed
      cases stepped : step? action state with
      | none => simp [stepped] at performed
      | some outcome =>
          rcases outcome with ⟨label, next⟩
          cases remaining : perform step? rest next with
          | none => simp [stepped, remaining] at performed
          | some tail =>
              rcases tail with ⟨later, last⟩
              simp only [stepped, remaining, Option.some.injEq, Prod.mk.injEq] at performed
              rcases performed with ⟨rfl, rfl⟩
              have first : (ofFunction initial step?).Run state ([] ++ [label]) next :=
                .snoc .nil ⟨action, stepped⟩
              exact first.append (ih remaining)

end Executable

end LabelledSystem
