import Mathlib.Algebra.BigOperators.Group.List.Basic
import Mathlib.Algebra.GroupWithZero.Nat
import Mathlib.Data.List.Nodup
import Mathlib.Logic.Function.Basic
import NpdPortal.Library.LabelledSystem

/-!
# Counting down

A countdown has a number for every component; a step takes one from the
number of one component.  A system whose steps can be followed by a countdown
makes, in whatever order, as many steps for a component as its number says.
-/

universe u v w

namespace LabelledSystem

/-- The system which takes one from the number of the component a step is labelled with. -/
def countdown (ι : Type u) [DecidableEq ι] (initial : ι → ℕ) : LabelledSystem (ι → ℕ) ι where
  initial left := left = initial
  step left component next := ∃ rest, left component = rest + 1 ∧
    next = Function.update left component rest

section Countdown

variable {ι : Type u} [DecidableEq ι] {initial start left : ι → ℕ} {history : List ι}

/-- What a component still has and what it has done add up to what it had. -/
theorem Run.count_countdown (run : (countdown ι initial).Run start history left) (component : ι) :
    left component + history.count component = start component := by
  induction run with
  | nil => simp
  | @snoc middle next history label before last ih =>
      rcases last with ⟨rest, had, rfl⟩
      rw [List.count_append]
      by_cases same : component = label
      · subst same
        rw [Function.update_self, List.count_singleton_self]
        omega
      · rw [Function.update_of_ne same, List.count_singleton, if_neg (by simpa using Ne.symm same)]
        exact ih

/-- Taking one from a component takes one from the sum. -/
theorem sum_update {components : List ι} (distinct : components.Nodup) {component : ι}
    (among : component ∈ components) {rest : ℕ} (had : left component = rest + 1) :
    (components.map (Function.update left component rest)).sum + 1 =
      (components.map left).sum := by
  induction components with
  | nil => cases among
  | cons head tail ih =>
      rw [List.nodup_cons] at distinct
      simp only [List.map_cons, List.sum_cons]
      rcases List.mem_cons.mp among with rfl | inTail
      · have others : tail.map (Function.update left component rest) = tail.map left := by
          apply List.map_congr_left
          intro other otherMem
          apply Function.update_of_ne
          rintro rfl
          exact distinct.1 otherMem
        rw [Function.update_self, others]
        omega
      · have differs : head ≠ component := by
          rintro rfl
          exact distinct.1 inTail
        rw [Function.update_of_ne differs]
        have := ih distinct.2 inTail
        omega

/-- The length of a run is what the sum has lost. -/
theorem Run.length_countdown {components : List ι} (distinct : components.Nodup)
    (all : ∀ component, 0 < start component → component ∈ components)
    (run : (countdown ι initial).Run start history left) :
    (components.map left).sum + history.length = (components.map start).sum := by
  induction run with
  | nil => simp
  | @snoc middle next history label before last ih =>
      rcases last with ⟨rest, had, rfl⟩
      have counted := before.count_countdown label
      have among : label ∈ components := all label (by omega)
      have taken := sum_update distinct among had
      rw [List.length_append, List.length_singleton]
      omega

end Countdown

section Follows

variable {State : Type v} {Label : Type w} {ι : Type u} [DecidableEq ι] {initial : ι → ℕ}
  {system : LabelledSystem State Label} {component : Label → ι} {related : State → (ι → ℕ) → Prop}

/-- A run whose steps a countdown can follow is followed by a run of the countdown. -/
theorem Run.exists_countdown
    (follows : ∀ {state label next left}, related state left → system.step state label next →
      ∃ after, (countdown ι initial).step left (component label) after ∧ related next after)
    {source target : State} {history : List Label} {start : ι → ℕ}
    (run : system.Run source history target) (atStart : related source start) :
    ∃ left, (countdown ι initial).Run start (history.map component) left ∧
      related target left := by
  induction run with
  | nil => exact ⟨start, .nil, atStart⟩
  | snoc _ last ih =>
      rcases ih with ⟨left, before, atMiddle⟩
      rcases follows atMiddle last with ⟨after, step, atTarget⟩
      refine ⟨after, ?_, atTarget⟩
      rw [List.map_append]
      exact before.snoc step

end Follows

end LabelledSystem
