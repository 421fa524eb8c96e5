import NpdPortal.Library.KeyedRows

/-!
# Exclusive resources

Holders have resources, such as the row locks and the index entries of open
transactions.  `Exclusive` says that no two holders share one; the lemmas say
which changes of the holders keep this.
-/

universe u v w

/-- No resource is held by two holders. -/
def Exclusive {Holder : Type u} {Resource : Type v} (holds : Holder → List Resource)
    (holders : List Holder) : Prop :=
  ∀ first ∈ holders, ∀ second ∈ holders, ∀ resource ∈ holds first, resource ∈ holds second →
    first = second

namespace Exclusive

variable {Holder : Type u} {Resource : Type v} {Key : Type w} [DecidableEq Key]
  {holds : Holder → List Resource} {holders : List Holder} {key : Holder → Key}

theorem nil : Exclusive holds [] :=
  fun _ firstMem => absurd firstMem List.not_mem_nil

/-- Holders may leave. -/
theorem subset {fewer : List Holder} (exclusive : Exclusive holds holders)
    (isSubset : fewer ⊆ holders) : Exclusive holds fewer :=
  fun first firstMem second secondMem =>
    exclusive first (isSubset firstMem) second (isSubset secondMem)

/-- A holder without resources may join. -/
theorem append_idle {newcomer : Holder} (exclusive : Exclusive holds holders)
    (idle : holds newcomer = []) : Exclusive holds (holders ++ [newcomer]) := by
  have nothing : ∀ resource, resource ∉ holds newcomer := by simp [idle]
  intro first firstMem second secondMem resource inFirst inSecond
  rw [List.mem_append, List.mem_singleton] at firstMem secondMem
  rcases firstMem with firstOld | rfl
  · rcases secondMem with secondOld | rfl
    · exact exclusive first firstOld second secondOld resource inFirst inSecond
    · exact absurd inSecond (nothing resource)
  · exact absurd inFirst (nothing resource)

/-- A holder may acquire resources which no other holder has. -/
theorem replace {updated : Holder} (exclusive : Exclusive holds holders)
    (available : ∀ other ∈ holders, key other ≠ key updated →
      ∀ resource ∈ holds updated, resource ∉ holds other) :
    Exclusive holds (KeyedRows.replace key updated holders) := by
  intro first firstMem second secondMem resource inFirst inSecond
  rcases KeyedRows.mem_replace.mp firstMem with ⟨rfl, _⟩ | ⟨firstOld, firstOther⟩ <;>
    rcases KeyedRows.mem_replace.mp secondMem with ⟨rfl, _⟩ | ⟨secondOld, secondOther⟩
  · rfl
  · exact absurd inSecond (available second secondOld secondOther resource inFirst)
  · exact absurd inFirst (available first firstOld firstOther resource inSecond)
  · exact exclusive first firstOld second secondOld resource inFirst inSecond

end Exclusive
