import Mathlib.Algebra.GroupWithZero.Nat
import Mathlib.Algebra.Order.Group.Nat
import Mathlib.Data.List.Nodup
import Mathlib.Data.List.Pairwise

/-!
# Tables as lists of rows with a key

A table is the list of its rows in insertion order.  `lookup` reads the row of
a key and `replace` writes a row over the one with its key.  The lemmas say
what a write changes and what it leaves alone.
-/

universe u v

namespace KeyedRows

variable {Row : Type u} {Key : Type v} [DecidableEq Key] (key : Row → Key)

/-- The first row with the given key. -/
def lookup (id : Key) (rows : List Row) : Option Row :=
  rows.find? fun row => key row = id

/-- Write `row` over the row with the same key. -/
def replace (row : Row) (rows : List Row) : List Row :=
  rows.map fun old => if key old = key row then row else old

variable {key}

theorem lookup_cons (id : Key) (head : Row) (tail : List Row) :
    lookup key id (head :: tail) = if key head = id then some head else lookup key id tail := by
  by_cases same : key head = id <;> simp [lookup, same]

theorem replace_cons (row head : Row) (tail : List Row) :
    replace key row (head :: tail) =
      (if key head = key row then row else head) :: replace key row tail := rfl

theorem mem_of_lookup {id : Key} {rows : List Row} {row : Row}
    (found : lookup key id rows = some row) : row ∈ rows :=
  List.mem_of_find?_eq_some found

theorem key_of_lookup {id : Key} {rows : List Row} {row : Row}
    (found : lookup key id rows = some row) : key row = id := by
  simpa using List.find?_some found

theorem lookup_of_mem {rows : List Row} {row : Row} (distinct : (rows.map key).Nodup)
    (rowMem : row ∈ rows) : lookup key (key row) rows = some row := by
  induction rows with
  | nil => simp at rowMem
  | cons head tail ih =>
      simp only [List.map_cons, List.nodup_cons, List.mem_map, not_exists, not_and] at distinct
      simp only [lookup, List.find?_cons]
      rcases List.mem_cons.mp rowMem with rfl | tailMem
      · simp
      · have differs : key head ≠ key row := fun same => distinct.1 row tailMem same.symm
        simpa [differs, lookup] using ih distinct.2 tailMem

theorem lookup_eq_some_iff {rows : List Row} {row : Row} {id : Key}
    (distinct : (rows.map key).Nodup) :
    lookup key id rows = some row ↔ row ∈ rows ∧ key row = id := by
  constructor
  · exact fun found => ⟨mem_of_lookup found, key_of_lookup found⟩
  · rintro ⟨rowMem, rfl⟩
    exact lookup_of_mem distinct rowMem

omit [DecidableEq Key] in
theorem eq_of_key_eq {rows : List Row} {first second : Row} (distinct : (rows.map key).Nodup)
    (firstMem : first ∈ rows) (secondMem : second ∈ rows) (same : key first = key second) :
    first = second :=
  List.inj_on_of_nodup_map distinct firstMem secondMem same

theorem lookup_eq_none_iff {rows : List Row} {id : Key} :
    lookup key id rows = none ↔ id ∉ rows.map key := by
  simp [lookup, List.find?_eq_none]

theorem lookup_append (id : Key) (first second : List Row) :
    lookup key id (first ++ second) = (lookup key id first).or (lookup key id second) :=
  List.find?_append

@[simp]
theorem map_key_replace (row : Row) (rows : List Row) :
    (replace key row rows).map key = rows.map key := by
  simp only [replace, List.map_map]
  apply List.map_congr_left
  intro old _
  by_cases same : key old = key row <;> simp [same]

theorem mem_replace {rows : List Row} {row other : Row} :
    other ∈ replace key row rows ↔
      (other = row ∧ ∃ old ∈ rows, key old = key row) ∨
        (other ∈ rows ∧ key other ≠ key row) := by
  simp only [replace, List.mem_map]
  constructor
  · rintro ⟨old, oldMem, rfl⟩
    by_cases same : key old = key row
    · left
      exact ⟨by simp [same], old, oldMem, same⟩
    · right
      simpa [same] using oldMem
  · rintro (⟨rfl, old, oldMem, same⟩ | ⟨otherMem, differs⟩)
    · exact ⟨old, oldMem, by simp [same]⟩
    · exact ⟨other, otherMem, by simp [differs]⟩

/-- The rows of other keys are as they were. -/
theorem lookup_replace_of_ne {rows : List Row} {row : Row} {id : Key} (differs : id ≠ key row) :
    lookup key id (replace key row rows) = lookup key id rows := by
  induction rows with
  | nil => rfl
  | cons head tail ih =>
      rw [replace_cons, lookup_cons, lookup_cons, ih]
      by_cases same : key head = key row
      · rw [if_pos same, same, if_neg (Ne.symm differs), if_neg (Ne.symm differs)]
      · rw [if_neg same]

theorem replace_eq_self {rows : List Row} {row : Row} (distinct : (rows.map key).Nodup)
    (rowMem : row ∈ rows) : replace key row rows = rows := by
  have unchanged : ∀ old ∈ rows, (if key old = key row then row else old) = old := by
    intro old oldMem
    by_cases same : key old = key row
    · simp [same, eq_of_key_eq distinct rowMem oldMem same.symm]
    · simp [same]
  simpa [replace] using List.map_congr_left unchanged

/-- A selection that looks only at data the write keeps commutes with the write. -/
theorem filter_replace {rows : List Row} {row : Row} {selects : Row → Bool}
    (kept : ∀ old ∈ rows, key old = key row → selects old = selects row) :
    (replace key row rows).filter selects = replace key row (rows.filter selects) := by
  induction rows with
  | nil => rfl
  | cons head tail ih =>
      have tailKept := fun old oldMem => kept old (List.mem_cons_of_mem head oldMem)
      have ihTail := ih tailKept
      have headKept := kept head (by simp)
      by_cases same : key head = key row
      · have equal := headKept same
        cases chosen : selects head <;>
          simp_all [replace]
      · cases chosen : selects head <;>
          simp_all [replace]

/-- Writing over rows of other keys changes nothing. -/
theorem replace_of_notMem {rows : List Row} {row : Row} (absent : ∀ old ∈ rows, key old ≠ key row) :
    replace key row rows = rows := by
  have unchanged : ∀ old ∈ rows, (if key old = key row then row else old) = old := by
    intro old oldMem
    simp [absent old oldMem]
  simpa [replace] using List.map_congr_left unchanged

theorem replace_append (row : Row) (first second : List Row) :
    replace key row (first ++ second) = replace key row first ++ replace key row second := by
  simp [replace]

/-- Data of a row the write keeps is the same column before and after. -/
theorem map_replace {Column : Type*} (column : Row → Column) {rows : List Row} {row : Row}
    (kept : ∀ old ∈ rows, key old = key row → column old = column row) :
    (replace key row rows).map column = rows.map column := by
  simp only [replace, List.map_map]
  apply List.map_congr_left
  intro old oldMem
  by_cases same : key old = key row
  · simp [same, kept old oldMem same]
  · simp [same]

/-- A nullable column which the write keeps has the same values before and after. -/
theorem filterMap_replace {Column : Type*} (column : Row → Option Column) {rows : List Row}
    {row : Row} (kept : ∀ old ∈ rows, key old = key row → column old = column row) :
    (replace key row rows).filterMap column = rows.filterMap column := by
  have same := congrArg (List.filterMap id) (map_replace column kept)
  rwa [List.filterMap_map, List.filterMap_map] at same

omit [DecidableEq Key] in
/-- A nullable column is unique when two rows with the same value are the same row. -/
theorem nodup_filterMap_iff {Column : Type*} {column : Row → Option Column} {rows : List Row}
    (distinct : (rows.map key).Nodup) :
    (rows.filterMap column).Nodup ↔ ∀ first ∈ rows, ∀ second ∈ rows, ∀ value,
      column first = some value → column second = some value → first = second := by
  have rowsDistinct : rows.Nodup := List.Nodup.of_map key distinct
  rw [List.Nodup, List.pairwise_filterMap]
  constructor
  · intro pairwise first firstMem second secondMem value atFirst atSecond
    by_contra differ
    have symmetric : Std.Symm fun one two : Row => ∀ value, column one = some value →
        ∀ other, column two = some other → value ≠ other :=
      ⟨fun _ _ apart value atOne other atTwo => (apart other atTwo value atOne).symm⟩
    exact pairwise.forall firstMem secondMem differ value atFirst value atSecond rfl
  · intro unique
    refine rowsDistinct.pairwise_of_forall_ne fun first firstMem second secondMem differ => ?_
    rintro value atFirst _ atSecond rfl
    exact differ (unique first firstMem second secondMem value atFirst atSecond)

omit [DecidableEq Key] in
/-- A selection that only one row passes. -/
theorem filterMap_of_unique {Column : Type*} {column : Row → Option Column} {rows : List Row}
    {row : Row} (distinct : rows.Nodup) (rowMem : row ∈ rows)
    (others : ∀ other ∈ rows, other ≠ row → column other = none) :
    rows.filterMap column = (column row).toList := by
  induction rows with
  | nil => cases rowMem
  | cons head tail ih =>
      rw [List.nodup_cons] at distinct
      have inTail := fun other otherMem => others other (List.mem_cons_of_mem head otherMem)
      rcases List.mem_cons.mp rowMem with rfl | tailMem
      · have noneLeft : tail.filterMap column = [] := by
          apply List.filterMap_eq_nil_iff.mpr
          intro other otherMem
          exact inTail other otherMem fun same => distinct.1 (same ▸ otherMem)
        cases chosen : column row <;> simp [chosen, noneLeft]
      · have notHead : head ≠ row := fun same => distinct.1 (same ▸ tailMem)
        rw [List.filterMap_cons_none (others head (by simp) notHead)]
        exact ih distinct.2 tailMem inTail

/-- A write which does not add a row to a selection, nor a larger value, keeps the sum of the
selected values at most as large. -/
theorem sum_filter_replace_le {rows : List Row} {row : Row} (selects : Row → Bool)
    (value : Row → ℕ)
    (atMost : ∀ old ∈ rows, key old = key row → selects row → selects old ∧ value row ≤ value old) :
    (((replace key row rows).filter selects).map value).sum ≤
      ((rows.filter selects).map value).sum := by
  induction rows with
  | nil => exact le_rfl
  | cons head tail ih =>
      have tailLe := ih fun old oldMem => atMost old (List.mem_cons_of_mem head oldMem)
      rw [replace_cons, List.filter_cons, List.filter_cons]
      by_cases same : key head = key row
      · rw [if_pos same]
        by_cases chosen : selects row
        · rcases atMost head (by simp) same chosen with ⟨chosenHead, le⟩
          simp only [chosen, chosenHead, if_true, List.map_cons, List.sum_cons]
          omega
        · simp only [chosen, Bool.false_eq_true, if_false]
          refine tailLe.trans ?_
          split <;> simp
      · rw [if_neg same]
        split
        · simp only [List.map_cons, List.sum_cons]
          omega
        · exact tailLe

/-- A write replaces one summand of a sum over the rows. -/
theorem sum_replace {rows : List Row} {row old : Row} (value : Row → ℕ)
    (distinct : (rows.map key).Nodup) (oldMem : old ∈ rows) (same : key old = key row) :
    ((replace key row rows).map value).sum + value old = (rows.map value).sum + value row := by
  induction rows with
  | nil => cases oldMem
  | cons head tail ih =>
      simp only [List.map_cons, List.nodup_cons] at distinct
      rw [replace_cons, List.map_cons, List.sum_cons, List.map_cons, List.sum_cons]
      rcases List.mem_cons.mp oldMem with rfl | inTail
      · have untouched : replace key row tail = tail := by
          apply replace_of_notMem
          intro other otherMem equal
          exact distinct.1 (List.mem_map.mpr ⟨other, otherMem, equal.trans same.symm⟩)
        rw [if_pos same, untouched]
        omega
      · have differs : key head ≠ key row := by
          intro equal
          exact distinct.1 (List.mem_map.mpr ⟨old, inTail, same.trans equal.symm⟩)
        have onTail := ih distinct.2 inTail
        rw [if_neg differs]
        omega

/-- Writing a new value into a unique nullable column. -/
theorem nodup_filterMap_replace_iff {Column : Type*} {column : Row → Option Column}
    {rows : List Row} {row old : Row} {value : Column} (distinct : (rows.map key).Nodup)
    (unique : (rows.filterMap column).Nodup) (oldMem : old ∈ rows) (same : key row = key old)
    (empty : column old = none) (written : column row = some value) :
    ((replace key row rows).filterMap column).Nodup ↔ value ∉ rows.filterMap column := by
  have keys : ((replace key row rows).map key).Nodup := by rwa [map_key_replace]
  rw [nodup_filterMap_iff keys]
  rw [nodup_filterMap_iff distinct] at unique
  constructor
  · intro apart taken
    rcases List.mem_filterMap.mp taken with ⟨other, otherMem, stored⟩
    have differs : key other ≠ key row := by
      intro equal
      rcases eq_of_key_eq distinct otherMem oldMem (equal.trans same) with rfl
      simp [empty] at stored
    refine differs (congrArg key (apart other ?_ row ?_ value stored written))
    · exact mem_replace.mpr (.inr ⟨otherMem, differs⟩)
    · exact mem_replace.mpr (.inl ⟨rfl, old, oldMem, same.symm⟩)
  · intro free first firstMem second secondMem other atFirst atSecond
    have taken : ∀ {reader}, reader ∈ rows → column reader = some value → False :=
      fun readerMem stored => free (List.mem_filterMap.mpr ⟨_, readerMem, stored⟩)
    rcases mem_replace.mp firstMem with ⟨rfl, _⟩ | ⟨firstOld, _⟩ <;>
      rcases mem_replace.mp secondMem with ⟨rfl, _⟩ | ⟨secondOld, _⟩
    · rfl
    · exact (taken secondOld (atSecond.trans (atFirst.symm.trans written))).elim
    · exact (taken firstOld (atFirst.trans (atSecond.symm.trans written))).elim
    · exact unique first firstOld second secondOld other atFirst atSecond

omit [DecidableEq Key] in
/-- Tables with the same keys in the same order have the same columns when every two rows of one
key do. -/
theorem map_eq_of_keys {Column : Type*} {first second : List Row} {column other : Row → Column}
    (keys : first.map key = second.map key) (distinct : (first.map key).Nodup)
    (rows : ∀ one ∈ first, ∀ two ∈ second, key one = key two → column one = other two) :
    first.map column = second.map other := by
  induction first generalizing second with
  | nil =>
      rw [List.map_nil, eq_comm, List.map_eq_nil_iff] at keys
      rw [keys]
      rfl
  | cons head tail ih =>
      cases second with
      | nil => simp at keys
      | cons head' tail' =>
          simp only [List.map_cons, List.cons.injEq, List.nodup_cons] at keys distinct ⊢
          refine ⟨rows head (by simp) head' (by simp) keys.1, ih keys.2 distinct.2 ?_⟩
          intro one oneMem two twoMem same
          exact rows one (by simp [oneMem]) two (by simp [twoMem]) same

end KeyedRows
