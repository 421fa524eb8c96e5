import Mathlib.Data.List.Forall2
import Mathlib.Data.List.TakeWhile
import NpdPortal.Library.Escaping

/-!
# Paths of URLs

A relative reference as a client sends it and a server reads it: the path ends
where a query or a fragment begins, dot segments are removed, and what is left
is decoded segment by segment.
-/

namespace Url

/-- The segments which are steps in the hierarchy of a path. -/
def IsDotSegment (segment : String) : Prop := segment = "." ∨ segment = ".."

instance (segment : String) : Decidable (IsDotSegment segment) :=
  inferInstanceAs (Decidable (_ ∨ _))

/-- Remove the dot segments; `none` when they lead above the start of the path.  The segments
before are in reverse order. -/
def removeDotSegments (before : List String) : List String → Option (List String)
  | [] => some before.reverse
  | segment :: rest =>
      if segment = "." then removeDotSegments before rest
      else if segment = ".." then
        match before with
        | [] => none
        | _ :: before => removeDotSegments before rest
      else removeDotSegments (segment :: before) rest

/-- The letters which end a segment of a path. -/
def delimiters : List Char := ['/', '?', '#']

/-- The segments which a server reads. -/
def segments? (reference : String) : Option (List String) :=
  let path := reference.toList.takeWhile fun letter => letter ≠ '?' && letter ≠ '#'
  (removeDotSegments [] ((path.splitOn '/').map String.ofList)).bind
    (·.mapM PyString.unquote?)

/-- In a path this segment stands for the value. -/
structure Writes (segment value : String) : Prop where
  closed : ∀ letter ∈ segment.toList, letter ∉ delimiters
  notDots : ¬IsDotSegment segment
  decodes : PyString.unquote? segment = some value

/-- A name of letters, digits, hyphens and dots. -/
structure IsHostName (name : String) : Prop where
  letters : ∀ letter ∈ name.toList, letter.isAlphanum ∨ letter = '-' ∨ letter = '.'
  notEmpty : name ≠ ""
  notDots : ¬IsDotSegment name

theorem isHostName_iff (name : String) : IsHostName name ↔
    (name.toList.all fun letter => letter.isAlphanum || letter == '-' || letter == '.') = true ∧
      name ≠ "" ∧ ¬IsDotSegment name := by
  simp only [List.all_eq_true, Bool.or_eq_true, beq_iff_eq, or_assoc]
  exact ⟨fun isName => ⟨isName.letters, isName.notEmpty, isName.notDots⟩,
    fun ⟨letters, notEmpty, notDots⟩ => ⟨letters, notEmpty, notDots⟩⟩

instance (name : String) : Decidable (IsHostName name) :=
  decidable_of_iff _ (isHostName_iff name).symm

section Writing

variable {text : String}

/-- A text without escapes and delimiters stands for itself. -/
theorem Writes.plain (letters : ∀ letter ∈ text.toList, letter ∉ '%' :: delimiters)
    (notDots : ¬IsDotSegment text) : Writes text text where
  closed letter letterMem inDelimiters :=
    letters letter letterMem (List.mem_cons_of_mem _ inDelimiters)
  notDots := notDots
  decodes := PyString.unquote?_of_notMem fun isEscape => letters '%' isEscape List.mem_cons_self

theorem Writes.hostName (isName : IsHostName text) : Writes text text := by
  refine .plain ?_ isName.notDots
  intro letter letterMem inDelimiters
  simp only [delimiters, List.mem_cons, List.not_mem_nil, or_false] at inDelimiters
  have allowed := isName.letters letter letterMem
  rcases inDelimiters with rfl | rfl | rfl | rfl <;> exact absurd allowed (by decide)

theorem Writes.int (value : ℤ) : Writes (toString value) (toString value) := by
  refine .plain ?_ ?_
  · intro letter letterMem inDelimiters
    simp only [delimiters, List.mem_cons, List.not_mem_nil, or_false] at inDelimiters
    rcases inDelimiters with rfl | rfl | rfl | rfl <;>
      exact PyString.not_mem_toString (by decide) (by decide) value letterMem
  · have noDot : '.' ∉ (toString value).toList :=
      PyString.not_mem_toString (by decide) (by decide) value
    rintro (isDot | isDots)
    · exact noDot (by simp [isDot])
    · exact noDot (by simp [isDots])

/-- An escaped text stands for the text. -/
theorem Writes.quote (notDots : ¬IsDotSegment text) : Writes (PyString.quote text) text where
  closed letter letterMem inDelimiters := by
    simp only [delimiters, List.mem_cons, List.not_mem_nil, or_false] at inDelimiters
    have allowed := PyString.mem_quote letterMem
    rcases inDelimiters with rfl | rfl | rfl <;> exact absurd allowed (by decide)
  notDots isDots := by
    have decoded := PyString.unquote?_quote text
    rcases isDots with isDot | isDots
    · rw [isDot, PyString.unquote?_of_notMem (by decide)] at decoded
      exact notDots (.inl (Option.some.inj decoded).symm)
    · rw [isDots, PyString.unquote?_of_notMem (by decide)] at decoded
      exact notDots (.inr (Option.some.inj decoded).symm)
  decodes := PyString.unquote?_quote text

end Writing

section Reading

theorem intercalate_eq (first : List Char) (rest : List (List Char)) :
    ['/'].intercalate (first :: rest) = first ++ rest.flatMap ('/' :: ·) := by
  induction rest generalizing first with
  | nil => simp
  | cons second rest ih =>
      rw [List.intercalate_cons_cons, ih, List.flatMap_cons]
      simp

/-- The segments which a text was joined from. -/
theorem splitOn_of_joined {text : List Char} {first : String} {rest : List String}
    (joined : text = first.toList ++ rest.flatMap ('/' :: ·.toList))
    (closed : ∀ segment ∈ first :: rest, '/' ∉ segment.toList) :
    (text.splitOn '/').map String.ofList = first :: rest := by
  have isJoin : text = ['/'].intercalate ((first :: rest).map String.toList) := by
    rw [joined, List.map_cons, intercalate_eq, List.flatMap_map]
  rw [isJoin, List.splitOn_intercalate, List.map_map]
  · simp [Function.comp_def]
  · intro letters lettersMem
    rcases List.mem_map.mp lettersMem with ⟨segment, segmentMem, rfl⟩
    exact closed segment segmentMem
  · simp

/-- Without dot segments nothing is removed. -/
theorem removeDotSegments_eq {segments : List String}
    (noDots : ∀ segment ∈ segments, ¬IsDotSegment segment) (before : List String) :
    removeDotSegments before segments = some (before.reverse ++ segments) := by
  induction segments generalizing before with
  | nil => simp [removeDotSegments]
  | cons segment rest ih =>
      have notDots := noDots segment List.mem_cons_self
      have later := ih fun other otherMem => noDots other (List.mem_cons_of_mem _ otherMem)
      unfold removeDotSegments
      rw [if_neg fun isDot => notDots (.inl isDot), if_neg fun isDots => notDots (.inr isDots),
        later]
      simp

theorem mapM_unquote? {segments values : List String}
    (writes : List.Forall₂ Writes segments values) :
    segments.mapM PyString.unquote? = some values := by
  induction writes with
  | nil => rfl
  | cons first _ ih => simp [List.mapM_cons, first.decodes, ih]

/-- A reference joined from segments is read as the values they stand for. -/
theorem segments?_eq {reference first : String} {rest values : List String}
    (joined : reference.toList = first.toList ++ rest.flatMap ('/' :: ·.toList))
    (writes : List.Forall₂ Writes (first :: rest) values) :
    segments? reference = some values := by
  have each : ∀ segment ∈ first :: rest, ∃ value, Writes segment value := by
    intro segment segmentMem
    rcases List.mem_iff_getElem.mp segmentMem with ⟨index, bound, rfl⟩
    exact ⟨_, writes.get bound (writes.length_eq ▸ bound)⟩
  have noDelimiter : ∀ segment ∈ first :: rest, ∀ letter ∈ segment.toList,
      letter ∉ delimiters := by
    intro segment segmentMem
    exact (each segment segmentMem).choose_spec.closed
  have whole : reference.toList.takeWhile (fun letter => letter ≠ '?' && letter ≠ '#') =
      reference.toList := by
    refine List.takeWhile_eq_self_iff.mpr ?_
    intro letter letterMem
    have inside : letter = '/' ∨ ∃ segment ∈ first :: rest, letter ∈ segment.toList := by
      rw [joined, List.mem_append, List.mem_flatMap] at letterMem
      rcases letterMem with inFirst | ⟨segment, segmentMem, inSegment⟩
      · exact .inr ⟨first, List.mem_cons_self, inFirst⟩
      · rcases List.mem_cons.mp inSegment with isSlash | inSegment
        · exact .inl isSlash
        · exact .inr ⟨segment, List.mem_cons_of_mem _ segmentMem, inSegment⟩
    rcases inside with rfl | ⟨segment, segmentMem, inSegment⟩
    · decide
    · have closed := noDelimiter segment segmentMem letter inSegment
      simp only [delimiters, List.mem_cons, List.not_mem_nil, or_false, not_or] at closed
      simp [closed.2.1, closed.2.2]
  unfold segments?
  simp only [whole]
  rw [splitOn_of_joined joined, removeDotSegments_eq, List.reverse_nil, List.nil_append,
    Option.bind_some, mapM_unquote? writes]
  · exact fun segment segmentMem => (each segment segmentMem).choose_spec.notDots
  · exact fun segment segmentMem isSlash =>
      noDelimiter segment segmentMem '/' isSlash List.mem_cons_self

end Reading

end Url
