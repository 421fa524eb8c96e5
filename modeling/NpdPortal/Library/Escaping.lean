import Mathlib.Data.List.Perm.Subperm
import Mathlib.Data.List.Nodup
import Mathlib.Tactic.Push
import NpdPortal.Library.Printing

/-!
# Reading back what is printed

Percent-decoding undoes `quote`, and `int` undoes the printing of an integer.
-/

namespace PyString

/-! ### Integers -/

/-- Digits without separators. -/
theorem digitsValue_of_digits {digits : List Char} (allDigits : ∀ letter ∈ digits, letter.isDigit)
    (value : ℕ) : digitsValue value digits = some (Nat.ofDigitChars 10 digits value) := by
  induction digits generalizing value with
  | nil => simp [digitsValue]
  | cons head tail ih =>
      have isDigit : head.isDigit := allDigits head List.mem_cons_self
      have later := ih (fun letter letterMem => allDigits letter (List.mem_cons_of_mem _ letterMem))
      have step : digitsValue value (head :: tail) =
          digitsValue (10 * value + (head.toNat - 48)) tail := by
        cases tail with
        | nil => simp [digitsValue, isDigit]
        | cons second rest =>
            have noSeparator : second ≠ '_' := by
              rintro rfl
              exact absurd (allDigits '_' (by simp)) (by decide)
            rw [digitsValue]
            · rw [if_pos isDigit]
            · simp
            · intro others same
              exact noSeparator (List.cons.inj same).1
      rw [step, later, Nat.ofDigitChars_cons]
      rfl

theorem natural?_toDigits (value : ℕ) : natural? (Nat.toDigits 10 value) = some value := by
  unfold natural?
  rw [if_neg Nat.toDigits_ne_nil, digitsValue_of_digits, Nat.ofDigitChars_ten_toDigits]
  intro letter letterMem
  exact Nat.isDigit_of_mem_toDigits (by decide) (by decide) letterMem

/-- No blank is stripped from a text whose ends are none. -/
theorem strip_spaces {letters : List Char} (plain : ∀ letter ∈ letters, isSpace letter = false) :
    ((letters.dropWhile isSpace).reverse.dropWhile isSpace).reverse = letters := by
  have kept : ∀ others : List Char, (∀ letter ∈ others, isSpace letter = false) →
      others.dropWhile isSpace = others := by
    intro others plain
    cases others with
    | nil => rfl
    | cons head tail => rw [List.dropWhile_cons_of_neg (by simp [plain head (by simp)])]
  rw [kept letters plain, kept, List.reverse_reverse]
  intro letter letterMem
  exact plain letter (List.mem_reverse.mp letterMem)

theorem isSpace_of_isDigit {letter : Char} (isDigit : letter.isDigit) : isSpace letter = false := by
  simp only [Char.isDigit, Bool.and_eq_true, decide_eq_true_eq] at isDigit
  have lower : 48 ≤ letter.toNat := isDigit.1
  simp only [isSpace, Bool.or_eq_false_iff, Bool.and_eq_false_iff, decide_eq_false_iff_not]
  omega

theorem map_asciiLetter {letters : List Char} (ascii : ∀ letter ∈ letters, letter.toNat < 127) :
    letters.map asciiLetter = letters := by
  have kept : ∀ letter ∈ letters, asciiLetter letter = id letter :=
    fun letter letterMem => if_pos (ascii letter letterMem)
  rw [List.map_congr_left kept, List.map_id]

theorem toNat_lt_of_isDigit {letter : Char} (isDigit : letter.isDigit) : letter.toNat < 127 := by
  simp only [Char.isDigit, Bool.and_eq_true, decide_eq_true_eq] at isDigit
  have upper : letter.toNat ≤ 57 := isDigit.2
  omega

/-- `int(str(value))`. -/
theorem int?_toString (value : ℤ) : int? (toString value) = some value := by
  have digits : ∀ count : ℕ, ∀ letter ∈ Nat.toDigits 10 count, letter.isDigit :=
    fun count letter letterMem => Nat.isDigit_of_mem_toDigits (by decide) (by decide) letterMem
  cases value with
  | ofNat count =>
      have text : (toString (Int.ofNat count)).toList = Nat.toDigits 10 count := by
        simp [toString, Int.repr]
      unfold int?
      rw [text, map_asciiLetter fun letter letterMem =>
          toNat_lt_of_isDigit (digits count letter letterMem),
        strip_spaces fun letter letterMem => isSpace_of_isDigit (digits count letter letterMem)]
      split
      · rename_i same
        exact absurd (digits count '-' (by simp [same])) (by decide)
      · rename_i same
        exact absurd (digits count '+' (by simp [same])) (by decide)
      · rw [natural?_toDigits]
        rfl
  | negSucc count =>
      have text : (toString (Int.negSucc count)).toList = '-' :: Nat.toDigits 10 (count + 1) := by
        simp [toString, Int.repr]
      unfold int?
      rw [text, map_asciiLetter, strip_spaces]
      · simp only [natural?_toDigits]
        rfl
      · intro letter letterMem
        rcases List.mem_cons.mp letterMem with rfl | isDigit
        · rfl
        · exact isSpace_of_isDigit (digits _ letter isDigit)
      · intro letter letterMem
        rcases List.mem_cons.mp letterMem with rfl | isDigit
        · decide
        · exact toNat_lt_of_isDigit (digits _ letter isDigit)

/-- While few integers are used there is another one to print below the bound. -/
theorem exists_int?_notMem {used : List ℤ} {bound : ℕ} (few : used.length + 1 < bound) :
    ∃ text value, int? text = some value ∧ 0 < value ∧ value < bound ∧ value ∉ used := by
  let positive := (List.range (bound - 1)).map fun count : ℕ => (count : ℤ) + 1
  have distinct : positive.Nodup := by
    refine (List.nodup_map_iff fun first second same => ?_).mpr List.nodup_range
    omega
  have escapes : ∃ value ∈ positive, value ∉ used := by
    by_contra inside
    push Not at inside
    have fewer := (List.subperm_of_subset distinct inside).length_le
    simp only [positive, List.length_map, List.length_range] at fewer
    omega
  rcases escapes with ⟨value, valueMem, isNew⟩
  rcases List.mem_map.mp valueMem with ⟨count, countMem, rfl⟩
  have below := List.mem_range.mp countMem
  exact ⟨_, _, int?_toString _, by omega, by omega, isNew⟩

theorem not_mem_toString {separator : Char} (notMinus : separator ≠ '-')
    (notDigit : separator.isDigit = false) (value : ℤ) : separator ∉ (toString value).toList := by
  intro letterMem
  have noDigit : ∀ count : ℕ, separator ∉ Nat.toDigits 10 count := by
    intro count digitMem
    have isDigit := Nat.isDigit_of_mem_toDigits (by decide) (by decide) digitMem
    rw [notDigit] at isDigit
    cases isDigit
  cases value with
  | ofNat count => exact noDigit count (by simpa [toString, Int.repr] using letterMem)
  | negSucc count =>
      have inText : separator ∈ '-' :: Nat.toDigits 10 (count + 1) := by
        simpa [toString, Int.repr] using letterMem
      rcases List.mem_cons.mp inText with isMinus | isDigit
      · exact notMinus isMinus
      · exact noDigit _ isDigit

/-! ### Percent-encoding -/

/-- The bytes of a text in which `%` and two hexadecimal digits stand for a byte. -/
def unquoteBytes : List Char → Option (List UInt8)
  | [] => some []
  | '%' :: high :: low :: rest =>
      (hexDigit? high).bind fun upper => (hexDigit? low).bind fun lower =>
        (unquoteBytes rest).map (UInt8.ofNat (16 * upper + lower) :: ·)
  | letter :: rest => (unquoteBytes rest).map (String.utf8EncodeChar letter ++ ·)

/-- The text whose escaped form is given. -/
def unquote? (text : String) : Option String :=
  (unquoteBytes text.toList).bind fun bytes => String.fromUTF8? ⟨bytes.toArray⟩

/-- A byte as `quote` writes it. -/
def quoteByte (byte : UInt8) : List Char :=
  if isUnreserved byte then [Char.ofNat byte.toNat]
  else ['%', (Nat.digitChar (byte.toNat / 16)).toUpper, (Nat.digitChar (byte.toNat % 16)).toUpper]

theorem quote_eq (text : String) :
    quote text = String.ofList (text.toUTF8.toList.flatMap quoteByte) := rfl

theorem hexDigit?_digitChar : ∀ digit < 16,
    hexDigit? (Nat.digitChar digit).toUpper = some digit := by
  decide

theorem unquoteBytes_cons {letter : Char} (notEscape : letter ≠ '%') (rest : List Char) :
    unquoteBytes (letter :: rest) =
      (unquoteBytes rest).map (String.utf8EncodeChar letter ++ ·) := by
  rw [unquoteBytes]
  intro high low others same
  exact absurd same notEscape

/-- A text without escapes stands for itself. -/
theorem unquote?_of_notMem {text : String} (noEscape : '%' ∉ text.toList) :
    unquote? text = some text := by
  have bytes : ∀ letters : List Char, '%' ∉ letters →
      unquoteBytes letters = some (letters.flatMap String.utf8EncodeChar) := by
    intro letters
    induction letters with
    | nil => exact fun _ => rfl
    | cons letter rest ih =>
        intro noEscape
        have notFirst : letter ≠ '%' := fun isEscape => noEscape (isEscape ▸ List.mem_cons_self)
        rw [unquoteBytes_cons notFirst, ih fun later => noEscape (List.mem_cons_of_mem _ later)]
        rfl
  have isText : (text.toList.flatMap String.utf8EncodeChar).toByteArray = text.toUTF8 :=
    String.utf8Encode_toList
  unfold unquote?
  rw [bytes _ noEscape, Option.bind_some, ← List.data_toByteArray, isText]
  exact dif_pos text.isValidUTF8

/-- The letters which `quote` does not escape. -/
def isUnreservedLetter (letter : Char) : Bool :=
  letter.isAlphanum || "_.-~".toList.contains letter

/-- An unreserved byte is the code of an unreserved letter. -/
theorem unreserved_char {byte : UInt8} (unreserved : isUnreserved byte = true) :
    isUnreservedLetter (Char.ofNat byte.toNat) = true ∧
      String.utf8EncodeChar (Char.ofNat byte.toNat) = [byte] := by
  have table : ∀ code < 256, isUnreserved (UInt8.ofNat code) = true →
      isUnreservedLetter (Char.ofNat code) = true ∧
        String.utf8EncodeChar (Char.ofNat code) = [UInt8.ofNat code] := by
    decide +kernel
  rw [← UInt8.ofNat_toNat (x := byte)] at unreserved
  simpa using table byte.toNat byte.toNat_lt unreserved

theorem escaped_char : ∀ digit < 16,
    isUnreservedLetter (Nat.digitChar digit).toUpper = true := by
  decide

/-- One byte is read back. -/
theorem unquoteBytes_quoteByte (byte : UInt8) (rest : List Char) :
    unquoteBytes (quoteByte byte ++ rest) = (unquoteBytes rest).map (byte :: ·) := by
  have bound : byte.toNat < 256 := byte.toNat_lt
  have same : UInt8.ofNat byte.toNat = byte := UInt8.ofNat_toNat
  unfold quoteByte
  split
  · rename_i unreserved
    rcases unreserved_char unreserved with ⟨isLetter, code⟩
    have notEscape : Char.ofNat byte.toNat ≠ '%' := by
      intro isEscape
      rw [isEscape] at isLetter
      exact absurd isLetter (by decide)
    rw [List.singleton_append, unquoteBytes_cons notEscape, code]
    rfl
  · have upper := hexDigit?_digitChar (byte.toNat / 16) (by omega)
    have lower := hexDigit?_digitChar (byte.toNat % 16) (by omega)
    have whole : 16 * (byte.toNat / 16) + byte.toNat % 16 = byte.toNat := by omega
    simp only [List.cons_append, List.nil_append, unquoteBytes, upper, lower, Option.bind_some,
      whole, same]

theorem unquoteBytes_flatMap (bytes : List UInt8) :
    unquoteBytes (bytes.flatMap quoteByte) = some bytes := by
  induction bytes with
  | nil => rfl
  | cons byte rest ih => rw [List.flatMap_cons, unquoteBytes_quoteByte, ih, Option.map_some]

/-- The bytes of an array, from its list. -/
theorem toList_eq_data (bytes : ByteArray) : bytes.toList = bytes.data.toList := by
  have loops : ∀ count index (front : List UInt8), bytes.size - index = count →
      ByteArray.toList.loop bytes index front = front.reverse ++ bytes.data.toList.drop index := by
    intro count
    induction count with
    | zero =>
        intro index front done
        unfold ByteArray.toList.loop
        have past : bytes.data.toList.length ≤ index := by
          have : bytes.data.toList.length = bytes.size := by simp
          omega
        rw [if_neg (by omega), List.drop_eq_nil_of_le past, List.append_nil]
    | succ count ih =>
        intro index front remaining
        unfold ByteArray.toList.loop
        have inside : index < bytes.data.toList.length := by
          have : bytes.data.toList.length = bytes.size := by simp
          omega
        rw [if_pos (by omega), ih (index + 1) _ (by omega), List.reverse_cons, List.append_assoc,
          List.drop_eq_getElem_cons inside]
        have isByte : bytes.get! index = bytes.data.toList[index] := by
          simp only [ByteArray.get!, Array.getElem_toList]
          exact getElem!_pos bytes.data index (by simpa using inside)
        rw [isByte]
        rfl
  exact loops _ 0 [] rfl

/-- Escaping loses nothing. -/
theorem unquote?_quote (text : String) : unquote? (quote text) = some text := by
  unfold unquote?
  rw [quote_eq, String.toList_ofList, unquoteBytes_flatMap, Option.bind_some, toList_eq_data,
    Array.toArray_toList]
  exact dif_pos text.isValidUTF8

/-- An escaped text has only unreserved letters and the escape. -/
theorem mem_quote {text : String} {letter : Char} (letterMem : letter ∈ (quote text).toList) :
    letter = '%' ∨ isUnreservedLetter letter = true := by
  rw [quote_eq, String.toList_ofList] at letterMem
  rcases List.mem_flatMap.mp letterMem with ⟨byte, _, inByte⟩
  have bound : byte.toNat < 256 := byte.toNat_lt
  unfold quoteByte at inByte
  split at inByte
  · rename_i unreserved
    rw [List.mem_singleton.mp inByte]
    exact .inr (unreserved_char unreserved).1
  · simp only [List.mem_cons, List.not_mem_nil, or_false] at inByte
    rcases inByte with isEscape | rfl | rfl
    · exact .inl isEscape
    · exact .inr (escaped_char (byte.toNat / 16) (by omega))
    · exact .inr (escaped_char (byte.toNat % 16) (by omega))

end PyString
