import Mathlib.Algebra.GroupWithZero.Nat
import Mathlib.Algebra.Ring.Int.Defs
import Mathlib.Data.Int.Notation
import Mathlib.Data.Nat.Notation
import Mathlib.Data.List.Basic

/-!
# Numbers and UUIDs as text

How Python prints a UUID, quotes a text for a URL and reads an integer.
-/

namespace PyString

/-- The characters `urllib.parse.quote(text, safe="")` keeps. -/
def isUnreserved (byte : UInt8) : Bool :=
  let letter := Char.ofNat byte.toNat
  byte.toNat < 128 && (letter.isAlphanum || "_.-~".toList.contains letter)

/-- `urllib.parse.quote(text, safe="")`: the other bytes of the UTF-8 text are escaped. -/
def quote (text : String) : String :=
  String.ofList (text.toUTF8.toList.flatMap fun byte =>
    if isUnreserved byte then [Char.ofNat byte.toNat]
    else ['%', (Nat.digitChar (byte.toNat / 16)).toUpper,
      (Nat.digitChar (byte.toNat % 16)).toUpper])

/-- The ASCII characters `int` strips from both ends of its text. -/
def isSpace (letter : Char) : Bool :=
  let code := letter.toNat
  (9 ≤ code && code ≤ 13) || code = 32

/-- The code points of the zeros of Unicode; the other digits of a script follow its zero. -/
def decimalZeros : List ℕ :=
  [0x30, 0x0660, 0x06F0, 0x07C0, 0x0966, 0x09E6, 0x0A66, 0x0AE6, 0x0B66, 0x0BE6, 0x0C66, 0x0CE6,
    0x0D66, 0x0DE6, 0x0E50, 0x0ED0, 0x0F20, 0x1040, 0x1090, 0x17E0, 0x1810, 0x1946, 0x19D0,
    0x1A80, 0x1A90, 0x1B50, 0x1BB0, 0x1C40, 0x1C50, 0xA620, 0xA8D0, 0xA900, 0xA9D0, 0xA9F0,
    0xAA50, 0xABF0, 0xFF10, 0x104A0, 0x10D30, 0x10D40, 0x11066, 0x110F0, 0x11136, 0x111D0,
    0x112F0, 0x11450, 0x114D0, 0x11650, 0x116C0, 0x116D0, 0x116DA, 0x11730, 0x118E0, 0x11950,
    0x11BF0, 0x11C50, 0x11D50, 0x11DA0, 0x11F50, 0x16130, 0x16A60, 0x16AC0, 0x16B50, 0x16D70,
    0x1CCF0, 0x1D7CE, 0x1D7D8, 0x1D7E2, 0x1D7EC, 0x1D7F6, 0x1E140, 0x1E2F0, 0x1E4F0, 0x1E5F1,
    0x1E950, 0x1FBF0]

/-- The value of a decimal digit of any script. -/
def decimal? (letter : Char) : Option ℕ :=
  let code := letter.toNat
  (decimalZeros.find? fun start => start ≤ code && code ≤ start + 9).map fun start => code - start

/-- White space outside ASCII. -/
def isWideSpace (letter : Char) : Bool :=
  let code := letter.toNat
  (0x2000 ≤ code && code ≤ 0x200A) ||
    [0x85, 0xA0, 0x1680, 0x2028, 0x2029, 0x202F, 0x205F, 0x3000].contains code

/-- What `int` reads for a character: digits and white space of other scripts are turned into
those of ASCII. -/
def asciiLetter (letter : Char) : Char :=
  if letter.toNat < 127 then letter
  else if isWideSpace letter then ' '
  else match decimal? letter with
    | some digit => Nat.digitChar digit
    | none => '?'

/-- The value of digits which single underscores may separate. -/
def digitsValue : ℕ → List Char → Option ℕ
  | value, [] => some value
  | value, [digit] => if digit.isDigit then some (10 * value + (digit.toNat - 48)) else none
  | value, digit :: '_' :: rest =>
      if digit.isDigit && rest ≠ [] then digitsValue (10 * value + (digit.toNat - 48)) rest
      else none
  | value, digit :: rest =>
      if digit.isDigit then digitsValue (10 * value + (digit.toNat - 48)) rest else none

/-- The value of a text of at least one digit. -/
def natural? (digits : List Char) : Option ℕ :=
  if digits = [] then none else digitsValue 0 digits

/-- `int(text)`; `none` when it raises `ValueError`. -/
def int? (text : String) : Option ℤ :=
  match (((text.toList.map asciiLetter).dropWhile isSpace).reverse.dropWhile isSpace).reverse with
  | '-' :: digits => (natural? digits).map fun value => -(value : ℤ)
  | '+' :: digits => (natural? digits).map Int.ofNat
  | digits => (natural? digits).map Int.ofNat

/-- The value of a hexadecimal digit. -/
def hexDigit? (letter : Char) : Option ℕ :=
  if letter.isDigit then some (letter.toNat - 48)
  else if 'a' ≤ letter ∧ letter ≤ 'f' then some (letter.toNat - 87)
  else if 'A' ≤ letter ∧ letter ≤ 'F' then some (letter.toNat - 55)
  else none

/-- The value of hexadecimal digits which single underscores may separate. -/
def hexValue : ℕ → List Char → Option ℕ
  | value, [] => some value
  | value, digit :: '_' :: rest =>
      if rest = [] then none
      else (hexDigit? digit).bind fun place => hexValue (16 * value + place) rest
  | value, digit :: rest => (hexDigit? digit).bind fun place => hexValue (16 * value + place) rest

/-- The value of a text of at least one hexadecimal digit, which `0x` may precede. -/
def hexNatural? (letters : List Char) : Option ℕ :=
  let digits := match letters with
    | '0' :: mark :: rest =>
        if mark = 'x' ∨ mark = 'X' then (if rest.head? = some '_' then rest.tail else rest)
        else letters
    | _ => letters
  if digits = [] then none else hexValue 0 digits

/-- `int(text, 16)` of an ASCII text; `none` when it raises `ValueError`. -/
def hexInt? (letters : List Char) : Option ℤ :=
  match ((letters.dropWhile isSpace).reverse.dropWhile isSpace).reverse with
  | '-' :: digits => (hexNatural? digits).map fun value => -(value : ℤ)
  | '+' :: digits => (hexNatural? digits).map Int.ofNat
  | digits => (hexNatural? digits).map Int.ofNat

/-! ### UUIDs -/

/-- The lower `width` hexadecimal digits. -/
def hexDigits : ℕ → ℕ → List Char
  | 0, _ => []
  | width + 1, value => hexDigits width (value / 16) ++ [Nat.digitChar (value % 16)]

/-- The five groups of the digits of a UUID. -/
def hyphenated (digits : List Char) : List Char :=
  digits.take 8 ++ '-' :: ((digits.drop 8).take 4 ++ '-' :: ((digits.drop 12).take 4 ++
    '-' :: ((digits.drop 16).take 4 ++ '-' :: digits.drop 20)))

/-- `str(uuid)` of the UUID with this integer value. -/
def uuidText (id : BitVec 128) : String := String.ofList (hyphenated (hexDigits 32 id.toNat))

/-- `letter in "{}"`. -/
def isBrace (letter : Char) : Bool := letter = '\x7b' || letter = '\x7d'

/-- `UUID(text)` of an ASCII text without colons; `none` when it raises `ValueError`. -/
def uuid? (text : String) : Option (BitVec 128) :=
  let letters := (((text.toList.dropWhile isBrace).reverse.dropWhile isBrace).reverse).filter
    (· ≠ '-')
  if letters.length = 32 then
    (hexInt? letters).bind fun value =>
      if 0 ≤ value ∧ value < 2 ^ 128 then some (BitVec.ofInt 128 value) else none
  else none

theorem digitChar_injective : ∀ first < 16, ∀ second < 16,
    Nat.digitChar first = Nat.digitChar second → first = second := by
  decide

theorem digitChar_ne_hyphen : ∀ digit < 16, Nat.digitChar digit ≠ '-' := by
  decide

theorem exists_digit_of_mem_hexDigits {width value : ℕ} {letter : Char}
    (letterMem : letter ∈ hexDigits width value) : ∃ digit < 16, letter = Nat.digitChar digit := by
  induction width generalizing value with
  | zero => cases letterMem
  | succ width ih =>
      simp only [hexDigits, List.mem_append, List.mem_singleton] at letterMem
      rcases letterMem with inFront | rfl
      · exact ih inFront
      · exact ⟨_, Nat.mod_lt _ (by decide), rfl⟩

theorem mem_hexDigits {width value : ℕ} {letter : Char}
    (letterMem : letter ∈ hexDigits width value) : letter ≠ '-' := by
  rcases exists_digit_of_mem_hexDigits letterMem with ⟨digit, isDigit, rfl⟩
  exact digitChar_ne_hyphen digit isDigit

theorem length_hexDigits (width value : ℕ) : (hexDigits width value).length = width := by
  induction width generalizing value with
  | zero => rfl
  | succ width ih => rw [hexDigits, List.length_append, ih, List.length_singleton]

theorem hexDigits_injective {width first second : ℕ} (isFirst : first < 16 ^ width)
    (isSecond : second < 16 ^ width) (same : hexDigits width first = hexDigits width second) :
    first = second := by
  induction width generalizing first second with
  | zero => simp at isFirst isSecond; omega
  | succ width ih =>
      simp only [hexDigits] at same
      rcases List.append_inj' same rfl with ⟨front, last⟩
      have lastDigit := digitChar_injective _ (Nat.mod_lt first (by decide)) _
        (Nat.mod_lt second (by decide)) (List.singleton_inj.mp last)
      have upper := ih (by omega) (by omega) front
      omega

/-- The groups without the hyphens between them. -/
theorem filter_hyphenated {digits : List Char} (plain : ∀ letter ∈ digits, letter ≠ '-') :
    (hyphenated digits).filter (· ≠ '-') = digits := by
  have kept : ∀ group : List Char, group.Sublist digits → group.filter (· ≠ '-') = group := by
    intro group within
    rw [List.filter_eq_self]
    intro letter letterMem
    simpa using plain letter (within.subset letterMem)
  have middle : ∀ start count, ((digits.drop start).take count).filter (· ≠ '-') =
      (digits.drop start).take count := fun start count =>
    kept _ ((List.take_sublist _ _).trans (List.drop_sublist _ _))
  have hyphen : ∀ rest : List Char, ('-' :: rest).filter (· ≠ '-') = rest.filter (· ≠ '-') :=
    fun rest => by simp
  have joined : ∀ start count, (digits.drop start).take count ++ digits.drop (start + count) =
      digits.drop start := by
    intro start count
    rw [← List.drop_drop, List.take_append_drop]
  unfold hyphenated
  rw [List.filter_append, hyphen, List.filter_append, hyphen, List.filter_append, hyphen,
    List.filter_append, hyphen, middle, middle, middle, kept _ (List.take_sublist _ _),
    kept _ (List.drop_sublist _ _), joined 16 4, joined 12 4, joined 8 4, List.take_append_drop]

theorem length_hyphenated {digits : List Char} (complete : digits.length = 32) :
    (hyphenated digits).length = 36 := by
  simp [hyphenated, complete]

theorem length_uuidText (id : BitVec 128) : (uuidText id).length = 36 := by
  rw [uuidText, String.length_ofList, length_hyphenated (length_hexDigits 32 id.toNat)]

/-- A UUID is written with hyphens and hexadecimal digits. -/
theorem mem_uuidText {id : BitVec 128} {letter : Char} (letterMem : letter ∈ (uuidText id).toList) :
    letter = '-' ∨ ∃ digit < 16, letter = Nat.digitChar digit := by
  by_cases isHyphen : letter = '-'
  · exact .inl isHyphen
  · have inGroups : letter ∈ (hyphenated (hexDigits 32 id.toNat)).filter (· ≠ '-') := by
      simpa [uuidText, isHyphen] using letterMem
    rw [filter_hyphenated fun _ => mem_hexDigits] at inGroups
    exact .inr (exists_digit_of_mem_hexDigits inGroups)

/-- Different UUIDs have different texts. -/
theorem uuidText_injective : Function.Injective uuidText := by
  intro first second same
  have digits : hexDigits 32 first.toNat = hexDigits 32 second.toNat := by
    have groups : hyphenated (hexDigits 32 first.toNat) =
        hyphenated (hexDigits 32 second.toNat) := String.ofList_injective same
    have plain : ∀ value, (hyphenated (hexDigits 32 value)).filter (· ≠ '-') =
        hexDigits 32 value := fun value => filter_hyphenated fun _ => mem_hexDigits
    rw [← plain first.toNat, groups, plain]
  have bound : (2 : ℕ) ^ 128 = 16 ^ 32 := by decide
  exact BitVec.eq_of_toNat_eq
    (hexDigits_injective (bound ▸ first.isLt) (bound ▸ second.isLt) digits)

end PyString
