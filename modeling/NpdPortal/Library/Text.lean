import Mathlib.Algebra.Ring.Int.Defs
import Mathlib.Data.Int.Notation
import Mathlib.Data.List.Basic
import Mathlib.Data.Nat.Notation

/-!
# String operations of Python and SQL

The operations are defined on the character lists of the strings, as the
Python documentation of `str` and the SQL standard describe them.  SQL
conditions are three-valued: `none` is the unknown truth value which a
comparison with NULL yields.  A column takes only the values of its type.
-/

namespace PyString

/-- `text.startswith(head)`. -/
def startswith (text head : String) : Bool := head.toList.isPrefixOf text.toList

/-- `text.endswith(tail)`. -/
def endswith (text tail : String) : Bool := tail.toList.isSuffixOf text.toList

/-- `text.removeprefix(head)`. -/
def removeprefix (text head : String) : String :=
  if startswith text head then String.ofList (text.toList.drop head.toList.length) else text

/-- Replace the first occurrence of `old`. -/
def replaceFirst (old new : List Char) : List Char → List Char
  | [] => if old = [] then new else []
  | head :: tail =>
      if old.isPrefixOf (head :: tail) then new ++ (head :: tail).drop old.length
      else head :: replaceFirst old new tail

/-- `text.replace(old, new, 1)`. -/
def replace1 (text old new : String) : String :=
  String.ofList (replaceFirst old.toList new.toList text.toList)

/-- `letter.isspace()`. -/
def isWhitespace (letter : Char) : Bool :=
  let code := letter.toNat
  (9 ≤ code && code ≤ 13) || (28 ≤ code && code ≤ 32) || (0x2000 ≤ code && code ≤ 0x200a) ||
    [0x85, 0xa0, 0x1680, 0x2028, 0x2029, 0x202f, 0x205f, 0x3000].contains code

/-- `text.strip()`. -/
def strip (text : String) : String :=
  String.ofList ((text.toList.dropWhile isWhitespace).reverse.dropWhile isWhitespace).reverse

end PyString

namespace Sql

/-- The values of an `INTEGER` column. -/
def FitsInteger (value : ℤ) : Prop := -2 ^ 31 ≤ value ∧ value < 2 ^ 31

instance (value : ℤ) : Decidable (FitsInteger value) :=
  inferInstanceAs (Decidable (_ ∧ _))

/-- The texts of a `VARCHAR` column without a length; a NUL cannot be stored. -/
def FitsText (text : String) : Prop := Char.ofNat 0 ∉ text.toList

instance (text : String) : Decidable (FitsText text) :=
  inferInstanceAs (Decidable (¬_ ∈ text.toList))

/-- The texts of a `VARCHAR(width)` column. -/
def FitsVarchar (width : ℕ) (text : String) : Prop := FitsText text ∧ text.length ≤ width

instance (width : ℕ) (text : String) : Decidable (FitsVarchar width text) :=
  inferInstanceAs (Decidable (_ ∧ _))

/-- A truth value of SQL; `none` is unknown. -/
abbrev Truth := Option Bool

/-- A row is selected only when its condition is true. -/
def Truth.selects (condition : Truth) : Bool := condition == some true

/-- `NOT`. -/
def not (condition : Truth) : Truth := condition.map (!·)

/-- `AND`: false decides, unknown spreads otherwise. -/
def and : Truth → Truth → Truth
  | some false, _ => some false
  | _, some false => some false
  | some true, some true => some true
  | _, _ => none

/-- `OR`: true decides, unknown spreads otherwise. -/
def or : Truth → Truth → Truth
  | some true, _ => some true
  | _, some true => some true
  | some false, some false => some false
  | _, _ => none

/-- Pattern matching of `LIKE`: `%` matches any text and `_` any one character. -/
def likeChars : List Char → List Char → Bool
  | [], text => text.isEmpty
  | '%' :: pattern, text => text.tails.any (likeChars pattern)
  | '_' :: pattern, text =>
      match text with
      | [] => false
      | _ :: rest => likeChars pattern rest
  | letter :: pattern, text =>
      match text with
      | [] => false
      | first :: rest => first == letter && likeChars pattern rest

/-- `column LIKE pattern`; unknown when the column is NULL. -/
def like (column : Option String) (pattern : String) : Truth :=
  column.map fun text => likeChars pattern.toList text.toList

@[simp]
theorem or_true_left (condition : Truth) : or (some true) condition = some true := by
  cases condition with
  | none => rfl
  | some value => cases value <;> rfl

@[simp]
theorem or_true_right (condition : Truth) : or condition (some true) = some true := by
  cases condition with
  | none => rfl
  | some value => cases value <;> rfl

@[simp]
theorem and_true_left (condition : Truth) : and (some true) condition = condition := by
  cases condition with
  | none => rfl
  | some value => cases value <;> rfl

@[simp]
theorem and_true_right (condition : Truth) : and condition (some true) = condition := by
  cases condition with
  | none => rfl
  | some value => cases value <;> rfl

@[simp]
theorem and_false_left (condition : Truth) : and (some false) condition = some false := by
  cases condition with
  | none => rfl
  | some value => cases value <;> rfl

@[simp]
theorem and_false_right (condition : Truth) : and condition (some false) = some false := by
  cases condition with
  | none => rfl
  | some value => cases value <;> rfl

/-- The rows a disjunction selects. -/
theorem selects_or (first second : Truth) :
    (or first second).selects = (first.selects || second.selects) := by
  cases first with
  | none => cases second with
    | none => rfl
    | some value => cases value <;> rfl
  | some left => cases second with
    | none => cases left <;> rfl
    | some value => cases left <;> cases value <;> rfl

/-- The rows a conjunction selects. -/
theorem selects_and (first second : Truth) :
    (and first second).selects = (first.selects && second.selects) := by
  cases first with
  | none => cases second with
    | none => rfl
    | some value => cases value <;> rfl
  | some left => cases second with
    | none => cases left <;> rfl
    | some value => cases left <;> cases value <;> rfl

end Sql
