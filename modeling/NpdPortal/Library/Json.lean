import Mathlib.Data.Int.Notation
import Mathlib.Data.Rat.Defs

/-!
# JSON values as Python sees them

What `response.json()` returns, with the comparisons and the type tests of
Python: a `bool` is an `int`, and a float equals the integer it represents.
-/

/-- A value of a JSON document. -/
inductive PyJson where
  | null
  | bool (value : Bool)
  | int (value : ℤ)
  /-- A float; `none` when it is infinite or not a number. -/
  | float (value : Option ℚ)
  | str (text : String)
  | list (items : List PyJson)
  | dict (fields : List (String × PyJson))

namespace PyJson

/-- The fields of a `dict`. -/
abbrev Fields := List (String × PyJson)

/-- `fields.get(key)`. -/
def Fields.get (fields : Fields) (key : String) : PyJson := (List.lookup key fields).getD .null

/-- `value is None`. -/
def isNone : PyJson → Bool
  | null => true
  | _ => false

/-- `value == text`. -/
def equalsText : PyJson → String → Bool
  | str own, text => own = text
  | _, _ => false

/-- The integer of a value with `isinstance(value, int)`. -/
def int? : PyJson → Option ℤ
  | int value => some value
  | bool value => some (if value then 1 else 0)
  | _ => none

/-- `value == number`. -/
def equalsInt : PyJson → ℤ → Bool
  | int value, number => value = number
  | bool value, number => (if value then 1 else 0) = number
  | float value, number => value = some (number : ℚ)
  | _, _ => false

/-- The fields of a value with `isinstance(value, dict)`. -/
def dict? : PyJson → Option Fields
  | dict fields => some fields
  | _ => none

/-- The items of a value with `isinstance(value, list)`. -/
def list? : PyJson → Option (List PyJson)
  | list items => some items
  | _ => none

end PyJson
