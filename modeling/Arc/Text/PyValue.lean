/-
Python's operations on the values that JSON gives.

Such a value has no declared type, so an operation raises where the value is not of a
type it applies to.  `isinstance` is a test on the constructor; a truth value is also an
integer.  Of the floats only their order is taken, as the comparison of two literals.
-/
import Arc.Text.PyJson

namespace Text

/-- The exceptions that Python's own operations raise. -/
inductive PyException
  | attributeError
  | typeError
  | keyError
  | valueError
  | jsonDecodeError
  | unicodeDecodeError
  | unicodeEncodeError
  deriving DecidableEq, Repr

/-- `isinstance(error, ValueError)` -/
def PyException.isValueError : PyException → Bool
  | attributeError | typeError | keyError => false
  | valueError | jsonDecodeError | unicodeDecodeError | unicodeEncodeError => true

/-- How Python orders the floats that two literals stand for. -/
class FloatOrder where
  le : Str → Str → Bool

namespace PyJson

def isNone : PyJson → Bool
  | none => true
  | _ => false

def isStr : PyJson → Bool
  | str _ => true
  | _ => false

def isList : PyJson → Bool
  | list _ => true
  | _ => false

def isDict : PyJson → Bool
  | dict _ => true
  | _ => false

def isBool : PyJson → Bool
  | bool _ => true
  | _ => false

def isInt : PyJson → Bool
  | int _ | bool _ => true
  | _ => false

/-- `value == text` -/
def isText (value : PyJson) (text : String) : Bool :=
  match value with
  | str s => s == Str.ofString text
  | _ => false

/-- `value.get(key)` -/
def get (value : PyJson) (key : String) : Except PyException PyJson :=
  match value with
  | dict fields => .ok ((fields.lookup (Str.ofString key)).getD none)
  | _ => .error .attributeError

/-- `len(value)` -/
def len : PyJson → Except PyException Nat
  | str s => .ok s.length
  | list items => .ok items.length
  | dict fields => .ok fields.length
  | _ => .error .typeError

/-- `iter(value)`, read to the end. -/
def iter : PyJson → Except PyException (List PyJson)
  | list items => .ok items
  | dict fields => .ok (fields.map fun field => str field.1)
  | str s => .ok (s.map fun c => str [c])
  | _ => .error .typeError

section

variable [FloatOrder]

/-- `bool(value)` -/
def truthy : PyJson → Bool
  | none => false
  | bool b => b
  | int n => n != 0
  | float literal => !(FloatOrder.le literal (Str.ofString "0.0") &&
      FloatOrder.le (Str.ofString "0.0") literal)
  | str s => !s.isEmpty
  | list items => !items.isEmpty
  | dict fields => !fields.isEmpty

/-- `value < 0` -/
def isNegative : PyJson → Except PyException Bool
  | bool _ => .ok false
  | int n => .ok (decide (n < 0))
  | float literal => .ok (FloatOrder.le literal (Str.ofString "0.0") &&
      !FloatOrder.le (Str.ofString "0.0") literal)
  | _ => .error .typeError

end

/-! ### Values of a known type -/

variable {value : PyJson}

theorem isStr_iff : value.isStr = true ↔ ∃ s, value = str s := by
  cases value <;> simp [isStr]

theorem isList_iff : value.isList = true ↔ ∃ items, value = list items := by
  cases value <;> simp [isList]

theorem isDict_iff : value.isDict = true ↔ ∃ fields, value = dict fields := by
  cases value <;> simp [isDict]

theorem isText_iff {text : String} : value.isText text = true ↔ value = str (Str.ofString text) := by
  cases value <;> simp [isText]

/-- The field of a dictionary, `None` where there is none. -/
def field (fields : List (Str × PyJson)) (key : String) : PyJson :=
  (fields.lookup (Str.ofString key)).getD none

@[simp] theorem get_dict {fields : List (Str × PyJson)} {key : String} :
    (dict fields).get key = .ok (field fields key) := rfl

@[simp] theorem iter_list {items : List PyJson} : (list items).iter = .ok items := rfl

end PyJson

end Text
