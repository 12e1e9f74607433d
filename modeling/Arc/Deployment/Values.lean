/-
The values of exported rows.

A value of a row is an object of the interpreter: what JSON has itself, a member of an
enumeration, an identifier, an instant, or a collection of these.  Identifiers, instants
and their texts are the interpreter's; so are floats, which stand as literals.
-/
import Arc.Domain.Value
import Arc.Text.PyWrite

namespace Arc

open Text

/-- What the bundle takes from the interpreter it runs in. -/
class Interpreter extends Recursion where
  /-- `repr` of the float a literal stands for. -/
  floatRepr : Str → Str
  /-- It is ASCII text. -/
  floatRepr_printable : ∀ literal, ∀ c ∈ floatRepr literal, PyJson.isPrintable c = true
  /-- Whether the float a literal stands for equals an integer. -/
  floatIs : Str → Int → Bool
  /-- SHA-256 of bytes, as hexadecimal text. -/
  sha256 : List UInt8 → String
  UUID : Type
  decEqUUID : DecidableEq UUID
  /-- `str` of an identifier, and its `hex`. -/
  uuidText : UUID → String
  uuidHex : UUID → String
  /-- `UUID(text)`; nothing where it is badly formed. -/
  parseUUID : Str → Option UUID
  /-- Instants with their time zone. -/
  DateTime : Type
  /-- `str` of an instant. -/
  dateTimeText : DateTime → String
  /-- `datetime.fromisoformat(text)`; nothing where it is badly formed. -/
  parseDateTime : Str → Option DateTime

export Interpreter (UUID DateTime)

instance [Interpreter] : DecidableEq UUID := Interpreter.decEqUUID

variable [Interpreter]

/-- A value of a row; `enum` is a member of an enumeration, by its value. -/
inductive PyObject
  | none
  | bool (b : Bool)
  | int (n : Int)
  | float (literal : Str)
  | str (s : Str)
  | enum (value : String)
  | uuid (id : UUID)
  | dateTime (instant : DateTime)
  | list (items : List PyObject)
  | mapping (fields : List (Str × PyObject))

namespace PyObject

mutual

/-- What a JSON value is as an object. -/
def ofJson : PyJson → PyObject
  | .none => none
  | .bool b => bool b
  | .int n => int n
  | .float literal => float literal
  | .str s => str s
  | .list items => list (ofJsonItems items)
  | .dict fields => mapping (ofJsonFields fields)

def ofJsonItems : List PyJson → List PyObject
  | [] => []
  | item :: items => ofJson item :: ofJsonItems items

def ofJsonFields : List (Str × PyJson) → List (Str × PyObject)
  | [] => []
  | (key, value) :: fields => (key, ofJson value) :: ofJsonFields fields

end

/-- A text of the program. -/
def text (s : String) : PyObject := str (Str.ofString s)

def isNone : PyObject → Bool
  | none => true
  | _ => false

end PyObject

end Arc
