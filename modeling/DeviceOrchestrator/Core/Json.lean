import Mathlib.Data.List.Basic

/-!
# Values read from JSON

A task specification crosses the API as JSON and most of its parts are never converted: steps,
selector fields and parameters keep whatever type the client sent. `Json` is that value, with
Python's notions of truth and hashability, and `PyError` names the exceptions of the language
that a badly typed value can raise. Floats are binary64 words, as in Python.
-/
namespace DeviceOrchestrator

/-- Exceptions of the language and of its library. -/
inductive PyError
  | attributeError
  | httpException
  | keyError
  | osError
  | overflowError
  | recursionError
  | typeError
  | valueError
  deriving DecidableEq, Repr

/-- A value as `json.loads` returns it; the keys of an object are distinct. -/
inductive Json
  | null
  | bool (value : Bool)
  | int (value : Int)
  | float (value : Float)
  | str (value : String)
  | arr (items : List Json)
  | obj (fields : List (String × Json))

namespace Json

/-- `bool(value)`: zero, the empty string and empty containers are false, NaN is true. -/
def truthy : Json → Bool
  | null => false
  | bool value => value
  | int value => value != 0
  | float value => !(value == Float.ofBits 0)
  | str value => value != ""
  | arr items => !items.isEmpty
  | obj fields => !fields.isEmpty

/-- Whether `hash(value)` is defined: lists and dicts are unhashable. -/
def hashable : Json → Bool
  | arr _ => false
  | obj _ => false
  | _ => true

/-- `value == text` for a string: only the same string is equal to it. -/
def isText (value : Json) (text : String) : Bool :=
  match value with
  | str found => found == text
  | _ => false

/-- The text of a string is that string. -/
@[simp]
theorem isText_str (found text : String) : (str found).isText text = (found == text) := rfl

end Json

end DeviceOrchestrator
