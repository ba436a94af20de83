import DeviceOrchestrator.Core.Auth
import DeviceOrchestrator.Core.Intake

/-!
# Reading what a client may send

`Core.Intake` reads the JSON of a client whose strings are texts of Unicode. JSON can also write half
of a surrogate pair (`"\ud800"`), which `json.loads` keeps as a lone surrogate. Here
`TaskSpec.from_dict` reads any JSON. A numeral has no surrogate, and `repr` escapes them, so a kind
and an id hold one only if they are strings.
-/
namespace DeviceOrchestrator

/-- `repr` of every string, which is a text of the source for a text of the source. -/
structure Interpreter extends Python where
  /-- `repr` of a string; what cannot be printed is escaped. -/
  quote : PyText → String
  /-- It is the `repr` of `Core.Target`. -/
  quote_ofString : ∀ text, quote (PyText.ofString text) = showText text

/-- A value as `json.loads` returns it; the keys of an object are distinct. -/
inductive PyJson
  | null
  | bool (value : Bool)
  | int (value : Int)
  | float (value : Float)
  | str (value : PyText)
  | arr (items : List PyJson)
  | obj (fields : List (PyText × PyJson))

/-- The items of a dict. -/
abbrev PyFields := List (PyText × PyJson)

namespace PyFields

/-- `fields.get(key)`. -/
def get (fields : PyFields) (key : String) : PyJson :=
  (fields.lookup (PyText.ofString key)).getD .null

/-- `fields.get(key, default)`. -/
def getD (fields : PyFields) (key : String) (default : PyJson) : PyJson :=
  (fields.lookup (PyText.ofString key)).getD default

end PyFields

namespace PyJson

/-- `bool(value)`. -/
def truthy : PyJson → Bool
  | null => false
  | bool value => value
  | int value => value != 0
  | float value => !(value == Float.ofBits 0)
  | str value => !value.isEmpty
  | arr items => !items.isEmpty
  | obj fields => !fields.isEmpty

/-- Whether `hash(value)` is defined: lists and dicts are unhashable. -/
def hashable : PyJson → Bool
  | arr _ => false
  | obj _ => false
  | _ => true

mutual

/-- `repr(value)`. -/
def repr (python : Interpreter) : PyJson → String
  | null => "None"
  | bool true => "True"
  | bool false => "False"
  | int value => toString value
  | float value => python.showFloat value
  | str text => python.quote text
  | arr items => "[" ++ reprItems python items ++ "]"
  | obj fields => "\x7b" ++ reprFields python fields ++ "\x7d"

/-- The items of a list. -/
def reprItems (python : Interpreter) : List PyJson → String
  | [] => ""
  | [item] => repr python item
  | item :: rest => repr python item ++ ", " ++ reprItems python rest

/-- The items of a dict. -/
def reprFields (python : Interpreter) : List (PyText × PyJson) → String
  | [] => ""
  | [(key, value)] => python.quote key ++ ": " ++ repr python value
  | (key, value) :: rest =>
    python.quote key ++ ": " ++ repr python value ++ ", " ++ reprFields python rest

end

/-- `str(value)`. -/
def text (python : Interpreter) : PyJson → PyText
  | str text => text
  | value => PyText.ofString (value.repr python)

/-- `float(value)`. -/
def toFloat : PyJson → Except PyError Float
  | null | arr _ | obj _ => .error .typeError
  | bool value => .ok (if value then 1 else 0)
  | int value =>
    let converted := Float.ofModel (Float.Model.ofInt value)
    if converted.isInf then .error .overflowError else .ok converted
  | float value => .ok value
  | str text => (text.string?.bind floatOfText).elim (.error .valueError) .ok

/-- `int(value)`. -/
def toInt : PyJson → Except PyError Int
  | null | arr _ | obj _ => .error .typeError
  | bool value => .ok (if value then 1 else 0)
  | int value => .ok value
  | float value => intOfFloat value
  | str text => (text.string?.bind intOfText).elim (.error .valueError) .ok

/-- The items that an iteration yields; only strings, lists and dicts can be iterated. -/
def iterated : PyJson → Except PyError (List PyJson)
  | str text => .ok (text.map fun point => str [point])
  | arr items => .ok items
  | obj fields => .ok (fields.map fun field => str field.1)
  | null | bool _ | int _ | float _ => .error .typeError

/-- Whether `dict(items)` accepts one item: a pair whose first part is hashable. -/
def pairs (item : PyJson) : Except PyError Unit :=
  match item.iterated with
  | .error error => .error error
  | .ok [key, _] => if key.hashable then .ok () else .error .typeError
  | .ok _ => .error .valueError

/-- Whether `dict(value)` is defined. -/
def dictable : PyJson → Except PyError Unit
  | obj _ => .ok ()
  | value => do
    let items ← value.iterated
    items.forM pairs

/-- `value or default`. -/
def orDefault (value default : PyJson) : PyJson := if value.truthy then value else default

/-- The fields of a selector; only a dict has `get`. -/
def fieldsOf : PyJson → Except Raised PyFields
  | obj fields => .ok fields
  | _ => .error (.builtin .attributeError)

end PyJson

/-- `DeviceSelector`. -/
structure PySelector where
  /-- Accepted transports. -/
  transports : List PyJson
  /-- Tags that must all be present on the device. -/
  tags : List PyJson
  /-- One device to pin the task to. -/
  deviceId : PyJson

/-- `DeviceSelector.from_dict`. -/
def PySelector.fromDict (raw : PyJson) : Except Raised PySelector := do
  let fields ← (raw.orDefault (.obj [])).fieldsOf
  let transports ← escaping (fields.getD "transports" (.arr [])).iterated
  let tags ← escaping (fields.getD "tags" (.arr [])).iterated
  .ok { transports := transports, tags := tags, deviceId := fields.get "device_id" }

/-- `TaskSpec`. -/
structure PySpec where
  /-- The target that interprets the steps. -/
  kind : PyText
  /-- The steps, uninterpreted. -/
  steps : List PyJson
  /-- The task's identifier. -/
  id : PyText
  /-- What the task needs from a device. -/
  selector : PySelector
  /-- The deadline of one attempt. -/
  timeoutS : Float
  /-- Attempts the task may use. -/
  maxAttempts : Int

/-- `TaskSpec.from_dict`; an id is minted for a specification without one. -/
def PySpec.fromDict (python : Interpreter) (minted : TaskId) (raw : PyFields) :
    Except Raised PySpec :=
  if (raw.get "kind").truthy then
    match (raw.get "steps").orDefault (.arr []) with
    | .arr steps => do
      let id := raw.get "id"
      let selector ← PySelector.fromDict (raw.get "selector")
      let timeoutS ← escaping (raw.getD "timeout_s" (.float 120.0)).toFloat
      let maxAttempts ← escaping (raw.getD "max_attempts" (.int 3)).toInt
      escaping ((raw.get "params").orDefault (.obj [])).dictable
      .ok { kind := (raw.get "kind").text python, steps := steps
            id := if id.truthy then id.text python else PyText.ofString minted
            selector := selector, timeoutS := timeoutS, maxAttempts := maxAttempts }
    | _ => .error (.fatal "task.steps must be a list")
  else .error (.fatal "task.kind is required")

/-! ## Texts of the source -/

mutual

/-- The JSON of `Core.Json`, whose strings have no lone surrogates. -/
def PyJson.ofJson : Json → PyJson
  | .null => .null
  | .bool value => .bool value
  | .int value => .int value
  | .float value => .float value
  | .str text => .str (PyText.ofString text)
  | .arr items => .arr (ofItems items)
  | .obj fields => .obj (ofFields fields)

/-- The items of a list. -/
def PyJson.ofItems : List Json → List PyJson
  | [] => []
  | item :: rest => ofJson item :: ofItems rest

/-- The items of a dict. -/
def PyJson.ofFields : Fields → PyFields
  | [] => []
  | (key, value) :: rest => (PyText.ofString key, ofJson value) :: ofFields rest

end

/-- A selector of such JSON. -/
def PySelector.ofSelector (selector : DeviceSelector) : PySelector where
  transports := PyJson.ofItems selector.transports
  tags := PyJson.ofItems selector.tags
  deviceId := PyJson.ofJson selector.deviceId

/-- A specification of such JSON. -/
def PySpec.ofTask (spec : TaskSpec) : PySpec where
  kind := PyText.ofString spec.kind
  steps := PyJson.ofItems spec.steps
  id := PyText.ofString spec.id
  selector := PySelector.ofSelector spec.selector
  timeoutS := spec.timeoutS
  maxAttempts := spec.maxAttempts

end DeviceOrchestrator
