import DeviceOrchestrator.Core.Intake
import DeviceOrchestrator.Lib.Binary64

/-!
# A specification with its parameters

`Core.Intake` checks the parameters and drops them, as nothing reads them. Here they are kept and
written back by `to_dict`. `dict(...)` makes a dict of a list of pairs as well, whose keys have any
hashable type, so what `to_dict` answers is JSON except for its parameters.
-/
namespace DeviceOrchestrator

/-- `_new_task_id`, with the digits it drew. -/
def newTaskId (hex : String) : TaskId := "task-" ++ hex

/-- The number that a key is equal to. -/
def Json.number? : Json → Option Rat
  | bool value => some (if value then 1 else 0)
  | int value => some value
  | float value => Binary64.number? value
  | _ => none

/-- Whether two hashable values are one key of a dict; `json.loads` hands out one NaN. -/
def Json.sameKey : Json → Json → Bool
  | null, null => true
  | str text, str other => text == other
  | float value, float other => value == other || (value.isNaN && other.isNaN)
  | value, other =>
    match value.number?, other.number? with
    | some number, some same => number == same
    | _, _ => false

/-- A `dict` with hashable keys. -/
abbrev PyDict := List (Json × Json)

/-- `entries[key] = value`; a key that is there stays as it is. -/
def PyDict.set : PyDict → Json → Json → PyDict
  | [], key, value => [(key, value)]
  | (other, old) :: rest, key, value =>
    if other.sameKey key then (other, value) :: rest else (other, old) :: PyDict.set rest key value

/-- The entry that `dict(items)` makes of one item. -/
def PyDict.setPair (entries : PyDict) (item : Json) : Except PyError PyDict :=
  match item.iterated with
  | .error error => .error error
  | .ok [key, value] => if key.hashable then .ok (entries.set key value) else .error .typeError
  | .ok _ => .error .valueError

/-- What stands under `params`: JSON, or a dict that `dict(...)` made. -/
inductive PyValue
  /-- A value of a client. -/
  | json (value : Json)
  /-- A dict. -/
  | dict (entries : PyDict)

namespace PyValue

/-- `value or {}`. -/
def orEmpty : PyValue → PyValue
  | json value => json (value.orDefault (.obj []))
  | dict entries => if entries.isEmpty then json (.obj []) else dict entries

/-- `dict(value)`. -/
def toDict : PyValue → Except PyError PyDict
  | dict entries => .ok entries
  | json (.obj fields) => .ok (fields.map fun field => (.str field.1, field.2))
  | json value => do
    let items ← value.iterated
    items.foldlM PyDict.setPair []

end PyValue

/-- What `TaskSpec.from_dict` is given. -/
structure RawTask where
  /-- Everything but the parameters. -/
  fields : Fields
  /-- `raw.get("params")`. -/
  params : PyValue

/-- The JSON object of a client. -/
def RawTask.ofJson (raw : Fields) : RawTask := ⟨raw, .json (raw.get "params")⟩

/-- `TaskSpec` with its parameters. -/
structure SentSpec extends TaskSpec where
  /-- The parameters. -/
  params : PyDict

/-- `DeviceSelector.to_dict`. -/
def DeviceSelector.toDict (selector : DeviceSelector) : Fields :=
  [("transports", .arr selector.transports), ("tags", .arr selector.tags),
    ("device_id", selector.deviceId)]

namespace SentSpec

/-- `TaskSpec.from_dict`. -/
def fromDict (python : Python) (minted : TaskId) (raw : RawTask) : Except Raised SentSpec :=
  if (raw.fields.get "kind").truthy then
    match (raw.fields.get "steps").orDefault (.arr []) with
    | .arr steps => do
      let id := raw.fields.get "id"
      let selector ← DeviceSelector.fromDict (raw.fields.get "selector")
      let timeoutS ← escaping (raw.fields.getD "timeout_s" (.float 120.0)).toFloat
      let maxAttempts ← escaping (raw.fields.getD "max_attempts" (.int 3)).toInt
      let params ← escaping raw.params.orEmpty.toDict
      .ok { kind := (raw.fields.get "kind").text python, steps := steps
            id := if id.truthy then id.text python else minted
            selector := selector, timeoutS := timeoutS, maxAttempts := maxAttempts
            params := params }
    | _ => .error (.fatal "task.steps must be a list")
  else .error (.fatal "task.kind is required")

/-- `TaskSpec.to_dict`. -/
def toDict (spec : SentSpec) : RawTask where
  fields := [("id", .str spec.id), ("kind", .str spec.kind), ("steps", .arr spec.steps),
    ("selector", .obj spec.selector.toDict), ("timeout_s", .float spec.timeoutS),
    ("max_attempts", .int spec.maxAttempts)]
  params := .dict spec.params

end SentSpec

end DeviceOrchestrator
