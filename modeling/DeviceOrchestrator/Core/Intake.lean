import DeviceOrchestrator.Core.Target

/-!
# Reading a specification

`TaskSpec.from_dict` turns the JSON of a client into a specification. It checks the kind and that
the steps are a list; everything else is converted and raises whatever the conversion raises. The
parameters are converted as well, though nothing reads them.
-/
namespace DeviceOrchestrator

namespace Json

/-- The items that an iteration yields; only strings, lists and dicts can be iterated. -/
def iterated : Json → Except PyError (List Json)
  | str text => .ok (text.toList.map fun char => str (String.singleton char))
  | arr items => .ok items
  | obj fields => .ok (fields.map fun field => str field.1)
  | null | bool _ | int _ | float _ => .error .typeError

/-- Whether `dict(items)` accepts one item: a pair whose first part is hashable. -/
def pairs (item : Json) : Except PyError Unit :=
  match item.iterated with
  | .error error => .error error
  | .ok [key, _] => if key.hashable then .ok () else .error .typeError
  | .ok _ => .error .valueError

/-- Whether `dict(value)` is defined. -/
def dictable : Json → Except PyError Unit
  | obj _ => .ok ()
  | value => do
    let items ← value.iterated
    items.forM pairs

/-- `value or default`. -/
def orDefault (value default : Json) : Json := if value.truthy then value else default

end Json

/-- `DeviceSelector.from_dict`. -/
def DeviceSelector.fromDict (raw : Json) : Except Raised DeviceSelector := do
  let fields ← fieldsOf (raw.orDefault (.obj []))
  let transports ← escaping (fields.getD "transports" (.arr [])).iterated
  let tags ← escaping (fields.getD "tags" (.arr [])).iterated
  .ok { transports := transports, tags := tags, deviceId := fields.get "device_id" }

/-- `TaskSpec.from_dict`; an id is minted for a specification without one. -/
def TaskSpec.fromDict (python : Python) (minted : TaskId) (raw : Fields) :
    Except Raised TaskSpec :=
  if (raw.get "kind").truthy then
    match (raw.get "steps").orDefault (.arr []) with
    | .arr steps => do
      let id := raw.get "id"
      let selector ← DeviceSelector.fromDict (raw.get "selector")
      let timeoutS ← escaping (raw.getD "timeout_s" (.float 120.0)).toFloat
      let maxAttempts ← escaping (raw.getD "max_attempts" (.int 3)).toInt
      escaping ((raw.get "params").orDefault (.obj [])).dictable
      .ok { kind := (raw.get "kind").text python, steps := steps
            id := if id.truthy then id.text python else minted
            selector := selector, timeoutS := timeoutS, maxAttempts := maxAttempts }
    | _ => .error (.fatal "task.steps must be a list")
  else .error (.fatal "task.kind is required")

/-- A conversion that returned was followed by the rest. -/
theorem returned_then {ε α β : Type} {first : Except ε α} {rest : α → Except ε β} {value : β}
    (done : first >>= rest = .ok value) : ∃ found, first = .ok found ∧ rest found = .ok value := by
  cases first with
  | error raised => cases done
  | ok found => exact ⟨found, rfl, done⟩

/-- What a conversion returned it returned under the target's exceptions as well. -/
theorem escaping_eq_ok {α : Type} {answer : Except PyError α} {value : α} :
    escaping answer = .ok value ↔ answer = .ok value := by
  cases answer <;> simp [escaping]

/-- **What an accepted specification says.** It has a kind, its steps are the list that was sent,
and its attempts are what `int` makes of what was sent. -/
theorem TaskSpec.fromDict_ok {python : Python} {minted : TaskId} {raw : Fields} {spec : TaskSpec}
    (accepted : fromDict python minted raw = .ok spec) :
    (raw.get "kind").truthy = true ∧ spec.kind = (raw.get "kind").text python ∧
      (raw.get "steps").orDefault (.arr []) = .arr spec.steps ∧
      (raw.getD "max_attempts" (.int 3)).toInt = .ok spec.maxAttempts := by
  unfold fromDict at accepted
  split at accepted
  · rename_i named
    split at accepted
    · rename_i steps listed
      obtain ⟨selector, -, accepted⟩ := returned_then accepted
      obtain ⟨timeoutS, -, accepted⟩ := returned_then accepted
      obtain ⟨maxAttempts, allowed, accepted⟩ := returned_then accepted
      obtain ⟨-, -, accepted⟩ := returned_then accepted
      cases accepted
      exact ⟨named, rfl, listed, escaping_eq_ok.mp allowed⟩
    · cases accepted
  · cases accepted

/-- **Any number of attempts is accepted.** -/
theorem TaskSpec.fromDict_attempts (python : Python) (minted : TaskId) (maxAttempts : Int) :
    fromDict python minted [("kind", .str "android"), ("max_attempts", .int maxAttempts)] =
      .ok { kind := "android", id := minted, maxAttempts := maxAttempts } :=
  rfl

end DeviceOrchestrator
