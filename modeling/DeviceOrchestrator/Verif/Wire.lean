import DeviceOrchestrator.Core.Wire

/-!
# A specification survives serialisation

What `from_dict` returns are fixed points of its own conversions: a kind and an id that are not
empty, a list of steps, a selector that is an object, a float, an integer and a dict. So
`from_dict` reads what `to_dict` wrote as the same specification, and no default and no new id
comes in.
-/
namespace DeviceOrchestrator

/-! ## Texts that are not empty -/

/-- The digits of a number are not empty. -/
theorem repr_nat_ne_empty (value : Nat) : Nat.repr value ≠ "" := by
  intro empty
  have long := @Nat.length_repr_pos value
  rw [empty] at long
  exact absurd long (by decide)

/-- Neither is an integer. -/
theorem toString_int_ne_empty (value : Int) : toString value ≠ "" := by
  cases value with
  | ofNat value => exact repr_nat_ne_empty value
  | negSucc value =>
    show "-" ++ Nat.repr (value + 1) ≠ ""
    simp

/-- `str` of a true value is not empty. -/
theorem Json.text_ne_empty {python : Python} (shows : ∀ value, python.showFloat value ≠ "")
    {value : Json} (truthy : value.truthy = true) : value.text python ≠ "" := by
  cases value with
  | null => cases truthy
  | bool value =>
    cases value with
    | true =>
      show ("True" : String) ≠ ""
      decide
    | false => cases truthy
  | int value => exact toString_int_ne_empty value
  | float value => exact shows value
  | str text =>
    show text ≠ ""
    simpa [Json.truthy] using truthy
  | arr items =>
    show (Json.arr items).repr python ≠ ""
    unfold Json.repr
    simp
  | obj fields =>
    show (Json.obj fields).repr python ≠ ""
    unfold Json.repr
    simp

/-- An id that is drawn is not empty. -/
theorem newTaskId_ne_empty (hex : String) : newTaskId hex ≠ "" := by
  simp [newTaskId]

/-! ## Fixed points of the conversions -/

/-- A list is the list that was sent, or the empty one. -/
theorem orDefault_arr (steps : List Json) :
    (Json.arr steps).orDefault (.arr []) = .arr steps := by
  cases steps <;> rfl

/-- A text that is not empty is true. -/
theorem truthy_str {text : String} (nonempty : text ≠ "") : (Json.str text).truthy = true := by
  simp [Json.truthy, nonempty]

/-- A selector is read back. -/
theorem DeviceSelector.fromDict_toDict (selector : DeviceSelector) :
    DeviceSelector.fromDict (.obj selector.toDict) = .ok selector := rfl

/-- A dict is read back. -/
theorem PyValue.toDict_dict (entries : PyDict) :
    (PyValue.dict entries).orEmpty.toDict = .ok entries := by
  cases entries <;> rfl

namespace SentSpec

variable {python : Python} {minted : TaskId}

/-- **A specification whose kind and id are not empty is read back.** -/
theorem fromDict_toDict_of_named {spec : SentSpec} (kind : spec.kind ≠ "") (id : spec.id ≠ "")
    (minted : TaskId) : fromDict python minted spec.toDict = .ok spec := by
  have named : (Fields.get spec.toDict.fields "kind").truthy = true := truthy_str kind
  have listed : (Fields.get spec.toDict.fields "steps").orDefault (.arr []) = .arr spec.steps :=
    orDefault_arr spec.steps
  have identified : (Fields.get spec.toDict.fields "id").truthy = true := truthy_str id
  have selected : DeviceSelector.fromDict (Fields.get spec.toDict.fields "selector") =
      .ok spec.selector := DeviceSelector.fromDict_toDict spec.selector
  have given : spec.toDict.params.orEmpty.toDict = .ok spec.params :=
    PyValue.toDict_dict spec.params
  unfold fromDict
  rw [if_pos named, listed]
  dsimp only
  rw [if_pos identified, selected, given]
  rfl

/-- **The kind and the id of an accepted task are not empty.** -/
theorem fromDict_named (shows : ∀ value, python.showFloat value ≠ "") (drawn : minted ≠ "")
    {raw : RawTask} {spec : SentSpec} (accepted : fromDict python minted raw = .ok spec) :
    spec.kind ≠ "" ∧ spec.id ≠ "" := by
  unfold fromDict at accepted
  split at accepted
  · rename_i named
    split at accepted
    · obtain ⟨selector, -, accepted⟩ := returned_then accepted
      obtain ⟨timeoutS, -, accepted⟩ := returned_then accepted
      obtain ⟨maxAttempts, -, accepted⟩ := returned_then accepted
      obtain ⟨params, -, accepted⟩ := returned_then accepted
      cases accepted
      refine ⟨Json.text_ne_empty shows named, ?_⟩
      dsimp only
      split
      · rename_i identified
        exact Json.text_ne_empty shows identified
      · exact drawn
    · cases accepted
  · cases accepted

/-- **`from_dict` reads what `to_dict` wrote as the same specification**, whatever id it could
draw. -/
theorem spec_round_trip (python : Python) (shows : ∀ value, python.showFloat value ≠ "")
    (hex : String) {raw : Fields} {spec : SentSpec}
    (accepted : fromDict python (newTaskId hex) (.ofJson raw) = .ok spec) (minted : TaskId) :
    fromDict python minted spec.toDict = .ok spec := by
  obtain ⟨kind, id⟩ := fromDict_named shows (newTaskId_ne_empty hex) accepted
  exact fromDict_toDict_of_named kind id minted

/-- What `repr` answers a float in the tests of the round trip. -/
def showHalf : Python := { (default : Python) with showFloat := fun _ => "0.5" }

/-- A task of which every part is converted: the kind is a float, the id a list, the tags are a
string, the timeout is a numeral, no attempts are allowed and the parameters are pairs. -/
def coerced : Fields :=
  [("kind", .float 0.5), ("id", .arr [.int 7]), ("steps", .null),
    ("selector", .obj [("tags", .str "ab"), ("device_id", .int 0)]), ("timeout_s", .str "0"),
    ("max_attempts", .bool false), ("params", .arr [.arr [.int 1, .null], .str "xy"])]

/-- It is read back. -/
theorem spec_round_trip_coerced : ∃ spec, spec.selector.tags = [.str "a", .str "b"] ∧
    spec.id = "[7]" ∧ spec.params = [(.int 1, .null), (.str "x", .str "y")] ∧
    fromDict showHalf (newTaskId "0123456789") (.ofJson coerced) = .ok spec ∧
    ∀ minted, fromDict showHalf minted spec.toDict = .ok spec := by
  obtain ⟨spec, tags, id, params, accepted⟩ : ∃ spec : SentSpec,
      spec.selector.tags = [.str "a", .str "b"] ∧ spec.id = "[7]" ∧
        spec.params = [(.int 1, .null), (.str "x", .str "y")] ∧
          fromDict showHalf (newTaskId "0123456789") (.ofJson coerced) = .ok spec :=
    ⟨_, rfl, rfl, rfl, rfl⟩
  have shows : ∀ value, showHalf.showFloat value ≠ "" := by
    intro _
    show ("0.5" : String) ≠ ""
    decide
  exact ⟨spec, tags, id, params, accepted, spec_round_trip showHalf shows "0123456789" accepted⟩

/-! ## The specification without its parameters -/

end SentSpec

/-- Adding an entry raises what the item raises. -/
theorem PyDict.setPair_pairs (entries : PyDict) (item : Json) :
    (entries.setPair item).map (fun _ => ()) = item.pairs := by
  unfold PyDict.setPair Json.pairs
  cases item.iterated with
  | error error => rfl
  | ok parts =>
    rcases parts with _ | ⟨key, _ | ⟨value, _ | ⟨more, rest⟩⟩⟩
    · rfl
    · rfl
    · dsimp only
      cases key.hashable <;> rfl
    · rfl

/-- Adding all of them raises what the loop over the items raises. -/
theorem PyDict.foldlM_setPair (items : List Json) (entries : PyDict) :
    (items.foldlM PyDict.setPair entries).map (fun _ => ()) = items.forM Json.pairs := by
  induction items generalizing entries with
  | nil => rfl
  | cons item rest ih =>
    show ((entries.setPair item) >>= fun more => rest.foldlM PyDict.setPair more).map (fun _ => ()) =
      (item.pairs >>= fun _ => rest.forM Json.pairs)
    rw [← entries.setPair_pairs item]
    cases entries.setPair item with
    | error error => rfl
    | ok more => exact ih more

/-- `dict` of JSON returns or raises as `Core.Intake` says. -/
theorem PyValue.toDict_json (value : Json) :
    (PyValue.json value).toDict.map (fun _ => ()) = value.dictable := by
  cases value with
  | arr items => exact PyDict.foldlM_setPair items []
  | str text => exact PyDict.foldlM_setPair _ []
  | null | bool | int | float | obj => rfl

/-- **Without its parameters it is the specification that the scheduler runs.** -/
theorem SentSpec.fromDict_toTaskSpec (python : Python) (minted : TaskId) (raw : Fields) :
    (SentSpec.fromDict python minted (.ofJson raw)).map SentSpec.toTaskSpec =
      TaskSpec.fromDict python minted raw := by
  have params : (RawTask.ofJson raw).params.orEmpty =
      .json ((raw.get "params").orDefault (.obj [])) := rfl
  have fields : (RawTask.ofJson raw).fields = raw := rfl
  unfold SentSpec.fromDict TaskSpec.fromDict
  rw [params, fields, ← PyValue.toDict_json]
  by_cases named : (raw.get "kind").truthy = true
  · rw [if_pos named, if_pos named]
    cases (raw.get "steps").orDefault (.arr []) with
    | arr steps =>
      dsimp only
      cases DeviceSelector.fromDict (raw.get "selector") with
      | error raised => rfl
      | ok selector =>
        cases (raw.getD "timeout_s" (.float 120.0)).toFloat with
        | error error => rfl
        | ok timeoutS =>
          cases (raw.getD "max_attempts" (.int 3)).toInt with
          | error error => rfl
          | ok maxAttempts =>
            cases (PyValue.json ((raw.get "params").orDefault (.obj []))).toDict <;> rfl
    | null | bool | int | float | str | obj => rfl
  · rw [if_neg named, if_neg named]
    rfl

end DeviceOrchestrator
