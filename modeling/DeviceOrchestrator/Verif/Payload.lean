import DeviceOrchestrator.Verif.Rejections

/-!
# JSON without lone surrogates

`Core.Payload` reads any JSON that a client may send, `Core.Intake` the JSON whose strings are texts
of Unicode. On that JSON they are one function: `from_dict` answers the same specification or the
same exception, and what `submit_task` answers is the record that the scheduler made of it.
-/
namespace DeviceOrchestrator

/-- Two texts of the source are two strings. -/
theorem PyText.ofString_injective : Function.Injective PyText.ofString := by
  intro first second same
  exact String.toList_inj.mp (List.map_injective_iff.mpr CodePoint.ofChar_injective same)

namespace PyJson

/-- The items of a list, one by one. -/
theorem ofItems_eq_map (items : List Json) : ofItems items = items.map ofJson := by
  induction items with
  | nil => rfl
  | cons item rest ih => rw [ofItems, List.map_cons, ih]

/-- The items of a dict, one by one. -/
theorem ofFields_eq_map (fields : Fields) :
    ofFields fields = fields.map fun field => (PyText.ofString field.1, ofJson field.2) := by
  induction fields with
  | nil => rfl
  | cons field rest ih => rw [ofFields, List.map_cons, ih]

/-- A key is found where it is. -/
theorem lookup_ofFields (fields : Fields) (key : String) :
    (ofFields fields).lookup (PyText.ofString key) = (fields.lookup key).map ofJson := by
  induction fields with
  | nil => rfl
  | cons field rest ih =>
    obtain ⟨name, value⟩ := field
    rw [ofFields, List.lookup_cons, List.lookup_cons, ih,
      show (PyText.ofString key == PyText.ofString name) = (key == name) from
        PyText.ofString_injective.beq_eq]
    cases key == name <;> rfl

/-- So `get` answers the same. -/
theorem get_ofFields (fields : Fields) (key : String) :
    PyFields.get (ofFields fields) key = ofJson (fields.get key) := by
  rw [PyFields.get, Fields.get, lookup_ofFields]
  cases fields.lookup key <;> rfl

/-- With a default as well. -/
theorem getD_ofFields (fields : Fields) (key : String) (default : Json) :
    PyFields.getD (ofFields fields) key (ofJson default) = ofJson (fields.getD key default) := by
  rw [PyFields.getD, Fields.getD, lookup_ofFields]
  cases fields.lookup key <;> rfl

/-- A text is empty exactly if its string is. -/
theorem isEmpty_ofString (text : String) : (PyText.ofString text).isEmpty = (text == "") := by
  rw [PyText.ofString, Bool.eq_iff_iff, beq_iff_eq, List.isEmpty_iff, List.map_eq_nil_iff]
  exact String.toList_eq_nil_iff

/-- Truth is the same. -/
theorem truthy_ofJson (value : Json) : (ofJson value).truthy = value.truthy := by
  cases value with
  | str text =>
    show (!(PyText.ofString text).isEmpty) = (text != "")
    rw [isEmpty_ofString]
    rfl
  | arr items => cases items <;> rfl
  | obj fields => cases fields <;> rfl
  | null | bool | int | float => rfl

/-- So is the choice of a default. -/
theorem orDefault_ofJson (value default : Json) :
    (ofJson value).orDefault (ofJson default) = ofJson (value.orDefault default) := by
  rw [orDefault, Json.orDefault, truthy_ofJson]
  cases value.truthy <;> rfl

/-- So is `hash`. -/
theorem hashable_ofJson (value : Json) : (ofJson value).hashable = value.hashable := by
  cases value <;> rfl

/-- `float` converts the same. -/
theorem toFloat_ofJson (value : Json) : (ofJson value).toFloat = value.toFloat := by
  cases value with
  | str text =>
    show ((PyText.ofString text).string?.bind floatOfText).elim _ _ = _
    rw [PyText.string?_ofString]
    rfl
  | null | bool | int | float | arr | obj => rfl

/-- `int` converts the same. -/
theorem toInt_ofJson (value : Json) : (ofJson value).toInt = value.toInt := by
  cases value with
  | str text =>
    show ((PyText.ofString text).string?.bind intOfText).elim _ _ = _
    rw [PyText.string?_ofString]
    rfl
  | null | bool | int | float | arr | obj => rfl

mutual

/-- `repr` shows the same. -/
theorem repr_ofJson (python : Interpreter) : ∀ value : Json,
    (ofJson value).repr python = value.repr python.toPython
  | .null | .bool true | .bool false | .int _ | .float _ => rfl
  | .str text => python.quote_ofString text
  | .arr items => by rw [ofJson, repr, Json.repr, reprItems_ofItems python items]
  | .obj fields => by rw [ofJson, repr, Json.repr, reprFields_ofFields python fields]

/-- The items of a list. -/
theorem reprItems_ofItems (python : Interpreter) : ∀ items : List Json,
    reprItems python (ofItems items) = Json.reprItems python.toPython items
  | [] => rfl
  | [item] => repr_ofJson python item
  | item :: next :: rest => by
    have first := repr_ofJson python item
    have others := reprItems_ofItems python (next :: rest)
    rw [ofItems, ofItems, reprItems, Json.reprItems, first, ← others, ofItems] <;> simp

/-- The items of a dict. -/
theorem reprFields_ofFields (python : Interpreter) : ∀ fields : Fields,
    reprFields python (ofFields fields) = Json.reprFields python.toPython fields
  | [] => rfl
  | [(key, value)] => by
    rw [ofFields, ofFields, reprFields, Json.reprFields, python.quote_ofString,
      repr_ofJson python value]
  | (key, value) :: next :: rest => by
    have first := repr_ofJson python value
    have others := reprFields_ofFields python (next :: rest)
    rw [ofFields, ofFields, reprFields, Json.reprFields, python.quote_ofString, first, ← others,
      ofFields] <;> simp

end

/-- `str` of it is a text of the source. -/
theorem text_ofJson (python : Interpreter) (value : Json) :
    (ofJson value).text python = PyText.ofString (value.text python.toPython) := by
  cases value with
  | str text => rfl
  | null | bool | int | float | arr | obj =>
    exact congrArg PyText.ofString (repr_ofJson python _)

/-- It yields the same items. -/
theorem iterated_ofJson (value : Json) :
    (ofJson value).iterated = value.iterated.map ofItems := by
  cases value with
  | str text =>
    show Except.ok ((text.toList.map CodePoint.ofChar).map fun point => str [point]) =
      Except.ok (ofItems (text.toList.map fun char => .str (String.singleton char)))
    rw [ofItems_eq_map, List.map_map, List.map_map]
    congr 1
    refine List.map_congr_left fun char _ => ?_
    show str [CodePoint.ofChar char] = str ((String.singleton char).toList.map CodePoint.ofChar)
    rw [String.toList_singleton]
    rfl
  | arr items => rfl
  | obj fields =>
    show Except.ok ((ofFields fields).map fun field => str field.1) =
      Except.ok (ofItems (fields.map fun field => .str field.1))
    rw [ofItems_eq_map, ofFields_eq_map, List.map_map, List.map_map]
    rfl
  | null | bool | int | float => rfl

/-- The same items are pairs. -/
theorem pairs_ofJson (item : Json) : (ofJson item).pairs = item.pairs := by
  unfold pairs Json.pairs
  rw [iterated_ofJson]
  cases item.iterated with
  | error error => rfl
  | ok parts =>
    rcases parts with _ | ⟨key, _ | ⟨value, _ | ⟨more, rest⟩⟩⟩
    · rfl
    · rfl
    · show (if (ofJson key).hashable = true then _ else _ : Except PyError Unit) = _
      rw [hashable_ofJson]
    · rfl

/-- And a loop over them raises the same. -/
theorem forM_pairs_ofItems (items : List Json) :
    (ofItems items).forM pairs = items.forM Json.pairs := by
  induction items with
  | nil => rfl
  | cons item rest ih =>
    show ((ofJson item).pairs >>= fun _ => (ofItems rest).forM pairs) =
      (item.pairs >>= fun _ => rest.forM Json.pairs)
    rw [pairs_ofJson, ih]

/-- `dict` converts the same. -/
theorem dictable_ofJson (value : Json) : (ofJson value).dictable = value.dictable := by
  have looped : ((ofJson value).iterated >>= fun items => items.forM pairs) =
      (value.iterated >>= fun items => items.forM Json.pairs) := by
    rw [iterated_ofJson]
    cases value.iterated with
    | error error => rfl
    | ok items => exact forM_pairs_ofItems items
  cases value with
  | obj fields => rfl
  | null | bool | int | float | str | arr => exact looped

/-- A selector has the same fields. -/
theorem fieldsOf_ofJson (value : Json) :
    (ofJson value).fieldsOf = (DeviceOrchestrator.fieldsOf value).map ofFields := by
  cases value <;> rfl

end PyJson

/-- A selector is read as `Core.Intake` reads it. -/
theorem PySelector.fromDict_ofJson (raw : Json) :
    fromDict (.ofJson raw) = (DeviceSelector.fromDict raw).map ofSelector := by
  unfold fromDict DeviceSelector.fromDict
  have chosen : (PyJson.ofJson raw).orDefault (.obj []) =
      .ofJson (raw.orDefault (.obj [])) := PyJson.orDefault_ofJson raw (.obj [])
  rw [chosen, PyJson.fieldsOf_ofJson]
  cases DeviceOrchestrator.fieldsOf (raw.orDefault (.obj [])) with
  | error raised => rfl
  | ok fields =>
    have transports := PyJson.getD_ofFields fields "transports" (.arr [])
    have tags := PyJson.getD_ofFields fields "tags" (.arr [])
    have deviceId := PyJson.get_ofFields fields "device_id"
    show (escaping (PyFields.getD (PyJson.ofFields fields) "transports" (.ofJson (.arr []))).iterated
      >>= fun transports =>
        escaping (PyFields.getD (PyJson.ofFields fields) "tags" (.ofJson (.arr []))).iterated
          >>= fun tags => .ok ⟨transports, tags, PyFields.get (PyJson.ofFields fields) "device_id"⟩) =
      (escaping (fields.getD "transports" (.arr [])).iterated >>= fun transports =>
        escaping (fields.getD "tags" (.arr [])).iterated >>= fun tags =>
          .ok ⟨transports, tags, fields.get "device_id"⟩).map ofSelector
    rw [transports, tags, deviceId, PyJson.iterated_ofJson, PyJson.iterated_ofJson]
    cases (fields.getD "transports" (.arr [])).iterated with
    | error error => rfl
    | ok transports => cases (fields.getD "tags" (.arr [])).iterated <;> rfl

/-- **JSON without lone surrogates is read as `Core.Intake` reads it.** -/
theorem PySpec.fromDict_ofFields (python : Interpreter) (minted : TaskId) (raw : Fields) :
    fromDict python minted (PyJson.ofFields raw) =
      (TaskSpec.fromDict python.toPython minted raw).map ofTask := by
  have steps : (PyJson.ofJson (raw.get "steps")).orDefault (.arr []) =
      .ofJson ((raw.get "steps").orDefault (.arr [])) := PyJson.orDefault_ofJson _ (.arr [])
  have params : (PyJson.ofJson (raw.get "params")).orDefault (.obj []) =
      .ofJson ((raw.get "params").orDefault (.obj [])) := PyJson.orDefault_ofJson _ (.obj [])
  have timeoutS : PyFields.getD (PyJson.ofFields raw) "timeout_s" (.float 120.0) =
      .ofJson (raw.getD "timeout_s" (.float 120.0)) := PyJson.getD_ofFields raw _ (.float 120.0)
  have maxAttempts : PyFields.getD (PyJson.ofFields raw) "max_attempts" (.int 3) =
      .ofJson (raw.getD "max_attempts" (.int 3)) := PyJson.getD_ofFields raw _ (.int 3)
  have id : (if (raw.get "id").truthy then PyText.ofString ((raw.get "id").text python.toPython)
      else PyText.ofString minted : PyText) = PyText.ofString
        (if (raw.get "id").truthy then (raw.get "id").text python.toPython else minted) := by
    cases (raw.get "id").truthy <;> rfl
  unfold fromDict TaskSpec.fromDict
  rw [PyJson.get_ofFields, PyJson.get_ofFields, PyJson.get_ofFields, PyJson.get_ofFields,
    PyJson.get_ofFields, steps, params, timeoutS, maxAttempts, PyJson.truthy_ofJson,
    PySelector.fromDict_ofJson, PyJson.toFloat_ofJson, PyJson.toInt_ofJson, PyJson.dictable_ofJson]
  by_cases named : (raw.get "kind").truthy = true
  · rw [if_pos named, if_pos named]
    cases (raw.get "steps").orDefault (.arr []) with
    | arr steps =>
      dsimp only [PyJson.ofJson]
      rw [PyJson.truthy_ofJson, PyJson.text_ofJson, PyJson.text_ofJson, id]
      cases DeviceSelector.fromDict (raw.get "selector") with
      | error raised => rfl
      | ok selector =>
        cases (raw.getD "timeout_s" (.float 120.0)).toFloat with
        | error error => rfl
        | ok timeoutS =>
          cases (raw.getD "max_attempts" (.int 3)).toInt with
          | error error => rfl
          | ok maxAttempts => cases ((raw.get "params").orDefault (.obj [])).dictable <;> rfl
    | null | bool | int | float | str | obj => rfl
  · rw [if_neg named, if_neg named]
    rfl

/-- The record that the scheduler makes of a specification is the one that is answered. -/
theorem PySpec.receipt_ofTask {python : Interpreter} {config : SchedulerConfig}
    (shows : config.showText = python.showText) (scheduler : Scheduler) (spec : TaskSpec)
    (correlationId : String) : ∃ record,
      (scheduler.submit config spec correlationId).records = scheduler.records ++ [record] ∧
        (ofTask spec).receipt python config correlationId = .ofRecord record := by
  have quoted : python.quote (PyText.ofString spec.kind) = config.showText spec.kind := by
    rw [python.quote_ofString, shows]
  have registered : PyText.ofString spec.kind ∈ config.kinds.map PyText.ofString ↔
      spec.kind ∈ config.kinds := List.mem_map_of_injective PyText.ofString_injective
  unfold Scheduler.submit receipt ofTask
  dsimp only
  rw [quoted]
  by_cases known : spec.kind ∈ config.kinds
  · rw [if_pos known, if_pos (registered.mpr known)]
    exact ⟨_, rfl, rfl⟩
  · rw [if_neg known, if_neg (mt registered.mp known)]
    exact ⟨_, rfl, rfl⟩

/-- **What `Core.Intake` accepts is submitted and answered 202 with the scheduler's record.** -/
theorem submitTask_ofFields {python : Interpreter} {config : SchedulerConfig}
    (shows : config.showText = python.showText) (scheduler : Scheduler) {minted : TaskId}
    {raw : Fields} {spec : TaskSpec}
    (accepted : TaskSpec.fromDict python.toPython minted raw = .ok spec) (correlationId : String) :
    ∃ record, (scheduler.submit config spec correlationId).records =
        scheduler.records ++ [record] ∧
      submitTask python config minted correlationId (PyJson.ofFields raw) =
        (.accepted (.ofRecord record), some (.ofTask spec)) := by
  obtain ⟨record, added, same⟩ := PySpec.receipt_ofTask shows scheduler spec correlationId
  have read : PySpec.fromDict python minted (PyJson.ofFields raw) = .ok (.ofTask spec) := by
    rw [PySpec.fromDict_ofFields, accepted]
    rfl
  have written := (PySpec.isOk_jsonResponse python config correlationId (.ofTask spec)).mpr
    ⟨PyText.unicode_ofString spec.kind, PyText.unicode_ofString spec.id⟩
  refine ⟨record, added, ?_⟩
  unfold submitTask
  rw [read]
  dsimp only
  cases response : jsonResponse ((PySpec.ofTask spec).receipt python config correlationId).texts with
  | ok done => rw [same]
  | error error =>
    rw [response] at written
    cases written

end DeviceOrchestrator
