import DeviceOrchestrator.Api.Server
import DeviceOrchestrator.Verif.Texts

/-!
# Which malformed tasks are `FatalError`

`TaskSpec.from_dict` checks the kind and that the steps are a list. The other parts are converted,
and a value that a conversion refuses raises what the conversion raises, which `submit_task` does
not know. So a task is answered exactly if one of the two checks refuses it, or everything that is
converted has a type and a value that its conversion takes, and the record of it can be written.
-/
namespace DeviceOrchestrator

/-! ## What each conversion takes -/

namespace PyJson

/-- A number that is not too large, or a numeral. -/
def floatable : PyJson → Bool
  | bool _ | float _ => true
  | int value => !(Float.ofModel (Float.Model.ofInt value)).isInf
  | str text => (text.string?.bind floatOfText).isSome
  | null | arr _ | obj _ => false

/-- A finite number, or the numeral of an integer. -/
def intable : PyJson → Bool
  | bool _ | int _ => true
  | float value => value.isFinite
  | str text => (text.string?.bind intOfText).isSome
  | null | arr _ | obj _ => false

/-- A string, a list or an object. -/
def iterable : PyJson → Bool
  | str _ | arr _ | obj _ => true
  | null | bool _ | int _ | float _ => false

/-- Two items, of which the first is hashable. -/
def isPair : PyJson → Bool
  | str text => text.length = 2
  | arr [key, _] => key.hashable
  | obj fields => fields.length = 2
  | _ => false

/-- An object or a list of pairs; the items of a string are too short. -/
def dictLike : PyJson → Bool
  | obj _ => true
  | arr items => items.all isPair
  | str text => text.isEmpty
  | null | bool _ | int _ | float _ => false

/-- `float` converts exactly these. -/
theorem isOk_toFloat (value : PyJson) : value.toFloat.isOk = value.floatable := by
  cases value with
  | int value =>
    show (if (Float.ofModel (Float.Model.ofInt value)).isInf = true then .error .overflowError
      else .ok (Float.ofModel (Float.Model.ofInt value)) : Except PyError Float).isOk =
        !(Float.ofModel (Float.Model.ofInt value)).isInf
    generalize Float.ofModel (Float.Model.ofInt value) = converted
    by_cases infinite : converted.isInf = true
    · rw [if_pos infinite, infinite]
      rfl
    · rw [if_neg infinite, Bool.eq_false_iff.mpr infinite]
      rfl
  | str text =>
    show ((text.string?.bind floatOfText).elim (.error .valueError) .ok : Except PyError Float).isOk =
      (text.string?.bind floatOfText).isSome
    cases text.string?.bind floatOfText <;> rfl
  | null | bool | float | arr | obj => rfl

/-- `int` of a float takes exactly the finite ones. -/
theorem isOk_intOfFloat (value : Float) : (intOfFloat value).isOk = value.isFinite := by
  unfold intOfFloat Float.isFinite Float.Model.isFinite
  cases value.toModel.unpack <;> rfl

/-- `int` converts exactly these. -/
theorem isOk_toInt (value : PyJson) : value.toInt.isOk = value.intable := by
  cases value with
  | float value => exact isOk_intOfFloat value
  | str text =>
    show ((text.string?.bind intOfText).elim (.error .valueError) .ok : Except PyError Int).isOk =
      (text.string?.bind intOfText).isSome
    cases text.string?.bind intOfText <;> rfl
  | null | bool | int | arr | obj => rfl

/-- These can be iterated. -/
theorem isOk_iterated (value : PyJson) : value.iterated.isOk = value.iterable := by
  cases value <;> rfl

/-- Two items of which the first is hashable make an entry. -/
theorem isOk_pairs_iterated {item : PyJson} {items : List PyJson} (yields : item.iterated = .ok items)
    (hashable : ∀ part ∈ items, part.hashable = true) :
    item.pairs.isOk = decide (items.length = 2) := by
  unfold pairs
  rw [yields]
  rcases items with _ | ⟨key, _ | ⟨value, _ | ⟨more, rest⟩⟩⟩
  · rfl
  · rfl
  · show (if key.hashable = true then .ok () else .error .typeError : Except PyError Unit).isOk =
      true
    rw [if_pos (hashable key List.mem_cons_self)]
    rfl
  · simp [Except.isOk, Except.toBool]

/-- These are items for `dict`. -/
theorem isOk_pairs (item : PyJson) : item.pairs.isOk = item.isPair := by
  cases item with
  | str text =>
    have yields : (str text).iterated =
        .ok (text.map fun point => str [point]) := rfl
    rw [isOk_pairs_iterated yields (by simp [hashable])]
    simp [isPair]
  | obj fields =>
    have yields : (obj fields).iterated = .ok (fields.map fun field => str field.1) := rfl
    have texts : ∀ part ∈ fields.map fun field => str field.1, part.hashable = true := by
      intro part member
      obtain ⟨field, -, rfl⟩ := List.mem_map.mp member
      rfl
    rw [isOk_pairs_iterated yields texts]
    simp [isPair]
  | arr items =>
    rcases items with _ | ⟨key, _ | ⟨value, _ | ⟨more, rest⟩⟩⟩
    · rfl
    · rfl
    · show (if key.hashable = true then .ok () else .error .typeError : Except PyError Unit).isOk =
        key.hashable
      cases key.hashable <;> rfl
    · rfl
  | null | bool | int | float => rfl

/-- Every item of a loop that raises nothing raises nothing. -/
theorem isOk_forM_pairs (items : List PyJson) : (items.forM pairs).isOk = items.all isPair := by
  induction items with
  | nil => rfl
  | cons item rest ih =>
    rw [List.all_cons, ← isOk_pairs, ← ih]
    show (item.pairs >>= fun _ => rest.forM pairs).isOk = _
    cases item.pairs <;> rfl

/-- `dict` converts exactly these. -/
theorem isOk_dictable (value : PyJson) : value.dictable.isOk = value.dictLike := by
  cases value with
  | arr items => exact isOk_forM_pairs items
  | str text =>
    show ((text.map fun point => str [point]).forM pairs).isOk = text.isEmpty
    rw [isOk_forM_pairs]
    cases text with
    | nil => rfl
    | cons point rest => simp [isPair]
  | null | bool | int | float | obj => rfl

end PyJson

/-! ## What is answered -/

/-- A result that `submit_task` knows: a value or `FatalError`. -/
def Answered {Value : Type} (result : Except Raised Value) : Prop :=
  (∃ value, result = .ok value) ∨ ∃ message, result = .error (.fatal message)

/-- A result that is no `FatalError`. -/
def Plain {Value : Type} (result : Except Raised Value) : Prop :=
  ∀ message, result ≠ .error (.fatal message)

section
variable {Value Next : Type} {first : Except Raised Value} {rest : Value → Except Raised Next}

/-- A plain result is answered exactly if it is a value. -/
theorem Plain.answered_iff (plain : Plain first) : Answered first ↔ first.isOk = true := by
  cases first with
  | ok value => exact ⟨fun _ => rfl, fun _ => .inl ⟨value, rfl⟩⟩
  | error raised =>
    constructor
    · rintro (⟨value, returned⟩ | ⟨message, same⟩)
      · cases returned
      · exact absurd same (plain message)
    · intro impossible
      cases impossible

/-- A plain result followed by plain ones is plain. -/
theorem Plain.bind (plain : Plain first) (follows : ∀ value, Plain (rest value)) :
    Plain (first >>= rest) := by
  intro message same
  cases first with
  | ok value => exact follows value message same
  | error raised =>
    cases same
    exact plain message rfl

/-- What a conversion raises is no `FatalError`. -/
theorem plain_escaping (conversion : Except PyError Value) : Plain (escaping conversion) := by
  intro message same
  cases conversion <;> cases same

/-- A value is no `FatalError`. -/
theorem plain_ok (value : Value) : Plain (.ok value : Except Raised Value) := by
  intro message same
  cases same

/-- Two steps return exactly if both do, where the second does not depend on the first. -/
theorem isOk_bind {returns : Bool} (follows : ∀ value, (rest value).isOk = returns) :
    (first >>= rest).isOk = (first.isOk && returns) := by
  cases first with
  | ok value => exact follows value
  | error raised => rfl

/-- A conversion returns as it does. -/
theorem isOk_escaping (conversion : Except PyError Value) :
    (escaping conversion).isOk = conversion.isOk := by
  cases conversion <;> rfl

/-- Four conversions in a row raise no `FatalError`, and they return exactly if all four do. -/
theorem conversions {Selector Timeout Attempts Params : Type}
    {selector : Except Raised Selector} (plain : Plain selector)
    (timeout : Except PyError Timeout) (attempts : Except PyError Attempts)
    (params : Except PyError Params) (make : Selector → Timeout → Attempts → Params → Value)
    {result : Except Raised Value}
    (chain : result = selector >>= fun found => escaping timeout >>= fun timeoutS =>
      escaping attempts >>= fun maxAttempts => escaping params >>= fun items =>
        .ok (make found timeoutS maxAttempts items)) :
    Plain result ∧ (result.isOk = true ↔
      selector.isOk = true ∧ timeout.isOk = true ∧ attempts.isOk = true ∧ params.isOk = true) := by
  subst chain
  refine ⟨plain.bind fun found => (plain_escaping timeout).bind fun timeoutS =>
    (plain_escaping attempts).bind fun maxAttempts => (plain_escaping params).bind fun items =>
      plain_ok (make found timeoutS maxAttempts items), ?_⟩
  rw [isOk_bind fun _ => isOk_bind fun _ => isOk_bind fun _ => @isOk_bind _ _ _ _ true fun _ => rfl]
  simp only [isOk_escaping, Bool.and_true, Bool.and_eq_true]

end

/-- A selector as it should be: a false value, or an object whose
transports and tags can be iterated. -/
def PyJson.selectable (raw : PyJson) : Bool :=
  match raw.orDefault (.obj []) with
  | .obj fields =>
    (PyFields.getD fields "transports" (.arr [])).iterable &&
      (PyFields.getD fields "tags" (.arr [])).iterable
  | _ => false

/-- No part of a selector is `FatalError`. -/
theorem PySelector.fromDict_plain (raw : PyJson) : Plain (PySelector.fromDict raw) := by
  have fields : Plain (raw.orDefault (.obj [])).fieldsOf := by
    intro message same
    generalize raw.orDefault (.obj []) = value at same
    cases value <;> cases same
  exact fields.bind fun _ => (plain_escaping _).bind fun _ => (plain_escaping _).bind fun _ =>
    plain_ok _

/-- `PySelector.from_dict` takes exactly these. -/
theorem PySelector.isOk_fromDict (raw : PyJson) :
    (PySelector.fromDict raw).isOk = raw.selectable := by
  unfold PySelector.fromDict PyJson.selectable
  cases raw.orDefault (.obj []) with
  | obj fields =>
    have tags : ∀ transports, (escaping (PyFields.getD fields "tags" (.arr [])).iterated >>=
        fun tags => (.ok ⟨transports, tags, PyFields.get fields "device_id"⟩ :
          Except Raised PySelector)).isOk = (PyFields.getD fields "tags" (.arr [])).iterable := by
      intro transports
      rw [@isOk_bind _ _ _ _ true fun _ => rfl, isOk_escaping, PyJson.isOk_iterated, Bool.and_true]
    have both := @isOk_bind _ _ (escaping (PyFields.getD fields "transports" (.arr [])).iterated) _ _
      tags
    rw [isOk_escaping, PyJson.isOk_iterated] at both
    exact both
  | null | bool | int | float | str | arr => rfl

/-- The kind is missing or false, or the steps are something else than a list. -/
def PyFields.refused (raw : PyFields) : Prop :=
  (raw.get "kind").truthy = false ∨
    ∀ steps, (raw.get "steps").orDefault (.arr []) ≠ .arr steps

/-- Everything that is converted has a type and a value that its conversion takes. -/
structure PyFields.Convertible (raw : PyFields) : Prop where
  /-- The selector. -/
  selector : (raw.get "selector").selectable = true
  /-- `float`. -/
  timeoutS : (raw.getD "timeout_s" (.float 120.0)).floatable = true
  /-- `int`. -/
  maxAttempts : (raw.getD "max_attempts" (.int 3)).intable = true
  /-- `dict`. -/
  params : ((raw.get "params").orDefault (.obj [])).dictLike = true

section
variable (python : Interpreter) (minted : TaskId) (raw : PyFields)

/-- What one of the checks refuses is `FatalError`. -/
theorem PySpec.fromDict_refused (refused : raw.refused) :
    ∃ message, fromDict python minted raw = .error (.fatal message) := by
  unfold fromDict
  by_cases named : (raw.get "kind").truthy = true
  · rw [if_pos named]
    have unlisted := refused.resolve_left (by simp [named])
    cases steps : (raw.get "steps").orDefault (.arr []) with
    | arr items => exact absurd steps (unlisted items)
    | null | bool | int | float | str | obj => exact ⟨_, rfl⟩
  · exact ⟨_, if_neg named⟩

/-- Nothing else is, and what neither refuses is returned exactly if it is convertible. -/
theorem PySpec.fromDict_unrefused (unrefused : ¬ raw.refused) :
    Plain (fromDict python minted raw) ∧
      ((fromDict python minted raw).isOk = true ↔ raw.Convertible) := by
  obtain ⟨named, listed⟩ := not_or.mp unrefused
  rw [Bool.not_eq_false] at named
  push Not at listed
  obtain ⟨steps, listed⟩ := listed
  have chain := conversions (PySelector.fromDict_plain (raw.get "selector"))
    (raw.getD "timeout_s" (.float 120.0)).toFloat (raw.getD "max_attempts" (.int 3)).toInt
    ((raw.get "params").orDefault (.obj [])).dictable
    (fun selector timeoutS maxAttempts _ =>
      { kind := (raw.get "kind").text python, steps := steps
        id := if (raw.get "id").truthy then (raw.get "id").text python else PyText.ofString minted
        selector := selector, timeoutS := timeoutS, maxAttempts := maxAttempts : PySpec })
    (show fromDict python minted raw = _ by
      unfold fromDict
      rw [if_pos named, listed])
  rw [PySelector.isOk_fromDict, PyJson.isOk_toFloat, PyJson.isOk_toInt, PyJson.isOk_dictable] at chain
  refine ⟨chain.1, chain.2.trans ?_⟩
  exact ⟨fun ⟨selector, timeoutS, maxAttempts, params⟩ => ⟨selector, timeoutS, maxAttempts, params⟩,
    fun ⟨selector, timeoutS, maxAttempts, params⟩ => ⟨selector, timeoutS, maxAttempts, params⟩⟩

/-- **`from_dict` returns or raises `FatalError` exactly if one of its two checks refuses the task,
or everything that is converted can be.** -/
theorem PySpec.fromDict_answered_iff :
    Answered (fromDict python minted raw) ↔ raw.refused ∨ raw.Convertible := by
  by_cases refused : raw.refused
  · exact ⟨fun _ => .inl refused, fun _ => .inr (fromDict_refused python minted raw refused)⟩
  · obtain ⟨plain, returns⟩ := fromDict_unrefused python minted raw refused
    rw [plain.answered_iff, returns]
    exact ⟨.inr, fun meets => meets.resolve_left refused⟩

/-! ## What can be written -/

/-- Anything but a string with a lone surrogate. -/
def PyJson.writable : PyJson → Bool
  | str text => text.unicode
  | null | bool _ | int _ | float _ | arr _ | obj _ => true

/-- The framework reads the keys of a payload as strings of Unicode. -/
def PyFields.stringKeyed (raw : PyFields) : Prop := ∀ field ∈ raw, field.1.unicode = true

/-- Neither the kind nor the id is a string with a lone surrogate. -/
structure PyFields.Writable (raw : PyFields) : Prop where
  /-- The kind. -/
  kind : (raw.get "kind").writable = true
  /-- The id. -/
  id : (raw.get "id").writable = true

/-- `str` of a value has a surrogate exactly if the value is a string with one. -/
theorem PyJson.unicode_text (value : PyJson) : (value.text python).unicode = value.writable := by
  cases value with
  | str text => rfl
  | null | bool | int | float | arr | obj => exact PyText.unicode_ofString _

/-- Neither has the id, given or minted: a false value is no such string. -/
theorem PyJson.unicode_id (value : PyJson) :
    (if value.truthy then value.text python else PyText.ofString minted : PyText).unicode =
      value.writable := by
  by_cases given : value.truthy = true
  · rw [if_pos given]
    exact value.unicode_text python
  · rw [if_neg given, PyText.unicode_ofString]
    cases value with
    | str text =>
      cases text with
      | nil => rfl
      | cons point rest => exact absurd rfl given
    | null | bool | int | float | arr | obj => rfl

/-- The kind and the id of an accepted specification are texts of what was sent. -/
theorem PySpec.fromDict_unicode {spec : PySpec} (accepted : fromDict python minted raw = .ok spec) :
    spec.kind.unicode = true ∧ spec.id.unicode = true ↔ raw.Writable := by
  unfold fromDict at accepted
  split at accepted
  · split at accepted
    · obtain ⟨selector, -, accepted⟩ := returned_then accepted
      obtain ⟨timeoutS, -, accepted⟩ := returned_then accepted
      obtain ⟨maxAttempts, -, accepted⟩ := returned_then accepted
      obtain ⟨-, -, accepted⟩ := returned_then accepted
      cases accepted
      rw [PyJson.unicode_text, PyJson.unicode_id]
      exact ⟨fun ⟨kind, id⟩ => ⟨kind, id⟩, fun ⟨kind, id⟩ => ⟨kind, id⟩⟩
    · cases accepted
  · cases accepted

/-- The record is written exactly if its kind and its id can be: the other texts are the
source's. -/
theorem PySpec.isOk_jsonResponse (config : SchedulerConfig) (correlationId : String)
    (spec : PySpec) : (jsonResponse (spec.receipt python config correlationId).texts).isOk = true ↔
      spec.kind.unicode = true ∧ spec.id.unicode = true := by
  have written : (spec.receipt python config correlationId).texts.all PyText.unicode =
      (spec.id.unicode && spec.kind.unicode) := by
    unfold receipt Receipt.texts
    dsimp only
    split <;> simp
  unfold jsonResponse
  rw [written, ← Bool.and_eq_true, Bool.and_comm]
  cases (spec.kind.unicode && spec.id.unicode) <;> simp [Except.isOk, Except.toBool]

section
variable (config : SchedulerConfig) (correlationId : String)

/-- `POST /tasks` answers 202 or 422 exactly to a `FatalError` and to a specification whose record
can be written. -/
theorem submitTask_status_iff :
    (submitTask python config minted correlationId raw).1.status ∈ [202, 422] ↔
      Answered (PySpec.fromDict python minted raw) ∧
        ∀ spec, PySpec.fromDict python minted raw = .ok spec →
          spec.kind.unicode = true ∧ spec.id.unicode = true := by
  unfold submitTask
  cases PySpec.fromDict python minted raw with
  | ok spec =>
    dsimp only
    have response := PySpec.isOk_jsonResponse python config correlationId spec
    have all : (∀ found, (Except.ok spec : Except Raised PySpec) = .ok found →
        found.kind.unicode = true ∧ found.id.unicode = true) ↔
          spec.kind.unicode = true ∧ spec.id.unicode = true :=
      ⟨fun each => each spec rfl, fun both found same => Except.ok.inj same ▸ both⟩
    rw [all, ← response]
    cases jsonResponse (spec.receipt python config correlationId).texts with
    | ok written => exact ⟨fun _ => ⟨.inl ⟨spec, rfl⟩, rfl⟩, fun _ => List.mem_cons_self⟩
    | error error =>
      constructor
      · intro member
        simp [Submission.status] at member
      · rintro ⟨-, impossible⟩
        cases impossible
  | error raised =>
    have none : ∀ spec, (Except.error raised : Except Raised PySpec) = .ok spec →
        spec.kind.unicode = true ∧ spec.id.unicode = true := by
      intro spec same
      cases same
    cases raised with
    | fatal message =>
      exact ⟨fun _ => ⟨.inr ⟨message, rfl⟩, none⟩, fun _ => by simp [Submission.status]⟩
    | retryable | session | auth | adbNotAvailable | timeout | missing | builtin =>
      constructor
      · intro member
        simp [Submission.status] at member
      · rintro ⟨⟨spec, same⟩ | ⟨message, same⟩, -⟩ <;> cases same

/-- **Nothing is submitted of a payload that `from_dict` does not accept**; what it accepts is
submitted, even if the answer cannot be written. -/
theorem submitTask_submitted :
    (submitTask python config minted correlationId raw).2 =
      (PySpec.fromDict python minted raw).toOption := by
  unfold submitTask
  cases PySpec.fromDict python minted raw with
  | ok spec =>
    dsimp only
    cases jsonResponse (spec.receipt python config correlationId).texts <;> rfl
  | error raised => cases raised <;> rfl

/-- **A malformed task is `FatalError` and 422, and a good one 202, exactly if one of the two checks
refuses it, or everything that is converted can be and the kind and the id can be written.** -/
theorem submitTask_answered_iff :
    Answered (PySpec.fromDict python minted raw) ∧
        (raw.stringKeyed →
          (submitTask python config minted correlationId raw).1.status ∈ [202, 422]) ↔
      raw.refused ∨ raw.Convertible ∧ (raw.stringKeyed → raw.Writable) := by
  rw [submitTask_status_iff]
  by_cases refused : raw.refused
  · obtain ⟨message, fatal⟩ := PySpec.fromDict_refused python minted raw refused
    rw [fatal]
    exact ⟨fun _ => .inl refused, fun _ => ⟨.inr ⟨message, rfl⟩, fun _ =>
      ⟨.inr ⟨message, rfl⟩, by rintro spec ⟨⟩⟩⟩⟩
  · rw [PySpec.fromDict_answered_iff]
    constructor
    · rintro ⟨meets, status⟩
      have convertible := meets.resolve_left refused
      have returns := (PySpec.fromDict_unrefused python minted raw refused).2.mpr convertible
      refine .inr ⟨convertible, fun keyed => ?_⟩
      cases accepted : PySpec.fromDict python minted raw with
      | ok spec =>
        exact (PySpec.fromDict_unicode python minted raw accepted).mp
          ((status keyed).2 spec accepted)
      | error raised =>
        rw [accepted] at returns
        cases returns
    · intro meets
      obtain ⟨convertible, writable⟩ := meets.resolve_left refused
      exact ⟨.inr convertible, fun keyed => ⟨.inr convertible, fun spec accepted =>
        (PySpec.fromDict_unicode python minted raw accepted).mpr (writable keyed)⟩⟩

end

end

/-- An interpreter that shows every text as the empty one. -/
def mute : Interpreter where
  toPython := default
  quote _ := ""
  quote_ofString _ := rfl

/-- `POST /tasks` of a payload whose keys are texts of the source. -/
def posted (payload : List (String × PyJson)) : Except Raised PySpec × Nat :=
  let raw := payload.map fun field => (PyText.ofString field.1, field.2)
  (PySpec.fromDict mute "task-1" raw,
    (submitTask mute { kinds := ["android"] } "task-1" "corr-1" raw).1.status)

/-- A string of the source. -/
def source (text : String) : PyJson := .str (PyText.ofString text)

/-- A request that neither 202 nor 422 answers: an exception that is no `FatalError` leaves
`from_dict`. -/
def Unanswered (payload : List (String × PyJson)) : Prop :=
  ¬ Answered (posted payload).1 ∧ (posted payload).2 = 500

/-- A built-in exception is no answer. -/
theorem not_answered_builtin {Value : Type} (error : PyError) :
    ¬ Answered (.error (.builtin error) : Except Raised Value) := by
  rintro (⟨value, same⟩ | ⟨message, same⟩)
  · cases same
  · cases same


/-- **Ways to be malformed and not be answered**: a selector that is a list, tags that are null, a
timeout that is null or ends in a separator of ASCII, attempts that are no number or begin with
one, parameters that are no pairs, and a kind or an id with a lone surrogate. -/
theorem submitTask_unanswered :
    Unanswered [("kind", source "android"), ("selector", .arr [.int 1])] ∧
      Unanswered [("kind", source "android"), ("selector", .obj [(PyText.ofString "tags", .null)])] ∧
      Unanswered [("kind", source "android"), ("timeout_s", .null)] ∧
      Unanswered [("kind", source "android"), ("timeout_s", source "7\u001f")] ∧
      Unanswered [("kind", source "android"), ("max_attempts", source "three")] ∧
      Unanswered [("kind", source "android"), ("max_attempts", source "\u001c7")] ∧
      Unanswered [("kind", source "android"), ("params", source "ab")] ∧
      (posted [("kind", .str [CodePoint.ofNat 0xD800])]).2 = 500 ∧
      (posted [("kind", source "android"), ("id", .str [CodePoint.ofNat 0xDFFF])]).2 = 500 :=
  ⟨⟨not_answered_builtin .attributeError, rfl⟩, ⟨not_answered_builtin .typeError, rfl⟩,
    ⟨not_answered_builtin .typeError, rfl⟩, ⟨not_answered_builtin .valueError, rfl⟩,
    ⟨not_answered_builtin .valueError, rfl⟩, ⟨not_answered_builtin .valueError, rfl⟩,
    ⟨not_answered_builtin .valueError, rfl⟩, rfl, rfl⟩

end DeviceOrchestrator
