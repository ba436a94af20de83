import DeviceOrchestrator.Core.Json

/-!
# Tasks, attempts and outcomes

A task record is the mutable state of one submitted specification. A target ends an attempt in
one of the ways of `Outcome`: it returns a result, raises one of the classified errors, is
cancelled at its deadline, or lets an unclassified exception escape.
-/
namespace DeviceOrchestrator

/-- A device's serial, `host:port`, or the name of a browser slot. -/
abbrev DeviceId := String

/-- A task's identifier, chosen by the client or minted. -/
abbrev TaskId := String

/-- `TaskState`. -/
inductive TaskState
  | pending
  | assigned
  | running
  | succeeded
  | failed
  | rejected
  | abandoned
  deriving DecidableEq, Repr

/-- Membership in `TERMINAL_STATES`. -/
def TaskState.terminal : TaskState → Bool
  | succeeded | failed | rejected | abandoned => true
  | pending | assigned | running => false

/-- `DeviceSelector`: what a task needs from a device, as the client wrote it. -/
structure DeviceSelector where
  /-- Accepted transports; empty accepts every transport. -/
  transports : List Json := []
  /-- Tags that must all be present on the device. -/
  tags : List Json := []
  /-- One device to pin the task to. -/
  deviceId : Json := .null

/-- Every tag of a selector is hashable, so a set of them can be built. -/
def DeviceSelector.hashable (selector : DeviceSelector) : Bool :=
  selector.tags.all Json.hashable

/-- `TaskSpec`: an immutable unit of work. -/
structure TaskSpec where
  /-- The target that interprets the steps. -/
  kind : String
  /-- The steps, uninterpreted. -/
  steps : List Json := []
  /-- The task's identifier. -/
  id : TaskId
  /-- What the task needs from a device. -/
  selector : DeviceSelector := {}
  /-- The deadline of one attempt. -/
  timeoutS : Float := 120.0
  /-- Attempts the task may use. -/
  maxAttempts : Int := 3

/-- `Attempt`: one try on one device. -/
structure Attempt where
  /-- One-based number of the attempt. -/
  number : Nat
  /-- The leased device. -/
  deviceId : DeviceId
  /-- Whether `ended_at` is set. -/
  ended : Bool := false
  /-- Why the attempt failed. -/
  error : Option String := none

/-- `TaskRecord`: server-side state of one submitted specification. -/
structure TaskRecord where
  /-- What was submitted. -/
  spec : TaskSpec
  /-- The identifier that links its log lines and events. -/
  correlationId : String
  /-- Where the task is in its life. -/
  state : TaskState := .pending
  /-- The attempts so far, in order. -/
  attempts : List Attempt := []
  /-- What the target returned. -/
  result : Option Json := none
  /-- Why the task ended without a result. -/
  error : Option String := none

/-- `TaskRecord.attempt_count`. -/
def TaskRecord.attemptCount (record : TaskRecord) : Nat := record.attempts.length

/-- Write `ended_at` and `error` of one attempt. -/
def TaskRecord.endAttempt (record : TaskRecord) (index : Nat) (error : Option String) :
    TaskRecord :=
  { record with
    attempts := record.attempts.modify index fun attempt =>
      { attempt with ended := true, error := error } }

/-- Ending an attempt changes no count. -/
@[simp]
theorem TaskRecord.endAttempt_attemptCount (record : TaskRecord) (index : Nat)
    (error : Option String) :
    (record.endAttempt index error).attemptCount = record.attemptCount := by
  simp [endAttempt, attemptCount]

/-- Ending an attempt moves none to another device. -/
theorem TaskRecord.endAttempt_deviceIds (record : TaskRecord) (index : Nat)
    (error : Option String) : (record.endAttempt index error).attempts.map Attempt.deviceId =
      record.attempts.map Attempt.deviceId := by
  simp only [endAttempt]
  apply List.ext_getElem?
  intro position
  simp only [List.getElem?_map, List.getElem?_modify]
  cases record.attempts[position]? with
  | none => rfl
  | some attempt => by_cases here : index = position <;> simp [here]

/-- How `target.execute` can end when nobody cancels the worker. -/
inductive Outcome
  /-- The target returned. -/
  | result (value : Json)
  /-- `FatalError`: the work item itself is wrong. -/
  | fatal (message : String)
  /-- `RetryableError`, with its blame. -/
  | retryable (message : String) (blamesDevice : Bool)
  /-- `SessionError`: no session was opened. -/
  | session (message : String)
  /-- `asyncio.TimeoutError`: the deadline passed. -/
  | timeout
  /-- Any other exception, shown by `repr`. -/
  | crash (message : String)
  deriving Inhabited

/-- Outcomes that count as evidence against the device. -/
def Outcome.blamesDevice : Outcome → Bool
  | result _ | fatal _ => false
  | retryable _ blamesDevice => blamesDevice
  | session _ | timeout | crash _ => true

end DeviceOrchestrator
