import DeviceOrchestrator.Core.Payload
import DeviceOrchestrator.Core.Scheduler

/-!
# Submitting a task over HTTP

`submit_task` reads the specification, hands it to the scheduler and answers with the record. It
knows one exception; any other leaves the handler, and the framework answers with a status of its
own. So does an answer that cannot be written: `JSONResponse` encodes the record, which holds the
kind and the id as the client wrote them, when the task has been submitted already.
-/
namespace DeviceOrchestrator

/-- `TaskRecord.to_dict` of a new record, without what every new record has. -/
structure Receipt where
  /-- The task. -/
  id : PyText
  /-- Its kind. -/
  kind : PyText
  /-- Where the task is in its life. -/
  state : TaskState
  /-- The identifier that links its log lines and events. -/
  correlationId : String
  /-- Why the task was rejected. -/
  error : Option String

/-- The record that `Scheduler.submit` answers. -/
def PySpec.receipt (python : Interpreter) (config : SchedulerConfig) (correlationId : String)
    (spec : PySpec) : Receipt :=
  let kind := python.quote spec.kind
  if spec.kind ∈ config.kinds.map PyText.ofString then
    ⟨spec.id, spec.kind, .pending, correlationId, none⟩
  else
    ⟨spec.id, spec.kind, .rejected, correlationId, some s!"no target registered for kind={kind}"⟩

/-- Such a record of the scheduler. -/
def Receipt.ofRecord (record : TaskRecord) : Receipt where
  id := PyText.ofString record.spec.id
  kind := PyText.ofString record.spec.kind
  state := record.state
  correlationId := record.correlationId
  error := record.error

/-- The texts of a record that the source does not write itself. -/
def Receipt.texts (receipt : Receipt) : List PyText :=
  [receipt.id, receipt.kind, PyText.ofString receipt.correlationId] ++
    receipt.error.toList.map PyText.ofString

/-- `JSONResponse` of a content with these texts. They are not escaped, so what raises
`UnicodeEncodeError`, a `ValueError`, is a surrogate in one of them. -/
def jsonResponse (texts : List PyText) : Except PyError Unit :=
  if texts.all PyText.unicode then .ok () else .error .valueError

/-- How `submit_task` ends. -/
inductive Submission
  /-- The record is returned. -/
  | accepted (receipt : Receipt)
  /-- The text of the `FatalError`. -/
  | unprocessable (detail : String)
  /-- An exception that leaves the handler. -/
  | raised (error : Raised)

/-- The status of the response. -/
def Submission.status : Submission → Nat
  | accepted _ => 202
  | unprocessable _ => 422
  | raised _ => 500

/-- `submit_task`, and the specification that it hands to the scheduler. -/
def submitTask (python : Interpreter) (config : SchedulerConfig) (minted : TaskId)
    (correlationId : String) (payload : PyFields) : Submission × Option PySpec :=
  match PySpec.fromDict python minted payload with
  | .ok spec =>
    let receipt := spec.receipt python config correlationId
    match jsonResponse receipt.texts with
    | .ok () => (.accepted receipt, some spec)
    | .error error => (.raised (.builtin error), some spec)
  | .error (.fatal message) => (.unprocessable message, none)
  | .error error => (.raised error, none)

end DeviceOrchestrator
