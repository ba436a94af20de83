import DeviceOrchestrator.Api.Console
import DeviceOrchestrator.Targets.Live

/-!
# What the sink hears of tasks

`_run_once` hands the scheduler's own sink to the target, in a `TaskContext` that is built before
the attempt is announced. A target reports its progress from inside `execute`, so while the worker
awaits `wait_for`; a cancelled target has ended when `wait_for` raises. Whatever the sink raises
there is an outcome of the target.
-/
namespace DeviceOrchestrator

/-- The scheduler and what its sink was handed, by itself and by the targets. -/
structure Narration where
  /-- The scheduler and its registry. -/
  tasks : SchedulerWorld := {}
  /-- What the sink was handed, in order. -/
  feed : List (FeedEvent ProgressEvent) := []

/-- Who takes the next step. -/
inductive NarrationAction
  /-- A coroutine of the scheduler, or a client of it. -/
  | scheduler (action : SchedulerAction)
  /-- The target that a worker awaits calls `ctx.progress`. -/
  | progress (worker : Nat) (phase message : String) (data : Fields) (ts : Float)

/-- The context of an attempt, which is numbered before it is filed. -/
def TaskRecord.context (record : TaskRecord) (lease : Lease) (attempt : Nat) : TaskContext where
  taskId := record.spec.id
  correlationId := record.correlationId
  deviceId := some lease.deviceId
  attempt := attempt + 1

namespace Narration

/-- One step. -/
def step (config : SchedulerConfig) (narration : Narration) :
    NarrationAction → Option Narration
  | .scheduler action =>
    (SchedulerWorld.step config narration.tasks action).map fun tasks =>
      { tasks := tasks
        feed := narration.feed ++ (Console.handedOver narration.tasks tasks).map .task }
  | .progress worker phase message data ts =>
    match narration.tasks.at? worker with
    | some (_, .executing lease attempt, record) =>
      some { narration with
        feed := narration.feed ++ [.other
          { context := record.context lease attempt
            phase := phase
            message := message
            data := data
            ts := ts }] }
    | _ => none

end Narration

end DeviceOrchestrator
