import DeviceOrchestrator.Api.Narration
import DeviceOrchestrator.Verif.Attempts
import DeviceOrchestrator.Verif.Console

/-!
# Progress is told of the attempt that runs

Progress events carry the context that `_run_once` built, state events what the record says. While
a worker awaits its target both tell of the same attempt: its record is RUNNING, and has been
announced as it is (`shown_running`). So the latest state event before a progress event is the one
that announced its attempt.
-/
namespace DeviceOrchestrator

open Transition (Run)
open Latest (latest Preceded)

/-- A state event announces the attempt that a context is of. -/
structure StateEvent.Opens (announced : StateEvent) (context : TaskContext) : Prop where
  /-- It announces RUNNING. -/
  state : announced.state = .running
  /-- It is of the same task. -/
  taskId : announced.taskId = context.taskId
  /-- It has the same correlation id. -/
  correlationId : announced.correlationId = context.correlationId
  /-- It is of the same attempt. -/
  attempt : announced.attempt = context.attempt
  /-- The attempt is on the same device. -/
  deviceId : announced.deviceId = context.deviceId

namespace SchedulerWorld

open Scheduler

variable {config : SchedulerConfig} {world : SchedulerWorld}

/-- **A record whose target runs is announced as it is**, and that opens the attempt. -/
theorem shown_running (run : Run (step config) Distinct {} world) (mirrors : world.Mirrors)
    {worker index attempt : Nat} {lease : Lease} {record : TaskRecord}
    (busy : world.scheduler.workers[worker]? = some (.busy index (.executing lease attempt)))
    (known : world.scheduler.records[index]? = some record) :
    world.lastEvent record.correlationId = some record.event ∧
      record.event.Opens (record.context lease attempt) := by
  have running : record.state = .running :=
    (attended_run run).expected worker index _ record busy rfl known
  obtain ⟨done, last, attempts, rfl, device⟩ :=
    (current_run run index record known).held worker _ busy rfl lease attempt (.inr rfl)
  constructor
  · cases mirrors.shown index record known with
    | mirrored same => exact same
    | unannounced unseen unused fresh =>
      rw [running] at fresh
      rcases fresh with impossible | impossible <;> cases impossible
    | withheld settled withholds =>
      rw [running] at settled
      cases settled
  · refine ⟨running, rfl, rfl, ?_, ?_⟩
    · simp [TaskRecord.event, TaskRecord.context, TaskRecord.attemptCount, attempts]
    · simp [TaskRecord.event, TaskRecord.context, attempts, device]

end SchedulerWorld

namespace Narration

variable {config : SchedulerConfig} {narration after : Narration} {action : NarrationAction}

/-- Ids and correlation ids are distinct, and announcing and quarantining raise nothing. -/
def Orderly (narration : Narration) : NarrationAction → Prop
  | .scheduler action =>
    SchedulerWorld.Distinct narration.tasks action ∧ narration.tasks.Correlated action
  | .progress _ _ _ _ _ => True

instance (narration : Narration) : ∀ action, Decidable (Orderly narration action)
  | .scheduler _ => inferInstanceAs (Decidable (_ ∧ _))
  | .progress _ _ _ _ _ => inferInstanceAs (Decidable True)

/-- The sink heard what the scheduler handed to it. -/
def Heard (narration : Narration) : Prop :=
  narration.feed.filterMap FeedEvent.task? = narration.tasks.scheduler.published

/-- Before a progress event the latest event of its task opened its attempt. -/
def Opened (before : List (FeedEvent ProgressEvent)) : FeedEvent ProgressEvent → Prop
  | .task _ => True
  | .other event => ∃ announced,
    latest StateEvent.correlationId (before.filterMap FeedEvent.task?)
      event.context.correlationId = some announced ∧ announced.Opens event.context

/-- **What a step tells the sink.** -/
inductive Told (config : SchedulerConfig) (narration : Narration) :
    NarrationAction → Narration → Prop
  /-- What the scheduler hands over. -/
  | announced (action : SchedulerAction) (tasks : SchedulerWorld)
      (taken : SchedulerWorld.step config narration.tasks action = some tasks) :
      Told config narration (.scheduler action)
        { tasks := tasks
          feed := narration.feed ++ (Console.handedOver narration.tasks tasks).map .task }
  /-- What a target reports of the attempt that its worker runs. -/
  | reported (worker index attempt : Nat) (lease : Lease) (record : TaskRecord)
      (phase message : String) (data : Fields) (ts : Float)
      (busy : narration.tasks.scheduler.workers[worker]? =
        some (.busy index (.executing lease attempt)))
      (known : narration.tasks.scheduler.records[index]? = some record) :
      Told config narration (.progress worker phase message data ts)
        { narration with
          feed := narration.feed ++ [.other
            { context := record.context lease attempt
              phase := phase
              message := message
              data := data
              ts := ts }] }

/-- Every step is one of these. -/
theorem step_cases (taken : step config narration action = some after) :
    Told config narration action after := by
  unfold step at taken
  split at taken
  · obtain ⟨tasks, stepped, rfl⟩ := Option.map_eq_some_iff.mp taken
    exact .announced _ tasks stepped
  · split at taken
    · rename_i found
      cases taken
      obtain ⟨busy, known⟩ := SchedulerWorld.at?_eq_some.mp found
      exact .reported _ _ _ _ _ _ _ _ _ busy known
    · cases taken

/-- The scheduler inside the narration. -/
theorem tasks_run {start : Narration} (run : Run (step config) Orderly start narration) :
    Run (SchedulerWorld.step config)
      (fun world action => SchedulerWorld.Distinct world action ∧ world.Correlated action)
      start.tasks narration.tasks := by
  apply run.simulate Narration.tasks
  intro state action later _ orderly taken
  cases step_cases taken with
  | announced action tasks stepped => exact .single orderly stepped
  | reported => exact .refl

/-- A step keeps the sink informed. -/
theorem heard_step (heard : narration.Heard) (orderly : narration.Orderly action)
    (taken : step config narration action = some after) : after.Heard := by
  unfold Heard at heard ⊢
  cases step_cases taken with
  | announced action tasks stepped =>
    have telling := SchedulerWorld.telling_step orderly.2 stepped
    rw [List.filterMap_append, heard, telling.published]
    simp [FeedEvent.task?, Function.comp_def]
  | reported =>
    rw [List.filterMap_append, heard]
    simp [FeedEvent.task?]

/-- In every run the sink is informed. -/
theorem heard_run (run : Run (step config) Orderly {} narration) : narration.Heard := by
  apply run.invariant Heard
  · rfl
  · intro state action after _ heard orderly taken
    exact heard_step heard orderly taken

/-- **Each step opens what it reports.** -/
theorem opened_step (earlier : Run (step config) Orderly {} narration)
    (opened : Preceded Opened narration.feed) (taken : step config narration action = some after) :
    Preceded Opened after.feed := by
  cases step_cases taken with
  | announced action tasks stepped =>
    refine opened.append ?_
    intro before entry later split
    have member : entry ∈ (Console.handedOver narration.tasks tasks).map FeedEvent.task := by
      rw [split]
      simp
    obtain ⟨event, -, rfl⟩ := List.mem_map.mp member
    exact trivial
  | reported worker index attempt lease record phase message data ts busy known =>
    refine opened.append ?_
    intro before entry later split
    have tasks := tasks_run earlier
    obtain ⟨shown, opens⟩ := SchedulerWorld.shown_running (tasks.mono fun _ both => both.1)
      (SchedulerWorld.mirrors_run (tasks.mono fun _ both => both.2)) busy known
    obtain ⟨rfl, rfl⟩ : before = [] ∧ later = [] := by
      cases before with
      | nil => simpa using congrArg List.length split
      | cons head tail => simp at split
    obtain rfl := List.head_eq_of_cons_eq split
    rw [List.append_nil]
    refine ⟨record.event, ?_, opens⟩
    rw [heard_run earlier]
    exact shown

/-- **Progress is told of the attempt that runs.** In every run in which ids and correlation ids
are distinct and announcing and quarantining raise nothing, whatever the targets report inside
`execute`: before each progress event that the sink was handed, the latest `task.state` event with
its correlation id announced RUNNING, for the task, the attempt and the device that the progress
event names. -/
theorem progress_framed (run : Run (step config) Orderly {} narration)
    {before later : List (FeedEvent ProgressEvent)} {event : ProgressEvent}
    (split : narration.feed = before ++ .other event :: later) :
    ∃ announced, latest StateEvent.correlationId (before.filterMap FeedEvent.task?)
      event.context.correlationId = some announced ∧ announced.Opens event.context := by
  have opened : Preceded Opened narration.feed := by
    apply run.invariant (fun narration => Preceded Opened narration.feed) (Preceded.empty _)
    intro state action after earlier opened orderly taken
    exact opened_step earlier opened taken
  exact opened before (.other event) later split

end Narration

namespace Bench

/-- A target reports a step. -/
def reported : NarrationAction := .progress 0 "step" "1/2 tap" [] 0

/-- A task that reports in both of its attempts. -/
def reportedTwice : List NarrationAction :=
  [.scheduler (.others registry), .scheduler .start,
    .scheduler (.submit { kind := "android", id := "first", maxAttempts := 2 } "a"),
    .scheduler (.take 0), .scheduler (.leased 0 0), .scheduler (.sinkReturned 0), reported,
    .scheduler (.executed 0 (.retryable "no such element" false) 0),
    .scheduler (.sinkReturned 0), .scheduler (.released 0), .scheduler (.retryDue 0),
    .scheduler (.take 0), .scheduler (.leased 0 1), .scheduler (.sinkReturned 0), reported]

end Bench

namespace Narration

/-- What is reported of the second attempt follows its announcement. -/
theorem progress_framed_second : ∃ (narration : Narration)
    (before : List (FeedEvent ProgressEvent)) (event : ProgressEvent),
    narration.feed = before ++ [.other event] ∧ event.context.attempt = 2 ∧
      ∃ announced, latest StateEvent.correlationId (before.filterMap FeedEvent.task?)
        event.context.correlationId = some announced ∧ announced.Opens event.context := by
  have passed : (Transition.execute (Transition.guarded (step Bench.config) Orderly) {}
      Bench.reportedTwice).any (fun narration => narration.feed.getLast?.any fun last =>
        match last with
        | .other event => event.context.attempt == 2
        | .task _ => false) = true := by
    decide +kernel
  obtain ⟨narration, run, shown⟩ := Transition.reaches passed
  obtain ⟨last, found, shown⟩ := (Option.any_eq_true _ _).mp shown
  obtain ⟨before, split⟩ := List.getLast?_eq_some_iff.mp found
  cases last with
  | task event => cases shown
  | other event =>
    exact ⟨narration, before, event, split, eq_of_beq shown, progress_framed run split⟩

end Narration

end DeviceOrchestrator
