import DeviceOrchestrator.Api.Console
import DeviceOrchestrator.Verif.Feed
import DeviceOrchestrator.Verif.Mirror

/-!
# What a client of the feed sees

A run of scheduler and hub is a run of each (`tasks_run`, `hub_run`), and the hub has published
exactly what the scheduler handed to its sink, among other events (`Wired`). A socket that has lost
nothing and has nothing left to read has been handed the end of what was published, so what it shows
of a record is what the feed shows.
-/
namespace DeviceOrchestrator

open Transition (Run History)

universe u

namespace Console

variable {Other : Type u} {config : SchedulerConfig} {ownTask : Bool}
variable {console after : Console Other} {action : ConsoleAction Other}

/-- Every submission gets a correlation id of its own. -/
def Correlated (console : Console Other) : ConsoleAction Other → Prop
  | .scheduler action => console.tasks.Correlated action
  | .hub _ => True

instance (console : Console Other) : ∀ action, Decidable (Correlated console action)
  | .scheduler action => inferInstanceAs (Decidable (console.tasks.Correlated action))
  | .hub _ => inferInstanceAs (Decidable True)

/-- The hub has published what the scheduler handed to its sink. -/
def Wired (console : Console Other) : Prop :=
  console.hub.published.filterMap FeedEvent.task? = console.tasks.scheduler.published

/-- Publishing several events adds them in order. -/
theorem published_published (hub : EventHub (FeedEvent Other)) (events : List StateEvent) :
    (published hub events).published = hub.published ++ events.map .task := by
  induction events generalizing hub with
  | nil => simp [published]
  | cons event rest ih =>
    have later := ih (hub.publish (.task event))
    simp only [published, List.foldl_cons] at later ⊢
    rw [later]
    simp [EventHub.publish]

/-- Publishing several events is a run of the hub. -/
theorem published_run (hub : EventHub (FeedEvent Other)) (events : List StateEvent) :
    Run (EventHub.step ownTask) (fun _ _ => True) hub (published hub events) := by
  induction events generalizing hub with
  | nil => exact .refl
  | cons event rest ih =>
    have publishes : EventHub.step ownTask hub (.publish (.task event)) =
        some (hub.publish (.task event)) := rfl
    have first : Run (EventHub.step ownTask) (fun _ _ => True) hub (hub.publish (.task event)) :=
      .single trivial publishes
    exact first.trans (ih _)

/-- What a step of either part is to the other. -/
inductive Stepped (config : SchedulerConfig) (ownTask : Bool) (console : Console Other) :
    ConsoleAction Other → Console Other → Prop
  /-- A step of the scheduler. -/
  | scheduled (action : SchedulerAction) (tasks : SchedulerWorld)
      (taken : SchedulerWorld.step config console.tasks action = some tasks) :
      Stepped config ownTask console (.scheduler action)
        { tasks := tasks, hub := published console.hub (handedOver console.tasks tasks) }
  /-- Another party publishes, or a socket goes on. -/
  | served (action : HubAction (FeedEvent Other)) (hub : EventHub (FeedEvent Other))
      (foreign : ∀ event, action ≠ .publish (.task event))
      (taken : EventHub.step ownTask console.hub action = some hub) :
      Stepped config ownTask console (.hub action) { console with hub := hub }

/-- Every step is one of these. -/
theorem step_cases (taken : step config ownTask console action = some after) :
    Stepped config ownTask console action after := by
  unfold step at taken
  split at taken
  · obtain ⟨tasks, stepped, rfl⟩ := Option.map_eq_some_iff.mp taken
    exact .scheduled _ tasks stepped
  · cases taken
  · rename_i foreign
    obtain ⟨hub, stepped, rfl⟩ := Option.map_eq_some_iff.mp taken
    exact .served _ hub (fun event same => foreign event same) stepped

/-- **The scheduler inside the console.** -/
theorem tasks_run {start : Console Other}
    (run : Run (step config ownTask) Correlated start console) :
    Run (SchedulerWorld.step config) SchedulerWorld.Correlated start.tasks console.tasks := by
  apply run.simulate Console.tasks
  intro state action later _ correlated taken
  cases step_cases taken with
  | scheduled action tasks stepped => exact .single correlated stepped
  | served action hub foreign stepped => exact .refl

/-- **The hub inside the console.** -/
theorem hub_run {allowed : Console Other → ConsoleAction Other → Prop} {start : Console Other}
    (run : Run (step config ownTask) allowed start console) :
    Run (EventHub.step ownTask) (fun _ _ => True) start.hub console.hub := by
  apply run.simulate Console.hub
  intro state action later _ _ taken
  cases step_cases taken with
  | scheduled action tasks stepped => exact published_run _ _
  | served action hub foreign stepped => exact .single trivial stepped

end Console

namespace SchedulerWorld

/-- The scheduler only adds to what it published. -/
theorem Telling.published {world after : SchedulerWorld} (telling : Telling world after) :
    after.scheduler.published = world.scheduler.published ++ Console.handedOver world after := by
  cases telling with
  | told worker index record new rewrites published => simp [Console.handedOver, published]
  | quiet worker index record new rewrites event published free =>
    simp [Console.handedOver, published]
  | settled worker index record new rewrites published deferred withholds =>
    simp [Console.handedOver, published]
  | still records published kept => simp [Console.handedOver, published]
  | submits new records published workers unused fresh apart =>
    simp [Console.handedOver, published]

end SchedulerWorld

namespace EventHub

variable {Event : Type u}

/-- A step of the hub publishes its event, or nothing. -/
theorem published_step {ownTask : Bool} {hub after : EventHub Event} {action : HubAction Event}
    (taken : step ownTask hub action = some after) :
    after.published = hub.published ∨
      ∃ event, action = .publish event ∧ after.published = hub.published ++ [event] := by
  have resumed : ∀ {index : Nat} {turn : Pump Event → Option (Pump Event)},
      hub.resume index turn = some after → after.published = hub.published := by
    intro index turn went
    obtain ⟨pump, -, rfl⟩ := Option.map_eq_some_iff.mp went
    rfl
  cases action with
  | publish event =>
    cases taken
    exact .inr ⟨event, rfl, rfl⟩
  | connect maxsize replay =>
    cases taken
    exact .inl rfl
  | sent index => exact .inl (resumed taken)
  | got index => exact .inl (resumed taken)
  | idle index => exact .inl (resumed taken)
  | gone index => exact .inl (resumed taken)
  | take index =>
    simp only [step] at taken
    split at taken
    · exact .inl (resumed taken)
    · cases taken

end EventHub

namespace Pump

variable {Event : Type u}

/-- A socket that has lost nothing and has nothing left to read was handed its replay and
everything since. -/
theorem Fed.handed_all {replay : Nat} {published missed : List Event} {pump : Pump Event}
    (fed : pump.Fed replay published missed) (live : pump.stage.live = true)
    (complete : pump.subscriber.dropped = 0) (drained : pump.subscriber.queue = [])
    (idle : pump.stage.pending = []) :
    pump.handed = pump.replayed replay published ++ pump.since published := by
  obtain ⟨delivered, accounted, handed, -⟩ := fed.account
  have nothing : missed = [] := List.length_eq_zero_iff.mp (fed.counted.trans complete)
  obtain ⟨gone, all, inOrder, -, perm⟩ := accounted.split
  rw [drained, List.append_nil] at all
  rw [nothing, idle, List.append_nil, List.append_nil] at perm
  rw [idle, List.append_nil] at inOrder
  have same : delivered = gone := inOrder.eq_of_length perm.length_eq
  have sent : pump.unsent = [] := by
    unfold Pump.unsent
    split
    · rename_i rest stage
      rw [stage] at live
      cases live
    · rfl
  rw [sent, List.append_nil] at handed
  rw [handed, same, all]

/-- What is replayed is the end of what was published before. -/
theorem replayed_suffix (replay : Nat) (published : List Event) (pump : Pump Event) :
    pump.replayed replay published ++ pump.since published <:+ published := by
  have halves := List.take_append_drop pump.joined published
  unfold replayed since
  split
  · obtain ⟨earlier, split⟩ : (published.take pump.joined).rtake replay <:+
        published.take pump.joined := List.drop_suffix _ _
    refine ⟨earlier, ?_⟩
    rw [← List.append_assoc, split, halves]
  · exact ⟨published.take pump.joined, by simp⟩

end Pump

namespace Console

open SchedulerWorld (Shown)
open Latest (latest)

variable {Other : Type u} {config : SchedulerConfig} {ownTask : Bool}
variable {console after : Console Other} {action : ConsoleAction Other}

/-- A step keeps the hub wired to the scheduler. -/
theorem wired_step (wired : console.Wired) (correlated : console.Correlated action)
    (taken : step config ownTask console action = some after) : after.Wired := by
  cases step_cases taken with
  | scheduled action tasks stepped =>
    have telling := SchedulerWorld.telling_step correlated stepped
    unfold Wired at wired ⊢
    rw [published_published, List.filterMap_append, wired, telling.published]
    simp [FeedEvent.task?, Function.comp_def]
  | served action hub foreign stepped =>
    unfold Wired at wired ⊢
    rcases EventHub.published_step stepped with same | ⟨event, rfl, added⟩
    · rw [same, wired]
    · cases event with
      | task event => exact absurd rfl (foreign event)
      | other event =>
        rw [added, List.filterMap_append, wired]
        simp [FeedEvent.task?]

/-- What a client shows of a record: the latest `task.state` it was handed for a correlation id. -/
def view (pump : Pump (FeedEvent Other)) (correlationId : String) : Option StateEvent :=
  latest StateEvent.correlationId (pump.handed.filterMap FeedEvent.task?) correlationId

/-- **A client that has lost nothing shows nothing stale.** In every run of scheduler, hub and
sockets in which submissions get correlation ids of their own, whatever is raised: what a socket
that dropped no event and has read all it was offered shows of a record is the record as it is,
unless the record has a result that its worker announces when it has released the lease. If the
socket replays the ring and nothing had left the ring when it connected, it shows of each record
what the feed shows. -/
theorem client_shows_records {replay : Nat}
    (run : Run (step config ownTask) Correlated { hub := { replay := replay } } console)
    {position : Nat} {pump : Pump (FeedEvent Other)}
    (found : console.hub.pumps[position]? = some pump) (live : pump.stage.live = true)
    (complete : pump.subscriber.dropped = 0) (drained : pump.subscriber.queue = [])
    (read : pump.stage.pending = []) (index : Nat) (record : TaskRecord)
    (known : console.tasks.scheduler.records[index]? = some record) :
    (∀ event, view pump record.correlationId = some event → event = record.event ∨
      (record.state.deferred = true ∧ console.tasks.Withholds index)) ∧
    (pump.replay = true → pump.joined ≤ replay →
      view pump record.correlationId = console.tasks.lastEvent record.correlationId) := by
  have wired : console.Wired := by
    apply run.invariant Wired
    · rfl
    · intro state action after _ wired correlated taken
      exact wired_step wired correlated taken
  have subscribed : pump.stage.subscribed = true := by
    cases stage : pump.stage with
    | closed =>
      rw [stage] at live
      cases live
    | _ => rfl
  obtain ⟨past, history⟩ := (hub_run run).history
  have fed := (EventHub.feeds_run history).fed position pump found subscribed
  have handed := fed.handed_all live complete drained read
  have shown := (SchedulerWorld.mirrors_run (tasks_run run)).shown index record known
  constructor
  · intro event seen
    have suffix : pump.handed.filterMap FeedEvent.task? <:+
        console.tasks.scheduler.published := by
      rw [← wired, handed]
      exact (Pump.replayed_suffix replay _ pump).filterMap _
    have last : console.tasks.lastEvent record.correlationId = some event :=
      Latest.latest_suffix suffix seen
    cases shown with
    | mirrored same => exact .inl (Option.some.inj (last.symm.trans same))
    | unannounced unseen unused fresh =>
      rw [unseen] at last
      cases last
    | withheld settled withholds => exact .inr ⟨settled, withholds⟩
  · intro replays early
    have all : pump.handed = console.hub.published := by
      rw [handed]
      have short : (console.hub.published.take pump.joined).length ≤ replay := by
        rw [List.length_take]
        omega
      simp only [Pump.replayed, Pump.since, replays, if_true]
      rw [List.rtake, Nat.sub_eq_zero_of_le short, List.drop_zero, List.take_append_drop]
    rw [view, all, wired]
    rfl

end Console

namespace Bench

/-- A client connects before the first attempt begins, and reads its announcement. -/
def watched : List (ConsoleAction Nat) :=
  [.scheduler (.others registry), .scheduler .start, .hub (.publish (.other 0)),
    .hub (.connect 256 true), .scheduler (.submit spec "first"), .scheduler (.take 0),
    .scheduler (.leased 0 0), .hub (.sent 0), .hub (.got 0), .hub (.sent 0)]

end Bench

/-- The client shows the task as RUNNING, and it is. -/
theorem client_shows_records_watched : ∃ (console : Console Nat) (pump : Pump (FeedEvent Nat))
    (record : TaskRecord), console.tasks.scheduler.records[0]? = some record ∧
      record.state = .running ∧ (Console.view pump record.correlationId).isSome = true ∧
      ∀ event, Console.view pump record.correlationId = some event → event = record.event ∨
        (record.state.deferred = true ∧ console.tasks.Withholds 0) := by
  have passed : (Transition.execute (Transition.guarded (Console.step Bench.config false)
      Console.Correlated) { hub := { replay := 100 } } Bench.watched).any (fun console =>
        console.hub.pumps[0]?.any fun pump => console.tasks.scheduler.records[0]?.any fun record =>
          pump.stage.live && decide (pump.subscriber.dropped = 0) &&
            decide (pump.subscriber.queue = []) && decide (pump.stage.pending = []) &&
            decide (record.state = .running) &&
            (Console.view pump record.correlationId).isSome) = true := by
    decide +kernel
  obtain ⟨console, run, shown⟩ := Transition.reaches passed
  obtain ⟨pump, found, shown⟩ := (Option.any_eq_true _ _).mp shown
  obtain ⟨record, known, shown⟩ := (Option.any_eq_true _ _).mp shown
  simp only [Bool.and_eq_true, decide_eq_true_eq] at shown
  obtain ⟨⟨⟨⟨⟨live, complete⟩, drained⟩, read⟩, running⟩, seen⟩ := shown
  exact ⟨console, pump, record, known, running, seen,
    (Console.client_shows_records run found live complete drained read 0 record known).1⟩

end DeviceOrchestrator
