import DeviceOrchestrator.Api.Ws
import DeviceOrchestrator.Core.Scheduler

/-!
# The scheduler wired to the hub

`Orchestrator` gives the scheduler `hub.publish` as its sink. Publishing does not suspend, so what a
step of the scheduler hands to the sink is in the hub before anybody else takes a step. The monitor
and the demo routes publish to the same hub at any time.
-/
namespace DeviceOrchestrator

universe u

/-- What is published: an event of the scheduler, or of somebody else. -/
inductive FeedEvent (Other : Type u)
  /-- A `task.state` event. -/
  | task (event : StateEvent)
  /-- Any other event. -/
  | other (event : Other)
  deriving DecidableEq

/-- The `task.state` event. -/
def FeedEvent.task? {Other : Type u} : FeedEvent Other → Option StateEvent
  | task event => some event
  | other _ => none

/-- A scheduler whose sink is a hub. -/
structure Console (Other : Type u) where
  /-- The scheduler and its registry. -/
  tasks : SchedulerWorld := {}
  /-- The hub. -/
  hub : EventHub (FeedEvent Other) := {}

/-- Who takes the next step. -/
inductive ConsoleAction (Other : Type u)
  /-- A coroutine of the scheduler, or a client of it. -/
  | scheduler (action : SchedulerAction)
  /-- A socket of the hub, or another publisher. -/
  | hub (action : HubAction (FeedEvent Other))

namespace Console

variable {Other : Type u}

/-- What a step of the scheduler handed to its sink. -/
def handedOver (before after : SchedulerWorld) : List StateEvent :=
  after.scheduler.published.drop before.scheduler.published.length

/-- The hub after these events were published. -/
def published (hub : EventHub (FeedEvent Other)) (events : List StateEvent) :
    EventHub (FeedEvent Other) :=
  events.foldl (fun hub event => hub.publish (.task event)) hub

/-- One step. Only the scheduler publishes `task.state`. -/
def step (config : SchedulerConfig) (ownTask : Bool) (console : Console Other) :
    ConsoleAction Other → Option (Console Other)
  | .scheduler action =>
    (SchedulerWorld.step config console.tasks action).map fun tasks =>
      { tasks := tasks, hub := published console.hub (handedOver console.tasks tasks) }
  | .hub (.publish (.task _)) => none
  | .hub action =>
    (EventHub.step ownTask console.hub action).map fun hub => { console with hub := hub }

end Console

end DeviceOrchestrator
