import DeviceOrchestrator.Lib.Run

/-!
# The event hub and its sockets

`EventHub.publish` does not suspend: it appends to the ring and offers the event to each subscriber.
`pump_websocket` subscribes, copies the ring and hands the first event to `send_json` without
suspending in between; afterwards it is suspended in `send_json` or in `wait_for`. Each socket is a
`Pump` here, and an action says which pump resumes and what its await answered. `wait_for` either
runs `get` in the pump's own coroutine, which takes an event and hands it over in one step, or makes
a task of it, which takes an event before the pump resumes (as the interpreter did up to 3.11).
-/
namespace DeviceOrchestrator

universe u

variable {Event : Type u}

/-- What is handed to `send_json`. -/
inductive Message (Event : Type u)
  /-- An event. -/
  | event (event : Event)
  /-- The heartbeat of an idle feed. -/
  | heartbeat (dropped : Nat)
  deriving DecidableEq

/-- The event of a message that is no heartbeat. -/
def Message.event? : Message Event → Option Event
  | event found => some found
  | heartbeat _ => none

/-- `Subscriber`. -/
structure Subscriber (Event : Type u) where
  /-- The bound of the queue; zero is none. -/
  maxsize : Nat := 256
  /-- `queue`. -/
  queue : List Event := []
  /-- `dropped`. -/
  dropped : Nat := 0

namespace Subscriber

/-- `queue.full()`. -/
def full (subscriber : Subscriber Event) : Bool :=
  subscriber.maxsize != 0 && decide (subscriber.maxsize ≤ subscriber.queue.length)

/-- `queue.put_nowait`, which raises `QueueFull`. -/
def putNowait (subscriber : Subscriber Event) (event : Event) : Option (Subscriber Event) :=
  if subscriber.full then none
  else some { subscriber with queue := subscriber.queue ++ [event] }

/-- `offer`. -/
def offer (subscriber : Subscriber Event) (event : Event) : Subscriber Event :=
  match subscriber.putNowait event with
  | some taken => taken
  | none =>
    let shorter :=
      { subscriber with queue := subscriber.queue.tail, dropped := subscriber.dropped + 1 }
    (shorter.putNowait event).getD shorter

end Subscriber

/-- The awaits of `pump_websocket`, and how it ends. -/
inductive PumpStage (Event : Type u)
  /-- `send_json` of the replay, with the events that are left of it. -/
  | replaying (rest : List Event)
  /-- `wait_for`. -/
  | waiting
  /-- `wait_for`, whose task has taken an event. -/
  | taken (event : Event)
  /-- `send_json` of the feed. -/
  | sending
  /-- The client went away, or the pump was cancelled. -/
  | closed

/-- Whether the replay has been sent and the socket is still served. -/
def PumpStage.live : PumpStage Event → Bool
  | waiting | taken _ | sending => true
  | replaying _ | closed => false

/-- Whether the pump is subscribed. -/
def PumpStage.subscribed : PumpStage Event → Bool
  | closed => false
  | _ => true

/-- The event that the task of `wait_for` has taken. -/
def PumpStage.pending : PumpStage Event → List Event
  | taken event => [event]
  | _ => []

/-- A call of `pump_websocket`. -/
structure Pump (Event : Type u) where
  /-- Its subscriber. -/
  subscriber : Subscriber Event
  /-- Where it is suspended. -/
  stage : PumpStage Event
  /-- What was handed to `send_json`. -/
  sent : List (Message Event) := []
  /-- Whether the ring is replayed. -/
  replay : Bool
  /-- How many events had been published when it subscribed. -/
  joined : Nat

namespace Pump

/-- The events handed to `send_json`. -/
def handed (pump : Pump Event) : List Event := pump.sent.filterMap Message.event?

/-- The loop over the copy of the ring, up to the next `send_json`. -/
def replayNext (pump : Pump Event) : List Event → Pump Event
  | [] => { pump with stage := .waiting }
  | event :: rest =>
    { pump with stage := .replaying rest, sent := pump.sent ++ [.event event] }

/-- `send_json` of the feed. -/
def send (pump : Pump Event) (message : Message Event) : Pump Event :=
  { pump with stage := .sending, sent := pump.sent ++ [message] }

/-- `offer`, for a pump that is subscribed. -/
def offered (pump : Pump Event) (event : Event) : Pump Event :=
  if pump.stage.subscribed then { pump with subscriber := pump.subscriber.offer event } else pump

end Pump

/-- `EventHub`, with the pumps of its subscribers. -/
structure EventHub (Event : Type u) where
  /-- The length of the ring. -/
  replay : Nat := 100
  /-- `_recent`. -/
  recent : List Event := []
  /-- Every pump made so far. -/
  pumps : List (Pump Event) := []
  /-- Every event published so far. -/
  published : List Event := []

/-- Which coroutine resumes, and what its await answered. -/
inductive HubAction (Event : Type u)
  /-- `publish`. -/
  | publish (event : Event)
  /-- A client connects. -/
  | connect (maxsize : Nat) (replay : Bool)
  /-- `send_json` returns. -/
  | sent (pump : Nat)
  /-- The task of `wait_for` takes an event. -/
  | take (pump : Nat)
  /-- `wait_for` returns an event. -/
  | got (pump : Nat)
  /-- `wait_for` times out. -/
  | idle (pump : Nat)
  /-- `send_json` raises, or the pump is cancelled. -/
  | gone (pump : Nat)

namespace EventHub

/-- `_recent.append`. -/
def remember (hub : EventHub Event) (event : Event) : List Event :=
  let grown := hub.recent ++ [event]
  if hub.replay < grown.length then grown.tail else grown

/-- `publish`. -/
def publish (hub : EventHub Event) (event : Event) : EventHub Event :=
  { hub with
    recent := hub.remember event
    pumps := hub.pumps.map fun pump => pump.offered event
    published := hub.published ++ [event] }

/-- `pump_websocket`, up to its first await. -/
def connect (hub : EventHub Event) (maxsize : Nat) (replay : Bool) : Pump Event :=
  let pump : Pump Event :=
    { subscriber := { maxsize := maxsize }, stage := .waiting, replay := replay,
      joined := hub.published.length }
  if replay then pump.replayNext hub.recent else pump

/-- One pump resumes. -/
def resume (hub : EventHub Event) (index : Nat)
    (turn : Pump Event → Option (Pump Event)) : Option (EventHub Event) :=
  (hub.pumps[index]?.bind turn).map fun pump => { hub with pumps := hub.pumps.set index pump }

/-- What follows a `send_json` that returned. -/
def returned (pump : Pump Event) : Option (Pump Event) :=
  match pump.stage with
  | .replaying rest => some (pump.replayNext rest)
  | .sending => some { pump with stage := .waiting }
  | _ => none

/-- `get` in a task of its own. -/
def taking (pump : Pump Event) : Option (Pump Event) :=
  match pump.stage, pump.subscriber.queue with
  | .waiting, event :: rest =>
    some { pump with
      stage := .taken event
      subscriber := { pump.subscriber with queue := rest } }
  | _, _ => none

/-- What follows a `wait_for` that returned. -/
def getting (ownTask : Bool) (pump : Pump Event) : Option (Pump Event) :=
  match pump.stage, pump.subscriber.queue with
  | .waiting, event :: rest =>
    if ownTask then none
    else some ({ pump with subscriber := { pump.subscriber with queue := rest } }.send
      (.event event))
  | .taken event, _ => some (pump.send (.event event))
  | _, _ => none

/-- What follows a `wait_for` that timed out. -/
def idling (pump : Pump Event) : Option (Pump Event) :=
  match pump.stage with
  | .waiting => some (pump.send (.heartbeat pump.subscriber.dropped))
  | _ => none

/-- The end of the `with`: the subscriber is discarded. -/
def closing (pump : Pump Event) : Option (Pump Event) :=
  if pump.stage.subscribed then some { pump with stage := .closed } else none

/-- One step; `ownTask` says whether `wait_for` makes a task of `get`. -/
def step (ownTask : Bool) (hub : EventHub Event) : HubAction Event → Option (EventHub Event)
  | .publish event => some (hub.publish event)
  | .connect maxsize replay =>
    some { hub with pumps := hub.pumps ++ [hub.connect maxsize replay] }
  | .sent index => hub.resume index returned
  | .take index => if ownTask then hub.resume index taking else none
  | .got index => hub.resume index (getting ownTask)
  | .idle index => hub.resume index idling
  | .gone index => hub.resume index closing

end EventHub

end DeviceOrchestrator
