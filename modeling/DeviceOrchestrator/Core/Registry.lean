import DeviceOrchestrator.Core.Device
import DeviceOrchestrator.Lib.Run

/-!
# The registry as a step function

Calls of `refresh`, `acquire`, `release` and `set_state` share one condition variable. A call
is suspended while it waits for the poll, for the lock, or inside the condition's `wait`, and
runs without interruption in between. A wait with a timeout runs as an inner task of `wait_for`
that takes over the caller's lock, so the lock stays held while the caller and its inner task
hand it to each other (`WaitPhase`); where `wait_for` awaits in the caller itself, the two steps of
such a hand-over happen at once. The lock may go to any call that waits for it.
-/
namespace DeviceOrchestrator

/-- Why an `acquire` with a timeout holds the lock while it is suspended. -/
inductive WaitPhase
  /-- The inner task has yet to give up the lock and wait. -/
  | park
  /-- The wait was notified and has the lock again. -/
  | look
  /-- The wait timed out and has the lock again. -/
  | giveUp
  deriving DecidableEq

/-- A call of the registry, by what it waits for or how it ended. -/
inductive Call
  /-- `refresh` awaits the poll. -/
  | polling
  /-- `refresh` awaits the lock. -/
  | refreshing (polled : List Device)
  /-- `acquire` awaits the lock for the first time. -/
  | acquiring (selector : DeviceSelector) (timed : Bool)
  /-- `acquire` is inside the condition's `wait`, notified since it last looked or not. -/
  | waiting (selector : DeviceSelector) (timed notified : Bool)
  /-- `acquire` is suspended with the lock. -/
  | holding (selector : DeviceSelector) (phase : WaitPhase)
  /-- `acquire` returned. -/
  | returned (lease : Option Lease)
  /-- The call raised. -/
  | raised
  /-- `release` awaits the lock. -/
  | releasing (lease : Lease)
  /-- `set_state` awaits the lock. -/
  | settingState (deviceId : DeviceId) (state : DeviceState) (note : String)
  /-- Another call returned. -/
  | done

namespace Call

/-- `notify_all` reaches the calls inside `wait`. -/
def notify : Call → Call
  | waiting selector timed _ => waiting selector timed true
  | call => call

/-- The lease an `acquire` returned. -/
def lease? : Call → Option Lease
  | returned lease => lease
  | _ => none

/-- The lease a `release` was given and has yet to take out of the table. -/
def giving? : Call → Option Lease
  | releasing lease => some lease
  | _ => none

/-- The selector of an `acquire` in progress. -/
def selector? : Call → Option DeviceSelector
  | acquiring selector _ | waiting selector _ _ | holding selector _ => some selector
  | _ => none

@[simp]
theorem lease?_notify (call : Call) : call.notify.lease? = call.lease? := by
  cases call <;> rfl

@[simp]
theorem giving?_notify (call : Call) : call.notify.giving? = call.giving? := by
  cases call <;> rfl

end Call

/-- The registry with its lock and the calls in progress. -/
structure RegistryWorld where
  /-- The registry. -/
  registry : Registry := {}
  /-- The suspended call that holds the lock. -/
  holder : Option Nat := none
  /-- Every call made so far. -/
  calls : List Call := []
  /-- Tokens of the leases whose `released` flag is set. -/
  released : List Nat := []

/-- Who calls, which call resumes, and what its await answered. -/
inductive RegistryAction
  /-- Call `refresh`. -/
  | refresh
  /-- The poll answers. -/
  | polled (call : Nat) (devices : List Device)
  /-- The poll raises. -/
  | pollRaised (call : Nat)
  /-- Call `acquire`. -/
  | acquire (selector : DeviceSelector) (timed : Bool)
  /-- Call `release` with the lease that a call of `acquire` returned. -/
  | release (call : Nat)
  /-- Call `set_state`. -/
  | setState (deviceId : DeviceId) (state : DeviceState) (note : String)
  /-- A call gets the lock. The token is that of the lease it may make, and the flag says
  whether its time is up. -/
  | enter (call token : Nat) (outOfTime : Bool)
  /-- A wait times out and gets the lock. -/
  | timeout (call : Nat)
  /-- A suspended call that holds the lock runs on. -/
  | resume (call token : Nat) (outOfTime : Bool)

namespace RegistryWorld

/-- A call begins. -/
def start (world : RegistryWorld) (call : Call) : RegistryWorld :=
  { world with calls := world.calls ++ [call] }

/-- A call runs until it gives up the lock. -/
def settle (world : RegistryWorld) (index : Nat) (call : Call) : RegistryWorld :=
  { world with calls := world.calls.set index call, holder := none }

/-- A call is suspended with the lock. -/
def hold (world : RegistryWorld) (index : Nat) (call : Call) : RegistryWorld :=
  { world with calls := world.calls.set index call, holder := some index }

/-- `notify_all`. -/
def notifyAll (world : RegistryWorld) : RegistryWorld :=
  { world with calls := world.calls.map Call.notify }

/-- The same calls around another registry. -/
def withRegistry (world : RegistryWorld) (registry : Registry) : RegistryWorld :=
  { world with registry := registry }

/-- One turn of the loop of `acquire`, with the lock. -/
def look (world : RegistryWorld) (index : Nat) (selector : DeviceSelector) (timed : Bool)
    (token : Nat) (outOfTime : Bool) : RegistryWorld :=
  match world.registry.findFree selector with
  | .error _ => world.settle index .raised
  | .ok (some device) =>
    (world.withRegistry (world.registry.grant ⟨device.id, token⟩)).settle index
      (.returned (some ⟨device.id, token⟩))
  | .ok none =>
    if !timed then world.settle index (.waiting selector timed false)
    else if outOfTime then world.settle index (.returned none)
    else world.hold index (.holding selector .park)

/-- `set_state` with the lock: it notifies only when it changes something. -/
def force (world : RegistryWorld) (deviceId : DeviceId) (state : DeviceState) (note : String) :
    RegistryWorld :=
  match world.registry.get deviceId with
  | none => world
  | some device =>
    if device.state = state then world
    else (world.withRegistry (world.registry.setState deviceId state note)).notifyAll

/-- One step of one call. -/
def step (world : RegistryWorld) : RegistryAction → Option RegistryWorld
  | .refresh => some (world.start .polling)
  | .polled index devices =>
    match world.calls[index]? with
    | some .polling =>
      some { world with calls := world.calls.set index (.refreshing devices) }
    | _ => none
  | .pollRaised index =>
    match world.calls[index]? with
    | some .polling => some { world with calls := world.calls.set index .raised }
    | _ => none
  | .acquire selector timed => some (world.start (.acquiring selector timed))
  | .release index =>
    match world.calls[index]? with
    | some (.returned (some lease)) =>
      if lease.token ∈ world.released then some (world.start .done)
      else
        some ({ world with released := lease.token :: world.released }.start (.releasing lease))
    | _ => none
  | .setState deviceId state note => some (world.start (.settingState deviceId state note))
  | .enter index token outOfTime =>
    if world.holder.isSome then none
    else match world.calls[index]? with
      | some (.refreshing polled) =>
        some ((world.withRegistry (world.registry.refresh polled)).notifyAll.settle index .done)
      | some (.acquiring selector timed) =>
        some (world.look index selector timed token outOfTime)
      | some (.waiting selector timed true) =>
        if timed then some (world.hold index (.holding selector .look))
        else some (world.look index selector timed token outOfTime)
      | some (.releasing lease) =>
        some ((world.withRegistry (world.registry.unlease lease)).notifyAll.settle index .done)
      | some (.settingState deviceId state note) =>
        some ((world.force deviceId state note).settle index .done)
      | _ => none
  | .timeout index =>
    if world.holder.isSome then none
    else match world.calls[index]? with
      | some (.waiting selector true _) => some (world.hold index (.holding selector .giveUp))
      | _ => none
  | .resume index token outOfTime =>
    match world.calls[index]? with
    | some (.holding selector .park) =>
      some (world.settle index (.waiting selector true false))
    | some (.holding selector .look) =>
      some (world.look index selector true token outOfTime)
    | some (.holding _ .giveUp) => some (world.settle index (.returned none))
    | _ => none

/-- Tokens are minted once: the token of a step that may make a lease is new. -/
def Distinct (world : RegistryWorld) : RegistryAction → Prop
  | .enter _ token _ | .resume _ token _ => token ∉ world.registry.issued
  | _ => True

instance (world : RegistryWorld) (action : RegistryAction) :
    Decidable (world.Distinct action) := by
  cases action <;> unfold Distinct <;> infer_instance

end RegistryWorld

end DeviceOrchestrator
