import Mathlib.Data.List.Perm.Basic
import DeviceOrchestrator.Core.Orchestrator

/-!
# Starting and stopping the orchestrator

`Orchestrator.start` polls the devices and starts the monitor and the workers. `Orchestrator.stop`
first awaits the workers and then stops the monitor: `HealthMonitor.stop` cancels the sweep loop,
and with it the checks that it gathers, and then one after the other the episodes that `_recoveries`
held at that moment, each of which it awaits. A cancelled coroutine runs nothing but its handlers
any more, so it ends where it is suspended. Sessions are left out, and so is a second `stop` while
one is in progress.
-/
namespace DeviceOrchestrator

namespace HealthWorld

/-- `task.cancel()`: the coroutine raises where it is suspended, and asks for no lock. -/
def cancel (world : HealthWorld) (index : Nat) : HealthWorld :=
  match world.calls[index]? with
  | none => world
  | some call =>
    if call.stage.over then world
    else
      { world with
        calls := world.calls.set index { call with stage := .raised }
        waiting := world.waiting.erase index }

/-- Cancelling the sweep loop cancels the checks it gathers. -/
def cancelLoop (world : HealthWorld) : HealthWorld :=
  { world with
    calls := world.calls.map fun call =>
      if call.role = .check ∧ call.stage.over = false then { call with stage := .raised } else call
    waiting := world.waiting.filter fun index =>
      !world.calls[index]?.any fun call => call.role = .check }

/-- `_recoveries.values()`, in the order in which the episodes were made. -/
def entries (world : HealthWorld) : List Nat :=
  (List.range world.calls.length).filter fun index =>
    world.calls[index]?.any fun call => world.recoveries call.deviceId = some index

end HealthWorld

/-- How far the orchestrator is in its life. -/
inductive Phase
  /-- Not started, or stopped. -/
  | down
  /-- Started. -/
  | up
  /-- `stop` awaits the scheduler. -/
  | settling
  /-- `stop` awaits the monitor, which has yet to cancel these episodes. -/
  | halting (episodes : List Nat)
  deriving DecidableEq

/-- An orchestrator with what `start` and `stop` are at. -/
structure Lifecycle where
  /-- The parts. -/
  orchestrator : Orchestrator := {}
  /-- What is being done to them. -/
  phase : Phase := .down

/-- What happens next. -/
inductive LifecycleAction
  /-- `start`, with what its poll found. -/
  | start (polled : List Device)
  /-- `stop`, up to its first await. -/
  | stop
  /-- The workers have returned, and `HealthMonitor.stop` begins; `dict` keeps the order in which
  the entries were made. -/
  | settled (order : List Nat)
  /-- `HealthMonitor.stop` goes on to its next task, or returns. -/
  | halted
  /-- One of the parts takes a step. -/
  | within (action : OrchestratorAction)

namespace Lifecycle

/-- Only `start` and `stop` start and stop the workers, and a loop that was cancelled sweeps no
more. -/
def lets (phase : Phase) : OrchestratorAction → Bool
  | .scheduler .start | .scheduler .stop | .scheduler (.stopped _) => false
  | .health .sweep => phase = .up ∨ phase = .settling
  | _ => true

/-- The same phase with other parts. -/
def withParts (life : Lifecycle) (orchestrator : Orchestrator) : Lifecycle :=
  { life with orchestrator := orchestrator }

/-- The parts after `registry.refresh`. -/
def refreshed (orchestrator : Orchestrator) (polled : List Device) : Orchestrator :=
  { orchestrator with
    health := { orchestrator.health with registry := orchestrator.registry.refresh polled } }

/-- One step. -/
def step (config : OrchestratorConfig) (life : Lifecycle) : LifecycleAction → Option Lifecycle
  | .start polled =>
    match life.phase with
    | .down =>
      (SchedulerWorld.step config.wired (refreshed life.orchestrator polled).leasing .start).map
        fun world => ⟨(refreshed life.orchestrator polled).leased world, .up⟩
    | _ => some life
  | .stop =>
    match life.phase with
    | .down => some life
    | .up =>
      (SchedulerWorld.step config.wired life.orchestrator.leasing .stop).map fun world =>
        ⟨life.orchestrator.leased world, .settling⟩
    | _ => none
  | .settled order =>
    match life.phase with
    | .settling =>
      if order.Perm life.orchestrator.health.entries then
        (SchedulerWorld.step config.wired life.orchestrator.leasing (.stopped 0)).map fun world =>
          ⟨{ life.orchestrator.leased world with
              health := (life.orchestrator.leased world).health.cancelLoop }, .halting order⟩
      else none
    | _ => none
  | .halted =>
    match life.phase with
    | .halting [] =>
      some ⟨{ life.orchestrator with
          health := { life.orchestrator.health with recoveries := fun _ => none } }, .down⟩
    | .halting (index :: rest) =>
      some ⟨{ life.orchestrator with health := life.orchestrator.health.cancel index },
        .halting rest⟩
    | _ => none
  | .within action =>
    if lets life.phase action then
      (Orchestrator.step config life.orchestrator action).map life.withParts
    else none

end Lifecycle

end DeviceOrchestrator
