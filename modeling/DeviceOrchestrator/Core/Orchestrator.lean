import DeviceOrchestrator.Core.Health

/-!
# Scheduler, monitor and registry together

`Orchestrator` wires one scheduler and one monitor to one registry. A step is a step of the
scheduler, a step of the monitor, or a poll. A worker that blames an ONLINE device calls
`quarantine` in the same step, and goes on only when that call has ended. Nobody else leases,
releases or forces a state.
-/
namespace DeviceOrchestrator

/-- What an orchestrator is built with. -/
structure OrchestratorConfig where
  /-- The scheduler's part. -/
  scheduler : SchedulerConfig
  /-- The monitor's part. -/
  health : HealthConfig := {}

/-- The scheduler's part, with the monitor wired in. -/
def OrchestratorConfig.wired (config : OrchestratorConfig) : SchedulerConfig :=
  { config.scheduler with health := true }

/-- `Orchestrator`. The registry is the one the monitor watches. -/
structure Orchestrator where
  /-- The scheduler. -/
  scheduler : Scheduler := {}
  /-- The monitor and the registry. -/
  health : HealthWorld := {}

/-- Who takes the next step. -/
inductive OrchestratorAction
  /-- A coroutine of the scheduler, or a client of it. -/
  | scheduler (action : SchedulerAction)
  /-- A coroutine of the monitor, a poll, or time. -/
  | health (action : HealthAction)

namespace Orchestrator

/-- The registry. -/
def registry (orchestrator : Orchestrator) : Registry := orchestrator.health.registry

/-- The scheduler with the registry it leases from. -/
def leasing (orchestrator : Orchestrator) : SchedulerWorld :=
  ⟨orchestrator.registry, orchestrator.scheduler⟩

/-- The orchestrator after a step of the scheduler. -/
def leased (orchestrator : Orchestrator) (world : SchedulerWorld) : Orchestrator where
  scheduler := world.scheduler
  health := { orchestrator.health with registry := world.registry }

/-- Whether the call of `quarantine` that a worker awaits has ended in this way. The worker
makes one such call at a time. -/
def reportEnded (orchestrator : Orchestrator) (worker : Nat) (stage : Stage) : Bool :=
  let reports := orchestrator.health.calls.filter fun call => call.role = .report worker
  reports.all (fun call => call.stage.over) &&
    decide (reports.getLast?.map HealthCall.stage = some stage)

/-- The steps of the scheduler: those that wait for the monitor wait until it answers. -/
def answers (orchestrator : Orchestrator) : SchedulerAction → Bool
  | .quarantined worker _ => orchestrator.reportEnded worker .returned
  | .quarantineRaised worker => orchestrator.reportEnded worker .raised
  | .others _ => false
  | _ => true

/-- The call of the monitor that a step of the scheduler ends with. -/
def reports (scheduler : Scheduler) : SchedulerAction → Option HealthAction
  | .executed worker _ _ =>
    match scheduler.workers[worker]? with
    | some (.busy _ (.quarantining lease reason)) =>
      some (.quarantine worker lease.deviceId reason)
    | _ => none
  | _ => none

/-- The steps that the monitor and the polls take of themselves. -/
def unprompted : HealthAction → Bool
  | .quarantine _ _ _ => false
  | .others (.refresh _) => true
  | .others _ => false
  | _ => true

/-- One step. -/
def step (config : OrchestratorConfig) (orchestrator : Orchestrator) :
    OrchestratorAction → Option Orchestrator
  | .scheduler action =>
    if orchestrator.answers action then
      (SchedulerWorld.step config.wired orchestrator.leasing action).bind fun world =>
        match reports world.scheduler action with
        | none => some (orchestrator.leased world)
        | some report =>
          (HealthWorld.step config.health (orchestrator.leased world).health report).map
            fun health => { orchestrator.leased world with health := health }
    else none
  | .health action =>
    if unprompted action then
      (HealthWorld.step config.health orchestrator.health action).map fun health =>
        { orchestrator with health := health }
    else none

end Orchestrator

end DeviceOrchestrator
