import DeviceOrchestrator.Verif.Leasing
import DeviceOrchestrator.Verif.Retirement

/-!
# The orchestrator follows its parts

A run of the orchestrator is a run of the scheduler whose other parties mint tokens once
(`scheduler_run`), and a run of the monitor whose workers report only devices they see ONLINE
(`health_run`). What was proved of either part alone holds of it inside the orchestrator.
-/
namespace DeviceOrchestrator

open Transition (Run)

namespace HealthWorld

variable {config : HealthConfig} {world after : HealthWorld} {action : HealthAction}

/-- A turn changes no lease and mints no token. -/
theorem leases_turn (turn : Turn) (registry : Registry) (deviceId : DeviceId) :
    (Turn.registry turn registry deviceId).leases = registry.leases ∧
      (Turn.registry turn registry deviceId).issued = registry.issued := by
  cases counted : turn.counted with
  | false =>
    cases write : turn.write with
    | none => simp [Turn.registry, counted, write]
    | some written => simp [Turn.registry, counted, write, Registry.setState]
  | true =>
    cases write : turn.write with
    | none => simp [Turn.registry, counted, write, Registry.countRecovery]
    | some written =>
      simp [Turn.registry, counted, write, Registry.countRecovery, Registry.setState]

/-- **Where the registry comes from after a step**: a turn of some coroutine, or another party. -/
theorem step_registry (taken : step config world action = some after) :
    (∃ turn deviceId, after.registry = Turn.registry turn world.registry deviceId) ∨
      ∃ change, action = .others change ∧
        world.registry.change change = some after.registry := by
  have idle : ∃ turn deviceId, world.registry = Turn.registry turn world.registry deviceId :=
    ⟨{ stage := .returned }, "", rfl⟩
  cases stepped taken with
  | sweeps | reports | collects | ticks => exact .inl idle
  | @resumes index call answer turn found turns =>
    exact .inl ⟨turn, call.deviceId, (apply_frame world index call turn).2.2.1⟩
  | @writes index rest call turn first found done =>
    exact .inl ⟨turn, call.deviceId, (apply_frame _ index call turn).2.2.1⟩
  | @changes change registry changed => exact .inr ⟨change, rfl, changed⟩

end HealthWorld

namespace Orchestrator

variable {config : OrchestratorConfig} {orchestrator after : Orchestrator}
variable {action : OrchestratorAction}

/-- A poll or a step of the monitor changes no lease and mints no token. -/
theorem leases_monitor {world after : HealthWorld} {action : HealthAction}
    (own : ∀ change, action = .others change → unprompted action = true)
    (taken : HealthWorld.step config.health world action = some after) :
    after.registry.leases = world.registry.leases ∧
      after.registry.issued = world.registry.issued := by
  rcases HealthWorld.step_registry taken with ⟨turn, deviceId, registry⟩ | ⟨change, rfl, changed⟩
  · rw [registry]
    exact HealthWorld.leases_turn turn world.registry deviceId
  · have unprompted := own change rfl
    cases change with
    | refresh polled =>
      have same := Option.some.inj changed
      rw [← same]
      exact ⟨rfl, rfl⟩
    | lease selector token => cases unprompted
    | unlease lease => cases unprompted
    | setState deviceId state note => cases unprompted

/-- **What a step is made of.** -/
inductive Stepped (config : OrchestratorConfig) (orchestrator : Orchestrator) :
    OrchestratorAction → Orchestrator → Prop
  /-- A step of the scheduler alone. -/
  | scheduled (action : SchedulerAction) (world : SchedulerWorld)
      (own : ∀ registry, action ≠ .others registry)
      (answers : orchestrator.answers action = true)
      (taken : SchedulerWorld.step config.wired orchestrator.leasing action = some world)
      (quiet : reports world.scheduler action = none) :
      Stepped config orchestrator (.scheduler action) (orchestrator.leased world)
  /-- A worker blames an ONLINE device and calls the monitor. -/
  | reported (worker index : Nat) (outcome : Outcome) (draw : Rat) (lease : Lease)
      (reason : String) (world : SchedulerWorld) (health : HealthWorld)
      (taken : SchedulerWorld.step config.wired orchestrator.leasing
        (.executed worker outcome draw) = some world)
      (registry : world.registry = orchestrator.registry)
      (online : orchestrator.registry.stateOf lease.deviceId = some .online)
      (waits : world.scheduler.workers[worker]? = some (.busy index (.quarantining lease reason)))
      (called : HealthWorld.step config.health orchestrator.health
        (.quarantine worker lease.deviceId reason) = some health) :
      Stepped config orchestrator (.scheduler (.executed worker outcome draw))
        ⟨world.scheduler, health⟩
  /-- A step of the monitor, or a poll. -/
  | monitored (action : HealthAction) (health : HealthWorld)
      (unprompted : unprompted action = true)
      (taken : HealthWorld.step config.health orchestrator.health action = some health) :
      Stepped config orchestrator (.health action) ⟨orchestrator.scheduler, health⟩

/-- Every step is one of these. -/
theorem step_cases (taken : step config orchestrator action = some after) :
    Stepped config orchestrator action after := by
  cases action with
  | scheduler action =>
    simp only [step] at taken
    split at taken
    · rename_i answers
      obtain ⟨world, stepped, taken⟩ := Option.bind_eq_some_iff.mp taken
      have own : ∀ registry, action ≠ .others registry := by
        rintro registry rfl
        cases answers
      split at taken
      · rename_i quiet
        obtain rfl := Option.some.inj taken
        exact .scheduled action world own answers stepped quiet
      · rename_i report asked
        unfold reports at asked
        split at asked
        · rename_i worker outcome draw
          split at asked
          · rename_i index lease reason waits
            obtain rfl := Option.some.inj asked
            obtain ⟨health, called, rfl⟩ := Option.map_eq_some_iff.mp taken
            obtain ⟨-, registry, online, -⟩ := SchedulerWorld.executed_asks stepped waits
            have same : (orchestrator.leased world).health = orchestrator.health := by
              simp only [leased, registry]
              rfl
            rw [same] at called
            exact .reported worker index outcome draw lease reason world health stepped registry
              online waits called
          · cases asked
        · cases asked
    · cases taken
  | health action =>
    simp only [step] at taken
    split at taken
    · rename_i unprompted
      obtain ⟨health, stepped, rfl⟩ := Option.map_eq_some_iff.mp taken
      exact .monitored action health unprompted stepped
    · cases taken

/-- What the monitor sees of a step of the scheduler. -/
theorem leased_health {world : SchedulerWorld}
    (leasing : SchedulerWorld.Leasing orchestrator.leasing world) :
    Run (HealthWorld.step config.health) HealthWorld.Parties orchestrator.health
      (orchestrator.leased world).health := by
  cases leasing with
  | kept registry carried =>
    have same : (orchestrator.leased world).health = orchestrator.health := by
      simp only [leased, registry]
      rfl
    rw [same]
    exact .refl
  | granted worker lease online free changes registry taken others =>
    obtain ⟨selector, changed⟩ := changes
    have seen : HealthWorld.step config.health orchestrator.health
        (.others (.lease selector lease.token)) = some (orchestrator.leased world).health :=
      Option.map_eq_some_iff.mpr ⟨world.registry, changed, rfl⟩
    have parties : orchestrator.health.Parties (.others (.lease selector lease.token)) := trivial
    exact .single parties seen
  | released worker lease held registry gone others =>
    have seen : HealthWorld.step config.health orchestrator.health
        (.others (.unlease lease)) = some (orchestrator.leased world).health := by
      simp only [HealthWorld.step, Registry.change, Option.map_some, leased, registry]
      rfl
    have parties : orchestrator.health.Parties (.others (.unlease lease)) := trivial
    exact .single parties seen

/-- **The monitor inside the orchestrator.** Every run is a run of the monitor in which workers
report only devices they see ONLINE and nobody else forces a state. -/
theorem health_run {allowed : Orchestrator → OrchestratorAction → Prop} {start : Orchestrator}
    (run : Run (step config) allowed start orchestrator) :
    Run (HealthWorld.step config.health) HealthWorld.Parties start.health
      orchestrator.health := by
  refine run.simulate Orchestrator.health fun _ _ stepped => ?_
  cases step_cases stepped with
  | scheduled action world own answers taken quiet =>
    exact leased_health (SchedulerWorld.leasing_step own taken)
  | reported worker index outcome draw lease reason world health taken registry online waits
      called =>
    have parties : HealthWorld.Parties _ (.quarantine worker lease.deviceId reason) := online
    exact .single parties called
  | monitored action health unprompted taken =>
    refine .single ?_ taken
    cases action with
    | quarantine worker deviceId reason => cases unprompted
    | others change =>
      cases change with
      | setState deviceId state note => cases unprompted
      | _ => exact trivial
    | _ => exact trivial

/-- **The scheduler inside the orchestrator.** Every run is a run of the scheduler in which the
other parties mint tokens once. -/
theorem scheduler_run {allowed : Orchestrator → OrchestratorAction → Prop} {start : Orchestrator}
    (run : Run (step config) allowed start orchestrator) :
    Run (SchedulerWorld.step config.wired) SchedulerWorld.Fair start.leasing
      orchestrator.leasing := by
  refine run.simulate Orchestrator.leasing fun {before _ _} _ _ stepped => ?_
  have watched : ∀ {scheduler : Scheduler} {before after : HealthWorld} {action : HealthAction},
      (∀ change, action = .others change → unprompted action = true) →
      HealthWorld.step config.health before action = some after →
      Run (SchedulerWorld.step config.wired) SchedulerWorld.Fair ⟨before.registry, scheduler⟩
        ⟨after.registry, scheduler⟩ := by
    intro scheduler before after action own taken
    obtain ⟨leases, issued⟩ := leases_monitor own taken
    have fair : SchedulerWorld.Fair ⟨before.registry, scheduler⟩ (.others after.registry) :=
      ⟨fun token member => by rwa [issued], fun deviceId lease entry => .inl (by rwa [← leases])⟩
    exact .single fair rfl
  cases step_cases stepped with
  | scheduled action world own answers taken quiet =>
    have fair : ∀ world : SchedulerWorld, world.Fair action := by
      intro world
      cases action with
      | others registry => exact absurd rfl (own registry)
      | _ => exact trivial
    exact .single (fair _) taken
  | reported worker index outcome draw lease reason world health taken registry online waits
      called =>
    have first : Run (SchedulerWorld.step config.wired) SchedulerWorld.Fair _ world :=
      .single (by exact trivial) taken
    have same : world = ⟨before.registry, world.scheduler⟩ := by
      rw [← registry]
    rw [same] at first
    have own : ∀ change, HealthAction.quarantine worker lease.deviceId reason = .others change →
        unprompted (.quarantine worker lease.deviceId reason) = true := fun _ same => by cases same
    exact first.trans (watched own called)
  | monitored action health unprompted taken =>
    exact watched (fun _ _ => unprompted) taken

end Orchestrator

end DeviceOrchestrator
