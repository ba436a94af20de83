import DeviceOrchestrator.Core.Lifecycle
import DeviceOrchestrator.Verif.Holding
import DeviceOrchestrator.Verif.Recoveries
import DeviceOrchestrator.Verif.Shutdown

/-!
# What is left when the orchestrator has stopped

`Orchestrator.stop` stops the workers before the monitor, so while the monitor is being stopped
nobody reports a device and nobody sweeps: no coroutine of the monitor is made any more, and each
one that still runs is an episode which is yet to be cancelled or which `_recoveries` did not hold
(`Hushed`). The workers have returned and carry no lease, so the table is empty unless a sink cost
one (`Steady`).
-/
namespace DeviceOrchestrator

open Transition (History)

namespace HealthWorld

variable {config : HealthConfig} {world after : HealthWorld} {action : HealthAction}
variable {index : Nat} {call : HealthCall} {turn : Turn}

/-- A turn creates an episode only where it spawns. -/
theorem calls_unspawned (unspawned : turn.spawn = false) :
    (world.apply index call turn).calls =
      world.calls.set index { call with stage := turn.stage } := by
  unfold HealthWorld.apply
  rw [unspawned]
  rfl

/-- Only a check or a report creates an episode. -/
theorem spawn_role {answer : HealthAnswer} (taken : world.turn config call answer = some turn)
    (spawns : turn.spawn = true) (fits : call.role.fits call.stage = true) :
    call.role ≠ .episode := by
  obtain ⟨role, deviceId, stage⟩ := call
  have at_ : stage = .announcingQuarantined ∨ stage = .probing := by
    cases turn_cases taken with
    | quarantined at_ turned => exact .inl at_
    | spawns at_ asked state turned => exact .inr at_
    | onward keeps passive work => cases passive.spawn.symm.trans spawns
    | begun at_ asked few adb episode passive => cases passive.spawn.symm.trans spawns
    | retired at_ stage passive => cases passive.spawn.symm.trans spawns
    | restores at_ asked state turned | marks at_ asked state turned
    | retires at_ asked many turned | virtual at_ asked few slot turned
    | reconnects number at_ asked turned =>
      subst turned
      cases spawns
  rintro rfl
  rcases at_ with rfl | rfl <;> cases fits

/-- Where a coroutine that runs comes from. -/
inductive Origin (world : HealthWorld) (action : HealthAction) (index : Nat) (call : HealthCall) :
    Prop
  /-- It ran before. -/
  | ran (old : HealthCall) (found : world.calls[index]? = some old) (role : old.role = call.role)
      (device : old.deviceId = call.deviceId) (live : old.stage.over = false)
  /-- A sweep made it. -/
  | swept (asked : action = .sweep) (role : call.role = .check)
  /-- A worker made it. -/
  | reported (worker : Nat) (deviceId : DeviceId) (reason : String)
      (asked : action = .quarantine worker deviceId reason) (role : call.role = .report worker)
  /-- A check or a report made it. -/
  | spawned (parent : HealthCall) (member : parent ∈ world.calls)
      (live : parent.stage.over = false) (other : parent.role ≠ .episode)
      (role : call.role = .episode)

/-- **Coroutines come from somewhere.** -/
theorem origin_step (fitting : world.Fitting) (taken : step config world action = some after)
    (there : after.calls[index]? = some call) (live : call.stage.over = false) :
    Origin world action index call := by
  have kept : world.calls[index]? = some call → Origin world action index call :=
    fun found => .ran call found rfl rfl live
  have rewritten : ∀ {slot : Nat} {old : HealthCall} {stage : Stage},
      world.calls[slot]? = some old → old.stage.over = false →
      (world.calls.set slot { old with stage := stage })[index]? = some call →
      Origin world action index call := by
    intro slot old stage found runs moved
    rcases Slots.getElem?_rewritten moved with ⟨rfl, rfl⟩ | ⟨-, earlier⟩
    · exact .ran old found rfl rfl runs
    · exact kept earlier
  cases stepped taken with
  | sweeps =>
    rcases Slots.getElem?_extended there with earlier | new
    · exact kept earlier
    · obtain ⟨device, -, rfl⟩ := List.mem_map.mp new
      exact .swept rfl rfl
  | reports worker deviceId reason =>
    rcases Slots.getElem?_extended there with earlier | new
    · exact kept earlier
    · obtain rfl := List.mem_singleton.mp new
      exact .reported worker deviceId reason rfl rfl
  | @resumes slot old answer turn found turns =>
    obtain ⟨runs, -⟩ := turn_live turns
    rcases calls_apply world slot old turn with calls | calls
    · exact rewritten found runs (calls ▸ there)
    · rw [calls] at there
      rcases Slots.getElem?_extended there with moved | new
      · exact rewritten found runs moved
      · obtain rfl := List.mem_singleton.mp new
        have spawns : turn.spawn = true := by
          by_contra unspawned
          have same : (world.apply slot old turn).calls =
              world.calls.set slot { old with stage := turn.stage } :=
            calls_unspawned (Bool.eq_false_iff.mpr unspawned)
          simpa using congrArg List.length (calls.symm.trans same)
        exact .spawned old (List.mem_of_getElem? found) runs
          (spawn_role turns spawns (fitting slot old found)) rfl
  | @writes slot rest old turn first found done =>
    obtain ⟨runs, -, unspawned, -⟩ := written_moves done
    rw [calls_unspawned unspawned] at there
    exact rewritten found runs there
  | collects found ended uncleared =>
    rcases Slots.getElem?_rewritten there with ⟨rfl, rfl⟩ | ⟨-, earlier⟩
    · cases live
    · exact kept earlier
  | ticks forward => exact kept there
  | changes changed => exact kept there

/-- A cancelled coroutine has ended, and the others are as they were. -/
theorem calls_cancel {other : Nat} {found : HealthCall}
    (there : (world.cancel index).calls[other]? = some found) (live : found.stage.over = false) :
    other ≠ index ∧ world.calls[other]? = some found := by
  unfold HealthWorld.cancel at there
  split at there
  · rename_i absent
    refine ⟨?_, there⟩
    rintro rfl
    cases absent.symm.trans there
  · rename_i call known
    split at there
    · rename_i ended
      refine ⟨?_, there⟩
      rintro rfl
      obtain rfl := Option.some.inj (known.symm.trans there)
      cases live.symm.trans ended
    · rcases Slots.getElem?_rewritten there with ⟨rfl, rfl⟩ | ⟨apart, earlier⟩
      · cases live
      · exact ⟨apart, earlier⟩

/-- Where the loop was cancelled no check runs, and the others are as they were. -/
theorem calls_cancelLoop {found : HealthCall}
    (there : world.cancelLoop.calls[index]? = some found) (live : found.stage.over = false) :
    found.role ≠ .check ∧ world.calls[index]? = some found := by
  simp only [cancelLoop, List.getElem?_map] at there
  obtain ⟨call, known, rfl⟩ := Option.map_eq_some_iff.mp there
  split at live
  · cases live
  · rename_i other
    refine ⟨fun check => other ?_, ?_⟩
    · rw [if_neg other] at check
      exact ⟨check, live⟩
    · rw [if_neg other]
      exact known

/-- Cancelling changes no lease. -/
theorem leases_cancel (index : Nat) :
    (world.cancel index).registry.leases = world.registry.leases := by
  unfold HealthWorld.cancel
  split
  · rfl
  · split <;> rfl

/-- A coroutine that is cancelled stays in a stage of its role. -/
theorem Fitting.cancel (fitting : world.Fitting) (index : Nat) :
    (world.cancel index).Fitting := by
  unfold HealthWorld.cancel
  split
  · exact fitting
  · rename_i call known
    split
    · exact fitting
    · exact fitting.set (by cases call.role <;> rfl)

/-- So do the checks of the loop. -/
theorem Fitting.cancelLoop (fitting : world.Fitting) : world.cancelLoop.Fitting := by
  intro index found there
  simp only [HealthWorld.cancelLoop, List.getElem?_map] at there
  obtain ⟨call, known, rfl⟩ := Option.map_eq_some_iff.mp there
  have fits := fitting index call known
  split
  · cases call.role <;> rfl
  · exact fits

end HealthWorld

namespace SchedulerWorld

variable {config : SchedulerConfig} {world after : SchedulerWorld} {action : SchedulerAction}

/-- Only `start` and `stop` change the roster. -/
theorem roster_step {phase : Phase} (lets : Lifecycle.lets phase (.scheduler action) = true)
    (taken : step config world action = some after) :
    after.scheduler.roster = world.scheduler.roster := by
  cases staffing_step taken with
  | works worker old ids found alive went gets_ single puts_ => exact went.roster
  | rests ids workers queue roster gets_ puts_ => exact roster
  | leaves worker found workers queue roster gets_ puts_ => exact roster
  | starts started stopped workers queue roster gets_ puts_ =>
    cases started
    cases lets
  | stops stopped runs workers queue roster gets_ puts_ =>
    cases stopped
    cases lets
  | returns call gathered returned awaited all workers queue roster gets_ puts_ =>
    cases returned
    cases lets

/-- Where every worker has returned, none is at work. -/
theorem idle_of_staff {scheduler : Scheduler} (nobody : scheduler.staff = 0) {worker index : Nat}
    {point : Point} (busy : scheduler.workers[worker]? = some (.busy index point)) : False := by
  cases Scheduler.exited_of_staff nobody (List.mem_of_getElem? busy)

/-- Where every worker has returned, none carries a lease. -/
theorem leaseOf_of_staff (nobody : world.scheduler.staff = 0) (worker : Nat) :
    world.leaseOf worker = none := by
  cases found : world.scheduler.workers[worker]? with
  | none => simp [leaseOf, found]
  | some state =>
    obtain rfl := Scheduler.exited_of_staff nobody (List.mem_of_getElem? found)
    simp [leaseOf, found, Worker.lease]

/-- Where every worker has returned, a sink costs nothing. -/
theorem loses_of_staff (nobody : world.scheduler.staff = 0) : world.loses action = none := by
  cases lost : world.loses action with
  | none => rfl
  | some lease =>
    cases action with
    | sinkRaised worker =>
      simp only [loses] at lost
      split at lost
      · rename_i index held attempt record at_
        exact (idle_of_staff nobody (at?_eq_some.mp at_).1).elim
      · cases lost
    | _ => cases lost

end SchedulerWorld

namespace Lifecycle

open SchedulerWorld (Ledger)
open Scheduler (Staffed)

/-- A step as it was taken. -/
abbrev Taken := Transition.Taken Lifecycle LifecycleAction

/-- The lease that a step cost. -/
def Taken.loses (taken : Taken) : Option Lease :=
  match taken.action with
  | .within (.scheduler action) => taken.before.orchestrator.leasing.loses action
  | _ => none

/-- The lease was lost at some step of a run. -/
def Lost (past : List Taken) (lease : Lease) : Prop := ∃ taken ∈ past, taken.loses = some lease

/-- Every live report is awaited by its worker. -/
def Awaited (orchestrator : Orchestrator) : Prop :=
  ∀ (index worker : Nat) (call : HealthCall), orchestrator.health.calls[index]? = some call →
    call.role = .report worker → call.stage.over = false →
    ∃ (task : Nat) (lease : Lease) (reason : String),
      orchestrator.scheduler.workers[worker]? = some (.busy task (.quarantining lease reason))

/-- Workers are hired while the orchestrator is up, and awaited while it settles. -/
structure Duty (phase : Phase) (scheduler : Scheduler) : Prop where
  /-- The scheduler runs. -/
  running : scheduler.running = decide (phase = .up)
  /-- No `stop` awaits its workers. -/
  awaited : scheduler.stopping = [] ↔ phase ≠ .settling

/-- **What holds at every moment of a life.** -/
structure Steady (config : OrchestratorConfig) (lost : Lease → Prop) (life : Lifecycle) :
    Prop where
  /-- Who is on duty. -/
  staffed : Staffed config.wired life.orchestrator.scheduler
  /-- The table is what is carried and what was lost. -/
  ledger : Ledger life.orchestrator.leasing lost
  /-- Coroutines are in stages of their roles. -/
  fitting : life.orchestrator.health.Fitting
  /-- Every live report is awaited by its worker. -/
  awaited : Awaited life.orchestrator
  /-- The scheduler is where the phase says. -/
  duty : Duty life.phase life.orchestrator.scheduler

variable {config : OrchestratorConfig} {lost : Lease → Prop} {life after : Lifecycle}
variable {action : LifecycleAction}

/-- A life that has not begun. -/
theorem Steady.initial : Steady config (fun _ => False) {} where
  staffed := .off rfl rfl rfl
  ledger := .initial
  fitting := nofun
  awaited := nofun
  duty := ⟨rfl, by simp⟩

/-- Nobody is on duty unless the orchestrator is up or settles. -/
theorem Steady.nobody (steady : Steady config lost life) (apart : life.phase ≠ .up)
    (settled : life.phase ≠ .settling) : life.orchestrator.scheduler.staff = 0 := by
  have stopped : life.orchestrator.scheduler.running = false := by
    rw [steady.duty.running, decide_eq_false apart]
  have unawaited := steady.duty.awaited.mpr settled
  cases steady.staffed with
  | off off nobody clean => exact nobody
  | on pool on size all clean members =>
    have runs : life.orchestrator.scheduler.running = true :=
      congrArg (fun roster => roster.2.2) on
    rw [stopped] at runs
    cases runs
  | closing pool closing each members =>
    have awaited : life.orchestrator.scheduler.stopping = [pool] :=
      congrArg (fun roster => roster.2.1) closing
    rw [unawaited] at awaited
    cases awaited

/-- Other coroutines may end, and workers that wait may wait on. -/
theorem Awaited.follow {orchestrator after : Orchestrator} (awaited : Awaited orchestrator)
    (calls : ∀ (index : Nat) (call : HealthCall), after.health.calls[index]? = some call →
      call.stage.over = false → ∃ old : HealthCall,
        orchestrator.health.calls[index]? = some old ∧ old.role = call.role ∧
          old.stage.over = false)
    (workers : ∀ (worker task : Nat) (lease : Lease) (reason : String),
      orchestrator.scheduler.workers[worker]? = some (.busy task (.quarantining lease reason)) →
      after.scheduler.workers[worker]? = some (.busy task (.quarantining lease reason))) :
    Awaited after := by
  intro index worker call there role live
  obtain ⟨old, found, same, runs⟩ := calls index call there live
  obtain ⟨task, lease, reason, waits⟩ := awaited index worker old found (same.trans role) runs
  exact ⟨task, lease, reason, workers worker task lease reason waits⟩

/-- A worker whose report runs does not hear from it. -/
theorem unreported {orchestrator : Orchestrator} {index worker : Nat} {call : HealthCall}
    {stage : Stage} (found : orchestrator.health.calls[index]? = some call)
    (role : call.role = .report worker) (live : call.stage.over = false) :
    orchestrator.reportEnded worker stage = false := by
  have report : call ∈ orchestrator.health.calls.filter fun call => call.role = .report worker :=
    List.mem_filter.mpr ⟨List.mem_of_getElem? found, by simp [role]⟩
  have unfinished : (orchestrator.health.calls.filter fun call =>
      call.role = .report worker).all (fun call => call.stage.over) = false := by
    rw [List.all_eq_false]
    exact ⟨call, report, by simp [live]⟩
  simp [Orchestrator.reportEnded, unfinished]

/-- A step of the parts keeps reports awaited. -/
theorem Awaited.step {orchestrator after : Orchestrator} {action : OrchestratorAction}
    (awaited : Awaited orchestrator) (fitting : orchestrator.health.Fitting)
    (stepped : Orchestrator.step config orchestrator action = some after) : Awaited after := by
  cases Orchestrator.step_cases stepped with
  | scheduled action world own answers taken quiet =>
    intro index worker call there role live
    have found : orchestrator.health.calls[index]? = some call := there
    obtain ⟨task, lease, reason, waits⟩ := awaited index worker call found role live
    refine ⟨task, lease, reason, ?_⟩
    rcases SchedulerWorld.quarantining_waits waits taken with ⟨draw, rfl⟩ | rfl | stays
    · have ended : orchestrator.reportEnded worker .returned = true := answers
      rw [unreported found role live] at ended
      cases ended
    · have ended : orchestrator.reportEnded worker .raised = true := answers
      rw [unreported found role live] at ended
      cases ended
    · exact stays
  | reported worker index outcome draw lease reason world health taken registry online waits
      called =>
    intro slot other call there role live
    cases HealthWorld.origin_step fitting called there live with
    | ran old found same device runs =>
      obtain ⟨task, lease', reason', waits'⟩ :=
        awaited slot other old found (same.trans role) runs
      refine ⟨task, lease', reason', ?_⟩
      rcases SchedulerWorld.quarantining_waits waits' taken with ⟨draw, impossible⟩ |
        impossible | stays
      · cases impossible
      · cases impossible
      · exact stays
    | swept asked _ => cases asked
    | reported made deviceId why asked mine =>
      cases asked
      cases mine.symm.trans role
      exact ⟨index, lease, reason, waits⟩
    | spawned parent member running apart episode => cases episode.symm.trans role
  | monitored action health unprompted taken =>
    intro slot other call there role live
    cases HealthWorld.origin_step fitting taken there live with
    | ran old found same device runs => exact awaited slot other old found (same.trans role) runs
    | swept asked check => cases check.symm.trans role
    | reported made deviceId why asked mine =>
      cases asked
      cases unprompted
    | spawned parent member running apart episode => cases episode.symm.trans role

/-- A step of the parts keeps their coroutines in stages of their roles. -/
theorem fitting_step {orchestrator after : Orchestrator} {action : OrchestratorAction}
    (fitting : orchestrator.health.Fitting)
    (stepped : Orchestrator.step config orchestrator action = some after) :
    after.health.Fitting := by
  cases Orchestrator.step_cases stepped with
  | scheduled action world own answers taken quiet => exact fitting
  | reported worker index outcome draw lease reason world health taken registry online waits
      called => exact fitting.step (HealthWorld.step_call called)
  | monitored action health unprompted taken => exact fitting.step (HealthWorld.step_call taken)

/-- A step of the parts that the phase lets through keeps the duty. -/
theorem duty_step {orchestrator after : Orchestrator} {action : OrchestratorAction}
    {phase : Phase} (staffed : Staffed config.wired orchestrator.scheduler)
    (duty : Duty phase orchestrator.scheduler) (may : lets phase action = true)
    (stepped : Orchestrator.step config orchestrator action = some after) :
    Staffed config.wired after.scheduler ∧ Duty phase after.scheduler := by
  have scheduled : ∀ {action : SchedulerAction} {world : SchedulerWorld},
      lets phase (.scheduler action) = true →
      SchedulerWorld.step config.wired orchestrator.leasing action = some world →
      Staffed config.wired world.scheduler ∧ Duty phase world.scheduler := by
    intro action world may taken
    have ordered : SchedulerWorld.Ordered orchestrator.leasing action := by
      cases action with
      | start => cases may
      | _ => trivial
    have roster : world.scheduler.roster = orchestrator.scheduler.roster :=
      SchedulerWorld.roster_step may taken
    refine ⟨SchedulerWorld.staffed_step staffed ordered taken, ?_, ?_⟩
    · exact (congrArg (fun roster => roster.2.2) roster).trans duty.running
    · have same : world.scheduler.stopping = orchestrator.scheduler.stopping :=
        congrArg (fun roster => roster.2.1) roster
      rw [same]
      exact duty.awaited
  cases Orchestrator.step_cases stepped with
  | scheduled action world own answers taken quiet => exact scheduled may taken
  | reported worker index outcome draw lease reason world health taken registry online waits
      called => exact scheduled may taken
  | monitored action health unprompted taken => exact ⟨staffed, duty⟩

/-- A step that costs nothing leaves what was lost. -/
theorem unlost {loss : Option Lease} (spared : loss = none) :
    (fun lease => loss = some lease ∨ lost lease) = lost := by
  funext lease
  simp [spared]

/-- Starting or stopping the workers keeps the ledger. -/
theorem ledger_roster {orchestrator : Orchestrator} {world : SchedulerWorld}
    {action : SchedulerAction} (ledger : Ledger orchestrator.leasing lost)
    (own : ∀ registry, action ≠ .others registry)
    (spared : orchestrator.leasing.loses action = none)
    (taken : SchedulerWorld.step config.wired orchestrator.leasing action = some world) :
    Ledger world lost := by
  have followed := ledger.step (SchedulerWorld.booking_step own taken)
    (SchedulerWorld.leasing_step own taken)
  rwa [unlost spared] at followed

/-- Starting or stopping the workers keeps reports awaited. -/
theorem Awaited.roster {orchestrator : Orchestrator} {world : SchedulerWorld}
    {action : SchedulerAction} (awaited : Awaited orchestrator)
    (silent : action.worker? = none)
    (taken : SchedulerWorld.step config.wired orchestrator.leasing action = some world) :
    Awaited (orchestrator.leased world) := by
  apply awaited.follow
  · intro index call there live
    exact ⟨call, there, rfl, live⟩
  · intro worker task lease reason waits
    rcases SchedulerWorld.quarantining_waits waits taken with ⟨draw, rfl⟩ | rfl | stays
    · cases silent
    · cases silent
    · exact stays

/-- `start` keeps the life steady: nobody is left from the life before. -/
theorem Steady.starts {polled : List Device} (steady : Steady config lost life)
    (stepped : Lifecycle.step config life (.start polled) = some after) :
    Steady config lost after := by
  simp only [Lifecycle.step] at stepped
  split at stepped
  · rename_i down
    obtain ⟨world, taken, rfl⟩ := Option.map_eq_some_iff.mp stepped
    have unawaited : life.orchestrator.scheduler.stopping = [] :=
      steady.duty.awaited.mpr (by simp [down])
    have stopped : life.orchestrator.scheduler.running = false := by
      simp [steady.duty.running, down]
    have followed : Ledger (refreshed life.orchestrator polled).leasing lost :=
      steady.ledger.follow (by rfl) (by rfl)
    have awaited : Awaited (refreshed life.orchestrator polled) := steady.awaited
    have ordered : SchedulerWorld.Ordered (refreshed life.orchestrator polled).leasing .start :=
      unawaited
    refine ⟨?_, ?_, steady.fitting, awaited.roster (by rfl) taken, ?_⟩
    · exact SchedulerWorld.staffed_step steady.staffed ordered taken
    · exact ledger_roster followed (by rintro registry ⟨⟩) rfl taken
    · cases taken
      constructor
      · simp [refreshed, Orchestrator.leased, SchedulerWorld.withScheduler,
          Orchestrator.leasing, Scheduler.start, stopped]
      · simp [refreshed, Orchestrator.leased, SchedulerWorld.withScheduler,
          Orchestrator.leasing, Scheduler.start, stopped, unawaited]
  · obtain rfl := Option.some.inj stepped
    exact steady

/-- `stop` keeps the life steady until the workers are awaited. -/
theorem Steady.stops (steady : Steady config lost life)
    (stepped : Lifecycle.step config life .stop = some after) : Steady config lost after := by
  simp only [Lifecycle.step] at stepped
  split at stepped
  · obtain rfl := Option.some.inj stepped
    exact steady
  · rename_i up
    obtain ⟨world, taken, rfl⟩ := Option.map_eq_some_iff.mp stepped
    have runs : life.orchestrator.scheduler.running = true := by
      simp [steady.duty.running, up]
    have ordered : SchedulerWorld.Ordered life.orchestrator.leasing .stop := trivial
    refine ⟨?_, ?_, steady.fitting, steady.awaited.roster (by rfl) taken, ?_⟩
    · exact SchedulerWorld.staffed_step steady.staffed ordered taken
    · exact ledger_roster steady.ledger (by rintro registry ⟨⟩) rfl taken
    · cases taken
      constructor
      · simp [Orchestrator.leased, SchedulerWorld.withScheduler, Orchestrator.leasing,
          Scheduler.stop, runs]
      · simp [Orchestrator.leased, SchedulerWorld.withScheduler, Orchestrator.leasing,
          Scheduler.stop, runs]
  · cases stepped

/-- When the workers have returned, the monitor is to be stopped. -/
theorem Steady.settles {order : List Nat} (steady : Steady config lost life)
    (stepped : Lifecycle.step config life (.settled order) = some after) :
    Steady config lost after := by
  simp only [Lifecycle.step] at stepped
  split at stepped
  · rename_i settling
    split at stepped
    · obtain ⟨world, taken, rfl⟩ := Option.map_eq_some_iff.mp stepped
      have ordered : SchedulerWorld.Ordered life.orchestrator.leasing (.stopped 0) := trivial
      have staffed : Staffed config.wired world.scheduler :=
        SchedulerWorld.staffed_step steady.staffed ordered taken
      have ledger : Ledger world lost :=
        ledger_roster steady.ledger (by rintro registry ⟨⟩) rfl taken
      have awaited := steady.awaited.roster (by rfl) taken
      refine ⟨staffed, ?_, steady.fitting.cancelLoop, ?_, ?_⟩
      · exact ledger.follow (by rfl) (by rfl)
      · apply awaited.follow
        · intro index call there live
          exact ⟨call, (HealthWorld.calls_cancelLoop there live).2, rfl, live⟩
        · exact fun worker task lease reason waits => waits
      · obtain ⟨gathered, found, all, ended⟩ := SchedulerWorld.stopped_step taken
        obtain ⟨off, -, -⟩ := Scheduler.Staffed.returns steady.staffed world.scheduler found all
          (by rw [ended]; rfl) (by rw [ended]; rfl) (by rw [ended]; rfl)
        constructor
        · exact congrArg (fun roster => roster.2.2) off
        · have unawaited : world.scheduler.stopping = [] :=
            congrArg (fun roster => roster.2.1) off
          simpa [Orchestrator.leased] using unawaited
    · cases stepped
  · cases stepped

/-- Cancelling an episode, or clearing `_recoveries`, keeps the life steady. -/
theorem Steady.halts (steady : Steady config lost life)
    (stepped : Lifecycle.step config life .halted = some after) : Steady config lost after := by
  simp only [Lifecycle.step] at stepped
  split at stepped
  · rename_i halting
    obtain rfl := Option.some.inj stepped
    refine ⟨steady.staffed, steady.ledger, steady.fitting, steady.awaited, ?_⟩
    exact ⟨by simp [steady.duty.running, halting], by simp [steady.duty.awaited, halting]⟩
  · rename_i index rest halting
    obtain rfl := Option.some.inj stepped
    refine ⟨steady.staffed, ?_, steady.fitting.cancel index, ?_, ?_⟩
    · exact steady.ledger.follow (HealthWorld.leases_cancel index) (by rfl)
    · apply steady.awaited.follow
      · intro other call there live
        exact ⟨call, (HealthWorld.calls_cancel there live).2, rfl, live⟩
      · exact fun worker task lease reason waits => waits
    · exact ⟨by simp [steady.duty.running, halting], by simp [steady.duty.awaited, halting]⟩
  · cases stepped

/-- **Every step keeps the life steady**, with the lease it costs added. -/
theorem Steady.step (steady : Steady config lost life)
    (stepped : Lifecycle.step config life action = some after) :
    Steady config (fun lease => Taken.loses ⟨life, action, after⟩ = some lease ∨ lost lease)
      after := by
  cases action with
  | start polled =>
    rw [unlost (by rfl)]
    exact steady.starts stepped
  | stop =>
    rw [unlost (by rfl)]
    exact steady.stops stepped
  | settled order =>
    rw [unlost (by rfl)]
    exact steady.settles stepped
  | halted =>
    rw [unlost (by rfl)]
    exact steady.halts stepped
  | within action =>
    simp only [Lifecycle.step] at stepped
    split at stepped
    · rename_i may
      obtain ⟨parts, taken, rfl⟩ := Option.map_eq_some_iff.mp stepped
      obtain ⟨staffed, duty⟩ := duty_step steady.staffed steady.duty may taken
      refine ⟨staffed, ?_, fitting_step steady.fitting taken,
        steady.awaited.step steady.fitting taken, duty⟩
      have ledger := Orchestrator.ledger_follows steady.ledger taken
      have same : Orchestrator.Taken.loses ⟨life.orchestrator, action, parts⟩ =
          Taken.loses ⟨life, .within action, life.withParts parts⟩ := by
        cases action with
        | scheduler action => rfl
        | health action => rfl
      rw [same] at ledger
      exact ledger
    · cases stepped

/-- What was lost after one more step. -/
theorem lost_cons (taken : Taken) (past : List Taken) (lease : Lease) :
    Lost (taken :: past) lease ↔ taken.loses = some lease ∨ Lost past lease := by
  simp [Lost]

/-- **Every life is steady.** -/
theorem steady_run {past : List Taken}
    (history : History (Lifecycle.step config) (fun _ _ => True) {} past life) :
    Steady config (Lost past) life := by
  apply history.invariant fun past life => Steady config (Lost past) life
  · have nothing : Lost [] = fun _ => False := funext fun lease => by simp [Lost]
    rw [nothing]
    exact .initial
  · intro past state action after _ steady _ stepped
    have more : Lost (⟨state, action, after⟩ :: past) =
        fun lease => Taken.loses ⟨state, action, after⟩ = some lease ∨ Lost past lease :=
      funext fun lease => propext (lost_cons _ past lease)
    rw [more]
    exact steady.step stepped

/-- When the workers have been awaited, all have returned. -/
theorem settled_staff {world : SchedulerWorld} (steady : Steady config lost life)
    (taken : SchedulerWorld.step config.wired life.orchestrator.leasing (.stopped 0) =
      some world) : life.orchestrator.scheduler.staff = 0 := by
  obtain ⟨gathered, found, all, ended⟩ := SchedulerWorld.stopped_step taken
  obtain ⟨-, nobody, -⟩ := Scheduler.Staffed.returns steady.staffed world.scheduler found all
    (by rw [ended]; rfl) (by rw [ended]; rfl) (by rw [ended]; rfl)
  rw [ended] at nobody
  exact nobody

/-- **What is left while the monitor is stopped**: each coroutine that runs is an episode that ran
when `HealthMonitor.stop` was called, and if `_recoveries` held it then, it is yet to be
cancelled. -/
def Hushed (called : HealthWorld) (life : Lifecycle) : Prop :=
  ∃ remaining : List Nat, life.phase = .halting remaining ∧
    ∀ (index : Nat) (call : HealthCall), life.orchestrator.health.calls[index]? = some call →
      call.stage.over = false →
      call.role = .episode ∧ called.Unfinished index call.deviceId ∧
        (called.recoveries call.deviceId = some index → index ∈ remaining)

/-- Cancelling the loop leaves only episodes. -/
theorem hushed_settled {order : List Nat} (steady : Steady config lost life)
    (stepped : Lifecycle.step config life (.settled order) = some after) :
    Hushed life.orchestrator.health after := by
  simp only [Lifecycle.step] at stepped
  split at stepped
  · split at stepped
    · rename_i ordered
      obtain ⟨world, taken, rfl⟩ := Option.map_eq_some_iff.mp stepped
      obtain ⟨gathered, found, all, -⟩ := SchedulerWorld.stopped_step taken
      refine ⟨order, rfl, fun index call there live => ?_⟩
      obtain ⟨unchecked, known⟩ := HealthWorld.calls_cancelLoop there live
      have episode : call.role = .episode := by
        cases role : call.role with
        | check => exact absurd role unchecked
        | episode => rfl
        | report worker =>
          obtain ⟨task, lease, reason, waits⟩ := steady.awaited index worker call known role live
          exact (SchedulerWorld.idle_of_staff (settled_staff steady taken) waits).elim
      have before : life.orchestrator.health.calls[index]? = some call := known
      obtain ⟨bound, -⟩ := List.getElem?_eq_some_iff.mp before
      refine ⟨episode, ⟨call.stage, ?_, live⟩, fun entry => ?_⟩
      · rw [before, ← episode]
      · rw [ordered.mem_iff]
        exact List.mem_filter.mpr ⟨List.mem_range.mpr bound, by simp [before, entry]⟩
    · cases stepped
  · cases stepped

/-- What has been let go before stays so where no coroutine is made. -/
theorem Hushed.follow {called : HealthWorld} {orchestrator : Orchestrator}
    (hushed : Hushed called life)
    (calls : ∀ (index : Nat) (call : HealthCall), orchestrator.health.calls[index]? = some call →
      call.stage.over = false → ∃ old : HealthCall,
        life.orchestrator.health.calls[index]? = some old ∧ old.role = call.role ∧
          old.deviceId = call.deviceId ∧ old.stage.over = false) :
    Hushed called (life.withParts orchestrator) := by
  obtain ⟨remaining, halting, each⟩ := hushed
  refine ⟨remaining, halting, fun index call there live => ?_⟩
  obtain ⟨old, found, role, device, runs⟩ := calls index call there live
  rw [← role, ← device]
  exact each index old found runs

/-- Nothing is lost while the monitor is stopped. -/
theorem Hushed.spared {called : HealthWorld} (hushed : Hushed called life)
    (steady : Steady config lost life) : Taken.loses ⟨life, action, after⟩ = none := by
  obtain ⟨remaining, halting, -⟩ := hushed
  have nobody : life.orchestrator.scheduler.staff = 0 :=
    steady.nobody (by simp [halting]) (by simp [halting])
  cases action with
  | within action =>
    cases action with
    | scheduler action => exact SchedulerWorld.loses_of_staff nobody
    | health action => rfl
  | _ => rfl

/-- **Every step keeps the hush.** -/
theorem Hushed.step {called : HealthWorld} (hushed : Hushed called life)
    (steady : Steady config lost life) (stepped : Lifecycle.step config life action = some after)
    (on : after.phase ≠ .down) : Hushed called after := by
  obtain ⟨remaining, halting, each⟩ := hushed
  have nobody : life.orchestrator.scheduler.staff = 0 :=
    steady.nobody (by simp [halting]) (by simp [halting])
  cases action with
  | start polled =>
    simp only [Lifecycle.step, halting] at stepped
    obtain rfl := Option.some.inj stepped
    exact ⟨remaining, halting, each⟩
  | stop =>
    simp only [Lifecycle.step, halting] at stepped
    cases stepped
  | settled order =>
    simp only [Lifecycle.step, halting] at stepped
    cases stepped
  | halted =>
    cases remaining with
    | nil =>
      simp only [Lifecycle.step, halting] at stepped
      obtain rfl := Option.some.inj stepped
      exact absurd rfl on
    | cons first rest =>
      simp only [Lifecycle.step, halting] at stepped
      obtain rfl := Option.some.inj stepped
      refine ⟨rest, rfl, fun index call there live => ?_⟩
      obtain ⟨apart, found⟩ := HealthWorld.calls_cancel there live
      obtain ⟨role, unfinished, entered⟩ := each index call found live
      refine ⟨role, unfinished, fun entry => ?_⟩
      exact List.mem_of_ne_of_mem apart (entered entry)
  | within action =>
    simp only [Lifecycle.step] at stepped
    split at stepped
    · rename_i may
      obtain ⟨parts, went, rfl⟩ := Option.map_eq_some_iff.mp stepped
      refine Hushed.follow ⟨remaining, halting, each⟩ ?_
      cases Orchestrator.step_cases went with
      | scheduled action world own answers taken quiet =>
        exact fun index call there live => ⟨call, there, rfl, rfl, live⟩
      | reported worker index outcome draw lease reason world health taken registry online
          waits reports =>
        cases SchedulerWorld.step_effect taken with
        | executed _ _ _ task held attempt record ended after busy known same goes =>
          exact (SchedulerWorld.idle_of_staff nobody busy).elim
      | monitored action health unprompted taken =>
        intro index call there live
        cases HealthWorld.origin_step steady.fitting taken there live with
        | ran old found role device runs => exact ⟨old, found, role, device, runs⟩
        | swept asked role =>
          cases asked
          simp [lets, halting] at may
        | reported worker deviceId reason asked role =>
          cases asked
          cases unprompted
        | spawned parent member running apart role =>
          obtain ⟨slot, bound, found⟩ := List.mem_iff_getElem.mp member
          have known : life.orchestrator.health.calls[slot]? = some parent := by
            rw [List.getElem?_eq_getElem bound, found]
          exact absurd (each slot parent known running).1 apart
    · cases stepped

/-- **`stop` leaves nothing behind but what had escaped it.** In every life of the orchestrator in
which no worker is cancelled, whatever targets, sinks, adb and clients do otherwise: when a `stop`
that no other overlaps returns, every worker has returned, a device is leased only if a sink cost
its lease, `_recoveries` is empty, and a coroutine of the monitor that still runs is an episode that
ran when `HealthMonitor.stop` was called and was not the entry of its device then. No check runs any
more, and nobody waits for a report. Retries may still sleep. -/
theorem stopped_clean {earlier later : List Taken} {before halting waiting after : Lifecycle}
    {order : List Nat}
    (reached : History (Lifecycle.step config) (fun _ _ => True) {} earlier before)
    (settles : Lifecycle.step config before (.settled order) = some halting)
    (meanwhile : History (Lifecycle.step config) (fun life _ => life.phase ≠ .down) halting later
      waiting)
    (last : waiting.phase = .halting [])
    (returns : Lifecycle.step config waiting .halted = some after) :
    (∀ worker ∈ after.orchestrator.scheduler.workers, worker = .exited) ∧
      (∀ deviceId lease, after.orchestrator.registry.leases deviceId = some lease ↔
        lease.deviceId = deviceId ∧ Lost earlier lease) ∧
      (∀ deviceId, after.orchestrator.health.recoveries deviceId = none) ∧
      ∀ (index : Nat) (call : HealthCall), after.orchestrator.health.calls[index]? = some call →
        call.stage.over = false → before.orchestrator.health.Unfinished index call.deviceId ∧
          before.orchestrator.health.recoveries call.deviceId ≠ some index := by
  have begun := steady_run reached
  have settled : Steady config (Lost earlier) halting := by
    have steady := begun.step settles
    rwa [unlost (by rfl)] at steady
  have hushed : Hushed before.orchestrator.health halting := hushed_settled begun settles
  -- Nobody works while the monitor is stopped, so nothing is lost and no coroutine is made.
  have kept : waiting.phase = .down ∨ Steady config (Lost earlier) waiting ∧
      Hushed before.orchestrator.health waiting := by
    apply meanwhile.run.invariant fun life => life.phase = .down ∨
      Steady config (Lost earlier) life ∧ Hushed before.orchestrator.health life
    · exact .inr ⟨settled, hushed⟩
    · intro state action next _ both on stepped
      obtain ⟨steady, hushed⟩ := both.resolve_left on
      by_cases down : next.phase = .down
      · exact .inl down
      · refine .inr ⟨?_, hushed.step steady stepped down⟩
        have more := steady.step stepped
        rwa [unlost (hushed.spared steady)] at more
  obtain ⟨steady, remaining, halted, each⟩ := kept.resolve_left (by simp [last])
  obtain rfl : remaining = [] := by simpa [last] using halted.symm
  have nobody : waiting.orchestrator.scheduler.staff = 0 :=
    steady.nobody (by simp [last]) (by simp [last])
  simp only [Lifecycle.step, last] at returns
  obtain rfl := Option.some.inj returns
  refine ⟨fun worker member => Scheduler.exited_of_staff nobody member, ?_, fun _ => rfl, ?_⟩
  · intro deviceId lease
    constructor
    · intro entry
      obtain ⟨own, ⟨worker, carried⟩ | lost⟩ := steady.ledger.entries deviceId lease entry
      · rw [SchedulerWorld.leaseOf_of_staff nobody] at carried
        cases carried
      · exact ⟨own, lost⟩
    · rintro ⟨rfl, lost⟩
      exact (steady.ledger.stuck lease lost).1
  · intro index call there live
    obtain ⟨-, unfinished, entered⟩ := each index call there live
    exact ⟨unfinished, fun entry => List.not_mem_nil (entered entry)⟩

namespace Scene

/-- One phone is in recovery and the other is being probed when `stop` is called. -/
def busy : List LifecycleAction :=
  [.start [{ id := "phone-a" }, { id := "phone-b" }], .within (.health .sweep),
    .within (.health (.resume 0 .run)), .within (.health (.resume 1 .run)),
    .within (.health (.resume 0 (.probed false))), .within (.health .write),
    .within (.health (.resume 0 .announced)), .within (.health (.resume 2 .run)), .stop,
    .within (.scheduler (.take 0))]

end Scene

/-- A check and an episode run when `HealthMonitor.stop` is called, and nothing runs when it
returns. -/
theorem stopped_clean_busy : ∃ before after : Lifecycle,
    before.orchestrator.health.Unfinished 2 "phone-a" ∧
      before.orchestrator.health.calls[1]? = some ⟨.check, "phone-b", .probing⟩ ∧
      ∀ (index : Nat) (call : HealthCall), after.orchestrator.health.calls[index]? = some call →
        call.stage.over = true := by
  have passed : (Transition.trace (Transition.guarded (Lifecycle.step Orchestrator.Scene.setup)
      fun _ _ => True) [] {} Scene.busy).any (fun reached =>
        decide (reached.2.orchestrator.health.calls =
          [⟨.check, "phone-a", .returned⟩, ⟨.check, "phone-b", .probing⟩,
            ⟨.episode, "phone-a", .reconnecting 1⟩]) &&
        decide (reached.2.orchestrator.health.recoveries "phone-a" = some 2) &&
        (Lifecycle.step Orchestrator.Scene.setup reached.2 (.settled [2])).any fun halting =>
          (Transition.trace (Transition.guarded (Lifecycle.step Orchestrator.Scene.setup)
            fun life _ => life.phase ≠ .down) [] halting [.halted]).any fun waited =>
              decide (waited.2.phase = .halting []) &&
                (Lifecycle.step Orchestrator.Scene.setup waited.2 .halted).isSome) = true := by
    decide +kernel
  obtain ⟨earlier, before, reached, shown⟩ := Transition.traces passed
  rw [Bool.and_eq_true, Bool.and_eq_true, decide_eq_true_eq, decide_eq_true_eq] at shown
  obtain ⟨⟨calls, entry⟩, shown⟩ := shown
  obtain ⟨halting, settles, shown⟩ := (Option.any_eq_true _ _).mp shown
  obtain ⟨later, waiting, meanwhile, shown⟩ := Transition.traces shown
  obtain ⟨last, returns⟩ := Bool.and_eq_true_iff.mp shown
  obtain ⟨after, returns⟩ := Option.isSome_iff_exists.mp returns
  have clean := stopped_clean reached settles meanwhile (of_decide_eq_true last) returns
  refine ⟨before, after, ⟨.reconnecting 1, by rw [calls]; rfl, rfl⟩, by rw [calls]; rfl, ?_⟩
  intro index call there
  by_contra live
  obtain ⟨⟨stage, found, runs⟩, apart⟩ := clean.2.2.2 index call there (Bool.eq_false_iff.mpr live)
  rw [calls] at found
  match index with
  | 0 | 1 => simp at found
  | 2 =>
    obtain ⟨device, -⟩ : "phone-a" = call.deviceId ∧ Stage.reconnecting 1 = stage := by
      simpa using found
    rw [← device] at apart
    exact apart entry
  | _ + 3 => simp at found

end Lifecycle

end DeviceOrchestrator
