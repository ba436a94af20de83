import DeviceOrchestrator.Verif.Orchestration

/-!
# A blamed device must prove itself

A failure that blames a device pulls it from the pool only if the device is ONLINE at that
moment: then the worker keeps its lease until the monitor has written QUARANTINED (`Marked`), and
from then on only a good probe asks for ONLINE (`Shut`). A device that a poll has just made
OFFLINE is not pulled at all, and the next poll gives it back untested. `Judged` excludes that,
and a restoration that was decided before the failure and is written after it.
-/
namespace DeviceOrchestrator

open Deferred (State)
open Transition (Run History)

namespace Registry

variable {registry after : Registry} {deviceId : DeviceId}

/-- Whether a device is reachable by adb is decided when it is discovered. -/
theorem adbReachable_turn (turn : Turn) (target : DeviceId)
    (adb : registry.adbReachable deviceId = true) :
    (HealthWorld.Turn.registry turn registry target).adbReachable deviceId = true := by
  obtain ⟨device, known, reachable⟩ := (Option.any_eq_true _ _).mp adb
  have counted : ∃ device, (if turn.counted then registry.countRecovery target
      else registry).get deviceId = some device ∧ device.adbReachable = true := by
    split
    · simp only [Registry.get, Registry.countRecovery, Keyed.get?_map]
      simp only [Registry.get] at known
      refine ⟨_, by rw [known]; rfl, ?_⟩
      dsimp only
      split <;> exact reachable
    · exact ⟨device, known, reachable⟩
  obtain ⟨device, known, reachable⟩ := counted
  refine (Option.any_eq_true _ _).mpr ?_
  unfold HealthWorld.Turn.registry
  dsimp only
  split
  · exact ⟨device, known, reachable⟩
  · simp only [Registry.get, Registry.setState, Keyed.get?_map]
    simp only [Registry.get] at known
    refine ⟨_, by rw [known]; rfl, ?_⟩
    dsimp only
    split <;> exact reachable

/-- A poll does not change how a known device is reached. -/
theorem adbReachable_refresh (polled : List Device) (adb : registry.adbReachable deviceId = true) :
    (registry.refresh polled).adbReachable deviceId = true := by
  obtain ⟨device, known, reachable⟩ := (Option.any_eq_true _ _).mp adb
  refine (Option.any_eq_true _ _).mpr ?_
  rw [get_refresh, known]
  cases (discovered polled).get? deviceId with
  | none =>
    refine ⟨_, rfl, ?_⟩
    split <;> exact reachable
  | some found => exact ⟨_, rfl, reachable⟩

end Registry

namespace HealthWorld

/-- The device is held, and no write that waits for it releases it. -/
def Shut (world : HealthWorld) (deviceId : DeviceId) : Prop :=
  world.writes.Settled (fun state => state.held = true) deviceId

/-- A worker's call of `quarantine` waits to write QUARANTINED, and no write behind it releases
the device. -/
def Marked (world : HealthWorld) (worker : Nat) (deviceId : DeviceId) : Prop :=
  world.registry.Knows deviceId ∧ ∃ index reason ahead behind,
    world.calls[index]? = some ⟨.report worker, deviceId, .marking reason⟩ ∧
      world.waiting = ahead ++ index :: behind ∧
      State.Keeps (behind.filterMap (requestOf world.calls)) (fun state => state.held = true)
        deviceId

/-- A step in which the device proves itself: a probe of it is answered, by a sweep or after a
reconnect. -/
def proves (world : HealthWorld) (deviceId : DeviceId) : HealthAction → Bool
  | .resume index (.probed true) =>
    match world.calls[index]? with
    | some ⟨_, other, .probing⟩ | some ⟨_, other, .reprobing _⟩ => other = deviceId
    | _ => false
  | _ => false

variable {config : HealthConfig} {world after : HealthWorld} {action : HealthAction}
variable {deviceId : DeviceId} {worker : Nat}

/-- Without a proof nothing asks to release a device that adb reaches. -/
theorem Why.held {state : DeviceState} (why : Why config world deviceId action state)
    (unproven : world.proves deviceId action = false)
    (adb : world.registry.adbReachable deviceId = true) : state.held = true := by
  cases why with
  | probed index role at_ quarantined => simp [proves, at_] at unproven
  | reconnected index number role at_ => simp [proves, at_] at unproven
  | virtual index role at_ slot few =>
    rw [adb] at slot
    cases slot
  | failing index online => rfl
  | reported worker reason => rfl
  | retires index role at_ => rfl

/-- **A device that is shut stays shut until it proves itself.** -/
theorem Shut.step (shut : world.Shut deviceId) (queued : world.Queued)
    (adb : world.registry.adbReachable deviceId = true)
    (unproven : world.proves deviceId action = false)
    (unforced : ∀ target forced note, action ≠ .others (.setState target forced note))
    (taken : HealthWorld.step config world action = some after) : after.Shut deviceId := by
  obtain ⟨-, writes⟩ := step_writes queued taken
  cases writes with
  | still value pending =>
    have same : after.writes = world.writes := State.ext value pending
    rwa [Shut, same]
  | asks target state why value pending =>
    have same : after.writes = world.writes.ask target state := State.ext value pending
    rw [Shut, same]
    refine State.Settled.ask shut ?_
    rintro rfl
    exact why.held unproven adb
  | serves target state served pending value =>
    have same : after.writes =
        State.mk (State.put world.writes.value target state) after.requests := State.ext value rfl
    rw [Shut, same]
    exact State.Settled.write shut pending
  | others change entered changed pending =>
    have same : after.writes = State.mk after.registry.stateOf world.writes.pending :=
      State.ext rfl pending
    rw [Shut, same]
    refine State.Settled.drift shut fun state found held => ⟨state, ?_, held⟩
    refine Registry.held_change found held (fun target forced note same => ?_) changed
    exact unforced target forced note (same ▸ entered)

/-- A worker's call of `quarantine` marks its device. -/
theorem marked_quarantine {reason : String} (knows : world.registry.Knows deviceId)
    (taken : HealthWorld.step config world (.quarantine worker deviceId reason) = some after) :
    after.Marked worker deviceId := by
  obtain rfl := Option.some.inj taken
  refine ⟨knows, world.calls.length, reason, world.waiting, [], ?_, rfl, nofun⟩
  simp

/-- A call that joins the queue without a proof asks for a hold. -/
theorem joined_held (queued : world.Queued) (unproven : world.proves deviceId action = false)
    (adb : world.registry.adbReachable deviceId = true)
    (taken : HealthWorld.step config world action = some after) {index : Nat}
    (waiting : after.waiting = world.waiting ++ [index])
    (calls : ∀ index ∈ world.waiting, after.calls[index]? = world.calls[index]?)
    {state : DeviceState} (asks : requestOf after.calls index = some (deviceId, state)) :
    state.held = true := by
  have requests : after.requests = world.requests ++ [(deviceId, state)] := by
    have kept : world.waiting.filterMap (requestOf after.calls) = world.requests :=
      requests_congr fun other waits => by rw [requestOf, requestOf, calls other waits]
    rw [HealthWorld.requests, waiting, List.filterMap_append, kept]
    simp [asks]
  have more : after.requests.length = world.requests.length + 1 := by simp [requests]
  obtain ⟨-, writes⟩ := step_writes queued taken
  cases writes with
  | still value pending =>
    rw [pending] at more
    omega
  | asks target other why value pending =>
    rw [requests] at pending
    obtain ⟨rfl, rfl⟩ : deviceId = target ∧ state = other := by simpa using pending
    exact why.held unproven adb
  | serves target other served pending value =>
    have fewer := congrArg List.length pending
    simp only [List.length_cons] at fewer
    omega
  | others change entered changed pending =>
    rw [pending] at more
    omega

/-- **A marked device stays marked until it is shut or proves itself.** -/
theorem Marked.step (marked : world.Marked worker deviceId) (queued : world.Queued)
    (adb : world.registry.adbReachable deviceId = true)
    (unproven : world.proves deviceId action = false)
    (taken : HealthWorld.step config world action = some after) :
    after.Marked worker deviceId ∨ after.Shut deviceId := by
  obtain ⟨knows, index, reason, ahead, behind, found, waiting, keeps⟩ := marked
  have known := knows_step knows taken
  have same : ∀ {others : List Nat},
      (∀ other ∈ others, after.calls[other]? = world.calls[other]?) →
      others.filterMap (requestOf after.calls) = others.filterMap (requestOf world.calls) :=
    fun calls => requests_congr fun other waits => by rw [requestOf, requestOf, calls other waits]
  have within : ∀ other ∈ index :: behind, other ∈ world.waiting := by
    intro other member
    rw [waiting]
    exact List.mem_append_right _ member
  cases step_waits queued taken with
  | same stays calls =>
    left
    refine ⟨known, index, reason, ahead, behind, ?_, stays.trans waiting, ?_⟩
    · rw [calls index (within index List.mem_cons_self), found]
    · rwa [same fun other member => calls other (within other (List.mem_cons_of_mem _ member))]
  | joins joined joins calls =>
    left
    refine ⟨known, index, reason, ahead, behind ++ [joined], ?_, ?_, ?_⟩
    · rw [calls index (within index List.mem_cons_self), found]
    · simp [joins, waiting]
    · rw [List.filterMap_append,
        same fun other member => calls other (within other (List.mem_cons_of_mem _ member))]
      intro state member
      rcases List.mem_append.mp member with earlier | last
      · exact keeps state earlier
      · obtain ⟨other, member, asks⟩ := List.mem_filterMap.mp last
        obtain rfl : other = joined := by simpa using member
        exact joined_held queued unproven adb taken joins calls asks
  | serves first served left calls =>
    cases ahead with
    | nil =>
      right
      obtain ⟨rfl, rest⟩ : index = first ∧ behind = after.waiting := by
        have both := waiting.symm.trans left
        simpa using both
      subst served
      have asked : world.requests = (deviceId, .quarantined) ::
          behind.filterMap (requestOf world.calls) := by
        rw [requests, waiting]
        simp [requestOf, found, Stage.goal]
      have later : after.requests = behind.filterMap (requestOf world.calls) := by
        rw [requests, ← rest]
        exact same (rest ▸ calls)
      obtain ⟨-, writes⟩ := step_writes queued taken
      cases writes with
      | still value pending =>
        have fewer := congrArg List.length (asked.symm.trans (pending.symm.trans later))
        simp at fewer
      | asks target state why value pending => cases why
      | others change entered changed pending => cases entered
      | serves target state served pending value =>
        obtain ⟨⟨rfl, rfl⟩, -⟩ :
            (deviceId = target ∧ DeviceState.quarantined = state) ∧ _ := by
          simpa using asked.symm.trans pending
        have written : after.writes =
            State.mk (State.put world.writes.value deviceId .quarantined) after.requests :=
          State.ext value rfl
        have held : DeviceState.quarantined.held = true := rfl
        have known : ∃ state, world.writes.value deviceId = some state := knows
        have kept : State.Keeps after.requests (fun state => state.held = true) deviceId := by
          rwa [later]
        rw [Shut, written]
        exact State.settled_write known held kept
    | cons next ahead =>
      left
      obtain ⟨rfl, rest⟩ : next = first ∧ ahead ++ index :: behind = after.waiting := by
        have both := waiting.symm.trans left
        simpa using both
      have stay : ∀ other ∈ index :: behind, after.calls[other]? = world.calls[other]? := by
        intro other member
        exact calls other (rest ▸ List.mem_append_right _ member)
      refine ⟨known, index, reason, ahead, behind, ?_, rest.symm, ?_⟩
      · rw [stay index List.mem_cons_self, found]
      · rwa [same fun other member => stay other (List.mem_cons_of_mem _ member)]

end HealthWorld

/-- A worker that waits for the monitor stays there until its call has ended. -/
theorem SchedulerWorld.quarantining_waits {config : SchedulerConfig}
    {world after : SchedulerWorld} {action : SchedulerAction} {worker index : Nat}
    {lease : Lease} {reason : String}
    (waits : world.scheduler.workers[worker]? = some (.busy index (.quarantining lease reason)))
    (taken : step config world action = some after) :
    (∃ draw, action = .quarantined worker draw) ∨ action = .quarantineRaised worker ∨
      after.scheduler.workers[worker]? = some (.busy index (.quarantining lease reason)) := by
  by_cases own : action.worker? = some worker
  · have at_ : ∀ {state : Worker}, world.scheduler.workers[worker]? = some state →
        state = .busy index (.quarantining lease reason) := fun found =>
      Option.some.inj (found.symm.trans waits)
    cases step_effect taken with
    | pill other rest idle head => cases own; cases at_ idle
    | take other taskId rest idle head => cases own; cases at_ idle
    | leased other token _ record device attempts busy known free fresh length =>
      cases own; cases at_ busy
    | leaseTimeout other draw _ record after busy known went => cases own; cases at_ busy
    | leaseError other _ record error busy known raised => cases own; cases at_ busy
    | sinkReturned other _ point record after busy known went =>
      cases own
      cases at_ busy
      cases went
    | sinkRaised other _ point record after busy known went =>
      cases own
      cases at_ busy
      cases went
    | executed other outcome draw _ held attempt record ended after busy known same went =>
      cases own; cases at_ busy
    | quarantined other draw _ held why record after busy known went =>
      cases own
      exact .inl ⟨draw, rfl⟩
    | quarantineRaised other _ held why record busy known =>
      cases own
      exact .inr (.inl rfl)
    | releasedQuietly other _ held record busy known pending => cases own; cases at_ busy
    | released other _ held record busy known settled => cases own; cases at_ busy
    | _ => cases own
  · exact .inr (.inr (worker_step waits own taken))

namespace Orchestrator

variable {config : OrchestratorConfig} {orchestrator after : Orchestrator}
variable {action : OrchestratorAction} {deviceId : DeviceId}

/-- A step as it was taken. -/
abbrev Taken := Transition.Taken Orchestrator OrchestratorAction

/-- An attempt on a device that adb reaches ends in a failure that blames the device. -/
def Taken.blames (taken : Taken) (deviceId : DeviceId) : Bool :=
  match taken.action with
  | .scheduler (.executed worker outcome _) =>
    match taken.before.leasing.at? worker with
    | some (_, .executing lease _, _) =>
      decide (lease.deviceId = deviceId) && outcome.blamesDevice &&
        taken.before.registry.adbReachable deviceId
    | _ => false
  | _ => false

/-- A probe of the device is answered, by a sweep or after a reconnect. -/
def Taken.proves (taken : Taken) (deviceId : DeviceId) : Bool :=
  match taken.action with
  | .health action => taken.before.health.proves deviceId action
  | .scheduler _ => false

/-- A lease on the device is granted. -/
def Taken.grants (taken : Taken) (deviceId : DeviceId) : Bool :=
  (taken.after.registry.leases deviceId).any fun lease =>
    decide (taken.before.registry.leases deviceId ≠ some lease)

/-- When an attempt blames its device, the device is ONLINE, or held with no restoration waiting
for the lock. -/
def Judged (orchestrator : Orchestrator) : OrchestratorAction → Prop
  | .scheduler (.executed worker outcome _) =>
    match orchestrator.leasing.at? worker with
    | some (_, .executing lease _, _) =>
      outcome.blamesDevice = true → orchestrator.registry.adbReachable lease.deviceId = true →
        orchestrator.registry.stateOf lease.deviceId = some .online ∨
        ((orchestrator.registry.stateOf lease.deviceId).any DeviceState.held = true ∧
          ∀ request ∈ orchestrator.health.requests, request.1 = lease.deviceId →
            request.2.held = true)
    | _ => True
  | _ => True

instance (orchestrator : Orchestrator) (action : OrchestratorAction) :
    Decidable (orchestrator.Judged action) := by
  unfold Judged
  split
  · split <;> infer_instance
  · infer_instance

/-- What every run keeps: the order of the monitor's writes and the leases of the workers. -/
structure Consistent (orchestrator : Orchestrator) : Prop where
  /-- The queue of the lock. -/
  queued : orchestrator.health.Queued
  /-- Each worker's lease is entered. -/
  carrying : orchestrator.leasing.Carrying

/-- No lease on the device is granted before it proves itself: it is shut, or a worker that
carries a lease on it waits until it is. -/
structure Guarded (orchestrator : Orchestrator) (deviceId : DeviceId) : Prop where
  /-- adb reaches the device. -/
  adb : orchestrator.registry.adbReachable deviceId = true
  /-- Who keeps it. -/
  kept : orchestrator.health.Shut deviceId ∨ ∃ worker index lease reason,
    orchestrator.scheduler.workers[worker]? = some (.busy index (.quarantining lease reason)) ∧
      lease.deviceId = deviceId ∧ orchestrator.health.Marked worker deviceId

/-- **A step keeps the queue and the leases in order.** -/
theorem Consistent.step (consistent : orchestrator.Consistent)
    (stepped : Orchestrator.step config orchestrator action = some after) :
    after.Consistent := by
  cases step_cases stepped with
  | scheduled action world own answers taken quiet =>
    exact ⟨⟨consistent.queued.asks, consistent.queued.once⟩,
      consistent.carrying.step (SchedulerWorld.leasing_step own taken)⟩
  | reported worker index outcome draw lease reason world health taken registry online waits
      called =>
    have own : ∀ registry, SchedulerAction.executed worker outcome draw ≠ .others registry :=
      nofun
    have carrying := consistent.carrying.step (SchedulerWorld.leasing_step own taken)
    refine ⟨(HealthWorld.step_writes consistent.queued called).1,
      carrying.follow ?_ rfl⟩
    rw [registry]
    exact (leases_monitor (by rintro change ⟨⟩) called).1
  | monitored action health unprompted taken =>
    refine ⟨(HealthWorld.step_writes consistent.queued taken).1,
      consistent.carrying.follow ?_ rfl⟩
    exact (leases_monitor (fun _ _ => unprompted) taken).1

/-- Every run from the beginning is in order. -/
theorem Consistent.run {allowed : Orchestrator → OrchestratorAction → Prop}
    (run : Run (Orchestrator.step config) allowed {} orchestrator) :
    orchestrator.Consistent := by
  have initial : ({} : Orchestrator).Consistent := by
    refine ⟨⟨fun index waits => ?_, List.nodup_nil⟩, ⟨fun worker lease holds => ?_,
      fun worker other lease lease' holds => ?_⟩⟩
    · cases waits
    · simp [SchedulerWorld.leaseOf, leasing] at holds
    · simp [SchedulerWorld.leaseOf, leasing] at holds
  exact run.invariant Consistent initial fun _ consistent _ taken => consistent.step taken

/-- A registry with the same devices reaches the same devices. -/
theorem adbReachable_devices {registry after : Registry}
    (devices : after.devices = registry.devices) :
    after.adbReachable deviceId = registry.adbReachable deviceId := by
  simp [Registry.adbReachable, Registry.get, devices]

/-- A step of the monitor or a poll changes no device's transport. -/
theorem adbReachable_monitor {world after : HealthWorld} {action : HealthAction}
    (own : ∀ change, action = .others change → unprompted action = true)
    (adb : world.registry.adbReachable deviceId = true)
    (taken : HealthWorld.step config.health world action = some after) :
    after.registry.adbReachable deviceId = true := by
  rcases HealthWorld.step_registry taken with ⟨turn, target, registry⟩ | ⟨change, rfl, changed⟩
  · rw [registry]
    exact Registry.adbReachable_turn turn target adb
  · have unprompted := own change rfl
    cases change with
    | refresh polled =>
      have same := Option.some.inj changed
      rw [← same]
      exact Registry.adbReachable_refresh polled adb
    | lease selector token => cases unprompted
    | unlease lease => cases unprompted
    | setState target state note => cases unprompted

/-- Leasing changes nothing for a device that is shut. -/
theorem shut_leased {world : SchedulerWorld} (shut : orchestrator.health.Shut deviceId)
    (devices : world.registry.devices = orchestrator.registry.devices) :
    (orchestrator.leased world).health.Shut deviceId := by
  have states : world.registry.stateOf = orchestrator.registry.stateOf := by
    funext other
    simp [Registry.stateOf, Registry.get, devices]
  have same : (orchestrator.leased world).health.writes = orchestrator.health.writes :=
    State.ext states rfl
  rwa [HealthWorld.Shut, same]

/-- Leasing changes nothing for a device that is marked. -/
theorem marked_leased {world : SchedulerWorld} {worker : Nat}
    (marked : orchestrator.health.Marked worker deviceId)
    (devices : world.registry.devices = orchestrator.registry.devices) :
    (orchestrator.leased world).health.Marked worker deviceId := by
  obtain ⟨⟨state, known⟩, marking⟩ := marked
  have states : world.registry.stateOf deviceId = orchestrator.registry.stateOf deviceId := by
    simp [Registry.stateOf, Registry.get, devices]
  exact ⟨⟨state, states.trans known⟩, marking⟩

/-- A worker does not hear from a monitor that has yet to write. -/
theorem unanswered {worker : Nat} {stage : Stage}
    (marked : orchestrator.health.Marked worker deviceId) :
    orchestrator.reportEnded worker stage = false := by
  obtain ⟨-, index, reason, ahead, behind, found, -⟩ := marked
  have report : (⟨.report worker, deviceId, .marking reason⟩ : HealthCall) ∈
      orchestrator.health.calls.filter fun call => call.role = .report worker :=
    List.mem_filter.mpr ⟨List.mem_of_getElem? found, by simp⟩
  have unfinished : (orchestrator.health.calls.filter fun call =>
      call.role = .report worker).all (fun call => call.stage.over) = false := by
    rw [List.all_eq_false]
    exact ⟨_, report, nofun⟩
  simp [reportEnded, unfinished]

/-- **A guarded device stays guarded until it proves itself.** -/
theorem Guarded.step (guarded : orchestrator.Guarded deviceId)
    (consistent : orchestrator.Consistent)
    (unproven : Taken.proves ⟨orchestrator, action, after⟩ deviceId = false)
    (stepped : Orchestrator.step config orchestrator action = some after) :
    after.Guarded deviceId := by
  cases step_cases stepped with
  | scheduled action world own answers taken quiet =>
    have devices := (SchedulerWorld.leasing_step own taken).devices
    refine ⟨(adbReachable_devices devices).trans guarded.adb, ?_⟩
    rcases guarded.kept with shut | ⟨worker, index, lease, reason, waits, same, marked⟩
    · exact .inl (shut_leased shut devices)
    · right
      refine ⟨worker, index, lease, reason, ?_, same, marked_leased marked devices⟩
      rcases SchedulerWorld.quarantining_waits waits taken with ⟨draw, rfl⟩ | rfl | stays
      · have ended : orchestrator.reportEnded worker .returned = true := answers
        rw [unanswered marked] at ended
        cases ended
      · have ended : orchestrator.reportEnded worker .raised = true := answers
        rw [unanswered marked] at ended
        cases ended
      · exact stays
  | reported worker index outcome draw lease reason world health taken registry online waits
      called =>
    have own : ∀ change, HealthAction.quarantine worker lease.deviceId reason = .others change →
        unprompted (.quarantine worker lease.deviceId reason) = true := fun _ same => by cases same
    refine ⟨adbReachable_monitor own guarded.adb called, ?_⟩
    rcases guarded.kept with shut | ⟨other, index', lease', reason', waits', same, marked⟩
    · exact .inl (shut.step consistent.queued guarded.adb rfl (by rintro _ _ _ ⟨⟩) called)
    · have stays : world.scheduler.workers[other]? =
          some (.busy index' (.quarantining lease' reason')) := by
        rcases SchedulerWorld.quarantining_waits waits' taken with ⟨draw, impossible⟩ |
          impossible | stays
        · cases impossible
        · cases impossible
        · exact stays
      rcases marked.step consistent.queued guarded.adb rfl called with marked | shut
      · exact .inr ⟨other, index', lease', reason', stays, same, marked⟩
      · exact .inl shut
  | monitored action health unprompted taken =>
    refine ⟨adbReachable_monitor (fun _ _ => unprompted) guarded.adb taken, ?_⟩
    rcases guarded.kept with shut | ⟨worker, index, lease, reason, waits, same, marked⟩
    · refine .inl (shut.step consistent.queued guarded.adb unproven ?_ taken)
      rintro target forced note rfl
      cases unprompted
    · rcases marked.step consistent.queued guarded.adb unproven taken with marked | shut
      · exact .inr ⟨worker, index, lease, reason, waits, same, marked⟩
      · exact .inl shut

/-- **No lease on a guarded device is granted.** -/
theorem Guarded.withheld (guarded : orchestrator.Guarded deviceId)
    (consistent : orchestrator.Consistent)
    (stepped : Orchestrator.step config orchestrator action = some after) :
    Taken.grants ⟨orchestrator, action, after⟩ deviceId = false := by
  suffices earlier : ∀ lease, after.registry.leases deviceId = some lease →
      orchestrator.registry.leases deviceId = some lease by
    cases held : after.registry.leases deviceId with
    | none => simp [Taken.grants, held]
    | some lease => simp [Taken.grants, held, earlier lease held]
  intro lease held
  cases step_cases stepped with
  | scheduled action world own answers taken quiet =>
    have held : world.registry.leases deviceId = some lease := held
    cases SchedulerWorld.leasing_step own taken with
    | kept registry carried => rwa [registry] at held
    | granted worker granted online free changes registry given others =>
      by_cases elsewhere : deviceId = granted.deviceId
      · subst elsewhere
        exfalso
        rcases guarded.kept with shut | ⟨other, index, lease', reason, waits, same, marked⟩
        · obtain ⟨state, found, shut⟩ := shut.1
          obtain rfl := Option.some.inj (found.symm.trans online)
          cases shut
        · have busy : orchestrator.leasing.scheduler.workers[other]? =
              some (.busy index (.quarantining lease' reason)) := waits
          have entry := consistent.carrying.entered other lease'
            (SchedulerWorld.leaseOf_busy busy)
          rw [same, free] at entry
          cases entry
      · rw [registry] at held
        have kept : orchestrator.leasing.registry.leases deviceId = some lease := by
          simpa [Registry.grant, elsewhere] using held
        exact kept
    | released worker released carried registry gone others =>
      rw [registry] at held
      exact Registry.leases_of_unlease held
  | reported worker index outcome draw lease' reason world health taken registry online waits
      called =>
    have leases : health.registry.leases = orchestrator.health.registry.leases :=
      (leases_monitor (by rintro change ⟨⟩) called).1
    exact (congrFun leases deviceId).symm.trans held
  | monitored action health unprompted taken =>
    have leases : health.registry.leases = orchestrator.health.registry.leases :=
      (leases_monitor (fun _ _ => unprompted) taken).1
    exact (congrFun leases deviceId).symm.trans held

/-- A worker whose attempt blames an ONLINE device goes to the monitor. -/
theorem executed_blames {config : SchedulerConfig} {world after : SchedulerWorld}
    {worker index attempt : Nat} {outcome : Outcome} {draw : Rat} {lease : Lease}
    (wired : config.health = true) (blames : outcome.blamesDevice = true)
    (busy : world.scheduler.workers[worker]? = some (.busy index (.executing lease attempt)))
    (online : world.registry.stateOf lease.deviceId = some .online)
    (taken : SchedulerWorld.step config world (.executed worker outcome draw) = some after) :
    ∃ reason, after.scheduler.workers[worker]? =
      some (.busy index (.quarantining lease reason)) := by
  obtain ⟨inside, -⟩ := List.getElem?_eq_some_iff.mp busy
  cases SchedulerWorld.step_effect taken with
  | executed _ _ _ index' lease' attempt' record ended after busy' known same went =>
    obtain ⟨⟨rfl, rfl⟩, -⟩ : (index = index' ∧ lease = lease') ∧ attempt = attempt' := by
      simpa [and_assoc] using busy.symm.trans busy'
    cases went with
    | succeeded value => cases blames
    | rejected message => cases blames
    | blamed outcome reason wired blames online =>
      exact ⟨reason, by simp [SchedulerWorld.withScheduler, Scheduler.advance, inside]⟩
    | requeued outcome after fails excused went =>
      exact absurd ⟨blames, wired, online⟩ excused

/-- **A judged failure guards the device it blames.** -/
theorem blamed_guarded (consistent : orchestrator.Consistent)
    (judged : orchestrator.Judged action)
    (blames : Taken.blames ⟨orchestrator, action, after⟩ deviceId = true)
    (stepped : Orchestrator.step config orchestrator action = some after) :
    after.Guarded deviceId := by
  unfold Taken.blames at blames
  dsimp only at blames
  split at blames
  · rename_i worker outcome draw
    split at blames
    · rename_i index lease attempt record at_
      simp only [Bool.and_eq_true, decide_eq_true_eq] at blames
      obtain ⟨⟨rfl, blames⟩, adb⟩ := blames
      simp only [Judged, at_] at judged
      obtain ⟨busy, -⟩ := SchedulerWorld.at?_eq_some.mp at_
      rcases judged blames adb with online | ⟨held, kept⟩
      · cases step_cases stepped with
        | scheduled action world own answers taken quiet =>
          obtain ⟨reason, waits⟩ := executed_blames rfl blames busy online taken
          simp [reports, waits] at quiet
        | reported worker index' outcome draw lease' reason' world health taken registry online'
            waits' called =>
          obtain ⟨reason, waits⟩ := executed_blames rfl blames busy online taken
          obtain ⟨rfl, rfl, rfl⟩ : index = index' ∧ lease = lease' ∧ reason = reason' := by
            simpa using waits.symm.trans waits'
          refine ⟨adbReachable_monitor (by rintro change ⟨⟩) adb called, .inr ?_⟩
          exact ⟨worker, index, lease, reason, waits, rfl,
            HealthWorld.marked_quarantine ⟨_, online⟩ called⟩
      · obtain ⟨state, found, holds⟩ := (Option.any_eq_true _ _).mp held
        have shut : orchestrator.health.Shut lease.deviceId :=
          ⟨⟨state, found, holds⟩, fun value member => kept _ member rfl⟩
        exact Guarded.step ⟨adb, .inl shut⟩ consistent rfl stepped
    · cases blames
  · cases blames

/-- After a judged failure that blamed the device, it stays guarded until it proves itself. -/
theorem guarded_since {past between : List Taken} {failure : Taken}
    (history : History (Orchestrator.step config) Judged {} (between ++ failure :: past)
      orchestrator)
    (blames : failure.blames deviceId = true)
    (unproven : ∀ taken ∈ between, taken.proves deviceId = false) :
    orchestrator.Guarded deviceId := by
  induction between generalizing orchestrator with
  | nil =>
    cases history with
    | next earlier judged stepped =>
      exact blamed_guarded (Consistent.run earlier.run) judged blames stepped
  | cons taken between ih =>
    cases history with
    | next earlier judged stepped =>
      have guarded := ih earlier fun taken member => unproven taken (List.mem_cons_of_mem _ member)
      exact guarded.step (Consistent.run earlier.run) (unproven _ List.mem_cons_self) stepped

/-- **A blamed device proves itself before it is used again.** In every run from the beginning in
which each failure that blames a device is judged, a probe of the device is answered between the
failure and every later lease on it. The steps of a run are listed the latest first. -/
theorem proven_before_use {past : List Taken}
    (history : History (Orchestrator.step config) Judged {} past orchestrator)
    {i j : Nat} {grant failure : Taken} (granted : past[i]? = some grant)
    (failed : past[j]? = some failure) (later : i < j) (blames : failure.blames deviceId = true)
    (grants : grant.grants deviceId = true) :
    ∃ k proof, i < k ∧ k < j ∧ past[k]? = some proof ∧ proof.proves deviceId = true := by
  by_contra none
  have split : past = past.take i ++ grant :: ((past.take j).drop (i + 1) ++
      failure :: past.drop (j + 1)) := by
    obtain ⟨inside, rfl⟩ := List.getElem?_eq_some_iff.mp failed
    obtain ⟨inside', rfl⟩ := List.getElem?_eq_some_iff.mp granted
    have tail : (past.take j).drop (i + 1) ++ past[j] :: past.drop (j + 1) =
        past.drop (i + 1) := by
      rw [← List.drop_eq_getElem_cons inside, List.drop_take]
      conv_rhs => rw [← List.take_append_drop (j - (i + 1)) (past.drop (i + 1))]
      rw [List.drop_drop]
      congr 2
      omega
    rw [tail, ← List.drop_eq_getElem_cons inside', List.take_append_drop]
  have unproven : ∀ taken ∈ (past.take j).drop (i + 1), taken.proves deviceId = false := by
    intro taken member
    obtain ⟨n, found⟩ := List.mem_iff_getElem?.mp member
    rw [List.getElem?_drop] at found
    obtain ⟨small, -⟩ := List.getElem?_eq_some_iff.mp found
    rw [List.getElem?_take_of_lt (by simp at small; omega)] at found
    refine Bool.eq_false_iff.mpr fun proves => none ⟨i + 1 + n, taken, ?_, ?_, found, proves⟩
    · omega
    · simp at small
      omega
  rw [split] at history
  obtain ⟨state, earlier⟩ := history.earlier
  cases earlier with
  | next before judged stepped =>
    have guarded := guarded_since before blames unproven
    rw [guarded.withheld (Consistent.run before.run) stepped] at grants
    cases grants

namespace Scene

/-- One worker, and a monitor that quarantines after one failed probe. -/
def setup : OrchestratorConfig where
  scheduler := { policy := { workers := 1 }, kinds := ["android"] }
  health := { policy := { failuresToQuarantine := 1 } }

/-- A poll that lists one phone. -/
def listed : OrchestratorAction := .health (.others (.refresh [{ id := "phone-a" }]))

/-- A worker executes a task on the phone. -/
def executing : List OrchestratorAction :=
  [.scheduler .start, .scheduler (.submit { kind := "android", id := "demo" } "first"),
    .scheduler (.take 0), .scheduler (.leased 0 0), .scheduler (.sinkReturned 0)]

/-- No session is opened. -/
def failing : OrchestratorAction := .scheduler (.executed 0 (.session "no session") 0)

/-- The task is put back, and its lease given back. -/
def requeued : List OrchestratorAction :=
  [.scheduler (.sinkReturned 0), .scheduler (.released 0), .scheduler (.retryDue 0)]

/-- The worker leases the phone again. -/
def again : List OrchestratorAction := [.scheduler (.take 0), .scheduler (.leased 0 1)]

/-- An episode reconnects the phone and probes it. -/
def reconnecting : List OrchestratorAction :=
  [.health (.resume 1 .run), .health (.resume 1 (.reconnected true)),
    .health (.resume 1 (.probed true))]

end Scene

/-- The phone is quarantined, reconnected and probed before it is leased again. -/
theorem proven_before_use_reconnect : ∃ (past : List Taken) (grant failure : Taken),
    past[0]? = some grant ∧ past[12]? = some failure ∧ grant.grants "phone-a" = true ∧
    failure.blames "phone-a" = true ∧
    ∃ k proof, 0 < k ∧ k < 12 ∧ past[k]? = some proof ∧ proof.proves "phone-a" = true := by
  have passed : (Transition.trace (Transition.guarded (Orchestrator.step Scene.setup) Judged) []
      {} ([Scene.listed] ++ Scene.executing ++ [Scene.failing, .health .write,
        .health (.resume 0 .announced), .scheduler (.quarantined 0 0)] ++ Scene.requeued ++
        Scene.reconnecting ++ [.health .write] ++ Scene.again)).any (fun reached =>
          (reached.1[0]?).any (Taken.grants · "phone-a") &&
            (reached.1[12]?).any (Taken.blames · "phone-a")) = true := by
    decide +kernel
  obtain ⟨past, orchestrator, history, shown⟩ := Transition.traces passed
  obtain ⟨granted, failed⟩ := Bool.and_eq_true_iff.mp shown
  obtain ⟨grant, granted, grants⟩ := (Option.any_eq_true _ _).mp granted
  obtain ⟨failure, failed, blames⟩ := (Option.any_eq_true _ _).mp failed
  exact ⟨past, grant, failure, granted, failed, grants, blames,
    proven_before_use history granted failed (by decide) blames grants⟩

/-- **A blamed device is leased again without a proof.** A poll has not listed the phone while
the attempt ran, so it is OFFLINE when the attempt fails and is not quarantined; the next poll
lists it and it is leased. And a restoration that waited for the lock while the attempt failed
brings the phone back after the failure. -/
theorem leased_unproven :
    (∃ (past : List Taken) (orchestrator : Orchestrator) (grant failure : Taken),
      History (Orchestrator.step Scene.setup) (fun _ _ => True) {} past orchestrator ∧
      past[0]? = some grant ∧ past[6]? = some failure ∧ grant.grants "phone-a" = true ∧
      failure.blames "phone-a" = true ∧
      ∀ proof ∈ past.take 6, proof.proves "phone-a" = false) ∧
    ∃ (past : List Taken) (orchestrator : Orchestrator) (grant failure : Taken),
      History (Orchestrator.step Scene.setup) (fun _ _ => True) {} past orchestrator ∧
      past[0]? = some grant ∧ past[6]? = some failure ∧ grant.grants "phone-a" = true ∧
      failure.blames "phone-a" = true ∧
      ∀ proof ∈ past.take 6, proof.proves "phone-a" = false := by
  have shows : ∀ actions : List OrchestratorAction,
      (Transition.trace (Transition.guarded (Orchestrator.step Scene.setup) fun _ _ => True) []
        {} actions).any (fun reached =>
          (reached.1[0]?).any (Taken.grants · "phone-a") &&
            (reached.1[6]?).any (Taken.blames · "phone-a") &&
              (reached.1.take 6).all fun taken => !Taken.proves taken "phone-a") = true →
      ∃ (past : List Taken) (orchestrator : Orchestrator) (grant failure : Taken),
        History (Orchestrator.step Scene.setup) (fun _ _ => True) {} past orchestrator ∧
        past[0]? = some grant ∧ past[6]? = some failure ∧ grant.grants "phone-a" = true ∧
        failure.blames "phone-a" = true ∧
        ∀ proof ∈ past.take 6, proof.proves "phone-a" = false := by
    intro actions passed
    obtain ⟨past, orchestrator, history, shown⟩ := Transition.traces passed
    obtain ⟨both, unproven⟩ := Bool.and_eq_true_iff.mp shown
    obtain ⟨granted, failed⟩ := Bool.and_eq_true_iff.mp both
    obtain ⟨grant, granted, grants⟩ := (Option.any_eq_true _ _).mp granted
    obtain ⟨failure, failed, blames⟩ := (Option.any_eq_true _ _).mp failed
    refine ⟨past, orchestrator, grant, failure, history, granted, failed, grants, blames, ?_⟩
    intro proof member
    simpa using List.all_eq_true.mp unproven proof member
  constructor
  · exact shows ([Scene.listed] ++ Scene.executing ++ [.health (.others (.refresh [])),
      Scene.failing] ++ Scene.requeued ++ [Scene.listed] ++ Scene.again) (by decide +kernel)
  · exact shows ([Scene.listed, .health .sweep, .health (.resume 0 .run)] ++ Scene.executing ++
      [.health (.resume 0 (.probed false)), .health .write, .health (.resume 0 .announced)] ++
      Scene.reconnecting ++ [Scene.failing, .health .write] ++ Scene.requeued ++ Scene.again)
      (by decide +kernel)

end Orchestrator

end DeviceOrchestrator
