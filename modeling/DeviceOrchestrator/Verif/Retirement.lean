import DeviceOrchestrator.Verif.StateWrites

/-!
# RETIRED is permanent

The monitor decides on a state, waits for the lock and overwrites whatever state the device has
by then. A device that becomes RETIRED while another write for it waits is brought back by that
write; and an episode that completes a reconnect restores its device whatever its state is.
`Orderly` excludes these steps. In an orderly run every write that waits for a RETIRED device
retires it, so the device stays RETIRED and is never leased again.
-/
namespace DeviceOrchestrator

open Deferred (State)
open Transition (Run)

namespace Registry

variable {registry after : Registry} {deviceId : DeviceId}

/-- What a poll lists under an id is a device it lists. -/
theorem discovered_mem {polled : List Device} {found : Device}
    (listed : (discovered polled).get? deviceId = some found) :
    found ∈ polled ∧ found.id = deviceId := by
  refine ⟨?_, Keyed.key_of_get? listed⟩
  have last : polled.reverse.find? (fun device => device.id = deviceId) = some found :=
    (Keyed.get?_collect polled deviceId).symm.trans listed
  exact List.mem_reverse.mp (List.mem_of_find?_eq_some last)

/-- A poll makes a device RETIRED only if it lists the device as RETIRED and no decision of the
health monitor overrules it. -/
theorem retired_by_refresh {polled : List Device}
    (before : registry.stateOf deviceId ≠ some .retired)
    (retired : (registry.refresh polled).stateOf deviceId = some .retired) :
    (∃ device ∈ polled, device.id = deviceId ∧ device.state = .retired) ∧
      (registry.stateOf deviceId).any DeviceState.held = false := by
  simp only [stateOf, get_refresh] at before retired ⊢
  cases listed : (discovered polled).get? deviceId with
  | none =>
    cases known : registry.get deviceId with
    | none => simp [listed, known] at retired
    | some existing =>
      have other : existing.state ≠ .retired := by simpa [known] using before
      by_cases online : existing.state = .online
      · simp [listed, known, online] at retired
      · simp [listed, known, online, other] at retired
  | some found =>
    obtain ⟨member, named⟩ := discovered_mem listed
    cases known : registry.get deviceId with
    | none =>
      have state : found.state = .retired := by simpa [listed, known] using retired
      exact ⟨⟨found, member, named, state⟩, rfl⟩
    | some existing =>
      have other : existing.state ≠ .retired := by simpa [known] using before
      cases held : existing.state.held with
      | true => simp [listed, known, Device.reconcile, held, other] at retired
      | false =>
        have state : found.state = .retired := by
          simpa [listed, known, Device.reconcile, held] using retired
        exact ⟨⟨found, member, named, state⟩, by simp [held]⟩

/-- A lease is granted only on an ONLINE device. -/
theorem lease_elsewhere {selector : DeviceSelector} {token : Nat}
    (offline : registry.stateOf deviceId ≠ some .online)
    (changed : registry.change (.lease selector token) = some after) :
    after.leases deviceId = registry.leases deviceId := by
  simp only [Registry.change] at changed
  split at changed
  · rename_i device free
    split at changed
    · cases changed
    · obtain rfl := Option.some.inj changed
      obtain ⟨known, _, online, _⟩ := findFree_some free
      have elsewhere : deviceId ≠ device.id := by
        rintro rfl
        exact offline (by simp [stateOf, known, online])
      simp [Registry.grant, elsewhere]
  · cases changed

end Registry

namespace HealthWorld

/-- The parties of a fleet: a worker reports only a device that it sees ONLINE, and nobody but
the monitor forces a state. -/
def Parties (world : HealthWorld) : HealthAction → Prop
  | .quarantine _ deviceId _ => world.registry.stateOf deviceId = some .online
  | .others (.setState _ _ _) => False
  | _ => True

/-- No step brings a RETIRED device back: a device becomes RETIRED only while no other write for
it waits for the lock, and while it is RETIRED no episode on it completes a reconnect or begins
by restoring a virtual slot. -/
def Orderly (config : HealthConfig) (world : HealthWorld) : HealthAction → Prop
  | .write =>
    match world.requests with
    | (deviceId, .retired) :: rest =>
      ∀ request ∈ rest, request.1 = deviceId → request.2 = .retired
    | _ => True
  | .others (.refresh polled) =>
    ∀ device ∈ polled, device.state = .retired →
      (world.registry.stateOf device.id).any DeviceState.held = false →
      ∀ request ∈ world.requests, request.1 = device.id → request.2 = .retired
  | .resume index (.probed true) =>
    match world.calls[index]? with
    | some ⟨_, deviceId, .reprobing _⟩ => world.registry.stateOf deviceId ≠ some .retired
    | _ => True
  | .resume index .run =>
    match world.calls[index]? with
    | some ⟨_, deviceId, .recovering⟩ =>
      world.registry.adbReachable deviceId = true ∨
        config.policy.retireAfterRecoveries ≤
          (world.health deviceId).recentRecoveries world.now config.policy.recoveryWindowS ∨
        world.registry.stateOf deviceId ≠ some .retired
    | _ => True
  | _ => True

instance (world : HealthWorld) (action : HealthAction) : Decidable (world.Parties action) := by
  unfold Parties
  split <;> infer_instance

instance (config : HealthConfig) (world : HealthWorld) (action : HealthAction) :
    Decidable (world.Orderly config action) := by
  unfold Orderly
  split
  · split <;> infer_instance
  · infer_instance
  · rename_i index
    generalize world.calls[index]? = call
    rcases call with _ | ⟨role, deviceId, stage⟩
    · infer_instance
    · cases stage <;> infer_instance
  · rename_i index
    generalize world.calls[index]? = call
    rcases call with _ | ⟨role, deviceId, stage⟩
    · infer_instance
    · cases stage <;> infer_instance
  · infer_instance

/-- Every write that waits for a RETIRED device retires it. -/
structure Buried (world : HealthWorld) : Prop where
  /-- The queue is in order. -/
  queued : world.Queued
  /-- No waiting write takes a device out of RETIRED. -/
  keeps : ∀ deviceId, world.registry.stateOf deviceId = some .retired →
    State.Keeps world.requests (· = .retired) deviceId

variable {config : HealthConfig} {world after : HealthWorld} {action : HealthAction}
variable {deviceId : DeviceId}

/-- Nothing waits in a fresh monitor. -/
theorem Buried.fresh (fresh : world.Fresh) : world.Buried where
  queued := ⟨by simp [fresh.waiting], by simp [fresh.waiting]⟩
  keeps := by
    intro deviceId _ state member
    simp [requests, fresh.waiting] at member

/-- A write that asks for a RETIRED device retires it. -/
theorem Why.retired {state : DeviceState} (why : Why config world deviceId action state)
    (parties : world.Parties action) (orderly : world.Orderly config action)
    (retired : world.registry.stateOf deviceId = some .retired) : state = .retired := by
  cases why with
  | probed index role at_ quarantined =>
    rw [retired] at quarantined
    cases quarantined
  | reconnected index number role at_ =>
    simp only [Orderly, at_] at orderly
    exact absurd retired orderly
  | virtual index role at_ slot few =>
    simp only [Orderly, at_, slot, Bool.false_eq_true, false_or] at orderly
    rcases orderly with many | other
    · exact absurd many (Nat.not_le_of_lt few)
    · exact absurd retired other
  | failing index online =>
    rw [retired] at online
    cases online
  | reported worker reason =>
    have online : world.registry.stateOf deviceId = some .online := parties
    rw [retired] at online
    cases online
  | retires index role at_ => rfl

/-- A change by another party retires a device only as a poll that discovers it RETIRED, and in
an orderly step nothing else waits for that device. -/
theorem Buried.others (buried : world.Buried) {change : RegistryChange}
    (unforced : ∀ target forced note, change ≠ .setState target forced note)
    (orderly : world.Orderly config (.others change))
    (changed : world.registry.change change = some after.registry) {deviceId : DeviceId}
    (retired : after.registry.stateOf deviceId = some .retired) :
    State.Keeps world.requests (· = .retired) deviceId := by
  by_cases before : world.registry.stateOf deviceId = some .retired
  · exact buried.keeps deviceId before
  · cases change with
    | refresh polled =>
      obtain same := Option.some.inj changed
      rw [← same] at retired
      obtain ⟨⟨device, member, rfl, state⟩, unheld⟩ :=
        Registry.retired_by_refresh before retired
      exact fun later waits => orderly device member state unheld _ waits rfl
    | lease selector token =>
      simp only [Registry.change] at changed
      split at changed
      · split at changed
        · cases changed
        · have same := Option.some.inj changed
          rw [← same] at retired
          exact absurd retired before
      · cases changed
    | unlease lease =>
      have same := Option.some.inj changed
      rw [← same, Registry.stateOf_unlease] at retired
      exact absurd retired before
    | setState target forced note => exact absurd rfl (unforced target forced note)

/-- **An orderly step leaves a RETIRED device RETIRED**, and whatever waits for a RETIRED device
afterwards retires it. -/
theorem Buried.step (buried : world.Buried) (parties : world.Parties action)
    (orderly : world.Orderly config action)
    (taken : HealthWorld.step config world action = some after) :
    after.Buried ∧ ∀ deviceId, world.registry.stateOf deviceId = some .retired →
      after.registry.stateOf deviceId = some .retired := by
  obtain ⟨queued, writes⟩ := step_writes buried.queued taken
  cases writes with
  | still value pending =>
    refine ⟨⟨queued, ?_⟩, fun deviceId retired => by rwa [value]⟩
    rw [value, pending]
    exact buried.keeps
  | asks target state why value pending =>
    refine ⟨⟨queued, ?_⟩, fun deviceId retired => by rwa [value]⟩
    rw [value, pending]
    intro deviceId retired
    refine (buried.keeps deviceId retired).ask ?_
    rintro rfl
    exact why.retired parties orderly retired
  | serves target state served pending value =>
    have stays : ∀ deviceId, world.registry.stateOf deviceId = some .retired →
        after.registry.stateOf deviceId = some .retired := by
      intro deviceId retired
      rw [value]
      by_cases same : deviceId = target
      · subst same
        have keeps := buried.keeps deviceId retired
        rw [pending] at keeps
        obtain rfl : state = .retired := keeps state List.mem_cons_self
        simp [State.put, retired]
      · simp [State.put, same, retired]
    refine ⟨⟨queued, fun deviceId retired => ?_⟩, stays⟩
    rw [value] at retired
    by_cases same : deviceId = target
    · subst same
      have written : state = .retired := by
        cases known : world.registry.stateOf deviceId with
        | none => simp [State.put, known] at retired
        | some old => simpa [State.put, known] using retired
      subst served written
      simp only [Orderly, pending] at orderly
      exact fun later member => orderly (deviceId, later) member rfl
    · have before : world.registry.stateOf deviceId = some .retired := by
        simpa [State.put, same] using retired
      have keeps := buried.keeps deviceId before
      rw [pending] at keeps
      exact fun later member => keeps later (List.mem_cons_of_mem _ member)
  | others change entered changed pending =>
    subst entered
    have unforced : ∀ target forced note, change ≠ .setState target forced note := by
      rintro target forced note rfl
      exact parties
    have stays : ∀ deviceId, world.registry.stateOf deviceId = some .retired →
        after.registry.stateOf deviceId = some .retired := fun deviceId retired =>
      Registry.held_change retired rfl unforced changed
    refine ⟨⟨queued, fun deviceId retired => ?_⟩, stays⟩
    rw [pending]
    exact buried.others unforced orderly changed retired

/-- Every orderly run keeps the invariant. -/
theorem Buried.run {start : HealthWorld} (buried : start.Buried)
    (run : Run (HealthWorld.step config)
      (fun world action => world.Parties action ∧ world.Orderly config action) start world) :
    world.Buried :=
  run.invariant Buried buried fun _ buried both taken => (buried.step both.1 both.2 taken).1

/-- **RETIRED is permanent in every orderly run.** A device that is RETIRED in some state of the
run is RETIRED in every later state, and no lease on it is granted there. -/
theorem retired_for_good {start later : HealthWorld} (fresh : start.Fresh)
    (run : Run (HealthWorld.step config)
      (fun world action => world.Parties action ∧ world.Orderly config action) start world)
    (retired : world.registry.stateOf deviceId = some .retired)
    (further : Run (HealthWorld.step config)
      (fun world action => world.Parties action ∧ world.Orderly config action) world later) :
    later.registry.stateOf deviceId = some .retired ∧
      ∀ selector token registry,
        later.registry.change (.lease selector token) = some registry →
        registry.leases deviceId = later.registry.leases deviceId := by
  have kept : later.Buried ∧ later.registry.stateOf deviceId = some .retired :=
    further.invariant
      (fun later => later.Buried ∧ later.registry.stateOf deviceId = some .retired)
      ⟨(Buried.fresh fresh).run run, retired⟩
      fun _ held both taken =>
        have stepped := held.1.step both.1 both.2 taken
        ⟨stepped.1, stepped.2 deviceId held.2⟩
  refine ⟨kept.2, fun selector token registry changed => ?_⟩
  refine Registry.lease_elsewhere ?_ changed
  rw [kept.2]
  exact nofun

/-- One recovery in the window retires a device. -/
def strict : HealthConfig where
  policy := { retireAfterRecoveries := 1 }

/-- The phone is quarantined, an episode reconnects it, and it is quarantined again; a sweep
probes it while the next episode has yet to run. -/
def relapse : List HealthAction :=
  [.quarantine 0 "phone-a" "no session", .write, .resume 0 .announced, .resume 1 .run,
    .resume 1 (.reconnected true), .resume 1 (.probed true), .write, .resume 1 .announced,
    .callback 1, .quarantine 0 "phone-a" "no session", .write, .resume 2 .announced, .sweep,
    .resume 4 .run]

/-- The episode retires the phone before the sweep has its answer, and the phone stays RETIRED
through a good probe and a poll. -/
theorem retired_for_good_relapse : ∃ later : HealthWorld,
    later.published = [.quarantined "phone-a" "no session", .restored "phone-a" "adb reconnect",
      .quarantined "phone-a" "no session", .retired "phone-a"] ∧
    later.registry.stateOf "phone-a" = some .retired ∧
    ∀ selector token registry,
      later.registry.change (.lease selector token) = some registry →
      registry.leases "phone-a" = later.registry.leases "phone-a" := by
  have passed : (Transition.execute (Transition.guarded (step strict) fun world action =>
      world.Parties action ∧ world.Orderly strict action) lonePhone
        (relapse ++ [.resume 3 .run, .write])).any (fun world =>
      decide (world.registry.stateOf "phone-a" = some .retired) &&
        (Transition.execute (Transition.guarded (step strict) fun world action =>
          world.Parties action ∧ world.Orderly strict action) world
            [.resume 4 (.probed true), .resume 3 .announced, .callback 3,
              .others (.refresh [{ id := "phone-a" }])]).any fun later =>
          decide (later.published = [.quarantined "phone-a" "no session",
            .restored "phone-a" "adb reconnect", .quarantined "phone-a" "no session",
            .retired "phone-a"])) = true := by
    decide +kernel
  obtain ⟨world, run, shown⟩ := Transition.reaches passed
  obtain ⟨retired, shown⟩ := Bool.and_eq_true_iff.mp shown
  obtain ⟨later, further, published⟩ := Transition.reaches shown
  exact ⟨later, of_decide_eq_true published,
    retired_for_good ⟨rfl, rfl, rfl, rfl⟩ run (of_decide_eq_true retired) further⟩

/-- **A retirement can be undone.** The probe of a sweep finds the phone QUARANTINED while its
retirement waits for the lock, and asks for the lock behind it: the phone is retired, restored
and leased. -/
theorem retirement_undone : ∃ world later : HealthWorld,
    Run (step strict) Parties lonePhone world ∧
    world.registry.stateOf "phone-a" = some .retired ∧ Run (step strict) Parties world later ∧
    later.registry.stateOf "phone-a" = some .online ∧
    later.registry.isLeased "phone-a" = true := by
  have passed : (Transition.execute (Transition.guarded (step strict) Parties) lonePhone
        (relapse ++ [.resume 3 .run, .resume 4 (.probed true), .write])).any (fun world =>
      decide (world.registry.stateOf "phone-a" = some .retired) &&
        (Transition.execute (Transition.guarded (step strict) Parties) world
            [.write, .others (.lease {} 0)]).any fun later =>
          decide (later.registry.stateOf "phone-a" = some .online ∧
            later.registry.isLeased "phone-a" = true)) = true := by
    decide +kernel
  obtain ⟨world, run, shown⟩ := Transition.reaches passed
  obtain ⟨retired, shown⟩ := Bool.and_eq_true_iff.mp shown
  obtain ⟨later, further, undone⟩ := Transition.reaches shown
  obtain ⟨online, leased⟩ := of_decide_eq_true undone
  exact ⟨world, later, run, of_decide_eq_true retired, further, online, leased⟩

end HealthWorld

end DeviceOrchestrator
