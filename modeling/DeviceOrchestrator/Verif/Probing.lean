import DeviceOrchestrator.Verif.StateWrites
import DeviceOrchestrator.Verif.Premise

/-!
# Probes of leased devices

`_check_one` looks for a lease once, before its probe, and a worker may lease the device while
the probe runs. `turn_failures` and `step_goal` say that only a probe of a sweep that answers
`False` counts a failure or asks for QUARANTINED, so a monitor whose overlapped probes all answer
`True` or raise leaves the devices that tasks use alone (`Spared`), and any other does not.
-/
namespace DeviceOrchestrator

open Transition (History Throughout)

/-- A probe is under way. -/
def Stage.probes : Stage → Bool
  | probing | reprobing _ => true
  | _ => false

/-- A stage at which QUARANTINED is waiting to be written. -/
abbrev Stage.pulls (stage : Stage) : Prop := stage.goal = some .quarantined

/-- A turn that sets no more failures than these. -/
def Turn.Uncounting (turn : Turn) (failures : Nat) : Prop :=
  ∀ health, turn.health = some health → health.consecutiveFailures ≤ failures

/-- A turn that writes no health counts no failure. -/
theorem Turn.uncounting_unwritten {turn : Turn} {failures : Nat} (unwritten : turn.health = none) :
    turn.Uncounting failures := by
  intro health written
  rw [unwritten] at written
  cases written

namespace HealthWorld

/-- The coroutine that a step belongs to. -/
def acting (world : HealthWorld) : HealthAction → Option Nat
  | .resume index _ => some index
  | .write => world.waiting.head?
  | _ => none

/-- A coroutine has a probe under way while its device is leased. -/
def competes (world : HealthWorld) (index : Nat) : Bool :=
  world.calls[index]?.any fun call =>
    call.stage.probes && world.registry.isLeased call.deviceId

/-- The probe of a coroutine overlapped a lease of its device. -/
def overlapped (past : List Taken) (index : Nat) : Bool :=
  past.any fun taken => taken.after.competes index

/-- No step of a coroutine whose probe overlapped a lease counts a failure of the device or moves
it to QUARANTINED. -/
def Harmless (earlier : List Taken) (taken : Taken) : Prop :=
  ∀ index call, taken.before.acting taken.action = some index →
    taken.before.calls[index]? = some call → overlapped earlier index = true →
    (taken.after.health call.deviceId).consecutiveFailures ≤
        (taken.before.health call.deviceId).consecutiveFailures ∧
      (taken.after.registry.stateOf call.deviceId = some .quarantined →
        taken.before.registry.stateOf call.deviceId = some .quarantined)

/-- A probe of a sweep that overlapped a lease does not answer `False`. -/
def Unrefuted (earlier : List Taken) (taken : Taken) : Prop :=
  match taken.action with
  | .resume index (.probed false) =>
    (taken.before.calls[index]?.any fun call => call.stage = .probing) = true →
      overlapped earlier index = false
  | _ => True

instance (earlier : List Taken) (taken : Taken) : Decidable (Unrefuted earlier taken) := by
  unfold Unrefuted
  split <;> infer_instance

/-- A coroutine whose probe overlapped a lease does not wait to write QUARANTINED. -/
def Spared (past : List Taken) (world : HealthWorld) : Prop :=
  ∀ index, overlapped past index = true →
    ∃ call, world.calls[index]? = some call ∧ ¬call.stage.pulls

section
variable {config : HealthConfig} {world after : HealthWorld} {index : Nat} {call : HealthCall}
variable {action : HealthAction} {turn : Turn} {answer : HealthAnswer} {deviceId : DeviceId}

/-- A failed episode counts no failed probe. -/
theorem exhausted_uncounting (config : HealthConfig) (world : HealthWorld)
    (deviceId : DeviceId) :
    (world.exhausted config deviceId).Uncounting
      (world.health deviceId).consecutiveFailures := by
  unfold exhausted
  split
  · exact Turn.uncounting_unwritten rfl
  · dsimp only
    split
    · rintro health ⟨⟩
      exact le_rfl
    · rintro health ⟨⟩
      exact le_rfl

/-- Nor does the head of the loop. -/
theorem attempt_uncounting (config : HealthConfig) (world : HealthWorld) (deviceId : DeviceId)
    (number : Nat) :
    (world.attempt config deviceId number).Uncounting
      (world.health deviceId).consecutiveFailures := by
  unfold attempt
  split
  · exact exhausted_uncounting config world deviceId
  · split <;> exact Turn.uncounting_unwritten rfl

/-- Nor does a failed attempt. -/
theorem attemptFailed_uncounting (config : HealthConfig) (world : HealthWorld)
    (deviceId : DeviceId) (number : Nat) :
    (world.attemptFailed config deviceId number).Uncounting
      (world.health deviceId).consecutiveFailures := by
  unfold attemptFailed
  split
  · exact Turn.uncounting_unwritten rfl
  · exact exhausted_uncounting config world deviceId

/-- Nor does the first run of an episode. -/
theorem recoveryStarted_uncounting (config : HealthConfig) (world : HealthWorld)
    (deviceId : DeviceId) :
    (world.recoveryStarted config deviceId).Uncounting
      (world.health deviceId).consecutiveFailures := by
  unfold recoveryStarted
  dsimp only
  split
  · rintro health ⟨⟩
    exact le_rfl
  · split
    · rintro health ⟨⟩
      exact le_rfl
    · generalize pruned : (world.health deviceId).prune world.now
        config.policy.recoveryWindowS = health
      generalize looked : ({ world with health := Function.update world.health deviceId health } :
        HealthWorld) = before
      have kept : (before.health deviceId).consecutiveFailures =
          (world.health deviceId).consecutiveFailures := by
        rw [← looked, ← pruned]
        simp [DeviceHealth.prune]
      have working := attempt_uncounting config before deviceId 1
      rintro counted ⟨⟩
      cases changed : (before.attempt config deviceId 1).health with
      | none =>
        rw [← pruned]
        exact le_rfl
      | some other => exact (working other changed).trans kept.le

/-- **Only a failed probe of a sweep counts a failure.** -/
theorem turn_failures (taken : world.turn config call answer = some turn) :
    turn.Uncounting (world.health call.deviceId).consecutiveFailures ∨
      (call.stage = .probing ∧ answer = .probed false) := by
  obtain ⟨role, deviceId, stage⟩ := call
  unfold HealthWorld.turn at taken
  dsimp only at taken ⊢
  split at taken
  · obtain rfl := Option.some.inj taken
    exact .inl (Turn.uncounting_unwritten rfl)
  · rename_i ok
    split at taken
    · obtain rfl := Option.some.inj taken
      cases ok with
      | false => exact .inr ⟨rfl, rfl⟩
      | true =>
        refine .inl ?_
        simp only [checkProbed, if_true]
        split
        · rintro health ⟨⟩
          exact Nat.zero_le _
        · rintro health ⟨⟩
          exact Nat.zero_le _
    · cases taken
  · obtain rfl := Option.some.inj taken
    exact .inl (recoveryStarted_uncounting config world deviceId)
  · rename_i number ok
    obtain rfl := Option.some.inj taken
    cases ok with
    | true => exact .inl (Turn.uncounting_unwritten rfl)
    | false => exact .inl (attemptFailed_uncounting config world deviceId number)
  · rename_i number ok
    obtain rfl := Option.some.inj taken
    refine .inl ?_
    cases ok with
    | true =>
      rintro health ⟨⟩
      exact Nat.zero_le _
    | false => exact attemptFailed_uncounting config world deviceId number
  · rename_i number
    obtain rfl := Option.some.inj taken
    exact .inl (attempt_uncounting config world deviceId (number + 1))
  · obtain rfl := Option.some.inj taken
    exact .inl (Turn.uncounting_unwritten rfl)
  · obtain rfl := Option.some.inj taken
    exact .inl (Turn.uncounting_unwritten rfl)
  · obtain rfl := Option.some.inj taken
    refine .inl ?_
    rintro health ⟨⟩
    exact le_rfl
  · obtain rfl := Option.some.inj taken
    exact .inl (Turn.uncounting_unwritten rfl)
  all_goals first
    | cases taken; done
    | obtain rfl := Option.some.inj taken
      exact .inl (Turn.uncounting_unwritten rfl)

/-- Only a failed probe of a sweep asks for QUARANTINED. -/
theorem Turned.pulls (turned : Turned config world call answer turn) (pulls : turn.stage.pulls) :
    call.stage = .probing ∧ answer = .probed false := by
  cases turned with
  | onward fits passive work => exact absurd pulls (by simp [Stage.pulls, passive.goal])
  | begun at_ asked few adb fits passive =>
    exact absurd pulls (by simp [Stage.pulls, passive.goal])
  | retired at_ stage passive => exact absurd pulls (by simp [Stage.pulls, passive.goal])
  | marks at_ asked state turned => exact ⟨at_, asked⟩
  | quarantined at_ turned | spawns at_ asked state turned | restores at_ asked state turned
  | retires at_ asked many turned | virtual at_ asked few slot turned
  | reconnects number at_ asked turned =>
    subst turned
    cases pulls

/-- Carrying out a turn moves its own coroutine only. -/
theorem calls_applied (found : world.calls[index]? = some call) :
    (world.apply index call turn).calls[index]? = some { call with stage := turn.stage } := by
  obtain ⟨inside, -⟩ := List.getElem?_eq_some_iff.mp found
  rcases calls_apply world index call turn with calls | calls
  · rw [calls, List.getElem?_set_self inside]
  · rw [calls, List.getElem?_append_left (by simpa using inside), List.getElem?_set_self inside]

/-- **What one step does to the goal of a coroutine.** -/
theorem step_goal (found : world.calls[index]? = some call)
    (taken : step config world action = some after) :
    ∃ stage, after.calls[index]? = some { call with stage := stage } ∧
      (stage.pulls → call.stage.pulls ∨
        (call.stage = .probing ∧ action = .resume index (.probed false))) := by
  obtain ⟨inside, -⟩ := List.getElem?_eq_some_iff.mp found
  have joined : ∀ more, after.calls = world.calls ++ more →
      after.calls[index]? = some { call with stage := call.stage } := by
    intro more calls
    rw [calls, List.getElem?_append_left inside, found]
  cases stepped taken with
  | sweeps => exact ⟨call.stage, joined _ rfl, .inl⟩
  | reports worker deviceId reason => exact ⟨call.stage, joined _ rfl, .inl⟩
  | @resumes slot other answer turn there turns =>
    by_cases own : index = slot
    · subst own
      obtain rfl := Option.some.inj (found.symm.trans there)
      refine ⟨turn.stage, calls_applied found, fun pulls => .inr ?_⟩
      obtain ⟨at_, rfl⟩ := (turn_cases turns).pulls pulls
      exact ⟨at_, rfl⟩
    · exact ⟨call.stage, (calls_apply_other inside own).trans found, .inl⟩
  | @writes slot rest other turn first there done =>
    obtain ⟨goal, note, goals, writes, lock, spawn, counted, ends, finished⟩ := written_cases done
    by_cases own : index = slot
    · subst own
      obtain rfl := Option.some.inj (found.symm.trans there)
      refine ⟨turn.stage, calls_applied found, fun pulls => ?_⟩
      rw [Stage.pulls, ends] at pulls
      cases pulls
    · have bound : index < { world with waiting := rest }.calls.length := inside
      exact ⟨call.stage, (calls_apply_other bound own).trans found, .inl⟩
  | @collects slot deviceId stage there ended uncleared =>
    by_cases own : index = slot
    · subst own
      obtain rfl := Option.some.inj (found.symm.trans there)
      exact ⟨.cleared, List.getElem?_set_self inside, by rintro ⟨⟩⟩
    · exact ⟨call.stage, (List.getElem?_set_ne (Ne.symm own)).trans found, .inl⟩
  | ticks forward => exact ⟨call.stage, found, .inl⟩
  | changes changed => exact ⟨call.stage, found, .inl⟩

/-- A write leaves the health of its device alone. -/
theorem written_health (done : written config call = some turn) : turn.health = none := by
  unfold written at done
  split at done
  · obtain rfl := Option.some.inj done
    rfl
  · obtain rfl := Option.some.inj done
    rfl
  · obtain rfl := Option.some.inj done
    rfl
  · cases done

/-- **What a step of a coroutine does to its device.** Only a failed probe of a sweep counts a
failure, and only a coroutine that waits to write QUARANTINED moves the device there. -/
theorem acting_device (acts : world.acting action = some index)
    (found : world.calls[index]? = some call)
    (taken : step config world action = some after) :
    ((after.health call.deviceId).consecutiveFailures ≤
        (world.health call.deviceId).consecutiveFailures ∨
      (call.stage = .probing ∧ action = .resume index (.probed false))) ∧
    (after.registry.stateOf call.deviceId = some .quarantined →
      world.registry.stateOf call.deviceId = some .quarantined ∨ call.stage.pulls) := by
  cases action with
  | resume slot answer =>
    obtain rfl := Option.some.inj acts
    simp only [step, found] at taken
    obtain ⟨turn, turns, rfl⟩ := Option.map_eq_some_iff.mp taken
    obtain ⟨-, health, registry, -⟩ := apply_frame world slot call turn
    rw [health, registry]
    refine ⟨?_, fun state => .inl ?_⟩
    · rcases turn_failures turns with uncounting | ⟨at_, rfl⟩
      · left
        cases changed : turn.health with
        | none => simp [settle, changed]
        | some health => simpa [settle, changed] using uncounting health changed
      · exact .inr ⟨at_, rfl⟩
    · rwa [settle, stateOf_turn (turn_cases turns).unwritten] at state
  | write =>
    cases stepped taken with
    | @writes slot rest other turn first there done =>
      obtain rfl : slot = index := by simpa [acting, first] using acts
      obtain rfl := Option.some.inj (found.symm.trans there)
      obtain ⟨goal, note, goals, writes, lock, spawn, counted, -⟩ := written_cases done
      have unchanged := written_health done
      obtain ⟨-, health, registry, -⟩ :=
        apply_frame { world with waiting := rest } slot call turn
      rw [health, registry]
      refine ⟨.inl (by simp [settle, unchanged]), fun state => ?_⟩
      simp only [settle, Turn.registry, writes, counted, Bool.false_eq_true, if_false,
        Registry.stateOf_setState, if_true, Option.map_eq_some_iff] at state
      obtain ⟨-, -, rfl⟩ := state
      exact .inr goals
  | sweep | quarantine | callback | tick | others => cases acts

/-- A failed probe of a sweep counts a failure. -/
theorem probing_counts (at_ : world.calls[index]? = some call) (probing : call.stage = .probing)
    (taken : step config world (.resume index (.probed false)) = some after) :
    (after.health call.deviceId).consecutiveFailures =
      (world.health call.deviceId).consecutiveFailures + 1 := by
  obtain ⟨role, deviceId, stage⟩ := call
  obtain rfl : stage = .probing := probing
  simp only [step, at_] at taken
  obtain ⟨turn, turns, rfl⟩ := Option.map_eq_some_iff.mp taken
  obtain ⟨-, health, -, -⟩ := apply_frame world index ⟨role, deviceId, .probing⟩ turn
  rw [health]
  simp only [HealthWorld.turn] at turns
  split at turns
  · obtain rfl := Option.some.inj turns
    simp only [checkProbed, Bool.false_eq_true, if_false]
    split
    · simp [settle]
    · split <;> simp [settle]
  · cases turns

/-- What an overlap in a longer history is. -/
theorem overlapped_cons {past : List Taken} :
    overlapped (⟨world, action, after⟩ :: past) index = true ↔
      after.competes index = true ∨ overlapped past index = true := by
  simp [overlapped]

/-- **An unrefuted step keeps the coroutines that met a lease away from QUARANTINED.** -/
theorem Spared.step {past : List Taken} (spared : Spared past world)
    (unrefuted : Unrefuted past ⟨world, action, after⟩)
    (taken : HealthWorld.step config world action = some after) :
    Spared (⟨world, action, after⟩ :: past) after := by
  intro index overlaps
  rcases overlapped_cons.mp overlaps with now | earlier
  · obtain ⟨call, found, competes⟩ := (Option.any_eq_true _ _).mp now
    refine ⟨call, found, fun pulls => ?_⟩
    have probes : call.stage.probes = true := (Bool.and_eq_true_iff.mp competes).1
    generalize call.stage = stage at probes pulls
    cases stage <;> simp [Stage.probes, Stage.pulls, Stage.goal] at probes pulls
  · obtain ⟨call, found, stays⟩ := spared index earlier
    obtain ⟨stage, moved, why⟩ := step_goal found taken
    refine ⟨_, moved, fun pulls => ?_⟩
    rcases why pulls with pulled | ⟨probing, rfl⟩
    · exact stays pulled
    · have missed : overlapped past index = false := by
        refine unrefuted ?_
        simp [found, probing]
      rw [earlier] at missed
      cases missed

/-- **An unrefuted step leaves the devices that tasks use alone.** -/
theorem Spared.harmless {past : List Taken} (spared : Spared past world)
    (unrefuted : Unrefuted past ⟨world, action, after⟩)
    (taken : HealthWorld.step config world action = some after) :
    Harmless past ⟨world, action, after⟩ := by
  intro index call acts found overlaps
  obtain ⟨counts, moves⟩ := acting_device acts found taken
  obtain ⟨same, there, stays⟩ := spared index overlaps
  obtain rfl := Option.some.inj (found.symm.trans there)
  constructor
  · rcases counts with kept | ⟨probing, rfl⟩
    · exact kept
    · have missed : overlapped past index = false := by
        refine unrefuted ?_
        simp [found, probing]
      rw [overlaps] at missed
      cases missed
  · intro state
    rcases moves state with before | pulled
    · exact before
    · exact absurd pulled stays

/-- A refuted step is not harmless. -/
theorem Harmless.unrefuted {past : List Taken}
    (harmless : Harmless past ⟨world, action, after⟩)
    (taken : HealthWorld.step config world action = some after) :
    Unrefuted past ⟨world, action, after⟩ := by
  unfold Unrefuted
  split
  · rename_i index asked
    obtain rfl : action = .resume index (.probed false) := asked
    intro probing
    obtain ⟨call, found, at_⟩ := (Option.any_eq_true _ _).mp probing
    refine Bool.eq_false_iff.mpr fun overlaps => ?_
    have kept := (harmless index call rfl found overlaps).1
    have counted := probing_counts found (of_decide_eq_true at_) taken
    dsimp only at kept counted
    omega
  · trivial

/-- In a history of harmless steps no probe is refuted. -/
theorem unrefuted_of_harmless {start : HealthWorld} {past : List Taken}
    (history : History (step config) (fun _ _ => True) start past world)
    (harmless : Throughout Harmless past) : Throughout Unrefuted past :=
  history.throughout (fun past _ => Throughout Unrefuted past) trivial
    (fun _ before _ spares taken => ⟨spares.unrefuted taken, before⟩) harmless

/-- **The monitor leaves the devices that tasks use alone** in exactly the runs in which no probe
of a sweep that overlapped a lease answers `False`. -/
theorem probing_harmless_iff {start : HealthWorld} {past : List Taken}
    (history : History (step config) (fun _ _ => True) start past world) :
    Throughout Harmless past ↔ Throughout Unrefuted past := by
  constructor
  · exact unrefuted_of_harmless history
  · intro unrefuted
    have held : Spared past world ∧ Throughout Harmless past :=
      history.throughout (fun past world => Spared past world ∧ Throughout Harmless past)
        ⟨fun _ overlaps => absurd overlaps (by simp [overlapped]), trivial⟩
        (fun _ before _ answered taken =>
          ⟨before.1.step answered taken, before.1.harmless answered taken, before.2⟩) unrefuted
    exact held.2

end

/-- A sweep probes the phone, a worker leases it meanwhile, and the probe answers. -/
def contended (check token : Nat) (ok : Bool) : List HealthAction :=
  [.sweep, .resume check .run, .others (.lease {} token), .resume check (.probed ok)]

/-- A probe that a lease overtakes is harmless when it answers. -/
theorem probing_harmless_iff_contended : ∃ past : List Taken,
    overlapped past 0 = true ∧ (Throughout Harmless past ↔ Throughout Unrefuted past) ∧
    Throughout Unrefuted past := by
  have passed : (Transition.trace (Transition.guarded (step {}) fun _ _ => True) [] lonePhone
      (contended 0 0 true)).any (fun reached =>
        decide (overlapped reached.1 0 = true ∧ Throughout Unrefuted reached.1)) = true := by
    decide +kernel
  obtain ⟨past, world, history, shown⟩ := Transition.traces passed
  obtain ⟨overlaps, unrefuted⟩ := of_decide_eq_true shown
  exact ⟨past, overlaps, probing_harmless_iff history, unrefuted⟩

/-- **Two probes that a lease overtakes pull the phone from under its task.** -/
theorem probing_harms : ∃ (past : List Taken) (world : HealthWorld),
    History (step {}) (fun _ _ => True) lonePhone past world ∧
    world.registry.isLeased "phone-a" = true ∧
    world.registry.stateOf "phone-a" = some .quarantined ∧
    (world.health "phone-a").consecutiveFailures = 2 ∧
    ¬Throughout Harmless past := by
  have passed : (Transition.trace (Transition.guarded (step {}) fun _ _ => True) [] lonePhone
      (contended 0 0 false ++ [.others (.unlease ⟨"phone-a", 0⟩)] ++ contended 1 1 false ++
        [.write])).any (fun reached =>
        decide (reached.2.registry.isLeased "phone-a" = true ∧
          reached.2.registry.stateOf "phone-a" = some .quarantined ∧
          (reached.2.health "phone-a").consecutiveFailures = 2 ∧
          ¬Throughout Unrefuted reached.1)) = true := by
    decide +kernel
  obtain ⟨past, world, history, shown⟩ := Transition.traces passed
  obtain ⟨leased, state, failures, refuted⟩ := of_decide_eq_true shown
  exact ⟨past, world, history, leased, state, failures, fun harmless =>
    refuted (unrefuted_of_harmless history harmless)⟩

end HealthWorld

end DeviceOrchestrator
