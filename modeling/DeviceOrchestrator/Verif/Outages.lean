import Mathlib.Tactic.Linarith
import DeviceOrchestrator.Verif.Premise

/-!
# The backoff of an outage

A device that stays away fails one recovery episode after another. Each failure counts the episode,
computes the next delay and only then writes when the next episode may begin, so from episode 1025
on the power of two is no float and nothing is written. The counter is cleared when a `_restore`
begins, before it waits for the lock: an episode that fails in between is counted into the next
outage.
-/
namespace DeviceOrchestrator

open Transition (History Run Throughout)

/-- The delay after a failed episode. -/
def HealthPolicy.delay (policy : HealthPolicy) (episode : Nat) : Rat :=
  min (policy.recoveryBackoffBaseS * 2 ^ (episode - 1)) policy.recoveryBackoffCapS

/-- No delay exceeds the cap. -/
theorem HealthPolicy.delay_le_cap (policy : HealthPolicy) (episode : Nat) :
    policy.delay episode ≤ policy.recoveryBackoffCapS :=
  min_le_right _ _

/-- Delays never decrease. -/
theorem HealthPolicy.delay_mono {policy : HealthPolicy} (base : 0 < policy.recoveryBackoffBaseS)
    {earlier later : Nat} (ordered : earlier ≤ later) :
    policy.delay earlier ≤ policy.delay later := by
  have powers : (2 : Rat) ^ (earlier - 1) ≤ 2 ^ (later - 1) :=
    pow_le_pow_right₀ (by decide) (by omega)
  exact min_le_min (mul_le_mul_of_nonneg_left powers base.le) le_rfl

namespace HealthWorld

/-- Whether an answer ends the loop of `_attempt_recovery` without a recovery. -/
def givesUp (config : HealthConfig) (world : HealthWorld) (call : HealthCall)
    (answer : HealthAnswer) : Bool :=
  match call.stage, answer with
  | .recovering, .run =>
    decide ((world.health call.deviceId).recentRecoveries world.now
      config.policy.recoveryWindowS < config.policy.retireAfterRecoveries) &&
      world.registry.adbReachable call.deviceId && decide (config.policy.recoveryAttempts = 0)
  | .reconnecting number, .reconnected false | .reprobing number, .probed false
  | .sleeping number, .slept => decide (config.policy.recoveryAttempts ≤ number)
  | _, _ => false

/-- The episode that fails in a step, with its device: its loop ends while the device is
QUARANTINED. -/
def failing (config : HealthConfig) (taken : Taken) : Option (Nat × DeviceId) :=
  match taken.action with
  | .resume index answer =>
    match taken.before.calls[index]? with
    | some call =>
      if taken.before.givesUp config call answer ∧
          taken.before.registry.stateOf call.deviceId = some .quarantined then
        some (index, call.deviceId)
      else none
    | none => none
  | _ => none

/-- Whether an episode on a device fails in a step. -/
def fails (config : HealthConfig) (deviceId : DeviceId) (taken : Taken) : Bool :=
  (failing config taken).any fun verdict => verdict.2 = deviceId

/-- Whether a `_restore` of a device begins in a step. -/
def restoring (deviceId : DeviceId) (taken : Taken) : Bool :=
  match taken.action with
  | .resume index _ =>
    match taken.after.calls[index]? with
    | some ⟨_, target, .restoring _⟩ => target = deviceId
    | _ => false
  | _ => false

/-- Whether an outage of a device is over after a step: it is not QUARANTINED any more, or its
restoration begins. -/
def breaks (deviceId : DeviceId) (taken : Taken) : Bool :=
  restoring deviceId taken || decide (taken.after.registry.stateOf deviceId ≠ some .quarantined)

/-- The device for which a step creates an episode. -/
def created (taken : Taken) : Option DeviceId :=
  match taken.after.calls[taken.before.calls.length]? with
  | some ⟨.episode, deviceId, _⟩ => some deviceId
  | _ => none

/-- The episodes on a device that have failed since its last restoration began. -/
def counted (config : HealthConfig) (deviceId : DeviceId) : List Taken → Nat
  | [] => 0
  | taken :: earlier =>
    if restoring deviceId taken then 0
    else counted config deviceId earlier + (fails config deviceId taken).toNat

/-- The episodes on a device that have failed in its present outage. -/
def failures (config : HealthConfig) (deviceId : DeviceId) : List Taken → Nat
  | [] => 0
  | taken :: earlier =>
    if breaks deviceId taken then 0
    else failures config deviceId earlier + (fails config deviceId taken).toNat

/-- When the next episode may begin, for each failed episode of the present outage. -/
def deadlines (config : HealthConfig) (deviceId : DeviceId) : List Taken → List Rat
  | [] => []
  | taken :: earlier =>
    if breaks deviceId taken then []
    else if fails config deviceId taken then
      (taken.before.now + config.policy.delay (failures config deviceId earlier + 1)) ::
        deadlines config deviceId earlier
    else deadlines config deviceId earlier

/-- **The backoff of an outage.** The failed episodes of an outage hand the sink their numbers and
end when it returns; each sets the next time by its delay, and no episode is created before any
such time of the outage. -/
structure BacksOff (config : HealthConfig) (past : List Taken) (taken : Taken) : Prop where
  /-- A failed episode. -/
  verdict : ∀ index deviceId, failing config taken = some (index, deviceId) →
    ∃ role reason, taken.after.calls[index]? = some ⟨role, deviceId, .announcingFailed⟩ ∧
      (∀ later : HealthWorld, later.turn config ⟨role, deviceId, .announcingFailed⟩ .announced =
        some { stage := .returned }) ∧
      taken.after.published = taken.before.published ++
        [.recoveryFailed deviceId (failures config deviceId past + 1)
          (roundHalfEven (config.policy.delay (failures config deviceId past + 1))) reason] ∧
      (taken.after.health deviceId).nextRecoveryAt =
        taken.before.now + config.policy.delay (failures config deviceId past + 1)
  /-- A new episode. -/
  spaced : ∀ deviceId, created taken = some deviceId →
    ∀ time ∈ deadlines config deviceId past, time ≤ taken.before.now

/-- A failed episode is at most the 1024th of its outage, and no episode failed between the
beginning of an earlier restoration and the end of that outage. -/
def Countable (config : HealthConfig) (past : List Taken) (taken : Taken) : Prop :=
  ∀ verdict ∈ failing config taken,
    counted config verdict.2 past = failures config verdict.2 past ∧
      failures config verdict.2 past < 1024

instance (config : HealthConfig) (past : List Taken) (taken : Taken) :
    Decidable (Countable config past taken) := by
  unfold Countable
  infer_instance

/-- How a failed episode goes on from the health of its device. -/
inductive Verdict (config : HealthConfig) (now : Rat) (deviceId : DeviceId)
    (health : DeviceHealth) (turn : Turn) : Prop
  /-- It writes when the next one may begin, and hands the sink its number. -/
  | announced (failed : DeviceHealth) (reason : String)
      (few : health.failedRecoveries < 1024)
      (stage : turn.stage = .announcingFailed)
      (event : turn.event = some (.recoveryFailed deviceId (health.failedRecoveries + 1)
        (roundHalfEven (config.policy.delay (health.failedRecoveries + 1))) reason))
      (written : turn.health = some failed)
      (counted : failed.failedRecoveries = health.failedRecoveries + 1)
      (next : failed.nextRecoveryAt =
        now + config.policy.delay (health.failedRecoveries + 1))
  /-- It raises once it has been counted. -/
  | raised (failed : DeviceHealth) (many : 1024 ≤ health.failedRecoveries)
      (stage : turn.stage = .raised) (written : turn.health = some failed)
      (counted : failed.failedRecoveries = health.failedRecoveries + 1)
      (next : failed.nextRecoveryAt = health.nextRecoveryAt)

section
variable {config : HealthConfig} {world : HealthWorld} {deviceId : DeviceId}

/-- What the end of the loop does with a QUARANTINED device. -/
theorem exhausted_verdict (down : world.registry.stateOf deviceId = some .quarantined) :
    Verdict config world.now deviceId (world.health deviceId)
      (world.exhausted config deviceId) := by
  unfold exhausted
  rw [if_neg (by simp [down])]
  dsimp only
  unfold timesPowerOfTwo
  by_cases many : 1024 ≤ (world.health deviceId).failedRecoveries
  · simp only [Nat.add_sub_cancel, if_pos many]
    exact .raised _ many rfl rfl rfl rfl
  · simp only [Nat.add_sub_cancel, if_neg many]
    exact .announced _ _ (by omega) rfl rfl rfl rfl rfl

/-- The end of the loop leaves a device alone that is not QUARANTINED. -/
theorem exhausted_abandoned (up : world.registry.stateOf deviceId ≠ some .quarantined) :
    world.exhausted config deviceId = { stage := .returned } := by
  unfold exhausted
  rw [if_pos up]

/-- A verdict about a health that reads the same. -/
theorem Verdict.congr {now : Rat} {health other : DeviceHealth} {turn after : Turn}
    (verdict : Verdict config now deviceId health turn)
    (failed : other.failedRecoveries = health.failedRecoveries)
    (next : other.nextRecoveryAt = health.nextRecoveryAt) (stage : after.stage = turn.stage)
    (event : after.event = turn.event)
    (written : ∀ found, turn.health = some found → after.health = some found) :
    Verdict config now deviceId other after := by
  cases verdict with
  | announced found reason few stage' event' wrote counted time =>
    refine .announced found reason (failed ▸ few) (stage.trans stage') ?_ (written _ wrote)
      (failed ▸ counted) (failed ▸ time)
    rw [event, event', failed]
  | raised found many stage' wrote counted time =>
    exact .raised found (failed ▸ many) (stage.trans stage') (written _ wrote)
      (failed ▸ counted) (time.trans next.symm)

/-- **What a turn does to the backoff of its device.** -/
inductive Backoff (config : HealthConfig) (world : HealthWorld) (call : HealthCall)
    (answer : HealthAnswer) (turn : Turn) : Prop
  /-- A restoration begins and clears it. -/
  | clears (path : RestorePath) (cleared : DeviceHealth)
      (works : world.givesUp config call answer = false) (stage : turn.stage = .restoring path)
      (written : turn.health = some cleared)
      (counter : cleared.failedRecoveries = 0) (next : cleared.nextRecoveryAt = 0)
  /-- An episode fails. -/
  | fails (gives : world.givesUp config call answer = true)
      (down : world.registry.stateOf call.deviceId = some .quarantined)
      (verdict : Verdict config world.now call.deviceId (world.health call.deviceId) turn)
      (unspawned : turn.spawn = false) (unwritten : turn.write = none)
  /-- Anything else leaves it. -/
  | keeps (passes : world.givesUp config call answer = true →
        world.registry.stateOf call.deviceId ≠ some .quarantined)
      (stage : ∀ path, turn.stage ≠ .restoring path)
      (counter : ∀ health, turn.health = some health →
        health.failedRecoveries = (world.health call.deviceId).failedRecoveries)
      (next : ∀ health, turn.health = some health →
        health.nextRecoveryAt = (world.health call.deviceId).nextRecoveryAt)

variable {call : HealthCall} {answer : HealthAnswer} {turn : Turn}

/-- A turn that changes no health and begins no restoration, where no episode gives up. -/
theorem Backoff.idle {stage : Stage} {spawn : Bool}
    (works : world.givesUp config call answer = false) (onward : stage.goal = none) :
    Backoff config world call answer { stage := stage, spawn := spawn } := by
  refine .keeps (by simp [works]) ?_ nofun nofun
  intro path begins
  have begins : stage = .restoring path := begins
  rw [begins] at onward
  cases onward

/-- The end of the loop. -/
theorem exhausted_backoff (gives : world.givesUp config call answer = true) :
    Backoff config world call answer (world.exhausted config call.deviceId) := by
  by_cases down : world.registry.stateOf call.deviceId = some .quarantined
  · obtain ⟨passive, -, -⟩ := world.exhausted_passive config call.deviceId
    exact .fails gives down (exhausted_verdict down) passive.spawn passive.write
  · rw [exhausted_abandoned down]
    exact .keeps (fun _ => down) nofun nofun nofun

/-- An attempt that failed. -/
theorem attemptFailed_backoff {number : Nat}
    (gives : world.givesUp config call answer = decide (config.policy.recoveryAttempts ≤ number)) :
    Backoff config world call answer (world.attemptFailed config call.deviceId number) := by
  unfold attemptFailed
  split
  · rename_i more
    have works : world.givesUp config call answer = false := by
      rw [gives]
      exact decide_eq_false (by omega)
    exact .idle works rfl
  · rename_i last
    refine exhausted_backoff ?_
    rw [gives]
    exact decide_eq_true (by omega)

/-- The head of the loop. -/
theorem attempt_backoff {number : Nat} (gives : world.givesUp config call answer =
      decide (config.policy.recoveryAttempts < number)) :
    Backoff config world call answer (world.attempt config call.deviceId number) := by
  unfold attempt
  split
  · rename_i last
    refine exhausted_backoff ?_
    rw [gives]
    exact decide_eq_true last
  · rename_i more
    have works : world.givesUp config call answer = false := by
      rw [gives]
      exact decide_eq_false more
    split
    · exact .idle works rfl
    · exact .idle works rfl

/-- The first run of an episode. -/
theorem recoveryStarted_backoff (at_ : call.stage = .recovering) :
    Backoff config world call .run (world.recoveryStarted config call.deviceId) := by
  obtain ⟨role, deviceId, stage⟩ := call
  obtain rfl : stage = .recovering := at_
  unfold recoveryStarted
  dsimp only
  split
  · rename_i many
    have works : world.givesUp config ⟨role, deviceId, .recovering⟩ .run = false := by
      simp only [givesUp, decide_eq_false (Nat.not_lt.mpr many), Bool.false_and]
    refine .keeps (by simp [works]) nofun ?_ ?_
    · rintro health ⟨⟩
      rfl
    · rintro health ⟨⟩
      rfl
  · rename_i few
    split
    · rename_i slot
      have slot : world.registry.adbReachable deviceId = false := by simpa using slot
      have works : world.givesUp config ⟨role, deviceId, .recovering⟩ .run = false := by
        simp only [givesUp, slot, Bool.and_false, Bool.false_and]
      exact .clears .virtual _ works rfl rfl rfl rfl
    · rename_i adb
      have adb : world.registry.adbReachable deviceId = true := by simpa using adb
      have gives : world.givesUp config ⟨role, deviceId, .recovering⟩ .run =
          decide (config.policy.recoveryAttempts < 1) := by
        simp only [givesUp, decide_eq_true (Nat.lt_of_not_le few), adb, Bool.true_and,
          Nat.lt_one_iff]
      generalize pruned : (world.health deviceId).prune world.now
        config.policy.recoveryWindowS = health
      have counter : health.failedRecoveries = (world.health deviceId).failedRecoveries := by
        rw [← pruned]
        rfl
      have next : health.nextRecoveryAt = (world.health deviceId).nextRecoveryAt := by
        rw [← pruned]
        rfl
      generalize looked :
        ({ world with health := Function.update world.health deviceId health } :
          HealthWorld) = before
      have registry : before.registry = world.registry := by rw [← looked]
      have now : before.now = world.now := by rw [← looked]
      have kept : before.health deviceId = health := by
        rw [← looked]
        simp
      unfold attempt
      rw [registry]
      split
      · rename_i last
        have gives : world.givesUp config ⟨role, deviceId, .recovering⟩ .run = true := by
          rw [gives]
          exact decide_eq_true last
        by_cases down : world.registry.stateOf deviceId = some .quarantined
        · obtain ⟨passive, -, -⟩ := before.exhausted_passive config deviceId
          refine .fails gives down ?_ passive.spawn passive.write
          have verdict : Verdict config before.now deviceId (before.health deviceId) _ :=
            exhausted_verdict (registry ▸ down)
          rw [kept, now] at verdict
          refine verdict.congr counter.symm next.symm rfl rfl ?_
          intro found written
          simp only [written, Option.getD_some]
        · rw [exhausted_abandoned (registry ▸ down)]
          refine .keeps (fun _ => down) nofun ?_ ?_
          · rintro after ⟨⟩
            exact counter
          · rintro after ⟨⟩
            exact next
      · rename_i more
        have works : world.givesUp config ⟨role, deviceId, .recovering⟩ .run = false := by
          rw [gives]
          exact decide_eq_false more
        split
        all_goals
          refine .keeps (by simp [works]) nofun ?_ ?_
          · rintro after ⟨⟩
            exact counter
          · rintro after ⟨⟩
            exact next

/-- What `_check_one` does with the answer of its probe. -/
theorem checkProbed_backoff (at_ : call.stage = .probing) (ok : Bool) :
    Backoff config world call (.probed ok) (world.checkProbed config call.deviceId ok) := by
  obtain ⟨role, deviceId, stage⟩ := call
  obtain rfl : stage = .probing := at_
  have works : world.givesUp config ⟨role, deviceId, .probing⟩ (.probed ok) = false := rfl
  have left {turn : Turn} {failures : Nat} (stage : ∀ path, turn.stage ≠ .restoring path)
      (written : turn.health =
        some { world.health deviceId with consecutiveFailures := failures }) :
      Backoff config world ⟨role, deviceId, .probing⟩ (.probed ok) turn := by
    refine .keeps (by simp [works]) stage ?_ ?_
    · intro health wrote
      rw [← Option.some.inj (written.symm.trans wrote)]
    · intro health wrote
      rw [← Option.some.inj (written.symm.trans wrote)]
  unfold checkProbed
  dsimp only
  split
  · split
    · exact .clears .probe _ works rfl rfl rfl rfl
    · exact left nofun rfl
  · split
    · exact left nofun rfl
    · split
      · exact left nofun rfl
      · exact left nofun rfl

/-- **Every turn does one of these to the backoff.** -/
theorem turn_backoff (taken : world.turn config call answer = some turn) :
    Backoff config world call answer turn := by
  obtain ⟨role, deviceId, stage⟩ := call
  unfold HealthWorld.turn at taken
  dsimp only at taken
  split at taken
  · obtain rfl := Option.some.inj taken
    refine .idle rfl ?_
    split <;> rfl
  · rename_i ok
    split at taken
    · obtain rfl := Option.some.inj taken
      exact checkProbed_backoff rfl ok
    · cases taken
  · obtain rfl := Option.some.inj taken
    exact recoveryStarted_backoff rfl
  · rename_i number ok
    obtain rfl := Option.some.inj taken
    cases ok with
    | true => exact .idle rfl rfl
    | false => exact attemptFailed_backoff rfl
  · rename_i number ok
    obtain rfl := Option.some.inj taken
    cases ok with
    | true => exact .clears _ _ rfl rfl rfl rfl rfl
    | false => exact attemptFailed_backoff rfl
  · rename_i number
    obtain rfl := Option.some.inj taken
    refine attempt_backoff ?_
    simp only [givesUp, Nat.lt_succ_iff]
  · obtain rfl := Option.some.inj taken
    exact .idle rfl rfl
  · obtain rfl := Option.some.inj taken
    exact .idle rfl rfl
  · obtain rfl := Option.some.inj taken
    refine .keeps nofun nofun ?_ ?_
    · rintro health ⟨⟩
      rfl
    · rintro health ⟨⟩
      rfl
  · obtain rfl := Option.some.inj taken
    exact .idle rfl rfl
  all_goals first
    | cases taken; done
    | obtain rfl := Option.some.inj taken
      exact .idle rfl rfl

end

/-- **What a step does to the backoff of a device.** -/
inductive StepBackoff (config : HealthConfig) (taken : Taken) (deviceId : DeviceId) : Prop
  /-- A restoration begins. -/
  | clears (begins : restoring deviceId taken = true) (none : fails config deviceId taken = false)
      (counter : (taken.after.health deviceId).failedRecoveries = 0)
  /-- An episode fails. -/
  | fails (index : Nat) (call : HealthCall) (turn : Turn)
      (works : restoring deviceId taken = false)
      (failed : failing config taken = some (index, deviceId))
      (down : taken.after.registry.stateOf deviceId = some .quarantined)
      (named : call.deviceId = deviceId)
      (verdict : Verdict config taken.before.now deviceId (taken.before.health deviceId) turn)
      (now : taken.after.now = taken.before.now)
      (calls : taken.after.calls[index]? = some { call with stage := turn.stage })
      (health : some (taken.after.health deviceId) = turn.health)
      (published : taken.after.published = taken.before.published ++ turn.event.toList)
  /-- Anything else leaves it. -/
  | keeps (works : restoring deviceId taken = false) (none : fails config deviceId taken = false)
      (counter : (taken.after.health deviceId).failedRecoveries =
        (taken.before.health deviceId).failedRecoveries)
      (next : (taken.after.health deviceId).nextRecoveryAt =
        (taken.before.health deviceId).nextRecoveryAt)

section
variable {config : HealthConfig} {world after : HealthWorld} {action : HealthAction}
variable {index : Nat} {call : HealthCall} {answer : HealthAnswer} {turn : Turn}

/-- The coroutine that took a turn is where the turn suspended it. -/
theorem calls_apply_self (found : world.calls[index]? = some call) :
    (world.apply index call turn).calls[index]? = some { call with stage := turn.stage } := by
  obtain ⟨bound, -⟩ := List.getElem?_eq_some_iff.mp found
  rcases calls_apply world index call turn with calls | calls
  · rw [calls, List.getElem?_set_self bound]
  · rw [calls, List.getElem?_append_left (by simpa using bound), List.getElem?_set_self bound]

/-- The episode that fails when a coroutine resumes. -/
theorem failing_resume (found : world.calls[index]? = some call) :
    failing config ⟨world, .resume index answer, after⟩ =
      if world.givesUp config call answer ∧
          world.registry.stateOf call.deviceId = some .quarantined then
        some (index, call.deviceId)
      else none := by
  simp only [failing, found]

/-- A restoration that begins when a coroutine resumes is one of its device. -/
theorem restoring_resume {stage : Stage} {deviceId : DeviceId}
    (here : after.calls[index]? = some { call with stage := stage })
    (begins : restoring deviceId ⟨world, .resume index answer, after⟩ = true) :
    (∃ path, stage = .restoring path) ∧ call.deviceId = deviceId := by
  simp only [restoring, here] at begins
  split at begins
  · rename_i role target path restores
    cases restores
    exact ⟨⟨path, rfl⟩, of_decide_eq_true begins⟩
  · cases begins

/-- A coroutine resumes. -/
theorem resume_backoff (found : world.calls[index]? = some call)
    (turns : world.turn config call answer = some turn) (deviceId : DeviceId) :
    StepBackoff config ⟨world, .resume index answer, world.apply index call turn⟩ deviceId := by
  obtain ⟨now, health, registry, -⟩ := apply_frame world index call turn
  have here : (world.apply index call turn).calls[index]? =
      some { call with stage := turn.stage } := calls_apply_self found
  by_cases named : call.deviceId = deviceId
  · subst named
    have written : (world.apply index call turn).health call.deviceId =
        turn.health.getD (world.health call.deviceId) := by
      rw [health]
      cases changed : turn.health <;> simp [settle, changed]
    have fits : fails config call.deviceId
        ⟨world, .resume index answer, world.apply index call turn⟩ =
          (world.givesUp config call answer &&
            decide (world.registry.stateOf call.deviceId = some .quarantined)) := by
      rw [fails, failing_resume found]
      by_cases gives : world.givesUp config call answer = true ∧
        world.registry.stateOf call.deviceId = some .quarantined
      · simp [gives]
      · rw [if_neg gives]
        simpa using gives
    cases turn_backoff turns with
    | clears path cleared works stage wrote counter next =>
      refine .clears ?_ (by rw [fits, works, Bool.false_and]) ?_
      · simp only [restoring, here, stage, decide_true]
      · simp only [written, wrote, Option.getD_some, counter]
    | fails gives down verdict unspawned unwritten =>
      have passes : restoring call.deviceId
          ⟨world, .resume index answer, world.apply index call turn⟩ = false := by
        by_contra begins
        obtain ⟨⟨path, stage⟩, -⟩ := restoring_resume here (by simpa using begins)
        cases verdict with
        | announced failed reason few announcing => cases announcing.symm.trans stage
        | raised failed many raising => cases raising.symm.trans stage
      have kept : (world.apply index call turn).registry.stateOf call.deviceId =
          world.registry.stateOf call.deviceId := by
        rw [registry]
        simp only [settle, Turn.registry, unwritten]
        split <;> simp
      refine .fails index call turn passes ?_ (kept.trans down) rfl verdict now here ?_ ?_
      · rw [failing_resume found, if_pos ⟨gives, down⟩]
      · rw [written]
        cases verdict with
        | announced failed reason few stage event wrote => simp [wrote]
        | raised failed many stage wrote => simp [wrote]
      · simp [HealthWorld.apply, unspawned, settle]
    | keeps passes stage counter next =>
      refine .keeps ?_ ?_ ?_ ?_
      · by_contra begins
        obtain ⟨⟨path, restores⟩, -⟩ := restoring_resume here (by simpa using begins)
        exact stage path restores
      · rw [fits]
        cases gives : world.givesUp config call answer with
        | false => rfl
        | true => simpa using passes gives
      · rw [written]
        cases changed : turn.health with
        | none => rfl
        | some found => exact counter found changed
      · rw [written]
        cases changed : turn.health with
        | none => rfl
        | some found => exact next found changed
  · have apart : (world.apply index call turn).health deviceId = world.health deviceId := by
      rw [health]
      cases changed : turn.health <;> simp [settle, changed, Ne.symm named]
    refine .keeps ?_ ?_ (by rw [apart]) (by rw [apart])
    · by_contra begins
      exact named (restoring_resume here (by simpa using begins)).2
    · rw [fails, failing_resume found]
      split <;> simp [named]

/-- **Every step does one of these to the backoff of each device.** -/
theorem step_backoff (taken : step config world action = some after) (deviceId : DeviceId) :
    StepBackoff config ⟨world, action, after⟩ deviceId := by
  cases stepped taken with
  | sweeps => exact .keeps rfl rfl rfl rfl
  | reports worker target reason => exact .keeps rfl rfl rfl rfl
  | resumes found turns => exact resume_backoff found turns deviceId
  | @writes index rest call turn first found done =>
    have unchanged : (HealthWorld.apply { world with waiting := rest } index call turn).health =
        world.health := by
      unfold written at done
      dsimp only at done
      split at done
      all_goals first
        | cases done; done
        | obtain rfl := Option.some.inj done
          rfl
    exact .keeps rfl rfl (by rw [unchanged]) (by rw [unchanged])
  | collects found ended uncleared => exact .keeps rfl rfl rfl rfl
  | ticks forward => exact .keeps rfl rfl rfl rfl
  | changes changed => exact .keeps rfl rfl rfl rfl

/-- Time does not run backwards. -/
theorem now_le (taken : step config world action = some after) : world.now ≤ after.now := by
  cases stepped taken with
  | resumes found turns => exact (apply_frame ..).1.ge
  | writes first found done => exact (apply_frame ..).1.ge
  | ticks forward => exact le_add_of_nonneg_right forward
  | sweeps | reports worker target reason | collects found ended uncleared
  | changes changed => exact le_rfl

/-- A new episode waits for the next time of its device. -/
theorem created_due (taken : step config world action = some after) {deviceId : DeviceId}
    (new : created ⟨world, action, after⟩ = some deviceId) :
    (world.health deviceId).nextRecoveryAt ≤ world.now := by
  simp only [created] at new
  split at new
  · rename_i target stage there
    obtain rfl := Option.some.inj new
    have beyond {calls : List HealthCall} (same : calls.length = world.calls.length) :
        calls[world.calls.length]? = none := List.getElem?_eq_none (by omega)
    cases step_call taken with
    | still calls =>
      rw [calls, beyond rfl] at there
      cases there
    | joined more calls others =>
      rw [calls, List.getElem?_append_right le_rfl] at there
      exact absurd rfl (others _ (List.mem_of_getElem? there)).1
    | moved index call stage found live calls =>
      rw [calls, beyond (by simp)] at there
      cases there
    | spawned index call found at_ idle due clear calls =>
      rw [calls, List.getElem?_append_right (by simp)] at there
      simp only [List.length_set, Nat.sub_self, List.getElem?_cons_zero, Option.some.injEq,
        HealthCall.mk.injEq] at there
      rw [← there.2.1]
      exact due
    | cleared index deviceId stage found uncleared calls =>
      rw [calls, beyond (by simp)] at there
      cases there
  · cases new

end

/-- **The invariant of the backoff of one device.** The counter counts the failed episodes since
the last restoration; and while every outage is countable, no deadline of the present one lies
after the next time of the device, nor after the present time with the delay of the outage. -/
structure Backed (config : HealthConfig) (deviceId : DeviceId) (past : List Taken)
    (world : HealthWorld) : Prop where
  /-- The counter. -/
  counter : (world.health deviceId).failedRecoveries = counted config deviceId past
  /-- The deadlines. -/
  deadline : Throughout (Countable config) past → ∀ time ∈ deadlines config deviceId past,
    time ≤ (world.health deviceId).nextRecoveryAt ∧
      time ≤ world.now + config.policy.delay (failures config deviceId past)

section
variable {config : HealthConfig} {world after : HealthWorld} {action : HealthAction}
variable {deviceId : DeviceId} {past : List Taken}

/-- A step keeps the deadlines that it does not end. -/
theorem Backed.later (backed : Backed config deviceId past world) (forward : world.now ≤ after.now)
    (countable : Throughout (Countable config) past) {next : Rat}
    (postponed : (world.health deviceId).nextRecoveryAt ≤ next) {time : Rat}
    (member : time ∈ deadlines config deviceId past) :
    time ≤ next ∧ time ≤ after.now + config.policy.delay (failures config deviceId past) := by
  obtain ⟨early, soon⟩ := backed.deadline countable time member
  exact ⟨early.trans postponed, soon.trans (add_le_add forward le_rfl)⟩

/-- A failed episode that is countable is announced with the number it has in its outage. -/
theorem Backed.numbered (backed : Backed config deviceId past world) {turn : Turn}
    (verdict : Verdict config world.now deviceId (world.health deviceId) turn)
    (same : counted config deviceId past = failures config deviceId past)
    (few : failures config deviceId past < 1024) : ∃ reason, turn.stage = .announcingFailed ∧
      turn.event = some (.recoveryFailed deviceId (failures config deviceId past + 1)
        (roundHalfEven (config.policy.delay (failures config deviceId past + 1))) reason) ∧
      ∀ health, turn.health = some health → health.nextRecoveryAt =
        world.now + config.policy.delay (failures config deviceId past + 1) := by
  have number := backed.counter.trans same
  cases verdict with
  | announced failed reason _ stage event written counter next =>
    rw [number] at event next
    refine ⟨reason, stage, event, ?_⟩
    intro health wrote
    rw [← Option.some.inj (written.symm.trans wrote)]
    exact next
  | raised failed many => omega

/-- Every step keeps the invariant. -/
theorem backed_step (base : 0 < config.policy.recoveryBackoffBaseS)
    (backed : Backed config deviceId past world) (taken : step config world action = some after) :
    Backed config deviceId (⟨world, action, after⟩ :: past) after := by
  have forward := now_le taken
  cases step_backoff taken deviceId with
  | clears begins none counter =>
    refine ⟨by simpa [counted, begins] using counter, ?_⟩
    intro countable time member
    simp [deadlines, breaks, begins] at member
  | fails index call turn works failed down named verdict now calls health published =>
    have failing : fails config deviceId ⟨world, action, after⟩ = true := by simp [fails, failed]
    have unbroken : breaks deviceId ⟨world, action, after⟩ = false := by
      simp only [breaks, works, Bool.false_or, decide_eq_false_iff_not, not_not]
      exact down
    constructor
    · rw [counted, works, failing, ← backed.counter]
      cases verdict with
      | announced _ _ _ _ _ written counter | raised _ _ _ written counter =>
        rw [Option.some.inj (health.trans written)]
        exact counter
    · intro countable time member
      obtain ⟨same, few⟩ := countable.1 _ failed
      obtain ⟨-, -, -, sets⟩ := backed.numbered verdict same few
      have next := sets _ health.symm
      have longer := config.policy.delay_mono base (Nat.le_succ (failures config deviceId past))
      simp only [deadlines, unbroken, failing, Bool.false_eq_true, if_true, if_false] at member
      simp only [failures, unbroken, failing, Bool.false_eq_true, if_false, Bool.toNat_true]
      have now : after.now = world.now := now
      rw [next, now]
      rcases List.mem_cons.mp member with rfl | earlier
      · exact ⟨le_rfl, le_rfl⟩
      · obtain ⟨-, soon⟩ := backed.deadline countable.2 time earlier
        have bounded := soon.trans (add_le_add le_rfl longer)
        exact ⟨bounded, bounded⟩
  | keeps works none counter next =>
    constructor
    · rw [counted, works, none, ← backed.counter]
      exact counter
    · intro countable time member
      simp only [deadlines, none, Bool.false_eq_true, if_false] at member
      split at member
      · cases member
      · rename_i unbroken
        rw [failures, if_neg unbroken, none, Bool.toNat_false, Nat.add_zero]
        exact backed.later forward countable.2 next.ge member

/-- A fresh monitor has counted nothing. -/
theorem Backed.fresh (fresh : world.Fresh) : Backed config deviceId [] world where
  counter := by simp [fresh.health, counted]
  deadline _ _ member := by cases member

/-- The backoff of every device holds in every history. -/
theorem backed_run (base : 0 < config.policy.recoveryBackoffBaseS)
    {allowed : HealthWorld → HealthAction → Prop} {start : HealthWorld} (fresh : start.Fresh)
    (history : History (step config) allowed start past world) (deviceId : DeviceId) :
    Backed config deviceId past world :=
  history.invariant (fun past world => Backed config deviceId past world) (.fresh fresh)
    fun _ backed _ taken => backed_step base backed taken

/-- A device whose episode fails in a step. -/
theorem fails_of_failing {taken : Taken} {index : Nat}
    (failed : failing config taken = some (index, deviceId)) :
    fails config deviceId taken = true := by
  simp [fails, failed]

/-- What a failed episode leaves behind. -/
theorem verdict_step (taken : step config world action = some after) {index : Nat}
    (failed : failing config ⟨world, action, after⟩ = some (index, deviceId)) :
    ∃ role turn, Verdict config world.now deviceId (world.health deviceId) turn ∧
      after.calls[index]? = some ⟨role, deviceId, turn.stage⟩ ∧
      turn.health = some (after.health deviceId) ∧
      after.published = world.published ++ turn.event.toList := by
  have failing := fails_of_failing failed
  cases step_backoff taken deviceId with
  | clears begins none | keeps works none =>
    rw [none] at failing
    cases failing
  | fails other call turn works failed' down named verdict now calls health published =>
    obtain ⟨rfl, -⟩ := Prod.mk.inj (Option.some.inj (failed'.symm.trans failed))
    subst named
    exact ⟨call.role, turn, verdict, calls, health.symm, published⟩

/-- One step backs off exactly if it is countable, after steps that were. -/
theorem backsOff_step (backed : ∀ deviceId, Backed config deviceId past world)
    (countable : Throughout (Countable config) past)
    (taken : step config world action = some after) :
    BacksOff config past ⟨world, action, after⟩ ↔ Countable config past ⟨world, action, after⟩ := by
  constructor
  · rintro ⟨numbers, -⟩ ⟨index, deviceId⟩ failed
    obtain ⟨role, reason, here, -, published, -⟩ := numbers index deviceId failed
    obtain ⟨role', turn, verdict, there, -, published'⟩ := verdict_step taken failed
    cases verdict with
    | announced failed reason' few stage event written counter next =>
      have events := published.symm.trans published'
      rw [event, Option.toList_some] at events
      have same := (List.cons.inj (List.append_cancel_left events)).1
      obtain ⟨-, number, -⟩ := HealthEvent.recoveryFailed.inj same
      rw [(backed deviceId).counter] at number few
      show counted config deviceId past = failures config deviceId past ∧
        failures config deviceId past < 1024
      omega
    | raised failed many stage =>
      rw [stage] at there
      cases there.symm.trans here
  · intro counts
    constructor
    · intro index deviceId failed
      obtain ⟨same, few⟩ := counts _ failed
      obtain ⟨role, turn, verdict, there, health, published⟩ := verdict_step taken failed
      obtain ⟨reason, stage, event, next⟩ := (backed deviceId).numbered verdict same few
      refine ⟨role, reason, stage ▸ there, fun _ => rfl, ?_, next _ health⟩
      rw [event] at published
      exact published
    · intro deviceId new time member
      obtain ⟨early, -⟩ := (backed deviceId).deadline countable time member
      exact early.trans (created_due taken new)

end

/-- **Recovery backoff holds in exactly the runs whose failed episodes are countable**: every
failed episode completes, is announced with its number in the outage and sets the next time by
its delay, and no episode is created before such a time, if and only if no outage has more than
1024 failed episodes and none fails between the beginning of a restoration and its write. The
delays themselves never decrease and never exceed the cap. -/
theorem backoff_kept_iff {config : HealthConfig} (base : 0 < config.policy.recoveryBackoffBaseS)
    {allowed : HealthWorld → HealthAction → Prop} {start world : HealthWorld}
    {past : List Taken} (fresh : start.Fresh)
    (history : History (step config) allowed start past world) :
    (Throughout (BacksOff config) past ↔ Throughout (Countable config) past) ∧
      ∀ earlier later, earlier ≤ later →
        config.policy.delay earlier ≤ config.policy.delay later ∧
          config.policy.delay later ≤ config.policy.recoveryBackoffCapS :=
  ⟨history.throughout_iff fun before countable _ taken =>
      backsOff_step (backed_run base fresh before) countable taken,
    fun _ later ordered =>
      ⟨config.policy.delay_mono base ordered, config.policy.delay_le_cap later⟩⟩

/-! ## An outage of 1025 episodes -/

/-- One try in each episode, and the default backoff. -/
def singleTry : HealthConfig where
  policy := { recoveryAttempts := 1 }

/-- The phone that is away, with the coroutines that have ended and the present ones. -/
def away (old more : List HealthCall) (now : Rat) (entry : Option Nat) (health : DeviceHealth)
    (published : List HealthEvent) : HealthWorld where
  registry := { devices :=
    ⟨[{ id := "phone-a", state := .quarantined, note := "no such element" }], by decide⟩ }
  now := now
  calls := old ++ more
  recoveries := Function.update (fun _ => none) "phone-a" entry
  health := Function.update (fun _ => {}) "phone-a" health
  published := published

section
variable {old more : List HealthCall} {now : Rat} {entry : Option Nat} {health : DeviceHealth}
variable {published : List HealthEvent}

/-- A present coroutine of the phone takes a turn that only moves it on. -/
theorem away_resume {position : Nat} {role : HealthRole} {stage : Stage} {answer : HealthAnswer}
    {turn : Turn} (found : more[position]? = some ⟨role, "phone-a", stage⟩)
    (turns : (away old more now entry health published).turn singleTry
      ⟨role, "phone-a", stage⟩ answer = some turn)
    (unlocked : turn.lock = false) (unwritten : turn.write = none)
    (uncounted : turn.counted = false) (unspawned : turn.spawn = false) :
    step singleTry (away old more now entry health published)
        (.resume (old.length + position) answer) =
      some (away old (more.set position ⟨role, "phone-a", turn.stage⟩) now entry
        (turn.health.getD health) (published ++ turn.event.toList)) := by
  have here : (old ++ more)[old.length + position]? = some ⟨role, "phone-a", stage⟩ := by
    rw [List.getElem?_append_right (Nat.le_add_right _ _), Nat.add_sub_cancel_left, found]
  have moved (call : HealthCall) :
      (old ++ more).set (old.length + position) call = old ++ more.set position call := by
    rw [List.set_append_right _ _ (Nat.le_add_right _ _), Nat.add_sub_cancel_left]
  have listed : (away old more now entry health published).calls = old ++ more := rfl
  simp only [step, listed, here, turns, Option.map_some, HealthWorld.apply, unspawned, settle,
    moved, unlocked, Turn.registry, unwritten, uncounted, Bool.false_eq_true, if_false]
  cases changed : turn.health with
  | none => rfl
  | some after => simp [away]

/-- The phone that is away is QUARANTINED. -/
theorem away_quarantined :
    (away old more now entry health published).registry.stateOf "phone-a" =
      some .quarantined := rfl

/-- Its health. -/
theorem away_health : (away old more now entry health published).health "phone-a" = health := by
  simp [away]

/-- The first run of an episode goes on to the reconnect. -/
theorem away_started (untimed : health.recoveryTimes = []) :
    (away old more now entry health published).turn singleTry
        ⟨.episode, "phone-a", .recovering⟩ .run =
      some { stage := .reconnecting 1, health := some health } := by
  obtain ⟨consecutive, times, failed, next⟩ := health
  obtain rfl : times = [] := untimed
  have few : ¬(5 : Nat) ≤ 0 := by decide
  have reachable : (away old more now entry ⟨consecutive, [], failed, next⟩
    published).registry.adbReachable "phone-a" = true := rfl
  simp [HealthWorld.turn, recoveryStarted, away_health, DeviceHealth.recentRecoveries,
    DeviceHealth.prune, reachable, attempt, singleTry, away_quarantined]

/-- The callback of the one episode that has ended. -/
theorem away_callback :
    step singleTry (away old [⟨.episode, "phone-a", .returned⟩] now entry health published)
        (.callback (old.length + 0)) =
      some (away old [⟨.episode, "phone-a", .cleared⟩] now none health published) := by
  simp [step, away]

/-- Time passes, and what has ended is history. -/
theorem away_elapsed : step singleTry (away old more now entry health published) (.tick 300) =
    some (away (old ++ more) [] (now + 300) entry health published) := by
  have forward : (0 : Rat) ≤ 300 := by decide
  simp [step, away, forward]

/-- An episode whose reconnect fails gives up. -/
theorem away_gaveUp : (away old more now entry health published).turn singleTry
    ⟨.episode, "phone-a", .reconnecting 1⟩ (.reconnected false) =
      some ((away old more now entry health published).exhausted singleTry "phone-a") := rfl

/-- An episode whose failure is announced returns. -/
theorem away_announced : (away old more now entry health published).turn singleTry
    ⟨.episode, "phone-a", .announcingFailed⟩ .announced = some { stage := .returned } := rfl

/-- What giving up does. -/
theorem away_verdict : Verdict singleTry now "phone-a" health
    ((away old more now entry health published).exhausted singleTry "phone-a") := by
  have verdict := @exhausted_verdict singleTry (away old more now entry health published) "phone-a"
    away_quarantined
  rwa [away_health] at verdict

/-- An episode fails, and its backoff elapses. -/
theorem away_episode (untimed : health.recoveryTimes = [])
    (few : health.failedRecoveries < 1024) :
    ∃ later published', later.recoveryTimes = [] ∧
      later.failedRecoveries = health.failedRecoveries + 1 ∧
      later.nextRecoveryAt ≤ now + 300 ∧
      Run (step singleTry) (fun _ _ => True)
        (away old [⟨.episode, "phone-a", .recovering⟩] now (some old.length) health published)
        (away (old ++ [⟨.episode, "phone-a", .cleared⟩]) [] (now + 300) none later
          published') := by
  let present := fun stage => [(⟨.episode, "phone-a", stage⟩ : HealthCall)]
  have started : step singleTry
      (away old (present .recovering) now (some old.length) health published)
      (.resume (old.length + 0) .run) =
        some (away old (present (.reconnecting 1)) now (some old.length) health
          (published ++ [])) :=
    away_resume rfl (away_started untimed) rfl rfl rfl rfl
  let tried := away old (present (.reconnecting 1)) now (some old.length) health (published ++ [])
  obtain ⟨passive, -, -⟩ := tried.exhausted_passive singleTry "phone-a"
  have gaveUp : step singleTry tried (.resume (old.length + 0) (.reconnected false)) = some _ :=
    away_resume rfl away_gaveUp passive.lock passive.write passive.counted passive.spawn
  have verdict : Verdict singleTry now "phone-a" health
    (tried.exhausted singleTry "phone-a") := away_verdict
  have unchanged := passive.times
  rw [away_health] at unchanged
  generalize tried.exhausted singleTry "phone-a" = turn at gaveUp verdict unchanged
  cases verdict with
  | raised failed many => omega
  | announced failed reason _ stage event written counter next =>
    rw [stage, written, event] at gaveUp
    have ended (events : List HealthEvent) : step singleTry
        (away old (present .announcingFailed) now (some old.length) failed events)
        (.resume (old.length + 0) .announced) = some _ :=
      away_resume rfl away_announced rfl rfl rfl rfl
    have delayed : singleTry.policy.delay (health.failedRecoveries + 1) ≤ 300 :=
      singleTry.policy.delay_le_cap _
    have toFailure : Run (step singleTry) (fun _ _ => True) _ _ :=
      (Run.single trivial started).next trivial gaveUp
    have toEnd := (toFailure.next trivial (ended _)).next trivial away_callback
    refine ⟨failed, _, (unchanged _ written).trans untimed, counter, ?_,
      toEnd.next trivial away_elapsed⟩
    rw [next]
    linarith only [delayed]

/-- A check that is not overtaken by a lease probes. -/
theorem away_checked : (away old more now entry health published).turn singleTry
    ⟨.check, "phone-a", .checking⟩ .run = some { stage := .probing } := rfl

/-- The probe of the phone fails, and an episode is asked for. -/
theorem away_probed : (away old more now entry health published).turn singleTry
    ⟨.check, "phone-a", .probing⟩ (.probed false) = some
      { stage := .returned
        health := some { health with consecutiveFailures := health.consecutiveFailures + 1 }
        spawn := true } := by
  have reachable :
      (away old more now entry health published).registry.adbReachable "phone-a" = true := rfl
  simp [HealthWorld.turn, checkProbed, reachable, away_quarantined, away_health]

/-- A check ends and creates an episode, whose backoff is over. -/
theorem away_spawned (due : health.nextRecoveryAt ≤ now) :
    step singleTry (away old [⟨.check, "phone-a", .probing⟩] now none health published)
        (.resume old.length (.probed false)) =
      some (away (old ++ [⟨.check, "phone-a", .returned⟩]) [⟨.episode, "phone-a", .recovering⟩] now
        (some (old.length + 1))
        { health with consecutiveFailures := health.consecutiveFailures + 1 }
        published) := by
  have there : (away old [⟨.check, "phone-a", .probing⟩] now none health published).calls[
      old.length]? = some ⟨.check, "phone-a", .probing⟩ := by
    simp [away]
  simp only [step, there, away_probed, Option.map_some, HealthWorld.apply, if_true]
  simp [away, settle, spawn, Turn.registry, not_lt.mpr due]

/-- A sweep probes the phone in vain and creates an episode. -/
theorem away_sweep (settled : ∀ call ∈ old, call.stage.over = true)
    (due : health.nextRecoveryAt ≤ now) :
    Run (step singleTry) (fun _ _ => True) (away old [] now none health published)
      (away (old ++ [⟨.check, "phone-a", .returned⟩]) [⟨.episode, "phone-a", .recovering⟩] now
        (some (old.length + 1))
        { health with consecutiveFailures := health.consecutiveFailures + 1 }
        (published ++ [])) := by
  have listed : HealthWorld.swept (away old [] now none health published).registry =
      [⟨.check, "phone-a", .checking⟩] := rfl
  have calls : (away old [] now none health published).calls = old ++ [] := rfl
  have swept : step singleTry (away old [] now none health published) .sweep =
      some (away old [⟨.check, "phone-a", .checking⟩] now none health published) := by
    simp only [step, calls, listed]
    rw [if_pos (by simpa using fun call member => .inr (settled call member))]
    simp [away]
  have probed : step singleTry
      (away old [⟨.check, "phone-a", .checking⟩] now none health published)
      (.resume (old.length + 0) .run) =
        some (away old [⟨.check, "phone-a", .probing⟩] now none health (published ++ [])) :=
    away_resume rfl away_checked rfl rfl rfl rfl
  exact ((Run.single trivial swept).next trivial probed).next trivial (away_spawned due)

end

/-- The phone that is away, between two episodes. -/
structure Between (failed : Nat) (old : List HealthCall) (now : Rat) (health : DeviceHealth) :
    Prop where
  /-- Every coroutine has ended. -/
  settled : ∀ call ∈ old, call.stage.over = true
  /-- No reconnect ever succeeded. -/
  untimed : health.recoveryTimes = []
  /-- So many episodes have failed. -/
  counter : health.failedRecoveries = failed
  /-- The backoff of the last one is over. -/
  due : health.nextRecoveryAt ≤ now

/-- A worker reports the lone phone, and its first episode is created. -/
theorem away_reported : Run (step singleTry) (fun _ _ => True) lonePhone
    (away [⟨.report 0, "phone-a", .returned⟩] [⟨.episode, "phone-a", .recovering⟩] 0 (some 1) {}
      [.quarantined "phone-a" "no such element"]) := by
  have blank : Function.update (fun _ : DeviceId => ({} : DeviceHealth)) "phone-a" {} =
      fun _ => {} := by
    funext deviceId
    simp [Function.update_apply]
  have passed : Transition.execute (Transition.guarded (step singleTry) (fun _ _ => True)) lonePhone
      [.quarantine 0 "phone-a" "no such element", .write, .resume 0 .announced] = some
        { away [⟨.report 0, "phone-a", .returned⟩] [⟨.episode, "phone-a", .recovering⟩] 0 (some 1)
            {} [.quarantined "phone-a" "no such element"] with
          health := fun _ => {} } := rfl
  have same := Transition.execute_run passed
  rwa [← blank] at same

/-- The lone phone stays away for as many episodes as the backoff can count. -/
theorem away_outage (count : Nat) (few : count < 1024) : ∃ old now health published,
    Between (count + 1) old now health ∧
    Run (step singleTry) (fun _ _ => True) lonePhone (away old [] now none health published) := by
  induction count with
  | zero =>
    obtain ⟨health, published, untimed, counter, due, episode⟩ :=
      @away_episode [⟨.report 0, "phone-a", .returned⟩] 0 {}
        [.quarantined "phone-a" "no such element"] rfl (by decide)
    exact ⟨_, _, health, published, ⟨by simp [Stage.over], untimed, counter, due⟩,
      away_reported.trans episode⟩
  | succ count ih =>
    obtain ⟨old, now, health, published, between, run⟩ := ih (by omega)
    have swept := @away_sweep old now health published between.settled between.due
    obtain ⟨later, published', untimed, counter, due, episode⟩ :=
      @away_episode (old ++ [⟨.check, "phone-a", .returned⟩]) now
        { health with consecutiveFailures := health.consecutiveFailures + 1 } (published ++ [])
        between.untimed (between.counter ▸ few)
    have length : (old ++ [(⟨.check, "phone-a", .returned⟩ : HealthCall)]).length =
        old.length + 1 := List.length_append
    rw [length] at episode
    have settled : ∀ call ∈ old ++ [⟨.check, "phone-a", .returned⟩] ++
        [(⟨.episode, "phone-a", .cleared⟩ : HealthCall)], call.stage.over = true := by
      intro call member
      simp only [List.mem_append, List.mem_singleton] at member
      obtain (earlier | rfl) | rfl := member
      · exact between.settled call earlier
      · rfl
      · rfl
    have counted : later.failedRecoveries = count + 1 + 1 := by
      rw [counter]
      exact congrArg (· + 1) between.counter
    exact ⟨_, _, later, published', ⟨settled, untimed, counted, due⟩,
      (run.trans swept).trans episode⟩

/-- The 1025th episode raises, and nothing keeps the next one back. -/
theorem away_collapse : ∃ (past : List Taken) (taken : Taken) (world : HealthWorld),
    History (step singleTry) (fun _ _ => True) lonePhone (taken :: past) world ∧
    (failing singleTry taken).map Prod.snd = some "phone-a" ∧
    counted singleTry "phone-a" past = 1024 ∧
    world.calls.getLast?.map HealthCall.stage = some .raised ∧
    (world.health "phone-a").nextRecoveryAt ≤ world.now ∧ ¬BacksOff singleTry past taken := by
  obtain ⟨old, now, health, published, between, run⟩ := away_outage 1023 (by decide)
  have swept := @away_sweep old now health published between.settled between.due
  generalize failed : ({ health with consecutiveFailures := health.consecutiveFailures + 1 } :
    DeviceHealth) = worse at swept
  have untimed : worse.recoveryTimes = [] := by
    rw [← failed]
    exact between.untimed
  have many : worse.failedRecoveries = 1024 := by
    rw [← failed]
    exact between.counter
  have due : worse.nextRecoveryAt ≤ now := by
    rw [← failed]
    exact between.due
  generalize old ++ [(⟨.check, "phone-a", .returned⟩ : HealthCall)] = ended at swept
  let present := fun stage => [(⟨.episode, "phone-a", stage⟩ : HealthCall)]
  have started : step singleTry
      (away ended (present .recovering) now (some (old.length + 1)) worse (published ++ []))
      (.resume (ended.length + 0) .run) = some _ :=
    away_resume rfl (away_started untimed) rfl rfl rfl rfl
  obtain ⟨past, history⟩ := ((run.trans swept).next trivial started).history
  let tried := away ended (present (.reconnecting 1)) now (some (old.length + 1)) worse
    (published ++ [] ++ [])
  obtain ⟨passive, -, -⟩ := tried.exhausted_passive singleTry "phone-a"
  have gaveUp : step singleTry tried (.resume (ended.length + 0) (.reconnected false)) = some _ :=
    away_resume rfl away_gaveUp passive.lock passive.write passive.counted passive.spawn
  have verdict : Verdict singleTry now "phone-a" worse
    (tried.exhausted singleTry "phone-a") := away_verdict
  have found : tried.calls[ended.length + 0]? = some ⟨.episode, "phone-a", .reconnecting 1⟩ := by
    simp [tried, away, present]
  cases verdict with
  | announced other reason few => omega
  | raised other _ stage written counter next =>
    rw [stage, written] at gaveUp
    generalize lost : away ended _ now (some (old.length + 1)) _ _ = after at gaveUp
    have last : after.calls = ended ++ [⟨.episode, "phone-a", .raised⟩] := by rw [← lost]; rfl
    have failing : failing singleTry
        ⟨tried, .resume (ended.length + 0) (.reconnected false), after⟩ =
          some (ended.length + 0, "phone-a") := by
      rw [failing_resume found, if_pos ⟨rfl, away_quarantined⟩]
    refine ⟨past, _, after, history.next trivial gaveUp,
      congrArg (Option.map Prod.snd) failing, ?_, ?_, ?_, ?_⟩
    · have backed := backed_run (by decide +kernel) ⟨rfl, rfl, rfl, rfl⟩ history "phone-a"
      rw [← backed.counter]
      exact (congrArg DeviceHealth.failedRecoveries away_health).trans many
    · simp [last]
    · rw [← lost, away_health]
      exact (next.trans_le due)
    · intro backs
      obtain ⟨role, reason, here, -⟩ := backs.verdict _ _ failing
      simp [last] at here

/-- A restoration begins while an episode is at work, which fails before the phone is ONLINE. The
first episode of the next outage fails as well. -/
def restoredMeanwhile : List HealthAction :=
  [.quarantine 0 "phone-a" "no such element", .write, .resume 0 .announced, .resume 1 .run,
    .sweep, .resume 2 .run, .resume 2 (.probed true), .resume 1 (.reconnected false), .write,
    .resume 1 .announced, .callback 1, .resume 2 .announced, .tick 8,
    .quarantine 0 "phone-a" "no such element", .write, .resume 3 .announced, .resume 4 .run,
    .resume 4 (.reconnected false)]

/-- The number that an event announces. -/
def announcedEpisode : HealthEvent → Option Nat
  | .recoveryFailed _ episode _ _ => some episode
  | _ => none

/-- **The backoff of an outage collapses** at its 1025th failed episode, which raises, announces
nothing and sets no next time. And an episode that fails while a restoration waits for the lock is
counted into the next outage, whose first failure is announced as its second. -/
theorem backoff_collapses :
    (∃ (past : List Taken) (taken : Taken) (world : HealthWorld),
      History (step singleTry) (fun _ _ => True) lonePhone (taken :: past) world ∧
      (failing singleTry taken).map Prod.snd = some "phone-a" ∧
      counted singleTry "phone-a" past = 1024 ∧
      world.calls.getLast?.map HealthCall.stage = some .raised ∧
      (world.health "phone-a").nextRecoveryAt ≤ world.now ∧ ¬BacksOff singleTry past taken) ∧
    ∃ (past : List Taken) (taken : Taken) (world : HealthWorld),
      History (step singleTry) (fun _ _ => True) lonePhone (taken :: past) world ∧
      (failing singleTry taken).map Prod.snd = some "phone-a" ∧
      failures singleTry "phone-a" past = 0 ∧
      world.published.getLast?.bind announcedEpisode = some 2 := by
  refine ⟨away_collapse, ?_⟩
  have passed : (Transition.trace (Transition.guarded (step singleTry) (fun _ _ => True)) []
      lonePhone restoredMeanwhile).any (fun reached => match reached.1 with
        | taken :: past => decide ((failing singleTry taken).map Prod.snd = some "phone-a" ∧
            failures singleTry "phone-a" past = 0 ∧
            reached.2.published.getLast?.bind announcedEpisode = some 2)
        | [] => false) = true := by
    decide +kernel
  obtain ⟨steps, world, history, shown⟩ := Transition.traces passed
  cases steps with
  | nil => cases shown
  | cons taken past => exact ⟨past, taken, world, history, of_decide_eq_true shown⟩

/-- The equivalence at a run with one failed episode. -/
theorem backoff_kept_iff_first : ∃ past : List Taken,
    (past.head?.bind (failing singleTry)).map Prod.snd = some "phone-a" ∧
    Throughout (Countable singleTry) past ∧
    (Throughout (BacksOff singleTry) past ↔ Throughout (Countable singleTry) past) := by
  have passed : (Transition.trace (Transition.guarded (step singleTry) (fun _ _ => True)) []
      lonePhone [.quarantine 0 "phone-a" "no such element", .write, .resume 0 .announced,
        .resume 1 .run, .resume 1 (.reconnected false)]).any (fun reached => decide (
          (reached.1.head?.bind (failing singleTry)).map Prod.snd = some "phone-a" ∧
          Throughout (Countable singleTry) reached.1)) = true := by
    decide +kernel
  obtain ⟨past, world, history, shown⟩ := Transition.traces passed
  obtain ⟨failed, countable⟩ := of_decide_eq_true shown
  have base : 0 < singleTry.policy.recoveryBackoffBaseS := by decide +kernel
  exact ⟨past, failed, countable, (backoff_kept_iff base ⟨rfl, rfl, rfl, rfl⟩ history).1⟩

end HealthWorld

end DeviceOrchestrator
