import DeviceOrchestrator.Lib.Potential
import DeviceOrchestrator.Verif.Recoveries
import DeviceOrchestrator.Verif.StateWrites

/-!
# Every coroutine of the monitor ends

A check goes on to a quarantine and may leave an episode behind, and an episode has so many tries.
So what a coroutine at a stage can still cause is bounded (`Stage.work`), and when no sweep and no
worker makes new ones, the monitor comes to rest. At rest nothing waits for the lock, no episode
runs or has its callback pending, and the loop can sweep again.
-/
namespace DeviceOrchestrator

open Transition (Run History)

/-- The steps that a coroutine at a stage can still cause, with the episode that it may spawn, which
has so many tries. -/
def Stage.work (tries : Nat) : Stage → Nat
  | returned | raised | cleared => 0
  | announcingRestored | announcingRetired | announcingFailed => 1
  | restoring _ | retiring => 2
  | sleeping number => 3 * (tries - number) + 2
  | reprobing number => 3 * (tries - number) + 3
  | reconnecting number => 3 * (tries - number) + 4
  | recovering => 3 * tries + 3
  | announcingQuarantined => 3 * tries + 5
  | marking _ => 3 * tries + 6
  | probing => 3 * tries + 7
  | checking => 3 * tries + 8

/-- The steps that a coroutine can still cause; an episode also has its callback. -/
def HealthCall.work (tries : Nat) (call : HealthCall) : Nat :=
  call.stage.work tries + if call.role = .episode ∧ call.stage ≠ .cleared then 1 else 0

/-- The steps that a turn leaves to its coroutine and to the episode that it may spawn. -/
def Turn.work (tries : Nat) (turn : Turn) : Nat :=
  turn.stage.work tries + if turn.spawn then 3 * tries + 4 else 0

/-- A coroutine of the monitor or the callback of one takes the step. -/
def HealthAction.moves : HealthAction → Bool
  | resume _ _ | write | callback _ => true
  | sweep | quarantine _ _ _ | tick _ | others _ => false

namespace HealthWorld

/-- **What the monitor can still do** without a sweep and a report. -/
def work (config : HealthConfig) (world : HealthWorld) : Nat :=
  (world.calls.map (HealthCall.work config.policy.recoveryAttempts)).sum

/-- What a sweep and a report add. -/
def prompted (config : HealthConfig) (world : HealthWorld) : HealthAction → Nat
  | .sweep => (3 * config.policy.recoveryAttempts + 8) * (swept world.registry).length
  | .quarantine _ _ _ => 3 * config.policy.recoveryAttempts + 6
  | _ => 0

variable {config : HealthConfig} {world after : HealthWorld} {action : HealthAction}
variable {index : Nat} {call : HealthCall} {turn : Turn} {answer : HealthAnswer}

/-- A failed episode has at most its announcement left. -/
theorem work_exhausted (config : HealthConfig) (world : HealthWorld) (deviceId : DeviceId)
    (tries : Nat) : (world.exhausted config deviceId).work tries ≤ 1 := by
  unfold exhausted
  split
  · exact Nat.zero_le 1
  · dsimp only
    split
    · exact Nat.zero_le 1
    · exact le_rfl

/-- The head of the loop has the tries from this one on left. -/
theorem work_attempt (config : HealthConfig) (world : HealthWorld) (deviceId : DeviceId)
    (number : Nat) :
    (world.attempt config deviceId number).work config.policy.recoveryAttempts ≤
      if config.policy.recoveryAttempts < number then 1
      else 3 * (config.policy.recoveryAttempts - number) + 4 := by
  unfold attempt
  split
  · exact work_exhausted config world deviceId _
  · split
    · exact Nat.zero_le _
    · exact le_rfl

/-- After a failed try the later ones are left. -/
theorem work_attemptFailed (config : HealthConfig) (world : HealthWorld) (deviceId : DeviceId)
    (number : Nat) :
    (world.attemptFailed config deviceId number).work config.policy.recoveryAttempts ≤
      3 * (config.policy.recoveryAttempts - number) + 2 := by
  unfold attemptFailed
  split
  · exact le_rfl
  · have least := work_exhausted config world deviceId config.policy.recoveryAttempts
    omega

/-- The first run of an episode leaves it its tries. -/
theorem work_recoveryStarted (config : HealthConfig) (world : HealthWorld) (deviceId : DeviceId) :
    (world.recoveryStarted config deviceId).work config.policy.recoveryAttempts <
      3 * config.policy.recoveryAttempts + 3 := by
  unfold recoveryStarted
  dsimp only
  split
  · simp [Turn.work, Stage.work]
  · split
    · simp [restore, Turn.work, Stage.work]
    · have first := work_attempt config { world with
        health := Function.update world.health deviceId ((world.health deviceId).prune world.now
          config.policy.recoveryWindowS) } deviceId 1
      refine lt_of_le_of_lt first ?_
      split <;> omega

/-- What `_check_one` leaves after its probe. -/
theorem work_checkProbed (config : HealthConfig) (world : HealthWorld) (deviceId : DeviceId)
    (ok : Bool) (tries : Nat) :
    (world.checkProbed config deviceId ok).work tries < 3 * tries + 7 := by
  unfold checkProbed
  dsimp only
  split
  · split <;> simp [restore, Turn.work, Stage.work]
  · split
    · simp [Turn.work, Stage.work]
    · split <;> simp [Turn.work, Stage.work]

/-- **A turn uses up work**, also where it spawns an episode. -/
theorem work_turn (taken : world.turn config call answer = some turn) :
    turn.work config.policy.recoveryAttempts < call.stage.work config.policy.recoveryAttempts := by
  obtain ⟨role, deviceId, stage⟩ := call
  unfold HealthWorld.turn at taken
  dsimp only at taken
  split at taken
  · obtain rfl := Option.some.inj taken
    split <;> simp [Turn.work, Stage.work]
  · split at taken
    · obtain rfl := Option.some.inj taken
      exact work_checkProbed config world deviceId _ _
    · cases taken
  · obtain rfl := Option.some.inj taken
    exact work_recoveryStarted config world deviceId
  · rename_i number ok
    obtain rfl := Option.some.inj taken
    cases ok with
    | true => simp [Turn.work, Stage.work]
    | false =>
      have failed := work_attemptFailed config world deviceId number
      show (world.attemptFailed config deviceId number).work _ < 3 * (_ - number) + 4
      omega
  · rename_i number ok
    obtain rfl := Option.some.inj taken
    cases ok with
    | true => simp [reconnected, restore, Turn.work, Stage.work]
    | false =>
      have failed := work_attemptFailed config world deviceId number
      show (world.attemptFailed config deviceId number).work _ < 3 * (_ - number) + 3
      omega
  · rename_i number
    obtain rfl := Option.some.inj taken
    have next := work_attempt config world deviceId (number + 1)
    show (world.attempt config deviceId (number + 1)).work _ < 3 * (_ - number) + 2
    split at next <;> omega
  · obtain rfl := Option.some.inj taken
    simp [Turn.work, Stage.work]
  · obtain rfl := Option.some.inj taken
    simp only [Turn.work, Stage.work]
    split <;> omega
  all_goals first
    | cases taken; done
    | obtain rfl := Option.some.inj taken
      simp [Turn.work, Stage.work]

/-- A write uses up work. -/
theorem work_written (done : written config call = some turn) (tries : Nat) :
    turn.work tries < call.stage.work tries := by
  unfold written at done
  split at done
  · rename_i path at_
    obtain rfl := Option.some.inj done
    simp [at_, Turn.work, Stage.work]
  · rename_i reason at_
    obtain rfl := Option.some.inj done
    simp [at_, Turn.work, Stage.work]
  · rename_i at_
    obtain rfl := Option.some.inj done
    simp [at_, Turn.work, Stage.work]
  · cases done

/-- **Carrying out a turn** takes the work of its coroutine off, and adds what the turn leaves. -/
theorem work_apply (found : world.calls[index]? = some call) (live : call.stage.over = false)
    (uses : turn.work config.policy.recoveryAttempts <
      call.stage.work config.policy.recoveryAttempts) :
    1 + (world.apply index call turn).work config ≤ world.work config := by
  have exchanged := Potential.sum_set (HealthCall.work config.policy.recoveryAttempts) found
    { call with stage := turn.stage }
  have uncleared : call.stage ≠ .cleared := by
    intro cleared
    rw [cleared] at live
    cases live
  have callback : HealthCall.work config.policy.recoveryAttempts { call with stage := turn.stage } +
      call.stage.work config.policy.recoveryAttempts ≤
        call.work config.policy.recoveryAttempts +
          turn.stage.work config.policy.recoveryAttempts := by
    simp only [HealthCall.work, uncleared, ne_eq, not_false_eq_true, and_true]
    split_ifs with left same
    · omega
    · exact absurd left.1 same
    · omega
    · omega
  simp only [Turn.work] at uses
  have episode : HealthCall.work config.policy.recoveryAttempts
      ⟨.episode, call.deviceId, .recovering⟩ = 3 * config.policy.recoveryAttempts + 4 := rfl
  cases spawns : turn.spawn with
  | false =>
    have same : (world.apply index call turn).calls =
        world.calls.set index { call with stage := turn.stage } := by
      simp [HealthWorld.apply, spawns, settle]
    simp only [work, same]
    omega
  | true =>
    rw [spawns, if_pos rfl] at uses
    simp only [work]
    rcases calls_apply world index call turn with same | more
    · rw [same]
      omega
    · rw [more, List.map_append, List.sum_append, List.map_singleton, List.sum_singleton, episode]
      omega

/-- **Every step of a coroutine is one that could still be caused.** -/
theorem work_step (taken : step config world action = some after) :
    action.moves.toNat + after.work config ≤ world.work config + world.prompted config action := by
  cases stepped taken with
  | sweeps =>
    have checks : ((swept world.registry).map
        (HealthCall.work config.policy.recoveryAttempts)).sum =
          (3 * config.policy.recoveryAttempts + 8) * (swept world.registry).length := by
      have each : HealthCall.work config.policy.recoveryAttempts ∘
          (fun device : Device => ⟨.check, device.id, .checking⟩) =
            Function.const Device (3 * config.policy.recoveryAttempts + 8) := rfl
      rw [swept, List.map_map, each, List.map_const, List.sum_replicate_nat, List.length_map,
        Nat.mul_comm]
    simp only [work, prompted, HealthAction.moves, List.map_append, List.sum_append, checks,
      Bool.toNat_false]
    omega
  | reports worker deviceId reason =>
    simp [work, HealthAction.moves, prompted, HealthCall.work, Stage.work]
  | resumes found turns =>
    obtain ⟨live, -⟩ := turn_live turns
    exact work_apply found live (work_turn turns)
  | @writes index rest call turn first found done =>
    obtain ⟨live, -⟩ := written_moves done
    exact @work_apply config { world with waiting := rest } index call turn found live
      (work_written done _)
  | @collects index deviceId stage found ended uncleared =>
    have exchanged := Potential.sum_set (HealthCall.work config.policy.recoveryAttempts) found
      ⟨.episode, deviceId, .cleared⟩
    have callback : 1 ≤ HealthCall.work config.policy.recoveryAttempts
        ⟨.episode, deviceId, stage⟩ := by
      simp [HealthCall.work, uncleared]
    have nothing : HealthCall.work config.policy.recoveryAttempts
        ⟨.episode, deviceId, .cleared⟩ = 0 := rfl
    simp only [work, prompted, HealthAction.moves, Bool.toNat_true]
    omega
  | ticks forward => simp [work, HealthAction.moves, prompted]
  | changes changed => simp [work, HealthAction.moves, prompted]

/-- A step of a coroutine adds nothing from outside. -/
theorem prompted_of_moves (moves : action.moves = true) : world.prompted config action = 0 := by
  cases action with
  | sweep => cases moves
  | quarantine worker deviceId reason => cases moves
  | _ => rfl

/-- No coroutine of the monitor can go on, whatever it is answered. -/
def AtRest (config : HealthConfig) (world : HealthWorld) : Prop :=
  ∀ action : HealthAction, action.moves = true → step config world action = none

/-- Where no work is left no coroutine can go on. -/
theorem AtRest.of_work (nothing : world.work config = 0) : AtRest config world := by
  intro action moves
  cases taken : step config world action with
  | none => rfl
  | some after =>
    have less := work_step taken
    have unprompted : world.prompted config action = 0 := prompted_of_moves moves
    rw [moves, unprompted, nothing, Bool.toNat_true] at less
    omega

/-- Calls that are to write wait for the lock, and an entry is an episode whose callback has not
run. -/
structure Kept (world : HealthWorld) : Prop where
  /-- A waiting call has a write to do, and no call waits twice. -/
  queued : world.Queued
  /-- A call with a write to do waits. -/
  waits : ∀ (index : Nat) (call : HealthCall), world.calls[index]? = some call →
    call.stage.goal ≠ none → index ∈ world.waiting
  /-- An entry is an episode on its device. -/
  entry : ∀ deviceId index, world.recoveries deviceId = some index →
    world.Uncleared index deviceId

/-- A turn that leaves a write to be done asks for the lock. -/
theorem Turned.locks (turned : Turned config world call answer turn)
    (goal : turn.stage.goal ≠ none) : turn.lock = true := by
  cases turned with
  | onward keeps passive work => exact absurd passive.goal goal
  | begun at_ asked few adb episode passive => exact absurd passive.goal goal
  | retired at_ stage passive => exact absurd passive.goal goal
  | quarantined at_ turned | spawns at_ asked state turned =>
    subst turned
    exact absurd rfl goal
  | restores at_ asked state turned | marks at_ asked state turned
  | retires at_ asked many turned | virtual at_ asked few slot turned
  | reconnects number at_ asked turned =>
    subst turned
    rfl

/-- **A call with a write to do keeps waiting**, until it has written. -/
theorem Kept.waits_step (kept : world.Kept) (taken : step config world action = some after)
    {other : Nat} {found : HealthCall} (there : after.calls[other]? = some found)
    (goal : found.stage.goal ≠ none) : other ∈ after.waiting := by
  cases stepped taken with
  | sweeps =>
    rcases Slots.getElem?_extended there with earlier | new
    · exact kept.waits other found earlier goal
    · obtain ⟨device, -, rfl⟩ := List.mem_map.mp new
      exact absurd rfl goal
  | reports worker deviceId reason =>
    rcases Slots.getElem?_concat there with ⟨rfl, -⟩ | ⟨-, earlier⟩
    · exact List.mem_append_right _ (List.mem_singleton.mpr rfl)
    · exact List.mem_append_left _ (kept.waits other found earlier goal)
  | @resumes index call answer turn known turns =>
    obtain ⟨-, -, -, waiting⟩ := apply_frame world index call turn
    have moved : (world.calls.set index { call with stage := turn.stage })[other]? = some found →
        other ∈ (world.apply index call turn).waiting := by
      intro there
      rw [waiting]
      rcases Slots.getElem?_rewritten there with ⟨rfl, rfl⟩ | ⟨-, earlier⟩
      · simp [settle, (turn_cases turns).locks goal]
      · have waits := kept.waits other found earlier goal
        simp only [settle]
        split
        · exact List.mem_append_left _ waits
        · exact waits
    rcases calls_apply world index call turn with same | more
    · exact moved (same ▸ there)
    · rw [more] at there
      rcases Slots.getElem?_extended there with earlier | new
      · exact moved earlier
      · obtain rfl := List.mem_singleton.mp new
        exact absurd rfl goal
  | @writes index rest call turn first known done =>
    obtain ⟨-, -, -, waiting⟩ := apply_frame { world with waiting := rest } index call turn
    obtain ⟨-, -, -, -, lock, spawn, -, written, -⟩ := written_cases done
    have left : ({ world with waiting := rest }.apply index call turn).waiting = rest :=
      waiting.trans (by simp [settle, lock])
    have calls : ({ world with waiting := rest }.apply index call turn).calls =
        world.calls.set index { call with stage := turn.stage } := by
      simp [HealthWorld.apply, spawn, settle]
    rw [calls] at there
    rw [left]
    rcases Slots.getElem?_rewritten there with ⟨rfl, rfl⟩ | ⟨apart, earlier⟩
    · exact absurd written goal
    · have waits := kept.waits other found earlier goal
      rw [first] at waits
      exact (List.mem_cons.mp waits).resolve_left apart
  | collects known ended uncleared =>
    rcases Slots.getElem?_rewritten there with ⟨rfl, rfl⟩ | ⟨-, earlier⟩
    · exact absurd rfl goal
    · exact kept.waits other found earlier goal
  | ticks forward => exact kept.waits other found there goal
  | changes changed => exact kept.waits other found there goal

/-- **An entry stays an episode whose callback has not run.** -/
theorem Kept.entry_step (kept : world.Kept) (taken : step config world action = some after)
    {deviceId : DeviceId} {entry : Nat} (entered : after.recoveries deviceId = some entry) :
    after.Uncleared entry deviceId := by
  cases step_call taken with
  | still calls recoveries =>
    rw [recoveries] at entered
    simpa [Uncleared, calls] using kept.entry deviceId entry entered
  | joined more calls others recoveries =>
    rw [recoveries] at entered
    exact (Single.uncleared_append (fun call member => (others call member).1) calls rfl
      entry).mpr (kept.entry deviceId entry entered)
  | moved index call stage found live calls uncleared fits recoveries =>
    rw [recoveries] at entered
    have running : call.stage ≠ .cleared := by
      intro cleared
      rw [cleared] at live
      cases live
    exact (Single.uncleared_set found running uncleared calls entry).mpr
      (kept.entry deviceId entry entered)
  | spawned index call found at_ idle due clear calls recoveries =>
    rw [recoveries] at entered
    by_cases same : deviceId = call.deviceId
    · subst same
      rw [Function.update_self] at entered
      obtain rfl := Option.some.inj entered
      exact ⟨.recovering, by simp [calls], by decide⟩
    · rw [Function.update_of_ne same] at entered
      have running : call.stage ≠ .cleared := by
        rcases at_ with at_ | at_ <;> simp [at_]
      have ended : HealthWorld.Uncleared
          { world with calls := world.calls.set index { call with stage := .returned } } entry
            deviceId :=
        (Single.uncleared_set found running (by decide) rfl entry).mpr
          (kept.entry deviceId entry entered)
      obtain ⟨stage, there, uncleared⟩ := ended
      obtain ⟨inside, -⟩ := List.getElem?_eq_some_iff.mp there
      exact ⟨stage, by rw [calls, List.getElem?_append_left inside]; exact there, uncleared⟩
  | cleared index other stage found uncleared calls recoveries =>
    rw [recoveries] at entered
    have apart : deviceId ≠ other := by
      rintro rfl
      rw [Function.update_self] at entered
      cases entered
    rw [Function.update_of_ne apart] at entered
    obtain ⟨place, there, running⟩ := kept.entry deviceId entry entered
    have elsewhere : index ≠ entry := by
      rintro rfl
      cases there.symm.trans found
      exact apart rfl
    exact ⟨place, by rw [calls, List.getElem?_set_ne elsewhere]; exact there, running⟩

/-- Every state that a fresh monitor reaches is kept so. -/
theorem Kept.run {start : HealthWorld} (fresh : start.Fresh)
    (run : Run (step config) (fun _ _ => True) start world) : world.Kept := by
  apply run.invariant Kept
  · refine ⟨⟨?_, ?_⟩, ?_, ?_⟩
    · simp [fresh.waiting]
    · simp [fresh.waiting]
    · simp [fresh.calls]
    · simp [fresh.recoveries]
  · intro state action after _ kept _ taken
    exact ⟨(step_writes kept.queued taken).1, fun _ _ there => kept.waits_step taken there,
      fun _ _ entered => kept.entry_step taken entered⟩

/-- A coroutine that has not ended and has nothing to write can be answered. -/
theorem turn_enabled (live : call.stage.over = false) (unasked : call.stage.goal = none) :
    ∃ answer, (world.turn config call answer).isSome = true := by
  obtain ⟨role, deviceId, stage⟩ := call
  cases stage with
  | checking => exact ⟨.run, rfl⟩
  | probing => exact ⟨.probed true, rfl⟩
  | recovering => exact ⟨.run, rfl⟩
  | reconnecting number => exact ⟨.reconnected true, rfl⟩
  | reprobing number => exact ⟨.probed true, rfl⟩
  | sleeping number => exact ⟨.slept, rfl⟩
  | announcingRestored => exact ⟨.announced, rfl⟩
  | announcingQuarantined => exact ⟨.announced, rfl⟩
  | announcingRetired => exact ⟨.announced, rfl⟩
  | announcingFailed => exact ⟨.announced, rfl⟩
  | restoring path => cases unasked
  | marking reason => cases unasked
  | retiring => cases unasked
  | returned => cases live
  | raised => cases live
  | cleared => cases live

/-- A call with a write to do can write when it gets the lock. -/
theorem written_enabled {goal : DeviceState} (asks : call.stage.goal = some goal) :
    (written config call).isSome = true := by
  obtain ⟨role, deviceId, stage⟩ := call
  cases stage <;> first | rfl | cases asks

/-- **At rest nothing is left.** No call waits for the lock, each coroutine has ended, the callback
of each episode has run, and no device has an entry. -/
theorem AtRest.quiet (rest : AtRest config world) (kept : world.Kept) :
    world.waiting = [] ∧
      (∀ call ∈ world.calls, call.stage.over = true ∧
        (call.role = .episode → call.stage = .cleared)) ∧
      ∀ deviceId, world.recoveries deviceId = none := by
  have unheld : world.waiting = [] := by
    cases first : world.waiting with
    | nil => rfl
    | cons index others =>
      have member : index ∈ world.waiting := by simp [first]
      obtain ⟨request, asks⟩ := kept.queued.asks index member
      obtain ⟨call, found, goal⟩ := Option.bind_eq_some_iff.mp asks
      obtain ⟨state, goal, -⟩ := Option.map_eq_some_iff.mp goal
      have writes : (written config call).isSome = true := written_enabled goal
      have stuck := rest .write rfl
      simp only [step, first, found, Option.map_eq_none_iff] at stuck
      rw [stuck] at writes
      cases writes
  have ended : ∀ (index : Nat) (call : HealthCall), world.calls[index]? = some call →
      call.stage.over = true := by
    intro index call found
    by_contra alive
    have unasked : call.stage.goal = none := by
      by_contra asks
      have waits := kept.waits index call found asks
      rw [unheld] at waits
      cases waits
    obtain ⟨answer, enabled⟩ : ∃ answer, (world.turn config call answer).isSome = true :=
      turn_enabled (Bool.eq_false_iff.mpr alive) unasked
    have stuck := rest (.resume index answer) rfl
    simp only [step, found, Option.map_eq_none_iff] at stuck
    rw [stuck] at enabled
    cases enabled
  have collected : ∀ (index : Nat) (deviceId : DeviceId) (stage : Stage),
      world.calls[index]? = some ⟨.episode, deviceId, stage⟩ → stage = .cleared := by
    intro index deviceId stage found
    have finished := ended index _ found
    have stuck := rest (.callback index) rfl
    cases stage with
    | cleared => rfl
    | returned => simp [step, found] at stuck
    | raised => simp [step, found] at stuck
    | _ => cases finished
  refine ⟨unheld, fun call member => ?_, fun deviceId => ?_⟩
  · obtain ⟨index, found⟩ := List.mem_iff_getElem?.mp member
    refine ⟨ended index call found, fun episode => ?_⟩
    obtain ⟨role, deviceId, stage⟩ := call
    obtain rfl : role = .episode := episode
    exact collected index deviceId stage found
  · cases entered : world.recoveries deviceId with
    | none => rfl
    | some index =>
      obtain ⟨stage, found, uncleared⟩ := kept.entry deviceId index entered
      exact absurd (collected index deviceId stage found) uncleared

/-- **The monitor settles.** From every state of a fresh monitor, whatever adb, the sink and other
parties do and whenever sweeps and reports come: its coroutines and callbacks take at most `work`
steps and those that sweeps and reports add. They can always be brought to rest; and at rest no call
waits for the lock, each coroutine has ended, no episode has its callback pending, no device has an
entry, and the loop can sweep. -/
theorem monitor_settles {start : HealthWorld} (fresh : start.Fresh)
    (reached : Run (step config) (fun _ _ => True) start world) :
    (∀ past after, History (step config) (fun _ _ => True) world past after →
      past.countP (fun taken => taken.action.moves) + after.work config ≤
        world.work config + (past.map fun taken => taken.before.prompted config taken.action).sum) ∧
    (∃ past after, History (step config) (fun _ action => action.moves = true) world past after ∧
      AtRest config after) ∧
    (AtRest config world →
      world.waiting = [] ∧
        (∀ call ∈ world.calls, call.stage.over = true ∧
          (call.role = .episode → call.stage = .cleared)) ∧
        (∀ deviceId, world.recoveries deviceId = none) ∧
        (step config world .sweep).isSome = true) := by
  refine ⟨fun past after history => ?_, ?_, fun rest => ?_⟩
  · apply Potential.amortised (fun world : HealthWorld => world.work config)
      (fun taken => taken.action.moves)
      (fun taken => taken.before.prompted config taken.action) _ history
    intro state action later _ _ taken
    exact work_step taken
  · apply Potential.comes_to_rest (fun world : HealthWorld => world.work config) (fun _ => True)
    · exact fun _ _ _ => trivial
    · intro state action after _ moves taken
      have less := work_step taken
      have unprompted : state.prompted config action = 0 := prompted_of_moves moves
      rw [moves, unprompted, Bool.toNat_true] at less
      omega
    · trivial
  · obtain ⟨unheld, ended, none_⟩ := rest.quiet (.run fresh reached)
    refine ⟨unheld, ended, none_, ?_⟩
    have free : (world.calls.all fun call => call.role ≠ .check ∨ call.stage.over) = true := by
      rw [List.all_eq_true]
      intro call member
      simp [(ended call member).1]
    rw [step, free]
    rfl

/-- A phone is reported and comes back on the second try: ten steps that the report caused, of
twelve that it could cause. Then the monitor is at rest. -/
theorem monitor_settles_outage : ∃ (past : List (Transition.Taken HealthWorld HealthAction))
    (after : HealthWorld), past.countP (fun taken => taken.action.moves) = 10 ∧
      past.countP (fun taken => taken.action.moves) + after.work {} ≤
        lonePhone.work {} + (past.map fun taken => taken.before.prompted {} taken.action).sum ∧
      after.registry.stateOf "phone-a" = some .online ∧ after.waiting = [] ∧
      (step {} after .sweep).isSome = true := by
  have passed : (Transition.trace (Transition.guarded (step {}) fun _ _ => True) [] lonePhone
      [.quarantine 0 "phone-a" "no session", .write, .resume 0 .announced, .resume 1 .run,
        .resume 1 (.reconnected false), .resume 1 .slept, .resume 1 (.reconnected true),
        .resume 1 (.probed true), .write, .resume 1 .announced, .callback 1]).any
      (fun reached => decide (reached.1.countP (fun taken => taken.action.moves) = 10 ∧
        reached.2.registry.stateOf "phone-a" = some .online ∧ reached.2.work {} = 0)) = true := by
    decide +kernel
  obtain ⟨past, after, history, shown⟩ := Transition.traces passed
  obtain ⟨ten, online, nothing⟩ : past.countP (fun taken => taken.action.moves) = 10 ∧
      after.registry.stateOf "phone-a" = some .online ∧ after.work {} = 0 := of_decide_eq_true shown
  have fresh : lonePhone.Fresh := ⟨rfl, rfl, rfl, rfl⟩
  obtain ⟨unheld, -, -, sweeps⟩ := (monitor_settles fresh history.run).2.2 (.of_work nothing)
  exact ⟨past, after, ten, (monitor_settles fresh .refl).1 past after history, online, unheld,
    sweeps⟩

end HealthWorld

end DeviceOrchestrator
