import DeviceOrchestrator.Verif.Recoveries
import DeviceOrchestrator.Verif.StateWrites

/-!
# What a recovery episode does when its device has left QUARANTINED

An episode checks that its device is still QUARANTINED at the head of its loop and before it
records a failure. It does not check before it retires the device, before it restores a virtual
slot, and after a reconnect whose probe succeeded. `heeds_iff` says for each step of an episode
that it heeds the state of its device exactly when it is not one of these on a device that has
left QUARANTINED. `Watched` follows what other parties write while an episode is suspended, and the
runs in which all episodes heed their devices are those in which no such exit comes after another
party has taken the device out of QUARANTINED.
-/
namespace DeviceOrchestrator

open Transition (Run History Throughout)

/-- A turn that takes a verdict on its device: it calls `_retire` or `_restore`, which ask for
the lock, counts a recovery, publishes an event or records a failed episode. -/
def Turn.Acts (turn : Turn) (health : DeviceHealth) : Prop :=
  turn.lock = true ∨ turn.counted = true ∨ turn.event ≠ none ∨
    ∃ after, turn.health = some after ∧ health.failedRecoveries < after.failedRecoveries

namespace HealthWorld

/-- On a device that is not QUARANTINED, a turn takes no verdict and begins no attempt. -/
def Heeds (world : HealthWorld) (call : HealthCall) (turn : Turn) : Prop :=
  world.registry.stateOf call.deviceId ≠ some .quarantined →
    ¬turn.Acts (world.health call.deviceId) ∧ ∀ number, turn.stage ≠ .reconnecting number

/-- The exits without a check: the first run of an episode, where too many recoveries lie in the
window or the device is a virtual slot, and a good probe after a reconnect. -/
def Unchecked (config : HealthConfig) (world : HealthWorld) (call : HealthCall)
    (answer : HealthAnswer) : Prop :=
  match call.stage, answer with
  | .recovering, .run =>
    config.policy.retireAfterRecoveries ≤ (world.health call.deviceId).recentRecoveries
        world.now config.policy.recoveryWindowS ∨
      world.registry.adbReachable call.deviceId = false
  | .reprobing _, .probed true => True
  | _, _ => False

instance (config : HealthConfig) (world : HealthWorld) (call : HealthCall)
    (answer : HealthAnswer) : Decidable (world.Unchecked config call answer) := by
  unfold Unchecked
  split <;> infer_instance

variable {config : HealthConfig} {world : HealthWorld} {call : HealthCall}
variable {answer : HealthAnswer} {turn : Turn} {deviceId : DeviceId}

/-- The end of the loop takes no verdict on a device that has left QUARANTINED. -/
theorem exhausted_left (left : world.registry.stateOf deviceId ≠ some .quarantined) :
    world.exhausted config deviceId = { stage := .returned } := by
  simp [exhausted, left]

/-- The head of the loop begins no attempt on a device that has left QUARANTINED. -/
theorem attempt_left (left : world.registry.stateOf deviceId ≠ some .quarantined)
    (number : Nat) : world.attempt config deviceId number = { stage := .returned } := by
  unfold attempt
  split
  · exact exhausted_left left
  · rfl

/-- A turn that only suspends or ends its coroutine takes no verdict. -/
theorem stage_not_acts (stage : Stage) (health : DeviceHealth) :
    ¬Turn.Acts { stage := stage } health := by
  rintro (lock | counted | event | ⟨after, changed, _⟩)
  · cases lock
  · cases counted
  · exact event rfl
  · cases changed

/-- A turn that prunes the recovery times takes no verdict. -/
theorem prune_not_acts (stage : Stage) (health : DeviceHealth) (now windowS : Rat) :
    ¬Turn.Acts { stage := stage, health := some (health.prune now windowS) } health := by
  rintro (lock | counted | event | ⟨after, changed, more⟩)
  · cases lock
  · cases counted
  · exact event rfl
  · cases changed
    exact Nat.lt_irrefl _ more

/-- A failed attempt takes no verdict on a device that has left QUARANTINED. -/
theorem attemptFailed_heeds (left : world.registry.stateOf deviceId ≠ some .quarantined)
    (number : Nat) :
    ∃ stage, world.attemptFailed config deviceId number = { stage := stage } ∧
      ∀ attempt, stage ≠ .reconnecting attempt := by
  unfold attemptFailed
  split
  · exact ⟨.sleeping number, rfl, nofun⟩
  · exact ⟨.returned, exhausted_left left, nofun⟩

/-- The first run of an episode that neither retires nor restores its device. -/
theorem recoveryStarted_left (left : world.registry.stateOf deviceId ≠ some .quarantined)
    (few : (world.health deviceId).recentRecoveries world.now config.policy.recoveryWindowS <
      config.policy.retireAfterRecoveries)
    (adb : world.registry.adbReachable deviceId = true) :
    world.recoveryStarted config deviceId =
      { stage := .returned
        health := some ((world.health deviceId).prune world.now
          config.policy.recoveryWindowS) } := by
  simp only [recoveryStarted, Nat.not_le_of_lt few, adb, if_false, Bool.not_true,
    Bool.false_eq_true]
  rw [attempt_left]
  · rfl
  · exact left

/-- A turn that, on a device that has left QUARANTINED, only suspends or ends its coroutine. -/
theorem heeds_of_left
    (quiet : world.registry.stateOf call.deviceId ≠ some .quarantined →
      ∃ stage, turn = { stage := stage } ∧ ∀ number, stage ≠ .reconnecting number) :
    world.Heeds call turn := by
  intro left
  obtain ⟨stage, rfl, idle⟩ := quiet left
  exact ⟨stage_not_acts stage _, idle⟩

/-- The first run of an episode. -/
theorem recoveryStarted_heeds_iff (at_ : call.stage = .recovering) :
    world.Heeds call (world.recoveryStarted config call.deviceId) ↔
      (world.Unchecked config call .run →
        world.registry.stateOf call.deviceId = some .quarantined) := by
  unfold Unchecked
  rw [at_]
  constructor
  · intro heeds unchecked
    by_contra left
    apply (heeds left).1
    unfold recoveryStarted
    dsimp only
    rcases unchecked with many | slot
    · simp only [if_pos many]
      exact .inl rfl
    · simp only [slot]
      split
      · exact .inl rfl
      · exact .inl rfl
  · intro holding left
    have few : (world.health call.deviceId).recentRecoveries world.now
        config.policy.recoveryWindowS < config.policy.retireAfterRecoveries := by
      by_contra many
      exact left (holding (.inl (Nat.le_of_not_lt many)))
    have adb : world.registry.adbReachable call.deviceId = true := by
      by_contra slot
      exact left (holding (.inr (by simpa using slot)))
    rw [recoveryStarted_left left few adb]
    exact ⟨prune_not_acts .returned _ _ _, nofun⟩

/-- The probe after a reconnect. -/
theorem reprobed_heeds_iff {number : Nat} (at_ : call.stage = .reprobing number) (ok : Bool) :
    world.Heeds call (if ok then world.reconnected call.deviceId
      else world.attemptFailed config call.deviceId number) ↔
      (world.Unchecked config call (.probed ok) →
        world.registry.stateOf call.deviceId = some .quarantined) := by
  unfold Unchecked
  rw [at_]
  cases ok with
  | true =>
    constructor
    · intro heeds _
      by_contra left
      exact (heeds left).1 (.inl rfl)
    · intro holding left
      exact absurd (holding trivial) left
  | false =>
    exact ⟨fun _ => False.elim, fun _ => heeds_of_left fun left => attemptFailed_heeds left number⟩

/-- **A step of an episode heeds the state of its device exactly when it does not take an
unchecked exit on a device that has left QUARANTINED.** -/
theorem heeds_iff (role : call.role = .episode) (fits : call.role.fits call.stage = true)
    (taken : world.turn config call answer = some turn) :
    world.Heeds call turn ↔ (world.Unchecked config call answer →
      world.registry.stateOf call.deviceId = some .quarantined) := by
  obtain ⟨_, deviceId, stage⟩ := call
  obtain rfl := role
  have free : world.Heeds ⟨.episode, deviceId, stage⟩ turn →
      ¬world.Unchecked config ⟨.episode, deviceId, stage⟩ answer →
      (world.Heeds ⟨.episode, deviceId, stage⟩ turn ↔
        (world.Unchecked config ⟨.episode, deviceId, stage⟩ answer →
          world.registry.stateOf deviceId = some .quarantined)) :=
    fun heeds checked => ⟨fun _ unchecked => absurd unchecked checked, fun _ => heeds⟩
  unfold HealthWorld.turn at taken
  dsimp only at taken
  split at taken
  · cases fits
  · cases fits
  · obtain rfl := Option.some.inj taken
    exact recoveryStarted_heeds_iff rfl
  · rename_i number ok
    obtain rfl := Option.some.inj taken
    refine free (heeds_of_left fun left => ?_) id
    cases ok with
    | true => exact ⟨.reprobing number, rfl, nofun⟩
    | false => exact attemptFailed_heeds left number
  · rename_i number ok
    obtain rfl := Option.some.inj taken
    exact reprobed_heeds_iff rfl ok
  · rename_i number
    obtain rfl := Option.some.inj taken
    exact free (heeds_of_left fun left => ⟨.returned, attempt_left left _, nofun⟩) id
  · obtain rfl := Option.some.inj taken
    exact free (heeds_of_left fun _ => ⟨.returned, rfl, nofun⟩) id
  · cases fits
  · obtain rfl := Option.some.inj taken
    refine free (fun _ => ?_) id
    exact ⟨prune_not_acts .returned _ _ _, nofun⟩
  · obtain rfl := Option.some.inj taken
    exact free (heeds_of_left fun _ => ⟨.returned, rfl, nofun⟩) id
  all_goals first
    | cases taken; done
    | obtain rfl := Option.some.inj taken
      exact free (heeds_of_left fun _ => ⟨.raised, rfl, nofun⟩) id

/-- A step as it was taken. -/
abbrev Taken := Transition.Taken HealthWorld HealthAction

/-! ## What other parties write -/

/-- The state that a step writes for a device. The first `set_state` in the queue of the lock and
another party's overwrite any state; a poll that lists the device overwrites one that the monitor
did not decide. -/
def puts (world : HealthWorld) (deviceId : DeviceId) : HealthAction → Option DeviceState
  | .write =>
    (world.waiting.head?.bind (requestOf world.calls)).bind fun request =>
      if request.1 = deviceId then some request.2 else none
  | .others (.setState target state _) => if target = deviceId then some state else none
  | .others (.refresh polled) =>
    if (world.registry.stateOf deviceId).any DeviceState.held then none
    else ((Registry.discovered polled).get? deviceId).map Device.state
  | _ => none

/-- Whether the device of a coroutine was taken out of QUARANTINED since the coroutine was created:
the last state written for it is another. The episode that `quarantine` spawns follows on the call
of `quarantine`, whose own write came first. -/
def expired : List Taken → Nat → Bool
  | [], _ => false
  | taken :: earlier, index =>
    match taken.before.calls[index]? with
    | some call =>
      match taken.before.puts call.deviceId taken.action with
      | some state => decide (state ≠ .quarantined)
      | none => expired earlier index
    | none =>
      match taken.action with
      | .resume parent .announced => expired earlier parent
      | _ => false

/-- What the steps so far tell about the states of the devices. -/
structure Watched (past : List Taken) (world : HealthWorld) : Prop where
  /-- Every coroutine is in a stage of its role. -/
  fitting : world.Fitting
  /-- A device that was reported is QUARANTINED unless it was taken out. -/
  reported : ∀ (index : Nat) (call : HealthCall), world.calls[index]? = some call →
    call.stage = .announcingQuarantined →
    ∀ state, world.registry.stateOf call.deviceId = some state →
      (expired past index = false ↔ state = .quarantined)
  /-- The device of an episode is QUARANTINED unless it was taken out. -/
  chased : ∀ (index : Nat) (call : HealthCall), world.calls[index]? = some call →
    call.stage.undecided = true →
    ∃ state, world.registry.stateOf call.deviceId = some state ∧
      (expired past index = false ↔ state = .quarantined)

section
variable {after : HealthWorld} {action : HealthAction} {past : List Taken} {index : Nat}

/-- The state of a device is the one that a step writes for it, or it is QUARANTINED exactly if it
was before. -/
def Follows (world after : HealthWorld) (action : HealthAction) (deviceId : DeviceId) : Prop :=
  ∀ state, after.registry.stateOf deviceId = some state →
    match world.puts deviceId action with
    | some put => state = put
    | none => ∃ old, world.registry.stateOf deviceId = some old ∧
        (state = .quarantined ↔ old = .quarantined)

/-- A step that writes no state. -/
theorem Follows.still (states : after.registry.stateOf = world.registry.stateOf)
    (silent : world.puts deviceId action = none) : Follows world after action deviceId := by
  intro state found
  rw [silent]
  rw [states] at found
  exact ⟨state, found, Iff.rfl⟩

/-- A step that forces a state. -/
theorem Follows.forced {target : DeviceId} {put : DeviceState} {note : String}
    (states : after.registry.stateOf deviceId =
      (world.registry.setState target put note).stateOf deviceId)
    (writes : world.puts deviceId action = if target = deviceId then some put else none) :
    Follows world after action deviceId := by
  intro state found
  rw [states, Registry.stateOf_setState] at found
  rw [writes]
  by_cases same : target = deviceId
  · rw [if_pos same.symm] at found
    rw [if_pos same]
    obtain ⟨-, -, rfl⟩ := Option.map_eq_some_iff.mp found
    rfl
  · rw [if_neg (Ne.symm same)] at found
    rw [if_neg same]
    exact ⟨state, found, Iff.rfl⟩

/-- A poll. -/
theorem Follows.refreshed (polled : List Device) :
    Follows world { world with registry := world.registry.refresh polled }
      (.others (.refresh polled)) deviceId := by
  intro state found
  simp only [puts]
  by_cases decided : (world.registry.stateOf deviceId).any DeviceState.held = true
  · obtain ⟨old, known, held⟩ := (Option.any_eq_true _ _).mp decided
    rw [if_pos decided]
    have kept := world.registry.stateOf_refresh_held deviceId polled known held
    obtain rfl := Option.some.inj (found.symm.trans kept)
    exact ⟨state, known, Iff.rfl⟩
  · rw [if_neg decided]
    simp only [Registry.stateOf, Registry.get_refresh] at found decided ⊢
    cases listed : (Registry.discovered polled).get? deviceId with
    | none =>
      cases known : world.registry.get deviceId with
      | none => simp [listed, known] at found
      | some existing =>
        simp only [listed, known, Option.map_some, Option.some.injEq, Option.any_some] at found decided
        refine ⟨existing.state, rfl, ?_⟩
        subst found
        by_cases online : existing.state = .online <;> simp [online]
    | some device =>
      cases known : world.registry.get deviceId with
      | none =>
        simp only [listed, known, Option.map_some, Option.some.injEq] at found
        exact found.symm
      | some existing =>
        simp only [listed, known, Option.map_some, Option.some.injEq, Option.any_some,
          Bool.not_eq_true] at found decided
        simp only [Device.reconcile, decided, Bool.false_eq_true, if_false] at found
        exact found.symm

/-- **Every step leaves a device in the state that it writes for it, or as it was.** -/
theorem follows_step (taken : step config world action = some after) (deviceId : DeviceId) :
    Follows world after action deviceId := by
  cases stepped taken with
  | sweeps | reports | collects | ticks => exact .still rfl rfl
  | @resumes index call answer turn found turns =>
    obtain ⟨-, -, registry, -⟩ := apply_frame world index call turn
    refine .still ?_ rfl
    rw [registry]
    exact stateOf_turn (turn_cases turns).unwritten world.registry call.deviceId
  | @writes index rest call turn first found done =>
    obtain ⟨goal, note, goals, writes, -, -, counted, -⟩ := written_cases done
    obtain ⟨-, -, registry, -⟩ := apply_frame { world with waiting := rest } index call turn
    refine @Follows.forced _ _ _ _ call.deviceId goal note ?_ ?_
    · rw [registry]
      simp [settle, Turn.registry, writes, counted]
    · simp [puts, first, requestOf_eq found, goals]
  | @changes change registry changed =>
    cases change with
    | lease selector token =>
      simp only [Registry.change] at changed
      split at changed
      · split at changed
        · cases changed
        · obtain rfl := Option.some.inj changed
          exact .still rfl rfl
      · cases changed
    | unlease lease =>
      obtain rfl := Option.some.inj changed
      exact .still (funext fun other => Registry.stateOf_unlease world.registry other lease) rfl
    | setState target state note =>
      obtain rfl := Option.some.inj changed
      exact .forced rfl rfl
    | refresh polled =>
      obtain rfl := Option.some.inj changed
      exact .refreshed polled

/-- A sweep's answer suspends its check to write a state, or ends it. -/
theorem checkProbed_stage (ok : Bool) :
    (world.checkProbed config deviceId ok).stage.undecided = false ∧
      (world.checkProbed config deviceId ok).stage ≠ .announcingQuarantined := by
  unfold checkProbed
  cases ok with
  | true =>
    simp only [if_true]
    split
    · exact ⟨rfl, nofun⟩
    · exact ⟨rfl, nofun⟩
  | false =>
    simp only [Bool.false_eq_true, if_false]
    split
    · exact ⟨rfl, nofun⟩
    · split
      · exact ⟨rfl, nofun⟩
      · exact ⟨rfl, nofun⟩

/-- Only an episode gives a verdict. -/
theorem undecided_episode {role : HealthRole} {stage : Stage} (fits : role.fits stage = true)
    (undecided : stage.undecided = true) : role = .episode := by
  cases role with
  | episode => rfl
  | check | report => cases stage <;> first | (cases undecided; done) | cases fits

/-- A turn begins no announcement of a quarantine, and only an undecided episode stays one. -/
theorem turn_stage (fits : call.role.fits call.stage = true)
    (taken : world.turn config call answer = some turn) :
    turn.stage ≠ .announcingQuarantined ∧
      (turn.stage.undecided = true → call.stage.undecided = true) := by
  have suits := (turn_cases taken).fits fits
  by_cases undecided : call.stage.undecided = true
  · refine ⟨?_, fun _ => undecided⟩
    obtain ⟨role, deviceId, stage⟩ := call
    obtain rfl : role = .episode := undecided_episode fits undecided
    intro announcing
    dsimp only at suits
    rw [announcing] at suits
    cases suits
  · obtain ⟨role, deviceId, stage⟩ := call
    have decided : turn.stage.undecided = false ∧ turn.stage ≠ .announcingQuarantined := by
      unfold HealthWorld.turn at taken
      dsimp only at taken
      split at taken
      · obtain rfl := Option.some.inj taken
        cases world.registry.isLeased deviceId <;> exact ⟨rfl, nofun⟩
      · split at taken
        · obtain rfl := Option.some.inj taken
          exact checkProbed_stage _
        · cases taken
      all_goals first
        | exact absurd rfl undecided
        | cases taken; done
        | obtain rfl := Option.some.inj taken
          exact ⟨rfl, nofun⟩
    refine ⟨decided.2, fun stays => ?_⟩
    rw [decided.1] at stays
    cases stays

/-- What is expired one step later, for a coroutine that is there. -/
theorem expired_cons (found : world.calls[index]? = some call) :
    expired (⟨world, action, after⟩ :: past) index =
      match world.puts call.deviceId action with
      | some state => decide (state ≠ .quarantined)
      | none => expired past index := by
  rw [expired]
  dsimp only
  rw [found]

/-- What an earlier step tells about a device it tells one step later. -/
theorem Follows.expired_iff (follows : Follows world after action call.deviceId)
    (found : world.calls[index]? = some call)
    (told : ∀ state, world.registry.stateOf call.deviceId = some state →
      (expired past index = false ↔ state = .quarantined)) {state : DeviceState}
    (known : after.registry.stateOf call.deviceId = some state) :
    expired (⟨world, action, after⟩ :: past) index = false ↔ state = .quarantined := by
  have now := follows state known
  rw [expired_cons found]
  cases put : world.puts call.deviceId action with
  | some written =>
    rw [put] at now
    subst now
    simp
  | none =>
    rw [put] at now
    obtain ⟨old, before, same⟩ := now
    exact (told old before).trans same.symm

/-- Where an undecided episode and the announcement of a quarantine come from. -/
inductive Source (world : HealthWorld) (action : HealthAction) (index : Nat) (call : HealthCall) :
    Prop
  /-- It was there; an announcement follows on the write of its own coroutine. -/
  | stays (old : HealthCall) (found : world.calls[index]? = some old)
      (device : old.deviceId = call.deviceId)
      (undecided : call.stage.undecided = true → old.stage.undecided = true)
      (announces : call.stage = .announcingQuarantined → old.stage = .announcingQuarantined ∨
        world.puts call.deviceId action = some .quarantined)
  /-- It is neither. -/
  | neither (undecided : call.stage.undecided = false) (stage : call.stage ≠ .announcingQuarantined)
  /-- A failed probe of a sweep spawns an episode on a QUARANTINED device. -/
  | probed (stage : call.stage = .recovering) (absent : world.calls[index]? = none) (parent : Nat)
      (asked : action = .resume parent (.probed false))
      (state : world.registry.stateOf call.deviceId = some .quarantined)
  /-- A quarantine that was announced spawns an episode on a known device. -/
  | announced (stage : call.stage = .recovering) (absent : world.calls[index]? = none)
      (parent : Nat) (asked : action = .resume parent .announced) (caller : HealthCall)
      (found : world.calls[parent]? = some caller) (at_ : caller.stage = .announcingQuarantined)
      (device : caller.deviceId = call.deviceId) (knows : world.registry.Knows call.deviceId)

/-- A coroutine that is there and does not move. -/
theorem Source.same (found : world.calls[index]? = some call) : Source world action index call :=
  .stays call found rfl id .inl

/-- A coroutine moves on, and no other does. -/
theorem Source.moved {slot : Nat} {new : HealthCall}
    (there : (world.calls.set slot new)[index]? = some call)
    (own : Source world action slot new) : Source world action index call := by
  rcases Slots.getElem?_rewritten there with ⟨rfl, rfl⟩ | ⟨-, earlier⟩
  · exact own
  · exact .same earlier

/-- A write announces a quarantine only if it has written QUARANTINED. -/
theorem written_announces (done : written config call = some turn) :
    turn.stage.undecided = false ∧
      (turn.stage = .announcingQuarantined → call.stage.goal = some .quarantined) := by
  unfold written at done
  split at done
  · obtain rfl := Option.some.inj done
    exact ⟨rfl, nofun⟩
  · rename_i reason at_
    obtain rfl := Option.some.inj done
    exact ⟨rfl, fun _ => by rw [at_]; rfl⟩
  · obtain rfl := Option.some.inj done
    exact ⟨rfl, nofun⟩
  · cases done

/-- A coroutine takes its turn. -/
theorem source_resume {slot : Nat} {old : HealthCall} (fitting : world.Fitting)
    (found : world.calls[slot]? = some old) (turns : world.turn config old answer = some turn)
    (there : (world.apply slot old turn).calls[index]? = some call) :
    Source world (.resume slot answer) index call := by
  have kept : (world.calls.set slot { old with stage := turn.stage })[index]? = some call →
      Source world (.resume slot answer) index call := by
    intro there
    obtain ⟨silent, undecided⟩ := turn_stage (fitting slot old found) turns
    exact .moved there (.stays old found rfl undecided fun announces => absurd announces silent)
  have spawned : (index = world.calls.length → call = ⟨.episode, old.deviceId, .recovering⟩ →
      Source world (.resume slot answer) index call) →
      Source world (.resume slot answer) index call := by
    intro new
    rcases calls_apply world slot old turn with calls | calls
    · exact kept (calls ▸ there)
    · rw [calls] at there
      rcases Slots.getElem?_concat there with ⟨last, same⟩ | ⟨-, earlier⟩
      · exact new (by simpa using last) same
      · exact kept earlier
  have unspawned : turn.spawn = false → Source world (.resume slot answer) index call := by
    intro idle
    simp only [HealthWorld.apply, idle, Bool.false_eq_true, if_false] at there
    exact kept there
  cases turn_cases turns with
  | onward fits passive work => exact unspawned passive.spawn
  | begun at_ asked few adb fits passive => exact unspawned passive.spawn
  | retired at_ stage passive => exact unspawned passive.spawn
  | spawns at_ asked state turned =>
    subst asked
    refine spawned fun last same => ?_
    subst last same
    exact .probed rfl (List.getElem?_eq_none le_rfl) slot rfl state
  | quarantined at_ turned =>
    cases spawns : turn.spawn with
    | false => exact unspawned spawns
    | true =>
      have announced := turn_announced turns at_ spawns
      obtain ⟨role, deviceId, stage⟩ := old
      obtain rfl : stage = .announcingQuarantined := at_
      subst turned announced
      obtain ⟨device, known⟩ := Option.isSome_iff_exists.mp spawns
      refine spawned fun last same => ?_
      subst last same
      exact .announced rfl (List.getElem?_eq_none le_rfl) slot rfl _ found rfl rfl
        ⟨device.state, by simp [Registry.stateOf, known]⟩
  | restores at_ asked state turned | marks at_ asked state turned
  | retires at_ asked many turned | virtual at_ asked few slot turned
  | reconnects number at_ asked turned =>
    subst turned
    exact unspawned rfl

/-- **Every coroutine comes from one of these.** -/
theorem source_step (fitting : world.Fitting) (taken : step config world action = some after)
    (there : after.calls[index]? = some call) : Source world action index call := by
  cases stepped taken with
  | sweeps =>
    rcases Slots.getElem?_extended there with earlier | new
    · exact .same earlier
    · obtain ⟨device, -, rfl⟩ := List.mem_map.mp new
      exact .neither rfl (by simp)
  | reports worker deviceId reason =>
    rcases Slots.getElem?_extended there with earlier | new
    · exact .same earlier
    · obtain rfl := List.mem_singleton.mp new
      exact .neither rfl (by simp)
  | resumes found turns => exact source_resume fitting found turns there
  | @writes slot rest old turn first found done =>
    obtain ⟨-, -, unspawned, -⟩ := written_moves done
    obtain ⟨decided, announces⟩ := written_announces done
    simp only [HealthWorld.apply, unspawned, Bool.false_eq_true, if_false] at there
    refine .moved there (.stays old found rfl (fun stays => ?_) fun announcing => .inr ?_)
    · dsimp only at stays
      rw [decided] at stays
      cases stays
    · simp [puts, first, requestOf_eq found, announces announcing]
  | collects found ended uncleared => exact .moved there (.neither rfl (by simp))
  | ticks | changes => exact .same there

/-- **Every step keeps the watch.** -/
theorem Watched.step (watched : Watched past world)
    (taken : HealthWorld.step config world action = some after) :
    Watched (⟨world, action, after⟩ :: past) after where
  fitting := watched.fitting.step (step_call taken)
  reported := by
    intro index call there announces state known
    have follows := follows_step taken call.deviceId
    cases source_step watched.fitting taken there with
    | stays old found device undecided source =>
      rcases source announces with earlier | put
      · rw [← device] at known follows
        exact follows.expired_iff found (watched.reported index old found earlier) known
      · have now := follows state known
        rw [put] at now
        subst now
        rw [expired_cons found, device, put]
        simp
    | neither undecided stage => exact absurd announces stage
    | probed stage | announced stage =>
      rw [announces] at stage
      cases stage
  chased := by
    intro index call there undecided
    have follows := follows_step taken call.deviceId
    have knows : world.registry.Knows call.deviceId →
        ∃ state, after.registry.stateOf call.deviceId = some state := fun knows =>
      knows_step knows taken
    cases source_step watched.fitting taken there with
    | stays old found device source announces =>
      obtain ⟨before, old_known, told⟩ := watched.chased index old found (source undecided)
      obtain ⟨state, known⟩ := knows ⟨before, device ▸ old_known⟩
      refine ⟨state, known, ?_⟩
      rw [← device] at known follows
      refine follows.expired_iff found (fun other same => ?_) known
      obtain rfl := Option.some.inj (same.symm.trans old_known)
      exact told
    | neither decided stage =>
      rw [decided] at undecided
      cases undecided
    | probed stage absent parent asked state =>
      subst asked
      obtain ⟨now, known⟩ := knows ⟨_, state⟩
      obtain ⟨old, before, same⟩ := follows now known
      obtain rfl := Option.some.inj (before.symm.trans state)
      refine ⟨now, known, ?_⟩
      rw [expired]
      dsimp only
      rw [absent]
      simp [same]
    | announced stage absent parent asked caller found at_ device known =>
      subst asked
      obtain ⟨now, known⟩ := knows known
      obtain ⟨old, before, same⟩ := follows now known
      refine ⟨now, known, ?_⟩
      rw [expired]
      dsimp only
      rw [absent]
      exact (watched.reported parent caller found at_ old (device ▸ before)).trans same.symm

/-- Nothing is watched before the first coroutine. -/
theorem watched_fresh (fresh : world.Fresh) : Watched [] world where
  fitting := .fresh fresh
  reported index call found := by simp [fresh.calls] at found
  chased index call found := by simp [fresh.calls] at found

/-- **The watch is kept along every history.** -/
theorem watched_history {start : HealthWorld} (fresh : start.Fresh)
    (history : History (HealthWorld.step config) (fun _ _ => True) start past world) :
    Watched past world :=
  history.invariant Watched (watched_fresh fresh) fun _ watched _ taken => watched.step taken

end

/-! ## Which runs heed the state -/

/-- Every episode that this step resumes heeds the state of its device. -/
def Heeded (config : HealthConfig) (_ : List Taken) (taken : Taken) : Prop :=
  ∀ index answer call turn, taken.action = .resume index answer →
    taken.before.calls[index]? = some call → call.role = .episode →
    taken.before.turn config call answer = some turn → taken.before.Heeds call turn

/-- The episode that takes an unchecked exit in a step. -/
def exiting (config : HealthConfig) (world : HealthWorld) : HealthAction → Option Nat
  | .resume index answer =>
    if world.calls[index]?.any fun call =>
        decide (call.role = .episode ∧ world.Unchecked config call answer) then some index
    else none
  | _ => none

/-- No episode takes an unchecked exit in this step after another party has taken its device out
of QUARANTINED. -/
def Unexpired (config : HealthConfig) (earlier : List Taken) (taken : Taken) : Prop :=
  ∀ index ∈ taken.before.exiting config taken.action, expired earlier index = false

instance (config : HealthConfig) (earlier : List Taken) (taken : Taken) :
    Decidable (Unexpired config earlier taken) :=
  inferInstanceAs (Decidable (∀ index ∈ taken.before.exiting config taken.action, _))

section
variable {after : HealthWorld} {action : HealthAction} {past : List Taken}

/-- An unchecked exit is taken by an undecided episode. -/
theorem undecided_of_unchecked (unchecked : world.Unchecked config call answer) :
    call.stage.undecided = true := by
  unfold Unchecked at unchecked
  split at unchecked
  · rename_i at_
    rw [at_]
    rfl
  · rename_i at_
    rw [at_]
    rfl
  · cases unchecked

/-- What an exiting episode is. -/
theorem exiting_iff {index : Nat} : world.exiting config action = some index ↔
    ∃ answer call, action = .resume index answer ∧ world.calls[index]? = some call ∧
      call.role = .episode ∧ world.Unchecked config call answer := by
  constructor
  · intro exits
    unfold exiting at exits
    split at exits
    · rename_i slot answer
      split at exits
      · rename_i unchecked
        obtain rfl := Option.some.inj exits
        obtain ⟨call, found, unchecked⟩ := (Option.any_eq_true _ _).mp unchecked
        obtain ⟨role, unchecked⟩ := of_decide_eq_true unchecked
        exact ⟨answer, call, rfl, found, role, unchecked⟩
      · cases exits
    · cases exits
  · rintro ⟨answer, call, rfl, found, role, unchecked⟩
    simp [exiting, found, role, unchecked]

/-- At an unchecked exit the device is QUARANTINED exactly if it was not taken out. -/
theorem Watched.unchecked_iff (watched : Watched past world) {index : Nat}
    (found : world.calls[index]? = some call) (unchecked : world.Unchecked config call answer) :
    world.registry.stateOf call.deviceId = some .quarantined ↔ expired past index = false := by
  obtain ⟨state, known, told⟩ :=
    watched.chased index call found (undecided_of_unchecked unchecked)
  rw [known, told, Option.some.injEq]

/-- **A step heeds the state exactly when it is no unchecked exit after another party has taken the
device out of QUARANTINED.** -/
theorem Watched.heeded_iff (watched : Watched past world)
    (taken : HealthWorld.step config world action = some after) :
    Heeded config past ⟨world, action, after⟩ ↔ Unexpired config past ⟨world, action, after⟩ := by
  constructor
  · intro heeded index exits
    obtain ⟨answer, call, acts, found, role, unchecked⟩ := exiting_iff.mp exits
    obtain rfl : action = .resume index answer := acts
    simp only [HealthWorld.step, found] at taken
    obtain ⟨turn, turns, -⟩ := Option.map_eq_some_iff.mp taken
    have heeds := heeded index answer call turn rfl found role turns
    have holds := (heeds_iff role (watched.fitting index call found) turns).mp heeds unchecked
    exact (watched.unchecked_iff found unchecked).mp holds
  · rintro unexpired index answer call turn acts found role turns
    refine (heeds_iff role (watched.fitting index call found) turns).mpr fun unchecked => ?_
    refine (watched.unchecked_iff found unchecked).mpr (unexpired index ?_)
    exact exiting_iff.mpr ⟨answer, call, acts, found, role, unchecked⟩

/-- **An episode acts only while its premise holds, exactly in the runs in which no episode takes
an unchecked exit after another party has taken its device out of QUARANTINED**, and no later one
has put it back. The run may contain any steps of sweeps, workers and other parties. -/
theorem premise_iff {start : HealthWorld} (fresh : start.Fresh)
    (history : History (step config) (fun _ _ => True) start past world) :
    Throughout (Heeded config) past ↔ Throughout (Unexpired config) past :=
  history.throughout_congr fun earlier _ taken => (watched_history fresh earlier).heeded_iff taken

end

/-- The phone is quarantined, and a sweep restores it while its episode awaits the reconnect. -/
def overtaken : List HealthAction :=
  [.quarantine 0 "phone-a" "no session", .write, .resume 0 .announced, .resume 1 .run, .sweep,
    .resume 2 .run, .resume 2 (.probed true), .write, .resume 1 (.reconnected true)]

/-- The equivalence at a run in which the episode finds its device restored after a failed
attempt and ends. -/
theorem premise_iff_overtaken : ∃ (past : List Taken) (world : HealthWorld),
    world.calls[1]?.map HealthCall.stage = some .returned ∧ expired past 1 = true ∧
    Throughout (Unexpired {}) past ∧
    (Throughout (Heeded {}) past ↔ Throughout (Unexpired {}) past) := by
  have passed : (Transition.trace (Transition.guarded (step {}) fun _ _ => True) [] lonePhone
      (overtaken ++ [.resume 1 (.probed false), .resume 1 .slept])).any (fun reached =>
        decide (reached.2.calls[1]?.map HealthCall.stage = some .returned ∧
          expired reached.1 1 = true ∧ Throughout (Unexpired {}) reached.1)) = true := by
    decide +kernel
  obtain ⟨past, world, history, shown⟩ := Transition.traces passed
  obtain ⟨ended, left, unexpired⟩ := of_decide_eq_true shown
  exact ⟨past, world, ended, left, unexpired, premise_iff ⟨rfl, rfl, rfl, rfl⟩ history⟩

/-- **An episode acts on a device that has left QUARANTINED.** A sweep restores the phone during
the reconnect; the episode then counts a recovery and restores it again. And an episode whose
phone a sweep restored before its first run retires the ONLINE phone. -/
theorem premise_expired :
    (∃ (world : HealthWorld) (turn : Turn), Run (step {}) (fun _ _ => True) lonePhone world ∧
      world.registry.stateOf "phone-a" = some .online ∧
      world.turn {} ⟨.episode, "phone-a", .reprobing 1⟩ (.probed true) = some turn ∧
      world.calls[1]? = some ⟨.episode, "phone-a", .reprobing 1⟩ ∧
      turn.counted = true ∧ turn.stage = .restoring (.reconnect 0)) ∧
    ∃ (config : HealthConfig) (world : HealthWorld) (turn : Turn),
      Run (step config) (fun _ _ => True) lonePhone world ∧
      world.registry.stateOf "phone-a" = some .online ∧
      world.turn config ⟨.episode, "phone-a", .recovering⟩ .run = some turn ∧
      world.calls[3]? = some ⟨.episode, "phone-a", .recovering⟩ ∧ turn.stage = .retiring := by
  constructor
  · have passed : (Transition.execute (Transition.guarded (step {}) fun _ _ => True) lonePhone
        overtaken).any (fun world =>
          decide (world.registry.stateOf "phone-a" = some .online ∧
            world.calls[1]? = some ⟨.episode, "phone-a", .reprobing 1⟩) &&
          (world.turn {} ⟨.episode, "phone-a", .reprobing 1⟩ (.probed true)).any fun turn =>
            decide (turn.counted = true ∧ turn.stage = .restoring (.reconnect 0))) = true := by
      decide +kernel
    obtain ⟨world, run, shown⟩ := Transition.reaches passed
    obtain ⟨state, acts⟩ := Bool.and_eq_true_iff.mp shown
    obtain ⟨online, found⟩ := of_decide_eq_true state
    obtain ⟨turn, taken, acted⟩ := (Option.any_eq_true _ _).mp acts
    obtain ⟨counted, stage⟩ := of_decide_eq_true acted
    exact ⟨world, turn, run, online, taken, found, counted, stage⟩
  · have passed : (Transition.execute
        (Transition.guarded (step { policy := { retireAfterRecoveries := 1 } }) fun _ _ => True)
        lonePhone
        (secondOutage ++ [.callback 1, .resume 2 .announced, .sweep, .resume 4 .run,
          .resume 4 (.probed true), .write])).any (fun world =>
          decide (world.registry.stateOf "phone-a" = some .online ∧
            world.calls[3]? = some ⟨.episode, "phone-a", .recovering⟩) &&
          (world.turn { policy := { retireAfterRecoveries := 1 } }
            ⟨.episode, "phone-a", .recovering⟩ .run).any fun turn =>
              decide (turn.stage = .retiring)) = true := by
      decide +kernel
    obtain ⟨world, run, shown⟩ := Transition.reaches passed
    obtain ⟨state, acts⟩ := Bool.and_eq_true_iff.mp shown
    obtain ⟨online, found⟩ := of_decide_eq_true state
    obtain ⟨turn, taken, acted⟩ := (Option.any_eq_true _ _).mp acts
    exact ⟨_, world, turn, run, online, taken, found, of_decide_eq_true acted⟩

end HealthWorld

end DeviceOrchestrator
