import DeviceOrchestrator.Lib.Window
import DeviceOrchestrator.Verif.Retirement
import DeviceOrchestrator.Verif.Premise

/-!
# The circuit breaker bounds oscillation

An adb episode counts a recovery, waits for the lock and restores its device; the first run of
the next episode compares the counted recoveries with the bound. Sweeps and virtual slots
restore without counting. In a run that leaves those two out, creates no episode beside another
and begins none when a recent restoration was counted before the window, the recoveries counted
in the window are at least the restorations in it, an episode that gets past its first run has
room for one more, and so no window holds more restorations than the bound.
-/
namespace DeviceOrchestrator

open Transition (History Run)
open Window (Within since beyond)

/-- A device that went from QUARANTINED to ONLINE. -/
structure Restoration where
  /-- When the recovery was counted, if it was. -/
  countedAt : Option Rat
  /-- When the state was written. -/
  writtenAt : Rat
  deriving DecidableEq

namespace HealthWorld

/-- The call that waits first for the lock. -/
def head? (world : HealthWorld) : Option HealthCall :=
  world.waiting.head?.bind fun index => world.calls[index]?

/-- When the recovery of the restoration that waits first was counted. -/
def headCountedAt (world : HealthWorld) : Option Rat :=
  match world.head? with
  | some ⟨_, _, .restoring (.reconnect countedAt)⟩ => some countedAt
  | _ => none

/-- The step takes the device from QUARANTINED to ONLINE. -/
def Taken.Restores (taken : Taken) (deviceId : DeviceId) : Prop :=
  taken.before.registry.stateOf deviceId = some .quarantined ∧
    taken.after.registry.stateOf deviceId = some .online

instance (taken : Taken) (deviceId : DeviceId) : Decidable (taken.Restores deviceId) :=
  inferInstanceAs (Decidable (_ ∧ _))

/-- The restorations of a device in a history, the latest first. -/
def restorations (deviceId : DeviceId) : List Taken → List Restoration
  | [] => []
  | taken :: earlier =>
    if taken.Restores deviceId then
      ⟨taken.before.headCountedAt, taken.before.now⟩ :: restorations deviceId earlier
    else restorations deviceId earlier

/-- When a device was restored in a history. -/
def restoredAt (deviceId : DeviceId) (past : List Taken) : List Rat :=
  (restorations deviceId past).map Restoration.writtenAt

/-- No restoration escapes the count of the breaker: a sweep probe or a virtual slot is not
written over QUARANTINED, and when an episode on the device first runs, every restoration of the
device written less than a window ago was counted at most a window ago. -/
def Counted (config : HealthConfig) (deviceId : DeviceId) (earlier : List Taken)
    (world : HealthWorld) : HealthAction → Prop
  | .write =>
    match world.head? with
    | some ⟨_, target, .restoring path⟩ =>
      target = deviceId → world.registry.stateOf deviceId = some .quarantined →
        path ≠ .probe ∧ path ≠ .virtual
    | _ => True
  | .resume index .run =>
    match world.calls[index]? with
    | some ⟨_, target, .recovering⟩ =>
      target = deviceId → ∀ restoration ∈ restorations deviceId earlier,
        world.now - config.policy.recoveryWindowS < restoration.writtenAt →
        restoration.countedAt.any
          (fun countedAt => decide (world.now - config.policy.recoveryWindowS ≤ countedAt)) = true
    | _ => True
  | _ => True

instance (config : HealthConfig) (deviceId : DeviceId) (earlier : List Taken)
    (world : HealthWorld) :
    (action : HealthAction) → Decidable (Counted config deviceId earlier world action)
  | .write => by
    unfold Counted
    dsimp only
    split <;> infer_instance
  | .resume index .run => by
    unfold Counted
    dsimp only
    generalize world.calls[index]? = found
    rcases found with _ | call
    · infer_instance
    · split <;> infer_instance
  | .resume _ (.probed _) | .resume _ (.reconnected _) | .resume _ .slept | .resume _ .announced
  | .resume _ .raised | .sweep | .quarantine _ _ _ | .callback _ | .tick _ | .others _ =>
    .isTrue trivial

/-- Every step of a history was counted. -/
def AllCounted (config : HealthConfig) (deviceId : DeviceId) : List Taken → Prop
  | [] => True
  | taken :: earlier =>
    Counted config deviceId earlier taken.before taken.action ∧ AllCounted config deviceId earlier

instance AllCounted.decide (config : HealthConfig) (deviceId : DeviceId) :
    (past : List Taken) → Decidable (AllCounted config deviceId past)
  | [] => inferInstanceAs (Decidable True)
  | _ :: earlier =>
    have := AllCounted.decide config deviceId earlier
    inferInstanceAs (Decidable (_ ∧ _))

/-- A recovery of the device that is counted from a cut on and waits to be written. -/
def owes (deviceId : DeviceId) (cut : Rat) (call : HealthCall) : Bool :=
  call.deviceId = deviceId &&
    match call.stage with
    | .restoring (.reconnect countedAt) => decide (cut ≤ countedAt)
    | _ => false

/-- A restoration counted from a cut on. -/
def Restoration.countedSince (cut : Rat) (restoration : Restoration) : Bool :=
  restoration.countedAt.any fun countedAt => decide (cut ≤ countedAt)

/-- An episode on the device past its first run that may restore it. -/
def atWork (deviceId : DeviceId) (call : HealthCall) : Bool :=
  call.role = .episode && call.deviceId = deviceId &&
    (call.stage.working || match call.stage with
      | .restoring (.reconnect _) => true
      | _ => false)

/-- **The invariant of the breaker for one device.** -/
structure Breaker (config : HealthConfig) (deviceId : DeviceId) (past : List Taken)
    (world : HealthWorld) : Prop where
  /-- The entry of a device is its only episode. -/
  single : world.Single
  /-- From any cut in the window on, the counted recoveries are at least the counted
  restorations and those that wait to be written. -/
  dominated : ∀ cut, world.now - config.policy.recoveryWindowS ≤ cut →
    (restorations deviceId past).countP (Restoration.countedSince cut) +
      world.calls.countP (owes deviceId cut) ≤
        since cut (world.health deviceId).recoveryTimes
  /-- An episode past its first run has room for one more restoration in the window. -/
  licensed : ∀ (index : Nat) (call : HealthCall), world.calls[index]? = some call →
    atWork deviceId call = true →
    beyond (world.now - config.policy.recoveryWindowS) (restoredAt deviceId past) <
      config.policy.retireAfterRecoveries
  /-- No window holds more restorations than the bound. -/
  within : Within config.policy.recoveryWindowS config.policy.retireAfterRecoveries
    (restoredAt deviceId past)

section
variable {config : HealthConfig} {world after : HealthWorld} {index : Nat} {call : HealthCall}
variable {action : HealthAction} {turn : Turn} {answer : HealthAnswer} {deviceId : DeviceId}
variable {past : List Taken}

/-- A coroutine at a stage that restores nothing owes nothing. -/
theorem owes_apply (turn : Turn) (found : world.calls[index]? = some call) (cut : Rat) {owed : Bool}
    (new : owes deviceId cut { call with stage := turn.stage } = owed) :
    (world.apply index call turn).calls.countP (owes deviceId cut) +
        (if owes deviceId cut call then 1 else 0) =
      world.calls.countP (owes deviceId cut) + (if owed then 1 else 0) := by
  have replaced := Slots.countP_set (owes deviceId cut) found { call with stage := turn.stage }
  rw [new] at replaced
  rcases calls_apply world index call turn with same | more
  · rw [same, replaced]
  · have idle : owes deviceId cut ⟨.episode, call.deviceId, .recovering⟩ = false := by
      simp [owes]
    rw [more, List.countP_append, List.countP_singleton, idle]
    exact replaced

/-- A step that changes no state restores nothing. -/
theorem Taken.unrestored (states : after.registry.stateOf = world.registry.stateOf) :
    ¬Taken.Restores ⟨world, action, after⟩ deviceId := by
  rintro ⟨before, restored⟩
  simp only [states] at restored before
  rw [before] at restored
  cases restored

/-- Only the coroutine that a turn moves on, and one that starts, are not as they were. -/
theorem stayed_set {stage : Stage}
    (calls : after.calls = world.calls.set index { call with stage := stage })
    (idle : atWork deviceId { call with stage := stage } = false) (slot : Nat)
    (other : HealthCall) (there : after.calls[slot]? = some other)
    (work : atWork deviceId other = true) : slot ≠ index ∧ world.calls[slot]? = some other := by
  rw [calls] at there
  rcases Slots.getElem?_rewritten there with ⟨rfl, rfl⟩ | earlier
  · rw [idle] at work
    cases work
  · exact earlier

namespace Breaker

/-- **A step that restores nothing keeps the invariant**, if it pays for what it newly owes and
licenses the episodes at work. -/
theorem keep (breaker : Breaker config deviceId past world) (single : after.Single)
    (unrestored : ¬Taken.Restores ⟨world, action, after⟩ deviceId)
    (now : world.now ≤ after.now)
    (balance : ∀ cut, after.now - config.policy.recoveryWindowS ≤ cut →
      after.calls.countP (owes deviceId cut) +
          since cut (world.health deviceId).recoveryTimes ≤
        world.calls.countP (owes deviceId cut) +
          since cut (after.health deviceId).recoveryTimes)
    (licensed : ∀ (index : Nat) (call : HealthCall), after.calls[index]? = some call →
      atWork deviceId call = true →
      beyond (world.now - config.policy.recoveryWindowS) (restoredAt deviceId past) <
        config.policy.retireAfterRecoveries) :
    Breaker config deviceId (⟨world, action, after⟩ :: past) after := by
  have same : restorations deviceId (⟨world, action, after⟩ :: past) =
      restorations deviceId past := by simp [restorations, unrestored]
  have times : restoredAt deviceId (⟨world, action, after⟩ :: past) =
      restoredAt deviceId past := by rw [restoredAt, same, restoredAt]
  have later : world.now - config.policy.recoveryWindowS ≤
      after.now - config.policy.recoveryWindowS := by linarith
  refine ⟨single, fun cut recent => ?_, fun slot call there work => ?_, ?_⟩
  · rw [same]
    have dominated := breaker.dominated cut (later.trans recent)
    have paid := balance cut recent
    omega
  · rw [times]
    exact (Window.beyond_anti later _).trans_lt (licensed slot call there work)
  · rw [times]
    exact breaker.within

/-- Only the coroutine that moved on can newly be at work. -/
theorem licensed_apply (breaker : Breaker config deviceId past world)
    (own : atWork deviceId { call with stage := turn.stage } = true →
      beyond (world.now - config.policy.recoveryWindowS) (restoredAt deviceId past) <
        config.policy.retireAfterRecoveries)
    (slot : Nat) (other : HealthCall)
    (there : (world.apply index call turn).calls[slot]? = some other)
    (work : atWork deviceId other = true) :
    beyond (world.now - config.policy.recoveryWindowS) (restoredAt deviceId past) <
      config.policy.retireAfterRecoveries := by
  have member := List.mem_of_getElem? there
  have moved : other ∈ world.calls.set index { call with stage := turn.stage } ∨
      other = ⟨.episode, call.deviceId, .recovering⟩ := by
    rcases calls_apply world index call turn with same | more
    · rw [same] at member
      exact .inl member
    · rw [more] at member
      rcases List.mem_append.mp member with earlier | last
      · exact .inl earlier
      · exact .inr (List.mem_singleton.mp last)
  rcases moved with member | rfl
  · rcases List.mem_or_eq_of_mem_set member with old | rfl
    · obtain ⟨place, there⟩ := List.mem_iff_getElem?.mp old
      exact breaker.licensed place other there work
    · exact own work
  · simp [atWork, Stage.working] at work

/-- A coroutine moves on without a restoration to write. -/
theorem move (breaker : Breaker config deviceId past world) (single : (world.apply index call
    turn).Single) (found : world.calls[index]? = some call) (unwritten : turn.write = none)
    (plain : ∀ countedAt, turn.stage ≠ .restoring (.reconnect countedAt))
    (times : ∀ health, turn.health = some health → ∀ cut,
      world.now - config.policy.recoveryWindowS ≤ cut →
      since cut (world.health call.deviceId).recoveryTimes ≤ since cut health.recoveryTimes)
    (licensed : turn.stage.working = true → call.deviceId = deviceId → call.role = .episode →
      beyond (world.now - config.policy.recoveryWindowS) (restoredAt deviceId past) <
        config.policy.retireAfterRecoveries) :
    Breaker config deviceId (⟨world, action, world.apply index call turn⟩ :: past)
      (world.apply index call turn) := by
  obtain ⟨now, health, registry, _⟩ := apply_frame world index call turn
  have states : (world.apply index call turn).registry.stateOf = world.registry.stateOf := by
    rw [registry]
    exact stateOf_turn unwritten world.registry call.deviceId
  refine breaker.keep single (Taken.unrestored states) (le_of_eq now.symm) ?_ ?_
  · intro cut recent
    have free : owes deviceId cut { call with stage := turn.stage } = false := by
      simp only [owes, Bool.and_eq_false_iff]
      exact .inr trivial
    have owed := owes_apply turn found cut free
    have paid : since cut (world.health deviceId).recoveryTimes ≤
        since cut ((world.apply index call turn).health deviceId).recoveryTimes := by
      rw [health]
      cases changed : turn.health with
      | none => simp [settle, changed]
      | some new =>
        by_cases here : deviceId = call.deviceId
        · subst here
          rw [now] at recent
          simpa [settle, changed] using times new changed cut recent
        · simp [settle, changed, here]
    simp only [Bool.false_eq_true, if_false] at owed
    omega
  · refine breaker.licensed_apply fun work => ?_
    simp only [atWork, Bool.and_eq_true, decide_eq_true_eq, Bool.or_eq_true] at work
    obtain ⟨⟨role, here⟩, working | restoring⟩ := work
    · exact licensed working here role
    · cases restoring

/-- Where every recent restoration was counted in the window, an episode that finds fewer
recoveries than the bound has room for one more restoration. -/
theorem room (breaker : Breaker config deviceId past world)
    (counted : ∀ restoration ∈ restorations deviceId past,
      world.now - config.policy.recoveryWindowS < restoration.writtenAt →
      restoration.countedAt.any
        (fun countedAt => decide (world.now - config.policy.recoveryWindowS ≤ countedAt)) = true)
    (few : (world.health deviceId).recentRecoveries world.now config.policy.recoveryWindowS <
      config.policy.retireAfterRecoveries) :
    beyond (world.now - config.policy.recoveryWindowS) (restoredAt deviceId past) <
      config.policy.retireAfterRecoveries := by
  have recent : beyond (world.now - config.policy.recoveryWindowS) (restoredAt deviceId past) ≤
      (restorations deviceId past).countP
        (Restoration.countedSince (world.now - config.policy.recoveryWindowS)) := by
    rw [beyond, restoredAt, List.countP_map]
    refine List.countP_mono_left fun restoration member late => ?_
    simp only [Function.comp_apply, decide_eq_true_eq] at late
    exact counted restoration member late
  have dominated := breaker.dominated _ (le_refl _)
  have looked : (world.health deviceId).recentRecoveries world.now
      config.policy.recoveryWindowS =
        since (world.now - config.policy.recoveryWindowS)
          (world.health deviceId).recoveryTimes := Window.length_prune _ _
  omega

/-- Pruning pays for itself within the window. -/
theorem prune_since {health : DeviceHealth} {now windowS cut : Rat} (recent : now - windowS ≤ cut) :
    since cut health.recoveryTimes ≤ since cut (health.prune now windowS).recoveryTimes :=
  le_of_eq (Window.since_prune recent _).symm

/-- A recovery is counted as its restoration begins to wait for the lock. -/
theorem reconnect (breaker : Breaker config deviceId past world)
    (single : (world.apply index call (world.reconnected call.deviceId)).Single)
    (found : world.calls[index]? = some call) (work : call.stage.working = true) :
    Breaker config deviceId
      (⟨world, action, world.apply index call (world.reconnected call.deviceId)⟩ :: past)
      (world.apply index call (world.reconnected call.deviceId)) := by
  obtain ⟨now, health, registry, _⟩ :=
    apply_frame world index call (world.reconnected call.deviceId)
  have states : (world.apply index call (world.reconnected call.deviceId)).registry.stateOf =
      world.registry.stateOf := by
    rw [registry]
    exact stateOf_turn rfl world.registry call.deviceId
  refine breaker.keep single (Taken.unrestored states) (le_of_eq now.symm) ?_ ?_
  · intro cut _
    have owed := owes_apply (world.reconnected call.deviceId) found cut
      (by rfl : owes deviceId cut { call with
        stage := (world.reconnected call.deviceId).stage } = _)
    simp only [owes, reconnected, restore] at owed
    rw [health]
    by_cases here : call.deviceId = deviceId
    · subst here
      have appended := Window.since_append cut world.now
        (world.health call.deviceId).recoveryTimes
      simp only [decide_true, Bool.true_and, decide_eq_true_eq] at owed
      simp only [settle, reconnected, restore, Function.update_self]
      show _ ≤ _ + since cut ((world.health call.deviceId).recoveryTimes ++ [world.now])
      omega
    · have apart : deviceId ≠ call.deviceId := Ne.symm here
      simp only [here, decide_false, Bool.false_and, Bool.false_eq_true, if_false] at owed
      simp only [settle, reconnected, restore, Function.update_of_ne apart]
      omega
  · refine breaker.licensed_apply fun begins => breaker.licensed index call found ?_
    simp only [atWork, Bool.and_eq_true, decide_eq_true_eq] at begins ⊢
    exact ⟨begins.1, by simp [work]⟩

/-- A coroutine resumes. -/
theorem resume (breaker : Breaker config deviceId past world)
    (single : (world.apply index call turn).Single) (found : world.calls[index]? = some call)
    (taken : world.turn config call answer = some turn)
    (counted : Counted config deviceId past world (.resume index answer)) :
    Breaker config deviceId (⟨world, .resume index answer, world.apply index call turn⟩ :: past)
      (world.apply index call turn) := by
  have plain : turn.stage.goal = none →
      ∀ countedAt, turn.stage ≠ .restoring (.reconnect countedAt) := by
    rintro goal countedAt stage
    rw [stage] at goal
    cases goal
  cases turn_cases taken with
  | onward fits passive work =>
    refine breaker.move single found passive.write (plain passive.goal) ?_ ?_
    · intro health changed cut _
      rw [passive.times health changed]
    · intro working here role
      refine breaker.licensed index call found ?_
      simp [atWork, here, role, work working]
  | begun at_ asked few adb fits passive =>
    refine breaker.move single found passive.write (plain passive.goal) ?_ ?_
    · intro health changed cut recent
      rw [passive.times health changed]
      exact prune_since recent
    · rintro _ rfl _
      obtain ⟨role, deviceId, stage⟩ := call
      obtain rfl : stage = .recovering := at_
      subst asked
      simp only [Counted, found, true_implies] at counted
      exact breaker.room counted few
  | retired at_ stage passive =>
    refine breaker.move single found passive.write (plain passive.goal) ?_ ?_
    · intro health changed cut recent
      rw [passive.times health changed]
      exact prune_since recent
    · rw [stage]
      exact nofun
  | quarantined at_ turned =>
    subst turned
    exact breaker.move single found rfl nofun nofun nofun
  | spawns at_ asked state turned | restores at_ asked state turned
  | marks at_ asked state turned =>
    subst turned
    refine breaker.move single found rfl nofun ?_ nofun
    rintro health ⟨⟩ cut _
    exact le_refl _
  | retires at_ asked many turned | virtual at_ asked few slot turned =>
    subst turned
    refine breaker.move single found rfl nofun ?_ nofun
    rintro health ⟨⟩ cut recent
    exact prune_since recent
  | reconnects number at_ asked turned =>
    subst turned
    exact breaker.reconnect single found (by rw [at_]; rfl)

/-- What a `set_state` leaves of its coroutine is not at work and owes nothing. -/
theorem written_stage (deviceId : DeviceId) (done : written config call = some turn) :
    turn.health = none ∧ turn.counted = false ∧
      (∀ cut, owes deviceId cut { call with stage := turn.stage } = false) ∧
      atWork deviceId { call with stage := turn.stage } = false ∧
      ((∃ path note, call.stage = .restoring path ∧ turn.write = some (.online, note)) ∨
        ∃ state note, state ≠ .online ∧ turn.write = some (state, note)) := by
  unfold written at done
  split at done
  · rename_i path at_
    obtain rfl := Option.some.inj done
    exact ⟨rfl, rfl, by simp [owes], by simp [atWork, Stage.working],
      .inl ⟨path, path.reason, at_, rfl⟩⟩
  · rename_i reason at_
    obtain rfl := Option.some.inj done
    exact ⟨rfl, rfl, by simp [owes], by simp [atWork, Stage.working],
      .inr ⟨.quarantined, reason, nofun, rfl⟩⟩
  · obtain rfl := Option.some.inj done
    exact ⟨rfl, rfl, by simp [owes], by simp [atWork, Stage.working],
      .inr ⟨.retired, _, nofun, rfl⟩⟩
  · cases done

/-- The restoration of a reconnect is written: it was counted, and the episode had room for it. -/
theorem restored (breaker : Breaker config deviceId past world) (single : after.Single)
    {countedAt : Rat}
    (head : world.head? = some ⟨.episode, deviceId, .restoring (.reconnect countedAt)⟩)
    (found : world.calls[index]? = some ⟨.episode, deviceId, .restoring (.reconnect countedAt)⟩)
    (restores : Taken.Restores ⟨world, .write, after⟩ deviceId) (now : after.now = world.now)
    (health : after.health = world.health)
    (owed : ∀ cut, after.calls.countP (owes deviceId cut) + (if cut ≤ countedAt then 1 else 0) =
      world.calls.countP (owes deviceId cut))
    (stayed : ∀ (slot : Nat) (other : HealthCall), after.calls[slot]? = some other →
      atWork deviceId other = true → slot ≠ index ∧ world.calls[slot]? = some other) :
    Breaker config deviceId (⟨world, .write, after⟩ :: past) after := by
  have room := breaker.licensed index _ found (by simp [atWork])
  have one : restorations deviceId (⟨world, .write, after⟩ :: past) =
      ⟨some countedAt, world.now⟩ :: restorations deviceId past := by
    simp [restorations, restores, headCountedAt, head]
  have times : restoredAt deviceId (⟨world, .write, after⟩ :: past) =
      world.now :: restoredAt deviceId past := by
    rw [restoredAt, one, List.map_cons, restoredAt]
  refine ⟨single, fun cut recent => ?_, fun slot other there work => ?_, ?_⟩
  · have dominated := breaker.dominated cut (now ▸ recent)
    have paid := owed cut
    rw [one, List.countP_cons, health]
    simp only [Restoration.countedSince, Option.any_some, decide_eq_true_eq]
    omega
  · -- Another episode at work would be a second entry.
    obtain ⟨apart, there⟩ := stayed slot other there work
    simp only [atWork, Bool.and_eq_true, decide_eq_true_eq, Bool.or_eq_true] at work
    obtain ⟨otherRole, otherDevice, otherStage⟩ := other
    obtain ⟨⟨rfl, rfl⟩, atWork⟩ := work
    have unfinished : world.Unfinished slot otherDevice := by
      refine ⟨otherStage, there, ?_⟩
      cases otherStage <;> first | rfl | simp [Stage.working] at atWork
    have entered := breaker.single.entered unfinished
    rw [breaker.single.entered ⟨_, found, rfl⟩] at entered
    exact absurd (Option.some.inj entered).symm apart
  · rw [times]
    exact breaker.within.push room

/-- Where every restoration is counted, what restores the device is an episode that reconnected
it. -/
theorem restoring_reconnect (breaker : Breaker config deviceId past world)
    (found : world.calls[index]? = some call) (head : world.head? = some call)
    (own : deviceId = call.deviceId) {path : RestorePath} (at_ : call.stage = .restoring path)
    (before : world.registry.stateOf deviceId = some .quarantined)
    (counted : Counted config deviceId past world .write) :
    ∃ countedAt, call = ⟨.episode, deviceId, .restoring (.reconnect countedAt)⟩ := by
  obtain ⟨role, target, stage⟩ := call
  obtain rfl : deviceId = target := own
  obtain rfl : stage = .restoring path := at_
  simp only [Counted, head, true_implies] at counted
  obtain ⟨notProbe, notVirtual⟩ := counted before
  have fits := breaker.single.fits index _ found
  cases path with
  | probe => exact absurd rfl notProbe
  | virtual => exact absurd rfl notVirtual
  | reconnect countedAt =>
    have episode : role = .episode := by
      cases role <;> first | rfl | cases fits
    exact ⟨countedAt, by rw [episode]⟩

/-- The first call of the queue gets the lock. -/
theorem write (breaker : Breaker config deviceId past world) {rest : List Nat}
    (first : world.waiting = index :: rest) (found : world.calls[index]? = some call)
    (done : written config call = some turn)
    (single : ({ world with waiting := rest }.apply index call turn).Single)
    (counted : Counted config deviceId past world .write) :
    Breaker config deviceId
      (⟨world, .write, { world with waiting := rest }.apply index call turn⟩ :: past)
      ({ world with waiting := rest }.apply index call turn) := by
  obtain ⟨unchanged, uncounted, free, idle, writes⟩ := written_stage deviceId done
  obtain ⟨_, _, unspawned, _⟩ := written_moves done
  have head : world.head? = some call := by simp [head?, first, found]
  generalize moved : { world with waiting := rest }.apply index call turn = after at single ⊢
  have calls : after.calls = world.calls.set index { call with stage := turn.stage } := by
    rw [← moved]
    simp [HealthWorld.apply, unspawned, settle]
  have now : after.now = world.now := by
    rw [← moved]
    simp [HealthWorld.apply, unspawned, settle]
  have health : after.health = world.health := by
    rw [← moved]
    simp [HealthWorld.apply, unspawned, settle, unchanged]
  have owed : ∀ cut, after.calls.countP (owes deviceId cut) +
      (if owes deviceId cut call then 1 else 0) = world.calls.countP (owes deviceId cut) := by
    intro cut
    have replaced := Slots.countP_set (owes deviceId cut) found { call with stage := turn.stage }
    rw [free cut] at replaced
    rw [calls]
    simpa using replaced
  have stayed := stayed_set calls idle
  have state : ∀ note goal, turn.write = some (goal, note) →
      after.registry.stateOf deviceId = if deviceId = call.deviceId then
        (world.registry.stateOf deviceId).map fun _ => goal
        else world.registry.stateOf deviceId := by
    intro note goal wrote
    rw [← moved]
    simp [HealthWorld.apply, unspawned, settle, Turn.registry, wrote, uncounted,
      Registry.stateOf_setState]
  by_cases restores : Taken.Restores ⟨world, .write, after⟩ deviceId
  · obtain ⟨before, online⟩ := restores
    rcases writes with ⟨path, note, at_, wrote⟩ | ⟨goal, note, offline, wrote⟩
    · have kept := state note _ wrote
      by_cases own : deviceId = call.deviceId
      · obtain ⟨countedAt, rfl⟩ :=
          breaker.restoring_reconnect found head own at_ before counted
        exact breaker.restored single head found ⟨before, online⟩ now health
          (fun cut => by simpa [owes] using owed cut) stayed
      · simp only at before online
        rw [if_neg own, online, before] at kept
        cases kept
    · have kept := state note goal wrote
      simp only at before online
      rw [online, before] at kept
      split at kept
      · exact absurd (Option.some.inj kept).symm offline
      · cases kept
  · refine breaker.keep single restores (le_of_eq now.symm) ?_ ?_
    · intro cut _
      have paid := owed cut
      rw [health]
      omega
    · intro slot other there work
      exact breaker.licensed slot other (stayed slot other there work).2 work

/-- A step that leaves states and health alone and adds or ends coroutines that are not at
work. -/
theorem aside (breaker : Breaker config deviceId past world) (single : after.Single)
    (states : after.registry.stateOf = world.registry.stateOf) (now : world.now ≤ after.now)
    (health : after.health = world.health)
    (owed : ∀ cut, after.calls.countP (owes deviceId cut) =
      world.calls.countP (owes deviceId cut))
    (work : ∀ call ∈ after.calls, atWork deviceId call = true → call ∈ world.calls) :
    Breaker config deviceId (⟨world, action, after⟩ :: past) after := by
  refine breaker.keep single (Taken.unrestored states) now ?_ ?_
  · intro cut _
    rw [owed, health]
  · intro slot call there atWork
    obtain ⟨place, found⟩ :=
      List.mem_iff_getElem?.mp (work call (List.mem_of_getElem? there) atWork)
    exact breaker.licensed place call found atWork

/-- Coroutines that have yet to run are not at work. -/
theorem added (breaker : Breaker config deviceId past world) (single : after.Single)
    (states : after.registry.stateOf = world.registry.stateOf) (now : after.now = world.now)
    (health : after.health = world.health) {more : List HealthCall}
    (calls : after.calls = world.calls ++ more)
    (plain : ∀ call ∈ more, call.role ≠ .episode ∧ ∀ path, call.stage ≠ .restoring path) :
    Breaker config deviceId (⟨world, action, after⟩ :: past) after := by
  refine breaker.aside single states (le_of_eq now.symm) health ?_ ?_
  · intro cut
    have none : more.countP (owes deviceId cut) = 0 := by
      refine List.countP_eq_zero.mpr fun call member owed => ?_
      simp only [owes, Bool.and_eq_true] at owed
      obtain ⟨_, owed⟩ := owed
      split at owed
      · rename_i stage
        exact (plain call member).2 _ stage
      · cases owed
    rw [calls, List.countP_append, none, Nat.add_zero]
  · intro call member work
    rw [calls] at member
    rcases List.mem_append.mp member with old | new
    · exact old
    · simp [atWork, (plain call new).1] at work

/-- An ended episode whose callback runs was not at work. -/
theorem collected (breaker : Breaker config deviceId past world) (single : after.Single)
    (states : after.registry.stateOf = world.registry.stateOf) (now : after.now = world.now)
    (health : after.health = world.health) {target : DeviceId} {stage : Stage}
    (found : world.calls[index]? = some ⟨.episode, target, stage⟩) (ended : stage.over = true)
    (calls : after.calls = world.calls.set index ⟨.episode, target, .cleared⟩) :
    Breaker config deviceId (⟨world, action, after⟩ :: past) after := by
  refine breaker.aside single states (le_of_eq now.symm) health ?_ ?_
  · intro cut
    have replaced := Slots.countP_set (owes deviceId cut) found ⟨.episode, target, .cleared⟩
    have old : owes deviceId cut ⟨.episode, target, stage⟩ = false := by
      cases stage <;> first | (simp [owes]; done) | cases ended
    have new : owes deviceId cut ⟨.episode, target, .cleared⟩ = false := by simp [owes]
    rw [old, new] at replaced
    rw [calls]
    simpa using replaced
  · intro call member work
    rw [calls] at member
    rcases List.mem_or_eq_of_mem_set member with old | rfl
    · exact old
    · simp [atWork, Stage.working] at work

/-- **Every step that no restoration escapes keeps the invariant.** -/
theorem step (breaker : Breaker config deviceId past world) (parties : world.Parties action)
    (clear : world.Collected action) (counted : Counted config deviceId past world action)
    (taken : HealthWorld.step config world action = some after) :
    Breaker config deviceId (⟨world, action, after⟩ :: past) after := by
  have single := breaker.single.step clear (step_call taken)
  cases stepped taken with
  | sweeps =>
    refine breaker.added single rfl rfl rfl rfl fun call member => ?_
    obtain ⟨device, _, rfl⟩ := List.mem_map.mp member
    exact ⟨nofun, fun _ => nofun⟩
  | reports worker target reason =>
    refine breaker.added single rfl rfl rfl rfl fun call member => ?_
    obtain rfl := List.mem_singleton.mp member
    exact ⟨nofun, fun _ => nofun⟩
  | resumes found turns => exact breaker.resume single found turns counted
  | writes first found done => exact breaker.write first found done single counted
  | collects found ended uncleared => exact breaker.collected single rfl rfl rfl found ended rfl
  | ticks forward =>
    refine breaker.aside single rfl ?_ rfl (fun _ => rfl) fun _ member _ => member
    exact le_add_of_nonneg_right forward
  | @changes change registry changed =>
    refine breaker.keep single ?_ (le_refl _) (fun _ _ => le_refl _) ?_
    · rintro ⟨before, restored⟩
      have unforced : ∀ target forced note, change ≠ .setState target forced note := by
        rintro target forced note rfl
        exact parties
      have kept := Registry.held_change before rfl unforced changed
      simp only at restored
      rw [kept] at restored
      cases restored
    · exact fun slot call there work => breaker.licensed slot call there work

/-- Nothing was restored in a fresh monitor. -/
theorem fresh (fresh : world.Fresh) : Breaker config deviceId [] world where
  single := .fresh fresh
  dominated := by
    intro cut _
    simp [restorations, fresh.calls]
  licensed := by simp [fresh.calls]
  within := .nil

end Breaker

/-- An episode that would bring the device back once more within a window retires it instead:
its first run asks for RETIRED when the bound is reached, and that write makes the device
RETIRED. -/
def Trips (config : HealthConfig) (deviceId : DeviceId) : List Taken → Prop
  | [] => True
  | taken :: earlier =>
    (∀ (index : Nat) (role : HealthRole), taken.action = .resume index .run →
      taken.before.calls[index]? = some ⟨role, deviceId, .recovering⟩ →
      config.policy.retireAfterRecoveries ≤
        beyond (taken.before.now - config.policy.recoveryWindowS)
          (restoredAt deviceId earlier) →
      taken.after.calls[index]? = some ⟨role, deviceId, .retiring⟩) ∧
    (∀ role : HealthRole, taken.action = .write →
      taken.before.head? = some ⟨role, deviceId, .retiring⟩ →
      taken.before.registry.Knows deviceId →
      taken.after.registry.stateOf deviceId = some .retired) ∧
    Trips config deviceId earlier

/-- A full window trips the breaker. -/
theorem Breaker.trips (breaker : Breaker config deviceId past world)
    (counted : Counted config deviceId past world action)
    (taken : HealthWorld.step config world action = some after) {role : HealthRole}
    (runs : action = .resume index .run)
    (found : world.calls[index]? = some ⟨role, deviceId, .recovering⟩)
    (full : config.policy.retireAfterRecoveries ≤
      beyond (world.now - config.policy.recoveryWindowS) (restoredAt deviceId past)) :
    after.calls[index]? = some ⟨role, deviceId, .retiring⟩ := by
  subst runs
  simp only [Counted, found, true_implies] at counted
  have many : config.policy.retireAfterRecoveries ≤
      (world.health deviceId).recentRecoveries world.now config.policy.recoveryWindowS := by
    by_contra few
    exact absurd full (Nat.not_le_of_lt (breaker.room counted (Nat.lt_of_not_le few)))
  obtain ⟨bound, _⟩ := List.getElem?_eq_some_iff.mp found
  simp only [HealthWorld.step, found, HealthWorld.turn, recoveryStarted, many, if_true,
    Option.map_some, Option.some.injEq] at taken
  subst taken
  simp [HealthWorld.apply, settle, bound]

/-- The write of a retirement makes its device RETIRED. -/
theorem write_retires (taken : step config world .write = some after) {role : HealthRole}
    (head : world.head? = some ⟨role, deviceId, .retiring⟩)
    (knows : world.registry.Knows deviceId) :
    after.registry.stateOf deviceId = some .retired := by
  obtain ⟨state, found⟩ := knows
  cases stepped taken with
  | @writes index rest call turn first there done =>
    obtain rfl : call = ⟨role, deviceId, .retiring⟩ := by
      simpa [head?, first, there] using head
    obtain rfl := Option.some.inj done
    simp [HealthWorld.apply, settle, Turn.registry, Registry.stateOf_setState, found]

/-- **The circuit breaker bounds oscillation** in every run that no restoration escapes: in any
interval shorter than the window a device goes from QUARANTINED to ONLINE at most as often as
the bound says, and an episode that would restore it once more within a window retires it. -/
theorem oscillation_bounded {start : HealthWorld} (fresh : start.Fresh)
    (history : History (step config)
      (fun world action => world.Parties action ∧ world.Collected action) start past world)
    (counted : AllCounted config deviceId past) :
    (∀ opening closing, closing - opening < config.policy.recoveryWindowS →
      ((restoredAt deviceId past).countP fun time =>
        decide (opening ≤ time ∧ time ≤ closing)) ≤ config.policy.retireAfterRecoveries) ∧
      Trips config deviceId past := by
  have held : AllCounted config deviceId past →
      Breaker config deviceId past world ∧ Trips config deviceId past :=
    history.invariant
      (fun past world => AllCounted config deviceId past →
        Breaker config deviceId past world ∧ Trips config deviceId past)
      (fun _ => ⟨.fresh fresh, trivial⟩)
      fun _ before both taken counted => by
        obtain ⟨breaker, trips⟩ := before counted.2
        refine ⟨breaker.step both.1 both.2 counted.1 taken, ?_, ?_, trips⟩
        · exact fun index role runs found full =>
            breaker.trips counted.1 taken runs found full
        · rintro role rfl head knows
          exact write_retires taken head knows
  obtain ⟨breaker, trips⟩ := held counted
  exact ⟨fun opening closing short => breaker.within.interval short, trips⟩

end

/-- With a bound of one, the phone is restored once and retired at its second outage. -/
theorem oscillation_bounded_relapse : ∃ (past : List Taken) (world : HealthWorld),
    restoredAt "phone-a" past = [0] ∧
    world.registry.stateOf "phone-a" = some .retired ∧
    (∀ opening closing, closing - opening < strict.policy.recoveryWindowS →
      ((restoredAt "phone-a" past).countP fun time =>
        decide (opening ≤ time ∧ time ≤ closing)) ≤ strict.policy.retireAfterRecoveries) ∧
    Trips strict "phone-a" past := by
  have passed : (Transition.trace (Transition.guarded (step strict) fun world action =>
      world.Parties action ∧ world.Collected action) [] lonePhone
      (relapse ++ [.resume 3 .run, .write])).any (fun reached =>
        decide (AllCounted strict "phone-a" reached.1 ∧ restoredAt "phone-a" reached.1 = [0] ∧
          reached.2.registry.stateOf "phone-a" = some .retired)) = true := by
    decide +kernel
  obtain ⟨past, world, history, shown⟩ := Transition.traces passed
  obtain ⟨counted, restored, retired⟩ := of_decide_eq_true shown
  exact ⟨past, world, restored, retired, oscillation_bounded ⟨rfl, rfl, rfl, rfl⟩ history counted⟩

/-- The phone is quarantined twice, and each time a sweep brings it back at once. -/
def flapping : List HealthAction :=
  [.quarantine 0 "phone-a" "no session", .write, .sweep, .resume 1 .run,
    .resume 1 (.probed true), .write, .resume 1 .announced,
    .quarantine 0 "phone-a" "no session", .write, .sweep, .resume 3 .run,
    .resume 3 (.probed true), .write]

/-- **Sweeps restore without counting.** With a bound of one the phone goes from QUARANTINED to
ONLINE twice at one instant. -/
theorem oscillation_unbounded : ∃ (past : List Taken) (world : HealthWorld),
    History (step strict) (fun world action => world.Parties action ∧ world.Collected action)
      lonePhone past world ∧
    restoredAt "phone-a" past = [0, 0] ∧
    ¬∀ opening closing, closing - opening < strict.policy.recoveryWindowS →
      ((restoredAt "phone-a" past).countP fun time =>
        decide (opening ≤ time ∧ time ≤ closing)) ≤ strict.policy.retireAfterRecoveries := by
  have passed : (Transition.trace (Transition.guarded (step strict) fun world action =>
      world.Parties action ∧ world.Collected action) [] lonePhone flapping).any (fun reached =>
        decide (restoredAt "phone-a" reached.1 = [0, 0])) = true := by
    decide +kernel
  obtain ⟨past, world, history, shown⟩ := Transition.traces passed
  have restored : restoredAt "phone-a" past = [0, 0] := of_decide_eq_true shown
  refine ⟨past, world, history, restored, fun bounded => ?_⟩
  have twice := bounded 0 0 (by decide +kernel)
  rw [restored] at twice
  exact absurd twice (by decide +kernel)

end HealthWorld

end DeviceOrchestrator
