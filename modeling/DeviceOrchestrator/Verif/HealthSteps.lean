import DeviceOrchestrator.Core.Health

/-!
# What one turn of the health monitor can do

`turn_cases` inverts the turn of a coroutine once for all: a turn asks for the lock in one of
five situations, spawns an episode in two, and otherwise only moves its own coroutine on. The
later invariants are stated over calls, the queue of the lock and the health of a device, and
each looks at a turn through this inversion.
-/
namespace DeviceOrchestrator

namespace Stage

/-- The state that a waiting `set_state` is to write. -/
def goal : Stage → Option DeviceState
  | restoring _ => some .online
  | marking _ => some .quarantined
  | retiring => some .retired
  | _ => none

/-- A coroutine that has ended waits to write nothing. -/
theorem goal_of_over {stage : Stage} (ended : stage.over = true) : stage.goal = none := by
  cases stage <;> first | rfl | cases ended

/-- An episode past its first run that has neither failed nor restored its device. -/
def working : Stage → Bool
  | reconnecting _ | reprobing _ | sleeping _ => true
  | _ => false

/-- An episode that has not given its verdict. -/
def undecided : Stage → Bool
  | recovering | reconnecting _ | reprobing _ | sleeping _ => true
  | _ => false

end Stage

/-- The stages that a coroutine can be in. -/
def HealthRole.fits : HealthRole → Stage → Bool
  | check, .checking | check, .probing | check, .restoring .probe | check, .announcingRestored
  | check, .marking _ | check, .announcingQuarantined => true
  | report _, .marking _ | report _, .announcingQuarantined => true
  | episode, .recovering | episode, .reconnecting _ | episode, .reprobing _
  | episode, .sleeping _ | episode, .restoring .virtual | episode, .restoring (.reconnect _)
  | episode, .retiring | episode, .announcingRestored | episode, .announcingRetired
  | episode, .announcingFailed | episode, .cleared => true
  | _, .returned | _, .raised => true
  | _, _ => false

/-- A turn that only moves its coroutine on, from a health with the given recovery times. -/
structure Turn.Passive (turn : Turn) (times : List Rat) : Prop where
  /-- It does not ask for the lock. -/
  lock : turn.lock = false
  /-- Nothing is left to be written. -/
  goal : turn.stage.goal = none
  /-- It counts no recovery. -/
  counted : turn.counted = false
  /-- It writes no state. -/
  write : turn.write = none
  /-- It spawns no episode. -/
  spawn : turn.spawn = false
  /-- It runs no callback. -/
  uncleared : turn.stage ≠ .cleared
  /-- It changes no recovery time. -/
  times : ∀ health, turn.health = some health → health.recoveryTimes = times

namespace HealthWorld

/-- A monitor before its first coroutine. -/
structure Fresh (world : HealthWorld) : Prop where
  /-- No coroutine was made. -/
  calls : world.calls = []
  /-- Nothing waits for the lock. -/
  waiting : world.waiting = []
  /-- No episode is entered. -/
  recoveries : world.recoveries = fun _ => none
  /-- No device has a history. -/
  health : world.health = fun _ => {}

/-- A fresh monitor over one phone, ONLINE and free. -/
def lonePhone : HealthWorld where
  registry := { devices := ⟨[{ id := "phone-a" }], by decide⟩ }

section
variable (config : HealthConfig) (world : HealthWorld) (deviceId : DeviceId)

/-- A failed episode moves on without the lock. -/
theorem exhausted_passive :
    (world.exhausted config deviceId).Passive (world.health deviceId).recoveryTimes ∧
      (world.exhausted config deviceId).stage.working = false ∧
      HealthRole.fits .episode (world.exhausted config deviceId).stage = true := by
  unfold exhausted
  split
  · exact ⟨⟨rfl, rfl, rfl, rfl, rfl, nofun, nofun⟩, rfl, rfl⟩
  · dsimp only
    split
    · refine ⟨⟨rfl, rfl, rfl, rfl, rfl, nofun, ?_⟩, rfl, rfl⟩
      rintro health ⟨⟩
      rfl
    · refine ⟨⟨rfl, rfl, rfl, rfl, rfl, nofun, ?_⟩, rfl, rfl⟩
      rintro health ⟨⟩
      rfl

/-- The head of the loop moves on without the lock. -/
theorem attempt_passive (number : Nat) :
    (world.attempt config deviceId number).Passive (world.health deviceId).recoveryTimes ∧
      HealthRole.fits .episode (world.attempt config deviceId number).stage = true := by
  unfold attempt
  split
  · obtain ⟨passive, _, fits⟩ := world.exhausted_passive config deviceId
    exact ⟨passive, fits⟩
  · split
    · exact ⟨⟨rfl, rfl, rfl, rfl, rfl, nofun, nofun⟩, rfl⟩
    · exact ⟨⟨rfl, rfl, rfl, rfl, rfl, nofun, nofun⟩, rfl⟩

/-- A failed attempt moves on without the lock. -/
theorem attemptFailed_passive (number : Nat) :
    (world.attemptFailed config deviceId number).Passive (world.health deviceId).recoveryTimes ∧
      HealthRole.fits .episode (world.attemptFailed config deviceId number).stage = true := by
  unfold attemptFailed
  split
  · exact ⟨⟨rfl, rfl, rfl, rfl, rfl, nofun, nofun⟩, rfl⟩
  · obtain ⟨passive, _, fits⟩ := world.exhausted_passive config deviceId
    exact ⟨passive, fits⟩

end

/-- **What a turn can be.** -/
inductive Turned (config : HealthConfig) (world : HealthWorld) (call : HealthCall)
    (answer : HealthAnswer) (turn : Turn) : Prop
  /-- The coroutine only moves on; only an episode at work stays at work. -/
  | onward (fits : call.role.fits call.stage = true → call.role.fits turn.stage = true)
      (passive : turn.Passive (world.health call.deviceId).recoveryTimes)
      (work : turn.stage.working = true → call.stage.working = true)
  /-- An episode begins to work: too few recoveries lie in the window. -/
  | begun (at_ : call.stage = .recovering) (asked : answer = .run)
      (few : (world.health call.deviceId).recentRecoveries world.now
        config.policy.recoveryWindowS < config.policy.retireAfterRecoveries)
      (adb : world.registry.adbReachable call.deviceId = true)
      (fits : HealthRole.fits .episode turn.stage = true)
      (passive : turn.Passive ((world.health call.deviceId).prune world.now
        config.policy.recoveryWindowS).recoveryTimes)
  /-- A retirement is over. -/
  | retired (at_ : call.stage = .announcingRetired) (stage : turn.stage = .returned)
      (passive : turn.Passive ((world.health call.deviceId).prune world.now
        config.policy.recoveryWindowS).recoveryTimes)
  /-- A quarantine is over and spawns an episode if the device is known. -/
  | quarantined (at_ : call.stage = .announcingQuarantined)
      (turned : turn = { stage := .returned, spawn := (world.registry.get call.deviceId).isSome })
  /-- A failed probe of a quarantined device spawns an episode. -/
  | spawns (at_ : call.stage = .probing) (asked : answer = .probed false)
      (state : world.registry.stateOf call.deviceId = some .quarantined)
      (turned : turn =
        { stage := .returned
          spawn := true
          health := some { world.health call.deviceId with
            consecutiveFailures := (world.health call.deviceId).consecutiveFailures + 1 } })
  /-- A good probe of a quarantined device restores it. -/
  | restores (at_ : call.stage = .probing) (asked : answer = .probed true)
      (state : world.registry.stateOf call.deviceId = some .quarantined)
      (turned : turn =
        restore { world.health call.deviceId with consecutiveFailures := 0 } .probe)
  /-- Too many failed probes of an ONLINE device quarantine it. -/
  | marks (at_ : call.stage = .probing) (asked : answer = .probed false)
      (state : world.registry.stateOf call.deviceId = some .online)
      (turned : turn =
        { stage := .marking "probe failed"
          lock := true
          health := some { world.health call.deviceId with
            consecutiveFailures := (world.health call.deviceId).consecutiveFailures + 1 } })
  /-- An episode finds too many recoveries in the window. -/
  | retires (at_ : call.stage = .recovering) (asked : answer = .run)
      (many : config.policy.retireAfterRecoveries ≤
        (world.health call.deviceId).recentRecoveries world.now config.policy.recoveryWindowS)
      (turned : turn =
        { stage := .retiring
          lock := true
          health := some ((world.health call.deviceId).prune world.now
            config.policy.recoveryWindowS) })
  /-- An episode restores a virtual slot. -/
  | virtual (at_ : call.stage = .recovering) (asked : answer = .run)
      (few : (world.health call.deviceId).recentRecoveries world.now
        config.policy.recoveryWindowS < config.policy.retireAfterRecoveries)
      (slot : world.registry.adbReachable call.deviceId = false)
      (turned : turn = restore ((world.health call.deviceId).prune world.now
        config.policy.recoveryWindowS) .virtual)
  /-- An episode has reconnected its device. -/
  | reconnects (number : Nat) (at_ : call.stage = .reprobing number)
      (asked : answer = .probed true) (turned : turn = world.reconnected call.deviceId)

section
variable {config : HealthConfig} {world : HealthWorld} {call : HealthCall}
variable {answer : HealthAnswer} {turn : Turn}

/-- A turn that does nothing but end the coroutine, or suspend it elsewhere. -/
theorem Turned.onward_to {stage : Stage}
    (fits : call.role.fits call.stage = true → call.role.fits stage = true)
    (goal : stage.goal = none) (uncleared : stage ≠ .cleared)
    (work : stage.working = true → call.stage.working = true) :
    Turned config world call answer { stage := stage } :=
  .onward fits ⟨rfl, goal, rfl, rfl, rfl, uncleared, nofun⟩ work

/-- What `_check_one` does with an answer. -/
theorem checkProbed_cases (at_ : call.stage = .probing) (ok : Bool) :
    Turned config world call (.probed ok) (world.checkProbed config call.deviceId ok) := by
  have ends : call.role.fits call.stage = true → call.role.fits .returned = true := by
    cases call.role <;> exact fun _ => rfl
  cases ok with
  | true =>
    simp only [checkProbed, if_true]
    split
    · rename_i state
      exact .restores at_ rfl state rfl
    · refine .onward ends ⟨rfl, rfl, rfl, rfl, rfl, nofun, ?_⟩ nofun
      rintro health ⟨⟩
      rfl
  | false =>
    simp only [checkProbed, Bool.false_eq_true, if_false]
    split
    · rename_i state
      exact .marks at_ rfl state.1 rfl
    · split
      · rename_i state
        exact .spawns at_ rfl state rfl
      · refine .onward ends ⟨rfl, rfl, rfl, rfl, rfl, nofun, ?_⟩ nofun
        rintro health ⟨⟩
        rfl

/-- What the first run of an episode does. -/
theorem recoveryStarted_cases (at_ : call.stage = .recovering) :
    Turned config world call .run (world.recoveryStarted config call.deviceId) := by
  unfold recoveryStarted
  dsimp only
  split
  · rename_i many
    exact .retires at_ rfl many rfl
  · rename_i few
    have few := Nat.lt_of_not_le few
    split
    · rename_i slot
      exact .virtual at_ rfl few (by simpa using slot) rfl
    · rename_i adb
      have adb : world.registry.adbReachable call.deviceId = true := by simpa using adb
      generalize pruned : (world.health call.deviceId).prune world.now
        config.policy.recoveryWindowS = health
      generalize looked :
        ({ world with health := Function.update world.health call.deviceId health } :
          HealthWorld) = before
      obtain ⟨passive, fits⟩ := before.attempt_passive config call.deviceId 1
      have kept : before.health call.deviceId = health := by
        rw [← looked]
        simp
      rw [kept] at passive
      refine .begun at_ rfl few adb fits ?_
      rw [pruned]
      refine ⟨passive.lock, passive.goal, passive.counted, passive.write, passive.spawn,
        passive.uncleared, ?_⟩
      rintro after ⟨⟩
      cases changed : (before.attempt config call.deviceId 1).health with
      | none => rfl
      | some other => exact passive.times other changed

/-- **Every turn is one of these.** -/
theorem turn_cases (taken : world.turn config call answer = some turn) :
    Turned config world call answer turn := by
  obtain ⟨role, deviceId, stage⟩ := call
  unfold HealthWorld.turn at taken
  dsimp only at taken
  split at taken
  · obtain rfl := Option.some.inj taken
    cases leased : world.registry.isLeased deviceId with
    | true => exact .onward_to (by cases role <;> simp [HealthRole.fits]) rfl nofun nofun
    | false => exact .onward_to (by cases role <;> simp [HealthRole.fits]) rfl nofun nofun
  · rename_i ok
    split at taken
    · obtain rfl := Option.some.inj taken
      exact checkProbed_cases rfl ok
    · cases taken
  · obtain rfl := Option.some.inj taken
    exact recoveryStarted_cases rfl
  · rename_i number ok
    obtain rfl := Option.some.inj taken
    cases ok with
    | true => exact .onward_to (by cases role <;> simp [HealthRole.fits]) rfl nofun fun _ => rfl
    | false =>
      obtain ⟨passive, fits⟩ := world.attemptFailed_passive config deviceId number
      refine .onward ?_ passive fun _ => rfl
      cases role <;> simp [HealthRole.fits] at fits ⊢
      exact fits
  · rename_i number ok
    obtain rfl := Option.some.inj taken
    cases ok with
    | true => exact .reconnects number rfl rfl rfl
    | false =>
      obtain ⟨passive, fits⟩ := world.attemptFailed_passive config deviceId number
      refine .onward ?_ passive fun _ => rfl
      cases role <;> simp [HealthRole.fits] at fits ⊢
      exact fits
  · rename_i number
    obtain rfl := Option.some.inj taken
    obtain ⟨passive, fits⟩ := world.attempt_passive config deviceId (number + 1)
    refine .onward ?_ passive fun _ => rfl
    cases role <;> simp [HealthRole.fits] at fits ⊢
    exact fits
  · obtain rfl := Option.some.inj taken
    exact .onward_to (by cases role <;> simp [HealthRole.fits]) rfl nofun nofun
  · obtain rfl := Option.some.inj taken
    exact .quarantined rfl rfl
  · obtain rfl := Option.some.inj taken
    refine .retired rfl rfl ⟨rfl, rfl, rfl, rfl, rfl, nofun, ?_⟩
    rintro health ⟨⟩
    rfl
  · obtain rfl := Option.some.inj taken
    exact .onward_to (by cases role <;> simp [HealthRole.fits]) rfl nofun nofun
  all_goals first
    | cases taken; done
    | obtain rfl := Option.some.inj taken
      exact .onward_to (by cases role <;> simp [HealthRole.fits]) rfl nofun nofun

/-- A turn writes no state. -/
theorem Turned.unwritten (turned : Turned config world call answer turn) : turn.write = none := by
  cases turned with
  | onward fits passive work => exact passive.write
  | begun at_ asked few adb fits passive => exact passive.write
  | retired at_ stage passive => exact passive.write
  | quarantined at_ turned | spawns at_ asked state turned | restores at_ asked state turned
  | marks at_ asked state turned | retires at_ asked many turned
  | virtual at_ asked few slot turned | reconnects number at_ asked turned =>
    subst turned
    rfl

/-- A quarantine spawns an episode only when its event has gone out. -/
theorem turn_announced (taken : world.turn config call answer = some turn)
    (at_ : call.stage = .announcingQuarantined) (spawns : turn.spawn = true) :
    answer = .announced := by
  obtain ⟨role, deviceId, stage⟩ := call
  obtain rfl : stage = .announcingQuarantined := at_
  cases answer with
  | announced => rfl
  | raised =>
    simp only [HealthWorld.turn, Option.some.injEq] at taken
    subst taken
    exact absurd spawns Bool.false_ne_true
  | run | probed | reconnected | slept => simp [HealthWorld.turn] at taken

/-- A coroutine that has ended does not resume, and one that waits for the lock resumes only
with it. -/
theorem turn_live (taken : world.turn config call answer = some turn) :
    call.stage.over = false ∧ call.stage.goal = none := by
  unfold HealthWorld.turn at taken
  dsimp only at taken
  split at taken <;> first | (rename_i at_; rw [at_]; exact ⟨rfl, rfl⟩) | skip
  cases taken

/-- Carrying out a turn suspends or ends its coroutine, and may add one episode. -/
theorem calls_apply (world : HealthWorld) (index : Nat) (call : HealthCall) (turn : Turn) :
    (world.apply index call turn).calls =
        world.calls.set index { call with stage := turn.stage } ∨
      (world.apply index call turn).calls =
        world.calls.set index { call with stage := turn.stage } ++
          [⟨.episode, call.deviceId, .recovering⟩] := by
  unfold HealthWorld.apply
  split
  · unfold HealthWorld.spawn
    dsimp only
    split
    · exact .inl rfl
    · split
      · exact .inl rfl
      · exact .inr rfl
  · exact .inl rfl

/-- Spawning changes nothing but calls and entries. -/
theorem apply_frame (world : HealthWorld) (index : Nat) (call : HealthCall) (turn : Turn) :
    (world.apply index call turn).now = world.now ∧
      (world.apply index call turn).health = (world.settle index call turn).health ∧
      (world.apply index call turn).registry = (world.settle index call turn).registry ∧
      (world.apply index call turn).waiting = (world.settle index call turn).waiting := by
  unfold HealthWorld.apply
  split
  · unfold HealthWorld.spawn
    dsimp only
    split
    · exact ⟨rfl, rfl, rfl, rfl⟩
    · split
      · exact ⟨rfl, rfl, rfl, rfl⟩
      · exact ⟨rfl, rfl, rfl, rfl⟩
  · exact ⟨rfl, rfl, rfl, rfl⟩

/-- **What one step is**, with the coroutine that moves and the turn that it takes. -/
inductive Stepped (config : HealthConfig) (world : HealthWorld) :
    HealthAction → HealthWorld → Prop
  /-- A sweep starts its checks. -/
  | sweeps : Stepped config world .sweep { world with
      calls := world.calls ++ swept world.registry }
  /-- A worker reports a device. -/
  | reports (worker : Nat) (deviceId : DeviceId) (reason : String) :
      Stepped config world (.quarantine worker deviceId reason) { world with
        calls := world.calls ++ [⟨.report worker, deviceId, .marking reason⟩]
        waiting := world.waiting ++ [world.calls.length] }
  /-- A coroutine takes its turn. -/
  | resumes {index : Nat} {call : HealthCall} {answer : HealthAnswer} {turn : Turn}
      (found : world.calls[index]? = some call)
      (turns : world.turn config call answer = some turn) :
      Stepped config world (.resume index answer) (world.apply index call turn)
  /-- The first coroutine in the queue of the lock writes. -/
  | writes {index : Nat} {rest : List Nat} {call : HealthCall} {turn : Turn}
      (first : world.waiting = index :: rest) (found : world.calls[index]? = some call)
      (done : written config call = some turn) :
      Stepped config world .write ({ world with waiting := rest }.apply index call turn)
  /-- The callback of an episode that has ended runs. -/
  | collects {index : Nat} {deviceId : DeviceId} {stage : Stage}
      (found : world.calls[index]? = some ⟨.episode, deviceId, stage⟩)
      (ended : stage.over = true) (uncleared : stage ≠ .cleared) :
      Stepped config world (.callback index) { world with
        calls := world.calls.set index ⟨.episode, deviceId, .cleared⟩
        recoveries := Function.update world.recoveries deviceId none }
  /-- Time passes. -/
  | ticks {elapsedS : Rat} (forward : 0 ≤ elapsedS) :
      Stepped config world (.tick elapsedS) { world with now := world.now + elapsedS }
  /-- Another party changes the registry. -/
  | changes {change : RegistryChange} {registry : Registry}
      (changed : world.registry.change change = some registry) :
      Stepped config world (.others change) { world with registry := registry }

/-- **Every step is one of these.** -/
theorem stepped {after : HealthWorld} {action : HealthAction}
    (taken : step config world action = some after) : Stepped config world action after := by
  cases action with
  | sweep =>
    simp only [step] at taken
    split at taken
    · obtain rfl := Option.some.inj taken
      exact .sweeps
    · cases taken
  | quarantine worker deviceId reason =>
    obtain rfl := Option.some.inj taken
    exact .reports worker deviceId reason
  | resume index answer =>
    simp only [step] at taken
    split at taken
    · cases taken
    · rename_i call found
      obtain ⟨turn, turns, rfl⟩ := Option.map_eq_some_iff.mp taken
      exact .resumes found turns
  | write =>
    simp only [step] at taken
    split at taken
    · cases taken
    · rename_i index rest first
      split at taken
      · cases taken
      · rename_i call found
        obtain ⟨turn, done, rfl⟩ := Option.map_eq_some_iff.mp taken
        exact .writes first found done
  | callback index =>
    simp only [step] at taken
    split at taken
    · rename_i deviceId found
      obtain rfl := Option.some.inj taken
      exact .collects found rfl nofun
    · rename_i deviceId found
      obtain rfl := Option.some.inj taken
      exact .collects found rfl nofun
    · cases taken
  | tick elapsedS =>
    simp only [step] at taken
    split at taken
    · rename_i forward
      obtain rfl := Option.some.inj taken
      exact .ticks forward
    · cases taken
  | others change =>
    obtain ⟨registry, changed, rfl⟩ := Option.map_eq_some_iff.mp taken
    exact .changes changed

end

end HealthWorld

end DeviceOrchestrator
