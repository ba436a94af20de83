import Mathlib.Algebra.Order.Floor.Ring
import Mathlib.Data.Rat.Floor
import DeviceOrchestrator.Core.Scheduler

/-!
# The health monitor as a step function

Sweeps create one `_check_one` for each device, workers call `quarantine`, and both spawn
`_attempt_recovery` episodes. Each of these coroutines is a `HealthCall`, suspended at a
`Stage`. What a coroutine does from one await to the next is a `Turn`, a value computed from the
state it reads; `HealthWorld.apply` carries a turn out. Calls of `set_state` wait for the
registry's lock in the order in which they asked for it, and `sessions.invalidate` does not
suspend, so the only awaits are probes, reconnects, sleeps, the lock and the event sink. A task
is done as soon as its coroutine has finished; its done-callback runs some time later.
-/
namespace DeviceOrchestrator

/-- `HealthPolicy`, without the sweep interval and the probe timeout. -/
structure HealthPolicy where
  /-- Consecutive failures before a device is pulled. -/
  failuresToQuarantine : Nat := 2
  /-- Tries in one recovery episode. -/
  recoveryAttempts : Nat := 2
  /-- Recoveries in the window before a device is given up. -/
  retireAfterRecoveries : Nat := 5
  /-- Recoveries older than this stop counting. -/
  recoveryWindowS : Rat := 900
  /-- First delay after a failed episode. -/
  recoveryBackoffBaseS : Rat := 8
  /-- Cap of the delay after a failed episode. -/
  recoveryBackoffCapS : Rat := 300

/-- What the monitor is built with. -/
structure HealthConfig where
  /-- Tuning. -/
  policy : HealthPolicy := {}
  /-- Whether a probe is injected; then virtual slots are probed with it as well. -/
  probeOverride : Bool := false

/-- Membership of the transport in `ADB_TRANSPORTS`. -/
def Device.adbReachable (device : Device) : Bool :=
  device.transport ∈ ["usb", "tcp", "tunnel"]

/-- Whether a known device is reachable by adb. -/
def Registry.adbReachable (registry : Registry) (deviceId : DeviceId) : Bool :=
  (registry.get deviceId).any Device.adbReachable

/-- `DeviceHealth`, without the fields that only the snapshot reads. -/
structure DeviceHealth where
  /-- Failed probes since the last good one. -/
  consecutiveFailures : Nat := 0
  /-- When adb reconnects brought the device back. -/
  recoveryTimes : List Rat := []
  /-- Consecutive episodes that got nowhere. -/
  failedRecoveries : Nat := 0
  /-- No new episode before this. -/
  nextRecoveryAt : Rat := 0
  deriving DecidableEq

namespace DeviceHealth

/-- The pruning of `recent_recoveries`. -/
def prune (health : DeviceHealth) (now windowS : Rat) : DeviceHealth :=
  { health with
    recoveryTimes := health.recoveryTimes.filter fun time => decide (now - windowS ≤ time) }

/-- The answer of `recent_recoveries`. -/
def recentRecoveries (health : DeviceHealth) (now windowS : Rat) : Nat :=
  (health.prune now windowS).recoveryTimes.length

/-- The clean slate of `_restore`. -/
def cleanSlate (health : DeviceHealth) : DeviceHealth :=
  { health with failedRecoveries := 0, nextRecoveryAt := 0 }

end DeviceHealth

/-- `round` of a float: to the nearest integer, halves to the even one. -/
def roundHalfEven (value : Rat) : Int :=
  let below := ⌊value⌋
  if value - below < 1 / 2 then below
  else if 1 / 2 < value - below then below + 1
  else if below % 2 = 0 then below
  else below + 1

/-- Which path brings a device back. -/
inductive RestorePath
  /-- A sweep probed a quarantined device and it answered. -/
  | probe
  /-- A virtual slot has no repair and is restored at once. -/
  | virtual
  /-- An adb reconnect and a probe succeeded; the recovery was counted at this time. -/
  | reconnect (countedAt : Rat)
  deriving DecidableEq

/-- The reason `_restore` is given. -/
def RestorePath.reason : RestorePath → String
  | probe => "probe recovered"
  | virtual => "virtual slot, no adb repair"
  | reconnect _ => "adb reconnect"

/-- The awaits of `_check_one`, `quarantine` and `_attempt_recovery`, and how they end. -/
inductive Stage
  /-- A check that has not run yet. -/
  | checking
  /-- A check awaits its probe. -/
  | probing
  /-- An episode that has not run yet. -/
  | recovering
  /-- An episode awaits `adb.reconnect`. -/
  | reconnecting (attempt : Nat)
  /-- An episode awaits the probe after a reconnect. -/
  | reprobing (attempt : Nat)
  /-- An episode sleeps between two attempts. -/
  | sleeping (attempt : Nat)
  /-- `_restore` awaits the lock. -/
  | restoring (path : RestorePath)
  /-- `_mark_quarantined` awaits the lock. -/
  | marking (reason : String)
  /-- `_retire` awaits the lock. -/
  | retiring
  /-- The sink has `device.restored`. -/
  | announcingRestored
  /-- The sink has `device.quarantined`. -/
  | announcingQuarantined
  /-- The sink has `device.retired`. -/
  | announcingRetired
  /-- The sink has `device.recovery_failed`. -/
  | announcingFailed
  /-- The coroutine returned. -/
  | returned
  /-- The coroutine raised. -/
  | raised
  /-- The done-callback of an episode has run. -/
  | cleared
  deriving DecidableEq

/-- `Task.done`. -/
def Stage.over : Stage → Bool
  | returned | raised | cleared => true
  | _ => false

/-- Which coroutine a call is. -/
inductive HealthRole
  /-- `_check_one` of a sweep. -/
  | check
  /-- `quarantine`, awaited by a scheduler worker. -/
  | report (worker : Nat)
  /-- `_attempt_recovery`. -/
  | episode
  deriving DecidableEq

/-- A coroutine of the monitor. -/
structure HealthCall where
  /-- Which coroutine it is. -/
  role : HealthRole
  /-- The device it is about. -/
  deviceId : DeviceId
  /-- Where it is suspended. -/
  stage : Stage
  deriving DecidableEq

/-- The events handed to the sink. -/
inductive HealthEvent
  /-- `device.quarantined`. -/
  | quarantined (deviceId : DeviceId) (reason : String)
  /-- `device.restored`. -/
  | restored (deviceId : DeviceId) (reason : String)
  /-- `device.retired`. -/
  | retired (deviceId : DeviceId)
  /-- `device.recovery_failed`. -/
  | recoveryFailed (deviceId : DeviceId) (episode : Nat) (nextTryInS : Int) (reason : String)
  deriving DecidableEq

/-- What a coroutine does from one await to the next. -/
structure Turn where
  /-- Where it is suspended next. -/
  stage : Stage
  /-- Whether it waits for the registry's lock there. -/
  lock : Bool := false
  /-- Whether `device.recoveries` is counted up. -/
  counted : Bool := false
  /-- The state and note that `set_state` writes. -/
  write : Option (DeviceState × String) := none
  /-- The health of its device afterwards, where it changes. -/
  health : Option DeviceHealth := none
  /-- The event handed to the sink. -/
  event : Option HealthEvent := none
  /-- Whether it calls `_spawn_recovery`. -/
  spawn : Bool := false

/-- What the probe, the reconnect, the sleep or the sink answers. -/
inductive HealthAnswer
  /-- The first run of a coroutine. -/
  | run
  /-- The probe answers. -/
  | probed (ok : Bool)
  /-- The reconnect answers. -/
  | reconnected (ok : Bool)
  /-- The sleep is over. -/
  | slept
  /-- The sink returns. -/
  | announced
  /-- What is awaited raises; a missing adb counts as an answer. -/
  | raised
  deriving DecidableEq

/-- A critical section of the registry entered by another party. -/
inductive RegistryChange
  /-- `refresh`. -/
  | refresh (polled : List Device)
  /-- `acquire` finds a free device. -/
  | lease (selector : DeviceSelector) (token : Nat)
  /-- `release`. -/
  | unlease (lease : Lease)
  /-- `set_state` called by someone else. -/
  | setState (deviceId : DeviceId) (state : DeviceState) (note : String)

/-- The registry after a critical section; a lease needs a free device and a new token. -/
def Registry.change (registry : Registry) : RegistryChange → Option Registry
  | .refresh polled => some (registry.refresh polled)
  | .lease selector token =>
    match registry.findFree selector with
    | .ok (some device) =>
      if token ∈ registry.issued then none else some (registry.grant ⟨device.id, token⟩)
    | _ => none
  | .unlease lease => some (registry.unlease lease)
  | .setState deviceId state note => some (registry.setState deviceId state note)

/-- The monitor together with the registry it watches. -/
structure HealthWorld where
  /-- The registry. -/
  registry : Registry := {}
  /-- `time.monotonic()`. -/
  now : Rat := 0
  /-- Every coroutine made so far. -/
  calls : List HealthCall := []
  /-- The calls of `set_state` that wait for the lock, in order. -/
  waiting : List Nat := []
  /-- `_recoveries`. -/
  recoveries : DeviceId → Option Nat := fun _ => none
  /-- `_health`; `health_for` makes a missing entry. -/
  health : DeviceId → DeviceHealth := fun _ => {}
  /-- Events handed to the sink. -/
  published : List HealthEvent := []

/-- Who calls the monitor, and which coroutine resumes. -/
inductive HealthAction
  /-- `_sweep` gathers one check for each device that is ONLINE or QUARANTINED. -/
  | sweep
  /-- `quarantine` is called by a worker. -/
  | quarantine (worker : Nat) (deviceId : DeviceId) (reason : String)
  /-- A coroutine resumes with what its await answered. -/
  | resume (call : Nat) (answer : HealthAnswer)
  /-- The lock goes to the `set_state` that asked for it first. -/
  | write
  /-- The done-callback of an episode. -/
  | callback (call : Nat)
  /-- Time passes. -/
  | tick (elapsedS : Rat)
  /-- Another party enters the registry. -/
  | others (change : RegistryChange)

namespace HealthWorld

/-- `_spawn_recovery`. -/
def spawn (world : HealthWorld) (deviceId : DeviceId) : HealthWorld :=
  let running := (world.recoveries deviceId).any fun episode =>
    world.calls[episode]?.any fun call => !call.stage.over
  if running then world
  else if world.now < (world.health deviceId).nextRecoveryAt then world
  else
    { world with
      calls := world.calls ++ [⟨.episode, deviceId, .recovering⟩]
      recoveries := Function.update world.recoveries deviceId (some world.calls.length) }

/-- `_restore`, up to the lock. -/
def restore (health : DeviceHealth) (path : RestorePath) : Turn where
  stage := .restoring path
  lock := true
  health := some health.cleanSlate

/-- The end of the loop of `_attempt_recovery`: the episode failed. The counter goes up before
the delay is computed, which overflows for a long outage. -/
def exhausted (config : HealthConfig) (world : HealthWorld) (deviceId : DeviceId) : Turn :=
  if world.registry.stateOf deviceId ≠ some .quarantined then { stage := .returned }
  else
    let health := world.health deviceId
    let episode := health.failedRecoveries + 1
    let failed := { health with failedRecoveries := episode }
    match timesPowerOfTwo config.policy.recoveryBackoffBaseS (episode - 1) with
    | .error _ => { stage := .raised, health := some failed }
    | .ok grown =>
      let delay := min grown config.policy.recoveryBackoffCapS
      let rounded := roundHalfEven delay
      { stage := .announcingFailed
        health := some { failed with nextRecoveryAt := world.now + delay }
        event := some (.recoveryFailed deviceId episode rounded
          s!"recovery {episode} failed, next try in {rounded}s") }

/-- The head of the loop of `_attempt_recovery`. -/
def attempt (config : HealthConfig) (world : HealthWorld) (deviceId : DeviceId) (number : Nat) :
    Turn :=
  if config.policy.recoveryAttempts < number then world.exhausted config deviceId
  else if world.registry.stateOf deviceId ≠ some .quarantined then { stage := .returned }
  else { stage := .reconnecting number }

/-- An attempt of the loop failed: there is no sleep after the last one. -/
def attemptFailed (config : HealthConfig) (world : HealthWorld) (deviceId : DeviceId)
    (number : Nat) : Turn :=
  if number < config.policy.recoveryAttempts then { stage := .sleeping number }
  else world.exhausted config deviceId

/-- The first run of `_attempt_recovery`. -/
def recoveryStarted (config : HealthConfig) (world : HealthWorld) (deviceId : DeviceId) : Turn :=
  let window := config.policy.recoveryWindowS
  let pruned := (world.health deviceId).prune world.now window
  if config.policy.retireAfterRecoveries ≤
      (world.health deviceId).recentRecoveries world.now window then
    { stage := .retiring, lock := true, health := some pruned }
  else if !world.registry.adbReachable deviceId then restore pruned .virtual
  else
    let turn :=
      { world with health := Function.update world.health deviceId pruned }.attempt config
        deviceId 1
    { turn with health := some (turn.health.getD pruned) }

/-- The probe after a reconnect succeeded. -/
def reconnected (world : HealthWorld) (deviceId : DeviceId) : Turn :=
  let health := world.health deviceId
  { restore
      { health with
        recoveryTimes := health.recoveryTimes ++ [world.now]
        consecutiveFailures := 0 }
      (.reconnect world.now) with
    counted := true }

/-- What `_check_one` does with the answer of its probe. -/
def checkProbed (config : HealthConfig) (world : HealthWorld) (deviceId : DeviceId) (ok : Bool) :
    Turn :=
  let health := world.health deviceId
  let state := world.registry.stateOf deviceId
  if ok then
    let recovered := { health with consecutiveFailures := 0 }
    if state = some .quarantined then restore recovered .probe
    else { stage := .returned, health := some recovered }
  else
    let failed := { health with consecutiveFailures := health.consecutiveFailures + 1 }
    if state = some .online ∧ config.policy.failuresToQuarantine ≤ failed.consecutiveFailures then
      { stage := .marking "probe failed", lock := true, health := some failed }
    else if state = some .quarantined then
      { stage := .returned, health := some failed, spawn := true }
    else { stage := .returned, health := some failed }

/-- What a coroutine does when it resumes with an answer, up to its next await. A virtual slot
without an injected probe always answers. -/
def turn (config : HealthConfig) (world : HealthWorld) (call : HealthCall)
    (answer : HealthAnswer) : Option Turn :=
  let deviceId := call.deviceId
  match call.stage, answer with
  | .checking, .run =>
    some { stage := if world.registry.isLeased deviceId then .returned else .probing }
  | .probing, .probed ok =>
    if ok || config.probeOverride || world.registry.adbReachable deviceId then
      some (world.checkProbed config deviceId ok)
    else none
  | .recovering, .run => some (world.recoveryStarted config deviceId)
  | .reconnecting number, .reconnected ok =>
    some (if ok then { stage := .reprobing number }
      else world.attemptFailed config deviceId number)
  | .reprobing number, .probed ok =>
    some (if ok then world.reconnected deviceId else world.attemptFailed config deviceId number)
  | .sleeping number, .slept => some (world.attempt config deviceId (number + 1))
  | .announcingRestored, .announced => some { stage := .returned }
  | .announcingQuarantined, .announced =>
    some { stage := .returned, spawn := (world.registry.get deviceId).isSome }
  | .announcingRetired, .announced =>
    some { stage := .returned
           health := some
            ((world.health deviceId).prune world.now config.policy.recoveryWindowS) }
  | .announcingFailed, .announced => some { stage := .returned }
  | .probing, .raised | .reconnecting _, .raised | .reprobing _, .raised
  | .announcingRestored, .raised | .announcingQuarantined, .raised
  | .announcingRetired, .raised | .announcingFailed, .raised => some { stage := .raised }
  | _, _ => none

/-- What a `set_state` writes when it gets the lock, and what its caller does up to the sink. -/
def written (config : HealthConfig) (call : HealthCall) : Option Turn :=
  match call.stage with
  | .restoring path =>
    some { stage := .announcingRestored
           write := some (.online, path.reason)
           event := some (.restored call.deviceId path.reason) }
  | .marking reason =>
    some { stage := .announcingQuarantined
           write := some (.quarantined, reason)
           event := some (.quarantined call.deviceId reason) }
  | .retiring =>
    let recoveries := config.policy.retireAfterRecoveries
    let window := config.policy.recoveryWindowS.num.tdiv config.policy.recoveryWindowS.den
    some { stage := .announcingRetired
           write := some (.retired, s!"{recoveries} recoveries in {window}s -- needs a human")
           event := some (.retired call.deviceId) }
  | _ => none

/-- The registry after a turn. -/
def Turn.registry (turn : Turn) (registry : Registry) (deviceId : DeviceId) : Registry :=
  let counted := if turn.counted then registry.countRecovery deviceId else registry
  match turn.write with
  | none => counted
  | some (state, note) => counted.setState deviceId state note

/-- Carry out a turn, except for `_spawn_recovery`. -/
def settle (world : HealthWorld) (index : Nat) (call : HealthCall) (turn : Turn) : HealthWorld :=
  { world with
    registry := Turn.registry turn world.registry call.deviceId
    calls := world.calls.set index { call with stage := turn.stage }
    waiting := if turn.lock then world.waiting ++ [index] else world.waiting
    health := match turn.health with
      | none => world.health
      | some health => Function.update world.health call.deviceId health
    published := world.published ++ turn.event.toList }

/-- Carry out a turn. -/
def apply (world : HealthWorld) (index : Nat) (call : HealthCall) (turn : Turn) : HealthWorld :=
  if turn.spawn then (world.settle index call turn).spawn call.deviceId
  else world.settle index call turn

/-- The devices that a sweep checks. -/
def swept (registry : Registry) : List HealthCall :=
  (registry.devices.items.filter fun device =>
    device.state = .online ∨ device.state = .quarantined).map fun device =>
      ⟨.check, device.id, .checking⟩

/-- One step. -/
def step (config : HealthConfig) (world : HealthWorld) : HealthAction → Option HealthWorld
  | .sweep =>
    if world.calls.all fun call => call.role ≠ .check ∨ call.stage.over then
      some { world with calls := world.calls ++ swept world.registry }
    else none
  | .quarantine worker deviceId reason =>
    some { world with
      calls := world.calls ++ [⟨.report worker, deviceId, .marking reason⟩]
      waiting := world.waiting ++ [world.calls.length] }
  | .resume index answer =>
    match world.calls[index]? with
    | none => none
    | some call => (world.turn config call answer).map (world.apply index call)
  | .write =>
    match world.waiting with
    | [] => none
    | index :: rest =>
      match world.calls[index]? with
      | none => none
      | some call =>
        (written config call).map ({ world with waiting := rest }.apply index call)
  | .callback index =>
    match world.calls[index]? with
    | some ⟨.episode, deviceId, .returned⟩ | some ⟨.episode, deviceId, .raised⟩ =>
      some { world with
        calls := world.calls.set index ⟨.episode, deviceId, .cleared⟩
        recoveries := Function.update world.recoveries deviceId none }
    | _ => none
  | .tick elapsedS => if 0 ≤ elapsedS then some { world with now := world.now + elapsedS } else none
  | .others change =>
    (world.registry.change change).map fun registry => { world with registry := registry }

end HealthWorld

end DeviceOrchestrator
