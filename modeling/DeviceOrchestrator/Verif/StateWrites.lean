import DeviceOrchestrator.Lib.Deferred
import DeviceOrchestrator.Lib.Slots
import DeviceOrchestrator.Verif.HealthSteps

/-!
# Who writes a device's state

To the state of the devices the monitor is a queue of deferred writes: a coroutine decides on a
state, waits for the lock and writes later. `step_writes` says what one step is to that queue,
and for each write that joins it which decision was taken in which state. Polls and other
parties write without waiting.
-/
namespace DeviceOrchestrator

open Deferred (State)

namespace Registry

variable {registry after : Registry} {deviceId other : DeviceId}

/-- Whether a device is known. -/
def Knows (registry : Registry) (deviceId : DeviceId) : Prop :=
  ∃ state, registry.stateOf deviceId = some state

/-- A poll forgets no device. -/
theorem Knows.refresh (knows : registry.Knows deviceId) (polled : List Device) :
    (registry.refresh polled).Knows deviceId := by
  obtain ⟨state, found⟩ := knows
  obtain ⟨existing, known, _⟩ := Option.map_eq_some_iff.mp found
  simp only [Knows, stateOf, get_refresh, known]
  cases (discovered polled).get? deviceId with
  | none => exact ⟨_, rfl⟩
  | some found => exact ⟨_, rfl⟩

/-- No other party forgets a device. -/
theorem Knows.change (knows : registry.Knows deviceId) {change : RegistryChange}
    (changed : registry.change change = some after) : after.Knows deviceId := by
  cases change with
  | refresh polled =>
    obtain rfl := Option.some.inj changed
    exact knows.refresh polled
  | lease selector token =>
    simp only [Registry.change] at changed
    split at changed
    · split at changed
      · cases changed
      · obtain rfl := Option.some.inj changed
        exact knows
    · cases changed
  | unlease lease =>
    obtain rfl := Option.some.inj changed
    obtain ⟨state, found⟩ := knows
    exact ⟨state, (stateOf_unlease registry deviceId lease).trans found⟩
  | setState target state note =>
    obtain rfl := Option.some.inj changed
    obtain ⟨old, found⟩ := knows
    by_cases same : deviceId = target
    · exact ⟨state, by simp [stateOf_setState, same, same ▸ found]⟩
    · exact ⟨old, by simp [stateOf_setState, same, found]⟩

/-- A poll and a lease change no state that the health monitor decided, and a release changes
no state at all. -/
theorem held_change {state : DeviceState} (decided : registry.stateOf deviceId = some state)
    (held : state.held = true) {change : RegistryChange}
    (unforced : ∀ target forced note, change ≠ .setState target forced note)
    (changed : registry.change change = some after) : after.stateOf deviceId = some state := by
  cases change with
  | refresh polled =>
    obtain rfl := Option.some.inj changed
    exact stateOf_refresh_held registry deviceId polled decided held
  | lease selector token =>
    simp only [Registry.change] at changed
    split at changed
    · split at changed
      · cases changed
      · obtain rfl := Option.some.inj changed
        exact decided
    · cases changed
  | unlease lease =>
    obtain rfl := Option.some.inj changed
    exact (stateOf_unlease registry deviceId lease).trans decided
  | setState target forced note => exact absurd rfl (unforced target forced note)

end Registry

namespace HealthWorld

/-- The write that the call at an index waits to do. -/
def requestOf (calls : List HealthCall) (index : Nat) : Option (DeviceId × DeviceState) :=
  calls[index]?.bind fun call => call.stage.goal.map (call.deviceId, ·)

/-- The writes that wait for the lock, the next one first. -/
def requests (world : HealthWorld) : List (DeviceId × DeviceState) :=
  world.waiting.filterMap (requestOf world.calls)

/-- The states of the devices with the writes that wait for them. -/
def writes (world : HealthWorld) : State DeviceId DeviceState where
  value := world.registry.stateOf
  pending := world.requests

/-- The calls that wait for the lock are the ones with a write to do, each once. -/
structure Queued (world : HealthWorld) : Prop where
  /-- A waiting call has a write to do. -/
  asks : ∀ index ∈ world.waiting, ∃ request, requestOf world.calls index = some request
  /-- No call waits twice. -/
  once : world.waiting.Nodup

section
variable {world : HealthWorld} {index : Nat} {call : HealthCall}

/-- A waiting call exists. -/
theorem Queued.bound (queued : world.Queued) (waits : index ∈ world.waiting) :
    index < world.calls.length := by
  obtain ⟨request, asks⟩ := queued.asks index waits
  obtain ⟨call, found, _⟩ := Option.bind_eq_some_iff.mp asks
  exact (List.getElem?_eq_some_iff.mp found).1

/-- The request of a known call. -/
theorem requestOf_eq (found : world.calls[index]? = some call) :
    requestOf world.calls index = call.stage.goal.map (call.deviceId, ·) := by
  simp [requestOf, found]

/-- A call without a write to do is not waiting. -/
theorem Queued.idle (queued : world.Queued) (found : world.calls[index]? = some call)
    (idle : call.stage.goal = none) : index ∉ world.waiting := by
  intro waits
  obtain ⟨request, asks⟩ := queued.asks index waits
  rw [requestOf_eq found, idle] at asks
  cases asks

/-- New calls do not change the requests of the waiting ones. -/
theorem requestOf_append {calls more : List HealthCall} (bound : index < calls.length) :
    requestOf (calls ++ more) index = requestOf calls index := by
  simp [requestOf, List.getElem?_append_left bound]

/-- Replacing a call does not change the requests of the others. -/
theorem requestOf_set {calls : List HealthCall} {slot : Nat} (new : HealthCall)
    (other : index ≠ slot) : requestOf (calls.set slot new) index = requestOf calls index := by
  simp [requestOf, List.getElem?_set_ne (Ne.symm other)]

/-- The request of the call that was replaced. -/
theorem requestOf_set_self (found : world.calls[index]? = some call) (new : HealthCall) :
    requestOf (world.calls.set index new) index = new.stage.goal.map (new.deviceId, ·) := by
  obtain ⟨bound, _⟩ := List.getElem?_eq_some_iff.mp found
  simp [requestOf, bound]

/-- Requests depend only on the waiting calls. -/
theorem requests_congr {waiting : List Nat} {calls calls' : List HealthCall}
    (same : ∀ index ∈ waiting, requestOf calls' index = requestOf calls index) :
    waiting.filterMap (requestOf calls') = waiting.filterMap (requestOf calls) :=
  List.filterMap_congr same

/-- More calls change nothing for the queue. -/
theorem Queued.more (queued : world.Queued) {after : HealthWorld} {more : List HealthCall}
    (calls : after.calls = world.calls ++ more) (waiting : after.waiting = world.waiting) :
    after.Queued ∧ after.requests = world.requests := by
  have same : ∀ index ∈ world.waiting,
      requestOf after.calls index = requestOf world.calls index := by
    intro index waits
    rw [calls]
    exact requestOf_append (queued.bound waits)
  refine ⟨⟨?_, waiting ▸ queued.once⟩, ?_⟩
  · rw [waiting]
    intro index waits
    obtain ⟨request, asks⟩ := queued.asks index waits
    exact ⟨request, (same index waits).trans asks⟩
  · rw [requests, waiting]
    exact requests_congr same

/-- `_spawn_recovery` changes nothing for the queue. -/
theorem Queued.spawn (queued : world.Queued) (deviceId : DeviceId) :
    (world.spawn deviceId).Queued ∧ (world.spawn deviceId).requests = world.requests := by
  unfold HealthWorld.spawn
  dsimp only
  split
  · exact ⟨queued, rfl⟩
  · split
    · exact ⟨queued, rfl⟩
    · exact queued.more rfl rfl

/-- A call that does not wait moves on without the lock. -/
theorem Queued.moved (queued : world.Queued) (idle : index ∉ world.waiting) (new : HealthCall)
    {after : HealthWorld} (calls : after.calls = world.calls.set index new)
    (waiting : after.waiting = world.waiting) :
    after.Queued ∧ after.requests = world.requests := by
  have same : ∀ other ∈ world.waiting,
      requestOf after.calls other = requestOf world.calls other := by
    rintro other waits
    rw [calls]
    refine requestOf_set new ?_
    rintro rfl
    exact idle waits
  refine ⟨⟨?_, waiting ▸ queued.once⟩, ?_⟩
  · rw [waiting]
    intro other waits
    obtain ⟨request, asks⟩ := queued.asks other waits
    exact ⟨request, (same other waits).trans asks⟩
  · rw [requests, waiting]
    exact requests_congr same

/-- A call that does not wait asks for the lock. -/
theorem Queued.asked (queued : world.Queued) (idle : index ∉ world.waiting)
    {after : HealthWorld} {request : DeviceId × DeviceState}
    (others : ∀ other ∈ world.waiting,
      requestOf after.calls other = requestOf world.calls other)
    (asks : requestOf after.calls index = some request)
    (waiting : after.waiting = world.waiting ++ [index]) :
    after.Queued ∧ after.requests = world.requests ++ [request] := by
  refine ⟨⟨?_, ?_⟩, ?_⟩
  · rw [waiting]
    intro other waits
    rcases List.mem_append.mp waits with earlier | last
    · obtain ⟨before, asked⟩ := queued.asks other earlier
      exact ⟨before, (others other earlier).trans asked⟩
    · obtain rfl : other = index := by simpa using last
      exact ⟨request, asks⟩
  · rw [waiting]
    refine List.nodup_append.mpr ⟨queued.once, by simp, ?_⟩
    rintro other waits last same rfl
    obtain rfl : other = index := by simpa using same
    exact idle waits
  · rw [requests, waiting, List.filterMap_append, requests_congr others]
    simp [requests, asks]

/-- The first call of the queue gets the lock and does its write. -/
theorem Queued.served (queued : world.Queued) {rest : List Nat}
    (first : world.waiting = index :: rest) (found : world.calls[index]? = some call)
    {after : HealthWorld} (new : HealthCall) (calls : after.calls = world.calls.set index new)
    (waiting : after.waiting = rest) :
    after.Queued ∧ ∃ goal, call.stage.goal = some goal ∧
      world.requests = (call.deviceId, goal) :: after.requests := by
  have once := queued.once
  rw [first] at once
  obtain ⟨gone, once⟩ := List.nodup_cons.mp once
  have same : ∀ other ∈ rest, requestOf after.calls other = requestOf world.calls other := by
    rintro other waits
    rw [calls]
    refine requestOf_set new ?_
    rintro rfl
    exact gone waits
  obtain ⟨request, asks⟩ := queued.asks index (first ▸ List.mem_cons_self)
  have asked := asks
  rw [requestOf_eq found] at asked
  obtain ⟨goal, goals, rfl⟩ := Option.map_eq_some_iff.mp asked
  refine ⟨⟨?_, waiting ▸ once⟩, goal, goals, ?_⟩
  · rw [waiting]
    intro other waits
    obtain ⟨before, asked⟩ := queued.asks other (first ▸ List.mem_cons_of_mem _ waits)
    exact ⟨before, (same other waits).trans asked⟩
  · rw [requests, first, List.filterMap_cons, asks, requests, waiting, requests_congr same]

end

/-- Why a write joins the queue. -/
inductive Why (config : HealthConfig) (world : HealthWorld) (deviceId : DeviceId) :
    HealthAction → DeviceState → Prop
  /-- A good probe found the device QUARANTINED. -/
  | probed (index : Nat) (role : HealthRole)
      (at_ : world.calls[index]? = some ⟨role, deviceId, .probing⟩)
      (state : world.registry.stateOf deviceId = some .quarantined) :
    Why config world deviceId (.resume index (.probed true)) .online
  /-- A probe was good after a reconnect. -/
  | reconnected (index number : Nat) (role : HealthRole)
      (at_ : world.calls[index]? = some ⟨role, deviceId, .reprobing number⟩) :
    Why config world deviceId (.resume index (.probed true)) .online
  /-- The first run of an episode found a virtual slot. -/
  | virtual (index : Nat) (role : HealthRole)
      (at_ : world.calls[index]? = some ⟨role, deviceId, .recovering⟩)
      (slot : world.registry.adbReachable deviceId = false)
      (few : (world.health deviceId).recentRecoveries world.now config.policy.recoveryWindowS <
        config.policy.retireAfterRecoveries) :
    Why config world deviceId (.resume index .run) .online
  /-- A failed probe found the device ONLINE. -/
  | failing (index : Nat) (state : world.registry.stateOf deviceId = some .online) :
    Why config world deviceId (.resume index (.probed false)) .quarantined
  /-- A worker called `quarantine`. -/
  | reported (worker : Nat) (reason : String) :
    Why config world deviceId (.quarantine worker deviceId reason) .quarantined
  /-- The first run of an episode found too many recoveries. -/
  | retires (index : Nat) (role : HealthRole)
      (at_ : world.calls[index]? = some ⟨role, deviceId, .recovering⟩) :
    Why config world deviceId (.resume index .run) .retired

/-- **What one step is to the queue of writes.** -/
inductive Writes (config : HealthConfig) (world : HealthWorld) (action : HealthAction)
    (after : HealthWorld) : Prop
  /-- No state and no waiting write changes. -/
  | still (value : after.registry.stateOf = world.registry.stateOf)
      (pending : after.requests = world.requests)
  /-- A write joins the queue. -/
  | asks (deviceId : DeviceId) (state : DeviceState)
      (why : Why config world deviceId action state)
      (value : after.registry.stateOf = world.registry.stateOf)
      (pending : after.requests = world.requests ++ [(deviceId, state)])
  /-- The next write is done. -/
  | serves (deviceId : DeviceId) (state : DeviceState) (served : action = .write)
      (pending : world.requests = (deviceId, state) :: after.requests)
      (value : after.registry.stateOf =
        State.put world.registry.stateOf deviceId state)
  /-- Another party enters the registry. -/
  | others (change : RegistryChange) (entered : action = .others change)
      (changed : world.registry.change change = some after.registry)
      (pending : after.requests = world.requests)

section
variable {config : HealthConfig} {world after : HealthWorld} {index : Nat} {call : HealthCall}
variable {action : HealthAction} {turn : Turn}

/-- A turn that writes nothing changes no state. -/
theorem stateOf_turn (unwritten : turn.write = none) (registry : Registry)
    (deviceId : DeviceId) :
    (Turn.registry turn registry deviceId).stateOf = registry.stateOf := by
  funext other
  simp only [Turn.registry, unwritten]
  split
  · exact registry.stateOf_countRecovery deviceId other
  · rfl

/-- Carrying out a turn that does not ask for the lock. -/
theorem Queued.apply_free (queued : world.Queued) (found : world.calls[index]? = some call)
    (idle : call.stage.goal = none) (free : turn.lock = false) (unwritten : turn.write = none) :
    (world.apply index call turn).Queued ∧
      (world.apply index call turn).requests = world.requests ∧
      (world.apply index call turn).registry.stateOf = world.registry.stateOf := by
  have settled : (world.settle index call turn).Queued ∧
      (world.settle index call turn).requests = world.requests :=
    queued.moved (queued.idle found idle) { call with stage := turn.stage } rfl
      (by simp [settle, free])
  have states : (world.settle index call turn).registry.stateOf = world.registry.stateOf :=
    stateOf_turn unwritten world.registry call.deviceId
  unfold HealthWorld.apply
  split
  · obtain ⟨spawned, same⟩ := settled.1.spawn call.deviceId
    refine ⟨spawned, same.trans settled.2, ?_⟩
    rw [← states]
    unfold HealthWorld.spawn
    dsimp only
    split
    · rfl
    · split <;> rfl
  · exact ⟨settled.1, settled.2, states⟩

/-- Carrying out a turn that asks for the lock. -/
theorem Queued.apply_lock (queued : world.Queued) (found : world.calls[index]? = some call)
    (idle : call.stage.goal = none) (locks : turn.lock = true) (unwritten : turn.write = none)
    (unspawned : turn.spawn = false) {goal : DeviceState} (goals : turn.stage.goal = some goal) :
    (world.apply index call turn).Queued ∧
      (world.apply index call turn).requests = world.requests ++ [(call.deviceId, goal)] ∧
      (world.apply index call turn).registry.stateOf = world.registry.stateOf := by
  have applied : world.apply index call turn = world.settle index call turn := by
    simp [HealthWorld.apply, unspawned]
  rw [applied]
  have absent := queued.idle found idle
  have others : ∀ other ∈ world.waiting,
      requestOf (world.settle index call turn).calls other = requestOf world.calls other := by
    rintro other waits
    refine requestOf_set _ ?_
    rintro rfl
    exact absent waits
  have asks : requestOf (world.settle index call turn).calls index =
      some (call.deviceId, goal) := by
    refine (requestOf_set_self found _).trans ?_
    simp [goals]
  obtain ⟨later, pending⟩ := queued.asked absent others asks (by simp [settle, locks])
  exact ⟨later, pending, stateOf_turn unwritten world.registry call.deviceId⟩

/-- A coroutine resumes. -/
theorem Queued.resume (queued : world.Queued) (found : world.calls[index]? = some call)
    {answer : HealthAnswer} (taken : world.turn config call answer = some turn) :
    (world.apply index call turn).Queued ∧
      Writes config world (.resume index answer) (world.apply index call turn) := by
  obtain ⟨_, idle⟩ := turn_live taken
  have free : turn.lock = false → turn.write = none →
      (world.apply index call turn).Queued ∧
        Writes config world (.resume index answer) (world.apply index call turn) := by
    intro lock unwritten
    obtain ⟨later, pending, value⟩ := queued.apply_free found idle lock unwritten
    exact ⟨later, .still value pending⟩
  have locked : ∀ {goal}, turn.lock = true → turn.write = none → turn.spawn = false →
      turn.stage.goal = some goal → Why config world call.deviceId (.resume index answer) goal →
      (world.apply index call turn).Queued ∧
        Writes config world (.resume index answer) (world.apply index call turn) := by
    intro goal lock unwritten unspawned goals why
    obtain ⟨later, pending, value⟩ :=
      queued.apply_lock found idle lock unwritten unspawned goals
    exact ⟨later, .asks call.deviceId goal why value pending⟩
  have at_stage : ∀ {stage}, call.stage = stage →
      world.calls[index]? = some ⟨call.role, call.deviceId, stage⟩ := by
    rintro stage rfl
    exact found
  cases turn_cases taken with
  | onward fits passive work => exact free passive.lock passive.write
  | begun at_ asked few adb fits passive => exact free passive.lock passive.write
  | retired at_ stage passive => exact free passive.lock passive.write
  | quarantined at_ turned =>
    subst turned
    exact free rfl rfl
  | spawns at_ asked state turned =>
    subst turned
    exact free rfl rfl
  | restores at_ asked state turned =>
    subst turned asked
    exact locked rfl rfl rfl rfl (.probed index call.role (at_stage at_) state)
  | marks at_ asked state turned =>
    subst turned asked
    exact locked rfl rfl rfl rfl (.failing index state)
  | retires at_ asked many turned =>
    subst turned asked
    exact locked rfl rfl rfl rfl (.retires index call.role (at_stage at_))
  | virtual at_ asked few slot turned =>
    subst turned asked
    exact locked rfl rfl rfl rfl (.virtual index call.role (at_stage at_) slot few)
  | reconnects number at_ asked turned =>
    subst turned asked
    exact locked rfl rfl rfl rfl (.reconnected index number call.role (at_stage at_))

/-- What a `set_state` writes is what its call was waiting to write. -/
theorem written_cases (done : written config call = some turn) :
    ∃ goal note, call.stage.goal = some goal ∧ turn.write = some (goal, note) ∧
      turn.lock = false ∧ turn.spawn = false ∧ turn.counted = false ∧
      turn.stage.goal = none ∧ turn.stage.over = false := by
  unfold written at done
  split at done
  · rename_i path at_
    obtain rfl := Option.some.inj done
    exact ⟨.online, path.reason, by rw [at_]; rfl, rfl, rfl, rfl, rfl, rfl, rfl⟩
  · rename_i reason at_
    obtain rfl := Option.some.inj done
    exact ⟨.quarantined, reason, by rw [at_]; rfl, rfl, rfl, rfl, rfl, rfl, rfl⟩
  · rename_i at_
    obtain rfl := Option.some.inj done
    exact ⟨.retired, _, by rw [at_]; rfl, rfl, rfl, rfl, rfl, rfl, rfl⟩
  · cases done

/-- The first call of the queue gets the lock. -/
theorem Queued.write (queued : world.Queued) {rest : List Nat}
    (first : world.waiting = index :: rest) (found : world.calls[index]? = some call)
    (done : written config call = some turn) :
    ({ world with waiting := rest }.apply index call turn).Queued ∧
      Writes config world .write ({ world with waiting := rest }.apply index call turn) := by
  obtain ⟨goal, note, goals, writes, lock, spawn, counted, _, _⟩ := written_cases done
  have applied : { world with waiting := rest }.apply index call turn =
      { world with waiting := rest }.settle index call turn := by
    simp [HealthWorld.apply, spawn]
  rw [applied]
  obtain ⟨later, goal', goals', pending⟩ :=
    queued.served first found { call with stage := turn.stage }
      (by rfl : ({ world with waiting := rest }.settle index call turn).calls = _)
      (by simp [settle, lock])
  obtain rfl : goal' = goal := Option.some.inj (goals'.symm.trans goals)
  refine ⟨later, .serves call.deviceId goal' rfl pending ?_⟩
  funext other
  simp [settle, Turn.registry, writes, counted, Registry.stateOf_setState, State.put]

/-- **Every step is one of these to the queue of writes.** -/
theorem step_writes (queued : world.Queued) (taken : step config world action = some after) :
    after.Queued ∧ Writes config world action after := by
  cases stepped taken with
  | sweeps =>
    obtain ⟨later, pending⟩ :=
      queued.more (by rfl : HealthWorld.calls { world with
        calls := world.calls ++ swept world.registry } = _) rfl
    exact ⟨later, .still rfl pending⟩
  | reports worker deviceId reason =>
    have absent : world.calls.length ∉ world.waiting := fun waits =>
      Nat.lt_irrefl _ (queued.bound waits)
    generalize asked : ({ world with
      calls := world.calls ++ [⟨.report worker, deviceId, .marking reason⟩]
      waiting := world.waiting ++ [world.calls.length] } : HealthWorld) = after
    have calls : after.calls = world.calls ++ [⟨.report worker, deviceId, .marking reason⟩] := by
      rw [← asked]
    have others : ∀ other ∈ world.waiting,
        requestOf after.calls other = requestOf world.calls other := by
      intro other waits
      rw [calls]
      exact requestOf_append (queued.bound waits)
    have asks : requestOf after.calls world.calls.length = some (deviceId, .quarantined) := by
      simp [calls, requestOf, Stage.goal]
    obtain ⟨later, pending⟩ := queued.asked absent others asks (by rw [← asked])
    have value : after.registry.stateOf = world.registry.stateOf := by rw [← asked]
    exact ⟨later, .asks deviceId .quarantined (.reported worker reason) value pending⟩
  | resumes found turns => exact queued.resume found turns
  | writes first found done => exact queued.write first found done
  | @collects index deviceId stage found ended uncleared =>
    obtain ⟨later, pending⟩ := queued.moved (queued.idle found (Stage.goal_of_over ended))
      ⟨.episode, deviceId, .cleared⟩
      (by rfl : HealthWorld.calls { world with
        calls := world.calls.set index ⟨.episode, deviceId, .cleared⟩
        recoveries := Function.update world.recoveries deviceId none } = _) rfl
    exact ⟨later, .still rfl pending⟩
  | ticks forward => exact ⟨⟨queued.asks, queued.once⟩, .still rfl rfl⟩
  | @changes change registry changed =>
    exact ⟨⟨queued.asks, queued.once⟩, .others change rfl changed rfl⟩

/-- **What one step is to the calls that wait for the lock.** -/
inductive Waits (world : HealthWorld) (action : HealthAction) (after : HealthWorld) : Prop
  /-- The same calls wait. -/
  | same (waiting : after.waiting = world.waiting)
      (calls : ∀ index ∈ world.waiting, after.calls[index]? = world.calls[index]?)
  /-- A call joins the queue. -/
  | joins (index : Nat) (waiting : after.waiting = world.waiting ++ [index])
      (calls : ∀ index ∈ world.waiting, after.calls[index]? = world.calls[index]?)
  /-- The first call leaves the queue. -/
  | serves (index : Nat) (served : action = .write)
      (waiting : world.waiting = index :: after.waiting)
      (calls : ∀ index ∈ after.waiting, after.calls[index]? = world.calls[index]?)

/-- No step forgets a device. -/
theorem knows_step {deviceId : DeviceId} (knows : world.registry.Knows deviceId)
    (taken : step config world action = some after) : after.registry.Knows deviceId := by
  cases stepped taken with
  | sweeps | reports | collects | ticks => exact knows
  | @resumes index call answer turn found turns =>
    obtain ⟨-, -, registry, -⟩ := apply_frame world index call turn
    obtain ⟨state, known⟩ := knows
    refine ⟨state, ?_⟩
    rw [registry]
    exact (congrFun (stateOf_turn (turn_cases turns).unwritten world.registry call.deviceId)
      deviceId).trans known
  | @writes index rest call turn first found done =>
    obtain ⟨goal, note, -, writes, -, -, counted, -⟩ := written_cases done
    obtain ⟨-, -, registry, -⟩ := apply_frame { world with waiting := rest } index call turn
    have put : world.registry.change (.setState call.deviceId goal note) =
        some ({ world with waiting := rest }.apply index call turn).registry := by
      rw [registry]
      simp [settle, Turn.registry, writes, counted, Registry.change]
    exact knows.change put
  | changes changed => exact knows.change changed

/-- Carrying out a turn changes no other call. -/
theorem calls_apply_other {other : Nat} (bound : other < world.calls.length)
    (apart : other ≠ index) :
    (world.apply index call turn).calls[other]? = world.calls[other]? := by
  rcases calls_apply world index call turn with same | more
  · rw [same, List.getElem?_set_ne (Ne.symm apart)]
  · rw [more, List.getElem?_append_left (by simpa using bound),
      List.getElem?_set_ne (Ne.symm apart)]

/-- **Every step keeps the order of the calls that wait.** -/
theorem step_waits (queued : world.Queued) (taken : step config world action = some after) :
    Waits world action after := by
  have appended : ∀ more : List HealthCall, ∀ index ∈ world.waiting,
      (world.calls ++ more)[index]? = world.calls[index]? := fun more index waits =>
    List.getElem?_append_left (queued.bound waits)
  cases stepped taken with
  | sweeps => exact .same rfl (appended _)
  | reports worker deviceId reason => exact .joins world.calls.length rfl (appended _)
  | @resumes index call answer turn found turns =>
    have idle := queued.idle found (turn_live turns).2
    obtain ⟨_, _, _, waiting⟩ := apply_frame world index call turn
    have calls : ∀ other ∈ world.waiting,
        (world.apply index call turn).calls[other]? = world.calls[other]? := by
      intro other waits
      refine calls_apply_other (queued.bound waits) ?_
      rintro rfl
      exact idle waits
    cases lock : turn.lock with
    | true => exact .joins index (waiting.trans (by simp [settle, lock])) calls
    | false => exact .same (waiting.trans (by simp [settle, lock])) calls
  | @writes index rest call turn first found done =>
    obtain ⟨_, _, _, _, lock, _⟩ := written_cases done
    obtain ⟨_, _, _, waiting⟩ := apply_frame { world with waiting := rest } index call turn
    have waiting : ({ world with waiting := rest }.apply index call turn).waiting = rest :=
      waiting.trans (by simp [settle, lock])
    have once := queued.once
    rw [first] at once
    have gone := (List.nodup_cons.mp once).1
    refine .serves index rfl (by rw [first, waiting]) fun other waits => ?_
    rw [waiting] at waits
    have bound : other < world.calls.length :=
      queued.bound (first ▸ List.mem_cons_of_mem _ waits)
    have apart : other ≠ index := by
      rintro rfl
      exact gone waits
    exact calls_apply_other (by exact bound) apart
  | @collects index deviceId stage found ended uncleared =>
    refine .same rfl fun other waits => List.getElem?_set_ne ?_
    rintro rfl
    exact queued.idle found (Stage.goal_of_over ended) waits
  | ticks forward => exact .same rfl fun _ _ => rfl
  | changes changed => exact .same rfl fun _ _ => rfl

end

end HealthWorld

end DeviceOrchestrator
