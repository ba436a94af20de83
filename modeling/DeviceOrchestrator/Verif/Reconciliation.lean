import DeviceOrchestrator.Core.Inventory
import DeviceOrchestrator.Verif.Exclusive

/-!
# Polls and health decisions

A call of `refresh` polls first and takes the lock later, so what the health monitor decides in
between is in the registry by the time the poll is applied. `Reconciled` is what applying a poll
may do to a registry; `Bench` runs put it between any calls of the registry and any count of a
recovery, which the monitor writes without the lock.
-/
namespace DeviceOrchestrator

namespace Registry

/-- The last listing of a device in a poll. -/
def lastListing (polled : List Device) (deviceId : DeviceId) : Option Device :=
  polled.reverse.find? fun device => device.id = deviceId

/-- **What a poll does to the registry it is applied to.** -/
structure Reconciled (polled : List Device) (before after : Registry) : Prop where
  /-- No device is removed, and no recovery count or note changes. -/
  kept : ∀ deviceId device, before.get deviceId = some device →
    ∃ later, after.get deviceId = some later ∧ later.recoveries = device.recoveries ∧
      later.note = device.note
  /-- A quarantine and a retirement stand. -/
  decided : ∀ deviceId state, before.stateOf deviceId = some state →
    state = .quarantined ∨ state = .retired → after.stateOf deviceId = some state
  /-- Any other known device takes the state of its last listing. -/
  listed : ∀ deviceId state found, before.stateOf deviceId = some state →
    state ≠ .quarantined → state ≠ .retired → lastListing polled deviceId = some found →
    after.stateOf deviceId = some found.state
  /-- One that is not listed goes from ONLINE to OFFLINE. -/
  vanished : ∀ deviceId, before.stateOf deviceId = some .online →
    lastListing polled deviceId = none → after.stateOf deviceId = some .offline
  /-- One that is not listed stays in any other state. -/
  unlisted : ∀ deviceId state, before.stateOf deviceId = some state → state ≠ .online →
    lastListing polled deviceId = none → after.stateOf deviceId = some state
  /-- A new device enters as it was listed last. -/
  entered : ∀ deviceId, before.get deviceId = none →
    after.get deviceId = lastListing polled deviceId
  /-- No lease changes. -/
  leases : after.leases = before.leases

/-- The dict of a poll holds the last listing of each device. -/
theorem get?_discovered (polled : List Device) (deviceId : DeviceId) :
    (discovered polled).get? deviceId = lastListing polled deviceId :=
  Keyed.get?_collect polled deviceId

section
variable (registry : Registry) (polled : List Device) {deviceId : DeviceId} {device : Device}

/-- A known device after a poll that lists it. -/
theorem get_refresh_listed {found : Device} (known : registry.get deviceId = some device)
    (listed : lastListing polled deviceId = some found) :
    (registry.refresh polled).get deviceId = some (device.reconcile found) := by
  rw [get_refresh, get?_discovered, listed, known]

/-- A known device after a poll that does not list it. -/
theorem get_refresh_unlisted (known : registry.get deviceId = some device)
    (unlisted : lastListing polled deviceId = none) :
    (registry.refresh polled).get deviceId =
      some (if device.state = .online then { device with state := .offline } else device) := by
  rw [get_refresh, get?_discovered, unlisted, known]

/-- **A poll reconciles the registry.** -/
theorem refresh_reconciled : Reconciled polled registry (registry.refresh polled) where
  kept deviceId device known := by
    cases listed : lastListing polled deviceId with
    | some found =>
      exact ⟨_, registry.get_refresh_listed polled known listed, rfl, rfl⟩
    | none =>
      refine ⟨_, registry.get_refresh_unlisted polled known listed, ?_, ?_⟩
      · split <;> rfl
      · split <;> rfl
  decided deviceId state found health := by
    apply registry.stateOf_refresh_held deviceId polled found
    rcases health with rfl | rfl <;> rfl
  listed deviceId state found before quarantined retired listed := by
    obtain ⟨device, known, rfl⟩ := Option.map_eq_some_iff.mp before
    have free : device.state.held = false := by
      cases state : device.state <;> simp_all [DeviceState.held]
    have later := registry.get_refresh_listed polled known listed
    simp [stateOf, later, Device.reconcile, free]
  vanished deviceId before unlisted := by
    obtain ⟨device, known, online⟩ := Option.map_eq_some_iff.mp before
    have later := registry.get_refresh_unlisted polled known unlisted
    simp [stateOf, later, online]
  unlisted deviceId state before other unlisted := by
    obtain ⟨device, known, rfl⟩ := Option.map_eq_some_iff.mp before
    have later := registry.get_refresh_unlisted polled known unlisted
    simp [stateOf, later, other]
  entered deviceId unknown := by
    rw [get_refresh, get?_discovered, unknown]
    cases lastListing polled deviceId <;> rfl
  leases := rfl

end

end Registry

/-- The poll that a `refresh` has yet to apply. -/
def Call.pending? : Call → Option (List Device)
  | .refreshing polled => some polled
  | _ => none

@[simp]
theorem Call.pending?_notify (call : Call) : call.notify.pending? = call.pending? := by
  cases call <;> rfl

/-- A step of a call of the registry, or of the monitor beside it. -/
inductive BenchAction
  /-- A step of a call. -/
  | call (action : RegistryAction)
  /-- `device.recoveries += 1`. -/
  | countRecovery (deviceId : DeviceId)

namespace RegistryWorld

open Transition

/-- One step. -/
def benchStep (world : RegistryWorld) : BenchAction → Option RegistryWorld
  | .call action => world.step action
  | .countRecovery deviceId => some (world.withRegistry (world.registry.countRecovery deviceId))

/-- A step of `refresh` without the lock: it is called, or its poll answers or raises. -/
def Polling : BenchAction → Prop
  | .call .refresh | .call (.polled _ _) | .call (.pollRaised _) => True
  | _ => False

/-- A `refresh` that has polled gets the lock. -/
def Applies (polled : List Device) (taken : Taken RegistryWorld BenchAction) : Prop :=
  ∃ index token outOfTime, taken.action = .call (.enter index token outOfTime) ∧
    taken.before.calls[index]? = some (.refreshing polled)

/-- A poll answers. -/
def Answers (polled : List Device) (taken : Taken RegistryWorld BenchAction) : Prop :=
  ∃ index, taken.action = .call (.polled index polled)

section
variable {world after : RegistryWorld} {action : BenchAction}

/-- The steps of `refresh` before it has the lock change nothing in the registry. -/
theorem registry_polling (polling : Polling action) (taken : world.benchStep action = some after) :
    after.registry = world.registry := by
  cases action with
  | countRecovery deviceId => cases polling
  | call action =>
    cases action with
    | refresh =>
      obtain rfl := Option.some.inj taken
      rfl
    | polled index devices =>
      simp only [benchStep, step] at taken
      split at taken
      · obtain rfl := Option.some.inj taken
        rfl
      · cases taken
    | pollRaised index =>
      simp only [benchStep, step] at taken
      split at taken
      · obtain rfl := Option.some.inj taken
        rfl
      · cases taken
    | _ => cases polling

/-- A `refresh` with the lock applies its poll. -/
theorem registry_applied {polled : List Device} (applies : Applies polled ⟨world, action, after⟩)
    (taken : world.benchStep action = some after) :
    after.registry = world.registry.refresh polled := by
  obtain ⟨index, token, outOfTime, rfl, found⟩ := applies
  have found : world.calls[index]? = some (.refreshing polled) := found
  simp only [benchStep, step, found] at taken
  split at taken
  · cases taken
  · obtain rfl := Option.some.inj taken
    rfl

/-- The poll that the call at an index has yet to apply. -/
def pendingOf (world : RegistryWorld) : Nat → Option (List Device) := world.seen Call.pending?

/-- A call that starts has not polled. -/
theorem pendingOf_start {call : Call} (new : call.pending? = none) :
    (world.start call).pendingOf = world.pendingOf :=
  seen_start_none new

/-- Notifying changes no poll. -/
theorem pendingOf_notifyAll : world.notifyAll.pendingOf = world.pendingOf :=
  seen_notifyAll Call.pending?_notify

/-- What `acquire` does in one turn has nothing to do with polls. -/
theorem pendingOf_look {index other : Nat} {old : Call} {selector : DeviceSelector} {timed : Bool}
    {token : Nat} {outOfTime : Bool} {polled : List Device}
    (found : world.calls[index]? = some old)
    (pending : (world.look index selector timed token outOfTime).pendingOf other = some polled) :
    world.pendingOf other = some polled := by
  unfold look at pending
  split at pending
  · exact seen_set_none found (by rfl) rfl pending
  · exact seen_set_none found (by rfl) rfl pending
  · split at pending
    · exact seen_set_none found (by rfl) rfl pending
    · split at pending
      · exact seen_set_none found (by rfl) rfl pending
      · exact seen_set_none found (by rfl) rfl pending

/-- What `set_state` does with the lock has nothing to do with polls. -/
theorem pendingOf_force (deviceId : DeviceId) (state : DeviceState) (note : String) :
    (world.force deviceId state note).pendingOf = world.pendingOf := by
  unfold force
  split
  · rfl
  · split
    · rfl
    · exact pendingOf_notifyAll

/-- A call keeps its place under `set_state`. -/
theorem calls_force {index : Nat} {call : Call} (found : world.calls[index]? = some call)
    (deviceId : DeviceId) (state : DeviceState) (note : String) :
    ∃ same, (world.force deviceId state note).calls[index]? = some same := by
  obtain ⟨-, -, -, same | notified⟩ := world.force_frame deviceId state note
  · exact ⟨call, by rw [same, found]⟩
  · exact ⟨call.notify, by rw [notified, calls_notifyAll found]⟩

/-- **Only a poll that answers gives a `refresh` something to apply.** -/
theorem pendingOf_step {index : Nat} {polled : List Device}
    (taken : world.benchStep action = some after)
    (pending : after.pendingOf index = some polled) :
    world.pendingOf index = some polled ∨ action = .call (.polled index polled) := by
  cases action with
  | countRecovery deviceId =>
    obtain rfl := Option.some.inj taken
    exact .inl pending
  | call action =>
    cases action with
    | refresh | acquire selector timed | setState deviceId state note =>
      obtain rfl := Option.some.inj taken
      left
      rwa [pendingOf_start rfl] at pending
    | polled slot devices =>
      simp only [benchStep, step] at taken
      split at taken
      · rename_i found
        obtain rfl := Option.some.inj taken
        have view : pendingOf { world with calls := world.calls.set slot (.refreshing devices) } =
            Function.update world.pendingOf slot (Call.refreshing devices).pending? :=
          seen_set found (by rfl)
        rw [view] at pending
        by_cases here : index = slot
        · subst here
          right
          have same : devices = polled := by simpa [Call.pending?] using pending
          rw [same]
        · left
          simpa [here] using pending
      · cases taken
    | pollRaised slot =>
      simp only [benchStep, step] at taken
      split at taken
      · rename_i found
        obtain rfl := Option.some.inj taken
        exact .inl (seen_set_none found (by rfl) rfl pending)
      · cases taken
    | release slot =>
      simp only [benchStep, step] at taken
      split at taken
      · split at taken
        · obtain rfl := Option.some.inj taken
          left
          rwa [pendingOf_start rfl] at pending
        · obtain rfl := Option.some.inj taken
          left
          rwa [pendingOf_start rfl] at pending
      · cases taken
    | enter slot token outOfTime =>
      left
      simp only [benchStep, step] at taken
      split at taken
      · cases taken
      · split at taken
        · rename_i found
          obtain rfl := Option.some.inj taken
          have before := seen_set_none (calls_notifyAll found) (by rfl) rfl pending
          exact pendingOf_notifyAll ▸ before
        · rename_i found
          obtain rfl := Option.some.inj taken
          exact pendingOf_look found pending
        · rename_i found
          split at taken
          · obtain rfl := Option.some.inj taken
            exact seen_set_none found (by rfl) rfl pending
          · obtain rfl := Option.some.inj taken
            exact pendingOf_look found pending
        · rename_i found
          obtain rfl := Option.some.inj taken
          have before := seen_set_none (calls_notifyAll found) (by rfl) rfl pending
          exact pendingOf_notifyAll ▸ before
        · rename_i deviceId state note found
          obtain rfl := Option.some.inj taken
          obtain ⟨same, kept⟩ := calls_force found deviceId state note
          have before := seen_set_none kept (by rfl) rfl pending
          exact pendingOf_force deviceId state note ▸ before
        · cases taken
    | timeout slot =>
      simp only [benchStep, step] at taken
      split at taken
      · cases taken
      · split at taken
        · rename_i found
          obtain rfl := Option.some.inj taken
          exact .inl (seen_set_none found (by rfl) rfl pending)
        · cases taken
    | resume slot token outOfTime =>
      left
      simp only [benchStep, step] at taken
      split at taken
      · rename_i found
        obtain rfl := Option.some.inj taken
        exact seen_set_none found (by rfl) rfl pending
      · rename_i found
        obtain rfl := Option.some.inj taken
        exact pendingOf_look found pending
      · rename_i found
        obtain rfl := Option.some.inj taken
        exact seen_set_none found (by rfl) rfl pending
      · cases taken

/-- What waits to be applied was polled. -/
theorem pendingOf_answered {registry : Registry} {allowed : RegistryWorld → BenchAction → Prop}
    {past : List (Taken RegistryWorld BenchAction)}
    (history : History benchStep allowed { registry := registry } past world) {index : Nat}
    {polled : List Device} (pending : world.pendingOf index = some polled) :
    ∃ answered ∈ past, Answers polled answered := by
  induction history with
  | refl => simp [pendingOf, seen] at pending
  | next earlier may taken ih =>
    rcases pendingOf_step taken pending with before | answered
    · obtain ⟨step, member, answers⟩ := ih before
      exact ⟨step, List.mem_cons_of_mem _ member, answers⟩
    · exact ⟨_, List.mem_cons_self, index, answered⟩

/-- **`refresh` reconciles without overruling health.** In every run of calls of the registry
with recoveries counted beside them, `refresh` changes nothing before it has the lock, and with
the lock it applies a poll that answered earlier: no device is removed, a quarantine or a
retirement that stands by then stays, recoveries, notes and leases are left alone, every other
known device is in the state of its last listing, OFFLINE where it was ONLINE and is not listed
and as it was otherwise, and a new device enters as listed. -/
theorem refresh_reconciles {registry : Registry} {allowed : RegistryWorld → BenchAction → Prop}
    {past : List (Taken RegistryWorld BenchAction)}
    (history : History benchStep allowed { registry := registry } past world) :
    Throughout (fun earlier taken =>
      (Polling taken.action → taken.after.registry = taken.before.registry) ∧
      ∀ polled, Applies polled taken →
        (∃ answered ∈ earlier, Answers polled answered) ∧
        Registry.Reconciled polled taken.before.registry taken.after.registry) past := by
  induction history with
  | refl => exact trivial
  | next earlier may taken ih =>
    refine ⟨⟨fun polling => registry_polling polling taken, fun polled applies => ?_⟩, ih⟩
    constructor
    · obtain ⟨index, token, outOfTime, _, found⟩ := applies
      exact pendingOf_answered earlier (seen_eq found)
    · have applied := registry_applied applies taken
      show Registry.Reconciled polled _ _
      rw [applied]
      exact Registry.refresh_reconciled _ polled

/-- Two polls answer before the monitor quarantines a phone, and are applied after it. -/
def overtaken : List BenchAction :=
  [.call .refresh, .call (.polled 0 [{ id := "phone-a", state := .offline }, { id := "phone-a" }]),
    .call (.enter 0 0 false), .call .refresh, .call (.polled 1 [{ id := "phone-a" }]),
    .call .refresh, .call (.polled 2 []), .countRecovery "phone-a",
    .call (.setState "phone-a" .quarantined "3 failed probes"), .call (.enter 3 0 false),
    .call (.enter 1 0 false), .call (.enter 2 0 false)]

/-- The quarantine stands after both. -/
theorem refresh_reconciles_overtaken : ∃ past world,
    (world : RegistryWorld).registry.get "phone-a" = some { id := "phone-a"
                                                            state := .quarantined
                                                            recoveries := 1
                                                            note := "3 failed probes" } ∧
    Throughout (fun earlier taken =>
      (Polling taken.action → taken.after.registry = taken.before.registry) ∧
      ∀ polled, Applies polled taken →
        (∃ answered ∈ earlier, Answers polled answered) ∧
        Registry.Reconciled polled taken.before.registry taken.after.registry) past := by
  have passed : (trace (guarded benchStep fun _ _ => True) [] {} overtaken).any (fun reached =>
      decide (reached.2.registry.get "phone-a" = some ⟨"phone-a", "usb", .quarantined, "", [], 1,
        "3 failed probes"⟩)) = true := by
    decide +kernel
  obtain ⟨past, world, history, shown⟩ := traces passed
  exact ⟨past, world, of_decide_eq_true shown, refresh_reconciles history⟩

end

end RegistryWorld

/-! ## A poll that fails -/

/-- `adb devices` failed: adb could not be called, exited with an error or ran out of time. -/
def PollFailed (answer : Except Raised AdbResult) : Prop :=
  ∀ result, answer = .ok result → result.ok = false

/-- adb could not be called. -/
def PollRaised (answer : Except Raised AdbResult) : Prop :=
  ∀ result, answer ≠ .ok result

/-- A call that raised failed. -/
theorem PollRaised.failed {answer : Except Raised AdbResult} (raises : PollRaised answer) :
    PollFailed answer :=
  fun result answered => absurd answered (raises result)

/-- No device is added or removed, and none changes its state, its tags or its lease. -/
def Registry.Undisturbed (before after : Registry) : Prop :=
  ∀ deviceId,
    (after.get deviceId).map (fun device => (device.state, device.tags)) =
      (before.get deviceId).map (fun device => (device.state, device.tags)) ∧
    after.leases deviceId = before.leases deviceId

namespace Registry

variable (registry : Registry) (source : AdbDeviceSource)

/-- A poll that raised is not applied. -/
theorem refreshFrom_raised {answer : Except Raised AdbResult} (raises : PollRaised answer) :
    registry.refreshFrom source answer = registry := by
  cases answer with
  | error raised => rfl
  | ok result => exact absurd rfl (raises result)

/-- A call that adb made without success is an empty inventory. -/
theorem refreshFrom_unsuccessful {result : AdbResult} (failed : result.ok = false) :
    registry.refreshFrom source (.ok result) = registry.refresh [] := by
  have polled : source.poll (.ok result) = .ok [] := by
    show (adbDevices (.ok result)).bind _ = _
    have empty : adbDevices (.ok result) = .ok [] := by
      show (if !result.ok then _ else _) = _
      rw [failed]
      rfl
    rw [empty]
    rfl
  rw [refreshFrom, polled]

/-- An empty inventory takes every ONLINE device out and changes nothing else. -/
theorem get_refresh_nil (deviceId : DeviceId) :
    (registry.refresh []).get deviceId = (registry.get deviceId).map fun device =>
      if device.state = .online then { device with state := .offline } else device := by
  rw [get_refresh]
  have unlisted : (discovered []).get? deviceId = none := rfl
  rw [unlisted]
  cases registry.get deviceId <;> rfl

/-- **When a failed poll changes nothing.** Exactly when adb could not be called or no device is
ONLINE as the poll is applied. -/
theorem failed_poll_undisturbed_iff {answer : Except Raised AdbResult}
    (failed : PollFailed answer) :
    registry.Undisturbed (registry.refreshFrom source answer) ↔
      PollRaised answer ∨ ∀ deviceId, registry.stateOf deviceId ≠ some .online := by
  cases answer with
  | error raised =>
    have raises : PollRaised (.error raised) := fun result same => by cases same
    rw [registry.refreshFrom_raised source raises]
    exact ⟨fun _ => .inl raises, fun _ deviceId => ⟨rfl, rfl⟩⟩
  | ok result =>
    rw [registry.refreshFrom_unsuccessful source (failed result rfl)]
    constructor
    · intro undisturbed
      right
      intro deviceId online
      obtain ⟨device, known, state⟩ := Option.map_eq_some_iff.mp online
      have same := (undisturbed deviceId).1
      rw [get_refresh_nil, known] at same
      simp [state] at same
    · rintro (raises | unserving)
      · exact absurd rfl (raises result)
      · intro deviceId
        refine ⟨?_, rfl⟩
        rw [get_refresh_nil]
        cases known : registry.get deviceId with
        | none => rfl
        | some device =>
          have other : device.state ≠ .online := by
            intro online
            apply unserving deviceId
            rw [stateOf, known, Option.map_some, online]
          simp [other]

/-- What a first poll of one phone leaves. -/
def benchOfOne : Registry :=
  ({} : Registry).refreshFrom {}
    (.ok { returncode := 0, stdout := "List of devices attached\nR9WABC123 device\n" })

/-- adb is missing: the phone stays ONLINE. -/
theorem failed_poll_undisturbed_missing :
    PollFailed (.error (.adbNotAvailable "adb is not on PATH")) ∧
      benchOfOne.Undisturbed
        (benchOfOne.refreshFrom {} (.error (.adbNotAvailable "adb is not on PATH"))) := by
  have raises : PollRaised (.error (.adbNotAvailable "adb is not on PATH")) :=
    fun result same => by cases same
  exact ⟨raises.failed,
    (benchOfOne.failed_poll_undisturbed_iff {} raises.failed).mpr (.inl raises)⟩

/-- adb does not answer in time, or exits with an error: the phone goes OFFLINE. -/
theorem failed_poll_disturbs :
    benchOfOne.stateOf "R9WABC123" = some .online ∧
      ∀ result ∈ [(⟨-1, "", "timeout", true⟩ : AdbResult),
          ⟨1, "", "error: protocol fault (couldn't read status): connection reset", false⟩],
        PollFailed (.ok result) ∧
          (benchOfOne.refreshFrom {} (.ok result)).stateOf "R9WABC123" = some .offline ∧
          ¬ benchOfOne.Undisturbed (benchOfOne.refreshFrom {} (.ok result)) := by
  have online : benchOfOne.stateOf "R9WABC123" = some .online := by decide +kernel
  refine ⟨online, fun result member => ?_⟩
  have failed : result.ok = false := by
    revert result
    decide
  have offline : (benchOfOne.refresh []).stateOf "R9WABC123" = some .offline := by
    decide +kernel
  rw [refreshFrom_unsuccessful _ _ failed]
  refine ⟨fun other same => by cases same; exact failed, offline, fun undisturbed => ?_⟩
  have same := congrArg (Option.map Prod.fst) (undisturbed "R9WABC123").1
  simp only [Option.map_map] at same
  have stated : (benchOfOne.refresh []).stateOf "R9WABC123" = benchOfOne.stateOf "R9WABC123" :=
    same
  rw [online, offline] at stated
  cases stated

end Registry

end DeviceOrchestrator
