import DeviceOrchestrator.Lib.Monitor
import DeviceOrchestrator.Verif.Exclusive

/-!
# No missed wake-up

The registry is a monitor: its state is under the lock, and an `acquire` that looked in vain
sleeps on its selector. From the moment it looked it counts as asleep, though it holds the lock
until it waits, so the argument needs that one call at a time holds the lock (`Locked`). Every
step is then a move of that monitor.
-/
namespace DeviceOrchestrator

/-- Some device is ONLINE, unleased and matches. -/
def Registry.Available (registry : Registry) (selector : DeviceSelector) : Prop :=
  ∃ device ∈ registry.devices.items, device.state = .online ∧
    registry.leases device.id = none ∧ device.matches selector = .ok true

/-- A search that finds nothing leaves nothing available. -/
theorem Registry.findFreeIn_none {leases : DeviceId → Option Lease} {selector : DeviceSelector} :
    ∀ {devices : List Device}, findFreeIn leases selector devices = .ok none →
      ∀ device ∈ devices, device.state = .online → leases device.id = none →
        device.matches selector ≠ .ok true
  | [], _, _, member => by cases member
  | first :: rest, nothing, device, member => by
    intro online unleased matched
    unfold findFreeIn at nothing
    have later : findFreeIn leases selector rest = .ok none → device ∈ rest → False :=
      fun nothing member => findFreeIn_none nothing device member online unleased matched
    rcases List.mem_cons.mp member with rfl | member
    · simp [unleased, online, DeviceState.assignable, matched] at nothing
    · split at nothing
      · exact later nothing member
      · split at nothing
        · exact later nothing member
        · split at nothing
          · cases nothing
          · cases nothing
          · exact later nothing member

/-- `_find_free` finds what is available. -/
theorem Registry.findFree_none {registry : Registry} {selector : DeviceSelector}
    (nothing : registry.findFree selector = .ok none) : ¬ registry.Available selector := by
  rintro ⟨device, member, online, unleased, matched⟩
  exact findFreeIn_none nothing device member online unleased matched

/-- A lease makes nothing available. -/
theorem Registry.Available.of_grant {registry : Registry} {lease : Lease}
    {selector : DeviceSelector} (available : (registry.grant lease).Available selector) :
    registry.Available selector := by
  obtain ⟨device, member, online, unleased, matched⟩ := available
  have elsewhere : device.id ≠ lease.deviceId := by
    intro same
    simp [grant, same] at unleased
  have unleased : registry.leases device.id = none := by
    simpa [grant, elsewhere] using unleased
  exact ⟨device, member, online, unleased, matched⟩

namespace Call

/-- What an `acquire` that looked in vain waits for, until it is notified. -/
def sleeping? : Call → Option DeviceSelector
  | waiting selector _ false => some selector
  | holding selector .park => some selector
  | _ => none

/-- Why a suspended call holds the lock. -/
def phase? : Call → Option WaitPhase
  | holding _ phase => some phase
  | _ => none

@[simp]
theorem phase?_notify (call : Call) : call.notify.phase? = call.phase? := by
  cases call <;> rfl

/-- Notified, only a call with the lock counts as asleep. -/
theorem phase?_of_sleeping?_notify {call : Call} {selector : DeviceSelector}
    (asleep : call.notify.sleeping? = some selector) : call.phase? ≠ none := by
  cases call <;> simp_all [notify, sleeping?, phase?]

end Call

namespace RegistryWorld

open Transition

/-- What the call at an index sleeps on. -/
def sleeperOf (world : RegistryWorld) : Nat → Option DeviceSelector := world.seen Call.sleeping?

/-- Why the call at an index holds the lock. -/
def phaseOf (world : RegistryWorld) : Nat → Option WaitPhase := world.seen Call.phase?

/-- The registry and its sleepers. -/
def monitor (world : RegistryWorld) : Monitor Registry DeviceSelector :=
  ⟨world.registry, world.sleeperOf⟩

/-- A suspended call that holds the lock is its holder. -/
def Locked (world : RegistryWorld) : Prop :=
  ∀ index, world.phaseOf index ≠ none → world.holder = some index

section
variable {world after : RegistryWorld} {action : RegistryAction} {index : Nat}

/-- A call that gets the free lock, or has it, is the only one with it. -/
theorem Locked.alone (locked : world.Locked)
    (turn : world.holder = none ∨ world.phaseOf index ≠ none) :
    ∀ other ≠ index, world.phaseOf other = none := by
  intro other apart
  by_contra holds
  have owner : world.holder = some other := locked other holds
  rcases turn with free | mine
  · rw [free] at owner
    cases owner
  · have same := locked index mine
    rw [owner] at same
    exact apart (Option.some.inj same)

/-- Notifying leaves asleep only a call that holds the lock. -/
theorem sleeperOf_notifyAll {selector : DeviceSelector}
    (asleep : world.notifyAll.sleeperOf index = some selector) : world.phaseOf index ≠ none := by
  simp only [sleeperOf, seen, notifyAll, List.getElem?_map] at asleep
  cases found : world.calls[index]? with
  | none => simp [found] at asleep
  | some call =>
    rw [found] at asleep
    have held : call.phase? ≠ none := Call.phase?_of_sleeping?_notify asleep
    rwa [phaseOf, seen_eq found]

/-- A call that moves on without the lock leaves the holder as it was. -/
theorem Locked.outside {old new : Call} (locked : world.Locked)
    (found : world.calls[index]? = some old) (unlocked : new.phase? = none)
    (free : old.phase? = none) (calls : after.calls = world.calls.set index new)
    (holder : after.holder = world.holder) : after.Locked := by
  intro other held
  have same : after.phaseOf = world.phaseOf :=
    seen_set_same found (unlocked.trans free.symm) calls
  rw [same] at held
  rw [holder]
  exact locked other held

/-- A call that starts is outside. -/
theorem Locked.start (locked : world.Locked) {call : Call} (unlocked : call.phase? = none) :
    (world.start call).Locked := by
  intro other held
  have same : (world.start call).phaseOf = world.phaseOf := seen_start_none unlocked
  rw [same] at held
  exact locked other held

/-- A call that had the lock to itself gives it up or keeps it. -/
theorem Locked.turned {old new : Call} (found : world.calls[index]? = some old)
    (alone : ∀ other ≠ index, world.phaseOf other = none)
    (calls : after.calls = world.calls.set index new)
    (holder : new.phase? ≠ none → after.holder = some index) : after.Locked := by
  intro other held
  have view : after.phaseOf = Function.update world.phaseOf index new.phase? :=
    seen_set found calls
  rw [view] at held
  by_cases here : other = index
  · subst here
    exact holder (by simpa using held)
  · simp [here, alone other here] at held

/-- A call that is not asleep starts. -/
theorem moves_start {call : Call} (awake : call.sleeping? = none) :
    Monitor.Move Registry.Available world.monitor (world.start call).monitor := by
  have same : (world.start call).sleeperOf = world.sleeperOf := seen_start_none awake
  apply Monitor.Move.narrowed
  · exact fun _ available => available
  · intro party selector asleep
    rwa [show (world.start call).monitor.sleeper = world.sleeperOf from same] at asleep

/-- A call moves on without going to sleep, and nothing becomes available. -/
theorem moves_awake {old new : Call} (found : world.calls[index]? = some old)
    (awake : new.sleeping? = none) (calls : after.calls = world.calls.set index new)
    (wants : ∀ selector, after.registry.Available selector → world.registry.Available selector) :
    Monitor.Move Registry.Available world.monitor after.monitor := by
  apply Monitor.Move.narrowed wants
  intro party selector asleep
  exact seen_set_none found awake calls asleep

/-- A call that found nothing goes to sleep. -/
theorem moves_asleep {old new : Call} {selector : DeviceSelector}
    (found : world.calls[index]? = some old) (asleep : new.sleeping? = some selector)
    (unmet : ¬ world.registry.Available selector)
    (calls : after.calls = world.calls.set index new)
    (registry : after.registry = world.registry) :
    Monitor.Move Registry.Available world.monitor after.monitor := by
  have view : after.sleeperOf = Function.update world.sleeperOf index new.sleeping? :=
    seen_set found calls
  refine .dozed selector unmet registry fun party wanted sleeps => ?_
  rw [show after.monitor.sleeper = Function.update world.sleeperOf index (some selector) from
    view.trans (by rw [asleep])] at sleeps
  by_cases here : party = index
  · left
    symm
    simpa [here] using sleeps
  · right
    show world.sleeperOf party = some wanted
    simpa [here] using sleeps

/-- A call that had the lock to itself notifies the others and moves on. -/
theorem moves_notified {old new : Call} (found : world.calls[index]? = some old)
    (alone : ∀ other ≠ index, world.phaseOf other = none) (awake : new.sleeping? = none)
    (calls : after.calls = world.notifyAll.calls.set index new) :
    Monitor.Move Registry.Available world.monitor after.monitor := by
  have view : after.sleeperOf = Function.update world.notifyAll.sleeperOf index new.sleeping? :=
    seen_set (calls_notifyAll found) calls
  refine .woken fun party => ?_
  show after.sleeperOf party = none
  rw [view, awake]
  by_cases here : party = index
  · simp [here]
  · cases asleep : world.notifyAll.sleeperOf party with
    | none => simp [here, asleep]
    | some selector => exact absurd (alone party here) (sleeperOf_notifyAll asleep)

/-- Notifying changes no call's hold on the lock. -/
theorem phaseOf_notifyAll : world.notifyAll.phaseOf = world.phaseOf :=
  seen_notifyAll Call.phase?_notify

/-- One turn of the loop of `acquire`. -/
theorem look_moves {old : Call} {selector : DeviceSelector} (timed : Bool) (token : Nat)
    (outOfTime : Bool) (found : world.calls[index]? = some old)
    (alone : ∀ other ≠ index, world.phaseOf other = none) :
    (world.look index selector timed token outOfTime).Locked ∧
      Monitor.Move Registry.Available world.monitor
        (world.look index selector timed token outOfTime).monitor := by
  unfold look
  split
  · exact ⟨.turned found alone rfl (by simp [Call.phase?]),
      moves_awake found rfl rfl fun _ available => available⟩
  · exact ⟨.turned found alone rfl (by simp [Call.phase?]),
      moves_awake found rfl rfl fun _ available => available.of_grant⟩
  · rename_i nothing
    have unmet : ¬ world.registry.Available selector := Registry.findFree_none nothing
    split
    · exact ⟨.turned found alone rfl (by simp [Call.phase?]),
        moves_asleep found rfl unmet rfl rfl⟩
    · split
      · exact ⟨.turned found alone rfl (by simp [Call.phase?]),
          moves_awake found rfl rfl fun _ available => available⟩
      · exact ⟨.turned found alone rfl fun _ => rfl, moves_asleep found rfl unmet rfl rfl⟩

/-- A call that had the lock to itself notifies the others and ends. -/
theorem notified_moves {old new : Call} (found : world.calls[index]? = some old)
    (alone : ∀ other ≠ index, world.phaseOf other = none) (awake : new.sleeping? = none)
    (unlocked : new.phase? = none) (calls : after.calls = world.notifyAll.calls.set index new) :
    after.Locked ∧ Monitor.Move Registry.Available world.monitor after.monitor := by
  have alone' : ∀ other ≠ index, world.notifyAll.phaseOf other = none := by
    rw [phaseOf_notifyAll]
    exact alone
  constructor
  · exact .turned (calls_notifyAll found) alone' calls fun held => absurd unlocked held
  · exact moves_notified found alone awake calls

/-- **Every step is a move of the monitor.** -/
theorem step_moves (locked : world.Locked) (taken : world.step action = some after) :
    after.Locked ∧ Monitor.Move Registry.Available world.monitor after.monitor := by
  cases action with
  | refresh =>
    obtain rfl := Option.some.inj taken
    exact ⟨locked.start rfl, moves_start rfl⟩
  | polled index devices =>
    simp only [step] at taken
    split at taken
    · rename_i found
      obtain rfl := Option.some.inj taken
      exact ⟨locked.outside found rfl rfl rfl rfl,
        moves_awake found rfl rfl fun _ available => available⟩
    · cases taken
  | pollRaised index =>
    simp only [step] at taken
    split at taken
    · rename_i found
      obtain rfl := Option.some.inj taken
      exact ⟨locked.outside found rfl rfl rfl rfl,
        moves_awake found rfl rfl fun _ available => available⟩
    · cases taken
  | acquire selector timed =>
    obtain rfl := Option.some.inj taken
    exact ⟨locked.start rfl, moves_start rfl⟩
  | release index =>
    simp only [step] at taken
    split at taken
    · split at taken
      · obtain rfl := Option.some.inj taken
        exact ⟨locked.start rfl, moves_start rfl⟩
      · rename_i lease _ _
        obtain rfl := Option.some.inj taken
        have begun : (world.start (.releasing lease)).Locked := locked.start rfl
        exact ⟨begun, moves_start rfl⟩
    · cases taken
  | setState deviceId state note =>
    obtain rfl := Option.some.inj taken
    exact ⟨locked.start rfl, moves_start rfl⟩
  | enter index token outOfTime =>
    simp only [step] at taken
    split at taken
    · cases taken
    · rename_i unheld
      have alone : ∀ other ≠ index, world.phaseOf other = none :=
        locked.alone (.inl (by simpa using unheld))
      split at taken
      · rename_i polled found
        obtain rfl := Option.some.inj taken
        exact notified_moves found alone rfl rfl rfl
      · rename_i selector timed found
        obtain rfl := Option.some.inj taken
        exact look_moves timed token outOfTime found alone
      · rename_i selector timed found
        split at taken
        · obtain rfl := Option.some.inj taken
          exact ⟨.turned found alone rfl fun _ => rfl,
            moves_awake found rfl rfl fun _ available => available⟩
        · obtain rfl := Option.some.inj taken
          exact look_moves timed token outOfTime found alone
      · rename_i lease found
        obtain rfl := Option.some.inj taken
        exact notified_moves found alone rfl rfl rfl
      · rename_i deviceId state note found
        obtain rfl := Option.some.inj taken
        unfold force
        split
        · exact ⟨.turned found alone rfl (by simp [Call.phase?]),
            moves_awake found rfl rfl fun _ available => available⟩
        · split
          · exact ⟨.turned found alone rfl (by simp [Call.phase?]),
              moves_awake found rfl rfl fun _ available => available⟩
          · exact notified_moves found alone rfl rfl rfl
      · cases taken
  | timeout index =>
    simp only [step] at taken
    split at taken
    · cases taken
    · rename_i unheld
      have alone : ∀ other ≠ index, world.phaseOf other = none :=
        locked.alone (.inl (by simpa using unheld))
      split at taken
      · rename_i selector notified found
        obtain rfl := Option.some.inj taken
        exact ⟨.turned found alone rfl fun _ => rfl,
          moves_awake found rfl rfl fun _ available => available⟩
      · cases taken
  | resume index token outOfTime =>
    have mine : ∀ {selector phase}, world.calls[index]? = some (.holding selector phase) →
        ∀ other ≠ index, world.phaseOf other = none := by
      intro selector phase found
      apply locked.alone
      right
      rw [phaseOf, seen_eq found]
      simp [Call.phase?]
    simp only [step] at taken
    split at taken
    · rename_i selector found
      obtain rfl := Option.some.inj taken
      have same : (world.settle index (.waiting selector true false)).sleeperOf =
          world.sleeperOf := seen_set_same found (by rfl) rfl
      refine ⟨.turned found (mine found) rfl (by simp [Call.phase?]),
        .narrowed (fun _ available => available) fun party wanted asleep => ?_⟩
      show world.sleeperOf party = some wanted
      rwa [← same]
    · rename_i selector found
      obtain rfl := Option.some.inj taken
      exact look_moves true token outOfTime found (mine found)
    · rename_i selector found
      obtain rfl := Option.some.inj taken
      exact ⟨.turned found (mine found) rfl (by simp [Call.phase?]),
        moves_awake found rfl rfl fun _ available => available⟩
    · cases taken

/-- **No missed wake-up.** In whatever order calls of `acquire`, `release`, `set_state` and
`refresh` interleave, whether the lock is free or held: while an `acquire` is inside the
condition's `wait` and was not notified since it looked, no device is ONLINE, unleased and
matching its selector. -/
theorem no_missed_wakeup {registry : Registry} {allowed : RegistryWorld → RegistryAction → Prop}
    (run : Run step allowed { registry := registry } world) {selector : DeviceSelector}
    {timed : Bool} (blocked : world.calls[index]? = some (.waiting selector timed false)) :
    ∀ device ∈ world.registry.devices.items, ¬ (device.state = .online ∧
      world.registry.leases device.id = none ∧ device.matches selector = .ok true) := by
  have kept : world.Locked ∧ Monitor.Watched Registry.Available world.monitor :=
    Monitor.watched_run monitor Locked (fun index held => absurd rfl held)
      (Monitor.Watched.of_awake fun party => rfl) (fun locked _ taken => step_moves locked taken)
      run
  have asleep : world.sleeperOf index = some selector := seen_eq blocked
  have unmet : ¬ world.registry.Available selector := kept.2 index selector asleep
  intro device member free
  exact unmet ⟨device, member, free⟩

/-- An `acquire` finds the only phone OFFLINE and waits; it is polled again, still OFFLINE, and
the `acquire` looks in vain a second time. -/
def patience : List RegistryAction :=
  [.refresh, .polled 0 [{ id := "phone-a", state := .offline }], .enter 0 0 false,
    .acquire {} false, .enter 1 0 false, .refresh,
    .polled 2 [{ id := "phone-a", state := .offline }], .enter 2 0 false, .enter 1 0 false]

/-- It sleeps while its phone is OFFLINE. -/
theorem no_missed_wakeup_patience : ∃ world : RegistryWorld,
    world.holder = none ∧ world.calls[1]? = some (.waiting {} false false) ∧
    ∀ device ∈ world.registry.devices.items, ¬ (device.state = .online ∧
      world.registry.leases device.id = none ∧ device.matches {} = .ok true) := by
  obtain ⟨world, run, unheld, blocked⟩ : ∃ world : RegistryWorld,
      Run step (fun _ _ => True) {} world ∧ world.holder = none ∧
        world.calls[1]? = some (.waiting {} false false) :=
    ⟨_, @execute_run _ _ step (fun _ _ => True) _ patience {} _ rfl, rfl, rfl⟩
  exact ⟨world, unheld, blocked, no_missed_wakeup run blocked⟩

end

end RegistryWorld

end DeviceOrchestrator
