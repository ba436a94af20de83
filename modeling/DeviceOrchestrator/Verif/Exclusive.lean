import DeviceOrchestrator.Core.Registry
import DeviceOrchestrator.Verif.RunOnce

/-!
# Leases are exclusive

The table is keyed by device and a lease is identified by its token, so the invariant ties the
two together: each entry is a lease that some `acquire` returned for that device, no two calls
returned the same token, and a lease whose `released` flag is not set is the entry of its device.
Only four kinds of step touch leases, and `step_effect` says which: the flag of a lease is set,
a grant, the removal by the `release` that was given the lease, and everything else.
-/
namespace DeviceOrchestrator

namespace RegistryWorld

open Transition

/-- What a view of calls sees of the call at an index. -/
def seen {Seen : Type} (world : RegistryWorld) (view : Call → Option Seen) (index : Nat) :
    Option Seen :=
  world.calls[index]?.bind view

/-- The lease that the call at an index returned. -/
def leaseOf (world : RegistryWorld) : Nat → Option Lease := world.seen Call.lease?

/-- The lease that the call at an index is to take out of the table. -/
def givingOf (world : RegistryWorld) : Nat → Option Lease := world.seen Call.giving?

/-- The selector of the `acquire` in progress at an index. -/
def selectorOf (world : RegistryWorld) : Nat → Option DeviceSelector := world.seen Call.selector?

section
variable {Seen : Type} {view : Call → Option Seen} {world : RegistryWorld} {index : Nat}

/-- A view of a call that is known. -/
theorem seen_eq {call : Call} (found : world.calls[index]? = some call) :
    world.seen view index = view call := by
  simp [seen, found]

/-- Starting a call shows it at the end. -/
theorem seen_start (call : Call) :
    (world.start call).seen view = Function.update (world.seen view) world.calls.length
      (view call) := by
  funext other
  by_cases last : other = world.calls.length
  · subst last
    simp [seen, start]
  · rcases Nat.lt_or_gt_of_ne last with before | beyond
    · simp [seen, start, last, List.getElem?_append_left before]
    · have absent : (world.calls ++ [call])[other]? = none := by
        apply List.getElem?_eq_none
        simp
        omega
      have gone : world.calls[other]? = none := List.getElem?_eq_none (by omega)
      simp [seen, start, last, absent, gone]

/-- Starting a call that a view does not see changes nothing it sees. -/
theorem seen_start_none {call : Call} (unseen : view call = none) :
    (world.start call).seen view = world.seen view := by
  rw [seen_start, unseen]
  exact Function.update_eq_self_iff.mpr (by simp [seen])

/-- Replacing a call shows the new one in its place. -/
theorem seen_set {old new : Call} (found : world.calls[index]? = some old)
    {after : RegistryWorld} (calls : after.calls = world.calls.set index new) :
    after.seen view = Function.update (world.seen view) index (view new) := by
  obtain ⟨bound, _⟩ := List.getElem?_eq_some_iff.mp found
  funext other
  by_cases same : other = index
  · subst same
    simp [seen, calls, bound]
  · simp [seen, calls, same, List.getElem?_set_ne (Ne.symm same)]

/-- Replacing a call by one that a view does not tell apart changes nothing it sees. -/
theorem seen_set_same {old new : Call} (found : world.calls[index]? = some old)
    (alike : view new = view old) {after : RegistryWorld}
    (calls : after.calls = world.calls.set index new) : after.seen view = world.seen view := by
  rw [seen_set found calls]
  exact Function.update_eq_self_iff.mpr (alike.trans (seen_eq found).symm)

/-- What a view sees after a call became one that it does not see was there before. -/
theorem seen_set_none {old new : Call} (found : world.calls[index]? = some old)
    (unseen : view new = none) {after : RegistryWorld}
    (calls : after.calls = world.calls.set index new) {other : Nat} {shown : Seen}
    (sees : after.seen view other = some shown) : world.seen view other = some shown := by
  rw [seen_set found calls, unseen] at sees
  by_cases here : other = index
  · subst here
    simp at sees
  · simpa [here] using sees

/-- Notifying is invisible to a view that does not look at the notification. -/
theorem seen_notifyAll (blind : ∀ call, view (Call.notify call) = view call) :
    world.notifyAll.seen view = world.seen view := by
  funext other
  simp only [seen, notifyAll, List.getElem?_map]
  cases world.calls[other]? with
  | none => rfl
  | some call => exact blind call

/-- A call keeps its place when all are notified. -/
theorem calls_notifyAll {call : Call} (found : world.calls[index]? = some call) :
    world.notifyAll.calls[index]? = some call.notify := by
  simp [notifyAll, found]

end

/-- **What one step does to leases.** -/
inductive Effect (world : RegistryWorld) (action : RegistryAction) (after : RegistryWorld) : Prop
  /-- No lease is involved. -/
  | quiet (leases : after.registry.leases = world.registry.leases)
      (issued : after.registry.issued = world.registry.issued)
      (released : after.released = world.released) (returned : after.leaseOf = world.leaseOf)
      (giving : ∀ index lease, after.givingOf index = some lease →
        world.givingOf index = some lease)
  /-- `release` is called and sets the flag of its lease. -/
  | flagged (call : Nat) (lease : Lease) (held : world.leaseOf call = some lease)
      (registry : after.registry = world.registry)
      (released : after.released = lease.token :: world.released)
      (returned : after.leaseOf = world.leaseOf)
      (giving : after.givingOf = Function.update world.givingOf world.calls.length (some lease))
  /-- An `acquire` finds a free device. -/
  | granted (call token : Nat) (selector : DeviceSelector) (device : Device)
      (asked : world.selectorOf call = some selector)
      (free : world.registry.findFree selector = .ok (some device))
      (fresh : token ∉ world.registry.issued)
      (registry : after.registry = world.registry.grant ⟨device.id, token⟩)
      (released : after.released = world.released)
      (returned : after.leaseOf = Function.update world.leaseOf call (some ⟨device.id, token⟩))
      (giving : after.givingOf = world.givingOf)
  /-- A `release` with the lock takes its lease out of the table. -/
  | unleased (call token : Nat) (outOfTime : Bool) (lease : Lease)
      (entered : action = .enter call token outOfTime)
      (given : world.givingOf call = some lease)
      (registry : after.registry = world.registry.unlease lease)
      (released : after.released = world.released) (returned : after.leaseOf = world.leaseOf)
      (giving : ∀ index lease, after.givingOf index = some lease →
        world.givingOf index = some lease)

section
variable {world after base : RegistryWorld} {action : RegistryAction} {index : Nat}

/-- Notifying shows every lease as before. -/
@[simp]
theorem leaseOf_notifyAll : world.notifyAll.leaseOf = world.leaseOf :=
  seen_notifyAll Call.lease?_notify

/-- Notifying shows every release in progress as before. -/
@[simp]
theorem givingOf_notifyAll : world.notifyAll.givingOf = world.givingOf :=
  seen_notifyAll Call.giving?_notify

/-- Replacing a call shows the lease of the new one. -/
theorem leaseOf_set {old new : Call} (found : world.calls[index]? = some old)
    (calls : after.calls = world.calls.set index new) :
    after.leaseOf = Function.update world.leaseOf index new.lease? :=
  seen_set found calls

/-- A call without a lease that moves on without one changes no lease. -/
theorem leaseOf_set_none {old new : Call} (found : world.calls[index]? = some old)
    (idle : old.lease? = none) (still : new.lease? = none)
    (calls : after.calls = world.calls.set index new) : after.leaseOf = world.leaseOf :=
  seen_set_same found (still.trans idle.symm) calls

/-- A call that moves on releases nothing unless it did before. -/
theorem givingOf_set_none {old new : Call} (found : world.calls[index]? = some old)
    (empty : new.giving? = none) (calls : after.calls = world.calls.set index new)
    {other : Nat} {lease : Lease} (given : after.givingOf other = some lease) :
    world.givingOf other = some lease :=
  seen_set_none found empty calls given

/-- A call without a lease begins. -/
theorem Effect.opened {call : Call} (idle : call.lease? = none) (empty : call.giving? = none) :
    Effect world action (world.start call) := by
  refine .quiet rfl rfl rfl (seen_start_none idle) fun index lease found => ?_
  have giving : (world.start call).givingOf = world.givingOf := seen_start_none empty
  rwa [giving] at found

/-- A call without a lease moves on without one, possibly after it notified the others. -/
theorem Effect.moved {old new : Call} (returned : base.leaseOf = world.leaseOf)
    (giving : base.givingOf = world.givingOf) (found : base.calls[index]? = some old)
    (idle : old.lease? = none) (still : new.lease? = none) (empty : new.giving? = none)
    (calls : after.calls = base.calls.set index new)
    (leases : after.registry.leases = world.registry.leases)
    (issued : after.registry.issued = world.registry.issued)
    (released : after.released = world.released) : Effect world action after := by
  refine .quiet leases issued released ?_ fun other lease given => ?_
  · rw [leaseOf_set_none found idle still calls, returned]
  · rw [← giving]
    exact givingOf_set_none found empty calls given

/-- One turn of the loop of `acquire`. -/
theorem look_effect {call : Call} {selector : DeviceSelector} (timed : Bool) {token : Nat}
    (outOfTime : Bool) (found : world.calls[index]? = some call)
    (asked : call.selector? = some selector) (fresh : token ∉ world.registry.issued) :
    Effect world action (world.look index selector timed token outOfTime) := by
  have idle : call.lease? = none := by cases call <;> first | rfl | cases asked
  have empty : call.giving? = none := by cases call <;> first | rfl | cases asked
  unfold look
  split
  · exact .moved rfl rfl found idle rfl rfl rfl rfl rfl rfl
  · rename_i device free
    have asking : world.selectorOf index = some selector := (seen_eq found).trans asked
    have returned : ((world.withRegistry (world.registry.grant ⟨device.id, token⟩)).settle index
        (.returned (some ⟨device.id, token⟩))).leaseOf =
        Function.update world.leaseOf index (Call.returned (some ⟨device.id, token⟩)).lease? :=
      leaseOf_set found rfl
    exact .granted index token selector device asking free fresh rfl rfl returned
      (seen_set_same found empty.symm rfl)
  · split
    · exact .moved rfl rfl found idle rfl rfl rfl rfl rfl rfl
    · split
      · exact .moved rfl rfl found idle rfl rfl rfl rfl rfl rfl
      · exact .moved rfl rfl found idle rfl rfl rfl rfl rfl rfl

/-- `set_state` touches no lease, and calls only by notifying them. -/
theorem force_frame (deviceId : DeviceId) (state : DeviceState) (note : String) :
    (world.force deviceId state note).registry.leases = world.registry.leases ∧
      (world.force deviceId state note).registry.issued = world.registry.issued ∧
      (world.force deviceId state note).released = world.released ∧
      ((world.force deviceId state note).calls = world.calls ∨
        (world.force deviceId state note).calls = world.notifyAll.calls) := by
  unfold force
  split
  · exact ⟨rfl, rfl, rfl, .inl rfl⟩
  · split
    · exact ⟨rfl, rfl, rfl, .inl rfl⟩
    · exact ⟨rfl, rfl, rfl, .inr rfl⟩

/-- **Every step has one of the effects on leases.** -/
theorem step_effect (distinct : world.Distinct action) (taken : world.step action = some after) :
    Effect world action after := by
  cases action with
  | refresh =>
    obtain rfl := Option.some.inj taken
    exact .opened rfl rfl
  | polled index devices =>
    simp only [step] at taken
    split at taken
    · rename_i found
      obtain rfl := Option.some.inj taken
      exact .moved rfl rfl found rfl rfl rfl rfl rfl rfl rfl
    · cases taken
  | pollRaised index =>
    simp only [step] at taken
    split at taken
    · rename_i found
      obtain rfl := Option.some.inj taken
      exact .moved rfl rfl found rfl rfl rfl rfl rfl rfl rfl
    · cases taken
  | acquire selector timed =>
    obtain rfl := Option.some.inj taken
    exact .opened rfl rfl
  | release index =>
    simp only [step] at taken
    split at taken
    · rename_i lease found
      split at taken
      · obtain rfl := Option.some.inj taken
        exact .opened rfl rfl
      · obtain rfl := Option.some.inj taken
        exact .flagged index lease (seen_eq found) rfl rfl (seen_start_none (by rfl))
          (seen_start _)
    · cases taken
  | setState deviceId state note =>
    obtain rfl := Option.some.inj taken
    exact .opened rfl rfl
  | enter index token outOfTime =>
    simp only [step] at taken
    split at taken
    · cases taken
    · split at taken
      · rename_i polled found
        obtain rfl := Option.some.inj taken
        exact .moved leaseOf_notifyAll givingOf_notifyAll (calls_notifyAll found) rfl rfl rfl rfl
          rfl rfl rfl
      · rename_i selector timed found
        obtain rfl := Option.some.inj taken
        exact look_effect timed outOfTime found rfl distinct
      · rename_i selector timed found
        split at taken
        · obtain rfl := Option.some.inj taken
          exact .moved rfl rfl found rfl rfl rfl rfl rfl rfl rfl
        · obtain rfl := Option.some.inj taken
          exact look_effect timed outOfTime found rfl distinct
      · rename_i lease found
        obtain rfl := Option.some.inj taken
        have notified := calls_notifyAll found
        refine .unleased index token outOfTime lease rfl (seen_eq found) rfl rfl ?_ ?_
        · exact (leaseOf_set_none notified rfl (by rfl) rfl).trans leaseOf_notifyAll
        · intro other given later
          rw [← givingOf_notifyAll]
          exact givingOf_set_none notified (by rfl) rfl later
      · rename_i deviceId state note found
        obtain rfl := Option.some.inj taken
        obtain ⟨leases, issued, released, same | notified⟩ :=
          world.force_frame deviceId state note
        · have calls := congrArg (fun calls => calls.set index Call.done) same
          exact .moved rfl rfl found rfl rfl rfl calls leases issued released
        · have calls := congrArg (fun calls => calls.set index Call.done) notified
          exact .moved leaseOf_notifyAll givingOf_notifyAll (calls_notifyAll found) rfl rfl rfl
            calls leases issued released
      · cases taken
  | timeout index =>
    simp only [step] at taken
    split at taken
    · cases taken
    · split at taken
      · rename_i selector notified found
        obtain rfl := Option.some.inj taken
        exact .moved rfl rfl found rfl rfl rfl rfl rfl rfl rfl
      · cases taken
  | resume index token outOfTime =>
    simp only [step] at taken
    split at taken
    · rename_i selector found
      obtain rfl := Option.some.inj taken
      exact .moved rfl rfl found rfl rfl rfl rfl rfl rfl rfl
    · rename_i selector found
      obtain rfl := Option.some.inj taken
      exact look_effect true outOfTime found rfl distinct
    · rename_i selector found
      obtain rfl := Option.some.inj taken
      exact .moved rfl rfl found rfl rfl rfl rfl rfl rfl rfl
    · cases taken

/-- An `acquire` in progress has returned nothing. -/
theorem leaseOf_of_selectorOf {selector : DeviceSelector}
    (asked : world.selectorOf index = some selector) : world.leaseOf index = none := by
  obtain ⟨call, found, asking⟩ := Option.bind_eq_some_iff.mp asked
  rw [leaseOf, seen_eq found]
  cases call <;> first | rfl | cases asking

end

/-- **The lease invariant.** -/
structure Sound (world : RegistryWorld) : Prop where
  /-- An entry of the table is a lease on its device that some call returned. -/
  entry : ∀ deviceId lease, world.registry.leases deviceId = some lease →
    lease.deviceId = deviceId ∧ ∃ call, world.leaseOf call = some lease
  /-- A returned lease has a minted token. -/
  issued : ∀ call lease, world.leaseOf call = some lease → lease.token ∈ world.registry.issued
  /-- Two calls never returned the same token. -/
  tokens : ∀ call other lease lease', world.leaseOf call = some lease →
    world.leaseOf other = some lease' → lease.token = lease'.token → call = other
  /-- A lease whose flag is not set is the entry of its device. -/
  recorded : ∀ call lease, world.leaseOf call = some lease → lease.token ∉ world.released →
    world.registry.leases lease.deviceId = some lease
  /-- A `release` in progress has set the flag of a lease that was returned. -/
  flagged : ∀ call lease, world.givingOf call = some lease →
    lease.token ∈ world.released ∧ ∃ other, world.leaseOf other = some lease

namespace Sound

variable {world after : RegistryWorld} {action : RegistryAction} {index : Nat}

/-- Nothing is leased at first. -/
theorem initial : Sound {} where
  entry := nofun
  issued := nofun
  tokens := nofun
  recorded := nofun
  flagged := nofun

/-- Two returned leases with one token are the same lease. -/
theorem same_lease (sound : world.Sound) {call other : Nat} {lease lease' : Lease}
    (held : world.leaseOf call = some lease) (held' : world.leaseOf other = some lease')
    (tokens : lease.token = lease'.token) : lease = lease' := by
  obtain rfl := sound.tokens call other lease lease' held held' tokens
  exact Option.some.inj (held.symm.trans held')

/-- What a `release` in progress removes is the lease it was given. -/
theorem removed_is_given (sound : world.Sound) {call : Nat} {lease current : Lease}
    {deviceId : DeviceId} (given : world.givingOf call = some lease)
    (held : world.registry.leases deviceId = some current)
    (removed : (world.registry.unlease lease).leases deviceId ≠ some current) :
    current = lease := by
  obtain ⟨_, other, returned⟩ := sound.flagged call lease given
  obtain ⟨named, holder, entered⟩ := sound.entry deviceId current held
  unfold Registry.unlease at removed
  split at removed
  · exact absurd held removed
  · rename_i found there
    split at removed
    · rename_i tokens
      by_cases same : deviceId = lease.deviceId
      · have there : world.registry.leases deviceId = some found := same ▸ there
        obtain rfl : current = found := Option.some.inj (held.symm.trans there)
        exact sound.same_lease entered returned tokens
      · exact absurd (by simpa [same] using held) removed
    · exact absurd held removed

/-- Setting the flag of a lease keeps the invariant. -/
theorem flag {call : Nat} {lease : Lease} (sound : world.Sound)
    (held : world.leaseOf call = some lease) (registry : after.registry = world.registry)
    (released : after.released = lease.token :: world.released)
    (returned : after.leaseOf = world.leaseOf)
    (giving : after.givingOf = Function.update world.givingOf world.calls.length (some lease)) :
    after.Sound where
  entry := by
    rw [registry, returned]
    exact sound.entry
  issued := by
    rw [registry, returned]
    exact sound.issued
  tokens := by
    rw [returned]
    exact sound.tokens
  recorded := by
    rw [registry, returned, released]
    intro other lease' held' unreleased
    exact sound.recorded other lease' held' fun member =>
      unreleased (List.mem_cons_of_mem _ member)
  flagged := by
    rw [giving, returned, released]
    intro other lease' given
    by_cases last : other = world.calls.length
    · subst last
      obtain rfl : lease = lease' := by simpa using given
      exact ⟨List.mem_cons_self, call, held⟩
    · obtain ⟨member, returned⟩ := sound.flagged other lease' (by simpa [last] using given)
      exact ⟨List.mem_cons_of_mem _ member, returned⟩

/-- A grant of a free device under a fresh token keeps the invariant. -/
theorem grant {call token : Nat} {device : Device} (sound : world.Sound)
    (idle : world.leaseOf call = none) (free : world.registry.leases device.id = none)
    (fresh : token ∉ world.registry.issued)
    (registry : after.registry = world.registry.grant ⟨device.id, token⟩)
    (released : after.released = world.released)
    (returned : after.leaseOf = Function.update world.leaseOf call (some ⟨device.id, token⟩))
    (giving : after.givingOf = world.givingOf) : after.Sound where
  entry := by
    rw [registry, returned]
    intro deviceId lease entry
    by_cases same : deviceId = device.id
    · subst same
      obtain rfl : ⟨device.id, token⟩ = lease := by simpa [Registry.grant] using entry
      exact ⟨rfl, call, by simp⟩
    · have before : world.registry.leases deviceId = some lease := by
        simpa [Registry.grant, same] using entry
      obtain ⟨named, holder, held⟩ := sound.entry deviceId lease before
      have other : holder ≠ call := by
        rintro rfl
        rw [idle] at held
        cases held
      exact ⟨named, holder, by simpa [other] using held⟩
  issued := by
    rw [registry, returned]
    intro other lease held
    by_cases same : other = call
    · subst same
      obtain rfl : ⟨device.id, token⟩ = lease := by simpa using held
      exact List.mem_cons_self
    · exact List.mem_cons_of_mem _ (sound.issued other lease (by simpa [same] using held))
  tokens := by
    rw [returned]
    have unseen : ∀ other lease, world.leaseOf other = some lease → lease.token ≠ token := by
      rintro other lease held rfl
      exact fresh (sound.issued other lease held)
    intro first second lease lease' held held' tokens
    by_cases new : first = call <;> by_cases new' : second = call
    · exact new.trans new'.symm
    · obtain rfl : ⟨device.id, token⟩ = lease := by simpa [new] using held
      exact absurd tokens.symm (unseen second lease' (by simpa [new'] using held'))
    · obtain rfl : ⟨device.id, token⟩ = lease' := by simpa [new'] using held'
      exact absurd tokens (unseen first lease (by simpa [new] using held))
    · exact sound.tokens first second lease lease' (by simpa [new] using held)
        (by simpa [new'] using held') tokens
  recorded := by
    rw [registry, returned, released]
    intro other lease held unreleased
    by_cases same : other = call
    · subst same
      obtain rfl : ⟨device.id, token⟩ = lease := by simpa using held
      simp [Registry.grant]
    · have before := sound.recorded other lease (by simpa [same] using held) unreleased
      have elsewhere : lease.deviceId ≠ device.id := by
        intro here
        rw [here, free] at before
        cases before
      simpa [Registry.grant, elsewhere] using before
  flagged := by
    rw [giving, returned, released]
    intro other lease given
    obtain ⟨member, holder, held⟩ := sound.flagged other lease given
    have elsewhere : holder ≠ call := by
      rintro rfl
      rw [idle] at held
      cases held
    exact ⟨member, holder, by simpa [elsewhere] using held⟩

/-- Removing the lease of a `release` in progress keeps the invariant. -/
theorem unlease {call : Nat} {lease : Lease} (sound : world.Sound)
    (given : world.givingOf call = some lease)
    (registry : after.registry = world.registry.unlease lease)
    (released : after.released = world.released) (returned : after.leaseOf = world.leaseOf)
    (giving : ∀ index lease, after.givingOf index = some lease →
      world.givingOf index = some lease) : after.Sound where
  entry := by
    rw [registry, returned]
    exact fun deviceId lease entry => sound.entry deviceId lease (Registry.leases_of_unlease entry)
  issued := by
    rw [registry, returned, Registry.issued_unlease]
    exact sound.issued
  tokens := by
    rw [returned]
    exact sound.tokens
  recorded := by
    rw [registry, returned, released]
    intro other lease' held unreleased
    by_contra removed
    have before := sound.recorded other lease' held unreleased
    have same : lease' = lease := sound.removed_is_given given before removed
    subst same
    exact unreleased (sound.flagged call lease' given).1
  flagged := by
    rw [returned, released]
    exact fun index lease later => sound.flagged index lease (giving index lease later)

/-- Every step keeps the invariant. -/
theorem step (sound : world.Sound) (effect : Effect world action after) : after.Sound := by
  cases effect with
  | quiet leases issued released returned giving =>
    constructor
    · rw [leases, returned]
      exact sound.entry
    · rw [issued, returned]
      exact sound.issued
    · rw [returned]
      exact sound.tokens
    · rw [leases, released, returned]
      exact sound.recorded
    · rw [released, returned]
      exact fun index lease later => sound.flagged index lease (giving index lease later)
  | flagged call lease held registry released returned giving =>
    exact sound.flag held registry released returned giving
  | granted call token selector device asked free fresh registry released returned giving =>
    have unheld := (Registry.findFree_some free).2.1
    exact sound.grant (leaseOf_of_selectorOf asked) unheld fresh registry released returned giving
  | unleased call token outOfTime lease entered given registry released returned giving =>
    exact sound.unlease given registry released returned giving

/-- The invariant holds in every reachable state. -/
theorem run (run : Run RegistryWorld.step Distinct {} world) : world.Sound :=
  run.invariant Sound initial fun _ sound distinct taken =>
    sound.step (step_effect distinct taken)

end Sound

/-- A lease that the call at an index returned and that was never passed to `release`. -/
def Holds (world : RegistryWorld) (call : Nat) (lease : Lease) : Prop :=
  world.leaseOf call = some lease ∧ lease.token ∉ world.released

/-- A lease that an `acquire` makes in a step is on a device that was ONLINE, matched the
selector of that call and had no holder. -/
def GrantsFree (world after : RegistryWorld) : Prop :=
  ∀ call lease, after.leaseOf call = some lease → world.leaseOf call ≠ some lease →
    ∃ selector device, world.selectorOf call = some selector ∧
      world.registry.get lease.deviceId = some device ∧ device.state = .online ∧
      device.matches selector = .ok true ∧ world.registry.leases lease.deviceId = none

/-- A lease leaves the table only when a `release` that was given this very lease gets the
lock. -/
def RemovesGiven (world : RegistryWorld) (action : RegistryAction) (after : RegistryWorld) :
    Prop :=
  ∀ deviceId lease, world.registry.leases deviceId = some lease →
    after.registry.leases deviceId ≠ some lease →
    ∃ call token outOfTime, action = .enter call token outOfTime ∧
      world.givingOf call = some lease

section
variable {world after : RegistryWorld} {action : RegistryAction}

/-- Every step grants only free devices. -/
theorem Effect.grants_free (effect : Effect world action after) : world.GrantsFree after := by
  intro index lease held new
  cases effect with
  | quiet leases issued released returned giving =>
    rw [returned] at held
    exact absurd held new
  | flagged call lease' _ registry released returned giving =>
    rw [returned] at held
    exact absurd held new
  | granted call token selector device asked free fresh registry released returned giving =>
    rw [returned] at held
    by_cases same : index = call
    · subst same
      obtain rfl : ⟨device.id, token⟩ = lease := by simpa using held
      obtain ⟨known, unheld, online, matched⟩ := Registry.findFree_some free
      exact ⟨selector, device, asked, known, online, matched, unheld⟩
    · exact absurd (by simpa [same] using held) new
  | unleased call token outOfTime lease' entered given registry released returned giving =>
    rw [returned] at held
    exact absurd held new

/-- Every step removes a lease only for the `release` it was given to. -/
theorem Effect.removes_given (sound : world.Sound) (effect : Effect world action after) :
    world.RemovesGiven action after := by
  intro deviceId lease held removed
  cases effect with
  | quiet leases issued released returned giving =>
    rw [leases] at removed
    exact absurd held removed
  | flagged call lease' _ registry released returned giving =>
    rw [registry] at removed
    exact absurd held removed
  | granted call token selector device asked free fresh registry released returned giving =>
    have unheld := (Registry.findFree_some free).2.1
    have elsewhere : deviceId ≠ device.id := by
      rintro rfl
      rw [unheld] at held
      cases held
    rw [registry] at removed
    exact absurd (by simpa [Registry.grant, elsewhere] using held) removed
  | unleased call token outOfTime lease' entered given registry released returned giving =>
    rw [registry] at removed
    have same : lease = lease' := sound.removed_is_given given held removed
    exact ⟨call, token, outOfTime, entered, same ▸ given⟩

/-- **Leases are exclusive.** In every reachable state two calls never hold leases on one
device, and a lease that was not passed to `release` is the entry of its device; every step
from there grants only a free device, and removes a lease only for the `release` that was given
this lease. -/
theorem leases_exclusive (run : Run step Distinct {} world) :
    (∀ call other lease lease', world.Holds call lease → world.Holds other lease' →
        lease.deviceId = lease'.deviceId → call = other) ∧
      (∀ call lease, world.Holds call lease →
        world.registry.leases lease.deviceId = some lease) ∧
      ∀ action after, world.Distinct action → world.step action = some after →
        world.GrantsFree after ∧ world.RemovesGiven action after := by
  have sound := Sound.run run
  refine ⟨fun call other lease lease' holds holds' same => ?_, fun call lease holds => ?_,
    fun action after distinct taken => ?_⟩
  · have entry := sound.recorded call lease holds.1 holds.2
    have entry' := sound.recorded other lease' holds'.1 holds'.2
    rw [same, entry'] at entry
    obtain rfl : lease' = lease := Option.some.inj entry
    exact sound.tokens call other lease' lease' holds.1 holds'.1 rfl
  · exact sound.recorded call lease holds.1 holds.2
  · have effect := step_effect distinct taken
    exact ⟨effect.grants_free, effect.removes_given sound⟩

/-- Two phones are polled; one is leased, released, leased again, and the first lease is
released a second time. -/
def lateRelease : List RegistryAction :=
  [.refresh, .polled 0 [{ id := "phone-a" }, { id := "phone-b", state := .offline }],
    .enter 0 0 false, .acquire {} true, .enter 1 0 false, .release 1, .acquire {} true,
    .enter 3 1 false, .resume 3 1 false, .enter 2 1 false, .enter 3 1 false, .resume 3 1 false,
    .release 1]

/-- After the late release the second lease is still the entry of its device. -/
theorem leases_exclusive_lateRelease : ∃ world : RegistryWorld,
    world.Holds 3 ⟨"phone-a", 1⟩ ∧
    (∀ call other lease lease', world.Holds call lease → world.Holds other lease' →
      lease.deviceId = lease'.deviceId → call = other) ∧
    (∀ call lease, world.Holds call lease →
      world.registry.leases lease.deviceId = some lease) ∧
    ∀ action after, world.Distinct action → world.step action = some after →
      world.GrantsFree after ∧ world.RemovesGiven action after := by
  have passed : (execute (guarded step Distinct) {} lateRelease).any (fun world =>
      decide (world.leaseOf 3 = some ⟨"phone-a", 1⟩ ∧ 1 ∉ world.released)) = true := by
    decide +kernel
  obtain ⟨world, run, shown⟩ := reaches passed
  have holds : world.leaseOf 3 = some ⟨"phone-a", 1⟩ ∧ 1 ∉ world.released :=
    of_decide_eq_true shown
  exact ⟨world, holds, leases_exclusive run⟩

/-- A step mints tokens once. -/
theorem Effect.evolves (effect : Effect world action after) :
    world.registry.Evolves after.registry := by
  cases effect with
  | quiet leases issued released returned giving =>
    constructor
    · rw [issued]
      exact fun _ member => member
    · rw [leases]
      exact fun _ _ entry => .inl entry
  | flagged call lease held registry released returned giving =>
    rw [registry]
    exact .refl
  | granted call token selector device asked free fresh registry released returned giving =>
    have minted : (⟨device.id, token⟩ : Lease).token ∉ world.registry.issued := fresh
    rw [registry]
    exact .grant minted
  | unleased call token outOfTime lease entered given registry released returned giving =>
    rw [registry]
    exact .unlease

/-- **The registry is a fair environment of the scheduler.** Whatever its calls do between two
steps of the scheduler, the scheduler sees it as a step of another party that mints tokens
once. -/
theorem run_fair {start : RegistryWorld} (run : Run step Distinct start world)
    (scheduler : Scheduler) :
    SchedulerWorld.Fair ⟨start.registry, scheduler⟩ (.others world.registry) := by
  show start.registry.Evolves world.registry
  exact run.invariant (fun world => start.registry.Evolves world.registry) .refl
    fun _ evolved distinct taken => evolved.trans (step_effect distinct taken).evolves

end

end RegistryWorld

end DeviceOrchestrator
