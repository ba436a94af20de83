import DeviceOrchestrator.Core.Task
import DeviceOrchestrator.Lib.Keyed

/-!
# Devices, leases and the registry's critical sections

The registry keeps the device inventory in discovery order and one lease for each held device.
Every method body that runs under the registry's lock is one function of the registry here:
the search for a free device, the entry and removal of a lease, a forced state and the
reconciliation with a poll. The coroutines around these bodies are in `Core.Registry`.
-/
namespace DeviceOrchestrator

/-- `DeviceState`. -/
inductive DeviceState
  | online
  | offline
  | unauthorized
  | quarantined
  | retired
  deriving DecidableEq, Repr

/-- Membership in `ASSIGNABLE_STATES`. -/
def DeviceState.assignable : DeviceState → Bool
  | online => true
  | _ => false

/-- States that a poll does not overrule: the health monitor decided them. -/
def DeviceState.held : DeviceState → Bool
  | quarantined | retired => true
  | _ => false

/-- `Device`. -/
structure Device where
  /-- adb serial, `host:port`, or the name of a browser slot. -/
  id : DeviceId
  /-- usb, tcp, tunnel or virtual. -/
  transport : String := "usb"
  /-- Whether the device can be given work. -/
  state : DeviceState := .online
  /-- Model name as adb reports it. -/
  model : String := ""
  /-- Tags of the bench inventory. -/
  tags : List String := []
  /-- How many times the health monitor had to intervene. -/
  recoveries : Nat := 0
  /-- Why the state was forced. -/
  note : String := ""
  deriving DecidableEq, Repr

/-- `Device.matches`: the checks in the order of the source. A nonempty tag list is made a set
first, which an unhashable tag refuses. -/
def Device.matches (device : Device) (selector : DeviceSelector) : Except PyError Bool :=
  if selector.deviceId.truthy && !selector.deviceId.isText device.id then .ok false
  else if !selector.transports.isEmpty &&
      !selector.transports.any fun transport => transport.isText device.transport then .ok false
  else if selector.tags.isEmpty then .ok true
  else if !selector.hashable then .error .typeError
  else .ok (selector.tags.all fun tag => device.tags.any tag.isText)

/-- Matching answers for every selector whose tags are hashable. -/
theorem Device.matches_ok (device : Device) {selector : DeviceSelector}
    (hashable : selector.hashable = true) : ∃ answer, device.matches selector = .ok answer := by
  simp only [Device.matches, hashable, Bool.not_true, Bool.false_eq_true, ↓reduceIte]
  split
  · exact ⟨_, rfl⟩
  · split
    · exact ⟨_, rfl⟩
    · split <;> exact ⟨_, rfl⟩

/-- `Lease`: one exclusive hold. The token is the lease's identity. -/
structure Lease where
  /-- The leased device. -/
  deviceId : DeviceId
  /-- Fresh for every lease. -/
  token : Nat
  deriving DecidableEq, Repr

/-- What a poll changes of a known device: everything it reports, but not a state the health
monitor decided. -/
def Device.reconcile (existing found : Device) : Device :=
  { existing with
    model := if found.model = "" then existing.model else found.model
    tags := if found.tags = [] then existing.tags else found.tags
    state := if existing.state.held then existing.state else found.state }

/-- Merging a polled device into a known one. -/
def Device.reconciliation : Keyed.Merge Device.id where
  merge := Device.reconcile
  keeps _ _ := rfl

/-- `DeviceRegistry`: the inventory and who holds what. -/
structure Registry where
  /-- `_devices`, in discovery order. -/
  devices : Keyed Device.id := Keyed.empty
  /-- `_leases`. -/
  leases : DeviceId → Option Lease := fun _ => none
  /-- Tokens minted so far; `uuid4` mints each once. -/
  issued : List Nat := []

namespace Registry

/-- `DeviceRegistry.get`. -/
def get (registry : Registry) (deviceId : DeviceId) : Option Device :=
  registry.devices.get? deviceId

/-- The state of a known device. -/
def stateOf (registry : Registry) (deviceId : DeviceId) : Option DeviceState :=
  (registry.get deviceId).map Device.state

/-- `DeviceRegistry.is_leased`. -/
def isLeased (registry : Registry) (deviceId : DeviceId) : Bool :=
  (registry.leases deviceId).isSome

/-- The loop of `_find_free`: the first unleased assignable device that matches. -/
def findFreeIn (leases : DeviceId → Option Lease) (selector : DeviceSelector) :
    List Device → Except PyError (Option Device)
  | [] => .ok none
  | device :: rest =>
    if (leases device.id).isSome then findFreeIn leases selector rest
    else if !device.state.assignable then findFreeIn leases selector rest
    else match device.matches selector with
      | .error error => .error error
      | .ok true => .ok (some device)
      | .ok false => findFreeIn leases selector rest

/-- `DeviceRegistry._find_free`. -/
def findFree (registry : Registry) (selector : DeviceSelector) :
    Except PyError (Option Device) :=
  findFreeIn registry.leases selector registry.devices.items

/-- The generator of `could_ever_match`: some device that is not retired matches. -/
def couldEverMatchIn (selector : DeviceSelector) : List Device → Except PyError Bool
  | [] => .ok false
  | device :: rest =>
    if device.state = .retired then couldEverMatchIn selector rest
    else match device.matches selector with
      | .error error => .error error
      | .ok true => .ok true
      | .ok false => couldEverMatchIn selector rest

/-- `DeviceRegistry.could_ever_match`. -/
def couldEverMatch (registry : Registry) (selector : DeviceSelector) : Except PyError Bool :=
  couldEverMatchIn selector registry.devices.items

/-- The entry that a successful `acquire` makes in `_leases`. -/
def grant (registry : Registry) (lease : Lease) : Registry :=
  { registry with
    leases := Function.update registry.leases lease.deviceId (some lease)
    issued := lease.token :: registry.issued }

/-- The body of `release` under the lock: the entry goes only if it carries the lease's token. -/
def unlease (registry : Registry) (lease : Lease) : Registry :=
  match registry.leases lease.deviceId with
  | none => registry
  | some current =>
    if current.token = lease.token then
      { registry with leases := Function.update registry.leases lease.deviceId none }
    else registry

/-- The body of `set_state` under the lock: any other state is overwritten, whatever it is. -/
def setState (registry : Registry) (deviceId : DeviceId) (state : DeviceState)
    (note : String := "") : Registry :=
  { registry with
    devices := registry.devices.map
      (fun device =>
        if device.id = deviceId ∧ device.state ≠ state then
          { device with state := state, note := note }
        else device)
      (by intro device; split <;> rfl) }

/-- `device.recoveries += 1`. -/
def countRecovery (registry : Registry) (deviceId : DeviceId) : Registry :=
  { registry with
    devices := registry.devices.map
      (fun device =>
        if device.id = deviceId then { device with recoveries := device.recoveries + 1 }
        else device)
      (by intro device; split <;> rfl) }

/-- The dict `{d.id: d for d in polled}`. -/
def discovered (polled : List Device) : Keyed Device.id :=
  Keyed.empty.absorb Keyed.Merge.overwrite polled

/-- A device that a poll does not list goes from ONLINE to OFFLINE. -/
def vanish (listed : Keyed Device.id) (device : Device) : Device :=
  if (listed.get? device.id).isNone ∧ device.state = .online then
    { device with state := .offline }
  else device

/-- The body of `refresh` under the lock. -/
def refresh (registry : Registry) (polled : List Device) : Registry :=
  { registry with
    devices := (registry.devices.absorb Device.reconciliation (discovered polled).items).map
      (vanish (discovered polled)) (by intro device; unfold vanish; split <;> rfl) }

/-- What the search finds is unleased, assignable and matches. -/
theorem findFreeIn_some {leases : DeviceId → Option Lease} {selector : DeviceSelector} :
    ∀ {devices : List Device} {device : Device},
      findFreeIn leases selector devices = .ok (some device) →
      device ∈ devices ∧ leases device.id = none ∧ device.state = .online ∧
        device.matches selector = .ok true
  | [], _, found => by simp [findFreeIn] at found
  | first :: rest, device, found => by
    unfold findFreeIn at found
    have later : findFreeIn leases selector rest = .ok (some device) →
        device ∈ first :: rest ∧ leases device.id = none ∧ device.state = .online ∧
          device.matches selector = .ok true := fun inside =>
      let ⟨member, free⟩ := findFreeIn_some inside
      ⟨List.mem_cons_of_mem _ member, free⟩
    split at found
    · exact later found
    · rename_i unleased
      split at found
      · exact later found
      · rename_i assignable
        have online : first.state = .online := by
          cases state : first.state <;> simp [state, DeviceState.assignable] at assignable ⊢
        split at found
        · cases found
        · rename_i answer
          cases found
          exact ⟨List.mem_cons_self, by simpa using unleased, online, answer⟩
        · exact later found

/-- What `_find_free` returns is a known device that is unleased, ONLINE and matches. -/
theorem findFree_some {registry : Registry} {selector : DeviceSelector} {device : Device}
    (found : registry.findFree selector = .ok (some device)) :
    registry.get device.id = some device ∧ registry.leases device.id = none ∧
      device.state = .online ∧ device.matches selector = .ok true :=
  let ⟨member, free⟩ := findFreeIn_some found
  ⟨Keyed.get?_key member, free⟩

/-- `could_ever_match` answers for every selector whose tags are hashable. -/
theorem couldEverMatch_ok (registry : Registry) {selector : DeviceSelector}
    (hashable : selector.hashable = true) :
    ∃ answer, registry.couldEverMatch selector = .ok answer := by
  unfold couldEverMatch
  generalize registry.devices.items = devices
  induction devices with
  | nil => exact ⟨false, rfl⟩
  | cons device rest ih =>
    unfold couldEverMatchIn
    split
    · exact ih
    · obtain ⟨answer, matched⟩ := device.matches_ok hashable
      rw [matched]
      cases answer with
      | true => exact ⟨true, rfl⟩
      | false => exact ih

/-- `_find_free` answers for every selector whose tags are hashable. -/
theorem findFree_ok (registry : Registry) {selector : DeviceSelector}
    (hashable : selector.hashable = true) :
    ∃ answer, registry.findFree selector = .ok answer := by
  unfold findFree
  generalize registry.devices.items = devices
  induction devices with
  | nil => exact ⟨none, rfl⟩
  | cons device rest ih =>
    unfold findFreeIn
    split
    · exact ih
    · split
      · exact ih
      · obtain ⟨answer, matched⟩ := device.matches_ok hashable
        rw [matched]
        cases answer with
        | true => exact ⟨some device, rfl⟩
        | false => exact ih

/-! ## Reading a registry back after each critical section -/

section
variable (registry : Registry) (deviceId other : DeviceId) (lease : Lease)

/-- Removing a lease changes no device. -/
@[simp]
theorem devices_unlease : (registry.unlease lease).devices = registry.devices := by
  unfold unlease
  split
  · rfl
  · split <;> rfl

@[simp]
theorem stateOf_unlease :
    (registry.unlease lease).stateOf deviceId = registry.stateOf deviceId := by
  simp [stateOf, get]

/-- A forced state is the state afterwards; other devices keep theirs. -/
theorem stateOf_setState (state : DeviceState) (note : String) :
    (registry.setState deviceId state note).stateOf other =
      if other = deviceId then (registry.stateOf other).map fun _ => state
      else registry.stateOf other := by
  simp only [stateOf, get, setState, Keyed.get?_map]
  cases found : registry.devices.get? other with
  | none => simp
  | some device =>
    have named := Keyed.key_of_get? found
    by_cases same : other = deviceId
    · by_cases kept : device.state = state <;> simp [named, same, kept]
    · simp [named, same]

/-- Counting a recovery changes no state. -/
@[simp]
theorem stateOf_countRecovery :
    (registry.countRecovery deviceId).stateOf other = registry.stateOf other := by
  simp only [stateOf, get, countRecovery, Keyed.get?_map]
  cases registry.devices.get? other with
  | none => rfl
  | some device => by_cases same : device.id = deviceId <;> simp [same]

/-- **What a poll does to one device.** A known device that the poll lists is reconciled with
its last listing; one that it does not list goes from ONLINE to OFFLINE; a new one enters as
listed. -/
theorem get_refresh (polled : List Device) :
    (registry.refresh polled).get deviceId =
      match (discovered polled).get? deviceId, registry.get deviceId with
      | none, none => none
      | none, some existing =>
        some (if existing.state = .online then { existing with state := .offline } else existing)
      | some found, none => some found
      | some found, some existing => some (existing.reconcile found) := by
  simp only [get, refresh, Keyed.get?_map, Keyed.get?_absorb]
  cases listed : (discovered polled).get? deviceId with
  | none =>
    cases known : registry.devices.get? deviceId with
    | none => rfl
    | some existing => simp [vanish, Keyed.key_of_get? known, listed]
  | some found =>
    cases known : registry.devices.get? deviceId with
    | none => simp [vanish, Keyed.key_of_get? listed, listed]
    | some existing =>
      have named : existing.id = deviceId := Keyed.key_of_get? known
      have named : (existing.reconcile found).id = deviceId := named
      simp [vanish, Device.reconciliation, named, listed]

/-- A poll changes no state that the health monitor decided. -/
theorem stateOf_refresh_held (polled : List Device) {state : DeviceState}
    (decided : registry.stateOf deviceId = some state) (held : state.held = true) :
    (registry.refresh polled).stateOf deviceId = some state := by
  obtain ⟨existing, known, rfl⟩ := Option.map_eq_some_iff.mp decided
  have notOnline : existing.state ≠ .online := by
    intro online
    rw [online] at held
    cases held
  simp only [stateOf, get_refresh, known]
  cases (discovered polled).get? deviceId with
  | none => simp [notOnline]
  | some found => simp [Device.reconcile, held]

end

end Registry

end DeviceOrchestrator
