import DeviceOrchestrator.Verif.Resubmission

/-!
# Where a retry is placed

`_find_free` takes the first free device of the table that matches, whatever happened before on
it. So a retry goes somewhere else only if something keeps it from the phone it failed on: that
phone is no longer free for the task, or another free one stands before it in the table. Nothing
else about the failure matters, and a failure that does not blame the phone leaves it free.
-/
namespace DeviceOrchestrator

namespace Registry

/-- Whether a device could be leased for a selector: unleased, assignable and matching. -/
def freeFor (registry : Registry) (selector : DeviceSelector) (device : Device) : Bool :=
  (registry.leases device.id).isNone && device.state.assignable &&
    match device.matches selector with
    | .ok answer => answer
    | .error _ => false

/-- Whether a free device for a selector is another one than a given device. -/
def freeBeside (registry : Registry) (selector : DeviceSelector) (deviceId : DeviceId) : Bool :=
  registry.devices.items.any fun other =>
    decide (other.id ≠ deviceId) && registry.freeFor selector other

/-- Whether a device is kept from a task: it is not free for it, or another free device stands
before it in the table. -/
def passedOver (registry : Registry) (selector : DeviceSelector) (deviceId : DeviceId) : Bool :=
  !(registry.get deviceId).any (registry.freeFor selector) ||
    (registry.devices.ahead deviceId).any (registry.freeFor selector)

/-- The search stops at the first device that is free for the selector. -/
theorem findFreeIn_find? {registry : Registry} {selector : DeviceSelector}
    {found : Option Device} : ∀ {devices : List Device},
      findFreeIn registry.leases selector devices = .ok found →
      devices.find? (registry.freeFor selector) = found
  | [], answered => Except.ok.inj answered
  | device :: rest, answered => by
    have later (busy : registry.freeFor selector device = false)
        (further : findFreeIn registry.leases selector rest = .ok found) :
        (device :: rest).find? (registry.freeFor selector) = found := by
      rw [List.find?_cons_of_neg (by simp [busy])]
      exact findFreeIn_find? further
    unfold findFreeIn at answered
    split at answered
    · rename_i leased
      have held : (registry.leases device.id).isNone = false := by simpa using leased
      exact later (by simp [freeFor, held]) answered
    · rename_i unleased
      split at answered
      · rename_i away
        have down : device.state.assignable = false := by simpa using away
        exact later (by simp [freeFor, down]) answered
      · rename_i assignable
        have unleased : registry.leases device.id = none := by simpa using unleased
        have up : device.state.assignable = true := by simpa using assignable
        split at answered
        · cases answered
        · rename_i fits
          obtain rfl := Except.ok.inj answered
          exact List.find?_cons_of_pos (by simp [freeFor, unleased, up, fits])
        · rename_i misfit
          exact later (by simp [freeFor, misfit]) answered

/-- **Where `_find_free` stops.** It finds a device exactly if that one is not passed over. -/
theorem findFree_id_iff {registry : Registry} {selector : DeviceSelector} {device : Device}
    (found : registry.findFree selector = .ok (some device)) (deviceId : DeviceId) :
    device.id = deviceId ↔ registry.passedOver selector deviceId = false := by
  rw [Keyed.key_find?_iff (findFreeIn_find? found)]
  simp [passedOver, get]

end Registry

/-- A lease made for a record. -/
structure Placement where
  /-- The record. -/
  index : Nat
  /-- What it said before. -/
  record : TaskRecord
  /-- The leased device. -/
  deviceId : DeviceId

namespace SchedulerWorld

/-- The lease that a step makes. -/
def placed (taken : Taken) : Option Placement :=
  match taken.action with
  | .leased worker _ =>
    match taken.before.at? worker, taken.after.scheduler.workers[worker]? with
    | some (index, _, record), some (.busy _ (.starting lease _)) =>
      some ⟨index, record, lease.deviceId⟩
    | _, _ => none
  | _ => none

/-- The record whose attempt fails with a `RetryableError` in a step, and the attempt's device. -/
def failedRetryably (taken : Taken) : Option (Nat × DeviceId) :=
  match taken.action with
  | .executed worker (.retryable _ _) _ =>
    match taken.before.at? worker with
    | some (index, .executing lease _, _) => some (index, lease.deviceId)
    | _ => none
  | _ => none

/-- The devices on which attempts of a record have failed with a `RetryableError` since its last
lease; the latest step comes first. -/
def failedOn (index : Nat) : List Taken → List DeviceId
  | [] => []
  | taken :: earlier =>
    if (placed taken).map Placement.index = some index then []
    else match failedRetryably taken with
      | some (held, deviceId) =>
        if held = index then deviceId :: failedOn index earlier else failedOn index earlier
      | none => failedOn index earlier

/-- A lease for a record that failed is not placed on the device it failed on while another
device is free for it. -/
def GoesElsewhere (past : List Taken) (taken : Taken) : Prop :=
  ∀ lease ∈ placed taken, ∀ failed ∈ failedOn lease.index past,
    taken.before.registry.freeBeside lease.record.spec.selector failed = true →
      lease.deviceId ≠ failed

/-- When a record that failed gets its next lease, the device it failed on is passed over, unless
it is the only one that is free for the record. -/
def KeptAway (past : List Taken) (taken : Taken) : Prop :=
  ∀ lease ∈ placed taken, ∀ failed ∈ failedOn lease.index past,
    taken.before.registry.freeBeside lease.record.spec.selector failed = true →
      taken.before.registry.passedOver lease.record.spec.selector failed = true

instance (past : List Taken) (taken : Taken) : Decidable (GoesElsewhere past taken) := by
  unfold GoesElsewhere
  infer_instance

instance (past : List Taken) (taken : Taken) : Decidable (KeptAway past taken) := by
  unfold KeptAway
  infer_instance

variable {config : SchedulerConfig} {world after : SchedulerWorld} {action : SchedulerAction}

/-- A lease is placed where `_find_free` stops. -/
theorem placed_found (taken : step config world action = some after) {lease : Placement}
    (leased : lease ∈ placed ⟨world, action, after⟩) :
    ∃ device : Device, world.registry.findFree lease.record.spec.selector = .ok (some device) ∧
      device.id = lease.deviceId := by
  cases step_effect taken with
  | leased worker token held present device attempts busy known found =>
    have inside : worker < world.scheduler.workers.length :=
      (List.getElem?_eq_some_iff.mp busy).1
    have here : world.at? worker = some (held, .acquiring, present) :=
      at?_eq_some.mpr ⟨busy, known⟩
    simp only [placed, here, Scheduler.advance_worker inside, Option.mem_some_iff] at leased
    rw [← leased]
    exact ⟨device, found, rfl⟩
  | _ => cases leased

/-- One lease goes elsewhere exactly if the device of the failure is passed over. -/
theorem goesElsewhere_step (past : List Taken) (taken : step config world action = some after) :
    GoesElsewhere past ⟨world, action, after⟩ ↔ KeptAway past ⟨world, action, after⟩ := by
  have same {lease : Placement} (leased : lease ∈ placed ⟨world, action, after⟩)
      (failed : DeviceId) : lease.deviceId ≠ failed ↔
        world.registry.passedOver lease.record.spec.selector failed = true := by
    obtain ⟨device, found, here⟩ := placed_found taken leased
    rw [← here, Ne, Registry.findFree_id_iff found, Bool.not_eq_false]
  constructor
  · intro elsewhere lease leased failed member beside
    exact (same leased failed).mp (elsewhere lease leased failed member beside)
  · intro kept lease leased failed member beside
    exact (same leased failed).mpr (kept lease leased failed member beside)

end SchedulerWorld

open SchedulerWorld

/-- **A retry goes somewhere else** in exactly the runs in which, at each next lease after a
failure, the device of the failure is passed over for another reason: it is no longer free for
the task, or another free device stands before it in the table. -/
theorem retry_elsewhere_iff {config : SchedulerConfig}
    {allowed : SchedulerWorld → SchedulerAction → Prop} {past : List SchedulerWorld.Taken}
    {world : SchedulerWorld} (history : Transition.History (step config) allowed {} past world) :
    Transition.Throughout GoesElsewhere past ↔ Transition.Throughout KeptAway past :=
  history.throughout_congr fun _ _ taken => goesElsewhere_step _ taken

namespace Bench

/-- A task of two attempts. -/
def stubborn : TaskSpec := { kind := "android", id := "demo", maxAttempts := 2 }

/-- The bench after the monitor has quarantined the leased phone. -/
def quarantined : Registry where
  devices := ⟨[{ id := "phone-a", state := .quarantined }, { id := "phone-b" }], by decide⟩
  leases := Function.update (fun _ => none) "phone-a" (some ⟨"phone-a", 0⟩)
  issued := [0]

/-- The first attempt fails on the first phone. -/
def failsFirst (blamesDevice : Bool) : List SchedulerAction :=
  [.others registry, .start, .submit stubborn "only", .take 0, .leased 0 0, .sinkReturned 0,
    .executed 0 (.retryable "no candidate" blamesDevice) 0]

/-- The task comes back. -/
def comesBack : List SchedulerAction :=
  [.sinkReturned 0, .released 0, .retryDue 0, .take 0, .leased 0 1]

/-- A failure that blames nobody. -/
def unblamed : List SchedulerAction := failsFirst false ++ comesBack

/-- A failure for which the monitor takes the phone away. -/
def blamed : List SchedulerAction :=
  failsFirst true ++ [.others quarantined, .quarantined 0 0] ++ comesBack

end Bench

/-- The equivalence at a run in which the blamed phone is quarantined. -/
theorem retry_elsewhere_iff_blamed : ∃ past : List SchedulerWorld.Taken,
    (past.head?.bind placed).map Placement.deviceId = some "phone-b" ∧
    Transition.Throughout KeptAway past ∧
    (Transition.Throughout GoesElsewhere past ↔ Transition.Throughout KeptAway past) := by
  have passed : (Transition.trace (Transition.guarded (step Bench.config) Distinct) [] {}
      Bench.blamed).any (fun reached => decide (
        (reached.1.head?.bind placed).map Placement.deviceId = some "phone-b" ∧
        Transition.Throughout KeptAway reached.1)) = true := by
    decide +kernel
  obtain ⟨past, world, history, shown⟩ := Transition.traces passed
  obtain ⟨placed, kept⟩ := of_decide_eq_true shown
  exact ⟨past, placed, kept, retry_elsewhere_iff history⟩

/-- **A retry lands on the same phone.** The failure blames nobody, a second phone is free, and
the next attempt is leased the phone that has just failed. -/
theorem retry_returns : ∃ (past : List SchedulerWorld.Taken) (taken : SchedulerWorld.Taken)
    (world : SchedulerWorld),
    Transition.History (step Bench.config) Distinct {} (taken :: past) world ∧
    failedOn 0 past = ["phone-a"] ∧
    taken.before.registry.freeBeside Bench.stubborn.selector "phone-a" = true ∧
    (placed taken).map Placement.deviceId = some "phone-a" ∧ ¬GoesElsewhere past taken := by
  have passed : (Transition.trace (Transition.guarded (step Bench.config) Distinct) [] {}
      Bench.unblamed).any (fun reached => match reached.1 with
        | taken :: past => decide (failedOn 0 past = ["phone-a"] ∧
            taken.before.registry.freeBeside Bench.stubborn.selector "phone-a" = true ∧
            (placed taken).map Placement.deviceId = some "phone-a" ∧ ¬GoesElsewhere past taken)
        | [] => false) = true := by
    decide +kernel
  obtain ⟨steps, world, history, shown⟩ := Transition.traces passed
  cases steps with
  | nil => cases shown
  | cons taken past => exact ⟨past, taken, world, history, of_decide_eq_true shown⟩

end DeviceOrchestrator
