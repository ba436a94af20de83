import DeviceOrchestrator.Lib.Slots
import DeviceOrchestrator.Verif.HealthSteps

/-!
# One recovery episode for each device

`_recoveries` is the guard of `_spawn_recovery`: an unfinished entry keeps another episode from
being created. Entries are removed by the done-callback of a task, which names the device and
not the task, so a callback that runs after its entry was replaced removes the new one. As long
as no episode is created while the callback of the entry is pending, the entry of a device is
its only episode whose callback has not run.
-/
namespace DeviceOrchestrator

open Transition (Run)

namespace HealthWorld

/-- An episode on a device whose callback has not run. -/
def Uncleared (world : HealthWorld) (index : Nat) (deviceId : DeviceId) : Prop :=
  ∃ stage, world.calls[index]? = some ⟨.episode, deviceId, stage⟩ ∧ stage ≠ .cleared

/-- An episode on a device that has been started and has not finished. -/
def Unfinished (world : HealthWorld) (index : Nat) (deviceId : DeviceId) : Prop :=
  ∃ stage, world.calls[index]? = some ⟨.episode, deviceId, stage⟩ ∧ stage.over = false

/-- No new episode can replace an entry whose callback is pending: the entry is absent or
unfinished, or the device is still in its backoff. -/
def Clear (world : HealthWorld) (deviceId : DeviceId) : Prop :=
  match world.recoveries deviceId with
  | none => True
  | some entry =>
    (world.calls[entry]?.any fun call => call.stage.over) = true →
      world.now < (world.health deviceId).nextRecoveryAt

/-- `_spawn_recovery` is not called while a callback is pending and the backoff is over. -/
def Collected (world : HealthWorld) : HealthAction → Prop
  | .resume index (.probed false) =>
    match world.calls[index]? with
    | some ⟨_, deviceId, .probing⟩ =>
      world.registry.stateOf deviceId = some .quarantined → world.Clear deviceId
    | _ => True
  | .resume index .announced =>
    match world.calls[index]? with
    | some ⟨_, deviceId, .announcingQuarantined⟩ => world.Clear deviceId
    | _ => True
  | _ => True

instance (world : HealthWorld) (deviceId : DeviceId) : Decidable (world.Clear deviceId) := by
  unfold Clear
  split <;> infer_instance

instance (world : HealthWorld) (action : HealthAction) : Decidable (world.Collected action) := by
  unfold Collected
  split
  · split <;> infer_instance
  · split <;> infer_instance
  · infer_instance

/-- **What one step does to the coroutines and the entries of `_recoveries`.** -/
inductive CallEffect (world : HealthWorld) (action : HealthAction) (after : HealthWorld) : Prop
  /-- Nothing. -/
  | still (calls : after.calls = world.calls) (recoveries : after.recoveries = world.recoveries)
  /-- Coroutines other than episodes are created. -/
  | joined (more : List HealthCall) (calls : after.calls = world.calls ++ more)
      (others : ∀ call ∈ more, call.role ≠ .episode ∧ call.role.fits call.stage = true)
      (recoveries : after.recoveries = world.recoveries)
  /-- A coroutine moves on. -/
  | moved (index : Nat) (call : HealthCall) (stage : Stage)
      (found : world.calls[index]? = some call) (live : call.stage.over = false)
      (calls : after.calls = world.calls.set index { call with stage := stage })
      (uncleared : stage ≠ .cleared)
      (fits : call.role.fits call.stage = true → call.role.fits stage = true)
      (recoveries : after.recoveries = world.recoveries)
  /-- A check or a `quarantine` ends and creates an episode: its device has no unfinished entry
  and is not in its backoff. -/
  | spawned (index : Nat) (call : HealthCall) (found : world.calls[index]? = some call)
      (at_ : call.stage = .probing ∨ call.stage = .announcingQuarantined)
      (idle : (world.recoveries call.deviceId).all (fun entry =>
        (world.calls.set index { call with stage := .returned })[entry]?.all
          fun call => call.stage.over) = true)
      (due : (world.health call.deviceId).nextRecoveryAt ≤ world.now)
      (clear : world.Collected action → world.Clear call.deviceId)
      (calls : after.calls = world.calls.set index { call with stage := .returned } ++
        [⟨.episode, call.deviceId, .recovering⟩])
      (recoveries : after.recoveries = Function.update world.recoveries call.deviceId
        (some world.calls.length))
  /-- The callback of an episode removes the entry of its device. -/
  | cleared (index : Nat) (deviceId : DeviceId) (stage : Stage)
      (found : world.calls[index]? = some ⟨.episode, deviceId, stage⟩)
      (uncleared : stage ≠ .cleared)
      (calls : after.calls = world.calls.set index ⟨.episode, deviceId, .cleared⟩)
      (recoveries : after.recoveries = Function.update world.recoveries deviceId none)

section
variable {config : HealthConfig} {world after : HealthWorld} {index : Nat} {call : HealthCall}
variable {action : HealthAction} {turn : Turn} {answer : HealthAnswer} {deviceId : DeviceId}

/-- A turn keeps its coroutine in the stages of its role. -/
theorem Turned.fits (turned : Turned config world call answer turn)
    (fits : call.role.fits call.stage = true) : call.role.fits turn.stage = true := by
  obtain ⟨role, deviceId, stage⟩ := call
  cases turned with
  | onward keeps passive work => exact keeps fits
  | begun at_ asked few adb episode passive =>
    obtain rfl : stage = .recovering := at_
    cases role <;> first | exact episode | cases fits
  | retired at_ stage' passive =>
    rw [stage']
    cases role <;> rfl
  | quarantined at_ turned =>
    subst turned
    cases role <;> rfl
  | spawns at_ asked state turned =>
    subst turned
    cases role <;> rfl
  | restores at_ asked state turned =>
    obtain rfl : stage = .probing := at_
    subst turned
    cases role <;> first | rfl | cases fits
  | marks at_ asked state turned =>
    obtain rfl : stage = .probing := at_
    subst turned
    cases role <;> first | rfl | cases fits
  | retires at_ asked many turned =>
    obtain rfl : stage = .recovering := at_
    subst turned
    cases role <;> first | rfl | cases fits
  | virtual at_ asked few slot turned =>
    obtain rfl : stage = .recovering := at_
    subst turned
    cases role <;> first | rfl | cases fits
  | reconnects number at_ asked turned =>
    obtain rfl : stage = .reprobing number := at_
    subst turned
    cases role <;> first | rfl | cases fits

/-- A turn never runs a callback. -/
theorem Turned.uncleared (turned : Turned config world call answer turn) :
    turn.stage ≠ .cleared := by
  cases turned with
  | onward keeps passive work => exact passive.uncleared
  | begun at_ asked few adb episode passive => exact passive.uncleared
  | retired at_ stage passive => exact passive.uncleared
  | quarantined at_ turned | spawns at_ asked state turned | restores at_ asked state turned
  | marks at_ asked state turned | retires at_ asked many turned
  | virtual at_ asked few slot turned | reconnects number at_ asked turned =>
    subst turned
    exact nofun

/-- A write moves its coroutine on to the sink. -/
theorem written_moves (done : written config call = some turn) :
    call.stage.over = false ∧ turn.stage ≠ .cleared ∧ turn.spawn = false ∧
      (call.role.fits call.stage = true → call.role.fits turn.stage = true) := by
  obtain ⟨role, deviceId, stage⟩ := call
  unfold written at done
  dsimp only at done
  split at done
  · rename_i path
    obtain rfl := Option.some.inj done
    refine ⟨rfl, nofun, rfl, fun fits => ?_⟩
    cases role <;> first | rfl | (cases path <;> cases fits)
  · obtain rfl := Option.some.inj done
    refine ⟨rfl, nofun, rfl, fun fits => ?_⟩
    cases role <;> first | rfl | cases fits
  · obtain rfl := Option.some.inj done
    refine ⟨rfl, nofun, rfl, fun fits => ?_⟩
    cases role <;> first | rfl | cases fits
  · cases done

/-- Carrying out a turn that spawns. -/
theorem spawn_effect (found : world.calls[index]? = some call) (spawns : turn.spawn = true)
    (stage : turn.stage = .returned) (live : call.stage.over = false)
    (at_ : call.stage = .probing ∨ call.stage = .announcingQuarantined)
    (backoff : ∀ health, turn.health = some health →
      health.nextRecoveryAt = (world.health call.deviceId).nextRecoveryAt)
    (clear : world.Collected action → world.Clear call.deviceId) :
    CallEffect world action (world.apply index call turn) := by
  have ends : call.role.fits call.stage = true → call.role.fits .returned = true := by
    cases call.role <;> exact fun _ => rfl
  have ready : ((world.settle index call turn).health call.deviceId).nextRecoveryAt =
      (world.health call.deviceId).nextRecoveryAt := by
    cases changed : turn.health with
    | none => simp [settle, changed]
    | some health => simp [settle, changed, backoff health changed]
  simp only [HealthWorld.apply, spawns, if_true]
  unfold HealthWorld.spawn
  dsimp only
  split
  · refine .moved index call .returned found live ?_ nofun ends rfl
    simp [settle, stage]
  · rename_i idle
    split
    · refine .moved index call .returned found live ?_ nofun ends rfl
      simp [settle, stage]
    · rename_i due
      have length : (world.settle index call turn).calls.length = world.calls.length := by
        simp [settle]
      refine .spawned index call found at_ ?_ ?_ clear ?_ ?_
      · cases entry : world.recoveries call.deviceId with
        | none => rfl
        | some episode =>
          cases running : (world.calls.set index { call with stage := .returned })[episode]? with
          | none => simp [running]
          | some other => simpa [settle, stage, entry, running] using idle
      · rw [← ready]
        exact not_lt.mp due
      · simp [settle, stage]
      · rw [length]
        rfl

/-- A coroutine resumes. -/
theorem resume_effect (found : world.calls[index]? = some call)
    (taken : world.turn config call answer = some turn) :
    CallEffect world (.resume index answer) (world.apply index call turn) := by
  obtain ⟨live, _⟩ := turn_live taken
  have turned := turn_cases taken
  have plain : turn.spawn = false →
      CallEffect world (.resume index answer) (world.apply index call turn) := by
    intro unspawned
    have applied : world.apply index call turn = world.settle index call turn := by
      simp [HealthWorld.apply, unspawned]
    rw [applied]
    exact .moved index call turn.stage found live rfl turned.uncleared turned.fits rfl
  cases turned with
  | onward keeps passive work => exact plain passive.spawn
  | begun at_ asked few adb episode passive => exact plain passive.spawn
  | retired at_ stage passive => exact plain passive.spawn
  | quarantined at_ turned =>
    cases spawns : turn.spawn with
    | false => exact plain spawns
    | true =>
      have announced := turn_announced taken at_ spawns
      obtain ⟨role, deviceId, stage⟩ := call
      obtain rfl : stage = .announcingQuarantined := at_
      subst turned announced
      refine spawn_effect found spawns rfl rfl (.inr rfl) nofun fun collected => ?_
      simpa [Collected, found] using collected
  | spawns at_ asked state turned =>
    obtain ⟨role, deviceId, stage⟩ := call
    obtain rfl : stage = .probing := at_
    subst turned asked
    refine spawn_effect found rfl rfl rfl (.inl rfl) ?_ fun collected => ?_
    · rintro health ⟨⟩
      rfl
    · simp only [Collected, found] at collected
      exact collected state
  | restores at_ asked state turned | marks at_ asked state turned
  | retires at_ asked many turned | virtual at_ asked few slot turned
  | reconnects number at_ asked turned =>
    subst turned
    exact plain rfl

/-- **Every step is one of these to the coroutines.** -/
theorem step_call (taken : step config world action = some after) :
    CallEffect world action after := by
  cases stepped taken with
  | sweeps =>
    refine .joined (swept world.registry) rfl ?_ rfl
    intro call member
    obtain ⟨device, _, rfl⟩ := List.mem_map.mp member
    exact ⟨nofun, rfl⟩
  | reports worker deviceId reason =>
    refine .joined [⟨.report worker, deviceId, .marking reason⟩] rfl ?_ rfl
    intro call member
    obtain rfl := List.mem_singleton.mp member
    exact ⟨nofun, rfl⟩
  | resumes found turns => exact resume_effect found turns
  | @writes index rest call turn first found done =>
    obtain ⟨live, uncleared, unspawned, fits⟩ := written_moves done
    refine .moved index call turn.stage found live ?_ uncleared fits ?_
    · simp [HealthWorld.apply, unspawned, settle]
    · simp [HealthWorld.apply, unspawned, settle]
  | collects found ended uncleared => exact .cleared _ _ _ found uncleared rfl rfl
  | ticks forward => exact .still rfl rfl
  | changes changed => exact .still rfl rfl

end

/-- Every coroutine is in a stage of its role. -/
def Fitting (world : HealthWorld) : Prop :=
  ∀ (index : Nat) (call : HealthCall), world.calls[index]? = some call →
    call.role.fits call.stage = true

namespace Fitting

variable {world after : HealthWorld} {action : HealthAction} {index : Nat}

/-- A fresh monitor has no coroutines. -/
theorem fresh (fresh : world.Fresh) : world.Fitting := by
  intro index call found
  simp [fresh.calls] at found

/-- One coroutine moves on to a stage of its role. -/
theorem set (fitting : world.Fitting) {new : HealthCall}
    (fits : new.role.fits new.stage = true) (other : Nat) (call : HealthCall)
    (there : (world.calls.set index new)[other]? = some call) :
    call.role.fits call.stage = true := by
  rcases Slots.getElem?_rewritten there with ⟨-, rfl⟩ | ⟨-, earlier⟩
  · exact fits
  · exact fitting other call earlier

/-- Every step keeps each coroutine in the stages of its role. -/
theorem step (fitting : world.Fitting) (effect : CallEffect world action after) :
    after.Fitting := by
  intro index call there
  cases effect with
  | still calls recoveries => exact fitting index call (calls ▸ there)
  | joined more calls others recoveries =>
    rw [calls] at there
    rcases List.mem_append.mp (List.mem_of_getElem? there) with earlier | new
    · obtain ⟨slot, found⟩ := List.mem_iff_getElem?.mp earlier
      exact fitting slot call found
    · exact (others call new).2
  | moved slot moving stage found live calls uncleared fits recoveries =>
    rw [calls] at there
    exact fitting.set (fits (fitting slot moving found)) index call there
  | spawned slot ending found at_ idle due clear calls recoveries =>
    rw [calls] at there
    rcases List.mem_append.mp (List.mem_of_getElem? there) with earlier | new
    · obtain ⟨place, there⟩ := List.mem_iff_getElem?.mp earlier
      exact fitting.set (by cases ending.role <;> rfl) place call there
    · obtain rfl := List.mem_singleton.mp new
      rfl
  | cleared slot deviceId stage found uncleared calls recoveries =>
    rw [calls] at there
    exact fitting.set rfl index call there

end Fitting

/-- **The entry of a device is its only episode whose callback has not run.** -/
structure Single (world : HealthWorld) : Prop where
  /-- Every coroutine is in a stage of its role. -/
  fits : world.Fitting
  /-- An entry is an episode on its device. -/
  entry : ∀ deviceId index, world.recoveries deviceId = some index →
    world.Uncleared index deviceId
  /-- An episode whose callback has not run is the entry of its device. -/
  owned : ∀ deviceId index, world.Uncleared index deviceId →
    world.recoveries deviceId = some index

namespace Single

variable {config : HealthConfig} {world after : HealthWorld} {action : HealthAction}
variable {index : Nat} {call : HealthCall} {deviceId : DeviceId} {stage : Stage}

/-- A fresh monitor has no episodes. -/
theorem fresh (fresh : world.Fresh) : world.Single where
  fits := .fresh fresh
  entry := by simp [fresh.recoveries]
  owned := by
    rintro deviceId index ⟨stage, found, _⟩
    simp [fresh.calls] at found

/-- Replacing a call whose callback has not run by another stage of itself. -/
theorem uncleared_set (found : world.calls[index]? = some call) (live : call.stage ≠ .cleared)
    (uncleared : stage ≠ .cleared)
    (calls : after.calls = world.calls.set index { call with stage := stage }) (other : Nat) :
    after.Uncleared other deviceId ↔ world.Uncleared other deviceId := by
  obtain ⟨bound, _⟩ := List.getElem?_eq_some_iff.mp found
  by_cases same : other = index
  · subst same
    simp only [Uncleared, calls, List.getElem?_set_self bound, found, Option.some.injEq]
    obtain ⟨role, target, old⟩ := call
    constructor
    · rintro ⟨new, equal, _⟩
      cases equal
      exact ⟨old, rfl, live⟩
    · rintro ⟨new, equal, _⟩
      cases equal
      exact ⟨stage, rfl, uncleared⟩
  · simp [Uncleared, calls, List.getElem?_set_ne (Ne.symm same)]

/-- Adding calls that are no episodes. -/
theorem uncleared_append {calls more : List HealthCall}
    (others : ∀ call ∈ more, call.role ≠ .episode) (added : after.calls = calls ++ more)
    (before : world.calls = calls) (other : Nat) :
    after.Uncleared other deviceId ↔ world.Uncleared other deviceId := by
  simp only [Uncleared, added, before]
  constructor
  · rintro ⟨stage, found, uncleared⟩
    rcases Slots.getElem?_extended found with earlier | fresh
    · exact ⟨stage, earlier, uncleared⟩
    · exact absurd rfl (others _ fresh)
  · rintro ⟨stage, found, uncleared⟩
    obtain ⟨inside, -⟩ := List.getElem?_eq_some_iff.mp found
    exact ⟨stage, (List.getElem?_append_left inside).trans found, uncleared⟩

/-- The entry of a device that spawns is gone: an entry would be finished and its callback
pending. -/
theorem no_entry (single : world.Single) (found : world.calls[index]? = some call)
    (at_ : call.stage = .probing ∨ call.stage = .announcingQuarantined)
    (idle : (world.recoveries call.deviceId).all (fun entry =>
      (world.calls.set index { call with stage := .returned })[entry]?.all
        fun call => call.stage.over) = true)
    (due : (world.health call.deviceId).nextRecoveryAt ≤ world.now)
    (clear : world.Clear call.deviceId) : world.recoveries call.deviceId = none := by
  cases entered : world.recoveries call.deviceId with
  | none => rfl
  | some entry =>
    obtain ⟨stage, there, _⟩ := single.entry call.deviceId entry entered
    have other : index ≠ entry := by
      rintro rfl
      have fits := single.fits index call found
      have same : call = ⟨.episode, call.deviceId, stage⟩ :=
        Option.some.inj (found.symm.trans there)
      have role : call.role = .episode := congrArg HealthCall.role same
      rw [role] at fits
      rcases at_ with at_ | at_ <;> rw [at_] at fits <;> cases fits
    simp only [entered, Option.all_some, List.getElem?_set_ne other, there] at idle
    simp only [Clear, entered, there, Option.any_some] at clear
    exact absurd due (not_le.mpr (clear idle))

/-- A step that changes neither the entries nor which callbacks have run. -/
theorem frame (single : world.Single) (fits : after.Fitting)
    (same : ∀ deviceId index, after.Uncleared index deviceId ↔ world.Uncleared index deviceId)
    (recoveries : after.recoveries = world.recoveries) : after.Single := by
  refine ⟨fits, ?_, ?_⟩
  · intro deviceId index entered
    exact (same deviceId index).mpr (single.entry deviceId index (recoveries ▸ entered))
  · intro deviceId index uncleared
    rw [recoveries]
    exact single.owned deviceId index ((same deviceId index).mp uncleared)

/-- A device without an entry gets a new episode, made after all others, as its entry. -/
theorem spawned (single : world.Single) (fits : after.Fitting) {middle : HealthWorld}
    (none : world.recoveries deviceId = none)
    (same : ∀ target other, middle.Uncleared other target ↔ world.Uncleared other target)
    (length : middle.calls.length = world.calls.length)
    (calls : after.calls = middle.calls ++ [⟨.episode, deviceId, .recovering⟩])
    (recoveries : after.recoveries =
      Function.update world.recoveries deviceId (some world.calls.length)) : after.Single := by
  have before : ∀ target other, other < world.calls.length →
      (after.Uncleared other target ↔ world.Uncleared other target) := by
    intro target other bound
    rw [← same]
    simp only [Uncleared, calls]
    rw [List.getElem?_append_left (length ▸ bound)]
  have last : after.calls[world.calls.length]? = some ⟨.episode, deviceId, .recovering⟩ := by
    simp [calls, ← length]
  refine ⟨fits, ?_, ?_⟩
  · intro target other entered
    rw [recoveries] at entered
    by_cases here : target = deviceId
    · subst here
      obtain rfl : world.calls.length = other := by simpa using entered
      exact ⟨.recovering, last, nofun⟩
    · have entry := single.entry target other (by simpa [here] using entered)
      have bound : other < world.calls.length := by
        obtain ⟨_, there, _⟩ := entry
        exact (List.getElem?_eq_some_iff.mp there).1
      exact (before target other bound).mpr entry
  · intro target other uncleared
    rw [recoveries]
    obtain ⟨stage, there, alive⟩ := uncleared
    rcases Nat.lt_trichotomy other world.calls.length with bound | rfl | beyond
    · have owned := single.owned target other
        ((before target other bound).mp ⟨stage, there, alive⟩)
      have elsewhere : target ≠ deviceId := by
        rintro rfl
        rw [none] at owned
        cases owned
      simpa [elsewhere] using owned
    · rw [last] at there
      cases there
      simp
    · have absent : after.calls[other]? = Option.none := by
        apply List.getElem?_eq_none
        simp [calls, length]
        omega
      rw [absent] at there
      cases there

/-- The callback of the entry of a device has run, and the entry is gone. -/
theorem cleared (single : world.Single) (fits : after.Fitting)
    (found : world.calls[index]? = some ⟨.episode, deviceId, stage⟩) (uncleared : stage ≠ .cleared)
    (calls : after.calls = world.calls.set index ⟨.episode, deviceId, .cleared⟩)
    (recoveries : after.recoveries = Function.update world.recoveries deviceId none) :
    after.Single := by
  obtain ⟨bound, _⟩ := List.getElem?_eq_some_iff.mp found
  have was : world.recoveries deviceId = some index :=
    single.owned deviceId index ⟨stage, found, uncleared⟩
  have others : ∀ target other, other ≠ index →
      (after.Uncleared other target ↔ world.Uncleared other target) := by
    intro target other elsewhere
    simp [Uncleared, calls, List.getElem?_set_ne (Ne.symm elsewhere)]
  refine ⟨fits, ?_, ?_⟩
  · intro target other entered
    rw [recoveries] at entered
    by_cases here : target = deviceId
    · subst here
      simp at entered
    · have entered : world.recoveries target = some other := by simpa [here] using entered
      have entry := single.entry target other entered
      have elsewhere : other ≠ index := by
        rintro rfl
        obtain ⟨stage', there, _⟩ := entry
        rw [found] at there
        cases there
        exact here rfl
      exact (others target other elsewhere).mpr entry
  · intro target other alive
    have elsewhere : other ≠ index := by
      rintro rfl
      obtain ⟨stage', there, alive⟩ := alive
      rw [calls, List.getElem?_set_self bound] at there
      cases there
      exact alive rfl
    have owned := single.owned target other ((others target other elsewhere).mp alive)
    have apart : target ≠ deviceId := by
      rintro rfl
      rw [was] at owned
      exact elsewhere (Option.some.inj owned).symm
    rw [recoveries]
    simpa [apart] using owned

/-- **Every step that does not call `_spawn_recovery` while a callback is pending keeps the
invariant.** -/
theorem step (single : world.Single) (collected : world.Collected action)
    (effect : CallEffect world action after) : after.Single := by
  have fits := single.fits.step effect
  cases effect with
  | still calls recoveries =>
    refine single.frame fits (fun deviceId index => ?_) recoveries
    rw [Uncleared, Uncleared, calls]
  | joined more calls others recoveries =>
    exact single.frame fits (fun deviceId index =>
      uncleared_append (fun call member => (others call member).1) calls rfl index) recoveries
  | moved index call stage found live calls uncleared keeps recoveries =>
    have alive : call.stage ≠ .cleared := by
      intro cleared
      rw [cleared] at live
      cases live
    exact single.frame fits (fun deviceId other =>
      uncleared_set found alive uncleared calls other) recoveries
  | spawned index call found at_ idle due clear calls recoveries =>
    have none := single.no_entry found at_ idle due (clear collected)
    have alive : call.stage ≠ .cleared := by
      rcases at_ with at_ | at_ <;> rw [at_] <;> exact nofun
    -- First the call that spawns ends; then the episode is added.
    generalize ended : ({ world with
      calls := world.calls.set index { call with stage := .returned } } : HealthWorld) = middle
    have middle_calls : middle.calls = world.calls.set index { call with stage := .returned } :=
      by rw [← ended]
    have same : ∀ deviceId other, middle.Uncleared other deviceId ↔
        world.Uncleared other deviceId := fun deviceId other =>
      uncleared_set found alive (by exact nofun) middle_calls other
    exact single.spawned fits none same (by simp [middle_calls]) (by rw [calls, middle_calls])
      recoveries
  | cleared index target stage found uncleared calls recoveries =>
    exact single.cleared fits found uncleared calls recoveries

/-- The invariant holds in every state of a run that never calls `_spawn_recovery` while a
callback is pending. -/
theorem run {start : HealthWorld} (fresh : start.Fresh)
    (run : Run (HealthWorld.step config) Collected start world) : world.Single :=
  run.invariant Single (.fresh fresh) fun _ single collected taken =>
    single.step collected (step_call taken)

/-- An unfinished episode is the entry of its device. -/
theorem entered (single : world.Single) (unfinished : world.Unfinished index deviceId) :
    world.recoveries deviceId = some index := by
  obtain ⟨stage, found, alive⟩ := unfinished
  refine single.owned deviceId index ⟨stage, found, ?_⟩
  rintro rfl
  cases alive

end Single

/-- **At most one episode runs for each device**, and it is the entry of `_recoveries`, in every
run that never calls `_spawn_recovery` while the callback of the entry is pending. -/
theorem one_episode {config : HealthConfig} {start world : HealthWorld} (fresh : start.Fresh)
    (run : Run (step config) Collected start world) :
    (∀ deviceId first second, world.Unfinished first deviceId →
        world.Unfinished second deviceId → first = second) ∧
      ∀ deviceId index, world.Unfinished index deviceId →
        world.recoveries deviceId = some index := by
  have single := Single.run fresh run
  refine ⟨fun deviceId first second one two => ?_, fun deviceId index => single.entered⟩
  have entered := single.entered one
  rw [single.entered two] at entered
  exact (Option.some.inj entered).symm

/-- The phone is quarantined and an episode restores it; while the sink has that event the
phone is quarantined again. -/
def secondOutage : List HealthAction :=
  [.quarantine 0 "phone-a" "no session", .write, .resume 0 .announced, .resume 1 .run,
    .resume 1 (.reconnected true), .resume 1 (.probed true), .write,
    .quarantine 1 "phone-a" "no session", .write, .resume 1 .announced]

/-- The callback of the first episode runs before the second outage spawns the next one. -/
theorem one_episode_secondOutage : ∃ world : HealthWorld, world.Unfinished 3 "phone-a" ∧
    (∀ deviceId first second, world.Unfinished first deviceId →
      world.Unfinished second deviceId → first = second) ∧
    ∀ deviceId index, world.Unfinished index deviceId →
      world.recoveries deviceId = some index := by
  have passed : (Transition.execute (Transition.guarded (step {}) Collected) lonePhone
      (secondOutage ++ [.callback 1, .resume 2 .announced])).any (fun world =>
        decide (world.calls[3]? = some ⟨.episode, "phone-a", .recovering⟩)) = true := by
    decide +kernel
  obtain ⟨world, run, shown⟩ := Transition.reaches passed
  have spawned : world.calls[3]? = some ⟨.episode, "phone-a", .recovering⟩ :=
    of_decide_eq_true shown
  exact ⟨world, ⟨.recovering, spawned, rfl⟩, one_episode ⟨rfl, rfl, rfl, rfl⟩ run⟩

/-- **Two episodes can run for one device.** The second outage spawns an episode while the
callback of the first is pending; the callback removes the entry of the new episode, and the
next failed probe spawns another one beside it. -/
theorem two_episodes : ∃ world : HealthWorld,
    Run (step {}) (fun _ _ => True) lonePhone world ∧ world.Unfinished 3 "phone-a" ∧
    world.Unfinished 5 "phone-a" ∧ world.recoveries "phone-a" = some 5 := by
  have passed : (Transition.execute (Transition.guarded (step {}) fun _ _ => True) lonePhone
      (secondOutage ++ [.resume 2 .announced, .callback 1, .sweep, .resume 4 .run,
        .resume 4 (.probed false)])).any (fun world =>
        decide (world.calls[3]? = some ⟨.episode, "phone-a", .recovering⟩ ∧
          world.calls[5]? = some ⟨.episode, "phone-a", .recovering⟩ ∧
          world.recoveries "phone-a" = some 5)) = true := by
    decide +kernel
  obtain ⟨world, run, shown⟩ := Transition.reaches passed
  obtain ⟨first, second, entry⟩ : world.calls[3]? = some ⟨.episode, "phone-a", .recovering⟩ ∧
      world.calls[5]? = some ⟨.episode, "phone-a", .recovering⟩ ∧
      world.recoveries "phone-a" = some 5 := of_decide_eq_true shown
  exact ⟨world, run, ⟨.recovering, first, rfl⟩, ⟨.recovering, second, rfl⟩, entry⟩

end HealthWorld

end DeviceOrchestrator
