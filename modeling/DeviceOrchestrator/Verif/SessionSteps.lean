import Mathlib.Data.List.Nodup
import DeviceOrchestrator.Core.Session

/-!
# What a step of the session manager does

`Stepped` says once what each action can do, guards included; `stepped` is its proof. `Consistent`
is what holds between the table, the calls inside the locks and what the factories were asked to
do: a call inside a lock is alone there, so only `invalidate` and `close_all` change the entry of
its key while it is suspended.
-/
namespace DeviceOrchestrator

open Transition (Run)

namespace EnsureStage

/-- The call is inside with no handle: it is closing or opening. -/
def bare : EnsureStage → Bool
  | closing _ | opening _ _ | sleeping _ _ _ => true
  | _ => false

/-- The call opens, sleeps or has raised. -/
def plain : EnsureStage → Bool
  | opening _ _ | sleeping _ _ _ | raised _ => true
  | _ => false

end EnsureStage

namespace SessionWorld

/-- One step as it was taken. -/
abbrev Taken := Transition.Taken SessionWorld SessionAction

/-- **What one step does.** -/
inductive Stepped (config : SessionConfig) (world : SessionWorld) :
    SessionAction → SessionWorld → Prop
  /-- `ensure` is called. -/
  | ensured (deviceId : DeviceId) (kind : String) (deadline : Rat) :
      Stepped config world (.ensure deviceId kind deadline)
        { world with calls := world.calls ++ [⟨deviceId, kind, deadline, .locking⟩] }
  /-- `invalidate` or `close_all`. -/
  | dropped (action : SessionAction) (foreign : ∀ index answer, action ≠ .resume index answer) :
      Stepped config world action (world.drop action)
  /-- Time passes. -/
  | ticked (elapsedS : Rat) :
      Stepped config world (.tick elapsedS) { world with now := world.now + elapsedS }
  /-- A call goes inside and checks the cached handle. -/
  | checks {index : Nat} {call : EnsureCall} {handle : ManagedHandle}
      (found : world.calls[index]? = some call) (waits : call.stage = .locking)
      (clear : world.free call.key = true) (cached : world.sessions call.key = some handle) :
      Stepped config world (.resume index .locked) (world.move index call (.checking handle))
  /-- A call goes inside and discards the cached handle for its age. -/
  | expires {index : Nat} {call : EnsureCall} {handle : ManagedHandle}
      (found : world.calls[index]? = some call) (waits : call.stage = .locking)
      (clear : world.free call.key = true) (cached : world.sessions call.key = some handle) :
      Stepped config world (.resume index .locked) (world.discard index call handle)
  /-- A call goes inside and finds no handle. -/
  | misses {index : Nat} {call : EnsureCall} {stage : EnsureStage}
      (found : world.calls[index]? = some call) (waits : call.stage = .locking)
      (clear : world.free call.key = true) (cached : world.sessions call.key = none)
      (plain : stage.plain = true) :
      Stepped config world (.resume index .locked) (world.move index call stage)
  /-- The check answers `True`. -/
  | passes {index : Nat} {call : EnsureCall} {handle : ManagedHandle}
      (found : world.calls[index]? = some call) (checking : call.stage = .checking handle) :
      Stepped config world (.resume index (.checked true))
        (world.move index call (.returned handle))
  /-- The check answers `False`. -/
  | fails {index : Nat} {call : EnsureCall} {handle : ManagedHandle}
      (found : world.calls[index]? = some call) (checking : call.stage = .checking handle) :
      Stepped config world (.resume index (.checked false)) (world.discard index call handle)
  /-- A driver is opened. -/
  | stores {index number : Nat} {call : EnsureCall} {id : String} {lastError : Option String}
      (found : world.calls[index]? = some call)
      (opening : call.stage = .opening number lastError) :
      Stepped config world (.resume index (.opened id)) (world.store index call id)
  /-- A call inside with no handle goes on. -/
  | goes {index : Nat} {call : EnsureCall} {answer : EnsureAnswer} {stage : EnsureStage}
      (found : world.calls[index]? = some call) (bare : call.stage.bare = true)
      (plain : stage.plain = true) (asked : ∀ ok, answer ≠ .checked ok) :
      Stepped config world (.resume index answer) (world.move index call stage)
  /-- A call is cancelled. -/
  | cancels {index : Nat} {call : EnsureCall}
      (found : world.calls[index]? = some call) :
      Stepped config world (.resume index .cancelled) (world.move index call (.raised .cancelled))

section
variable {config : SessionConfig} {world after : SessionWorld} {action : SessionAction}

/-- The head of the loop opens or raises. -/
theorem attempt_plain (config : SessionConfig) (world : SessionWorld) (call : EnsureCall)
    (number : Nat) (lastError : Option String) :
    (world.attempt config call number lastError).plain = true := by
  unfold attempt
  split
  · rfl
  · split <;> rfl

/-- A failed open raises or sleeps. -/
theorem openFailed_plain (config : SessionConfig) (world : SessionWorld) (call : EnsureCall)
    (number : Nat) (reason : String) :
    (world.openFailed config call number reason).plain = true := by
  unfold openFailed
  split
  · rfl
  · split <;> rfl

/-- Every step does one of these. -/
theorem stepped (taken : step config world action = some after) :
    Stepped config world action after := by
  cases action with
  | ensure deviceId kind deadline =>
    obtain rfl := Option.some.inj taken
    exact .ensured deviceId kind deadline
  | invalidate deviceId kind =>
    obtain rfl := Option.some.inj taken
    exact .dropped _ nofun
  | closeAll =>
    obtain rfl := Option.some.inj taken
    exact .dropped _ nofun
  | tick elapsedS =>
    simp only [step] at taken
    split at taken
    · obtain rfl := Option.some.inj taken
      exact .ticked elapsedS
    · cases taken
  | resume index answer =>
    simp only [step] at taken
    split at taken
    · cases taken
    · rename_i call found
      unfold resume at taken
      split at taken
      · rename_i waits
        split at taken
        · rename_i clear
          obtain rfl := Option.some.inj taken
          unfold enter
          split
          · rename_i cached
            exact .misses found waits clear cached (attempt_plain _ _ _ _ _)
          · rename_i handle cached
            split
            · exact .expires found waits clear cached
            · exact .checks found waits clear cached
        · cases taken
      · rename_i handle ok checking
        obtain rfl := Option.some.inj taken
        cases ok with
        | true => exact .passes found checking
        | false => exact .fails found checking
      · rename_i handle closing
        obtain rfl := Option.some.inj taken
        exact .goes found (by rw [closing]; rfl) (attempt_plain _ _ _ _ _) nofun
      · rename_i number lastError id opening
        obtain rfl := Option.some.inj taken
        exact .stores found opening
      · rename_i number lastError reason opening
        obtain rfl := Option.some.inj taken
        exact .goes found (by rw [opening]; rfl) (openFailed_plain _ _ _ _ _) nofun
      · rename_i number delayS lastError sleeping
        obtain rfl := Option.some.inj taken
        exact .goes found (by rw [sleeping]; rfl) (attempt_plain _ _ _ _ _) nofun
      · split at taken
        · cases taken
        · obtain rfl := Option.some.inj taken
          exact .cancels found
      · cases taken

end

/-- What holds of the handle of a call. -/
def Settled (world : SessionWorld) (call : EnsureCall) : Prop :=
  match call.stage with
  | .checking handle =>
    handle ∈ world.opened ∧ handle.key = call.key ∧ handle.driver ∉ world.closed ∧
      (world.sessions call.key = some handle ∨ world.sessions call.key = none)
  | .returned handle => handle ∈ world.opened ∧ handle.key = call.key
  | .closing _ | .opening _ _ | .sleeping _ _ _ => world.sessions call.key = none
  | .locking | .raised _ => True

/-- The handles opened under a key, in order. -/
def openedFor (world : SessionWorld) (key : SessionKey) : List ManagedHandle :=
  world.opened.filter fun handle => handle.key = key

/-- **What holds of the manager in every run.** -/
structure Consistent (world : SessionWorld) : Prop where
  /-- No two calls are inside the lock of one key. -/
  exclusive : Mutex.Exclusive EnsureCall.key EnsureCall.inside world.calls
  /-- A driver is the number of its open. -/
  numbered : ∀ (driver : Nat) (handle : ManagedHandle), world.opened[driver]? = some handle →
    handle.driver = driver
  /-- The generations of a key count its opens. -/
  counted : ∀ key, (world.openedFor key).map (fun handle => handle.generation) =
    List.range' 1 (world.generations key)
  /-- A cached handle was opened under its key and is not closed. -/
  cached : ∀ key handle, world.sessions key = some handle →
    handle ∈ world.opened ∧ handle.key = key ∧ handle.driver ∉ world.closed
  /-- What holds of each call. -/
  settled : ∀ (index : Nat) (call : EnsureCall), world.calls[index]? = some call →
    world.Settled call
  /-- No driver is closed twice. -/
  closedOnce : world.closed.Nodup
  /-- Only opened drivers are closed. -/
  closedOpened : ∀ driver ∈ world.closed, driver < world.opened.length

section
variable {config : SessionConfig} {world after : SessionWorld} {action : SessionAction}
variable {index : Nat} {call : EnsureCall} {handle : ManagedHandle} {stage : EnsureStage}

/-- A handle that was opened stands at the number of its driver. -/
theorem Consistent.known (consistent : Consistent world) (member : handle ∈ world.opened) :
    world.opened[handle.driver]? = some handle := by
  obtain ⟨slot, there⟩ := List.getElem?_of_mem member
  have same := consistent.numbered slot handle there
  rwa [same]

/-- A driver has one handle. -/
theorem Consistent.handle_unique (consistent : Consistent world) {other : ManagedHandle}
    (member : handle ∈ world.opened) (member' : other ∈ world.opened)
    (same : handle.driver = other.driver) : handle = other := by
  have there := consistent.known member
  rw [same, consistent.known member'] at there
  exact (Option.some.inj there).symm

/-- A call that is inside, or enters a free lock, is the only one inside. -/
theorem Consistent.alone (consistent : Consistent world)
    (found : world.calls[index]? = some call)
    (holds : call.inside = true ∨ world.free call.key = true) {other : Nat} {call' : EnsureCall}
    (apart : other ≠ index) (found' : world.calls[other]? = some call')
    (within : call'.inside = true) : call'.key ≠ call.key := by
  rcases holds with before | clear
  · intro same
    exact apart (consistent.exclusive other index call' call found' found within before same)
  · exact Mutex.outside clear found' within

/-- What holds of a call stays when its entry stays or goes and its handles stay open. -/
theorem Settled.frame (settled : world.Settled call) (opened : world.opened ⊆ after.opened)
    (entry : call.inside = true → after.sessions call.key = world.sessions call.key ∨
      after.sessions call.key = none)
    (kept : call.inside = true → ∀ handle ∈ world.opened, handle.key = call.key →
      handle.driver ∉ world.closed → handle.driver ∉ after.closed) : after.Settled call := by
  obtain ⟨deviceId, kind, deadline, stage⟩ := call
  have barely : world.sessions (deviceId, kind) = none →
      (after.sessions (deviceId, kind) = world.sessions (deviceId, kind) ∨
        after.sessions (deviceId, kind) = none) → after.sessions (deviceId, kind) = none := by
    rintro before (same | gone)
    · rw [same, before]
    · exact gone
  cases stage with
  | locking => trivial
  | raised error => trivial
  | closing handle => exact barely settled (entry rfl)
  | opening attempt lastError => exact barely settled (entry rfl)
  | sleeping attempt delayS lastError => exact barely settled (entry rfl)
  | returned handle => exact ⟨opened settled.1, settled.2⟩
  | checking handle =>
    obtain ⟨member, key, still, before⟩ := settled
    refine ⟨opened member, key, kept rfl handle member key still, ?_⟩
    rcases entry rfl with same | gone
    · rw [same]
      exact before
    · exact .inr gone

/-- A call moves. -/
theorem Consistent.move (consistent : Consistent world)
    (found : world.calls[index]? = some call)
    (holds : stage.inside = true → call.inside = true ∨ world.free call.key = true)
    (settled : world.Settled { call with stage := stage }) :
    Consistent (world.move index call stage) where
  exclusive := by
    refine Mutex.Exclusive.set consistent.exclusive found rfl fun within => ?_
    rcases holds within with before | clear
    · exact .inl before
    · exact .inr fun other call' found' within' => Mutex.outside clear found' within'
  numbered := consistent.numbered
  counted := consistent.counted
  cached := consistent.cached
  settled := by
    intro other call' found'
    rcases Slots.getElem?_rewritten found' with ⟨-, rfl⟩ | ⟨-, earlier⟩
    · exact settled
    · exact consistent.settled other call' earlier
  closedOnce := consistent.closedOnce
  closedOpened := consistent.closedOpened

/-- A call discards the cached handle. -/
theorem Consistent.discard (consistent : Consistent world)
    (found : world.calls[index]? = some call)
    (holds : call.inside = true ∨ world.free call.key = true) (member : handle ∈ world.opened)
    (key : handle.key = call.key) (still : handle.driver ∉ world.closed) :
    Consistent (world.discard index call handle) where
  exclusive := by
    refine Mutex.Exclusive.set consistent.exclusive found rfl fun _ => ?_
    rcases holds with before | clear
    · exact .inl before
    · exact .inr fun other call' found' within' => Mutex.outside clear found' within'
  numbered := consistent.numbered
  counted := consistent.counted
  cached := by
    intro wanted other there
    by_cases own : wanted = call.key
    · subst own
      simp [SessionWorld.discard] at there
    · have before : world.sessions wanted = some other := by
        simpa [SessionWorld.discard, Function.update_of_ne own] using there
      obtain ⟨member', key', still'⟩ := consistent.cached wanted other before
      refine ⟨member', key', ?_⟩
      simp only [SessionWorld.discard, List.mem_append, List.mem_singleton, not_or]
      refine ⟨still', fun same => own ?_⟩
      obtain rfl := consistent.handle_unique member' member same
      exact key'.symm.trans key
  settled := by
    intro other call' found'
    rcases Slots.getElem?_rewritten found' with ⟨-, rfl⟩ | ⟨apart, earlier⟩
    · exact Function.update_self _ _ _
    · have away : call'.inside = true → call'.key ≠ call.key :=
        consistent.alone found holds apart earlier
      refine (consistent.settled other call' earlier).frame (List.Subset.refl _) ?_ ?_
      · intro within
        exact .inl (Function.update_of_ne (away within) _ _)
      · intro within handle' member' key' still'
        simp only [SessionWorld.discard, List.mem_append, List.mem_singleton, not_or]
        refine ⟨still', fun same => away within ?_⟩
        obtain rfl := consistent.handle_unique member' member same
        exact key'.symm.trans key
  closedOnce := List.nodup_append.mpr ⟨consistent.closedOnce, List.nodup_singleton _, by
    rintro driver earlier _ last rfl
    obtain rfl := List.mem_singleton.mp last
    exact still earlier⟩
  closedOpened := by
    intro driver earlier
    rcases List.mem_append.mp earlier with before | last
    · exact consistent.closedOpened driver before
    · obtain rfl := List.mem_singleton.mp last
      exact (List.getElem?_eq_some_iff.mp (consistent.known member)).1

/-- A call stores a new handle. -/
theorem Consistent.store (consistent : Consistent world)
    (found : world.calls[index]? = some call) (within : call.inside = true) (id : String) :
    Consistent (world.store index call id) where
  exclusive := Mutex.Exclusive.set consistent.exclusive found rfl (fun _ => .inl within)
  numbered := by
    intro driver handle there
    rcases Slots.getElem?_concat there with ⟨rfl, rfl⟩ | ⟨-, earlier⟩
    · rfl
    · exact consistent.numbered driver handle earlier
  counted := by
    intro key
    have before := consistent.counted key
    by_cases own : key = call.key
    · subst own
      simp only [openedFor, SessionWorld.store, Function.update_self, List.filter_append,
        List.map_append] at before ⊢
      have next : (world.made call id).generation = world.generations call.key + 1 := rfl
      rw [before, next, List.range'_1_concat]
      simp [made, ManagedHandle.key, EnsureCall.key, Nat.add_comm]
    · have other : (world.made call id).key ≠ key := Ne.symm own
      simp only [openedFor, SessionWorld.store, Function.update_of_ne own, List.filter_append,
        List.map_append] at before ⊢
      simp [before, other]
  cached := by
    intro wanted handle there
    by_cases own : wanted = call.key
    · subst own
      obtain rfl : world.made call id = handle := by
        simpa [SessionWorld.store] using there
      refine ⟨List.mem_append_right _ (List.mem_singleton.mpr rfl), rfl, fun closed => ?_⟩
      exact absurd (consistent.closedOpened _ closed) (lt_irrefl _)
    · have before : world.sessions wanted = some handle := by
        simpa [SessionWorld.store, Function.update_of_ne own] using there
      obtain ⟨member, key, still⟩ := consistent.cached wanted handle before
      exact ⟨List.mem_append_left _ member, key, still⟩
  settled := by
    intro other call' found'
    rcases Slots.getElem?_rewritten found' with ⟨-, rfl⟩ | ⟨apart, earlier⟩
    · exact ⟨List.mem_append_right _ (List.mem_singleton.mpr rfl), rfl⟩
    · refine (consistent.settled other call' earlier).frame (List.subset_append_left _ _) ?_ ?_
      · intro within'
        exact .inl (Function.update_of_ne
          (consistent.alone found (.inl within) apart earlier within') _ _)
      · intro _ _ _ _ still
        exact still
  closedOnce := consistent.closedOnce
  closedOpened := by
    intro driver closed
    have before := consistent.closedOpened driver closed
    simp only [SessionWorld.store, List.length_append, List.length_singleton]
    omega

/-- `invalidate` and `close_all` drop entries. -/
theorem Consistent.drop (consistent : Consistent world) (action : SessionAction) :
    Consistent (world.drop action) where
  exclusive := consistent.exclusive
  numbered := consistent.numbered
  counted := consistent.counted
  cached := by
    intro key handle there
    simp only [SessionWorld.drop] at there
    split at there
    · cases there
    · exact consistent.cached key handle there
  settled := by
    intro index call found
    refine (consistent.settled index call found).frame (List.Subset.refl _) ?_ ?_
    · intro _
      simp only [SessionWorld.drop]
      split
      · exact .inr rfl
      · exact .inl rfl
    · intro _ _ _ _ still
      exact still
  closedOnce := consistent.closedOnce
  closedOpened := consistent.closedOpened

/-- A call of `ensure` begins. -/
theorem Consistent.ensured (consistent : Consistent world)
    (waits : call.stage = .locking) :
    Consistent { world with calls := world.calls ++ [call] } where
  exclusive := consistent.exclusive.concat (by rw [EnsureCall.inside, waits]; rfl)
  numbered := consistent.numbered
  counted := consistent.counted
  cached := consistent.cached
  settled := by
    intro index call' found
    rcases Slots.getElem?_concat found with ⟨-, rfl⟩ | ⟨-, earlier⟩
    · simp [Settled, waits]
    · exact consistent.settled index call' earlier
  closedOnce := consistent.closedOnce
  closedOpened := consistent.closedOpened

/-- A call that is bare has no cached handle. -/
theorem Consistent.bare (consistent : Consistent world)
    (found : world.calls[index]? = some call) (bare : call.stage.bare = true) :
    world.sessions call.key = none := by
  have settled := consistent.settled index call found
  obtain ⟨deviceId, kind, deadline, stage⟩ := call
  cases stage with
  | closing handle => exact settled
  | opening attempt lastError => exact settled
  | sleeping attempt delayS lastError => exact settled
  | locking | checking | returned | raised => cases bare

/-- A plain stage holds of a call without a cached handle. -/
theorem settled_plain (plain : stage.plain = true) (empty : world.sessions call.key = none) :
    world.Settled { call with stage := stage } := by
  cases stage with
  | opening attempt lastError => exact empty
  | sleeping attempt delayS lastError => exact empty
  | raised error => trivial
  | locking | checking | closing | returned => cases plain

/-- A bare call is inside. -/
theorem inside_of_bare (bare : call.stage.bare = true) : call.inside = true := by
  obtain ⟨deviceId, kind, deadline, stage⟩ := call
  cases stage <;> first
    | rfl
    | cases bare

/-- What a call checks was opened under its key and is not closed. -/
theorem Consistent.checking (consistent : Consistent world)
    (found : world.calls[index]? = some call) (checking : call.stage = .checking handle) :
    handle ∈ world.opened ∧ handle.key = call.key ∧ handle.driver ∉ world.closed ∧
      (world.sessions call.key = some handle ∨ world.sessions call.key = none) := by
  have settled := consistent.settled index call found
  rwa [Settled, checking] at settled

/-- **Every step keeps the manager consistent.** -/
theorem Consistent.step (consistent : Consistent world)
    (taken : SessionWorld.step config world action = some after) : Consistent after := by
  cases stepped taken with
  | ensured deviceId kind deadline => exact consistent.ensured rfl
  | dropped foreign => exact consistent.drop action
  | ticked elapsedS => exact { consistent with }
  | checks found waits clear cached =>
    obtain ⟨member, key, still⟩ := consistent.cached _ _ cached
    exact consistent.move found (fun _ => .inr clear) ⟨member, key, still, .inl cached⟩
  | expires found waits clear cached =>
    obtain ⟨member, key, still⟩ := consistent.cached _ _ cached
    exact consistent.discard found (.inr clear) member key still
  | misses found waits clear cached plain =>
    exact consistent.move found (fun _ => .inr clear) (settled_plain plain cached)
  | passes found checking =>
    obtain ⟨member, key, -⟩ := consistent.checking found checking
    exact consistent.move found (fun within => by cases within) ⟨member, key⟩
  | fails found checking =>
    obtain ⟨member, key, still, -⟩ := consistent.checking found checking
    exact consistent.discard found (.inl (by rw [EnsureCall.inside, checking]; rfl)) member key
      still
  | stores found opening =>
    exact consistent.store found (by rw [EnsureCall.inside, opening]; rfl) _
  | goes found bare plain asked =>
    exact consistent.move found (fun _ => .inl (inside_of_bare bare))
      (settled_plain plain (consistent.bare found bare))
  | cancels found => exact consistent.move found (fun within => by cases within) trivial

/-- A new manager is consistent. -/
theorem consistent_new : Consistent {} where
  exclusive := Mutex.Exclusive.nil
  numbered := by
    intro driver handle there
    simp at there
  counted _ := rfl
  cached := nofun
  settled := by
    intro index call found
    simp at found
  closedOnce := List.nodup_nil
  closedOpened := nofun

/-- **The manager is consistent in every run.** -/
theorem consistent_run (run : Run (step config) (fun _ _ => True) {} world) :
    Consistent world :=
  run.invariant Consistent consistent_new fun _ consistent _ taken => consistent.step taken

end

end SessionWorld

end DeviceOrchestrator
