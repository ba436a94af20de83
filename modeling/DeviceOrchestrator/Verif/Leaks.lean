import DeviceOrchestrator.Verif.Sessions

/-!
# Sessions that are lost

`_discard` closes what it takes from the table, and `invalidate` and `close_all` do not. A driver
is safe while its handle is cached, its check is awaited or it was passed to `factory.close`.
`step_safe` says that a driver becomes unsafe only when its handle is dropped outside a check, or
when a check overtaken by a drop answers `True`; an unsafe driver stays unsafe.
-/
namespace DeviceOrchestrator

open Transition (History Throughout)

/-- The action cancels a call. -/
def SessionAction.cancels : SessionAction → Bool
  | resume _ .cancelled => true
  | _ => false

namespace SessionWorld

/-- A driver is in the table. -/
def Held (world : SessionWorld) (driver : Nat) : Prop :=
  ∃ key handle, world.sessions key = some handle ∧ handle.driver = driver

/-- **Every driver ever opened is in the table or was closed exactly once.** -/
def Accounted (world : SessionWorld) : Prop :=
  ∀ driver < world.opened.length, world.Held driver ∨ world.closed.count driver = 1

/-- No call is in progress. -/
def Quiet (world : SessionWorld) : Prop := ∀ call ∈ world.calls, call.stage.finished = true

instance (world : SessionWorld) : Decidable world.Quiet :=
  inferInstanceAs (Decidable (∀ call ∈ world.calls, call.stage.finished = true))

/-- A driver is cached, closed or under check. -/
def Safe (world : SessionWorld) (handle : ManagedHandle) : Prop :=
  world.sessions handle.key = some handle ∨ handle.driver ∈ world.closed ∨
    ∃ call ∈ world.calls, call.stage = .checking handle

/-- The action drops only handles under check. -/
def DropsChecked (taken : Taken) : Prop :=
  ∀ handle ∈ taken.before.opened, taken.action.drops handle.key = true →
    taken.before.sessions handle.key = some handle →
    ∃ call ∈ taken.before.calls, call.stage = .checking handle

/-- Handles are dropped only during checks that do not answer `True`. -/
def Careful (earlier : List Taken) (taken : Taken) : Prop :=
  DropsChecked taken ∧ Undisturbed earlier taken

instance (earlier : List Taken) (taken : Taken) : Decidable (Careful earlier taken) := by
  unfold Careful DropsChecked
  infer_instance

section
variable {config : SessionConfig} {world after : SessionWorld} {action : SessionAction}
variable {index : Nat} {call : EnsureCall} {handle : ManagedHandle} {past : List Taken}

/-- A check stays awaited when another call moves. -/
theorem checking_kept (found : world.calls[index]? = some call)
    (other : call.stage ≠ .checking handle) (new : EnsureCall)
    (checked : ∃ call ∈ world.calls, call.stage = .checking handle) :
    ∃ call ∈ world.calls.set index new, call.stage = .checking handle := by
  obtain ⟨holder, member, checking⟩ := checked
  obtain ⟨slot, there⟩ := List.getElem?_of_mem member
  have apart : index ≠ slot := by
    rintro rfl
    obtain rfl := Option.some.inj (found.symm.trans there)
    exact other checking
  have kept : (world.calls.set index new)[slot]? = some holder := by
    rw [List.getElem?_set_ne apart, there]
  exact ⟨holder, List.mem_of_getElem? kept, checking⟩

/-- A driver stays safe when a call that does not check it moves. -/
theorem Safe.move (safe : world.Safe handle) (found : world.calls[index]? = some call)
    (other : call.stage ≠ .checking handle) (stage : EnsureStage) :
    (world.move index call stage).Safe handle := by
  rcases safe with cached | closed | checked
  · exact .inl cached
  · exact .inr (.inl closed)
  · exact .inr (.inr (checking_kept found other _ checked))

/-- A driver stays safe when a call discards a handle, its own or another. -/
theorem Safe.discard (safe : world.Safe handle) (found : world.calls[index]? = some call)
    {old : ManagedHandle}
    (entry : world.sessions call.key = some old ∨ world.sessions call.key = none)
    (mine : ∀ handle, call.stage = .checking handle → handle = old) :
    (world.discard index call old).Safe handle := by
  by_cases own : handle = old
  · subst own
    exact .inr (.inl (List.mem_append_right _ (List.mem_singleton.mpr rfl)))
  · rcases safe with cached | closed | checked
    · left
      have away : handle.key ≠ call.key := by
        intro same
        rw [same] at cached
        rcases entry with there | empty
        · exact own (Option.some.inj (cached.symm.trans there))
        · rw [cached] at empty
          cases empty
      rw [← cached]
      exact Function.update_of_ne away _ _
    · exact .inr (.inl (List.mem_append_left _ closed))
    · exact .inr (.inr (checking_kept found (fun checking => own (mine handle checking)) _
        checked))

/-- A driver stays safe when another handle is stored. -/
theorem Safe.store (safe : world.Safe handle) (found : world.calls[index]? = some call)
    (other : call.stage ≠ .checking handle) (entry : world.sessions call.key = none)
    (id : String) : (world.store index call id).Safe handle := by
  rcases safe with cached | closed | checked
  · left
    have away : handle.key ≠ call.key := by
      intro same
      rw [same, entry] at cached
      cases cached
    rw [← cached]
    exact Function.update_of_ne away _ _
  · exact .inr (.inl closed)
  · exact .inr (.inr (checking_kept found other _ checked))

/-- **A careful step keeps every driver safe**, unless it is a cancellation. -/
theorem Safe.step (safe : world.Safe handle) (consistent : Consistent world)
    (watched : Watched past world) (member : handle ∈ world.opened)
    (stepped : Stepped config world action after) (lasting : action.cancels = false)
    (careful : Careful past ⟨world, action, after⟩) : after.Safe handle := by
  cases stepped with
  | ensured deviceId kind deadline =>
    rcases safe with cached | closed | ⟨call, there, checking⟩
    · exact .inl cached
    · exact .inr (.inl closed)
    · exact .inr (.inr ⟨call, List.mem_append_left _ there, checking⟩)
  | ticked elapsedS => exact safe
  | dropped _ foreign =>
    rcases safe with cached | closed | checked
    · cases dropped : action.drops handle.key with
      | true => exact .inr (.inr (careful.1 handle member dropped cached))
      | false =>
        left
        simp [drop, dropped, cached]
    · exact .inr (.inl closed)
    · exact .inr (.inr checked)
  | checks found waits | misses found waits =>
    exact safe.move found (by rw [waits]; exact (by simp)) _
  | expires found waits clear cached =>
    exact safe.discard found (.inl cached) (by rw [waits]; exact (by simp))
  | fails found checking =>
    refine safe.discard found (consistent.checking found checking).2.2.2 fun other same => ?_
    rw [checking] at same
    cases same
    rfl
  | stores found opening =>
    exact safe.store found (by rw [opening]; exact (by simp))
      (consistent.bare found (by rw [opening]; rfl)) _
  | goes found bare =>
    refine safe.move found (fun checking => ?_) _
    rw [checking] at bare
    cases bare
  | cancels found => cases lasting
  | @passes index call old found checking =>
    by_cases own : handle = old
    · subst own
      left
      obtain ⟨-, key, -⟩ := consistent.checking found checking
      rw [key]
      exact (watched.seen index call handle found checking).mpr careful.2
    · refine safe.move found (fun same => own ?_) _
      rw [checking] at same
      cases same
      rfl

/-- What a step closes was cached or under check. -/
theorem Stepped.closed (stepped : Stepped config world action after)
    (consistent : Consistent world) {driver : Nat} (closed : driver ∈ after.closed) :
    driver ∈ world.closed ∨ ∃ old ∈ world.opened, old.driver = driver ∧
      (world.sessions old.key = some old ∨ ∃ call ∈ world.calls, call.stage = .checking old) := by
  cases stepped with
  | @expires index call old found waits clear cached =>
    rcases List.mem_append.mp closed with before | last
    · exact .inl before
    · obtain ⟨member, key, -⟩ := consistent.cached _ _ cached
      refine .inr ⟨old, member, (List.mem_singleton.mp last).symm, .inl ?_⟩
      rw [key, cached]
  | @fails index call old found checking =>
    rcases List.mem_append.mp closed with before | last
    · exact .inl before
    · exact .inr ⟨old, (consistent.checking found checking).1, (List.mem_singleton.mp last).symm,
        .inr ⟨call, List.mem_of_getElem? found, checking⟩⟩
  | _ => exact .inl closed

/-- **A lost driver stays lost.** -/
theorem Safe.before (safe : after.Safe handle) (consistent : Consistent world)
    (member : handle ∈ world.opened) (stepped : Stepped config world action after) :
    world.Safe handle := by
  have cached : ∀ {key : SessionKey}, after.sessions key = some handle → world.Safe handle := by
    intro key there
    rcases stepped.sessions there with before | ⟨fresh, -⟩
    · obtain ⟨-, own, -⟩ := consistent.cached _ _ before
      exact .inl (by rw [own, before])
    · have bound := (List.getElem?_eq_some_iff.mp (consistent.known member)).1
      omega
  rcases safe with there | closed | ⟨call, there, checking⟩
  · exact cached there
  · rcases stepped.closed consistent closed with before | ⟨old, member', same, still⟩
    · exact .inr (.inl before)
    · obtain rfl := consistent.handle_unique member' member same
      rcases still with before | checked
      · exact .inl before
      · exact .inr (.inr checked)
  · obtain ⟨slot, found⟩ := List.getElem?_of_mem there
    rcases stepped.calls found with ⟨before, -⟩ | ⟨-, -, waits⟩ | ⟨old, answer, acts, -, -⟩
    · exact .inr (.inr ⟨call, List.mem_of_getElem? before, checking⟩)
    · rw [checking] at waits
      cases waits
    · obtain ⟨-, -, -, begun⟩ := stepped.begins acts found checking
      exact cached begun

/-- A handle that was just made is cached. -/
theorem Stepped.made (stepped : Stepped config world action after)
    (member : handle ∈ after.opened) :
    handle ∈ world.opened ∨ after.sessions handle.key = some handle := by
  cases stepped with
  | stores found opening =>
    rcases List.mem_append.mp member with before | last
    · exact .inl before
    · obtain rfl := List.mem_singleton.mp last
      exact .inr (Function.update_self _ _ _)
  | _ => exact .inl member

/-- A step after which every driver is safe was careful. -/
theorem careful_of_safe (consistent : Consistent world) (watched : Watched past world)
    (stepped : Stepped config world action after)
    (safe : ∀ handle ∈ world.opened, after.Safe handle) :
    Careful past ⟨world, action, after⟩ := by
  constructor
  · intro handle member drops cached
    cases stepped with
    | dropped _ foreign =>
      rcases safe handle member with there | closed | checked
      · dsimp only at drops
        simp [drop, drops] at there
      · exact absurd closed (consistent.cached _ _ cached).2.2
      · exact checked
    | _ => cases drops
  · unfold Undisturbed
    split
    · rename_i index acts
      obtain ⟨call, handle, found, checking, rfl⟩ := stepped.answered acts
      obtain ⟨member, key, still, -⟩ := consistent.checking found checking
      refine (watched.seen index call handle found checking).mp ?_
      rcases safe handle member with there | closed | ⟨other, there, checking'⟩
      · rw [← key]
        exact there
      · exact absurd closed still
      · obtain ⟨slot, found'⟩ := List.getElem?_of_mem there
        rcases Slots.getElem?_rewritten found' with ⟨-, rfl⟩ | ⟨apart, before⟩
        · cases checking'
        · have own := (consistent.checking before checking').2.1
          exact absurd (consistent.exclusive slot index other call before found
            (by rw [EnsureCall.inside, checking']; rfl) (by rw [EnsureCall.inside, checking]; rfl)
            (own.symm.trans key)) apart
    · trivial

/-- **What one step loses.** -/
theorem step_safe (consistent : Consistent world) (watched : Watched past world)
    (stepped : Stepped config world action after) (lasting : action.cancels = false) :
    (∀ handle ∈ after.opened, after.Safe handle) ↔
      Careful past ⟨world, action, after⟩ ∧ ∀ handle ∈ world.opened, world.Safe handle := by
  constructor
  · intro safe
    have kept : ∀ handle ∈ world.opened, after.Safe handle :=
      fun handle member => safe handle (stepped.opened member)
    exact ⟨careful_of_safe consistent watched stepped kept,
      fun handle member => (kept handle member).before consistent member stepped⟩
  · rintro ⟨careful, safe⟩ handle member
    rcases stepped.made member with before | cached
    · exact (safe handle before).step consistent watched before stepped lasting careful
    · exact .inl cached

/-- **The runs that lose no driver are the careful ones.** -/
theorem safe_iff (history : History (SessionWorld.step config)
      (fun _ action => action.cancels = false) {} past world) :
    (∀ handle ∈ world.opened, world.Safe handle) ↔ Throughout Careful past := by
  induction history with
  | refl => exact ⟨fun _ => trivial, nofun⟩
  | next earlier lasting taken ih =>
    obtain ⟨consistent, watched⟩ := watched_history earlier
    rw [step_safe consistent watched (stepped taken) lasting, ih]
    exact Iff.rfl

/-- When no call is in progress, a safe driver is in the table or was closed once. -/
theorem accounted_of_quiet (consistent : Consistent world) (quiet : Quiet world) :
    Accounted world ↔ ∀ handle ∈ world.opened, world.Safe handle := by
  constructor
  · intro accounted handle member
    have bound := (List.getElem?_eq_some_iff.mp (consistent.known member)).1
    rcases accounted handle.driver bound with ⟨key, other, there, same⟩ | once
    · obtain ⟨member', own, -⟩ := consistent.cached key other there
      obtain rfl := consistent.handle_unique member' member same
      exact .inl (by rw [own, there])
    · exact .inr (.inl (List.count_pos_iff.mp (by omega)))
  · intro safe driver bound
    have found : world.opened[driver]? = some world.opened[driver] :=
      List.getElem?_eq_getElem bound
    have number := consistent.numbered driver _ found
    rcases safe _ (List.mem_of_getElem? found) with cached | closed | ⟨call, there, checking⟩
    · exact .inl ⟨_, _, cached, number⟩
    · rw [number] at closed
      exact .inr (List.count_eq_one_of_mem consistent.closedOnce closed)
    · have finished := quiet call there
      rw [checking] at finished
      cases finished

/-- **No remote session is leaked** in exactly the runs that drop handles only during checks that
do not answer `True`. -/
theorem accounted_iff (history : History (SessionWorld.step config)
      (fun _ action => action.cancels = false) {} past world) (quiet : Quiet world) :
    Accounted world ↔ Throughout Careful past :=
  (accounted_of_quiet (watched_history history).1 quiet).trans (safe_iff history)

end

/-- A session is opened for the phone; a second call checks it, the monitor drops it meanwhile, and
the check answers. -/
def overtaken (ok : Bool) : List SessionAction :=
  [.ensure "phone-a" "android" 60, .resume 0 .locked, .resume 0 (.opened "sess-a"),
    .ensure "phone-a" "android" 60, .resume 1 .locked, .invalidate "phone-a" none,
    .resume 1 (.checked ok)] ++
  if ok then [] else [.resume 1 .closed, .resume 1 (.opened "sess-b")]

/-- A session dropped under a check that fails is closed by the check. -/
theorem accounted_iff_overtaken : ∃ (past : List Taken) (world : SessionWorld),
    world.closed = [0] ∧ (Accounted world ↔ Throughout Careful past) ∧
    Throughout Careful past := by
  have passed : (Transition.trace (Transition.guarded (step {}) fun _ action =>
      action.cancels = false) [] {} (overtaken false)).any (fun reached =>
        decide (reached.2.closed = [0] ∧ Quiet reached.2 ∧ Throughout Careful reached.1)) =
        true := by
    decide +kernel
  obtain ⟨past, world, history, shown⟩ := Transition.traces passed
  obtain ⟨closed, quiet, careful⟩ := of_decide_eq_true shown
  exact ⟨past, world, closed, accounted_iff history quiet, careful⟩

/-- **A session that is invalidated while nobody uses it is lost.** -/
theorem session_leaked : ∃ (past : List Taken) (world : SessionWorld),
    History (step {}) (fun _ action => action.cancels = false) {} past world ∧ Quiet world ∧
    world.opened.length = 1 ∧ world.closed = [] ∧ ¬Accounted world := by
  have passed : (Transition.trace (Transition.guarded (step {}) fun _ action =>
      action.cancels = false) [] {}
      [.ensure "phone-a" "android" 60, .resume 0 .locked, .resume 0 (.opened "sess-a"),
        .invalidate "phone-a" none]).any (fun reached =>
        decide (Quiet reached.2 ∧ reached.2.opened.length = 1 ∧ reached.2.closed = [] ∧
          ¬Throughout Careful reached.1)) = true := by
    decide +kernel
  obtain ⟨past, world, history, shown⟩ := Transition.traces passed
  obtain ⟨quiet, opened, closed, careless⟩ := of_decide_eq_true shown
  refine ⟨past, world, history, quiet, opened, closed, fun accounted => careless ?_⟩
  exact (safe_iff history).mp
    ((accounted_of_quiet (watched_history history).1 quiet).mp accounted)

end SessionWorld

end DeviceOrchestrator
