import DeviceOrchestrator.Verif.SessionSteps

/-!
# Which session `ensure` returns

Generations identify the sessions of a device and kind in every run. `invalidate` and `close_all`
take no lock, so they can drop a handle while a call awaits its check; `Watched` follows that, and
the runs in which `ensure` returns only the cached handle are exactly those in which no drop comes
during a check that answers `True`.
-/
namespace DeviceOrchestrator

open Transition (Run History Throughout)

namespace SessionWorld

/-! ## Generations -/

/-- **Generations identify sessions.** -/
structure Identified (world : SessionWorld) : Prop where
  /-- At most one open is in progress for each device and kind. -/
  oneOpen : ∀ (first second : Nat) (one two : EnsureCall) (attempt attempt' : Nat)
    (lastError lastError' : Option String), world.calls[first]? = some one →
    world.calls[second]? = some two → one.stage = .opening attempt lastError →
    two.stage = .opening attempt' lastError' → one.key = two.key → first = second
  /-- The sessions of each device and kind get generations 1, 2, 3, ... as they are opened. -/
  inOrder : ∀ key, (world.openedFor key).map (fun handle => handle.generation) =
    List.range' 1 (world.openedFor key).length
  /-- Handles returned for one device and kind have one generation, or one driver, exactly when
  they are the same. -/
  same : ∀ (first second : Nat) (one two : EnsureCall) (handle handle' : ManagedHandle),
    world.calls[first]? = some one → world.calls[second]? = some two →
    one.stage = .returned handle → two.stage = .returned handle' → one.key = two.key →
    (handle.generation = handle'.generation ↔ handle = handle') ∧
      (handle.driver = handle'.driver ↔ handle = handle')

section
variable {config : SessionConfig} {world after : SessionWorld} {action : SessionAction}
variable {index : Nat} {call new : EnsureCall} {handle : ManagedHandle} {past : List Taken}

/-- The handles of one key have different generations. -/
theorem Consistent.generation_unique (consistent : Consistent world) {other : ManagedHandle}
    (member : handle ∈ world.opened) (member' : other ∈ world.opened)
    (key : handle.key = other.key) (same : handle.generation = other.generation) :
    handle = other := by
  have distinct : ((world.openedFor handle.key).map fun handle => handle.generation).Nodup := by
    rw [consistent.counted]
    exact List.nodup_range'
  exact List.inj_on_of_nodup_map distinct (List.mem_filter.mpr ⟨member, by simp⟩)
    (List.mem_filter.mpr ⟨member', by simp [key]⟩) same

/-- What a call returned was opened under its key. -/
theorem Consistent.returned (consistent : Consistent world)
    (found : world.calls[index]? = some call) (returned : call.stage = .returned handle) :
    handle ∈ world.opened ∧ handle.key = call.key := by
  have settled := consistent.settled index call found
  rwa [Settled, returned] at settled

/-- Consistency is enough to identify sessions. -/
theorem Consistent.identified (consistent : Consistent world) : Identified world where
  oneOpen := by
    intro first second one two attempt attempt' lastError lastError' found found' opens opens' key
    exact consistent.exclusive first second one two found found'
      (by rw [EnsureCall.inside, opens]; rfl) (by rw [EnsureCall.inside, opens']; rfl) key
  inOrder := by
    intro key
    have counted := consistent.counted key
    have length := congrArg List.length counted
    rw [List.length_map, List.length_range'] at length
    rw [counted, length]
  same := by
    intro first second one two handle handle' found found' returned returned' key
    obtain ⟨member, own⟩ := consistent.returned found returned
    obtain ⟨member', own'⟩ := consistent.returned found' returned'
    have keys : handle.key = handle'.key := by rw [own, own', key]
    exact ⟨⟨consistent.generation_unique member member' keys, fun same => by rw [same]⟩,
      ⟨consistent.handle_unique member member', fun same => by rw [same]⟩⟩

/-- **Session generations identify sessions**, in every run of the manager. -/
theorem generations_identify (run : Run (step config) (fun _ _ => True) {} world) :
    Identified world :=
  (consistent_run run).identified

end

/-- A session is opened for the phone, dropped, and opened again by another call. -/
def reopened : List SessionAction :=
  [.ensure "phone-a" "android" 60, .resume 0 .locked, .resume 0 (.opened "sess-a"),
    .invalidate "phone-a" none, .ensure "phone-a" "android" 60, .resume 1 .locked,
    .resume 1 (.opened "sess-b")]

/-- The rebuilt session has the next generation. -/
theorem generations_identify_reopened : ∃ world : SessionWorld,
    world.opened.map (fun handle => (handle.driver, handle.generation)) = [(0, 1), (1, 2)] ∧
    Identified world := by
  have passed : (Transition.execute (Transition.guarded (step {}) fun _ _ => True) {}
      reopened).any (fun world =>
        decide (world.opened.map (fun handle => (handle.driver, handle.generation)) =
          [(0, 1), (1, 2)])) = true := by
    decide +kernel
  obtain ⟨world, run, shown⟩ := Transition.reaches passed
  exact ⟨world, of_decide_eq_true shown, generations_identify run⟩

/-! ## What is dropped during a check -/

/-- The handle of a call was dropped while the call awaited its check. -/
def disturbed (past : List Taken) (index : Nat) : Bool :=
  past.any fun taken => taken.before.calls[index]?.any fun call =>
    call.stage.checked?.isSome && taken.action.drops call.key

/-- `invalidate` removed a handle from the table in this step. -/
def Invalidated (taken : Taken) (handle : ManagedHandle) : Prop :=
  (∃ deviceId kind, taken.action = .invalidate deviceId kind) ∧
    taken.before.sessions handle.key = some handle ∧
    taken.after.sessions handle.key ≠ some handle

/-- What the steps so far tell about the table. -/
structure Watched (past : List Taken) (world : SessionWorld) : Prop where
  /-- Calls are never forgotten. -/
  longer : ∀ taken ∈ past, taken.before.calls.length ≤ world.calls.length
  /-- No handle was dropped under a call that has not been inside. -/
  unseen : ∀ (index : Nat) (call : EnsureCall), world.calls[index]? = some call →
    call.stage = .locking → disturbed past index = false
  /-- The handle under check is cached unless it was dropped under the check. -/
  seen : ∀ (index : Nat) (call : EnsureCall) (handle : ManagedHandle),
    world.calls[index]? = some call → call.stage = .checking handle →
    (world.sessions call.key = some handle ↔ disturbed past index = false)
  /-- What was removed stays away. -/
  gone : ∀ taken ∈ past, ∀ handle, Invalidated taken handle →
    handle ∈ world.opened ∧ world.sessions handle.key ≠ some handle

section
variable {config : SessionConfig} {world after : SessionWorld} {action : SessionAction}
variable {index : Nat} {call new : EnsureCall} {handle : ManagedHandle} {past : List Taken}

/-- What a drop in a longer history is. -/
theorem disturbed_cons : disturbed (⟨world, action, after⟩ :: past) index =
    ((world.calls[index]?.any fun call =>
      call.stage.checked?.isSome && action.drops call.key) || disturbed past index) := rfl

/-- **Where a call comes from.** Another call moved, it is new, or its own step moved it. -/
theorem Stepped.calls (stepped : Stepped config world action after)
    (found : after.calls[index]? = some new) :
    (world.calls[index]? = some new ∧ ∀ answer, action ≠ .resume index answer) ∨
    (world.calls[index]? = none ∧ index = world.calls.length ∧ new.stage = .locking) ∨
    ∃ old answer, action = .resume index answer ∧ world.calls[index]? = some old ∧
      new.stage ≠ .locking := by
  have moved : ∀ {slot : Nat} {old : EnsureCall} {answer : EnsureAnswer} {stage : EnsureStage},
      world.calls[slot]? = some old → action = .resume slot answer → stage ≠ .locking →
      (world.calls.set slot { old with stage := stage })[index]? = some new →
      (world.calls[index]? = some new ∧ ∀ answer, action ≠ .resume index answer) ∨
      (world.calls[index]? = none ∧ index = world.calls.length ∧ new.stage = .locking) ∨
      ∃ old answer, action = .resume index answer ∧ world.calls[index]? = some old ∧
        new.stage ≠ .locking := by
    intro slot old answer stage there acts onward found'
    rcases Slots.getElem?_rewritten found' with ⟨rfl, rfl⟩ | ⟨apart, earlier⟩
    · exact .inr (.inr ⟨old, answer, acts, there, onward⟩)
    · refine .inl ⟨earlier, fun answer' own => apart ?_⟩
      rw [acts] at own
      cases own
      rfl
  cases stepped with
  | ensured deviceId kind deadline =>
    rcases Slots.getElem?_concat found with ⟨rfl, rfl⟩ | ⟨-, earlier⟩
    · exact .inr (.inl ⟨List.getElem?_eq_none le_rfl, rfl, rfl⟩)
    · exact .inl ⟨earlier, nofun⟩
  | dropped _ foreign => exact .inl ⟨found, fun answer => foreign index answer⟩
  | ticked elapsedS => exact .inl ⟨found, nofun⟩
  | misses there _ _ _ plain | goes there _ plain =>
    refine moved there rfl ?_ found
    rintro rfl
    cases plain
  | checks there | expires there | passes there | fails there | stores there | cancels there =>
    refine moved there rfl ?_ found
    rintro ⟨⟩

/-- Calls are never forgotten. -/
theorem Stepped.longer (stepped : Stepped config world action after) :
    world.calls.length ≤ after.calls.length := by
  cases stepped with
  | ensured => simp
  | dropped | ticked => exact le_rfl
  | checks | expires | misses | passes | fails | stores | goes | cancels =>
    simp [move, discard, store]

/-- **Only drops touch the entry of a call that is inside**, as long as it is suspended. -/
theorem Stepped.entry (stepped : Stepped config world action after)
    (consistent : Consistent world) (found : world.calls[index]? = some call)
    (within : call.inside = true) (other : ∀ answer, action ≠ .resume index answer) :
    after.sessions call.key =
      if action.drops call.key then none else world.sessions call.key := by
  have away : ∀ {slot : Nat} {holder : EnsureCall} {answer : EnsureAnswer},
      action = .resume slot answer → world.calls[slot]? = some holder →
      (holder.inside = true ∨ world.free holder.key = true) → call.key ≠ holder.key := by
    intro slot holder answer acts there holds
    refine consistent.alone there holds (fun same => ?_) found within
    subst same
    exact other answer acts
  cases stepped with
  | ensured | dropped | ticked | checks | misses | passes | goes | cancels => rfl
  | expires there waits clear => exact Function.update_of_ne (away rfl there (.inr clear)) _ _
  | fails there checking =>
    exact Function.update_of_ne
      (away rfl there (.inl (by rw [EnsureCall.inside, checking]; rfl))) _ _
  | stores there opening =>
    exact Function.update_of_ne
      (away rfl there (.inl (by rw [EnsureCall.inside, opening]; rfl))) _ _

/-- A handle enters the table only when it is made. -/
theorem Stepped.sessions (stepped : Stepped config world action after) {key : SessionKey}
    (there : after.sessions key = some handle) :
    world.sessions key = some handle ∨
      (handle.driver = world.opened.length ∧ handle ∈ after.opened) := by
  cases stepped with
  | ensured | ticked | checks | misses | passes | goes | cancels => exact .inl there
  | dropped =>
    simp only [drop] at there
    split at there
    · cases there
    · exact .inl there
  | @expires slot holder | @fails slot holder =>
    by_cases own : key = holder.key
    · subst own
      simp [discard] at there
    · exact .inl (by simpa [discard, Function.update_of_ne own] using there)
  | @stores slot number holder id =>
    by_cases own : key = holder.key
    · subst own
      obtain rfl : world.made holder id = handle := by simpa [store] using there
      exact .inr ⟨rfl, List.mem_append_right _ (List.mem_singleton.mpr rfl)⟩
    · exact .inl (by simpa [store, Function.update_of_ne own] using there)

/-- Opened handles stay opened. -/
theorem Stepped.opened (stepped : Stepped config world action after) :
    world.opened ⊆ after.opened := by
  cases stepped with
  | stores => exact List.subset_append_left _ _
  | _ => exact List.Subset.refl _

/-- A call begins its check with a handle that is cached. -/
theorem Stepped.begins (stepped : Stepped config world action after) {answer : EnsureAnswer}
    (acts : action = .resume index answer) (found : after.calls[index]? = some new)
    (checking : new.stage = .checking handle) :
    ∃ old, world.calls[index]? = some old ∧ old.stage = .locking ∧
      after.sessions new.key = some handle := by
  subst acts
  cases stepped with
  | dropped _ foreign => exact absurd rfl (foreign index answer)
  | checks there waits clear cached =>
    rcases Slots.getElem?_rewritten found with ⟨-, rfl⟩ | ⟨apart, -⟩
    · cases checking
      exact ⟨_, there, waits, cached⟩
    · exact absurd rfl apart
  | misses there waits clear cached plain | goes there bare plain asked =>
    rcases Slots.getElem?_rewritten found with ⟨-, rfl⟩ | ⟨apart, -⟩
    · dsimp only at checking
      rw [checking] at plain
      cases plain
    · exact absurd rfl apart
  | expires | passes | fails | stores | cancels =>
    rcases Slots.getElem?_rewritten found with ⟨-, rfl⟩ | ⟨apart, -⟩
    · cases checking
    · exact absurd rfl apart

/-- **Every step keeps the watch.** -/
theorem Watched.step (watched : Watched past world) (consistent : Consistent world)
    (stepped : Stepped config world action after) :
    Watched (⟨world, action, after⟩ :: past) after where
  longer := by
    intro taken member
    rcases List.mem_cons.mp member with rfl | earlier
    · exact stepped.longer
    · exact (watched.longer taken earlier).trans stepped.longer
  unseen := by
    intro index call found waits
    rw [disturbed_cons]
    rcases stepped.calls found with ⟨before, -⟩ | ⟨new, last, -⟩ | ⟨-, -, -, -, onward⟩
    · simp [before, waits, EnsureStage.checked?, watched.unseen index call before waits]
    · have short : disturbed past index = false := by
        refine List.any_eq_false.mpr fun taken member => ?_
        have bound := watched.longer taken member
        simp [List.getElem?_eq_none (bound.trans last.ge)]
      simp [new, short]
    · exact absurd waits onward
  seen := by
    intro index call handle found checking
    rw [disturbed_cons]
    rcases stepped.calls found with ⟨before, other⟩ | ⟨-, -, waits⟩ | ⟨old, answer, acts, -, -⟩
    · have within : call.inside = true := by rw [EnsureCall.inside, checking]; rfl
      have entry := stepped.entry consistent before within other
      have earlier := watched.seen index call handle before checking
      rw [entry, before]
      cases dropped : action.drops call.key with
      | false => simpa [dropped, checking, EnsureStage.checked?] using earlier
      | true => simp [dropped, checking, EnsureStage.checked?]
    · rw [checking] at waits
      cases waits
    · obtain ⟨old, there, waits, cached⟩ := stepped.begins acts found checking
      simp [cached, there, waits, EnsureStage.checked?, watched.unseen index old there waits]
  gone := by
    intro taken member handle removed
    have away : ∀ {handle : ManagedHandle}, handle ∈ world.opened →
        world.sessions handle.key ≠ some handle → after.sessions handle.key ≠ some handle := by
      intro handle member absent there
      rcases stepped.sessions there with before | ⟨fresh, -⟩
      · exact absent before
      · have bound := (List.getElem?_eq_some_iff.mp (consistent.known member)).1
        omega
    rcases List.mem_cons.mp member with rfl | earlier
    · obtain ⟨-, before, absent⟩ := removed
      exact ⟨stepped.opened (consistent.cached _ _ before).1, absent⟩
    · obtain ⟨known, absent⟩ := watched.gone taken earlier handle removed
      exact ⟨stepped.opened known, away known absent⟩

/-- Nothing was dropped before the first step. -/
theorem watched_new : Watched [] {} where
  longer _ past := nomatch past
  unseen _ _ _ _ := rfl
  seen _ _ _ found := nomatch found
  gone _ past := nomatch past

/-- **The watch is kept along every history.** -/
theorem watched_history {allowed : SessionWorld → SessionAction → Prop}
    (history : History (SessionWorld.step config) allowed {} past world) :
    Consistent world ∧ Watched past world :=
  history.invariant (fun past world => Consistent world ∧ Watched past world)
    ⟨consistent_new, watched_new⟩
    fun _ kept _ taken => ⟨kept.1.step taken, kept.2.step kept.1 (stepped taken)⟩

end

/-! ## What is returned -/

/-- A check that answers `True` was not overtaken by a drop of its handle. -/
def Undisturbed (earlier : List Taken) (taken : Taken) : Prop :=
  match taken.action with
  | .resume index (.checked true) => disturbed earlier index = false
  | _ => True

instance (earlier : List Taken) (taken : Taken) : Decidable (Undisturbed earlier taken) := by
  unfold Undisturbed
  split <;> infer_instance

/-- A handle that a call returns in this step is the cached one, and `invalidate` did not remove
it before. -/
def Current (earlier : List Taken) (taken : Taken) : Prop :=
  ∀ (index : Nat) (old new : EnsureCall) (handle : ManagedHandle),
    taken.before.calls[index]? = some old → old.stage.finished = false →
    taken.after.calls[index]? = some new → new.stage = .returned handle →
    taken.after.sessions new.key = some handle ∧
      ∀ step ∈ earlier, ¬Invalidated step handle

section
variable {config : SessionConfig} {world after : SessionWorld} {action : SessionAction}
variable {index : Nat} {old new call : EnsureCall} {handle : ManagedHandle} {past : List Taken}

/-- **What a step returns.** A handle whose check answers `True`, or a new one. -/
theorem Stepped.returns (stepped : Stepped config world action after)
    (before : world.calls[index]? = some old) (going : old.stage.finished = false)
    (found : after.calls[index]? = some new) (returned : new.stage = .returned handle) :
    (action = .resume index (.checked true) ∧ old.stage = .checking handle ∧
      new.key = old.key ∧ after.sessions = world.sessions) ∨
    (handle.driver = world.opened.length ∧ after.sessions new.key = some handle) := by
  rcases stepped.calls found with ⟨same, -⟩ | ⟨absent, -⟩ | ⟨same, answer, rfl, there, -⟩
  · obtain rfl := Option.some.inj (before.symm.trans same)
    rw [returned] at going
    cases going
  · rw [before] at absent
    cases absent
  · obtain rfl := Option.some.inj (before.symm.trans there)
    cases stepped with
    | dropped _ foreign => exact absurd rfl (foreign index answer)
    | passes mine checking =>
      obtain rfl := Option.some.inj (mine.symm.trans before)
      rcases Slots.getElem?_rewritten found with ⟨-, rfl⟩ | ⟨apart, -⟩
      · cases returned
        exact .inl ⟨rfl, checking, rfl, rfl⟩
      · exact absurd rfl apart
    | stores mine opening =>
      rcases Slots.getElem?_rewritten found with ⟨-, rfl⟩ | ⟨apart, -⟩
      · cases returned
        exact .inr ⟨rfl, Function.update_self _ _ _⟩
      · exact absurd rfl apart
    | misses _ _ _ _ plain | goes _ _ plain =>
      rcases Slots.getElem?_rewritten found with ⟨-, rfl⟩ | ⟨apart, -⟩
      · dsimp only at returned
        rw [returned] at plain
        cases plain
      · exact absurd rfl apart
    | checks | expires | fails | cancels =>
      rcases Slots.getElem?_rewritten found with ⟨-, rfl⟩ | ⟨apart, -⟩
      · cases returned
      · exact absurd rfl apart

/-- The call whose check answers `True` returns the handle, and the table stays. -/
theorem Stepped.answered (stepped : Stepped config world action after)
    (acts : action = .resume index (.checked true)) :
    ∃ call handle, world.calls[index]? = some call ∧ call.stage = .checking handle ∧
      after = world.move index call (.returned handle) := by
  subst acts
  cases stepped with
  | dropped _ foreign => exact absurd rfl (foreign index _)
  | passes found checking => exact ⟨_, _, found, checking, rfl⟩
  | goes found bare plain asked => exact absurd rfl (asked true)

/-- **A step returns what is current exactly when no drop came during a check that answers
`True`.** -/
theorem Watched.current_iff (watched : Watched past world) (consistent : Consistent world)
    (stepped : Stepped config world action after) :
    Current past ⟨world, action, after⟩ ↔ Undisturbed past ⟨world, action, after⟩ := by
  constructor
  · intro current
    unfold Undisturbed
    split
    · rename_i index acts
      obtain ⟨call, handle, found, checking, rfl⟩ := stepped.answered acts
      refine (watched.seen index call handle found checking).mp ?_
      have inside : index < world.calls.length := (List.getElem?_eq_some_iff.mp found).1
      exact (current index call { call with stage := .returned handle } handle found
        (by rw [checking]; rfl) (List.getElem?_set_self inside) rfl).1
    · trivial
  · intro undisturbed index old new handle before going found returned
    rcases stepped.returns before going found returned with
      ⟨rfl, checking, key, sessions⟩ | ⟨fresh, cached⟩
    · have there := (watched.seen index old handle before checking).mpr undisturbed
      refine ⟨by rw [sessions, key, there], fun step member removed => ?_⟩
      obtain ⟨-, own, -⟩ := consistent.checking before checking
      have absent := (watched.gone step member handle removed).2
      rw [own] at absent
      exact absent there
    · refine ⟨cached, fun step member removed => ?_⟩
      have known := consistent.known (watched.gone step member handle removed).1
      have bound := (List.getElem?_eq_some_iff.mp known).1
      omega

/-- The same along a history. -/
theorem current_step
    (history : History (SessionWorld.step config) (fun _ _ => True) {} past world)
    (taken : SessionWorld.step config world action = some after) :
    Current past ⟨world, action, after⟩ ↔ Undisturbed past ⟨world, action, after⟩ := by
  obtain ⟨consistent, watched⟩ := watched_history history
  exact watched.current_iff consistent (stepped taken)

/-- A history that returns only what is current has no drop during a check that answers `True`. -/
theorem undisturbed_of_current
    (history : History (SessionWorld.step config) (fun _ _ => True) {} past world)
    (current : Throughout Current past) : Throughout Undisturbed past :=
  (history.throughout_congr fun earlier _ taken => current_step earlier taken).mp current

/-- **`ensure` returns no invalidated session** in exactly the runs in which no drop of its handle
comes during a check that answers `True`. -/
theorem ensure_current_iff
    (history : History (SessionWorld.step config) (fun _ _ => True) {} past world) :
    Throughout Current past ↔ Throughout Undisturbed past :=
  history.throughout_congr fun earlier _ taken => current_step earlier taken

end

/-- A session is opened, and a second call checks it; the drop comes when `early` says. -/
def rechecked (early : Bool) : List SessionAction :=
  [.ensure "phone-a" "android" 60, .resume 0 .locked, .resume 0 (.opened "sess-a"),
    .ensure "phone-a" "android" 60, .resume 1 .locked] ++
  if early then [.invalidate "phone-a" none, .resume 1 (.checked true)]
  else [.resume 1 (.checked true), .invalidate "phone-a" none]

/-- A drop after the check returns what is current. -/
theorem ensure_current_iff_late : ∃ past : List Taken,
    (Throughout Current past ↔ Throughout Undisturbed past) ∧ Throughout Undisturbed past := by
  have passed : (Transition.trace (Transition.guarded (step {}) fun _ _ => True) [] {}
      (rechecked false)).any (fun reached => decide (Throughout Undisturbed reached.1)) =
        true := by
    decide +kernel
  obtain ⟨past, world, history, shown⟩ := Transition.traces passed
  exact ⟨past, ensure_current_iff history, of_decide_eq_true shown⟩

/-- **A session invalidated during its check is returned.** -/
theorem ensure_stale : ∃ (past : List Taken) (world : SessionWorld),
    History (step {}) (fun _ _ => True) {} past world ∧
    world.calls.map (fun call => call.stage.returned?.map fun handle => handle.driver) =
      [some 0, some 0] ∧
    world.sessions ("phone-a", "android") = none ∧ ¬Throughout Current past := by
  have passed : (Transition.trace (Transition.guarded (step {}) fun _ _ => True) [] {}
      (rechecked true)).any (fun reached =>
        decide (reached.2.calls.map (fun call =>
            call.stage.returned?.map fun handle => handle.driver) = [some 0, some 0] ∧
          reached.2.sessions ("phone-a", "android") = none ∧
          ¬Throughout Undisturbed reached.1)) = true := by
    decide +kernel
  obtain ⟨past, world, history, shown⟩ := Transition.traces passed
  obtain ⟨drivers, empty, overtaken⟩ := of_decide_eq_true shown
  exact ⟨past, world, history, drivers, empty, fun current =>
    overtaken (undisturbed_of_current history current)⟩

end SessionWorld

end DeviceOrchestrator
