import DeviceOrchestrator.Core.Opening
import DeviceOrchestrator.Verif.SessionSteps

/-!
# Whether an opening keeps to its budget

Each round starts before the deadline and sleeps no longer than the time that is left, and no round
follows the last one. What fails in the end raises `SessionError`, unless the 1025th open fails:
the delay is computed before it is capped, and overflows there.
-/
namespace DeviceOrchestrator

open Transition (Run)

namespace Opening

/-- The opens among events. -/
def opens (events : List OpenEvent) : Nat := events.countP OpenEvent.isOpen

/-- What holds of every opening of so many rounds at most, however it ends. -/
structure Orderly (rounds : Nat) (call : EnsureCall) (world : SessionWorld) (opening : Opening) :
    Prop where
  /-- No open starts at or after the deadline. -/
  early : ∀ startedAt answer, .opens startedAt answer ∈ opening.events → startedAt < call.deadline
  /-- There are no more opens than rounds. -/
  few : opens opening.events ≤ rounds
  /-- No sleep is longer than the time that is left. -/
  short : ∀ startedAt delayS, .sleeps startedAt delayS ∈ opening.events →
    delayS ≤ call.remainingS startedAt
  /-- There is no sleep after the open of the last round. -/
  awake : ∀ earlier startedAt delayS later,
    opening.events = earlier ++ .sleeps startedAt delayS :: later → opens earlier < rounds
  /-- A handle is returned exactly if an open succeeded. -/
  returned_iff : (∃ handle, opening.result = .ok handle) ↔
    ∃ startedAt id, .opens startedAt (.ok id) ∈ opening.events
  /-- The open that succeeded is the last call made. -/
  last : ∀ startedAt id, .opens startedAt (.ok id) ∈ opening.events →
    opening.events.getLast? = some (.opens startedAt (.ok id))
  /-- The handle returned is the one cached. -/
  cached : ∀ handle, opening.result = .ok handle →
    opening.world.sessions call.key = some handle
  /-- An opening that raises leaves the tables as they were. -/
  untouched : ∀ error, opening.result = .error error →
    opening.world.sessions = world.sessions ∧ opening.world.generations = world.generations

/-- **An opening keeps to its budget**: it is orderly, and what it raises is `SessionError`. -/
structure Budgeted (config : SessionConfig) (call : EnsureCall) (world : SessionWorld)
    (opening : Opening) : Prop
    extends Orderly config.maxOpenAttempts.toNat call world opening where
  /-- It raises nothing else. -/
  raises : ∀ error, opening.result = .error error → ∃ message, error = .sessionError message

variable {rounds : Nat} {call : EnsureCall} {world : SessionWorld} {error : EnsureError}

/-- An opening that raises before it calls anything is orderly. -/
theorem Orderly.refused (rounds : Nat) (call : EnsureCall) (world : SessionWorld)
    (error : EnsureError) : Orderly rounds call world ⟨[], .error error, world⟩ where
  early := by simp
  few := Nat.zero_le _
  short := by simp
  awake := by simp
  returned_iff := by simp
  last := by simp
  cached := by simp
  untouched _ _ := ⟨rfl, rfl⟩

/-- The only open of an opening starts before the deadline if it is early. -/
theorem early_only {answer : Except String String} (early : world.now < call.deadline) :
    ∀ startedAt other, OpenEvent.opens startedAt other ∈ [.opens world.now answer] →
      startedAt < call.deadline := by
  intro startedAt other member
  rw [List.mem_singleton, OpenEvent.opens.injEq] at member
  rw [member.1]
  exact early

/-- No sleep stands among the events of an opening that only opens. -/
theorem not_sleeps_only {at_ startedAt delayS : Rat} {answer : Except String String}
    {earlier later : List OpenEvent} :
    [OpenEvent.opens at_ answer] ≠ earlier ++ .sleeps startedAt delayS :: later := by
  intro same
  have member : OpenEvent.sleeps startedAt delayS ∈ [OpenEvent.opens at_ answer] := by
    rw [same]
    exact List.mem_append_right earlier List.mem_cons_self
  simp at member

/-- So is one whose only open starts early and fails. -/
theorem Orderly.failed {after : SessionWorld} {reason : String}
    (early : world.now < call.deadline) (sessions : after.sessions = world.sessions)
    (generations : after.generations = world.generations) :
    Orderly (rounds + 1) call world
      ⟨[.opens world.now (.error reason)], .error error, after⟩ where
  early := early_only early
  few := by simp [opens, OpenEvent.isOpen]
  short := by simp
  awake _ _ _ _ same := absurd same not_sleeps_only
  returned_iff := by simp
  last := by simp
  cached := by simp
  untouched _ _ := ⟨sessions, generations⟩

/-- So is one whose only open starts early and succeeds. -/
theorem Orderly.succeeded {answered : SessionWorld} {id : String}
    (early : world.now < call.deadline) :
    Orderly (rounds + 1) call world
      ⟨[.opens world.now (.ok id)], .ok (answered.made call id), answered.stored call id⟩ where
  early := early_only early
  few := by simp [opens, OpenEvent.isOpen]
  short := by simp
  awake _ _ _ _ same := absurd same not_sleeps_only
  returned_iff := by simp
  last := by
    intro startedAt id' member
    rw [List.mem_singleton.mp member]
    rfl
  cached := by
    intro handle same
    cases same
    exact Function.update_self _ _ _
  untouched := by simp

/-- A failed open and a short sleep may stand before an orderly opening. -/
theorem Orderly.prepend {slept : SessionWorld} {rest : Opening} {reason : String}
    {asleepAt delayS : Rat} (orderly : Orderly rounds call slept rest) (more : 0 < rounds)
    (early : world.now < call.deadline) (short : delayS ≤ call.remainingS asleepAt)
    (sessions : slept.sessions = world.sessions)
    (generations : slept.generations = world.generations) :
    Orderly (rounds + 1) call world
      (rest.prepend [.opens world.now (.error reason), .sleeps asleepAt delayS]) where
  early := by
    intro startedAt answer member
    simp only [Opening.prepend, List.cons_append, List.nil_append, List.mem_cons,
      OpenEvent.opens.injEq, reduceCtorEq, false_or] at member
    rcases member with ⟨rfl, -⟩ | later
    · exact early
    · exact orderly.early startedAt answer later
  few := by
    have few := orderly.few
    simp only [opens, Opening.prepend, List.cons_append, List.nil_append, List.countP_cons,
      OpenEvent.isOpen, if_true, Bool.false_eq_true, if_false] at few ⊢
    omega
  short := by
    intro startedAt delay member
    simp only [Opening.prepend, List.cons_append, List.nil_append, List.mem_cons,
      OpenEvent.sleeps.injEq, reduceCtorEq, false_or] at member
    rcases member with ⟨rfl, rfl⟩ | later
    · exact short
    · exact orderly.short startedAt delay later
  awake := by
    intro before startedAt delay later same
    simp only [Opening.prepend, List.cons_append, List.nil_append] at same
    -- Two events of this round stand before every sleep but the first.
    rcases before with _ | ⟨first, _ | ⟨second, before⟩⟩
    · simp at same
    · simp only [List.cons_append, List.nil_append, List.cons.injEq] at same
      rw [← same.1]
      simp [opens, OpenEvent.isOpen, more]
    · simp only [List.cons_append, List.cons.injEq] at same
      obtain ⟨rfl, rfl, same⟩ := same
      have awake := orderly.awake before startedAt delay later same
      simp only [opens, List.countP_cons, OpenEvent.isOpen, if_true, Bool.false_eq_true,
        if_false] at awake ⊢
      omega
  returned_iff := by
    have same := orderly.returned_iff
    simpa [Opening.prepend] using same
  last := by
    intro startedAt id member
    have later : .opens startedAt (.ok id) ∈ rest.events := by
      simpa [Opening.prepend] using member
    have last := orderly.last startedAt id later
    simp [Opening.prepend, List.getLast?_cons, last]
  cached := orderly.cached
  untouched := by
    intro error raised
    have untouched := orderly.untouched error raised
    rw [← sessions, ← generations]
    exact untouched

end Opening

namespace SessionWorld

variable {config : SessionConfig} {factory : FactoryRun} {call : EnsureCall}

/-- There is time left exactly before the deadline. -/
theorem remainingS_nonpos_iff {now : Rat} : call.remainingS now ≤ 0 ↔ call.deadline ≤ now := by
  simp [EnsureCall.remainingS]

/-- **The loop is orderly**, by induction over the rounds that are left. -/
theorem openRounds_orderly (rounds attempt : Nat) (lastError : Option String)
    (world : SessionWorld) (left : rounds = (config.maxOpenAttempts + 1 - attempt).toNat) :
    Opening.Orderly rounds call world
      (openRounds config factory call rounds attempt lastError world) := by
  induction rounds generalizing attempt lastError world with
  | zero => exact Opening.Orderly.refused 0 call world _
  | succ rounds ih =>
    unfold openRounds
    by_cases late : call.remainingS world.now ≤ 0
    · rw [if_pos late]
      exact Opening.Orderly.refused (rounds + 1) call world _
    · rw [if_neg late]
      rw [remainingS_nonpos_iff, not_le] at late
      cases factory.answer attempt with
      | ok id => exact Opening.Orderly.succeeded late
      | error reason =>
        dsimp only
        cases timesPowerOfTwo config.baseBackoffS (attempt - 1) with
        | error error => exact Opening.Orderly.failed late rfl rfl
        | ok grown =>
          dsimp only
          split
          · exact Opening.Orderly.failed late rfl rfl
          · rename_i more
            refine (ih _ _ _ ?_).prepend ?_ late (min_le_right _ _) rfl rfl
            · push_cast
              omega
            · omega

/-! ## The open whose delay overflows -/

/-- The clock does not go back from one round to another. -/
theorem le_startAt (rounds attempt : Nat) (now : Rat) :
    now ≤ factory.startAt now attempt rounds := by
  induction rounds generalizing attempt now with
  | zero => exact le_refl now
  | succ rounds ih =>
    have opened := factory.open_nonneg attempt
    have slept := factory.sleep_nonneg attempt
    have rest := ih (attempt + 1) (now + factory.openS attempt + factory.sleepS attempt)
    calc
      now ≤ now + factory.openS attempt := le_add_of_nonneg_right opened
      _ ≤ now + factory.openS attempt + factory.sleepS attempt := le_add_of_nonneg_right slept
      _ ≤ _ := rest

/-- From a round on, the 1025th open is reached and fails. -/
structure OverflowsFrom (factory : FactoryRun) (call : EnsureCall) (rounds attempt : Nat)
    (now : Rat) : Prop where
  /-- It is among the rounds that are left. -/
  planned : 1025 < attempt + rounds
  /-- It fails, and so does every open before it. -/
  fails : ∀ number, attempt ≤ number → number ≤ 1025 →
    ∃ reason, factory.answer number = .error reason
  /-- It starts before the deadline. -/
  early : factory.startAt now attempt (1025 - attempt) < call.deadline

/-- A failed round before the 1025th passes the overflow on to the next one. -/
theorem overflowsFrom_next {rounds attempt : Nat} {now : Rat} {reason : String}
    (failed : factory.answer attempt = .error reason) (before : attempt < 1025) :
    OverflowsFrom factory call (rounds + 1) attempt now ↔
      OverflowsFrom factory call rounds (attempt + 1)
        (now + factory.openS attempt + factory.sleepS attempt) := by
  have left : 1025 - attempt = 1025 - (attempt + 1) + 1 := by omega
  constructor
  · intro overflows
    have planned := overflows.planned
    refine ⟨by omega, fun number begins ends => overflows.fails number (by omega) ends, ?_⟩
    have early := overflows.early
    rwa [left] at early
  · intro overflows
    have planned := overflows.planned
    refine ⟨by omega, fun number begins ends => ?_, ?_⟩
    · by_cases here : number = attempt
      · exact ⟨reason, here ▸ failed⟩
      · exact overflows.fails number (by omega) ends
    · rw [left]
      exact overflows.early

/-- **The loop raises something else than `SessionError` exactly if the 1025th open is reached and
fails**, by induction over the rounds that are left. -/
theorem openRounds_raises_iff (rounds attempt : Nat) (lastError : Option String)
    (world : SessionWorld) (left : rounds = (config.maxOpenAttempts + 1 - attempt).toNat)
    (upto : attempt ≤ 1025) :
    (∀ error, (openRounds config factory call rounds attempt lastError world).result =
        .error error → ∃ message, error = .sessionError message) ↔
      ¬ OverflowsFrom factory call rounds attempt world.now := by
  induction rounds generalizing attempt lastError world with
  | zero =>
    have done : ¬ OverflowsFrom factory call 0 attempt world.now := by
      intro overflows
      have planned := overflows.planned
      omega
    refine ⟨fun _ => done, fun _ error same => ?_⟩
    cases same
    exact ⟨_, rfl⟩
  | succ rounds ih =>
    unfold openRounds
    by_cases late : call.remainingS world.now ≤ 0
    · rw [if_pos late]
      rw [remainingS_nonpos_iff] at late
      have expired : ¬ OverflowsFrom factory call (rounds + 1) attempt world.now := by
        intro overflows
        have later := @le_startAt factory (1025 - attempt) attempt world.now
        exact absurd overflows.early (not_lt.mpr (late.trans later))
      refine ⟨fun _ => expired, fun _ error same => ?_⟩
      cases same
      exact ⟨_, rfl⟩
    · rw [if_neg late]
      rw [remainingS_nonpos_iff, not_le] at late
      cases answer : factory.answer attempt with
      | ok id =>
        have opened : ¬ OverflowsFrom factory call (rounds + 1) attempt world.now := by
          intro overflows
          obtain ⟨reason, failed⟩ := overflows.fails attempt (le_refl attempt) upto
          rw [answer] at failed
          cases failed
        exact ⟨fun _ => opened, fun _ error same => by cases same⟩
      | error reason =>
        dsimp only
        by_cases large : 1024 ≤ attempt - 1
        · have last : attempt = 1025 := by omega
          have overflow : timesPowerOfTwo config.baseBackoffS (attempt - 1) =
              .error .overflowError := if_pos large
          rw [overflow]
          have overflows : OverflowsFrom factory call (rounds + 1) attempt world.now := by
            subst last
            refine ⟨by omega, fun number begins ends => ?_, late⟩
            exact ⟨reason, (by omega : number = 1025) ▸ answer⟩
          constructor
          · intro raises
            obtain ⟨message, same⟩ := raises _ rfl
            cases same
          · intro refuted
            exact absurd overflows refuted
        · have grows : timesPowerOfTwo config.baseBackoffS (attempt - 1) =
              .ok (config.baseBackoffS * 2 ^ (attempt - 1)) := if_neg large
          rw [grows]
          dsimp only
          split
          · have done : ¬ OverflowsFrom factory call (rounds + 1) attempt world.now := by
              intro overflows
              have planned := overflows.planned
              omega
            refine ⟨fun _ => done, fun _ error same => ?_⟩
            cases same
            exact ⟨_, rfl⟩
          · rw [overflowsFrom_next answer (by omega)]
            exact ih _ _ _ (by push_cast; omega) (by omega)

/-- **The 1025th open of a call is reached and fails**: so many are allowed, it fails with all
before it, and it starts before the deadline. -/
def Overflows (config : SessionConfig) (factory : FactoryRun) (call : EnsureCall) (now : Rat) :
    Prop :=
  1025 ≤ config.maxOpenAttempts ∧
    (∀ number, 1 ≤ number → number ≤ 1025 → ∃ reason, factory.answer number = .error reason) ∧
    factory.startAt now 1 1024 < call.deadline

/-- **An opening keeps to its budget exactly if its 1025th open is not reached or succeeds.** -/
theorem openWithBackoff_budgeted_iff (config : SessionConfig) (factory : FactoryRun)
    (call : EnsureCall) (world : SessionWorld) :
    Opening.Budgeted config call world (openWithBackoff config factory call world) ↔
      ¬ Overflows config factory call world.now := by
  have left : config.maxOpenAttempts.toNat = (config.maxOpenAttempts + 1 - (1 : Nat)).toNat := by
    push_cast
    omega
  have orderly := @openRounds_orderly config factory call config.maxOpenAttempts.toNat 1 none
    world left
  have raises := @openRounds_raises_iff config factory call config.maxOpenAttempts.toNat 1 none
    world left (by omega)
  have same : OverflowsFrom factory call config.maxOpenAttempts.toNat 1 world.now ↔
      Overflows config factory call world.now := by
    constructor
    · intro overflows
      have planned := overflows.planned
      exact ⟨by omega, overflows.fails, overflows.early⟩
    · rintro ⟨planned, fails, early⟩
      exact ⟨by omega, fails, early⟩
  rw [same] at raises
  constructor
  · intro budgeted
    exact raises.mp budgeted.raises
  · intro refuted
    exact ⟨orderly, raises.mpr refuted⟩

/-- A phone on which every open fails at once. -/
def offlinePhone : FactoryRun where
  answer _ := .error "device offline"
  openS _ := 0
  sleepS _ := 0
  open_nonneg _ := le_refl 0
  sleep_nonneg _ := le_refl 0

/-- No time passes there. -/
theorem startAt_offlinePhone (rounds attempt : Nat) (now : Rat) :
    offlinePhone.startAt now attempt rounds = now := by
  induction rounds generalizing attempt now with
  | zero => rfl
  | succ rounds ih =>
    show offlinePhone.startAt (now + 0 + 0) (attempt + 1) rounds = now
    rw [ih, add_zero, add_zero]

/-- **The 1025th failure is no `SessionError`.** -/
theorem openWithBackoff_overflows :
    let config : SessionConfig := { maxOpenAttempts := 1025, maxBackoffS := 0 }
    let call : EnsureCall := ⟨"R9WABC123", "android", 60, .opening 1 none⟩
    (∃ error, (openWithBackoff config offlinePhone call {}).result = .error error ∧
      ∀ message, error ≠ .sessionError message) ∧
    ¬ Opening.Budgeted config call {} (openWithBackoff config offlinePhone call {}) := by
  intro config call
  have overflows : OverflowsFrom offlinePhone call config.maxOpenAttempts.toNat 1
      ({} : SessionWorld).now := by
    refine ⟨by decide, fun _ _ _ => ⟨_, rfl⟩, ?_⟩
    rw [startAt_offlinePhone]
    decide +kernel
  have raises := @openRounds_raises_iff config offlinePhone call config.maxOpenAttempts.toNat 1
    none {} (by decide) (by decide)
  have other := fun kept => raises.mp kept overflows
  refine ⟨?_, fun budgeted => other budgeted.raises⟩
  by_contra none
  apply other
  intro error raised
  by_contra unnamed
  exact none ⟨error, raised, fun message same => unnamed ⟨message, same⟩⟩

/-! ## The same opening cut at its awaits -/

/-- The stage of a call that has ended so. -/
def endedStage : Except EnsureError ManagedHandle → EnsureStage
  | .ok handle => .returned handle
  | .error error => .raised error

/-- A call that moves twice is where it moved last. -/
theorem move_move (world : SessionWorld) (index : Nat) (call : EnsureCall)
    (first second : EnsureStage) :
    (world.move index call first).move index { call with stage := first } second =
      world.move index call second := by
  simp [move]

/-- Time may pass while a call is suspended. -/
theorem step_elapse (world : SessionWorld) (index : Nat) (stage : EnsureStage) {elapsedS : Rat}
    (forward : 0 ≤ elapsedS) :
    step config (world.move index call stage) (.tick elapsedS) =
      some ((world.elapse elapsedS).move index call stage) := if_pos forward

/-- A suspended call resumes with what its await answered. -/
theorem step_resume {world : SessionWorld} {index : Nat} (known : index < world.calls.length)
    (stage : EnsureStage) (answer : EnsureAnswer) :
    step config (world.move index call stage) (.resume index answer) =
      (world.move index call stage).resume config index { call with stage := stage } answer := by
  have found : (world.move index call stage).calls[index]? = some { call with stage := stage } := by
    simp [move, known]
  simp only [step, found]

/-- **The loop is a run of the manager**, in which nobody else takes a step. -/
theorem openRounds_run (index rounds attempt : Nat) (lastError : Option String)
    (world : SessionWorld) (known : index < world.calls.length)
    (left : rounds = (config.maxOpenAttempts + 1 - attempt).toNat) :
    Run (step config) (fun _ _ => True)
      (world.move index call (world.attempt config call attempt lastError))
      ((openRounds config factory call rounds attempt lastError world).world.move index call
        (endedStage (openRounds config factory call rounds attempt lastError world).result)) := by
  induction rounds generalizing attempt lastError world with
  | zero =>
    have exhausted : config.maxOpenAttempts < attempt := by omega
    unfold SessionWorld.attempt
    rw [if_pos exhausted]
    exact .refl
  | succ rounds ih =>
    have more : ¬ config.maxOpenAttempts < attempt := by omega
    unfold SessionWorld.attempt openRounds
    rw [if_neg more]
    by_cases late : call.remainingS world.now ≤ 0
    · rw [if_pos late, if_pos late]
      exact .refl
    · rw [if_neg late, if_neg late]
      have waited := @step_elapse config call world index (.opening attempt lastError) _
        (factory.open_nonneg attempt)
      have answered := @step_resume config call (world.elapse (factory.openS attempt)) index known
        (.opening attempt lastError)
      refine (Run.single trivial waited).trans ?_
      cases factory.answer attempt with
      | ok id =>
        refine Run.single trivial ((answered (.opened id)).trans ?_)
        simp [resume, store, stored, move, made, endedStage, EnsureCall.key]
      | error reason =>
        replace known : index < (world.elapse (factory.openS attempt)).calls.length := known
        generalize world.elapse (factory.openS attempt) = failed at known answered ⊢
        have goes : step config (failed.move index call (.opening attempt lastError))
            (.resume index (.openFailed reason)) =
              some (failed.move index call (failed.openFailed config call attempt reason)) :=
          (answered (.openFailed reason)).trans
            (congrArg some (failed.move_move index call _ _))
        refine (Run.single trivial goes).trans ?_
        unfold SessionWorld.openFailed
        dsimp only
        cases timesPowerOfTwo config.baseBackoffS (attempt - 1) with
        | error error => exact .refl
        | ok grown =>
          dsimp only
          split
          · exact .refl
          · rename_i more
            generalize min (min config.maxBackoffS grown) (call.remainingS failed.now) = delayS
            have slept := @step_elapse config call failed index
              (.sleeping attempt delayS (some reason)) _ (factory.sleep_nonneg attempt)
            replace known : index < (failed.elapse (factory.sleepS attempt)).calls.length := known
            have woken := @step_resume config call (failed.elapse (factory.sleepS attempt)) index
              known (.sleeping attempt delayS (some reason)) .slept
            generalize failed.elapse (factory.sleepS attempt) = awake at known slept woken ⊢
            have next : step config
                (awake.move index call (.sleeping attempt delayS (some reason)))
                (.resume index .slept) =
                  some (awake.move index call
                    (awake.attempt config call (attempt + 1) (some reason))) :=
              woken.trans (congrArg some (awake.move_move index call _ _))
            refine (Run.single trivial slept).trans ((Run.single trivial next).trans ?_)
            exact ih (attempt + 1) (some reason) awake known (by push_cast; omega)

/-- **An opening is a run of the manager**, from the call that found no handle on. -/
theorem openWithBackoff_run (world : SessionWorld) {index : Nat}
    (known : index < world.calls.length) :
    Run (step config) (fun _ _ => True) (world.move index call (world.attempt config call 1 none))
      ((openWithBackoff config factory call world).world.move index call
        (endedStage (openWithBackoff config factory call world).result)) := by
  refine openRounds_run index _ 1 none world known ?_
  push_cast
  omega

end SessionWorld

end DeviceOrchestrator
