import DeviceOrchestrator.Verif.Moves

/-!
# The attempt history of a record

While ids are distinct and nothing raises, the attempts of a record are a list of failed ones,
followed by one that runs while a worker starts or executes it, or by the one that succeeded
(`Closing`). With the numbers and the budget (`Filed`) this is kept by every move of the worker
that answers for the record, and it gives the history of every reachable record (`Chronicled`).
The attempt that runs is on the device that the worker holds (`Current`).
-/
namespace DeviceOrchestrator

/-- An attempt that has ended with an error. -/
def Attempt.failed (attempt : Attempt) : Bool := attempt.ended && attempt.error.isSome

/-- The awaits at which an attempt runs. -/
def Point.runs : Point → Bool
  | starting _ _ | executing _ _ => true
  | _ => false

/-- **A well-formed history.** -/
structure TaskRecord.Chronicled (record : TaskRecord) : Prop where
  /-- Attempts are numbered from 1 on. -/
  numbered : ∀ position attempt, record.attempts[position]? = some attempt →
    attempt.number = position + 1
  /-- There are no more than allowed. -/
  bounded : record.attemptCount ≤ record.spec.maxAttempts
  /-- All but the last have ended with an error. -/
  closed : ∀ position attempt, record.attempts[position]? = some attempt →
    position + 1 < record.attemptCount → attempt.failed = true
  /-- One that has not ended is the last, and the record runs. -/
  unended : ∀ position attempt, record.attempts[position]? = some attempt →
    attempt.ended = false → position + 1 = record.attemptCount ∧ record.state = .running
  /-- FAILED: all are used up, each in error. -/
  failed : record.state = .failed →
    record.attemptCount = record.spec.maxAttempts ∧ ∀ attempt ∈ record.attempts, attempt.failed
  /-- SUCCEEDED: the last has ended without an error. -/
  succeeded : record.state = .succeeded → ∃ attempt, record.attempts.getLast? = some attempt ∧
    attempt.ended = true ∧ attempt.error = none
  /-- ABANDONED: none succeeded. -/
  abandoned : record.state = .abandoned →
    ∀ attempt ∈ record.attempts, ¬(attempt.ended = true ∧ attempt.error = none)

/-- How the attempts of a record end, with the await of the worker that answers for it. -/
inductive Closing (record : TaskRecord) : Option Point → Prop
  /-- The last attempt runs. -/
  | running (done : List Attempt) (attempt : Attempt) (point : Point)
      (attempts : record.attempts = done ++ [attempt]) (failed : ∀ old ∈ done, old.failed)
      (unended : attempt.ended = false) (state : record.state = .running)
      (at_ : ∃ lease, point = .starting lease done.length ∨ point = .executing lease done.length) :
      Closing record (some point)
  /-- The last attempt succeeded. -/
  | succeeded (done : List Attempt) (attempt : Attempt)
      (attempts : record.attempts = done ++ [attempt]) (failed : ∀ old ∈ done, old.failed)
      (ended : attempt.ended = true) (well : attempt.error = none)
      (state : record.state = .succeeded) : Closing record none
  /-- All attempts failed. -/
  | failed (holder : Option Point) (failed : ∀ old ∈ record.attempts, old.failed)
      (state : record.state ≠ .succeeded)
      (between : ∀ point, holder = some point → point.runs = false) : Closing record holder

/-- The attempts of a record and their budget, with the await of the worker that answers for it. -/
structure Filed (record : TaskRecord) (holder : Option Point) : Prop where
  /-- Attempts are numbered from 1 on. -/
  numbered : ∀ position attempt, record.attempts[position]? = some attempt →
    attempt.number = position + 1
  /-- There are no more than allowed, one less while the record waits, and none left when it
  has failed. -/
  budget : 1 ≤ record.spec.maxAttempts → record.attemptCount ≤ record.spec.maxAttempts ∧
    (record.state = .pending → record.attemptCount < record.spec.maxAttempts) ∧
    (record.state = .failed → record.spec.maxAttempts ≤ record.attemptCount)
  /-- How the attempts end. -/
  closing : Closing record holder

namespace Filed

variable {record new : TaskRecord} {holder next : Option Point} {announced : Bool}
variable {lease : Option Lease}

/-- Between attempts all have failed. -/
theorem between {point : Point} (filed : Filed record (some point)) (rests : point.runs = false) :
    (∀ old ∈ record.attempts, old.failed) ∧ record.state ≠ .succeeded := by
  cases filed.closing with
  | running done attempt point attempts failed unended state at_ =>
    obtain ⟨lease, rfl | rfl⟩ := at_ <;> cases rests
  | failed holder failed state between => exact ⟨failed, state⟩

/-- While an attempt runs it is the last. -/
theorem during {point : Point} {lease : Lease} {index : Nat} (filed : Filed record (some point))
    (runs : point = .starting lease index ∨ point = .executing lease index) :
    ∃ done attempt, record.attempts = done ++ [attempt] ∧ (∀ old ∈ done, old.failed) ∧
      attempt.ended = false ∧ record.state = .running ∧ index = done.length := by
  cases filed.closing with
  | running done attempt point attempts failed unended state at_ =>
    refine ⟨done, attempt, attempts, failed, unended, state, ?_⟩
    obtain ⟨lease', rfl | rfl⟩ := at_
    · have same : lease = lease' ∧ index = done.length := by simpa [eq_comm] using runs
      exact same.2
    · have same : lease = lease' ∧ index = done.length := by simpa [eq_comm] using runs
      exact same.2
  | failed holder failed state between =>
    have rests := between point rfl
    rcases runs with rfl | rfl <;> cases rests

/-- Ending the last attempt rewrites it. -/
theorem ended {done : List Attempt} {attempt : Attempt}
    (attempts : record.attempts = done ++ [attempt]) (error : Option String) :
    (record.endAttempt done.length error).attempts =
      done ++ [{ attempt with ended := true, error := error }] := by
  simp [TaskRecord.endAttempt, attempts, List.modify_eq_take_cons_drop]

/-- Ending the last attempt with an error leaves only failed ones. -/
theorem failed_ended {done : List Attempt} {attempt : Attempt}
    (attempts : record.attempts = done ++ [attempt]) (failed : ∀ old ∈ done, old.failed)
    (message : String) :
    ∀ old ∈ (record.endAttempt done.length (some message)).attempts, old.failed := by
  rw [ended attempts]
  intro old member
  rcases List.mem_append.mp member with earlier | last
  · exact failed old earlier
  · obtain rfl := List.mem_singleton.mp last
    rfl

/-- Ending an attempt changes no number. -/
theorem numbered_ended (filed : Filed record holder) (index : Nat) (error : Option String) :
    ∀ position attempt, (record.endAttempt index error).attempts[position]? = some attempt →
      attempt.number = position + 1 := by
  intro position attempt found
  simp only [TaskRecord.endAttempt, List.getElem?_modify] at found
  obtain ⟨old, there, rfl⟩ := Option.map_eq_some_iff.mp found
  have same := filed.numbered position old there
  split <;> exact same

/-- A record whose attempts all failed is filed after `_requeue`. -/
theorem requeues (went : Requeues record lease new next announced)
    (numbered : ∀ position attempt, record.attempts[position]? = some attempt →
      attempt.number = position + 1)
    (budget : 1 ≤ record.spec.maxAttempts → record.attemptCount ≤ record.spec.maxAttempts)
    (unfinished : record.state = .pending ∨ record.state = .running)
    (failed : ∀ old ∈ record.attempts, old.failed) : Filed new (Point.held next) := by
  have left : new.spec = record.spec ∧ new.attempts = record.attempts := went.kept
  refine ⟨?_, ?_, ?_⟩
  · rw [left.2]
    exact numbered
  · intro allowed
    simp only [TaskRecord.attemptCount, left.1, left.2] at allowed budget ⊢
    cases went with
    | exhausted error spent => exact ⟨budget allowed, (by simp), fun _ => spent⟩
    | delayed delay small => exact ⟨budget allowed, fun _ => small, (by simp)⟩
    | overflow small =>
      refine ⟨budget allowed, fun _ => small, fun ended => ?_⟩
      rw [ended] at unfinished
      rcases unfinished with impossible | impossible <;> cases impossible
  · cases went with
    | exhausted error spent => exact .failed _ failed (by simp) (by rintro _ ⟨⟩)
    | delayed delay small =>
      refine .failed _ failed (by simp) ?_
      rintro point ⟨⟩
      rfl
    | overflow small =>
      rw [Point.held_releasing]
      refine .failed _ failed (fun ended => ?_) (by simp)
      rw [ended] at unfinished
      rcases unfinished with impossible | impossible <;> cases impossible

/-- A new record is filed. -/
theorem submitted (new : TaskRecord) (unused : new.attempts = [])
    (state : new.state = .pending ∨ new.state = .rejected) : Filed new none := by
  refine ⟨?_, ?_, ?_⟩
  · simp [unused]
  · simp only [TaskRecord.attemptCount, unused, List.length_nil]
    intro allowed
    refine ⟨by omega, fun _ => by omega, fun failed => ?_⟩
    rw [failed] at state
    rcases state with impossible | impossible <;> cases impossible
  · refine .failed none (by simp [unused]) (fun succeeded => ?_) (by simp)
    rw [succeeded] at state
    rcases state with impossible | impossible <;> cases impossible

/-- Taking the token of a filed record files it. -/
theorem entered (entry : Entry record new next announced) (pending : record.state = .pending)
    (filed : Filed record none) : Filed new (Point.held next) := by
  have failed : ∀ old ∈ record.attempts, old.failed := by
    cases filed.closing with
    | succeeded done attempt attempts failed ended well state =>
      rw [pending] at state
      cases state
    | failed holder failed state between => exact failed
  cases entry with
  | left => exact filed
  | abandoned error =>
    refine ⟨filed.numbered, fun allowed => ?_, .failed none failed nofun nofun⟩
    exact ⟨(filed.budget allowed).1, nofun, nofun⟩
  | acquiring =>
    refine ⟨filed.numbered, filed.budget, .failed _ failed (by simp [pending]) ?_⟩
    rintro point ⟨⟩
    rfl

/-- **Every move of the worker that answers for a filed record files it.** -/
theorem moved {point : Point} {outcome : Option Outcome}
    (move : Move record point outcome new next announced) (active : point.active = true)
    (phase : record.state = point.expects) (filed : Filed record (some point)) :
    Filed new (Point.held next) := by
  have spare := filed.budget
  cases move with
  | leased lease =>
    obtain ⟨failed, -⟩ := filed.between rfl
    have pending : record.state = .pending := phase
    refine ⟨?_, ?_, ?_⟩
    · intro position attempt found
      rcases Slots.getElem?_concat found with ⟨rfl, rfl⟩ | ⟨-, earlier⟩
      · rfl
      · exact filed.numbered position attempt earlier
    · intro allowed
      have left := (spare allowed).2.1 pending
      refine ⟨?_, (by simp), (by simp)⟩
      simp only [TaskRecord.attemptCount, List.length_append, List.length_singleton] at left ⊢
      omega
    · exact .running record.attempts _ _ rfl failed rfl rfl ⟨lease, .inl rfl⟩
  | timedOut went =>
    exact requeues went filed.numbered (fun allowed => (spare allowed).1) (.inl phase)
      (filed.between rfl).1
  | quarantined lease reason went =>
    exact requeues went filed.numbered (fun allowed => (spare allowed).1) (.inr phase)
      (filed.between rfl).1
  | unevaluated =>
    obtain ⟨failed, state⟩ := filed.between rfl
    exact ⟨filed.numbered, spare, .failed none failed state (by simp)⟩
  | started lease index =>
    obtain ⟨done, attempt, attempts, failed, unended, state, rfl⟩ := filed.during (.inl rfl)
    exact ⟨filed.numbered, spare, .running done attempt _ attempts failed unended state
      ⟨lease, .inr rfl⟩⟩
  | created lease delay =>
    obtain ⟨failed, state⟩ := filed.between rfl
    rw [Point.held_releasing]
    exact ⟨filed.numbered, spare, .failed none failed state (by simp)⟩
  | succeeded lease index value =>
    obtain ⟨done, attempt, attempts, failed, unended, state, rfl⟩ := filed.during (.inr rfl)
    refine ⟨filed.numbered_ended _ _, fun allowed => ?_, ?_⟩
    · have count := record.endAttempt_attemptCount done.length none
      exact ⟨count ▸ (spare allowed).1, (by simp), (by simp)⟩
    · exact .succeeded done _ (ended attempts none) failed rfl rfl rfl
  | rejected lease index message =>
    obtain ⟨done, attempt, attempts, failed, unended, state, rfl⟩ := filed.during (.inr rfl)
    refine ⟨filed.numbered_ended _ _, fun allowed => ?_, ?_⟩
    · have count := record.endAttempt_attemptCount done.length (some message)
      exact ⟨count ▸ (spare allowed).1, (by simp), (by simp)⟩
    · exact .failed none (failed_ended attempts failed message) (by simp) (by simp)
  | blamed lease index outcome fails message reason =>
    obtain ⟨done, attempt, attempts, failed, unended, state, rfl⟩ := filed.during (.inr rfl)
    have kept : (record.endAttempt done.length (some message)).state = .running := state
    refine ⟨filed.numbered_ended _ _, fun allowed => ?_, ?_⟩
    · have count := record.endAttempt_attemptCount done.length (some message)
      refine ⟨count ▸ (spare allowed).1, ?_, ?_⟩
      · rw [kept]
        exact (by simp)
      · rw [kept]
        exact (by simp)
    · refine .failed _ (failed_ended attempts failed message) ?_ ?_
      · rw [kept]
        exact (by simp)
      · rintro point ⟨⟩
        rfl
  | requeued lease index outcome fails message went =>
    obtain ⟨done, attempt, attempts, failed, unended, state, rfl⟩ := filed.during (.inr rfl)
    have count := record.endAttempt_attemptCount done.length (some message)
    exact requeues went (filed.numbered_ended _ _) (fun allowed => count ▸ (spare allowed).1)
      (.inr state) (failed_ended attempts failed message)
  | abandoned | failed | announced | releasedQuietly | released => cases active

/-- Where all but the last attempt have failed, an attempt is the last one or has failed. -/
theorem last_or_failed {done : List Attempt} {attempt old : Attempt} {position : Nat}
    (attempts : record.attempts = done ++ [attempt]) (failed : ∀ old ∈ done, old.failed = true)
    (found : record.attempts[position]? = some old) :
    (position = done.length ∧ old = attempt) ∨ old.failed = true := by
  rw [attempts] at found
  rcases Slots.getElem?_concat found with last | ⟨-, earlier⟩
  · exact .inl last
  · exact .inr (failed old (List.mem_of_getElem? earlier))

/-- There every attempt before the last has failed. -/
theorem earlier_failed {done : List Attempt} {attempt old : Attempt} {position : Nat}
    (attempts : record.attempts = done ++ [attempt]) (failed : ∀ old ∈ done, old.failed = true)
    (found : record.attempts[position]? = some old)
    (before : position + 1 < record.attemptCount) : old.failed = true := by
  have count : record.attemptCount = done.length + 1 := by
    simp [TaskRecord.attemptCount, attempts]
  rcases last_or_failed attempts failed found with ⟨rfl, -⟩ | failed
  · omega
  · exact failed

/-- **A filed record has a well-formed history.** -/
theorem chronicled (filed : Filed record holder) (allowed : 1 ≤ record.spec.maxAttempts) :
    record.Chronicled := by
  obtain ⟨bounded, -, spent⟩ := filed.budget allowed
  cases filed.closing with
  | running done attempt point attempts failed unended state at_ =>
    have count : record.attemptCount = done.length + 1 := by
      simp [TaskRecord.attemptCount, attempts]
    refine ⟨filed.numbered, bounded, fun position old => earlier_failed attempts failed,
      ?_, ?_, ?_, ?_⟩
    · intro position old found open_
      rcases last_or_failed attempts failed found with ⟨rfl, -⟩ | failed
      · exact ⟨count.symm, state⟩
      · simp [Attempt.failed, open_] at failed
    all_goals
      rw [state]
      exact (by simp)
  | succeeded done attempt attempts failed ended well state =>
    refine ⟨filed.numbered, bounded, fun position old => earlier_failed attempts failed,
      ?_, ?_, ?_, ?_⟩
    · intro position old found open_
      rcases last_or_failed attempts failed found with ⟨-, rfl⟩ | failed
      · rw [ended] at open_
        cases open_
      · simp [Attempt.failed, open_] at failed
    · rw [state]
      exact (by simp)
    · intro _
      exact ⟨attempt, by simp [attempts], ended, well⟩
    · rw [state]
      exact (by simp)
  | failed holder failed state between =>
    have each : ∀ (position : Nat) (old : Attempt), record.attempts[position]? = some old →
        old.failed = true := fun position old found => failed old (List.mem_of_getElem? found)
    refine ⟨filed.numbered, bounded, fun position old found _ => each position old found, ?_, ?_,
      fun succeeded => absurd succeeded state, ?_⟩
    · intro position old found open_
      have ended := each position old found
      simp [Attempt.failed, open_] at ended
    · intro ended
      exact ⟨by have := spent ended; omega, failed⟩
    · rintro - old member ⟨-, well⟩
      have ended := failed old member
      simp [Attempt.failed, well] at ended

end Filed

namespace SchedulerWorld

variable {config : SchedulerConfig} {world : SchedulerWorld}

/-- **Attempt histories are well formed** in every state of every run in which ids are distinct
and nothing raises, and a record that has ended never changes again. -/
theorem attempts_chronicled (run : Transition.Run (step config) Distinct {} world) :
    ∀ (index : Nat) (record : TaskRecord), world.scheduler.records[index]? = some record →
      (1 ≤ record.spec.maxAttempts → record.Chronicled) ∧
      (record.state.terminal = true → ∀ later : SchedulerWorld,
        Transition.Run (step config) Distinct world later →
        later.scheduler.records[index]? = some record) := by
  intro index record known
  constructor
  · intro allowed
    obtain ⟨held, free⟩ :=
      stands_run Filed.submitted Filed.entered Filed.moved run index record known
    by_cases none : world.scheduler.workers.countP (Worker.holds index) = 0
    · exact (free none).chronicled allowed
    · obtain ⟨worker, member, holding⟩ := List.countP_pos_iff.mp (Nat.pos_of_ne_zero none)
      obtain ⟨position, found⟩ := List.getElem?_of_mem member
      cases worker with
      | idle | exited => cases holding
      | busy held' point =>
        simp only [Worker.holds, Bool.and_eq_true, beq_iff_eq] at holding
        obtain ⟨active, rfl⟩ := holding
        exact (held position point found active).chronicled allowed
  · intro ended later further
    refine further.invariant (fun later => later.scheduler.records[index]? = some record) known ?_
    intro state action next earlier still distinct taken
    have whole := run.trans earlier
    exact deed_settled (attended_run whole)
      (deed (attended_run whole) (accounted whole) distinct taken) still ended

end SchedulerWorld

namespace Bench

/-- A task that fails once and succeeds on its second attempt, while another waits in vain. -/
def secondTry : List SchedulerAction :=
  [.others registry, .start, .submit { kind := "android", id := "first", maxAttempts := 2 } "a",
    .submit { kind := "android", id := "second", maxAttempts := 1 } "b", .take 0, .take 1,
    .leased 0 0, .leaseTimeout 1 0, .sinkReturned 0,
    .executed 0 (.retryable "no such element" false) 0, .sinkReturned 0, .released 0,
    .retryDue 0, .take 0, .leased 0 1, .sinkReturned 0, .executed 0 (.result .null) 0]

end Bench

namespace SchedulerWorld

/-- The history of a record that succeeds on its second attempt. -/
theorem attempts_chronicled_second_try : ∃ world : SchedulerWorld,
    world.scheduler.records.map (fun record =>
      (record.state, record.attempts.map Attempt.failed)) =
        [(.succeeded, [true, false]), (.pending, [])] ∧
    ∀ (index : Nat) (record : TaskRecord), world.scheduler.records[index]? = some record →
      (1 ≤ record.spec.maxAttempts → record.Chronicled) ∧
      (record.state.terminal = true → ∀ later : SchedulerWorld,
        Transition.Run (step Bench.config) Distinct world later →
        later.scheduler.records[index]? = some record) := by
  have passed : (Transition.execute (Transition.guarded (step Bench.config) Distinct) {}
      Bench.secondTry).any (fun world => decide (world.scheduler.records.map (fun record =>
        (record.state, record.attempts.map Attempt.failed)) =
          [(.succeeded, [true, false]), (.pending, [])])) = true := by
    decide +kernel
  obtain ⟨world, run, shown⟩ := Transition.reaches passed
  exact ⟨world, of_decide_eq_true shown, attempts_chronicled run⟩

end SchedulerWorld

/-- While an attempt runs it is the last, and on the device that the worker holds. -/
def Current (record : TaskRecord) (holder : Option Point) : Prop :=
  ∀ lease index, holder = some (.starting lease index) ∨ holder = some (.executing lease index) →
    ∃ done attempt, record.attempts = done ++ [attempt] ∧ index = done.length ∧
      attempt.deviceId = lease.deviceId

/-- At the other awaits nothing is asked. -/
theorem Current.of_other {record : TaskRecord} {holder : Option Point}
    (other : ∀ point, holder = some point → point.runs = false) : Current record holder := by
  rintro lease index (rfl | rfl)
  · exact absurd (other _ rfl) (by simp [Point.runs])
  · exact absurd (other _ rfl) (by simp [Point.runs])

/-- `_requeue` runs no attempt. -/
theorem Requeues.rests {record new : TaskRecord} {lease : Option Lease} {next : Option Point}
    {announced : Bool} (went : Requeues record lease new next announced) :
    ∀ point, Point.held next = some point → point.runs = false := by
  cases went with
  | exhausted error spent => exact fun _ held => nomatch held
  | delayed delay left =>
    rintro point ⟨⟩
    rfl
  | overflow left =>
    rw [Point.held_releasing]
    exact fun _ held => nomatch held

/-- **Every move keeps the running attempt on the device that is held.** -/
theorem Current.moved {record new : TaskRecord} {point : Point} {outcome : Option Outcome}
    {next : Option Point} {announced : Bool}
    (move : Move record point outcome new next announced)
    (current : Current record (some point)) : Current new (Point.held next) := by
  cases move with
  | leased lease =>
    rintro lease' index (⟨⟨⟩⟩ | ⟨⟨⟩⟩)
    exact ⟨record.attempts, _, rfl, rfl, rfl⟩
  | started lease attempt =>
    rintro lease' index (⟨⟨⟩⟩ | ⟨⟨⟩⟩)
    exact current lease attempt (.inl rfl)
  | timedOut went | quarantined lease reason went => exact .of_other went.rests
  | requeued lease attempt outcome fails message went => exact .of_other went.rests
  | created lease delay | failed lease =>
    rw [Point.held_releasing]
    exact .of_other fun _ held => nomatch held
  | blamed lease attempt outcome fails message reason =>
    refine .of_other ?_
    rintro point ⟨⟩
    rfl
  | _ => exact .of_other fun _ held => nomatch held

namespace SchedulerWorld

open Scheduler

variable {config : SchedulerConfig} {world : SchedulerWorld}

/-- The running attempt of every record is on the device that is held. -/
theorem current_run (run : Transition.Run (step config) Distinct {} world) :
    ∀ (index : Nat) (record : TaskRecord), world.scheduler.records[index]? = some record →
      Stands Current world.scheduler index record :=
  stands_run (fun _ _ _ => .of_other fun _ held => nomatch held)
    (fun entry _ _ => by
      cases entry with
      | acquiring =>
        refine .of_other ?_
        rintro point ⟨⟩
        rfl
      | _ => exact .of_other fun _ held => nomatch held)
    (fun move _ _ current => current.moved move) run

end SchedulerWorld

end DeviceOrchestrator
