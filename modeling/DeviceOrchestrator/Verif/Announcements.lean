import DeviceOrchestrator.Verif.Moves

/-!
# Each transition is announced once

The history of a run gives the transitions of a record: an attempt begins, `_requeue` sets it back
to PENDING, it enters a terminal state. A step that makes one announces it, except that a result is
announced when the lease has been released; so at any time the announcements are the transitions,
or all but the last while one worker still awaits that release (`Told`). The `finally` that
announces the result also runs after a failed attempt. It is silent then only if the record is
PENDING, which fails when the attempt was the last one (`failed_twice`) and when the backoff
overflowed.
-/
namespace DeviceOrchestrator

open Transition (History Throughout)

/-- A worker that awaits the PENDING announcement of a record. -/
def Worker.requeues (index : Nat) : Worker → Bool
  | busy held point => held == index && point.requeues
  | idle | exited => false

/-- The awaits of a worker whose attempt failed and whose lease is not released. -/
def Point.fallen : Point → Bool
  | quarantining _ _ | requeueing (some _) _ | failing (some _) => true
  | _ => false

/-- The transition of a record that a step rewrites: an attempt begins, it ends, or it is set
back to PENDING. -/
def TaskRecord.stepped (record new : TaskRecord) (back : Bool) : List TaskState :=
  if record.attemptCount < new.attemptCount then [.running]
  else if record.state.terminal = false ∧ new.state.terminal = true then [new.state]
  else if back then [.pending]
  else []

namespace SchedulerWorld

/-- A worker gets to the PENDING announcement of a record. -/
def setBack (index : Nat) (taken : Taken) : Bool :=
  (List.range taken.after.scheduler.workers.length).any fun worker =>
    taken.after.scheduler.workers[worker]?.any (Worker.requeues index) &&
      !taken.before.scheduler.workers[worker]?.any (Worker.requeues index)

/-- The transition of a record in one step. -/
def transition (index : Nat) (taken : Taken) :
    List TaskState :=
  match taken.before.scheduler.records[index]?, taken.after.scheduler.records[index]? with
  | some old, some new => old.stepped new (setBack index taken)
  | _, _ => []

/-- The transitions of a record in a history, in order. -/
def transitions (index : Nat) :
    List (Taken) → List TaskState
  | [] => []
  | taken :: earlier => transitions index earlier ++ transition index taken

/-- The states announced for a task, in order. -/
def announced (world : SchedulerWorld) (taskId : TaskId) : List TaskState :=
  (world.scheduler.published.filter fun event => event.taskId = taskId).map StateEvent.state

/-- Whether the latest attempt of a worker failed. -/
def lastFailed (worker : Nat) : List (Taken) → Bool
  | [] => false
  | taken :: earlier =>
    match taken.action.outcome? worker with
    | some outcome => outcome.fails
    | none => lastFailed worker earlier

/-- A worker whose attempt failed releases its lease while the record is PENDING. -/
def SetBack (index : Nat) (earlier : List (Taken))
    (taken : Taken) : Prop :=
  match taken.action with
  | .released worker => ∀ held ∈ taken.before.at? worker, held.1 = index →
      lastFailed worker earlier = true → held.2.2.state = .pending
  | _ => True

instance (index : Nat) (earlier : List (Taken))
    (taken : Taken) :
    Decidable (SetBack index earlier taken) := by
  unfold SetBack
  split <;> infer_instance

/-- A worker has the result of a record and awaits the release. -/
def Owes (past : List (Taken)) (world : SchedulerWorld)
    (index worker : Nat) : Prop :=
  (∃ lease, world.scheduler.workers[worker]? = some (.busy index (.releasing lease))) ∧
    lastFailed worker past = false

/-- The announcements of a record are its transitions, but for a result that one worker owes. -/
inductive Told (past : List (Taken))
    (world : SchedulerWorld) (index : Nat) (record : TaskRecord) : Prop
  /-- Nothing is owed. -/
  | even (free : ∀ worker, ¬Owes past world index worker)
      (same : transitions index past = world.announced record.spec.id)
  /-- The result is owed. -/
  | owed (worker : Nat) (owes : Owes past world index worker)
      (alone : ∀ other, Owes past world index other → other = worker)
      (ended : record.state.terminal = true)
      (same : transitions index past = world.announced record.spec.id ++ [record.state])

end SchedulerWorld

section
variable {record new : TaskRecord} {point : Point} {outcome : Option Outcome}
variable {next : Option Point} {announced : Bool} {lease : Option Lease}

/-- A failure behind a worker at an await: its attempt has just failed, or had failed before. -/
def Failure (outcome : Option Outcome) (point : Point) : Prop :=
  (∃ answer, outcome = some answer ∧ answer.fails = true) ∨
    (outcome = none ∧ point.fallen = true)

/-- Whether a worker goes to the PENDING announcement. -/
def Point.goesBack (point : Point) (next : Option Point) : Bool :=
  next.any Point.requeues && !point.requeues

/-- A record that nothing happens to makes no transition. -/
theorem TaskRecord.stepped_same (record : TaskRecord) : record.stepped record false = [] := by
  cases ended : record.state.terminal <;> simp [stepped, ended]

/-- A live record that ends makes that transition. -/
theorem TaskRecord.stepped_ended (count : new.attemptCount = record.attemptCount)
    (live : record.state.terminal = false) (ended : new.state.terminal = true) (back : Bool) :
    record.stepped new back = [new.state] := by
  simp [stepped, count, live, ended]

/-- A record that does not end is set back or makes no transition. -/
theorem TaskRecord.stepped_live (count : new.attemptCount = record.attemptCount)
    (live : new.state.terminal = false) (back : Bool) :
    record.stepped new back = if back then [.pending] else [] := by
  simp [stepped, count, live]

/-- What `_requeue` makes of a live record is announced. -/
theorem Requeues.tells (went : Requeues record lease new next announced)
    (live : record.state.terminal = false) (point : Point) (before : point.requeues = false) :
    record.stepped new (point.goesBack next) = if announced then [new.state] else [] := by
  cases went with
  | exhausted error spent =>
    refine TaskRecord.stepped_ended ?_ live ?_ _
    · rfl
    · rfl
  | delayed delay left =>
    have back : point.goesBack (some (.requeueing lease delay)) = true := by
      rw [Point.goesBack, before]
      rfl
    rw [back]
    refine TaskRecord.stepped_live ?_ ?_ true
    · rfl
    · rfl
  | overflow left =>
    have away : point.goesBack (lease.map .releasing) = false := by
      cases lease <;> rfl
    rw [away]
    exact record.stepped_same

/-- `_requeue` without a lease leaves nothing to be released. -/
theorem Requeues.unleased (went : Requeues record none new next announced) {place : Point}
    (at_ : next = some place) :
    place.fallen = false ∧ ∀ lease, place ≠ .releasing lease := by
  cases went with
  | exhausted error spent =>
    cases at_
    exact ⟨rfl, nofun⟩
  | delayed delay left =>
    cases at_
    exact ⟨rfl, nofun⟩
  | overflow left => cases at_

namespace Move

/-- **A failure stays behind its worker** until the lease is released. -/
theorem falls (move : Move record point outcome new next announced) {place : Point}
    (at_ : next = some place) (fallen : place.fallen = true) : Failure outcome point := by
  cases move with
  | timedOut went =>
    rw [(went.unleased at_).1] at fallen
    cases fallen
  | blamed lease attempt outcome fails message reason => exact .inl ⟨outcome, rfl, fails⟩
  | requeued lease attempt outcome fails message went => exact .inl ⟨outcome, rfl, fails⟩
  | quarantined lease reason went => exact .inr ⟨rfl, rfl⟩
  | created lease delay | failed lease =>
    cases lease with
    | none => cases at_
    | some lease =>
      cases at_
      cases fallen
  | leased | started | succeeded | rejected | released =>
    cases at_
    cases fallen
  | unevaluated | abandoned | announced | releasedQuietly => cases at_

/-- A worker goes to the release with a failure behind it, or with the result. -/
theorem releases (move : Move record point outcome new next announced) {lease : Lease}
    (at_ : next = some (.releasing lease)) :
    Failure outcome point ∨ ∃ answer, outcome = some answer ∧ answer.fails = false := by
  cases move with
  | timedOut went => exact absurd rfl ((went.unleased at_).2 lease)
  | requeued lease attempt outcome fails message went => exact .inl (.inl ⟨outcome, rfl, fails⟩)
  | quarantined lease reason went => exact .inl (.inr ⟨rfl, rfl⟩)
  | created lease delay | failed lease =>
    cases lease with
    | none => cases at_
    | some lease => exact .inl (.inr ⟨rfl, rfl⟩)
  | succeeded lease attempt value => exact .inr ⟨_, rfl, rfl⟩
  | rejected lease attempt message => exact .inr ⟨_, rfl, rfl⟩
  | leased | started | blamed | released => cases at_
  | unevaluated | abandoned | announced | releasedQuietly => cases at_

/-- **A worker that answers for its record announces what it does to it**, unless it has the
result. -/
theorem tells (move : Move record point outcome new next announced) (active : point.active = true)
    (phase : record.state = point.expects) :
    (record.stepped new (point.goesBack next) = if announced then [new.state] else []) ∧
        (∀ answer, outcome = some answer → answer.fails = true) ∨
      (record.stepped new (point.goesBack next) = [new.state] ∧ announced = false ∧
        new.state.terminal = true ∧ (∃ lease, next = some (.releasing lease)) ∧
          ∃ answer, outcome = some answer ∧ answer.fails = false) := by
  have live : record.state.terminal = false := by
    rw [phase]
    exact point.expects_live
  cases move with
  | leased lease =>
    refine .inl ⟨?_, nofun⟩
    simp [TaskRecord.stepped, TaskRecord.attemptCount]
  | timedOut went => exact .inl ⟨went.tells live .acquiring rfl, nofun⟩
  | unevaluated => exact .inl ⟨record.stepped_same, nofun⟩
  | started lease attempt => exact .inl ⟨record.stepped_same, nofun⟩
  | created lease delay =>
    have away : (Point.requeueing lease delay).goesBack (lease.map .releasing) = false := by
      cases lease <;> rfl
    rw [away]
    exact .inl ⟨record.stepped_same, nofun⟩
  | succeeded lease attempt value =>
    refine .inr ⟨TaskRecord.stepped_ended ?_ live ?_ _, rfl, rfl, ⟨lease, rfl⟩, _, rfl, rfl⟩
    · exact record.endAttempt_attemptCount attempt none
    · rfl
  | rejected lease attempt message =>
    refine .inr ⟨TaskRecord.stepped_ended ?_ live ?_ _, rfl, rfl, ⟨lease, rfl⟩, _, rfl, rfl⟩
    · exact record.endAttempt_attemptCount attempt (some message)
    · rfl
  | blamed lease attempt outcome fails message reason =>
    have count := record.endAttempt_attemptCount attempt (some message)
    refine .inl ⟨?_, ?_⟩
    · have kept : (record.endAttempt attempt (some message)).state.terminal = false := live
      exact TaskRecord.stepped_live count kept false
    · rintro answer ⟨⟩
      exact fails
  | requeued lease attempt outcome fails message went =>
    have count := record.endAttempt_attemptCount attempt (some message)
    refine .inl ⟨?_, ?_⟩
    · have kept : (record.endAttempt attempt (some message)).state.terminal = false := live
      have told := went.tells kept (.executing lease attempt) rfl
      have same : (record.endAttempt attempt (some message)).stepped new
          ((Point.executing lease attempt).goesBack next) =
          record.stepped new ((Point.executing lease attempt).goesBack next) := by
        simp only [TaskRecord.stepped, count]
        rfl
      exact same.symm.trans told
    · rintro answer ⟨⟩
      exact fails
  | quarantined lease reason went =>
    exact .inl ⟨went.tells live (.quarantining lease reason) rfl, nofun⟩
  | abandoned | failed | announced | releasedQuietly | released => cases active

end Move

end

/-- Whether a worker inside a call awaits the PENDING announcement. -/
theorem Worker.requeues_within (held index : Nat) (next : Option Point) :
    (Worker.within held next).requeues index = (held == index && next.any Point.requeues) := by
  cases next <;> simp [within, requeues]

namespace SchedulerWorld

section
variable {world after : SchedulerWorld} {action : SchedulerAction} {past : List Taken}
variable {worker index : Nat} {record new : TaskRecord} {next : Option Point}

/-- Where one worker moves, it is the one that gets to the PENDING announcement. -/
theorem setBack_moved {old state : Worker} (found : world.scheduler.workers[worker]? = some old)
    (workers : after.scheduler.workers = world.scheduler.workers.set worker state) :
    setBack index ⟨world, action, after⟩ = (state.requeues index && !old.requeues index) := by
  obtain ⟨inside, -⟩ := List.getElem?_eq_some_iff.mp found
  rw [Bool.eq_iff_iff]
  simp only [setBack, List.any_eq_true, List.mem_range, workers, List.length_set]
  constructor
  · rintro ⟨other, -, moved⟩
    by_cases same : other = worker
    · subst same
      rwa [List.getElem?_set_self inside, found, Option.any_some, Option.any_some] at moved
    · rw [List.getElem?_set_ne (Ne.symm same)] at moved
      simp at moved
  · intro moved
    refine ⟨worker, inside, ?_⟩
    rwa [List.getElem?_set_self inside, found, Option.any_some, Option.any_some]

/-- Where no worker gets to the PENDING announcement of a record that stays, nothing happens to
it. -/
theorem transition_still
    (same : after.scheduler.records[index]? = world.scheduler.records[index]?)
    (back : setBack index ⟨world, action, after⟩ = false) :
    transition index ⟨world, action, after⟩ = [] := by
  simp only [transition, same, back]
  cases world.scheduler.records[index]? with
  | none => rfl
  | some record => exact record.stepped_same

/-- The transition of a record whose worker moves. -/
theorem transition_moved {old : Worker} (found : world.scheduler.workers[worker]? = some old)
    (known : world.scheduler.records[index]? = some record)
    (records : after.scheduler.records = world.scheduler.records.set index new)
    (workers : after.scheduler.workers = world.scheduler.workers.set worker (.within index next)) :
    transition index ⟨world, action, after⟩ =
      record.stepped new (next.any Point.requeues && !old.requeues index) := by
  obtain ⟨bound, -⟩ := List.getElem?_eq_some_iff.mp known
  have rewritten : after.scheduler.records[index]? = some new := by simp [records, bound]
  simp only [transition, known, rewritten]
  rw [setBack_moved found workers, Worker.requeues_within]
  simp

/-- The record of another worker makes no transition. -/
theorem transition_apart {old : Worker} {held : Nat} (apart : index ≠ held)
    (found : world.scheduler.workers[worker]? = some old)
    (records : after.scheduler.records = world.scheduler.records.set held new)
    (workers : after.scheduler.workers = world.scheduler.workers.set worker (.within held next)) :
    transition index ⟨world, action, after⟩ = [] := by
  refine transition_still (by rw [records, List.getElem?_set_ne (Ne.symm apart)]) ?_
  rw [setBack_moved found workers, Worker.requeues_within]
  simp [Ne.symm apart]

/-- What is published is announced for its task. -/
theorem announced_published {told : Bool}
    (published : after.scheduler.published = world.scheduler.published ++
      if told then [new.event] else []) (taskId : TaskId) :
    after.announced taskId = world.announced taskId ++
      if told = true ∧ new.spec.id = taskId then [new.state] else [] := by
  have event : new.event.taskId = new.spec.id ∧ new.event.state = new.state := ⟨rfl, rfl⟩
  simp only [announced, published, List.filter_append, List.map_append]
  cases told with
  | false => simp
  | true =>
    by_cases same : new.spec.id = taskId
    · simp [event.1, event.2, same]
    · simp [event.1, same]

/-- A worker that hears nothing from the target keeps the outcome of its latest attempt. -/
theorem lastFailed_silent (silent : action.outcome? worker = none) :
    lastFailed worker (⟨world, action, after⟩ :: past) = lastFailed worker past := by
  simp [lastFailed, silent]

/-- A worker that hears from the target knows the outcome. -/
theorem lastFailed_asked {outcome : Outcome} (asked : action.outcome? worker = some outcome) :
    lastFailed worker (⟨world, action, after⟩ :: past) = outcome.fails := by
  simp [lastFailed, asked]

/-- What the history says about workers, records and events. -/
structure Reported (past : List Taken) (world : SchedulerWorld) : Prop where
  /-- A worker that has a failure to deal with has heard of it. -/
  fallen : ∀ (worker index : Nat) (point : Point),
    world.scheduler.workers[worker]? = some (.busy index point) → point.fallen = true →
    lastFailed worker past = true
  /-- A record that does not exist has made no transition. -/
  unborn : ∀ index, world.scheduler.records[index]? = none → transitions index past = []
  /-- Events are about known tasks. -/
  known : ∀ event ∈ world.scheduler.published, world.scheduler.table event.taskId ≠ none

/-- A failure behind a worker is remembered. -/
theorem Reported.failure (reported : Reported past world) {point : Point}
    (busy : world.scheduler.workers[worker]? = some (.busy index point))
    (failure : Failure (action.outcome? worker) point) :
    lastFailed worker (⟨world, action, after⟩ :: past) = true := by
  rcases failure with ⟨answer, asked, fails⟩ | ⟨silent, fallen⟩
  · rw [lastFailed_asked asked, fails]
  · rw [lastFailed_silent silent]
    exact reported.fallen worker index point busy fallen

/-- A worker that is busy after one worker moved is that one, or was busy before. -/
theorem busy_moved {held other : Nat} {point : Point}
    (workers : after.scheduler.workers = world.scheduler.workers.set worker (.within held next))
    (busy : after.scheduler.workers[other]? = some (.busy index point)) :
    (other = worker ∧ index = held ∧ next = some point) ∨
      (other ≠ worker ∧ world.scheduler.workers[other]? = some (.busy index point)) := by
  rw [workers] at busy
  rcases Slots.getElem?_rewritten busy with ⟨same, moved⟩ | apart
  · cases next with
    | none => cases moved
    | some place =>
      cases moved
      exact .inl ⟨same, rfl, rfl⟩
  · exact .inr apart

/-- **Every step keeps what the history says.** -/
theorem Reported.step (reported : Reported past world) (attended : world.scheduler.Attended)
    (deed : Deed world action after) :
    Reported (⟨world, action, after⟩ :: past) after := by
  have unborn : world.scheduler.records.length ≤ after.scheduler.records.length → ∀ index,
      after.scheduler.records[index]? = none →
      transitions index (⟨world, action, after⟩ :: past) = [] := by
    intro grown index missing
    have beyond := List.getElem?_eq_none_iff.mp missing
    have before : world.scheduler.records[index]? = none :=
      List.getElem?_eq_none_iff.mpr (grown.trans beyond)
    simp [transitions, reported.unborn index before, transition, before]
  have published : ∀ (told : Bool) (new : TaskRecord), world.scheduler.table new.spec.id ≠ none →
      after.scheduler.table = world.scheduler.table →
      after.scheduler.published = world.scheduler.published ++ (if told then [new.event] else []) →
      ∀ event ∈ after.scheduler.published, after.scheduler.table event.taskId ≠ none := by
    intro told new named table published event member
    rw [table]
    rw [published] at member
    rcases List.mem_append.mp member with earlier | here
    · exact reported.known event earlier
    · cases told with
      | false => cases here
      | true =>
        obtain rfl := List.mem_singleton.mp here
        exact named
  cases deed with
  | works worker held point old new next announced busy there move table records workers tokens
      told sole release =>
    refine ⟨?_, unborn (by simp [records]), published announced new ?_ table told⟩
    · intro other index place busy' fallen
      rcases busy_moved workers busy' with ⟨rfl, rfl, at_⟩ | ⟨apart, earlier⟩
      · exact reported.failure busy (move.falls at_ fallen)
      · rw [lastFailed_silent (sole other apart)]
        exact reported.fallen other index place earlier fallen
    · rw [move.spec, attended.named held old there]
      exact nofun
  | takes worker held old new next announced idle waits there entry table records workers tokens
      told silent =>
    refine ⟨?_, unborn (by simp [records]), published announced new ?_ table told⟩
    · intro other index place busy' fallen
      rw [lastFailed_silent (silent other)]
      rcases busy_moved workers busy' with ⟨rfl, rfl, at_⟩ | ⟨apart, earlier⟩
      · cases entry <;> cases at_ <;> cases fallen
      · exact reported.fallen other index place earlier fallen
    · have same : new.spec = old.spec := by cases entry <;> rfl
      rw [same, attended.named held old there]
      exact nofun
  | submits new unused fresh accepted table records workers told silent =>
    refine ⟨?_, unborn (by simp [records]), ?_⟩
    · intro other index place busy fallen
      rw [lastFailed_silent (silent other)]
      rw [workers] at busy
      exact reported.fallen other index place busy fallen
    · intro event member
      rw [told] at member
      have named := reported.known event member
      rw [table]
      by_cases same : event.taskId = new.spec.id
      · rw [same, Function.update_self]
        exact nofun
      · rwa [Function.update_of_ne same]
  | rest table records workers holders tokens told silent =>
    refine ⟨?_, unborn (by simp [records]), ?_⟩
    · intro other index place busy fallen
      rw [lastFailed_silent (silent other)]
      exact reported.fallen other index place ((workers other index place).mp busy) fallen
    · rw [told, table]
      exact reported.known

/-- A step that does nothing to a record, announces nothing of it and leaves what is owed. -/
theorem Told.aside (told : Told past world index record)
    (still : transition index ⟨world, action, after⟩ = [])
    (same : after.announced record.spec.id = world.announced record.spec.id)
    (owes : ∀ worker, Owes (⟨world, action, after⟩ :: past) after index worker ↔
      Owes past world index worker) : Told (⟨world, action, after⟩ :: past) after index record := by
  have kept : transitions index (⟨world, action, after⟩ :: past) = transitions index past := by
    simp [transitions, still]
  cases told with
  | even free told => exact .even (fun worker => by rw [owes]; exact free worker) (by
      rw [kept, same, told])
  | owed worker owed alone ended told =>
    exact .owed worker ((owes worker).mpr owed) (fun other owing => alone other
      ((owes other).mp owing)) ended (by rw [kept, same, told])

/-- A record that nobody owes the result of, because it has not ended. -/
theorem Told.free (told : Told past world index record) (live : record.state.terminal = false) :
    (∀ worker, ¬Owes past world index worker) ∧
      transitions index past = world.announced record.spec.id := by
  cases told with
  | even free same => exact ⟨free, same⟩
  | owed worker owes alone ended same =>
    rw [live] at ended
    cases ended

/-- Workers that stay where they are and hear nothing owe what they owed. -/
theorem owes_apart {held other : Nat} (apart : other ≠ worker)
    (workers : after.scheduler.workers = world.scheduler.workers.set worker (.within held next))
    (sole : ∀ other, other ≠ worker → action.outcome? other = none) :
    Owes (⟨world, action, after⟩ :: past) after index other ↔ Owes past world index other := by
  simp only [Owes, workers, List.getElem?_set_ne (Ne.symm apart),
    lastFailed_silent (sole other apart)]

/-- **A worker that answers for a record tells what it does to it.** -/
theorem Told.active (told : Told past world index record) (reported : Reported past world)
    {point : Point} {told' : Bool}
    (busy : world.scheduler.workers[worker]? = some (.busy index point))
    (known : world.scheduler.records[index]? = some record)
    (move : Move record point (action.outcome? worker) new next told')
    (active : point.active = true)
    (phase : record.state = point.expects)
    (records : after.scheduler.records = world.scheduler.records.set index new)
    (workers : after.scheduler.workers = world.scheduler.workers.set worker (.within index next))
    (published : after.scheduler.published = world.scheduler.published ++
      if told' then [new.event] else [])
    (sole : ∀ other, other ≠ worker → action.outcome? other = none) :
    Told (⟨world, action, after⟩ :: past) after index new := by
  obtain ⟨inside, -⟩ := List.getElem?_eq_some_iff.mp busy
  have live : record.state.terminal = false := by
    rw [phase]
    exact point.expects_live
  obtain ⟨free, same⟩ := told.free live
  have requeues : (Worker.busy index point).requeues index = point.requeues := by
    simp [Worker.requeues]
  have moved : transitions index (⟨world, action, after⟩ :: past) =
      world.announced record.spec.id ++ record.stepped new (point.goesBack next) := by
    rw [transitions, same, transition_moved busy known records workers, requeues]
    rfl
  have heard : after.announced new.spec.id =
      world.announced record.spec.id ++ if told' then [new.state] else [] := by
    rw [announced_published published, move.spec]
    simp
  have own : ∀ other, Owes (⟨world, action, after⟩ :: past) after index other →
      other = worker ∧ (∃ lease, next = some (.releasing lease)) ∧
        lastFailed worker (⟨world, action, after⟩ :: past) = false := by
    intro other owes
    by_cases apart : other = worker
    · subst apart
      obtain ⟨⟨lease, there⟩, well⟩ := owes
      rcases busy_moved workers there with ⟨-, -, at_⟩ | ⟨apart, -⟩
      · exact ⟨rfl, ⟨lease, at_⟩, well⟩
      · exact absurd rfl apart
    · exact absurd ((owes_apart apart workers sole).mp owes) (free other)
  rcases move.tells active phase with
    ⟨tells, failed⟩ | ⟨tells, quiet, ended, ⟨lease, at_⟩, answer, asked, well⟩
  · refine .even (fun other owes => ?_) (by rw [moved, heard, tells])
    obtain ⟨rfl, ⟨lease, at_⟩, well⟩ := own other owes
    rcases move.releases at_ with failure | ⟨answer, asked, fails⟩
    · rw [reported.failure busy failure] at well
      cases well
    · rw [failed answer asked] at fails
      cases fails
  · refine .owed worker ⟨⟨lease, ?_⟩, ?_⟩ (fun other owes => (own other owes).1) ended ?_
    · rw [workers, at_]
      exact List.getElem?_set_self inside
    · rw [lastFailed_asked asked, well]
    · rw [moved, heard, tells, quiet]
      simp

/-- **A worker that no longer answers for a record announces only the result it owes.** -/
theorem Told.inactive (told : Told past world index record) (reported : Reported past world)
    {point : Point} {outcome : Option Outcome} {told' : Bool}
    (busy : world.scheduler.workers[worker]? = some (.busy index point))
    (known : world.scheduler.records[index]? = some record)
    (asked : action.outcome? worker = outcome)
    (move : Move record point outcome new next told') (inactive : point.active = false)
    (records : after.scheduler.records = world.scheduler.records.set index new)
    (workers : after.scheduler.workers = world.scheduler.workers.set worker (.within index next))
    (published : after.scheduler.published = world.scheduler.published ++
      if told' then [new.event] else [])
    (sole : ∀ other, other ≠ worker → action.outcome? other = none)
    (release : ∀ lease, point = .releasing lease → lastFailed worker past = true →
      record.state = .pending) :
    Told (⟨world, action, after⟩ :: past) after index new := by
  have same := (move.idle inactive).1
  have still : next.any Point.requeues = false →
      transition index ⟨world, action, after⟩ = [] := by
    intro away
    rw [transition_moved busy known records workers, away, same]
    exact record.stepped_same
  have heard := announced_published published record.spec.id
  -- A worker that owes nothing before and after the step changes nothing.
  have aside : next.any Point.requeues = false → told' = false →
      ¬Owes past world index worker →
      ¬Owes (⟨world, action, after⟩ :: past) after index worker →
      Told (⟨world, action, after⟩ :: past) after index new := by
    intro away quiet before later
    rw [same]
    refine told.aside (still away) (by simpa [quiet] using heard) fun other => ?_
    by_cases apart : other = worker
    · subst apart
      exact ⟨fun owes => absurd owes later, fun owes => absurd owes before⟩
    · exact owes_apart apart workers sole
  have elsewhere : (∀ lease, point ≠ .releasing lease) → ¬Owes past world index worker := by
    rintro away ⟨⟨lease, there⟩, -⟩
    obtain rfl : point = .releasing lease := by simpa using busy.symm.trans there
    exact away lease rfl
  have goes : (∀ lease, next = some (.releasing lease) →
      lastFailed worker (⟨world, action, after⟩ :: past) = true) →
      ¬Owes (⟨world, action, after⟩ :: past) after index worker := by
    rintro flagged ⟨⟨lease, there⟩, well⟩
    rcases busy_moved workers there with ⟨-, -, at_⟩ | ⟨apart, -⟩
    · rw [flagged lease at_] at well
      cases well
    · exact apart rfl
  cases move with
  | abandoned => exact aside rfl rfl (elsewhere nofun) (goes nofun)
  | announced => exact aside rfl rfl (elsewhere nofun) (goes nofun)
  | failed lease =>
    cases lease with
    | none => exact aside rfl rfl (elsewhere nofun) (goes nofun)
    | some lease =>
      exact aside rfl rfl (elsewhere nofun)
        (goes fun _ _ => reported.failure busy (.inr ⟨asked, rfl⟩))
  | releasedQuietly lease pending =>
    refine aside rfl rfl (fun owes => ?_) (goes nofun)
    have live : record.state.terminal = false := by
      rw [pending]
      rfl
    exact (told.free live).1 worker owes
  | released lease settled =>
    have owes : Owes past world index worker := by
      refine ⟨⟨lease, busy⟩, Bool.eq_false_iff.mpr fun failed => settled ?_⟩
      exact release lease rfl failed
    cases told with
    | even free same => exact absurd owes (free worker)
    | owed debtor owed alone ended same =>
      refine .even (fun other owing => ?_) ?_
      · by_cases apart : other = worker
        · subst apart
          exact goes nofun owing
        · have before := (owes_apart apart workers sole).mp owing
          exact apart ((alone other before).trans (alone worker owes).symm)
      · rw [transitions, same, still rfl, heard]
        simp
  | leased | timedOut | unevaluated | started | created | succeeded | rejected | blamed
  | requeued | quarantined => cases inactive

/-- **A worker that takes the token of a record announces what it does to it.** -/
theorem Told.taken (told : Told past world index record) (pending : record.state = .pending)
    {told' : Bool} (idle : world.scheduler.workers[worker]? = some .idle)
    (known : world.scheduler.records[index]? = some record)
    (entry : Entry record new next told')
    (records : after.scheduler.records = world.scheduler.records.set index new)
    (workers : after.scheduler.workers = world.scheduler.workers.set worker (.within index next))
    (published : after.scheduler.published = world.scheduler.published ++
      if told' then [new.event] else [])
    (silent : ∀ worker, action.outcome? worker = none) :
    Told (⟨world, action, after⟩ :: past) after index new := by
  have live : record.state.terminal = false := by
    rw [pending]
    rfl
  obtain ⟨free, same⟩ := told.free live
  have spec : new.spec = record.spec := by cases entry <;> rfl
  have stepped : record.stepped new (next.any Point.requeues) =
      if told' then [new.state] else [] := by
    cases entry with
    | left => exact record.stepped_same
    | abandoned error =>
      refine TaskRecord.stepped_ended ?_ live ?_ _
      · rfl
      · rfl
    | acquiring => exact record.stepped_same
  refine .even ?_ ?_
  · rintro other owes
    by_cases apart : other = worker
    · subst apart
      obtain ⟨⟨lease, there⟩, -⟩ := owes
      rcases busy_moved workers there with ⟨-, -, at_⟩ | ⟨apart, -⟩
      · cases entry <;> cases at_
      · exact apart rfl
    · exact free other ((owes_apart apart workers fun other _ => silent other).mp owes)
  · rw [transitions, same, transition_moved idle known records workers,
      announced_published published, spec]
    simpa [Worker.requeues] using stepped

/-- A worker that moves on another record leaves this one told. -/
theorem Told.apart (told : Told past world index record) {held : Nat} {old : Worker}
    (elsewhere : index ≠ held) (found : world.scheduler.workers[worker]? = some old)
    (away : ∀ point, old ≠ .busy index point)
    (records : after.scheduler.records = world.scheduler.records.set held new)
    (workers : after.scheduler.workers = world.scheduler.workers.set worker (.within held next))
    {told' : Bool} (published : after.scheduler.published = world.scheduler.published ++
      if told' then [new.event] else [])
    (ids : new.spec.id ≠ record.spec.id)
    (sole : ∀ other, other ≠ worker → action.outcome? other = none) :
    Told (⟨world, action, after⟩ :: past) after index record := by
  refine told.aside (transition_apart elsewhere found records workers) ?_ fun other => ?_
  · rw [announced_published published]
    simp [ids]
  · by_cases apart : other = worker
    · subst apart
      constructor
      · rintro ⟨⟨lease, there⟩, -⟩
        rcases busy_moved workers there with ⟨-, same, -⟩ | ⟨apart, -⟩
        · exact absurd same elsewhere
        · exact absurd rfl apart
      · rintro ⟨⟨lease, there⟩, -⟩
        exact absurd (Option.some.inj (found.symm.trans there)) (away _)
    · exact owes_apart apart workers sole

/-- A new record has nothing to tell. -/
theorem Told.submitted (reported : Reported past world) (accounted : world.scheduler.Accounted)
    (fresh : world.scheduler.table new.spec.id = none)
    (workers : after.scheduler.workers = world.scheduler.workers)
    (published : after.scheduler.published = world.scheduler.published) :
    Told (⟨world, action, after⟩ :: past) after world.scheduler.records.length new := by
  have missing : world.scheduler.records[world.scheduler.records.length]? = none := by simp
  have silent : after.announced new.spec.id = [] := by
    rw [announced, published, List.filter_eq_nil_iff.mpr, List.map_nil]
    intro event member same
    refine reported.known event member ?_
    rw [of_decide_eq_true same]
    exact fresh
  refine .even ?_ ?_
  · rintro worker ⟨⟨lease, busy⟩, -⟩
    rw [workers] at busy
    exact absurd (accounted.inRange _ _ (List.mem_of_getElem? busy)) (Nat.lt_irrefl _)
  · rw [transitions, reported.unborn _ missing, silent]
    simp [transition]

/-- A step that moves no worker inside a call leaves a record told. -/
theorem Told.rest (told : Told past world index record)
    (records : after.scheduler.records[index]? = world.scheduler.records[index]?)
    (workers : ∀ (worker index : Nat) (point : Point),
      after.scheduler.workers[worker]? = some (.busy index point) ↔
        world.scheduler.workers[worker]? = some (.busy index point))
    (published : after.scheduler.published = world.scheduler.published)
    (silent : ∀ worker, action.outcome? worker = none) :
    Told (⟨world, action, after⟩ :: past) after index record := by
  refine told.aside (transition_still records ?_) (by rw [announced, published]; rfl) ?_
  · refine List.any_eq_false.mpr fun worker _ moved => ?_
    simp only [Bool.and_eq_true, Bool.not_eq_true'] at moved
    obtain ⟨state, found, requeues⟩ := (Option.any_eq_true _ _).mp moved.1
    cases state with
    | idle | exited => cases requeues
    | busy held point =>
      have before := (workers worker held point).mp found
      simp [before, requeues] at moved
  · intro worker
    simp only [Owes, workers, lastFailed_silent (silent worker)]

/-- **Every step keeps a record told**, if a worker whose attempt failed releases its lease only
while the record is PENDING. -/
theorem told_step (attended : world.scheduler.Attended) (accounted : world.scheduler.Accounted)
    (reported : Reported past world) (deed : Deed world action after)
    (told : ∀ old, world.scheduler.records[index]? = some old → Told past world index old)
    (back : SetBack index past ⟨world, action, after⟩)
    (known : after.scheduler.records[index]? = some record) :
    Told (⟨world, action, after⟩ :: past) after index record := by
  cases deed with
  | works worker held point old new next announced busy there move table records workers tokens
      published sole release =>
    rw [records] at known
    rcases Slots.getElem?_rewritten known with ⟨rfl, rfl⟩ | ⟨elsewhere, before⟩
    · cases active : point.active with
      | true =>
        exact (told old there).active reported busy there move active
          (attended.expected worker index point old busy active there) records workers published
          sole
      | false =>
        refine (told old there).inactive reported busy there rfl move active records workers
          published sole fun lease at_ failed => ?_
        obtain rfl := release lease at_
        exact back _ (at?_eq_some.mpr ⟨busy, there⟩) rfl failed
    · refine (told record before).apart elsewhere busy (fun place same => ?_) records workers
        published (fun same => ?_) sole
      · cases same
        exact elsewhere rfl
      · rw [move.spec] at same
        exact elsewhere (attended.unique before there same.symm)
  | takes worker held old new next announced idle waits there entry table records workers tokens
      published silent =>
    rw [records] at known
    rcases Slots.getElem?_rewritten known with ⟨rfl, rfl⟩ | ⟨elsewhere, before⟩
    · exact (told old there).taken (attended.waits index old there waits) idle there entry records
        workers published silent
    · refine (told record before).apart elsewhere idle nofun records workers published
        (fun same => ?_) fun other _ => silent other
      have spec : new.spec = old.spec := by cases entry <;> rfl
      rw [spec] at same
      exact elsewhere (attended.unique before there same.symm)
  | submits new unused fresh accepted table records workers published silent =>
    rw [records] at known
    rcases Slots.getElem?_concat known with ⟨rfl, rfl⟩ | ⟨-, before⟩
    · exact .submitted reported accounted fresh workers published
    · obtain ⟨bound, -⟩ := List.getElem?_eq_some_iff.mp before
      refine (told record before).rest ?_ (fun worker index point => by rw [workers]) published
        silent
      rw [records, List.getElem?_append_left bound]
  | rest table records workers holders tokens published silent =>
    have same : after.scheduler.records[index]? = world.scheduler.records[index]? := by
      rw [records]
    exact (told record (same.symm.trans known)).rest same workers published silent

end

variable {config : SchedulerConfig} {past : List Taken} {world : SchedulerWorld} {index : Nat}
variable {record : TaskRecord}

/-- What a history says holds of every run in which ids are distinct and nothing raises. -/
theorem reported_run (history : History (step config) Distinct {} past world) :
    Reported past world :=
  history.invariant Reported ⟨by simp, fun _ _ => rfl, by simp⟩
    fun earlier reported distinct taken =>
      reported.step (attended_run earlier.run)
        (deed (attended_run earlier.run) (accounted earlier.run) distinct taken)

/-- **Each transition of a task is announced exactly once**, in order, in every run in which ids
are distinct, nothing raises, and a worker whose attempt failed releases its lease only while the
record is PENDING: at any time the announcements are the transitions, or lack only the result that
one worker will announce once it has released the lease. -/
theorem announced_once (history : History (step config) Distinct {} past world)
    (back : Throughout (SetBack index) past)
    (known : world.scheduler.records[index]? = some record) :
    transitions index past = world.announced record.spec.id ∨
      ∃ worker lease, world.scheduler.workers[worker]? = some (.busy index (.releasing lease)) ∧
        lastFailed worker past = false ∧
        transitions index past = world.announced record.spec.id ++ [record.state] := by
  have told : ∀ record, world.scheduler.records[index]? = some record →
      Told past world index record := by
    refine history.throughout (fun past world => ∀ record,
      world.scheduler.records[index]? = some record → Told past world index record)
      (fun record known => by simp at known) ?_ back
    intro past state action after earlier told distinct back taken record known
    exact told_step (attended_run earlier.run) (accounted earlier.run) (reported_run earlier)
      (deed (attended_run earlier.run) (accounted earlier.run) distinct taken) told back known
  cases told record known with
  | even free same => exact .inl same
  | owed worker owes alone ended same =>
    obtain ⟨⟨lease, busy⟩, well⟩ := owes
    exact .inr ⟨worker, lease, busy, well, same⟩

end SchedulerWorld

namespace Bench

/-- A task that fails once, is set back, and succeeds on its second attempt. -/
def setBackOnce : List SchedulerAction :=
  [.others registry, .start, .submit { kind := "android", id := "demo", maxAttempts := 2 } "first",
    .take 0, .leased 0 0, .sinkReturned 0, .executed 0 (.retryable "no such element" false) 0,
    .sinkReturned 0, .released 0, .retryDue 0, .take 1, .leased 1 1, .sinkReturned 1,
    .executed 1 (.result .null) 0, .released 1, .sinkReturned 1]

/-- A task whose only attempt fails. -/
def failsAtOnce : List SchedulerAction :=
  [.others registry, .start, .submit spec "first", .take 0, .leased 0 0, .sinkReturned 0,
    .executed 0 (.retryable "no such element" false) 0, .sinkReturned 0, .released 0,
    .sinkReturned 0]

end Bench

namespace SchedulerWorld

/-- The announcements of a task that is set back once. -/
theorem announced_once_set_back :
    ∃ (past : List Taken) (world : SchedulerWorld) (record : TaskRecord),
      world.scheduler.records[0]? = some record ∧
      world.announced record.spec.id = [.running, .pending, .running, .succeeded] ∧
      (transitions 0 past = world.announced record.spec.id ∨
        ∃ worker lease, world.scheduler.workers[worker]? = some (.busy 0 (.releasing lease)) ∧
          lastFailed worker past = false ∧
          transitions 0 past = world.announced record.spec.id ++ [record.state]) := by
  have passed : (Transition.trace (Transition.guarded (step Bench.config) Distinct) [] {}
      Bench.setBackOnce).any (fun reached => decide (Throughout (SetBack 0) reached.1) &&
        reached.2.scheduler.records[0]?.any fun record => decide
          (reached.2.announced record.spec.id = [.running, .pending, .running, .succeeded])) =
          true := by
    decide +kernel
  obtain ⟨past, world, history, shown⟩ := Transition.traces passed
  obtain ⟨back, told⟩ := Bool.and_eq_true_iff.mp shown
  obtain ⟨record, known, announced⟩ := (Option.any_eq_true _ _).mp told
  exact ⟨past, world, record, known, of_decide_eq_true announced,
    announced_once history (of_decide_eq_true back) known⟩

/-- **FAILED is announced twice.** The only attempt of a task fails: `_requeue` announces FAILED,
and so does the `finally`, although the record entered FAILED once. -/
theorem failed_twice : ∃ (past : List Taken) (world : SchedulerWorld),
    History (step Bench.config) Distinct {} past world ∧
    world.scheduler.workers = [.idle, .idle] ∧
    transitions 0 past = [.running, .failed] ∧
    world.announced "demo" = [.running, .failed, .failed] := by
  have passed : (Transition.trace (Transition.guarded (step Bench.config) Distinct) [] {}
      Bench.failsAtOnce).any (fun reached => decide (reached.2.scheduler.workers = [.idle, .idle] ∧
        transitions 0 reached.1 = [.running, .failed] ∧
        reached.2.announced "demo" = [.running, .failed, .failed])) = true := by
    decide +kernel
  obtain ⟨past, world, history, shown⟩ := Transition.traces passed
  obtain ⟨idle, made, announced⟩ := of_decide_eq_true shown
  exact ⟨past, world, history, idle, made, announced⟩

end SchedulerWorld

end DeviceOrchestrator
