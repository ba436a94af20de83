import DeviceOrchestrator.Lib.Custody
import DeviceOrchestrator.Verif.Accounting

/-!
# Records are carried

The scheduler is a custody of records: the tokens of an id are its places in the queue and its
sleeping retries, and a worker holds a record from the lease request until the record has ended
or its retry is created. `Careful` names the steps under which custody is kept, and every
careful step is a number of custody steps (`Handover.steps`). With custody go the phases of
`_run_once`: a record that nobody holds waits as PENDING, one that a worker holds is in the
state that its await expects, and no record outgrows its attempts.
-/
namespace DeviceOrchestrator

/-- The awaits at which a worker still answers for its record. -/
def Point.active : Point → Bool
  | acquiring | starting _ _ | executing _ _ | quarantining _ _ | requeueing _ _ => true
  | abandoning | failing _ | releasing _ | announcing => false

/-- The state of a record while a worker answers for it. -/
def Point.expects : Point → TaskState
  | starting _ _ | executing _ _ | quarantining _ _ => .running
  | _ => .pending

/-- No await expects a record that has ended. -/
theorem Point.expects_live (point : Point) : point.expects.terminal = false := by
  cases point <;> rfl

/-- The record a worker answers for. -/
def Worker.holds (index : Nat) : Worker → Bool
  | busy held point => point.active && held == index
  | idle | exited => false

/-- The id of a record that has not ended. -/
def TaskRecord.liveId (record : TaskRecord) : Option TaskId :=
  if record.state.terminal then none else some record.spec.id

/-- The attempts of a record are within its budget, with one to spare while it waits. -/
def TaskRecord.Within (record : TaskRecord) : Prop :=
  record.attemptCount ≤ max 1 record.spec.maxAttempts ∧
    (record.state = .pending → record.attemptCount < max 1 record.spec.maxAttempts)

/-- The selector can be evaluated, and the backoff of no attempt overflows. -/
def TaskSpec.tractable (spec : TaskSpec) : Bool :=
  spec.selector.hashable && spec.maxAttempts ≤ 1024

namespace Scheduler

/-- The places at which an id waits: in the queue or in a sleeping retry. -/
def tokens (scheduler : Scheduler) (taskId : TaskId) : Nat :=
  scheduler.queue.count (some taskId) +
    scheduler.retries.countP fun retry => retry.taskId = taskId

/-- The custody of the records. -/
def custody (scheduler : Scheduler) : Custody.State TaskId Nat where
  tokens := scheduler.tokens
  current := scheduler.table
  holders index := scheduler.workers.countP (Worker.holds index)
  live index := scheduler.records[index]?.bind TaskRecord.liveId

/-- A pill carries no id. -/
theorem tokens_pills {scheduler after : Scheduler} {count : Nat}
    (queue : after.queue = scheduler.queue ++ List.replicate count none)
    (retries : after.retries = scheduler.retries) : after.tokens = scheduler.tokens := by
  funext taskId
  have none : (List.replicate count none).count (some taskId) = 0 :=
    List.count_eq_zero.mpr fun member => by cases List.eq_of_mem_replicate member
  simp only [tokens, queue, retries, List.count_append, none, Nat.add_zero]

/-- Every record is in the phase its holder expects and within its budget. -/
structure Phased (scheduler : Scheduler) : Prop where
  /-- A held record is in the state its holder's await expects. -/
  expected : ∀ (worker index : Nat) (point : Point) (record : TaskRecord),
    scheduler.workers[worker]? = some (.busy index point) → point.active = true →
    scheduler.records[index]? = some record → record.state = point.expects
  /-- A live record that nobody holds is PENDING. -/
  waiting : ∀ (index : Nat) (record : TaskRecord),
    scheduler.records[index]? = some record → record.state.terminal = false →
    scheduler.custody.holders index = 0 → record.state = .pending
  /-- Every record is within its budget. -/
  within : ∀ (index : Nat) (record : TaskRecord),
    scheduler.records[index]? = some record → record.Within
  /-- The specification of a live record is tractable. -/
  tractable : ∀ (index : Nat) (record : TaskRecord),
    scheduler.records[index]? = some record → record.state.terminal = false →
    record.spec.tractable = true

/-- Custody is sound and every record is in its phase. -/
structure Carried (scheduler : Scheduler) : Prop where
  /-- Every live record is carried exactly once. -/
  sound : scheduler.custody.Sound
  /-- Every record is in its phase. -/
  phased : scheduler.Phased

/-- What a careful step does: custody steps, phases kept and ended records left alone. -/
structure Handover (scheduler after : Scheduler) : Prop where
  /-- Custody moves by custody steps. -/
  steps : Custody.Steps scheduler.custody after.custody
  /-- Every record is in its phase afterwards. -/
  phased : after.Phased
  /-- A record that has ended does not change. -/
  settled : ∀ (index : Nat) (record : TaskRecord),
    scheduler.records[index]? = some record → record.state.terminal = true →
    after.records[index]? = some record

variable {scheduler after : Scheduler} {worker index : Nat} {point : Point}
variable {record new : TaskRecord}

/-- At an active await a worker answers for its record. -/
theorem holds_busy (active : point.active = true) :
    (Worker.busy index point).holds index = true := by
  simp [Worker.holds, active]

/-- So its record has a holder. -/
theorem holders_pos (busy : scheduler.workers[worker]? = some (.busy index point))
    (active : point.active = true) : 0 < scheduler.workers.countP (Worker.holds index) :=
  Slots.countP_pos (Worker.holds index) busy (holds_busy active)

/-- A worker that holds the record of another slot is the worker of that slot. -/
theorem Carried.holder_unique (carried : scheduler.Carried) {other : Nat} {point' : Point}
    (busy : scheduler.workers[worker]? = some (.busy index point)) (active : point.active = true)
    (busy' : scheduler.workers[other]? = some (.busy index point'))
    (active' : point'.active = true) : worker = other :=
  Slots.slot_unique (carried.sound.exclusive index) busy (holds_busy active) busy'
    (holds_busy active')

/-- A held record is known and live. -/
theorem Carried.held (carried : scheduler.Carried)
    (busy : scheduler.workers[worker]? = some (.busy index point)) (active : point.active = true)
    (known : scheduler.records[index]? = some record) :
    scheduler.custody.holders index ≠ 0 ∧ scheduler.custody.live index = some record.spec.id ∧
      record.state.terminal = false := by
  have holding : scheduler.custody.holders index ≠ 0 :=
    Nat.ne_of_gt (holders_pos busy active)
  obtain ⟨taskId, live⟩ := carried.sound.held index holding
  have ends : record.state.terminal = false := by
    by_contra ended
    simp [custody, known, TaskRecord.liveId, ended] at live
  exact ⟨holding, by simp [custody, known, TaskRecord.liveId, ends], ends⟩

/-- Rewriting one record changes what is live there. -/
theorem live_set (known : scheduler.records[index]? = some record) (other : Nat) :
    (scheduler.records.set index new)[other]?.bind TaskRecord.liveId =
      if other = index then new.liveId
      else scheduler.records[other]?.bind TaskRecord.liveId := by
  obtain ⟨bound, -⟩ := List.getElem?_eq_some_iff.mp known
  by_cases same : other = index
  · subst same
    simp [bound]
  · rw [List.getElem?_set_ne (Ne.symm same), if_neg same]

/-- Rewriting a slot without changing what it holds changes no holder. -/
theorem holders_set {old next : Worker} (found : scheduler.workers[worker]? = some old)
    (same : ∀ index, next.holds index = old.holds index) (index : Nat) :
    (scheduler.workers.set worker next).countP (Worker.holds index) =
      scheduler.workers.countP (Worker.holds index) := by
  have exchanged := Slots.countP_set (Worker.holds index) found next
  rw [same] at exchanged
  omega

/-- A slot that lets its record go lowers one count. -/
theorem holders_drop {next : Worker}
    (found : scheduler.workers[worker]? = some (.busy index point)) (active : point.active = true)
    (drops : ∀ index, next.holds index = false) :
    (fun other => (scheduler.workers.set worker next).countP (Worker.holds other)) =
      Function.update (fun other => scheduler.workers.countP (Worker.holds other)) index
        (scheduler.workers.countP (Worker.holds index) - 1) := by
  funext other
  have exchanged := Slots.countP_set (Worker.holds other) found next
  rw [drops] at exchanged
  by_cases same : other = index
  · subst same
    simp only [Worker.holds, active, Bool.true_and, beq_self_eq_true, ↓reduceIte,
      Bool.false_eq_true, Nat.add_zero] at exchanged
    simp only [Function.update_self]
    omega
  · have apart : (index == other) = false := by simpa using Ne.symm same
    simp only [Worker.holds, active, apart, Bool.and_false, Bool.false_eq_true, ↓reduceIte,
      Nat.add_zero] at exchanged
    simp only [Function.update_of_ne same]
    exact exchanged

/-- A free slot that takes a record raises one count. -/
theorem holders_take (found : scheduler.workers[worker]? = some .idle)
    (active : point.active = true) :
    (fun other =>
      (scheduler.workers.set worker (.busy index point)).countP (Worker.holds other)) =
      Function.update (fun other => scheduler.workers.countP (Worker.holds other)) index
        (scheduler.workers.countP (Worker.holds index) + 1) := by
  funext other
  have exchanged := Slots.countP_set (Worker.holds other) found (.busy index point)
  by_cases same : other = index
  · subst same
    simp only [Worker.holds, active, Bool.true_and, beq_self_eq_true, ↓reduceIte,
      Bool.false_eq_true, Nat.add_zero] at exchanged
    simp only [Function.update_self]
    exact exchanged
  · have apart : (index == other) = false := by simpa using Ne.symm same
    simp only [Worker.holds, active, apart, Bool.and_false, Bool.false_eq_true, ↓reduceIte,
      Nat.add_zero] at exchanged
    simp only [Function.update_of_ne same]
    exact exchanged

/-- Custody reads the queue, the retries, the table, the records and who holds what. -/
theorem custody_congr (records : after.records = scheduler.records)
    (table : after.table = scheduler.table) (tokens : after.tokens = scheduler.tokens)
    (holders : ∀ index, after.workers.countP (Worker.holds index) =
      scheduler.workers.countP (Worker.holds index)) : after.custody = scheduler.custody := by
  simp only [custody, records, table, tokens, holders]

/-- **Steps that write no record.** Only who holds what can change, so budgets, specifications and
ended records are as before. -/
theorem Carried.unwritten (carried : scheduler.Carried)
    (records : after.records = scheduler.records)
    (steps : Custody.Steps scheduler.custody after.custody)
    (expected : ∀ (worker index : Nat) (point : Point) (record : TaskRecord),
      after.workers[worker]? = some (.busy index point) → point.active = true →
      scheduler.records[index]? = some record → record.state = point.expects)
    (waiting : ∀ (index : Nat) (record : TaskRecord),
      scheduler.records[index]? = some record → record.state.terminal = false →
      after.custody.holders index = 0 → record.state = .pending) :
    Handover scheduler after where
  steps := steps
  phased :=
    { expected := records ▸ expected
      waiting := records ▸ waiting
      within := records ▸ carried.phased.within
      tractable := records ▸ carried.phased.tractable }
  settled _ _ known _ := records ▸ known

/-- **Steps outside custody.** What changes no record, no token and no holder hands nothing
over. -/
theorem Carried.outside (carried : scheduler.Carried) (records : after.records = scheduler.records)
    (same : after.custody = scheduler.custody)
    (kept : ∀ (worker index : Nat) (point : Point),
      after.workers[worker]? = some (.busy index point) → point.active = true →
      scheduler.workers[worker]? = some (.busy index point)) :
    Handover scheduler after := by
  apply carried.unwritten records (.of_eq same)
  · intro worker index point record busy active known
    exact carried.phased.expected worker index point record (kept worker index point busy active)
      active known
  · intro index record known live free
    exact carried.phased.waiting index record known live (by rw [← same]; exact free)

/-- A worker that no longer answers for a record may go anywhere inside or outside its call. -/
theorem Carried.drift (carried : scheduler.Carried) {old next : Worker}
    (found : scheduler.workers[worker]? = some old) (idle : ∀ index, old.holds index = false)
    (free : ∀ index, next.holds index = false) (records : after.records = scheduler.records)
    (table : after.table = scheduler.table) (tokens : after.tokens = scheduler.tokens)
    (workers : after.workers = scheduler.workers.set worker next) :
    Handover scheduler after := by
  refine carried.outside records (custody_congr records table tokens ?_) ?_
  · intro index
    rw [workers, holders_set found fun index => (free index).trans (idle index).symm]
  · intro other index point busy active
    rw [workers] at busy
    rcases Slots.getElem?_rewritten busy with ⟨-, rfl⟩ | ⟨-, earlier⟩
    · have holding := free index
      simp [Worker.holds, active] at holding
    · exact earlier

/-- A worker that goes on with a live record hands nothing over; one that lets an ended record
go finishes it. -/
theorem Carried.advance_custody (carried : scheduler.Carried)
    (busy : scheduler.workers[worker]? = some (.busy index point)) (active : point.active = true)
    (known : scheduler.records[index]? = some record) (same : new.spec = record.spec)
    (next : Point)
    (agrees : if next.active then new.state = next.expects else new.state.terminal = true)
    (events : List StateEvent) :
    Custody.Steps scheduler.custody (scheduler.advance worker index new next events).custody := by
  obtain ⟨holding, live, unended⟩ := carried.held busy active known
  by_cases stays : next.active = true
  · rw [if_pos stays] at agrees
    have alive : new.state.terminal = false := by
      rw [agrees]
      cases next <;> rfl
    refine .of_eq (Custody.State.ext rfl rfl ?_ ?_)
    · funext other
      exact holders_set busy (by simp [Worker.holds, active, stays]) other
    · funext other
      simp only [custody, Scheduler.advance, live_set known]
      split
      · rename_i here
        subst here
        simp [TaskRecord.liveId, alive, unended, known, same]
      · rfl
  · rw [if_neg stays] at agrees
    have ended : (scheduler.advance worker index new next events).custody =
        scheduler.custody.finish index := by
      refine Custody.State.ext rfl rfl ?_ ?_
      · exact holders_drop busy active (by simp [Worker.holds, stays])
      · funext other
        simp only [custody, Scheduler.advance, live_set known, Custody.State.finish]
        by_cases here : other = index
        · subst here
          simp [TaskRecord.liveId, agrees]
        · simp [here]
    rw [ended]
    exact Custody.Step.steps (.finish holding)

/-- A live record that nobody holds after its worker went on is another one, and nobody held it
before. -/
theorem unheld_of_advance (busy : scheduler.workers[worker]? = some (.busy index point))
    {next : Point} (stays : new.state.terminal = false → next.active = true) {other : Nat}
    {record' : TaskRecord}
    (known : (scheduler.records.set index new)[other]? = some record')
    (live : record'.state.terminal = false)
    (free : (scheduler.workers.set worker (.busy index next)).countP (Worker.holds other) = 0) :
    scheduler.records[other]? = some record' ∧ scheduler.custody.holders other = 0 := by
  obtain ⟨inside, -⟩ := List.getElem?_eq_some_iff.mp busy
  rcases Slots.getElem?_rewritten known with ⟨rfl, rfl⟩ | ⟨here, earlier⟩
  · have held : (scheduler.workers.set worker (.busy other next))[worker]? =
        some (.busy other next) := by
      simp [inside]
    have positive := Slots.countP_pos (Worker.holds other) held
      (holds_busy (stays live))
    exact absurd free (Nat.ne_of_gt positive)
  · have exchanged := Slots.countP_set (Worker.holds other) busy (.busy index next)
    have apart : (index == other) = false := by simpa using Ne.symm here
    simp only [Worker.holds, apart, Bool.and_false, Bool.false_eq_true, ↓reduceIte,
      Nat.add_zero] at exchanged
    exact ⟨earlier, exchanged.symm.trans free⟩

/-- **Steps of a holder.** A worker that answers for a record may rewrite it and go on, as long
as the record is then in the state the next await expects, or has ended when the worker no
longer answers for it. -/
theorem Carried.advance (carried : scheduler.Carried)
    (busy : scheduler.workers[worker]? = some (.busy index point)) (active : point.active = true)
    (known : scheduler.records[index]? = some record) (same : new.spec = record.spec)
    (within : new.Within) (next : Point)
    (agrees : if next.active then new.state = next.expects else new.state.terminal = true)
    (events : List StateEvent) :
    Handover scheduler (scheduler.advance worker index new next events) := by
  obtain ⟨-, -, unended⟩ := carried.held busy active known
  have stays : new.state.terminal = false → next.active = true := by
    intro live
    by_contra leaves
    rw [if_neg leaves, live] at agrees
    cases agrees
  refine ⟨carried.advance_custody busy active known same next agrees events, ⟨?_, ?_, ?_, ?_⟩, ?_⟩
  · intro other held point' record' busy' active' known'
    rcases Slots.getElem?_rewritten busy' with ⟨-, moved⟩ | ⟨apart, earlier⟩
    · cases moved
      rw [if_pos active'] at agrees
      rcases Slots.getElem?_rewritten known' with ⟨-, rfl⟩ | ⟨apart, -⟩
      · exact agrees
      · exact absurd rfl apart
    · rcases Slots.getElem?_rewritten known' with ⟨rfl, -⟩ | ⟨-, known'⟩
      · exact absurd (carried.holder_unique earlier active' busy active) apart
      · exact carried.phased.expected other held point' record' earlier active' known'
  · intro other record' known' live' free
    obtain ⟨earlier, unheld⟩ := unheld_of_advance busy stays known' live' free
    exact carried.phased.waiting other record' earlier live' unheld
  · intro other record' known'
    rcases Slots.getElem?_rewritten known' with ⟨-, rfl⟩ | ⟨-, earlier⟩
    · exact within
    · exact carried.phased.within other record' earlier
  · intro other record' known' live'
    rcases Slots.getElem?_rewritten known' with ⟨rfl, rfl⟩ | ⟨-, earlier⟩
    · rw [same]
      exact carried.phased.tractable other record known unended
    · exact carried.phased.tractable other record' earlier live'
  · intro other record' known' ended
    have apart : other ≠ index := by
      rintro rfl
      obtain rfl := Option.some.inj (known.symm.trans known')
      rw [unended] at ended
      cases ended
    simp only [Scheduler.advance]
    rw [List.getElem?_set_ne (Ne.symm apart)]
    exact known'

/-- What a handover leaves is carried. -/
theorem Carried.handed (carried : scheduler.Carried) (handover : Handover scheduler after) :
    after.Carried :=
  ⟨carried.sound.steps handover.steps, handover.phased⟩

/-- Two handovers in a row are one. -/
theorem Handover.trans {middle : Scheduler} (first : Handover scheduler middle)
    (second : Handover middle after) : Handover scheduler after :=
  ⟨first.steps.trans second.steps, second.phased, fun index record known ended =>
    second.settled index record (first.settled index record known ended) ended⟩

/-- One more place in the queue is one more token of its id. -/
theorem tokens_queued {taskId : TaskId} (queue : after.queue = scheduler.queue ++ [some taskId])
    (retries : after.retries = scheduler.retries) :
    after.tokens = Function.update scheduler.tokens taskId (scheduler.tokens taskId + 1) := by
  funext other
  by_cases same : other = taskId
  · subst same
    simp only [tokens, queue, retries, List.count_append, List.count_singleton_self,
      Function.update_self]
    omega
  · have absent : [some taskId].count (some other) = 0 :=
      List.count_eq_zero.mpr (by simpa using same)
    simp only [tokens, queue, retries, List.count_append, absent, Nat.add_zero,
      Function.update_of_ne same]

/-- One more sleeping retry is one more token of its id. -/
theorem tokens_created {created : Retry} (queue : after.queue = scheduler.queue)
    (retries : after.retries = scheduler.retries ++ [created]) :
    after.tokens =
      Function.update scheduler.tokens created.taskId (scheduler.tokens created.taskId + 1) := by
  funext other
  by_cases same : other = created.taskId
  · subst same
    simp [tokens, queue, retries, List.countP_append, Nat.add_assoc]
  · simp [tokens, queue, retries, List.countP_append, same, Ne.symm same]

/-- The head of the queue is one token of its id. -/
theorem tokens_dequeued {taskId : TaskId} {rest : List (Option TaskId)}
    (head : scheduler.queue = some taskId :: rest) (queue : after.queue = rest)
    (retries : after.retries = scheduler.retries) :
    after.tokens = Function.update scheduler.tokens taskId (scheduler.tokens taskId - 1) := by
  funext other
  by_cases same : other = taskId
  · subst same
    simp only [tokens, queue, retries, head, List.count_cons_self, Function.update_self]
    omega
  · simp [tokens, queue, retries, head, same, Ne.symm same]

/-- A retry that wakes moves its token to the queue. -/
theorem tokens_woken {position : Nat} {retry : Retry}
    (found : scheduler.retries[position]? = some retry)
    (queue : after.queue = scheduler.queue ++ [some retry.taskId])
    (retries : after.retries = scheduler.retries.eraseIdx position) :
    after.tokens = scheduler.tokens := by
  funext other
  have erased := Slots.countP_eraseIdx (fun retry => decide (retry.taskId = other)) found
  by_cases same : other = retry.taskId
  · subst same
    simp only [decide_true, ↓reduceIte] at erased
    simp only [tokens, queue, retries, List.count_append, List.count_singleton_self]
    omega
  · have absent : [some retry.taskId].count (some other) = 0 :=
      List.count_eq_zero.mpr (by simpa using same)
    simp only [Ne.symm same, decide_false, Bool.false_eq_true, ↓reduceIte,
      Nat.add_zero] at erased
    simp only [tokens, queue, retries, List.count_append, absent, Nat.add_zero]
    omega

/-- **The retry is created.** A worker whose record is still the one its id names lets it go
with one more token of the id. -/
theorem Carried.handBack (carried : scheduler.Carried) {lease : Option Lease} {delay : Rat}
    (busy : scheduler.workers[worker]? = some (.busy index (.requeueing lease delay)))
    (known : scheduler.records[index]? = some record)
    (names : scheduler.table record.spec.id = some index) {next : Worker}
    (records : after.records = scheduler.records) (table : after.table = scheduler.table)
    (queue : after.queue = scheduler.queue)
    (retries : after.retries = scheduler.retries ++ [⟨record.spec.id, delay⟩])
    (workers : after.workers = scheduler.workers.set worker next)
    (free : ∀ index, next.holds index = false) : Handover scheduler after := by
  obtain ⟨holding, live, unended⟩ := carried.held busy rfl known
  have moved : after.custody = scheduler.custody.handBack record.spec.id index := by
    refine Custody.State.ext (tokens_created queue retries) table ?_ ?_
    · simp only [custody, workers]
      exact holders_drop busy rfl free
    · simp only [custody, records, Custody.State.handBack]
  have kept : ∀ {other : Nat}, other ≠ index →
      after.custody.holders other = scheduler.custody.holders other := by
    intro other apart
    rw [moved]
    simp [Custody.State.handBack, apart]
  have stepped : Custody.Steps scheduler.custody after.custody := by
    rw [moved]
    exact Custody.Step.steps (.handBack holding live names)
  apply carried.unwritten records stepped
  · intro other held point' record' busy' active' known'
    rw [workers] at busy'
    rcases Slots.getElem?_rewritten busy' with ⟨-, rfl⟩ | ⟨-, earlier⟩
    · have impossible := free held
      simp [Worker.holds, active'] at impossible
    · exact carried.phased.expected other held point' record' earlier active' known'
  · intro other record' known' live' unheld
    by_cases here : other = index
    · subst here
      exact carried.phased.expected worker other _ record' busy rfl known'
    · exact carried.phased.waiting other record' known' live' ((kept here) ▸ unheld)

/-- **A token is taken.** The idle worker that takes it holds the record its id names. -/
theorem Carried.take (carried : scheduler.Carried)
    (idle : scheduler.workers[worker]? = some .idle) {taskId : TaskId}
    (waits : scheduler.tokens taskId ≠ 0) (names : scheduler.table taskId = some index)
    (known : scheduler.records[index]? = some record) (records : after.records = scheduler.records)
    (table : after.table = scheduler.table)
    (tokens : after.tokens = Function.update scheduler.tokens taskId
      (scheduler.tokens taskId - 1))
    (workers : after.workers = scheduler.workers.set worker (.busy index .acquiring)) :
    Handover scheduler after := by
  obtain ⟨live, unheld⟩ : scheduler.custody.live index = some taskId ∧
      scheduler.custody.holders index = 0 := carried.sound.of_named waits names
  have moved : after.custody = scheduler.custody.take taskId index := by
    refine Custody.State.ext tokens table ?_ ?_
    · simp only [custody, workers]
      exact holders_take idle rfl
    · simp only [custody, records, Custody.State.take]
  have unended : record.state.terminal = false := by
    by_contra ended
    simp [custody, known, TaskRecord.liveId, ended] at live
  have stepped : Custody.Steps scheduler.custody after.custody := by
    rw [moved]
    exact Custody.Step.steps (.take waits names)
  apply carried.unwritten records stepped
  · intro other held point' record' busy' active' known'
    rw [workers] at busy'
    rcases Slots.getElem?_rewritten busy' with ⟨-, here⟩ | ⟨-, earlier⟩
    · cases here
      obtain rfl := Option.some.inj (known.symm.trans known')
      exact carried.phased.waiting index record known unended unheld
    · exact carried.phased.expected other held point' record' earlier active' known'
  · intro other record' known' live' free
    refine carried.phased.waiting other record' known' live' ?_
    rw [moved] at free
    by_cases here : other = index
    · subst here
      exact unheld
    · simpa [Custody.State.take, here] using free

/-- A record added at the end is live there, and changes nothing before it. -/
theorem live_append (other : Nat) :
    (scheduler.records ++ [new])[other]?.bind TaskRecord.liveId =
      if other = scheduler.records.length then new.liveId
      else scheduler.records[other]?.bind TaskRecord.liveId := by
  by_cases last : other = scheduler.records.length
  · subst last
    simp
  · rw [if_neg last]
    by_cases inside : other < scheduler.records.length
    · rw [List.getElem?_append_left inside]
    · have beyond : (scheduler.records ++ [new]).length ≤ other := by
        rw [List.length_append, List.length_singleton]
        omega
      rw [List.getElem?_eq_none beyond, List.getElem?_eq_none (by omega)]

/-- A live record added under an id with a token is submitted to custody. -/
theorem step_accepted {taskId : TaskId} (empty : scheduler.tokens taskId = 0)
    (fresh : scheduler.custody.live scheduler.records.length = none)
    (free : scheduler.custody.holders scheduler.records.length = 0)
    (records : after.records = scheduler.records ++ [new])
    (table : after.table =
      Function.update scheduler.table taskId (some scheduler.records.length))
    (queue : after.queue = scheduler.queue ++ [some taskId])
    (retries : after.retries = scheduler.retries) (workers : after.workers = scheduler.workers)
    (live : new.liveId = some taskId) : Custody.Step scheduler.custody after.custody := by
  suffices moved : after.custody = scheduler.custody.submit taskId scheduler.records.length by
    rw [moved]
    exact .submit empty fresh free
  refine Custody.State.ext (tokens_queued queue retries) table ?_ ?_
  · simp only [custody, workers, Custody.State.submit]
  · funext other
    simp only [Custody.State.submit, custody, records, live_append]
    by_cases last : other = scheduler.records.length
    · subst last
      simp [live]
    · simp [last]

/-- An ended record added under an id replaces what the id names. -/
theorem step_refused {taskId : TaskId} (empty : scheduler.tokens taskId = 0)
    (records : after.records = scheduler.records ++ [new])
    (table : after.table =
      Function.update scheduler.table taskId (some scheduler.records.length))
    (queue : after.queue = scheduler.queue) (retries : after.retries = scheduler.retries)
    (workers : after.workers = scheduler.workers) (ended : new.liveId = none) :
    Custody.Step scheduler.custody after.custody := by
  suffices moved : after.custody = scheduler.custody.replace taskId scheduler.records.length by
    rw [moved]
    exact .replace empty
  refine Custody.State.ext ?_ table ?_ ?_
  · funext other
    simp only [custody, tokens, queue, retries, Custody.State.replace]
  · simp only [custody, workers, Custody.State.replace]
  · funext other
    simp only [Custody.State.replace, custody, records, live_append]
    split
    · rename_i last
      subst last
      simp [ended]
    · rfl

/-- A new record that has ended, or waits with a tractable specification, is in its phase. -/
theorem Carried.append_phased (carried : scheduler.Carried)
    (free : scheduler.custody.holders scheduler.records.length = 0)
    (phase : new.state.terminal = true ∨ new.state = .pending ∧ new.spec.tractable = true)
    (within : new.Within) (records : after.records = scheduler.records ++ [new])
    (workers : after.workers = scheduler.workers) : after.Phased := by
  constructor
  case expected =>
    intro other held point' record' busy active known
    rw [workers] at busy
    rw [records] at known
    rcases Slots.getElem?_concat known with ⟨rfl, -⟩ | ⟨-, earlier⟩
    · exact absurd free (Nat.ne_of_gt (holders_pos busy active))
    · exact carried.phased.expected other held point' record' busy active earlier
  case waiting =>
    intro other record' known live unheld
    rw [records] at known
    rcases Slots.getElem?_concat known with ⟨-, rfl⟩ | ⟨-, earlier⟩
    · rcases phase with ended | ⟨pending, -⟩
      · rw [ended] at live
        cases live
      · exact pending
    · refine carried.phased.waiting other record' earlier live ?_
      simpa only [custody, workers] using unheld
  case within =>
    intro other record' known
    rw [records] at known
    rcases Slots.getElem?_concat known with ⟨-, rfl⟩ | ⟨-, earlier⟩
    · exact within
    · exact carried.phased.within other record' earlier
  case tractable =>
    intro other record' known live
    rw [records] at known
    rcases Slots.getElem?_concat known with ⟨-, rfl⟩ | ⟨-, earlier⟩
    · rcases phase with ended | ⟨-, evaluable⟩
      · rw [ended] at live
        cases live
      · exact evaluable
    · exact carried.phased.tractable other record' earlier live

/-- **A specification is submitted** under an id of which no token waits. -/
theorem Carried.submit (carried : scheduler.Carried) (accounted : scheduler.Accounted)
    (config : SchedulerConfig) (spec : TaskSpec) (correlationId : String)
    (empty : scheduler.tokens spec.id = 0)
    (tractable : spec.kind ∈ config.kinds → spec.tractable = true) :
    Handover scheduler (scheduler.submit config spec correlationId) := by
  have fresh : scheduler.records[scheduler.records.length]? = none := by simp
  have free : scheduler.custody.holders scheduler.records.length = 0 := by
    refine List.countP_eq_zero.mpr fun held member holding => ?_
    cases held with
    | idle => simp [Worker.holds] at holding
    | exited => simp [Worker.holds] at holding
    | busy index point =>
      have bound := accounted.inRange index point member
      simp only [Worker.holds, Bool.and_eq_true, beq_iff_eq] at holding
      omega
  have unlive : scheduler.custody.live scheduler.records.length = none := by
    simp [custody]
  have settled : ∀ (new : TaskRecord) (index : Nat) (record : TaskRecord),
      scheduler.records[index]? = some record →
      (scheduler.records ++ [new])[index]? = some record := by
    intro new index record known
    obtain ⟨bound, -⟩ := List.getElem?_eq_some_iff.mp known
    rw [List.getElem?_append_left bound]
    exact known
  have unused : ∀ new : TaskRecord, new.attempts = [] → new.Within := by
    intro new none
    simp only [TaskRecord.Within, TaskRecord.attemptCount, none, List.length_nil]
    omega
  simp only [Scheduler.submit]
  split
  · rename_i registered
    refine ⟨?_,
      carried.append_phased free (.inr ⟨rfl, tractable registered⟩) (unused _ rfl) rfl rfl,
      fun index record known _ => settled _ index record known⟩
    exact Custody.Step.steps (step_accepted empty unlive free rfl rfl rfl rfl rfl rfl)
  · refine ⟨?_, carried.append_phased free (.inl rfl) (unused _ rfl) rfl rfl,
      fun index record known _ => settled _ index record known⟩
    exact Custody.Step.steps (step_refused empty rfl rfl rfl rfl rfl rfl)

/-- `_requeue` under custody: the record ends, or waits for its retry to be created. -/
theorem Carried.requeue (carried : scheduler.Carried)
    (busy : scheduler.workers[worker]? = some (.busy index point)) (active : point.active = true)
    (known : scheduler.records[index]? = some record) {lease : Option Lease}
    (went : Requeue scheduler worker index record lease after) : Handover scheduler after := by
  obtain ⟨holding, live, unended⟩ := carried.held busy active known
  have within := carried.phased.within index record known
  cases went with
  | exhausted error spent =>
    have failed : ({ record with
        state := .failed, result := none, error := some error } : TaskRecord).Within :=
      ⟨within.1, nofun⟩
    exact carried.advance busy active known (by rfl) failed (.failing lease) rfl _
  | delayed delay left small =>
    have waits : ({ record with state := .pending } : TaskRecord).Within :=
      ⟨within.1, fun _ => lt_of_lt_of_le left (le_max_right _ _)⟩
    exact carried.advance busy active known (by rfl) waits (.requeueing lease delay) rfl _
  | overflow left large =>
    have evaluable := carried.phased.tractable index record known unended
    simp only [TaskSpec.tractable, Bool.and_eq_true, decide_eq_true_eq] at evaluable
    omega

end Scheduler

end DeviceOrchestrator
