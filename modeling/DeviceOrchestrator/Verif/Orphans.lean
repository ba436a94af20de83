import DeviceOrchestrator.Core.Adb
import DeviceOrchestrator.Lib.Slots

/-!
# adb processes and the calls that started them

A call of `Adb.run` that returns leaves no process behind: adb has exited, or the timeout has sent
SIGKILL to its group. A call that raises has no such clause of its own: what it leaves depends on
the await that the cancellation reached.
-/
namespace DeviceOrchestrator

open Transition (History Throughout)

namespace AdbProcess

/-- `_kill_tree` contains every process. -/
@[simp]
theorem contained_killTree (process : AdbProcess) : process.killTree.contained = true := by
  cases process <;> rfl

/-- A closed transport leaves no process running. -/
@[simp]
theorem close_ne_running (process : AdbProcess) : process.close ≠ .running := by
  cases process <;> nofun

/-- A process that exits is contained. -/
theorem contained_exit {process after : AdbProcess} {returncode : Int}
    (gone : process.exit returncode = some after) : after.contained = true := by
  cases process with
  | exited earlier => cases gone
  | running | killed | groupKilled =>
    obtain rfl := Option.some.inj gone
    rfl

/-- A process exits once. -/
theorem exit_exited (earlier returncode : Int) : (exited earlier).exit returncode = none := rfl

end AdbProcess

namespace AdbCall

variable {call after : AdbCall}

/-- What the stage of a call tells of its process. -/
def Staged (call : AdbCall) : Prop :=
  match call.stage with
  | .aborting => call.process ≠ .running
  | .reaping => call.process.contained = true
  | .returned result => call.process.contained = true ∧
      (result.timedOut = false → call.process = .exited result.returncode)
  | _ => True

/-- A call that has ended leaves no process. -/
def Clean (call : AdbCall) : Prop := call.ended = true → call.process.contained = true

/-- A cancellation now ends the call, and its process is neither gone nor was its group killed. -/
def exposed (call : AdbCall) : Bool :=
  !call.process.contained && (call.stage = .communicating || call.stage = .aborting)

/-- A call whose process is contained is clean. -/
theorem Clean.of_contained (contained : call.process.contained = true) : call.Clean :=
  fun _ => contained

/-- A call that has ended is not exposed. -/
theorem exposed_of_ended (finished : call.ended = true) : call.exposed = false := by
  unfold ended at finished
  split at finished
  · rename_i stage
    simp [exposed, stage]
  · rename_i stage
    simp [exposed, stage]
  · cases finished

/-- **One await of a call.** The call goes on with what its stage tells of its process, and it is
clean afterwards unless a cancellation reached it while it was exposed. -/
theorem resume_staged {answer : AdbAnswer} (staged : call.Staged)
    (resumed : call.resume answer = some after) :
    after.Staged ∧ (after.Clean ↔ ¬(answer = .cancelled ∧ call.exposed = true)) := by
  unfold resume at resumed
  split at resumed
  all_goals rename_i stage
  · obtain rfl := Option.some.inj resumed
    simp [Staged, Clean, exposed, ended]
  · obtain rfl := Option.some.inj resumed
    simp [Staged, Clean, exposed, ended]
  · obtain rfl := Option.some.inj resumed
    simp [Staged, Clean, exposed, ended, stage]
  -- An aborted call, and one that `communicate` has served, wait for the exit.
  · split at resumed
    · rename_i gone
      obtain rfl := Option.some.inj resumed
      simp [Staged, Clean, exposed, ended, gone, AdbProcess.contained]
    · cases resumed
  · split at resumed
    · rename_i gone
      obtain rfl := Option.some.inj resumed
      simp [Staged, Clean, exposed, ended, gone, AdbProcess.contained]
    · cases resumed
  · obtain rfl := Option.some.inj resumed
    simp [Staged, Clean, exposed, ended]
  · obtain rfl := Option.some.inj resumed
    have contained : call.process.contained = true := by simpa only [Staged, stage] using staged
    simp [Staged, Clean, exposed, ended, contained]
  -- The cancellations that end a call: only while it reaps is the process known to be contained.
  · obtain rfl := Option.some.inj resumed
    simp [Staged, Clean, exposed, ended, stage]
  · obtain rfl := Option.some.inj resumed
    simp [Staged, Clean, exposed, ended, stage]
  · obtain rfl := Option.some.inj resumed
    have contained : call.process.contained = true := by simpa only [Staged, stage] using staged
    simp [Staged, Clean, exposed, ended, contained]
  · cases resumed

/-- A call that resumes had not ended. -/
theorem ended_of_resume {answer : AdbAnswer} (resumed : call.resume answer = some after) :
    call.ended = false := by
  unfold ended
  split
  · rename_i stage
    simp [resume, stage] at resumed
  · rename_i stage
    simp [resume, stage] at resumed
  · rfl

/-- The exit of its process tells nothing else of a call. -/
theorem Staged.exit {process : AdbProcess} {returncode : Int} (staged : call.Staged)
    (gone : call.process.exit returncode = some process) :
    ({ call with process := process } : AdbCall).Staged := by
  have contained := AdbProcess.contained_exit gone
  unfold Staged at staged ⊢
  split
  · rintro rfl
    cases contained
  · exact contained
  · rename_i result stage
    rw [stage] at staged
    refine ⟨contained, fun inTime => ?_⟩
    rw [staged.2 inTime, AdbProcess.exit_exited] at gone
    cases gone
  · trivial

end AdbCall

namespace AdbCaller

variable {binary : String} {caller after : AdbCaller} {event : AdbEvent}

/-- **What a caller does.** A guard of the source stands with the step it guards. -/
inductive Went (binary : String) (caller : AdbCaller) : AdbEvent → AdbCaller → Prop
  /-- It starts adb. -/
  | spawned (args : List String) (serial : Option String) : caller.idle = true →
      caller.phase = .working →
      Went binary caller (.run args serial true)
        { caller with
          calls := { argv := AdbCall.commandLine binary args serial } :: caller.calls }
  /-- adb cannot be started. -/
  | missing (args : List String) (serial : Option String) :
      Went binary caller (.run args serial false) caller
  /-- The call that it awaits goes on. -/
  | resumed (answer : AdbAnswer) (call later : AdbCall) (earlier : List AdbCall) :
      answer ≠ .cancelled → caller.calls = call :: earlier → call.resume answer = some later →
      Went binary caller (.resume answer) { caller with calls := later :: earlier }
  /-- It is cancelled in a call. -/
  | interrupted (call later : AdbCall) (earlier : List AdbCall) :
      caller.calls = call :: earlier → call.resume .cancelled = some later →
      Went binary caller .cancel
        { caller with calls := later :: earlier, phase := .cancelled }
  /-- It is cancelled between two calls. -/
  | cancelled : caller.idle = true → Went binary caller .cancel { caller with phase := .cancelled }
  /-- The process of a call exits. -/
  | exited (index : Nat) (returncode : Int) (call : AdbCall) (process : AdbProcess) :
      caller.calls[index]? = some call → call.process.exit returncode = some process →
      Went binary caller (.exit index returncode)
        { caller with calls := caller.calls.set index { call with process := process } }
  /-- It ends. -/
  | finished : caller.idle = true → Went binary caller .finish { caller with phase := .ended }
  /-- Its lease is released. -/
  | released :
      caller.phase = .ended → Went binary caller .release { caller with phase := .released }

/-- It is the latest call that resumes. -/
theorem resume_eq_some {answer : AdbAnswer} (resumed : caller.resume answer = some after) :
    ∃ call earlier later, caller.calls = call :: earlier ∧ call.resume answer = some later ∧
      after = { caller with calls := later :: earlier } := by
  unfold resume at resumed
  split at resumed
  · cases resumed
  · rename_i call earlier calls
    obtain ⟨later, moved, rfl⟩ := Option.map_eq_some_iff.mp resumed
    exact ⟨call, earlier, later, calls, moved, rfl⟩

/-- A caller goes one of these ways. -/
theorem step_cases (taken : caller.step binary event = some after) :
    Went binary caller event after := by
  cases event with
  | run args serial spawned =>
    simp only [step, run] at taken
    split at taken
    · rename_i may
      cases spawned with
      | true =>
        obtain rfl := Option.some.inj taken
        exact .spawned args serial may.2 may.1
      | false =>
        obtain rfl := Option.some.inj taken
        exact .missing args serial
    · cases taken
  | resume answer =>
    simp only [step, resume] at taken
    split at taken
    · cases taken
    · rename_i other
      obtain ⟨call, earlier, later, calls, moved, rfl⟩ := resume_eq_some taken
      exact .resumed answer call later earlier other calls moved
  | cancel =>
    simp only [step, cancel] at taken
    split at taken
    · split at taken
      · rename_i idle
        obtain rfl := Option.some.inj taken
        exact .cancelled idle
      · obtain ⟨between, resumed, rfl⟩ := Option.map_eq_some_iff.mp taken
        obtain ⟨call, earlier, later, calls, moved, rfl⟩ := resume_eq_some resumed
        exact .interrupted call later earlier calls moved
    · cases taken
  | exit index returncode =>
    obtain ⟨call, found, taken⟩ := Option.bind_eq_some_iff.mp taken
    obtain ⟨process, gone, taken⟩ := Option.bind_eq_some_iff.mp taken
    obtain rfl := Option.some.inj taken
    exact .exited index returncode call process found gone
  | finish =>
    simp only [step, finish] at taken
    split at taken
    · rename_i may
      obtain rfl := Option.some.inj taken
      exact .finished may.2
    · cases taken
  | release =>
    simp only [step, release] at taken
    split at taken
    · rename_i may
      obtain rfl := Option.some.inj taken
      exact .released may.1
    · cases taken

/-- A caller awaits its calls one after another, and ends when it awaits none. -/
structure Orderly (caller : AdbCaller) : Prop where
  /-- All calls but the latest have ended. -/
  earlier : ∀ index call, caller.calls[index + 1]? = some call → call.ended = true
  /-- A caller that has ended awaits no call. -/
  settled : caller.phase = .ended ∨ caller.phase = .released → caller.idle = true
  /-- The processes are as the stages tell. -/
  staged : ∀ call ∈ caller.calls, call.Staged

/-- The calls of a caller leave no process when they end, and none of them acts once its lease is
released. -/
structure Clean (caller : AdbCaller) : Prop where
  /-- A call that has ended leaves no process. -/
  calls : ∀ call ∈ caller.calls, call.Clean
  /-- After the release no process is left. -/
  released : caller.phase = .released → ∀ call ∈ caller.calls, call.process.contained = true

/-- The call that a caller awaits is exposed to a cancellation. -/
def exposed (caller : AdbCaller) : Bool := caller.calls.head?.any AdbCall.exposed

/-- An idle caller is one whose calls have all ended. -/
theorem idle_iff : caller.idle = true ↔ ∀ call ∈ caller.calls, call.ended = true :=
  List.all_eq_true

/-- An idle caller is not exposed. -/
theorem exposed_of_idle (idle : caller.idle = true) : caller.exposed = false := by
  cases calls : caller.calls with
  | nil => simp [exposed, calls]
  | cons call earlier =>
    have ended := idle_iff.mp idle call (by simp [calls])
    simp [exposed, calls, AdbCall.exposed_of_ended ended]

/-- An orderly caller is clean as soon as its calls are. -/
theorem Orderly.clean (orderly : caller.Orderly) (calls : ∀ call ∈ caller.calls, call.Clean) :
    caller.Clean := by
  refine ⟨calls, fun released call member => ?_⟩
  have idle := orderly.settled (.inr released)
  exact calls call member (idle_iff.mp idle call member)

/-- A caller that starts is orderly. -/
theorem orderly_start (lease : Option Lease) : ({ lease := lease } : AdbCaller).Orderly :=
  ⟨by simp, fun _ => rfl, by simp⟩

/-- A caller whose latest call is awaited has not ended. -/
theorem Orderly.unsettled (orderly : caller.Orderly) {call : AdbCall} {earlier : List AdbCall}
    (calls : caller.calls = call :: earlier) (awaited : call.ended = false) :
    ¬(caller.phase = .ended ∨ caller.phase = .released) := by
  intro settled
  have idle := idle_iff.mp (orderly.settled settled) call (by simp [calls])
  rw [awaited] at idle
  cases idle

/-- A call that goes on keeps its caller orderly, as long as that has not ended. -/
theorem Orderly.resumed (orderly : caller.Orderly) {answer : AdbAnswer} {call later : AdbCall}
    {earlier : List AdbCall} {phase : AdbPhase} (calls : caller.calls = call :: earlier)
    (moved : call.resume answer = some later) (unsettled : ¬(phase = .ended ∨ phase = .released)) :
    ({ caller with calls := later :: earlier, phase := phase } : AdbCaller).Orderly := by
  have before := orderly.earlier
  have staged := orderly.staged
  rw [calls] at before staged
  obtain ⟨own, others⟩ := List.forall_mem_cons.mp staged
  have next := (AdbCall.resume_staged own moved).1
  exact ⟨before, fun settled => absurd settled unsettled, List.forall_mem_cons.mpr ⟨next, others⟩⟩

/-- **One step of a caller keeps it orderly.** -/
theorem orderly_step (orderly : caller.Orderly) (taken : caller.step binary event = some after) :
    after.Orderly := by
  cases step_cases taken with
  | spawned args serial idle working =>
    refine ⟨fun index call found => ?_, fun settled => ?_, ?_⟩
    · exact idle_iff.mp idle call (List.mem_of_getElem? found)
    · simp [working] at settled
    · simpa [AdbCall.Staged] using orderly.staged
  | missing args serial => exact orderly
  | resumed answer call later earlier other calls moved =>
    exact orderly.resumed calls moved (orderly.unsettled calls (AdbCall.ended_of_resume moved))
  | interrupted call later earlier calls moved => exact orderly.resumed calls moved (by decide)
  | cancelled idle => exact ⟨orderly.earlier, fun _ => idle, orderly.staged⟩
  | exited index returncode call process found gone =>
    have member := List.mem_of_getElem? found
    refine ⟨fun other present there => ?_, fun settled => ?_, fun present there => ?_⟩
    · rcases Slots.getElem?_rewritten there with ⟨rfl, rfl⟩ | ⟨-, before⟩
      · exact orderly.earlier other call found
      · exact orderly.earlier other present before
    · have idle := idle_iff.mp (orderly.settled settled)
      refine idle_iff.mpr fun present there => ?_
      rcases List.mem_or_eq_of_mem_set there with before | rfl
      · exact idle present before
      · exact idle call member
    · rcases List.mem_or_eq_of_mem_set there with before | rfl
      · exact orderly.staged present before
      · exact (orderly.staged call member).exit gone
  | finished idle => exact ⟨orderly.earlier, fun _ => idle, orderly.staged⟩
  | released ended =>
    exact ⟨orderly.earlier, fun _ => orderly.settled (.inl ended), orderly.staged⟩

/-- A call that goes on leaves its caller clean unless it was exposed to a cancellation. -/
theorem Orderly.clean_resumed (orderly : caller.Orderly) (clean : caller.Clean)
    {answer : AdbAnswer} {call later : AdbCall} {earlier : List AdbCall} {phase : AdbPhase}
    (calls : caller.calls = call :: earlier) (moved : call.resume answer = some later)
    (unsettled : ¬(phase = .ended ∨ phase = .released)) :
    ({ caller with calls := later :: earlier, phase := phase } : AdbCaller).Clean ↔
      ¬(answer = .cancelled ∧ caller.exposed = true) := by
  have next := orderly.resumed calls moved unsettled
  have staged := orderly.staged call (by simp [calls])
  have others := clean.calls
  rw [calls] at others
  have same : caller.exposed = call.exposed := by simp [exposed, calls]
  rw [same, ← (AdbCall.resume_staged staged moved).2]
  constructor
  · intro kept
    exact kept.calls later List.mem_cons_self
  · intro kept
    exact next.clean (List.forall_mem_cons.mpr ⟨kept, (List.forall_mem_cons.mp others).2⟩)

/-- **One step of a caller keeps it clean** exactly when it is no cancellation of an exposed
call. -/
theorem clean_step (orderly : caller.Orderly) (clean : caller.Clean)
    (taken : caller.step binary event = some after) :
    after.Clean ↔ ¬(event = .cancel ∧ caller.exposed = true) := by
  have next := orderly_step orderly taken
  cases step_cases taken with
  | spawned args serial idle working =>
    have fresh : ({ argv := AdbCall.commandLine binary args serial } : AdbCall).Clean := nofun
    have kept := next.clean (List.forall_mem_cons.mpr ⟨fresh, clean.calls⟩)
    simp [kept]
  | missing args serial => simp [clean]
  | resumed answer call later earlier other calls moved =>
    have kept := orderly.clean_resumed clean calls moved
      (orderly.unsettled calls (AdbCall.ended_of_resume moved))
    simpa [other] using kept
  | interrupted call later earlier calls moved =>
    have unsettled : ¬(AdbPhase.cancelled = .ended ∨ AdbPhase.cancelled = .released) := by decide
    have kept := orderly.clean_resumed clean calls moved unsettled
    simpa using kept
  | cancelled idle =>
    have kept := next.clean clean.calls
    simp [kept, exposed_of_idle idle]
  | exited index returncode call process found gone =>
    have kept := next.clean fun present there => by
      rcases List.mem_or_eq_of_mem_set there with before | rfl
      · exact clean.calls present before
      · exact .of_contained (AdbProcess.contained_exit gone)
    simp [kept]
  | finished idle =>
    have kept := next.clean clean.calls
    simp [kept]
  | released ended =>
    have kept := next.clean clean.calls
    simp [kept]

end AdbCaller

namespace AdbWorld

variable {binary : String} {past : List (Transition.Taken AdbWorld AdbAction)}
variable {world after : AdbWorld} {action : AdbAction}

/-- Every caller awaits its calls one after another. -/
def Orderly (world : AdbWorld) : Prop := ∀ caller ∈ world.callers, caller.Orderly

/-- No adb process outlives the call that started it, or the lease of its caller. -/
def Clean (world : AdbWorld) : Prop := ∀ caller ∈ world.callers, caller.Clean

/-- No cancellation reaches a caller whose call is exposed to it. -/
def Sheltered (world : AdbWorld) : AdbAction → Prop
  | .turn index .cancel => ∀ caller ∈ world.callers[index]?, caller.exposed = false
  | _ => True

instance (world : AdbWorld) (action : AdbAction) : Decidable (world.Sheltered action) := by
  unfold Sheltered
  split <;> infer_instance

/-- A caller starts, or one of them goes on. -/
theorem step_cases (taken : step binary world action = some after) :
    (∃ lease, action = .start lease ∧ after.callers = world.callers ++ [{ lease := lease }]) ∨
    ∃ index event caller next, action = .turn index event ∧ world.callers[index]? = some caller ∧
      caller.step binary event = some next ∧ after.callers = world.callers.set index next := by
  cases action with
  | start lease =>
    obtain rfl := Option.some.inj taken
    exact .inl ⟨lease, rfl, rfl⟩
  | turn index event =>
    obtain ⟨next, moved, rfl⟩ := Option.map_eq_some_iff.mp taken
    obtain ⟨caller, found, moved⟩ := Option.bind_eq_some_iff.mp moved
    exact .inr ⟨index, event, caller, next, rfl, found, moved, rfl⟩

/-- One step keeps every caller orderly. -/
theorem orderly_step (orderly : world.Orderly) (taken : step binary world action = some after) :
    after.Orderly := by
  intro present member
  obtain ⟨lease, -, callers⟩ | ⟨index, event, caller, next, -, found, moved, callers⟩ :=
    step_cases taken
  · rw [callers, List.mem_append, List.mem_singleton] at member
    obtain before | rfl := member
    · exact orderly present before
    · exact AdbCaller.orderly_start lease
  · rw [callers] at member
    obtain before | rfl := List.mem_or_eq_of_mem_set member
    · exact orderly present before
    · exact AdbCaller.orderly_step (orderly caller (List.mem_of_getElem? found)) moved

/-- **One step keeps a clean world clean** exactly when it is no cancellation of a caller whose
call is exposed. -/
theorem clean_step (orderly : world.Orderly) (clean : world.Clean)
    (taken : step binary world action = some after) : after.Clean ↔ world.Sheltered action := by
  obtain ⟨lease, rfl, callers⟩ | ⟨index, event, caller, next, rfl, found, moved, callers⟩ :=
    step_cases taken
  · have kept : after.Clean := by
      intro present member
      rw [callers, List.mem_append, List.mem_singleton] at member
      obtain before | rfl := member
      · exact clean present before
      · exact (AdbCaller.orderly_start lease).clean nofun
    simp [kept, Sheltered]
  · have member := List.mem_of_getElem? found
    have own := AdbCaller.clean_step (orderly caller member) (clean caller member) moved
    have whole : after.Clean ↔ next.Clean := by
      constructor
      · intro kept
        have bound := (List.getElem?_eq_some_iff.mp found).1
        refine kept next (List.mem_of_getElem? (i := index) ?_)
        rw [callers, List.getElem?_set_self bound]
      · intro kept present member
        rw [callers] at member
        obtain before | rfl := List.mem_or_eq_of_mem_set member
        · exact clean present before
        · exact kept
    rw [whole, own]
    unfold Sheltered
    split
    · rename_i same
      obtain ⟨rfl, rfl⟩ := AdbAction.turn.inj same
      simp [found]
    · rename_i other
      refine ⟨fun _ => trivial, fun _ cancel => other index ?_⟩
      rw [cancel.1]

/-- Every state of a run is orderly. -/
theorem orderly_run (history : History (step binary) (fun _ _ => True) {} past world) :
    world.Orderly :=
  history.invariant (fun _ world => world.Orderly) nofun
    fun _ orderly _ taken => orderly_step orderly taken

/-- **No adb process outlives its call** in a run, nor the lease under which it was started,
exactly when no cancellation reaches a call while it awaits `communicate` and adb has not exited,
or a second time while asyncio awaits the exit of an adb that it killed alone. -/
theorem contained_iff (history : History (step binary) (fun _ _ => True) {} past world) :
    Throughout (fun _ taken => taken.after.Clean) past ↔
      Throughout (fun _ taken => taken.before.Sheltered taken.action) past := by
  refine history.throughout_iff fun earlier sheltered _ taken => ?_
  have clean := earlier.throughout (fun _ world => world.Clean) nofun
    (fun before clean _ sheltered taken =>
      (clean_step (orderly_run before) clean taken).mpr sheltered) sheltered
  exact clean_step (orderly_run earlier) clean taken

/-- An attempt waits for adb on a phone that does not answer, and its task runs out of time. -/
def overdue : List AdbAction :=
  [.start (some ⟨"phone-a", 0⟩),
    .turn 0 (.run ["shell", "am", "force-stop", "com.example"] (some "phone-a") true),
    .turn 0 (.resume .connected), .turn 0 .cancel, .turn 0 .finish, .turn 0 .release]

/-- **An adb command outlives its lease**: the task of an attempt runs out of time while it awaits
`communicate`, the lease is released, and the command still runs. -/
theorem command_outlives_lease : ∃ past world,
    History (step "adb") (fun _ _ => True) {} past world ∧
    (∃ caller ∈ world.callers, caller.phase = .released ∧ ∃ call ∈ caller.calls,
      call.argv = ["adb", "-s", "phone-a", "shell", "am", "force-stop", "com.example"] ∧
      call.stage = .raised ∧ call.process = .running) ∧
    ¬world.Clean := by
  have passed : (Transition.trace (Transition.guarded (step "adb") (fun _ _ => True)) [] {}
      overdue).any (fun reached => reached.2.callers == [
        { lease := some ⟨"phone-a", 0⟩, phase := .released, calls := [
          { argv := ["adb", "-s", "phone-a", "shell", "am", "force-stop", "com.example"],
            stage := .raised }] }]) = true := by
    decide +kernel
  obtain ⟨past, world, history, shown⟩ := Transition.traces passed
  have callers := eq_of_beq shown
  refine ⟨past, world, history, ?_, fun clean => ?_⟩
  · rw [callers]
    exact ⟨_, List.mem_singleton_self _, rfl, _, List.mem_singleton_self _, rfl, rfl, rfl⟩
  · rw [Clean, callers] at clean
    have gone := (clean _ (List.mem_singleton_self _)).released rfl _ (List.mem_singleton_self _)
    cases gone

/-- The equivalence where a call runs into its own budget, and its task is cancelled while the
killed adb is waited for. -/
theorem contained_iff_reaping : ∃ past world,
    History (step "adb") (fun _ _ => True) {} past world ∧
    world.callers.all (fun caller => caller.phase = .released && caller.calls.length = 1) = true ∧
    (Throughout (fun _ taken => taken.after.Clean) past ↔
      Throughout (fun _ taken => taken.before.Sheltered taken.action) past) := by
  have passed : (Transition.trace (Transition.guarded (step "adb") (fun _ _ => True)) [] {}
      [.start (some ⟨"phone-a", 0⟩), .turn 0 (.run ["shell", "true"] (some "phone-a") true),
        .turn 0 (.resume .connected), .turn 0 (.resume .timedOut), .turn 0 .cancel,
        .turn 0 .finish, .turn 0 .release]).any (fun reached =>
        reached.2.callers.all fun caller =>
          caller.phase = .released && caller.calls.length = 1) = true := by
    decide +kernel
  obtain ⟨past, world, history, shown⟩ := Transition.traces passed
  exact ⟨past, world, history, shown, contained_iff history⟩

end AdbWorld

end DeviceOrchestrator
