import DeviceOrchestrator.Core.TokenCache
import DeviceOrchestrator.Lib.Service
import DeviceOrchestrator.Verif.Leaks

/-!
# One phone does not stall another, nor one realm

The lock of `ensure` is one for each device and kind, that of `get` one for each realm. Both are
services in the sense of `Mutex.Service`: a call has a bounded number of steps before it, and
whoever waits for a lock waits for a call of its own key that can be answered. So the calls of a key
come to an end by their own steps, whatever the calls of other keys await.
-/
namespace DeviceOrchestrator

open Transition (History)

/-- How often `_open_with_backoff` opens at most. -/
def SessionConfig.rounds (config : SessionConfig) : Nat := config.maxOpenAttempts.toNat

/-- The steps that a call of `ensure` has before it, at most. -/
def EnsureStage.left (rounds : Nat) : EnsureStage → Nat
  | locking => 2 * rounds + 3
  | checking _ => 2 * rounds + 2
  | closing _ => 2 * rounds + 1
  | opening number _ => 2 * (rounds - number) + 2
  | sleeping number _ _ => 2 * (rounds - number) + 1
  | returned _ | raised _ => 0

namespace SessionAction

/-- The call that an action resumes. -/
def resumed? : SessionAction → Option Nat
  | resume index _ => some index
  | _ => none

/-- The key on which `ensure` is called. -/
def asked? : SessionAction → Option SessionKey
  | ensure deviceId kind _ => some (deviceId, kind)
  | _ => none

end SessionAction

namespace SessionWorld

variable {config : SessionConfig} {world after : SessionWorld} {index : Nat} {call : EnsureCall}

/-- The calls of `ensure` as a service. -/
def service (config : SessionConfig) :
    Mutex.Service SessionWorld SessionAction EnsureCall SessionKey where
  calls := SessionWorld.calls
  key := EnsureCall.key
  inside := EnsureCall.inside
  ended call := call.stage.finished
  rank call := call.stage.left config.rounds
  full := 2 * config.rounds + 3
  resumed? := SessionAction.resumed?
  asked? := SessionAction.asked?
  answers action := !action.cancels

/-- The head of the loop leaves two steps for each round. -/
theorem attempt_left (number : Nat) (lastError : Option String) :
    (world.attempt config call (number + 1) lastError).left config.rounds ≤
      2 * (config.rounds - number) := by
  unfold attempt
  split
  · exact Nat.zero_le _
  · rename_i within
    split
    · exact Nat.zero_le _
    · simp only [EnsureStage.left, SessionConfig.rounds]
      omega

/-- A failed open leaves its sleep and the rounds after it. -/
theorem openFailed_left (number : Nat) (reason : String) :
    (world.openFailed config call number reason).left config.rounds ≤
      2 * (config.rounds - number) + 1 := by
  unfold openFailed
  split
  · exact Nat.zero_le _
  · split
    · exact Nat.zero_le _
    · exact Nat.le_refl _

/-- A call that goes inside has a step less before it. -/
theorem enter_left : ∃ stage : EnsureStage,
    (world.enter config index call).calls = world.calls.set index { call with stage := stage } ∧
      stage.left config.rounds < EnsureStage.locking.left config.rounds := by
  unfold enter
  split
  · have left : (world.attempt config call 1 none).left config.rounds ≤ 2 * (config.rounds - 0) :=
      attempt_left 0 none
    refine ⟨_, rfl, Nat.lt_of_le_of_lt left ?_⟩
    simp only [EnsureStage.left]
    omega
  · rename_i handle cached
    split
    · refine ⟨.closing handle, rfl, ?_⟩
      simp only [EnsureStage.left]
      omega
    · refine ⟨.checking handle, rfl, ?_⟩
      simp only [EnsureStage.left]
      omega

/-- **A call of `ensure` that resumes has a step less before it**, and no other call moves. -/
theorem resume_left {answer : EnsureAnswer}
    (taken : world.resume config index call answer = some after) : ∃ stage : EnsureStage,
    after.calls = world.calls.set index { call with stage := stage } ∧
      stage.left config.rounds < call.stage.left config.rounds := by
  unfold resume at taken
  split at taken
  · rename_i locking
    split at taken
    · obtain rfl := Option.some.inj taken
      rw [locking]
      exact enter_left
    · cases taken
  · rename_i handle ok checking
    obtain rfl := Option.some.inj taken
    rw [checking]
    cases ok with
    | true => exact ⟨.returned handle, rfl, Nat.succ_pos _⟩
    | false => exact ⟨.closing handle, rfl, Nat.lt_succ_self _⟩
  · rename_i handle closing
    obtain rfl := Option.some.inj taken
    rw [closing]
    exact ⟨_, rfl, Nat.lt_succ_of_le (attempt_left 0 none)⟩
  · rename_i number lastError id opening
    obtain rfl := Option.some.inj taken
    rw [opening]
    exact ⟨_, rfl, Nat.succ_pos _⟩
  · rename_i number lastError reason opening
    obtain rfl := Option.some.inj taken
    rw [opening]
    exact ⟨_, rfl, Nat.lt_succ_of_le (openFailed_left number reason)⟩
  · rename_i number delayS lastError sleeping
    obtain rfl := Option.some.inj taken
    rw [sleeping]
    exact ⟨_, rfl, Nat.lt_succ_of_le (attempt_left number lastError)⟩
  · split at taken
    · cases taken
    · rename_i unfinished
      obtain rfl := Option.some.inj taken
      refine ⟨_, rfl, ?_⟩
      cases stage : call.stage with
      | returned handle | raised error =>
        rw [stage] at unfinished
        exact absurd rfl unfinished
      | locking | checking | closing | opening | sleeping => exact Nat.succ_pos _
  · cases taken

/-- The step of a call is what the call does. -/
theorem step_found {answer : EnsureAnswer} (found : world.calls[index]? = some call) :
    step config world (.resume index answer) = world.resume config index call answer := by
  simp only [step, found]

/-- A call inside its lock can be answered. -/
theorem inside_goes (config : SessionConfig) (world : SessionWorld) (index : Nat)
    (inside : call.inside = true) : ∃ answer : EnsureAnswer, answer ≠ .cancelled ∧
      (world.resume config index call answer).isSome = true := by
  cases stage : call.stage with
  | locking | returned | raised =>
    rw [EnsureCall.inside, stage] at inside
    cases inside
  | checking handle => exact ⟨.checked true, by simp, by simp [resume, stage]⟩
  | closing handle => exact ⟨.closed, by simp, by simp [resume, stage]⟩
  | opening number lastError => exact ⟨.openFailed "", by simp, by simp [resume, stage]⟩
  | sleeping number delayS lastError => exact ⟨.slept, by simp, by simp [resume, stage]⟩

/-- **`ensure` treats its calls fairly.** -/
theorem service_fair (config : SessionConfig) : (service config).Fair (step config) where
  moves := by
    intro world after action slot taken resumed
    cases action with
    | resume index answer =>
      obtain rfl := Option.some.inj resumed
      cases found : world.calls[index]? with
      | none =>
        simp only [step, found] at taken
        cases taken
      | some call =>
        rw [step_found found] at taken
        obtain ⟨stage, calls, less⟩ := resume_left taken
        exact ⟨call, { call with stage := stage }, found, calls, rfl, less⟩
    | ensure | invalidate | closeAll | tick => cases resumed
  asks := by
    intro world after action key taken resumed asked
    cases action with
    | ensure deviceId kind deadline =>
      obtain rfl := Option.some.inj taken
      obtain rfl := Option.some.inj asked
      exact ⟨⟨deviceId, kind, deadline, .locking⟩, rfl, rfl, Nat.le_refl _⟩
    | resume | invalidate | closeAll | tick => cases asked
  still := by
    intro world after action taken resumed asked
    cases action with
    | ensure => cases asked
    | resume => cases resumed
    | invalidate | closeAll =>
      obtain rfl := Option.some.inj taken
      rfl
    | tick elapsedS =>
      simp only [step] at taken
      split at taken
      · obtain rfl := Option.some.inj taken
        rfl
      · cases taken
  goes := by
    intro world slot call found inside
    obtain ⟨answer, asked, goes⟩ := inside_goes config world slot inside
    refine ⟨.resume slot answer, rfl, ?_, by rwa [step_found found]⟩
    cases answer with
    | cancelled => exact absurd rfl asked
    | _ => rfl
  enters := by
    intro world slot call found outside unended clear
    refine ⟨.resume slot .locked, rfl, rfl, ?_⟩
    rw [step_found found]
    cases stage : call.stage with
    | locking =>
      have free : world.free call.key = true := clear
      simp [resume, stage, free]
    | returned | raised =>
      simp only [service, stage] at unended
      cases unended
    | checking | closing | opening | sleeping =>
      simp only [service, EnsureCall.inside, stage] at outside
      cases outside

/-- **The calls of `ensure` on one device settle by themselves.** From every state, whatever the
calls on other devices and kinds await: the calls of a key take at most `work` steps and
`2 * rounds + 3` for each further call on the key. They can be brought to an end while all other
calls stay where they are; and where none of them can go on, the lock of the key is free and all of
them have ended. -/
theorem ensure_isolated (config : SessionConfig) (key : SessionKey) (world : SessionWorld) :
    (∀ past after, History (step config) (fun _ _ => True) world past after →
      past.countP (fun taken => (service config).serves key taken.before taken.action) +
        (service config).work key after ≤ (service config).work key world +
          (2 * config.rounds + 3) * past.countP fun taken =>
            decide (taken.action.asked? = some key)) ∧
    (∃ past after,
      History (step config) (fun world action => (service config).advances key world action = true)
        world past after ∧ (service config).Stuck (step config) key after ∧
      ∀ (index : Nat) (call : EnsureCall), world.calls[index]? = some call → call.key ≠ key →
        after.calls[index]? = some call) ∧
    ((service config).Stuck (step config) key world → world.free key = true ∧
      ∀ call ∈ world.calls, call.key = key → call.stage.finished = true) :=
  (service_fair config).isolated key world

end SessionWorld

/-- The steps that a call of `get` has before it, at most. -/
def TokenStage.left : TokenStage → Nat
  | locking => 2
  | refreshing => 1
  | returned _ | raised _ | cancelled => 0

/-- The call has ended. -/
def TokenStage.over : TokenStage → Bool
  | returned _ | raised _ | cancelled => true
  | locking | refreshing => false

namespace TokenAction

/-- The call that an action resumes. -/
def resumed? : TokenAction → Option Nat
  | resume index _ => some index
  | _ => none

/-- The realm on which `get` is called. -/
def asked? : TokenAction → Option String
  | get realm => some realm
  | _ => none

/-- The action does not cancel a call. -/
def answers : TokenAction → Bool
  | resume _ .cancelled => false
  | _ => true

end TokenAction

namespace TokenWorld

variable {config : TokenConfig} {world after : TokenWorld} {index : Nat} {call : TokenCall}

/-- The calls of `get` as a service. -/
def service : Mutex.Service TokenWorld TokenAction TokenCall String where
  calls := TokenWorld.calls
  key := TokenCall.realm
  inside := TokenCall.refreshing
  ended call := call.stage.over
  rank call := call.stage.left
  full := 2
  resumed? := TokenAction.resumed?
  asked? := TokenAction.asked?
  answers := TokenAction.answers

/-- A refresh that returned ends its call. -/
theorem store_left (config : TokenConfig) (world : TokenWorld) (index : Nat) (call : TokenCall)
    (raw : String) : ∃ stage : TokenStage,
    (world.store config index call raw).calls =
      world.calls.set index { call with stage := stage } ∧ stage.left = 0 := by
  unfold store
  split
  · rename_i expiresAt read
    generalize (⟨raw, expiresAt, world.made⟩ : CachedToken) = cached
    cases logged : cached.logTtl with
    | ok shown => exact ⟨.returned cached, by simp [keep, move, logged], rfl⟩
    | error error => exact ⟨.raised (.own (.builtin error)), by simp [keep, move, logged], rfl⟩
  · rename_i raised failed
    exact ⟨.raised (.own raised), rfl, rfl⟩

/-- **A call of `get` that resumes has a step less before it**, and no other call moves. -/
theorem resume_left {answer : TokenAnswer}
    (taken : world.resume config index call answer = some after) : ∃ stage : TokenStage,
    after.calls = world.calls.set index { call with stage := stage } ∧
      stage.left < call.stage.left := by
  unfold resume at taken
  split at taken
  · rename_i locking
    rw [locking]
    split at taken
    · split at taken
      · rename_i cached fresh
        obtain rfl := Option.some.inj taken
        exact ⟨.returned cached, rfl, Nat.succ_pos _⟩
      · obtain rfl := Option.some.inj taken
        exact ⟨.refreshing, rfl, by decide⟩
    · cases taken
  · rename_i locking
    obtain rfl := Option.some.inj taken
    rw [locking]
    exact ⟨.cancelled, rfl, by decide⟩
  · rename_i raw refreshing
    obtain rfl := Option.some.inj taken
    obtain ⟨stage, calls, spent⟩ := store_left config world index call raw
    refine ⟨stage, calls, ?_⟩
    rw [spent, refreshing]
    decide
  · rename_i error refreshing
    obtain rfl := Option.some.inj taken
    rw [refreshing]
    exact ⟨.raised (.refresh error), rfl, Nat.succ_pos _⟩
  · cases taken

/-- The step of a call is what the call does. -/
theorem step_found {answer : TokenAnswer} (found : world.calls[index]? = some call) :
    step config world (.resume index answer) = world.resume config index call answer := by
  simp only [step, found]

/-- **`get` treats its calls fairly.** -/
theorem service_fair (config : TokenConfig) : service.Fair (step config) where
  moves := by
    intro world after action slot taken resumed
    cases action with
    | resume index answer =>
      obtain rfl := Option.some.inj resumed
      cases found : world.calls[index]? with
      | none =>
        simp only [step, found] at taken
        cases taken
      | some call =>
        rw [step_found found] at taken
        obtain ⟨stage, calls, less⟩ := resume_left taken
        exact ⟨call, { call with stage := stage }, found, calls, rfl, less⟩
    | get | invalidate | tick => cases resumed
  asks := by
    intro world after action realm taken resumed asked
    cases action with
    | get realm =>
      obtain rfl := Option.some.inj asked
      simp only [step] at taken
      split at taken
      · rename_i cached fresh
        obtain rfl := Option.some.inj taken
        exact ⟨⟨realm, .returned cached⟩, rfl, rfl, Nat.zero_le _⟩
      · obtain rfl := Option.some.inj taken
        exact ⟨⟨realm, .locking⟩, rfl, rfl, Nat.le_refl _⟩
    | resume | invalidate | tick => cases asked
  still := by
    intro world after action taken resumed asked
    cases action with
    | get => cases asked
    | resume => cases resumed
    | invalidate realm =>
      obtain rfl := Option.some.inj taken
      rfl
    | tick elapsedS =>
      simp only [step] at taken
      split at taken
      · obtain rfl := Option.some.inj taken
        rfl
      · cases taken
  goes := by
    intro world slot call found inside
    have refreshing : call.stage = .refreshing := of_decide_eq_true inside
    refine ⟨.resume slot (.refreshRaised ""), rfl, rfl, ?_⟩
    rw [step_found found]
    simp [resume, refreshing]
  enters := by
    intro world slot call found outside unended clear
    refine ⟨.resume slot .locked, rfl, rfl, ?_⟩
    rw [step_found found]
    cases stage : call.stage with
    | locking =>
      have free : world.free call.realm = true := clear
      simp only [resume, stage, free, if_true]
      cases world.fresh? config call.realm <;> rfl
    | refreshing =>
      simp only [service, TokenCall.refreshing, stage] at outside
      cases outside
    | returned | raised | cancelled =>
      simp only [service, stage] at unended
      cases unended

/-- **The calls of `get` on one realm settle by themselves.** From every state, whatever the calls
on other realms await: the calls of a realm take at most `work` steps and two for each further call
on the realm. They can be brought to an end while all other calls stay where they are; and where
none of them can go on, the lock of the realm is free and all of them have ended. -/
theorem get_isolated (config : TokenConfig) (realm : String) (world : TokenWorld) :
    (∀ past after, History (step config) (fun _ _ => True) world past after →
      past.countP (fun taken => service.serves realm taken.before taken.action) +
        service.work realm after ≤ service.work realm world +
          2 * past.countP fun taken => decide (taken.action.asked? = some realm)) ∧
    (∃ past after,
      History (step config) (fun world action => service.advances realm world action = true)
        world past after ∧ service.Stuck (step config) realm after ∧
      ∀ (index : Nat) (call : TokenCall), world.calls[index]? = some call → call.realm ≠ realm →
        after.calls[index]? = some call) ∧
    (service.Stuck (step config) realm world → world.free realm = true ∧
      ∀ call ∈ world.calls, call.realm = realm → call.stage.over = true) :=
  (service_fair config).isolated realm world

end TokenWorld

end DeviceOrchestrator
