import DeviceOrchestrator.Core.TokenCache

/-!
# No dead token is handed out

`Stepped` says once what each action of the token cache can do. From it, every refresh is alone in
its realm and starts only where no entry is fresh, every entry a call returns was fresh in that
step or made in it, and an entry that `invalidate` removed is gone for every later call.
-/
namespace DeviceOrchestrator

open Transition (Run History)

namespace TokenWorld

/-- One step as it was taken. -/
abbrev Taken := Transition.Taken TokenWorld TokenAction

/-- A realm has an entry that is fresh under the skew. -/
def Fresh (config : TokenConfig) (world : TokenWorld) (realm : String) (cached : CachedToken) :
    Prop :=
  world.tokens realm = some cached ∧ cached.stale config.skewS world.now = false

/-- **What one step does.** -/
inductive Stepped (config : TokenConfig) (world : TokenWorld) : TokenAction → TokenWorld → Prop
  /-- A new call finds a fresh entry. -/
  | hits {realm : String} {cached : CachedToken} (fresh : world.Fresh config realm cached) :
      Stepped config world (.get realm)
        { world with calls := world.calls ++ [⟨realm, .returned cached⟩] }
  /-- A new call finds none. -/
  | waits {realm : String} (stale : ∀ cached, ¬world.Fresh config realm cached) :
      Stepped config world (.get realm) { world with calls := world.calls ++ [⟨realm, .locking⟩] }
  /-- A call finds a fresh entry inside the lock. -/
  | shares {index : Nat} {call : TokenCall} {cached : CachedToken}
      (found : world.calls[index]? = some call) (locking : call.stage = .locking)
      (clear : world.free call.realm = true) (fresh : world.Fresh config call.realm cached) :
      Stepped config world (.resume index .locked) (world.move index call (.returned cached))
  /-- A call finds none inside the lock and refreshes. -/
  | starts {index : Nat} {call : TokenCall} (found : world.calls[index]? = some call)
      (locking : call.stage = .locking) (clear : world.free call.realm = true)
      (stale : ∀ cached, ¬world.Fresh config call.realm cached) :
      Stepped config world (.resume index .locked) (world.move index call .refreshing)
  /-- A waiting call is cancelled. -/
  | leaves {index : Nat} {call : TokenCall} (found : world.calls[index]? = some call)
      (locking : call.stage = .locking) :
      Stepped config world (.resume index .cancelled) (world.move index call .cancelled)
  /-- A refresh returns, and its token is stored. -/
  | stores {index : Nat} {call : TokenCall} {raw : String} {cached : CachedToken}
      (found : world.calls[index]? = some call) (refreshing : call.stage = .refreshing)
      (made : world.entryOf config raw = some cached) :
      Stepped config world (.resume index (.refreshed raw)) (world.keep index call cached)
  /-- A refresh returns, and its token is lost: `jwt_expiry` raises. -/
  | loses {index : Nat} {call : TokenCall} {raw : String} {raised : Raised}
      (found : world.calls[index]? = some call) (refreshing : call.stage = .refreshing)
      (failed : config.expiry raw = .error raised) :
      Stepped config world (.resume index (.refreshed raw))
        (world.move index call (.raised (.own raised)))
  /-- A refresh raises. -/
  | fails {index : Nat} {call : TokenCall} {error : String}
      (found : world.calls[index]? = some call) (refreshing : call.stage = .refreshing) :
      Stepped config world (.resume index (.refreshRaised error))
        (world.move index call (.raised (.refresh error)))
  /-- `invalidate`. -/
  | invalidated (realm : String) :
      Stepped config world (.invalidate realm)
        { world with tokens := Function.update world.tokens realm none }
  /-- Time passes. -/
  | ticked {elapsedS : Rat} (forward : 0 ≤ elapsedS) :
      Stepped config world (.tick elapsedS) { world with now := world.now + elapsedS }

section
variable {config : TokenConfig} {world after : TokenWorld} {action : TokenAction}
variable {index : Nat} {call new : TokenCall} {cached : CachedToken} {realm : String}
variable {past : List Taken}

/-- What `get` finds fresh. -/
theorem fresh?_eq_some : world.fresh? config realm = some cached ↔
    world.Fresh config realm cached := by
  simp [fresh?, Fresh, Option.filter_eq_some_iff]

/-- Where `get` finds nothing fresh. -/
theorem fresh?_eq_none : world.fresh? config realm = none ↔
    ∀ cached, ¬world.Fresh config realm cached := by
  simp only [Option.eq_none_iff_forall_ne_some, ne_eq, fresh?_eq_some]

/-- Every step does one of these. -/
theorem stepped (taken : step config world action = some after) :
    Stepped config world action after := by
  cases action with
  | get realm =>
    simp only [step] at taken
    split at taken
    · rename_i cached fresh
      obtain rfl := Option.some.inj taken
      exact .hits (fresh?_eq_some.mp fresh)
    · rename_i stale
      obtain rfl := Option.some.inj taken
      exact .waits (fresh?_eq_none.mp stale)
  | invalidate realm =>
    obtain rfl := Option.some.inj taken
    exact .invalidated realm
  | tick elapsedS =>
    simp only [step] at taken
    split at taken
    · rename_i forward
      obtain rfl := Option.some.inj taken
      exact .ticked forward
    · cases taken
  | resume index answer =>
    simp only [step] at taken
    split at taken
    · cases taken
    · rename_i call found
      unfold resume at taken
      split at taken
      · rename_i locking
        split at taken
        · rename_i clear
          split at taken
          · rename_i cached fresh
            obtain rfl := Option.some.inj taken
            exact .shares found locking clear (fresh?_eq_some.mp fresh)
          · rename_i stale
            obtain rfl := Option.some.inj taken
            exact .starts found locking clear (fresh?_eq_none.mp stale)
        · cases taken
      · rename_i locking
        obtain rfl := Option.some.inj taken
        exact .leaves found locking
      · rename_i raw refreshing
        obtain rfl := Option.some.inj taken
        unfold store
        split
        · rename_i expiresAt read
          exact .stores found refreshing (by rw [entryOf, read])
        · rename_i raised failed
          exact .loses found refreshing failed
      · rename_i error refreshing
        obtain rfl := Option.some.inj taken
        exact .fails found refreshing
      · cases taken

/-! ## The table and the locks -/

/-- **What holds of the cache in every run.** -/
structure Consistent (world : TokenWorld) : Prop where
  /-- At most one refresh of each realm is in progress. -/
  exclusive : Mutex.Exclusive TokenCall.realm TokenCall.refreshing world.calls
  /-- Entries are numbered below the next one. -/
  numbered : ∀ realm cached, world.tokens realm = some cached → cached.number < world.made
  /-- An entry is under one realm. -/
  apart : ∀ realm realm' cached, world.tokens realm = some cached →
    world.tokens realm' = some cached → realm = realm'

/-- A call that refreshes already is inside; one that starts finds the lock free. -/
theorem Stepped.exclusive (stepped : Stepped config world action after)
    (exclusive : Mutex.Exclusive TokenCall.realm TokenCall.refreshing world.calls) :
    Mutex.Exclusive TokenCall.realm TokenCall.refreshing after.calls := by
  cases stepped with
  | hits | waits => exact exclusive.concat rfl
  | invalidated | ticked => exact exclusive
  | starts found locking clear =>
    exact exclusive.set found rfl fun _ => .inr fun other call found' within =>
      Mutex.outside clear found' within
  | shares found | leaves found | fails found | loses found =>
    exact exclusive.set found rfl fun within => by cases within
  | stores found refreshing =>
    exact exclusive.set found rfl fun _ => .inl (by simp [TokenCall.refreshing, refreshing])

/-- Where an entry of the table comes from. -/
theorem Stepped.tokens (stepped : Stepped config world action after)
    (there : after.tokens realm = some cached) :
    world.tokens realm = some cached ∨
    (after.made = world.made + 1 ∧ ∃ index call raw, action = .resume index (.refreshed raw) ∧
      world.calls[index]? = some call ∧ call.stage = .refreshing ∧ call.realm = realm ∧
      world.entryOf config raw = some cached) := by
  cases stepped with
  | @stores index call raw cached' found refreshing made =>
    by_cases own : realm = call.realm
    · subst own
      obtain rfl : cached' = cached := by simpa [keep] using there
      exact .inr ⟨rfl, index, call, raw, rfl, found, refreshing, rfl, made⟩
    · exact .inl (by simpa [keep, Function.update_of_ne own] using there)
  | invalidated other =>
    by_cases own : realm = other
    · subst own
      simp at there
    · exact .inl (by simpa [Function.update_of_ne own] using there)
  | hits | waits | shares | starts | leaves | loses | fails | ticked => exact .inl there

/-- An entry has the next number. -/
theorem number_entry {raw : String} (made : world.entryOf config raw = some cached) :
    cached.number = world.made := by
  unfold entryOf at made
  split at made
  · obtain rfl := Option.some.inj made
    rfl
  · cases made

/-- Entries are never unmade. -/
theorem Stepped.made (stepped : Stepped config world action after) : world.made ≤ after.made := by
  cases stepped with
  | stores => exact Nat.le_succ _
  | _ => exact le_rfl

/-- **Every step keeps the cache consistent.** -/
theorem Consistent.step (consistent : Consistent world)
    (stepped : Stepped config world action after) : Consistent after where
  exclusive := stepped.exclusive consistent.exclusive
  numbered := by
    intro realm cached there
    rcases stepped.tokens there with before | ⟨more, _, _, raw, -, -, -, -, made⟩
    · exact (consistent.numbered realm cached before).trans_le stepped.made
    · rw [more, number_entry made]
      exact Nat.lt_succ_self _
  apart := by
    intro realm realm' cached there there'
    rcases stepped.tokens there with before | ⟨-, index, call, raw, acts, found, -, rfl, made⟩
    · rcases stepped.tokens there' with before' | ⟨-, _, _, raw, -, -, -, -, made⟩
      · exact consistent.apart realm realm' cached before before'
      · have early := consistent.numbered realm _ before
        rw [number_entry made] at early
        exact absurd early (lt_irrefl _)
    · rcases stepped.tokens there' with before' | ⟨-, _, _, _, acts', found', -, rfl, -⟩
      · have early := consistent.numbered realm' _ before'
        rw [number_entry made] at early
        exact absurd early (lt_irrefl _)
      · rw [acts] at acts'
        cases acts'
        obtain rfl := Option.some.inj (found.symm.trans found')
        rfl

/-- A new cache is consistent. -/
theorem consistent_new : Consistent {} where
  exclusive := Mutex.Exclusive.nil
  numbered _ _ there := nomatch there
  apart _ _ _ there := nomatch there

/-! ## What a call returns -/

/-- **What a call returns** was returned before, is fresh in this step, or is made in it. -/
theorem Stepped.returns (stepped : Stepped config world action after)
    (found : after.calls[index]? = some new) (returned : new.stage = .returned cached) :
    world.calls[index]? = some new ∨ world.Fresh config new.realm cached ∨
    ∃ old raw, world.calls[index]? = some old ∧ old.stage = .refreshing ∧
      action = .resume index (.refreshed raw) ∧ world.entryOf config raw = some cached := by
  cases stepped with
  | hits fresh =>
    rcases Slots.getElem?_concat found with ⟨-, rfl⟩ | ⟨-, earlier⟩
    · cases returned
      exact .inr (.inl fresh)
    · exact .inl earlier
  | waits =>
    rcases Slots.getElem?_concat found with ⟨-, rfl⟩ | ⟨-, earlier⟩
    · cases returned
    · exact .inl earlier
  | shares there locking clear fresh =>
    rcases Slots.getElem?_rewritten found with ⟨-, rfl⟩ | ⟨-, earlier⟩
    · cases returned
      exact .inr (.inl fresh)
    · exact .inl earlier
  | starts | leaves | loses | fails =>
    rcases Slots.getElem?_rewritten found with ⟨-, rfl⟩ | ⟨-, earlier⟩
    · cases returned
    · exact .inl earlier
  | @stores slot call raw _ there refreshing made =>
    rcases Slots.getElem?_rewritten found with ⟨rfl, rfl⟩ | ⟨-, earlier⟩
    · refine .inr (.inr ⟨call, raw, there, refreshing, rfl, ?_⟩)
      dsimp only at returned
      split at returned
      · cases returned
        exact made
      · cases returned
    · exact .inl earlier
  | invalidated | ticked => exact .inl found

/-- A call that refreshes did so before, or starts in this step where nothing is fresh. -/
theorem Stepped.starting (stepped : Stepped config world action after)
    (found : after.calls[index]? = some new) (refreshing : new.stage = .refreshing) :
    world.calls[index]? = some new ∨
      (action = .resume index .locked ∧ ∀ cached, ¬world.Fresh config new.realm cached) := by
  cases stepped with
  | hits | waits =>
    rcases Slots.getElem?_concat found with ⟨-, rfl⟩ | ⟨-, earlier⟩
    · cases refreshing
    · exact .inl earlier
  | shares | leaves | loses | fails =>
    rcases Slots.getElem?_rewritten found with ⟨-, rfl⟩ | ⟨-, earlier⟩
    · cases refreshing
    · exact .inl earlier
  | starts there locking clear stale =>
    rcases Slots.getElem?_rewritten found with ⟨rfl, rfl⟩ | ⟨-, earlier⟩
    · exact .inr ⟨rfl, stale⟩
    · exact .inl earlier
  | stores there refreshes =>
    rcases Slots.getElem?_rewritten found with ⟨-, rfl⟩ | ⟨-, earlier⟩
    · dsimp only at refreshing
      split at refreshing <;> cases refreshing
    · exact .inl earlier
  | invalidated | ticked => exact .inl found

/-- Calls are never forgotten. -/
theorem Stepped.longer (stepped : Stepped config world action after) :
    world.calls.length ≤ after.calls.length := by
  cases stepped with
  | hits | waits => simp
  | shares | starts | leaves | stores | loses | fails => simp [move, keep]
  | invalidated | ticked => exact le_rfl

/-- `invalidate` removed this entry in this step. -/
def Removed (taken : Taken) (cached : CachedToken) : Prop :=
  ∃ realm, taken.action = .invalidate realm ∧ taken.before.tokens realm = some cached

/-- Removed entries are gone: no realm has them, and no later call returns them. -/
structure Gone (past : List Taken) (world : TokenWorld) : Prop where
  /-- Calls are never forgotten. -/
  longer : ∀ taken ∈ past, taken.after.calls.length ≤ world.calls.length
  /-- A removed entry was made. -/
  made : ∀ taken ∈ past, ∀ cached, Removed taken cached → cached.number < world.made
  /-- It is under no realm. -/
  absent : ∀ taken ∈ past, ∀ cached, Removed taken cached → ∀ realm,
    world.tokens realm ≠ some cached
  /-- No call that starts later returns it. -/
  unreturned : ∀ taken ∈ past, ∀ cached, Removed taken cached →
    ∀ (index : Nat) (call : TokenCall), taken.after.calls.length ≤ index →
    world.calls[index]? = some call → call.stage ≠ .returned cached

/-- What `invalidate` removes is gone at once. -/
theorem Stepped.removed (stepped : Stepped config world action after)
    (consistent : Consistent world) (removed : Removed ⟨world, action, after⟩ cached) :
    cached.number < world.made ∧ ∀ realm, after.tokens realm ≠ some cached := by
  obtain ⟨realm, acts, before⟩ := removed
  dsimp only at acts before
  subst acts
  cases stepped with
  | invalidated realm =>
    refine ⟨consistent.numbered realm cached before, fun other there => ?_⟩
    by_cases own : other = realm
    · subst own
      simp at there
    · dsimp only at there
      rw [Function.update_of_ne own] at there
      exact own (consistent.apart other realm cached there before)

/-- **Every step keeps removed entries away.** -/
theorem Gone.step (gone : Gone past world) (consistent : Consistent world)
    (stepped : Stepped config world action after) :
    Gone (⟨world, action, after⟩ :: past) after where
  longer := by
    intro taken member
    rcases List.mem_cons.mp member with rfl | earlier
    · exact le_rfl
    · exact (gone.longer taken earlier).trans stepped.longer
  made := by
    intro taken member cached removed
    rcases List.mem_cons.mp member with rfl | earlier
    · exact (stepped.removed consistent removed).1.trans_le stepped.made
    · exact (gone.made taken earlier cached removed).trans_le stepped.made
  absent := by
    intro taken member cached removed realm there
    rcases List.mem_cons.mp member with rfl | earlier
    · exact (stepped.removed consistent removed).2 realm there
    · rcases stepped.tokens there with before | ⟨-, _, _, raw, -, -, -, -, made⟩
      · exact gone.absent taken earlier cached removed realm before
      · have early := gone.made taken earlier _ removed
        rw [number_entry made] at early
        exact absurd early (lt_irrefl _)
  unreturned := by
    intro taken member cached removed index call late found returned
    rcases List.mem_cons.mp member with rfl | earlier
    · rw [List.getElem?_eq_none late] at found
      cases found
    · rcases stepped.returns found returned with before | fresh | ⟨_, raw, -, -, -, made⟩
      · exact gone.unreturned taken earlier cached removed index call late before returned
      · exact gone.absent taken earlier cached removed _ fresh.1
      · have early := gone.made taken earlier _ removed
        rw [number_entry made] at early
        exact absurd early (lt_irrefl _)

/-- **The cache stays consistent and removed entries stay away, along every history.** -/
theorem gone_history {allowed : TokenWorld → TokenAction → Prop}
    (history : History (step config) allowed {} past world) :
    Consistent world ∧ Gone past world :=
  history.invariant (fun past world => Consistent world ∧ Gone past world)
    ⟨consistent_new, nofun, nofun, nofun, nofun⟩
    fun _ kept _ taken => ⟨kept.1.step (stepped taken), kept.2.step kept.1 (stepped taken)⟩

/-- **No dead token is handed out.** -/
structure Live (config : TokenConfig) (past : List Taken) (world : TokenWorld) : Prop where
  /-- At most one refresh of each realm is in progress. -/
  single : ∀ (first second : Nat) (one two : TokenCall), world.calls[first]? = some one →
    world.calls[second]? = some two → one.stage = .refreshing → two.stage = .refreshing →
    one.realm = two.realm → first = second
  /-- A refresh starts only in a state in which its realm has no fresh entry. -/
  starts : ∀ taken ∈ past, ∀ (index : Nat) (new : TokenCall),
    taken.before.calls[index]? ≠ some new → taken.after.calls[index]? = some new →
    new.stage = .refreshing → ∀ cached, ¬taken.before.Fresh config new.realm cached
  /-- An entry is returned in a state in which it is the fresh one of the realm, or by the call
  whose refresh made it. -/
  returns : ∀ taken ∈ past, ∀ (index : Nat) (new : TokenCall) (cached : CachedToken),
    taken.before.calls[index]? ≠ some new → taken.after.calls[index]? = some new →
    new.stage = .returned cached →
    taken.before.Fresh config new.realm cached ∨
    ∃ old raw, taken.before.calls[index]? = some old ∧ old.stage = .refreshing ∧
      taken.action = .resume index (.refreshed raw) ∧
      taken.before.entryOf config raw = some cached
  /-- No call that starts after an entry was removed returns it. -/
  removed : ∀ taken ∈ past, ∀ cached, Removed taken cached →
    ∀ (index : Nat) (call : TokenCall), taken.after.calls.length ≤ index →
    world.calls[index]? = some call → call.stage ≠ .returned cached

/-- **`TokenCache` never hands out a dead token**, in every history. -/
theorem tokens_live (history : History (step config) (fun _ _ => True) {} past world) :
    Live config past world := by
  obtain ⟨consistent, gone⟩ := gone_history history
  have each : ∀ taken ∈ past, Stepped config taken.before taken.action taken.after := by
    intro taken member
    obtain ⟨-, -, -, done⟩ := history.each taken member
    exact stepped done
  refine ⟨?_, ?_, ?_, gone.unreturned⟩
  · intro first second one two found found' refreshing refreshing' same
    exact consistent.exclusive first second one two found found'
      (by simp [TokenCall.refreshing, refreshing]) (by simp [TokenCall.refreshing, refreshing'])
      same
  · intro taken member index new fresh found refreshing
    rcases (each taken member).starting found refreshing with before | ⟨-, stale⟩
    · exact absurd before fresh
    · exact stale
  · intro taken member index new cached fresh found returned
    rcases (each taken member).returns found returned with before | now
    · exact absurd before fresh
    · exact now

end

/-- Tokens that say nothing of their expiry. -/
def lasting : TokenConfig where
  jwtExpiry := fun _ => .ok none

/-- Two calls share a refresh, and a call after `invalidate` makes its own. -/
def relogin : List TokenAction :=
  [.get "bank", .get "bank", .resume 0 .locked, .resume 0 (.refreshed "a"), .resume 1 .locked,
    .invalidate "bank", .get "bank", .resume 2 .locked, .resume 2 (.refreshed "b")]

/-- The removed entry is not returned again. -/
theorem tokens_live_relogin : ∃ (past : List Taken) (world : TokenWorld),
    world.calls.map (fun call => call.stage) =
      [.returned ⟨"a", none, 0⟩, .returned ⟨"a", none, 0⟩, .returned ⟨"b", none, 1⟩] ∧
    Live lasting past world := by
  have passed : (Transition.trace (Transition.guarded (step lasting) fun _ _ => True) [] {}
      relogin).any (fun reached =>
        decide (reached.2.calls.map (fun call => call.stage) = [.returned ⟨"a", none, 0⟩,
          .returned ⟨"a", none, 0⟩, .returned ⟨"b", none, 1⟩])) = true := by
    decide +kernel
  obtain ⟨past, world, history, shown⟩ := Transition.traces passed
  exact ⟨past, world, of_decide_eq_true shown, tokens_live history⟩

end TokenWorld

end DeviceOrchestrator
