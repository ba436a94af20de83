import DeviceOrchestrator.Verif.Tokens

/-!
# One login for a group

The calls of `get` that begin before the first refresh of their realm ends are its group. Until
then at most one of them refreshes (`Flight.before`). Afterwards the others take the lock one by
one, and find the entry of that refresh exactly while it was made, is not invalidated and is not
stale (`Flight.after`); otherwise they refresh again. `Lasting` says so of a step in terms of what
happened before it, and `single_flight_iff` that nothing else keeps a group from sharing a login.
-/
namespace DeviceOrchestrator

open Transition (History Throughout)

/-- A finite float. -/
def PyFloat.isFinite : PyFloat → Bool
  | finite _ => true
  | _ => false

/-- `get` can store and return a token: `jwt_expiry` raises nothing else than `AuthError`, and the
expiry is neither an infinity nor NaN. -/
def TokenConfig.usable (config : TokenConfig) (raw : String) : Bool :=
  match config.expiry raw with
  | .ok expiresAt => expiresAt.all PyFloat.isFinite
  | .error _ => false

/-- What an await is answered in a step. -/
def TokenAction.answered? : TokenAction → Option TokenAnswer
  | resume _ answer => some answer
  | _ => none

/-- The call returned or raised. -/
def TokenStage.ended : TokenStage → Bool
  | returned _ | raised _ => true
  | _ => false

namespace TokenWorld

/-- How the first refresh of a realm ended. -/
structure Login where
  /-- The entry that was made, if one was, or what `refresh` raised. -/
  outcome : Except String (Option CachedToken)
  /-- The calls that had begun by then. -/
  group : Nat

/-- How a call ends that has the outcome of a login; nobody has a token of which no entry was
made. -/
def Login.stage (first : Login) : Option TokenStage :=
  match first.outcome with
  | .ok made => made.map .returned
  | .error error => some (.raised (.refresh error))

/-- A login gave a token that is not stale yet. -/
def Login.fresh (first : Login) (skewS now : Rat) : Bool :=
  match first.outcome with
  | .ok made => made.any fun cached => !cached.stale skewS now
  | .error _ => false

/-- A call asks for a realm. -/
def asks (world : TokenWorld) (realm : String) (index : Nat) : Bool :=
  world.calls[index]?.any fun call => call.realm = realm

/-- How a refresh of a realm ended in this step. -/
def concluded (config : TokenConfig) (realm : String) (taken : Taken) :
    Option (Except String (Option CachedToken)) :=
  match taken.action with
  | .resume index (.refreshed raw) =>
    if taken.before.asks realm index then some (.ok (taken.before.entryOf config raw)) else none
  | .resume index (.refreshRaised error) =>
    if taken.before.asks realm index then some (.error error) else none
  | _ => none

/-- How the first refresh of a realm ended, once it has. -/
def login (config : TokenConfig) (realm : String) : List Taken → Option Login
  | [] => none
  | taken :: earlier =>
    match login config realm earlier with
    | some first => some first
    | none => (concluded config realm taken).map fun outcome =>
      ⟨outcome, taken.before.calls.length⟩

/-- A call begins before the first refresh of the realm ends. -/
def inGroup (config : TokenConfig) (realm : String) (past : List Taken) (index : Nat) : Bool :=
  (login config realm past).all fun first => index < first.group

/-- The call that starts a refresh of a realm in this step. -/
def started (realm : String) (taken : Taken) : Option Nat :=
  match taken.action with
  | .resume index .locked =>
    if taken.after.calls[index]?.any fun call => call.realm = realm && call.refreshing then
      some index
    else none
  | _ => none

/-- The calls that started a refresh of a realm, the latest first. -/
def starters (realm : String) (past : List Taken) : List Nat := past.filterMap (started realm)

/-- The realm was invalidated after its first refresh ended. -/
def revoked (config : TokenConfig) (realm : String) : List Taken → Bool
  | [] => false
  | taken :: earlier =>
    ((login config realm earlier).isSome && taken.action = .invalidate realm) ||
      revoked config realm earlier

/-- **A group shares one login.** -/
structure Shared (config : TokenConfig) (realm : String) (past : List Taken)
    (world : TokenWorld) : Prop where
  /-- The group calls `refresh` once. -/
  once : ((starters realm past).filter (inGroup config realm past)).length ≤ 1
  /-- Every call of the group that ends has the token or the error of the first refresh. -/
  same : ∀ (index : Nat) (call : TokenCall), world.calls[index]? = some call →
    call.realm = realm → inGroup config realm past index = true → call.stage.ended = true →
    ∃ first, login config realm past = some first ∧ first.stage = some call.stage

/-- The first refresh returns no token whose `jwt_expiry` raises, or expires at an infinity or NaN,
and when a call of the group gets the lock after it, its token was returned, is not invalidated and
is not stale. -/
def Lasting (config : TokenConfig) (realm : String) (earlier : List Taken) (taken : Taken) :
    Prop :=
  match taken.action with
  | .resume index (.refreshed raw) =>
    (login config realm earlier).isNone = true → taken.before.asks realm index = true →
      config.usable raw = true
  | .resume index .locked =>
    match login config realm earlier with
    | none => True
    | some first => index < first.group → taken.before.asks realm index = true →
      revoked config realm earlier = false ∧ first.fresh config.skewS taken.before.now = true
  | _ => True

instance (config : TokenConfig) (realm : String) (earlier : List Taken) (taken : Taken) :
    Decidable (Lasting config realm earlier taken) := by
  unfold Lasting
  split
  · infer_instance
  · split <;> infer_instance
  · infer_instance

/-- No call is in progress, and the realm has no fresh entry. -/
structure Cold (config : TokenConfig) (realm : String) (world : TokenWorld) : Prop where
  /-- Nobody has asked for a token. -/
  idle : world.calls = []
  /-- A cached token of the realm is stale. -/
  stale : ∀ cached, ¬world.Fresh config realm cached

section
variable {config : TokenConfig} {world after : TokenWorld} {action : TokenAction}
variable {index : Nat} {call new : TokenCall} {cached : CachedToken} {realm : String}
variable {past : List Taken} {first : Login}

/-- A stale entry stays stale. -/
theorem stale_mono {skewS now later : Rat} (stale : cached.stale skewS now = true)
    (passes : now ≤ later) : cached.stale skewS later = true := by
  obtain ⟨token, expiresAt, number⟩ := cached
  cases expiresAt with
  | none => exact stale
  | some expiresAt =>
    cases expiresAt with
    | finite expiresAt =>
      have bound : expiresAt - skewS ≤ now := of_decide_eq_true stale
      exact decide_eq_true (bound.trans passes)
    | infinity negative => exact stale
    | nan => exact stale

/-- The clock does not go back. -/
theorem Stepped.now (stepped : Stepped config world action after) : world.now ≤ after.now := by
  cases stepped with
  | ticked forward => exact le_add_of_nonneg_right forward
  | _ => exact le_rfl

/-- A fresh entry was fresh before, or is made by a refresh that ends. -/
theorem Stepped.fresh (stepped : Stepped config world action after)
    (fresh : after.Fresh config realm cached) :
    world.Fresh config realm cached ∨ ∃ index call raw, action = .resume index (.refreshed raw) ∧
      world.calls[index]? = some call ∧ call.stage = .refreshing ∧ call.realm = realm ∧
      world.entryOf config raw = some cached := by
  rcases stepped.tokens fresh.1 with before | ⟨-, made⟩
  · refine .inl ⟨before, ?_⟩
    have kept := fresh.2
    by_contra stale
    rw [stale_mono (by simpa using stale) stepped.now] at kept
    cases kept
  · exact .inr made

/-- A call that has ended stays as it is. -/
theorem Stepped.ended (stepped : Stepped config world action after)
    (found : world.calls[index]? = some call) (finished : call.stage.ended = true) :
    after.calls[index]? = some call := by
  have bound := (List.getElem?_eq_some_iff.mp found).1
  have kept : ∀ {slot : Nat} {old : TokenCall} (new : TokenCall),
      world.calls[slot]? = some old → old.stage.ended = false →
      (world.calls.set slot new)[index]? = some call := by
    intro slot old new there going
    have apart : slot ≠ index := by
      rintro rfl
      obtain rfl := Option.some.inj (found.symm.trans there)
      rw [finished] at going
      cases going
    rw [List.getElem?_set_ne apart, found]
  cases stepped with
  | hits | waits => exact (List.getElem?_append_left bound).trans found
  | shares there at_ | starts there at_ | leaves there at_ | stores there at_ | loses there at_
  | fails there at_ =>
    exact kept _ there (by rw [at_]; rfl)
  | invalidated | ticked => exact found

/-- The call of a realm. -/
theorem asks_iff : world.asks realm index = true ↔
    ∃ call, world.calls[index]? = some call ∧ call.realm = realm := by
  simp [asks, Option.any_eq_true]

/-- The log line accepts no expiry and the finite ones. -/
theorem logTtl_eq_ok (cached : CachedToken) : cached.logTtl = .ok () ↔
    cached.expiresAt.all PyFloat.isFinite = true := by
  obtain ⟨token, expiresAt, number⟩ := cached
  cases expiresAt with
  | none => simp [CachedToken.logTtl]
  | some expiresAt => cases expiresAt <;> simp [CachedToken.logTtl, PyFloat.isFinite]

/-- An entry that is made is stored. -/
theorem store_made {raw : String} (made : world.entryOf config raw = some cached) :
    world.store config index call raw = world.keep index call cached := by
  unfold entryOf at made
  unfold store
  split at made
  · obtain rfl := Option.some.inj made
    rfl
  · cases made

/-- Otherwise the call raises what `jwt_expiry` raised. -/
theorem store_lost {raw : String} {raised : Raised} (failed : config.expiry raw = .error raised) :
    world.store config index call raw = world.move index call (.raised (.own raised)) ∧
      world.entryOf config raw = none := by
  simp only [store, entryOf, failed, and_self]

/-- The call whose refresh returns has ended, and has the entry if the token is usable. -/
theorem store_call (config : TokenConfig) (found : world.calls[index]? = some call)
    (raw : String) (group : Nat) : ∃ stage,
      (world.store config index call raw).calls[index]? = some ⟨call.realm, stage⟩ ∧
      stage.ended = true ∧ (Login.stage ⟨.ok (world.entryOf config raw), group⟩ = some stage ↔
        config.usable raw = true) := by
  have bound := (List.getElem?_eq_some_iff.mp found).1
  cases read : config.expiry raw with
  | error raised =>
    obtain ⟨stored, unmade⟩ := @store_lost config world index call raw raised read
    rw [stored]
    refine ⟨_, List.getElem?_set_self bound, rfl, ?_⟩
    simp [unmade, Login.stage, TokenConfig.usable, read]
  | ok expiresAt =>
    have made : world.entryOf config raw = some ⟨raw, expiresAt, world.made⟩ := by
      rw [entryOf, read]
    rw [store_made made, made]
    refine ⟨_, List.getElem?_set_self bound, ?_⟩
    have accepts : (⟨raw, expiresAt, world.made⟩ : CachedToken).logTtl = .ok () ↔
        config.usable raw = true := by
      rw [logTtl_eq_ok, TokenConfig.usable, read]
    rw [← accepts]
    cases (⟨raw, expiresAt, world.made⟩ : CachedToken).logTtl with
    | ok => exact ⟨rfl, by simp [Login.stage]⟩
    | error error => exact ⟨rfl, by simp [Login.stage]⟩

/-- What starting a refresh means. -/
theorem Stepped.started (stepped : Stepped config world action after)
    (starts : started realm ⟨world, action, after⟩ = some index) :
    ∃ call, action = .resume index .locked ∧ world.calls[index]? = some call ∧
      call.realm = realm ∧ call.stage = .locking ∧ world.free realm = true ∧
      (∀ cached, ¬world.Fresh config realm cached) ∧
      after = world.move index call .refreshing := by
  cases stepped with
  | @starts slot call found locking clear stale =>
    have bound := (List.getElem?_eq_some_iff.mp found).1
    have there : (world.move slot call .refreshing).calls[slot]? =
        some { call with stage := .refreshing } := List.getElem?_set_self bound
    simp only [TokenWorld.started, there, Option.any_some] at starts
    split at starts
    · rename_i own
      obtain rfl := Option.some.inj starts
      obtain rfl : call.realm = realm := of_decide_eq_true (Bool.and_eq_true_iff.mp own).1
      exact ⟨call, rfl, found, rfl, locking, clear, stale, rfl⟩
    · cases starts
  | @shares slot call cached found locking clear fresh =>
    have bound := (List.getElem?_eq_some_iff.mp found).1
    have there : (world.move slot call (.returned cached)).calls[slot]? =
        some { call with stage := .returned cached } := List.getElem?_set_self bound
    simp only [TokenWorld.started, there, Option.any_some] at starts
    simp [TokenCall.refreshing] at starts
  | _ => cases starts

/-- A call that refreshes did so before, or started in this step. -/
theorem Stepped.refreshes (stepped : Stepped config world action after)
    (found : after.calls[index]? = some new) (refreshing : new.stage = .refreshing) :
    world.calls[index]? = some new ∨
      TokenWorld.started new.realm ⟨world, action, after⟩ = some index := by
  rcases stepped.starting found refreshing with before | ⟨rfl, -⟩
  · exact .inl before
  · right
    simp [TokenWorld.started, found, TokenCall.refreshing, refreshing]

/-- What ending a refresh means. -/
theorem Stepped.concluded (stepped : Stepped config world action after)
    {outcome : Except String (Option CachedToken)}
    (ends : concluded config realm ⟨world, action, after⟩ = some outcome) :
    ∃ index call, world.calls[index]? = some call ∧ call.realm = realm ∧
      call.stage = .refreshing ∧
      ((∃ raw, action = .resume index (.refreshed raw) ∧ after = world.store config index call raw ∧
          outcome = .ok (world.entryOf config raw)) ∨
        ∃ error, action = .resume index (.refreshRaised error) ∧
          after = world.move index call (.raised (.refresh error)) ∧ outcome = .error error) := by
  cases stepped with
  | @stores index call raw cached found refreshing made =>
    simp only [TokenWorld.concluded, asks, found, Option.any_some, decide_eq_true_eq] at ends
    split at ends
    · rename_i own
      exact ⟨index, call, found, own, refreshing,
        .inl ⟨raw, rfl, (store_made made).symm, (Option.some.inj ends).symm⟩⟩
    · cases ends
  | @loses index call raw raised found refreshing failed =>
    simp only [TokenWorld.concluded, asks, found, Option.any_some, decide_eq_true_eq] at ends
    split at ends
    · rename_i own
      exact ⟨index, call, found, own, refreshing,
        .inl ⟨raw, rfl, (store_lost failed).1.symm, (Option.some.inj ends).symm⟩⟩
    · cases ends
  | @fails index call error found refreshing =>
    simp only [TokenWorld.concluded, asks, found, Option.any_some, decide_eq_true_eq] at ends
    split at ends
    · rename_i own
      exact ⟨index, call, found, own, refreshing,
        .inr ⟨error, rfl, rfl, (Option.some.inj ends).symm⟩⟩
    · cases ends
  | _ => cases ends

/-- A refresh of the realm that returns ends it. -/
theorem concluded_refreshed {raw : String} (acts : action = .resume index (.refreshed raw))
    (found : world.calls[index]? = some call) (own : call.realm = realm) :
    concluded config realm ⟨world, action, after⟩ = some (.ok (world.entryOf config raw)) := by
  subst acts own
  simp [concluded, asks, found]

/-- So does one that raises. -/
theorem concluded_raised {error : String} (acts : action = .resume index (.refreshRaised error))
    (found : world.calls[index]? = some call) (own : call.realm = realm) :
    concluded config realm ⟨world, action, after⟩ = some (.error error) := by
  subst acts own
  simp [concluded, asks, found]

/-! ## Before and after the first refresh ends -/

/-- The call that made the first login has ended, and the entry it made is cached while it is not
invalidated and not stale. -/
structure Landed (config : TokenConfig) (realm : String) (past : List Taken) (world : TokenWorld)
    (first : Login) : Prop where
  /-- The group does not grow. -/
  group : first.group ≤ world.calls.length
  /-- A call of the group made the login. -/
  opener : ∃ opener ∈ starters realm past, opener < first.group ∧
    ∃ call, world.calls[opener]? = some call ∧ call.stage.ended = true
  /-- What became of the entry. -/
  entry : ∀ cached, first.outcome = .ok (some cached) → cached.number < world.made ∧
    (revoked config realm past = true → world.tokens realm ≠ some cached) ∧
    (revoked config realm past = false → cached.stale config.skewS world.now = false →
      world.tokens realm = some cached ∧
      ∀ (index : Nat) (call : TokenCall), world.calls[index]? = some call →
        call.realm = realm → call.stage ≠ .refreshing)

/-- **What holds of a realm along a run.** -/
structure Flight (config : TokenConfig) (realm : String) (past : List Taken)
    (world : TokenWorld) : Prop where
  /-- At most one refresh of each realm is in progress. -/
  exclusive : Mutex.Exclusive TokenCall.realm TokenCall.refreshing world.calls
  /-- A call that refreshes was seen to start. -/
  begun : ∀ (index : Nat) (call : TokenCall), world.calls[index]? = some call →
    call.realm = realm → call.stage = .refreshing → index ∈ starters realm past
  /-- Until the first refresh ends nothing is fresh, nobody has ended, and only the call that
  started it refreshes. -/
  before : login config realm past = none →
    (∀ cached, ¬world.Fresh config realm cached) ∧
    (∀ (index : Nat) (call : TokenCall), world.calls[index]? = some call → call.realm = realm →
      call.stage.ended = false) ∧
    (starters realm past).length ≤ 1 ∧
    ∀ index ∈ starters realm past, ∃ call, world.calls[index]? = some call ∧
      call.realm = realm ∧ call.stage = .refreshing
  /-- Afterwards its entry lasts. -/
  after : ∀ first, login config realm past = some first → Landed config realm past world first

/-- Nothing happened yet. -/
theorem Flight.start (cold : Cold config realm world) : Flight config realm [] world where
  exclusive := by
    rw [cold.idle]
    exact Mutex.Exclusive.nil
  begun := by
    intro index call found
    simp [cold.idle] at found
  before := by
    intro _
    refine ⟨cold.stale, ?_, Nat.zero_le _, nofun⟩
    intro index call found
    simp [cold.idle] at found
  after := nofun

/-- The first refresh that ends stays the first. -/
theorem login_kept {taken : Taken} (known : login config realm past = some first) :
    login config realm (taken :: past) = some first := by
  simp [login, known]

/-- Until then a step decides. -/
theorem login_fresh {taken : Taken} (unknown : login config realm past = none) :
    login config realm (taken :: past) = (concluded config realm taken).map fun outcome =>
      ⟨outcome, taken.before.calls.length⟩ := by
  simp [login, unknown]

/-- Without a first refresh nothing was invalidated after it. -/
theorem revoked_of_unknown : ∀ {past : List Taken}, login config realm past = none →
    revoked config realm past = false
  | [], _ => rfl
  | taken :: earlier, unknown => by
    cases known : login config realm earlier with
    | some first => rw [login_kept known] at unknown; cases unknown
    | none => simp [revoked, known, revoked_of_unknown known]

/-- The calls that started a refresh in a longer history. -/
theorem mem_starters {taken : Taken} : index ∈ starters realm (taken :: past) ↔
    started realm taken = some index ∨ index ∈ starters realm past := by
  cases starts : started realm taken <;> simp [starters, starts, eq_comm]

/-- A call that refreshes stays there until its refresh ends. -/
theorem Stepped.stays (stepped : Stepped config world action after)
    (found : world.calls[index]? = some call) (refreshing : call.stage = .refreshing) :
    after.calls[index]? = some call ∨
      ∃ outcome, TokenWorld.concluded config call.realm ⟨world, action, after⟩ = some outcome := by
  have bound := (List.getElem?_eq_some_iff.mp found).1
  have kept : ∀ {slot : Nat} {old : TokenCall} (new : TokenCall),
      world.calls[slot]? = some old → old.stage = .locking →
      (world.calls.set slot new)[index]? = some call := by
    intro slot old new there locking
    have apart : slot ≠ index := by
      rintro rfl
      obtain rfl := Option.some.inj (found.symm.trans there)
      rw [refreshing] at locking
      cases locking
    rw [List.getElem?_set_ne apart, found]
  cases stepped with
  | hits | waits => exact .inl ((List.getElem?_append_left bound).trans found)
  | shares there locking | starts there locking | leaves there locking =>
    exact .inl (kept _ there locking)
  | @stores slot | @loses slot =>
    by_cases own : slot = index
    · subst own
      exact .inr ⟨_, concluded_refreshed rfl found rfl⟩
    · exact .inl ((List.getElem?_set_ne own).trans found)
  | @fails slot =>
    by_cases own : slot = index
    · subst own
      exact .inr ⟨_, concluded_raised rfl found rfl⟩
    · exact .inl ((List.getElem?_set_ne own).trans found)
  | invalidated | ticked => exact .inl found

/-- **How a call ends.** It finds a fresh entry, or its own refresh ends. -/
theorem Stepped.ending (stepped : Stepped config world action after)
    (found : after.calls[index]? = some new) (finished : new.stage.ended = true) :
    world.calls[index]? = some new ∨
    (∃ cached, world.Fresh config new.realm cached ∧ new.stage = .returned cached ∧
      (index = world.calls.length ∨
        (action = .resume index .locked ∧ world.asks new.realm index = true))) ∨
    ∃ outcome old, TokenWorld.concluded config new.realm ⟨world, action, after⟩ = some outcome ∧
      world.calls[index]? = some old ∧ old.realm = new.realm ∧ old.stage = .refreshing := by
  cases stepped with
  | hits fresh =>
    rcases Slots.getElem?_concat found with ⟨last, rfl⟩ | ⟨-, earlier⟩
    · exact .inr (.inl ⟨_, fresh, rfl, .inl last⟩)
    · exact .inl earlier
  | waits =>
    rcases Slots.getElem?_concat found with ⟨-, rfl⟩ | ⟨-, earlier⟩
    · cases finished
    · exact .inl earlier
  | shares there locking clear fresh =>
    rcases Slots.getElem?_rewritten found with ⟨rfl, rfl⟩ | ⟨-, earlier⟩
    · exact .inr (.inl ⟨_, fresh, rfl, .inr ⟨rfl, asks_iff.mpr ⟨_, there, rfl⟩⟩⟩)
    · exact .inl earlier
  | starts | leaves =>
    rcases Slots.getElem?_rewritten found with ⟨-, rfl⟩ | ⟨-, earlier⟩
    · cases finished
    · exact .inl earlier
  | stores there refreshing | loses there refreshing =>
    rcases Slots.getElem?_rewritten found with ⟨rfl, rfl⟩ | ⟨-, earlier⟩
    · exact .inr (.inr ⟨_, _, concluded_refreshed rfl there rfl, there, rfl, refreshing⟩)
    · exact .inl earlier
  | fails there refreshing =>
    rcases Slots.getElem?_rewritten found with ⟨rfl, rfl⟩ | ⟨-, earlier⟩
    · exact .inr (.inr ⟨_, _, concluded_raised rfl there rfl, there, rfl, refreshing⟩)
    · exact .inl earlier
  | invalidated | ticked => exact .inl found

/-- Until the first refresh ends, a step that does not end it changes nothing of this. -/
theorem Flight.cold_step (flight : Flight config realm past world)
    (stepped : Stepped config world action after)
    (unknown : login config realm past = none)
    (unended : concluded config realm ⟨world, action, after⟩ = none) :
    (∀ cached, ¬after.Fresh config realm cached) ∧
    (∀ (index : Nat) (call : TokenCall), after.calls[index]? = some call → call.realm = realm →
      call.stage.ended = false) ∧
    (starters realm (⟨world, action, after⟩ :: past)).length ≤ 1 ∧
    ∀ index ∈ starters realm (⟨world, action, after⟩ :: past), ∃ call,
      after.calls[index]? = some call ∧ call.realm = realm ∧ call.stage = .refreshing := by
  obtain ⟨stale, going, few, awaits⟩ := flight.before unknown
  refine ⟨?_, ?_, ?_, ?_⟩
  · intro cached fresh
    rcases stepped.fresh fresh with before | ⟨index, call, raw, acts, found, -, rfl, -⟩
    · exact stale cached before
    · rw [concluded_refreshed acts found rfl] at unended
      cases unended
  · intro index call found own
    subst own
    refine Bool.eq_false_iff.mpr fun finished => ?_
    rcases stepped.ending found finished with before | ⟨cached, fresh, -⟩ | ⟨outcome, _, ends, -⟩
    · rw [going index call before rfl] at finished
      cases finished
    · exact stale cached fresh
    · rw [ends] at unended
      cases unended
  · cases starts : started realm ⟨world, action, after⟩ with
    | none =>
      rw [starters, List.filterMap_cons_none starts]
      exact few
    | some index =>
      obtain ⟨-, -, -, -, -, clear, -⟩ := stepped.started starts
      have none_before : starters realm past = [] := by
        refine List.eq_nil_iff_forall_not_mem.mpr fun other member => ?_
        obtain ⟨call, found, own, refreshing⟩ := awaits other member
        exact Mutex.outside clear found (by simp [TokenCall.refreshing, refreshing]) own
      rw [starters, List.filterMap_cons_some starts]
      show (index :: starters realm past).length ≤ 1
      rw [none_before]
      exact le_rfl
  · intro index member
    rcases mem_starters.mp member with starts | earlier
    · obtain ⟨call, -, found, own, -, -, -, rfl⟩ := stepped.started starts
      exact ⟨_, List.getElem?_set_self (List.getElem?_eq_some_iff.mp found).1, own, rfl⟩
    · obtain ⟨call, found, rfl, refreshing⟩ := awaits index earlier
      rcases stepped.stays found refreshing with kept | ⟨outcome, ends⟩
      · exact ⟨call, kept, rfl, refreshing⟩
      · rw [ends] at unended
        cases unended

/-- The first refresh ends. -/
theorem Flight.lands (flight : Flight config realm past world)
    (stepped : Stepped config world action after)
    (unknown : login config realm past = none) {outcome : Except String (Option CachedToken)}
    (ends : concluded config realm ⟨world, action, after⟩ = some outcome) :
    Landed config realm (⟨world, action, after⟩ :: past) after ⟨outcome, world.calls.length⟩ := by
  obtain ⟨index, call, found, own, refreshing, how⟩ := stepped.concluded ends
  have bound := (List.getElem?_eq_some_iff.mp found).1
  have finished : ∃ call, after.calls[index]? = some call ∧ call.stage.ended = true := by
    rcases how with ⟨raw, -, rfl, -⟩ | ⟨error, -, rfl, -⟩
    · obtain ⟨stage, there, finished, -⟩ := store_call config found raw 0
      exact ⟨_, there, finished⟩
    · exact ⟨_, List.getElem?_set_self bound, rfl⟩
  refine ⟨stepped.longer, ⟨index, mem_starters.mpr (.inr (flight.begun index call found own
    refreshing)), bound, finished⟩, ?_⟩
  rintro cached rfl
  rcases how with ⟨raw, acts, rfl, made⟩ | ⟨error, -, -, wrong⟩
  · have made : world.entryOf config raw = some cached := (Except.ok.inj made).symm
    have kept : revoked config realm (⟨world, action, world.store config index call raw⟩ :: past) =
        false := by
      simp [revoked, unknown, revoked_of_unknown unknown]
    refine ⟨?_, fun gone => ?_, fun _ _ => ⟨?_, ?_⟩⟩
    · rw [store_made made, number_entry made]
      exact Nat.lt_succ_self _
    · rw [kept] at gone
      cases gone
    · subst own
      rw [store_made made]
      exact Function.update_self _ _ _
    · intro other call' found' own' refreshing'
      rcases stepped.refreshes found' refreshing' with before | starts
      · obtain rfl := flight.exclusive other index call' call before found
          (by simp [TokenCall.refreshing, refreshing']) (by simp [TokenCall.refreshing, refreshing])
          (own'.trans own.symm)
        obtain ⟨ended, there, finished⟩ := finished
        obtain rfl := Option.some.inj (found'.symm.trans there)
        rw [refreshing'] at finished
        cases finished
      · obtain ⟨-, locked, -⟩ := stepped.started starts
        rw [acts] at locked
        cases locked
  · cases wrong

/-- What the first refresh left stays as long as nobody invalidates it and it is not stale. -/
theorem Flight.landed_step (flight : Flight config realm past world)
    (stepped : Stepped config world action after)
    (known : login config realm past = some first) :
    Landed config realm (⟨world, action, after⟩ :: past) after first := by
  obtain ⟨group, ⟨opener, member, early, call, found, finished⟩, entry⟩ := flight.after first known
  refine ⟨group.trans stepped.longer, ⟨opener, mem_starters.mpr (.inr member), early, call,
    stepped.ended found finished, finished⟩, fun cached made => ?_⟩
  obtain ⟨number, gone, kept⟩ := entry cached made
  have more : revoked config realm (⟨world, action, after⟩ :: past) =
      (decide (action = .invalidate realm) || revoked config realm past) := by
    simp [revoked, known]
  refine ⟨number.trans_le stepped.made, fun again there => ?_, fun still unstale => ?_⟩
  · rcases stepped.tokens there with before | ⟨-, _, _, raw, -, -, -, -, made⟩
    · have unrevoked : revoked config realm past = false :=
        Bool.eq_false_iff.mpr fun again => gone again before
      rw [more, unrevoked, Bool.or_false, decide_eq_true_eq] at again
      subst again
      cases stepped with
      | invalidated => simp at there
    · rw [number_entry made] at number
      exact absurd number (lt_irrefl _)
  · rw [more, Bool.or_eq_false_iff, decide_eq_false_iff_not] at still
    have unstale' : cached.stale config.skewS world.now = false := by
      refine Bool.eq_false_iff.mpr fun stale => ?_
      rw [stale_mono stale stepped.now] at unstale
      cases unstale
    obtain ⟨there, idle⟩ := kept still.2 unstale'
    refine ⟨?_, ?_⟩
    · cases stepped with
      | @stores index call raw _ found' refreshing =>
        have away : realm ≠ call.realm := fun own => idle index call found' own.symm refreshing
        exact (Function.update_of_ne away _ _).trans there
      | invalidated other =>
        have away : realm ≠ other := fun own => still.1 (by rw [own])
        exact (Function.update_of_ne away _ _).trans there
      | _ => exact there
    · intro index call found' own refreshing
      rcases stepped.refreshes found' refreshing with before | starts
      · exact idle index call before own refreshing
      · obtain ⟨-, -, -, -, -, -, stale, -⟩ := stepped.started starts
        rw [own] at stale
        exact stale cached ⟨there, unstale'⟩

/-- **Every step keeps the flight.** -/
theorem Flight.step (flight : Flight config realm past world)
    (stepped : Stepped config world action after) :
    Flight config realm (⟨world, action, after⟩ :: past) after where
  exclusive := stepped.exclusive flight.exclusive
  begun := by
    intro index call found own refreshing
    rcases stepped.refreshes found refreshing with before | starts
    · exact mem_starters.mpr (.inr (flight.begun index call before own refreshing))
    · rw [own] at starts
      exact mem_starters.mpr (.inl starts)
  before := by
    intro unknown
    cases known : login config realm past with
    | some first =>
      rw [login_kept known] at unknown
      cases unknown
    | none =>
      rw [login_fresh known, Option.map_eq_none_iff] at unknown
      exact flight.cold_step stepped known unknown
  after := by
    intro first landed
    cases known : login config realm past with
    | some earlier =>
      rw [login_kept known] at landed
      obtain rfl := Option.some.inj landed
      exact flight.landed_step stepped known
    | none =>
      rw [login_fresh known, Option.map_eq_some_iff] at landed
      obtain ⟨outcome, ends, rfl⟩ := landed
      exact flight.lands stepped known ends

/-- **The flight is kept along every history.** -/
theorem flight_history {start : TokenWorld} (cold : Cold config realm start)
    (history : History (TokenWorld.step config) (fun _ _ => True) start past world) :
    Flight config realm past world :=
  history.invariant (Flight config realm) (.start cold)
    fun _ flight _ taken => flight.step (stepped taken)

/-! ## What a group shares -/

/-- Until the first refresh ends the group has started one at most. -/
theorem Flight.shared (flight : Flight config realm past world)
    (unknown : login config realm past = none) : Shared config realm past world where
  once := (List.length_filter_le _ _).trans (flight.before unknown).2.2.1
  same := by
    intro index call found own _ finished
    rw [(flight.before unknown).2.1 index call found own] at finished
    cases finished

/-- When the first refresh ends, the group shares it if the call that made it has its outcome. -/
theorem Flight.lands_iff (flight : Flight config realm past world)
    (stepped : Stepped config world action after)
    (unknown : login config realm past = none) {outcome : Except String (Option CachedToken)}
    (ends : concluded config realm ⟨world, action, after⟩ = some outcome)
    (found : world.calls[index]? = some call) (own : call.realm = realm)
    (refreshing : call.stage = .refreshing) (there : after.calls[index]? = some new)
    (own' : new.realm = realm) (finished : new.stage.ended = true) :
    Shared config realm (⟨world, action, after⟩ :: past) after ↔
      Login.stage ⟨outcome, world.calls.length⟩ = some new.stage := by
  obtain ⟨stale, going, few, -⟩ := flight.before unknown
  have landed : login config realm (⟨world, action, after⟩ :: past) =
      some ⟨outcome, world.calls.length⟩ := by
    rw [login_fresh unknown, ends]
    rfl
  constructor
  · intro shared
    have inside : inGroup config realm (⟨world, action, after⟩ :: past) index = true := by
      simp [inGroup, landed, (List.getElem?_eq_some_iff.mp found).1]
    obtain ⟨first, known, same⟩ := shared.same index new there own' inside finished
    rw [landed] at known
    cases known
    exact same
  · intro same
    have quiet : started realm ⟨world, action, after⟩ = none := by
      refine Option.eq_none_iff_forall_ne_some.mpr fun opener starts => ?_
      obtain ⟨_, -, found', own', -, clear, -⟩ := stepped.started starts
      exact Mutex.outside clear found (by simp [TokenCall.refreshing, refreshing]) own
    refine ⟨?_, fun other call' found' own'' _ finished' => ⟨_, landed, ?_⟩⟩
    · rw [starters, List.filterMap_cons_none quiet]
      exact (List.length_filter_le _ _).trans few
    · rcases stepped.ending found' finished' with
        before | ⟨cached, fresh, -⟩ | ⟨_, old, -, at_, own₀, busy⟩
      · rw [going other call' before own''] at finished'
        cases finished'
      · rw [own''] at fresh
        exact absurd fresh (stale cached)
      · obtain rfl := flight.exclusive other index old call at_ found
          (by simp [TokenCall.refreshing, busy]) (by simp [TokenCall.refreshing, refreshing])
          ((own₀.trans own'').trans own.symm)
        obtain rfl := Option.some.inj (there.symm.trans found')
        exact same

/-- When the first refresh ends, the call that made it gets its outcome unless the token is not
usable. -/
theorem Flight.lands_shared (flight : Flight config realm past world)
    (stepped : Stepped config world action after)
    (unknown : login config realm past = none) {outcome : Except String (Option CachedToken)}
    (ends : concluded config realm ⟨world, action, after⟩ = some outcome) :
    Shared config realm (⟨world, action, after⟩ :: past) after ↔
      Lasting config realm past ⟨world, action, after⟩ := by
  obtain ⟨index, call, found, own, refreshing, how⟩ := stepped.concluded ends
  have bound := (List.getElem?_eq_some_iff.mp found).1
  rcases how with ⟨raw, rfl, rfl, rfl⟩ | ⟨error, rfl, rfl, rfl⟩
  · have asked : world.asks realm index = true := asks_iff.mpr ⟨call, found, own⟩
    obtain ⟨stage, there, finished, usable⟩ := store_call config found raw world.calls.length
    rw [flight.lands_iff stepped unknown ends found own refreshing there own finished]
    simp only [Lasting, unknown, Option.isNone_none, asked, forall_const]
    exact usable
  · rw [flight.lands_iff stepped unknown ends found own refreshing
      (List.getElem?_set_self bound) own rfl]
    exact iff_of_true rfl trivial

/-- Who is in the group after the first refresh. -/
theorem inGroup_landed (known : login config realm past = some first) :
    inGroup config realm past index = true ↔ index < first.group := by
  simp [inGroup, known]

/-- After the first refresh the group does not change. -/
theorem inGroup_kept (taken : Taken) (known : login config realm past = some first) :
    inGroup config realm (taken :: past) = inGroup config realm past := by
  funext index
  simp [inGroup, login_kept known, known]

/-- A group that shares a login after a step shared it before. -/
theorem Shared.earlier (shared : Shared config realm (⟨world, action, after⟩ :: past) after)
    (stepped : Stepped config world action after)
    (known : login config realm past = some first) : Shared config realm past world where
  once := by
    have later := shared.once
    rw [inGroup_kept _ known, starters, List.filterMap_cons] at later
    refine le_trans ?_ later
    split
    · exact le_rfl
    · exact (List.Sublist.filter _ (List.sublist_cons_self _ _)).length_le
  same := by
    intro index call found own inside finished
    rw [← inGroup_kept ⟨world, action, after⟩ known] at inside
    obtain ⟨same, landed, stage⟩ :=
      shared.same index call (stepped.ended found finished) own inside finished
    rw [login_kept known] at landed
    exact ⟨same, known.trans landed, stage⟩

/-- A call of the group that finds an entry after the first refresh finds the one it made. -/
theorem Flight.sharing (flight : Flight config realm past world)
    (known : login config realm past = some first) (fresh : world.Fresh config realm cached) :
    first.stage = some (.returned cached) ↔ revoked config realm past = false ∧
      first.fresh config.skewS world.now = true := by
  obtain ⟨-, -, entry⟩ := flight.after first known
  obtain ⟨outcome, group⟩ := first
  cases outcome with
  | error error => simp [Login.stage, Login.fresh]
  | ok made =>
    cases made with
    | none => simp [Login.stage, Login.fresh]
    | some made =>
      obtain ⟨-, gone, kept⟩ := entry made rfl
      simp only [Login.stage, Login.fresh, Option.map_some, Option.any_some, Option.some.injEq,
        TokenStage.returned.injEq, Bool.not_eq_true']
      constructor
      · rintro rfl
        exact ⟨Bool.eq_false_iff.mpr fun again => gone again fresh.1, fresh.2⟩
      · rintro ⟨still, unstale⟩
        exact Option.some.inj ((kept still unstale).1.symm.trans fresh.1)

/-- The call that made the first login has started a refresh, so no other call of a group that
shares it has. -/
theorem Shared.opener (shared : Shared config realm past world)
    (flight : Flight config realm past world) (known : login config realm past = some first)
    (member : index ∈ starters realm past) (early : index < first.group) :
    ∃ call, world.calls[index]? = some call ∧ call.stage.ended = true := by
  obtain ⟨-, ⟨opener, there, early', finished⟩, -⟩ := flight.after first known
  have single : ∀ {other : Nat}, other ∈ starters realm past → other < first.group →
      other ∈ (starters realm past).filter (inGroup config realm past) :=
    fun member early => List.mem_filter.mpr ⟨member, (inGroup_landed known).mpr early⟩
  obtain rfl := Slots.unique_of_length shared.once (single member early) (single there early')
  exact finished

/-- After the first refresh, a step after which the group shares it has lasted. -/
theorem Flight.lasts (flight : Flight config realm past world)
    (stepped : Stepped config world action after)
    (known : login config realm past = some first)
    (shared : Shared config realm (⟨world, action, after⟩ :: past) after) :
    Lasting config realm past ⟨world, action, after⟩ := by
  cases stepped with
  | @shares index call cached found locking clear fresh =>
    simp only [Lasting, known]
    intro early asked
    obtain ⟨_, found', rfl⟩ := asks_iff.mp asked
    obtain rfl := Option.some.inj (found.symm.trans found')
    have inside := (inGroup_landed known).mpr early
    rw [← inGroup_kept ⟨world, _, _⟩ known] at inside
    obtain ⟨same, landed, stage⟩ := shared.same index _
      (List.getElem?_set_self (List.getElem?_eq_some_iff.mp found).1) rfl inside rfl
    rw [login_kept known] at landed
    cases landed
    exact (flight.sharing known fresh).mp stage
  | @starts index call found locking clear stale =>
    simp only [Lasting, known]
    intro early asked
    obtain ⟨_, found', rfl⟩ := asks_iff.mp asked
    obtain rfl := Option.some.inj (found.symm.trans found')
    have there : (world.move index call .refreshing).calls[index]? =
        some { call with stage := .refreshing } :=
      List.getElem?_set_self (List.getElem?_eq_some_iff.mp found).1
    have stepped := Stepped.starts found locking clear stale
    have starts : started call.realm ⟨world, .resume index .locked,
        world.move index call .refreshing⟩ = some index := by
      simp [started, there, TokenCall.refreshing]
    obtain ⟨again, there', finished⟩ := shared.opener (flight.step stepped) (login_kept known)
      (mem_starters.mpr (.inl starts)) early
    rw [there] at there'
    cases there'
    cases finished
  | stores | loses => simp [Lasting, known]
  | _ => trivial

/-- After the first refresh, a step that lasts keeps the group sharing it. -/
theorem Flight.keeps_shared (flight : Flight config realm past world)
    (stepped : Stepped config world action after)
    (known : login config realm past = some first)
    (lasting : Lasting config realm past ⟨world, action, after⟩)
    (shared : Shared config realm past world) :
    Shared config realm (⟨world, action, after⟩ :: past) after := by
  refine ⟨?_, fun index call found own inside finished => ⟨first, login_kept known, ?_⟩⟩
  · rw [inGroup_kept _ known, starters, List.filterMap_cons]
    cases starts : started realm ⟨world, action, after⟩ with
    | none => exact shared.once
    | some index =>
      obtain ⟨call, rfl, found, own, -, -, stale, -⟩ := stepped.started starts
      by_cases early : index < first.group
      · exfalso
        simp only [Lasting, known] at lasting
        obtain ⟨still, kept⟩ := lasting early (asks_iff.mpr ⟨call, found, own⟩)
        obtain ⟨-, -, entry⟩ := flight.after first known
        cases made : first.outcome with
        | error error => simp [Login.fresh, made] at kept
        | ok stored =>
          cases stored with
          | none => simp [Login.fresh, made] at kept
          | some cached =>
            simp only [Login.fresh, made, Option.any_some, Bool.not_eq_true'] at kept
            exact stale cached ⟨((entry cached made).2.2 still kept).1, kept⟩
      · have outside : inGroup config realm past index = false := by
          simpa [inGroup, known] using early
        rw [List.filter_cons_of_neg (by simp [outside])]
        exact shared.once
  · rw [inGroup_kept _ known] at inside
    have early := (inGroup_landed known).mp inside
    subst own
    rcases stepped.ending found finished with
      before | ⟨cached, fresh, stage, last | ⟨rfl, asked⟩⟩ | ⟨-, old, -, there, own, busy⟩
    · obtain ⟨same, landed, stage⟩ := shared.same index call before rfl inside finished
      rw [known] at landed
      cases landed
      exact stage
    · have bound := (flight.after first known).group
      omega
    · simp only [Lasting, known] at lasting
      rw [stage, (flight.sharing known fresh).mpr (lasting early asked)]
    · obtain ⟨again, there', finished'⟩ := shared.opener flight known
        (flight.begun index old there own busy) early
      rw [there] at there'
      cases there'
      rw [busy] at finished'
      cases finished'

/-- **After the first refresh**, a step that goes on sharing is one that lasts. -/
theorem Flight.landed_shared (flight : Flight config realm past world)
    (stepped : Stepped config world action after)
    (known : login config realm past = some first) :
    Shared config realm (⟨world, action, after⟩ :: past) after ↔
      Lasting config realm past ⟨world, action, after⟩ ∧ Shared config realm past world := by
  constructor
  · intro shared
    exact ⟨flight.lasts stepped known shared, shared.earlier stepped known⟩
  · rintro ⟨lasting, shared⟩
    exact flight.keeps_shared stepped known lasting shared

/-- **What one step shares.** -/
theorem Flight.shared_step (flight : Flight config realm past world)
    (stepped : Stepped config world action after) :
    Shared config realm (⟨world, action, after⟩ :: past) after ↔
      Lasting config realm past ⟨world, action, after⟩ ∧ Shared config realm past world := by
  cases known : login config realm past with
  | some first => exact flight.landed_shared stepped known
  | none =>
    rw [and_iff_left (flight.shared known)]
    cases ends : concluded config realm ⟨world, action, after⟩ with
    | some outcome => exact flight.lands_shared stepped known ends
    | none =>
      have unknown : login config realm (⟨world, action, after⟩ :: past) = none := by
        rw [login_fresh known, ends]
        rfl
      refine iff_of_true ((flight.step stepped).shared unknown) ?_
      cases stepped with
      | stores found refreshing | loses found refreshing =>
        intro _ asked
        obtain ⟨_, found', own⟩ := asks_iff.mp asked
        rw [concluded_refreshed rfl found' own] at ends
        cases ends
      | shares | starts => simp [Lasting, known]
      | _ => trivial

/-- **Overlapping requests share one login** in exactly the runs in which the token of the first
refresh lasts for its group. -/
theorem single_flight_iff {start : TokenWorld} (cold : Cold config realm start)
    (history : History (TokenWorld.step config) (fun _ _ => True) start past world) :
    Shared config realm past world ↔ Throughout (Lasting config realm) past := by
  induction history with
  | refl => exact iff_of_true ((Flight.start cold).shared rfl) trivial
  | next earlier _ taken ih =>
    rw [(flight_history cold earlier).shared_step (stepped taken), ih]
    exact Iff.rfl

end

/-- Nobody has used a new cache. -/
theorem cold_new (config : TokenConfig) (realm : String) : Cold config realm {} := ⟨rfl, nofun⟩

/-- Three calls begin before the first refresh returns. -/
def crowd (answer : TokenAnswer) : List TokenAction :=
  [.get "bank", .get "bank", .resume 0 .locked, .get "bank", .resume 0 answer,
    .resume 2 .locked, .resume 1 .locked]

/-- Three calls share the login of the first. -/
theorem single_flight_iff_crowd : ∃ (past : List Taken) (world : TokenWorld),
    starters "bank" past = [0] ∧
    (Shared lasting "bank" past world ↔ Throughout (Lasting lasting "bank") past) ∧
    Throughout (Lasting lasting "bank") past := by
  have passed : (Transition.trace (Transition.guarded (step lasting) fun _ _ => True) [] {}
      (crowd (.refreshed "a"))).any (fun reached =>
        decide (starters "bank" reached.1 = [0] ∧
          Throughout (Lasting lasting "bank") reached.1)) = true := by
    decide +kernel
  obtain ⟨past, world, history, shown⟩ := Transition.traces passed
  obtain ⟨once, lasts⟩ := of_decide_eq_true shown
  exact ⟨past, world, once, single_flight_iff (cold_new lasting "bank") history, lasts⟩

/-- A `jwt_expiry` that raises, as it does where the payload of a token is a list. -/
def listed : TokenConfig where
  jwtExpiry := fun _ => .error (.builtin .attributeError)

/-- A group refreshes again after this answer to its first refresh. -/
def Repeats (config : TokenConfig) (answer : TokenAnswer) : Prop :=
  ∃ (past : List Taken) (world : TokenWorld),
    History (step config) (fun _ _ => True) {} past world ∧
    past.filterMap (fun taken => taken.action.answered?) = [.locked, answer, .locked] ∧
    (starters "bank" past).filter (inGroup config "bank" past) = [2, 0] ∧
    ¬Shared config "bank" past world

/-- A run in which two calls of a group refresh shows it. -/
theorem repeats_of_trace {config : TokenConfig} {answer : TokenAnswer}
    (passed : (Transition.trace (Transition.guarded (step config) fun _ _ => True) [] {}
      [.get "bank", .get "bank", .get "bank", .resume 0 .locked, .resume 0 answer,
        .resume 2 .locked]).any (fun reached =>
          decide (reached.1.filterMap (fun taken => taken.action.answered?) =
              [.locked, answer, .locked] ∧
            (starters "bank" reached.1).filter (inGroup config "bank" reached.1) = [2, 0])) =
              true) : Repeats config answer := by
  obtain ⟨past, world, history, shown⟩ := Transition.traces passed
  obtain ⟨answers, twice⟩ := of_decide_eq_true shown
  refine ⟨past, world, history, answers, twice, fun shared => ?_⟩
  have once := shared.once
  rw [twice] at once
  simp at once

/-- **A login that fails is tried again by the next call of the group**, and so is one whose token
is lost because `jwt_expiry` raises. -/
theorem login_repeated :
    Repeats lasting (.refreshRaised "wrong password") ∧ Repeats listed (.refreshed "a.W10.c") :=
  ⟨repeats_of_trace (by decide +kernel), repeats_of_trace (by decide +kernel)⟩

end TokenWorld

end DeviceOrchestrator
