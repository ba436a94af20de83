import Mathlib.Logic.Function.Basic

/-!
# Custody of keyed work

Work items are submitted under keys. A key's tokens wait in a store; whoever takes a token holds
the item its key then names, and ends the item or hands a token of its key back. A key can be
given to a new item, which is what makes custody fragile: a token names a key, not an item.
`Sound` says that nothing is lost and nothing is held twice: every live item has one holder or
is the item its key names with one token waiting, and no item has two holders. Every step keeps
it, because a key is given away only while none of its tokens wait (`Step.submit`,
`Step.replace`) and a token is handed back only by the item its key still names
(`Step.handBack`).
-/
namespace Custody

universe u v

/-- Where the items are. -/
@[ext]
structure State (Key : Type u) (Item : Type v) where
  /-- Tokens of a key that wait to be taken. -/
  tokens : Key → Nat
  /-- The item a key names. -/
  current : Key → Option Item
  /-- Parties that hold an item. -/
  holders : Item → Nat
  /-- The key of an item that was accepted and has not ended. -/
  live : Item → Option Key

variable {Key : Type u} {Item : Type v} [DecidableEq Key] [DecidableEq Item]

namespace State

/-- A new item under a key, with one token waiting. -/
def submit (state : State Key Item) (key : Key) (item : Item) : State Key Item :=
  { state with
    tokens := Function.update state.tokens key (state.tokens key + 1)
    current := Function.update state.current key (some item)
    live := Function.update state.live item (some key) }

/-- A key given to an item that is not accepted. -/
def replace (state : State Key Item) (key : Key) (item : Item) : State Key Item :=
  { state with current := Function.update state.current key (some item) }

/-- One token of a key taken by a party that now holds the item. -/
def take (state : State Key Item) (key : Key) (item : Item) : State Key Item :=
  { state with
    tokens := Function.update state.tokens key (state.tokens key - 1)
    holders := Function.update state.holders item (state.holders item + 1) }

/-- A held item ended by its holder. -/
def finish (state : State Key Item) (item : Item) : State Key Item :=
  { state with
    holders := Function.update state.holders item (state.holders item - 1)
    live := Function.update state.live item none }

/-- A held item let go, with one token of its key waiting again. -/
def handBack (state : State Key Item) (key : Key) (item : Item) : State Key Item :=
  { state with
    holders := Function.update state.holders item (state.holders item - 1)
    tokens := Function.update state.tokens key (state.tokens key + 1) }

/-- Every live item is carried exactly once and no item has two holders. -/
structure Sound (state : State Key Item) : Prop where
  /-- A key has at most one waiting token. -/
  single : ∀ key, state.tokens key ≤ 1
  /-- A waiting token names a live item that nobody holds. -/
  named : ∀ key, state.tokens key ≠ 0 →
    ∃ item, state.current key = some item ∧ state.live item = some key ∧ state.holders item = 0
  /-- An item has at most one holder. -/
  exclusive : ∀ item, state.holders item ≤ 1
  /-- A held item is live. -/
  held : ∀ item, state.holders item ≠ 0 → ∃ key, state.live item = some key
  /-- A live item is held, or its key names it and has a token waiting. -/
  carried : ∀ item key, state.live item = some key →
    state.holders item = 1 ∨ (state.current key = some item ∧ state.tokens key = 1)

end State

/-- The steps that keep custody. -/
inductive Step : State Key Item → State Key Item → Prop
  /-- A key without waiting tokens is given to a fresh item. -/
  | submit {state : State Key Item} {key : Key} {item : Item} : state.tokens key = 0 →
      state.live item = none → state.holders item = 0 → Step state (state.submit key item)
  /-- A key without waiting tokens is given to an item that is refused. -/
  | replace {state : State Key Item} {key : Key} {item : Item} : state.tokens key = 0 →
      Step state (state.replace key item)
  /-- A waiting token is taken. -/
  | take {state : State Key Item} {key : Key} {item : Item} : state.tokens key ≠ 0 →
      state.current key = some item → Step state (state.take key item)
  /-- A held item ends. -/
  | finish {state : State Key Item} {item : Item} : state.holders item ≠ 0 →
      Step state (state.finish item)
  /-- A held item goes back to the store under the key that still names it. -/
  | handBack {state : State Key Item} {key : Key} {item : Item} : state.holders item ≠ 0 →
      state.live item = some key → state.current key = some item →
      Step state (state.handBack key item)

/-- Any number of custody steps. -/
inductive Steps : State Key Item → State Key Item → Prop
  /-- No step. -/
  | refl {state : State Key Item} : Steps state state
  /-- One more step. -/
  | next {state middle after : State Key Item} : Steps state middle → Step middle after →
      Steps state after

/-- One step is a number of steps. -/
theorem Step.steps {state after : State Key Item} (step : Step state after) :
    Steps state after := .next .refl step

/-- Steps in a row are steps. -/
theorem Steps.trans {state middle after : State Key Item} (first : Steps state middle)
    (second : Steps middle after) : Steps state after := by
  induction second with
  | refl => exact first
  | next _ last ih => exact .next ih last

/-- Equal states are no step apart. -/
theorem Steps.of_eq {state after : State Key Item} (same : after = state) :
    Steps state after := same ▸ .refl

namespace State.Sound

variable {state : State Key Item} {key : Key} {item : Item}

omit [DecidableEq Key] [DecidableEq Item] in
/-- The item that a waiting token names is live and unheld. -/
theorem of_named (sound : state.Sound) (waiting : state.tokens key ≠ 0)
    (names : state.current key = some item) :
    state.live item = some key ∧ state.holders item = 0 := by
  obtain ⟨found, same, live, free⟩ := sound.named key waiting
  obtain rfl := Option.some.inj (names.symm.trans same)
  exact ⟨live, free⟩

omit [DecidableEq Key] [DecidableEq Item] in
/-- A key whose item is held has no waiting token. -/
theorem no_token (sound : state.Sound) (names : state.current key = some item)
    (held : state.holders item ≠ 0) : state.tokens key = 0 := by
  by_contra waiting
  exact held (sound.of_named waiting names).2

/-- Submitting a fresh item keeps custody. -/
theorem submit (sound : state.Sound) (empty : state.tokens key = 0)
    (fresh : state.live item = none) (free : state.holders item = 0) :
    (state.submit key item).Sound where
  single other := by
    by_cases same : other = key
    · subst same
      simp [State.submit, empty]
    · simpa [State.submit, same] using sound.single other
  named other waiting := by
    by_cases same : other = key
    · subst same
      exact ⟨item, by simp [State.submit], by simp [State.submit], free⟩
    · simp only [State.submit, Function.update_of_ne same] at waiting ⊢
      obtain ⟨found, names, live, unheld⟩ := sound.named other waiting
      have different : found ≠ item := by
        rintro rfl
        rw [fresh] at live
        cases live
      exact ⟨found, names, by rw [Function.update_of_ne different]; exact live, unheld⟩
  exclusive := sound.exclusive
  held other holding := by
    obtain ⟨found, live⟩ := sound.held other holding
    by_cases same : other = item
    · subst same
      exact ⟨key, by simp [State.submit]⟩
    · exact ⟨found, by simpa [State.submit, same] using live⟩
  carried other found live := by
    by_cases same : other = item
    · subst same
      simp only [State.submit, Function.update_self, Option.some.injEq] at live
      subst live
      exact .inr ⟨by simp [State.submit], by simp [State.submit, empty]⟩
    · simp only [State.submit, Function.update_of_ne same] at live
      rcases sound.carried other found live with holding | ⟨names, waiting⟩
      · exact .inl holding
      · have different : found ≠ key := by
          rintro rfl
          omega
        exact .inr ⟨by simpa [State.submit, different] using names,
          by simpa [State.submit, different] using waiting⟩

omit [DecidableEq Item] in
/-- Giving a key without tokens to a refused item keeps custody. -/
theorem replace (sound : state.Sound) (empty : state.tokens key = 0) :
    (state.replace key item).Sound where
  single := sound.single
  named other waiting := by
    have different : other ≠ key := by
      rintro rfl
      exact waiting empty
    obtain ⟨found, names, rest⟩ := sound.named other waiting
    exact ⟨found, by simpa [State.replace, different] using names, rest⟩
  exclusive := sound.exclusive
  held := sound.held
  carried other found live := by
    rcases sound.carried other found live with holding | ⟨names, waiting⟩
    · exact .inl holding
    · have different : found ≠ key := by
        rintro rfl
        omega
      exact .inr ⟨by simpa [State.replace, different] using names, waiting⟩

/-- Taking a token keeps custody: the token becomes the only holder. -/
theorem take (sound : state.Sound) (waiting : state.tokens key ≠ 0)
    (names : state.current key = some item) : (state.take key item).Sound := by
  obtain ⟨live, free⟩ := sound.of_named waiting names
  have one : state.tokens key = 1 := by have := sound.single key; omega
  constructor
  · intro other
    by_cases same : other = key
    · subst same
      simp [State.take, one]
    · simpa [State.take, same] using sound.single other
  · intro other left
    have different : other ≠ key := by
      rintro rfl
      simp [State.take, one] at left
    simp only [State.take, Function.update_of_ne different] at left ⊢
    obtain ⟨found, same, alive, unheld⟩ := sound.named other left
    have apart : found ≠ item := by
      rintro rfl
      exact different (Option.some.inj (alive.symm.trans live))
    exact ⟨found, same, alive, by rw [Function.update_of_ne apart]; exact unheld⟩
  · intro other
    by_cases same : other = item
    · subst same
      simp [State.take, free]
    · simpa [State.take, same] using sound.exclusive other
  · intro other holding
    by_cases same : other = item
    · subst same
      exact ⟨key, live⟩
    · exact sound.held other (by simpa [State.take, same] using holding)
  · intro other found alive
    by_cases same : other = item
    · subst same
      exact .inl (by simp [State.take, free])
    · rcases sound.carried other found alive with holding | ⟨current, token⟩
      · exact .inl (by simpa [State.take, same] using holding)
      · have different : found ≠ key := by
          rintro rfl
          exact same (Option.some.inj (current.symm.trans names))
        exact .inr ⟨current, by simpa [State.take, different] using token⟩

omit [DecidableEq Key] in
/-- Ending a held item keeps custody. -/
theorem finish (sound : state.Sound) (holding : state.holders item ≠ 0) :
    (state.finish item).Sound := by
  have one : state.holders item = 1 := by have := sound.exclusive item; omega
  constructor
  · exact sound.single
  · intro other waiting
    obtain ⟨found, names, live, unheld⟩ := sound.named other waiting
    have apart : found ≠ item := by
      rintro rfl
      omega
    exact ⟨found, names, by simpa [State.finish, apart] using live,
      by simpa [State.finish, apart] using unheld⟩
  · intro other
    by_cases same : other = item
    · subst same
      simp [State.finish, one]
    · simpa [State.finish, same] using sound.exclusive other
  · intro other left
    have apart : other ≠ item := by
      rintro rfl
      simp [State.finish, one] at left
    obtain ⟨key, live⟩ := sound.held other (by simpa [State.finish, apart] using left)
    exact ⟨key, by simpa [State.finish, apart] using live⟩
  · intro other found live
    have apart : other ≠ item := by
      rintro rfl
      simp [State.finish] at live
    have before := sound.carried other found (by simpa [State.finish, apart] using live)
    simpa [State.finish, apart] using before

/-- Handing a token back to the key that names the item keeps custody. -/
theorem handBack (sound : state.Sound) (holding : state.holders item ≠ 0)
    (live : state.live item = some key) (names : state.current key = some item) :
    (state.handBack key item).Sound := by
  have one : state.holders item = 1 := by have := sound.exclusive item; omega
  have empty := sound.no_token names holding
  constructor
  · intro other
    by_cases same : other = key
    · subst same
      simp [State.handBack, empty]
    · simpa [State.handBack, same] using sound.single other
  · intro other waiting
    by_cases same : other = key
    · subst same
      exact ⟨item, names, live, by simp [State.handBack, one]⟩
    · obtain ⟨found, current, alive, unheld⟩ :=
        sound.named other (by simpa [State.handBack, same] using waiting)
      have apart : found ≠ item := by
        rintro rfl
        omega
      exact ⟨found, current, alive, by simpa [State.handBack, apart] using unheld⟩
  · intro other
    by_cases same : other = item
    · subst same
      simp [State.handBack, one]
    · simpa [State.handBack, same] using sound.exclusive other
  · intro other left
    have apart : other ≠ item := by
      rintro rfl
      simp [State.handBack, one] at left
    exact sound.held other (by simpa [State.handBack, apart] using left)
  · intro other found alive
    by_cases same : other = item
    · subst same
      obtain rfl := Option.some.inj (live.symm.trans alive)
      exact .inr ⟨names, by simp [State.handBack, empty]⟩
    · rcases sound.carried other found alive with held | ⟨current, token⟩
      · exact .inl (by simpa [State.handBack, same] using held)
      · have different : found ≠ key := by
          rintro rfl
          exact same (Option.some.inj (current.symm.trans names))
        exact .inr ⟨current, by simpa [State.handBack, different] using token⟩

/-- Every custody step keeps custody. -/
theorem step {after : State Key Item} (sound : state.Sound) (taken : Step state after) :
    after.Sound := by
  cases taken with
  | submit empty fresh free => exact sound.submit empty fresh free
  | replace empty => exact sound.replace empty
  | take waiting names => exact sound.take waiting names
  | finish holding => exact sound.finish holding
  | handBack holding live names => exact sound.handBack holding live names

/-- Any number of custody steps keep custody. -/
theorem steps {after : State Key Item} (sound : state.Sound) (taken : Steps state after) :
    after.Sound := by
  induction taken with
  | refl => exact sound
  | next _ last ih => exact ih.step last

omit [DecidableEq Key] [DecidableEq Item] in
/-- Where no token waits and nobody holds anything, no item is live. -/
theorem quiet (sound : state.Sound) (empty : ∀ key, state.tokens key = 0)
    (free : ∀ item, state.holders item = 0) (item : Item) : state.live item = none := by
  cases live : state.live item with
  | none => rfl
  | some key =>
    rcases sound.carried item key live with held | ⟨-, token⟩
    · rw [free item] at held
      cases held
    · rw [empty key] at token
      cases token

end State.Sound

end Custody
