import DeviceOrchestrator.Targets.Slot
import DeviceOrchestrator.Verif.Effects

/-!
# Whose identity a browser session carries

An `auth` step attaches a header to the browser session, and nothing takes it away: the session is
kept between tasks, and only a new session has no headers. So the header in force is the last one
that was attached since the session was opened, by whichever task.
-/
namespace DeviceOrchestrator

open Transition (History)

variable {World Value : Type}

namespace Live

variable {may : PyText → Prop} {setting : TaskSetting World}

/-- The headers stay, or a header that may be attached takes the place of the last one. -/
def Attaches (may : PyText → Prop) (scene after : Scene World) : Prop :=
  Overwritten "Authorization" may scene.headers after.headers

/-- Most of the code attaches nothing. -/
theorem passive_attaches (may : PyText → Prop) : @Passive World (Attaches may) where
  quiet same _ := .inl same
  trans := Overwritten.trans

/-- A token is stored without attaching it. -/
theorem storeToken_attaches (realm : String) (cached : Auth.CachedToken) :
    (storeToken realm cached : Act World Unit).Moves (Attaches may) :=
  fun _ => .inl rfl

/-- `set_headers` attaches what it is given. -/
theorem keepHeaders_attaches {value : PyText} (allowed : may value) (applied : Bool) :
    (keepHeaders applied [("Authorization", value)] : Act World Unit).Moves (Attaches may) := by
  intro scene
  cases applied with
  | false =>
    left
    simp [keepHeaders]
  | true =>
    right
    refine ⟨value, allowed, ?_⟩
    funext name
    by_cases own : name = "Authorization"
    · simp [keepHeaders, own]
    · have other : (name == "Authorization") = false := by simpa using own
      simp [keepHeaders, List.lookup_cons, own, other]

end Live

namespace Live.Web

variable {may : PyText → Prop} {setting : TaskSetting World}
variable {credentials : Option Auth.CredentialStore} {step : Fields}

/-- A value that an `auth` step attaches: the header of the credential it names, or a token. -/
def Attached (setting : TaskSetting World) (credentials : Option Auth.CredentialStore)
    (step : Fields) (value : PyText) : Prop :=
  ∃ credential, resolve setting credentials step = .ok credential ∧
    ((mode setting step = "basic" ∧ credential.header = .ok ("Authorization", value)) ∨
      (mode setting step = "bearer" ∧ ∃ token, value = PyText.ofString "Bearer " ++ token))

/-- The name of the header is always the same. -/
theorem header_name {credential : Auth.Credential} {name : String} {value : PyText}
    (made : credential.header = .ok (name, value)) : name = "Authorization" := by
  unfold Auth.Credential.header at made
  dsimp only at made
  split at made
  · split at made
    · split at made
      · cases made
      · cases made
        rfl
    · cases made
  · split at made
    · split at made
      · cases made
        rfl
      · cases made
    · cases made

/-- **What `_auth` attaches.** -/
theorem auth_attaches : (auth setting credentials step).Moves
    (Attaches (Attached setting credentials step)) := by
  have passive := @passive_attaches World (Attached setting credentials step)
  unfold auth
  refine .ite (fun _ => passive.cookie _) fun _ => ?_
  refine passive.raising_bind fun credential found => ?_
  refine .ite (fun isBasic => ?_) fun _ => .ite (fun isBearer => ?_) fun _ => passive.throw _
  · refine passive.basic fun name value made => ?_
    obtain rfl := header_name made
    exact keepHeaders_attaches ⟨credential, found, .inl ⟨isBasic, made⟩⟩
  · refine passive.bearer (fun _ _ _ => storeToken_attaches _ _) fun token => ?_
    exact keepHeaders_attaches ⟨credential, found, .inr ⟨isBearer, token, rfl⟩⟩

/-- What the `try` of a step attaches. -/
theorem attempt_attaches {op : Json}
    (allowed : op.isText "auth" = true → ∀ value, Attached setting credentials step value →
      may value) (index : Nat) (budgetMs : Int) :
    (attempt setting credentials step op index budgetMs).Moves (Attaches may) := by
  have passive := @passive_attaches World may
  unfold attempt
  dsimp only
  refine .ite (fun isAuth => ?_) fun _ => .ite (fun _ => ?_) fun _ => .ite (fun _ => ?_) fun _ =>
    .ite (fun _ => ?_) fun _ => .ite (fun _ => ?_) fun _ => .ite (fun _ => ?_) fun _ =>
    .ite (fun _ => ?_) fun _ => passive.pure _
  · refine passive.bind (fun scene => ?_) fun found => passive.pure _
    exact (auth_attaches scene).mono (allowed isAuth)
  · refine passive.bind (passive.captureSession fun _ _ _ => ?_) fun _ => passive.pure _
    exact storeToken_attaches _ _
  · refine passive.bind (passive.raising _) fun url => ?_
    exact passive.bind (passive.call _) fun _ => passive.pure _
  · refine passive.bind (passive.raising _) fun selector => ?_
    exact passive.bind (passive.call _) fun _ => passive.pure _
  · refine passive.bind (passive.raising _) fun selector => ?_
    exact passive.bind (passive.call _) fun _ => passive.pure _
  · refine passive.bind (passive.raising _) fun selector => ?_
    exact passive.bind (passive.call _) fun text => passive.pure _
  · exact passive.bind (passive.wait step) fun _ => passive.pure _

/-- An `auth` step of a specification that attaches a value. -/
def Attaching (setting : TaskSetting World) (credentials : Option Auth.CredentialStore)
    (step : Json) (value : PyText) : Prop :=
  ∃ fields, step = .obj fields ∧ (Fields.get fields "op").isText "auth" = true ∧
    Attached setting credentials fields value

/-- **What a round of the loop attaches.** -/
theorem turn_attaches (step : Json) (total index : Nat) (captured : Fields) :
    (turn setting credentials total index captured step).Moves
      (Attaches (Attaching setting credentials step)) := by
  have passive := @passive_attaches World (Attaching setting credentials step)
  refine passive.bind (passive.read _) fun remaining => ?_
  refine .ite (fun _ => passive.throw _) fun _ => ?_
  refine passive.raising_bind fun fields found => ?_
  obtain rfl : step = .obj fields := by
    cases step with
    | obj present =>
      cases found
      rfl
    | _ => cases found
  refine passive.bind (passive.raising _) fun budgetMs => ?_
  refine passive.bind (passive.progress _ _ _) fun _ => ?_
  refine passive.bind ?_ fun found => passive.pure _
  have tried : (attempt setting credentials fields (Fields.get fields "op") index
      budgetMs).Moves (Attaches (Attaching setting credentials (.obj fields))) :=
    attempt_attaches (fun isAuth value attached => ⟨fields, rfl, isAuth, attached⟩) _ _
  refine passive.bind (Procedure.Moves.tryCatch tried) fun found => ?_
  split
  · exact passive.pure _
  · exact passive.throw _

end Live.Web

namespace Slot

/-- A step as it was taken on a slot. -/
abbrev Taken (World : Type) := Transition.Taken (Slot World) (SlotAction World)

variable {setting : TaskSetting World} {credentials : Option Auth.CredentialStore}
variable {past : List (Taken World)} {slot after : Slot World} {action : SlotAction World}
variable {value : PyText}

/-- `ensure` opened the session when a task acquired it. -/
def opened (setting : TaskSetting World) (scene : Scene World) : Bool :=
  match ((Live.acquiring setting "browser").start scene).1 with
  | .ok answer => answer.2
  | .error _ => false

/-- A task begins on a session that was just opened. -/
def Opens (setting : TaskSetting World) (taken : Taken World) : Prop :=
  ∃ context steps, taken.action = .begin context steps ∧
    opened (own setting context) taken.before.scene = true

/-- The value was attached to the session since it was opened, and is in force ever since. -/
inductive Since (setting : TaskSetting World) (credentials : Option Auth.CredentialStore)
    (value : PyText) : List (Taken World) → Prop
  /-- It was attached in the last step. -/
  | attached {taken : Taken World} {earlier : List (Taken World)} {step : Json}
      {rest : List Json} : taken.action = .turn → taken.before.rest = step :: rest →
      Live.Web.Attaching setting credentials step value →
      taken.after.scene.headers "Authorization" = some value →
      Since setting credentials value (taken :: earlier)
  /-- It was attached before, and still is. -/
  | kept {taken : Taken World} {earlier : List (Taken World)} :
      Since setting credentials value earlier → ¬Opens setting taken →
      taken.after.scene.headers "Authorization" = some value →
      Since setting credentials value (taken :: earlier)

/-- A task that acquires the session finds the headers of it, or none if it was just opened. -/
theorem acquire_headers (setting : TaskSetting World) (scene : Scene World) :
    ((Live.acquire setting "browser").start scene).2.headers =
      if opened setting scene then fun _ => none else scene.headers := by
  have passive := @Live.passive_attaches World fun _ => False
  have acquiring : (Live.acquiring setting "browser").Moves (Live.Attaches fun _ => False) :=
    passive.bind (passive.progress _ _ _) fun _ => passive.call _
  have before := (acquiring scene).kept
  unfold opened Live.acquire
  rw [Procedure.start_bind]
  generalize (Live.acquiring setting "browser").start scene = ended at before ⊢
  obtain ⟨answer, between⟩ := ended
  cases answer with
  | error failure => exact before
  | ok found =>
    have ready : (do
        Live.progress setting "session" "session ready"
          [("session_id", .str found.1.id), ("generation", .int found.1.generation)]
        pure found.1 : Act World SessionHandle).Moves (Live.Attaches fun _ => False) :=
      passive.bind (passive.progress _ _ _) fun _ => passive.pure _
    dsimp only at before ⊢
    rw [Procedure.start_bind]
    refine (ready _).kept.trans ?_
    funext name
    simp only [before]
    split <;> rfl

/-- A task begins with the headers of the session. -/
theorem begin_headers (slot : Slot World) (context : TaskContext) (steps : List Json) :
    (slot.begin setting context steps).scene.headers =
      if opened (own setting context) slot.scene then fun _ => none else slot.scene.headers := by
  have acquired := acquire_headers (own setting context) slot.scene
  unfold begin
  generalize (Live.acquire (own setting context) "browser").start slot.scene = ended at acquired ⊢
  obtain ⟨answer, scene⟩ := ended
  cases answer <;> exact acquired

/-- A round of the loop attaches what its step says. -/
theorem turn_headers (slot : Slot World) (step : Json) (rest : List Json) :
    Live.Attaches (Live.Web.Attaching setting credentials step) slot.scene
      (slot.turn setting credentials step rest).scene := by
  have within := @Live.Web.turn_attaches _ (own setting slot.context) credentials step slot.total
    slot.number slot.captured slot.scene
  unfold turn
  generalize (Live.Web.turn (own setting slot.context) credentials slot.total slot.number
    slot.captured step).start slot.scene = ended at within ⊢
  obtain ⟨answer, scene⟩ := ended
  cases answer <;> exact within

/-- **What one step does to the header in force.** -/
theorem since_step (since : ∀ value, slot.scene.headers "Authorization" = some value →
      Since setting credentials value past)
    (taken : step setting credentials slot action = some after) :
    ∀ value, after.scene.headers "Authorization" = some value →
      Since setting credentials value (⟨slot, action, after⟩ :: past) := by
  intro value inForce
  cases action with
  | begin context steps =>
    simp only [step] at taken
    split at taken
    · obtain rfl := Option.some.inj taken
      have headers := @begin_headers World setting slot context steps
      cases new : opened (own setting context) slot.scene with
      | true =>
        rw [headers, new] at inForce
        cases inForce
      | false =>
        have before : slot.scene.headers "Authorization" = some value := by
          rw [headers, new] at inForce
          exact inForce
        refine .kept (since value before) ?_ inForce
        rintro ⟨context', steps', same, opens⟩
        cases same
        rw [opens] at new
        cases new
    · cases taken
  | turn =>
    cases left : slot.rest with
    | nil => simp [step, left] at taken
    | cons first rest =>
      simp only [step, left] at taken
      obtain rfl := Option.some.inj taken
      obtain kept | ⟨other, attaching, attached⟩ :=
        @turn_headers World setting credentials slot first rest
      · rw [kept] at inForce
        refine .kept (since value inForce) (fun opens => ?_) (by rw [kept]; exact inForce)
        obtain ⟨context, steps, other, -⟩ := opens
        cases other
      · obtain rfl : other = value := by simpa [attached] using inForce
        exact .attached rfl left attaching inForce
  | elsewhere world tokens jar =>
    obtain rfl := Option.some.inj taken
    refine .kept (since value inForce) (fun opens => ?_) inForce
    obtain ⟨context, steps, other, -⟩ := opens
    cases other

/-- **The identity of a session.** Whatever tasks run on a slot, the header in force was attached by
an `auth` step in `basic` or `bearer` mode, of this task or of an earlier one, since the session was
opened, and a session that was just opened has none. -/
theorem identity_since {start : Slot World}
    (anonymous : start.scene.headers "Authorization" = none)
    (history : History (step setting credentials) (fun _ _ => True) start past slot) :
    (∀ value, slot.scene.headers "Authorization" = some value →
      Since setting credentials value past) ∧
    ∀ taken ∈ past, Opens setting taken → taken.after.scene.headers "Authorization" = none := by
  constructor
  · refine history.invariant (fun past slot => ∀ value,
      slot.scene.headers "Authorization" = some value → Since setting credentials value past) ?_ ?_
    · intro value inForce
      rw [anonymous] at inForce
      cases inForce
    · intro past slot action after _ since _ taken
      exact since_step since taken
  · intro taken member ⟨context, steps, begins, opens⟩
    obtain ⟨_, -, -, stepped⟩ := history.each taken member
    rw [begins] at stepped
    simp only [step] at stepped
    split at stepped
    · have same := Option.some.inj stepped
      rw [← same, begin_headers, opens]
      rfl
    · cases stepped

/-- A browser whose session was opened before. -/
def browser : Outside Unit :=
  { Live.obliging with ensure := fun _ => (.ok (⟨"sess-1", 1⟩, false), ()) }

/-- Tasks on that browser. -/
def browsing : TaskSetting Unit where
  python := default
  outside := browser
  context := ⟨"task-0", "cid-0", none, 1⟩
  jwtExpiry := fun _ => .error (.auth "not a JWT")

/-- A store with one credential. -/
def adminStore : Auth.CredentialStore where
  environ := fun _ => .ok none
  fileCreds := fun ref =>
    if ref = "admin" then
      some { ref := "admin", kind := "basic", username := some (PyText.ofString "root")
             secret := some (PyText.ofString "s3cret") }
    else none

/-- The slot before its first task. -/
def idleSlot : Slot Unit where
  scene := { world := () }
  context := ⟨"task-0", "cid-0", none, 1⟩

/-- A task attaches an identity, and the next one has no `auth` step. -/
def twoTasks : List (SlotAction Unit) :=
  [.begin ⟨"task-1", "cid-1", none, 1⟩ [.obj [("op", .str "auth"), ("mode", .str "basic"),
      ("credential", .str "admin")]],
    .turn,
    .begin ⟨"task-2", "cid-2", none, 1⟩ [.obj [("op", .str "goto"), ("url", .str "/admin")]]]

/-- The task that an action begins. -/
def begun : SlotAction Unit → Option String
  | .begin context _ => some context.taskId
  | .turn | .elsewhere _ _ _ => none

/-- The header of the credential. -/
def adminHeader : PyText := PyText.ofString "Basic cm9vdDpzM2NyZXQ="

/-- **A task runs with another task's identity**: the second task has taken no step, and the header
of the first one is in force. -/
theorem identity_left_behind : ∃ (taken : Taken Unit) (past : List (Taken Unit)) (slot : Slot Unit),
    History (step browsing (some adminStore)) (fun _ _ => True) idleSlot (taken :: past) slot ∧
    (∃ context steps, taken.action = .begin context steps ∧ context.taskId = "task-2") ∧
    slot.rest.length = 1 ∧ slot.scene.headers "Authorization" = some adminHeader := by
  have passed : (Transition.trace (Transition.guarded (step browsing (some adminStore))
      (fun _ _ => True)) [] idleSlot twoTasks).any (fun reached =>
        decide (reached.1.head?.bind (begun ·.action) = some "task-2" ∧
          reached.2.rest.length = 1 ∧
          reached.2.scene.headers "Authorization" = some adminHeader)) = true := by
    decide +kernel
  obtain ⟨steps, slot, history, shown⟩ := Transition.traces passed
  obtain ⟨second, left, inForce⟩ := of_decide_eq_true shown
  cases steps with
  | nil => cases second
  | cons taken past =>
    obtain ⟨before, action, after⟩ := taken
    cases action with
    | begin context steps =>
      exact ⟨_, past, slot, history, ⟨context, steps, rfl, Option.some.inj second⟩, left, inForce⟩
    | turn => cases second
    | elsewhere world tokens jar => cases second

/-- The identity of the session after the first of these tasks. -/
theorem identity_since_first : ∃ (past : List (Taken Unit)) (slot : Slot Unit),
    slot.scene.headers "Authorization" = some adminHeader ∧
    Since browsing (some adminStore) adminHeader past := by
  have passed : (Transition.trace (Transition.guarded (step browsing (some adminStore))
      (fun _ _ => True)) [] idleSlot (twoTasks.take 2)).any (fun reached =>
        reached.2.scene.headers "Authorization" = some adminHeader) = true := by
    decide +kernel
  obtain ⟨past, slot, history, shown⟩ := Transition.traces passed
  have inForce := of_decide_eq_true shown
  exact ⟨past, slot, inForce, (identity_since rfl history).1 _ inForce⟩

end Slot

end DeviceOrchestrator
