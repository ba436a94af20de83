import DeviceOrchestrator.Verif.Realms

/-!
# Whether a captured login is what later tasks use

`capture_session` hands its token to `TokenCache.get` as a refresh, so the cache takes it only if
it found no fresh entry. What the step reports is the expiry of the token it was given, whichever
token the cache then holds.
-/
namespace DeviceOrchestrator

open Transition (Run)

variable {World : Type}

namespace Live

variable {setting : TaskSetting World} {realm : String} {scene : Scene World} {refresh : PyText}

/-- The expiry that an entry made for a token has: `None` for a token that is no JWT. -/
def expiryOf (setting : TaskSetting World) (raw : PyText) : Except Raised (Option Float) :=
  match setting.jwtExpiry raw with
  | .error (.auth _) => .ok none
  | result => result

/-- What `expiry` answers. -/
theorem start_expiry (raw : PyText) :
    (expiry setting raw).start scene = ((expiryOf setting raw).mapError StepError.known, scene) := by
  unfold expiry expiryOf
  cases setting.jwtExpiry raw with
  | ok expiresAt => rfl
  | error raised => cases raised <;> rfl

/-- Code that stores nothing leaves the tokens as they were. -/
theorem tokens_kept {Value : Type} {act : Act World Value} {answer : Except StepError Value}
    {after : Scene World} (moves : act.Moves (Stores realm fun _ => False))
    (ended : act.start scene = (answer, after)) : after.tokens = scene.tokens := by
  have kept := (moves scene).kept
  rwa [ended] at kept

/-- A fresh entry is returned, and the cache is left alone. -/
theorem getToken_fresh {cached : Auth.CachedToken} (found : scene.tokens realm = some cached)
    (fresh : Fresh setting scene.world cached) (refresh : PyText) :
    ∃ world, (getToken setting realm refresh).start scene =
      (.ok cached.token, { scene with world := world }) := by
  rcases getToken_cases refresh with ⟨other, world, found', -, gave⟩ | ⟨stale, -⟩
  · rw [found] at found'
    cases found'
    exact ⟨world, gave⟩
  · exact absurd fresh (stale cached found)

/-- The end of `get` stores what `refresh` returned, however the line of the log ends. -/
theorem refreshToken_stores {expiresAt : Option Float}
    (expires : expiryOf setting refresh = .ok expiresAt) :
    ((refreshToken setting realm refresh).start scene).2.tokens =
      Function.update scene.tokens realm (some ⟨refresh, expiresAt⟩) := by
  unfold refreshToken
  rw [Procedure.start_bind, start_expiry, expires]
  dsimp only [Except.mapError]
  rw [Procedure.start_bind, storeToken, Procedure.start_act]
  have passive := @passive_stores World realm (fun _ => False)
  have moves : ((ttl setting expiresAt >>= fun _ => pure refresh) : Act World PyText).Moves
      (Stores realm fun _ => False) :=
    passive.bind (passive.ttl expiresAt) fun _ => passive.pure refresh
  exact tokens_kept moves (by rfl)

/-- Where there is no fresh entry, what `refresh` returned is stored with its expiry. -/
theorem getToken_refreshed {token : PyText} {after : Scene World}
    (stale : ∀ cached, scene.tokens realm = some cached → ¬ Fresh setting scene.world cached)
    (ended : (getToken setting realm refresh).start scene = (.ok token, after)) :
    ∃ expiresAt, expiryOf setting refresh = .ok expiresAt ∧
      after.tokens = Function.update scene.tokens realm (some ⟨refresh, expiresAt⟩) := by
  rcases getToken_cases refresh with ⟨cached, -, found, fresh, -⟩ | ⟨-, world, asked⟩
  · exact absurd fresh (stale cached found)
  · rw [asked] at ended
    cases expires : expiryOf setting refresh with
    | error raised =>
      unfold refreshToken at ended
      rw [Procedure.start_bind, start_expiry, expires] at ended
      cases ended
    | ok expiresAt =>
      refine ⟨expiresAt, rfl, ?_⟩
      have stored := @refreshToken_stores World setting realm { scene with world := world }
        refresh expiresAt expires
      rwa [ended] at stored

end Live

namespace Live.Web

variable {setting : TaskSetting World} {step : Fields} {scene : Scene World} {raw : PyText}

/-- The browser and the clock when `_capture_session` hands its token to the cache. -/
def captureWorld (setting : TaskSetting World) (step : Fields) (world : World) : World :=
  (setting.outside.readStorage ((step.get "token_key").text setting.python)
    (setting.outside.cookies world).2).2

/-- The storage of the page held a token that `_capture_session` was to capture. -/
def Took (setting : TaskSetting World) (world : World) (step : Fields) (raw : PyText) : Prop :=
  Captures setting (setting.outside.cookies world).2 step raw ∧ raw ≠ []

/-- The cache holds an entry of the realm, and the step reports the time that this entry has
left. -/
def ReportsHeld (setting : TaskSetting World) (realm : String) (held : Auth.CachedToken)
    (fields : Fields) (after : Scene World) : Prop :=
  after.tokens realm = some held ∧ expiryOf setting held.token = .ok held.expiresAt ∧
    ∃ (cookies : Nat) (moment : Scene World) (left : Option Int),
      ((ttl setting held.expiresAt).start moment).1 = .ok left ∧
      fields = [("session", .obj [("cookies", .int cookies),
        ("token_expires_in_s", left.elim .null .int)])]

/-- What a `_capture_session` that took a token and returned did with it: a call of
`TokenCache.get` returned, and its end was reported. -/
theorem captureSession_returned {fields : Fields} {after : Scene World}
    (took : Took setting scene.world step raw)
    (returned : (captureSession setting step).start scene = (.ok fields, after)) :
    ∃ (before between : Scene World) (token : PyText) (expiresAt : Option Float) (cookies : Nat)
        (left : Option Int),
      before.tokens = scene.tokens ∧ before.world = captureWorld setting step scene.world ∧
      (getToken setting (captureRealm setting step) raw).start before = (.ok token, between) ∧
      expiryOf setting raw = .ok expiresAt ∧ after.tokens = between.tokens ∧
      ((ttl setting expiresAt).start between).1 = .ok left ∧
      fields = [("session", .obj [("cookies", .int cookies),
        ("token_expires_in_s", left.elim .null .int)])] := by
  obtain ⟨⟨asked, stored⟩, nonempty⟩ := took
  unfold captureSession at returned
  obtain ⟨cookies, second, called, returned⟩ := Procedure.bind_returned returned
  rw [start_call] at called
  obtain rfl := (Prod.mk.inj called).2
  rw [Procedure.start_bind, saveCookies, Procedure.start_act] at returned
  dsimp only at returned
  obtain ⟨captured, third, took, returned⟩ := Procedure.bind_returned returned
  obtain ⟨_, fourth, announced, returned⟩ := Procedure.bind_returned returned
  cases returned
  unfold captureToken at took
  simp only [asked, if_true] at took
  rw [Procedure.start_bind, start_call] at took
  simp only [stored, Except.mapError] at took
  rw [show (some raw).filter (fun text => decide (text ≠ [])) = some raw by simp [nonempty]] at took
  dsimp only at took
  obtain ⟨token, between, got, took⟩ := Procedure.bind_returned took
  obtain ⟨left, fifth, reported, took⟩ := Procedure.bind_returned took
  cases took
  unfold ttlOf at reported
  rw [Procedure.start_bind, start_expiry] at reported
  have passive := @passive_stores World (captureRealm setting step) (fun _ => False)
  cases expires : expiryOf setting raw with
  | error raised =>
    rw [expires] at reported
    cases reported
  | ok expiresAt =>
    rw [expires] at reported
    dsimp only [Except.mapError] at reported
    have kept : third.tokens = between.tokens := tokens_kept (passive.ttl expiresAt) reported
    have said : after.tokens = third.tokens := tokens_kept (passive.progress _ _ _) announced
    refine ⟨_, between, token, expiresAt, cookies.length, left, ?_, ?_, got, rfl,
      said.trans kept, congrArg Prod.fst reported, rfl⟩
    · rfl
    · rfl

/-- **When a capture is what the cache then holds.** Exactly when an entry that the realm already
had was of the same token, or was not fresh any more. -/
theorem captured_held_iff {fields : Fields} {after : Scene World}
    (took : Took setting scene.world step raw)
    (returned : (captureSession setting step).start scene = (.ok fields, after)) :
    (∃ expiresAt, ReportsHeld setting (captureRealm setting step) ⟨raw, expiresAt⟩ fields after) ↔
      ∀ cached, scene.tokens (captureRealm setting step) = some cached →
        Fresh setting (captureWorld setting step scene.world) cached →
        cached.token = raw ∧ expiryOf setting raw = .ok cached.expiresAt := by
  obtain ⟨before, between, token, expiresAt, cookies, left, same, world, got, expires, kept, time,
    reported⟩ := captureSession_returned took returned
  constructor
  · rintro ⟨expiresAt', held, expires', -⟩ cached found fresh
    have found : before.tokens (captureRealm setting step) = some cached := by rw [same, found]
    have fresh : Fresh setting before.world cached := by rwa [world]
    obtain ⟨last, gave⟩ := getToken_fresh found fresh raw
    rw [gave] at got
    obtain rfl := (Prod.mk.inj got).2
    rw [kept, show Scene.tokens { before with world := last } = before.tokens from rfl, found]
      at held
    obtain rfl := Option.some.inj held
    exact ⟨rfl, expires'⟩
  · intro own
    refine ⟨expiresAt, ?_, expires, cookies, between, left, time, reported⟩
    rw [kept]
    by_cases fresh : ∃ cached, scene.tokens (captureRealm setting step) = some cached ∧
        Fresh setting (captureWorld setting step scene.world) cached
    · obtain ⟨cached, found, fresh⟩ := fresh
      obtain ⟨rfl, expires'⟩ := own cached found fresh
      obtain rfl : expiresAt = cached.expiresAt := by
        rw [expires] at expires'
        exact Except.ok.inj expires'
      have found : before.tokens (captureRealm setting step) = some cached := by rw [same, found]
      obtain ⟨last, gave⟩ := getToken_fresh found (by rwa [world]) cached.token
      rw [gave] at got
      obtain rfl := (Prod.mk.inj got).2
      exact found
    · have stale : ∀ cached, before.tokens (captureRealm setting step) = some cached →
          ¬ Fresh setting before.world cached := by
        intro cached found now
        rw [same] at found
        rw [world] at now
        exact fresh ⟨cached, found, now⟩
      obtain ⟨expiresAt', expires', stored⟩ := getToken_refreshed stale got
      obtain rfl : expiresAt = expiresAt' := by
        rw [expires] at expires'
        exact Except.ok.inj expires'
      rw [stored]
      simp

/-- A `bearer` step that finds a fresh entry leaves the cache alone. -/
theorem bearer_kept {realm : String} {credential : Auth.Credential} {cached : Auth.CachedToken}
    (found : scene.tokens realm = some cached) (fresh : Fresh setting scene.world cached) :
    ((bearer setting realm credential).start scene).2.tokens = scene.tokens := by
  have passive := @passive_stores World realm (fun _ => False)
  unfold bearer
  split
  · rfl
  · rename_i secret _
    obtain ⟨world, gave⟩ := getToken_fresh found fresh secret
    rw [Procedure.start_bind, gave]
    have rest : ((do
        setHeaders setting [("Authorization", PyText.ofString "Bearer " ++ cached.token)]
        progress setting "auth" "bearer token attached" [("realm", .str realm)]
        pure (WebTarget.authReport "bearer" realm true)) : Act World Fields).Moves
        (Stores realm fun _ => False) := by
      refine passive.bind (passive.setHeaders fun _ => keepHeaders_stores _ _) fun _ => ?_
      exact passive.bind (passive.progress _ _ _) fun _ => passive.pure _
    exact (rest { scene with world := world }).kept

/-- An `auth` step that finds a fresh entry of its realm leaves the cache alone. -/
theorem auth_kept {credentials : Option Auth.CredentialStore} {cached : Auth.CachedToken}
    (found : scene.tokens (realm setting step) = some cached)
    (fresh : Fresh setting scene.world cached) :
    ((auth setting credentials step).start scene).2.tokens = scene.tokens := by
  have passive := @passive_stores World (realm setting step) (fun _ => False)
  unfold auth
  dsimp only
  split
  · exact ((passive.cookie _) scene).kept
  · rw [Procedure.start_bind]
    cases resolve setting credentials step with
    | error raised => rfl
    | ok credential =>
      show ((if mode setting step = "basic" then _ else _) : Act World Fields).start _ |>.2.tokens =
        _
      split
      · exact ((passive.basic fun _ _ _ _ => keepHeaders_stores _ _) scene).kept
      · split
        · exact bearer_kept found fresh
        · rfl

end Live.Web

namespace Shared

open Live.Web (captureRealm)

variable {setting : TaskSetting World} {realm : String} {entry : Auth.CachedToken}
variable {shared after : Shared} {action : SharedAction World}

/-- What may happen between a capture and a later use of its token: the realm is not invalidated
or captured again, and nobody asks for its token when that is stale. -/
def Between (setting : TaskSetting World) (realm : String) (entry : Auth.CachedToken)
    (_ : Shared) : SharedAction World → Prop
  | .auth _ world step => Live.Web.realm setting step = realm → Live.Fresh setting world entry
  | .capture _ step => captureRealm setting step ≠ realm
  | .invalidate other => other ≠ realm

/-- **Such a step keeps the entry.** -/
theorem step_kept (between : Between setting realm entry shared action)
    (taken : step setting shared action = some after)
    (held : shared.tokens realm = some entry) : after.tokens realm = some entry := by
  cases action with
  | auth credentials world step =>
    obtain rfl := Option.some.inj taken
    have written := @Live.Web.auth_stores World setting credentials step (shared.scene world)
    by_cases own : Live.Web.realm setting step = realm
    · subst own
      have kept := @Live.Web.auth_kept World setting step (shared.scene world) credentials entry
        held (between rfl)
      exact (congrFun kept _).trans held
    · exact (written.other_kept (Ne.symm own)).trans held
  | capture world step =>
    obtain rfl := Option.some.inj taken
    have written := @Live.Web.captureSession_stores World setting step (shared.scene world)
    exact (written.other_kept (Ne.symm between)).trans held
  | invalidate other =>
    obtain rfl := Option.some.inj taken
    have apart : realm ≠ other := Ne.symm between
    simpa [Function.update_of_ne apart] using held

/-- **The entry stays** for as long as only such steps are taken. -/
theorem run_kept (run : Run (step setting) (Between setting realm entry) shared after)
    (held : shared.tokens realm = some entry) : after.tokens realm = some entry :=
  run.invariant (fun shared => shared.tokens realm = some entry) held
    fun _ held between taken => step_kept between taken held

/-- What a capture is to bring: the step reports the time that the entry it left in the cache has
left, and until that is stale every call of `TokenCache.get` on its realm returns the captured
token and leaves the cache as it is, whatever its `refresh` would return. -/
def CaptureServes (setting : TaskSetting World) (realm : String) (entry : Auth.CachedToken)
    (fields : Fields) (left : Scene World) : Prop :=
  Live.Web.ReportsHeld setting realm entry fields left ∧
    ∀ later, Run (step setting) (Between setting realm entry) (Shared.left left) later →
      ∀ (world : World) (refresh : PyText), Live.Fresh setting world entry →
        ((Live.getToken setting realm refresh).start (later.scene world)).1 = .ok entry.token ∧
          ((Live.getToken setting realm refresh).start (later.scene world)).2.tokens =
            later.tokens

/-- **When a captured login is what later tasks use.** Exactly when an entry that the realm
already had was of the same token, or was not fresh any more when the capture looked. -/
theorem captured_login_iff {scene left : Scene World} {step : Fields} {raw : PyText}
    {fields : Fields} (took : Live.Web.Took setting scene.world step raw)
    (returned : (Live.Web.captureSession setting step).start scene = (.ok fields, left)) :
    (∃ expiresAt, CaptureServes setting (captureRealm setting step) ⟨raw, expiresAt⟩ fields left) ↔
      ∀ cached, scene.tokens (captureRealm setting step) = some cached →
        Live.Fresh setting (Live.Web.captureWorld setting step scene.world) cached →
        cached.token = raw ∧ Live.expiryOf setting raw = .ok cached.expiresAt := by
  rw [← Live.Web.captured_held_iff took returned]
  constructor
  · rintro ⟨expiresAt, reports, -⟩
    exact ⟨expiresAt, reports⟩
  · rintro ⟨expiresAt, reports⟩
    refine ⟨expiresAt, reports, fun later run world refresh fresh => ?_⟩
    have held : later.tokens (captureRealm setting step) = some ⟨raw, expiresAt⟩ :=
      run_kept run reports.1
    obtain ⟨last, gave⟩ := @Live.getToken_fresh World setting _ (later.scene world) _ held fresh
      refresh
    rw [gave]
    exact ⟨rfl, rfl⟩

/-- A page whose storage holds a new token. -/
def loginPage : TaskSetting Unit where
  python := default
  outside := { Live.obliging with
    readStorage := fun _ _ => (.ok (some (PyText.ofString "tok-new")), ()) }
  context := ⟨"task-0", "cid-0", none, 1⟩
  jwtExpiry := fun _ => .error (.auth "not a JWT")

/-- The step that captures it. -/
def loginStep : Fields :=
  [("op", .str "capture_session"), ("realm", .str "bank"), ("token_key", .str "access_token")]

/-- A cache that an earlier login left. -/
def loggedIn : Scene Unit where
  world := ()
  tokens := Function.update (fun _ => none) "bank" (some ⟨PyText.ofString "tok-old", none⟩)

/-- The step takes the token of the page, whatever the cache holds. -/
theorem took_loginPage : Live.Web.Took loginPage () loginStep (PyText.ofString "tok-new") :=
  ⟨⟨by decide, rfl⟩, by decide⟩

/-- **An older login stays in force**: the step succeeds and reports on the token of the page, but
the cache holds the older one, and that is what the next call of `TokenCache.get` returns. -/
theorem capture_superseded : ∃ fields left,
    (Live.Web.captureSession loginPage loginStep).start loggedIn = (.ok fields, left) ∧
    left.tokens "bank" = some ⟨PyText.ofString "tok-old", none⟩ ∧
    ((Live.getToken loginPage "bank" (PyText.ofString "tok-new")).start
      ((Shared.left left).scene ())).1 = .ok (PyText.ofString "tok-old") ∧
    ∀ expiresAt, ¬ CaptureServes loginPage "bank" ⟨PyText.ofString "tok-new", expiresAt⟩ fields
      left := by
  obtain ⟨fields, left, returned, held, given⟩ : ∃ fields left,
      (Live.Web.captureSession loginPage loginStep).start loggedIn = (.ok fields, left) ∧
      left.tokens "bank" = some ⟨PyText.ofString "tok-old", none⟩ ∧
      ((Live.getToken loginPage "bank" (PyText.ofString "tok-new")).start
        ((Shared.left left).scene ())).1 = .ok (PyText.ofString "tok-old") :=
    ⟨_, _, rfl, rfl, rfl⟩
  refine ⟨fields, left, returned, held, given, fun expiresAt serves => ?_⟩
  have reported := serves.1.1
  rw [held] at reported
  have apart : PyText.ofString "tok-old" ≠ PyText.ofString "tok-new" := by decide
  exact apart (congrArg Auth.CachedToken.token (Option.some.inj reported))

/-- A first login is what later tasks use. -/
theorem captured_login_first : ∃ fields left expiresAt,
    (Live.Web.captureSession loginPage loginStep).start { world := () } = (.ok fields, left) ∧
    CaptureServes loginPage "bank" ⟨PyText.ofString "tok-new", expiresAt⟩ fields left := by
  obtain ⟨fields, left, returned⟩ : ∃ fields left,
      (Live.Web.captureSession loginPage loginStep).start { world := () } = (.ok fields, left) :=
    ⟨_, _, rfl⟩
  have unknown : ∀ cached, (fun _ => none : String → Option Auth.CachedToken) "bank" = some cached →
      Live.Fresh loginPage (Live.Web.captureWorld loginPage loginStep ()) cached →
      cached.token = PyText.ofString "tok-new" ∧
        Live.expiryOf loginPage (PyText.ofString "tok-new") = .ok cached.expiresAt := by
    intro cached found
    cases found
  obtain ⟨expiresAt, serves⟩ := (captured_login_iff took_loginPage returned).mpr unknown
  exact ⟨fields, left, expiresAt, returned, serves⟩

end Shared

end DeviceOrchestrator
