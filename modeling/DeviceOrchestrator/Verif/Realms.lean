import DeviceOrchestrator.Targets.Shared
import DeviceOrchestrator.Verif.Identity

/-!
# Where a bearer token comes from

The token cache knows realms and no credentials: a step in `bearer` mode gets the live token of its
realm, whoever put it there, and its own credential is asked only if there is none.
-/
namespace DeviceOrchestrator

open Transition (History)

variable {World : Type}

namespace Live

variable {setting : TaskSetting World} {realm : String} {scene : Scene World}

/-- The clock does not find an entry stale. -/
def freshEntry (setting : TaskSetting World) (world : World) (cached : Auth.CachedToken) : Bool :=
  match cached.expiresAt with
  | none => true
  | some expiresAt => !Auth.stale expiresAt setting.skewS (setting.outside.time world).1

/-- An entry is fresh by one of the two looks that `TokenCache.get` takes at the clock. -/
def Fresh (setting : TaskSetting World) (world : World) (cached : Auth.CachedToken) : Prop :=
  freshEntry setting world cached = true ∨
    freshEntry setting (setting.outside.time world).2 cached = true

/-- A look at the token cache finds the entry of the realm if it is fresh. -/
theorem start_freshToken : (freshToken setting realm).start scene =
    match scene.tokens realm with
    | none => (.ok none, scene)
    | some cached =>
      (.ok (if freshEntry setting scene.world cached then some cached.token else none),
        match cached.expiresAt with
        | none => scene
        | some _ => { scene with world := (setting.outside.time scene.world).2 }) := by
  unfold freshToken cachedToken
  rw [Procedure.start_bind, Procedure.start_act]
  cases scene.tokens realm with
  | none => rfl
  | some cached =>
    cases expires : cached.expiresAt with
    | none => simp [expires, freshEntry]
    | some expiresAt =>
      simp only [expires, freshEntry, read, Procedure.start_bind, Procedure.start_act,
        Procedure.start_pure]
      cases Auth.stale expiresAt setting.skewS (setting.outside.time scene.world).1 <;> rfl

/-- A refresh returns the token that it was given. -/
theorem refreshToken_value {refresh token : PyText} {after : Scene World}
    (ended : (refreshToken setting realm refresh).start scene = (.ok token, after)) :
    token = refresh := by
  unfold refreshToken at ended
  obtain ⟨expiresAt, asked, -, ended⟩ := Procedure.bind_returned ended
  obtain ⟨_, stored, -, ended⟩ := Procedure.bind_returned ended
  obtain ⟨left, logged, -, ended⟩ := Procedure.bind_returned ended
  cases ended
  rfl

/-- **What a call of the token cache is**: a fresh entry that is returned, or a refresh where there
is none. Only the world has moved by then. -/
theorem getToken_cases (refresh : PyText) :
    (∃ cached world, scene.tokens realm = some cached ∧ Fresh setting scene.world cached ∧
      (getToken setting realm refresh).start scene =
        (.ok cached.token, { scene with world := world })) ∨
      (∀ cached, scene.tokens realm = some cached → ¬ Fresh setting scene.world cached) ∧
        ∃ world, (getToken setting realm refresh).start scene =
          (refreshToken setting realm refresh).start { scene with world := world } := by
  unfold getToken
  rw [Procedure.start_bind, start_freshToken]
  cases found : scene.tokens realm with
  | none =>
    right
    refine ⟨nofun, scene.world, ?_⟩
    dsimp only
    rw [Procedure.start_bind, start_freshToken]
    simp only [found]
  | some cached =>
    cases first : freshEntry setting scene.world cached with
    | true =>
      left
      cases expires : cached.expiresAt with
      | none => exact ⟨cached, scene.world, rfl, .inl first, by simp [first, expires]⟩
      | some expiresAt =>
        exact ⟨cached, (setting.outside.time scene.world).2, rfl, .inl first,
          by simp [first, expires]⟩
    | false =>
      cases expires : cached.expiresAt with
      | none => simp [freshEntry, expires] at first
      | some expiresAt =>
        simp only [first, expires, Bool.false_eq_true, if_false]
        rw [Procedure.start_bind, start_freshToken]
        simp only [found, expires]
        let last := (setting.outside.time (setting.outside.time scene.world).2).2
        cases second : freshEntry setting (setting.outside.time scene.world).2 cached with
        | true =>
          left
          exact ⟨cached, last, rfl, .inr second, by simp [last]⟩
        | false =>
          right
          refine ⟨fun other same fresh => ?_, last, by simp [last]⟩
          cases same
          rcases fresh with now | later
          · rw [first] at now
            cases now
          · rw [second] at later
            cases later

/-- **Where the answer of the token cache comes from**: from the refresh, or from a fresh entry. -/
theorem getToken_value {refresh token : PyText} {after : Scene World}
    (ended : (getToken setting realm refresh).start scene = (.ok token, after)) :
    token = refresh ∨ ∃ cached, scene.tokens realm = some cached ∧ cached.token = token ∧
      Fresh setting scene.world cached := by
  rcases getToken_cases refresh with ⟨cached, world, found, fresh, gave⟩ | ⟨-, world, asked⟩
  · rw [gave] at ended
    cases ended
    exact .inr ⟨cached, found, rfl, fresh⟩
  · rw [asked] at ended
    exact .inl (refreshToken_value ended)

/-- A call that can raise. -/
theorem start_call {Value : Type} (op : World → Except Raised Value × World) :
    (call op).start scene = ((op scene.world).1.mapError StepError.known,
      { scene with world := (op scene.world).2 }) := by
  unfold call
  rw [Procedure.start_bind]
  rfl

/-- `set_headers`, and which headers are then in force. -/
theorem start_setHeaders (headers : List (String × PyText)) :
    (setHeaders setting headers).start scene =
      match setting.outside.setHeaders headers scene.world with
      | ((answer, applied), world) => (answer.mapError StepError.known, { scene with
          world := world
          headers := fun name =>
            if answer.isOk || applied then (headers.lookup name).orElse fun _ => scene.headers name
            else scene.headers name }) := by
  unfold setHeaders
  rw [Procedure.start_bind]
  rfl

/-- A header that `set_headers` takes is in force. -/
theorem setHeaders_headers {name : String} {value : PyText}
    (returned : ((setHeaders setting [(name, value)]).start scene).1.isOk = true) :
    ((setHeaders setting [(name, value)]).start scene).2.headers name = some value := by
  rw [start_setHeaders] at returned ⊢
  generalize setting.outside.setHeaders [(name, value)] scene.world = called at returned ⊢
  obtain ⟨⟨answer, applied⟩, world⟩ := called
  cases answer with
  | error raised => cases returned
  | ok done => simp [Except.isOk, Except.toBool]

/-- The tokens stay, or an entry that may stand there takes the place of the one of the realm. -/
def Stores (realm : String) (may : Auth.CachedToken → Prop) (scene after : Scene World) : Prop :=
  Overwritten realm may scene.tokens after.tokens

variable {may : Auth.CachedToken → Prop}

/-- Most of the code stores nothing. -/
theorem passive_stores (realm : String) (may : Auth.CachedToken → Prop) :
    @Passive World (Stores realm may) where
  quiet _ same := .inl same
  trans := Overwritten.trans

/-- An entry that may stand there. -/
theorem storeToken_stores {cached : Auth.CachedToken} (allowed : may cached) :
    (storeToken realm cached : Act World Unit).Moves (Stores realm may) :=
  fun _ => .inr ⟨cached, allowed, rfl⟩

/-- Headers store nothing. -/
theorem keepHeaders_stores (applied : Bool) (headers : List (String × PyText)) :
    (keepHeaders applied headers : Act World Unit).Moves (Stores realm may) :=
  fun _ => .inl rfl

end Live

namespace Live.Web

variable {setting : TaskSetting World} {credentials : Option Auth.CredentialStore} {step : Fields}

/-- An entry that an `auth` step makes: the secret of the credential it names. -/
def Refreshes (setting : TaskSetting World) (credentials : Option Auth.CredentialStore)
    (step : Fields) (token : PyText) : Prop :=
  mode setting step = "bearer" ∧
    ∃ credential, resolve setting credentials step = .ok credential ∧
      credential.secret = some token

/-- **What `_auth` stores.** -/
theorem auth_stores : (auth setting credentials step).Moves (Stores (realm setting step)
    fun cached => Refreshes setting credentials step cached.token) := by
  have passive := @passive_stores World (realm setting step)
    fun cached => Refreshes setting credentials step cached.token
  unfold auth
  refine .ite (fun _ => passive.cookie _) fun _ => ?_
  refine passive.raising_bind fun credential found => ?_
  refine .ite (fun _ => ?_) fun _ => .ite (fun isBearer => ?_) fun _ => passive.throw _
  · exact passive.basic fun _ _ _ _ => keepHeaders_stores _ _
  · refine passive.bearer (fun secret present expiresAt => ?_) fun _ _ => keepHeaders_stores _ _
    exact storeToken_stores ⟨isBearer, credential, found, present⟩

/-- The realm of a `capture_session` step. -/
def captureRealm (setting : TaskSetting World) (step : Fields) : String :=
  (step.getD "realm" (.str "default")).text setting.python

/-- An entry that `_capture_session` makes: what the storage of the session holds. -/
def Captures (setting : TaskSetting World) (world : World) (step : Fields) (token : PyText) :
    Prop :=
  (step.get "token_key").truthy = true ∧
    (setting.outside.readStorage ((step.get "token_key").text setting.python) world).1 =
      .ok (some token)

/-- What `_capture_session` stores of the token. -/
theorem captureToken_stores (realm : String) (captured : Fields) (scene : Scene World) :
    Stores realm (fun cached => Captures setting scene.world step cached.token) scene
      ((captureToken setting realm step captured).start scene).2 := by
  have passive := @passive_stores World realm
    fun cached => Captures setting scene.world step cached.token
  unfold captureToken
  dsimp only
  split
  · rename_i asked
    rw [Procedure.start_bind, start_call]
    cases answered : (setting.outside.readStorage ((step.get "token_key").text setting.python)
      scene.world).1 with
    | error raised => exact .inl rfl
    | ok stored =>
      dsimp only [Except.mapError]
      split
      · exact .inl rfl
      · rename_i raw kept
        have held : stored = some raw := (Option.filter_eq_some_iff.mp kept).1
        subst held
        have ending : (do
            let _ ← getToken setting realm raw
            let expires ← ttlOf setting raw
            pure (captured ++ [("token_expires_in_s", expires.elim .null .int)]) :
              Act World Fields).Moves
            (Stores realm fun cached => Captures setting scene.world step cached.token) := by
          refine passive.bind (passive.getToken fun expiresAt => ?_) fun _ => ?_
          · exact storeToken_stores ⟨asked, answered⟩
          · exact passive.bind (passive.ttlOf _) fun expires => passive.pure _
        exact ending _
  · exact .inl rfl

/-- **What `_capture_session` stores.** -/
theorem captureSession_stores (scene : Scene World) :
    Stores (captureRealm setting step)
      (fun cached => Captures setting (setting.outside.cookies scene.world).2 step cached.token)
      scene ((captureSession setting step).start scene).2 := by
  have passive := @passive_stores World (captureRealm setting step)
    fun cached => Captures setting (setting.outside.cookies scene.world).2 step cached.token
  unfold captureSession
  rw [Procedure.start_bind, start_call]
  cases (setting.outside.cookies scene.world).1 with
  | error raised => exact .inl rfl
  | ok cookies =>
    dsimp only [Except.mapError]
    rw [Procedure.start_bind, saveCookies, Procedure.start_act]
    refine Procedure.Moves.bind_at Overwritten.trans (captureToken_stores _ _ _) fun captured => ?_
    exact passive.bind (passive.progress _ _ _) fun _ => passive.pure _

/-- **What the `bearer` mode attaches**: the secret of its credential, or a fresh entry. -/
theorem bearer_attaches {credential : Auth.Credential} {scene : Scene World} {realm : String}
    (returned : ((bearer setting realm credential).start scene).1.isOk = true) :
    ∃ token, ((bearer setting realm credential).start scene).2.headers "Authorization" =
        some (PyText.ofString "Bearer " ++ token) ∧
      (credential.secret = some token ∨ ∃ cached, scene.tokens realm = some cached ∧
        cached.token = token ∧ Fresh setting scene.world cached) := by
  unfold bearer at returned ⊢
  cases present : credential.secret with
  | none =>
    simp only [present] at returned
    cases returned
  | some secret =>
    simp only [present] at returned ⊢
    rw [Procedure.start_bind] at returned ⊢
    have sourced := @getToken_value World setting realm scene secret
    generalize (getToken setting realm secret).start scene = ended at returned sourced ⊢
    obtain ⟨answer, between⟩ := ended
    cases answer with
    | error failure => cases returned
    | ok token =>
      refine ⟨token, ?_, ?_⟩
      · dsimp only at returned ⊢
        rw [Procedure.start_bind] at returned ⊢
        have inForce := @setHeaders_headers World setting between "Authorization"
          (PyText.ofString "Bearer " ++ token)
        generalize (setHeaders setting
          [("Authorization", PyText.ofString "Bearer " ++ token)]).start between = ended
          at returned inForce ⊢
        obtain ⟨answer, last⟩ := ended
        cases answer with
        | error failure => cases returned
        | ok done => exact inForce rfl
      · obtain own | cached := sourced rfl
        · exact .inl (by rw [own])
        · exact .inr cached

end Live.Web

namespace Shared

/-- A step as it was taken on what tasks share. -/
abbrev Taken (World : Type) := Transition.Taken Shared (SharedAction World)

variable {setting : TaskSetting World} {realm : String} {token : PyText} {cached : Auth.CachedToken}
variable {shared after : Shared} {action : SharedAction World} {past : List (Taken World)}
variable {credential : Auth.Credential} {world : World}

/-- A step that supplies a realm with a token. -/
inductive Supplies (setting : TaskSetting World) (realm : String) (token : PyText) :
    SharedAction World → Prop
  /-- An `auth` step refreshes it for the credential it names. -/
  | refreshed {credentials : Option Auth.CredentialStore} {world : World} {step : Fields} :
      Live.Web.realm setting step = realm → Live.Web.Refreshes setting credentials step token →
      Supplies setting realm token (.auth credentials world step)
  /-- A `capture_session` step takes it from the session. -/
  | captured {world : World} {step : Fields} : Live.Web.captureRealm setting step = realm →
      Live.Web.Captures setting (setting.outside.cookies world).2 step token →
      Supplies setting realm token (.capture world step)

/-- An entry was made by a step that supplied the realm, and the realm was not invalidated since. -/
inductive Sourced (setting : TaskSetting World) (realm : String) (cached : Auth.CachedToken) :
    List (Taken World) → Prop
  /-- In the last step. -/
  | supplied {taken : Taken World} {earlier : List (Taken World)} :
      Supplies setting realm cached.token taken.action →
      taken.after.tokens realm = some cached → Sourced setting realm cached (taken :: earlier)
  /-- Before it. -/
  | kept {taken : Taken World} {earlier : List (Taken World)} :
      Sourced setting realm cached earlier → taken.action ≠ .invalidate realm →
      taken.after.tokens realm = some cached → Sourced setting realm cached (taken :: earlier)

/-- **One step**: an entry was there before and the realm is not invalidated, or the step supplies
the realm with its token. -/
theorem step_entry (taken : step setting shared action = some after)
    (found : after.tokens realm = some cached) :
    (shared.tokens realm = some cached ∧ action ≠ .invalidate realm) ∨
      Supplies setting realm cached.token action := by
  cases action with
  | auth credentials world step =>
    obtain rfl := Option.some.inj taken
    obtain before | ⟨rfl, refreshes⟩ := (Live.Web.auth_stores (shared.scene world)).entry found
    · exact .inl ⟨before, nofun⟩
    · exact .inr (.refreshed rfl refreshes)
  | capture world step =>
    obtain rfl := Option.some.inj taken
    obtain before | ⟨rfl, captures⟩ :=
      (Live.Web.captureSession_stores (shared.scene world)).entry found
    · exact .inl ⟨before, nofun⟩
    · exact .inr (.captured rfl captures)
  | invalidate invalidated =>
    obtain rfl := Option.some.inj taken
    have other : realm ≠ invalidated := by
      rintro rfl
      simp at found
    have before : shared.tokens realm = some cached := by
      simpa [Function.update_of_ne other] using found
    refine .inl ⟨before, fun same => ?_⟩
    cases same
    exact other rfl

/-- **Every entry of the token cache has a source**, in the realm of the entry. -/
theorem tokens_sourced (history : History (step setting) (fun _ _ => True) {} past shared) :
    ∀ {realm cached}, shared.tokens realm = some cached → Sourced setting realm cached past := by
  refine history.invariant (fun past shared => ∀ {realm cached},
    shared.tokens realm = some cached → Sourced setting realm cached past) ?_ ?_
  · intro realm cached found
    cases found
  · intro past shared action after _ sourced _ taken realm cached found
    obtain ⟨before, other⟩ | supplies := step_entry taken found
    · exact .kept (sourced before) other found
    · exact .supplied supplies found

/-- An `auth` step in `bearer` mode that named a credential returned, and attached a token. -/
inductive Bearer (setting : TaskSetting World) (taken : Taken World) (world : World)
    (realm : String) (credential : Auth.Credential) (token : PyText) : Prop
  /-- The step was taken in that world. -/
  | attached {credentials : Option Auth.CredentialStore} {step : Fields} :
      taken.action = .auth credentials world step → Live.Web.mode setting step = "bearer" →
      Live.Web.realm setting step = realm →
      Live.Web.resolve setting credentials step = .ok credential →
      ((Live.Web.auth setting credentials step).start (taken.before.scene world)).1.isOk = true →
      ((Live.Web.auth setting credentials step).start (taken.before.scene world)).2.headers
        "Authorization" = some (PyText.ofString "Bearer " ++ token) →
      Bearer setting taken world realm credential token

/-- **Where a bearer token comes from.** In every history, the token that a `bearer` step attaches
is the secret of the credential it names, or the token of an entry of its realm that is still
fresh, and that an earlier step on the same realm made: a refresh for the credential which that
step named, or a capture. The realm was not invalidated since. -/
theorem bearer_sourced {taken : Taken World}
    (history : History (step setting) (fun _ _ => True) {} (taken :: past) shared)
    (bearer : Bearer setting taken world realm credential token) :
    credential.secret = some token ∨ ∃ cached, cached.token = token ∧
      taken.before.tokens realm = some cached ∧ Live.Fresh setting world cached ∧
      Sourced setting realm cached past := by
  cases bearer with
  | @attached credentials step named isBearer sameRealm resolved returned attached =>
  subst sameRealm
  have ran : ∀ scene : Scene World, (Live.Web.auth setting credentials step).start scene =
      (Live.Web.bearer setting (Live.Web.realm setting step) credential).start scene := by
    intro scene
    unfold Live.Web.auth
    simp only [isBearer, resolved]
    rw [if_neg (by decide), Procedure.start_bind]
    rfl
  rw [ran] at returned attached
  obtain ⟨same, given, origin⟩ := Live.Web.bearer_attaches returned
  obtain rfl : same = token := by
    rw [attached] at given
    exact (List.append_cancel_left (Option.some.inj given)).symm
  obtain own | ⟨cached, found, holds, fresh⟩ := origin
  · exact .inl own
  · have sourced : Sourced setting (Live.Web.realm setting step) cached past := by
      cases history with
      | next earlier _ _ => exact tokens_sourced earlier found
    exact .inr ⟨cached, holds, found, fresh, sourced⟩

/-- A store with two credentials. -/
def crewStore : Auth.CredentialStore where
  environ := fun _ => .ok none
  fileCreds := fun ref =>
    if ref = "alice" then
      some { ref := "alice", kind := "bearer", secret := some (PyText.ofString "tok-a") }
    else if ref = "bob" then
      some { ref := "bob", kind := "bearer", secret := some (PyText.ofString "tok-b") }
    else none

/-- A `bearer` step on the realm `api`. -/
def bearerStep (credential : String) : Fields :=
  [("op", .str "auth"), ("mode", .str "bearer"), ("credential", .str credential),
    ("realm", .str "api")]

/-- A step of one of them. -/
def crewAction (credential : String) : SharedAction Unit :=
  .auth (some crewStore) () (bearerStep credential)

/-- What the step of `alice` leaves. -/
def afterAlice : Shared :=
  left ((Live.Web.auth Slot.browsing (some crewStore) (bearerStep "alice")).start
    (({} : Shared).scene ())).2

/-- What the step of `bob` leaves after it. -/
def afterBob : Shared :=
  left ((Live.Web.auth Slot.browsing (some crewStore) (bearerStep "bob")).start
    (afterAlice.scene ())).2

/-- The step of `alice`. -/
def takenAlice : Taken Unit := ⟨{}, crewAction "alice", afterAlice⟩

/-- The step of `bob`. -/
def takenBob : Taken Unit := ⟨afterAlice, crewAction "bob", afterBob⟩

/-- Both are taken in this order. -/
theorem crew_history :
    History (step Slot.browsing) (fun _ _ => True) {} [takenBob, takenAlice] afterBob :=
  .next (.next .refl trivial rfl) trivial rfl

/-- The step that names `bob` returns, and what it attaches. -/
theorem bob_bearer : ∃ credential, credential.ref = "bob" ∧
    credential.secret = some (PyText.ofString "tok-b") ∧
    Bearer Slot.browsing takenBob () "api" credential (PyText.ofString "tok-a") := by
  have shown : (match Live.Web.resolve Slot.browsing (some crewStore) (bearerStep "bob") with
      | .ok credential => decide (credential.ref = "bob" ∧
          credential.secret = some (PyText.ofString "tok-b"))
      | .error _ => false) = true := by decide +kernel
  cases resolved : Live.Web.resolve Slot.browsing (some crewStore) (bearerStep "bob") with
  | error raised =>
    rw [resolved] at shown
    cases shown
  | ok credential =>
    rw [resolved] at shown
    obtain ⟨named, secret⟩ := of_decide_eq_true shown
    refine ⟨credential, named, secret, ?_⟩
    exact .attached rfl (by decide +kernel) (by decide +kernel) resolved (by decide +kernel)
      (by decide +kernel)

/-- **A bearer step authenticates as another credential**: the step of `bob` attaches the secret of
`alice`, whose token the realm has, and nothing was ever captured. -/
theorem bearer_of_another : ∃ (taken : Taken Unit) (past : List (Taken Unit)) (shared : Shared)
    (credential : Auth.Credential) (token : PyText),
    History (step Slot.browsing) (fun _ _ => True) {} (taken :: past) shared ∧
    Bearer Slot.browsing taken () "api" credential token ∧ credential.secret ≠ some token ∧
    ∀ earlier ∈ past, ∀ world step, earlier.action ≠ .capture world step := by
  obtain ⟨credential, -, secret, bearer⟩ := bob_bearer
  refine ⟨takenBob, [takenAlice], afterBob, credential, _, crew_history, bearer, ?_, ?_⟩
  · rw [secret]
    decide
  · intro earlier member world step
    obtain rfl := List.mem_singleton.mp member
    exact nofun

/-- The source of that token. -/
theorem bearer_sourced_crew : ∃ cached, cached.token = PyText.ofString "tok-a" ∧
    afterAlice.tokens "api" = some cached ∧ Live.Fresh Slot.browsing () cached ∧
    Sourced Slot.browsing "api" cached [takenAlice] := by
  obtain ⟨credential, -, secret, bearer⟩ := bob_bearer
  apply (bearer_sourced crew_history bearer).resolve_left
  rw [secret]
  decide

end Shared

end DeviceOrchestrator
