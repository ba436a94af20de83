import DeviceOrchestrator.Lib.Overwrite
import DeviceOrchestrator.Targets.Live

/-!
# What the code of a task leaves alone

Most of the code of a task touches neither the headers of the browser session nor the token cache.
The rules here carry a relation over it that only looks at these two, so that a statement about the
headers or the tokens has to look at the places that change them: `set_headers` and the entry that
`TokenCache.get` makes.
-/
namespace DeviceOrchestrator.Live

variable {World Value : Type}

/-- A relation of scenes that holds as long as the headers and the tokens are left alone. -/
structure Passive (relation : Scene World → Scene World → Prop) : Prop where
  /-- What leaves them alone. -/
  quiet : ∀ {scene after : Scene World}, after.headers = scene.headers →
    after.tokens = scene.tokens → relation scene after
  /-- One after the other. -/
  trans : ∀ {scene between after : Scene World}, relation scene between →
    relation between after → relation scene after

namespace Passive

variable {relation : Scene World → Scene World → Prop} (passive : Passive relation)
include passive

/-- Acts in a row. -/
theorem bind {Next : Type} {act : Act World Value} {next : Value → Act World Next}
    (begins : act.Moves relation) (follows : ∀ value, (next value).Moves relation) :
    (act >>= next).Moves relation := by
  refine Procedure.Moves.bind ?_ begins follows
  exact passive.trans

/-- A value. -/
theorem pure (value : Value) : (Pure.pure value : Act World Value).Moves relation :=
  fun _ => passive.quiet rfl rfl

/-- An exception. -/
theorem throw (failure : StepError) :
    (MonadExcept.throw failure : Act World Value).Moves relation :=
  fun _ => passive.quiet rfl rfl

/-- A call that cannot raise. -/
theorem read (op : World → Value × World) : (Live.read op).Moves relation :=
  fun _ => passive.quiet rfl rfl

/-- A result that may be an exception. -/
theorem raising (result : Except Raised Value) :
    (Live.raising result : Act World Value).Moves relation :=
  fun _ => passive.quiet rfl rfl

/-- What follows a result that may be an exception. -/
theorem raising_bind {Next : Type} {result : Except Raised Value} {next : Value → Act World Next}
    (follows : ∀ value, result = .ok value → (next value).Moves relation) :
    (Live.raising result >>= next).Moves relation := by
  refine Procedure.Moves.lift_bind (fun _ => passive.quiet rfl rfl) fun value found => ?_
  cases result with
  | ok other =>
    cases found
    exact follows value rfl
  | error raised => cases found

/-- A call that can raise. -/
theorem call (op : World → Except Raised Value × World) : (Live.call op).Moves relation :=
  passive.bind (passive.read op) passive.raising

variable {setting : TaskSetting World}

/-- An event. -/
theorem progress (phase message : String) (data : Fields) :
    (Live.progress setting phase message data).Moves relation :=
  passive.bind (passive.read _) fun _ _ => passive.quiet rfl rfl

/-- A look at the token cache. -/
theorem freshToken (realm : String) : (Live.freshToken setting realm).Moves relation := by
  refine passive.bind (fun _ => passive.quiet rfl rfl) fun cached => ?_
  split
  · exact passive.pure _
  · split
    · exact passive.pure _
    · exact passive.bind (passive.read _) fun _ => passive.pure _

/-- The expiry of a token. -/
theorem expiry (raw : PyText) : (Live.expiry setting raw).Moves relation := by
  unfold Live.expiry
  split
  · exact passive.pure _
  · exact passive.raising _

/-- The time that is left. -/
theorem ttl (expiresAt : Option Float) : (Live.ttl setting expiresAt).Moves relation := by
  unfold Live.ttl
  split
  · exact passive.pure _
  · split
    · exact passive.pure _
    · exact passive.bind (passive.read _) fun _ =>
        passive.bind (passive.raising _) fun _ => passive.pure _

/-- What a token reports of its expiry. -/
theorem ttlOf (raw : PyText) : (Live.ttlOf setting raw).Moves relation :=
  passive.bind (passive.expiry raw) passive.ttl

/-- The token cache, as long as the relation allows the entry it may make. -/
theorem getToken {realm : String} {refresh : PyText}
    (stores : ∀ expiresAt, (storeToken realm ⟨refresh, expiresAt⟩ : Act World Unit).Moves
      relation) : (Live.getToken setting realm refresh).Moves relation := by
  refine passive.bind (passive.freshToken realm) fun token => ?_
  split
  · exact passive.pure _
  · refine passive.bind (passive.freshToken realm) fun token => ?_
    split
    · exact passive.pure _
    · refine passive.bind (passive.expiry refresh) fun expiresAt => ?_
      refine passive.bind (stores expiresAt) fun _ => ?_
      exact passive.bind (passive.ttl _) fun _ => passive.pure _

/-- Headers, as long as the relation allows them. -/
theorem setHeaders {headers : List (String × PyText)}
    (keeps : ∀ applied, (keepHeaders applied headers : Act World Unit).Moves relation) :
    (Live.setHeaders setting headers).Moves relation := by
  refine passive.bind (passive.read _) fun answered => ?_
  exact passive.bind (keeps _) fun _ => passive.raising _

/-- A `wait` step. -/
theorem wait (step : Fields) : (Live.wait setting step).Moves relation :=
  passive.bind (passive.raising _) fun _ =>
    passive.bind (passive.raising _) fun _ => passive.call _

/-- The `cookie` mode of `_auth`. -/
theorem cookie (realm : String) : (Web.cookie setting realm).Moves relation := by
  have live : (liveCookies setting realm).Moves relation := by
    refine passive.bind (passive.read _) fun now => ?_
    refine passive.bind (fun _ => passive.quiet rfl rfl) fun stored => ?_
    split
    · exact passive.pure _
    · exact passive.raising _
  refine passive.bind live fun live => ?_
  split
  · refine passive.bind (fun _ => passive.quiet rfl rfl) fun stored => ?_
    refine passive.bind (passive.call _) fun _ => ?_
    exact passive.bind (passive.progress _ _ _) fun _ => passive.pure _
  · exact passive.bind (passive.progress _ _ _) fun _ => passive.pure _

/-- The `basic` mode of `_auth`, as long as the relation allows the header. -/
theorem basic {realm : String} {credential : Auth.Credential}
    (keeps : ∀ name value, credential.header = .ok (name, value) → ∀ applied,
      (keepHeaders applied [(name, value)] : Act World Unit).Moves relation) :
    (Web.basic setting realm credential).Moves relation := by
  refine Procedure.Moves.lift_bind (fun _ => passive.quiet rfl rfl) fun header made => ?_
  refine passive.bind (passive.setHeaders (keeps _ _ made)) fun _ => ?_
  exact passive.bind (passive.progress _ _ _) fun _ => passive.pure _

/-- The `bearer` mode of `_auth`, as long as the relation allows the entry and the header. -/
theorem bearer {realm : String} {credential : Auth.Credential}
    (stores : ∀ secret, credential.secret = some secret → ∀ expiresAt,
      (storeToken realm ⟨secret, expiresAt⟩ : Act World Unit).Moves relation)
    (keeps : ∀ token applied, (keepHeaders applied
      [("Authorization", PyText.ofString "Bearer " ++ token)] : Act World Unit).Moves relation) :
    (Web.bearer setting realm credential).Moves relation := by
  unfold Web.bearer
  split
  · exact passive.throw _
  · rename_i secret present
    refine passive.bind (passive.getToken (stores secret present)) fun token => ?_
    refine passive.bind (passive.setHeaders (keeps token)) fun _ => ?_
    exact passive.bind (passive.progress _ _ _) fun _ => passive.pure _

/-- What `_capture_session` makes of the stored token, as long as the relation allows an entry of
every token. -/
theorem captureToken {step captured : Fields} (realm : String)
    (stores : ∀ raw expiresAt, (storeToken realm ⟨raw, expiresAt⟩ : Act World Unit).Moves
      relation) : (Web.captureToken setting realm step captured).Moves relation := by
  unfold Web.captureToken
  refine .ite (fun _ => ?_) fun _ => passive.pure _
  refine passive.bind (passive.call _) fun stored => ?_
  split
  · exact passive.pure _
  · refine passive.bind (passive.getToken (stores _)) fun _ => ?_
    exact passive.bind (passive.ttlOf _) fun expires => passive.pure _

/-- `_capture_session`, likewise. -/
theorem captureSession {step : Fields}
    (stores : ∀ realm raw expiresAt, (storeToken realm ⟨raw, expiresAt⟩ : Act World Unit).Moves
      relation) : (Web.captureSession setting step).Moves relation := by
  refine passive.bind (passive.call _) fun cookies => ?_
  refine passive.bind (fun _ => passive.quiet rfl rfl) fun _ => ?_
  refine passive.bind (passive.captureToken _ (stores _)) fun captured => ?_
  exact passive.bind (passive.progress _ _ _) fun _ => passive.pure _

end Passive

end DeviceOrchestrator.Live
