import DeviceOrchestrator.Lib.Run
import DeviceOrchestrator.Targets.Live

/-!
# The token cache that tasks share

`auth` and `capture_session` steps of any tasks, on any slots, use one token cache and one cookie
jar. Each of them touches the token cache in one call of `TokenCache.get`, which does not suspend,
so the steps of tasks that run at once follow one another there. Each step has a world of its own:
the browser it runs on and the clock.
-/
namespace DeviceOrchestrator

/-- What tasks share. -/
structure Shared where
  /-- `TokenCache._tokens`. -/
  tokens : String → Option Auth.CachedToken := fun _ => none
  /-- `CookieJar._state`. -/
  jar : String → Option (List Fields) := fun _ => none

/-- What is done to it. -/
inductive SharedAction (World : Type)
  /-- An `auth` step. -/
  | auth (credentials : Option Auth.CredentialStore) (world : World) (step : Fields)
  /-- A `capture_session` step. -/
  | capture (world : World) (step : Fields)
  /-- `TokenCache.invalidate`. -/
  | invalidate (realm : String)

namespace Shared

variable {World : Type} (setting : TaskSetting World)

/-- The scene of a step. -/
def scene (shared : Shared) (world : World) : Scene World where
  world := world
  tokens := shared.tokens
  jar := shared.jar

/-- What a step leaves. -/
def left (scene : Scene World) : Shared := ⟨scene.tokens, scene.jar⟩

/-- One step. -/
def step (shared : Shared) : SharedAction World → Option Shared
  | .auth credentials world step =>
    some (left ((Live.Web.auth setting credentials step).start (shared.scene world)).2)
  | .capture world step =>
    some (left ((Live.Web.captureSession setting step).start (shared.scene world)).2)
  | .invalidate realm => some { shared with tokens := Function.update shared.tokens realm none }

end Shared

end DeviceOrchestrator
