import DeviceOrchestrator.Lib.Run
import DeviceOrchestrator.Targets.Live

/-!
# Tasks one after another on a browser slot

A slot is leased to one task at a time, and each task gets its session from the `SessionManager`,
which keeps it between tasks. `execute` is taken apart here: a task begins when it acquires the
session, and then each round of its loop is a step. Between these steps the world goes on, and
tasks on other slots change the token cache and the cookie jar.
-/
namespace DeviceOrchestrator

/-- A browser slot and the task that runs on it. -/
structure Slot (World : Type) where
  /-- What the task reads and changes. -/
  scene : Scene World
  /-- The task. -/
  context : TaskContext
  /-- The number of its steps. -/
  total : Nat := 0
  /-- The number of the next step. -/
  number : Nat := 1
  /-- What it has captured. -/
  captured : Fields := []
  /-- The steps that are left; a task that raised has none. -/
  rest : List Json := []

/-- What happens on a slot. -/
inductive SlotAction (World : Type)
  /-- A task begins. -/
  | begin (context : TaskContext) (steps : List Json)
  /-- The task takes its next step. -/
  | turn
  /-- Something else goes on. -/
  | elsewhere (world : World) (tokens : String → Option Auth.CachedToken)
    (jar : String → Option (List Fields))

namespace Slot

variable {World : Type} (setting : TaskSetting World) (credentials : Option Auth.CredentialStore)

/-- The setting of the task on a slot. -/
def own (context : TaskContext) : TaskSetting World := { setting with context := context }

/-- `execute`, up to the first step. -/
def begin (slot : Slot World) (context : TaskContext) (steps : List Json) : Slot World :=
  match (Live.acquire (own setting context) "browser").start slot.scene with
  | (.ok _, scene) =>
    { scene := scene, context := context, total := steps.length, rest := steps }
  | (.error _, scene) => { scene := scene, context := context }

/-- One round of the loop. -/
def turn (slot : Slot World) (step : Json) (rest : List Json) : Slot World :=
  match (Live.Web.turn (own setting slot.context) credentials slot.total slot.number slot.captured
    step).start slot.scene with
  | (.ok captured, scene) =>
    { slot with scene := scene, number := slot.number + 1, captured := captured, rest := rest }
  | (.error _, scene) => { slot with scene := scene, rest := [] }

/-- One step. -/
def step (slot : Slot World) : SlotAction World → Option (Slot World)
  | .begin context steps =>
    if slot.rest.isEmpty then some (slot.begin setting context steps) else none
  | .turn =>
    match slot.rest with
    | [] => none
    | step :: rest => some (slot.turn setting credentials step rest)
  | .elsewhere world tokens jar =>
    some { slot with scene := { slot.scene with world := world, tokens := tokens, jar := jar } }

end Slot

end DeviceOrchestrator
