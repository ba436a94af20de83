import DeviceOrchestrator.Core.Device
import DeviceOrchestrator.Lib.Run

/-!
# adb calls as a step function

`Adb.run` starts adb, which leads a process group of its own, and then awaits
`create_subprocess_exec`, `wait_for(communicate)` and, after a timeout, `wait_for(wait)`. A
cancellation can arrive at each of these awaits. Inside `create_subprocess_exec` asyncio closes its
transport, which sends SIGKILL to adb alone, and waits for the exit; a timeout of `communicate`
sends SIGKILL to the group. The callers are the coroutines that await adb calls one after another:
an attempt, which holds a lease until it has ended, and a probe, a recovery or a poll, which holds
none. Which of two deadlines passes first is left open.
-/
namespace DeviceOrchestrator

/-- `AdbResult`. -/
structure AdbResult where
  /-- The exit code. -/
  returncode : Int
  /-- What adb printed. -/
  stdout : String
  /-- What adb printed as errors. -/
  stderr : String := ""
  /-- Whether the call was cut short. -/
  timedOut : Bool := false
  deriving DecidableEq

/-- `AdbResult.ok`. -/
def AdbResult.ok (result : AdbResult) : Bool := result.returncode = 0 && !result.timedOut

/-- The process of an adb call. -/
inductive AdbProcess
  /-- It runs. -/
  | running
  /-- SIGKILL was sent to it alone. -/
  | killed
  /-- SIGKILL was sent to its process group. -/
  | groupKilled
  /-- It has exited. -/
  | exited (returncode : Int)
  deriving DecidableEq

namespace AdbProcess

/-- The process has exited, or its group has been sent SIGKILL. -/
def contained : AdbProcess → Bool
  | groupKilled | exited _ => true
  | running | killed => false

/-- The transport of asyncio is closed: a process that has not exited is killed. -/
def close : AdbProcess → AdbProcess
  | running => killed
  | other => other

/-- `_kill_tree`; a process that is gone is not looked for. -/
def killTree : AdbProcess → AdbProcess
  | exited returncode => exited returncode
  | _ => groupKilled

/-- A process that has not exited exits. -/
def exit (returncode : Int) : AdbProcess → Option AdbProcess
  | exited _ => none
  | _ => some (exited returncode)

end AdbProcess

/-- The awaits of `Adb.run`, and how it ends. -/
inductive AdbStage
  /-- `create_subprocess_exec`, which connects the pipes. -/
  | connecting
  /-- `create_subprocess_exec`, which closed its transport and awaits the exit. -/
  | aborting
  /-- `wait_for(communicate)`. -/
  | communicating
  /-- `wait_for(wait)`, after a timeout. -/
  | reaping
  /-- It returned. -/
  | returned (result : AdbResult)
  /-- It raised. -/
  | raised
  deriving DecidableEq

/-- What an await of `Adb.run` answers. -/
inductive AdbAnswer
  /-- The pipes are connected. -/
  | connected
  /-- The pipes cannot be connected. -/
  | refused
  /-- The process of an aborted call has exited. -/
  | aborted
  /-- `communicate` returns. -/
  | completed (stdout stderr : String)
  /-- `communicate` does not return within the budget. -/
  | timedOut
  /-- The process exits after a timeout, or does not within two seconds. -/
  | reaped
  /-- The coroutine is cancelled. -/
  | cancelled
  deriving DecidableEq

/-- A call of `Adb.run` that started a process. -/
structure AdbCall where
  /-- The command. -/
  argv : List String
  /-- Where it is suspended. -/
  stage : AdbStage := .connecting
  /-- Its process. -/
  process : AdbProcess := .running
  deriving DecidableEq

namespace AdbCall

/-- The command line. -/
def commandLine (binary : String) (args : List String) (serial : Option String) : List String :=
  [binary] ++ (match serial.filter (· ≠ "") with
    | some serial => ["-s", serial]
    | none => []) ++ args

/-- Whether `run` has returned or raised. -/
def ended (call : AdbCall) : Bool :=
  match call.stage with
  | .returned _ | .raised => true
  | _ => false

/-- What follows an await of `run`, up to the next one. -/
def resume (call : AdbCall) (answer : AdbAnswer) : Option AdbCall :=
  match call.stage, answer with
  | .connecting, .connected => some { call with stage := .communicating }
  | .connecting, .refused | .connecting, .cancelled =>
    some { call with stage := .aborting, process := call.process.close }
  | .aborting, .aborted =>
    match call.process with
    | .exited _ => some { call with stage := .raised }
    | _ => none
  | .communicating, .completed stdout stderr =>
    match call.process with
    | .exited returncode =>
      some { call with stage := .returned ⟨returncode, stdout, stderr, false⟩ }
    | _ => none
  | .communicating, .timedOut =>
    some { call with stage := .reaping, process := call.process.killTree }
  | .reaping, .reaped => some { call with stage := .returned ⟨-1, "", "timeout", true⟩ }
  -- The `except` clauses of `run` do not cover these.
  | .aborting, .cancelled | .communicating, .cancelled | .reaping, .cancelled =>
    some { call with stage := .raised }
  | _, _ => none

end AdbCall

/-- How far a caller has come. -/
inductive AdbPhase
  /-- It is at work. -/
  | working
  /-- It was cancelled, and passes that on. -/
  | cancelled
  /-- It has ended. -/
  | ended
  /-- It has ended, and its lease was released. -/
  | released
  deriving DecidableEq

/-- A coroutine that calls adb. -/
structure AdbCaller where
  /-- The lease of an attempt. -/
  lease : Option Lease
  /-- How far it has come. -/
  phase : AdbPhase := .working
  /-- Its calls, the latest first. -/
  calls : List AdbCall := []
  deriving DecidableEq

namespace AdbCaller

/-- The caller awaits no call. -/
def idle (caller : AdbCaller) : Bool := caller.calls.all AdbCall.ended

/-- `run`. Where adb is not on the PATH or cannot be executed it raises before any process. -/
def run (binary : String) (caller : AdbCaller) (args : List String) (serial : Option String)
    (spawned : Bool) : Option AdbCaller :=
  if caller.phase = .working ∧ caller.idle = true then
    if spawned then
      some { caller with
        calls := { argv := AdbCall.commandLine binary args serial } :: caller.calls }
    else some caller
  else none

/-- The latest call resumes. -/
def resume (caller : AdbCaller) (answer : AdbAnswer) : Option AdbCaller :=
  match caller.calls with
  | [] => none
  | call :: earlier =>
    (call.resume answer).map fun later => { caller with calls := later :: earlier }

/-- The caller is cancelled, and the call it awaits with it. -/
def cancel (caller : AdbCaller) : Option AdbCaller :=
  if caller.phase = .working ∨ caller.phase = .cancelled then
    if caller.idle then some { caller with phase := .cancelled }
    else (caller.resume .cancelled).map fun later => { later with phase := .cancelled }
  else none

/-- The process of a call exits. -/
def exit (caller : AdbCaller) (index : Nat) (returncode : Int) : Option AdbCaller := do
  let call ← caller.calls[index]?
  let process ← call.process.exit returncode
  some { caller with calls := caller.calls.set index { call with process := process } }

/-- The caller returns or raises. -/
def finish (caller : AdbCaller) : Option AdbCaller :=
  if (caller.phase = .working ∨ caller.phase = .cancelled) ∧ caller.idle = true then
    some { caller with phase := .ended }
  else none

/-- `release`, in the `finally` of `_run_once`. -/
def release (caller : AdbCaller) : Option AdbCaller :=
  if caller.phase = .ended ∧ caller.lease.isSome = true then some { caller with phase := .released }
  else none

end AdbCaller

/-- What happens to a caller. -/
inductive AdbEvent
  /-- It calls `run`. -/
  | run (args : List String) (serial : Option String) (spawned : Bool)
  /-- The call that it awaits resumes, other than by a cancellation. -/
  | resume (answer : AdbAnswer)
  /-- It is cancelled: its task ran out of time, or is stopped. -/
  | cancel
  /-- The process of one of its calls exits. -/
  | exit (call : Nat) (returncode : Int)
  /-- It returns or raises. -/
  | finish
  /-- Its lease is released. -/
  | release
  deriving DecidableEq

/-- One step of a caller. -/
def AdbCaller.step (binary : String) (caller : AdbCaller) : AdbEvent → Option AdbCaller
  | .run args serial spawned => caller.run binary args serial spawned
  | .resume answer => if answer = .cancelled then none else caller.resume answer
  | .cancel => caller.cancel
  | .exit call returncode => caller.exit call returncode
  | .finish => caller.finish
  | .release => caller.release

/-- Every coroutine that calls adb. -/
structure AdbWorld where
  /-- Every caller so far. -/
  callers : List AdbCaller := []
  deriving DecidableEq

/-- A caller starts, or something happens to one. -/
inductive AdbAction
  /-- A caller starts. -/
  | start (lease : Option Lease)
  /-- A caller goes on. -/
  | turn (caller : Nat) (event : AdbEvent)
  deriving DecidableEq

/-- One step. -/
def AdbWorld.step (binary : String) (world : AdbWorld) : AdbAction → Option AdbWorld
  | .start lease => some { callers := world.callers ++ [{ lease := lease }] }
  | .turn index event => (world.callers[index]?.bind fun caller => caller.step binary event).map
      fun caller => { callers := world.callers.set index caller }

end DeviceOrchestrator
