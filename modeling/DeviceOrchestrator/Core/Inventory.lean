import DeviceOrchestrator.Core.Adb
import DeviceOrchestrator.Core.Target

/-!
# The inventory that adb reports

`AdbDeviceSource.poll` runs `adb devices -l`, parses what it prints and adds the tags of the bench
inventory. A call that adb could not make raises; one that adb made without success is an empty
inventory. Lines and words are cut as `str.splitlines` and `str.split` cut them.
-/
namespace DeviceOrchestrator

/-- Where `str.splitlines` ends a line. -/
def lineBreak (char : Char) : Bool :=
  [10, 11, 12, 13, 28, 29, 30, 133, 8232, 8233].contains char.toNat

/-- The lines of a text whose first line was read up to here, in reverse. -/
def splitLinesFrom (line : List Char) : List Char → List (List Char)
  | [] => if line.isEmpty then [] else [line.reverse]
  | [char] => if lineBreak char then [line.reverse] else [(char :: line).reverse]
  | char :: next :: rest =>
    if char = '\r' ∧ next = '\n' then line.reverse :: splitLinesFrom [] rest
    else if lineBreak char then line.reverse :: splitLinesFrom [] (next :: rest)
    else splitLinesFrom (char :: line) (next :: rest)

/-- `text.splitlines()`. -/
def splitLines (text : String) : List String :=
  (splitLinesFrom [] text.toList).map String.ofList

/-- `text.strip()`. -/
def strip (text : String) : String := String.ofList (stripped isSpace text)

/-- The words of a text whose first word was read up to here, in reverse. -/
def wordsFrom (word : List Char) : List Char → List (List Char)
  | [] => if word.isEmpty then [] else [word.reverse]
  | char :: rest =>
    if isSpace char then
      if word.isEmpty then wordsFrom [] rest else word.reverse :: wordsFrom [] rest
    else wordsFrom (char :: word) rest

/-- `text.split()`. -/
def words (text : String) : List String := (wordsFrom [] text.toList).map String.ofList

/-- `text.startswith(start)`. -/
def startsWith (text start : String) : Bool := start.toList.isPrefixOf text.toList

/-- `_ADB_STATE_MAP`, with its default. -/
def adbState (rawState : String) : DeviceState :=
  if rawState = "device" then .online
  else if rawState = "offline" then .offline
  else if rawState = "unauthorized" then .unauthorized
  else .offline

/-- `_transport_for`. -/
def transportFor (serial : String) : String :=
  if startsWith serial "127.0.0.1:" || startsWith serial "localhost:" then "tunnel"
  else if serial.toList.contains ':' then "tcp"
  else "usb"

/-- `props.get(name, "")`: the last piece of a name counts. -/
def adbProp (name : String) (pieces : List String) : String :=
  let props := (pieces.filter fun piece => piece.toList.contains ':').map partitionColon
  (props.reverse.lookup name).getD ""

/-- One line of `_parse_devices`. -/
def parseDevice (line : String) : Option Device :=
  let line := strip line
  if line = "" || startsWith line "List of devices" then none
  else match words line with
    | serial :: rawState :: pieces =>
      some { id := serial
             transport := transportFor serial
             state := adbState rawState
             model := adbProp "model" pieces }
    | _ => none

/-- `_parse_devices`. -/
def parseDevices (raw : String) : List Device := (splitLines raw).filterMap parseDevice

/-- A phone and one that does not answer, as adb lists them. -/
example : parseDevices "R9WABC123 device model:Pixel_7 device:y\n10.0.0.5:5555 offline\n" =
    [{ id := "R9WABC123", model := "Pixel_7" },
      { id := "10.0.0.5:5555", transport := "tcp", state := .offline }] := by
  decide +kernel

/-- `Adb.devices`, by what `run` answers. -/
def adbDevices (answer : Except Raised AdbResult) : Except Raised (List Device) := do
  let result ← answer
  if !result.ok then .ok [] else .ok (parseDevices result.stdout)

/-- `AdbDeviceSource`. -/
structure AdbDeviceSource where
  /-- `_tags`. -/
  tags : DeviceId → Option (List String) := fun _ => none

/-- `AdbDeviceSource.poll`. -/
def AdbDeviceSource.poll (source : AdbDeviceSource) (answer : Except Raised AdbResult) :
    Except Raised (List Device) := do
  let devices ← adbDevices answer
  .ok (devices.map fun device => { device with tags := (source.tags device.id).getD [] })

/-- `refresh` over adb: the registry that it found when it had the lock, after it. A poll that
raises ends the call before. -/
def Registry.refreshFrom (registry : Registry) (source : AdbDeviceSource)
    (answer : Except Raised AdbResult) : Registry :=
  match source.poll answer with
  | .error _ => registry
  | .ok polled => registry.refresh polled

end DeviceOrchestrator
