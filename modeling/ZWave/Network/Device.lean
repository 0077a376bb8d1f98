import ZWave.Model.Basic
import ZWave.CommandClass.Reading

/-!
# Simulated devices

A simulated device answers frames as the device of its model would. One that sleeps can be reached
for a few cycles after it wakes, which it announces by telling its node information.
-/

namespace ZWave

/-- A device and the state it is in. -/
structure SimulatedDevice where
  model : DeviceModel
  /-- The requests for node information it will still fail. -/
  failuresLeft : Nat
  level : UInt8
  /-- The cycles it stays awake, for one that sleeps. -/
  awakeFor : Nat := 0
  /-- The cycles until it wakes, for one that sleeps. -/
  asleepFor : Nat
deriving DecidableEq

namespace SimulatedDevice

/-- The device of a model as it joins: asleep, unless it listens. -/
def ofModel (model : DeviceModel) : SimulatedDevice where
  model
  failuresLeft := model.failNodeInfo
  level := model.level
  asleepFor := model.wakeInterval.getD 0

def id (d : SimulatedDevice) : NodeId := d.model.id

/-- Whether a frame sent now reaches the device. -/
def isReachable (d : SimulatedDevice) : Bool := d.model.listening || decide (0 < d.awakeFor)

/-- The update that tells what the device is. -/
def nodeInfo (d : SimulatedDevice) : Frame :=
  .applicationUpdate (.infoReceived d.id ⟨d.model.protocolInfo.device, d.model.classIds⟩)

/-! ## Sleep -/

/-- Let a cycle pass. A device that wakes announces itself. -/
def advance (d : SimulatedDevice) : SimulatedDevice × Option Frame :=
  if d.model.listening then (d, none)
  else if 0 < d.awakeFor then
    let d := { d with awakeFor := d.awakeFor - 1 }
    if d.awakeFor = 0 then ({ d with asleepFor := d.model.wakeInterval.getD 0 }, none)
    else (d, none)
  else
    let d := { d with asleepFor := d.asleepFor - 1 }
    if 0 < d.asleepFor then (d, none)
    else ({ d with awakeFor := max d.model.awakeCycles 1 }, some d.nodeInfo)

/-! ## Answers -/

def switchValue (d : SimulatedDevice) : UInt8 := if d.level = 0 then Level.off else Level.on

/-- The level a dimmer takes when it is set to `level`. -/
def dimmed (d : SimulatedDevice) (level : UInt8) : UInt8 :=
  if level = Level.restore then
    if d.level = 0 then Level.highest else d.level
  else min level Level.highest

/-- The bytes of a word, the high one first. -/
def wordBytes (w : UInt16) : List UInt8 := [UInt8.ofNat (w.toNat / 256), UInt8.ofNat (w.toNat % 256)]

def identityBytes (p : ProductIdentity) : List UInt8 :=
  wordBytes p.manufacturer ++ wordBytes p.productType ++ wordBytes p.product

def firmwareBytes (f : Firmware) : List UInt8 :=
  [f.library, f.protocol.major, f.protocol.minor, f.application.major, f.application.minor]

/-- The answer to a command of a supported class, and the device after it. A command that lacks
its argument, or that the device does not know, is not answered. -/
def answer (d : SimulatedDevice) (classId command : UInt8) (arguments : List UInt8) :
    SimulatedDevice × Option (List UInt8) :=
  let set (value : UInt8 → UInt8) (report : SimulatedDevice → UInt8) :
      SimulatedDevice × Option (List UInt8) :=
    match arguments with
    | argument :: _ =>
      let d := { d with level := value argument }
      (d, some [Command.report, report d])
    | [] => (d, none)
  if classId = ClassId.basic then
    if command = Command.get then (d, some [Command.report, d.level])
    else if command = Command.set then set (fun v => v) (·.level)
    else (d, none)
  else if classId = ClassId.switchBinary then
    if command = Command.get then (d, some [Command.report, d.switchValue])
    else if command = Command.set then set (fun v => v) switchValue
    else (d, none)
  else if classId = ClassId.switchMultilevel then
    if command = Command.get then (d, some [Command.report, d.level])
    else if command = Command.set then set d.dimmed (·.level)
    else (d, none)
  else if classId = ClassId.manufacturerSpecific then
    if command = Command.manufacturerGet then
      (d, some (Command.manufacturerReport :: identityBytes (d.model.manufacturer.getD {})))
    else (d, none)
  else if classId = ClassId.version then
    if command = Command.versionGet then
      (d, some (Command.versionReport :: firmwareBytes d.model.firmware))
    else if command = Command.classVersionGet then
      match arguments with
      | queried :: _ =>
        (d, some [Command.classVersionReport, queried, d.model.classVersion queried])
      | [] => (d, none)
    else (d, none)
  else (d, none)

/-- Answer a payload: only one of a class the device supports, with a command byte, is answered,
in the same class. -/
def answerPayload (d : SimulatedDevice) : List UInt8 → SimulatedDevice × Option Payload
  | classId :: command :: arguments =>
    if 0 < d.model.classVersion classId then
      let (d, body) := d.answer classId command arguments
      (d, body.map fun body => ⟨classId, body⟩)
    else (d, none)
  | _ => (d, none)

/-- Answer a frame. A request for node information is always answered, if only by a failure; what
else is sent to a device that sleeps is lost. -/
def handle (d : SimulatedDevice) : Frame → SimulatedDevice × Option Frame
  | .requestNodeInfo _ =>
    if d.isReachable = false then (d, some (.applicationUpdate .requestFailed))
    else if 0 < d.failuresLeft then
      ({ d with failuresLeft := d.failuresLeft - 1 }, some (.applicationUpdate .requestFailed))
    else (d, some d.nodeInfo)
  | .sendData request =>
    if d.isReachable then
      let (d, payload) := d.answerPayload request.payload
      (d, payload.map fun payload => .applicationCommand { nodeId := d.id, payload })
    else (d, none)
  | _ => (d, none)

end SimulatedDevice

end ZWave
