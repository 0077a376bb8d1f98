import ZWave.CommandClass.Reading

/-!
# Network models

A model describes the devices of a network: what kind they are, which command classes they support,
what they report, and how they fail and sleep. `NetworkModel.validate` finds the first fault that
keeps a model from being simulated.
-/

namespace ZWave

/-- The kinds of device a model tells apart. -/
inductive DeviceKind where
  | binarySwitch
  | multilevelSwitch
  | binarySensor
  | multilevelSensor
  | thermostat
  | generic
deriving DecidableEq

namespace DeviceKind

def all : List DeviceKind :=
  [binarySwitch, multilevelSwitch, binarySensor, multilevelSensor, thermostat, generic]

/-- The name of a kind in model files. -/
def name : DeviceKind → String
  | binarySwitch => "binary_switch"
  | multilevelSwitch => "multilevel_switch"
  | binarySensor => "binary_sensor"
  | multilevelSensor => "multilevel_sensor"
  | thermostat => "thermostat"
  | generic => "generic"

def genericType : DeviceKind → UInt8
  | binarySwitch => GenericType.switchBinary
  | multilevelSwitch => GenericType.switchMultilevel
  | binarySensor => GenericType.sensorBinary
  | multilevelSensor => GenericType.sensorMultilevel
  | thermostat => GenericType.thermostat
  | generic => GenericType.unspecified

end DeviceKind

/-- The command classes a model may list. -/
inductive ModelClass where
  | basic
  | switchBinary
  | switchMultilevel
  | manufacturerSpecific
  | wakeUp
  | version
deriving DecidableEq

namespace ModelClass

def all : List ModelClass :=
  [basic, switchBinary, switchMultilevel, manufacturerSpecific, wakeUp, version]

/-- The name of a class in model files. -/
def name : ModelClass → String
  | basic => "basic"
  | switchBinary => "switch_binary"
  | switchMultilevel => "switch_multilevel"
  | manufacturerSpecific => "manufacturer_specific"
  | wakeUp => "wake_up"
  | version => "version"

/-- The id of a class on the wire. -/
def id : ModelClass → UInt8
  | basic => ClassId.basic
  | switchBinary => ClassId.switchBinary
  | switchMultilevel => ClassId.switchMultilevel
  | manufacturerSpecific => ClassId.manufacturerSpecific
  | wakeUp => ClassId.wakeUp
  | version => ClassId.version

end ModelClass

/-- The software of a device that a model does not describe further. -/
def Firmware.usual : Firmware := ⟨3, ⟨4, 5⟩, ⟨1, 0⟩⟩

structure DeviceModel where
  id : NodeId
  name : Option String := none
  kind : DeviceKind := .generic
  /-- Whether the device is always reachable; one that is not sleeps and wakes. -/
  listening : Bool := true
  /-- The supported command classes, in the order the device reports them. -/
  classes : List ModelClass := []
  /-- The versions the device speaks of its classes, where they are told. -/
  classVersions : List (ModelClass × UInt8) := []
  firmware : Firmware := .usual
  manufacturer : Option ProductIdentity := none
  /-- The requests for node information the device fails before it answers one. -/
  failNodeInfo : Nat := 0
  /-- The cycles a sleeping device sleeps before it wakes. -/
  wakeInterval : Option Nat := none
  /-- The cycles a sleeping device then stays awake. -/
  awakeCycles : Nat := 10
  /-- The level the device has at first. -/
  level : UInt8 := 0
deriving DecidableEq

namespace DeviceModel

/-- The name in reports: the given one, or else one made of the id. -/
def displayName (d : DeviceModel) : String := d.name.getD s!"node{d.id}"

/-- What the network layer learns when the device joins. -/
def protocolInfo (d : DeviceModel) : ProtocolInfo where
  device :=
    { basic := if d.listening then BasicType.routingSlave else BasicType.slave
      generic := d.kind.genericType
      specific := 0x01 }
  listening := d.listening

/-- The ids of the supported classes, in the order of the model. -/
def classIds (d : DeviceModel) : List UInt8 := d.classes.map (·.id)

/-- The version of a class that the device speaks; zero for a class it does not support. -/
def classVersion (d : DeviceModel) (id : UInt8) : UInt8 :=
  match d.classes.find? (fun c => c.id == id) with
  | some c => (d.classVersions.lookup c).getD 1
  | none => 0

end DeviceModel

structure NetworkModel where
  nodes : List DeviceModel := []
deriving DecidableEq

/-! ## Validation -/

inductive ModelFault where
  | invalidNodeId (id : NodeId)
  | duplicateNode (id : NodeId)
  /-- A device sleeps, and it is not said how long. -/
  | missingWakeInterval (id : NodeId)
deriving DecidableEq

def ModelFault.message : ModelFault → String
  | invalidNodeId id => s!"Invalid node id {id}: must be between 1 and 232"
  | duplicateNode id => s!"Duplicate node id {id}"
  | missingWakeInterval id => s!"Node {id} is not listening and has no wake_interval"

/-- The first rule that a device breaks which follows devices with the ids `seen`. -/
def DeviceModel.fault? (d : DeviceModel) (seen : List NodeId) : Option ModelFault :=
  if d.id = 0 ∨ NodeId.highest < d.id then some (.invalidNodeId d.id)
  else if d.id ∈ seen then some (.duplicateNode d.id)
  else if d.listening = false ∧ d.wakeInterval = none then some (.missingWakeInterval d.id)
  else none

/-- The first fault of devices which follow others with the ids `seen`. -/
def firstFault? : List DeviceModel → List NodeId → Option ModelFault
  | [], _ => none
  | d :: rest, seen =>
    match d.fault? seen with
    | some fault => some fault
    | none => firstFault? rest (d.id :: seen)

/-- Accepts a model whose ids are valid and distinct, and whose sleeping devices wake. -/
def NetworkModel.validate (m : NetworkModel) : Except ModelFault Unit :=
  match firstFault? m.nodes [] with
  | some fault => .error fault
  | none => .ok ()

end ZWave
