/-!
# Numbers of the serial protocol

The one-byte codes that frames, command classes and device types are made of, under the names
this library uses for them.
-/

namespace ZWave

/-- The one-byte network address of a node. -/
abbrev NodeId := UInt8

/-- The highest address a network assigns to a node. -/
abbrev NodeId.highest : NodeId := 232

/-! ## Frame types -/

/-- From the host to the module, or unsolicited from the module to the host. -/
abbrev FrameType.request : UInt8 := 0x00

/-- The module's response to a request. -/
abbrev FrameType.response : UInt8 := 0x01

/-! ## Function ids -/

/-- A command class payload arrived from a node. -/
abbrev FunctionId.applicationCommand : UInt8 := 0x04

/-- Send a command class payload to a node. -/
abbrev FunctionId.sendData : UInt8 := 0x13

/-- Node information arrived, or a request for it failed. -/
abbrev FunctionId.applicationUpdate : UInt8 := 0x49

/-- Ask a node for its node information. -/
abbrev FunctionId.requestNodeInfo : UInt8 := 0x60

/-! ## Status of an application update -/

/-- A request for node information could not be delivered. -/
abbrev UpdateStatus.requestFailed : UInt8 := 0x81

/-- A request for node information was delivered, and the information has not arrived yet. -/
abbrev UpdateStatus.requestDone : UInt8 := 0x82

/-- Node information arrived. -/
abbrev UpdateStatus.infoReceived : UInt8 := 0x84

/-! ## Transmit options -/

/-- The destination acknowledges the frame. -/
abbrev TransmitOption.acknowledge : UInt8 := 0x01

/-- The module may route the frame. -/
abbrev TransmitOption.autoRoute : UInt8 := 0x04

/-- Explorer frames may be used when routing fails. -/
abbrev TransmitOption.explore : UInt8 := 0x20

/-- The options every command to a node is sent with. -/
abbrev TransmitOption.standard : UInt8 :=
  TransmitOption.acknowledge ||| TransmitOption.autoRoute ||| TransmitOption.explore

/-! ## Command classes -/

abbrev ClassId.basic : UInt8 := 0x20
abbrev ClassId.switchBinary : UInt8 := 0x25
abbrev ClassId.switchMultilevel : UInt8 := 0x26
abbrev ClassId.manufacturerSpecific : UInt8 := 0x72
/-- Wake-up, the class of devices that sleep. -/
abbrev ClassId.wakeUp : UInt8 := 0x84
abbrev ClassId.version : UInt8 := 0x86

/-! ## Commands of the command classes -/

/-- Set the value of a Basic or switch class. -/
abbrev Command.set : UInt8 := 0x01
/-- Ask for the value of a Basic or switch class. -/
abbrev Command.get : UInt8 := 0x02
/-- The value of a Basic or switch class. -/
abbrev Command.report : UInt8 := 0x03
abbrev Command.manufacturerGet : UInt8 := 0x04
abbrev Command.manufacturerReport : UInt8 := 0x05
abbrev Command.versionGet : UInt8 := 0x11
abbrev Command.versionReport : UInt8 := 0x12
abbrev Command.classVersionGet : UInt8 := 0x13
abbrev Command.classVersionReport : UInt8 := 0x14

/-! ## Levels -/

/-- The highest dimming level a multilevel switch can be set to. -/
abbrev Level.highest : UInt8 := 99

/-- In place of a level: restore the previous one. -/
abbrev Level.restore : UInt8 := 0xFF

/-- The value of a switch that is on. -/
abbrev Level.on : UInt8 := 0xFF

/-- The value of a switch that is off. -/
abbrev Level.off : UInt8 := 0x00

/-- In place of a dimming duration: the device's own. -/
abbrev Level.deviceDuration : UInt8 := 0xFF

/-! ## Basic device types -/

abbrev BasicType.controller : UInt8 := 0x01
abbrev BasicType.staticController : UInt8 := 0x02
abbrev BasicType.slave : UInt8 := 0x03
abbrev BasicType.routingSlave : UInt8 := 0x04

/-! ## Generic device types -/

/-- The type of a device that tells no more about itself. -/
abbrev GenericType.unspecified : UInt8 := 0x00
abbrev GenericType.genericController : UInt8 := 0x01
abbrev GenericType.staticController : UInt8 := 0x02
abbrev GenericType.thermostat : UInt8 := 0x08
abbrev GenericType.switchBinary : UInt8 := 0x10
abbrev GenericType.switchMultilevel : UInt8 := 0x11
abbrev GenericType.sensorBinary : UInt8 := 0x20
abbrev GenericType.sensorMultilevel : UInt8 := 0x21

end ZWave
