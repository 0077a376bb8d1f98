import ZWave.CommandClass.Reading

/-!
# Requests to a device

The frames that ask a node for what it reports, and those that set its level.
-/

namespace ZWave.Request

/-- A command that the node answers with a report. -/
def ask (label : String) (nodeId : NodeId) (payload : List UInt8) : Frame :=
  .sendData { label, nodeId, payload, responseExpected := true }

/-- A command that the node need not answer. -/
def tell (label : String) (nodeId : NodeId) (payload : List UInt8) : Frame :=
  .sendData { label, nodeId, payload, responseExpected := false }

def basicGet (nodeId : NodeId) : Frame :=
  ask "BASIC_GET" nodeId [ClassId.basic, Command.get]

def basicSet (nodeId : NodeId) (value : UInt8) : Frame :=
  tell "BASIC_SET" nodeId [ClassId.basic, Command.set, value]

def switchBinaryGet (nodeId : NodeId) : Frame :=
  ask "SWITCH_BINARY_GET" nodeId [ClassId.switchBinary, Command.get]

def switchBinarySet (nodeId : NodeId) (on : Bool) : Frame :=
  tell "SWITCH_BINARY_SET" nodeId
    [ClassId.switchBinary, Command.set, if on then Level.on else Level.off]

def switchMultilevelGet (nodeId : NodeId) : Frame :=
  ask "SWITCH_MULTILEVEL_GET" nodeId [ClassId.switchMultilevel, Command.get]

/-- Set a dimmer that speaks `version` of its class. A level above the highest is lowered to it,
the one that stands for the previous level apart; from version 2 on a duration follows. -/
def switchMultilevelSet (nodeId : NodeId) (version level : UInt8) : Frame :=
  let level := if level = Level.restore then level else min level Level.highest
  let duration := if 2 ≤ version then [Level.deviceDuration] else []
  tell "SWITCH_MULTILEVEL_SET" nodeId
    ([ClassId.switchMultilevel, Command.set, level] ++ duration)

def manufacturerGet (nodeId : NodeId) : Frame :=
  ask "MANUFACTURER_SPECIFIC_GET" nodeId [ClassId.manufacturerSpecific, Command.manufacturerGet]

def versionGet (nodeId : NodeId) : Frame :=
  ask "VERSION_GET" nodeId [ClassId.version, Command.versionGet]

/-- Ask which version of class `classId` the device speaks. -/
def classVersionGet (nodeId : NodeId) (classId : UInt8) : Frame :=
  ask "VERSION_COMMAND_CLASS_GET" nodeId [ClassId.version, Command.classVersionGet, classId]

end ZWave.Request
