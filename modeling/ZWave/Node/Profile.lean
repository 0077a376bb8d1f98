import ZWave.CommandClass.Request

/-!
# Device profiles

A profile carries what depends on the kind of device and not on the command classes it reports: how
its state is refreshed once it is known to be awake, and which handler reads its Basic frames.
-/

namespace ZWave

/-- The kinds of device that are treated apart. -/
inductive Profile where
  | generic
  /-- On/off switches; Basic frames are switch reports in disguise. -/
  | binarySwitch
  /-- Dimmers and other devices with a level. -/
  | multilevelSwitch
deriving DecidableEq

namespace Profile

def name : Profile → String
  | generic => "generic"
  | binarySwitch => "binary_switch"
  | multilevelSwitch => "multilevel_switch"

/-- The frames that bring the view of a device up to date. -/
def refresh : Profile → NodeId → List Frame
  | generic, nodeId => [Request.basicGet nodeId]
  | binarySwitch, nodeId => [Request.switchBinaryGet nodeId]
  | multilevelSwitch, nodeId => [Request.switchMultilevelGet nodeId]

/-- The class whose handler reads Basic frames; `standard` is the one that reads them as a rule. -/
def basicReader : Profile → UInt8 → UInt8
  | generic, standard => standard
  | binarySwitch, _ => ClassId.switchBinary
  | multilevelSwitch, _ => ClassId.switchMultilevel

def ofGenericType (generic : UInt8) : Profile :=
  if generic = GenericType.switchBinary then binarySwitch
  else if generic = GenericType.switchMultilevel then multilevelSwitch
  else .generic

end Profile

end ZWave
