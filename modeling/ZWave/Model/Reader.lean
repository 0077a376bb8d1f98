import ZWave.Model.Basic
import ZWave.Yaml.Decode

/-!
# Model files

A model file is a YAML document with the devices under `nodes`. Fields that are left out have the
value of a plain device; fields of other names are ignored.
-/

namespace ZWave

inductive ModelError where
  /-- The file cannot be read. -/
  | io (reason : String)
  /-- The file is not a model. -/
  | yaml (error : YamlError)
  /-- The model cannot be simulated. -/
  | fault (fault : ModelFault)
deriving DecidableEq

def ModelError.message : ModelError → String
  | io reason => s!"IO error: {reason}"
  | yaml error => s!"YAML parsing error: {error.message}"
  | fault f => f.message

open Yaml.Decode

/-- Read a release, a sequence of its two parts. -/
def Release.decode (node : Yaml.Node) : Yaml.Decode Release := pair byte Release.mk node

def Firmware.decode (node : Yaml.Node) : Yaml.Decode Firmware := do
  let fields ← fields ["library", "protocol", "application"] node
  return {
    library := ← field fields "library" byte
    protocol := ← field fields "protocol" Release.decode
    application := ← field fields "application" Release.decode }

def ProductIdentity.decode (node : Yaml.Node) : Yaml.Decode ProductIdentity := do
  let fields ← fields ["manufacturer_id", "product_type_id", "product_id"] node
  return {
    manufacturer := ← field fields "manufacturer_id" word
    productType := ← field fields "product_type_id" word
    product := ← field fields "product_id" word }

def ModelClass.decode (node : Yaml.Node) : Yaml.Decode ModelClass := named ModelClass.all ModelClass.name node

/-- Read the name of a kind of device. -/
def DeviceKind.decode (node : Yaml.Node) : Yaml.Decode DeviceKind := named DeviceKind.all DeviceKind.name node

def DeviceModel.fieldNames : List String :=
  ["id", "name", "kind", "listening", "command_classes", "class_versions", "firmware",
    "manufacturer", "fail_node_info", "wake_interval", "awake_cycles", "level"]

def DeviceModel.decode (node : Yaml.Node) : Yaml.Decode DeviceModel := do
  let fields ← fields fieldNames node
  let plain : DeviceModel := { id := ← field fields "id" byte }
  return {
    id := plain.id
    name := ← fieldD fields "name" plain.name (optional string)
    kind := ← fieldD fields "kind" plain.kind DeviceKind.decode
    listening := ← fieldD fields "listening" plain.listening bool
    classes := ← fieldD fields "command_classes" plain.classes (list ModelClass.decode)
    classVersions := ← fieldD fields "class_versions" plain.classVersions (keyed ModelClass.decode byte)
    firmware := ← fieldD fields "firmware" plain.firmware Firmware.decode
    manufacturer := ← fieldD fields "manufacturer" plain.manufacturer
      (optional ProductIdentity.decode)
    failNodeInfo := ← fieldD fields "fail_node_info" plain.failNodeInfo longWord
    wakeInterval := ← fieldD fields "wake_interval" plain.wakeInterval (optional longWord)
    awakeCycles := ← fieldD fields "awake_cycles" plain.awakeCycles longWord
    level := ← fieldD fields "level" plain.level byte }

def NetworkModel.decode (node : Yaml.Node) : Yaml.Decode NetworkModel := do
  let fields ← fields ["nodes"] node
  return { nodes := ← fieldD fields "nodes" [] (list DeviceModel.decode) }

/-- The model of a text, which may have faults. -/
def NetworkModel.parse (text : String) : Except YamlError NetworkModel := do
  Yaml.Decode.run NetworkModel.decode (← Yaml.Document.parse text)

/-- The model of a text, if it can be simulated. -/
def NetworkModel.load (text : String) : Except ModelError NetworkModel :=
  match NetworkModel.parse text with
  | .error error => .error (.yaml error)
  | .ok model =>
    match model.validate with
    | .error fault => .error (.fault fault)
    | .ok _ => .ok model

end ZWave
