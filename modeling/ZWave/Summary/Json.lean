import ZWave.Summary.Basic
import ZWave.Text.Json

/-!
# Summaries as JSON

The summary as an object for other programs. What is not known of a node is left out.
-/

namespace ZWave

/-- The members of a value that is known, and none of one that is not. -/
def optionalMember {α : Type} (name : String) (value : Option α) (f : α → JsonValue) :
    List (String × JsonValue) :=
  (value.map fun a => (name, f a)).toList

def ClassSummary.json (c : ClassSummary) : JsonValue :=
  .object [("id", .string (Hex.byte c.id)), ("name", .string c.name),
    ("version", .number c.version.toNat)]

def Firmware.json (f : Firmware) : JsonValue :=
  .object [("library", .string f.libraryText), ("protocol", .string f.protocol.text),
    ("application", .string f.application.text)]

def ProductIdentity.json (p : ProductIdentity) : JsonValue :=
  .object [("manufacturer_id", .string (Hex.word p.manufacturer)),
    ("product_type_id", .string (Hex.word p.productType)),
    ("product_id", .string (Hex.word p.product))]

def NodeSummary.json (s : NodeSummary) : JsonValue :=
  .object ([("node_id", .number s.id.toNat), ("profile", .string s.profile.name),
      ("state", .string s.state.key), ("listening", .bool s.listening),
      ("command_classes", .array (s.classes.map (·.json)))]
    ++ optionalMember "firmware" s.firmware Firmware.json
    ++ optionalMember "manufacturer" s.manufacturer ProductIdentity.json
    ++ optionalMember "level" s.level (fun level => .number level.toNat)
    ++ [("write_queue", .number s.writeQueue), ("wakeup_queue", .number s.wakeupQueue)])

def NetworkSummary.json (s : NetworkSummary) : JsonValue :=
  .object [("cycles", .number s.cycles), ("started", .number s.started),
    ("nodes", .array (s.nodes.map (·.json)))]

end ZWave
