import ZWave.CommandClass.Registry

/-!
# Startup frames

Each handler asks its device for its present state once, while the node is brought up. The handler
of the Version class also asks for the version of every class that may speak one above the default.
-/

namespace ZWave

/-- The frames that bring a handler up to date, `others` being the handlers beside it. -/
def Handler.startup (h : Handler) (nodeId : NodeId) (others : Registry) : List Frame :=
  match h.kind with
  | .basic => [Request.basicGet nodeId]
  | .switchBinary => [Request.switchBinaryGet nodeId]
  | .switchMultilevel => [Request.switchMultilevelGet nodeId]
  | .manufacturerSpecific => [Request.manufacturerGet nodeId]
  | .version =>
    let versioned := others.toList.filter fun other => defaultVersion < other.maxVersion
    Request.versionGet nodeId :: versioned.map fun other => Request.classVersionGet nodeId other.id

/-- The startup frames of the handler of `id`, if it is registered. -/
def Registry.startup (r : Registry) (nodeId : NodeId) (id : UInt8) : List Frame :=
  match r.get? id with
  | some h => h.startup nodeId (r.without id)
  | none => []

end ZWave
