import ZWave.Summary.Basic
import ZWave.Text.Column

/-!
# Summaries as text

A line for the network, then for each node a line in columns and what else is known, indented.
-/

namespace ZWave

/-- The lines of what is known of a node beyond its state. -/
def NodeSummary.details (s : NodeSummary) : List String :=
  let classes := s.classes.map fun c => s!"{Hex.byte c.id} {c.name} v{c.version}"
  let firmware := s.firmware.map fun f =>
    s!"firmware: library={f.libraryText} protocol={f.protocol.text} " ++
      s!"application={f.application.text}"
  let manufacturer := s.manufacturer.map fun m =>
    s!"manufacturer: {Hex.word m.manufacturer} product type: {Hex.word m.productType} " ++
      s!"product: {Hex.word m.product}"
  let level := s.level.map fun level => s!"level: {level}"
  let queued :=
    if 0 < s.writeQueue ∨ 0 < s.wakeupQueue then
      [s!"queued: {s.writeQueue} to send, {s.wakeupQueue} waiting for wake-up"]
    else []
  classes ++ firmware.toList ++ manufacturer.toList ++ level.toList ++ queued

/-- The lines of a node. -/
def NodeSummary.lines (s : NodeSummary) : List String :=
  let id := Column.right 3 (toString s.id)
  let state := Column.left 26 s.state.name
  let profile := Column.left 18 s.profile.name
  s!"node {id}  {state} {profile} listening={s.listening}" :: s.details.map ("    " ++ ·)

/-- The summary of a network, each line ended by a line break. -/
def NetworkSummary.text (s : NetworkSummary) : String :=
  let first := s!"{s.started} of {s.nodes.length} nodes started after {s.cycles} cycles"
  String.join ((first :: s.nodes.flatMap (·.lines)).map (· ++ "\n"))

end ZWave
