import ZWave.Frame.Basic
import ZWave.Text.Hex

/-!
# Frames in diagnostics

One line per frame: what it is, the node it names, and its payload in hexadecimal.
-/

namespace ZWave

def Frame.text : Frame → String
  | sendData f => s!"SendData[{f.label}] node={f.nodeId} payload={Hex.bytes f.payload}"
  | requestNodeInfo nodeId => s!"RequestNodeInfo node={nodeId}"
  | applicationCommand f =>
    s!"ApplicationCommand node={f.nodeId} payload={Hex.bytes f.payload.bytes}"
  | applicationUpdate f => s!"ApplicationUpdate node={f.nodeId} status={Hex.byte f.status}"
  | other functionId data => s!"Frame[{Hex.byte functionId}] {Hex.bytes data}"

end ZWave
