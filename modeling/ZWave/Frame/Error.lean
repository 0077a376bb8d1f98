import ZWave.Text.Hex

/-!
# Frame errors

Why a body cannot be encoded or decoded, and why a command class payload cannot be read.
-/

namespace ZWave

/-- What is wrong with a frame or with the payload it carries. -/
inductive FrameError where
  /-- The body ends before its fixed fields do. -/
  | frameTooShort (expected actual : Nat)
  /-- The length byte counts more bytes than follow it. -/
  | lengthMismatch (declared remaining : Nat)
  /-- The length byte would have to hold `length`, which does not fit it. -/
  | tooLong (length : Nat)
  /-- There is no body, or no payload in it. -/
  | empty
  /-- The payload belongs to a class that its handler does not interpret. -/
  | unexpectedClass (expected actual : UInt8)
  /-- The payload ends before the arguments of its command do. -/
  | payloadTooShort (command : UInt8) (expected actual : Nat)
deriving DecidableEq

def FrameError.message : FrameError → String
  | frameTooShort expected actual =>
    s!"frame too short: expected at least {expected} bytes, got {actual}"
  | lengthMismatch declared remaining =>
    s!"length field {declared} exceeds remaining {remaining} bytes"
  | tooLong length => s!"body of {length} bytes exceeds the 255 byte length field"
  | empty => "empty frame"
  | unexpectedClass expected actual =>
    s!"unexpected frame for command class {Hex.byte expected}: got {Hex.byte actual}"
  | payloadTooShort command expected actual =>
    s!"payload too short for command {Hex.byte command}: expected {expected} bytes, got {actual}"

end ZWave
