import ZWave.CommandClass.Kind
import ZWave.Frame.Basic
import ZWave.Frame.Error

/-!
# What a payload says

A command class payload is read in two steps: `Reading.ofPayload` finds out what it says to the
handler of a class, or why it cannot be read, and the handler then records the reading. So a payload
that is refused has no effect on any handler.
-/

namespace ZWave

/-- Who made a device and what it is. -/
structure ProductIdentity where
  manufacturer : UInt16 := 0
  productType : UInt16 := 0
  product : UInt16 := 0
deriving DecidableEq

structure Release where
  major : UInt8
  minor : UInt8
deriving DecidableEq

/-- The release as it is written, the parts in decimal: `4.5`. -/
def Release.text (r : Release) : String := s!"{r.major}.{r.minor}"

/-- The software of a device: the type of its protocol library, and the releases of the protocol
and of the application. -/
structure Firmware where
  library : UInt8
  protocol : Release
  application : Release
deriving DecidableEq

/-- The library type as it is written, in decimal. -/
def Firmware.libraryText (f : Firmware) : String := toString f.library

/-- What a payload says to the handler it is given to. -/
inductive Reading where
  /-- The value of a Basic or switch class. -/
  | value (value : UInt8)
  | identity (identity : ProductIdentity)
  | firmware (firmware : Firmware)
  /-- The version the device speaks of a class. -/
  | classVersion (classId version : UInt8)
  /-- Nothing that the handler records. -/
  | nothing
deriving DecidableEq

namespace Reading

/-- A word of sixteen bits, the high byte first. -/
def word (high low : UInt8) : UInt16 := UInt16.ofNat (high.toNat * 256 + low.toNat)

/-- What command `command` with `arguments` says to the handler of a class. -/
def ofCommand (kind : ClassKind) (command : UInt8) (arguments : List UInt8) :
    Except FrameError Reading :=
  let tooShort (expected : Nat) : Except FrameError Reading :=
    .error (.payloadTooShort command expected (2 + arguments.length))
  match kind with
  | .basic | .switchBinary | .switchMultilevel =>
    if command = Command.set ∨ command = Command.report then
      match arguments with
      | level :: _ => .ok (.value level)
      | _ => tooShort 3
    else .ok .nothing
  | .manufacturerSpecific =>
    if command = Command.manufacturerReport then
      match arguments with
      | m₁ :: m₂ :: t₁ :: t₂ :: p₁ :: p₂ :: _ =>
        .ok (.identity ⟨word m₁ m₂, word t₁ t₂, word p₁ p₂⟩)
      | _ => tooShort 8
    else .ok .nothing
  | .version =>
    if command = Command.versionReport then
      match arguments with
      | library :: p₁ :: p₂ :: a₁ :: a₂ :: _ => .ok (.firmware ⟨library, ⟨p₁, p₂⟩, ⟨a₁, a₂⟩⟩)
      | _ => tooShort 7
    else if command = Command.classVersionReport then
      match arguments with
      | classId :: version :: _ => .ok (.classVersion classId version)
      | _ => tooShort 4
    else .ok .nothing

/-- What a payload says to the handler of a class. -/
def ofPayload (kind : ClassKind) (p : Payload) : Except FrameError Reading :=
  if kind.reads p.classId then
    match p.body with
    | command :: arguments => ofCommand kind command arguments
    | [] => .error (.payloadTooShort 0 2 1)
  else
    .error (.unexpectedClass kind.id p.classId)

end Reading

end ZWave
