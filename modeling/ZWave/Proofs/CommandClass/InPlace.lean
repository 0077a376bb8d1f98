import ZWave.Proofs.CommandClass.Refusal
import ZWave.Proofs.Frame.Positions

/-!
# Reading in place

A handler can also read a payload by the positions of its bytes, and assign what it learns field by
field while it reads. Such a run may stop half way: what it has assigned until then stays, and a
read outside of the payload ends it as well. `ClassKind.readInPlace` runs so, and comes to the
outcome of `Registry.read` (`run_readInPlace`).
-/

namespace ZWave

/-! ## What a run changes -/

/-- What a handler has learned, in fields that are assigned one at a time. -/
inductive Fields where
  | basic (value : Option UInt8)
  | switchBinary (on : Option Bool)
  | switchMultilevel (level : Option UInt8)
  | manufacturerSpecific (identity : Option ProductIdentity)
  | version (library : Option UInt8) (protocol application : Option Release)
deriving DecidableEq

def Learned.fields : Learned → Fields
  | basic value => .basic value
  | switchBinary on => .switchBinary on
  | switchMultilevel level => .switchMultilevel level
  | manufacturerSpecific identity => .manufacturerSpecific identity
  | version firmware =>
    .version (firmware.map (·.library)) (firmware.map (·.protocol)) (firmware.map (·.application))

namespace Fields

def setLevel (level : UInt8) : Fields → Fields
  | basic _ => basic (some level)
  | switchBinary _ => switchBinary (some (level != Level.off))
  | switchMultilevel _ => switchMultilevel (some level)
  | fields => fields

def setIdentity (identity : ProductIdentity) : Fields → Fields
  | manufacturerSpecific _ => manufacturerSpecific (some identity)
  | fields => fields

def setLibrary (library : UInt8) : Fields → Fields
  | version _ protocol application => version (some library) protocol application
  | fields => fields

def setProtocol (protocol : Release) : Fields → Fields
  | version library _ application => version library (some protocol) application
  | fields => fields

def setApplication (application : Release) : Fields → Fields
  | version library protocol _ => version library protocol (some application)
  | fields => fields

end Fields

/-- What a handler can change while it reads. -/
structure Desk where
  version : UInt8
  fields : Fields
  others : Registry
  queued : List Frame

def Handler.desk (h : Handler) (others : Registry) (queued : List Frame) : Desk :=
  ⟨h.version, h.learned.fields, others, queued⟩

/-- A run that changes the desk as it goes on, and keeps what it changed where it fails. -/
abbrev InPlace (α : Type) : Type := ExceptT ReadFault (StateM Desk) α

def InPlace.on {α : Type} (x : InPlace α) (desk : Desk) : Except ReadFault α × Desk :=
  (StateT.run (ExceptT.run x) desk).run

/-! ## The run of a handler -/

section Run

variable (bytes : List UInt8)

def fetch (position : Nat) : InPlace UInt8 := MonadExcept.ofExcept (byteAt bytes position)

def assign (change : Fields → Fields) : InPlace Unit :=
  modify fun desk => { desk with fields := change desk.fields }

def refuse (e : FrameError) : InPlace Unit := throw (.rejected e)

def expectClass (k : ClassKind) : InPlace Unit := do
  let classId ← fetch bytes 0
  if classId ∈ k.accepted then return
  else refuse (.unexpectedClass k.id classId)

def require (expected : Nat) : InPlace Unit :=
  if bytes.length < expected then
    refuse (.payloadTooShort (bytes[1]?.getD 0) expected bytes.length)
  else return

def takeLevel : InPlace Unit := do
  require bytes 3
  let level ← fetch bytes 2
  assign (Fields.setLevel level)

def takeIdentity : InPlace Unit := do
  require bytes 8
  let manufacturer := Reading.word (← fetch bytes 2) (← fetch bytes 3)
  let productType := Reading.word (← fetch bytes 4) (← fetch bytes 5)
  let product := Reading.word (← fetch bytes 6) (← fetch bytes 7)
  assign (Fields.setIdentity ⟨manufacturer, productType, product⟩)

def takeFirmware : InPlace Unit := do
  require bytes 7
  let library ← fetch bytes 2
  assign (Fields.setLibrary library)
  let protocol := ⟨← fetch bytes 3, ← fetch bytes 4⟩
  assign (Fields.setProtocol protocol)
  let application := ⟨← fetch bytes 5, ← fetch bytes 6⟩
  assign (Fields.setApplication application)

def takeClassVersion : InPlace Unit := do
  require bytes 4
  let classId ← fetch bytes 2
  let version ← fetch bytes 3
  if classId = ClassId.version then
    modify fun desk => { desk with version }
  else
    modify fun desk => { desk with others := desk.others.setVersion classId version }

/-- Carry out a command. One that the handler does not decode is ignored. -/
def carryOut (k : ClassKind) (command : UInt8) : InPlace Unit :=
  match k with
  | .basic | .switchBinary | .switchMultilevel =>
    if command = Command.set ∨ command = Command.report then takeLevel bytes else return
  | .manufacturerSpecific =>
    if command = Command.manufacturerReport then takeIdentity bytes else return
  | .version =>
    if command = Command.versionReport then takeFirmware bytes
    else if command = Command.classVersionReport then takeClassVersion bytes
    else return

def ClassKind.readInPlace (k : ClassKind) : InPlace Unit := do
  expectClass bytes k
  require bytes 2
  let command ← fetch bytes 1
  carryOut bytes k command

end Run

/-! ## The outcome -/

theorem run_takeClassVersion {h : Handler} (version : h.id = ClassId.version) (others : Registry)
    (queued : List Frame) (classId command about told : UInt8) (rest : List UInt8) :
    (takeClassVersion (classId :: command :: about :: told :: rest)).on (h.desk others queued) =
      (.ok (), (h.record (.classVersion about told)).desk
        (others.record h.id (.classVersion about told)) queued) := by
  change (ite (about = ClassId.version) _ _ : InPlace Unit).on _ = _
  unfold Handler.record Registry.record
  dsimp only
  rw [version]
  by_cases own : about = ClassId.version
  · rw [if_pos own, if_pos own, if_pos own]
    rfl
  · rw [if_neg own, if_neg own, if_neg own]
    rfl

theorem run_carryOut (h : Handler) (others : Registry) (queued : List Frame)
    (classId command : UInt8) (arguments : List UInt8) :
    (carryOut (classId :: command :: arguments) h.kind command).on (h.desk others queued) =
      match Reading.ofCommand h.kind command arguments with
      | .ok reading => (.ok (), (h.record reading).desk (others.record h.id reading) queued)
      | .error e => (.error (.rejected e), h.desk others queued) := by
  obtain ⟨learned, version⟩ := h
  unfold carryOut Reading.ofCommand
  cases learned with
  | basic | switchBinary | switchMultilevel =>
    dsimp only [Handler.kind, Learned.kind]
    by_cases told : command = Command.set ∨ command = Command.report
    · rw [if_pos told, if_pos told]
      match arguments with
      | [] => rfl
      | _ :: _ => rfl
    · rw [if_neg told, if_neg told]
      rfl
  | manufacturerSpecific =>
    dsimp only [Handler.kind, Learned.kind]
    by_cases told : command = Command.manufacturerReport
    · rw [if_pos told, if_pos told]
      match arguments with
      | [] | [_] | [_, _] | [_, _, _] | [_, _, _, _] | [_, _, _, _, _] => rfl
      | _ :: _ :: _ :: _ :: _ :: _ :: _ => rfl
    · rw [if_neg told, if_neg told]
      rfl
  | version =>
    dsimp only [Handler.kind, Learned.kind]
    by_cases firmware : command = Command.versionReport
    · rw [if_pos firmware, if_pos firmware]
      match arguments with
      | [] | [_] | [_, _] | [_, _, _] | [_, _, _, _] => rfl
      | _ :: _ :: _ :: _ :: _ :: _ => rfl
    · rw [if_neg firmware, if_neg firmware]
      by_cases report : command = Command.classVersionReport
      · rw [if_pos report, if_pos report]
        match arguments with
        | [] | [_] => rfl
        | about :: told :: _ => exact run_takeClassVersion rfl others queued classId command about told _
      · rw [if_neg report, if_neg report]
        rfl

/-- A run in place comes to the outcome of the read, and a failing one has assigned nothing. -/
theorem run_readInPlace (h : Handler) (others : Registry) (queued : List Frame) (p : Payload) :
    (h.kind.readInPlace p.bytes).on (h.desk others queued) =
      match others.read h p with
      | .ok (h', others') => (.ok (), h'.desk others' queued)
      | .error e => (.error (.rejected e), h.desk others queued) := by
  obtain ⟨classId, body⟩ := p
  unfold Registry.read Reading.ofPayload
  by_cases taken : h.kind.reads classId = true
  · have accepted := ClassKind.reads_iff.1 taken
    rw [if_pos taken]
    have expected : expectClass (Payload.bytes ⟨classId, body⟩) h.kind = pure () := if_pos accepted
    unfold ClassKind.readInPlace
    rw [expected]
    cases body with
    | nil => rfl
    | cons command arguments =>
      have run := run_carryOut h others queued classId command arguments
      refine run.trans ?_
      dsimp only
      cases Reading.ofCommand h.kind command arguments <;> rfl
  · have foreign := fun accepted => taken (ClassKind.reads_iff.2 accepted)
    rw [if_neg taken]
    have expected : expectClass (Payload.bytes ⟨classId, body⟩) h.kind =
      refuse (.unexpectedClass h.kind.id classId) := if_neg foreign
    unfold ClassKind.readInPlace
    rw [expected]
    rfl

/-! ## Refused payloads -/

namespace Handler

/-- What becomes of a payload that a handler is given. -/
structure Guarded (h : Handler) (others : Registry) (queued : List Frame) (p : Payload) : Prop where
  /-- A run in place that ends well has assigned what the payload says, and queued nothing. -/
  read : ∀ desk, (h.kind.readInPlace p.bytes).on (h.desk others queued) = (.ok (), desk) ↔
    ∃ h' others', others.read h p = .ok (h', others') ∧ desk = h'.desk others' queued
  /-- No byte is read outside of the payload. -/
  refused : ∀ fault desk,
    (h.kind.readInPlace p.bytes).on (h.desk others queued) = (.error fault, desk) ↔
      desk = h.desk others queued ∧ ∃ e, fault = .rejected e ∧ others.read h p = .error e
  reason : (∃ e, others.read h p = .error e) ↔
    p.classId ∉ h.kind.accepted ∨ p.body = [] ∨ ∃ command arguments width,
      p.body = command :: arguments ∧ h.kind.layout? command = some width ∧ p.bytes.length < width
  length : ∀ command expected actual,
    others.read h p = .error (.payloadTooShort command expected actual) →
      actual = p.bytes.length ∧ actual < expected

/-- **A payload that is refused changes nothing.** All that it says is recorded, or it is refused
for one of three reasons and everything is as before. -/
theorem refused_unchanged (h : Handler) (others : Registry) (queued : List Frame) (p : Payload) :
    h.Guarded others queued p where
  read := by
    intro desk
    rw [run_readInPlace]
    cases others.read h p with
    | error e =>
      constructor
      · intro ended
        cases ended
      · rintro ⟨h', others', read, -⟩
        cases read
    | ok result =>
      obtain ⟨h', others'⟩ := result
      constructor
      · intro ended
        cases ended
        exact ⟨h', others', rfl, rfl⟩
      · rintro ⟨_, _, read, rfl⟩
        cases read
        rfl
  refused := by
    intro fault desk
    rw [run_readInPlace]
    cases others.read h p with
    | error e =>
      constructor
      · intro ended
        cases ended
        exact ⟨rfl, e, rfl, rfl⟩
      · rintro ⟨rfl, _, rfl, refused⟩
        cases refused
        rfl
    | ok result =>
      constructor
      · intro ended
        cases ended
      · rintro ⟨-, _, -, refused⟩
        cases refused
  reason := by
    simp only [Registry.read_eq_error_iff]
    exact ClassKind.exists_refuses_iff
  length := fun _ _ _ refused => (Registry.read_eq_error_iff.1 refused).length

theorem refused_unchanged_firmware :
    ∃ (h : Handler) (others : Registry) (queued : List Frame) (p : Payload),
      h.Guarded others queued p ∧ h.learned = .version (some ⟨3, ⟨4, 5⟩, ⟨1, 0⟩⟩) ∧
      others.ids = [ClassId.switchMultilevel] ∧
      p.bytes = [ClassId.version, Command.versionReport, 6, 7, 8, 2] ∧
      (h.kind.readInPlace p.bytes).on (h.desk others queued) =
        (.error (.rejected (.payloadTooShort Command.versionReport 7 6)), h.desk others queued) := by
  let h : Handler := { learned := .version (some ⟨3, ⟨4, 5⟩, ⟨1, 0⟩⟩) }
  let others : Registry := Registry.empty.register (.fresh .switchMultilevel)
  let queued : List Frame := [Request.basicGet 2]
  let p : Payload := ⟨ClassId.version, [Command.versionReport, 6, 7, 8, 2]⟩
  have guarded := h.refused_unchanged others queued p
  have short : others.read h p = .error (.payloadTooShort Command.versionReport 7 6) := rfl
  exact ⟨h, others, queued, p, guarded, rfl, by decide, rfl,
    (guarded.refused _ _).2 ⟨rfl, _, rfl, short⟩⟩

end Handler

end ZWave
