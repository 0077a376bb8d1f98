import ZWave.Proofs.CommandClass.Registry

/-!
# What a handler refuses

The handler of a class takes the payloads of a few classes (`ClassKind.accepted`), and each command
that it decodes has a layout (`ClassKind.layout?`). A payload is refused if it is of another class,
carries no command, or ends before the layout of its command does, and for no other reason
(`Registry.read_eq_error_iff`). A payload that is too short is refused with the length that it has.
-/

namespace ZWave

namespace ClassKind

/-- The classes whose payloads the handler of a class takes, its own first. -/
def accepted : ClassKind → List UInt8
  | switchBinary => [ClassId.switchBinary, ClassId.basic]
  | switchMultilevel => [ClassId.switchMultilevel, ClassId.basic]
  | k => [k.id]

theorem reads_iff {k : ClassKind} {classId : UInt8} :
    k.reads classId = true ↔ classId ∈ k.accepted := by
  cases k <;> simp [reads, accepted, id]

/-- How long a payload with a command has to be, if the handler decodes the command. -/
def layout? (k : ClassKind) (command : UInt8) : Option Nat :=
  match k with
  | basic | switchBinary | switchMultilevel =>
    if command = Command.set ∨ command = Command.report then some 3 else none
  | manufacturerSpecific => if command = Command.manufacturerReport then some 8 else none
  | version =>
    if command = Command.versionReport then some 7
    else if command = Command.classVersionReport then some 4
    else none

/-- Why the handler of a class refuses a payload. -/
inductive Refuses (k : ClassKind) (p : Payload) : FrameError → Prop where
  | foreign : p.classId ∉ k.accepted → Refuses k p (.unexpectedClass k.id p.classId)
  | bare : p.classId ∈ k.accepted → p.body = [] → Refuses k p (.payloadTooShort 0 2 p.bytes.length)
  | short {command : UInt8} {arguments : List UInt8} {width : Nat} : p.classId ∈ k.accepted →
      p.body = command :: arguments → k.layout? command = some width → p.bytes.length < width →
      Refuses k p (.payloadTooShort command width p.bytes.length)

end ClassKind

namespace Reading

/-- A command cannot be read exactly if its arguments end before its layout does. -/
theorem ofCommand_eq_error_iff {k : ClassKind} {command : UInt8} {arguments : List UInt8}
    {e : FrameError} : ofCommand k command arguments = .error e ↔
      ∃ width, k.layout? command = some width ∧ 2 + arguments.length < width ∧
        e = .payloadTooShort command width (2 + arguments.length) := by
  unfold ofCommand ClassKind.layout?
  cases k with
  | basic | switchBinary | switchMultilevel =>
    dsimp only
    by_cases value : command = Command.set ∨ command = Command.report
    · rw [if_pos value, if_pos value]
      match arguments with
      | [] => simp [eq_comm]
      | _ :: _ => simp; omega
    · rw [if_neg value, if_neg value]
      simp
  | manufacturerSpecific =>
    dsimp only
    by_cases report : command = Command.manufacturerReport
    · rw [if_pos report, if_pos report]
      match arguments with
      | [] | [_] | [_, _] | [_, _, _] | [_, _, _, _] | [_, _, _, _, _] => simp [eq_comm]
      | _ :: _ :: _ :: _ :: _ :: _ :: _ => simp; omega
    · rw [if_neg report, if_neg report]
      simp
  | version =>
    dsimp only
    by_cases firmware : command = Command.versionReport
    · rw [if_pos firmware, if_pos firmware]
      match arguments with
      | [] | [_] | [_, _] | [_, _, _] | [_, _, _, _] => simp [eq_comm]
      | _ :: _ :: _ :: _ :: _ :: _ => simp; omega
    · rw [if_neg firmware, if_neg firmware]
      by_cases version : command = Command.classVersionReport
      · rw [if_pos version, if_pos version]
        match arguments with
        | [] | [_] => simp [eq_comm]
        | _ :: _ :: _ => simp; omega
      · rw [if_neg version, if_neg version]
        simp

theorem ofPayload_eq_error_iff {k : ClassKind} {p : Payload} {e : FrameError} :
    ofPayload k p = .error e ↔ k.Refuses p e := by
  obtain ⟨classId, body⟩ := p
  unfold ofPayload
  by_cases taken : k.reads classId = true
  · rw [if_pos taken]
    have accepted := ClassKind.reads_iff.1 taken
    cases body with
    | nil =>
      constructor
      · intro refused
        cases refused
        exact .bare accepted rfl
      · rintro (foreign | ⟨-, -⟩ | ⟨-, carried, -⟩)
        · exact absurd accepted foreign
        · rfl
        · cases carried
    | cons command arguments =>
      have length : (Payload.bytes ⟨classId, command :: arguments⟩).length = 2 + arguments.length :=
        Nat.add_comm arguments.length 2
      refine ofCommand_eq_error_iff.trans ⟨?_, ?_⟩
      · rintro ⟨width, layout, short, rfl⟩
        rw [← length] at short ⊢
        exact .short accepted rfl layout short
      · rintro (foreign | ⟨-, bare⟩ | ⟨-, carried, layout, short⟩)
        · exact absurd accepted foreign
        · cases bare
        · cases carried
          rw [length] at short ⊢
          exact ⟨_, layout, short, rfl⟩
  · rw [if_neg taken]
    have foreign := fun accepted => taken (ClassKind.reads_iff.2 accepted)
    constructor
    · intro refused
      cases refused
      exact .foreign foreign
    · rintro (- | ⟨accepted, -⟩ | ⟨accepted, -⟩)
      · rfl
      · exact absurd accepted foreign
      · exact absurd accepted foreign

end Reading

namespace ClassKind

variable {k : ClassKind} {p : Payload}

theorem exists_refuses_iff : (∃ e, k.Refuses p e) ↔
    p.classId ∉ k.accepted ∨ p.body = [] ∨ ∃ command arguments width,
      p.body = command :: arguments ∧ k.layout? command = some width ∧ p.bytes.length < width := by
  constructor
  · rintro ⟨e, foreign | ⟨-, bare⟩ | ⟨-, carried, layout, short⟩⟩
    · exact .inl foreign
    · exact .inr (.inl bare)
    · exact .inr (.inr ⟨_, _, _, carried, layout, short⟩)
  · intro reason
    by_cases accepted : p.classId ∈ k.accepted
    · rcases reason with foreign | bare | ⟨command, arguments, width, carried, layout, short⟩
      · exact absurd accepted foreign
      · exact ⟨_, .bare accepted bare⟩
      · exact ⟨_, .short accepted carried layout short⟩
    · exact ⟨_, .foreign accepted⟩

/-- A payload that is too short is refused with the length that it has. -/
theorem Refuses.length {command : UInt8} {expected actual : Nat}
    (refused : k.Refuses p (.payloadTooShort command expected actual)) :
    actual = p.bytes.length ∧ actual < expected := by
  cases refused with
  | bare _ empty => exact ⟨rfl, by simp [Payload.bytes, empty]⟩
  | short _ _ _ short => exact ⟨rfl, short⟩

end ClassKind

namespace Registry

/-- A handler reads nothing from a payload that it refuses. -/
theorem read_eq_error_iff {others : Registry} {h : Handler} {p : Payload} {e : FrameError} :
    others.read h p = .error e ↔ h.kind.Refuses p e := by
  rw [← Reading.ofPayload_eq_error_iff, read]
  cases Reading.ofPayload h.kind p <;> simp [bind, Except.bind, pure, Except.pure]

theorem deliver_eq_error_iff {r : Registry} {id : UInt8} {p : Payload} {e : FrameError} :
    r.deliver id p = .error e ↔ ∃ h, r.get? id = some h ∧ h.kind.Refuses p e := by
  unfold deliver
  cases r.get? id with
  | none => simp
  | some h =>
    have refused : (r.without id).read h p = .error e ↔ h.kind.Refuses p e := read_eq_error_iff
    simp only [Option.some.injEq, exists_eq_left', ← refused]
    cases (r.without id).read h p <;> simp [bind, Except.bind, pure, Except.pure]

end Registry

end ZWave
