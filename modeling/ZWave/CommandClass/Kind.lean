import ZWave.Protocol

/-!
# The implemented command classes

A command class is one capability of a device, known by its id. Handlers exist for five of them.
-/

namespace ZWave

/-- The version every command class is taken to speak until the device says otherwise. -/
abbrev defaultVersion : UInt8 := 1

/-- The command classes that have a handler. -/
inductive ClassKind where
  | basic
  | switchBinary
  | switchMultilevel
  | manufacturerSpecific
  | version
deriving DecidableEq

namespace ClassKind

def id : ClassKind → UInt8
  | basic => ClassId.basic
  | switchBinary => ClassId.switchBinary
  | switchMultilevel => ClassId.switchMultilevel
  | manufacturerSpecific => ClassId.manufacturerSpecific
  | version => ClassId.version

def name : ClassKind → String
  | basic => "COMMAND_CLASS_BASIC"
  | switchBinary => "COMMAND_CLASS_SWITCH_BINARY"
  | switchMultilevel => "COMMAND_CLASS_SWITCH_MULTILEVEL"
  | manufacturerSpecific => "COMMAND_CLASS_MANUFACTURER_SPECIFIC"
  | version => "COMMAND_CLASS_VERSION"

/-- The highest version the handler understands. Where it is the default version, a device need
not be asked for the one it speaks. -/
def maxVersion : ClassKind → UInt8
  | switchMultilevel => 2
  | _ => defaultVersion

def ofId? (id : UInt8) : Option ClassKind :=
  if id = ClassId.basic then some basic
  else if id = ClassId.switchBinary then some switchBinary
  else if id = ClassId.switchMultilevel then some switchMultilevel
  else if id = ClassId.manufacturerSpecific then some manufacturerSpecific
  else if id = ClassId.version then some version
  else none

@[simp] theorem ofId?_id (k : ClassKind) : ofId? k.id = some k := by cases k <;> decide

theorem id_inj {a b : ClassKind} (h : a.id = b.id) : a = b := by
  have e := ofId?_id a
  rw [h, ofId?_id] at e
  exact (Option.some.inj e).symm

theorem ofId?_eq_some_iff {id : UInt8} {k : ClassKind} : ofId? id = some k ↔ k.id = id := by
  refine ⟨fun h => ?_, fun h => h ▸ ofId?_id k⟩
  unfold ofId? at h
  repeat' split at h
  all_goals cases h
  all_goals (rename_i h; exact h.symm)

/-- Whether the handler of the class reads payloads of class `classId`: its own, and for the two
switches those of Basic, which address whatever a device mainly does. -/
def reads (k : ClassKind) (classId : UInt8) : Bool :=
  classId == k.id || match k with
    | switchBinary | switchMultilevel => classId == ClassId.basic
    | _ => false

end ClassKind

end ZWave
