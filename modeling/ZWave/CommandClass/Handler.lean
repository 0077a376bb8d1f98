import ZWave.CommandClass.Request

/-!
# Handlers

A node has one handler per command class it supports. The handler holds the version of the class
that the device speaks and what the device has reported through the class.
-/

namespace ZWave

/-- What a device has reported through a class; `none` where it has not yet. -/
inductive Learned where
  | basic (value : Option UInt8)
  | switchBinary (on : Option Bool)
  | switchMultilevel (level : Option UInt8)
  | manufacturerSpecific (identity : Option ProductIdentity)
  | version (firmware : Option Firmware)
deriving DecidableEq

namespace Learned

def kind : Learned → ClassKind
  | basic _ => .basic
  | switchBinary _ => .switchBinary
  | switchMultilevel _ => .switchMultilevel
  | manufacturerSpecific _ => .manufacturerSpecific
  | version _ => .version

def nothing : ClassKind → Learned
  | .basic => basic none
  | .switchBinary => switchBinary none
  | .switchMultilevel => switchMultilevel none
  | .manufacturerSpecific => manufacturerSpecific none
  | .version => version none

/-- What is known after a reading. One that another class's payloads carry changes nothing. -/
def update : Learned → Reading → Learned
  | basic _, .value value => basic (some value)
  | switchBinary _, .value value => switchBinary (some (value != Level.off))
  | switchMultilevel _, .value value => switchMultilevel (some value)
  | manufacturerSpecific _, .identity identity => manufacturerSpecific (some identity)
  | version _, .firmware firmware => version (some firmware)
  | learned, _ => learned

@[simp] theorem kind_nothing (k : ClassKind) : (nothing k).kind = k := by cases k <;> rfl

@[simp] theorem kind_update (l : Learned) (r : Reading) : (l.update r).kind = l.kind := by
  cases l <;> cases r <;> rfl

end Learned

/-- The handler of one command class on a node. -/
structure Handler where
  learned : Learned
  version : UInt8 := defaultVersion
deriving DecidableEq

namespace Handler

def kind (h : Handler) : ClassKind := h.learned.kind

def id (h : Handler) : UInt8 := h.kind.id

def name (h : Handler) : String := h.kind.name

/-- The highest version of the class that is understood. -/
def maxVersion (h : Handler) : UInt8 := h.kind.maxVersion

/-- The handler of a class that has learned nothing yet. -/
def fresh (k : ClassKind) : Handler := { learned := .nothing k }

def setVersion (h : Handler) (version : UInt8) : Handler := { h with version }

/-- The handler after a reading; the version it may tell of its own class is among it. -/
def record (h : Handler) : Reading → Handler
  | .classVersion classId version => if classId = h.id then h.setVersion version else h
  | reading => { h with learned := h.learned.update reading }

/-- The frame that sets the level of a dimmer, in the version its handler has learned. Other
handlers set no level. -/
def levelRequest? (h : Handler) (nodeId : NodeId) (level : UInt8) : Option Frame :=
  match h.learned with
  | .switchMultilevel _ => some (Request.switchMultilevelSet nodeId h.version level)
  | _ => none

@[simp] theorem kind_fresh (k : ClassKind) : (fresh k).kind = k := Learned.kind_nothing k

@[simp] theorem id_fresh (k : ClassKind) : (fresh k).id = k.id := congrArg ClassKind.id (kind_fresh k)

@[simp] theorem id_setVersion (h : Handler) (v : UInt8) : (h.setVersion v).id = h.id := rfl

@[simp] theorem kind_record (h : Handler) (r : Reading) : (h.record r).kind = h.kind := by
  cases r with
  | classVersion c v => simp only [record]; split <;> rfl
  | _ => exact Learned.kind_update _ _

@[simp] theorem id_record (h : Handler) (r : Reading) : (h.record r).id = h.id :=
  congrArg ClassKind.id (kind_record h r)

end Handler

/-- Which command classes a node gets a handler for. -/
structure Factory where
  implements : UInt8 → Bool

namespace Factory

/-- A handler for every class that has one. -/
def standard : Factory := ⟨fun _ => true⟩

/-- Handlers for the listed ids alone, as far as there are any. -/
def only (ids : List UInt8) : Factory := ⟨fun id => ids.contains id⟩

def create? (f : Factory) (id : UInt8) : Option Handler :=
  if f.implements id then (ClassKind.ofId? id).map Handler.fresh else none

theorem id_of_create? {f : Factory} {id : UInt8} {h : Handler} (e : f.create? id = some h) :
    h.id = id := by
  unfold create? at e
  split at e
  · obtain ⟨k, hk, rfl⟩ := Option.map_eq_some_iff.1 e
    rw [Handler.id_fresh, ClassKind.ofId?_eq_some_iff.1 hk]
  · cases e

end Factory

end ZWave
