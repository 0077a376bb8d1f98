import ZWave.CommandClass.Handler
import ZWave.IdMap

/-!
# The handlers of a node

A registry holds handlers by the id of their class, each under its own id (`Registry.keyed`). A
handler that is registered stays: `register` refuses an id that is taken, and no operation on a node
takes a handler away. `without` leaves one out of view while it reads a payload or queues its
startup frames, so that what it sees are the others.
-/

namespace ZWave

structure Registry where
  handlers : IdMap Handler := {}
  keyed : ∀ id h, handlers.get? id = some h → h.id = id := by intro _ _ h; cases h

namespace Registry

/-- The registry of a node that has told nothing of itself. -/
def empty : Registry := {}

def get? (r : Registry) (id : UInt8) : Option Handler := r.handlers.get? id

def contains (r : Registry) (id : UInt8) : Bool := r.handlers.contains id

/-- The ids that have a handler, ascending. -/
def ids (r : Registry) : List UInt8 := r.handlers.ids

/-- The handlers, in ascending order of their ids. -/
def toList (r : Registry) : List Handler := r.handlers.values

def size (r : Registry) : Nat := r.handlers.size

def isEmpty (r : Registry) : Bool := r.handlers.entries.isEmpty

/-- The registry with a handler under its id, in place of the one that may be there. -/
def put (r : Registry) (h : Handler) : Registry where
  handlers := r.handlers.insert h.id h
  keyed id h' e := by
    rw [IdMap.get?_insert] at e
    split at e
    · next heq => cases e; exact heq.symm
    · exact r.keyed id h' e

/-- Whether `register` takes a handler: its id has none yet. -/
def admits (r : Registry) (h : Handler) : Bool := !r.contains h.id

/-- Add a handler. One whose id is taken is refused, and the present one stays as it is. -/
def register (r : Registry) (h : Handler) : Registry := if r.admits h then r.put h else r

/-- The other handlers of a registry, that of `id` left out. -/
def without (r : Registry) (id : UInt8) : Registry where
  handlers := r.handlers.erase id
  keyed id' h e := by
    rw [IdMap.get?_erase] at e
    split at e
    · cases e
    · exact r.keyed id' h e

/-- Note the version the device speaks of a class, if the class has a handler. -/
def setVersion (r : Registry) (id version : UInt8) : Registry :=
  match r.get? id with
  | some h => r.put (h.setVersion version)
  | none => r

/-- Register the classes a device reports: each that the factory implements and that has no
handler yet. -/
def registerAll (r : Registry) (f : Factory) (ids : List UInt8) : Registry :=
  ids.foldl (fun r id => match f.create? id with
    | some h => r.register h
    | none => r) r

/-- The other handlers after the handler of `self` read something: a class version is noted on the
handler it names, unless it names `self`. -/
def record (others : Registry) (self : UInt8) : Reading → Registry
  | .classVersion classId version =>
    if classId = self then others else others.setVersion classId version
  | _ => others

/-- Have a handler read a payload, `others` in its view. -/
def read (others : Registry) (h : Handler) (p : Payload) :
    Except FrameError (Handler × Registry) := do
  let reading ← Reading.ofPayload h.kind p
  return (h.record reading, others.record h.id reading)

/-- Have the handler of `id` read a payload, the others in its view. -/
def deliver (r : Registry) (id : UInt8) (p : Payload) : Except FrameError Registry :=
  match r.get? id with
  | some h => do
    let (h, others) ← (r.without id).read h p
    return others.put h
  | none => .ok r

/-! ## The view -/

theorem get?_put (r : Registry) (h : Handler) (k : UInt8) :
    (r.put h).get? k = if k = h.id then some h else r.get? k := IdMap.get?_insert ..

theorem get?_without (r : Registry) (id k : UInt8) :
    (r.without id).get? k = if k = id then none else r.get? k := IdMap.get?_erase ..

theorem contains_eq (r : Registry) (id : UInt8) : r.contains id = (r.get? id).isSome := rfl

theorem id_of_get? {r : Registry} {id : UInt8} {h : Handler} (e : r.get? id = some h) :
    h.id = id := r.keyed id h e

theorem get?_register (r : Registry) (h : Handler) (k : UInt8) :
    (r.register h).get? k = (r.get? k).or (if k = h.id then some h else none) := by
  unfold register admits
  rw [contains_eq]
  by_cases hk : k = h.id
  · subst hk
    cases hg : r.get? h.id <;> simp [hg, get?_put]
  · cases hg : (r.get? h.id).isSome <;> simp [hk, get?_put]

theorem get?_setVersion (r : Registry) (id v k : UInt8) :
    (r.setVersion id v).get? k =
      (r.get? k).map (fun h => if k = id then h.setVersion v else h) := by
  unfold setVersion
  cases hg : r.get? id with
  | none =>
    by_cases hk : k = id
    · subst hk; simp [hg]
    · simp [hk]
  | some h =>
    have hid := id_of_get? hg
    by_cases hk : k = id
    · subst hk; simp [get?_put, hid, hg]
    · simp [get?_put, hid, hk]

theorem ext_get? {r₁ r₂ : Registry} (h : ∀ k, r₁.get? k = r₂.get? k) : r₁ = r₂ := by
  obtain ⟨m₁, _⟩ := r₁
  obtain ⟨m₂, _⟩ := r₂
  have : m₁ = m₂ := IdMap.ext_get? h
  subst this
  rfl

end Registry

end ZWave
