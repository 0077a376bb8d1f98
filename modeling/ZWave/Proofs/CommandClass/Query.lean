import ZWave.CommandClass.Startup
import ZWave.Node.Profile
import ZWave.Proofs.CommandClass.Registry

/-!
# What is asked of a device

Handlers and profiles ask a device for two things only: what a class of it reports, and which
version of a class it speaks (`Query`). Startup and refresh frames are the frames of queries
(`Registry.startup_eq`, `Profile.refresh_eq`), so what holds of the frame of every query holds of
them.
-/

namespace ZWave

/-- A question to a device. -/
inductive Query where
  | report (kind : ClassKind)
  | versionOf (classId : UInt8)
deriving DecidableEq

namespace Query

def frame (nodeId : NodeId) : Query → Frame
  | report .basic => Request.basicGet nodeId
  | report .switchBinary => Request.switchBinaryGet nodeId
  | report .switchMultilevel => Request.switchMultilevelGet nodeId
  | report .manufacturerSpecific => Request.manufacturerGet nodeId
  | report .version => Request.versionGet nodeId
  | versionOf classId => Request.classVersionGet nodeId classId

@[simp] theorem nodeId?_frame (q : Query) (nodeId : NodeId) :
    (q.frame nodeId).nodeId? = some nodeId := by
  cases q with
  | report kind => cases kind <;> rfl
  | versionOf => rfl

@[simp] theorem isNodeInfoRequest_frame (q : Query) (nodeId : NodeId) :
    (q.frame nodeId).isNodeInfoRequest = false := by
  cases q with
  | report kind => cases kind <;> rfl
  | versionOf => rfl

end Query

/-- What a handler asks when it is brought up, `others` being the handlers beside it. -/
def Handler.queries (h : Handler) (others : Registry) : List Query :=
  .report h.kind :: match h.kind with
    | .version =>
      (others.toList.filter fun other => defaultVersion < other.maxVersion).map
        fun other => .versionOf other.id
    | _ => []

theorem Handler.startup_eq (h : Handler) (nodeId : NodeId) (others : Registry) :
    h.startup nodeId others = (h.queries others).map (Query.frame nodeId) := by
  unfold Handler.startup Handler.queries
  cases h.kind <;> simp [Query.frame, Function.comp_def]

namespace Registry

def queries (r : Registry) (id : UInt8) : List Query :=
  match r.get? id with
  | some h => h.queries (r.without id)
  | none => []

theorem startup_eq (r : Registry) (nodeId : NodeId) (id : UInt8) :
    r.startup nodeId id = (r.queries id).map (Query.frame nodeId) := by
  unfold startup queries
  cases r.get? id with
  | some h => exact h.startup_eq nodeId (r.without id)
  | none => rfl

/-- A class asks for something exactly if it is registered. -/
theorem startup_ne_nil_iff (r : Registry) (nodeId : NodeId) (id : UInt8) :
    r.startup nodeId id ≠ [] ↔ r.contains id = true := by
  rw [startup_eq, queries, contains_eq]
  cases r.get? id with
  | none => simp
  | some h => simp [Handler.queries]

/-- The other classes of which a version above the default is understood. -/
def versioned (r : Registry) : List UInt8 :=
  ((r.without ClassId.version).toList.filter fun h => defaultVersion < h.maxVersion).map Handler.id

theorem mem_versioned (r : Registry) (id : UInt8) :
    id ∈ r.versioned ↔
      id ≠ ClassId.version ∧ ∃ h, r.get? id = some h ∧ defaultVersion < h.maxVersion := by
  simp only [versioned, List.mem_map, List.mem_filter, mem_toList, get?_without, decide_eq_true_eq]
  constructor
  · rintro ⟨h, ⟨found, above⟩, rfl⟩
    split at found
    · cases found
    · next other => exact ⟨other, h, found, above⟩
  · rintro ⟨other, h, found, above⟩
    have keyed := id_of_get? found
    exact ⟨h, ⟨by rw [keyed, if_neg other, found], above⟩, keyed⟩

theorem pairwise_versioned (r : Registry) : r.versioned.Pairwise (· < ·) :=
  List.pairwise_map.2 ((pairwise_toList _).filter _)

theorem startup_version {r : Registry} (registered : r.contains ClassId.version = true)
    (nodeId : NodeId) :
    r.startup nodeId ClassId.version =
      Request.versionGet nodeId :: r.versioned.map (Request.classVersionGet nodeId) := by
  rw [contains_eq] at registered
  obtain ⟨h, found⟩ := Option.isSome_iff_exists.1 registered
  have keyed : h.kind.id = ClassId.version := id_of_get? found
  have kind : h.kind = .version :=
    Option.some.inj ((ClassKind.ofId?_id h.kind).symm.trans (keyed ▸ rfl))
  rw [startup, found]
  simp only [Handler.startup, kind, versioned, List.map_map]
  rfl

/-- Only dimmers may speak more than the default version. -/
theorem length_versioned_le (r : Registry) : r.versioned.length ≤ 1 := by
  have dimmer : ∀ id ∈ r.versioned, id = ClassId.switchMultilevel := by
    intro id mem
    obtain ⟨-, h, found, above⟩ := (r.mem_versioned id).1 mem
    rw [← id_of_get? found]
    unfold Handler.maxVersion Handler.id at *
    cases hk : h.kind with
    | switchMultilevel => rfl
    | basic | switchBinary | manufacturerSpecific | version =>
      rw [hk] at above
      exact absurd above (by decide)
  have ascending := r.pairwise_versioned
  cases hl : r.versioned with
  | nil => exact Nat.zero_le 1
  | cons a l =>
    cases l with
    | nil => exact Nat.le_refl 1
    | cons b l =>
      rw [hl] at dimmer ascending
      have lt : a < b := (List.pairwise_cons.1 ascending).1 b (List.mem_cons_self ..)
      rw [dimmer a (by simp), dimmer b (by simp)] at lt
      exact absurd lt (UInt8.lt_irrefl _)

/-- A class asks for one thing, and Version for two at most. -/
theorem length_startup_le (r : Registry) (nodeId : NodeId) (id : UInt8) :
    (r.startup nodeId id).length ≤ if id = ClassId.version then 2 else 1 := by
  cases hg : r.get? id with
  | none =>
    rw [startup, hg]
    exact Nat.zero_le _
  | some h =>
    by_cases version : id = ClassId.version
    · subst version
      have registered : r.contains ClassId.version = true := by rw [contains_eq, hg]; rfl
      have few := r.length_versioned_le
      rw [startup_version registered, if_pos rfl, List.length_cons, List.length_map]
      omega
    · have keyed : h.kind.id = id := id_of_get? hg
      rw [if_neg version, startup_eq, queries, hg]
      cases hk : h.kind with
      | version =>
        rw [hk] at keyed
        exact absurd keyed.symm version
      | basic | switchBinary | switchMultilevel | manufacturerSpecific =>
        simp [Handler.queries, hk]

end Registry

def Profile.query : Profile → Query
  | generic => .report .basic
  | binarySwitch => .report .switchBinary
  | multilevelSwitch => .report .switchMultilevel

theorem Profile.refresh_eq (p : Profile) (nodeId : NodeId) :
    p.refresh nodeId = [p.query.frame nodeId] := by
  cases p <;> rfl

end ZWave
