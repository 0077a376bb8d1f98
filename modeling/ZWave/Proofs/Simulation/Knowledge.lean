import ZWave.Model.Basic
import ZWave.Proofs.CommandClass.Query
import ZWave.Proofs.CommandClass.Registry

/-!
# What a node knows of its device

The handlers of a node once its device has answered some queries are a function of the model of the
device (`DeviceModel.registry`): the classes the device lists, each with what the model says of it
if the answer that tells it is among those that were given. A handler other than its own may read a
Basic report, so what is known of a class depends on the reports that its handler reads
(`DeviceModel.readBy`).
-/

namespace ZWave

namespace ClassKind

def all : List ClassKind :=
  [.basic, .switchBinary, .switchMultilevel, .manufacturerSpecific, .version]

theorem mem_all (k : ClassKind) : k ∈ all := by cases k <;> decide

theorem ascending_all : all.Pairwise (fun a b => a.id < b.id) := by decide

end ClassKind

namespace DeviceModel

variable (d : DeviceModel)

def lists (k : ClassKind) : Bool := d.classIds.contains k.id

/-- The classes that the device lists and a handler exists for, ascending. -/
def kinds : List ClassKind := ClassKind.all.filter d.lists

def profile : Profile := .ofGenericType d.kind.genericType

/-- The class whose handler reads the Basic reports of the device. -/
def basicReader : ClassKind :=
  match d.profile with
  | .generic => .basic
  | .binarySwitch => if d.lists .switchBinary then .switchBinary else .basic
  | .multilevelSwitch => if d.lists .switchMultilevel then .switchMultilevel else .basic

def readBy : ClassKind → ClassKind
  | .basic => d.basicReader
  | k => k

/-- What the handler of a class learns when it reads a report of the device. -/
def told : ClassKind → Learned
  | .basic => .basic (some d.level)
  | .switchBinary => .switchBinary (some (d.level != 0))
  | .switchMultilevel => .switchMultilevel (some d.level)
  | .manufacturerSpecific => .manufacturerSpecific (some (d.manufacturer.getD {}))
  | .version => .version (some d.firmware)

@[simp] theorem kind_told (k : ClassKind) : (d.told k).kind = k := by cases k <;> rfl

/-- Whether the answer to a query is read by the handler of class `k`. -/
def informs (k : ClassKind) : Query → Bool
  | .report j => d.readBy j == k
  | .versionOf _ => false

/-- The handler of a class once the device has answered queries. -/
def handler (answered : List Query) (k : ClassKind) : Handler where
  learned := if answered.any (d.informs k) then d.told k else .nothing k
  version := if .versionOf k.id ∈ answered then d.classVersion k.id else defaultVersion

@[simp] theorem kind_handler (answered : List Query) (k : ClassKind) :
    (d.handler answered k).kind = k := by
  unfold handler Handler.kind
  dsimp only
  split
  · exact d.kind_told k
  · exact Learned.kind_nothing k

/-- The handlers of the node once the device has answered queries. -/
def registry (answered : List Query) : Registry where
  handlers :=
    ⟨d.kinds.map fun k => (k.id, d.handler answered k),
      List.pairwise_map.2 (ClassKind.ascending_all.filter d.lists)⟩
  keyed id h e := by
    have hm := (IdMap.get?_eq_some_iff ..).1 e
    obtain ⟨k, -, hk⟩ := List.mem_map.1 hm
    cases hk
    exact congrArg ClassKind.id (d.kind_handler answered k)

theorem get?_registry (answered : List Query) (id : UInt8) :
    (d.registry answered).get? id =
      (ClassKind.ofId? id).bind fun k =>
        if d.lists k then some (d.handler answered k) else none := by
  refine Option.ext fun h => ?_
  refine (IdMap.get?_eq_some_iff ..).trans ?_
  rw [Option.bind_eq_some_iff]
  change (id, h) ∈ d.kinds.map (fun k => (k.id, d.handler answered k)) ↔ _
  rw [List.mem_map]
  constructor
  · rintro ⟨k, hk, he⟩
    cases he
    exact ⟨k, ClassKind.ofId?_id k, if_pos (List.mem_filter.1 hk).2⟩
  · rintro ⟨k, hk, hh⟩
    split at hh
    · next hl =>
      cases hh
      refine ⟨k, List.mem_filter.2 ⟨ClassKind.mem_all k, hl⟩, ?_⟩
      rw [ClassKind.ofId?_eq_some_iff.1 hk]
    · cases hh

theorem get?_registry_id (answered : List Query) {k : ClassKind} (hk : d.lists k = true) :
    (d.registry answered).get? k.id = some (d.handler answered k) := by
  rw [get?_registry, ClassKind.ofId?_id, Option.bind_some, if_pos hk]

theorem contains_registry (answered : List Query) (k : ClassKind) :
    (d.registry answered).contains k.id = d.lists k := by
  rw [Registry.contains_eq, get?_registry, ClassKind.ofId?_id, Option.bind_some]
  cases d.lists k <;> rfl

theorem registerAll_classIds :
    Registry.registerAll .empty .standard d.classIds = d.registry [] := by
  refine Registry.ext_get? fun id => ?_
  rw [Registry.get?_registerAll, Registry.get?_empty, Option.none_or, get?_registry]
  cases hk : ClassKind.ofId? id with
  | none => simp [Factory.create?, hk]
  | some k =>
    have hid := ClassKind.ofId?_eq_some_iff.1 hk
    simp [Factory.create?, Factory.standard, hk, lists, hid, handler, Handler.fresh]

/-! ## Queries -/

def versionQueries : List Query :=
  if d.lists .version then
    .report .version ::
      if d.lists .switchMultilevel then [.versionOf ClassId.switchMultilevel] else []
  else []

def stateQueries : List Query := (d.kinds.filter (· != .version)).map .report

theorem length_versionQueries : d.versionQueries.length ≤ 2 := by
  unfold versionQueries
  split
  · split <;> simp
  · simp

theorem length_stateQueries : d.stateQueries.length ≤ 4 := by
  have others : d.kinds.filter (· != .version) =
      (ClassKind.all.filter (· != .version)).filter d.lists := by
    rw [kinds, List.filter_filter, List.filter_filter]
    simp only [Bool.and_comm]
  rw [stateQueries, List.length_map, others]
  exact List.length_filter_le ..

theorem queries_registry (answered : List Query) {k : ClassKind} (hk : d.lists k = true)
    (hv : k ≠ .version) : (d.registry answered).queries k.id = [.report k] := by
  unfold Registry.queries
  rw [get?_registry_id d answered hk]
  dsimp only
  rw [Handler.queries, kind_handler]
  cases k with
  | version => exact absurd rfl hv
  | basic | switchBinary | switchMultilevel | manufacturerSpecific => rfl

theorem toList_without (answered : List Query) (id : UInt8) :
    ((d.registry answered).without id).toList =
      (d.kinds.filter fun k => k.id != id).map (d.handler answered) := by
  change ((d.kinds.map fun k => (k.id, d.handler answered k)).filter
    fun e => e.1 != id).map (·.2) = _
  rw [List.filter_map, List.map_map]
  rfl

theorem queries_version (answered : List Query) (hv : d.lists .version = true) :
    (d.registry answered).queries ClassId.version = d.versionQueries := by
  unfold Registry.queries
  rw [show ClassId.version = ClassKind.version.id from rfl, get?_registry_id d answered hv]
  dsimp only
  rw [Handler.queries, kind_handler, toList_without, versionQueries, if_pos hv]
  have versioned : (fun other : Handler => decide (defaultVersion < other.maxVersion)) ∘
      d.handler answered = fun k => decide (defaultVersion < k.maxVersion) :=
    funext fun k => by rw [Function.comp_apply, Handler.maxVersion, kind_handler]
  have named : (fun other : Handler => Query.versionOf other.id) ∘ d.handler answered =
      fun k => Query.versionOf k.id :=
    funext fun k => by rw [Function.comp_apply, Handler.id, kind_handler]
  -- only one handler understands more than the default version
  have sole : (fun k => decide (defaultVersion < ClassKind.maxVersion k) &&
      k.id != ClassKind.version.id && d.lists k) =
        fun k => k == .switchMultilevel && d.lists k := by
    funext k
    cases k <;> rfl
  congr 1
  rw [List.filter_map, List.map_map, versioned, named, kinds, List.filter_filter,
    List.filter_filter, sole]
  cases hm : d.lists .switchMultilevel <;> simp [ClassKind.all, ClassKind.id, hm]

end DeviceModel

end ZWave
