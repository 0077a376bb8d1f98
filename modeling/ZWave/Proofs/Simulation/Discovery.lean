import ZWave.Proofs.Simulation.BringUp
import ZWave.Summary.Basic

/-!
# What is known of a device in the end

Once a listening device that fails one request at most is ready, the handlers of its node hold what
its model says (`DeviceModel.Discovered`), and so does the summary of the node. That takes two
cycles for each listening device and eight more.
-/

namespace ZWave

namespace DeviceModel

variable (d : DeviceModel)

/-- Whether the Basic reports of the device are read by the handler of a switch. -/
def remapsBasic : Bool :=
  match d.profile with
  | .generic => false
  | .binarySwitch => d.lists .switchBinary
  | .multilevelSwitch => d.lists .switchMultilevel

def known : ClassKind → Learned
  | .basic => .basic (if d.remapsBasic then none else some d.level)
  | .switchBinary => .switchBinary (some (d.level != 0))
  | .switchMultilevel => .switchMultilevel (some d.level)
  | .manufacturerSpecific => .manufacturerSpecific (some (d.manufacturer.getD {}))
  | .version => .version (some d.firmware)

def spoken (k : ClassKind) : UInt8 :=
  if k = .switchMultilevel ∧ d.lists .version then d.classVersion ClassId.switchMultilevel else 1

/-- The level in the summary: that of a dimmer, else of a switch, else the Basic value. -/
def shownLevel : Option UInt8 :=
  if d.lists .switchMultilevel then some d.level
  else if d.lists .switchBinary then some (if d.level = 0 then Level.off else Level.on)
  else if d.lists .basic then some d.level
  else none

def summary : NodeSummary where
  id := d.id
  profile := d.profile
  state := .started
  listening := true
  classes := d.kinds.map fun k => ⟨k.id, k.name, d.spoken k⟩
  firmware := if d.lists .version then some d.firmware else none
  manufacturer := if d.lists .manufacturerSpecific then some (d.manufacturer.getD {}) else none
  level := d.shownLevel
  writeQueue := 0
  wakeupQueue := 0

/-- The node is ready and knows of its device what the model says. -/
structure Discovered (n : Node) : Prop where
  started : n.state = .started
  distinct : n.classes.ids.Nodup
  ids : ∀ id, id ∈ n.classes.ids ↔ id ∈ d.classIds ∧ (Factory.standard.create? id).isSome
  handlers : ∀ k, d.lists k = true → n.classes.get? k.id = some ⟨d.known k, d.spoken k⟩
  texts : d.lists .version = true → ∃ f, n.classes.firmware? = some f ∧
    f.libraryText = toString d.firmware.library ∧
    f.protocol.text = s!"{d.firmware.protocol.major}.{d.firmware.protocol.minor}" ∧
    f.application.text = s!"{d.firmware.application.major}.{d.firmware.application.minor}"
  summary : NodeSummary.ofNode n = d.summary

/-! ## All answers together -/

theorem report_mem (k : ClassKind) :
    .report k ∈ d.versionQueries ++ d.stateQueries ↔ d.lists k = true := by
  have state : .report k ∈ d.stateQueries ↔ d.lists k = true ∧ k ≠ .version := by
    simp [stateQueries, kinds, ClassKind.mem_all, and_comm]
  rw [List.mem_append, state]
  unfold versionQueries
  cases k <;> cases h : d.lists .version <;> simp_all

theorem versionOf_mem (k : ClassKind) :
    .versionOf k.id ∈ d.versionQueries ++ d.stateQueries ↔
      k = .switchMultilevel ∧ d.lists .version = true ∧ d.lists .switchMultilevel = true := by
  have state : .versionOf k.id ∉ d.stateQueries := by simp [stateQueries]
  have own : k.id = ClassId.switchMultilevel ↔ k = .switchMultilevel :=
    ⟨fun h => ClassKind.id_inj h, fun h => h ▸ rfl⟩
  rw [List.mem_append, or_iff_left state, ← own]
  unfold versionQueries
  cases d.lists .version <;> cases d.lists .switchMultilevel <;> simp

/-- The handler of a class has read a report in the end, unless it is Basic's and a switch reads for
it. -/
theorem any_informs {k : ClassKind} (hk : d.lists k = true) :
    (d.versionQueries ++ d.stateQueries).any (d.informs k) = !(k == .basic && d.remapsBasic) := by
  have basic : d.readBy .basic = .basic ↔ d.remapsBasic = false := by
    rw [readBy, basicReader, remapsBasic]
    cases d.profile with
    | generic => simp
    | binarySwitch => cases d.lists .switchBinary <;> simp
    | multilevelSwitch => cases d.lists .switchMultilevel <;> simp
  have some : (d.versionQueries ++ d.stateQueries).any (d.informs k) = true ↔ d.readBy k = k := by
    rw [List.any_eq_true]
    constructor
    · rintro ⟨q, hq, hi⟩
      cases q with
      | versionOf id => cases hi
      | report j =>
        have hj : d.readBy j = k := by simpa [informs] using hi
        rcases d.readBy_cases j with h | ⟨rfl, h⟩
        · rw [← hj, h]; exact h
        · rcases h with ⟨h, -⟩ | ⟨h, -⟩
          · rw [← hj, h]; rfl
          · rw [← hj, h]; rfl
    · intro h
      exact ⟨.report k, (d.report_mem k).2 hk, by simpa [informs] using h⟩
  rw [Bool.eq_iff_iff, some]
  cases k with
  | basic => simp [basic]
  | switchBinary | switchMultilevel | manufacturerSpecific | version => simp [readBy]

theorem handler_all {k : ClassKind} (hk : d.lists k = true) :
    d.handler (d.versionQueries ++ d.stateQueries) k = ⟨d.known k, d.spoken k⟩ := by
  have learned : (if (d.versionQueries ++ d.stateQueries).any (d.informs k) then d.told k
      else .nothing k) = d.known k := by
    rw [d.any_informs hk]
    cases k with
    | basic => cases h : d.remapsBasic <;> simp [h, told, known, Learned.nothing]
    | switchBinary | switchMultilevel | manufacturerSpecific | version => rfl
  have version : (if .versionOf k.id ∈ d.versionQueries ++ d.stateQueries then d.classVersion k.id
      else defaultVersion) = d.spoken k := by
    rw [spoken]
    by_cases h : k = .switchMultilevel ∧ d.lists .version = true
    · obtain ⟨rfl, hv⟩ := h
      rw [if_pos ((d.versionOf_mem _).2 ⟨rfl, hv, hk⟩), if_pos ⟨rfl, hv⟩]
      rfl
    · rw [if_neg fun hm => h ⟨((d.versionOf_mem k).1 hm).1, ((d.versionOf_mem k).1 hm).2.1⟩,
        if_neg h]
  rw [handler, learned, version]

/-! ## The node in the end -/

def ready (d : DeviceModel) : Node :=
  d.node .started (d.versionQueries ++ d.stateQueries) [] (d.lists .version)

theorem get?_ready {k : ClassKind} :
    d.ready.classes.get? k.id = if d.lists k then some ⟨d.known k, d.spoken k⟩ else none := by
  cases hk : d.lists k with
  | true => rw [if_pos rfl, ← d.handler_all hk]; exact d.get?_registry_id _ hk
  | false =>
    refine (d.get?_registry _ _).trans ?_
    rw [ClassKind.ofId?_id, Option.bind_some, hk]
    rfl

theorem learned?_ready (k : ClassKind) :
    d.ready.classes.learned? k = if d.lists k then some (d.known k) else none := by
  rw [Registry.learned?, get?_ready]
  cases d.lists k <;> rfl

theorem level?_ready : d.ready.classes.level? = d.shownLevel := by
  have dimmer : d.ready.classes.dimmerLevel? =
      if d.lists .switchMultilevel then some d.level else none := by
    rw [Registry.dimmerLevel?, learned?_ready]
    cases d.lists .switchMultilevel <;> rfl
  have switch : d.ready.classes.switchedOn? =
      if d.lists .switchBinary then some (d.level != 0) else none := by
    rw [Registry.switchedOn?, learned?_ready]
    cases d.lists .switchBinary <;> rfl
  have basic : d.ready.classes.basicValue? =
      if d.lists .basic then (if d.remapsBasic then none else some d.level) else none := by
    rw [Registry.basicValue?, learned?_ready]
    cases d.lists .basic <;> rfl
  -- where neither switch is listed, Basic reports are read by Basic's own handler
  have remaps : d.lists .switchMultilevel = false → d.lists .switchBinary = false →
      d.remapsBasic = false := by
    intro hm hb
    unfold remapsBasic
    cases d.profile <;> simp [hm, hb]
  rw [Registry.level?, dimmer, switch, basic, shownLevel]
  cases hm : d.lists .switchMultilevel with
  | true => rfl
  | false =>
    cases hb : d.lists .switchBinary with
    | true => by_cases h : d.level = 0 <;> simp [h]
    | false => rw [remaps hm hb]; rfl

theorem firmware?_ready :
    d.ready.classes.firmware? = if d.lists .version then some d.firmware else none := by
  rw [Registry.firmware?, learned?_ready]
  cases d.lists .version <;> rfl

theorem summary_ready : NodeSummary.ofNode d.ready = d.summary := by
  have classes : (d.ready.classes.toList.map fun h => (⟨h.id, h.name, h.version⟩ : ClassSummary)) =
      d.kinds.map fun k => ⟨k.id, k.name, d.spoken k⟩ := by
    change ((d.kinds.map fun k => (k.id, d.handler _ k)).map (·.2)).map _ = _
    rw [List.map_map, List.map_map]
    refine List.map_congr_left fun k hk => ?_
    have handler := d.handler_all (List.mem_filter.1 hk).2
    have kind := d.kind_handler (d.versionQueries ++ d.stateQueries) k
    have version := congrArg Handler.version handler
    simp only [Function.comp_apply, Handler.id, Handler.name, kind, version]
  have manufacturer : d.ready.classes.manufacturer? =
      if d.lists .manufacturerSpecific then some (d.manufacturer.getD {}) else none := by
    rw [Registry.manufacturer?, learned?_ready]
    cases d.lists .manufacturerSpecific <;> rfl
  rw [NodeSummary.ofNode, classes, firmware?_ready, manufacturer, level?_ready]
  rfl

theorem discovered_ready : d.Discovered d.ready where
  started := rfl
  distinct := d.ready.classes.handlers.nodup_ids
  ids := by
    intro id
    have found : id ∈ d.ready.classes.ids ↔ (d.ready.classes.get? id).isSome :=
      (IdMap.contains_iff ..).symm
    have get : d.ready.classes.get? id = _ :=
      d.get?_registry (d.versionQueries ++ d.stateQueries) id
    rw [found, get]
    change _ ↔ _ ∧ ((ClassKind.ofId? id).map Handler.fresh).isSome = true
    cases hk : ClassKind.ofId? id with
    | none => simp
    | some k =>
      obtain rfl : k.id = id := ClassKind.ofId?_eq_some_iff.1 hk
      rw [Option.bind_some, Option.map_some, lists]
      by_cases h : k.id ∈ d.classIds <;> simp [h]
  handlers k hk := by rw [get?_ready, if_pos hk]
  texts hv := ⟨d.firmware, by rw [firmware?_ready, if_pos hv], rfl, rfl, rfl⟩
  summary := d.summary_ready

end DeviceModel

/-- **Discovery is faithful.** A listening device that fails one request at most is known as its
model describes it, after two cycles for each listening device and eight more. -/
theorem NetworkModel.discovered_runFor {m : NetworkModel} (valid : m.validate = .ok ())
    (speaks : ∀ d ∈ m.nodes, ∀ k ∈ d.classes, d.classVersions.lookup k ≠ some 0) :
    ∃ c, Controller.ofModel m = .ok c ∧ ∀ cycles, 2 * m.listeningCount + 8 ≤ cycles →
      ∀ d ∈ m.nodes, d.listening = true → d.failNodeInfo ≤ 1 →
        ∃ n, (c.runFor cycles).value.node? d.id = some n ∧ d.Discovered n := by
  obtain ⟨c, hc, linked, links⟩ := Controller.ofModel_ok valid
  have start := Controller.Underway.start linked (NetworkModel.validate_ok valid).2 links
  refine ⟨c, hc, fun cycles enough d hd listens fails => ?_⟩
  have later := start.advance speaks cycles
  rw [Nat.zero_add] at later
  obtain ⟨told, which, node⟩ := later.listening_started enough hd listens
  rw [Controller.runFor_value]
  rcases which with rfl | ⟨-, twice⟩
  · exact ⟨_, node, told.discovered_ready⟩
  · omega

/-- A dimmer that lists Version before its switch class, and fails the first request. -/
theorem NetworkModel.discovered_runFor_dimmer :
    ∃ m : NetworkModel, m.validate = .ok () ∧ m.listeningCount = 1 ∧
      ∃ c, Controller.ofModel m = .ok c ∧ ∃ n, (c.runFor 10).value.node? 7 = some n ∧
        n.state = .started ∧ n.classes.level? = some 42 ∧
        n.classes.get? ClassId.basic = some ⟨.basic none, 1⟩ ∧
        n.classes.get? ClassId.switchMultilevel = some ⟨.switchMultilevel (some 42), 3⟩ := by
  let d : DeviceModel :=
    { id := 7, kind := .multilevelSwitch, classes := [.version, .basic, .switchMultilevel, .basic],
      classVersions := [(.switchMultilevel, 3)], failNodeInfo := 1, level := 42 }
  obtain ⟨c, hc, run⟩ := NetworkModel.discovered_runFor (m := ⟨[d]⟩) rfl (by decide)
  obtain ⟨n, hn, known⟩ := run 10 (by decide) d (by decide) rfl (by decide)
  have level : n.classes.level? = some 42 := congrArg NodeSummary.level known.summary
  exact ⟨⟨[d]⟩, rfl, rfl, c, hc, n, hn, known.started, level,
    known.handlers .basic rfl, known.handlers .switchMultilevel rfl⟩

end ZWave
