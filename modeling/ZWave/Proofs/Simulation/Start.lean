import Mathlib.Data.List.Nodup
import ZWave.Proofs.Simulation.Cycle
import ZWave.Proofs.Simulation.Listening
import ZWave.Proofs.Simulation.Sleeping

/-!
# The start of a simulation

The controller of a model that was validated has a link for every device of the model, which begins
as its node joins (`Controller.ofModel_ok`).
-/

namespace ZWave

/-! ## Validation -/

/-- What the rules ask of devices that follow others with the ids `seen`. -/
theorem firstFault?_eq_none_iff {ds : List DeviceModel} {seen : List NodeId} :
    firstFault? ds seen = none ↔
      (∀ d ∈ ds, d.id ≠ 0 ∧ d.id ≤ NodeId.highest ∧ d.id ∉ seen ∧
        (d.listening = false → d.wakeInterval ≠ none)) ∧ (ds.map (·.id)).Nodup := by
  induction ds generalizing seen with
  | nil => simp [firstFault?]
  | cons d ds ih =>
    have fault : d.fault? seen = none ↔ d.id ≠ 0 ∧ d.id ≤ NodeId.highest ∧ d.id ∉ seen ∧
        (d.listening = false → d.wakeInterval ≠ none) := by
      unfold DeviceModel.fault?
      grind
    have step : firstFault? (d :: ds) seen = none ↔
        d.fault? seen = none ∧ firstFault? ds (d.id :: seen) = none := by
      rw [firstFault?]
      cases d.fault? seen <;> simp
    rw [step, fault, ih, List.map_cons, List.nodup_cons, List.forall_mem_cons]
    -- the later devices are told apart from `d` by the list of ids seen, and by `Nodup` here
    constructor
    · rintro ⟨hd, hds, distinct⟩
      refine ⟨⟨hd, fun x hx => ?_⟩, fun hm => ?_, distinct⟩
      · obtain ⟨zero, highest, fresh, wakes⟩ := hds x hx
        exact ⟨zero, highest, fun hs => fresh (List.mem_cons_of_mem _ hs), wakes⟩
      · obtain ⟨x, hx, hid⟩ := List.mem_map.1 hm
        exact (hds x hx).2.2.1 (hid ▸ List.mem_cons_self ..)
    · rintro ⟨⟨hd, hds⟩, fresh, distinct⟩
      refine ⟨hd, fun x hx => ?_, distinct⟩
      obtain ⟨zero, highest, unseen, wakes⟩ := hds x hx
      refine ⟨zero, highest, fun hm => ?_, wakes⟩
      rcases List.mem_cons.1 hm with hid | hm
      · exact fresh (List.mem_map.2 ⟨x, hx, hid⟩)
      · exact unseen hm

theorem NetworkModel.validate_eq_ok_iff {m : NetworkModel} :
    m.validate = .ok () ↔ firstFault? m.nodes [] = none := by
  unfold validate
  cases firstFault? m.nodes [] with
  | none => exact ⟨fun _ => rfl, fun _ => rfl⟩
  | some fault => exact ⟨fun h => (nomatch h), fun h => (nomatch h)⟩

/-- The devices of a model that is accepted have addresses of their own. -/
theorem NetworkModel.validate_ok {m : NetworkModel} (h : m.validate = .ok ()) :
    (∀ d ∈ m.nodes, d.id ≠ 0) ∧ (m.nodes.map (·.id)).Nodup := by
  obtain ⟨devices, distinct⟩ := firstFault?_eq_none_iff.1 (validate_eq_ok_iff.1 h)
  exact ⟨fun d hd => (devices d hd).1, distinct⟩

/-! ## Nodes and devices -/

/-- The device of a model with an id. -/
def NetworkModel.device? (m : NetworkModel) (k : NodeId) : Option DeviceModel :=
  m.nodes.find? fun d => d.id == k

theorem NetworkModel.device?_eq_some_iff {m : NetworkModel} (distinct : (m.nodes.map (·.id)).Nodup)
    {k : NodeId} {d : DeviceModel} : m.device? k = some d ↔ d ∈ m.nodes ∧ d.id = k := by
  unfold device?
  constructor
  · intro h
    exact ⟨List.mem_of_find?_eq_some h, by simpa using List.find?_some h⟩
  · rintro ⟨hd, rfl⟩
    cases hf : m.nodes.find? fun x => x.id == d.id with
    | none => exact absurd (List.find?_eq_none.1 hf d hd) (by simp)
    | some x =>
      have hx : x.id = d.id := by simpa using List.find?_some hf
      exact congrArg some (List.inj_on_of_nodup_map distinct (List.mem_of_find?_eq_some hf) hd hx)

theorem NetworkModel.isSome_device?_iff {m : NetworkModel}
    (distinct : (m.nodes.map (·.id)).Nodup) {k : NodeId} :
    (m.device? k).isSome ↔ k ∈ m.nodes.map (·.id) := by
  rw [Option.isSome_iff_exists, List.mem_map]
  simp only [device?_eq_some_iff distinct]

/-- The node of a device when it has joined. -/
def DeviceModel.joined (d : DeviceModel) : Node :=
  (Node.join d.id d.protocolInfo .standard).value.withProfile d.profile

theorem DeviceModel.joined_eq (d : DeviceModel) :
    d.joined = if d.listening then d.asking 0 else d.unheard := by
  unfold joined Node.join
  cases h : d.listening with
  | true =>
    simp [asking, DeviceModel.protocolInfo, h, Node.enqueue, Node.withProfile, Queues.push_eq,
      Queues.lane]
  | false =>
    simp [unheard, DeviceModel.protocolInfo, h, Node.withProfile, profile]

/-- What a node keeps of what the network learns when it joins. -/
theorem DeviceModel.joined_keeps (d : DeviceModel) :
    d.joined.id = d.id ∧ d.joined.device = d.protocolInfo.device ∧
      d.joined.queues.listening = d.protocolInfo.listening := by
  rw [joined_eq]
  cases listens : d.listening with
  | true => simp [asking, protocolInfo, listens]
  | false => simp [unheard, protocolInfo, listens]

namespace Controller

theorem addAll_ok {σ : Type} {c : Controller σ} {ds : List DeviceModel}
    (standard : c.factory = .standard) (distinct : (ds.map (·.id)).Nodup)
    (free : ∀ d ∈ ds, c.node? d.id = none) :
    ∃ c', c.addAll ds = .ok c' ∧ c'.network = c.network ∧ ∀ k, c'.node? k =
      ((ds.find? fun d => d.id == k).map (·.joined)).or (c.node? k) := by
  induction ds generalizing c with
  | nil => exact ⟨c, rfl, rfl, fun k => rfl⟩
  | cons d ds ih =>
    obtain ⟨fresh, distinct⟩ := List.nodup_cons.1 distinct
    have other : ∀ x ∈ ds, x.id ≠ d.id := fun x hx e => fresh (List.mem_map.2 ⟨x, hx, e⟩)
    have vacant : c.nodes.contains d.id = false := by
      have hd := free d (List.mem_cons_self ..)
      rw [IdMap.contains, ← node?, hd]
      rfl
    have id : d.joined.id = d.id := id_join ..
    have added : (c.add d.id d.protocolInfo).map (·.value) = .ok (c.withNode d.joined) := by
      unfold add
      rw [vacant, standard]
      rfl
    have free' : ∀ x ∈ ds, (c.withNode d.joined).node? x.id = none := by
      intro x hx
      rw [node?_withNode, id, if_neg (other x hx)]
      exact free x (List.mem_cons_of_mem _ hx)
    obtain ⟨c', hc, network, nodes⟩ := ih (c := c.withNode d.joined) standard distinct free'
    refine ⟨c', ?_, network, fun k => ?_⟩
    · unfold addAll
      rw [List.foldlM_cons, added]
      exact hc
    · rw [nodes, node?_withNode, id, List.find?_cons]
      by_cases hk : k = d.id
      · have later : ds.find? (fun x => x.id == k) = none :=
          List.find?_eq_none.2 fun x hx => by simpa [hk] using other x hx
        rw [later, hk]
        simp
      · have hne : (d.id == k) = false := beq_eq_false_iff_ne.2 (Ne.symm hk)
        rw [if_neg hk, hne]

end Controller

theorem SimulatedNetwork.device?_add (net : SimulatedNetwork) (s : SimulatedDevice) (k : NodeId) :
    (net.add s).device? k = if k = s.id then some s else net.device? k := IdMap.get?_insert ..

theorem SimulatedNetwork.addAll_eq (net : SimulatedNetwork) {ds : List DeviceModel}
    (distinct : (ds.map (·.id)).Nodup) :
    (ds.foldl (fun net d => net.add (.ofModel d)) net).inbound = net.inbound ∧
      ∀ k, (ds.foldl (fun net d => net.add (.ofModel d)) net).device? k =
        ((ds.find? fun d => d.id == k).map .ofModel).or (net.device? k) := by
  induction ds generalizing net with
  | nil => exact ⟨rfl, fun k => rfl⟩
  | cons d ds ih =>
    obtain ⟨fresh, distinct⟩ := List.nodup_cons.1 distinct
    obtain ⟨inbound, devices⟩ := ih (net.add (.ofModel d)) distinct
    refine ⟨inbound, fun k => ?_⟩
    refine (devices k).trans ?_
    rw [device?_add, List.find?_cons]
    by_cases hk : k = d.id
    · have later : ds.find? (fun x => x.id == k) = none :=
        List.find?_eq_none.2 fun x hx => by
          have hne : x.id ≠ d.id := fun e => fresh (List.mem_map.2 ⟨x, hx, e⟩)
          simpa [hk] using hne
      have hid : k = (SimulatedDevice.ofModel d).id := hk
      rw [later, if_pos hid, hk]
      simp
    · have hid : ¬ k = (SimulatedDevice.ofModel d).id := hk
      have hne : (d.id == k) = false := beq_eq_false_iff_ne.2 (Ne.symm hk)
      rw [if_neg hid, hne]

/-- The link of a device as its node joins. -/
def Link.ofModel (d : DeviceModel) : Link := ⟨d.joined, .ofModel d⟩

theorem Link.ofModel_of_listens {d : DeviceModel} (listens : d.listening = true) :
    ofModel d = ⟨d.asking 0, .ofModel d⟩ := by
  rw [ofModel, d.joined_eq, listens, if_pos rfl]

theorem Link.ofModel_of_sleeps {d : DeviceModel} (sleeps : d.listening = false) :
    ofModel d = ⟨d.unheard, .ofModel d⟩ := by
  rw [ofModel, d.joined_eq, sleeps]
  rfl

/-- A model that is accepted has a controller, with a link for every device. -/
theorem Controller.ofModel_ok {m : NetworkModel} (valid : m.validate = .ok ()) :
    ∃ c, Controller.ofModel m = .ok c ∧ c.Linked ∧
      ∀ k, c.link? k = (m.device? k).map .ofModel := by
  obtain ⟨nonzero, distinct⟩ := NetworkModel.validate_ok valid
  obtain ⟨c, hc, network, nodes⟩ := addAll_ok (c := { network := SimulatedNetwork.ofModel m }) rfl
    distinct fun _ _ => rfl
  obtain ⟨inbound, devices⟩ := SimulatedNetwork.addAll_eq {} distinct
  have nodes : ∀ k, c.node? k = (m.device? k).map (·.joined) := by
    intro k
    rw [nodes k]
    exact Option.or_none
  have devices : ∀ k, c.network.device? k = (m.device? k).map .ofModel := by
    intro k
    rw [network]
    refine (devices k).trans ?_
    exact Option.or_none
  have links : ∀ k, c.link? k = (m.device? k).map .ofModel := by
    intro k
    rw [link?, nodes, devices]
    cases m.device? k <;> rfl
  have zero : m.device? 0 = none := by
    refine List.find?_eq_none.2 fun d hd => ?_
    simpa using nonzero d hd
  refine ⟨c, hc, ⟨⟨fun k => ?_, fun k l hl => ?_⟩, fun k => ?_, ?_, ?_⟩, links⟩
  · rw [nodes, devices, Option.isSome_map, Option.isSome_map]
  · rw [links] at hl
    obtain ⟨d, hd, rfl⟩ := Option.map_eq_some_iff.1 hl
    obtain ⟨-, rfl⟩ := (NetworkModel.device?_eq_some_iff distinct).1 hd
    have addressed := Node.addressed_join d.id d.protocolInfo .standard
    exact ⟨id_join .., rfl, addressed⟩
  · rw [awaits, nodes]
    cases m.device? k with
    | none => rfl
    | some d => exact awaitsNodeInfo_join ..
  · rw [network]
    exact inbound
  · rw [nodes, zero]
    rfl

end ZWave
