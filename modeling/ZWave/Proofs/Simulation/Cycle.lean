import Mathlib.Data.List.Basic
import ZWave.Controller.Build
import ZWave.Proofs.Controller.OneRequest
import ZWave.Proofs.Simulation.Link

/-!
# Cycles on simulated networks

On a simulated network a cycle of the controller is a cycle of every link by itself
(`Linked.cycle`): what a node sends reaches its own device only, and what the device answers
comes back in the same cycle, to the node that asked. The links have to do with each other in one
way only, the turn that a node passes because another asks for its information before it
(`Controller.holds`).
-/

namespace ZWave

/-! ## Lists with an entry for some ids -/

/-- The entries that `g` has for ids, each with its id. -/
def tagged {α : Type} (g : NodeId → Option α) (ids : List NodeId) : List (NodeId × α) :=
  ids.filterMap fun k => (g k).map (k, ·)

section Tagged

variable {α : Type} (g : NodeId → Option α) (ids : List NodeId)

theorem map_snd_tagged : (tagged g ids).map (·.2) = ids.filterMap g := by
  unfold tagged
  rw [List.map_filterMap]
  refine List.filterMap_congr fun k _ => ?_
  cases g k <;> rfl

theorem mem_tagged {e : NodeId × α} : e ∈ tagged g ids ↔ e.1 ∈ ids ∧ g e.1 = some e.2 := by
  rw [tagged, List.mem_filterMap]
  constructor
  · rintro ⟨k, hk, he⟩
    obtain ⟨a, ha, rfl⟩ := Option.map_eq_some_iff.1 he
    exact ⟨hk, ha⟩
  · rintro ⟨hk, hg⟩
    exact ⟨e.1, hk, by rw [hg]; rfl⟩

theorem map_fst_tagged : (tagged g ids).map (·.1) = ids.filter fun k => (g k).isSome := by
  induction ids with
  | nil => rfl
  | cons k ids ih =>
    rw [tagged, List.filterMap_cons, ← tagged]
    cases hg : g k with
    | none => simp [hg, ih]
    | some a => simp [hg, ih]

theorem lookup_tagged (k : NodeId) : (tagged g ids).lookup k = if k ∈ ids then g k else none := by
  induction ids with
  | nil => rfl
  | cons j ids ih =>
    rw [tagged, List.filterMap_cons, ← tagged]
    by_cases hk : k = j
    · subst hk
      cases hg : g k with
      | none => simp [ih, hg]
      | some a => simp
    · have hne : (k == j) = false := beq_eq_false_iff_ne.2 hk
      cases g j with
      | none => simp [ih, hk]
      | some a => simp [List.lookup_cons, ih, hk, hne]

end Tagged

theorem IdMap.filterMap_values {α β : Type} (m : IdMap α) (g : α → Option β) :
    m.values.filterMap g = m.ids.filterMap fun k => (m.get? k).bind g := by
  rw [values, ids, List.filterMap_map, List.filterMap_map]
  refine List.filterMap_congr fun e he => ?_
  rw [Function.comp_apply, Function.comp_apply, (m.get?_eq_some_iff e.1 e.2).2 he]
  rfl

namespace SimulatedNetwork

/-- A frame reaches the device it names, and the answer is delivered next. -/
theorem send_eq {net : SimulatedNetwork} {f : Frame} {id : NodeId} {d : SimulatedDevice}
    (named : f.nodeId? = some id) (hd : net.device? id = some d) (hid : d.id = id) :
    (∀ k, (Network.send f net).device? k =
        if k = id then some (d.handle f).1 else net.device? k) ∧
      (Network.send f net).inbound =
        net.inbound ++ ((d.handle f).2.map (Inbound.mk · false)).toList := by
  have hg : f.nodeId?.bind net.devices.get? = some d := by rw [named]; exact hd
  change (∀ k, (net.send f).device? k = _) ∧ (net.send f).inbound = _
  unfold send
  simp only [hg]
  refine ⟨fun k => ?_, trivial⟩
  rw [device?, IdMap.get?_insert, d.id_handle, hid]
  rfl

end SimulatedNetwork

namespace Controller

variable {c : Controller SimulatedNetwork}

/-- The node with an id and its device. -/
def link? (c : Controller SimulatedNetwork) (id : NodeId) : Option Link :=
  (c.node? id).bind fun n => (c.network.device? id).map fun d => ⟨n, d⟩

theorem link?_eq_some_iff {id : NodeId} {l : Link} :
    c.link? id = some l ↔ c.node? id = some l.node ∧ c.network.device? id = some l.device := by
  unfold link?
  constructor
  · intro h
    obtain ⟨n, hn, h⟩ := Option.bind_eq_some_iff.1 h
    obtain ⟨d, hd, rfl⟩ := Option.map_eq_some_iff.1 h
    exact ⟨hn, hd⟩
  · rintro ⟨hn, hd⟩
    rw [hn, hd]
    rfl

/-- Every node has its device, and every link is proper. -/
structure Matched (c : Controller SimulatedNetwork) : Prop where
  paired : ∀ k, (c.node? k).isSome = (c.network.device? k).isSome
  proper : ∀ k l, c.link? k = some l → l.Proper k

theorem Matched.exists_link {c : Controller SimulatedNetwork} (m : c.Matched) {k : NodeId}
    {n : Node} (hn : c.node? k = some n) :
    ∃ d, c.network.device? k = some d ∧ c.link? k = some ⟨n, d⟩ := by
  have hd : (c.network.device? k).isSome := by rw [← m.paired, hn]; rfl
  obtain ⟨d, hd⟩ := Option.isSome_iff_exists.1 hd
  exact ⟨d, hd, link?_eq_some_iff.2 ⟨hn, hd⟩⟩

theorem Matched.isSome_link? {c : Controller SimulatedNetwork} (m : c.Matched) (k : NodeId) :
    (c.link? k).isSome = (c.node? k).isSome := by
  have paired := m.paired k
  unfold link?
  cases hn : c.node? k with
  | none => rfl
  | some n =>
    rw [hn] at paired
    simpa using paired.symm

theorem Matched.keyed (m : c.Matched) : c.Keyed := by
  intro k n hn
  obtain ⟨d, -, hl⟩ := m.exists_link hn
  exact (m.proper k _ hl).node

/-! ## Turns -/

/-- In its turn a node has to do with its own device only. -/
theorem Matched.turn (m : c.Matched) (busy : Option NodeId) (id : NodeId) :
    (c.turn busy id).value.Matched ∧
      (∀ k, (c.turn busy id).value.link? k =
        if k = id then (c.link? k).map fun l => (l.turn (holdsBack busy k l.node)).1
        else c.link? k) ∧
      (c.turn busy id).value.network.inbound = c.network.inbound ++
        (((c.link? id).bind fun l => (l.turn (holdsBack busy id l.node)).2).map
          (Inbound.mk · false)).toList := by
  rcases turn_cases m.keyed busy id with ⟨hb, ht⟩ | ⟨n, hn, hb, hv, hnet, -⟩
  · rw [ht]
    have passed : ∀ l, c.link? id = some l → l.turn (holdsBack busy id l.node) = (l, none) := by
      intro l hl
      rw [hb _ (link?_eq_some_iff.1 hl).1]
      rfl
    refine ⟨m, fun k => ?_, ?_⟩
    · split
      · next e =>
        subst e
        cases hl : c.link? k with
        | none => rfl
        | some l => rw [Option.map_some, passed l hl]
      · rfl
    · cases hl : c.link? id with
      | none => simp
      | some l => simp [passed l hl]
  · obtain ⟨d, hd, hl⟩ := m.exists_link hn
    have proper := m.proper id _ hl
    have node : ((⟨n, d⟩ : Link).turn false).1.node = n.tick.value := by
      cases hs : n.sends? with
      | none => rw [Link.turn_of_quiet hs]
      | some f => rw [Link.turn_of_sends hs]
    obtain ⟨hd', hi⟩ : (∀ k, (c.turn busy id).value.network.device? k =
        if k = id then some ((⟨n, d⟩ : Link).turn false).1.device else c.network.device? k) ∧
      (c.turn busy id).value.network.inbound = c.network.inbound ++
        (((⟨n, d⟩ : Link).turn false).2.map (Inbound.mk · false)).toList := by
      rw [hnet]
      cases hs : n.sends? with
      | none =>
        rw [Link.turn_of_quiet hs]
        refine ⟨fun k => ?_, by simp⟩
        split
        · next e => rw [e]; exact hd
        · rfl
      | some f =>
        rw [Link.turn_of_sends hs]
        have named : f.nodeId? = some id := by
          rw [proper.addressed.nodeId?_of_sends? hs]
          exact congrArg some proper.node
        exact SimulatedNetwork.send_eq named hd proper.device
    have links : ∀ k, (c.turn busy id).value.link? k =
        if k = id then some ((⟨n, d⟩ : Link).turn false).1 else c.link? k := by
      intro k
      unfold link?
      rw [hv, hd']
      split
      · rw [← node]; rfl
      · rfl
    refine ⟨⟨fun k => ?_, fun k l hk => ?_⟩, fun k => ?_, ?_⟩
    · rw [hv, hd']
      split
      · rfl
      · exact m.paired k
    · rw [links] at hk
      split at hk
      · next e => cases hk; rw [e]; exact proper.turn false
      · exact m.proper k l hk
    · rw [links]
      split
      · next e => rw [e, hl, Option.map_some, hb]
      · rfl
    · rw [hi, hl, Option.bind_some, hb]

def asks (c : Controller SimulatedNetwork) (id : NodeId) : Bool :=
  (c.node? id).any Node.nextIsNodeInfo

theorem asks_eq {id : NodeId} {l : Link} (hl : c.link? id = some l) :
    c.asks id = l.node.nextIsNodeInfo := by
  rw [asks, (link?_eq_some_iff.1 hl).1]
  rfl

/-- Node `k` passes its turn among `ids` while `busy` waits. -/
def heldIn (c : Controller SimulatedNetwork) (busy : Option NodeId) (ids : List NodeId)
    (k : NodeId) : Bool :=
  c.asks k && (busy.isSome || ids.any fun j => decide (j < k) && c.asks j)

/-- After the turn of a node that did not wait, somebody waits if somebody did or the node asked. -/
theorem busyAfter_turn_of_idle (hk : c.Keyed) {busy : Option NodeId} {id : NodeId}
    (idle : c.awaits id = false) (apart : busy ≠ some id) :
    (c.turn busy id).value.busyAfter busy id = busy.or (if c.asks id then some id else none) := by
  have waits : (c.turn busy id).value.awaits id = (busy.isNone && c.asks id) := by
    rw [awaits, node?_turn hk, if_pos rfl, asks]
    unfold awaits at idle
    cases hn : c.node? id with
    | none => simp
    | some n =>
      rw [hn, Option.any_some] at idle
      rw [Option.map_some, Option.any_some, Option.any_some, holdsBack]
      cases busy with
      | none => simp [Node.awaitsNodeInfo_tick_of_idle idle]
      | some j =>
        have hj : j ≠ id := fun e => apart (congrArg some e)
        cases hx : n.nextIsNodeInfo <;> simp [hj, idle, hx, Node.awaitsNodeInfo_tick_of_idle idle]
  unfold busyAfter
  rw [← awaits, waits]
  cases busy <;> simp

theorem holdsBack_eq_heldIn {busy : Option NodeId} {id : NodeId} {ids : List NodeId} {n : Node}
    (hn : c.node? id = some n) (apart : busy ≠ some id) (least : ∀ j ∈ ids, id < j) :
    holdsBack busy id n = c.heldIn busy (id :: ids) id := by
  have first : ((id :: ids).any fun j => decide (j < id) && c.asks j) = false := by
    refine List.any_eq_false.2 fun j hj => ?_
    have hle : ¬ j < id := by
      rcases List.mem_cons.1 hj with rfl | hj
      · exact UInt8.lt_irrefl j
      · exact fun h => UInt8.lt_irrefl _ (UInt8.lt_trans h (least j hj))
    simp [hle]
  rw [holdsBack, heldIn, first, Bool.or_false, asks, hn, Option.any_some, Bool.and_comm]
  cases busy with
  | none => rfl
  | some j => simp [show j ≠ id from fun e => apart (congrArg some e)]

theorem heldIn_turn (hk : c.Keyed) {busy : Option NodeId} {id k : NodeId} {ids : List NodeId}
    (idle : c.awaits id = false) (apart : busy ≠ some id) (least : ∀ j ∈ ids, id < j)
    (hmem : k ∈ ids) :
    (c.turn busy id).value.heldIn ((c.turn busy id).value.busyAfter busy id) ids k =
      c.heldIn busy (id :: ids) k := by
  have asks' : ∀ j ∈ ids, (c.turn busy id).value.asks j = c.asks j := by
    intro j hj
    have hne : j ≠ id := fun e => UInt8.lt_irrefl _ (e ▸ least j hj)
    rw [asks, asks, node?_turn hk, if_neg hne]
  have rest : (ids.any fun j => decide (j < k) && (c.turn busy id).value.asks j) =
      ids.any fun j => decide (j < k) && c.asks j := by
    rw [Bool.eq_iff_iff, List.any_eq_true, List.any_eq_true]
    constructor
    · rintro ⟨j, hj, h⟩
      exact ⟨j, hj, by rwa [asks' j hj] at h⟩
    · rintro ⟨j, hj, h⟩
      exact ⟨j, hj, by rwa [asks' j hj]⟩
  rw [heldIn, heldIn, asks' k hmem, rest, busyAfter_turn_of_idle hk idle apart, List.any_cons,
    decide_eq_true (least k hmem)]
  cases busy <;> cases c.asks id <;> simp

/-- What is answered in the turns of `ids`, each answer with the node that sent the frame. -/
def answersIn (c : Controller SimulatedNetwork) (busy : Option NodeId) (ids : List NodeId)
    (k : NodeId) : Option Frame :=
  (c.link? k).bind fun l => (l.turn (c.heldIn busy ids k)).2

theorem Matched.turnsOf (m : c.Matched) {busy : Option NodeId} {ids : List NodeId}
    (ascending : ids.Pairwise (· < ·)) (idle : ∀ id ∈ ids, c.awaits id = false)
    (apart : ∀ id ∈ ids, busy ≠ some id) :
    (c.turnsOf busy ids).value.Matched ∧
      (∀ k, (c.turnsOf busy ids).value.link? k =
        if k ∈ ids then (c.link? k).map fun l => (l.turn (c.heldIn busy ids k)).1
        else c.link? k) ∧
      (c.turnsOf busy ids).value.network.inbound = c.network.inbound ++
        (ids.filterMap (c.answersIn busy ids)).map (Inbound.mk · false) := by
  -- `heldIn` says of the start what each turn finds out for itself, since the ids ascend and a node
  -- that has had its turn is not among those to come
  induction ids generalizing c busy with
  | nil => exact ⟨m, fun k => by simp [Controller.turnsOf], by simp [Controller.turnsOf]⟩
  | cons id ids ih =>
    obtain ⟨least, ascending⟩ := List.pairwise_cons.1 ascending
    have hk := m.keyed
    have hidle : c.awaits id = false := idle id (List.mem_cons_self ..)
    have hapart : busy ≠ some id := apart id (List.mem_cons_self ..)
    have later : ∀ {k}, k ∈ ids → k ≠ id := by
      rintro k hmem rfl
      exact UInt8.lt_irrefl k (least k hmem)
    have held : ∀ l, c.link? id = some l →
        holdsBack busy id l.node = c.heldIn busy (id :: ids) id :=
      fun l hl => holdsBack_eq_heldIn (link?_eq_some_iff.1 hl).1 hapart least
    obtain ⟨m', links, inbound⟩ := m.turn busy id
    have idle' : ∀ j ∈ ids, (c.turn busy id).value.awaits j = false := by
      intro j hj
      rw [awaits, node?_turn hk, if_neg (later hj)]
      exact idle j (List.mem_cons_of_mem _ hj)
    have apart' : ∀ j ∈ ids, (c.turn busy id).value.busyAfter busy id ≠ some j := by
      intro j hj hb
      rw [busyAfter_turn_of_idle hk hidle hapart] at hb
      rcases Option.or_eq_some_iff.1 hb with hb | ⟨-, hb⟩
      · exact apart j (List.mem_cons_of_mem _ hj) hb
      · split at hb
        · exact later hj (Option.some.inj hb).symm
        · cases hb
    obtain ⟨m'', links', inbound'⟩ := ih m' ascending idle' apart'
    refine ⟨m'', fun k => ?_, ?_⟩
    · refine (links' k).trans ?_
      by_cases hmem : k ∈ ids
      · rw [if_pos hmem, if_pos (List.mem_cons_of_mem _ hmem), links, if_neg (later hmem),
          heldIn_turn hk hidle hapart least hmem]
      · rw [if_neg hmem, links]
        by_cases hid : k = id
        · subst hid
          rw [if_pos rfl, if_pos (List.mem_cons_self ..)]
          exact Option.map_congr fun l hl => by rw [held l hl]
        · rw [if_neg hid, if_neg (by simp [hid, hmem])]
    · have rest : ids.filterMap ((c.turn busy id).value.answersIn
          ((c.turn busy id).value.busyAfter busy id) ids) =
          ids.filterMap (c.answersIn busy (id :: ids)) := by
        refine List.filterMap_congr fun k hmem => ?_
        rw [answersIn, answersIn, links, if_neg (later hmem),
          heldIn_turn hk hidle hapart least hmem]
      have first : ((c.link? id).bind fun l => (l.turn (holdsBack busy id l.node)).2) =
          c.answersIn busy (id :: ids) id :=
        Option.bind_congr fun l hl => by rw [held l hl]
      refine inbound'.trans ?_
      rw [rest, inbound, first, List.filterMap_cons]
      cases c.answersIn busy (id :: ids) id <;> simp

/-! ## Deliveries -/

/-- A frame is for node `k`: it names it, or it fails a request while `k` waits. -/
def MeantFor (c : Controller SimulatedNetwork) (k : NodeId) (f : Frame) : Prop :=
  k ≠ 0 ∧ f.nodeId? = some k ∨ f = .applicationUpdate .requestFailed ∧ c.awaiting? = some k

theorem MeantFor.target?_eq {k : NodeId} {f : Frame} (h : c.MeantFor k f) :
    c.target? f = some k := by
  rcases h with ⟨hk, named⟩ | ⟨rfl, waits⟩
  · simp [target?, named, hk]
  · exact waits

/-- What is for a node stays so when another is given a frame: one that waits goes on waiting. -/
theorem MeantFor.route (hk : c.Keyed) (only : c.WaitsOnly c.awaiting?) {i : Inbound}
    {j k : NodeId} {f : Frame} (h : c.MeantFor k f) (target : c.target? i.frame = some j)
    (apart : j ≠ k) : (c.route i).value.MeantFor k f := by
  refine h.imp_right fun ⟨failed, waits⟩ => ⟨failed, ?_⟩
  obtain ⟨n, hn, hw⟩ := node?_of_awaiting? waits
  refine (awaiting?_eq_some_iff (only.route hk i).awaiting?).2 ⟨n, ?_, hw⟩
  rw [node?_route hk, target, if_neg fun h => apart (Option.some.inj h)]
  exact hn

theorem network_route (c : Controller SimulatedNetwork) (i : Inbound) :
    (c.route i).value.network = c.network := by
  unfold route
  split <;> rfl

/-- Frames for different nodes are each given to the node they are for. -/
theorem routeAll_tagged (hk : c.Keyed) (only : c.WaitsOnly c.awaiting?)
    {l : List (NodeId × Inbound)} (distinct : (l.map (·.1)).Nodup)
    (meant : ∀ e ∈ l, c.MeantFor e.1 e.2.frame) :
    (c.routeAll (l.map (·.2))).value.network = c.network ∧
      ∀ k, (c.routeAll (l.map (·.2))).value.node? k =
        (c.node? k).map fun n => n.hear ((l.lookup k).map (·.frame)) := by
  induction l generalizing c with
  | nil =>
    refine ⟨rfl, fun k => ?_⟩
    change c.node? k = (c.node? k).map fun n => n
    simp
  | cons e l ih =>
    obtain ⟨fresh, distinct⟩ := List.nodup_cons.1 distinct
    have other : ∀ x ∈ l, e.1 ≠ x.1 := by
      intro x hx h
      exact fresh (List.mem_map.2 ⟨x, hx, h.symm⟩)
    have target := (meant e (List.mem_cons_self ..)).target?_eq
    have nodes := node?_route hk e.2
    rw [target] at nodes
    have only' := (only.route hk e.2).awaiting?
    have meant' : ∀ x ∈ l, (c.route e.2).value.MeantFor x.1 x.2.frame :=
      fun x hx => (meant x (List.mem_cons_of_mem _ hx)).route hk only target (other x hx)
    obtain ⟨network, last⟩ := ih (hk.route e.2) only' distinct meant'
    refine ⟨network.trans (network_route c e.2), fun k => ?_⟩
    refine (last k).trans ?_
    rw [nodes]
    by_cases he : e.1 = k
    · subst he
      have none : l.lookup e.1 = none :=
        List.lookup_eq_none_iff.2 fun p hp => by simpa using other p hp
      rw [if_pos rfl, none, Option.map_map, List.lookup_cons, beq_self_eq_true]
      rfl
    · have hne : (k == e.1) = false := beq_eq_false_iff_ne.2 (Ne.symm he)
      rw [if_neg fun h => he (Option.some.inj h), List.lookup_cons, hne]

/-! ## Cycles -/

/-- Between cycles nobody waits for its information, and the network has nothing to deliver. -/
structure Linked (c : Controller SimulatedNetwork) : Prop where
  matched : c.Matched
  idle : ∀ k, c.awaits k = false
  quiet : c.network.inbound = []
  zero : c.node? 0 = none

/-- Node `k` passes its turn in the next cycle. -/
def holds (c : Controller SimulatedNetwork) (k : NodeId) : Bool := c.heldIn none c.nodes.ids k

theorem asks_of_holds {k : NodeId} (h : c.holds k = true) : c.asks k = true :=
  (Bool.and_eq_true_iff.1 h).1

/-- If a node asks for its information, the first that does has its turn. -/
theorem exists_asks_not_holds {k : NodeId} (h : c.asks k = true) :
    ∃ j, c.asks j = true ∧ c.holds j = false := by
  have hk : k ∈ c.nodes.ids := by
    refine (IdMap.contains_iff ..).1 ?_
    rw [asks, Option.any_eq_true] at h
    obtain ⟨n, hn, -⟩ := h
    exact Option.isSome_iff_exists.2 ⟨n, hn⟩
  have found : (c.nodes.ids.find? c.asks).isSome := List.find?_isSome.2 ⟨k, hk, h⟩
  obtain ⟨j, hj⟩ := Option.isSome_iff_exists.1 found
  obtain ⟨asked, before, after, split, earlier⟩ := List.find?_eq_some_iff_append.1 hj
  refine ⟨j, asked, ?_⟩
  have ascending := c.nodes.pairwise_ids
  rw [split, List.pairwise_append, List.pairwise_cons] at ascending
  have none : (c.nodes.ids.any fun i => decide (i < j) && c.asks i) = false := by
    refine List.any_eq_false.2 fun i hi => ?_
    rw [split, List.mem_append, List.mem_cons] at hi
    rcases hi with hi | rfl | hi
    · simp [show c.asks i = false by simpa using earlier i hi]
    · simp
    · have hlt : ¬ i < j := fun h => UInt8.lt_irrefl _ (UInt8.lt_trans h (ascending.2.1.1 i hi))
      simp [hlt]
  rw [holds, heldIn, none]
  simp

theorem Linked.awaiting?_eq (h : c.Linked) : c.awaiting? = none := by
  refine Option.eq_none_iff_forall_ne_some.2 fun k hk => ?_
  have hw := awaits_iff.2 (node?_of_awaiting? hk)
  rw [h.idle k] at hw
  cases hw

/-- What the devices announce when the cycle has passed, with their ids. -/
def announcements (c : Controller SimulatedNetwork) : List (NodeId × Inbound) :=
  tagged (fun k => (c.network.device? k).bind fun d => d.advance.2.map (Inbound.mk · true))
    c.network.devices.ids

/-- The answers of the devices, and then their announcements. -/
theorem poll_eq (c : Controller SimulatedNetwork) :
    c.poll.1 = c.network.inbound ++ c.announcements.map (·.2) := by
  rw [announcements, map_snd_tagged]
  exact congrArg (c.network.inbound ++ ·) (IdMap.filterMap_values ..)

theorem distinct_tagged {α : Type} (g : NodeId → Option α) {ids : List NodeId}
    (distinct : ids.Nodup) : ((tagged g ids).map (·.1)).Nodup := by
  rw [map_fst_tagged]
  exact distinct.sublist List.filter_sublist

theorem Matched.of_mem_announcements (m : c.Matched) (zero : c.node? 0 = none)
    {e : NodeId × Inbound} (he : e ∈ c.announcements) :
    (c.node? e.1).isSome ∧ e.2.unsolicited = true ∧
      ∀ c' : Controller SimulatedNetwork, c'.MeantFor e.1 e.2.frame := by
  obtain ⟨d, hd, he⟩ := Option.bind_eq_some_iff.1 ((mem_tagged _ _).1 he).2
  obtain ⟨f, hf, hi⟩ := Option.map_eq_some_iff.1 he
  have there : (c.node? e.1).isSome := by rw [m.paired, hd]; rfl
  obtain ⟨n, hn⟩ := Option.isSome_iff_exists.1 there
  have hid : d.id = e.1 := (m.proper e.1 ⟨n, d⟩ (link?_eq_some_iff.2 ⟨hn, hd⟩)).device
  refine ⟨there, by rw [← hi], fun c' => .inl ⟨fun h0 => ?_, ?_⟩⟩
  · rw [h0, zero] at hn
    cases hn
  · rw [← hi, SimulatedDevice.advance_announcement hf]
    exact congrArg some hid

theorem device?_poll (c : Controller SimulatedNetwork) (k : NodeId) :
    c.poll.2.network.device? k = (c.network.device? k).map (·.advance.1) := IdMap.get?_map ..

theorem Matched.node?_eq_none (m : c.Matched) {k : NodeId} (h : c.link? k = none) :
    c.node? k = none := by
  cases hn : c.node? k with
  | none => rfl
  | some n =>
    obtain ⟨d, -, hl⟩ := m.exists_link hn
    rw [hl] at h
    cases h

/-- What the turns of a cycle make of the links. -/
theorem Linked.turns (h : c.Linked) :
    c.turns.value.Matched ∧ c.turns.value.WaitsOnly c.turns.value.awaiting? ∧
      (∀ k, c.turns.value.link? k = (c.link? k).map fun l => (l.turn (c.holds k)).1) ∧
      c.turns.value.network.inbound =
        (tagged (fun k => (c.answersIn none c.nodes.ids k).map (Inbound.mk · false))
          c.nodes.ids).map (·.2) := by
  have apart : ∀ id ∈ c.nodes.ids, (none : Option NodeId) ≠ some id := by simp
  have only : c.WaitsOnly none := by
    intro k n hn hw
    have hw := awaits_iff.2 ⟨n, hn, hw⟩
    rw [h.idle k] at hw
    cases hw
  obtain ⟨m, links, inbound⟩ := h.matched.turnsOf c.nodes.pairwise_ids (fun id _ => h.idle id) apart
  obtain ⟨-, busy, only'⟩ := WaitsOnly.turnsOf h.matched.keyed only c.nodes.ids
  unfold Controller.turns
  rw [h.awaiting?_eq]
  refine ⟨m, only'.awaiting?, fun k => ?_, ?_⟩
  · rw [links]
    split
    · rfl
    · next hk =>
      rw [← IdMap.contains_iff, IdMap.contains, Bool.not_eq_true, Option.isSome_eq_false_iff,
        Option.isNone_iff_eq_none] at hk
      have none : c.link? k = none := by rw [link?, node?, hk]; rfl
      rw [none]
      rfl
  · rw [inbound, h.quiet, List.nil_append, map_snd_tagged, List.map_filterMap]

/-- After the turns every node is given the answer of its device, and then what that announces. -/
theorem Matched.deliver {answers : NodeId → Option Frame} {ids : List NodeId} (m : c.Matched)
    (only : c.WaitsOnly c.awaiting?) (zero : c.node? 0 = none) (distinct : ids.Nodup)
    (inbound : c.network.inbound =
      (tagged (fun k => (answers k).map (Inbound.mk · false)) ids).map (·.2))
    (known : ∀ k f, answers k = some f → k ∈ ids)
    (meant : ∀ k f, answers k = some f → c.MeantFor k f) :
    (c.poll.2.routeAll c.poll.1).value.network = c.poll.2.network ∧
      ∀ k, (c.poll.2.routeAll c.poll.1).value.node? k = (c.node? k).map fun n =>
        (n.hear (answers k)).hear ((c.network.device? k).bind (·.advance.2)) := by
  have answered : ∀ e ∈ tagged (fun k => (answers k).map (Inbound.mk · false)) ids,
      c.poll.2.MeantFor e.1 e.2.frame := by
    intro e he
    obtain ⟨f, hf, hi⟩ := Option.map_eq_some_iff.1 ((mem_tagged _ _).1 he).2
    rw [← hi]
    exact meant e.1 f hf
  have keyed : c.poll.2.Keyed := m.keyed
  have only : c.poll.2.WaitsOnly c.poll.2.awaiting? := only
  -- the answers and the announcements may be for the same node, so they are routed one list at a time
  rw [poll_eq, inbound]
  unfold routeAll
  rw [List.foldlM_append, Traced.value_bind]
  obtain ⟨network₁, nodes₁⟩ := routeAll_tagged keyed only (distinct_tagged _ distinct) answered
  obtain ⟨keyed₁, only₁⟩ := WaitsOnly.routeAll keyed only
    ((tagged (fun k => (answers k).map (Inbound.mk · false)) ids).map (·.2))
  obtain ⟨network₂, nodes₂⟩ :=
    routeAll_tagged keyed₁ only₁.awaiting? (distinct_tagged _ c.network.devices.nodup_ids)
      fun e he => (m.of_mem_announcements zero he).2.2 _
  refine ⟨network₂.trans network₁, fun k => ?_⟩
  refine (nodes₂ k).trans ?_
  have nodes₁ := nodes₁ k
  unfold routeAll at nodes₁
  rw [nodes₁, Option.map_map, lookup_tagged, lookup_tagged]
  refine Option.map_congr fun n hn => ?_
  have first : Option.map (·.frame)
      (if k ∈ ids then (answers k).map (Inbound.mk · false) else none) = answers k := by
    cases ha : answers k with
    | none => simp
    | some f => simp [known k f ha]
  have second : Option.map (·.frame) (if k ∈ c.network.devices.ids then
      (c.network.device? k).bind fun d => d.advance.2.map (Inbound.mk · true) else none) =
        (c.network.device? k).bind (·.advance.2) := by
    cases hd : c.network.device? k with
    | none => simp
    | some d =>
      have hk : k ∈ c.network.devices.ids :=
        (IdMap.contains_iff ..).1 (Option.isSome_iff_exists.2 ⟨d, hd⟩)
      rw [if_pos hk, Option.bind_some, Option.bind_some, Option.map_map]
      cases d.advance.2 <;> rfl
  rw [Function.comp_apply, first, second]

/-- What the turns and the deliveries of a cycle make of the links. -/
theorem Linked.turnsDelivered (h : c.Linked) :
    (c.turns.value.poll.2.routeAll c.turns.value.poll.1).value.Linked ∧
      ∀ k, (c.turns.value.poll.2.routeAll c.turns.value.poll.1).value.link? k =
        (c.link? k).map (·.cycle (c.holds k)) := by
  obtain ⟨m, only, links, inbound⟩ := h.turns
  generalize c.turns.value = t at m only links inbound
  have zero : t.node? 0 = none := by
    refine m.node?_eq_none ?_
    rw [links, link?, h.zero]
    rfl
  have known : ∀ k f, c.answersIn none c.nodes.ids k = some f → k ∈ c.nodes.ids := by
    intro k f hf
    obtain ⟨l, hl, -⟩ := Option.bind_eq_some_iff.1 hf
    exact (IdMap.contains_iff ..).1 (Option.isSome_iff_exists.2 ⟨_, (link?_eq_some_iff.1 hl).1⟩)
  have meant : ∀ k f, c.answersIn none c.nodes.ids k = some f → t.MeantFor k f := by
    intro k f hf
    obtain ⟨l, hl, hr⟩ := Option.bind_eq_some_iff.1 hf
    have hk : k ≠ 0 := by
      rintro rfl
      rw [link?, h.zero] at hl
      cases hl
    have ht : t.link? k = some (l.turn (c.holds k)).1 := by rw [links, hl]; rfl
    rcases (Link.turn_reply (h.matched.proper k l hl) hr).2 with named | ⟨failed, asked⟩
    · exact .inl ⟨hk, named⟩
    · exact .inr ⟨failed, (awaiting?_eq_some_iff only).2
        ⟨_, (link?_eq_some_iff.1 ht).1, asked⟩⟩
  obtain ⟨network, nodes⟩ := m.deliver only zero c.nodes.nodup_ids inbound known meant
  generalize (t.poll.2.routeAll t.poll.1).value = r at network nodes
  have devices : ∀ k, r.network.device? k = (t.network.device? k).map (·.advance.1) := by
    intro k
    rw [network, device?_poll]
  have last : ∀ k, r.link? k = (c.link? k).map (·.cycle (c.holds k)) := by
    intro k
    cases hl : c.link? k with
    | none =>
      have hn : t.node? k = none := m.node?_eq_none (by rw [links, hl]; rfl)
      rw [link?, nodes, hn]
      rfl
    | some l =>
      have ht : t.link? k = some (l.turn (c.holds k)).1 := by rw [links, hl]; rfl
      obtain ⟨hn, hd⟩ := link?_eq_some_iff.1 ht
      have answer : c.answersIn none c.nodes.ids k = (l.turn (c.holds k)).2 := by
        rw [answersIn, hl]
        rfl
      refine link?_eq_some_iff.2 ⟨?_, ?_⟩
      · rw [nodes, hn, hd, answer]
        rfl
      · rw [devices, hd]
        rfl
  have paired : ∀ k, (r.node? k).isSome = (r.network.device? k).isSome := by
    intro k
    rw [nodes, devices, Option.isSome_map, Option.isSome_map]
    exact m.paired k
  have proper : ∀ k l, r.link? k = some l → l.Proper k := by
    intro k l hl
    rw [last] at hl
    obtain ⟨l', hl', rfl⟩ := Option.map_eq_some_iff.1 hl
    exact (h.matched.proper k l' hl').cycle _
  have matched : r.Matched := ⟨paired, proper⟩
  refine ⟨⟨matched, fun k => ?_, by rw [network]; rfl, by rw [nodes, zero]; rfl⟩, last⟩
  rw [awaits]
  cases hn : r.node? k with
  | none => rfl
  | some n =>
    obtain ⟨d, -, hl⟩ := matched.exists_link hn
    rw [last] at hl
    obtain ⟨l, hl', he⟩ := Option.map_eq_some_iff.1 hl
    have idle := h.idle k
    rw [awaits, (link?_eq_some_iff.1 hl').1] at idle
    have after := Link.awaitsNodeInfo_cycle idle (c.holds k)
    rw [he] at after
    exact after

/-- **A cycle is a cycle of every link.** What becomes of a node and its device in a cycle depends
on the two alone, and on whether the node has to pass its turn. -/
theorem Linked.cycle (h : c.Linked) :
    c.cycle.value.Linked ∧ ∀ k, c.cycle.value.link? k = (c.link? k).map (·.cycle (c.holds k)) := by
  have counted : Linked { c with cycles := c.cycles + 1 } :=
    ⟨⟨h.matched.paired, h.matched.proper⟩, h.idle, h.quiet, h.zero⟩
  exact counted.turnsDelivered

end Controller

end ZWave
