import ZWave.Network.Scripted
import ZWave.Proofs.Controller.Run
import ZWave.Proofs.Node.Frames

/-!
# One request for node information at a time

A failed request does not say whose it was, so no two nodes may wait for their information at the
same time. The driver looks up who waits when a cycle begins and holds back the nodes whose next
frame is such a request. `WaitsOnly busy` says that nobody but `busy` waits; a turn keeps it with
the node it leaves busy (`WaitsOnly.turn`), since a tick sends a request only if the look at the
queue before it saw one, and what a node is given never makes it wait (`WaitsOnly.route`). So in
every run one node waits at most (`Run.keyed_waitsOnly`).
-/

namespace ZWave.Controller

variable {σ : Type} [Network σ]

/-! ## Who waits -/

section Awaiting

omit [Network σ]

/-- No node but `busy` waits for its information. -/
def WaitsOnly (c : Controller σ) (busy : Option NodeId) : Prop :=
  ∀ id n, c.node? id = some n → n.awaitsNodeInfo = true → busy = some id

/-- The node that is found to wait does wait. -/
theorem node?_of_awaiting? {c : Controller σ} {id : NodeId} (h : c.awaiting? = some id) :
    ∃ n, c.node? id = some n ∧ n.awaitsNodeInfo = true := by
  obtain ⟨⟨k, n⟩, hf, rfl⟩ := Option.map_eq_some_iff.1 h
  refine ⟨n, (IdMap.get?_eq_some_iff ..).2 (List.mem_of_find?_eq_some hf), ?_⟩
  exact List.find?_some (p := fun e : UInt8 × Node => e.2.awaitsNodeInfo) hf

theorem isSome_awaiting? {c : Controller σ} {id : NodeId} {n : Node} (h : c.node? id = some n)
    (hn : n.awaitsNodeInfo = true) : c.awaiting?.isSome := by
  rw [awaiting?, Option.isSome_map, List.find?_isSome]
  exact ⟨(id, n), (IdMap.get?_eq_some_iff ..).1 h, hn⟩

theorem WaitsOnly.awaiting? {c : Controller σ} {busy : Option NodeId} (h : c.WaitsOnly busy) :
    c.WaitsOnly c.awaiting? := by
  intro id n hn hw
  obtain ⟨j, hj⟩ := Option.isSome_iff_exists.1 (isSome_awaiting? hn hw)
  obtain ⟨m, hm, hmw⟩ := node?_of_awaiting? hj
  have e : some id = some j := (h id n hn hw).symm.trans (h j m hm hmw)
  rw [hj, e]

theorem awaiting?_eq_some_iff {c : Controller σ} (h : c.WaitsOnly c.awaiting?) {id : NodeId} :
    c.awaiting? = some id ↔ ∃ n, c.node? id = some n ∧ n.awaitsNodeInfo = true :=
  ⟨node?_of_awaiting?, fun ⟨n, hn, hw⟩ => h id n hn hw⟩

def awaits (c : Controller σ) (id : NodeId) : Bool := (c.node? id).any Node.awaitsNodeInfo

theorem awaits_iff {c : Controller σ} {id : NodeId} :
    c.awaits id = true ↔ ∃ n, c.node? id = some n ∧ n.awaitsNodeInfo = true := by
  rw [awaits, Option.any_eq_true]

/-- Where the same nodes wait, the same one is found to. -/
theorem awaiting?_congr {c c' : Controller σ} (h : c.WaitsOnly c.awaiting?)
    (same : ∀ id, c'.awaits id = c.awaits id) :
    c'.WaitsOnly c'.awaiting? ∧ c'.awaiting? = c.awaiting? := by
  have only : c'.WaitsOnly c.awaiting? := by
    intro id n hn hw
    obtain ⟨m, hm, hmw⟩ := awaits_iff.1 ((same id).symm.trans (awaits_iff.2 ⟨n, hn, hw⟩))
    exact h id m hm hmw
  refine ⟨only.awaiting?, Option.ext fun id => ?_⟩
  rw [awaiting?_eq_some_iff only.awaiting?, awaiting?_eq_some_iff h, ← awaits_iff, ← awaits_iff,
    same]

/-- Where no other node can wait, at most one does. -/
theorem WaitsOnly.countP_le {c : Controller σ} {busy : Option NodeId} (h : c.WaitsOnly busy) :
    c.nodes.values.countP (·.awaitsNodeInfo) ≤ 1 := by
  have sole : ∀ e ∈ c.nodes.entries, e.2.awaitsNodeInfo = true → busy = some e.1 :=
    fun e he => h e.1 e.2 ((IdMap.get?_eq_some_iff ..).2 he)
  have apart := c.nodes.ascending.filter fun e => e.2.awaitsNodeInfo
  rw [IdMap.values, List.countP_map, List.countP_eq_length_filter]
  change (c.nodes.entries.filter fun e => e.2.awaitsNodeInfo).length ≤ 1
  have waiting : ∀ e ∈ c.nodes.entries.filter fun e => e.2.awaitsNodeInfo, busy = some e.1 :=
    fun e he => sole e (List.mem_filter.1 he).1 (List.mem_filter.1 he).2
  revert apart waiting
  generalize c.nodes.entries.filter (fun e => e.2.awaitsNodeInfo) = l
  intro apart waiting
  match l with
  | [] => exact Nat.zero_le 1
  | [_] => exact Nat.le_refl 1
  | a :: b :: rest =>
    have hab : a.1 < b.1 := (List.pairwise_cons.1 apart).1 b (by simp)
    have e : a.1 = b.1 :=
      Option.some.inj ((waiting a (by simp)).symm.trans (waiting b (by simp)))
    exact absurd (e ▸ hab) (UInt8.lt_irrefl _)

theorem awaiting?_eq_none_of_sends {c : Controller σ} {id : NodeId} {n : Node} {f : Frame}
    (hn : c.node? id = some n) (free : holdsBack c.awaiting? id n = false)
    (hs : n.sends? = some f) (hf : f.isNodeInfoRequest = true) : c.awaiting? = none := by
  have idle : n.awaitsNodeInfo = false := by
    refine Bool.eq_false_iff.2 fun hw => ?_
    rw [Node.sends?_of_awaitsNodeInfo hw] at hs
    cases hs
  have next : n.nextIsNodeInfo = true := by
    refine (Node.awaitsNodeInfo_tick ?_).resolve_left (by simp [idle])
    rw [n.awaitsNodeInfo_tick_eq, hs]
    exact hf
  cases hb : c.awaiting? with
  | none => rfl
  | some j =>
    -- the one that waits is not this node, which would have been held back
    rw [hb, holdsBack, next, Option.any_some, Bool.and_true, bne_eq_false_iff_eq] at free
    obtain ⟨m, hm, hw⟩ := node?_of_awaiting? hb
    rw [free, hn] at hm
    cases hm
    rw [idle] at hw
    cases hw

end Awaiting

/-! ## Turns -/

/-- A node that waits after its turn waited before it, or nobody else did. -/
theorem WaitsOnly.turn {c : Controller σ} {busy : Option NodeId} (hk : c.Keyed)
    (h : c.WaitsOnly busy) (id : NodeId) :
    (c.turn busy id).value.WaitsOnly ((c.turn busy id).value.busyAfter busy id) := by
  intro k n hn hw
  unfold busyAfter
  by_cases hkid : k = id
  · subst hkid
    rw [if_pos (by rw [hn]; exact hw)]
  -- another node waits as it did before, so the node whose turn it is does not
  have hn' : c.node? k = some n := by rwa [node?_turn hk, if_neg hkid] at hn
  have hbusy : busy = some k := h k n hn' hw
  refine (if_neg ?_).trans hbusy
  rw [node?_turn hk, if_pos rfl]
  cases hm : c.node? id with
  | none => simp
  | some m =>
    have idle : m.awaitsNodeInfo = false := by
      refine Bool.eq_false_iff.2 fun hm' => hkid ?_
      exact Option.some.inj (hbusy.symm.trans (h id m hm hm'))
    have quiet : m.nextIsNodeInfo = true → holdsBack busy id m = true := fun hx => by
      simp [holdsBack, hbusy, hkid, hx]
    rw [Option.map_some, Option.any_some]
    split
    · simp [idle]
    · next hb =>
      intro hx
      rcases Node.awaitsNodeInfo_tick hx with h' | h'
      · rw [idle] at h'; cases h'
      · exact hb (quiet h')

theorem WaitsOnly.turnsOf {c : Controller σ} {busy : Option NodeId} (hk : c.Keyed)
    (h : c.WaitsOnly busy) (ids : List NodeId) :
    (c.turnsOf busy ids).value.Keyed ∧ ∃ busy', (c.turnsOf busy ids).value.WaitsOnly busy' := by
  induction ids generalizing c busy with
  | nil => exact ⟨hk, busy, h⟩
  | cons id ids ih => exact ih (hk.turn busy id) (h.turn hk id)

/-- A node that waits goes on waiting in its turn. -/
theorem awaits_turn {c : Controller σ} {busy : Option NodeId} (hk : c.Keyed) (id : NodeId)
    {j : NodeId} (h : c.awaits j = true) : (c.turn busy id).value.awaits j = true := by
  obtain ⟨m, hm, hw⟩ := awaits_iff.1 h
  rw [awaits, node?_turn hk]
  split
  · next e =>
    subst e
    rw [hm, Option.map_some, Option.any_some]
    split
    · exact hw
    · rw [Node.awaitsNodeInfo_tick_eq, Node.sends?_of_awaitsNodeInfo hw]
      exact hw
  · exact h

/-- What is kept from turn to turn is what a look-up would find. -/
theorem busyAfter_turn {c : Controller σ} (hk : c.Keyed) (h : c.WaitsOnly c.awaiting?)
    (id : NodeId) :
    (c.turn c.awaiting? id).value.busyAfter c.awaiting? id =
      (c.turn c.awaiting? id).value.awaiting? := by
  have only := h.turn hk id
  cases hb : (c.turn c.awaiting? id).value.busyAfter c.awaiting? id with
  | none =>
    rw [hb] at only
    cases hx : (c.turn c.awaiting? id).value.awaiting? with
    | none => rfl
    | some j =>
      obtain ⟨m, hm, hw⟩ := node?_of_awaiting? hx
      exact only j m hm hw
  | some j =>
    have waits : (c.turn c.awaiting? id).value.awaits j = true := by
      unfold busyAfter at hb
      split at hb
      · next hn =>
        cases hb
        exact hn
      · exact awaits_turn hk id (awaits_iff.2 (node?_of_awaiting? hb))
    exact ((awaiting?_eq_some_iff only.awaiting?).2 (awaits_iff.1 waits)).symm

/-! ## Deliveries -/

section Deliveries

omit [Network σ]

theorem WaitsOnly.route {c : Controller σ} {busy : Option NodeId} (hk : c.Keyed)
    (h : c.WaitsOnly busy) (inbound : Inbound) : (c.route inbound).value.WaitsOnly busy := by
  intro k n hn hw
  rw [node?_route hk] at hn
  split at hn
  · obtain ⟨m, hm, rfl⟩ := Option.map_eq_some_iff.1 hn
    exact h k m hm (Node.awaitsNodeInfo_receive hw)
  · exact h k n hn hw

theorem WaitsOnly.routeAll {c : Controller σ} {busy : Option NodeId} (hk : c.Keyed)
    (h : c.WaitsOnly busy) (inbound : List Inbound) :
    (inbound.foldlM Controller.route c).value.Keyed ∧
      (inbound.foldlM Controller.route c).value.WaitsOnly busy := by
  induction inbound generalizing c with
  | nil => exact ⟨hk, h⟩
  | cons x xs ih => exact ih (hk.route x) (h.route hk x)

end Deliveries

/-- Within a cycle too, nobody waits but the one that is found to. -/
theorem WaitsOnly.delivering {c : Controller σ} (h : c.WaitsOnly c.awaiting?) (hk : c.Keyed)
    (before : List Inbound) :
    ((turns { c with cycles := c.cycles + 1 }).value.poll.2.routeAll before).value.Keyed ∧
      ((turns { c with cycles := c.cycles + 1 }).value.poll.2.routeAll before).value.WaitsOnly
        ((turns { c with cycles := c.cycles + 1 }).value.poll.2.routeAll before).value.awaiting?
    := by
  have start : Keyed { c with cycles := c.cycles + 1 } := hk
  obtain ⟨hk, busy, hw⟩ := WaitsOnly.turnsOf start h c.nodes.ids
  have polled : Keyed (turns { c with cycles := c.cycles + 1 }).value.poll.2 := hk
  obtain ⟨hk, hw⟩ := WaitsOnly.routeAll polled hw before
  exact ⟨hk, hw.awaiting?⟩

/-! ## Runs -/

theorem awaitsNodeInfo_join (id : NodeId) (info : ProtocolInfo) (factory : Factory)
    (profile : Profile) :
    ((Node.join id info factory).value.withProfile profile).awaitsNodeInfo = false := by
  unfold Node.join
  split <;> rfl

theorem awaitsNodeInfo_call {n : Node} {call : Node.Call}
    (h : (n.call call).value.awaitsNodeInfo = true) : n.awaitsNodeInfo = true := by
  cases call with
  | receive f => exact Node.awaitsNodeInfo_receive h
  | queue | flush | setListening | register => exact h

theorem Run.keyed_waitsOnly {c : Controller σ} {h : List ControllerEvent} (run : Run c h) :
    c.Keyed ∧ c.WaitsOnly c.awaiting? := by
  induction run with
  | new network factory => exact ⟨fun _ _ hn => (nomatch hn), fun _ _ hn => (nomatch hn)⟩
  | @add c h id info r _ hr ih =>
    have hw : r.value.WaitsOnly c.awaiting? := by
      intro k n hn hw
      rw [(add_ok hr).2.1, node?_withNode] at hn
      split at hn
      · cases hn
        rw [awaitsNodeInfo_join] at hw
        cases hw
      · exact ih.2 k n hn hw
    refine ⟨?_, hw.awaiting?⟩
    rw [(add_ok hr).2.1]
    exact ih.1.withNode _
  | cycle _ ih => exact ih.2.delivering ih.1 _
  | @call c h id call r _ hr ih =>
    obtain ⟨n, hn, rfl⟩ := onNode?_some hr
    have hw : (c.withNode (n.call call).value).WaitsOnly c.awaiting? := by
      intro k m hm hw
      rw [node?_withNode] at hm
      split at hm
      · next e =>
        cases hm
        rw [id_call, ih.1 id n hn] at e
        subst e
        exact ih.2 k n hn (awaitsNodeInfo_call hw)
      · exact ih.2 k m hm hw
    exact ⟨ih.1.withNode _, hw.awaiting?⟩

/-- **One request at a time.** Whatever the network delivers and is done with the nodes between
cycles, at most one node waits for its information. -/
theorem Run.countP_awaitsNodeInfo {c : Controller σ} {h : List ControllerEvent} (run : Run c h) :
    c.nodes.values.countP (fun n => n.pending.any Frame.isNodeInfoRequest) ≤ 1 :=
  run.keyed_waitsOnly.2.countP_le

theorem countP_awaitsNodeInfo_joined :
    ∃ (c : Controller ScriptedNetwork) (h : List ControllerEvent), Run c h ∧
      c.nodes.values.map (·.awaitsNodeInfo) = [true, false] ∧
      c.nodes.values.countP (fun n => n.pending.any Frame.isNodeInfoRequest) ≤ 1 := by
  have run := Run.cycle <| Run.call 3 (.queue (.requestNodeInfo 3) false)
    (Run.add 3 ⟨{}, true⟩ (Run.add 2 ⟨{}, true⟩ (Run.new ({} : ScriptedNetwork) .standard) rfl) rfl)
    rfl
  exact ⟨_, _, run, by decide, run.countP_awaitsNodeInfo⟩

end ZWave.Controller
