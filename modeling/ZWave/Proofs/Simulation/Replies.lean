import ZWave.Proofs.Controller.Trace
import ZWave.Proofs.Node.Metrics
import ZWave.Proofs.Simulation.Start

/-!
# Replies reach the transactions they answer

A simulated device answers a frame in the turn of the node that sends it, and all answers of a cycle
are delivered after the turns, from one list. Each is given to the node whose frame it answers while
that frame is still pending (`ModelRun.replies_delivered`): an answer that names a node is the only
one to name it, the failure of a request is for the one node that waits, and what is given to other
nodes before leaves both as they are.
-/

namespace ZWave

/-! ## Runs of a model -/

/-- The call can be made on node `id` without disturbing the others. -/
def Node.Call.Fits (id : NodeId) : Node.Call → Prop
  | .queue frame _ => frame.nodeId? = some id
  | .flush | .setListening _ => True
  | .register _ | .receive _ => False

/-- The controllers that runs of a model lead to, with what happened on the way. -/
inductive ModelRun (m : NetworkModel) :
    Controller SimulatedNetwork → List ControllerEvent → Prop where
  | build {c : Controller SimulatedNetwork} : Controller.ofModel m = .ok c → ModelRun m c []
  | cycle {c : Controller SimulatedNetwork} {h : List ControllerEvent} :
      ModelRun m c h → ModelRun m c.cycle.value (h ++ c.cycle.events)
  | call {c : Controller SimulatedNetwork} {h : List ControllerEvent} (id : NodeId)
      {call : Node.Call} {r : Traced ControllerEvent (Controller SimulatedNetwork)} :
      ModelRun m c h → call.Fits id → c.onNode? id (·.call call) = some r →
      ModelRun m r.value (h ++ r.events)

theorem Node.Addressed.call {n : Node} (h : n.Addressed) {call : Node.Call}
    (fits : call.Fits n.id) : (n.call call).value.Addressed := by
  have flushed : n.flush.Addressed := by
    intro f hf
    refine h f ?_
    simp only [Node.flush, Queues.flush, List.append_nil, List.mem_append] at hf ⊢
    exact hf.symm
  cases call with
  | queue frame defer =>
    have own : ∀ f ∈ [frame], f.nodeId? = some n.id := by
      intro f hf
      cases List.mem_singleton.1 hf
      exact fits
    exact h.pushAll own defer
  | flush => exact flushed
  | setListening listening =>
    cases listening with
    | true => exact flushed
    | false => exact h
  | register | receive => exact fits.elim

namespace Controller

theorem Linked.call {c : Controller SimulatedNetwork} (h : c.Linked) {id : NodeId}
    {call : Node.Call} (fits : call.Fits id)
    {r : Traced ControllerEvent (Controller SimulatedNetwork)}
    (hr : c.onNode? id (·.call call) = some r) : r.value.Linked := by
  obtain ⟨n, hn, rfl⟩ := onNode?_some hr
  obtain ⟨d, hd, hl⟩ := h.matched.exists_link hn
  have proper := h.matched.proper id _ hl
  have hid : (n.call call).value.id = id := (id_call n call).trans proper.node
  have nodes : ∀ k, (c.withNode (n.call call).value).node? k =
      if k = id then some (n.call call).value else c.node? k := by
    intro k
    rw [node?_withNode, hid]
  refine ⟨⟨fun k => ?_, fun k l hl => ?_⟩, fun k => ?_, h.quiet, ?_⟩
  · rw [nodes]
    split
    · next e =>
      subst e
      exact (congrArg Option.isSome hd).symm
    · exact h.matched.paired k
  · obtain ⟨n', d'⟩ := l
    obtain ⟨node, device⟩ := link?_eq_some_iff.1 hl
    rw [nodes] at node
    split at node
    · next e =>
      subst e
      obtain rfl : (n.call call).value = n' := Option.some.inj node
      obtain rfl : d = d' := Option.some.inj (hd.symm.trans device)
      have own : call.Fits n.id := by
        rw [proper.node]
        exact fits
      exact ⟨hid, proper.device, proper.addressed.call own⟩
    · exact h.matched.proper k _ (link?_eq_some_iff.2 ⟨node, device⟩)
  · rw [awaits, nodes]
    split
    · refine Bool.eq_false_iff.2 fun hw => ?_
      have before := h.idle id
      rw [awaits, hn, Option.any_some, awaitsNodeInfo_call hw] at before
      cases before
    · exact h.idle k
  · rw [nodes, if_neg, h.zero]
    rintro rfl
    rw [h.zero] at hn
    cases hn

end Controller

theorem ModelRun.linked {m : NetworkModel} (valid : m.validate = .ok ())
    {c : Controller SimulatedNetwork} {h : List ControllerEvent} (run : ModelRun m c h) :
    c.Linked := by
  induction run with
  | build hc =>
    obtain ⟨c', hc', linked, -⟩ := Controller.ofModel_ok valid
    rw [hc] at hc'
    cases hc'
    exact linked
  | cycle _ ih => exact ih.cycle.1
  | call id _ fits hr ih => exact ih.call fits hr

/-! ## Replies -/

structure Reply where
  device : NodeId
  request : Frame
  frame : Frame

namespace Reply

def inbound (r : Reply) : Inbound := { frame := r.frame }

def delivery (r : Reply) : NodeId × Inbound := (r.device, r.inbound)

/-- The answer names the device, or it fails a request for its information. -/
def Ascribed (r : Reply) : Prop :=
  r.frame.nodeId? = some r.device ∨
    r.frame = .applicationUpdate .requestFailed ∧ r.request.isNodeInfoRequest = true

theorem map_fst_delivery (replies : List Reply) :
    (replies.map delivery).map (·.1) = replies.map (·.device) := by
  rw [List.map_map]
  rfl

theorem map_snd_delivery (replies : List Reply) :
    (replies.map delivery).map (·.2) = replies.map inbound := by
  rw [List.map_map]
  rfl

end Reply

namespace SimulatedNetwork

/-- The answer to a frame that is handed to the network, if a device gives one. -/
def reply? (net : SimulatedNetwork) (f : Frame) : Option Reply :=
  (f.nodeId?.bind net.device?).bind fun d => (d.handle f).2.map fun r => ⟨d.id, f, r⟩

/-- The answers to frames that are handed to the network one after the other. -/
def replies (net : SimulatedNetwork) : List Frame → List Reply
  | [] => []
  | f :: fs => (net.reply? f).toList ++ (net.send f).replies fs

theorem replies_append (net : SimulatedNetwork) (fs gs : List Frame) :
    net.replies (fs ++ gs) = net.replies fs ++ (fs.foldl (fun net f => net.send f) net).replies gs
    := by
  induction fs generalizing net with
  | nil => rfl
  | cons f fs ih => rw [List.cons_append, replies, replies, ih, List.append_assoc]; rfl

theorem inbound_send (net : SimulatedNetwork) (f : Frame) :
    (net.send f).inbound = net.inbound ++ (net.reply? f).toList.map Reply.inbound := by
  unfold send reply? device?
  dsimp only
  split
  · next d hd =>
    rw [hd, Option.bind_some]
    cases (d.handle f).2 <;> rfl
  · next hd =>
    rw [hd]
    exact (List.append_nil _).symm

theorem inbound_sendAll (net : SimulatedNetwork) (fs : List Frame) :
    (fs.foldl (fun net f => net.send f) net).inbound =
      net.inbound ++ (net.replies fs).map Reply.inbound := by
  induction fs generalizing net with
  | nil => exact (List.append_nil _).symm
  | cons f fs ih =>
    rw [List.foldl_cons, ih, inbound_send, replies, List.map_append, List.append_assoc]

end SimulatedNetwork

namespace Controller

variable {c : Controller SimulatedNetwork} {r : Reply}

/-- The answers of the devices to the frames that are sent in a cycle. -/
def replies (c : Controller SimulatedNetwork) : List Reply :=
  c.network.replies (handed c.cycle.events)

structure Due (c : Controller SimulatedNetwork) (r : Reply) : Prop where
  pending : ∃ n, c.node? r.device = some n ∧ n.pending = some r.request
  ascribed : r.Ascribed

theorem Due.meantFor (h : c.Due r) (zero : c.node? 0 = none) (only : c.WaitsOnly c.awaiting?) :
    c.MeantFor r.device r.frame := by
  obtain ⟨n, hn, pending⟩ := h.pending
  rcases h.ascribed with named | ⟨failed, asked⟩
  · refine .inl ⟨fun h0 => ?_, named⟩
    rw [h0, zero] at hn
    cases hn
  · refine .inr ⟨failed, (awaiting?_eq_some_iff only).2 ⟨n, hn, ?_⟩⟩
    rw [Node.awaitsNodeInfo, pending]
    exact asked

theorem meantFor_delivery (zero : c.node? 0 = none) (only : c.WaitsOnly c.awaiting?)
    {replies : List Reply} (due : ∀ r ∈ replies, c.Due r) :
    ∀ e ∈ replies.map Reply.delivery, c.MeantFor e.1 e.2.frame := by
  intro e he
  obtain ⟨r, hr, rfl⟩ := List.mem_map.1 he
  exact (due r hr).meantFor zero only

/-! ## Turns -/

/-- In its turn a node is answered once at most, and then it waits with the frame. -/
theorem Matched.replies_turn (m : c.Matched) (busy : Option NodeId) (id : NodeId) :
    (c.turn busy id).value.network =
        (handed (c.turn busy id).events).foldl (fun net f => net.send f) c.network ∧
      ((c.network.replies (handed (c.turn busy id).events)).map (·.device)).Sublist [id] ∧
      ∀ r ∈ c.network.replies (handed (c.turn busy id).events), (c.turn busy id).value.Due r := by
  rcases turn_cases m.keyed busy id with ⟨-, ht⟩ | ⟨n, hn, -, nodes, network, events⟩
  · rw [ht]
    exact ⟨rfl, List.nil_sublist _, fun r hr => (nomatch hr)⟩
  · rw [events, handed_ofNode, Node.sent_tick, network]
    cases hs : n.sends? with
    | none => exact ⟨rfl, List.nil_sublist _, fun r hr => (nomatch hr)⟩
    | some f =>
      obtain ⟨d, hd, hl⟩ := m.exists_link hn
      have proper := m.proper id _ hl
      have named : f.nodeId? = some id := by
        rw [proper.addressed.nodeId?_of_sends? hs]
        exact congrArg some proper.node
      have answer : c.network.reply? f = (d.handle f).2.map fun r => ⟨d.id, f, r⟩ := by
        rw [SimulatedNetwork.reply?, named, Option.bind_some, hd, Option.bind_some]
      have replies : c.network.replies [f] =
          ((d.handle f).2.map fun r => (⟨d.id, f, r⟩ : Reply)).toList := by
        rw [SimulatedNetwork.replies, answer]
        exact List.append_nil _
      refine ⟨rfl, ?_, fun r hr => ?_⟩
      · change ((c.network.replies [f]).map (·.device)).Sublist [id]
        rw [replies]
        cases (d.handle f).2 with
        | none => exact List.nil_sublist _
        | some r =>
          change [d.id].Sublist [id]
          rw [show d.id = id from proper.device]
      · change r ∈ c.network.replies [f] at hr
        rw [replies, Option.mem_toList] at hr
        obtain ⟨frame, hf, rfl⟩ := Option.map_eq_some_iff.1 hr
        have sent : n.tick.value.pending = some f := by
          have idle : n.pending = none := by
            refine Option.not_isSome_iff_eq_none.1 fun hp => ?_
            rw [Node.sends?_of_pending hp] at hs
            cases hs
          rw [n.pending_tick, idle, hs]
          rfl
        refine ⟨⟨n.tick.value, ?_, sent⟩, ?_⟩
        · rw [nodes]
          exact if_pos proper.device
        · exact (SimulatedDevice.handle_reply hf).2

theorem Matched.replies_turnsOf (m : c.Matched) {ids : List NodeId} (distinct : ids.Nodup)
    (busy : Option NodeId) :
    (c.turnsOf busy ids).value.network =
        (handed (c.turnsOf busy ids).events).foldl (fun net f => net.send f) c.network ∧
      ((c.network.replies (handed (c.turnsOf busy ids).events)).map (·.device)).Sublist ids ∧
      ∀ r ∈ c.network.replies (handed (c.turnsOf busy ids).events),
        (c.turnsOf busy ids).value.Due r := by
  induction ids generalizing c busy with
  | nil => exact ⟨rfl, List.nil_sublist _, fun r hr => (nomatch hr)⟩
  | cons id ids ih =>
    obtain ⟨fresh, distinct⟩ := List.nodup_cons.1 distinct
    have m' := (m.turn busy id).1
    obtain ⟨network, first, due⟩ := m.replies_turn busy id
    obtain ⟨network', rest, due'⟩ := ih m' distinct ((c.turn busy id).value.busyAfter busy id)
    rw [Controller.turnsOf, Traced.value_bind, Traced.events_bind, handed_append,
      SimulatedNetwork.replies_append, ← network, List.foldl_append, ← network]
    refine ⟨network', ?_, fun r hr => ?_⟩
    · rw [List.map_append]
      exact first.append rest
    · rcases List.mem_append.1 hr with hr | hr
      · -- the node has had its turn, and none of those to come is its own
        obtain ⟨n, hn, pending⟩ := (due r hr).pending
        have hid : r.device = id :=
          List.mem_singleton.1 (first.subset (List.mem_map_of_mem hr))
        refine ⟨⟨n, ?_, pending⟩, (due r hr).ascribed⟩
        rw [node?_turnsOf_of_notMem m'.keyed (by rw [hid]; exact fresh)]
        exact hn
      · exact due' r hr

/-- What a cycle has made of the nodes and of the network when it comes to the deliveries. -/
theorem Linked.replies_begun (h : c.Linked) :
    c.begun.value.Matched ∧ c.begun.value.WaitsOnly c.begun.value.awaiting? ∧
      c.begun.value.node? 0 = none ∧
      c.begun.value.network.inbound = c.replies.map Reply.inbound ∧
      (c.replies.map (·.device)).Nodup ∧ ∀ r ∈ c.replies, c.begun.value.Due r := by
  have counted : Linked { c with cycles := c.cycles + 1 } :=
    ⟨⟨h.matched.paired, h.matched.proper⟩, h.idle, h.quiet, h.zero⟩
  have sent : handed c.cycle.events =
      handed (Controller.turns { c with cycles := c.cycles + 1 }).events := by
    have delivered : handed (c.begun.value.poll.2.routeAll c.begun.value.poll.1).events = [] :=
      handed_routeAll ..
    rw [c.cycle_eq, Traced.events_bind, handed_append, delivered, List.append_nil]
    rfl
  obtain ⟨matched, only, links, -⟩ := counted.turns
  have none : c.begun.value.node? 0 = none := by
    refine matched.node?_eq_none ?_
    rw [links, link?, counted.zero]
    rfl
  obtain ⟨network, devices, due⟩ :=
    counted.matched.replies_turnsOf c.nodes.nodup_ids c.awaiting?
  unfold replies
  rw [sent]
  refine ⟨matched, only, none, ?_, devices.nodup c.nodes.nodup_ids, due⟩
  have inbound := c.network.inbound_sendAll
    (handed (Controller.turns { c with cycles := c.cycles + 1 }).events)
  rw [h.quiet, List.nil_append] at inbound
  rw [← inbound]
  exact congrArg SimulatedNetwork.inbound network

/-! ## Deliveries -/

/-- Frames for different nodes that are there are given to them, in order. -/
theorem routed_routeAll (hk : c.Keyed) (only : c.WaitsOnly c.awaiting?)
    {l : List (NodeId × Inbound)} (distinct : (l.map (·.1)).Nodup)
    (meant : ∀ e ∈ l, c.MeantFor e.1 e.2.frame) (there : ∀ e ∈ l, (c.node? e.1).isSome) :
    routed (c.routeAll (l.map (·.2))).events = l ∧
      ∀ i, .unrouted i ∉ (c.routeAll (l.map (·.2))).events := by
  induction l generalizing c with
  | nil => exact ⟨rfl, fun i hi => (nomatch hi)⟩
  | cons e l ih =>
    obtain ⟨fresh, distinct⟩ := List.nodup_cons.1 distinct
    have other : ∀ x ∈ l, e.1 ≠ x.1 := by
      intro x hx h
      exact fresh (List.mem_map.2 ⟨x, hx, h.symm⟩)
    have target := (meant e (List.mem_cons_self ..)).target?_eq
    have meant' : ∀ x ∈ l, (c.route e.2).value.MeantFor x.1 x.2.frame :=
      fun x hx => (meant x (List.mem_cons_of_mem _ hx)).route hk only target (other x hx)
    have there' : ∀ x ∈ l, ((c.route e.2).value.node? x.1).isSome := by
      intro x hx
      rw [node?_route hk, target, if_neg fun h => other x hx (Option.some.inj h)]
      exact there x (List.mem_cons_of_mem _ hx)
    obtain ⟨routed_eq, unrouted⟩ :=
      ih (hk.route e.2) (only.route hk e.2).awaiting? distinct meant' there'
    have first : routed (c.route e.2).events = [e] ∧ ∀ i, .unrouted i ∉ (c.route e.2).events := by
      rcases route_cases hk e.2 with ⟨lost, -⟩ | ⟨id, n, ht, hn, hr⟩
      · have found := there e (List.mem_cons_self ..)
        rw [target, Option.bind_some] at lost
        rw [lost] at found
        cases found
      · obtain rfl : e.1 = id := Option.some.inj (target.symm.trans ht)
        have quiet : ∀ x ∈ ofNode n (n.receive e.2.frame).events, x.isDelivery = false :=
          fun x => isDelivery_of_mem_ofNode
        rw [hr]
        refine ⟨congrArg (e :: ·) (routed_eq_nil quiet), fun i hi => ?_⟩
        rcases List.mem_cons.1 hi with hi | hi
        · cases hi
        · exact unrouted_notMem quiet i hi
    rw [List.map_cons, routeAll, List.foldlM_cons, Traced.events_bind, routed_append, first.1]
    refine ⟨congrArg (e :: ·) routed_eq, fun i hi => ?_⟩
    rcases List.mem_append.1 hi with hi | hi
    · exact first.2 i hi
    · exact unrouted i hi

/-- While the answers before it are delivered, an answer stays due. -/
theorem Due.routeAll (hk : c.Keyed) (only : c.WaitsOnly c.awaiting?) (zero : c.node? 0 = none)
    {before : List Reply} (distinct : (before.map (·.device)).Nodup)
    (due : ∀ r ∈ before, c.Due r) (h : c.Due r) (apart : r.device ∉ before.map (·.device)) :
    (c.routeAll (before.map Reply.inbound)).value.Due r ∧
      (c.routeAll (before.map Reply.inbound)).value.target? r.frame = some r.device := by
  rw [← Reply.map_fst_delivery] at distinct
  obtain ⟨-, nodes⟩ := routeAll_tagged hk only distinct (meantFor_delivery zero only due)
  rw [Reply.map_snd_delivery] at nodes
  obtain ⟨-, only'⟩ := WaitsOnly.routeAll hk only (before.map Reply.inbound)
  have none : (before.map Reply.delivery).lookup r.device = none := by
    refine List.lookup_eq_none_iff.2 fun e he => ?_
    obtain ⟨x, hx, rfl⟩ := List.mem_map.1 he
    rw [bne_iff_ne]
    intro same
    exact apart (List.mem_map.2 ⟨x, hx, same.symm⟩)
  obtain ⟨n, hn, pending⟩ := h.pending
  have later : (c.routeAll (before.map Reply.inbound)).value.Due r := by
    refine ⟨⟨n, ?_, pending⟩, h.ascribed⟩
    rw [nodes, none, hn]
    rfl
  refine ⟨later, (later.meantFor ?_ only'.awaiting?).target?_eq⟩
  rw [nodes, zero]
  rfl

/-- In a cycle the answers are given to their nodes first, and then the announcements. -/
theorem Linked.routed_cycle (h : c.Linked) :
    c.begun.value.poll.1 =
        c.replies.map Reply.inbound ++ c.begun.value.announcements.map (·.2) ∧
      routed c.cycle.events = c.replies.map Reply.delivery ++ c.begun.value.announcements ∧
      ∀ i, .unrouted i ∉ c.cycle.events := by
  obtain ⟨matched, only, zero, inbound, distinct, due⟩ := h.replies_begun
  have polled : c.begun.value.poll.1 =
      (c.replies.map Reply.delivery).map (·.2) ++ c.begun.value.announcements.map (·.2) := by
    rw [poll_eq, inbound, Reply.map_snd_delivery]
  have quiet := isDelivery_begun h.matched.keyed
  have keyed : c.begun.value.poll.2.Keyed := matched.keyed
  have only : c.begun.value.poll.2.WaitsOnly c.begun.value.poll.2.awaiting? := only
  rw [← Reply.map_fst_delivery] at distinct
  have meant : ∀ e ∈ c.replies.map Reply.delivery,
      c.begun.value.poll.2.MeantFor e.1 e.2.frame := meantFor_delivery zero only due
  have there : ∀ e ∈ c.replies.map Reply.delivery,
      (c.begun.value.poll.2.node? e.1).isSome := by
    intro e he
    obtain ⟨r, hr, rfl⟩ := List.mem_map.1 he
    obtain ⟨n, hn, -⟩ := (due r hr).pending
    exact Option.isSome_iff_exists.2 ⟨n, hn⟩
  obtain ⟨first, unrouted⟩ := routed_routeAll keyed only distinct meant there
  obtain ⟨-, nodes⟩ := routeAll_tagged keyed only distinct meant
  obtain ⟨keyed', only'⟩ :=
    WaitsOnly.routeAll keyed only ((c.replies.map Reply.delivery).map (·.2))
  have announced : ∀ e ∈ c.begun.value.announcements, _ :=
    fun e he => matched.of_mem_announcements zero he
  -- what the answers have changed does not matter: the announcements only need their nodes there
  obtain ⟨second, unrouted'⟩ := routed_routeAll keyed' only'.awaiting?
    (distinct_tagged _ c.begun.value.network.devices.nodup_ids)
    (fun e he => (announced e he).2.2 _)
    (fun e he => by
      refine (congrArg Option.isSome (nodes e.1)).trans ?_
      rw [Option.isSome_map]
      exact (announced e he).1)
  refine ⟨by rw [polled, Reply.map_snd_delivery], ?_⟩
  rw [c.cycle_eq, Traced.events_bind, routed_append, routed_eq_nil quiet, List.nil_append, polled,
    routeAll, List.foldlM_append, Traced.events_bind, routed_append]
  refine ⟨congrArg₂ (· ++ ·) first second, fun i hi => ?_⟩
  rcases List.mem_append.1 hi with hi | hi
  · exact unrouted_notMem quiet i hi
  · rcases List.mem_append.1 hi with hi | hi
    · exact unrouted i hi
    · exact unrouted' i hi

end Controller

/-! ## Frames that are not delivered -/

theorem ControllerEvent.series_ne_unrouted {e : ControllerEvent} (h : ∀ i, e ≠ .unrouted i) :
    ∀ s ∈ e.samples, s.series ≠ ⟨.driverUnrouted, []⟩ := by
  intro s hs
  cases e with
  | cycle =>
    cases List.mem_singleton.1 hs
    decide
  | routed => cases hs
  | unrouted i => exact absurd rfl (h i)
  | node id profile event =>
    obtain ⟨metric, extra, series, -, -⟩ := NodeEvent.labels_samples hs
    have labelled : s.series.labels ≠ [] := by
      rw [series]
      exact List.cons_ne_nil _ _
    exact fun same => labelled (congrArg Series.labels same)

namespace ModelRun

open Controller

variable {m : NetworkModel} {c : Controller SimulatedNetwork} {h : List ControllerEvent}

theorem unrouted_notMem (valid : m.validate = .ok ()) (run : ModelRun m c h) :
    ∀ i, .unrouted i ∉ h := by
  induction run with
  | build => exact fun i hi => (nomatch hi)
  | @cycle c h before ih =>
    intro i hi
    rcases List.mem_append.1 hi with hi | hi
    · exact ih i hi
    · exact (before.linked valid).routed_cycle.2.2 i hi
  | call id _ _ hr ih =>
    intro i hi
    obtain ⟨n, -, rfl⟩ := onNode?_some hr
    rcases List.mem_append.1 hi with hi | hi
    · exact ih i hi
    · cases isDelivery_of_mem_ofNode hi

/-- **Every reply reaches the transaction it answers.** The next cycle delivers the answers of the
devices first, one at most of each, to its own node, which has the frame that is answered pending;
no frame of the run has missed its node. -/
theorem replies_delivered (valid : m.validate = .ok ()) (run : ModelRun m c h) :
    (∃ announced : List (NodeId × Inbound), (∀ e ∈ announced, e.2.unsolicited = true) ∧
      c.begun.value.poll.1 = c.replies.map Reply.inbound ++ announced.map (·.2) ∧
      routed c.cycle.events = c.replies.map (fun r => (r.device, r.inbound)) ++ announced) ∧
    (c.replies.map (·.device)).Nodup ∧
    (∀ before r after, c.replies = before ++ r :: after →
      ∃ c', c' = (c.begun.value.poll.2.routeAll (before.map Reply.inbound)).value ∧
        c'.target? r.frame = some r.device ∧
        ∃ n, c'.node? r.device = some n ∧ n.pending = some r.request ∧
          (c'.route r.inbound).value.node? r.device = some (n.receive r.frame).value) ∧
    (∀ i, .unrouted i ∉ h) ∧
    ((({} : Tally).recordAll (h.flatMap ControllerEvent.samples)).value
      ⟨.driverUnrouted, []⟩ = 0) := by
  have linked := run.linked valid
  obtain ⟨matched, only, zero, -, distinct, due⟩ := linked.replies_begun
  obtain ⟨polled, delivered, -⟩ := linked.routed_cycle
  have unrouted := run.unrouted_notMem valid
  refine ⟨⟨c.begun.value.announcements, fun e he => ?_, polled, delivered⟩, distinct,
    fun before r after split => ?_, unrouted, ?_⟩
  · exact (matched.of_mem_announcements zero he).2.1
  · rw [split] at distinct due
    rw [List.map_append, List.nodup_append] at distinct
    obtain ⟨first, -, apart⟩ := distinct
    have polledDue : ∀ x ∈ before ++ r :: after, c.begun.value.poll.2.Due x :=
      fun x hx => ⟨(due x hx).pending, (due x hx).ascribed⟩
    obtain ⟨later, target⟩ := (polledDue r (by simp)).routeAll (c := c.begun.value.poll.2)
      matched.keyed only zero first (fun x hx => polledDue x (List.mem_append_left _ hx))
      fun hm => apart _ hm _ (List.mem_cons_self ..) rfl
    obtain ⟨n, hn, pending⟩ := later.pending
    obtain ⟨keyed, -⟩ := WaitsOnly.routeAll (c := c.begun.value.poll.2) matched.keyed only
      (before.map Reply.inbound)
    have received := node?_route_of_target keyed r.inbound target hn
    exact ⟨_, rfl, target, n, hn, pending, received⟩
  · refine Tally.value_recordAll (fun s hs => ?_) {}
    obtain ⟨e, he, hs⟩ := List.mem_flatMap.1 hs
    refine ControllerEvent.series_ne_unrouted (fun i hi => ?_) s hs
    exact unrouted i (hi ▸ he)

/-- A switch fails a request in the cycle in which a sensor answers another: both answers arrive. -/
theorem replies_delivered_failing :
    ∃ (m : NetworkModel) (c : Controller SimulatedNetwork) (h : List ControllerEvent),
      m.validate = .ok () ∧ ModelRun m c h ∧
        c.replies.map (fun r => (r.device, r.frame.nodeId?)) = [(2, some 0), (9, some 9)] ∧
        (routed c.cycle.events).map (·.1) = [2, 9] ∧ ∀ i, .unrouted i ∉ h := by
  have run := ModelRun.call (m := ⟨[
    { id := 2, kind := .binarySwitch, failNodeInfo := 2 },
    { id := 9, kind := .binarySensor, listening := false, classes := [.basic],
      wakeInterval := some 1 }]⟩) 9 (ModelRun.cycle (ModelRun.build rfl))
    (show (Node.Call.queue (Request.basicGet 9) false).Fits 9 from rfl) rfl
  obtain ⟨-, -, -, unrouted, -⟩ := run.replies_delivered rfl
  exact ⟨_, _, _, rfl, run, by decide +kernel, by decide +kernel, unrouted⟩

end ModelRun

end ZWave
