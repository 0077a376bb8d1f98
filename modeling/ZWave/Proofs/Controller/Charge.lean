import ZWave.Proofs.Controller.OneRequest

/-!
# Whom a failed request is charged to

The update that reports a failed request for node information names no node, so the driver charges
it to the node that waits. That is the node whose request failed as long as nothing else is
delivered to it between its request and the answer. A command or an announcement that comes first
ends the transaction: the node is then passed over, and the failure goes to the next one that asks,
or to none.

`Served` runs a controller on a network that answers every request once at most, `air` being the
requests it has still to answer; `Unheard a` reads from what happened whether anything was delivered
to `a` since it asked. A failure is charged to the node that asked in exactly that case, and always
if the network leaves the nodes that it has to answer alone (`Courteous`).
-/

namespace ZWave

def ControllerEvent.requested? : ControllerEvent → Option NodeId
  | .node _ _ (.sent (.requestNodeInfo id) _) => some id
  | _ => none

/-- A frame that is delivered, with the node whose request for information it answers, if any. -/
structure Delivery where
  inbound : Inbound
  answers : Option NodeId := none

namespace Controller

variable {σ : Type}

/-! ## Histories -/

def requests (h : List ControllerEvent) : List NodeId := h.filterMap ControllerEvent.requested?

/-- Node `a` has asked for its information, and nothing was delivered to it since. -/
def Unheard (a : NodeId) (h : List ControllerEvent) : Prop :=
  ∃ before after profile backlog,
    h = before ++ .node a profile (.sent (.requestNodeInfo a) backlog) :: after ∧
      ∀ inbound, .routed a inbound ∉ after

theorem unheard_append {a : NodeId} {h e : List ControllerEvent} :
    Unheard a (h ++ e) ↔ Unheard a e ∨ Unheard a h ∧ ∀ inbound, .routed a inbound ∉ e := by
  constructor
  · rintro ⟨before, after, profile, backlog, heq, quiet⟩
    rcases List.append_eq_append_iff.1 heq with ⟨l, -, rfl⟩ | ⟨l, hl, he⟩
    · exact .inl ⟨l, after, profile, backlog, rfl, quiet⟩
    · cases l with
      | nil => exact .inl ⟨[], after, profile, backlog, he.symm, quiet⟩
      | cons x l =>
        rw [List.cons_append, List.cons_eq_cons] at he
        obtain ⟨rfl, rfl⟩ := he
        refine .inr ⟨⟨before, l, profile, backlog, hl, fun i hi => ?_⟩, fun i hi => ?_⟩
        · exact quiet i (List.mem_append_left _ hi)
        · exact quiet i (List.mem_append_right _ hi)
  · rintro (⟨before, after, profile, backlog, rfl, quiet⟩ |
      ⟨⟨before, after, profile, backlog, rfl, quiet⟩, hq⟩)
    · exact ⟨h ++ before, after, profile, backlog, by simp, quiet⟩
    · refine ⟨before, after ++ e, profile, backlog, by simp, fun i hi => ?_⟩
      exact (List.mem_append.1 hi).elim (quiet i) (hq i)

theorem Unheard.mem {a : NodeId} {h : List ControllerEvent} (hu : Unheard a h) :
    ∃ profile backlog, .node a profile (.sent (.requestNodeInfo a) backlog) ∈ h := by
  obtain ⟨before, after, profile, backlog, rfl, -⟩ := hu
  exact ⟨profile, backlog, List.mem_append_right _ (List.mem_cons_self ..)⟩

theorem sent_of_mem_ofNode {n : Node} {events : List NodeEvent} {a : NodeId} {profile : Profile}
    {frame : Frame} {backlog : Nat} (h : .node a profile (.sent frame backlog) ∈ ofNode n events) :
    n.id = a ∧ frame ∈ Node.sent events := by
  obtain ⟨e, he, hx⟩ := List.mem_map.1 h
  cases hx
  exact ⟨rfl, List.mem_filterMap.2 ⟨_, he, rfl⟩⟩

theorem routed_notMem_ofNode (n : Node) (events : List NodeEvent) (a : NodeId) (i : Inbound) :
    .routed a i ∉ ofNode n events := by
  intro h
  obtain ⟨e, -, he⟩ := List.mem_map.1 h
  cases he

theorem unheard_ofNode_iff {n : Node} {events : List NodeEvent} {a : NodeId} :
    Unheard a (ofNode n events) ↔ n.id = a ∧ Frame.requestNodeInfo a ∈ Node.sent events := by
  constructor
  · intro h
    obtain ⟨profile, backlog, hm⟩ := h.mem
    exact sent_of_mem_ofNode hm
  · rintro ⟨rfl, h⟩
    obtain ⟨e, he, hx⟩ := List.mem_filterMap.1 h
    cases e with
    | sent frame backlog =>
      cases hx
      obtain ⟨l₁, l₂, rfl⟩ := List.append_of_mem he
      refine ⟨ofNode n l₁, ofNode n l₂, n.profile, backlog, by simp [ofNode], fun i => ?_⟩
      exact routed_notMem_ofNode n l₂ n.id i
    | _ => cases hx

theorem requests_append (h e : List ControllerEvent) :
    requests (h ++ e) = requests h ++ requests e := List.filterMap_append

theorem requests_ofNode (n : Node) (events : List NodeEvent) :
    requests (ofNode n events) = (Node.sent events).flatMap fun
      | .requestNodeInfo id => [id]
      | _ => [] := by
  induction events with
  | nil => rfl
  | cons e events ih =>
    have cons : requests (ofNode n (e :: events)) =
        requests [.node n.id n.profile e] ++ requests (ofNode n events) := requests_append [_] _
    rw [cons, ih]
    cases e with
    | sent frame backlog => cases frame <;> rfl
    | _ => rfl

/-! ## What a run keeps -/

/-- At most one node waits for its information, and nothing was delivered to it since it asked. -/
structure Accounted (c : Controller σ) (h : List ControllerEvent) : Prop where
  keyed : c.Keyed
  addressed : ∀ id n, c.node? id = some n → n.Addressed
  only : c.WaitsOnly c.awaiting?
  asked : ∀ a, Unheard a h ↔ c.awaits a = true

theorem Accounted.new (network : σ) (factory : Factory) :
    Accounted { network, factory } [] where
  keyed _ _ hn := nomatch hn
  addressed _ _ hn := nomatch hn
  only _ _ hn := nomatch hn
  asked _ := by
    refine ⟨fun hu => ?_, fun hw => nomatch hw⟩
    obtain ⟨_, _, hm⟩ := hu.mem
    cases hm

theorem Accounted.same {c c' : Controller σ} {h e : List ControllerEvent} (acc : Accounted c h)
    (keyed : c'.Keyed) (addressed : ∀ id n, c'.node? id = some n → n.Addressed)
    (same : ∀ id, c'.awaits id = c.awaits id) (unasked : ∀ a, ¬ Unheard a e)
    (quiet : ∀ a, c.awaits a = true → ∀ inbound, .routed a inbound ∉ e) :
    Accounted c' (h ++ e) where
  keyed := keyed
  addressed := addressed
  only := (awaiting?_congr acc.only same).1
  asked a := by
    rw [unheard_append, same, acc.asked]
    exact ⟨fun hu => hu.elim (fun hu => absurd hu (unasked a)) (·.1),
      fun hw => .inr ⟨hw, quiet a hw⟩⟩

theorem unasked_ofNode {n : Node} {events : List NodeEvent} (h : Node.sent events = [])
    (a : NodeId) : ¬ Unheard a (ofNode n events) := by
  intro hu
  have hm := (unheard_ofNode_iff.1 hu).2
  rw [h] at hm
  cases hm

theorem Accounted.add {c : Controller σ} {h : List ControllerEvent} (acc : Accounted c h)
    {id : NodeId} {info : ProtocolInfo} {r : Traced ControllerEvent (Controller σ)}
    (hr : c.add id info = .ok r) :
    Accounted r.value (h ++ r.events) ∧ r.value.awaiting? = c.awaiting? := by
  obtain ⟨free, hv, he⟩ := add_ok hr
  have same : ∀ k, r.value.awaits k = c.awaits k := by
    intro k
    rw [awaits, awaits, hv, node?_withNode]
    split
    · next hk =>
      have hk : k = id := hk.trans (id_join id info c.factory)
      rw [hk, free, Option.any_some, awaitsNodeInfo_join]
      rfl
    · rfl
  have addressed : ∀ k n, r.value.node? k = some n → n.Addressed := by
    intro k n hn
    rw [hv, node?_withNode] at hn
    split at hn
    · cases hn
      exact Node.addressed_join id info c.factory
    · exact acc.addressed k n hn
  have keyed : r.value.Keyed := by
    rw [hv]
    exact acc.keyed.withNode _
  refine ⟨acc.same keyed addressed same ?_ ?_, (awaiting?_congr acc.only same).2⟩
  · rw [he]
    exact unasked_ofNode (Node.sent_eq_nil (Node.emits_join id info c.factory))
  · rw [he]
    exact fun a _ inbound => routed_notMem_ofNode _ _ a inbound

section Turns

variable [Network σ]

/-- A node asks only when nobody waits, and then it waits. -/
theorem Accounted.turn {c : Controller σ} {h : List ControllerEvent} (acc : Accounted c h)
    (id : NodeId) :
    Accounted (c.turn c.awaiting? id).value (h ++ (c.turn c.awaiting? id).events) ∧
      (c.turn c.awaiting? id).value.awaiting?.toList =
        c.awaiting?.toList ++ requests (c.turn c.awaiting? id).events := by
  have only := (acc.only.turn acc.keyed id).awaiting?
  have keyed := acc.keyed.turn c.awaiting? id
  rcases turn_cases acc.keyed c.awaiting? id with ⟨-, ht⟩ | ⟨n, hn, free, hv, -, he⟩
  · rw [ht]
    simpa [requests] using acc
  have hid : n.id = id := acc.keyed id n hn
  have addressed : ∀ k m, (c.turn c.awaiting? id).value.node? k = some m → m.Addressed := by
    intro k m hm
    rw [hv] at hm
    split at hm
    · cases hm
      exact (acc.addressed id n hn).tick
    · exact acc.addressed k m hm
  have waits : ∀ k, (c.turn c.awaiting? id).value.awaits k =
      if k = id then n.tick.value.awaitsNodeInfo else c.awaits k := by
    intro k
    rw [awaits, hv]
    split <;> rfl
  have unrouted : ∀ k inbound, .routed k inbound ∉ (c.turn c.awaiting? id).events := by
    rw [he]
    exact fun k inbound => routed_notMem_ofNode n _ k inbound
  have trace : ∀ f, n.sends? = f → requests (c.turn c.awaiting? id).events =
      f.toList.flatMap fun
        | .requestNodeInfo id => [id]
        | _ => [] := by
    rintro f rfl
    rw [he, requests_ofNode, Node.sent_tick]
  -- a frame of the node names it, so the only request it can send is its own
  by_cases asks : n.sends? = some (.requestNodeInfo id)
  · have nobody : c.awaiting? = none := awaiting?_eq_none_of_sends hn free asks rfl
    have asked : (c.turn c.awaiting? id).value.awaits id = true := by
      rw [waits, if_pos rfl, n.awaitsNodeInfo_tick_eq, asks]
      rfl
    refine ⟨⟨keyed, addressed, only, fun a => ?_⟩, ?_⟩
    · rw [unheard_append, he, unheard_ofNode_iff, Node.sent_tick, asks, hid, acc.asked]
      by_cases ha : a = id
      · subst ha
        simp [asked]
      · rw [waits, if_neg ha, ← he]
        simp [ha, Ne.symm ha, unrouted]
    · rw [(awaiting?_eq_some_iff only).2 (awaits_iff.1 asked), trace _ asks, nobody]
      rfl
  · have quiet : ∀ f, n.sends? = some f → f.isNodeInfoRequest = false := by
      intro f hf
      have named := (acc.addressed id n hn).nodeId?_of_sends? hf
      cases f with
      | requestNodeInfo j => cases named; exact absurd (hid ▸ hf) asks
      | sendData | applicationCommand | applicationUpdate | other => rfl
    have same : ∀ k, (c.turn c.awaiting? id).value.awaits k = c.awaits k := by
      intro k
      rw [waits]
      split
      · next hk => rw [hk, awaits, hn, Node.awaitsNodeInfo_tick_of_quiet quiet]; rfl
      · rfl
    have unasked : ∀ a, ¬ Unheard a (c.turn c.awaiting? id).events := by
      intro a hu
      rw [he, unheard_ofNode_iff, Node.sent_tick, Option.mem_toList] at hu
      exact absurd (quiet _ hu.2) (by simp [Frame.isNodeInfoRequest])
    refine ⟨acc.same keyed addressed same unasked fun a _ => unrouted a, ?_⟩
    rw [(awaiting?_congr acc.only same).2, trace _ rfl]
    cases hs : n.sends? with
    | none => simp
    | some f =>
      have hf := quiet f hs
      cases f with
      | requestNodeInfo j => cases hf
      | sendData | applicationCommand | applicationUpdate | other => simp

theorem Accounted.turnsOf {c : Controller σ} {h : List ControllerEvent} (acc : Accounted c h)
    (ids : List NodeId) :
    Accounted (c.turnsOf c.awaiting? ids).value (h ++ (c.turnsOf c.awaiting? ids).events) ∧
      (c.turnsOf c.awaiting? ids).value.awaiting?.toList =
        c.awaiting?.toList ++ requests (c.turnsOf c.awaiting? ids).events := by
  induction ids generalizing c h with
  | nil => simpa [Controller.turnsOf, requests] using acc
  | cons id ids ih =>
    obtain ⟨acc', air⟩ := acc.turn id
    obtain ⟨last, air'⟩ := ih acc'
    rw [Controller.turnsOf, Traced.value_bind, Traced.events_bind,
      busyAfter_turn acc.keyed acc.only, ← List.append_assoc, requests_append, ← List.append_assoc,
      ← air]
    exact ⟨last, air'⟩

end Turns

/-- The node that is given a command or an update does not wait any more. -/
theorem awaits_route {c : Controller σ} (hk : c.Keyed) {inbound : Inbound}
    (ending : Node.Ending inbound.frame) (k : NodeId) :
    (c.route inbound).value.awaits k = (c.awaits k && c.target? inbound.frame != some k) := by
  rw [awaits, awaits, node?_route hk]
  split
  · next ht =>
    rw [ht, bne_self_eq_false, Bool.and_false]
    cases c.node? k with
    | none => rfl
    | some n => rw [Option.map_some, Option.any_some, Node.awaitsNodeInfo, ending n]; rfl
  · next ht => rw [bne_iff_ne.2 ht, Bool.and_true]

theorem Accounted.route {c : Controller σ} {h : List ControllerEvent} (acc : Accounted c h)
    {inbound : Inbound} (ending : Node.Ending inbound.frame) :
    Accounted (c.route inbound).value (h ++ (c.route inbound).events) := by
  have addressed : ∀ k m, (c.route inbound).value.node? k = some m → m.Addressed := by
    intro k m hm
    rw [node?_route acc.keyed] at hm
    split at hm
    · obtain ⟨n, hn, rfl⟩ := Option.map_eq_some_iff.1 hm
      exact (acc.addressed k n hn).receive inbound.frame
    · exact acc.addressed k m hm
  have only := (acc.only.route acc.keyed inbound).awaiting?
  refine ⟨acc.keyed.route inbound, addressed, only, fun a => ?_⟩
  rw [unheard_append, acc.asked, awaits_route acc.keyed ending, Bool.and_eq_true, bne_iff_ne]
  rcases route_cases acc.keyed inbound with ⟨lost, hr⟩ | ⟨id, n, ht, hn, hr⟩
  · have unasked : ¬ Unheard a [.unrouted inbound] := by
      intro hu
      obtain ⟨profile, backlog, hm⟩ := hu.mem
      cases List.mem_singleton.1 hm
    have elsewhere : c.awaits a = true → c.target? inbound.frame ≠ some a := by
      intro hw ht
      rw [ht, Option.bind_some] at lost
      rw [awaits, lost] at hw
      cases hw
    rw [hr]
    simpa [unasked] using elsewhere
  · have unasked :
        ¬ Unheard a (.routed id inbound :: ofNode n (n.receive inbound.frame).events) := by
      intro hu
      obtain ⟨profile, backlog, hm⟩ := hu.mem
      rcases List.mem_cons.1 hm with hm | hm
      · cases hm
      · have sent := (sent_of_mem_ofNode hm).2
        rw [Node.sent_eq_nil (n.emits_receive _)] at sent
        cases sent
    have delivered : (∀ i, .routed a i ∉
        .routed id inbound :: ofNode n (n.receive inbound.frame).events) ↔ id ≠ a := by
      refine ⟨fun h => ?_, fun ha i hi => ?_⟩
      · rintro rfl
        exact h inbound (List.mem_cons_self ..)
      · rcases List.mem_cons.1 hi with hi | hi
        · cases hi
          exact ha rfl
        · exact routed_notMem_ofNode _ _ a i hi
    rw [hr, ht, delivered]
    simp [unasked]

/-! ## Networks that answer once -/

/-- What a network may deliver that has still to answer the requests `air`. -/
inductive Allowed (c : Controller σ) (air : List NodeId) : Delivery → Prop where
  | failed {a : NodeId} (flag : Bool) :
      a ∈ air → Allowed c air ⟨⟨.applicationUpdate .requestFailed, flag⟩, some a⟩
  | told {a : NodeId} (u : ApplicationUpdate) (flag : Bool) :
      a ∈ air → u.isFailure = false → u.nodeId = a →
      Allowed c air ⟨⟨.applicationUpdate u, flag⟩, some a⟩
  | command (command : ApplicationCommand) (flag : Bool) :
      (c.node? command.nodeId).isSome → Allowed c air ⟨⟨.applicationCommand command, flag⟩, none⟩
  | announced (u : ApplicationUpdate) (flag : Bool) :
      (c.node? u.nodeId).isSome → u.isFailure = false →
      Allowed c air ⟨⟨.applicationUpdate u, flag⟩, none⟩

theorem Allowed.ending {c : Controller σ} {air : List NodeId} {d : Delivery}
    (h : Allowed c air d) : Node.Ending d.inbound.frame := by
  cases h with
  | failed | told | announced => exact Node.ending_update _
  | command => exact Node.ending_command _

theorem Allowed.mem_air {c : Controller σ} {air : List NodeId} {d : Delivery}
    (h : Allowed c air d) {a : NodeId} (answers : d.answers = some a) : a ∈ air := by
  cases h with
  | failed | told => cases answers; assumption
  | command | announced => cases answers

/-- An answer is for the node that waits, if that is the one it answers. -/
theorem Allowed.target?_eq {c : Controller σ} {air : List NodeId} {d : Delivery}
    (allowed : Allowed c air d) {a : NodeId} (answers : d.answers = some a)
    (waits : c.awaiting? = some a) : c.target? d.inbound.frame = some a := by
  cases allowed with
  | failed => cases answers; exact waits
  | told u flag _ _ named =>
    cases answers
    simp [target?, Frame.nodeId?, named, waits]
  | command | announced => cases answers

theorem Allowed.names {c : Controller σ} {air : List NodeId} {d : Delivery}
    (h : Allowed c air d) (answers : d.answers = none) :
    ∃ id, d.inbound.frame.nodeId? = some id := by
  cases h with
  | failed | told => cases answers
  | command | announced => exact ⟨_, rfl⟩

/-- What a network may deliver that leaves the nodes alone whose requests it has still to answer. -/
def Courteous (c : Controller σ) (air : List NodeId) (d : Delivery) : Prop :=
  Allowed c air d ∧
    (d.answers = none → ∀ id, d.inbound.frame.nodeId? = some id → id ≠ 0 ∧ id ∉ air)

/-! ## Whom a failure is charged to -/

/-- The frame is given to node `a`, and all other nodes stay as they are. -/
def ChargedTo (c : Controller σ) (inbound : Inbound) (a : NodeId) : Prop :=
  .routed a inbound ∈ (c.route inbound).events ∧
    ∀ k, k ≠ a → (c.route inbound).value.node? k = c.node? k

theorem chargedTo_iff_awaits {c : Controller σ} (keyed : c.Keyed)
    (only : c.WaitsOnly c.awaiting?) {inbound : Inbound}
    (failed : inbound.frame = .applicationUpdate .requestFailed) {a : NodeId} :
    ChargedTo c inbound a ↔ c.awaits a = true := by
  have target : c.target? inbound.frame = c.awaiting? := by rw [failed]; rfl
  rw [awaits_iff, ← awaiting?_eq_some_iff only, ← target]
  rcases route_cases keyed inbound with ⟨lost, hr⟩ | ⟨id, n, ht, hn, hr⟩
  · constructor
    · intro charged
      rw [ChargedTo, hr] at charged
      cases List.mem_singleton.1 charged.1
    · intro ht
      rw [ht, Option.bind_some] at lost
      obtain ⟨n, hn, -⟩ := node?_of_awaiting? (target ▸ ht)
      rw [lost] at hn
      cases hn
  · constructor
    · intro charged
      have hm := charged.1
      rw [hr] at hm
      rcases List.mem_cons.1 hm with hm | hm
      · cases hm
        exact ht
      · exact absurd hm (routed_notMem_ofNode _ _ a inbound)
    · intro ha
      refine ⟨?_, fun k hk => ?_⟩
      · rw [hr]
        rw [ha] at ht
        cases ht
        exact List.mem_cons_self ..
      · rw [node?_route keyed, ha, if_neg fun e => hk (Option.some.inj e).symm]

/-! ## Runs -/

variable [Network σ]

/-- The first part of a cycle: the turns of the nodes. -/
def begun (c : Controller σ) : Traced ControllerEvent (Controller σ) := do
  Traced.emit .cycle
  { c with cycles := c.cycles + 1 }.turns

theorem cycle_eq (c : Controller σ) :
    c.cycle = c.begun >>= fun c => c.poll.2.routeAll c.poll.1 := by
  simp [Controller.cycle, begun]

/-- The controllers on networks that deliver only what is `allowed`, with what happened, the
unanswered requests and what the cycle has still to deliver. -/
inductive Served (allowed : Controller σ → List NodeId → Delivery → Prop) :
    Controller σ → List ControllerEvent → List NodeId → List Delivery → Prop where
  | new (network : σ) (factory : Factory) : Served allowed { network, factory } [] [] []
  | add {c : Controller σ} {h : List ControllerEvent} {air : List NodeId} (id : NodeId)
      (info : ProtocolInfo) {r : Traced ControllerEvent (Controller σ)} :
      Served allowed c h air [] → c.add id info = .ok r →
      Served allowed r.value (h ++ r.events) air []
  | poll {c : Controller σ} {h : List ControllerEvent} {air : List NodeId} (ds : List Delivery) :
      Served allowed c h air [] → c.begun.value.poll.1 = ds.map (·.inbound) →
      Served allowed c.begun.value.poll.2 (h ++ c.begun.events) (air ++ requests c.begun.events) ds
  | deliver {c : Controller σ} {h : List ControllerEvent} {air : List NodeId} {d : Delivery}
      {ds : List Delivery} :
      Served allowed c h air (d :: ds) → allowed c air d →
      Served allowed (c.route d.inbound).value (h ++ (c.route d.inbound).events)
        (d.answers.elim air air.erase) ds

theorem Served.run {allowed : Controller σ → List NodeId → Delivery → Prop} {c : Controller σ}
    {h : List ControllerEvent} {air : List NodeId} {ds : List Delivery}
    (served : Served allowed c h air ds) :
    Run (c.routeAll (ds.map (·.inbound))).value
      (h ++ (c.routeAll (ds.map (·.inbound))).events) := by
  induction served with
  | new network factory => exact Run.new network factory
  | @add c h air id info r _ hr ih =>
    have run : Run c h := by simpa [routeAll] using ih
    simpa [routeAll] using Run.add id info run hr
  | @poll c h air ds _ hd ih =>
    have run : Run c h := by simpa [routeAll] using ih
    have next := run.cycle
    rw [c.cycle_eq, Traced.value_bind, Traced.events_bind, hd, ← List.append_assoc] at next
    exact next
  | @deliver c h air d ds _ _ ih =>
    rw [List.map_cons, routeAll, List.foldlM_cons, Traced.value_bind, Traced.events_bind,
      ← List.append_assoc] at ih
    exact ih

theorem Accounted.begun {c : Controller σ} {h : List ControllerEvent} (acc : Accounted c h) :
    Accounted c.begun.value (h ++ c.begun.events) ∧
      c.begun.value.awaiting?.toList = c.awaiting?.toList ++ requests c.begun.events := by
  have told : Accounted { c with cycles := c.cycles + 1 } (h ++ [.cycle]) := by
    refine acc.same acc.keyed acc.addressed (fun _ => rfl) (fun a hu => ?_) fun a _ i hi => ?_
    · obtain ⟨profile, backlog, hm⟩ := hu.mem
      cases List.mem_singleton.1 hm
    · cases List.mem_singleton.1 hi
  obtain ⟨last, air⟩ := told.turnsOf c.nodes.ids
  rw [List.append_assoc] at last
  exact ⟨last, air⟩

section Charge

variable {c : Controller σ} {h : List ControllerEvent} {air : List NodeId} {d : Delivery}
  {ds : List Delivery}

theorem Served.accounted (served : Served Allowed c h air ds) : Accounted c h := by
  induction served with
  | new network factory => exact Accounted.new network factory
  | add id info _ hr ih => exact (ih.add hr).1
  | poll ds _ _ ih =>
    have acc := ih.begun.1
    exact ⟨acc.keyed, acc.addressed, acc.only, acc.asked⟩
  | deliver _ allowed ih => exact ih.route allowed.ending

theorem Served.allowed (served : Served Courteous c h air ds) : Served Allowed c h air ds := by
  induction served with
  | new network factory => exact .new network factory
  | add id info _ hr ih => exact .add id info ih hr
  | poll ds _ hd ih => exact .poll ds ih hd
  | deliver _ courteous ih => exact .deliver ih courteous.1

/-- On a courteous network the request that is unanswered is the one of the node that waits. -/
theorem Served.air_eq (served : Served Courteous c h air ds) : air = c.awaiting?.toList := by
  induction served with
  | new => rfl
  | @add c h air id info r before hr ih => rw [(before.allowed.accounted.add hr).2]; exact ih
  | @poll c h air ds before _ ih =>
    rw [ih]
    exact before.allowed.accounted.begun.2.symm
  | @deliver c h air d ds before courteous ih =>
    have acc := before.allowed.accounted
    have after := awaits_route acc.keyed courteous.1.ending
    have only := (acc.route courteous.1.ending).only
    cases answers : d.answers with
    | some a =>
      have asked : a ∈ air := courteous.1.mem_air answers
      have waits : c.awaiting? = some a := by rwa [ih, Option.mem_toList] at asked
      have target := courteous.1.target?_eq answers waits
      have nobody : (c.route d.inbound).value.awaiting? = none := by
        refine Option.eq_none_iff_forall_ne_some.2 fun k hk => ?_
        have hw := awaits_iff.2 ((awaiting?_eq_some_iff only).1 hk)
        rw [after, target, Bool.and_eq_true, awaits_iff, ← awaiting?_eq_some_iff acc.only, waits,
          bne_iff_ne] at hw
        exact hw.2 hw.1
      rw [nobody, ih, waits]
      simp
    | none =>
      -- what answers nobody is given to a node that has no request in the air
      have same : ∀ k, (c.route d.inbound).value.awaits k = c.awaits k := by
        intro k
        rw [after]
        cases hw : c.awaits k with
        | false => rfl
        | true =>
          rw [awaits_iff, ← awaiting?_eq_some_iff acc.only] at hw
          rw [Bool.true_and, bne_iff_ne]
          intro ht
          obtain ⟨id, named⟩ := courteous.1.names answers
          obtain ⟨known, apart⟩ := courteous.2 answers id named
          simp only [target?, named, known, if_false, Option.some.injEq] at ht
          rw [ih, hw, ht] at apart
          simp at apart
      rw [(awaiting?_congr acc.only same).2]
      exact ih

/-- **Whom a failed request is charged to.** The node `a` that made it, and no other, exactly if
nothing was delivered to `a` since; on a courteous network that is always so. -/
theorem Served.chargedTo_iff {a : NodeId} (served : Served Allowed c h air (d :: ds))
    (allowed : Allowed c air d) (answers : d.answers = some a)
    (failed : d.inbound.frame = .applicationUpdate .requestFailed) :
    (ChargedTo c d.inbound a ↔ Unheard a h) ∧
      (Served Courteous c h air (d :: ds) → ChargedTo c d.inbound a) := by
  have acc := served.accounted
  have charged := chargedTo_iff_awaits acc.keyed acc.only failed (a := a)
  refine ⟨charged.trans (acc.asked a).symm, fun courteous => charged.2 ?_⟩
  have asked : a ∈ air := allowed.mem_air answers
  rw [courteous.air_eq, Option.mem_toList] at asked
  exact awaits_iff.2 ((awaiting?_eq_some_iff acc.only).1 asked)

end Charge

/-- A network that delivers the frames it was given, poll by poll. -/
structure Rounds where
  rounds : List (List Inbound)

instance : Network Rounds where
  send _ net := net
  poll net := (net.rounds.headD [], ⟨net.rounds.tail⟩)

/-- Node 2 sends a command before its request fails, and the failure is charged to node 3. -/
theorem chargedTo_iff_disturbed :
    ∃ failed : Inbound, failed.frame = .applicationUpdate .requestFailed ∧
      (∃ (c : Controller Rounds) (h : List ControllerEvent) (air : List NodeId),
        Served Allowed c h air [⟨failed, some 2⟩] ∧ 2 ∈ air ∧ ¬ Unheard 2 h ∧
          ¬ ChargedTo c failed 2 ∧ ChargedTo c failed 3) ∧
      ∃ (c : Controller Rounds) (h : List ControllerEvent) (air : List NodeId),
        Served Courteous c h air [⟨failed, some 2⟩] ∧ ChargedTo c failed 2 := by
  let failed : Inbound := ⟨.applicationUpdate .requestFailed, false⟩
  refine ⟨failed, rfl, ?_, ?_⟩
  · let command : Inbound :=
      ⟨.applicationCommand { nodeId := 2, payload := ⟨ClassId.basic, [3, 255]⟩ }, true⟩
    have new : Served Allowed _ [] [] [] :=
      .new (⟨[[], [command], [failed]]⟩ : Rounds) .standard
    have joined := (new.add 2 ⟨{}, true⟩ rfl).add 3 ⟨{}, true⟩ rfl
    have asked := joined.poll [] rfl
    have heard := (asked.poll [⟨command, none⟩] (by decide +kernel)).deliver
      (.command _ _ (by decide +kernel))
    have served := heard.poll [⟨failed, some 2⟩] (by decide +kernel)
    have iff := (served.chargedTo_iff (.failed false (by decide +kernel)) rfl rfl).1
    have acc := served.accounted
    refine ⟨_, _, _, served, by decide +kernel, fun unheard => ?_, fun charged => ?_, ?_⟩
    · exact absurd (iff.2 unheard).1 (by decide +kernel)
    · exact absurd charged.1 (by decide +kernel)
    · exact (chargedTo_iff_awaits acc.keyed acc.only rfl).2 (by decide +kernel)
  · have new : Served Courteous _ [] [] [] := .new (⟨[[failed]]⟩ : Rounds) .standard
    have joined := (new.add 2 ⟨{}, true⟩ rfl).add 3 ⟨{}, true⟩ rfl
    have served := joined.poll [⟨failed, some 2⟩] (by decide +kernel)
    exact ⟨_, _, _, served,
      (served.allowed.chargedTo_iff (.failed false (by decide +kernel)) rfl rfl).2 served⟩

end Controller

end ZWave
