import ZWave.Proofs.Controller.Polled
import ZWave.Proofs.Node.Metrics
import ZWave.Network.Scripted

/-!
# What a controller records

A series of the driver counts the events of the driver (`value_driver`), and a series of a node the
events of that node alone (`value_node`), since all that is recorded of a node is recorded under its
id and its profile (`Run.labelled`). So every series has the value that the histories of the nodes
give to it (`PolledRun.metered`).
-/

namespace ZWave

def ControllerEvent.counter? : ControllerEvent → Option Metric
  | .cycle => some .driverCycles
  | .unrouted _ => some .driverUnrouted
  | .node _ _ _ | .routed _ _ => none

namespace Controller

variable {σ : Type}

def tally (h : List ControllerEvent) : Tally :=
  ({} : Tally).recordAll (h.flatMap ControllerEvent.samples)

/-! ## The values of series -/

/-- Only write queues are measured. -/
theorem level?_samples {series : Series} (counter : series.metric ≠ .writeQueueDepth)
    (e : ControllerEvent) : ∀ s ∈ e.samples, s.level? series = none := by
  cases e with
  | cycle | unrouted =>
    intro s recorded
    cases List.mem_singleton.1 recorded
    rfl
  | routed => exact fun _ recorded => nomatch recorded
  | node id profile event =>
    have other : Metric.writeQueueDepth.series id profile [] ≠ series :=
      fun same => counter (congrArg Series.metric same).symm
    have none := event.level?_samples id profile series
    rw [if_neg other] at none
    exact List.filterMap_eq_nil_iff.1 none

theorem value_driver {metric : Metric} (counter : metric ≠ .writeQueueDepth)
    (h : List ControllerEvent) :
    (tally h).value ⟨metric, []⟩ = h.countP (·.counter? == some metric) := by
  refine Tally.value_events (fun e _ => level?_samples counter e) fun e _ => ?_
  cases e with
  | cycle | unrouted =>
    simp [ControllerEvent.samples, ControllerEvent.counter?, List.count_singleton]
  | routed => rfl
  | node id profile event =>
    change (event.samples id profile).count (.increment ⟨metric, []⟩) = 0
    rw [List.count_eq_zero]
    intro recorded
    obtain ⟨m, l, series, -, -⟩ := NodeEvent.labels_samples recorded
    cases congrArg Series.labels series

/-- What is told of a node is told under its profile, as far as it is recorded. -/
def Labelled (c : Controller σ) (h : List ControllerEvent) : Prop :=
  ∀ id, ∀ x ∈ toldOf id h, ∃ n, c.node? id = some n ∧ (x.1 = n.profile ∨ x.2.Unrecorded)

theorem Labelled.append {c c' : Controller σ} {h e : List ControllerEvent} (labelled : Labelled c h)
    (stay : ∀ k n, c.node? k = some n → ∃ n', c'.node? k = some n' ∧ n'.profile = n.profile)
    (new : ∀ k, ∀ x ∈ toldOf k e,
      ∃ n, c'.node? k = some n ∧ (x.1 = n.profile ∨ x.2.Unrecorded)) :
    Labelled c' (h ++ e) := by
  intro k x told
  rw [toldOf_append] at told
  rcases List.mem_append.1 told with before | now
  · obtain ⟨n, there, own⟩ := labelled k x before
    obtain ⟨n', still, same⟩ := stay k n there
    exact ⟨n', still, by rwa [same]⟩
  · exact new k x now

theorem labelled_kept : LocalKept (σ := σ) Labelled where
  new := fun _ _ _ _ told => nomatch told
  join := by
    intro c c' h e s free nodes told labelled
    refine labelled.append (fun k n there => ?_) fun k x now => ?_
    · have other : k ≠ s.id := by
        rintro rfl
        rw [free] at there
        cases there
      exact ⟨n, by rw [nodes, if_neg other, there], rfl⟩
    · rw [told] at now
      split at now
      · next own =>
        subst own
        refine ⟨_, by rw [nodes, if_pos rfl], .inr ?_⟩
        obtain ⟨event, joined, rfl⟩ := List.mem_map.1 now
        rw [Node.Setup.start_eq] at joined
        obtain ⟨_, -, rfl⟩ := List.mem_map.1 joined
        exact ⟨rfl, rfl⟩
      · cases now
  same := by
    intro c c' h e nodes quiet labelled
    refine labelled.append (fun k n there => ⟨n, by rw [nodes, there], rfl⟩) fun k x now => ?_
    rw [quiet] at now
    cases now
  operate := by
    intro c c' h e id n op _ there nodes told labelled
    refine labelled.append (fun k m still => ?_) fun k x now => ?_
    · by_cases own : k = id
      · subst own
        rw [there] at still
        cases still
        exact ⟨_, by rw [nodes, if_pos rfl], n.profile_operate op⟩
      · exact ⟨m, by rw [nodes, if_neg own, still], rfl⟩
    · rw [told] at now
      split at now
      · next own =>
        subst own
        obtain ⟨event, -, rfl⟩ := List.mem_map.1 now
        exact ⟨_, by rw [nodes, if_pos rfl], .inl (n.profile_operate op).symm⟩
      · cases now

theorem value_node {c : Controller σ} {h : List ControllerEvent} (labelled : Labelled c h)
    {id : NodeId} {n : Node} (there : c.node? id = some n) {metric : Metric}
    (counter : metric ≠ .writeQueueDepth) (extra : Labels) :
    (tally h).value (metric.series id n.profile extra) =
      (eventsOf id h).countP (·.counter? == some (metric, extra)) := by
  rw [eventsOf, List.countP_map, toldOf, List.countP_filterMap]
  refine Tally.value_events (fun e _ => level?_samples counter e) fun e he => ?_
  cases e with
  | cycle | unrouted =>
    simp [ControllerEvent.samples, ControllerEvent.on?, Metric.series, Labels.ofNode]
  | routed => rfl
  | node k profile event =>
    change (event.samples k profile).count _ = _
    by_cases own : k = id
    · subst own
      have told : (profile, event) ∈ toldOf k h :=
        List.mem_filterMap.2 ⟨_, he, if_pos rfl⟩
      obtain ⟨m, found, same⟩ := labelled k _ told
      rw [there] at found
      cases found
      rcases same with rfl | unrecorded
      · rw [NodeEvent.count_samples]
        simp [ControllerEvent.on?]
      · rw [unrecorded.samples]
        simp [ControllerEvent.on?, unrecorded.1]
    · rw [NodeEvent.count_samples_of_ne own]
      simp [ControllerEvent.on?, own]

variable [Network σ]

theorem Run.labelled {c : Controller σ} {h : List ControllerEvent} (run : Run c h) : Labelled c h :=
  run.kept labelled_kept.kept

/-! ## The driver -/

omit [Network σ] in
theorem countP_ofNode (n : Node) (events : List NodeEvent) (metric : Metric) :
    (ofNode n events).countP (·.counter? == some metric) = 0 := by
  rw [ofNode, List.countP_map, List.countP_eq_zero]
  intro e _ counted
  cases counted

theorem cycles_kept : Kept (σ := σ) (fun _ => True)
    (fun c h => h.countP (·.counter? == some .driverCycles) = c.cycles) where
  new := fun _ _ => rfl
  add := by
    intro c h id info r _ counted hr
    obtain ⟨-, value, events⟩ := add_ok hr
    rw [value, events, List.countP_append, countP_ofNode]
    exact counted
  call := by
    intro c h id call r _ counted _ hr
    obtain ⟨n, -, rfl⟩ := onNode?_some hr
    rw [List.countP_append, countP_ofNode]
    exact counted
  begin := by
    intro c h counted
    rw [List.countP_append, counted]
    rfl
  turn := by
    intro c h busy id hk counted
    rw [cycles_turn, List.countP_append, counted]
    rcases turn_cases hk busy id with ⟨-, ht⟩ | ⟨n, -, -, -, -, events⟩
    · rw [ht]
      rfl
    · rw [events, countP_ofNode, Nat.add_zero]
  poll := fun counted => counted
  route := by
    intro c h i hk counted
    rw [cycles_route, List.countP_append, counted]
    rcases route_cases hk i with ⟨-, hr⟩ | ⟨id, n, -, -, hr⟩
    · rw [hr]
      rfl
    · rw [hr]
      exact congrArg (c.cycles + ·) (countP_ofNode ..)

omit [Network σ] in
theorem countP_unrouted (h : List ControllerEvent) :
    h.countP (·.counter? == some .driverUnrouted) = (delivered h).countP (·.1.isNone) := by
  rw [delivered, List.countP_filterMap]
  refine List.countP_congr fun e _ => ?_
  cases e <;> simp [ControllerEvent.counter?, ControllerEvent.delivered?, Metric.driverCycles,
    Metric.driverUnrouted]

/-! ## What is recorded of a node -/

/-- What a tally holds of a node with a history, which was given some frames. -/
structure MeteredNode (t : Tally) (own : Node.History) (given : List Frame) : Prop where
  sent : t.value (Metric.framesSent.series own.setup.id own.node.profile []) = own.sent.length
  received : ∀ kind : InboundKind,
    t.value (Metric.framesReceived.series own.setup.id own.node.profile [("kind", kind.label)]) =
      given.countP (·.inboundKind? == some kind)
  dropped :
    t.value (Metric.framesDropped.series own.setup.id own.node.profile
        [("reason", DropReason.unknownClass.label)]) +
      t.value (Metric.framesDropped.series own.setup.id own.node.profile
        [("reason", DropReason.malformed.label)]) ≤
      t.value (Metric.framesReceived.series own.setup.id own.node.profile
        [("kind", InboundKind.command.label)])
  deferred : t.value (Metric.framesDeferred.series own.setup.id own.node.profile []) =
    own.parked.length
  transitions : ∀ state : NodeState,
    t.value (Metric.stateTransitions.series own.setup.id own.node.profile
        [("state", state.label)]) =
      if state ∈ ({} : Lifecycle).entered own.told then 1 else 0
  started : t.value (Metric.nodesStarted.series own.setup.id own.node.profile []) =
    if own.node.state = .started then 1 else 0
  retries : t.value (Metric.nodeInfoRetries.series own.setup.id own.node.profile []) ≤ 1

omit [Network σ] in
theorem value_bare {c : Controller σ} {h : List ControllerEvent} (labelled : Labelled c h)
    {id : NodeId} {n : Node} (there : c.node? id = some n) {metric : Metric} {extra : Labels}
    {e : NodeEvent} (bare : e.frame? = none) (counts : e.counter? = some (metric, extra)) :
    (tally h).value (metric.series id n.profile extra) = (eventsOf id h).count e := by
  have counter : metric ≠ .writeQueueDepth := by
    rintro rfl
    exact e.counter?_ne_writeQueueDepth extra counts
  rw [value_node labelled there counter, ← counts, Node.countP_bare bare]

theorem PolledRun.meteredNode {c : Controller σ} {h : List ControllerEvent} {polled : List Inbound}
    (polledRun : PolledRun c h polled) {own : Node.History}
    (there : c.node? own.setup.id = some own.node) (told : own.events = eventsOf own.setup.id h) :
    MeteredNode (tally h) own (givenTo own.setup.id h) := by
  have labelled := polledRun.run.labelled
  have received : ∀ kind : InboundKind,
      (tally h).value
          (Metric.framesReceived.series own.setup.id own.node.profile [("kind", kind.label)]) =
        (Node.receptions own.events).count kind := by
    intro kind
    rw [value_bare labelled there (e := .received kind) rfl rfl, Node.count_received, told]
  refine ⟨?_, fun kind => ?_, ?_, ?_, fun state => ?_, ?_, ?_⟩
  · rw [value_node labelled there (by decide), Node.countP_sent, ← told]
    rfl
  · rw [received, told, polledRun.heard.received, List.count_filterMap]
  · rw [received, value_bare labelled there (e := .dropped .unknownClass) rfl rfl,
      value_bare labelled there (e := .dropped .malformed) rfl rfl, Node.count_dropped, ← told]
    exact own.countP_isDropped_le
  · rw [value_node labelled there (by decide), Node.countP_deferred, ← told, own.deferredIn_events]
  · rw [value_bare labelled there (e := .entered state) rfl rfl, ← told, own.count_entered]
  · rw [value_bare labelled there (e := .started) rfl rfl, ← told, own.count_started]
  · rw [value_bare labelled there (e := .retried) rfl rfl, ← told]
    exact own.count_retried_le

/-! ## What is recorded in a run -/

/-- A cycle hands to the network what the nodes send in their turns, and nothing else. -/
theorem network_begun {c : Controller σ} (hk : c.Keyed) :
    c.begun.value.network =
      (handed c.cycle.events).foldl (fun net f => Network.send f net) c.network := by
  let counted : Controller σ := { c with cycles := c.cycles + 1 }
  have turned := network_turnsOf (c := counted) hk counted.awaiting? counted.nodes.ids
  have begun : handed c.begun.events = handed counted.turns.events := rfl
  have none : handed (c.begun.value.poll.2.routeAll c.begun.value.poll.1).events = [] :=
    handed_routeAll ..
  rw [cycle_eq, Traced.events_bind, handed_append, none, List.append_nil, begun]
  exact turned

/-- What the metrics say of a run in which `polled` was polled. -/
structure Metered (c : Controller σ) (h : List ControllerEvent) (polled : List Inbound) : Prop where
  cycles : (tally h).value ⟨.driverCycles, []⟩ = c.cycles
  /-- Each frame that was polled was delivered once, to a node or to none. -/
  delivered : (delivered h).map (·.2) = polled
  unrouted : (tally h).value ⟨.driverUnrouted, []⟩ = (Controller.delivered h).countP (·.1.isNone)
  addressed : ∀ d ∈ Controller.delivered h, ∀ id, d.1 = some id → ∃ n, c.node? id = some n
  /-- The frames that the nodes send in a cycle are handed to the network. -/
  network : c.begun.value.network =
    (handed c.cycle.events).foldl (fun net f => Network.send f net) c.network
  /-- Each node has a history of its own, and its series have the values that this gives to them. -/
  node : ∀ id n, c.node? id = some n → ∃ own : Node.History, own.node = n ∧ own.setup.id = id ∧
    own.events = eventsOf id h ∧ MeteredNode (tally h) own (givenTo id h)
  labels : ∀ id profile e, .node id profile e ∈ h → ∀ s ∈ e.samples id profile,
    ∃ (n : Node) (metric : Metric) (extra : Labels), c.node? id = some n ∧
      s.series = metric.series id n.profile extra ∧
      s.series.labels.map Prod.fst = Metric.nodeLabels ++ metric.extraLabels

/-- **Metrics account for every frame and transition.** Whatever nodes join, are given frames to
send and are cycled, every series has the value that the run gives to it. -/
theorem PolledRun.metered {c : Controller σ} {h : List ControllerEvent} {polled : List Inbound}
    (polledRun : PolledRun c h polled) : Metered c h polled where
  cycles := by
    rw [value_driver (by decide)]
    exact polledRun.run.kept cycles_kept
  delivered := polledRun.delivered_eq
  unrouted := by rw [value_driver (by decide), countP_unrouted]
  addressed := by
    rintro ⟨target, i⟩ hd id rfl
    refine Option.isSome_iff_exists.1 (Option.isSome_iff_ne_none.2 fun gone => ?_)
    have given : i.frame ∈ givenTo id h := List.mem_filterMap.2 ⟨_, hd, if_pos rfl⟩
    rw [polledRun.heard.absent id gone] at given
    cases given
  network := network_begun polledRun.run.keyed_waitsOnly.1
  node := by
    intro id n there
    obtain ⟨own, rfl, rfl, told⟩ := polledRun.run.tracks.present id n there
    exact ⟨own, rfl, rfl, told, polledRun.meteredNode there told⟩
  labels := by
    intro id profile e he s recorded
    have told : (profile, e) ∈ toldOf id h := List.mem_filterMap.2 ⟨_, he, if_pos rfl⟩
    obtain ⟨n, there, same⟩ := polledRun.run.labelled id _ told
    rcases same with rfl | unrecorded
    · obtain ⟨metric, extra, series, -, keys⟩ := NodeEvent.labels_samples recorded
      refine ⟨n, metric, extra, there, series, ?_⟩
      rw [series, ← keys]
      rfl
    · rw [unrecorded.samples] at recorded
      cases recorded

/-- Two nodes join; a payload without a handler and a frame for no node are counted. -/
theorem PolledRun.metered_unrouted :
    ∃ (c : Controller ScriptedNetwork) (h : List ControllerEvent) (polled : List Inbound),
      PolledRun c h polled ∧ Metered c h polled ∧ polled.length = 3 ∧
      (Controller.delivered h).map (·.1) = [some 2, none, some 2] ∧ c.cycles = 2 ∧
      (tally h).value ⟨.driverUnrouted, []⟩ = 1 ∧
      (tally h).value (Metric.framesSent.series 2 .generic []) = 2 ∧
      (tally h).value (Metric.framesDropped.series 2 .generic
        [("reason", "unknown_command_class")]) = 1 ∧
      (tally h).value (Metric.framesDeferred.series 3 .generic []) = 1 := by
  let reports (id : NodeId) (p : Payload) : Inbound := ⟨.applicationCommand ⟨id, p, 0⟩, true⟩
  let network : ScriptedNetwork :=
    { script :=
        [⟨.applicationUpdate (.infoReceived 2 ⟨{}, [ClassId.basic]⟩), false⟩,
          reports 9 ⟨ClassId.basic, [Command.report, 0]⟩, reports 2 ⟨0x99, [Command.report]⟩] }
  have joined := PolledRun.add 3 ⟨{}, false⟩
    (PolledRun.add 2 ⟨{}, true⟩ (PolledRun.new network .standard) rfl) rfl
  have run := (PolledRun.call 3 (.queue (Request.basicSet 3 255) true) joined nofun rfl).cycle.cycle
  exact ⟨_, _, _, run, run.metered, by decide +kernel, by decide +kernel, by decide +kernel,
    by decide +kernel, by decide +kernel, by decide +kernel, by decide +kernel⟩

end Controller

end ZWave
