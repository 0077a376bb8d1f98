import Mathlib.Order.Bounds.Basic
import ZWave.Proofs.Controller.Trace
import ZWave.Proofs.Simulation.Isolation

/-!
# Networks at rest

A node becomes ready in a tick that finds nothing to send and no transaction pending, so from then
on it is at rest (`Node.AtRest`): its ticks do nothing at all. What it may still be told comes from
its device, and one that listens says nothing unasked. So once every node of a network of such
devices is ready, a cycle does no more than count itself
(`Controller.Attentive.cycle_of_allStarted`), and to run on tells nothing new.
-/

namespace ZWave

/-! ## Nodes at rest -/

namespace Node

/-- The node is ready, has no transaction, and has nothing to send. -/
structure AtRest (n : Node) : Prop where
  ready : n.state = .started
  idle : n.pending = none
  empty : n.queues.write = []

def RestsWhenReady (n : Node) : Prop := n.state = .started → n.AtRest

theorem AtRest.tick {n : Node} (rest : n.AtRest) : n.tick = pure n := by
  obtain ⟨id, device, profile, factory, classes, ⟨listening, write, wakeup⟩, pending,
    ⟨state, retries⟩, versionStarted⟩ := n
  obtain ⟨⟨⟩, ⟨⟩, ⟨⟩⟩ := rest
  rfl

theorem started_of_hear {n : Node} {frame : Option Frame}
    (ready : (n.hear frame).state = .started) : n.state = .started := by
  cases frame with
  | none => exact ready
  | some f => exact started_of_receive ready

/-- A tick that makes a node ready has found no transaction and nothing to send. -/
theorem RestsWhenReady.tick {n : Node} (h : n.RestsWhenReady) : n.tick.value.RestsWhenReady := by
  intro ready
  by_cases started : n.state = .started
  · rw [(h started).tick]
    exact h started
  · have unready : n.prepared.state ≠ .started := by
      intro ready
      rcases started_of_handle ready with ready | ⟨-, ⟨⟩⟩
      exact started ready
    cases hp : n.pending with
    | some f =>
      rw [tick_of_pending (by rw [hp]; rfl)] at ready
      exact absurd ready unready
    | none =>
      cases hw : n.prepared.queues.write with
      | cons f write =>
        rw [(tick_of_write hp hw).2] at ready
        exact absurd ready unready
      | nil =>
        rw [(tick_of_drained hp hw).2] at ready ⊢
        refine ⟨ready, by rw [pending_handle, pending_prepared, hp], ?_⟩
        rw [value_handle_queueDrained]
        split <;> exact hw

end Node

/-- The node of a device that listens is at rest when it is ready. -/
theorem Link.restsWhenReady_cycle {l : Link} (listening : l.device.model.listening = true)
    (h : l.node.RestsWhenReady) (held : Bool) : (l.cycle held).node.RestsWhenReady := by
  cases held with
  | true => rwa [cycle_held listening]
  | false =>
    cases hs : l.node.sends? with
    | none =>
      change ((⟨l.node, l.device⟩ : Link).cycle false).node.RestsWhenReady
      rw [cycle_of_quiet hs, SimulatedDevice.advance_of_listening listening]
      exact h.tick
    | some f =>
      -- the node has a transaction after its turn, so it is not ready, and no answer makes it so
      intro ready
      have turned := Node.started_of_hear (Node.started_of_hear ready)
      rw [turn_of_sends hs] at turned
      have idle := (h.tick turned).idle
      rw [Node.pending_tick, hs] at idle
      exact absurd (Option.or_eq_none_iff.1 idle).2 nofun

/-! ## Networks at rest -/

theorem SimulatedNetwork.poll_of_listening {net : SimulatedNetwork}
    (listening : ∀ k d, net.device? k = some d → d.model.listening = true)
    (quiet : net.inbound = []) : net.poll = ([], net) := by
  have silent : (net.devices.values.filterMap fun d =>
      d.advance.2.map fun frame => ({ frame, unsolicited := true } : Inbound)) = [] := by
    refine List.filterMap_eq_nil_iff.2 fun d hd => ?_
    obtain ⟨⟨k, d⟩, he, rfl⟩ := List.mem_map.1 hd
    rw [SimulatedDevice.advance_of_listening
      (listening k d ((net.devices.get?_eq_some_iff ..).2 he))]
    rfl
  have same : (net.devices.map fun _ d => d.advance.1) = net.devices := by
    refine IdMap.ext_get? fun k => ?_
    rw [IdMap.get?_map]
    cases hd : net.devices.get? k with
    | none => rfl
    | some d => rw [Option.map_some, SimulatedDevice.advance_of_listening (listening k d hd)]
  unfold poll
  rw [silent, same, quiet]
  obtain ⟨devices, inbound, framesSent⟩ := net
  cases quiet
  rfl

namespace Controller

section Turns

variable {σ : Type} [Network σ] {c : Controller σ}

omit [Network σ] in
theorem withNode_self {n : Node} (hn : c.node? n.id = some n) : c.withNode n = c := by
  have same : c.nodes.insert n.id n = c.nodes := by
    refine IdMap.ext_get? fun k => ?_
    rw [IdMap.get?_insert]
    split
    · next e => rw [e]; exact hn.symm
    · rfl
  unfold withNode
  rw [same]

theorem turn_of_atRest (keyed : c.Keyed) (rest : ∀ k n, c.node? k = some n → n.AtRest)
    (busy : Option NodeId) (id : NodeId) : c.turn busy id = pure c := by
  unfold turn
  cases hn : c.node? id with
  | none => rfl
  | some n =>
    have hid : n.id = id := keyed id n hn
    dsimp only
    split
    · rfl
    · rw [(rest id n hn).tick, Traced.value_pure, withNode_self (by rw [hid, hn])]
      rfl

theorem turnsOf_of_atRest (keyed : c.Keyed) (rest : ∀ k n, c.node? k = some n → n.AtRest)
    (busy : Option NodeId) (ids : List NodeId) : c.turnsOf busy ids = pure c := by
  induction ids generalizing busy with
  | nil => rfl
  | cons id ids ih => rw [turnsOf, turn_of_atRest keyed rest, pure_bind, ih]

end Turns

/-- Between cycles of a network whose devices all listen: a node that is ready is at rest. -/
structure Attentive (c : Controller SimulatedNetwork) : Prop where
  linked : c.Linked
  listening : ∀ k l, c.link? k = some l → l.device.model.listening = true
  orderly : ∀ k l, c.link? k = some l → l.node.RestsWhenReady

namespace Attentive

variable {c : Controller SimulatedNetwork}

theorem cycle (h : c.Attentive) : c.cycle.value.Attentive := by
  obtain ⟨linked, links⟩ := h.linked.cycle
  refine ⟨linked, fun k l hl => ?_, fun k l hl => ?_⟩
  all_goals
    rw [links] at hl
    obtain ⟨l, before, rfl⟩ := Option.map_eq_some_iff.1 hl
  · rw [Link.model_cycle]
    exact h.listening k l before
  · exact Link.restsWhenReady_cycle (h.listening k l before) (h.orderly k l before) _

theorem advance (h : c.Attentive) (n : Nat) : (c.advance n).Attentive := by
  induction n generalizing c with
  | zero => exact h
  | succ n ih => exact ih h.cycle

theorem atRest (h : c.Attentive) (all : c.allStarted = true) {k : NodeId} {n : Node}
    (hn : c.node? k = some n) : n.AtRest := by
  obtain ⟨d, -, hl⟩ := h.linked.matched.exists_link hn
  exact h.orderly k _ hl (state_of_allStarted all hn)

theorem listens (h : c.Attentive) {k : NodeId} {d : SimulatedDevice}
    (hd : c.network.device? k = some d) : d.model.listening = true := by
  have there : (c.node? k).isSome := by rw [h.linked.matched.paired, hd]; rfl
  obtain ⟨n, hn⟩ := Option.isSome_iff_exists.1 there
  exact h.listening k ⟨n, d⟩ (link?_eq_some_iff.2 ⟨hn, hd⟩)

theorem counted (h : c.Attentive) (cycles : Nat) : Attentive { c with cycles } :=
  ⟨⟨⟨h.linked.matched.paired, h.linked.matched.proper⟩, h.linked.idle, h.linked.quiet,
    h.linked.zero⟩, h.listening, h.orderly⟩

theorem turns (h : c.Attentive) (all : c.allStarted = true) : c.turns = pure c :=
  turnsOf_of_atRest h.linked.matched.keyed (fun _ _ hn => h.atRest all hn) _ _

theorem poll (h : c.Attentive) : c.poll = ([], c) := by
  have polled := SimulatedNetwork.poll_of_listening (fun _ _ hd => h.listens hd) h.linked.quiet
  exact congrArg (fun p : List Inbound × SimulatedNetwork => (p.1, { c with network := p.2 })) polled

/-- Once every node is ready, a cycle does nothing but count itself. -/
theorem cycle_of_allStarted (h : c.Attentive) (all : c.allStarted = true) :
    c.cycle = ⟨{ c with cycles := c.cycles + 1 }, [.cycle]⟩ := by
  -- the count goes up before the turns, so they are those of the controller with the new count
  have h := h.counted (c.cycles + 1)
  unfold Controller.cycle
  rw [h.turns all, pure_bind, h.poll]
  rfl

theorem advance_of_allStarted (h : c.Attentive) (all : c.allStarted = true) (n : Nat) :
    c.advance n = { c with cycles := c.cycles + n } := by
  induction n generalizing c with
  | zero => rfl
  | succ n ih =>
    have next := ih (h.counted (c.cycles + 1)) all
    rw [Nat.add_right_comm] at next
    rw [Controller.advance, h.cycle_of_allStarted all]
    exact next

end Attentive

/-! ## Stopping early -/

section Stopping

variable {σ : Type} [Network σ] {c : Controller σ}

theorem cycles_advance (c : Controller σ) (n : Nat) : (c.advance n).cycles = c.cycles + n := by
  induction n generalizing c with
  | zero => rfl
  | succ n ih => rw [advance, ih, cycles_cycle, Nat.add_assoc, Nat.add_comm 1]

theorem advance_add (m n : Nat) (c : Controller σ) :
    c.advance (m + n) = (c.advance m).advance n := by
  induction m generalizing c with
  | zero => rw [Nat.zero_add]; rfl
  | succ m ih =>
    rw [Nat.add_right_comm]
    exact ih c.cycle.value

/-- To settle is to advance until every node is ready, or by all the cycles there are. -/
theorem exists_settle (c : Controller σ) (n : Nat) :
    ∃ r, r ≤ n ∧ c.settle n = c.advance r ∧
      (∀ i, 1 ≤ i → i < r → (c.advance i).allStarted = false) ∧
      (r = n ∨ 1 ≤ r ∧ (c.advance r).allStarted = true) := by
  induction n generalizing c with
  | zero => exact ⟨0, Nat.le_refl 0, rfl, fun i _ h => absurd h (Nat.not_lt_zero i), .inl rfl⟩
  | succ n ih =>
    rw [settle]
    split
    · next all =>
      refine ⟨1, Nat.le_add_left 1 n, rfl, fun i one h => ?_, .inr ⟨Nat.le_refl 1, all⟩⟩
      omega
    · next some =>
      obtain ⟨r, bound, settled, before, last⟩ := ih c.cycle.value
      refine ⟨r + 1, Nat.succ_le_succ bound, settled, fun i one h => ?_, ?_⟩
      · obtain ⟨i, rfl⟩ := Nat.exists_eq_add_of_le' one
        cases i with
        | zero => exact Bool.eq_false_iff.2 some
        | succ i => exact before (i + 1) (Nat.le_add_left 1 i) (Nat.lt_of_succ_lt_succ h)
      · rcases last with rfl | ⟨-, all⟩
        · exact .inl rfl
        · exact .inr ⟨Nat.le_add_left 1 r, all⟩

def readyAfter (c : Controller σ) (n : Nat) : Set Nat :=
  {r | 1 ≤ r ∧ r ≤ n ∧ (c.runFor r).value.allStarted = true}

/-- Running ends after the least number of cycles that makes every node ready. -/
theorem cyclesUntil_run (c : Controller σ) (n : Nat) :
    IsLeast (c.readyAfter n) (c.cyclesUntil (c.run n).value) ∨
      c.readyAfter n = ∅ ∧ c.cyclesUntil (c.run n).value = n := by
  obtain ⟨r, bound, settled, before, last⟩ := c.exists_settle n
  have count : c.cyclesUntil (c.run n).value = r := by
    rw [run_value, settled, cyclesUntil, cycles_advance, Nat.add_sub_cancel_left]
  have earlier : ∀ i ∈ c.readyAfter n, r ≤ i := by
    rintro i ⟨one, -, all⟩
    refine Nat.le_of_not_lt fun h => ?_
    rw [runFor_value, before i one h] at all
    cases all
  rw [count]
  by_cases reached : r ∈ c.readyAfter n
  · exact .inl ⟨reached, earlier⟩
  · have last : r = n := by
      refine last.resolve_right fun ⟨one, all⟩ => reached ⟨one, bound, ?_⟩
      rwa [runFor_value]
    -- no number below `n` will do, and `n` itself does not
    refine .inr ⟨Set.eq_empty_of_forall_notMem fun i hi => reached ?_, last⟩
    have same : i = r := Nat.le_antisymm (last ▸ hi.2.1) (earlier i hi)
    exact same ▸ hi

end Stopping

/-- Cycles after every node is ready change the count of cycles only. -/
theorem Attentive.advance_eq_settle {c : Controller SimulatedNetwork} (h : c.Attentive) (n : Nat) :
    c.advance n = { c.settle n with cycles := c.cycles + n } := by
  obtain ⟨r, bound, settled, -, last⟩ := c.exists_settle n
  obtain ⟨rest, rfl⟩ := Nat.exists_eq_add_of_le bound
  have count := c.cycles_advance r
  rw [settled]
  rcases last with short | ⟨-, all⟩
  · rw [← short, ← count]
  · rw [advance_add, (h.advance r).advance_of_allStarted all, count, Nat.add_assoc]

end Controller

namespace NetworkModel

/-- **To run on tells nothing new.** On listening devices a run that stops when every node is ready
ends as one that goes on, but for the count of cycles. -/
theorem run_eq_runFor {m : NetworkModel} (valid : m.validate = .ok ())
    (listens : ∀ d ∈ m.nodes, d.listening = true) :
    ∃ c, Controller.ofModel m = .ok c ∧ ∀ n,
      (c.runFor n).value = { (c.run n).value with cycles := c.cycles + n } ∧
      (c.run n).value.summary.nodes = (c.runFor n).value.summary.nodes ∧
      (c.run n).value.started = (c.runFor n).value.started ∧
      (c.run n).value.network.framesSent = (c.runFor n).value.network.framesSent ∧
      (IsLeast (c.readyAfter n) (c.cyclesUntil (c.run n).value) ∨
        c.readyAfter n = ∅ ∧ c.cyclesUntil (c.run n).value = n) := by
  obtain ⟨c, hc, linked, links⟩ := Controller.ofModel_ok valid
  have distinct := (validate_ok valid).2
  have start : c.Attentive := by
    refine ⟨linked, fun k l hl => ?_, fun k l hl ready => ?_⟩
    all_goals
      rw [links] at hl
      obtain ⟨d, found, rfl⟩ := Option.map_eq_some_iff.1 hl
      have listening := listens d ((device?_eq_some_iff distinct).1 found).1
    · exact listening
    · rw [Link.ofModel_of_listens listening] at ready
      cases ready
  refine ⟨c, hc, fun n => ?_⟩
  have same : (c.runFor n).value = { (c.run n).value with cycles := c.cycles + n } := by
    rw [Controller.runFor_value, Controller.run_value]
    exact start.advance_eq_settle n
  exact ⟨same, congrArg (·.summary.nodes) same.symm, congrArg (·.started) same.symm,
    congrArg (·.network.framesSent) same.symm, c.cyclesUntil_run n⟩

theorem run_eq_runFor_switch :
    ∃ ready stuck : NetworkModel, ready.nodes.length = 2 ∧ stuck.nodes.length = 2 ∧
      (∃ c, Controller.ofModel ready = .ok c ∧ c.cyclesUntil (c.run 20).value = 6 ∧
        (c.run 20).value.started = [3, 2] ∧ (c.runFor 20).value.started = [3, 2]) ∧
      ∃ c, Controller.ofModel stuck = .ok c ∧ c.cyclesUntil (c.run 20).value = 20 ∧
        (c.runFor 20).value.allStarted = false ∧
        (c.run 20).value.summary.nodes = (c.runFor 20).value.summary.nodes := by
  let switch : DeviceModel :=
    { id := 2, kind := .binarySwitch, classes := [.switchBinary, .version], failNodeInfo := 1 }
  let dimmer : DeviceModel :=
    { id := 3, kind := .multilevelSwitch, classes := [.switchMultilevel], failNodeInfo := 2 }
  let ready : NetworkModel := ⟨[switch, dimmer]⟩
  let stuck : NetworkModel := ⟨[{ switch with classVersions := [(.version, 0)] }, dimmer]⟩
  obtain ⟨c, hc, run⟩ := run_eq_runFor (m := ready) rfl (by decide)
  obtain ⟨c', hc', run'⟩ := run_eq_runFor (m := stuck) rfl (by decide)
  have early : (Controller.ofModel ready).toOption.map (fun c =>
      (c.cyclesUntil (c.run 20).value, (c.run 20).value.started)) = some (6, [3, 2]) := by
    decide +kernel
  have never : (Controller.ofModel stuck).toOption.map (fun c =>
      (c.cyclesUntil (c.run 20).value, (c.runFor 20).value.allStarted)) = some (20, false) := by
    decide +kernel
  rw [hc] at early
  rw [hc'] at never
  obtain ⟨stops, started⟩ := Prod.mk.inj (Option.some.inj early)
  obtain ⟨lasts, unready⟩ := Prod.mk.inj (Option.some.inj never)
  exact ⟨ready, stuck, rfl, rfl, ⟨c, hc, stops, started, (run 20).2.2.1 ▸ started⟩,
    c', hc', lasts, unready, (run' 20).2.1⟩

end NetworkModel

end ZWave
