import Mathlib.Algebra.Order.BigOperators.Group.List
import Mathlib.Algebra.Order.Ring.Nat
import ZWave.Proofs.Simulation.Alone
import ZWave.Proofs.Simulation.BringUp
import ZWave.Summary.Basic

/-!
# Nodes do not interfere

In a network a link goes through the states that it would go through by itself, only later: all that
others do to it is to have its node pass a turn when they ask for their information first. Each of
them asks in its first two turns only, so the turns that are passed are counted by these, and in the
end every link is where it would be without the others. `Paced m i turns c` is what holds after `i`
cycles, of which the node of a device has had `turns`.
-/

namespace ZWave

namespace Link

theorem model_turn (l : Link) (held : Bool) : (l.turn held).1.device.model = l.device.model := by
  unfold turn
  split
  · rfl
  · split
    · exact l.device.model_handle _
    · rfl

theorem model_cycle (l : Link) (held : Bool) : (l.cycle held).device.model = l.device.model :=
  ((l.turn held).1.device.model_advance).trans (l.model_turn held)

theorem model_advance (n : Nat) (l : Link) : (l.advance n).device.model = l.device.model := by
  induction n with
  | zero => rfl
  | succ n ih => rw [advance_succ, model_cycle, ih]

theorem cycle_held {l : Link} (listening : l.device.model.listening = true) : l.cycle true = l := by
  change (⟨l.node.hear l.device.advance.2, l.device.advance.1⟩ : Link) = l
  rw [SimulatedDevice.advance_of_listening listening]
  rfl

end Link

namespace Controller

/-! ## Turns in which nodes may ask -/

/-- The turns in which the nodes of listening devices may have asked for their information. -/
def askingTurns (m : NetworkModel) (turns : NodeId → Nat) : Nat :=
  (m.listeners.map fun d => min (turns d.id) 2).sum

section AskingTurns

variable {m : NetworkModel} {turns turns' : NodeId → Nat}

theorem askingTurns_le (m : NetworkModel) (turns : NodeId → Nat) :
    askingTurns m turns ≤ 2 * m.listeningCount := by
  have two : ∀ x ∈ m.listeners.map fun d => min (turns d.id) 2, x ≤ 2 := by
    intro x hx
    obtain ⟨d, -, rfl⟩ := List.mem_map.1 hx
    omega
  have bound : askingTurns m turns ≤
      (m.listeners.map fun d => min (turns d.id) 2).length * 2 := List.sum_le_card_nsmul _ 2 two
  rw [List.length_map, ← NetworkModel.listeningCount] at bound
  omega

theorem askingTurns_mono (later : ∀ k, turns k ≤ turns' k) :
    askingTurns m turns ≤ askingTurns m turns' := by
  refine List.sum_le_sum fun d _ => ?_
  have := later d.id
  omega

theorem askingTurns_lt (later : ∀ k, turns k ≤ turns' k) {d : DeviceModel} (hd : d ∈ m.listeners)
    (early : turns d.id < 2) (had : turns d.id < turns' d.id) :
    askingTurns m turns < askingTurns m turns' := by
  refine List.sum_lt_sum _ _ (fun x _ => ?_) ⟨d, hd, ?_⟩
  · have := later x.id
    omega
  · omega

end AskingTurns

/-! ## Runs -/

/-- After `i` cycles every link is where it would be by itself after the turns it has had. -/
structure Paced (m : NetworkModel) (i : Nat) (turns : NodeId → Nat)
    (c : Controller SimulatedNetwork) : Prop where
  linked : c.Linked
  distinct : (m.nodes.map (·.id)).Nodup
  links : ∀ k, c.link? k = (m.device? k).map fun d => (Link.ofModel d).advance (turns k)
  sleeping : ∀ d ∈ m.nodes, d.listening = false → turns d.id = i
  listening : ∀ d ∈ m.nodes, d.listening = true →
    i + min (turns d.id) 2 ≤ turns d.id + askingTurns m turns

namespace Paced

variable {m : NetworkModel} {i : Nat} {turns : NodeId → Nat} {c : Controller SimulatedNetwork}
  {d : DeviceModel}

theorem link?_eq (p : Paced m i turns c) (hd : d ∈ m.nodes) :
    c.link? d.id = some ((Link.ofModel d).advance (turns d.id)) := by
  rw [p.links, (NetworkModel.device?_eq_some_iff p.distinct).2 ⟨hd, rfl⟩]
  rfl

/-- A node that asks for its information is one of a device that listens, in its first two turns. -/
theorem of_asks (p : Paced m i turns c) {k : NodeId} (asked : c.asks k = true) :
    ∃ d ∈ m.listeners, d.id = k ∧ turns d.id < 2 := by
  obtain ⟨n, hn, -⟩ := (Option.any_eq_true ..).1 asked
  obtain ⟨s, -, hl⟩ := p.linked.matched.exists_link hn
  rw [p.links] at hl
  obtain ⟨d, found, -⟩ := Option.map_eq_some_iff.1 hl
  obtain ⟨hd, rfl⟩ := (NetworkModel.device?_eq_some_iff p.distinct).1 found
  rw [asks_eq (p.link?_eq hd)] at asked
  cases listens : d.listening with
  | false =>
    rw [Link.nextIsNodeInfo_of_sleeps listens] at asked
    cases asked
  | true =>
    refine ⟨d, NetworkModel.mem_listeners.2 ⟨hd, listens⟩, rfl, ?_⟩
    apply Nat.lt_of_not_le
    intro later
    rw [(Link.calm_ofModel listens later).nextIsNodeInfo] at asked
    cases asked

theorem listens_of_holds (p : Paced m i turns c) (hd : d ∈ m.nodes) (held : c.holds d.id = true) :
    d.listening = true := by
  obtain ⟨e, he, hid, -⟩ := p.of_asks (asks_of_holds held)
  obtain ⟨he, listens⟩ := NetworkModel.mem_listeners.1 he
  have same : e = d := List.inj_on_of_nodup_map p.distinct he hd hid
  rwa [same] at listens

theorem cycle (p : Paced m i turns c) :
    Paced m (i + 1) (fun k => turns k + if c.holds k then 0 else 1) c.cycle.value := by
  have later : ∀ k, turns k ≤ turns k + if c.holds k then 0 else 1 := fun k => Nat.le_add_right ..
  refine ⟨p.linked.cycle.1, p.distinct, fun k => ?_, fun d hd sleeps => ?_, fun d hd listens => ?_⟩
  · rw [p.linked.cycle.2, p.links, Option.map_map]
    refine Option.map_congr fun d found => ?_
    obtain ⟨hd, rfl⟩ := (NetworkModel.device?_eq_some_iff p.distinct).1 found
    change ((Link.ofModel d).advance (turns d.id)).cycle (c.holds d.id) = _
    cases held : c.holds d.id with
    | false => exact (Link.advance_succ ..).symm
    | true =>
      have listens := p.listens_of_holds hd held
      exact Link.cycle_held (by rw [Link.model_advance]; exact listens)
  · have free : c.holds d.id = false := by
      apply Bool.eq_false_iff.2
      intro held
      rw [p.listens_of_holds hd held] at sleeps
      cases sleeps
    rw [free, p.sleeping d hd sleeps]
    rfl
  · have before := p.listening d hd listens
    cases held : c.holds d.id with
    | true =>
      -- the node is made to wait by another, which asks in one of its first two turns
      obtain ⟨j, asked, free⟩ := exists_asks_not_holds (asks_of_holds held)
      obtain ⟨e, he, rfl, early⟩ := p.of_asks asked
      have more := askingTurns_lt later he early (by rw [free]; exact Nat.lt_succ_self _)
      rw [if_pos rfl]
      omega
    | false =>
      rw [if_neg (by decide)]
      by_cases early : turns d.id < 2
      · have had := askingTurns_lt later (NetworkModel.mem_listeners.2 ⟨hd, listens⟩) early
          (by rw [held]; exact Nat.lt_succ_self _)
        omega
      · have more := askingTurns_mono (m := m) later
        omega

theorem advance (p : Paced m i turns c) (n : Nat) :
    ∃ turns', Paced m (i + n) turns' (c.advance n) := by
  induction n generalizing i turns c with
  | zero => exact ⟨turns, p⟩
  | succ n ih =>
    obtain ⟨turns', next⟩ := ih p.cycle
    rw [Nat.add_right_comm] at next
    exact ⟨turns', next⟩

theorem link?_of_sleeps (p : Paced m i turns c) (hd : d ∈ m.nodes) (sleeps : d.listening = false) :
    c.link? d.id = some ((Link.ofModel d).advance i) := by
  rw [p.link?_eq hd, p.sleeping d hd sleeps]

/-- A device that listens is where it would be by itself once it has had its ten turns. -/
theorem link?_of_listens (p : Paced m i turns c) (hi : 2 * m.listeningCount + 8 ≤ i)
    (hd : d ∈ m.nodes) (listens : d.listening = true) :
    c.link? d.id = some ((Link.ofModel d).advance 10) := by
  have passed := p.listening d hd listens
  have few := askingTurns_le m turns
  have ten : 10 ≤ turns d.id := by omega
  rw [p.link?_eq hd, Link.advance_ofModel_eq listens ten]

end Paced

def summary? {σ : Type} (c : Controller σ) (id : NodeId) : Option NodeSummary :=
  (c.node? id).map .ofNode

end Controller

namespace NetworkModel

variable {m : NetworkModel} {d : DeviceModel}

theorem exists_paced (valid : m.validate = .ok ()) :
    ∃ c, Controller.ofModel m = .ok c ∧ ∀ n, ∃ turns, Controller.Paced m n turns (c.advance n) := by
  obtain ⟨c, hc, linked, links⟩ := Controller.ofModel_ok valid
  have start : Controller.Paced m 0 (fun _ => 0) c :=
    ⟨linked, (validate_ok valid).2, links, fun _ _ _ => rfl, fun _ _ _ => Nat.zero_le _⟩
  refine ⟨c, hc, fun n => ?_⟩
  have later := start.advance n
  rwa [Nat.zero_add] at later

theorem validate_alone (valid : m.validate = .ok ()) (hd : d ∈ m.nodes) :
    (⟨[d]⟩ : NetworkModel).validate = .ok () := by
  obtain ⟨rules, -⟩ := firstFault?_eq_none_iff.1 (validate_eq_ok_iff.1 valid)
  obtain ⟨zero, highest, -, wakes⟩ := rules d hd
  refine validate_eq_ok_iff.2 (firstFault?_eq_none_iff.2 ⟨fun x hx => ?_, ?_⟩)
  · cases List.mem_singleton.1 hx
    exact ⟨zero, highest, List.not_mem_nil, wakes⟩
  · exact List.nodup_singleton _

theorem listeningCount_alone (hd : d ∈ m.nodes) (listens : d.listening = true) :
    (⟨[d]⟩ : NetworkModel).listeningCount ≤ m.listeningCount := by
  have one : (⟨[d]⟩ : NetworkModel).listeningCount ≤ 1 := List.length_filter_le ..
  have some : 0 < m.listeningCount :=
    List.length_pos_of_mem (mem_listeners.2 ⟨hd, listens⟩)
  omega

/-- **Nodes do not interfere.** The summary of a node is the same as in the model that holds its
device alone, always if the device sleeps, and after two cycles for each listening device and eight
more if it listens. -/
theorem summary_alone (valid : m.validate = .ok ()) (hd : d ∈ m.nodes) :
    ∃ c alone, Controller.ofModel m = .ok c ∧ Controller.ofModel ⟨[d]⟩ = .ok alone ∧
      ∀ cycles, (d.listening = true → 2 * m.listeningCount + 8 ≤ cycles) →
        ∃ s, (c.runFor cycles).value.summary? d.id = some s ∧
          (alone.runFor cycles).value.summary? d.id = some s := by
  obtain ⟨c, hc, paced⟩ := exists_paced valid
  obtain ⟨alone, ha, paced'⟩ := exists_paced (validate_alone valid hd)
  have hd' : d ∈ (⟨[d]⟩ : NetworkModel).nodes := List.mem_singleton_self d
  refine ⟨c, alone, hc, ha, fun cycles enough => ?_⟩
  obtain ⟨turns, p⟩ := paced cycles
  obtain ⟨turns', p'⟩ := paced' cycles
  have same : ∃ l, (c.advance cycles).link? d.id = some l ∧
      (alone.advance cycles).link? d.id = some l := by
    cases listens : d.listening with
    | false => exact ⟨_, p.link?_of_sleeps hd listens, p'.link?_of_sleeps hd' listens⟩
    | true =>
      have enough := enough listens
      have fewer := listeningCount_alone hd listens
      exact ⟨_, p.link?_of_listens enough hd listens,
        p'.link?_of_listens (by omega) hd' listens⟩
  obtain ⟨l, together, apart⟩ := same
  rw [Controller.runFor_value, Controller.runFor_value, Controller.summary?, Controller.summary?,
    (Controller.link?_eq_some_iff.1 together).1, (Controller.link?_eq_some_iff.1 apart).1]
  exact ⟨_, rfl, rfl⟩

theorem summary_alone_beside :
    ∃ (m : NetworkModel) (dimmer sensor : DeviceModel), m.nodes.length = 3 ∧
      m.validate = .ok () ∧ dimmer ∈ m.nodes ∧ sensor ∈ m.nodes ∧ m.listeningCount = 2 ∧
      (∃ c alone s, Controller.ofModel m = .ok c ∧ Controller.ofModel ⟨[dimmer]⟩ = .ok alone ∧
        (c.runFor 12).value.summary? 3 = some s ∧ (alone.runFor 12).value.summary? 3 = some s) ∧
      ∃ c alone s, Controller.ofModel m = .ok c ∧ Controller.ofModel ⟨[sensor]⟩ = .ok alone ∧
        (c.runFor 5).value.summary? 9 = some s ∧ (alone.runFor 5).value.summary? 9 = some s := by
  let switch : DeviceModel :=
    { id := 2, kind := .binarySwitch, classes := [.switchBinary],
      classVersions := [(.switchBinary, 0)], failNodeInfo := 1 }
  let dimmer : DeviceModel :=
    { id := 3, kind := .multilevelSwitch, classes := [.switchMultilevel, .version], level := 42 }
  let sensor : DeviceModel :=
    { id := 9, kind := .binarySensor, listening := false, classes := [.basic, .wakeUp],
      wakeInterval := some 4, awakeCycles := 2 }
  let m : NetworkModel := ⟨[switch, dimmer, sensor]⟩
  obtain ⟨c, alone, hc, ha, run⟩ := summary_alone (m := m) (d := dimmer) rfl (by decide)
  obtain ⟨c', alone', hc', ha', run'⟩ := summary_alone (m := m) (d := sensor) rfl (by decide)
  obtain ⟨s, together, apart⟩ := run 12 (by decide)
  obtain ⟨s', together', apart'⟩ := run' 5 (by decide)
  exact ⟨m, dimmer, sensor, rfl, rfl, by decide, by decide, rfl,
    ⟨c, alone, s, hc, ha, together, apart⟩, ⟨c', alone', s', hc', ha', together', apart'⟩⟩

end NetworkModel

end ZWave
