import Mathlib.Algebra.Order.BigOperators.Group.List
import Mathlib.Algebra.Order.Ring.Nat
import ZWave.Proofs.Simulation.Start

/-!
# Bring-up of a network

Every device of a model becomes ready, and it is known when. Requests for node information go out
one at a time, so the listening devices share a budget of two requests each
(`Controller.requestsLeft`); every cycle in which one is asked uses some of it up, since the first
that asks has its turn. Once a device has answered, or failed twice, it needs eight cycles more. A
device that sleeps is ready two cycles after it woke first. `Underway m i c` is what holds after `i`
cycles.
-/

namespace ZWave

namespace NetworkModel

def listeners (m : NetworkModel) : List DeviceModel := m.nodes.filter (·.listening)

def listeningCount (m : NetworkModel) : Nat := m.listeners.length

theorem mem_listeners {m : NetworkModel} {d : DeviceModel} :
    d ∈ m.listeners ↔ d ∈ m.nodes ∧ d.listening = true := List.mem_filter

/-- The longest time that a sleeping device sleeps before it wakes. -/
def longestSleep (m : NetworkModel) : Nat :=
  ((m.nodes.filter (! ·.listening)).map fun d => d.wakeInterval.getD 0).foldr max 0

theorem le_longestSleep {m : NetworkModel} {d : DeviceModel} (hd : d ∈ m.nodes)
    (sleeps : d.listening = false) : d.wakeInterval.getD 0 ≤ m.longestSleep := by
  have hm : d.wakeInterval.getD 0 ∈
      (m.nodes.filter (! ·.listening)).map fun d => d.wakeInterval.getD 0 :=
    List.mem_map_of_mem (List.mem_filter.2 ⟨hd, by rw [sleeps]; rfl⟩)
  unfold longestSleep
  generalize (m.nodes.filter (! ·.listening)).map (fun d => d.wakeInterval.getD 0) = l at hm
  induction l with
  | nil => cases hm
  | cons w l ih =>
    rw [List.foldr_cons]
    rcases List.mem_cons.1 hm with h | h
    · omega
    · have := ih h
      omega

end NetworkModel

namespace Controller

/-- The requests for node information that a node may still send. -/
def requestsLeft (c : Controller SimulatedNetwork) (k : NodeId) : Nat :=
  ((c.link? k).map Link.requestsLeft).getD 0

theorem requestsLeft_eq {c : Controller SimulatedNetwork} {k : NodeId} {l : Link}
    (hl : c.link? k = some l) : c.requestsLeft k = l.requestsLeft := by
  rw [requestsLeft, hl]
  rfl

theorem requestsLeft_le (c : Controller SimulatedNetwork) (k : NodeId) : c.requestsLeft k ≤ 2 := by
  unfold requestsLeft
  cases c.link? k with
  | none => exact Nat.zero_le 2
  | some l =>
    change l.requestsLeft ≤ 2
    unfold Link.requestsLeft
    split <;> omega

/-- What holds after `i` cycles of the controller of a model. -/
structure Underway (m : NetworkModel) (i : Nat) (c : Controller SimulatedNetwork) : Prop where
  linked : c.Linked
  known : ∀ k n, c.node? k = some n → ∃ d ∈ m.nodes, d.id = k
  listening : ∀ d ∈ m.nodes, d.listening = true → ∃ l, c.link? d.id = some l ∧
    Listening d (2 * m.listeningCount + 8 - i) l
  sleeping : ∀ d ∈ m.nodes, d.listening = false → ∃ l left, c.link? d.id = some l ∧
    Sleeping d left l ∧ left ≤ m.longestSleep + 3 - i
  budget : (m.listeners.map fun d => c.requestsLeft d.id).sum ≤
    2 * m.listeningCount - i

variable {m : NetworkModel} {c : Controller SimulatedNetwork} {i : Nat}

theorem Underway.start (linked : c.Linked) (distinct : (m.nodes.map (·.id)).Nodup)
    (links : ∀ k, c.link? k = (m.device? k).map .ofModel) : Underway m 0 c := by
  have link : ∀ d ∈ m.nodes, c.link? d.id = some (.ofModel d) := by
    intro d hd
    rw [links, (NetworkModel.device?_eq_some_iff distinct).2 ⟨hd, rfl⟩]
    rfl
  refine ⟨linked, fun k n hn => ?_, fun d hd hl => ?_, fun d hd hl => ?_, ?_⟩
  · obtain ⟨s, -, hl⟩ := linked.matched.exists_link hn
    rw [links] at hl
    obtain ⟨d, hd, -⟩ := Option.map_eq_some_iff.1 hl
    exact ⟨d, (NetworkModel.device?_eq_some_iff distinct).1 hd⟩
  · refine ⟨_, link d hd, ?_⟩
    rw [Link.ofModel_of_listens hl]
    exact .asking (Nat.zero_le 1) rfl rfl rfl
  · have start : Sleeping d (max (d.wakeInterval.getD 0) 1 + 2) (.ofModel d) := by
      rw [Link.ofModel_of_sleeps hl]
      exact .asleep (s := .ofModel d) rfl rfl
    have hw := NetworkModel.le_longestSleep hd hl
    exact ⟨_, _, link d hd, start, by omega⟩
  · have two : ∀ x ∈ m.listeners.map fun d => c.requestsLeft d.id, x ≤ 2 := by
      intro x hx
      obtain ⟨d, -, rfl⟩ := List.mem_map.1 hx
      exact c.requestsLeft_le d.id
    have bound : (m.listeners.map fun d => c.requestsLeft d.id).sum ≤
        (m.listeners.map fun d => c.requestsLeft d.id).length * 2 := List.sum_le_card_nsmul _ 2 two
    rw [List.length_map, ← NetworkModel.listeningCount] at bound
    omega

namespace Underway

/-- A listening device that may be asked is asked within its budget. -/
theorem ample (u : Underway m i c) {d : DeviceModel} (hd : d ∈ m.nodes)
    (listens : d.listening = true) {l : Link} (hl : c.link? d.id = some l)
    (left : 0 < l.requestsLeft) : 9 ≤ 2 * m.listeningCount + 8 - i := by
  have part : c.requestsLeft d.id ≤
      (m.listeners.map fun d => c.requestsLeft d.id).sum :=
    List.single_le_sum (fun x _ => Nat.zero_le x) _
      (List.mem_map_of_mem (NetworkModel.mem_listeners.2 ⟨hd, listens⟩))
  have budget := u.budget
  rw [requestsLeft_eq hl] at part
  omega

theorem cycle_listening (u : Underway m i c) (speaks : ∀ d ∈ m.nodes, d.Speaks) {d : DeviceModel}
    (hd : d ∈ m.nodes) (listens : d.listening = true) :
    (∃ l, c.cycle.value.link? d.id = some l ∧
      Listening d (2 * m.listeningCount + 8 - (i + 1)) l) ∧
    c.cycle.value.requestsLeft d.id ≤
      c.requestsLeft d.id - if c.holds d.id then 0 else 1 := by
  obtain ⟨l, hl, listening⟩ := u.listening d hd listens
  have next : c.cycle.value.link? d.id = some (l.cycle (c.holds d.id)) := by
    rw [u.linked.cycle.2, hl]
    rfl
  have asked : c.holds d.id = true → l.node.nextIsNodeInfo = true := by
    intro h
    rw [← asks_eq hl]
    exact asks_of_holds h
  obtain ⟨listening', left⟩ := listening.cycle listens (speaks d hd) asked (u.ample hd listens hl)
  refine ⟨⟨_, next, listening'⟩, ?_⟩
  rw [requestsLeft_eq next, requestsLeft_eq hl]
  exact left

theorem listening_of_asks (u : Underway m i c) {k : NodeId} (h : c.asks k = true) :
    ∃ d ∈ m.nodes, d.listening = true ∧ d.id = k ∧ 0 < c.requestsLeft k := by
  obtain ⟨n, hn, -⟩ := (Option.any_eq_true ..).1 h
  obtain ⟨d, hd, rfl⟩ := u.known k n hn
  cases listens : d.listening with
  | true =>
    obtain ⟨l, hl, listening⟩ := u.listening d hd listens
    rw [asks_eq hl] at h
    refine ⟨d, hd, listens, rfl, ?_⟩
    rw [requestsLeft_eq hl]
    exact listening.requestsLeft_pos_iff.2 h
  | false =>
    obtain ⟨l, left, hl, sleeping, -⟩ := u.sleeping d hd listens
    rw [asks_eq hl, sleeping.nextIsNodeInfo] at h
    cases h

theorem requestsLeft_cycle_le (u : Underway m i c) (speaks : ∀ d ∈ m.nodes, d.Speaks)
    {d : DeviceModel} (hd : d ∈ m.listeners) :
    c.cycle.value.requestsLeft d.id ≤ c.requestsLeft d.id := by
  obtain ⟨hd, listens⟩ := NetworkModel.mem_listeners.1 hd
  exact le_trans (u.cycle_listening speaks hd listens).2 (Nat.sub_le _ _)

theorem exists_requestsLeft_cycle_lt (u : Underway m i c) (speaks : ∀ d ∈ m.nodes, d.Speaks)
    {k : NodeId} (hk : c.asks k = true) :
    ∃ d ∈ m.listeners, c.cycle.value.requestsLeft d.id < c.requestsLeft d.id := by
  obtain ⟨j, asked, free⟩ := exists_asks_not_holds hk
  obtain ⟨d, hd, listens, rfl, left⟩ := u.listening_of_asks asked
  refine ⟨d, NetworkModel.mem_listeners.2 ⟨hd, listens⟩, ?_⟩
  have step := (u.cycle_listening speaks hd listens).2
  rw [free, if_neg (by simp)] at step
  omega

theorem requestsLeft_eq_zero (u : Underway m i c) (quiet : ∀ k, c.asks k = false)
    {d : DeviceModel} (hd : d ∈ m.listeners) : c.requestsLeft d.id = 0 := by
  obtain ⟨hd, listens⟩ := NetworkModel.mem_listeners.1 hd
  obtain ⟨l, hl, listening⟩ := u.listening d hd listens
  have next : l.node.nextIsNodeInfo = false := by rw [← asks_eq hl, quiet]
  have none := listening.requestsLeft_pos_iff
  rw [next] at none
  rw [requestsLeft_eq hl]
  simpa using none

/-- In a cycle somebody is asked, unless nobody is to be asked any more. -/
theorem cycle_budget (u : Underway m i c) (speaks : ∀ d ∈ m.nodes, d.Speaks) :
    (m.listeners.map fun d => c.cycle.value.requestsLeft d.id).sum ≤
      2 * m.listeningCount - (i + 1) := by
  have each : ∀ d ∈ m.listeners, c.cycle.value.requestsLeft d.id ≤ c.requestsLeft d.id :=
    fun d hd => u.requestsLeft_cycle_le speaks hd
  have budget := u.budget
  -- who asks is asked at once or waits for one that is; if nobody asks, the budget is used up
  by_cases h : ∃ k, c.asks k = true
  · obtain ⟨k, hk⟩ := h
    have total := List.sum_lt_sum (fun d : DeviceModel => c.cycle.value.requestsLeft d.id)
      (fun d => c.requestsLeft d.id) each (u.exists_requestsLeft_cycle_lt speaks hk)
    omega
  · have quiet : ∀ k, c.asks k = false := fun k => Bool.eq_false_iff.2 fun hk => h ⟨k, hk⟩
    have none : ∀ d ∈ m.listeners, c.cycle.value.requestsLeft d.id = 0 := by
      intro d hd
      have least := each d hd
      rw [u.requestsLeft_eq_zero quiet hd] at least
      exact Nat.le_zero.1 least
    have total : (m.listeners.map fun d => c.cycle.value.requestsLeft d.id).sum = 0 := by
      rw [List.map_congr_left none, List.map_const', List.sum_replicate]
      simp
    omega

theorem cycle (u : Underway m i c) (speaks : ∀ d ∈ m.nodes, d.Speaks) :
    Underway m (i + 1) c.cycle.value where
  linked := u.linked.cycle.1
  known := by
    intro k n hn
    obtain ⟨s, -, hl⟩ := u.linked.cycle.1.matched.exists_link hn
    rw [u.linked.cycle.2] at hl
    obtain ⟨l, hl, -⟩ := Option.map_eq_some_iff.1 hl
    exact u.known k l.node (link?_eq_some_iff.1 hl).1
  listening _ hd listens := (u.cycle_listening speaks hd listens).1
  sleeping := by
    intro d hd sleeps
    obtain ⟨l, left, hl, sleeping, hleft⟩ := u.sleeping d hd sleeps
    have free : c.holds d.id = false := by
      refine Bool.eq_false_iff.2 fun h => ?_
      have next := asks_of_holds h
      rw [asks_eq hl, sleeping.nextIsNodeInfo] at next
      cases next
    obtain ⟨left', hleft', next⟩ := sleeping.cycle sleeps
    refine ⟨_, left', ?_, next, by omega⟩
    rw [u.linked.cycle.2, hl, free]
    rfl
  budget := u.cycle_budget speaks

theorem advance (u : Underway m i c) (speaks : ∀ d ∈ m.nodes, d.Speaks) (n : Nat) :
    Underway m (i + n) (c.advance n) := by
  induction n generalizing c i with
  | zero => exact u
  | succ n ih =>
    have next := ih (u.cycle speaks)
    rwa [Nat.add_right_comm, Nat.add_assoc] at next

/-- After two cycles for each listening device and eight more, the listening devices are ready. -/
theorem listening_started (u : Underway m i c) (hi : 2 * m.listeningCount + 8 ≤ i)
    {d : DeviceModel} (hd : d ∈ m.nodes) (listens : d.listening = true) :
    ∃ told, (told = d ∨ told = d.silent ∧ 2 ≤ d.failNodeInfo) ∧
      c.node? d.id = some (told.node .started (told.versionQueries ++ told.stateQueries) []
        (told.lists .version)) := by
  obtain ⟨l, hl, listening⟩ := u.listening d hd listens
  have quiet : l.requestsLeft = 0 := by
    have ample := u.ample hd listens hl
    omega
  rw [Nat.sub_eq_zero_of_le hi] at listening
  obtain ⟨told, which, node⟩ := listening.started quiet
  exact ⟨told, which, by rw [(link?_eq_some_iff.1 hl).1, node]⟩

/-- After the longest sleep and three cycles more, the devices that sleep are ready. -/
theorem sleeping_started (u : Underway m i c) (hi : m.longestSleep + 3 ≤ i) {d : DeviceModel}
    (hd : d ∈ m.nodes) (sleeps : d.listening = false) :
    ∃ n, c.node? d.id = some n ∧ n.state = .started := by
  obtain ⟨l, left, hl, sleeping, hleft⟩ := u.sleeping d hd sleeps
  obtain rfl : left = 0 := by omega
  refine ⟨l.node, (link?_eq_some_iff.1 hl).1, ?_⟩
  cases sleeping with
  | started calm state => exact state

theorem started (u : Underway m i c)
    (hi : 2 * m.listeningCount + m.longestSleep + 8 ≤ i) {d : DeviceModel} (hd : d ∈ m.nodes) :
    ∃ n, c.node? d.id = some n ∧ n.state = .started := by
  cases listens : d.listening with
  | true =>
    obtain ⟨told, -, node⟩ := u.listening_started (by omega) hd listens
    exact ⟨_, node, rfl⟩
  | false => exact u.sleeping_started (by omega) hd listens

theorem allStarted (u : Underway m i c)
    (hi : 2 * m.listeningCount + m.longestSleep + 8 ≤ i) : c.allStarted = true := by
  refine List.all_eq_true.2 fun n hn => ?_
  obtain ⟨⟨k, n'⟩, he, rfl⟩ := List.mem_map.1 hn
  have found : c.node? k = some n' := (IdMap.get?_eq_some_iff ..).2 he
  obtain ⟨d, hd, rfl⟩ := u.known k n' found
  obtain ⟨n, hn, state⟩ := u.started hi hd
  rw [found] at hn
  cases hn
  simp [state]

/-- Running until every node is ready ends with every node ready, if there are cycles enough. -/
theorem settle (u : Underway m i c) (speaks : ∀ d ∈ m.nodes, d.Speaks) (max : Nat)
    (hi : 2 * m.listeningCount + m.longestSleep + 8 ≤ i + max) :
    (c.settle max).allStarted = true ∧ ∃ j, Underway m j (c.settle max) := by
  induction max generalizing c i with
  | zero => exact ⟨u.allStarted hi, i, u⟩
  | succ max ih =>
    rw [Controller.settle]
    split
    · next h => exact ⟨h, i + 1, u.cycle speaks⟩
    · exact ih (u.cycle speaks) (by omega)

theorem exists_node (u : Underway m i c) {d : DeviceModel} (hd : d ∈ m.nodes) :
    ∃ n, c.node? d.id = some n := by
  cases listens : d.listening with
  | true =>
    obtain ⟨l, hl, -⟩ := u.listening d hd listens
    exact ⟨_, (link?_eq_some_iff.1 hl).1⟩
  | false =>
    obtain ⟨l, -, hl, -⟩ := u.sleeping d hd listens
    exact ⟨_, (link?_eq_some_iff.1 hl).1⟩

end Underway

theorem state_of_allStarted {σ : Type} {c : Controller σ} (h : c.allStarted = true) {k : NodeId}
    {n : Node} (hn : c.node? k = some n) : n.state = .started := by
  have hm : n ∈ c.nodes.values :=
    List.mem_map.2 ⟨(k, n), (IdMap.get?_eq_some_iff ..).1 hn, rfl⟩
  simpa using List.all_eq_true.1 h n hm

end Controller

/-- **Bring-up completes.** In a model where no listed class has version zero, every node is ready
after two cycles for each listening device, the longest sleep and eight cycles more. -/
theorem NetworkModel.allStarted_run {m : NetworkModel} (valid : m.validate = .ok ())
    (speaks : ∀ d ∈ m.nodes, ∀ k ∈ d.classes, d.classVersions.lookup k ≠ some 0) :
    ∃ c, Controller.ofModel m = .ok c ∧ ∀ max, 2 * m.listeningCount + m.longestSleep + 8 ≤ max →
      (c.run max).value.allStarted = true ∧
        ∀ d ∈ m.nodes, ∃ n, (c.run max).value.node? d.id = some n ∧ n.state = .started := by
  obtain ⟨c, hc, linked, links⟩ := Controller.ofModel_ok valid
  have start := Controller.Underway.start linked (NetworkModel.validate_ok valid).2 links
  refine ⟨c, hc, fun max hmax => ?_⟩
  rw [Controller.run_value]
  obtain ⟨all, j, u⟩ := start.settle speaks max (by omega)
  refine ⟨all, fun d hd => ?_⟩
  obtain ⟨n, hn⟩ := u.exists_node hd
  exact ⟨n, hn, Controller.state_of_allStarted all hn⟩

theorem NetworkModel.allStarted_run_mixed :
    ∃ m : NetworkModel, m.nodes.length = 3 ∧ m.validate = .ok () ∧ m.listeningCount = 2 ∧
      m.longestSleep = 4 ∧ ∃ c, Controller.ofModel m = .ok c ∧
        (c.run 16).value.allStarted = true := by
  let m : NetworkModel := ⟨[
    { id := 2, kind := .binarySwitch, classes := [.switchBinary, .version], failNodeInfo := 1 },
    { id := 3, kind := .multilevelSwitch, classes := [.switchMultilevel], failNodeInfo := 2 },
    { id := 9, kind := .binarySensor, listening := false, classes := [.basic, .wakeUp],
      wakeInterval := some 4, awakeCycles := 2 }]⟩
  obtain ⟨c, hc, run⟩ := NetworkModel.allStarted_run (m := m) rfl (by decide)
  exact ⟨m, rfl, rfl, rfl, rfl, c, hc, (run 16 (by decide)).1⟩

end ZWave
