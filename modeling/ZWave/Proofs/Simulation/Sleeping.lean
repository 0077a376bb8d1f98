import ZWave.Proofs.Node.Advance
import ZWave.Proofs.Simulation.Link

/-!
# Bring-up of a device that sleeps

Nobody asks a device that sleeps for its information: it announces itself when it wakes first. From
then on its node needs two cycles to be ready, since what it would ask is held back.
`Sleeping m left` lists the links on the way, with the cycles that are left.
-/

namespace ZWave

/-- The node of a device that sleeps, before that has announced itself. -/
def DeviceModel.unheard (d : DeviceModel) : Node where
  id := d.id
  device := d.protocolInfo.device
  profile := .ofGenericType d.kind.genericType
  factory := .standard
  queues := { listening := false }

namespace Node

/-- A node that holds back what it would ask, and has nothing else to send. -/
structure Deferring (n : Node) : Prop where
  listening : n.queues.listening = false
  write : n.queues.write = []
  pending : n.pending = none

theorem Deferring.tick {n : Node} (h : n.Deferring) :
    n.sends? = none ∧ n.tick.value = (n.prepared.handle .queueDrained).value ∧
      n.tick.value.Deferring := by
  have write : n.prepared.queues.write = [] := by
    rw [write_prepared, h.write, h.listening]
    rfl
  have listening : n.prepared.queues.listening = false := by
    rw [← h.listening]
    exact n.listening_handle .tick
  have pending : n.prepared.pending = none := by rw [pending_prepared, h.pending]
  obtain ⟨sends, tick⟩ := tick_of_drained h.pending write
  refine ⟨sends, tick, ?_⟩
  rw [tick, value_handle_queueDrained]
  split <;> exact ⟨listening, write, pending⟩

/-- A tick that sends nothing takes a node through a whole phase. -/
theorem state_drained_of_versionPending {n : Node} (h : n.state = .versionPending) :
    (n.prepared.handle .queueDrained).value.state = .statePending := by
  have queued : n.prepared.state = .versionQueued := by
    unfold prepared
    rw [value_handle_tick, h]
    rfl
  rw [value_handle_queueDrained, queued]
  rfl

theorem state_drained_of_statePending {n : Node} (h : n.state = .statePending) :
    (n.prepared.handle .queueDrained).value.state = .started := by
  have queued : n.prepared.state = .stateQueued := by
    unfold prepared
    rw [value_handle_tick, h]
    rfl
  rw [value_handle_queueDrained, queued]
  rfl

theorem receive_announcement (d : DeviceModel) (info : NodeInfo) :
    ∃ n, (d.unheard.receive (.applicationUpdate (.infoReceived d.id info))).value = n ∧ n.Calm ∧
      n.Deferring ∧ (n.state = .versionPending ∨ n.state = .statePending) := by
  have informed : d.unheard.informed (.infoReceived d.id info) =
      { d.unheard with classes := Registry.registerAll .empty .standard info.classes } := rfl
  refine ⟨_, rfl, ?_⟩
  rw [value_receive_infoReceived, informed, value_handle_infoReceived]
  dsimp only [DeviceModel.unheard, Node.state]
  cases (Registry.registerAll .empty .standard info.classes).contains ClassId.version
  · exact ⟨⟨by simp [Node.state], by simp⟩, ⟨rfl, rfl, rfl⟩, .inr rfl⟩
  · exact ⟨⟨by simp [Node.state], by simp⟩, ⟨rfl, rfl, rfl⟩, .inl rfl⟩

end Node

/-- The links of a device that sleeps, with the cycles that are left until its node is ready. -/
inductive Sleeping (m : DeviceModel) : Nat → Link → Prop where
  | asleep {s : SimulatedDevice} : s.model = m → s.awakeFor = 0 →
      Sleeping m (max s.asleepFor 1 + 2) ⟨m.unheard, s⟩
  | woken {n : Node} {s : SimulatedDevice} : s.model = m → 0 < s.awakeFor → n.Calm →
      n.Deferring → n.state = .versionPending → Sleeping m 2 ⟨n, s⟩
  | statePending {n : Node} {s : SimulatedDevice} : n.Calm → n.Deferring →
      n.state = .statePending → Sleeping m 1 ⟨n, s⟩
  | started {n : Node} {s : SimulatedDevice} : n.Calm → n.state = .started → Sleeping m 0 ⟨n, s⟩

namespace Sleeping

variable {m : DeviceModel} {left : Nat} {l : Link}

theorem nextIsNodeInfo (h : Sleeping m left l) : l.node.nextIsNodeInfo = false := by
  cases h with
  | asleep => rfl
  | woken _ _ calm | statePending calm | started calm => exact calm.nextIsNodeInfo

theorem cycle (h : Sleeping m left l) (sleeps : m.listening = false) :
    ∃ left', left' ≤ left - 1 ∧ Sleeping m left' (l.cycle false) := by
  cases h with
  | @asleep s model awake =>
    have sends : m.unheard.sends? = none := rfl
    have tick : m.unheard.tick.value = m.unheard := rfl
    rw [Link.cycle_of_quiet sends, tick]
    subst model
    rw [SimulatedDevice.advance_of_asleep sleeps awake]
    by_cases hlast : 0 < s.asleepFor - 1
    · rw [if_pos hlast]
      refine ⟨max (s.asleepFor - 1) 1 + 2, by omega, ?_⟩
      exact asleep (s := { s with asleepFor := s.asleepFor - 1 }) rfl awake
    · rw [if_neg hlast]
      obtain ⟨n, hn, calm, deferring, state⟩ :=
        Node.receive_announcement s.model ⟨s.model.protocolInfo.device, s.model.classIds⟩
      change ∃ left', _ ∧ Sleeping s.model left' ⟨(s.model.unheard.receive (.applicationUpdate
        (.infoReceived s.model.id ⟨s.model.protocolInfo.device, s.model.classIds⟩))).value, _⟩
      rw [hn]
      rcases state with state | state
      · exact ⟨2, by omega, woken rfl (by simp only; omega) calm deferring state⟩
      · exact ⟨1, by omega, statePending calm deferring state⟩
  | @woken n s model awake calm deferring state =>
    obtain ⟨sends, tick, deferred⟩ := deferring.tick
    rw [Link.cycle_of_quiet sends, SimulatedDevice.advance_of_awake (by rw [model, sleeps]) awake]
    have state : n.tick.value.state = .statePending := by
      rw [tick, Node.state_drained_of_versionPending state]
    exact ⟨1, Nat.le_refl 1, statePending calm.tick deferred state⟩
  | @statePending n s calm deferring state =>
    obtain ⟨sends, tick, deferred⟩ := deferring.tick
    have state : n.tick.value.state = .started := by
      rw [tick, Node.state_drained_of_statePending state]
    rw [Link.cycle_of_quiet sends]
    refine ⟨0, Nat.le_refl 0, ?_⟩
    cases s.advance.2 with
    | none => exact started calm.tick state
    | some f => exact started (calm.tick.receive f) (Node.started_operate state (.call (.receive f)))
  | @started n s calm state =>
    have ready : (n.Calm ∧ n.state = .started) := ⟨calm, state⟩
    obtain ⟨calm, state⟩ := Link.node_cycle (P := fun n => n.Calm ∧ n.state = .started)
      (fun n h => ⟨h.1.tick, Node.started_operate h.2 .tick⟩)
      (fun n f h => ⟨h.1.receive f, Node.started_operate h.2 (.call (.receive f))⟩) (l := ⟨n, s⟩)
      ready false
    exact ⟨0, Nat.le_refl 0, started calm state⟩

end Sleeping

end ZWave
