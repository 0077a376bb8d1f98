import ZWave.Proofs.Node.Frames

/-!
# Nodes whose classes are known

Once a node knows the classes of its device it never asks for its information again (`Calm`), and an
update tells it no more than that the device is awake (`value_update_of_known`).
-/

namespace ZWave.Node

/-- The classes of the node are known, and it has no request for its information to send. -/
structure Calm (n : Node) : Prop where
  known : n.state ≠ .nodeInfo
  frames : ∀ f ∈ n.queues.write ++ n.queues.wakeup, f.isNodeInfoRequest = false

theorem Calm.nextIsNodeInfo {n : Node} (h : n.Calm) : n.nextIsNodeInfo = false := by
  unfold Node.nextIsNodeInfo
  cases hw : n.queues.write with
  | nil => simp
  | cons f rest => simp [h.frames f (by simp [hw])]

theorem Calm.prepared {n : Node} (h : n.Calm) : n.prepared.Calm where
  known := by
    have known := h.known
    unfold Node.prepared
    rw [value_handle_tick]
    split
    · simp [Node.state]
    · simp [Node.state]
    · exact known
  frames := by
    intro f hf
    rw [queues_prepared] at hf
    rcases Queues.mem_pushAll hf with hf | hf
    · exact h.frames f hf
    · obtain ⟨q, -, rfl⟩ := List.mem_map.1 hf
      exact q.isNodeInfoRequest_frame n.id

theorem Calm.tick {n : Node} (h : n.Calm) : n.tick.value.Calm := by
  have hp := h.prepared
  rw [value_tick, proceed]
  split
  · exact hp
  · split
    · next hw =>
      refine ⟨hp.known, fun f hf => hp.frames f ?_⟩
      rw [hw, List.cons_append]
      exact List.mem_cons_of_mem _ hf
    · rw [value_handle_queueDrained]
      split
      · exact ⟨by simp [Node.state], hp.frames⟩
      · exact ⟨by simp [Node.state], hp.frames⟩
      · exact hp

theorem Calm.refreshed {n : Node} (h : n.Calm) : n.refreshed.Calm where
  known := h.known
  frames := by
    intro f hf
    rcases Queues.mem_pushAll hf with hf | hf
    · refine h.frames f ?_
      simp only [Queues.flush, List.append_nil, List.mem_append] at hf ⊢
      exact hf.symm
    · rw [Profile.refresh_eq, List.mem_singleton] at hf
      subst hf
      exact n.profile.query.isNodeInfoRequest_frame n.id

/-- To a node whose classes are known an update means no more than that the device is awake. -/
theorem value_update_of_known {n : Node} (h : n.state ≠ .nodeInfo) (u : ApplicationUpdate) :
    (n.update u).value = n.refreshed := by
  have informed : n.informed u = n := if_neg h
  rw [value_update, informed, value_handle_infoFailed, value_handle_infoReceived]
  split
  · split
    · next e => exact absurd e h
    · rfl
  · split
    · next e => exact absurd e h
    · rfl

theorem value_receive_update_of_known {n : Node} (h : n.state ≠ .nodeInfo) (u : ApplicationUpdate) :
    (n.receive (.applicationUpdate u)).value =
      { n with
        queues := { n.queues with
          write := n.queues.wakeup ++ n.queues.write ++ n.profile.refresh n.id
          wakeup := [] }
        pending := none } := by
  rw [value_receive_update, value_update_of_known h, refreshed, Queues.pushAll_eq]
  simp [Queues.flush, Queues.lane]

theorem Calm.receive {n : Node} (h : n.Calm) (f : Frame) : (n.receive f).value.Calm := by
  cases f with
  | applicationCommand command => rw [value_receive_command]; exact ⟨h.known, h.frames⟩
  | applicationUpdate u =>
    rw [value_receive_update, value_update_of_known h.known]
    exact ⟨h.refreshed.known, h.refreshed.frames⟩
  | sendData | requestNodeInfo | other => exact h

end ZWave.Node
