import ZWave.Proofs.Node.Metrics
import ZWave.Proofs.Node.Transaction

/-!
# The gauge of the write queue

The length of the write queue is recorded when a frame is sent, and at no other time. So the gauge
holds what was left then, and the frames that came to the queue since are missing from it
(`History.gauge_add_arrived`). After a tick it is current, unless a transaction kept the node from
sending and frames have come (`History.gauge_current_iff`).
-/

namespace ZWave.Node

def backlogs (events : List NodeEvent) : List Nat := events.filterMap NodeEvent.backlog?

theorem backlogs_append (l l' : List NodeEvent) : backlogs (l ++ l') = backlogs l ++ backlogs l' :=
  List.filterMap_append

theorem backlogs_eq_nil {events : List NodeEvent} (inner : ∀ e ∈ events, Inner e) :
    backlogs events = [] := by
  refine List.filterMap_eq_nil_iff.2 fun e he => ?_
  have := inner e he
  cases e with
  | sent => cases this
  | queued | received | dropped | entered | retried | started => rfl

theorem backlogs_operate (n : Node) (op : Operation) :
    backlogs (n.operate op).events =
      (sent (n.operate op).events).map fun _ => (n.operate op).value.queues.write.length := by
  cases op with
  | call c =>
    change backlogs (n.call c).events = (sent (n.call c).events).map _
    rw [backlogs_eq_nil (emits_call n c), sent_eq_nil (emits_call n c)]
    rfl
  | tick =>
    change backlogs n.tick.events = (sent n.tick.events).map fun _ => n.tick.value.queues.write.length
    rw [events_tick, backlogs_append, backlogs_eq_nil (emits_handle n .tick), ← events_tick, sent_tick,
      value_tick, sends?]
    unfold proceed
    rw [pending_prepared]
    cases n.pending with
    | some f => rfl
    | none =>
      cases n.prepared.queues.write with
      | nil => exact backlogs_eq_nil (emits_handle n.prepared .queueDrained)
      | cons f rest => rfl

namespace History

/-- What was recorded so far, under the id and the profile of the node. -/
def tally (h : History) : Tally :=
  ({} : Tally).recordAll (h.events.flatMap (·.samples h.node.id h.node.profile))

/-- The gauge of the write queue; zero if it was never recorded. -/
def gauge (h : History) : Nat :=
  h.tally.value (Metric.writeQueueDepth.series h.node.id h.node.profile [])

/-- The frames that came to the write queue since a frame was sent. -/
def arrived : History → Nat
  | start s => s.entries.length
  | step h op =>
    if Node.sent (h.node.operate op).events = [] then
      h.arrived + (if op.releases h.node then h.node.queues.wakeup.length else 0) +
        (op.put h.node .write).length
    else 0

theorem gauge_eq (h : History) : h.gauge = (backlogs h.events).getLast?.getD 0 := by
  let series := Metric.writeQueueDepth.series h.node.id h.node.profile []
  have uncounted : .increment series ∉ h.events.flatMap (·.samples h.node.id h.node.profile) := by
    intro recorded
    obtain ⟨e, -, counted⟩ := List.mem_flatMap.1 recorded
    rw [← List.count_pos_iff, NodeEvent.count_samples, if_neg (e.counter?_ne_writeQueueDepth [])]
      at counted
    exact Nat.lt_irrefl 0 counted
  have levels : (h.events.flatMap (·.samples h.node.id h.node.profile)).filterMap
      (Sample.level? series) = backlogs h.events := by
    rw [List.filterMap_flatMap, backlogs, List.filterMap_eq_flatMap_toList]
    congr 1
    funext e
    rw [NodeEvent.level?_samples, if_pos rfl]
  rw [gauge, tally, Tally.value_recordAll_gauge uncounted, levels]
  rfl

theorem gauge_step (h : History) (op : Operation) :
    (h.step op).gauge =
      if Node.sent (h.node.operate op).events = [] then h.gauge
      else (h.step op).node.queues.write.length := by
  rw [gauge_eq, gauge_eq, events_step, backlogs_append, backlogs_operate]
  rcases sent_operate h.node op with nothing | ⟨f, -, one, -⟩
  · rw [nothing, if_pos rfl]
    exact congrArg (·.getLast?.getD 0) (List.append_nil _)
  · rw [one, if_neg (List.cons_ne_nil _ _)]
    simp

/-- The gauge, and the frames that came since it was recorded, make up the write queue. -/
theorem gauge_add_arrived (h : History) :
    h.gauge + h.arrived = h.node.queues.write.length := by
  induction h with
  | start s =>
    have unrecorded : backlogs (start s).events = [] := s.filterMap_start fun _ => rfl
    rw [gauge_eq, unrecorded, queues_start]
    exact (Nat.zero_add _).trans (List.length_map _).symm
  | step h op ih =>
    rw [gauge_step, arrived]
    by_cases nothing : Node.sent (h.node.operate op).events = []
    · have moved := congrArg List.length (sent_append_write h.node op)
      rw [nothing, List.nil_append, List.length_append, Operation.released] at moved
      rw [if_pos nothing, if_pos nothing, node_step, moved]
      split
      · simp only [Queues.flush, List.length_append]
        omega
      · omega
    · rw [if_neg nothing, if_neg nothing, Nat.add_zero]

theorem gauge_tick_of_idle {h : History} (idle : h.node.pending = none) :
    (h.step .tick).gauge = (h.step .tick).node.queues.write.length := by
  have sum := (h.step .tick).gauge_add_arrived
  by_cases nothing : Node.sent (h.node.operate .tick).events = []
  · have empty : h.node.prepared.queues.write = [] := by
      cases hw : h.node.prepared.queues.write with
      | nil => rfl
      | cons f rest =>
        change Node.sent h.node.tick.events = [] at nothing
        rw [sent_tick, (tick_of_write idle hw).1] at nothing
        cases nothing
    have left : (h.step .tick).node.queues.write = [] := by
      have split := congrArg Queues.write h.node.queues_tick
      rw [empty] at split
      exact (List.append_eq_nil_iff.1 split.symm).2
    rw [left, List.length_nil] at sum ⊢
    omega
  · rw [gauge_step, if_neg nothing]

structure Gauged (h : History) : Prop where
  lag : h.gauge + h.arrived = h.node.queues.write.length
  tick : (h.step .tick).gauge = (h.step .tick).node.queues.write.length ↔
    h.node.pending = none ∨ (h.step .tick).arrived = 0
  held : h.node.pending ≠ none → ∀ op, (h.step op).gauge = h.gauge

/-- **The gauge is current when a frame is sent.** After a tick it is, unless a transaction was
pending and frames have come since. -/
theorem gauge_current_iff (h : History) : h.Gauged where
  lag := h.gauge_add_arrived
  tick := by
    have sum := (h.step .tick).gauge_add_arrived
    constructor
    · intro current
      right
      omega
    · rintro (idle | none)
      · exact gauge_tick_of_idle idle
      · omega
  held := by
    intro busy op
    rw [gauge_step, if_pos (sent_of_pending (Option.isSome_iff_ne_none.2 busy) op)]

theorem gauge_current_iff_waiting :
    ∃ h : History, h.Gauged ∧ h.node.pending = some (.requestNodeInfo 2) ∧
      h.events.countP (·.sent?.isSome) = 1 ∧ (h.step .tick).arrived = 1 ∧
      (h.step .tick).gauge = 0 ∧
      (h.step .tick).node.queues.write = [Request.basicSet 2 255] := by
  let h : History :=
    [.tick, .call (.queue (Request.basicSet 2 255) true)].foldl step
      (start { id := 2, info := ⟨{}, true⟩, factory := .standard })
  have pending : h.node.pending = some (.requestNodeInfo 2) := by decide +kernel
  have held := h.gauge_current_iff.held (by rw [pending]; exact Option.some_ne_none _) .tick
  refine ⟨h, h.gauge_current_iff, pending, by decide +kernel, by decide +kernel, ?_, by decide +kernel⟩
  rw [held, gauge_eq]
  decide +kernel

end History

end ZWave.Node
