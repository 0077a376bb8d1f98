import ZWave.Proofs.Node.History

/-!
# One transaction at a time

A node sends a frame only in a tick that finds no transaction pending, and what it sends is pending
from then on (`sent_operate`). A command or an update ends the transaction, and nothing else does
(`pending_operate`). So the pending transaction is the last frame that was sent, if neither has come
in since (`History.pending_iff`), and one of the two comes in between any two sends.
-/

namespace ZWave.Node

/-- Nothing, or in a tick of an idle node the first frame of the write queue. -/
theorem sent_operate (n : Node) (op : Operation) :
    sent (n.operate op).events = [] ∨ ∃ f, op = .tick ∧ sent (n.operate op).events = [f] ∧
      n.pending = none ∧ (n.operate op).value.pending = some f ∧
        (n.queues.write.head? = some f ∨ n.queues.write = [] ∧ n.startup.head? = some f) := by
  cases op with
  | call c => exact .inl (sent_eq_nil (emits_call n c))
  | tick =>
    change sent n.tick.events = [] ∨ _
    rw [sent_tick]
    cases hs : n.sends? with
    | none => exact .inl rfl
    | some f =>
      have idle : n.pending = none := by
        cases hp : n.pending with
        | none => rfl
        | some g =>
          rw [sends?_of_pending (by rw [hp]; rfl)] at hs
          cases hs
      refine .inr ⟨f, rfl, ?_, idle, ?_, ?_⟩
      · change sent n.tick.events = [f]
        rw [sent_tick, hs]
        rfl
      · change n.tick.value.pending = some f
        rw [pending_tick, idle, hs]
        rfl
      · unfold sends? at hs
        rw [idle, queues_prepared_eq, Operation.filled_eq] at hs
        change (n.queues.write ++ Operation.tick.put n .write).head? = some f at hs
        cases hw : n.queues.write with
        | cons g rest =>
          rw [hw] at hs
          exact .inl hs
        | nil =>
          refine .inr ⟨rfl, ?_⟩
          rw [hw, List.nil_append, Operation.put] at hs
          split at hs
          · exact hs
          · cases hs

theorem sent_of_head {n : Node} {f : Frame} (idle : n.pending = none)
    (head : n.queues.write.head? = some f) : sent (n.operate .tick).events = [f] := by
  obtain ⟨rest, hw⟩ := List.head?_eq_some_iff.1 head
  have front : n.prepared.queues.write = f :: (rest ++ Operation.tick.put n .write) := by
    rw [queues_prepared_eq, Operation.filled_eq]
    change n.queues.write ++ _ = _
    rw [hw, List.cons_append]
  change sent n.tick.events = [f]
  rw [sent_tick, (tick_of_write idle front).1]
  rfl

theorem pending_operate (n : Node) (op : Operation) :
    (n.operate op).value.pending =
      if op.isReport then none else n.pending.or (sent (n.operate op).events).head? := by
  cases op with
  | tick =>
    change n.tick.value.pending = n.pending.or (sent n.tick.events).head?
    rw [pending_tick, sent_tick]
    cases n.sends? <;> rfl
  | call c =>
    change (n.call c).value.pending = if (Operation.call c).isReport then none
      else n.pending.or (sent (n.call c).events).head?
    rw [sent_eq_nil (emits_call n c), List.head?_nil, Option.or_none]
    cases c with
    | receive f =>
      change (n.receive f).value.pending = if f.isReport then none else n.pending
      cases hf : f.isReport with
      | true => exact ending_of_isReport hf n
      | false => rw [value_receive_of_not_isReport hf]; rfl
    | queue | flush | setListening | register => rfl

theorem sent_of_pending {n : Node} (h : n.pending.isSome) (op : Operation) :
    sent (n.operate op).events = [] := by
  rcases sent_operate n op with nothing | ⟨f, -, -, idle, -⟩
  · exact nothing
  · rw [idle] at h
    cases h

theorem sent_of_isReport {op : Operation} (h : op.isReport = true) (n : Node) :
    sent (n.operate op).events = [] := by
  cases op with
  | tick => cases h
  | call c => exact sent_eq_nil (emits_call n c)

namespace History

/-- `f` is the last frame that was sent, and no command or update came in since. -/
def Unanswered (h : History) (f : Frame) : Prop :=
  ∃ before s after, h.steps = before ++ s :: after ∧ s.sent = [f] ∧
    ∀ t ∈ after, t.sent = [] ∧ t.op.isReport = false

theorem unanswered_step {h : History} {op : Operation} {f : Frame} :
    (h.step op).Unanswered f ↔
      Node.sent (h.node.operate op).events = [f] ∨
        h.Unanswered f ∧ Node.sent (h.node.operate op).events = [] ∧ op.isReport = false := by
  constructor
  · rintro ⟨before, s, after, split, one, quiet⟩
    rcases steps_step_split split with ⟨-, rfl, -⟩ | ⟨rest, rfl, same⟩
    · exact .inl one
    · refine .inr ⟨⟨before, s, rest, same, one, fun u hu => ?_⟩, ?_⟩
      · exact quiet u (List.mem_append_left _ hu)
      · exact quiet ⟨h.node, op⟩ (by simp)
  · rintro (one | ⟨⟨before, s, after, split, one, quiet⟩, nothing, still⟩)
    · exact ⟨h.steps, ⟨h.node, op⟩, [], rfl, one, fun t ht => nomatch ht⟩
    · refine ⟨before, s, after ++ [⟨h.node, op⟩], ?_, one, fun t ht => ?_⟩
      · rw [steps_step, split]
        simp
      · rcases List.mem_append.1 ht with ht | ht
        · exact quiet t ht
        · cases List.mem_singleton.1 ht
          exact ⟨nothing, still⟩

theorem pending_iff (h : History) (f : Frame) : h.node.pending = some f ↔ h.Unanswered f := by
  induction h with
  | start s =>
    have idle : (start s).node.pending = none := by
      change s.start.value.pending = none
      rw [Setup.start_eq]
    rw [idle]
    constructor
    · intro hf
      cases hf
    · rintro ⟨before, t, after, split, -⟩
      exact absurd split (by simp)
  | step h op ih =>
    rw [node_step, pending_operate, unanswered_step]
    cases report : op.isReport with
    | true => simp [sent_of_isReport report]
    | false =>
      rw [if_neg Bool.false_ne_true, ← ih]
      cases hp : h.node.pending with
      | some g =>
        have nothing := sent_of_pending (by rw [hp]; rfl) op
        simp [nothing]
      | none =>
        rcases sent_operate h.node op with nothing | ⟨g, -, one, -⟩
        · simp [nothing]
        · simp [one]

/-- A history can be cut at each of its steps. -/
theorem exists_before {h : History} {l r : List Step} {s : Step} (split : h.steps = l ++ s :: r) :
    ∃ h' : History, h'.steps = l ∧ h'.node = s.node := by
  induction h generalizing r with
  | start => exact absurd split (by simp)
  | step h op ih =>
    rcases steps_step_split split with ⟨same, rfl, -⟩ | ⟨rest, -, same⟩
    · exact ⟨h, same, rfl⟩
    · exact ih same

theorem pending_of_sent {h : History} {l r : List Step} {s : Step} (split : h.steps = l ++ s :: r)
    (hs : s.sent ≠ []) (quiet : ∀ t ∈ r, t.op.isReport = false) : h.node.pending.isSome := by
  induction h generalizing r with
  | start => exact absurd split (by simp)
  | step h op ih =>
    rcases steps_step_split split with ⟨-, rfl, -⟩ | ⟨rest, rfl, same⟩
    · rcases sent_operate h.node op with nothing | ⟨f, -, -, -, now, -⟩
      · exact absurd nothing hs
      · rw [node_step, now]
        rfl
    · have before := ih same fun u hu => quiet u (List.mem_append_left _ hu)
      have still : op.isReport = false := quiet ⟨h.node, op⟩ (by simp)
      obtain ⟨f, hf⟩ := Option.isSome_iff_exists.1 before
      rw [node_step, pending_operate, still, hf]
      rfl

/-- Between two frames that are sent the node is handed a command or an update. -/
theorem exists_report_between {h : History} {l m r : List Step} {s t : Step}
    (split : h.steps = l ++ s :: m ++ t :: r) (hs : s.sent ≠ []) (ht : t.sent ≠ []) :
    ∃ u ∈ m, u.op.isReport = true := by
  obtain ⟨h', steps', node'⟩ := exists_before split
  by_cases found : ∃ u ∈ m, u.op.isReport = true
  · exact found
  · have quiet : ∀ u ∈ m, u.op.isReport = false := by
      intro u hu
      exact Bool.eq_false_iff.2 fun report => found ⟨u, hu, report⟩
    have pending := pending_of_sent steps' hs quiet
    rw [node'] at pending
    exact absurd (sent_of_pending pending t.op) ht

/-- The sends are as many as the reports at most, and one more while a transaction is pending. -/
theorem length_sent_le (h : History) :
    h.sent.length ≤
      h.operations.countP Operation.isReport + if h.node.pending.isSome then 1 else 0 := by
  induction h with
  | start s => simp [sent_start]
  | step h op ih =>
    rw [sent_step, operations_step, List.length_append, List.countP_append, List.countP_singleton,
      node_step, pending_operate]
    cases report : op.isReport with
    | true =>
      rw [sent_of_isReport report]
      simp only [List.length_nil, if_true, Option.isSome_none, Bool.false_eq_true, if_false]
      split at ih <;> omega
    | false =>
      rcases sent_operate h.node op with nothing | ⟨f, -, one, idle, -⟩
      · rw [nothing, List.head?_nil, Option.or_none]
        simpa using ih
      · rw [idle] at ih
        rw [one, idle]
        simpa using ih

/-- **A single outstanding transaction.** A frame is sent only by a tick that finds no transaction
pending, and is pending until a command or an update comes in, so that one comes in between any two
sends. -/
theorem single_transaction (h : History) :
    (∀ op, Node.sent (h.node.operate op).events = [] ∨
      ∃ f, op = .tick ∧ Node.sent (h.node.operate op).events = [f] ∧ h.node.pending = none ∧
        (h.node.operate op).value.pending = some f ∧
        (h.node.queues.write.head? = some f ∨
          h.node.queues.write = [] ∧ h.node.startup.head? = some f)) ∧
    (∀ f, h.node.pending = none → h.node.queues.write.head? = some f →
      Node.sent (h.node.operate .tick).events = [f]) ∧
    (∀ f, h.node.pending = some f ↔ h.Unanswered f) ∧
    (∀ l s m t r, h.steps = l ++ s :: m ++ t :: r → s.sent ≠ [] → t.sent ≠ [] →
      ∃ u ∈ m, u.op.isReport = true) ∧
    h.sent.length ≤ h.operations.countP Operation.isReport + 1 := by
  have bound := h.length_sent_le
  refine ⟨sent_operate h.node, fun _ => sent_of_head, h.pending_iff,
    fun _ _ _ _ _ => exists_report_between, ?_⟩
  split at bound <;> omega

theorem single_transaction_retry :
    ∃ (h : History) (s t : Step) (m : List Step), h.steps = [] ++ s :: m ++ t :: [] ∧
      s.sent = [.requestNodeInfo 2] ∧ t.sent = [.requestNodeInfo 2] ∧
      (∃ u ∈ m, u.op.isReport = true) ∧ h.Unanswered (.requestNodeInfo 2) ∧
      h.sent.length = h.operations.countP Operation.isReport + 1 := by
  let made : History := start { id := 2, info := ⟨{}, true⟩, factory := .standard }
  let asked : History := made.step .tick
  let failed : History := asked.step (.call (.receive (.applicationUpdate .requestFailed)))
  let h : History := failed.step .tick
  have first : (⟨made.node, .tick⟩ : Step).sent = [.requestNodeInfo 2] := by decide +kernel
  have second : (⟨failed.node, .tick⟩ : Step).sent = [.requestNodeInfo 2] := by decide +kernel
  have pending : h.node.pending = some (.requestNodeInfo 2) := by decide +kernel
  obtain ⟨-, -, unanswered, between, -⟩ := h.single_transaction
  refine ⟨h, ⟨made.node, .tick⟩, ⟨failed.node, .tick⟩, _, rfl, first, second, ?_,
    (unanswered _).1 pending, ?_⟩
  · exact between [] ⟨made.node, .tick⟩ _ ⟨failed.node, .tick⟩ [] rfl (by rw [first]; simp)
      (by rw [second]; simp)
  · decide +kernel

end History

end ZWave.Node
