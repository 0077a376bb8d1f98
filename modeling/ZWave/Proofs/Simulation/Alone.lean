import ZWave.Proofs.Simulation.Start

/-!
# A link by itself

What becomes of a node and its device when the node never passes its turn (`Link.advance`). A device
that listens has told its classes, or failed twice, after two cycles. The queries that follow are
each answered or lost; one that is lost blocks the node for good, since nothing else ever reaches
it. Either way nothing changes any more after ten cycles (`Link.advance_ofModel_eq`).
-/

namespace ZWave

namespace Link

/-- The link after cycles in which the node has its turn. -/
def advance : Nat → Link → Link
  | 0, l => l
  | n + 1, l => advance n (l.cycle false)

theorem advance_add (m n : Nat) (l : Link) : l.advance (m + n) = (l.advance m).advance n := by
  induction m generalizing l with
  | zero => rw [Nat.zero_add]; rfl
  | succ m ih =>
    rw [Nat.add_right_comm]
    exact ih (l.cycle false)

theorem advance_succ (n : Nat) (l : Link) : l.advance (n + 1) = (l.advance n).cycle false :=
  advance_add n 1 l

/-- Nothing changes any more. -/
def Rests (l : Link) : Prop := l.cycle false = l

theorem Rests.advance {l : Link} (h : l.Rests) (n : Nat) : l.advance n = l := by
  induction n with
  | zero => rfl
  | succ n ih => rw [advance_succ, ih, h]

theorem calm_advance {l : Link} (h : l.node.Calm) (n : Nat) : (l.advance n).node.Calm := by
  induction n with
  | zero => exact h
  | succ n ih =>
    rw [advance_succ]
    exact node_cycle (fun _ h => h.tick) (fun _ f h => h.receive f) ih false

end Link

/-! ## Frames that are lost -/

namespace Node

/-- A node that has sent a frame does nothing before that is answered. -/
theorem tick_tick_of_sends {n : Node} {f : Frame} (h : n.sends? = some f) :
    n.tick.value.sends? = none ∧ n.tick.value.tick.value = n.tick.value := by
  have idle : n.pending = none := by
    unfold sends? at h
    split at h
    · cases h
    · next hp => simpa using hp
  have waits : n.tick.value.pending.isSome := by
    rw [pending_tick, idle, h]
    rfl
  obtain ⟨write, hw⟩ : ∃ write, n.prepared.queues.write = f :: write := by
    unfold sends? at h
    rw [idle] at h
    exact List.head?_eq_some_iff.1 h
  obtain ⟨version, state⟩ := n.state_prepared
  have same : n.tick.value.prepared = n.tick.value := by
    rw [(tick_of_write idle hw).2]
    exact prepared_of_state version state
  exact ⟨sends?_of_pending waits, (tick_of_pending waits).trans same⟩

end Node

namespace Link

variable {n : Node} {s : SimulatedDevice}

/-- Where a frame is lost that a node sends to a device that listens, nothing happens any more. -/
theorem rests_of_lost {f : Frame} (sends : n.sends? = some f) (lost : s.handle f = (s, none))
    (listening : s.model.listening = true) : ((⟨n, s⟩ : Link).cycle false).Rests := by
  have quiet : s.advance = (s, none) := SimulatedDevice.advance_of_listening listening
  have sent : (⟨n, s⟩ : Link).cycle false = ⟨n.tick.value, s⟩ := by
    have sends : (⟨n, s⟩ : Link).node.sends? = some f := sends
    unfold Link.cycle
    rw [turn_of_sends sends]
    simp only [lost, quiet]
    rfl
  obtain ⟨silent, same⟩ := Node.tick_tick_of_sends sends
  unfold Rests
  rw [sent, cycle_of_quiet silent, same, quiet]
  rfl

end Link

/-! ## Devices that listen -/

/-- However its queries fare, a node whose classes are known comes to rest in time. -/
theorem Settling.rests {d : DeviceModel} {left : Nat} {n : Node} {s : SimulatedDevice}
    (h : Settling d left n) (listening : s.model.listening = true)
    (cases : ∀ q ∈ d.versionQueries ++ d.stateQueries, s.handle (q.frame d.id) =
        (s, some (.applicationCommand { nodeId := s.id, payload := d.reply q })) ∨
      s.handle (q.frame d.id) = (s, none)) :
    ((⟨n, s⟩ : Link).advance left).Rests := by
  induction left generalizing n with
  | zero =>
    -- a node that is ready asks nothing, so every device answers all it asks
    have answers : s.Answers d n := by
      cases h
      intro q _ sends
      cases sends
    obtain ⟨n', hn, next⟩ := h.cycle answers listening
    cases h
    cases next
    exact hn
  | succ left ih =>
    change (((⟨n, s⟩ : Link).cycle false).advance left).Rests
    by_cases lost : ∃ f, n.sends? = some f ∧ s.handle f = (s, none)
    · obtain ⟨f, sends, lost⟩ := lost
      have rests := Link.rests_of_lost sends lost listening
      rw [rests.advance]
      exact rests
    · have answers : s.Answers d n := by
        intro q hq sends
        exact (cases q hq).resolve_right fun hl => lost ⟨_, sends, hl⟩
      obtain ⟨n', hn, next⟩ := h.cycle answers listening
      rw [hn]
      exact ih next

namespace Link

variable {d : DeviceModel}

/-- After two cycles at most a device that listens has told its classes, or failed to twice. -/
theorem told_ofModel (listens : d.listening = true) :
    ∃ t ≤ 2, ∃ told s, (ofModel d).advance t = ⟨told.informed, s⟩ ∧
      (told = d ∨ told = d.silent) ∧ s.model = d ∧ s.level = d.level := by
  have start := ofModel_of_listens listens
  have first := cycle_asking (s := .ofModel d) rfl listens 0
  have failures : (SimulatedDevice.ofModel d).failuresLeft = d.failNodeInfo := rfl
  rw [failures] at first
  rcases Nat.eq_zero_or_pos d.failNodeInfo with never | once
  · rw [if_neg (by omega)] at first
    refine ⟨1, by decide, d, .ofModel d, ?_, .inl rfl, rfl, rfl⟩
    rw [start]
    exact first
  · rw [if_pos once, if_pos (by decide)] at first
    have second := cycle_asking
      (s := { SimulatedDevice.ofModel d with failuresLeft := d.failNodeInfo - 1 }) rfl listens 1
    have twice : (ofModel d).advance 2 = _ := (congrArg (cycle · false) (start ▸ first)).trans second
    by_cases again : 0 < d.failNodeInfo - 1
    · rw [if_pos again] at twice
      exact ⟨2, Nat.le_refl 2, d.silent, _, twice, .inr rfl, rfl, rfl⟩
    · rw [if_neg again] at twice
      exact ⟨2, Nat.le_refl 2, d, _, twice, .inl rfl, rfl, rfl⟩

theorem calm_ofModel (listens : d.listening = true) {t : Nat} (ht : 2 ≤ t) :
    ((ofModel d).advance t).node.Calm := by
  obtain ⟨t₀, ht₀, told, s, link, -⟩ := told_ofModel listens
  obtain ⟨left, -, settling⟩ := Settling.initial told
  have calm : told.informed.Calm := by
    refine ⟨?_, fun f hf => nomatch hf⟩
    change (if told.lists .version then NodeState.versionPending else .statePending) ≠ .nodeInfo
    split <;> decide
  obtain ⟨more, rfl⟩ := Nat.exists_eq_add_of_le (Nat.le_trans ht₀ ht)
  rw [advance_add, link]
  exact calm_advance calm more

theorem advance_ofModel_eq (listens : d.listening = true) {t : Nat} (ht : 10 ≤ t) :
    (ofModel d).advance t = (ofModel d).advance 10 := by
  obtain ⟨t₀, ht₀, told, s, link, which, model, level⟩ := told_ofModel listens
  obtain ⟨left, hleft, settling⟩ := Settling.initial told
  have rests : ((ofModel d).advance (t₀ + left)).Rests := by
    rw [advance_add, link]
    refine settling.rests (by rw [model, listens]) fun q hq => ?_
    rcases which with rfl | rfl
    · have answered := SimulatedDevice.handle_query_cases (by rw [level, model]) q told.id
      rwa [model] at answered
    · cases hq
  have last : ∀ t, 10 ≤ t → (ofModel d).advance t = (ofModel d).advance (t₀ + left) := by
    intro t ht
    obtain ⟨more, rfl⟩ := Nat.exists_eq_add_of_le (show t₀ + left ≤ t by omega)
    rw [advance_add, rests.advance]
  rw [last t ht, last 10 (Nat.le_refl 10)]

end Link

/-! ## Devices that sleep -/

theorem Link.nextIsNodeInfo_of_sleeps {d : DeviceModel} (sleeps : d.listening = false) (t : Nat) :
    ((ofModel d).advance t).node.nextIsNodeInfo = false := by
  have sleeping : ∃ left, Sleeping d left ((ofModel d).advance t) := by
    induction t with
    | zero =>
      rw [advance, ofModel_of_sleeps sleeps]
      exact ⟨_, .asleep (s := .ofModel d) rfl rfl⟩
    | succ t ih =>
      obtain ⟨left, sleeping⟩ := ih
      obtain ⟨left', -, next⟩ := sleeping.cycle sleeps
      rw [advance_succ]
      exact ⟨left', next⟩
  obtain ⟨left, sleeping⟩ := sleeping
  exact sleeping.nextIsNodeInfo

end ZWave
