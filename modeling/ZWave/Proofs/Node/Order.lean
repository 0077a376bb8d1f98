import ZWave.Proofs.Node.Conservation

/-!
# The order of deferred frames

To say of two frames that one was queued first and the other sent first, the frames of a node are
named by their place among all that were queued (`History.places`), and these places go through the
queues the way the frames do (`History.places_map`). A frame that may be held back comes behind all
that were queued before it, up to one case: the frames that are held back are released while it is
one of them and the earlier frame is in the write queue already (`History.overtaken`).
-/

namespace ZWave.Node

/-! ## The lanes of a node -/

/-- What was sent, what is to be sent, and what is held back. -/
structure Lanes (α : Type) where
  sent : List α := []
  write : List α := []
  wakeup : List α := []

namespace Lanes

variable {α β : Type}

def front (l : Lanes α) : List α := l.sent ++ l.write

def all (l : Lanes α) : List α := l.front ++ l.wakeup

def map (f : α → β) (l : Lanes α) : Lanes β := ⟨l.sent.map f, l.write.map f, l.wakeup.map f⟩

theorem map_congr {f g : α → β} {l : Lanes α} (h : ∀ a ∈ l.all, f a = g a) :
    l.map f = l.map g := by
  have sent : l.sent.map f = l.sent.map g :=
    List.map_congr_left fun a ha => h a (by simp [all, front, ha])
  have write : l.write.map f = l.write.map g :=
    List.map_congr_left fun a ha => h a (by simp [all, front, ha])
  have wakeup : l.wakeup.map f = l.wakeup.map g :=
    List.map_congr_left fun a ha => h a (by simp [all, ha])
  unfold map
  rw [sent, write, wakeup]

/-- Release what is held back, if `release` says so. -/
def released (l : Lanes α) (release : Bool) : Lanes α :=
  if release then { l with write := l.wakeup ++ l.write, wakeup := [] } else l

def push (l : Lanes α) (lane : Lane) (fresh : List α) : Lanes α :=
  match lane with
  | .write => { l with write := l.write ++ fresh }
  | .wakeup => { l with wakeup := l.wakeup ++ fresh }

def send (l : Lanes α) (count : Nat) : Lanes α :=
  { l with sent := l.sent ++ l.write.take count, write := l.write.drop count }

/-- What an operation on a node does to the lanes, if it queues `fresh`. -/
def operate (l : Lanes α) (n : Node) (op : Operation) (fresh : List α) : Lanes α :=
  ((l.released (op.releases n)).push (n.queues.lane (op.defers n)) fresh).send
    (Node.sent (n.operate op).events).length

@[simp] theorem front_send (l : Lanes α) (count : Nat) : (l.send count).front = l.front := by
  simp [send, front]

@[simp] theorem all_send (l : Lanes α) (count : Nat) : (l.send count).all = l.all := by
  rw [all, front_send]
  rfl

theorem map_operate (f : α → β) (l : Lanes α) (n : Node) (op : Operation) (fresh : List α) :
    (l.operate n op fresh).map f = (l.map f).operate n op (fresh.map f) := by
  unfold operate released push send map
  cases op.releases n <;> cases n.queues.lane (op.defers n) <;> simp

theorem perm_released (l : Lanes α) (release : Bool) : (l.released release).all.Perm l.all := by
  unfold released all front
  cases release with
  | false => exact List.Perm.refl _
  | true =>
    simp only [if_true, List.append_nil, List.append_assoc]
    exact List.perm_append_comm.append_left l.sent

theorem perm_push (l : Lanes α) (lane : Lane) (fresh : List α) :
    (l.push lane fresh).all.Perm (l.all ++ fresh) := by
  unfold push all front
  cases lane with
  | write =>
    simp only [List.append_assoc]
    exact (List.perm_append_comm.append_left l.write).append_left l.sent
  | wakeup => simp only [List.append_assoc, List.Perm.refl]

theorem perm_operate (l : Lanes α) (n : Node) (op : Operation) (fresh : List α) :
    (l.operate n op fresh).all.Perm (l.all ++ fresh) := by
  unfold operate
  rw [all_send]
  exact (perm_push ..).trans ((perm_released ..).append_right fresh)

end Lanes

theorem map_getElem?_range' {α : Type} (l m : List α) :
    (List.range' l.length m.length).map ((l ++ m)[·]?) = m.map some := by
  apply List.ext_getElem
  · simp
  · intro k hk hk'
    simp only [List.length_map, List.length_range'] at hk
    simp [hk]

namespace History

/-- Where the frames are. -/
def lanes (h : History) : Lanes Frame := ⟨h.sent, h.node.queues.write, h.node.queues.wakeup⟩

theorem lanes_step (h : History) (op : Operation) :
    (h.step op).lanes = h.lanes.operate h.node op (op.frames h.node) := by
  have filled : (h.lanes.released (op.releases h.node)).push
      (h.node.queues.lane (op.defers h.node)) (op.frames h.node) =
        ⟨h.sent, (op.filled h.node).write, (op.filled h.node).wakeup⟩ := by
    rw [Operation.filled_eq]
    unfold lanes Lanes.released Lanes.push Operation.released Operation.put
    cases op.releases h.node <;> cases h.node.queues.lane (op.defers h.node) <;>
      simp [Queues.flush]
  rw [Lanes.operate, filled, Operation.filled_eq, ← Node.sent_append_write]
  unfold lanes
  rw [sent_step, node_step, wakeup_operate]
  simp [Lanes.send]

/-- Where the frames are, each named by its place among those that were queued. -/
def places : History → Lanes Nat
  | start s => { write := List.range s.entries.length }
  | step h op => h.places.operate h.node op
      (List.range' h.entries.length (op.frames h.node).length)

theorem length_entries_step (h : History) (op : Operation) :
    (h.step op).entries.length = h.entries.length + (op.frames h.node).length := by
  simp [entries]

theorem places_perm (h : History) : h.places.all.Perm (List.range h.entries.length) := by
  induction h with
  | start s => simp [places, Lanes.all, Lanes.front, entries]
  | step h op ih =>
    refine (Lanes.perm_operate ..).trans ?_
    rw [length_entries_step, List.range_add, List.range'_eq_map_range]
    exact ih.append_right _

theorem lt_of_mem_places (h : History) {k : Nat} (hk : k ∈ h.places.all) :
    k < h.entries.length :=
  List.mem_range.1 (h.places_perm.mem_iff.1 hk)

/-- What is at a place is the frame that was queued there. -/
theorem places_map (h : History) : h.places.map (h.queued[·]?) = h.lanes.map some := by
  induction h with
  | start s =>
    have range := map_getElem?_range' [] (start s).queued
    rw [List.length_nil, ← List.range_eq_range', List.nil_append] at range
    have length : s.entries.length = (start s).queued.length := List.length_map .. |>.symm
    unfold lanes places Lanes.map
    rw [sent_start, queues_start, length, range]
    rfl
  | step h op ih =>
    have before : h.places.map ((h.step op).queued[·]?) = h.places.map (h.queued[·]?) := by
      refine Lanes.map_congr fun k hk => ?_
      have lt : k < h.queued.length := by
        rw [queued, List.length_map]
        exact h.lt_of_mem_places hk
      rw [queued_step, List.getElem?_append_left lt]
    have fresh : (List.range' h.entries.length (op.frames h.node).length).map
        ((h.step op).queued[·]?) = (op.frames h.node).map some := by
      have length : h.entries.length = h.queued.length := List.length_map .. |>.symm
      rw [queued_step, length]
      exact map_getElem?_range' ..
    rw [lanes_step, Lanes.map_operate, ← ih, ← before, ← fresh]
    exact Lanes.map_operate ..

end History

/-! ## One before another -/

section Pairs

variable {α : Type} {a b : α} {l r : List α}

theorem pair_sublist_append :
    [a, b].Sublist (l ++ r) ↔ [a, b].Sublist l ∨ a ∈ l ∧ b ∈ r ∨ [a, b].Sublist r := by
  rw [List.sublist_append_iff]
  constructor
  · rintro ⟨front, back, split, hl, hr⟩
    cases front with
    | nil =>
      rw [List.nil_append] at split
      exact .inr (.inr (split ▸ hr))
    | cons c front =>
      cases front with
      | nil =>
        cases split
        exact .inr (.inl ⟨List.singleton_sublist.1 hl, List.singleton_sublist.1 hr⟩)
      | cons d front =>
        simp only [List.cons_append, List.cons.injEq, List.nil_eq, List.append_eq_nil_iff] at split
        obtain ⟨rfl, rfl, rfl, -⟩ := split
        exact .inl hl
  · rintro (h | ⟨ha, hb⟩ | h)
    · exact ⟨[a, b], [], rfl, h, List.nil_sublist _⟩
    · exact ⟨[a], [b], rfl, List.singleton_sublist.2 ha, List.singleton_sublist.2 hb⟩
    · exact ⟨[], [a, b], rfl, List.nil_sublist _, h⟩

theorem not_pair_sublist_swap (distinct : l.Nodup) (h : [a, b].Sublist l) :
    ¬ [b, a].Sublist l := by
  intro h'
  induction l with
  | nil => cases h
  | cons c l ih =>
    rw [List.nodup_cons] at distinct
    cases h with
    | cons _ h =>
      cases h' with
      | cons _ h' => exact ih distinct.2 h h'
      | cons_cons _ h' => exact distinct.1 (h.subset (by simp))
    | cons_cons _ h =>
      cases h' with
      | cons _ h' => exact distinct.1 (h'.subset (by simp))
      | cons_cons _ h' => exact distinct.1 (h.subset (by simp))

theorem pair_sublist_left (distinct : (l ++ r).Nodup) (hb : b ∈ l)
    (h : [a, b].Sublist (l ++ r)) : [a, b].Sublist l := by
  have apart : b ∉ r := fun hr => (List.nodup_append.1 distinct).2.2 b hb b hr rfl
  rcases pair_sublist_append.1 h with h | ⟨-, hr⟩ | h
  · exact h
  · exact absurd hr apart
  · exact absurd (h.subset (by simp)) apart

theorem pair_sublist_of_lt {l : List Nat} {a b : Nat} (ascending : l.Pairwise (· < ·))
    (ha : a ∈ l) (hb : b ∈ l) (lt : a < b) : [a, b].Sublist l := by
  obtain ⟨front, back, rfl⟩ := List.append_of_mem ha
  rcases List.mem_append.1 hb with low | high
  · have below := (List.pairwise_append.1 ascending).2.2 b low a (by simp)
    omega
  · rcases List.mem_cons.1 high with rfl | later
    · omega
    · have pair : [a, b].Sublist (a :: back) := (List.singleton_sublist.2 later).cons_cons a
      exact pair.trans (List.sublist_append_right ..)

end Pairs

namespace Lanes

variable {α : Type} {a b : α} {l : Lanes α}

/-- What is going to be sent keeps its order. -/
theorem front_sublist_released (l : Lanes α) (release : Bool) :
    l.front.Sublist (l.released release).front := by
  unfold released
  split
  · exact (List.sublist_append_right ..).append_left l.sent
  · exact List.Sublist.refl _

theorem front_sublist_push (l : Lanes α) (lane : Lane) (fresh : List α) :
    l.front.Sublist (l.push lane fresh).front := by
  cases lane with
  | write => exact (List.sublist_append_left ..).append_left l.sent
  | wakeup => exact List.Sublist.refl _

theorem all_sublist_push (l : Lanes α) (lane : Lane) (fresh : List α) :
    l.all.Sublist (l.push lane fresh).all := by
  cases lane with
  | write => exact (l.front_sublist_push .write fresh).append_right l.wakeup
  | wakeup => exact (List.sublist_append_left ..).append_left l.front

theorem fresh_sublist_push (l : Lanes α) (lane : Lane) (fresh : List α) :
    fresh.Sublist (l.push lane fresh).all := by
  cases lane with
  | write =>
    exact ((List.sublist_append_right ..).trans (List.sublist_append_right ..)).trans
      (List.sublist_append_left ..)
  | wakeup => exact (List.sublist_append_right ..).trans (List.sublist_append_right ..)

/-- What is released goes ahead of what is in the write queue. -/
theorem pair_released (ha : a ∈ l.wakeup) (hb : b ∈ l.write) :
    [a, b].Sublist (l.released true).front := by
  have pair : [a, b].Sublist (l.wakeup ++ l.write) :=
    pair_sublist_append.2 (.inr (.inl ⟨ha, hb⟩))
  exact pair.trans (List.sublist_append_right ..)

/-- Two frames of which the second was not released ahead of the first keep their order. -/
theorem ordered_released {release : Bool} (h : [a, b].Sublist l.all)
    (safe : release = true → ¬ (a ∈ l.write ∧ b ∈ l.wakeup)) :
    [a, b].Sublist (l.released release).all := by
  cases release with
  | false => exact h
  | true =>
    have moved : (l.released true).all = l.sent ++ (l.wakeup ++ l.write) := List.append_nil _
    rw [all, front, List.append_assoc, pair_sublist_append] at h
    rw [moved, pair_sublist_append]
    rcases h with sent | ⟨ha, hb⟩ | waiting
    · exact .inl sent
    · exact .inr (.inl ⟨ha, List.mem_append.2 (List.mem_append.1 hb).symm⟩)
    · rcases pair_sublist_append.1 waiting with write | both | wakeup
      · exact .inr (.inr (write.trans (List.sublist_append_right ..)))
      · exact absurd both (safe rfl)
      · exact .inr (.inr (wakeup.trans (List.sublist_append_left ..)))

theorem fresh_push {lane : Lane} {fresh : List α} (ha : a ∈ l.all) (hb : b ∈ fresh)
    (last : lane = .write → l.wakeup = []) : [a, b].Sublist (l.push lane fresh).all := by
  have pair : [a, b].Sublist (l.all ++ fresh) := pair_sublist_append.2 (.inr (.inl ⟨ha, hb⟩))
  cases lane with
  | write =>
    have behind : (l.push .write fresh).all = l.all ++ fresh := by
      simp [push, all, front, last rfl]
    rw [behind]
    exact pair
  | wakeup =>
    have behind : (l.push .wakeup fresh).all = l.all ++ fresh := by
      simp [push, all, front]
    rw [behind]
    exact pair

end Lanes

namespace History

/-- Whether the frame at `j` was released ahead of the one at `i`. -/
def overtaken : History → Nat → Nat → Bool
  | start _, _, _ => false
  | step h op, i, j =>
    h.overtaken i j || op.releases h.node && decide (i ∈ h.places.write ∧ j ∈ h.places.wakeup)

/-- Only a frame that was queued before an operation is released by it. -/
theorem lt_of_overtaken {h : History} {op : Operation} {i j : Nat}
    (overtaken : (h.step op).overtaken i j = true) : j < h.entries.length := by
  have place : ∀ h' : History, j ∈ h'.places.wakeup → j < h'.entries.length := by
    intro h' held
    exact h'.lt_of_mem_places (by simp [Lanes.all, held])
  induction h generalizing op with
  | start s =>
    simp only [History.overtaken, Bool.false_or, Bool.and_eq_true, decide_eq_true_iff] at overtaken
    exact place (start s) overtaken.2.2
  | step h op' ih =>
    rw [History.overtaken, Bool.or_eq_true, Bool.and_eq_true, decide_eq_true_iff] at overtaken
    rcases overtaken with before | ⟨-, -, held⟩
    · have bound := ih before
      rw [length_entries_step]
      omega
    · exact place (h.step op') held

theorem fresh_ordered (h : History) {op : Operation} (defers : op.defers h.node = true) {i j : Nat}
    (earlier : i < j) (fresh : h.entries.length ≤ j) (bound : j < (h.step op).entries.length) :
    [i, j].Sublist (h.step op).places.all := by
  rw [length_entries_step] at bound
  have hj : j ∈ List.range' h.entries.length (op.frames h.node).length :=
    List.mem_range'_1.2 ⟨fresh, bound⟩
  by_cases old : i < h.entries.length
  · have hi : i ∈ h.places.all := h.places_perm.mem_iff.2 (List.mem_range.2 old)
    rw [places, Lanes.operate, Lanes.all_send]
    refine Lanes.fresh_push ((Lanes.perm_released ..).mem_iff.2 hi) hj fun lane => ?_
    -- A frame that may be held back is not, so the node listens and nothing else is.
    have listening : h.node.queues.listening = true := by
      simpa [Queues.lane, defers] using lane
    have empty := congrArg Lanes.wakeup h.places_map
    change h.places.wakeup.map _ = h.node.queues.wakeup.map some at empty
    rw [h.wakeup_of_listening listening] at empty
    unfold Lanes.released
    split
    · rfl
    · exact List.map_eq_nil_iff.1 empty
  · have pair : [i, j].Sublist (List.range' h.entries.length (op.frames h.node).length) := by
      have hi : i ∈ List.range' h.entries.length (op.frames h.node).length :=
        List.mem_range'_1.2 ⟨Nat.le_of_not_lt old, Nat.lt_trans earlier bound⟩
      exact pair_sublist_of_lt List.pairwise_lt_range' hi hj earlier
    rw [places, Lanes.operate, Lanes.all_send]
    exact pair.trans (Lanes.fresh_sublist_push ..)

theorem order (h : History) {i j : Nat} {e : Entry} (earlier : i < j)
    (queued : h.entries[j]? = some e) (deferred : e.defer = true) :
    if h.overtaken i j then [j, i].Sublist h.places.front
    else [i, j].Sublist h.places.all := by
  induction h with
  | start s =>
    have bound := (List.getElem?_eq_some_iff.1 queued).1
    have one : (start s).entries.length ≤ 1 := by
      change s.entries.length ≤ 1
      unfold Setup.entries
      split <;> simp
    omega
  | step h op ih =>
    -- Frames that were queued before the operation move together; a new one comes behind.
    by_cases known : j < h.entries.length
    · have before : h.entries[j]? = some e := by
        rw [← queued]
        exact (List.getElem?_append_left known).symm
      have ih := ih before
      rw [overtaken, places, Lanes.operate, Lanes.front_send, Lanes.all_send]
      cases was : h.overtaken i j with
      | true =>
        rw [was, if_pos rfl] at ih
        exact ih.trans ((Lanes.front_sublist_released ..).trans (Lanes.front_sublist_push ..))
      | false =>
        rw [was, if_neg Bool.false_ne_true] at ih
        rw [Bool.false_or]
        split
        · next now =>
          rw [Bool.and_eq_true, decide_eq_true_iff] at now
          rw [now.1]
          exact (Lanes.pair_released now.2.2 now.2.1).trans (Lanes.front_sublist_push ..)
        · next safe =>
          refine (Lanes.ordered_released ih fun release both => safe ?_).trans
            (Lanes.all_sublist_push ..)
          rw [release, decide_eq_true both]
          rfl
    · have bound := (List.getElem?_eq_some_iff.1 queued).1
      have notYet : (h.step op).overtaken i j = false :=
        Bool.eq_false_iff.2 fun now => known (lt_of_overtaken now)
      have defers : op.defers h.node = true := by
        rw [entries, List.getElem?_append_right (Nat.le_of_not_lt known)] at queued
        obtain ⟨f, -, same⟩ := List.mem_map.1 (List.mem_of_getElem? queued)
        rw [← deferred, ← same]
      rw [notYet, if_neg Bool.false_ne_true]
      exact h.fresh_ordered defers earlier (Nat.le_of_not_lt known) bound

/-- **Deferred frames keep their order.** A frame that may be held back is sent after those queued
before it, but for one that was in the write queue when the frame was released. -/
theorem deferred_in_order (h : History) :
    h.places.all.Perm (List.range h.queued.length) ∧
    h.places.map (h.queued[·]?) = h.lanes.map some ∧
    ∀ i j y, i < j → h.entries[j]? = some ⟨y, true⟩ → j ∈ h.places.sent →
      ([i, j].Sublist h.places.sent ↔ h.overtaken i j = false) := by
  have length : h.queued.length = h.entries.length := List.length_map ..
  have distinct : h.places.all.Nodup := h.places_perm.nodup_iff.2 List.nodup_range
  refine ⟨length ▸ h.places_perm, h.places_map, fun i j y earlier queued sent => ?_⟩
  have order := h.order earlier queued rfl
  cases was : h.overtaken i j with
  | true =>
    rw [was, if_pos rfl] at order
    have apart : h.places.front.Nodup := (List.nodup_append.1 distinct).1
    have behind := not_pair_sublist_swap apart order
    simp only [Bool.true_eq_false, iff_false]
    exact fun ahead => behind (ahead.trans (List.sublist_append_left ..))
  | false =>
    rw [was, if_neg Bool.false_ne_true, Lanes.all, Lanes.front, List.append_assoc] at order
    rw [Lanes.all, Lanes.front, List.append_assoc] at distinct
    simp only [iff_true]
    exact pair_sublist_left distinct sent order

/-- What is held back together is sent in its order once the device is awake. -/
theorem deferred_in_order_released :
    ∃ h : History, h.entries = [⟨Request.basicSet 2 0, true⟩, ⟨Request.basicSet 2 0xFF, true⟩] ∧
      1 ∈ h.places.sent ∧ h.overtaken 0 1 = false ∧ [0, 1].Sublist h.places.sent ∧
      h.sent = [Request.basicSet 2 0, Request.basicSet 2 0xFF] := by
  let h : History :=
    [.call (.queue (Request.basicSet 2 0) true), .call (.queue (Request.basicSet 2 0xFF) true),
      .call .flush, .tick, .call (.receive (.applicationCommand ⟨2, ⟨ClassId.basic, []⟩, 0⟩)),
      .tick].foldl step (start { id := 2, info := ⟨{}, false⟩, factory := .standard })
  have sent : 1 ∈ h.places.sent := by decide +kernel
  have apart : h.overtaken 0 1 = false := by decide +kernel
  have later : h.entries[1]? = some ⟨Request.basicSet 2 0xFF, true⟩ := by decide +kernel
  obtain ⟨-, -, order⟩ := h.deferred_in_order
  exact ⟨h, by decide +kernel, sent, apart, (order 0 1 _ (by decide) later sent).2 apart,
    by decide +kernel⟩

/-- The device is switched on first and off last, and the second frame is sent first. -/
theorem deferred_out_of_order :
    ∃ h : History, h.setup = { id := 2, info := ⟨{}, false⟩, factory := .standard } ∧
      h.operations = [.call (.queue (Request.basicSet 2 0) true), .call .flush,
        .call (.queue (Request.basicSet 2 0xFF) true), .call .flush, .tick] ∧
      h.sent = [Request.basicSet 2 0xFF] ∧ h.node.queues.write = [Request.basicSet 2 0] ∧
      ¬ ∀ i j x y, i < j → h.entries[i]? = some ⟨x, true⟩ → h.entries[j]? = some ⟨y, true⟩ →
        j ∈ h.places.sent → i ∉ h.places.write ∧ i ∉ h.places.wakeup := by
  let h : History :=
    [.call (.queue (Request.basicSet 2 0) true), .call .flush,
      .call (.queue (Request.basicSet 2 0xFF) true), .call .flush, .tick].foldl step
        (start { id := 2, info := ⟨{}, false⟩, factory := .standard })
  have earlier : h.entries[0]? = some ⟨Request.basicSet 2 0, true⟩ := by decide +kernel
  have later : h.entries[1]? = some ⟨Request.basicSet 2 0xFF, true⟩ := by decide +kernel
  have sent : 1 ∈ h.places.sent := by decide +kernel
  have waits : 0 ∈ h.places.write := by decide +kernel
  refine ⟨h, rfl, rfl, by decide +kernel, by decide +kernel, fun ordered => ?_⟩
  exact (ordered 0 1 _ _ (by decide) earlier later sent).1 waits

end History

end ZWave.Node
