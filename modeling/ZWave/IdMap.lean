/-!
# Maps from one-byte ids

Command classes on a node and nodes on a network are each known by one byte. `IdMap` keeps a value
per id in ascending order of the ids, which is the order reports and driver cycles follow. Its view
is `get?`: every operation has a lemma that says what it does to `get?`, and two maps with the same
view are equal (`ext_get?`).
-/

namespace ZWave

/-- Values by id, in ascending order of the ids. -/
structure IdMap (α : Type) where
  entries : List (UInt8 × α) := []
  ascending : entries.Pairwise (fun a b => a.1 < b.1) := by exact List.Pairwise.nil

namespace IdMap

variable {α : Type}

def empty : IdMap α := {}

def find (id : UInt8) : List (UInt8 × α) → Option α
  | [] => none
  | (k, a) :: rest => if k = id then some a else find id rest

def get? (m : IdMap α) (id : UInt8) : Option α := find id m.entries

def contains (m : IdMap α) (id : UInt8) : Bool := (m.get? id).isSome

/-- The ids that have a value, ascending. -/
def ids (m : IdMap α) : List UInt8 := m.entries.map (·.1)

/-- The values, in ascending order of their ids. -/
def values (m : IdMap α) : List α := m.entries.map (·.2)

def size (m : IdMap α) : Nat := m.entries.length

/-! ## The ids of a list of entries -/

theorem find_eq_some_iff {id : UInt8} {a : α} {l : List (UInt8 × α)}
    (h : l.Pairwise (fun a b => a.1 < b.1)) : find id l = some a ↔ (id, a) ∈ l := by
  induction l with
  | nil => simp [find]
  | cons e l ih =>
    obtain ⟨k, b⟩ := e
    have hl := List.pairwise_cons.1 h
    by_cases hk : k = id
    · subst hk
      simp only [find, if_true, List.mem_cons, Prod.mk.injEq, true_and, Option.some.injEq]
      constructor
      · exact fun h => .inl h.symm
      · rintro (rfl | h')
        · rfl
        · exact absurd (hl.1 _ h') (UInt8.lt_irrefl _)
    · simp only [find, hk, if_false, List.mem_cons, Prod.mk.injEq, ih hl.2]
      constructor
      · exact .inr
      · rintro (⟨rfl, -⟩ | h')
        · exact absurd rfl hk
        · exact h'

/-! ## Putting a value -/

/-- `entries` with `a` as the value of `id`. -/
def place (id : UInt8) (a : α) : List (UInt8 × α) → List (UInt8 × α)
  | [] => [(id, a)]
  | e :: rest =>
    if id < e.1 then (id, a) :: e :: rest
    else if e.1 = id then (id, a) :: rest
    else e :: place id a rest

theorem mem_place {id : UInt8} {a : α} {l : List (UInt8 × α)} {x : UInt8 × α}
    (h : x ∈ place id a l) : x = (id, a) ∨ x ∈ l := by
  induction l with
  | nil => simp_all [place]
  | cons e l ih =>
    unfold place at h
    split at h
    · simpa using h
    · split at h
      · rcases List.mem_cons.1 h with rfl | h
        · exact .inl rfl
        · exact .inr (by simp [h])
      · rcases List.mem_cons.1 h with rfl | h
        · exact .inr (by simp)
        · exact (ih h).imp (fun e => e) (by simp +contextual)

theorem pairwise_place {id : UInt8} {a : α} {l : List (UInt8 × α)}
    (h : l.Pairwise (fun a b => a.1 < b.1)) :
    (place id a l).Pairwise (fun a b => a.1 < b.1) := by
  induction l with
  | nil => simp [place]
  | cons e l ih =>
    have hl := List.pairwise_cons.1 h
    unfold place
    split
    · next hlt =>
      refine List.pairwise_cons.2 ⟨fun x hx => ?_, h⟩
      rcases List.mem_cons.1 hx with rfl | hx
      · exact hlt
      · exact UInt8.lt_trans hlt (hl.1 x hx)
    · split
      · next heq =>
        subst heq
        exact List.pairwise_cons.2 ⟨hl.1, hl.2⟩
      · next hnlt hne =>
        refine List.pairwise_cons.2 ⟨fun x hx => ?_, ih hl.2⟩
        rcases mem_place hx with rfl | hx
        · exact UInt8.lt_of_le_of_ne (UInt8.not_lt.1 hnlt) hne
        · exact hl.1 x hx

theorem find_place {id k : UInt8} {a : α} {l : List (UInt8 × α)} :
    find k (place id a l) = if k = id then some a else find k l := by
  induction l with
  | nil =>
    by_cases h : k = id
    · simp [place, find, h]
    · simp [place, find, h, Ne.symm h]
  | cons e l ih =>
    obtain ⟨j, b⟩ := e
    by_cases hk : k = id
    · subst hk
      by_cases h1 : k < j
      · simp [place, h1, find]
      · by_cases h2 : j = k
        · simp [place, h2, UInt8.lt_irrefl, find]
        · simp [place, h1, h2, find, ih]
    · by_cases h1 : id < j
      · simp [place, h1, find, hk, Ne.symm hk]
      · by_cases h2 : j = id
        · subst h2
          simp [place, UInt8.lt_irrefl, find, hk, Ne.symm hk]
        · simp only [place, h1, h2, if_false, find, ih, hk]

/-- Give an id a value, in place of the one it may have. -/
def insert (m : IdMap α) (id : UInt8) (a : α) : IdMap α :=
  ⟨place id a m.entries, pairwise_place m.ascending⟩

/-! ## Taking a value away -/

/-- The map without the value of an id. -/
def erase (m : IdMap α) (id : UInt8) : IdMap α :=
  ⟨m.entries.filter (fun e => e.1 != id), m.ascending.filter _⟩

theorem find_filter_ne {id k : UInt8} {l : List (UInt8 × α)} :
    find k (l.filter (fun e => e.1 != id)) = if k = id then none else find k l := by
  induction l with
  | nil => simp [find]
  | cons e l ih =>
    obtain ⟨j, b⟩ := e
    by_cases hj : j = id
    · subst hj
      by_cases hk : k = j
      · subst hk; simpa [find] using ih
      · simpa [find, hk, Ne.symm hk] using ih
    · by_cases hk : k = id
      · subst hk
        simpa [find, hj] using ih
      · simp only [hk, if_false] at ih
        simp [find, hj, hk, ih]

/-! ## Changing values -/

/-- The map with every value changed by `f`. -/
def map {β : Type} (f : UInt8 → α → β) (m : IdMap α) : IdMap β :=
  ⟨m.entries.map (fun e => (e.1, f e.1 e.2)),
    List.pairwise_map.2 (m.ascending.imp fun h => h)⟩

/-! ## The view -/

@[simp] theorem get?_empty (k : UInt8) : (empty : IdMap α).get? k = none := rfl

theorem get?_insert (m : IdMap α) (id k : UInt8) (a : α) :
    (m.insert id a).get? k = if k = id then some a else m.get? k := find_place

@[simp] theorem get?_insert_self (m : IdMap α) (id : UInt8) (a : α) :
    (m.insert id a).get? id = some a := by simp [get?_insert]

theorem get?_erase (m : IdMap α) (id k : UInt8) :
    (m.erase id).get? k = if k = id then none else m.get? k := find_filter_ne

theorem get?_map {β : Type} (f : UInt8 → α → β) (m : IdMap α) (k : UInt8) :
    (m.map f).get? k = (m.get? k).map (f k) := by
  change find k (m.entries.map fun e => (e.1, f e.1 e.2)) = (find k m.entries).map (f k)
  induction m.entries with
  | nil => rfl
  | cons e l ih =>
    obtain ⟨j, b⟩ := e
    by_cases hj : j = k
    · subst hj; simp [find]
    · simpa [find, hj] using ih

theorem get?_eq_some_iff (m : IdMap α) (k : UInt8) (a : α) :
    m.get? k = some a ↔ (k, a) ∈ m.entries := find_eq_some_iff m.ascending

theorem contains_iff (m : IdMap α) (k : UInt8) : m.contains k = true ↔ k ∈ m.ids := by
  simp only [contains, Option.isSome_iff_exists, get?_eq_some_iff, ids, List.mem_map]
  exact ⟨fun ⟨a, h⟩ => ⟨(k, a), h, rfl⟩, fun ⟨⟨_, a⟩, h, e⟩ => ⟨a, e ▸ h⟩⟩

theorem pairwise_ids (m : IdMap α) : m.ids.Pairwise (· < ·) := List.pairwise_map.2 m.ascending

theorem nodup_ids (m : IdMap α) : m.ids.Nodup := m.pairwise_ids.imp fun h => UInt8.ne_of_lt h

/-- Two ascending lists of entries with the same members are the same list. -/
theorem eq_of_mem_iff {l₁ l₂ : List (UInt8 × α)} (h₁ : l₁.Pairwise (fun a b => a.1 < b.1))
    (h₂ : l₂.Pairwise (fun a b => a.1 < b.1)) (h : ∀ e, e ∈ l₁ ↔ e ∈ l₂) : l₁ = l₂ := by
  induction l₁ generalizing l₂ with
  | nil =>
    cases l₂ with
    | nil => rfl
    | cons e _ => exact absurd ((h e).2 (by simp)) (by simp)
  | cons e l₁ ih =>
    cases l₂ with
    | nil => exact absurd ((h e).1 (by simp)) (by simp)
    | cons f l₂ =>
      have p₁ := List.pairwise_cons.1 h₁
      have p₂ := List.pairwise_cons.1 h₂
      have hef : e = f := by
        rcases List.mem_cons.1 ((h e).1 (by simp)) with he | he
        · exact he
        · rcases List.mem_cons.1 ((h f).2 (by simp)) with hf | hf
          · exact hf.symm
          · exact absurd (UInt8.lt_trans (p₂.1 e he) (p₁.1 f hf)) (UInt8.lt_irrefl _)
      subst hef
      refine congrArg _ (ih p₁.2 p₂.2 fun x => ⟨fun hx => ?_, fun hx => ?_⟩)
      · rcases List.mem_cons.1 ((h x).1 (by simp [hx])) with rfl | hx'
        · exact absurd (p₁.1 _ hx) (UInt8.lt_irrefl _)
        · exact hx'
      · rcases List.mem_cons.1 ((h x).2 (by simp [hx])) with rfl | hx'
        · exact absurd (p₂.1 _ hx) (UInt8.lt_irrefl _)
        · exact hx'

theorem ext_get? {m₁ m₂ : IdMap α} (h : ∀ k, m₁.get? k = m₂.get? k) : m₁ = m₂ := by
  obtain ⟨l₁, p₁⟩ := m₁
  obtain ⟨l₂, p₂⟩ := m₂
  have : l₁ = l₂ := eq_of_mem_iff p₁ p₂ fun ⟨k, a⟩ => by
    rw [← find_eq_some_iff p₁, ← find_eq_some_iff p₂]
    exact ⟨fun e => (h k).symm.trans e, fun e => (h k).trans e⟩
  subst this
  rfl

/-- The ids of a map are those that it contains, in ascending order. -/
theorem ids_congr {β : Type} {m₁ : IdMap α} {m₂ : IdMap β}
    (h : ∀ k, m₁.contains k = m₂.contains k) : m₁.ids = m₂.ids := by
  have bare : m₁.map (fun _ _ => ()) = m₂.map (fun _ _ => ()) := by
    refine ext_get? fun k => ?_
    have hk := h k
    rw [contains, contains] at hk
    rw [get?_map, get?_map]
    cases h₁ : m₁.get? k <;> cases h₂ : m₂.get? k <;> simp_all
  have same := congrArg ids bare
  simpa [ids, map, Function.comp_def] using same

end IdMap

end ZWave
