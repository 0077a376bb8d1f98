/-!
# Results with a trace

The operations of nodes and of the driver return what they change together with the events that
happened on the way. `Traced` pairs the two; sequencing appends the traces in order.
-/

namespace ZWave

/-- A value and the events that led to it, in order. -/
structure Traced (ε : Type) (α : Type) where
  value : α
  events : List ε := []

namespace Traced

variable {ε α β : Type}

instance : Monad (Traced ε) where
  pure a := ⟨a, []⟩
  bind x f := ⟨(f x.value).value, x.events ++ (f x.value).events⟩

/-- The trace of one event. -/
def emit (e : ε) : Traced ε Unit := ⟨(), [e]⟩

@[simp] theorem value_pure (a : α) : (pure a : Traced ε α).value = a := rfl
@[simp] theorem events_pure (a : α) : (pure a : Traced ε α).events = [] := rfl

@[simp] theorem value_bind (x : Traced ε α) (f : α → Traced ε β) :
    (x >>= f).value = (f x.value).value := rfl

@[simp] theorem events_bind (x : Traced ε α) (f : α → Traced ε β) :
    (x >>= f).events = x.events ++ (f x.value).events := rfl

@[simp] theorem events_emit (e : ε) : (emit e).events = [e] := rfl

theorem value_foldlM (f : α → β → Traced ε α) (l : List β) (a : α) :
    (l.foldlM f a).value = l.foldl (fun a b => (f a b).value) a := by
  induction l generalizing a with
  | nil => rfl
  | cons b l ih => rw [List.foldlM_cons, value_bind, ih, List.foldl_cons]

instance : LawfulMonad (Traced ε) :=
  LawfulMonad.mk' _ (fun x => by cases x; simp [Functor.map]) (fun a f => by simp [bind, pure])
    (fun x f g => by simp [bind])

end Traced

end ZWave
