import ZWave.Proofs.Node.Operations

/-!
# Frames sent by a node

Frames leave a node in ticks only, one at most: `sent_tick` gives the frames in the trace of a tick,
and no other operation has one in its trace.
-/

namespace ZWave

namespace Traced

variable {ε α β : Type}

/-- Every event of a trace is one of those that `p` admits. -/
def Emits (p : ε → Prop) (x : Traced ε α) : Prop := ∀ e ∈ x.events, p e

variable {p : ε → Prop}

theorem Emits.pure (a : α) : Emits p (Pure.pure a : Traced ε α) := by
  simp [Emits]

theorem Emits.emit {e : ε} (h : p e) : Emits p (Traced.emit e) := by
  simpa [Emits] using h

theorem Emits.bind {x : Traced ε α} {f : α → Traced ε β} (hx : Emits p x)
    (hf : ∀ a, Emits p (f a)) : Emits p (x >>= f) := by
  intro e he
  rcases List.mem_append.1 he with he | he
  · exact hx e he
  · exact hf x.value e he

theorem Emits.foldlM {f : α → β → Traced ε α} (hf : ∀ a b, Emits p (f a b)) (l : List β) (a : α) :
    Emits p (l.foldlM f a) := by
  induction l generalizing a with
  | nil => exact Emits.pure a
  | cons b l ih => exact (hf a b).bind fun a => ih a

end Traced

def NodeEvent.sent? : NodeEvent → Option Frame
  | .sent frame _ => some frame
  | _ => none

namespace Node

open Traced (Emits)

/-- The frames in a trace that were handed to the network. -/
def sent (events : List NodeEvent) : List Frame := events.filterMap NodeEvent.sent?

abbrev Inner (e : NodeEvent) : Prop := e.sent? = none

theorem sent_eq_nil {α : Type} {x : Traced NodeEvent α} (h : Emits Inner x) :
    sent x.events = [] :=
  List.filterMap_eq_nil_iff.2 h

/-- Frames that are queued together go to the same lane. -/
theorem enqueueAll_eq (n : Node) (frames : List Frame) (defer : Bool) (origin : Origin) :
    n.enqueueAll frames defer origin =
      ⟨{ n with queues := n.queues.pushAll frames defer },
        frames.map fun frame => .queued frame (n.queues.lane defer) origin⟩ := by
  unfold enqueueAll
  induction frames generalizing n with
  | nil => rfl
  | cons frame frames ih =>
    have lane : (n.enqueue frame defer origin).value.queues.lane defer = n.queues.lane defer :=
      Queues.lane_push ..
    change _ >>= (fun n => frames.foldlM _ n) = _
    simp only [bind, ih, lane]
    rfl

section Effects

variable {p : NodeEvent → Prop} (queued : ∀ frame lane origin, p (.queued frame lane origin))

include queued

theorem emits_enqueueAll (n : Node) (frames : List Frame) (defer : Bool) (origin : Origin) :
    Emits p (n.enqueueAll frames defer origin) :=
  Emits.foldlM (fun _ _ _ he => by cases List.mem_singleton.1 he; exact queued _ _ _) frames n

theorem emits_startClass (n : Node) (id : UInt8) : Emits p (n.startClass id) :=
  emits_enqueueAll queued n _ _ _

/-- What is done as part of a step queues frames, and gives notice if that is asked for. -/
theorem emits_perform (n : Node) {effect : Effect} (notice : effect = .notifyStarted → p .started) :
    Emits p (n.perform effect) := by
  cases effect with
  | requestNodeInfo => intro e he; cases List.mem_singleton.1 he; exact queued _ _ _
  | queueVersionStartup =>
    change Emits p n.startVersion
    unfold startVersion
    split
    · exact Emits.pure n
    · exact emits_startClass queued _ _
  | queueAllStartup => exact Emits.foldlM (emits_startClass queued) n.unstarted n
  | flushWakeupQueue => exact Emits.pure n.flush
  | refresh => exact emits_enqueueAll queued n _ _ _
  | notifyStarted => intro e he; cases List.mem_singleton.1 he; exact notice rfl

end Effects

theorem emits_join (id : NodeId) (info : ProtocolInfo) (factory : Factory) :
    Emits Inner (join id info factory) := by
  unfold join
  split
  · intro e he; cases List.mem_singleton.1 he; rfl
  · exact Emits.pure _

theorem events_handle (n : Node) (event : LifecycleEvent) :
    (n.handle event).events =
      (n.lifecycle.step event).next.toList.map .entered ++
        ((if (n.lifecycle.step event).retried then [.retried] else []) ++
          ((n.lifecycle.step event).effects.foldlM perform
            { n with lifecycle := n.lifecycle.apply (n.lifecycle.step event) }).events) := by
  unfold handle
  generalize n.lifecycle.step event = t
  obtain ⟨next, retried, effects⟩ := t
  cases next <;> cases retried <;> rfl

/-- A step of the bring-up enters a state, tries again, queues frames and gives notice, and nothing
else. -/
theorem emits_step {p : NodeEvent → Prop} (queued : ∀ frame lane origin, p (.queued frame lane origin))
    (entered : ∀ state, p (.entered state)) (retried : p .retried) (notice : p .started) (n : Node)
    (event : LifecycleEvent) : Emits p (n.handle event) := by
  unfold handle
  generalize n.lifecycle.step event = t
  obtain ⟨next, again, effects⟩ := t
  have last : ∀ m : Node, Emits p (effects.foldlM perform m) :=
    Emits.foldlM (fun m _ => emits_perform queued m fun _ => notice) effects
  have told : ∀ e, p e → Emits p (Traced.emit e) := fun _ => Emits.emit
  cases next <;> cases again
  · exact last _
  · exact (told _ retried).bind fun _ => last _
  · exact (told _ (entered _)).bind fun _ => last _
  · exact (told _ (entered _)).bind fun _ => (told _ retried).bind fun _ => last _

theorem emits_handle (n : Node) (event : LifecycleEvent) : Emits Inner (n.handle event) :=
  emits_step (p := Inner) (fun _ _ _ => rfl) (fun _ => rfl) rfl rfl n event

theorem events_tick (n : Node) :
    n.tick.events = (n.handle .tick).events ++ n.prepared.proceed.events := by
  rw [tick_eq]
  rfl

theorem sent_tick (n : Node) : sent n.tick.events = n.sends?.toList := by
  have hn : sent (n.handle .tick).events = [] := sent_eq_nil (emits_handle n .tick)
  have hd : sent (n.prepared.handle .queueDrained).events = [] :=
    sent_eq_nil (emits_handle n.prepared .queueDrained)
  rw [events_tick, sent, List.filterMap_append, ← sent, ← sent, hn, List.nil_append, sends?, proceed,
    pending_prepared]
  cases n.pending with
  | some f => rfl
  | none =>
    simp only [Option.isSome_none, Bool.false_eq_true, if_false]
    cases n.prepared.queues.write with
    | nil => exact hd
    | cons f rest => rfl

theorem emits_dispatch {p : NodeEvent → Prop} (dropped : ∀ reason, p (.dropped reason)) (n : Node)
    (payload : Payload) : Emits p (n.dispatch payload) := by
  have drop : ∀ reason, Emits p (⟨n, [.dropped reason]⟩ : Traced NodeEvent Node) :=
    fun _ _ he => by cases List.mem_singleton.1 he; exact dropped _
  unfold dispatch
  split
  · split
    · exact Emits.pure _
    · exact drop _
  · exact drop _

theorem emits_update (n : Node) (u : ApplicationUpdate) : Emits Inner (n.update u) := by
  unfold update
  split
  · exact emits_handle n _
  · exact emits_handle _ _

theorem emits_receive (n : Node) (f : Frame) : Emits Inner (n.receive f) := by
  have told : ∀ kind, Emits Inner (Traced.emit (.received kind)) := fun _ => Emits.emit rfl
  cases f with
  | applicationCommand command =>
    exact (told _).bind fun _ => (emits_dispatch (fun _ => rfl) n _).bind fun _ => Emits.pure _
  | applicationUpdate u =>
    exact (told _).bind fun _ => (emits_update n u).bind fun _ => Emits.pure _
  | sendData | requestNodeInfo | other => exact Emits.pure n

end Node

end ZWave
