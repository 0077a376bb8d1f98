import ZWave.Proofs.CommandClass.Query
import ZWave.Proofs.Node.Operations

/-!
# The frames a node queues

Beside what it is given a node queues frames of two kinds: queries of its handlers and its profile,
and requests for its information. All of them name the node (`Addressed`), and a tick adds queries
only, behind what was there; so the request for information that a tick sends was in front of the
queue before it (`awaitsNodeInfo_tick`).
-/

namespace ZWave

def Frame.isReport : Frame → Bool
  | applicationCommand _ | applicationUpdate _ => true
  | _ => false

namespace Node

/-- What the Version class is still to ask when it is brought up ahead of the others. -/
def versionQueries (n : Node) : List Query :=
  if n.versionStarted then [] else n.classes.queries ClassId.version

def stateQueries (n : Node) : List Query := n.unstarted.flatMap n.classes.queries

/-- What a tick queues before it sends a frame. -/
def nextQueries (n : Node) : List Query :=
  match n.state with
  | .versionPending => n.versionQueries
  | .statePending => n.stateQueries
  | _ => []

theorem versionStartup_eq (n : Node) :
    n.versionStartup = n.versionQueries.map (Query.frame n.id) := by
  unfold versionStartup versionQueries
  rw [Registry.startup_eq]
  cases n.versionStarted <;> rfl

theorem stateStartup_eq (n : Node) :
    n.stateStartup = n.stateQueries.map (Query.frame n.id) := by
  unfold stateStartup stateQueries
  rw [List.map_flatMap]
  exact congrArg (List.flatMap · n.unstarted) (funext (Registry.startup_eq n.classes n.id))

theorem queues_prepared (n : Node) :
    n.prepared.queues = n.queues.pushAll (n.nextQueries.map (Query.frame n.id)) true := by
  unfold prepared nextQueries
  rw [value_handle_tick]
  cases n.state
  case versionPending => exact congrArg (n.queues.pushAll · true) n.versionStartup_eq
  case statePending => exact congrArg (n.queues.pushAll · true) n.stateStartup_eq
  all_goals rfl

/-- Of a node that is listening, a tick puts the queries behind the frames to be sent. -/
theorem write_prepared (n : Node) :
    n.prepared.queues.write = n.queues.write ++
      if n.queues.listening then n.nextQueries.map (Query.frame n.id) else [] := by
  rw [queues_prepared, Queues.pushAll_eq]
  cases h : n.queues.listening <;> simp [Queues.lane, h]

/-! ## Requests for node information -/

/-- A node waits after a tick only if it waited before, or its next frame asked for it. -/
theorem awaitsNodeInfo_tick {n : Node} (h : n.tick.value.awaitsNodeInfo = true) :
    n.awaitsNodeInfo = true ∨ n.nextIsNodeInfo = true := by
  unfold awaitsNodeInfo at h ⊢
  rw [pending_tick] at h
  cases hp : n.pending with
  | some f => exact .inl (by simpa [hp] using h)
  | none =>
    refine .inr ?_
    rw [hp, Option.none_or, sends?, hp, write_prepared] at h
    simp only [nextIsNodeInfo, hp, Option.isNone_none, Bool.true_and]
    cases hw : n.queues.write with
    | cons f rest => simpa [hw] using h
    | nil =>
      exfalso
      rw [hw, List.nil_append] at h
      cases hl : n.queues.listening with
      | false => simp [hl] at h
      | true => cases hq : n.nextQueries <;> simp [hl, hq] at h

theorem sends?_of_pending {n : Node} (h : n.pending.isSome) : n.sends? = none := if_pos h

theorem sends?_of_awaitsNodeInfo {n : Node} (h : n.awaitsNodeInfo = true) : n.sends? = none := by
  refine sends?_of_pending ?_
  unfold awaitsNodeInfo at h
  cases hp : n.pending with
  | some f => rfl
  | none => rw [hp] at h; cases h

/-- A node waits after a tick if it sent a request, or sent nothing and waited before. -/
theorem awaitsNodeInfo_tick_eq (n : Node) :
    n.tick.value.awaitsNodeInfo = n.sends?.elim n.awaitsNodeInfo Frame.isNodeInfoRequest := by
  unfold awaitsNodeInfo
  rw [pending_tick]
  cases hp : n.pending with
  | some f => rw [sends?_of_pending (by rw [hp]; rfl)]; rfl
  | none => cases n.sends? <;> rfl

theorem awaitsNodeInfo_tick_of_quiet {n : Node}
    (h : ∀ f, n.sends? = some f → f.isNodeInfoRequest = false) :
    n.tick.value.awaitsNodeInfo = n.awaitsNodeInfo := by
  rw [awaitsNodeInfo_tick_eq]
  cases hs : n.sends? with
  | none => rfl
  | some f =>
    cases hw : n.awaitsNodeInfo with
    | false => exact h f hs
    | true => rw [sends?_of_awaitsNodeInfo hw] at hs; cases hs

theorem awaitsNodeInfo_of_nextIsNodeInfo {n : Node} (h : n.nextIsNodeInfo = true) :
    n.tick.value.awaitsNodeInfo = true := by
  unfold nextIsNodeInfo at h
  unfold awaitsNodeInfo
  rw [Bool.and_eq_true, Option.isNone_iff_eq_none] at h
  obtain ⟨hp, hw⟩ := h
  rw [pending_tick, sends?, hp, write_prepared]
  cases hq : n.queues.write with
  | nil => rw [hq] at hw; cases hw
  | cons f rest => simpa [hq] using hw

/-- A command or update ends the pending transaction; other frames change nothing. -/
theorem pending_receive (n : Node) (f : Frame) :
    (n.receive f).value.pending = none ∨ (n.receive f).value = n := by
  cases f with
  | applicationCommand command => exact .inl (by rw [value_receive_command])
  | applicationUpdate u => exact .inl rfl
  | sendData | requestNodeInfo | other => exact .inr rfl

theorem awaitsNodeInfo_tick_of_idle {n : Node} (h : n.awaitsNodeInfo = false) :
    n.tick.value.awaitsNodeInfo = n.nextIsNodeInfo := by
  refine Bool.eq_iff_iff.2 ⟨fun hw => ?_, awaitsNodeInfo_of_nextIsNodeInfo⟩
  exact (awaitsNodeInfo_tick hw).resolve_left (by simp [h])

/-- The frames that end the pending transaction of a node they are given to. -/
def Ending (f : Frame) : Prop := ∀ n : Node, (n.receive f).value.pending = none

theorem ending_command (command : ApplicationCommand) : Ending (.applicationCommand command) :=
  fun n => by rw [value_receive_command]

theorem ending_update (u : ApplicationUpdate) : Ending (.applicationUpdate u) := fun _ => rfl

theorem ending_of_isReport {f : Frame} (h : f.isReport = true) : Ending f := by
  cases f with
  | applicationCommand command => exact ending_command command
  | applicationUpdate u => exact ending_update u
  | sendData | requestNodeInfo | other => cases h

theorem value_receive_of_not_isReport {f : Frame} (h : f.isReport = false) (n : Node) :
    (n.receive f).value = n := by
  cases f with
  | applicationCommand | applicationUpdate => cases h
  | sendData | requestNodeInfo | other => rfl

theorem awaitsNodeInfo_receive {n : Node} {f : Frame}
    (h : (n.receive f).value.awaitsNodeInfo = true) : n.awaitsNodeInfo = true := by
  rcases pending_receive n f with hp | hn
  · rw [awaitsNodeInfo, hp] at h
    cases h
  · rwa [hn] at h

/-! ## Addresses -/

/-- Every frame queued for the node names it. -/
def Addressed (n : Node) : Prop := ∀ f ∈ n.queues.write ++ n.queues.wakeup, f.nodeId? = some n.id

theorem Addressed.pushAll {n : Node} (h : n.Addressed) {frames : List Frame}
    (hf : ∀ f ∈ frames, f.nodeId? = some n.id) (defer : Bool) :
    ∀ f ∈ (n.queues.pushAll frames defer).write ++ (n.queues.pushAll frames defer).wakeup,
      f.nodeId? = some n.id := fun f hm =>
  (Queues.mem_pushAll hm).elim (h f) (hf f)

theorem nodeId?_of_mem_queries {nodeId : NodeId} {queries : List Query} {f : Frame}
    (h : f ∈ queries.map (Query.frame nodeId)) : f.nodeId? = some nodeId := by
  obtain ⟨q, -, rfl⟩ := List.mem_map.1 h
  exact q.nodeId?_frame nodeId

theorem addressed_join (id : NodeId) (info : ProtocolInfo) (factory : Factory) :
    (join id info factory).value.Addressed := by
  unfold join
  split
  · next hl =>
    intro f hf
    have hf : f = .requestNodeInfo id := by
      simpa [enqueue, Queues.push_eq, Queues.lane, hl] using hf
    subst hf
    rfl
  · intro f hf
    cases hf

theorem Addressed.prepared {n : Node} (h : n.Addressed) : n.prepared.Addressed := by
  unfold Addressed
  rw [queues_prepared, Node.prepared, id_handle]
  exact h.pushAll (fun _ => nodeId?_of_mem_queries) true

theorem Addressed.refreshed {n : Node} (h : n.Addressed) : n.refreshed.Addressed := by
  intro f hf
  rcases Queues.mem_pushAll hf with hf | hf
  · refine h f ?_
    simp only [Queues.flush, List.append_nil, List.mem_append] at hf ⊢
    exact hf.symm
  · rw [Profile.refresh_eq, List.mem_singleton] at hf
    subst hf
    exact n.profile.query.nodeId?_frame n.id

theorem Addressed.queueDrained {n : Node} (h : n.Addressed) :
    (n.handle .queueDrained).value.Addressed := by
  rw [value_handle_queueDrained]
  split <;> exact h

theorem Addressed.tick {n : Node} (h : n.Addressed) : n.tick.value.Addressed := by
  have hp := h.prepared
  rw [value_tick, proceed]
  split
  · exact hp
  · split
    · next hw =>
      intro f hf
      refine hp f ?_
      rw [hw, List.cons_append]
      exact List.mem_cons_of_mem _ hf
    · exact hp.queueDrained

theorem Addressed.update {n : Node} (h : n.Addressed) (u : ApplicationUpdate) :
    (n.update u).value.Addressed := by
  rw [value_update]
  split
  · rw [value_handle_infoFailed]
    split
    · split
      · have own : ∀ f ∈ [Frame.requestNodeInfo n.id], f.nodeId? = some n.id := by
          simp [Frame.nodeId?]
        exact h.pushAll own true
      · exact h
    · exact h.refreshed
  · have hi : (n.informed u).Addressed := by unfold informed; split <;> exact h
    rw [value_handle_infoReceived]
    split
    · exact hi
    · exact hi.refreshed

theorem Addressed.receive {n : Node} (h : n.Addressed) (f : Frame) :
    (n.receive f).value.Addressed := by
  cases f with
  | applicationCommand command => rw [value_receive_command]; exact h
  | applicationUpdate u => exact h.update u
  | sendData | requestNodeInfo | other => exact h

theorem Addressed.nodeId?_of_sends? {n : Node} (h : n.Addressed) {f : Frame}
    (hs : n.sends? = some f) : f.nodeId? = some n.id := by
  unfold sends? at hs
  split at hs
  · cases hs
  · have hf := h.prepared f (List.mem_append_left _ (List.mem_of_mem_head? hs))
    rwa [Node.prepared, id_handle] at hf

end Node

end ZWave
