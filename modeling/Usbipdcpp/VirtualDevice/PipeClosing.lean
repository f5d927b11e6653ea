import Usbipdcpp.VirtualDevice.ChannelConservation
import Usbipdcpp.VirtualDevice.PipeStreams

namespace Usbipdcpp.VirtualDevice.PipeClosing

open Foundation.TransitionSystem Protocol PipeDevice PipeStreams

variable {Handler : Type} {s t : PipeDevice Handler}

theorem closing_getInChannel (ep : UInt8) (s : PipeDevice Handler) :
    (s.getInChannel ep).2.closing = s.closing := by
  rcases getInChannel_cases ep s with ⟨id, -, hget⟩ | ⟨-, hget⟩
  · rw [hget]
  · rw [hget]

theorem closing_onOutRequest (ep : UInt8) (seqnum : UInt32) (transfer : Option GenericTransfer)
    (setupReq : Option SetupPacket) (inRequest : Option (Nat × Nat)) (s : PipeDevice Handler) :
    (s.onOutRequest ep seqnum transfer setupReq inRequest).closing = s.closing := by
  obtain ⟨_, _, _, hout⟩ := s.onOutRequest_eq ep seqnum transfer setupReq inRequest
  rw [hout]

theorem closing_lookUp {index : Nat} {call : PipeWrite} (s : PipeDevice Handler) :
    (s.lookUp index call).closing = s.closing := by
  have hget := closing_getInChannel call.ep s
  unfold lookUp
  split
  · rfl
  · dsimp only
    split
    · exact hget
    · exact hget

variable [DecidableEq Handler]

theorem closing_streamStep {id : Nat} {b : ByteStreamAction Handler}
    (h : s.streamStep id b = some t) : t.closing = s.closing := by
  unfold streamStep at h
  split at h
  next =>
    obtain ⟨stream, -, rfl⟩ := Option.map_eq_some_iff.mp h
    rfl
  next => cases h

/-- Only `on_disconnection` keeps `pipe_mutex` beyond its step. -/
theorem closing_of_step {a : PipeAction Handler} (hfree : s.closing = none)
    (ha : a ≠ .onDisconnection) (h : s.step a = some t) : t.closing = none := by
  cases a with
  | forwardTransfer ep seqnum length owner transfer =>
      obtain ⟨-, rfl⟩ := locked_eq_some h
      unfold forwardTransfer
      split
      · exact (closing_getInChannel ep s).trans hfree
      · exact (closing_onOutRequest ep seqnum _ none none s).trans hfree
  | onPipeControlRequest setup seqnum length owner transfer =>
      obtain ⟨-, rfl⟩ := locked_eq_some h
      unfold onPipeControlRequest
      split
      · exact (closing_onOutRequest 0 seqnum _ _ none s).trans hfree
      · exact (closing_onOutRequest 0 seqnum none _ _ _).trans
          ((closing_getInChannel 0 s).trans hfree)
  | onPipeUnlink unlinkSeqnum cmdSeqnum =>
      obtain ⟨-, rfl⟩ := locked_eq_some h
      rcases s.onPipeUnlink_eq unlinkSeqnum cmdSeqnum with ⟨_, _, _, heq⟩ | ⟨_, _, heq⟩
      · rw [heq]
        exact hfree
      · rw [heq]
        exact hfree
  | read =>
      obtain ⟨-, rfl⟩ := locked_eq_some h
      obtain ⟨_, _, _, heq⟩ := s.read_eq
      rw [heq]
      exact hfree
  | write ep data timeoutMs answers =>
      obtain rfl := by simpa [step] using h
      exact hfree
  | lookUp index =>
      simp only [step] at h
      split at h
      next =>
        split at h
        next =>
          obtain ⟨-, rfl⟩ := locked_eq_some h
          exact (closing_lookUp s).trans hfree
        next => cases h
      next => cases h
  | fill id call => exact (closing_streamStep h).trans hfree
  | wake id call timedOut => exact (closing_streamStep h).trans hfree
  | sendPending id call => exact (closing_streamStep h).trans hfree
  | setInFifoCapacity capacity =>
      obtain ⟨-, rfl⟩ := locked_eq_some h
      exact hfree
  | onDisconnection => exact absurd rfl ha
  | closeChannel => simp [step, hfree] at h
  | clear => simp [step, hfree] at h
  | onNewConnection =>
      obtain ⟨-, rfl⟩ := locked_eq_some h
      rfl
  | rehash inChannels outChannels =>
      simp only [step] at h
      split at h
      next =>
        obtain ⟨-, rfl⟩ := locked_eq_some h
        exact hfree
      next => cases h

/-- What a step does to the critical sections that are still to come. -/
theorem closing_cases {a : PipeAction Handler} (h : s.step a = some t) :
    t.closing = none ∨ t.closing = s.closing ∨
      (t.closing = some (s.inChannels.flatMap fun entry => [(entry.2, false), (entry.2, true)]) ∧
        t.channels = s.channels) ∨
      ∃ id requests rest, s.closing = some ((id, requests) :: rest) ∧ t.closing = some rest ∧
        t.channels = (s.modifyStream id (closed requests)).channels := by
  by_cases hfree : s.closing = none
  · by_cases ha : a = .onDisconnection
    · subst ha
      obtain ⟨-, rfl⟩ := locked_eq_some h
      exact Or.inr (Or.inr (Or.inl ⟨rfl, rfl⟩))
    · exact Or.inl (closing_of_step hfree ha h)
  · have hlocked : ∀ {u v : PipeDevice Handler}, s.locked u = some v → False := fun hlocked =>
      hfree (locked_eq_some hlocked).1
    cases a with
    | write ep data timeoutMs answers =>
        obtain rfl := by simpa [step] using h
        exact Or.inr (Or.inl rfl)
    | fill id call => exact Or.inr (Or.inl (closing_streamStep h))
    | wake id call timedOut => exact Or.inr (Or.inl (closing_streamStep h))
    | sendPending id call => exact Or.inr (Or.inl (closing_streamStep h))
    | closeChannel =>
        simp only [step] at h
        split at h
        next id requests rest hclosing =>
          obtain rfl := Option.some.inj h
          exact Or.inr (Or.inr (Or.inr ⟨id, requests, rest, hclosing, rfl, rfl⟩))
        next => cases h
    | clear =>
        simp only [step] at h
        split at h
        next =>
          obtain rfl := Option.some.inj h
          exact Or.inl rfl
        next => cases h
    | lookUp index =>
        simp only [step] at h
        split at h
        next =>
          split at h
          next => exact (hlocked h).elim
          next => cases h
        next => cases h
    | rehash inChannels outChannels =>
        simp only [step] at h
        split at h
        next => exact (hlocked h).elim
        next => cases h
    | forwardTransfer | onPipeControlRequest | onPipeUnlink | read | setInFifoCapacity
    | onDisconnection | onNewConnection => exact (hlocked h).elim

/-- The second critical section of a channel's `on_disconnection` comes after the first. -/
def ClosesInOrder (s : PipeDevice Handler) : Prop :=
  ∀ before id after, s.closing = some (before ++ (id, true) :: after) →
    id < s.channels.length ∧ ((id, false) ∈ before ∨
      ∀ channel, s.channels[id]? = some channel → channel.stream.channel.disconnected = true)

theorem mem_before_of_flatMap {entries : List (UInt8 × Nat)} {before after : PipeClosing}
    {id : Nat}
    (h : (entries.flatMap fun entry => [(entry.2, false), (entry.2, true)]) =
      before ++ (id, true) :: after) :
    (∃ ep, (ep, id) ∈ entries) ∧ (id, false) ∈ before := by
  induction entries generalizing before with
  | nil => simp at h
  | cons entry entries ih =>
      rw [List.flatMap_cons] at h
      rcases before with _ | ⟨first, _ | ⟨second, before⟩⟩
      · simp at h
      · simp only [List.cons_append, List.nil_append, List.cons.injEq, Prod.mk.injEq] at h
        obtain ⟨rfl, ⟨rfl, -⟩, -⟩ := h
        exact ⟨⟨entry.1, List.mem_cons_self⟩, List.mem_cons_self⟩
      · simp only [List.cons_append, List.nil_append, List.cons.injEq] at h
        obtain ⟨⟨ep, hmem⟩, hbefore⟩ := ih h.2.2
        exact ⟨⟨ep, List.mem_cons_of_mem _ hmem⟩,
          List.mem_cons_of_mem _ (List.mem_cons_of_mem _ hbefore)⟩

theorem disconnected_of_move {a : PipeAction Handler} {id : Nat}
    {channel channel' : PipeChannel Handler} (hmove : Move s id channel a channel')
    (h : channel.stream.channel.disconnected = true) :
    channel'.stream.channel.disconnected = true := by
  cases hmove with
  | same => exact h
  | requested seqnum length owner transfer =>
      rw [requestIn, InEndpointChannelBase.onInRequest, if_pos h]
      exact h
  | @cancelled unlinkSeqnum _ _ left hcancels =>
      have hleft : (channel.stream.channel.cancelPending unlinkSeqnum).2.disconnected =
          channel.stream.channel.disconnected := by
        rw [InEndpointChannelBase.cancelPending]
        split
        · rfl
        · rfl
      rw [hcancels.cancel] at hleft
      exact hleft.trans h
  | written => exact h
  | stepped ha _ hstep =>
      obtain ⟨after, hafter, hchannel⟩ := channel_of_streamStep ha hstep
      have hsame : after.disconnected = channel.stream.channel.disconnected := by
        rcases hafter with rfl | rfl
        · rfl
        · exact (ChannelConservation.answers_trySendPendingLocked _).disconnected
      rcases hchannel with hchannel | ⟨_, _, _, hchannel⟩
      · exact (congrArg _ hchannel).trans (hsame.trans h)
      · exact (congrArg _ hchannel).trans (hsame.trans h)
  | @closed requests _ _ _ =>
      cases requests with
      | false => rfl
      | true => exact h

theorem closesInOrder_step {a : PipeAction Handler} (hs : ClosesInOrder s) (hkeyed : Keyed s)
    (h : s.step a = some t) : ClosesInOrder t := by
  obtain ⟨heach, hlength, -⟩ := moved_of_step hkeyed h
  have hstays : ∀ id, id < s.channels.length →
      (∀ channel, s.channels[id]? = some channel →
        channel.stream.channel.disconnected = true) →
      ∀ channel, t.channels[id]? = some channel →
        channel.stream.channel.disconnected = true := by
    intro id hlt hclosed channel' hchannel'
    obtain ⟨channel, hbefore, hmove⟩ := heach id channel' hchannel'
    rcases hbefore with hchannel | ⟨hge, -⟩
    · exact disconnected_of_move hmove (hclosed channel hchannel)
    · exact absurd hlt (Nat.not_lt_of_le hge)
  intro before id after hclosing
  rcases closing_cases h with hnone | hsame | ⟨hnew, hchannels⟩ |
    ⟨id', requests, rest, hold, hrest, hchannels⟩
  · rw [hnone] at hclosing
    cases hclosing
  · rw [hsame] at hclosing
    obtain ⟨hlt, hbefore⟩ := hs before id after hclosing
    exact ⟨hlt.trans_le hlength, hbefore.imp_right (hstays id hlt)⟩
  · rw [hnew] at hclosing
    obtain ⟨⟨ep, hmem⟩, hbefore⟩ := mem_before_of_flatMap (Option.some.inj hclosing)
    obtain ⟨channel, hchannel, -⟩ := hkeyed _ hmem
    exact ⟨((List.getElem?_eq_some_iff.mp hchannel).1).trans_le hlength, Or.inl hbefore⟩
  · rw [hrest] at hclosing
    obtain rfl := Option.some.inj hclosing
    obtain ⟨hlt, hbefore⟩ := hs ((id', requests) :: before) id after hold
    refine ⟨hlt.trans_le hlength, ?_⟩
    rcases hbefore with hmem | hclosed
    · rcases List.mem_cons.mp hmem with heq | hmem
      · obtain ⟨rfl, rfl⟩ := Prod.mk.inj heq
        refine Or.inr fun channel' hchannel' => ?_
        rw [hchannels, getElem?_modifyStream] at hchannel'
        obtain ⟨channel, -, rfl⟩ := Option.map_eq_some_iff.mp hchannel'
        rw [if_pos rfl]
        rfl
      · exact Or.inl hmem
    · exact Or.inr (hstays id hlt hclosed)

theorem closesInOrder_of_reachable {G : PipeDevice Handler → PipeAction Handler → Prop}
    (h : ReachableUnder system G s) : ClosesInOrder s := by
  induction h with
  | initial hinit =>
      subst hinit
      intro _ _ _ hclosing
      cases hclosing
  | step hreach _ hstep ih => exact closesInOrder_step ih (keyed_of_reachable hreach) hstep

end Usbipdcpp.VirtualDevice.PipeClosing
