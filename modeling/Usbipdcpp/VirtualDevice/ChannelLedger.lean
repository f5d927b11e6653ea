import Usbipdcpp.VirtualDevice.ByteStreamInChannel
import Usbipdcpp.VirtualDevice.MessageInChannel

namespace Usbipdcpp.VirtualDevice.ChannelLedger

open Foundation.FifoLedger Foundation.KeyedList Foundation.KeyedQueues Foundation.TransitionSystem
open InEndpointChannelBase Protocol

variable {Buffer Item Handler : Type} {derived : Derived Buffer Item}
  {channel channel' : InEndpointChannelBase Buffer Item Handler}

/-- The replies of all connections. -/
def allReplies (channel : InEndpointChannelBase Buffer Item Handler) :
    List (ChannelReply Item Handler) :=
  channel.earlierReplies ++ channel.replies

/-- The books of a channel; a request is withdrawn by a cancellation that succeeds. -/
def ledger (channel : InEndpointChannelBase Buffer Item Handler) : Ledger UInt8 where
  arrived := channel.accepted.length
  waiting := channel.endpointRequests.numbered (·.number)
  served := (allReplies channel).map fun reply => (reply.ep, reply.number)
  express := []
  withdrawn := channel.cancelled
  dropped := channel.dropped

/-- The books of a channel are in order, and the replies bear the sequence numbers of the
requests that they answer. -/
structure Booked (channel : InEndpointChannelBase Buffer Item Handler) : Prop where
  distinct : Distinct Prod.fst channel.endpointRequests
  accounted : (ledger channel).Accounted
  parked : ∀ ep, ∀ request ∈ channel.endpointRequests.queue ep,
    channel.accepted[request.number]? = some (ep, request.seqnum)
  answered : ∀ reply ∈ allReplies channel,
    channel.accepted[reply.number]? = some (reply.ep, reply.ret.header.seqnum)

theorem booked_create (buffer : Buffer) :
    Booked (create buffer : InEndpointChannelBase Buffer Item Handler) where
  distinct := List.nodup_nil
  accounted := Ledger.accounted_empty
  parked _ _ hmem := absurd hmem List.not_mem_nil
  answered _ hmem := absurd hmem List.not_mem_nil

/-- Only the books matter, not what is in the buffer. -/
theorem Booked.setBuffer (h : Booked channel) (buffer : Buffer)
    (placed : List (Option Nat × List Item)) : Booked { channel with buffer, placed } :=
  ⟨h.distinct, h.accounted, h.parked, h.answered⟩

theorem ledger_answer (ep : UInt8) (request : ChannelRequest Handler) (taken : List Item)
    (ret : UsbIpRetSubmit Handler) :
    ledger (channel.answer ep request taken ret) =
      { ledger channel with served := (ledger channel).served ++ [(ep, request.number)] } := by
  simp [ledger, allReplies, answer]

theorem allReplies_answer (ep : UInt8) (request : ChannelRequest Handler) (taken : List Item)
    (ret : UsbIpRetSubmit Handler) :
    allReplies (channel.answer ep request taken ret) =
      allReplies channel ++ [{ ep, number := request.number, taken, ret }] := by
  simp [allReplies, answer]

/-- The first request of a queue is answered. -/
theorem Booked.answerFront {ep : UInt8} {request : ChannelRequest Handler}
    {rest : Queues UInt8 (ChannelRequest Handler)} {after : List (ChannelRequest Handler)}
    {taken : List Item} {ret : UsbIpRetSubmit Handler} (h : Booked channel)
    (hwithout : Queues.Without channel.endpointRequests rest ep [] request after)
    (hret : ret.header.seqnum = request.seqnum) :
    Booked (answer { channel with endpointRequests := rest } ep request taken ret) where
  distinct := hwithout.distinct
  accounted := by
    rw [ledger_answer]
    exact h.accounted.serve (hwithout.sameOrder h.distinct)
  parked ep' request' hmem := by
    refine h.parked ep' request' ?_
    change request' ∈ Queues.queue ep' rest at hmem
    rw [hwithout.left] at hmem
    split at hmem
    next heq =>
      rw [heq, hwithout.queue_eq]
      exact List.mem_cons_of_mem _ hmem
    next => exact hmem
  answered reply hmem := by
    rw [allReplies_answer] at hmem
    rcases List.mem_append.mp hmem with hmem | hmem
    · exact h.answered reply hmem
    · rw [List.mem_singleton.mp hmem]
      change channel.accepted[request.number]? = some (ep, ret.header.seqnum)
      rw [hret]
      refine h.parked ep request ?_
      rw [hwithout.queue_eq]
      exact List.mem_cons_self

theorem getElem?_concat_of_some {α : Type} {l : List α} {a b : α} {n : Nat} (h : l[n]? = some a) :
    (l ++ [b])[n]? = some a := by
  rw [List.getElem?_append_left (List.getElem?_eq_some_iff.mp h).1, h]

/-- A request is answered as it comes. -/
theorem Booked.answerNew {ep : UInt8} {request : ChannelRequest Handler} {taken : List Item}
    {ret : UsbIpRetSubmit Handler} (h : Booked channel)
    (hnumber : request.number = channel.accepted.length)
    (hnone : channel.endpointRequests.queue ep = [])
    (hret : ret.header.seqnum = request.seqnum) :
    Booked (answer (channel.accept ep request.seqnum) ep request taken ret) where
  distinct := h.distinct
  accounted := by
    have hwaiting : ofKey ep (ledger channel).waiting = [] := by
      change ofKey ep (channel.endpointRequests.numbered _) = []
      rw [Queues.ofKey_numbered h.distinct, hnone, List.map_nil]
    have hserved := h.accounted.arriveServed hwaiting
    rw [ledger_answer, hnumber]
    simpa [ledger, accept, allReplies] using hserved
  parked ep' request' hmem := getElem?_concat_of_some (h.parked ep' request' hmem)
  answered reply hmem := by
    rw [allReplies_answer] at hmem
    rcases List.mem_append.mp hmem with hmem | hmem
    · exact getElem?_concat_of_some (h.answered reply hmem)
    · rw [List.mem_singleton.mp hmem]
      change (channel.accepted ++ [(ep, request.seqnum)])[request.number]? =
        some (ep, ret.header.seqnum)
      rw [hnumber, hret]
      simp

theorem booked_park {ep : UInt8} {request : ChannelRequest Handler} (h : Booked channel)
    (hnumber : request.number = channel.accepted.length) :
    Booked (channel.park ep request) where
  distinct := Queues.distinct_enqueue h.distinct
  accounted := by
    have horder : SameOrder
        ((channel.endpointRequests.enqueue ep request).numbered (·.number))
        ((ledger channel).waiting ++ [(ep, (ledger channel).arrived)]) := by
      change SameOrder _ (_ ++ [(ep, channel.accepted.length)])
      rw [← hnumber]
      exact Queues.sameOrder_enqueue h.distinct
    simpa [ledger, park, accept, allReplies] using h.accounted.arrive horder
  parked ep' request' hmem := by
    change (channel.accepted ++ [(ep, request.seqnum)])[request'.number]? = _
    change request' ∈ (channel.endpointRequests.enqueue ep request).queue ep' at hmem
    rw [Queues.queue_enqueue] at hmem
    split at hmem
    next heq =>
      rcases List.mem_append.mp hmem with hmem | hmem
      · exact getElem?_concat_of_some (h.parked ep' request' hmem)
      · rw [List.mem_singleton.mp hmem, hnumber, heq]
        simp
    next => exact getElem?_concat_of_some (h.parked ep' request' hmem)
  answered reply hmem := getElem?_concat_of_some (h.answered reply hmem)

theorem booked_sendRound (h : Booked channel) (hround : sendRound derived channel = some channel') :
    Booked channel' := by
  obtain ⟨ep, request, rest, htaken, rfl⟩ := sendRound_cases hround
  obtain ⟨after, hwithout⟩ := Queues.without_of_dequeueAny h.distinct htaken
  exact (h.setBuffer _ _).answerFront hwithout rfl

theorem booked_trySendPendingLocked (h : Booked channel) :
    Booked (trySendPendingLocked derived channel) :=
  sendRounds_invariant (fun _ _ hc hround => booked_sendRound hc hround) _ h

theorem evictOldest_cases (ep : UInt8) (channel : InEndpointChannelBase Buffer Item Handler) :
    channel.evictOldest ep = channel ∨
      ∃ evicted rest, channel.endpointRequests.dequeue ep = some (evicted, rest) ∧
        channel.evictOldest ep = answer { channel with endpointRequests := rest } ep evicted []
          (.createRetSubmitOkWithoutData evicted.seqnum 0) := by
  unfold evictOldest
  split
  next =>
    split
    next evicted rest htaken => exact Or.inr ⟨evicted, rest, htaken, rfl⟩
    next => exact Or.inl rfl
  next => exact Or.inl rfl

theorem booked_evictOldest (ep : UInt8) (h : Booked channel) :
    Booked (channel.evictOldest ep) ∧ (channel.evictOldest ep).accepted = channel.accepted := by
  rcases evictOldest_cases ep channel with hsame | ⟨evicted, rest, htaken, hevict⟩
  · rw [hsame]
    exact ⟨h, rfl⟩
  · obtain ⟨after, hwithout⟩ := Queues.without_of_dequeue h.distinct htaken
    rw [hevict]
    exact ⟨h.answerFront hwithout rfl, rfl⟩

theorem booked_trySendOne {ep : UInt8} {request : ChannelRequest Handler} (h : Booked channel)
    (hnumber : request.number = channel.accepted.length)
    (hnone : channel.endpointRequests.queue ep = []) :
    Booked (trySendOne derived ep request (channel.accept ep request.seqnum)) := by
  let taken := derived.take request.length channel.buffer
  change Booked (answer (accept ep request.seqnum { channel with buffer := taken.2 }) ep request
    taken.1 (dataReply request (derived.payload request.length taken.1)))
  exact (h.setBuffer taken.2 channel.placed).answerNew hnumber hnone rfl

theorem booked_sendPulledLocked {ep : UInt8} {request : ChannelRequest Handler}
    {pulled : List UInt8} (h : Booked channel) (hnumber : request.number = channel.accepted.length)
    (hnone : channel.endpointRequests.queue ep = []) :
    Booked (sendPulledLocked derived ep request pulled
      (channel.accept ep request.seqnum)) := by
  let sent := derived.sendPulled request.length pulled channel.buffer
  let placed := channel.placed ++ [(none, sent.put)]
  change Booked (answer (accept ep request.seqnum
    { channel with buffer := sent.buffer, placed := placed }) ep request sent.taken
      (dataReply request sent.data))
  exact (h.setBuffer sent.buffer placed).answerNew hnumber hnone rfl

theorem booked_onInRequest {ep : UInt8} {seqnum length : UInt32} {owner : Option Handler}
    {transfer : GenericTransfer} {pulled : List UInt8} (h : Booked channel) :
    Booked (channel.onInRequest derived ep seqnum length owner transfer pulled) := by
  unfold onInRequest
  split
  next => exact h
  next =>
    dsimp only
    split
    next hdirect => exact booked_trySendOne h rfl hdirect.1
    next =>
      split
      next hpulled =>
        exact booked_trySendPendingLocked (booked_sendPulledLocked h rfl hpulled.1)
      next =>
        obtain ⟨hevicted, haccepted⟩ := booked_evictOldest ep h
        exact booked_trySendPendingLocked (booked_park hevicted (by rw [haccepted]))

/-- A cancellation that succeeds takes one request that is parked with the sequence number out of
its queue; one that fails has found no such request. -/
theorem cancelPending_cases {unlinkSeqnum : UInt32}
    (hdistinct : Distinct Prod.fst channel.endpointRequests) :
    (∃ ep request rest before after, channel.cancelPending unlinkSeqnum =
        (true, { channel with endpointRequests := rest,
                              cancelled := channel.cancelled ++ [(ep, request.number)] }) ∧
      request.seqnum = unlinkSeqnum ∧
      Queues.Without channel.endpointRequests rest ep before request after) ∨
    channel.cancelPending unlinkSeqnum = (false, channel) ∧
      ∀ ep, ∀ request ∈ channel.endpointRequests.queue ep, request.seqnum ≠ unlinkSeqnum := by
  unfold cancelPending
  split
  next ep request rest htaken =>
    obtain ⟨before, after, hwithout, hseqnum⟩ := Queues.without_of_takeFirstOfAny hdistinct htaken
    exact Or.inl ⟨ep, request, rest, before, after, rfl, by simpa using hseqnum, hwithout⟩
  next hnone =>
    refine Or.inr ⟨rfl, fun ep request hmem => ?_⟩
    simpa using Queues.not_of_takeFirstOfAny_eq_none hnone hmem

theorem booked_cancelPending {unlinkSeqnum : UInt32} (h : Booked channel) :
    Booked (channel.cancelPending unlinkSeqnum).2 := by
  rcases @cancelPending_cases _ _ _ channel unlinkSeqnum h.distinct with
    ⟨ep, request, rest, before, after, hcancel, -, hwithout⟩ | ⟨hsame, -⟩
  · rw [hcancel]
    refine ⟨hwithout.distinct, hwithout.withdraw h.accounted h.distinct rfl, ?_, h.answered⟩
    intro ep' request' hmem
    refine h.parked ep' request' ?_
    change request' ∈ Queues.queue ep' rest at hmem
    rw [hwithout.left] at hmem
    split at hmem
    next heq =>
      rw [heq, hwithout.queue_eq]
      rcases List.mem_append.mp hmem with hmem | hmem
      · exact List.mem_append_left _ hmem
      · exact List.mem_append_right _ (List.mem_cons_of_mem _ hmem)
    next => exact hmem
  · rw [hsame]
    exact h

theorem booked_onNewConnection (h : Booked channel) :
    Booked (channel.onNewConnection derived) where
  distinct := h.distinct
  accounted := by
    have hledger : ledger (channel.onNewConnection derived) = ledger channel := by
      simp [ledger, allReplies, onNewConnection]
    rw [hledger]
    exact h.accounted
  parked := h.parked
  answered reply hmem := h.answered reply (by simpa [allReplies, onNewConnection] using hmem)

theorem booked_disconnectRequests (h : Booked channel) : Booked channel.disconnectRequests where
  distinct := List.nodup_nil
  accounted := h.accounted.drop
  parked _ _ hmem := absurd hmem List.not_mem_nil
  answered := h.answered

theorem booked_rehash {queues : Queues UInt8 (ChannelRequest Handler)} (h : Booked channel)
    (hperm : channel.endpointRequests.Perm queues) :
    Booked { channel with endpointRequests := queues } where
  distinct := (hperm.map Prod.fst).nodup_iff.mp h.distinct
  accounted := h.accounted.reorder fun ep => by
    change ofKey ep (channel.endpointRequests.numbered _) = ofKey ep (queues.numbered _)
    rw [Queues.ofKey_numbered h.distinct,
      Queues.ofKey_numbered ((hperm.map Prod.fst).nodup_iff.mp h.distinct),
      Queues.queue_perm h.distinct hperm]
  parked ep request hmem := by
    rw [Queues.queue_perm h.distinct hperm] at hmem
    exact h.parked ep request hmem
  answered := h.answered

theorem booked_deliver {index : Nat} {message : List UInt8}
    {channel : InEndpointChannelBase MessageBuffer (List UInt8) Handler} (h : Booked channel) :
    Booked (MessageInChannel.deliver index message channel) :=
  booked_trySendPendingLocked (h.setBuffer _ _)

theorem booked_same_or_sent (h : Booked channel)
    (hchannel : channel' = channel ∨ channel' = trySendPendingLocked derived channel) :
    Booked channel' := by
  rcases hchannel with rfl | rfl
  · exact h
  · exact booked_trySendPendingLocked h

variable [DecidableEq Handler]

theorem booked_step {a : ChannelAction Handler} (h : Booked channel)
    (hstep : channel.step derived a = some channel') : Booked channel' := by
  cases a with
  | onInRequest ep seqnum length owner transfer pulled =>
      obtain rfl := by simpa [step] using hstep
      exact booked_onInRequest h
  | setMaxPendingRequests maxPending =>
      obtain rfl := by simpa [step] using hstep
      exact ⟨h.distinct, h.accounted, h.parked, h.answered⟩
  | cancelPending unlinkSeqnum =>
      obtain rfl := by simpa [step] using hstep
      exact booked_cancelPending h
  | disconnectBuffer =>
      obtain rfl := by simpa [step] using hstep
      exact ⟨h.distinct, h.accounted, h.parked, h.answered⟩
  | disconnectRequests =>
      obtain ⟨-, rfl⟩ := by simpa [step] using hstep
      exact booked_disconnectRequests h
  | onNewConnection =>
      obtain rfl := by simpa [step] using hstep
      exact booked_onNewConnection h
  | rehash queues =>
      obtain ⟨hperm, rfl⟩ := by simpa [step] using hstep
      exact booked_rehash h hperm

theorem booked_messageStep {s t : MessageInChannel Handler} {a : MessageAction Handler}
    (hs : Booked s.channel) (h : s.step a = some t) : Booked t.channel := by
  cases MessageInChannel.effect_of_step h with
  | base hstep => exact booked_step hs hstep
  | limited => exact hs.setBuffer _ _
  | opened => exact hs
  | pushed => exact booked_deliver hs
  | moved => exact hs
  | delivered => exact booked_deliver hs

theorem booked_byteStreamStep {s t : ByteStreamInChannel Handler} {a : ByteStreamAction Handler}
    (hs : Booked s.channel) (h : s.step a = some t) : Booked t.channel := by
  cases ByteStreamInChannel.effect_of_step h with
  | base hb hstep => exact booked_step hs hstep
  | connected => exact booked_onNewConnection hs
  | resized => exact hs.setBuffer _ _
  | opened => exact hs
  | written => exact booked_trySendPendingLocked (hs.setBuffer _ _)
  | moved hcall hopen hpc hchannel => exact booked_same_or_sent hs hchannel
  | stored hcall hopen hconnected hchannel =>
      exact (booked_same_or_sent hs hchannel).setBuffer _ _
  | sent => exact booked_trySendPendingLocked hs

end Usbipdcpp.VirtualDevice.ChannelLedger
