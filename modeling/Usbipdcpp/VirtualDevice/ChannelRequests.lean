import Usbipdcpp.VirtualDevice.ChannelLedger

namespace Usbipdcpp.VirtualDevice.ChannelRequests

open Foundation.KeyedList Foundation.KeyedQueues InEndpointChannelBase ChannelLedger Protocol

variable {Buffer Item Handler : Type} {derived : Derived Buffer Item}
  {channel channel' : InEndpointChannelBase Buffer Item Handler}
  {P P' : UInt8 → ChannelRequest Handler → Prop} {R R' : ChannelReply Item Handler → Prop}
  {B : Buffer → Prop}

/-- A property of the requests that are parked, one of the replies of the latest connection, and
one of the buffer. -/
structure Holds (P : UInt8 → ChannelRequest Handler → Prop)
    (R : ChannelReply Item Handler → Prop) (B : Buffer → Prop)
    (channel : InEndpointChannelBase Buffer Item Handler) : Prop where
  distinct : Distinct Prod.fst channel.endpointRequests
  parked : ∀ ep, ∀ request ∈ channel.endpointRequests.queue ep, P ep request
  replies : ∀ reply ∈ channel.replies, R reply
  buffer : B channel.buffer

/-- What the replies to requests with `P` have to be, for the properties to be kept. -/
structure Answered (derived : Derived Buffer Item) (P : UInt8 → ChannelRequest Handler → Prop)
    (R : ChannelReply Item Handler → Prop) (B : Buffer → Prop) : Prop where
  take : ∀ (length : UInt32) (buffer : Buffer), B buffer → B (derived.take length buffer).2
  clear : ∀ buffer : Buffer, B buffer → B (derived.bufferClear buffer)
  sent : ∀ (ep : UInt8) (request : ChannelRequest Handler) (buffer : Buffer), P ep request →
    B buffer →
    R { ep, number := request.number, taken := (derived.take request.length buffer).1,
        ret := dataReply request
          (derived.payload request.length (derived.take request.length buffer).1) }
  evicted : ∀ (ep : UInt8) (request : ChannelRequest Handler), P ep request →
    R { ep, number := request.number, taken := [],
        ret := .createRetSubmitOkWithoutData request.seqnum 0 }

theorem Holds.mono (h : Holds P R B channel) (hparked : ∀ ep request, P ep request → P' ep request)
    (hreplies : ∀ reply, R reply → R' reply) : Holds P' R' B channel where
  distinct := h.distinct
  parked ep request hmem := hparked ep request (h.parked ep request hmem)
  replies reply hmem := hreplies reply (h.replies reply hmem)
  buffer := h.buffer

theorem Holds.setBuffer {buffer : Buffer} (h : Holds P R B channel) (hbuffer : B buffer)
    (placed : List (Option Nat × List Item)) : Holds P R B { channel with buffer, placed } :=
  ⟨h.distinct, h.parked, h.replies, hbuffer⟩

theorem Holds.without {ep : UInt8} {request : ChannelRequest Handler}
    {rest : Queues UInt8 (ChannelRequest Handler)} {before after : List (ChannelRequest Handler)}
    (h : Holds P R B channel)
    (hwithout : Queues.Without channel.endpointRequests rest ep before request after) :
    Holds P R B { channel with endpointRequests := rest } where
  distinct := hwithout.distinct
  parked ep' request' hmem := h.parked ep' request' (hwithout.mem_of_mem hmem)
  replies := h.replies
  buffer := h.buffer

theorem Holds.answer {ep : UInt8} {request : ChannelRequest Handler} {taken : List Item}
    {ret : UsbIpRetSubmit Handler} (h : Holds P R B channel)
    (hreply : R { ep, number := request.number, taken, ret }) :
    Holds P R B (channel.answer ep request taken ret) where
  distinct := h.distinct
  parked := h.parked
  replies reply hmem := by
    rcases List.mem_append.mp hmem with hmem | hmem
    · exact h.replies reply hmem
    · rw [List.mem_singleton.mp hmem]
      exact hreply
  buffer := h.buffer

theorem accepted_trySendPendingLocked (channel : InEndpointChannelBase Buffer Item Handler) :
    (trySendPendingLocked derived channel).accepted = channel.accepted := by
  refine sendRounds_invariant (P := fun c => c.accepted = channel.accepted) ?_ _ rfl
  rintro c c' hc hround
  obtain ⟨ep, request, rest, -, rfl⟩ := sendRound_cases hround
  exact hc

theorem accepted_evictOldest (ep : UInt8) (channel : InEndpointChannelBase Buffer Item Handler) :
    (channel.evictOldest ep).accepted = channel.accepted := by
  rcases evictOldest_cases ep channel with hsame | ⟨evicted, rest, -, hevict⟩
  · rw [hsame]
  · rw [hevict]
    rfl

/-- A connected channel accepts every request. -/
theorem accepted_onInRequest (ep : UInt8) (seqnum length : UInt32) (owner : Option Handler)
    (transfer : GenericTransfer) (pulled : List UInt8)
    (channel : InEndpointChannelBase Buffer Item Handler) :
    (channel.onInRequest derived ep seqnum length owner transfer pulled).accepted =
      channel.accepted ++ if channel.disconnected then [] else [(ep, seqnum)] := by
  unfold onInRequest
  split
  next => exact (List.append_nil _).symm
  next =>
    dsimp only
    split
    next => rfl
    next =>
      split
      next => exact accepted_trySendPendingLocked _
      next =>
        rw [accepted_trySendPendingLocked, park, accept, accepted_evictOldest]

end Usbipdcpp.VirtualDevice.ChannelRequests
