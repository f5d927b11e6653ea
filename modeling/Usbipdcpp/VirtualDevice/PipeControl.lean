import Usbipdcpp.Foundation.TaggedFifo
import Usbipdcpp.VirtualDevice.PipeClosing
import Usbipdcpp.VirtualDevice.PipeNotices

namespace Usbipdcpp.VirtualDevice.PipeControl

open ChannelConservation ChannelLedger Foundation.KeyedList Foundation.KeyedQueues
open Foundation.TaggedFifo Foundation.TransitionSystem PipeClosing PipeDevice PipeNotices
open PipeStreams Protocol Utils
open ByteStreamInChannel (takeBytes)
open InEndpointChannelBase hiding create

section Channel

variable {Handler : Type} {answers : List (Option Nat)}
  {channel channel' : InEndpointChannelBase ByteBuffer UInt8 Handler}

/-- The request that a call is made for, by its number in the channel. -/
def asker (answers : List (Option Nat)) (call : Option Nat) : Option Nat :=
  call.bind fun index => answers[index]?.join

/-- The bytes put into the FIFO, each with the request that it was written for. -/
def tagged (answers : List (Option Nat))
    (channel : InEndpointChannelBase ByteBuffer UInt8 Handler) : List (Option Nat × UInt8) :=
  channel.placed.flatMap fun piece => piece.2.map (asker answers piece.1, ·)

/-- The bytes that the replies bring, each with the request that it is brought to. -/
def brought (channel : InEndpointChannelBase ByteBuffer UInt8 Handler) :
    List (Option Nat × UInt8) :=
  channel.replies.flatMap fun reply => reply.payload.map (some reply.number, ·)

/-- The control requests that wait, with the number of bytes that each asks for. -/
def asks (channel : InEndpointChannelBase ByteBuffer UInt8 Handler) : List (Option Nat × Nat) :=
  (channel.endpointRequests.queue 0).map fun request => (some request.number, request.length.toNat)

/-- The books of the channel of endpoint 0.  While it is connected, the bytes in the FIFO fall to
the requests that they were written for. -/
structure Matched (answers : List (Option Nat))
    (channel : InEndpointChannelBase ByteBuffer UInt8 Handler) : Prop where
  distinct : Distinct Prod.fst channel.endpointRequests
  lone : ∀ ep, ep ≠ 0 → channel.endpointRequests.queue ep = []
  unlimited : channel.maxPendingRequests = 0
  first : channel.earlierReplies = []
  known : ∀ piece ∈ channel.placed, ∃ index, piece.1 = some index ∧ index < answers.length
  matched : ∃ rest, tagged answers channel = brought channel ++ rest ∧
    (channel.disconnected = false →
      rest.map Prod.snd = channel.buffer.contents ∧ Meets rest (asks channel)) ∧
    (channel.disconnected = true → channel.buffer.contents = [])

/-- What is in the FIFO matters where the channel is connected only. -/
theorem Matched.connected (h : Matched answers channel) (hfull : channel.buffer.contents ≠ []) :
    channel.disconnected = false := by
  obtain ⟨rest, -, -, hdisconnected⟩ := h.matched
  rw [← Bool.not_eq_true]
  exact fun hclosed => hfull (hdisconnected hclosed)

/-- A request takes as many bytes as it asks for, if there are so many. -/
theorem takeBytes_eq (length : UInt32) (buffer : ByteBuffer) :
    (takeBytes length buffer).1 = buffer.contents.take length.toNat ∧
      (takeBytes length buffer).2.contents = buffer.contents.drop length.toNat := by
  have hsize : buffer.size = buffer.contents.length := RingBuffer.length_contents.symm
  rw [takeBytes, hsize, (buffer.contents_read _).1, (buffer.contents_read _).2]
  rcases Nat.le_total buffer.contents.length length.toNat with hle | hle
  · rw [Nat.min_eq_left hle, List.take_of_length_le hle, List.drop_of_length_le hle,
      List.take_length, List.drop_length]
    exact ⟨rfl, rfl⟩
  · rw [Nat.min_eq_right hle]
    exact ⟨rfl, rfl⟩

theorem brought_answer (ep : UInt8) (request : ChannelRequest Handler) (taken : List UInt8)
    (ret : UsbIpRetSubmit Handler) :
    brought (channel.answer ep request taken ret) = brought channel ++
      (ChannelReply.payload { ep, number := request.number, taken, ret }).map
        (some request.number, ·) := by
  simp [brought, answer]

/-- The request at the front is answered with bytes of its own. -/
theorem Matched.answerFront {request : ChannelRequest Handler}
    {rest : Queues UInt8 (ChannelRequest Handler)} {after : List (ChannelRequest Handler)}
    (h : Matched answers channel) (hconnected : channel.disconnected = false)
    (hwithout : Queues.Without channel.endpointRequests rest 0 [] request after) :
    Matched answers (trySendOne ByteStreamInChannel.derived 0 request
      { channel with endpointRequests := rest }) where
  distinct := hwithout.distinct
  lone ep hep := by
    change Queues.queue ep rest = []
    rw [hwithout.left, if_neg hep]
    exact h.lone ep hep
  unlimited := h.unlimited
  first := h.first
  known := h.known
  matched := by
    obtain ⟨items, htagged, hitems, -⟩ := h.matched
    obtain ⟨hcontents, hmeets⟩ := hitems hconnected
    have hasks : asks channel = (some request.number, request.length.toNat) ::
        after.map fun request => (some request.number, request.length.toNat) := by
      rw [asks, hwithout.queue_eq]
      rfl
    rw [hasks] at hmeets
    obtain ⟨htaken, hleft⟩ := takeBytes_eq request.length channel.buffer
    refine ⟨items.drop request.length.toNat, ?_, fun _ => ⟨?_, ?_⟩, fun hclosed => ?_⟩
    · change tagged answers channel = _
      rw [trySendOne, brought_answer, payload_dataReply]
      change _ = (brought channel ++ ((takeBytes request.length channel.buffer).1.take
        request.length.toNat).map (some request.number, ·)) ++ _
      rw [htaken, List.take_take, Nat.min_self, htagged, ← hcontents, ← hmeets.take,
        List.append_assoc, List.take_append_drop]
    · change _ = (takeBytes request.length channel.buffer).2.contents
      rw [hleft, List.map_drop, hcontents]
    · have hafter : asks (trySendOne ByteStreamInChannel.derived 0 request
          { channel with endpointRequests := rest }) =
            after.map fun request => (some request.number, request.length.toNat) := by
        change (Queues.queue 0 rest).map _ = _
        rw [hwithout.left, if_pos rfl, List.nil_append]
      rw [hafter]
      exact hmeets.drop
    · rw [show channel.disconnected = true from hclosed] at hconnected
      cases hconnected

theorem matched_sendRound (h : Matched answers channel)
    (hround : sendRound ByteStreamInChannel.derived channel = some channel') :
    Matched answers channel' := by
  have hfull : channel.buffer.contents ≠ [] := by
    intro hempty
    have hnothing := (ByteStreamInChannel.derived.bufferEmpty_iff channel.buffer).mpr hempty
    rw [sendRound, if_pos hnothing] at hround
    cases hround
  obtain ⟨ep, request, rest, htaken, rfl⟩ := sendRound_cases hround
  obtain ⟨after, hwithout⟩ := Queues.without_of_dequeueAny h.distinct htaken
  obtain rfl : ep = 0 := by
    by_contra hep
    have hnone := h.lone ep hep
    rw [hwithout.queue_eq] at hnone
    cases hnone
  exact h.answerFront (h.connected hfull) hwithout

theorem matched_trySendPendingLocked (h : Matched answers channel) :
    Matched answers (trySendPendingLocked ByteStreamInChannel.derived channel) :=
  sendRounds_invariant (fun _ _ hc hround => matched_sendRound hc hround) _ h

/-- Another request waits behind the others. -/
theorem Matched.park {request : ChannelRequest Handler} (h : Matched answers channel) :
    Matched answers (channel.park 0 request) where
  distinct := Queues.distinct_enqueue h.distinct
  lone ep hep := by
    change (channel.endpointRequests.enqueue 0 request).queue ep = []
    rw [Queues.queue_enqueue, if_neg hep]
    exact h.lone ep hep
  unlimited := h.unlimited
  first := h.first
  known := h.known
  matched := by
    obtain ⟨items, htagged, hitems, hclosed⟩ := h.matched
    refine ⟨items, htagged, fun hconnected => ⟨(hitems hconnected).1, ?_⟩, hclosed⟩
    have hasks : asks (channel.park 0 request) =
        asks channel ++ [(some request.number, request.length.toNat)] := by
      change (Queues.queue 0 (channel.endpointRequests.enqueue 0 request)).map _ = _
      rw [Queues.queue_enqueue, if_pos rfl, List.map_append]
      rfl
    rw [hasks]
    exact (hitems hconnected).2.concat _

/-- No byte waits for a request that is still to come. -/
theorem matched_requestIn (seqnum length : UInt32) (owner : Option Handler)
    (transfer : GenericTransfer) (h : Matched answers channel) :
    Matched answers
      (channel.onInRequest ByteStreamInChannel.derived 0 seqnum length owner transfer []) := by
  unfold InEndpointChannelBase.onInRequest
  split
  next => exact h
  next hopen =>
    obtain ⟨items, -, hitems, -⟩ := h.matched
    obtain ⟨hcontents, hmeets⟩ := hitems (by simpa using hopen)
    have hempty : channel.endpointRequests.queue 0 = [] → channel.buffer.empty = true := by
      intro hqueue
      rw [asks, hqueue] at hmeets
      rw [channel.buffer.empty_iff, ← hcontents, hmeets.eq_nil]
      rfl
    have hevict : channel.evictOldest 0 = channel := by
      rw [evictOldest, if_neg fun hlimit => hlimit.1 h.unlimited]
    dsimp only
    rw [if_neg fun hnow => ?_, if_neg fun hpull => hpull.2 rfl, hevict]
    · exact matched_trySendPendingLocked h.park
    · have hfull : channel.buffer.empty = false := hnow.2
      rw [hempty hnow.1] at hfull
      cases hfull

/-- A request is cancelled for which no byte is in the FIFO. -/
theorem Matched.without {request : ChannelRequest Handler}
    {rest : Queues UInt8 (ChannelRequest Handler)} {ep : UInt8}
    {before after : List (ChannelRequest Handler)} {cancelled : List (UInt8 × Nat)}
    (h : Matched answers channel)
    (hwithout : Queues.Without channel.endpointRequests rest ep before request after)
    (hnone : channel.disconnected = false →
      some request.number ∉
        ((tagged answers channel).drop (brought channel).length).map Prod.fst) :
    Matched answers { channel with endpointRequests := rest, cancelled } := by
  obtain rfl : ep = 0 := by
    by_contra hep
    have hqueue := h.lone ep hep
    rw [hwithout.queue_eq] at hqueue
    simp at hqueue
  refine ⟨hwithout.distinct, fun ep hep => ?_, h.unlimited, h.first, h.known, ?_⟩
  · change Queues.queue ep rest = []
    rw [hwithout.left, if_neg hep]
    exact h.lone ep hep
  · obtain ⟨items, htagged, hitems, hclosed⟩ := h.matched
    refine ⟨items, htagged, fun hconnected => ?_, hclosed⟩
    obtain ⟨hcontents, hmeets⟩ := hitems hconnected
    have hnone' := hnone hconnected
    rw [htagged, List.drop_left] at hnone'
    refine ⟨hcontents, ?_⟩
    have hasks : asks channel = before.map (fun r => (some r.number, r.length.toNat)) ++
        (some request.number, request.length.toNat) ::
          after.map fun r => (some r.number, r.length.toNat) := by
      rw [asks, hwithout.queue_eq, List.map_append, List.map_cons]
    have hleft : asks { channel with endpointRequests := rest, cancelled } =
        before.map (fun r => (some r.number, r.length.toNat)) ++
          after.map fun r => (some r.number, r.length.toNat) := by
      change (Queues.queue 0 rest).map _ = _
      rw [hwithout.left, if_pos rfl, List.map_append]
    rw [hasks] at hmeets
    rw [hleft]
    exact hmeets.without hnone'

/-- Bytes are put into the FIFO that fall to the request which they are written for. -/
theorem Matched.put {call : Nat} {bytes : List UInt8} {buffer : ByteBuffer}
    (h : Matched answers channel) (hconnected : channel.disconnected = false)
    (hcall : call < answers.length) (hbuffer : buffer.contents = channel.buffer.contents ++ bytes)
    (hfalls : ∀ i < bytes.length,
      (demand (asks channel))[channel.buffer.contents.length + i]? =
        some (asker answers (some call))) :
    Matched answers (channel.put call bytes buffer) where
  distinct := h.distinct
  lone := h.lone
  unlimited := h.unlimited
  first := h.first
  known piece hmem := by
    rcases List.mem_append.mp hmem with hmem | hmem
    · exact h.known piece hmem
    · rw [List.mem_singleton.mp hmem]
      exact ⟨call, rfl, hcall⟩
  matched := by
    obtain ⟨items, htagged, hitems, -⟩ := h.matched
    obtain ⟨hcontents, hmeets⟩ := hitems hconnected
    refine ⟨items ++ bytes.map (asker answers (some call), ·), ?_, fun _ => ⟨?_, ?_⟩,
      fun hclosed => ?_⟩
    · change (channel.placed ++ [(some call, bytes)]).flatMap _ = brought channel ++ _
      rw [List.flatMap_append, List.flatMap_singleton]
      change tagged answers channel ++ _ = _
      rw [htagged, List.append_assoc]
    · change _ = buffer.contents
      rw [List.map_append, hcontents, hbuffer, List.map_map]
      simp [Function.comp_def]
    · refine hmeets.put fun i hi => ?_
      rw [← hfalls i hi, ← hcontents, List.length_map]
    · rw [show channel.disconnected = true from hclosed] at hconnected
      cases hconnected

/-- The channel is disconnected, or its requests are dropped after that. -/
theorem Matched.disconnectBuffer (h : Matched answers channel) :
    Matched answers (channel.disconnectBuffer ByteStreamInChannel.derived) where
  distinct := h.distinct
  lone := h.lone
  unlimited := h.unlimited
  first := h.first
  known := h.known
  matched := by
    obtain ⟨items, htagged, -, -⟩ := h.matched
    exact ⟨items, htagged, fun hopen => (by cases hopen), fun _ => rfl⟩

theorem Matched.disconnectRequests (h : Matched answers channel)
    (hclosed : channel.disconnected = true) : Matched answers channel.disconnectRequests where
  distinct := List.nodup_nil
  lone _ _ := rfl
  unlimited := h.unlimited
  first := h.first
  known := h.known
  matched := by
    obtain ⟨items, htagged, -, hempty⟩ := h.matched
    refine ⟨items, htagged, fun hopen => ?_, hempty⟩
    rw [show channel.disconnected = false from hopen] at hclosed
    cases hclosed

/-- Another call is made, for some request. -/
theorem Matched.concat (h : Matched answers channel) (answered : Option Nat) :
    Matched (answers ++ [answered]) channel where
  distinct := h.distinct
  lone := h.lone
  unlimited := h.unlimited
  first := h.first
  known piece hmem := by
    obtain ⟨index, hpiece, hlt⟩ := h.known piece hmem
    exact ⟨index, hpiece, by rw [List.length_append]; omega⟩
  matched := by
    have hsame : tagged (answers ++ [answered]) channel = tagged answers channel := by
      refine List.flatMap_congr fun piece hmem => ?_
      obtain ⟨index, hpiece, hlt⟩ := h.known piece hmem
      have hasker : asker (answers ++ [answered]) piece.1 = asker answers piece.1 := by
        rw [hpiece, asker, asker, Option.bind_some, Option.bind_some,
          List.getElem?_append_left hlt]
      rw [hasker]
    rw [hsame]
    exact h.matched

/-- The channel that the bytes of a first phase are put into: with a full FIFO, requests are
answered before. -/
def ready (channel : InEndpointChannelBase ByteBuffer UInt8 Handler) :
    InEndpointChannelBase ByteBuffer UInt8 Handler :=
  if channel.buffer.available = 0 then trySendPendingLocked ByteStreamInChannel.derived channel
  else channel

/-- The bytes for which there is room, of those that a call has not written, fall to the request
that the call is made for: it waits, it is the turn of no other, and it asks for so many. -/
def Falls (answers : List (Option Nat))
    (channel : InEndpointChannelBase ByteBuffer UInt8 Handler) (index : Nat) (call : WriteCall) :
    Prop :=
  channel.disconnected = false →
    ∀ i < min (call.data.length - call.total) channel.buffer.available,
      (demand (asks channel))[channel.buffer.contents.length + i]? =
        some (asker answers (some index))

theorem matched_ready (h : Matched answers channel) : Matched answers (ready channel) := by
  unfold ready
  split
  · exact matched_trySendPendingLocked h
  · exact h

theorem matched_store {stream : ByteStreamInChannel Handler} {index : Nat} {call : WriteCall}
    (h : Matched answers stream.channel) (hconnected : stream.channel.disconnected = false)
    (hindex : index < answers.length) (hfalls : Falls answers stream.channel index call) :
    Matched answers (ByteStreamInChannel.store index call stream).channel := by
  have hwritten := stream.channel.buffer.written_write (call.data.drop call.total)
  rw [List.length_drop] at hwritten
  refine h.put hconnected hindex (stream.channel.buffer.contents_write _) fun i hi => ?_
  refine hfalls hconnected i ?_
  rw [List.length_take, List.length_drop, hwritten] at hi
  omega

theorem matched_fill {stream : ByteStreamInChannel Handler} {index : Nat} {call : WriteCall}
    (h : Matched answers stream.channel) (hindex : index < answers.length)
    (hfalls : Falls answers (ready stream.channel) index call) :
    Matched answers (stream.fill index call).channel := by
  have hready := matched_ready h
  unfold ByteStreamInChannel.fill
  unfold ready at hfalls hready
  split
  next => exact h
  next hopen =>
    have hconnected : stream.channel.disconnected = false := by simpa using hopen
    split
    next hfull =>
      rw [if_pos hfull] at hfalls hready
      dsimp only
      split
      next => exact hready
      next =>
        have hsent : (trySendPendingLocked ByteStreamInChannel.derived
            stream.channel).disconnected = false :=
          (answers_trySendPendingLocked stream.channel).disconnected.trans hconnected
        exact @matched_store _ _ { stream with channel := _ } _ _ hready hsent hindex hfalls
    next hroom =>
      rw [if_neg hroom] at hfalls
      exact matched_store h hconnected hindex hfalls

theorem matched_woken {stream : ByteStreamInChannel Handler} {index : Nat} {call : WriteCall}
    {timedOut : Bool} (h : Matched answers stream.channel) (hindex : index < answers.length)
    (hfalls : Falls answers stream.channel index call) :
    Matched answers (stream.woken index call timedOut).channel := by
  unfold ByteStreamInChannel.woken
  split
  next => exact h
  next =>
    split
    next => exact h
    next hopen =>
      split
      next => exact h
      next => exact matched_store h (by simpa using hopen) hindex hfalls

end Channel

variable {Handler : Type} {s t : PipeDevice Handler} {a : PipeAction Handler}

/-- The replies of the channel of endpoint 0 bring to each request bytes of the writes that were
made for it, in the order in which they were written. -/
def OwnBytes (channel : PipeChannel Handler) : Prop :=
  channel.stream.channel.earlierReplies = [] ∧
    brought channel.stream.channel <+: tagged channel.answers channel.stream.channel

/-- No notice of a cancelled request waits to be read. -/
def NoticesGone (s : PipeDevice Handler) : Prop :=
  ∀ unlink ∈ s.unlinks, ∀ id number, unlink.cancelled = some (.inRequest id number) →
    ∀ r ∈ s.pending, announced s r ≠ some (id, number)

/-- Bytes that a write puts into the FIFO of endpoint 0 fall to the request of the write. -/
def Lands (s : PipeDevice Handler) : PipeAction Handler → Prop
  | .fill id index => ∀ channel, s.channels[id]? = some channel → channel.ep = 0 →
      ∀ call, channel.stream.calls[index]? = some call →
        Falls channel.answers (ready channel.stream.channel) index call
  | .wake id index _ => ∀ channel, s.channels[id]? = some channel → channel.ep = 0 →
      ∀ call, channel.stream.calls[index]? = some call →
        Falls channel.answers channel.stream.channel index call
  | _ => True

/-- For a control request that an unlink finds no byte is in the FIFO. -/
def Unwritten (s : PipeDevice Handler) : PipeAction Handler → Prop
  | .onPipeUnlink unlinkSeqnum _ =>
      ∀ id number left, s.cancelIn unlinkSeqnum s.inChannels = some (id, number, left) →
        ∀ channel, s.channels[id]? = some channel → channel.ep = 0 →
          channel.stream.channel.disconnected = false →
            some number ∉ ((tagged channel.answers channel.stream.channel).drop
              (brought channel.stream.channel).length).map Prod.fst
  | _ => True

/-- The conditions on the steps of a run. -/
def Correlates (s : PipeDevice Handler) (a : PipeAction Handler) : Prop :=
  Lands s a ∧ Unwritten s a ∧ NoticeRead s a

/-- An application that writes to endpoint 0 once for each notice that it has read, and nothing
besides. -/
def Disciplined (s : PipeDevice Handler) : PipeAction Handler → Prop
  | .write ep _ _ answers => ep = 0 → ∃ r ∈ s.reads, answers = some r.number ∧
      (announced s r).isSome ∧ ∀ call ∈ s.writes, call.ep = 0 → call.answers ≠ answers
  | _ => True

/-- What is kept of the channel of endpoint 0. -/
structure Correlated (channel : PipeChannel Handler) : Prop where
  calls : channel.answers.length = channel.stream.calls.length
  matched : Matched channel.answers channel.stream.channel

theorem Correlated.ownBytes {channel : PipeChannel Handler} (h : Correlated channel) :
    OwnBytes channel := by
  obtain ⟨rest, htagged, -, -⟩ := h.matched.matched
  exact ⟨h.matched.first, rest, htagged.symm⟩

theorem correlated_freshIn (ep : UInt8) (capacity : Nat) :
    Correlated (freshIn ep capacity : PipeChannel Handler) where
  calls := rfl
  matched :=
    { distinct := List.nodup_nil
      lone := fun _ _ => rfl
      unlimited := rfl
      first := rfl
      known := fun _ hmem => absurd hmem List.not_mem_nil
      matched := ⟨[], rfl, fun _ => ⟨rfl, meets_nil⟩, fun hclosed => by cases hclosed⟩ }

variable [DecidableEq Handler]

theorem matched_of_streamStep {id : Nat} {channel : PipeChannel Handler}
    {b : ByteStreamAction Handler} {stream : ByteStreamInChannel Handler}
    (h : Correlated channel) (hep : channel.ep = 0) (hlands : Lands s a)
    (ha : streamAction a = some (id, b)) (hchannel : s.channels[id]? = some channel)
    (hstep : channel.stream.step b = some stream) : Matched channel.answers stream.channel := by
  obtain ⟨hcalls, hmatched⟩ := h
  have hindex : ∀ {index call}, channel.stream.calls[index]? = some call →
      index < channel.answers.length := fun hcall =>
    hcalls ▸ (List.getElem?_eq_some_iff.mp hcall).1
  cases a <;> cases ha
  case fill index =>
      cases hcall : channel.stream.calls[index]? with
      | none => simp [ByteStreamInChannel.step, hcall] at hstep
      | some call =>
          obtain ⟨-, rfl⟩ := by simpa [ByteStreamInChannel.step, hcall] using hstep
          exact matched_fill hmatched (hindex hcall) (hlands channel hchannel hep call hcall)
  case wake index timedOut =>
      cases hcall : channel.stream.calls[index]? with
      | none => simp [ByteStreamInChannel.step, hcall] at hstep
      | some call =>
          obtain ⟨-, rfl⟩ := by simpa [ByteStreamInChannel.step, hcall] using hstep
          exact matched_woken hmatched (hindex hcall) (hlands channel hchannel hep call hcall)
  case sendPending index =>
      cases hcall : channel.stream.calls[index]? with
      | none => simp [ByteStreamInChannel.step, hcall] at hstep
      | some call =>
          obtain ⟨-, rfl⟩ := by simpa [ByteStreamInChannel.step, hcall] using hstep
          exact matched_trySendPendingLocked hmatched

/-- No step of a `write` that has begun begins another. -/
theorem calls_of_streamStep {id : Nat} {b : ByteStreamAction Handler}
    {stream stream' : ByteStreamInChannel Handler} (ha : streamAction a = some (id, b))
    (hstep : stream.step b = some stream') : stream'.calls.length = stream.calls.length := by
  have hset : ∀ index pc, (stream.setPc index pc).calls.length = stream.calls.length :=
    fun index pc => List.length_modify _ _ _
  have hstore : ∀ index call (before : ByteStreamInChannel Handler),
      (ByteStreamInChannel.store index call before).calls.length = before.calls.length :=
    fun index call before => by simp [ByteStreamInChannel.store]
  cases a <;> cases ha
  case fill index =>
      cases hcall : stream.calls[index]? with
      | none => simp [ByteStreamInChannel.step, hcall] at hstep
      | some call =>
          obtain ⟨-, rfl⟩ := by simpa [ByteStreamInChannel.step, hcall] using hstep
          unfold ByteStreamInChannel.fill
          split
          · exact hset index .returned
          · split
            · dsimp only
              split
              · exact hset index .waiting
              · exact hstore index call _
            · exact hstore index call _
  case wake index timedOut =>
      cases hcall : stream.calls[index]? with
      | none => simp [ByteStreamInChannel.step, hcall] at hstep
      | some call =>
          obtain ⟨-, rfl⟩ := by simpa [ByteStreamInChannel.step, hcall] using hstep
          unfold ByteStreamInChannel.woken
          split
          · exact hset index .waiting
          · split
            · exact hset index .returned
            · split
              · exact hset index .returned
              · exact hstore index call _
  case sendPending index =>
      cases hcall : stream.calls[index]? with
      | none => simp [ByteStreamInChannel.step, hcall] at hstep
      | some call =>
          obtain ⟨-, rfl⟩ := by simpa [ByteStreamInChannel.step, hcall] using hstep
          exact hset index _

theorem correlated_of_streamStep {id : Nat} {channel : PipeChannel Handler}
    {b : ByteStreamAction Handler} {stream : ByteStreamInChannel Handler}
    (h : Correlated channel) (hep : channel.ep = 0) (hlands : Lands s a)
    (ha : streamAction a = some (id, b)) (hchannel : s.channels[id]? = some channel)
    (hstep : channel.stream.step b = some stream) : Correlated { channel with stream } := by
  have hmatched := matched_of_streamStep h hep hlands ha hchannel hstep
  exact ⟨h.calls.trans (calls_of_streamStep ha hstep).symm, hmatched⟩

theorem correlated_of_move {id : Nat} {channel channel' : PipeChannel Handler}
    (hclosing : ClosesInOrder s) (hguard : Correlates s a) (h : channel.ep = 0 → Correlated channel)
    (hmove : Move s id channel a channel') (hep : channel'.ep = 0) : Correlated channel' := by
  cases hmove with
  | same => exact h hep
  | requested seqnum length owner transfer =>
      obtain ⟨hcalls, hmatched⟩ := h hep
      refine ⟨hcalls, ?_⟩
      change channel.ep = 0 at hep
      rw [requestIn, hep]
      exact matched_requestIn seqnum length owner transfer hmatched
  | cancelled hcancels =>
      obtain ⟨hcalls, hmatched⟩ := h hep
      refine ⟨hcalls, ?_⟩
      obtain ⟨hfound, hchannel, hcancel, hnumber⟩ := hcancels
      rcases cancelPending_cases hmatched.distinct with
        ⟨ep, request, rest, before, after, heq, -, hwithout⟩ | ⟨heq, -⟩
      · rw [hcancel] at heq
        obtain ⟨-, rfl⟩ := Prod.mk.inj heq
        refine hmatched.without hwithout fun hconnected => ?_
        have hunwritten := hguard.2.1 _ _ _ hfound channel hchannel hep hconnected
        obtain rfl := by simpa using hnumber
        exact hunwritten
      · rw [hcancel] at heq
        cases heq
  | written hcall hep' =>
      obtain ⟨hcalls, hmatched⟩ := h hep
      refine ⟨?_, hmatched.concat _⟩
      simp [ByteStreamInChannel.write, hcalls]
  | stepped ha hchannel hstep =>
      exact correlated_of_streamStep (h hep) hep hguard.1 ha hchannel hstep
  | @closed requests rest hhead hchannel =>
      obtain ⟨hcalls, hmatched⟩ := h hep
      refine ⟨hcalls, ?_⟩
      cases requests with
      | false => exact hmatched.disconnectBuffer
      | true =>
          obtain ⟨-, hbefore⟩ := hclosing [] id rest hhead
          exact hmatched.disconnectRequests
            ((hbefore.resolve_left List.not_mem_nil) channel hchannel)

/-- In every run in which bytes are written for a control request only while they fall to it, a
request with bytes in the FIFO is not cancelled and none before its notice is read, the replies
bring to each request bytes of its own writes, and no notice of a cancelled request is left. -/
theorem control_in_correlated {Handler : Type} [DecidableEq Handler] (s : PipeDevice Handler)
    (h : ReachableUnder system Correlates s) :
    (∀ channel ∈ s.channels, channel.ep = 0 → OwnBytes channel) ∧ NoticesGone s := by
  refine ⟨fun channel hmem hep => ?_, ?_⟩
  · obtain ⟨id, hchannel⟩ := List.mem_iff_getElem?.mp hmem
    have hcorrelated : channel.ep = 0 → Correlated channel :=
      channels_invariant (P := fun _ channel => channel.ep = 0 → Correlated channel)
        (fun _ ep capacity _ => correlated_freshIn ep capacity)
        (fun _ _ _ _ _ hreach hguard hP hmove hep =>
          correlated_of_move (closesInOrder_of_reachable hreach) hguard hP hmove hep)
        h hchannel
    exact (hcorrelated hep).ownBytes
  · exact (noticed_of_reachable (fun _ _ hguard => hguard.2.2) h).cancelled

/-- Two bytes are written for a request that asks for four. -/
theorem control_in_correlated_instance :
    ∃ (s : PipeDevice Unit) (channel : PipeChannel Unit), s.channels = [channel] ∧
      OwnBytes channel ∧ brought channel.stream.channel = [(some 0, 1), (some 0, 2)] := by
  obtain ⟨s₀, s₁, s₂, before, channel, h₀, h₁, h₂, hbefore, hanswers, hcalls, hcontents, hdemand,
      hchannel, hep, hbrought⟩ :
      ∃ (s₀ s₁ s₂ : PipeDevice Unit) (before channel : PipeChannel Unit),
        system.run create [.setInFifoCapacity 8, .onNewConnection,
          .onPipeControlRequest vendorIn 5 4 none (inTransfer 4), .read,
          .write 0 [1, 2] 0 (some 0), .lookUp 0] = some s₀ ∧
        system.step s₀ (.fill 0 0) = some s₁ ∧ system.step s₁ (.sendPending 0 0) = some s₂ ∧
        s₀.channels = [before] ∧ before.answers = [some 0] ∧
        before.stream.calls.map (fun call => call.data.length - call.total) = [2] ∧
        (ready before.stream.channel).buffer.contents = [] ∧
        demand (asks (ready before.stream.channel)) = .replicate 4 (some 0) ∧
        s₂.channels = [channel] ∧ channel.ep = 0 ∧
        brought channel.stream.channel = [(some 0, 1), (some 0, 2)] :=
    ⟨_, _, _, _, _, rfl, rfl, rfl, rfl, rfl, rfl, rfl, rfl, rfl, rfl, rfl⟩
  have hreach₀ : ReachableUnder system Correlates s₀ :=
    ReachableUnder.run _ (by simp [Correlates, Lands, Unwritten, NoticeRead]) (.initial rfl) h₀
  have hfill : Correlates s₀ (.fill 0 0) := by
    refine ⟨fun found hfound _ call hcall _ i hi => ?_, trivial, trivial⟩
    rw [hbefore] at hfound
    obtain rfl : before = found := Option.some.inj hfound
    have hlength := congrArg (·[0]?) hcalls
    rw [List.getElem?_map, hcall] at hlength
    have hlength' : call.data.length - call.total = 2 := Option.some.inj hlength
    rw [hdemand, hcontents, hanswers, List.length_nil, Nat.zero_add,
      List.getElem?_replicate_of_lt (by omega)]
    rfl
  have hsend : Correlates s₁ (.sendPending 0 0) := ⟨trivial, trivial, trivial⟩
  have hreach₂ : ReachableUnder system Correlates s₂ := (hreach₀.step hfill h₁).step hsend h₂
  have hown := (control_in_correlated s₂ hreach₂).1 channel
    (by rw [hchannel]; exact List.mem_cons_self) hep
  exact ⟨s₂, channel, hchannel, hown, hbrought⟩

/-- A write of three bytes for a request that asks for two: the next request gets the third. -/
theorem byte_of_another_write :
    ∃ s : PipeDevice Unit, ReachableUnder system Disciplined s ∧
      ∃ channel ∈ s.channels, channel.ep = 0 ∧ ¬ OwnBytes channel := by
  obtain ⟨s₀, s₁, s₂, channel, h₀, h₁, h₂, hchannel, hreads, harrived, hwrites, hep, hbrought,
      htagged⟩ :
      ∃ (s₀ s₁ s₂ : PipeDevice Unit) (channel : PipeChannel Unit),
        system.run create [.setInFifoCapacity 8, .onNewConnection,
          .onPipeControlRequest vendorIn 5 2 none (inTransfer 2), .read] = some s₀ ∧
        system.step s₀ (.write 0 [1, 2, 3] 0 (some 0)) = some s₁ ∧
        system.run s₁ [.lookUp 0, .fill 0 0, .sendPending 0 0,
          .onPipeControlRequest vendorIn 6 2 none (inTransfer 2)] = some s₂ ∧
        s₂.channels = [channel] ∧ s₀.reads.map (·.number) = [0] ∧
        s₀.arrived.map PipeArrival.inRequest = [some (0, 0)] ∧ s₀.writes = [] ∧
        channel.ep = 0 ∧ brought channel.stream.channel = [(some 0, 1), (some 0, 2), (some 1, 3)] ∧
        tagged channel.answers channel.stream.channel = [(some 0, 1), (some 0, 2), (some 0, 3)] :=
    ⟨_, _, _, _, rfl, rfl, rfl, rfl, rfl, rfl, rfl, rfl, rfl, rfl⟩
  have hreach₀ : ReachableUnder system Disciplined s₀ :=
    ReachableUnder.run _ (by simp [Disciplined]) (.initial rfl) h₀
  have hwrite : Disciplined s₀ (.write 0 [1, 2, 3] 0 (some 0)) := by
    intro _
    obtain ⟨r, hr, hnumber⟩ : ∃ r ∈ s₀.reads, r.number = 0 :=
      List.mem_map.mp (by rw [hreads]; exact List.mem_cons_self)
    have hannounced : announced s₀ r = some (0, 0) :=
      announced_eq (by rw [harrived, hnumber]; rfl)
    refine ⟨r, hr, by rw [hnumber], by rw [hannounced]; rfl, fun call hcall => ?_⟩
    · rw [hwrites] at hcall
      exact absurd hcall List.not_mem_nil
  have hreach₂ : ReachableUnder system Disciplined s₂ :=
    ReachableUnder.run _ (by simp [Disciplined]) (hreach₀.step hwrite h₁) h₂
  refine ⟨s₂, hreach₂, channel, by rw [hchannel]; exact List.mem_cons_self, hep, fun hown => ?_⟩
  obtain ⟨-, hprefix⟩ := hown
  rw [hbrought, htagged] at hprefix
  exact absurd hprefix (by decide)

/-- A control IN request is cancelled whose notice has not been read. -/
theorem notice_of_cancelled :
    ∃ s : PipeDevice Unit, ReachableUnder system Disciplined s ∧ ¬ NoticesGone s := by
  obtain ⟨s, hrun, hpending, harrived, hunlinks⟩ :
      ∃ s : PipeDevice Unit, system.run create [.onNewConnection,
          .onPipeControlRequest vendorIn 5 4 none (inTransfer 4), .onPipeUnlink 5 6] = some s ∧
        s.pending.map (·.number) = [0] ∧ s.arrived.map PipeArrival.inRequest = [some (0, 0)] ∧
        s.unlinks.map PipeUnlink.cancelled = [some (.inRequest 0 0)] :=
    ⟨_, rfl, rfl, rfl, rfl⟩
  refine ⟨s, ReachableUnder.run _ (by simp [Disciplined]) (.initial rfl) hrun, fun hgone => ?_⟩
  obtain ⟨unlink, hunlink, hcancelled⟩ : ∃ unlink ∈ s.unlinks,
      unlink.cancelled = some (.inRequest 0 0) :=
    List.mem_map.mp (by rw [hunlinks]; exact List.mem_cons_self)
  obtain ⟨r, hr, hnumber⟩ : ∃ r ∈ s.pending, r.number = 0 :=
    List.mem_map.mp (by rw [hpending]; exact List.mem_cons_self)
  exact hgone unlink hunlink 0 0 hcancelled r hr
    (announced_eq (by rw [harrived, hnumber]; rfl))

theorem control_in_mixed :
    (∃ s : PipeDevice Unit, ReachableUnder system Disciplined s ∧
      ∃ channel ∈ s.channels, channel.ep = 0 ∧ ¬ OwnBytes channel) ∧
    ∃ s : PipeDevice Unit, ReachableUnder system Disciplined s ∧ ¬ NoticesGone s :=
  ⟨byte_of_another_write, notice_of_cancelled⟩

end Usbipdcpp.VirtualDevice.PipeControl
