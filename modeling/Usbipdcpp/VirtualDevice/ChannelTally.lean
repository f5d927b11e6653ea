import Usbipdcpp.Foundation.Tally
import Usbipdcpp.VirtualDevice.ChannelRequests
import Usbipdcpp.VirtualDevice.OutChannelLedger

namespace Usbipdcpp.VirtualDevice.ChannelTally

open Foundation Foundation.FifoLedger Foundation.KeyedQueues Protocol

section InChannel

open InEndpointChannelBase ChannelLedger ChannelRequests

variable {Buffer Item Handler : Type} {derived : Derived Buffer Item}
  {channel channel' channel'' : InEndpointChannelBase Buffer Item Handler}
  {came : List (UInt8 × UInt32)} {gone : List (UInt8 × Nat)}

/-- How many requests with each sequence number an IN channel has accepted, and what has become of
them. -/
def inTally (channel : InEndpointChannelBase Buffer Item Handler) : Tally UInt32 :=
  .ofLedger (channel.accepted.map Prod.snd) (ledger channel)

theorem balanced_inTally (h : Booked channel) : (inTally channel).Balanced :=
  Tally.balanced_ofLedger h.accounted (List.length_map _)

theorem label_of_accepted {ep : UInt8} {number : Nat} {seqnum : UInt32}
    (h : channel.accepted[number]? = some (ep, seqnum)) :
    (channel.accepted.map Prod.snd)[number]? = some seqnum := by
  rw [List.getElem?_map, h, Option.map_some]

/-- The requests that are parked. -/
theorem waiting_inTally (h : Booked channel) (seqnum : UInt32) :
    (inTally channel).waiting seqnum =
      (channel.endpointRequests.elements.map (·.seqnum)).count seqnum := by
  have hnumbers : (channel.endpointRequests.numbered (·.number)).map Prod.snd =
      channel.endpointRequests.elements.map (·.number) := by
    simp [Queues.numbered, Queues.elements, KeyedList.items, List.map_flatMap, Function.comp_def]
  refine (congrArg (Tally.countOf _ · seqnum) hnumbers).trans ?_
  refine Tally.countOf_map fun request hmem => ?_
  obtain ⟨ep, hep⟩ := (Queues.mem_elements_iff h.distinct).mp hmem
  exact label_of_accepted (h.parked ep request hep)

/-- The requests that are answered, by their replies. -/
theorem answered_inTally (h : Booked channel) (seqnum : UInt32) :
    (inTally channel).answered seqnum =
      ((allReplies channel).map (·.ret.header.seqnum)).count seqnum := by
  have hnumbers : ((ledger channel).served ++ (ledger channel).express).map Prod.snd =
      (allReplies channel).map (·.number) := by
    simp [ledger]
  refine (congrArg (Tally.countOf _ · seqnum) hnumbers).trans ?_
  exact Tally.countOf_map fun reply hmem => label_of_accepted (h.answered reply hmem)

/-- Requests are accepted and cancelled; the replies and the requests dropped are only added to. -/
structure Adds (came : List (UInt8 × UInt32)) (gone : List (UInt8 × Nat))
    (channel channel' : InEndpointChannelBase Buffer Item Handler) : Prop where
  accepted : channel'.accepted = channel.accepted ++ came
  cancelled : channel'.cancelled = channel.cancelled ++ gone
  replies : allReplies channel <+: allReplies channel'
  dropped : channel.dropped <+: channel'.dropped

theorem adds_of_eq (haccepted : channel'.accepted = channel.accepted)
    (hcancelled : channel'.cancelled = channel.cancelled)
    (hreplies : allReplies channel' = allReplies channel)
    (hdropped : channel'.dropped = channel.dropped) : Adds [] [] channel channel' where
  accepted := by rw [haccepted, List.append_nil]
  cancelled := by rw [hcancelled, List.append_nil]
  replies := hreplies ▸ List.prefix_rfl
  dropped := hdropped ▸ List.prefix_rfl

theorem Adds.trans (h : Adds came gone channel channel') (h' : Adds [] [] channel' channel'') :
    Adds came gone channel channel'' where
  accepted := by rw [h'.accepted, h.accepted, List.append_nil]
  cancelled := by rw [h'.cancelled, h.cancelled, List.append_nil]
  replies := h.replies.trans h'.replies
  dropped := h.dropped.trans h'.dropped

theorem adds_answer (ep : UInt8) (request : ChannelRequest Handler) (taken : List Item)
    (ret : UsbIpRetSubmit Handler) (channel : InEndpointChannelBase Buffer Item Handler) :
    Adds [] [] channel (channel.answer ep request taken ret) where
  accepted := (List.append_nil _).symm
  cancelled := (List.append_nil _).symm
  replies := by
    rw [allReplies_answer]
    exact List.prefix_append _ _
  dropped := List.prefix_rfl

theorem adds_accept (ep : UInt8) (seqnum : UInt32)
    (channel : InEndpointChannelBase Buffer Item Handler) :
    Adds [(ep, seqnum)] [] channel (channel.accept ep seqnum) where
  accepted := rfl
  cancelled := (List.append_nil _).symm
  replies := List.prefix_rfl
  dropped := List.prefix_rfl

theorem adds_trySendOne (ep : UInt8) (request : ChannelRequest Handler)
    (channel : InEndpointChannelBase Buffer Item Handler) :
    Adds [] [] channel (trySendOne derived ep request channel) := by
  refine Adds.trans ?_ (adds_answer ep request _ _ _)
  exact adds_of_eq rfl rfl rfl rfl

theorem adds_sendPulledLocked (ep : UInt8) (request : ChannelRequest Handler)
    (pulled : List UInt8) (channel : InEndpointChannelBase Buffer Item Handler) :
    Adds [] [] channel (sendPulledLocked derived ep request pulled channel) := by
  refine Adds.trans ?_ (adds_answer ep request _ _ _)
  exact adds_of_eq rfl rfl rfl rfl

theorem adds_trySendPendingLocked (channel : InEndpointChannelBase Buffer Item Handler) :
    Adds [] [] channel (trySendPendingLocked derived channel) := by
  refine sendRounds_invariant (P := fun c => Adds [] [] channel c) ?_ _
    (adds_of_eq rfl rfl rfl rfl)
  intro c c' hc hround
  obtain ⟨ep, request, rest, -, rfl⟩ := sendRound_cases hround
  refine Adds.trans ?_ (adds_trySendOne ep request _)
  exact ⟨hc.accepted, hc.cancelled, hc.replies, hc.dropped⟩

theorem adds_evictOldest (ep : UInt8) (channel : InEndpointChannelBase Buffer Item Handler) :
    Adds [] [] channel (channel.evictOldest ep) := by
  rcases evictOldest_cases ep channel with hsame | ⟨evicted, rest, -, hevict⟩
  · rw [hsame]
    exact adds_of_eq rfl rfl rfl rfl
  · rw [hevict]
    refine Adds.trans ?_ (adds_answer ep evicted _ _ _)
    exact adds_of_eq rfl rfl rfl rfl

/-- A connected channel accepts the request, and answers or parks it. -/
theorem adds_onInRequest (ep : UInt8) (seqnum length : UInt32) (owner : Option Handler)
    (transfer : GenericTransfer) (pulled : List UInt8)
    (channel : InEndpointChannelBase Buffer Item Handler) :
    Adds (if channel.disconnected then [] else [(ep, seqnum)]) [] channel
      (channel.onInRequest derived ep seqnum length owner transfer pulled) := by
  unfold onInRequest
  split
  next => exact adds_of_eq rfl rfl rfl rfl
  next =>
    dsimp only
    split
    next => exact (adds_accept ep seqnum channel).trans (adds_trySendOne ep _ _)
    next =>
      split
      next =>
        exact ((adds_accept ep seqnum channel).trans (adds_sendPulledLocked ep _ _ _)).trans
          (adds_trySendPendingLocked _)
      next =>
        have hevict := adds_evictOldest ep channel
        refine Adds.trans ?_ (adds_trySendPendingLocked _)
        refine ⟨?_, hevict.cancelled, hevict.replies, hevict.dropped⟩
        rw [park, accept, accepted_evictOldest]

/-- The actions that the receiver's calls to the channel are. -/
def ofReceiver : ChannelAction Handler → Bool
  | .onInRequest .. => true
  | .cancelPending _ => true
  | _ => false

theorem adds_step [DecidableEq Handler] {a : ChannelAction Handler} (ha : ofReceiver a = false)
    (hstep : channel.step derived a = some channel') : Adds [] [] channel channel' := by
  cases a with
  | onInRequest ep seqnum length owner transfer pulled => cases ha
  | cancelPending unlinkSeqnum => cases ha
  | disconnectRequests =>
      obtain ⟨-, rfl⟩ := by simpa [step] using hstep
      exact ⟨(List.append_nil _).symm, (List.append_nil _).symm, List.prefix_rfl,
        List.prefix_append _ _⟩
  | onNewConnection =>
      obtain rfl := by simpa [step] using hstep
      exact adds_of_eq rfl rfl (by simp [allReplies, onNewConnection]) rfl
  | rehash queues =>
      obtain ⟨-, rfl⟩ := by simpa [step] using hstep
      exact adds_of_eq rfl rfl rfl rfl
  | setMaxPendingRequests maxPending | disconnectBuffer =>
      obtain rfl := by simpa [step] using hstep
      exact adds_of_eq rfl rfl rfl rfl

theorem moves_inTally {labels : List UInt32} (h : Booked channel)
    (hadds : Adds came gone channel channel')
    (hgone : gone.map (fun entry => (channel'.accepted.map Prod.snd)[entry.2]?) =
      labels.map some) :
    Tally.Moves (came.map Prod.snd) labels (inTally channel) (inTally channel') := by
  have haccepted : channel'.accepted.map Prod.snd =
      channel.accepted.map Prod.snd ++ came.map Prod.snd := by
    rw [hadds.accepted, List.map_append]
  rw [inTally, inTally, haccepted]
  rw [haccepted] at hgone
  exact Tally.moves_ofLedger h.accounted (List.length_map _) (hadds.replies.map _)
    List.prefix_rfl hadds.dropped hadds.cancelled hgone

/-- A cancellation that succeeds takes a request with the sequence number; one that fails has found
none, and changes nothing. -/
theorem moves_cancelPending (unlinkSeqnum : UInt32) (h : Booked channel) :
    (channel.cancelPending unlinkSeqnum).1 = true ∧
        Tally.Moves [] [unlinkSeqnum] (inTally channel)
          (inTally (channel.cancelPending unlinkSeqnum).2) ∨
      channel.cancelPending unlinkSeqnum = (false, channel) ∧
        (inTally channel).waiting unlinkSeqnum = 0 := by
  rcases @cancelPending_cases _ _ _ channel unlinkSeqnum h.distinct with
    ⟨ep, request, rest, before, after, hcancel, hseqnum, hwithout⟩ | ⟨hsame, hnone⟩
  · rw [hcancel]
    have hlabel := label_of_accepted (h.parked ep request hwithout.mem)
    refine .inl ⟨rfl, @moves_inTally _ _ _ channel _ [] [(ep, request.number)] [unlinkSeqnum] h
      ⟨(List.append_nil _).symm, rfl, List.prefix_rfl, List.prefix_rfl⟩ ?_⟩
    simpa [← hseqnum] using hlabel
  · refine .inr ⟨hsame, ?_⟩
    rw [waiting_inTally h, List.count_eq_zero]
    intro hmem
    obtain ⟨request, hrequest, hseqnum⟩ := List.mem_map.mp hmem
    obtain ⟨ep, hep⟩ := (Queues.mem_elements_iff h.distinct).mp hrequest
    exact hnone ep request hep hseqnum

theorem adds_deliver {index : Nat} {message : List UInt8}
    (channel : InEndpointChannelBase MessageBuffer (List UInt8) Handler) :
    Adds [] [] channel (MessageInChannel.deliver index message channel) := by
  refine Adds.trans ?_ (adds_trySendPendingLocked _)
  exact adds_of_eq rfl rfl rfl rfl

theorem adds_same_or_sent
    (h : channel' = channel ∨ channel' = trySendPendingLocked derived channel) :
    Adds [] [] channel channel' := by
  rcases h with rfl | rfl
  · exact adds_of_eq rfl rfl rfl rfl
  · exact adds_trySendPendingLocked _

variable [DecidableEq Handler]

/-- What a message channel does without the receiver. -/
theorem adds_messageStep {s t : MessageInChannel Handler} {a : MessageAction Handler}
    (ha : ∀ b, a = .base b → ofReceiver b = false) (h : s.step a = some t) :
    Adds [] [] s.channel t.channel := by
  cases MessageInChannel.effect_of_step h with
  | base hstep => exact adds_step (ha _ rfl) hstep
  | limited | opened | moved => exact adds_of_eq rfl rfl rfl rfl
  | pushed | delivered => exact adds_deliver _

theorem adds_byteStreamStep {s t : ByteStreamInChannel Handler} {a : ByteStreamAction Handler}
    (ha : ∀ b, a = .base b → ofReceiver b = false) (h : s.step a = some t) :
    Adds [] [] s.channel t.channel := by
  cases ByteStreamInChannel.effect_of_step h with
  | base hb hstep => exact adds_step (ha _ rfl) hstep
  | connected => exact adds_of_eq rfl rfl (by simp [allReplies, onNewConnection]) rfl
  | resized | opened => exact adds_of_eq rfl rfl rfl rfl
  | written =>
      refine Adds.trans ?_ (adds_trySendPendingLocked _)
      exact adds_of_eq rfl rfl rfl rfl
  | moved hcall hopen hpc hchannel => exact adds_same_or_sent hchannel
  | stored hcall hopen hconnected hchannel =>
      have hadds := adds_same_or_sent hchannel
      exact ⟨hadds.accepted, hadds.cancelled, hadds.replies, hadds.dropped⟩
  | sent => exact adds_trySendPendingLocked _

end InChannel

section OutChannel

open OutEndpointChannelBase hiding create cancelPending onNewConnection onDisconnection enqueue
open OutChannelRun OutChannelLedger

variable {Handler : Type} {s t : OutChannelRun Handler} {a : OutChannelAction}
  {came : List PendingRequest} {left : List Departure}

def outTally (s : OutChannelRun Handler) : Tally UInt32 :=
  .ofLedger (s.arrived.map (·.seqnum)) (ledger s)

theorem balanced_outTally (h : Settled s) : (outTally s).Balanced :=
  Tally.balanced_ofLedger h.accounted (List.length_map _)

theorem waiting_outTally (h : Settled s) (seqnum : UInt32) :
    (outTally s).waiting seqnum = (s.channel.pending.map (·.seqnum)).count seqnum := by
  have hnumbers : (ledger s).waiting.map Prod.snd = s.channel.pending.map (·.number) := by
    simp [ledger]
  refine (congrArg (Tally.countOf _ · seqnum) hnumbers).trans ?_
  refine Tally.countOf_map fun request hmem => ?_
  rw [List.getElem?_map, h.arrived request (List.mem_append_left _ hmem), Option.map_some]

/-- Every request has a transfer, and so is answered when it is taken. -/
def WithTransfers (s : OutChannelRun Handler) : Prop :=
  ∀ request ∈ s.arrived, request.transfer.isSome = true

/-- The request that is answered as it leaves. -/
def answeredRequest : Departure → Option PendingRequest
  | .taken request _ => some request
  | .refused request _ => some request
  | _ => none

theorem map_seqnum_answer {departures : List Departure}
    (h : ∀ departure ∈ departures, (request departure).transfer.isSome = true) :
    (departures.filterMap answer : List (UsbIpRetSubmit Handler)).map (·.header.seqnum) =
      (departures.filterMap answeredRequest).map (·.seqnum) := by
  induction departures with
  | nil => rfl
  | cons departure departures ih =>
      have hrest := ih fun departure hmem => h departure (List.mem_cons_of_mem _ hmem)
      cases departure with
      | taken r call =>
          have htransfer : r.transfer.isSome = true := h _ List.mem_cons_self
          obtain ⟨trx, htrx⟩ := Option.isSome_iff_exists.mp htransfer
          have hanswer : (answer (.taken r call) : Option (UsbIpRetSubmit Handler)) =
              some (.createRetSubmitOkWithoutData r.seqnum
                (UInt32.ofNat (GenericTransferOperator.getTransferData trx []).1)) := by
            rw [answer, takeLockedReply, htrx]
            rfl
          rw [List.filterMap_cons_some hanswer, List.map_cons, hrest]
          rfl
      | refused r held => exact congrArg (r.seqnum :: ·) hrest
      | cancelled r => exact hrest
      | dropped r => exact hrest

theorem perm_answeredRequest (departures : List Departure) :
    ((departures.filterMap takenNumber ++ departures.filterMap refusedNumber).map Prod.snd).Perm
      ((departures.filterMap answeredRequest).map (·.number)) := by
  induction departures with
  | nil => exact List.Perm.refl _
  | cons departure departures ih =>
      cases departure with
      | taken r call => exact ih.cons r.number
      | refused r held =>
          rw [List.map_append] at ih ⊢
          exact List.perm_middle.trans (ih.cons r.number)
      | cancelled r => exact ih
      | dropped r => exact ih

theorem answered_outTally (h : Settled s) (htransfers : WithTransfers s) (seqnum : UInt32) :
    (outTally s).answered seqnum = (s.replies.map (·.header.seqnum)).count seqnum := by
  have hrequest (departure : Departure) (hmem : departure ∈ s.departures) :
      s.arrived[(request departure).number]? = some (request departure) :=
    h.arrived _ (List.mem_append_right _ (List.mem_map_of_mem hmem))
  rw [h.replies, map_seqnum_answer fun departure hmem =>
    htransfers _ (List.mem_of_getElem? (hrequest departure hmem))]
  refine (List.Perm.countP_eq _ (perm_answeredRequest s.departures)).trans ?_
  refine Tally.countOf_map fun r hmem => ?_
  obtain ⟨departure, hdeparture, hr⟩ := List.mem_filterMap.mp hmem
  obtain rfl : request departure = r := by
    cases departure with
    | taken | refused => exact Option.some.inj hr
    | cancelled | dropped => cases hr
  rw [List.getElem?_map, hrequest departure hdeparture, Option.map_some]

theorem map_cancelledNumber {labels : List UInt32}
    (h : ∀ departure ∈ left,
      labels[(request departure).number]? = some (request departure).seqnum) :
    (left.filterMap cancelledNumber).map (fun entry => labels[entry.2]?) =
      (left.filterMap cancelledSeqnum).map some := by
  induction left with
  | nil => rfl
  | cons departure left ih =>
      have hrest := ih fun departure hmem => h departure (List.mem_cons_of_mem _ hmem)
      cases departure with
      | cancelled r =>
          have hlabel : labels[r.number]? = some r.seqnum := h _ List.mem_cons_self
          exact congrArg₂ List.cons hlabel hrest
      | taken | refused | dropped => exact hrest

/-- The requests with which a step adds to the tally. -/
theorem moves_outTally (hs : Settled s) (ht : Settled t) (harrived : t.arrived = s.arrived ++ came)
    (hdepartures : t.departures = s.departures ++ left) :
    Tally.Moves (came.map (·.seqnum)) (left.filterMap cancelledSeqnum) (outTally s)
      (outTally t) := by
  have hkept {β : Type} (f : Departure → Option β) :
      s.departures.filterMap f <+: t.departures.filterMap f := by
    rw [hdepartures, List.filterMap_append]
    exact List.prefix_append _ _
  have hwithdrawn : (ledger t).withdrawn =
      (ledger s).withdrawn ++ left.filterMap cancelledNumber := by
    change t.departures.filterMap cancelledNumber = s.departures.filterMap cancelledNumber ++ _
    rw [hdepartures, List.filterMap_append]
  rw [outTally, outTally, harrived, List.map_append]
  refine Tally.moves_ofLedger hs.accounted (List.length_map _) (hkept _) (hkept _) (hkept _)
    hwithdrawn (map_cancelledNumber fun departure hmem => ?_)
  have hleft : request departure ∈ t.departures.map request := by
    rw [hdepartures]
    exact List.mem_map_of_mem (List.mem_append_right _ hmem)
  rw [← List.map_append, ← harrived, List.getElem?_map,
    ht.arrived _ (List.mem_append_right _ hleft), Option.map_some]

/-- A connected channel takes the request in, or refuses it. -/
theorem moves_onOutRequest {ep : UInt8} {seqnum : UInt32} {transfer : Option GenericTransfer}
    {setupReq : Option SetupPacket} {notified : Option Nat} (hs : Settled s)
    (h : s.onOutRequest ep seqnum transfer setupReq notified = some t) :
    Tally.Moves (if s.channel.disconnected then [] else [seqnum]) [] (outTally s) (outTally t) := by
  have ht : Settled t := settled_step (a := .onOutRequest ep seqnum transfer setupReq notified) hs h
  unfold onOutRequest at h
  dsimp only at h
  split at h
  next hdisconnected =>
    obtain rfl := Option.some.inj h
    rw [if_pos hdisconnected]
    exact Tally.Moves.rfl
  next hconnected =>
    rw [if_neg hconnected]
    split at h
    next =>
      obtain rfl := Option.some.inj h
      exact moves_outTally hs ht rfl rfl
    next =>
      obtain ⟨calls, -, rfl⟩ := Option.map_eq_some_iff.mp h
      exact moves_outTally hs ht rfl (List.append_nil _).symm

theorem moves_cancelOut (unlinkSeqnum : UInt32) (h : Settled s) :
    (s.channel.cancelPending unlinkSeqnum).isSome = true ∧
        Tally.Moves [] [unlinkSeqnum] (outTally s) (outTally (s.cancelPending unlinkSeqnum)) ∨
      (s.channel.cancelPending unlinkSeqnum).isSome = false ∧
        outTally (s.cancelPending unlinkSeqnum) = outTally s ∧
        (outTally s).waiting unlinkSeqnum = 0 := by
  have ht : Settled (s.cancelPending unlinkSeqnum) :=
    settled_step (a := .cancelPending unlinkSeqnum) h rfl
  unfold OutChannelRun.cancelPending OutEndpointChannelBase.cancelPending at ht ⊢
  cases htake : Queues.takeFirst (·.seqnum == unlinkSeqnum) s.channel.pending with
  | none =>
      refine .inr ⟨rfl, rfl, ?_⟩
      rw [waiting_outTally h, List.count_eq_zero]
      intro hmem
      obtain ⟨r, hr, hseqnum⟩ := List.mem_map.mp hmem
      simpa [hseqnum] using Queues.takeFirst_eq_none_iff.mp htake r hr
  | some taken =>
      obtain ⟨-, -, -, -, hseqnum, -⟩ := Queues.takeFirst_cases htake
      simp only [htake] at ht
      refine .inl ⟨rfl, ?_⟩
      obtain rfl : taken.1.seqnum = unlinkSeqnum := by simpa using hseqnum
      exact @moves_outTally _ s _ [] [.cancelled taken.1] h ht (List.append_nil _).symm rfl

/-- The actions that the receiver's calls to the channel are. -/
def outOfReceiver : OutChannelAction → Bool
  | .onOutRequest .. => true
  | .cancelPending _ => true
  | _ => false

theorem arrived_of_step (ha : outOfReceiver a = false) (h : s.step a = some t) :
    t.arrived = s.arrived := by
  have hlocked (index : Nat) (call : TakeCall) (timedOut : Bool) :
      (s.locked index call timedOut).arrived = s.arrived := by
    unfold locked
    split
    · rfl
    · rfl
  cases a with
  | onOutRequest => cases ha
  | cancelPending => cases ha
  | tryTake =>
      obtain rfl := Option.some.inj h
      unfold tryTake
      split
      · rfl
      · rfl
  | lock index =>
      simp only [step] at h
      split at h
      next call hcall =>
        split at h
        next => exact Option.some.inj h ▸ hlocked index call false
        next timedOut hpc => exact Option.some.inj h ▸ hlocked index call timedOut
        next => cases h
      next => cases h
  | wake index timedOut =>
      simp only [step] at h
      split at h
      next call hcall =>
        obtain ⟨-, heq⟩ := Option.ite_none_right_eq_some.mp h
        exact Option.some.inj heq ▸ rfl
      next => cases h
  | notifyAll =>
      obtain ⟨-, heq⟩ := Option.ite_none_right_eq_some.mp h
      exact Option.some.inj heq ▸ rfl
  | take timeoutMs => exact Option.some.inj h ▸ rfl
  | onDisconnection => exact Option.some.inj h ▸ rfl
  | onNewConnection => exact Option.some.inj h ▸ rfl

theorem moves_outStep (hs : Settled s) (ha : outOfReceiver a = false) (h : s.step a = some t) :
    Tally.Moves [] [] (outTally s) (outTally t) := by
  have ht := settled_step hs h
  have hsame := arrived_of_step ha h
  have harrived : t.arrived = s.arrived ++ [] := hsame.trans (List.append_nil _).symm
  cases effect_of_step h with
  | refused | enqueued => exact absurd hsame (by simp [refuse, enqueue])
  | cancelled => cases ha
  | missed => exact Tally.Moves.rfl
  | @taken _ r rest index => exact moves_outTally hs ht harrived rfl
  | dropped =>
      have hnone : (s.channel.pending.map .dropped).filterMap cancelledSeqnum = [] :=
        filterMap_dropped (fun _ => rfl) _
      have hmoves := moves_outTally hs ht harrived rfl
      rw [hnone] at hmoves
      exact hmoves
  | connected | moved => exact moves_outTally hs ht harrived (List.append_nil _).symm

end OutChannel

end Usbipdcpp.VirtualDevice.ChannelTally
