import Usbipdcpp.VirtualDevice.PipeStreams

namespace Usbipdcpp.VirtualDevice.PipeNotices

open Foundation.KeyedList Foundation.KeyedQueues Foundation.TransitionSystem
open OutEndpointChannelBase hiding create cancelPending onNewConnection onDisconnection enqueue
open Protocol Utils PipeDevice PipeStreams

section Queues

variable {l : List (UInt8 × OutEndpointChannelBase)} {ep : UInt8}

/-- The queues of the OUT channels. -/
def queues (l : List (UInt8 × OutEndpointChannelBase)) : Queues UInt8 PendingRequest :=
  l.map fun entry => (entry.1, entry.2.pending)

/-- Every channel is connected, and takes any number of requests. -/
def Open (l : List (UInt8 × OutEndpointChannelBase)) : Prop :=
  ∀ entry ∈ l, entry.2.disconnected = false ∧ entry.2.maxPending = 0

theorem keys_queues : (queues l).map Prod.fst = l.map Prod.fst := by
  rw [queues, List.map_map]
  rfl

theorem queue_queues : Queues.queue ep (queues l) = (valueOf freshOut ep l).pending := by
  induction l with
  | nil => rfl
  | cons entry l ih =>
      rw [queues, List.map_cons, Queues.queue_cons, valueOf_cons]
      split
      · rfl
      · exact ih

theorem queues_upsert (channel : OutEndpointChannelBase) :
    queues (upsert ep channel l) = upsert ep channel.pending (queues l) := by
  induction l with
  | nil => rfl
  | cons entry l ih =>
      simp only [queues, upsert, List.map_cons] at ih ⊢
      split
      · rfl
      · rw [List.map_cons, ih]

theorem Open.found (ep : UInt8) (h : Open l) :
    (valueOf freshOut ep l).disconnected = false ∧ (valueOf freshOut ep l).maxPending = 0 := by
  by_cases hfresh : valueOf freshOut ep l = freshOut
  · rw [hfresh]
    exact ⟨rfl, rfl⟩
  · exact h _ (mem_of_valueOf_ne hfresh)

theorem Open.put {channel : OutEndpointChannelBase} (h : Open l)
    (hchannel : channel.disconnected = false ∧ channel.maxPending = 0) :
    Open (upsert ep channel l) := by
  induction l with
  | nil =>
      intro entry hmem
      rw [List.mem_singleton.mp hmem]
      exact hchannel
  | cons entry l ih =>
      obtain ⟨hentry, hrest⟩ := List.forall_mem_cons.mp h
      unfold upsert
      split
      · exact List.forall_mem_cons.mpr ⟨hchannel, hrest⟩
      · exact List.forall_mem_cons.mpr ⟨hentry, ih hrest⟩

theorem queues_enqueue (r : PendingRequest) :
    queues (upsert ep ((valueOf freshOut ep l).enqueue r) l) =
      Queues.enqueue ep r (queues l) := by
  rw [queues_upsert, Queues.enqueue, queue_queues]
  rfl

theorem without_popFront {r : PendingRequest} {channel : OutEndpointChannelBase}
    (hdistinct : Distinct Prod.fst (queues l))
    (h : (valueOf freshOut ep l).popFront = some (r, channel)) :
    ∃ after, Queues.Without (queues l) (queues (upsert ep channel l)) ep [] r after := by
  refine Queues.without_of_dequeue hdistinct ?_
  rw [Queues.dequeue, queue_queues, queues_upsert]
  unfold popFront at h
  cases hpending : (valueOf freshOut ep l).pending with
  | nil => simp [hpending] at h
  | cons r' rest =>
      obtain ⟨rfl, rfl⟩ := by simpa [hpending] using h
      rfl

/-- Taking a request out of the channels is taking it out of the queues. -/
theorem queues_cancelOut (unlinkSeqnum : UInt32) :
    (cancelOut unlinkSeqnum l).map (fun taken => (taken.1, queues taken.2)) =
      (Queues.takeFirstOfAny (·.seqnum == unlinkSeqnum) (queues l)).map fun taken =>
        (taken.1.2, taken.2) := by
  induction l with
  | nil => rfl
  | cons entry l ih =>
      obtain ⟨ep, channel⟩ := entry
      unfold cancelOut queues Queues.takeFirstOfAny OutEndpointChannelBase.cancelPending
      cases htake : Queues.takeFirst (·.seqnum == unlinkSeqnum) channel.pending with
      | some taken => simp [htake]
      | none =>
          simp only [List.map_cons, htake, Option.map_none, Option.map_map]
          have hrest := congrArg (Option.map fun taken : PendingRequest × _ =>
            (taken.1, (ep, channel.pending) :: taken.2)) ih
          simpa [Option.map_map, Function.comp_def, queues] using hrest

theorem open_cancelOut {unlinkSeqnum : UInt32} {r : PendingRequest}
    {l' : List (UInt8 × OutEndpointChannelBase)} (h : Open l)
    (hcancel : cancelOut unlinkSeqnum l = some (r, l')) :
    Open l' ∧ l'.map Prod.fst = l.map Prod.fst := by
  induction l generalizing l' with
  | nil => cases hcancel
  | cons entry l ih =>
      obtain ⟨hentry, hrest⟩ := List.forall_mem_cons.mp h
      unfold cancelOut at hcancel
      split at hcancel
      next r' channel' hfound =>
        obtain ⟨rfl, rfl⟩ := Prod.mk.inj (Option.some.inj hcancel)
        obtain ⟨taken, -, heq⟩ := Option.map_eq_some_iff.mp hfound
        obtain ⟨-, rfl⟩ := Prod.mk.inj heq
        exact ⟨List.forall_mem_cons.mpr ⟨hentry, hrest⟩, rfl⟩
      next =>
        obtain ⟨⟨r', rest⟩, hfound, heq⟩ := Option.map_eq_some_iff.mp hcancel
        obtain ⟨rfl, rfl⟩ := Prod.mk.inj heq
        obtain ⟨hopen, hkeys⟩ := ih hrest hfound
        exact ⟨List.forall_mem_cons.mpr ⟨hentry, hopen⟩,
          by rw [List.map_cons, List.map_cons, hkeys]⟩

end Queues

variable {Handler : Type} {s t : PipeDevice Handler} {a : PipeAction Handler}

/-- The sequence number of the request that an action brings for `read`, if it brings one. -/
def arrivalSeqnum : PipeAction Handler → Option UInt32
  | .forwardTransfer ep seqnum _ _ _ => if isIn ep then none else some seqnum
  | .onPipeControlRequest _ seqnum _ _ _ => some seqnum
  | _ => none

/-- The request of an IN channel that a request for `read` announces. -/
def announced (s : PipeDevice Handler) (r : PendingRequest) : Option (Nat × Nat) :=
  s.arrived[r.number]?.bind PipeArrival.inRequest

theorem announced_eq {r : PendingRequest} {inRequest : Option (Nat × Nat)}
    (h : (s.arrived.map PipeArrival.inRequest)[r.number]? = some inRequest) :
    announced s r = inRequest := by
  rw [List.getElem?_map] at h
  obtain ⟨arrival, harrival, rfl⟩ := Option.map_eq_some_iff.mp h
  rw [announced, harrival, Option.bind_some]

/-- The OUT channels are as the device makes them. -/
structure Shape (s : PipeDevice Handler) : Prop where
  opened : Open s.outChannels
  distinct : Distinct Prod.fst s.outChannels

theorem Shape.distinct_queues (h : Shape s) : Distinct Prod.fst (queues s.outChannels) := by
  rw [Distinct, keys_queues]
  exact h.distinct

theorem pending_eq (s : PipeDevice Handler) :
    s.pending = Queues.elements (queues s.outChannels) := by
  rw [PipeDevice.pending, Queues.elements, queues, List.flatMap_map]

theorem mem_pending_iff (h : Shape s) {r : PendingRequest} :
    r ∈ s.pending ↔ ∃ ep, r ∈ Queues.queue ep (queues s.outChannels) := by
  rw [pending_eq, Queues.mem_elements_iff h.distinct_queues]

/-- What `read` and the unlinks see of the device. -/
structure Books (Handler : Type) where
  queues : Queues UInt8 PendingRequest
  arrived : List PipeArrival
  reads : List PendingRequest
  dropped : List PendingRequest
  replies : List (UsbIpRetSubmit Handler)
  unlinks : List PipeUnlink

def books (s : PipeDevice Handler) : Books Handler where
  queues := queues s.outChannels
  arrived := s.arrived
  reads := s.reads
  dropped := s.dropped
  replies := s.replies
  unlinks := s.unlinks

/-- What a step does to the requests for `read`. -/
inductive Effect (s : PipeDevice Handler) (a : PipeAction Handler) (t : PipeDevice Handler) : Prop
  | kept {queues' : Queues UInt8 PendingRequest} (hperm : (queues s.outChannels).Perm queues')
      (h : books t = { books s with queues := queues' })
  | arrived {r : PendingRequest} {inRequest : Option (Nat × Nat)}
      (hseqnum : arrivalSeqnum a = some r.seqnum) (hnumber : r.number = s.arrived.length)
      (hin : ∀ id number, inRequest = some (id, number) → number = s.nextNumber id)
      (h : books t = { books s with
        queues := Queues.enqueue r.ep r (queues s.outChannels)
        arrived := s.arrived ++ [{ request := r, inRequest }] })
  | taken {ep : UInt8} {r : PendingRequest} {outChannels : List (UInt8 × OutEndpointChannelBase)}
      {after : List PendingRequest} (htake : takeOne s.outChannels = some (r, outChannels))
      (hwithout : Queues.Without (queues s.outChannels) (queues outChannels) ep [] r after)
      (h : books t = { books s with
        queues := queues outChannels
        reads := s.reads ++ [r]
        replies := s.replies ++ (takeLockedReply r).toList })
  | cancelledIn {unlinkSeqnum cmdSeqnum : UInt32} {id number : Nat}
      {left : InEndpointChannelBase ByteBuffer UInt8 Handler}
      (ha : a = .onPipeUnlink unlinkSeqnum cmdSeqnum)
      (hfound : s.cancelIn unlinkSeqnum s.inChannels = some (id, number, left))
      (h : books t = { books s with
        unlinks := s.unlinks ++
          [{ unlinkSeqnum, cmdSeqnum, cancelled := some (.inRequest id number) }] })
  | cancelledOut {unlinkSeqnum cmdSeqnum : UInt32} {ep : UInt8} {r : PendingRequest}
      {queues' : Queues UInt8 PendingRequest} {before after : List PendingRequest}
      (hwithout : Queues.Without (queues s.outChannels) queues' ep before r after)
      (h : books t = { books s with
        queues := queues'
        unlinks := s.unlinks ++
          [{ unlinkSeqnum, cmdSeqnum, cancelled := some (.outRequest r) }] })
  | missed {unlinkSeqnum cmdSeqnum : UInt32}
      (h : books t = { books s with
        unlinks := s.unlinks ++ [{ unlinkSeqnum, cmdSeqnum, cancelled := none }] })
  | cleared (h : books t = { books s with queues := [], dropped := s.dropped ++ s.pending })

theorem Effect.same (h : books t = books s) : Effect s a t :=
  .kept (List.Perm.refl _) h

theorem books_onOutRequest (ep : UInt8) (seqnum : UInt32) (transfer : Option GenericTransfer)
    (setupReq : Option SetupPacket) (inRequest : Option (Nat × Nat)) (hs : Shape s) :
    Shape (s.onOutRequest ep seqnum transfer setupReq inRequest) ∧
      ∃ r : PendingRequest, r.ep = ep ∧ r.seqnum = seqnum ∧ r.number = s.arrived.length ∧
        books (s.onOutRequest ep seqnum transfer setupReq inRequest) = { books s with
          queues := Queues.enqueue ep r (queues s.outChannels)
          arrived := s.arrived ++ [{ request := r, inRequest }] } := by
  obtain ⟨hconnected, hunlimited⟩ := hs.opened.found ep
  have hroom : (s.getOutChannel ep).full = false := by simp [getOutChannel, full, hunlimited]
  unfold onOutRequest
  dsimp only
  rw [if_neg (by simp [getOutChannel, hconnected]), if_neg (by simp [hroom])]
  refine ⟨⟨hs.opened.put ⟨hconnected, hunlimited⟩, distinct_upsert hs.distinct⟩,
    { ep, seqnum, setupReq, transfer, number := s.arrived.length }, rfl, rfl, rfl, ?_⟩
  rw [books, ← queues_enqueue]
  rfl

theorem nextNumber_getInChannel (ep : UInt8) (s : PipeDevice Handler) (id : Nat) :
    (s.getInChannel ep).2.nextNumber id = s.nextNumber id := by
  rcases getInChannel_cases ep s with ⟨id', -, hget⟩ | ⟨-, hget⟩
  · rw [hget]
  · rw [hget]
    unfold nextNumber
    dsimp only
    rw [List.getElem?_append]
    split_ifs with hlt
    · rfl
    · rw [List.getElem?_singleton, List.getElem?_eq_none (Nat.le_of_not_lt hlt)]
      split_ifs
      · rfl
      · rfl

theorem shape_getInChannel (ep : UInt8) (hs : Shape s) :
    Shape (s.getInChannel ep).2 ∧ books (s.getInChannel ep).2 = books s := by
  rcases getInChannel_cases ep s with ⟨id', -, hget⟩ | ⟨-, hget⟩
  · rw [hget]
    exact ⟨hs, rfl⟩
  · rw [hget]
    exact ⟨⟨hs.opened, hs.distinct⟩, rfl⟩

theorem effect_onOutRequest {ep : UInt8} {seqnum : UInt32} {transfer : Option GenericTransfer}
    {setupReq : Option SetupPacket} (hs : Shape s) (hseqnum : arrivalSeqnum a = some seqnum) :
    Shape (s.onOutRequest ep seqnum transfer setupReq none) ∧
      Effect s a (s.onOutRequest ep seqnum transfer setupReq none) := by
  obtain ⟨hshape, r, rfl, rfl, hnumber, hbooks⟩ :=
    books_onOutRequest ep seqnum transfer setupReq none hs
  exact ⟨hshape, .arrived hseqnum hnumber (fun _ _ hnone => by cases hnone) hbooks⟩

theorem effect_forwardTransfer {ep : UInt8} {seqnum length : UInt32} {owner : Option Handler}
    {transfer : GenericTransfer} (hs : Shape s) :
    Shape (s.forwardTransfer ep seqnum length owner transfer) ∧
      Effect s (.forwardTransfer ep seqnum length owner transfer)
        (s.forwardTransfer ep seqnum length owner transfer) := by
  unfold forwardTransfer
  split
  next =>
    obtain ⟨hshape, hbooks⟩ := shape_getInChannel ep hs
    exact ⟨⟨hshape.opened, hshape.distinct⟩, .same hbooks⟩
  next hout => exact effect_onOutRequest hs (by simp [arrivalSeqnum, hout])

theorem effect_onPipeControlRequest {setup : SetupPacket} {seqnum length : UInt32}
    {owner : Option Handler} {transfer : GenericTransfer} (hs : Shape s) :
    Shape (s.onPipeControlRequest setup seqnum length owner transfer) ∧
      Effect s (.onPipeControlRequest setup seqnum length owner transfer)
        (s.onPipeControlRequest setup seqnum length owner transfer) := by
  unfold onPipeControlRequest
  split
  next => exact effect_onOutRequest hs rfl
  next =>
    obtain ⟨hshape, hbooks⟩ := shape_getInChannel 0 hs
    have hnext := nextNumber_getInChannel 0 s (s.getInChannel 0).1
    obtain ⟨⟨id, u⟩, hget⟩ : ∃ found, found = s.getInChannel 0 := ⟨_, rfl⟩
    rw [← hget] at hshape hbooks hnext ⊢
    dsimp only at hshape hbooks hnext ⊢
    have hrequest : Shape (u.onInRequest id 0 seqnum length owner transfer) :=
      ⟨hshape.opened, hshape.distinct⟩
    obtain ⟨hshape', r, hep, hseqnum, hnumber, hbooks'⟩ :=
      books_onOutRequest 0 seqnum none (some setup) (some (id, u.nextNumber id)) hrequest
    have hsame : books (u.onInRequest id 0 seqnum length owner transfer) = books s := hbooks
    have hqueues : queues (u.onInRequest id 0 seqnum length owner transfer).outChannels =
        queues s.outChannels := congrArg Books.queues hsame
    have harrived : (u.onInRequest id 0 seqnum length owner transfer).arrived = s.arrived :=
      congrArg Books.arrived hsame
    rw [hsame, hqueues, harrived] at hbooks'
    refine ⟨hshape', .arrived (by rw [hseqnum]; rfl) (hnumber.trans (congrArg _ harrived))
      (fun id' number heq => ?_) (by rw [hep]; exact hbooks')⟩
    obtain ⟨rfl, rfl⟩ := Prod.mk.inj (Option.some.inj heq)
    exact hnext

theorem shape_cancelOut {unlinkSeqnum : UInt32} {r : PendingRequest}
    {outChannels : List (UInt8 × OutEndpointChannelBase)} (hs : Shape s)
    (h : cancelOut unlinkSeqnum s.outChannels = some (r, outChannels)) :
    (Open outChannels ∧ Distinct Prod.fst outChannels) ∧
      ∃ ep before after,
        Queues.Without (queues s.outChannels) (queues outChannels) ep before r after := by
  obtain ⟨hopen, hkeys⟩ := open_cancelOut hs.opened h
  refine ⟨⟨hopen, by rw [Distinct, hkeys]; exact hs.distinct⟩, ?_⟩
  have hqueues := @queues_cancelOut s.outChannels unlinkSeqnum
  rw [h, Option.map_some] at hqueues
  obtain ⟨⟨⟨ep, r'⟩, queues'⟩, htaken, heq⟩ := Option.map_eq_some_iff.mp hqueues.symm
  obtain ⟨hr, hleft⟩ := Prod.mk.inj heq
  dsimp only at hr hleft
  rw [hr, hleft] at htaken
  obtain ⟨before, after, hwithout, -⟩ := Queues.without_of_takeFirstOfAny hs.distinct_queues htaken
  exact ⟨ep, before, after, hwithout⟩

theorem effect_onPipeUnlink {unlinkSeqnum cmdSeqnum : UInt32} (hs : Shape s) :
    Shape (s.onPipeUnlink unlinkSeqnum cmdSeqnum) ∧
      Effect s (.onPipeUnlink unlinkSeqnum cmdSeqnum) (s.onPipeUnlink unlinkSeqnum cmdSeqnum) := by
  unfold onPipeUnlink
  split
  next id number left hfound => exact ⟨⟨hs.opened, hs.distinct⟩, .cancelledIn rfl hfound rfl⟩
  next =>
    split
    next r outChannels hcancel =>
      obtain ⟨⟨hopen, hdistinct⟩, ep, before, after, hwithout⟩ := shape_cancelOut hs hcancel
      exact ⟨⟨hopen, hdistinct⟩, .cancelledOut hwithout rfl⟩
    next => exact ⟨⟨hs.opened, hs.distinct⟩, .missed rfl⟩

/-- The loop in `take_one` takes the front of a queue. -/
theorem without_takeOne {r : PendingRequest} {outChannels : List (UInt8 × OutEndpointChannelBase)}
    (hs : Shape s) (h : takeOne s.outChannels = some (r, outChannels)) :
    (Open outChannels ∧ Distinct Prod.fst outChannels) ∧
      ∃ ep after,
        Queues.Without (queues s.outChannels) (queues outChannels) ep [] r after := by
  unfold takeOne at h
  split at h
  next => cases h
  next ep _ _ =>
    obtain ⟨⟨r', channel⟩, hpop, heq⟩ := Option.map_eq_some_iff.mp h
    obtain ⟨rfl, rfl⟩ := Prod.mk.inj heq
    obtain ⟨after, hwithout⟩ := without_popFront hs.distinct_queues hpop
    refine ⟨⟨hs.opened.put ?_, distinct_upsert hs.distinct⟩, ep, after, hwithout⟩
    have hfound := hs.opened.found ep
    unfold popFront at hpop
    split at hpop
    next => cases hpop
    next =>
      obtain ⟨-, rfl⟩ := Prod.mk.inj (Option.some.inj hpop)
      exact hfound

theorem effect_read (hs : Shape s) : Shape s.read ∧ Effect s .read s.read := by
  unfold PipeDevice.read
  split
  next => exact ⟨hs, .same rfl⟩
  next r outChannels htake =>
    obtain ⟨⟨hopen, hdistinct⟩, ep, after, hwithout⟩ := without_takeOne hs htake
    exact ⟨⟨hopen, hdistinct⟩, .taken htake hwithout rfl⟩

theorem books_lookUp {index : Nat} {call : PipeWrite} (hs : Shape s) :
    Shape (s.lookUp index call) ∧ books (s.lookUp index call) = books s := by
  unfold lookUp
  split
  next => exact ⟨⟨hs.opened, hs.distinct⟩, rfl⟩
  next =>
    obtain ⟨hshape, hbooks⟩ := shape_getInChannel call.ep hs
    dsimp only
    split
    next => exact ⟨⟨hshape.opened, hshape.distinct⟩, hbooks⟩
    next => exact ⟨hshape, hbooks⟩

theorem queues_perm {l l' : List (UInt8 × OutEndpointChannelBase)} (h : l.Perm l') :
    (queues l).Perm (queues l') :=
  h.map _

theorem books_eq {b : Books Handler} (h : books t = b) :
    queues t.outChannels = b.queues ∧ t.arrived = b.arrived ∧ t.reads = b.reads ∧
      t.dropped = b.dropped ∧ t.replies = b.replies ∧ t.unlinks = b.unlinks := by
  rw [← h]
  exact ⟨rfl, rfl, rfl, rfl, rfl, rfl⟩

theorem lt_arrived {r : PendingRequest}
    (h : s.arrived[r.number]?.map PipeArrival.request = some r) :
    r.number < s.arrived.length := by
  obtain ⟨_, harrived, -⟩ := Option.map_eq_some_iff.mp h
  exact (List.getElem?_eq_some_iff.mp harrived).1

theorem announced_append {r : PendingRequest} {new : List PipeArrival}
    (harrived : t.arrived = s.arrived ++ new)
    (h : s.arrived[r.number]?.map PipeArrival.request = some r) :
    t.arrived[r.number]?.map PipeArrival.request = some r ∧ announced t r = announced s r := by
  have hsame : t.arrived[r.number]? = s.arrived[r.number]? := by
    rw [harrived, List.getElem?_append_left (lt_arrived h)]
  unfold announced
  rw [hsame]
  exact ⟨h, rfl⟩

/-- A control IN request that an unlink finds has been announced to the application. -/
def NoticeRead (s : PipeDevice Handler) : PipeAction Handler → Prop
  | .onPipeUnlink unlinkSeqnum _ =>
      ∀ id number left, s.cancelIn unlinkSeqnum s.inChannels = some (id, number, left) →
        ∀ r ∈ s.pending, announced s r ≠ some (id, number)
  | _ => True

/-- The requests that wait are the ones that arrived, and none of them announces a request that has
been cancelled; the numbers of those are not used again. -/
structure Noticed (s : PipeDevice Handler) : Prop where
  shape : Shape s
  recorded : ∀ r ∈ s.pending, s.arrived[r.number]?.map PipeArrival.request = some r
  noted : ∀ unlink ∈ s.unlinks, ∀ id number,
    unlink.cancelled = some (.inRequest id number) → number < s.nextNumber id
  cancelled : ∀ unlink ∈ s.unlinks, ∀ id number,
    unlink.cancelled = some (.inRequest id number) →
      ∀ r ∈ s.pending, announced s r ≠ some (id, number)

theorem pending_subset (hs : Shape s) (ht : Shape t)
    (hqueue : ∀ ep, ∀ r ∈ Queues.queue ep (queues t.outChannels),
      r ∈ Queues.queue ep (queues s.outChannels)) : ∀ r ∈ t.pending, r ∈ s.pending := by
  intro r hr
  obtain ⟨ep, hr⟩ := (mem_pending_iff ht).mp hr
  exact (mem_pending_iff hs).mpr ⟨ep, hqueue ep r hr⟩

/-- No request comes to wait. -/
theorem Noticed.of_subset (hs : Noticed s) (hshape : Shape t)
    (hpending : ∀ r ∈ t.pending, r ∈ s.pending) (harrived : t.arrived = s.arrived)
    (hnext : ∀ id, s.nextNumber id ≤ t.nextNumber id)
    (hunlinks : ∀ unlink ∈ t.unlinks, unlink ∈ s.unlinks ∨ ∀ id number,
      unlink.cancelled = some (.inRequest id number) → number < s.nextNumber id ∧
        ∀ r ∈ s.pending, announced s r ≠ some (id, number)) : Noticed t where
  shape := hshape
  recorded r hr := by
    rw [harrived]
    exact hs.recorded r (hpending r hr)
  noted unlink hunlink id number hcancelled := by
    rcases hunlinks unlink hunlink with hold | hnew
    · exact (hs.noted unlink hold id number hcancelled).trans_le (hnext id)
    · exact (hnew id number hcancelled).1.trans_le (hnext id)
  cancelled unlink hunlink id number hcancelled r hr := by
    rw [announced, harrived]
    rcases hunlinks unlink hunlink with hold | hnew
    · exact hs.cancelled unlink hold id number hcancelled r (hpending r hr)
    · exact (hnew id number hcancelled).2 r (hpending r hr)

/-- A step that cancels nothing. -/
theorem Noticed.keep (hs : Noticed s) (hshape : Shape t)
    (hqueues : ∀ ep, ∀ r ∈ Queues.queue ep (queues t.outChannels),
      r ∈ Queues.queue ep (queues s.outChannels))
    (harrived : t.arrived = s.arrived) (hnext : ∀ id, s.nextNumber id ≤ t.nextNumber id)
    (hunlinks : t.unlinks = s.unlinks) : Noticed t :=
  hs.of_subset hshape (pending_subset hs.shape hshape hqueues) harrived hnext
    fun _ hunlink => Or.inl (hunlinks ▸ hunlink)

/-- An unlink. -/
theorem Noticed.unlink {unlink : PipeUnlink} (hs : Noticed s) (hshape : Shape t)
    (hqueues : ∀ ep, ∀ r ∈ Queues.queue ep (queues t.outChannels),
      r ∈ Queues.queue ep (queues s.outChannels))
    (harrived : t.arrived = s.arrived) (hnext : ∀ id, s.nextNumber id ≤ t.nextNumber id)
    (hunlinks : t.unlinks = s.unlinks ++ [unlink])
    (hcancelled : ∀ id number, unlink.cancelled = some (.inRequest id number) →
      number < s.nextNumber id ∧ ∀ r ∈ s.pending, announced s r ≠ some (id, number)) :
    Noticed t := by
  refine hs.of_subset hshape (pending_subset hs.shape hshape hqueues) harrived hnext
    fun unlink' hunlink' => ?_
  rw [hunlinks] at hunlink'
  refine (List.mem_append.mp hunlink').imp_right fun hmem => ?_
  rw [List.mem_singleton.mp hmem]
  exact hcancelled

/-- What waits after an arrival. -/
theorem mem_pending_arrive {r r' : PendingRequest} (hs : Shape s) (ht : Shape t)
    (hqueues : queues t.outChannels = Queues.enqueue r.ep r (queues s.outChannels))
    (hr' : r' ∈ t.pending) : r' ∈ s.pending ∨ r' = r := by
  obtain ⟨ep, hr'⟩ := (mem_pending_iff ht).mp hr'
  rw [hqueues, Queues.queue_enqueue] at hr'
  split at hr'
  next =>
    rcases List.mem_append.mp hr' with hr' | hr'
    · exact Or.inl ((mem_pending_iff hs).mpr ⟨ep, hr'⟩)
    · exact Or.inr (List.mem_singleton.mp hr')
  next => exact Or.inl ((mem_pending_iff hs).mpr ⟨ep, hr'⟩)

/-- A request arrives. -/
theorem Noticed.arrive {r : PendingRequest} {inRequest : Option (Nat × Nat)} (hs : Noticed s)
    (hshape : Shape t) (hnumber : r.number = s.arrived.length)
    (hin : ∀ id number, inRequest = some (id, number) → number = s.nextNumber id)
    (hnext : ∀ id, s.nextNumber id ≤ t.nextNumber id)
    (hqueues : queues t.outChannels = Queues.enqueue r.ep r (queues s.outChannels))
    (harrived : t.arrived = s.arrived ++ [{ request := r, inRequest }])
    (hunlinks : t.unlinks = s.unlinks) : Noticed t := by
  have hnewest : t.arrived[r.number]? = some { request := r, inRequest } := by
    rw [harrived, hnumber, List.getElem?_concat_length]
  refine ⟨hshape, fun r' hr' => ?_, fun unlink hunlink id number hcancelled => ?_,
    fun unlink hunlink id number hcancelled p hp => ?_⟩
  · rcases mem_pending_arrive hs.shape hshape hqueues hr' with hr' | rfl
    · exact (announced_append harrived (hs.recorded r' hr')).1
    · rw [hnewest]
      rfl
  · rw [hunlinks] at hunlink
    exact (hs.noted unlink hunlink id number hcancelled).trans_le (hnext id)
  · rw [hunlinks] at hunlink
    rcases mem_pending_arrive hs.shape hshape hqueues hp with hp | rfl
    · rw [(announced_append harrived (hs.recorded p hp)).2]
      exact hs.cancelled unlink hunlink id number hcancelled p hp
    · intro heq
      rw [announced, hnewest] at heq
      exact Nat.ne_of_lt (hs.noted unlink hunlink id number hcancelled) (hin id number heq)

theorem noticed_create : Noticed (create : PipeDevice Handler) where
  shape := ⟨fun _ hmem => absurd hmem List.not_mem_nil, List.nodup_nil⟩
  recorded _ hmem := absurd hmem List.not_mem_nil
  noted _ hmem := absurd hmem List.not_mem_nil
  cancelled _ hmem := absurd hmem List.not_mem_nil

section Steps

variable [DecidableEq Handler]

theorem books_streamStep {id : Nat} {b : ByteStreamAction Handler} (hs : Shape s)
    (h : s.streamStep id b = some t) : Shape t ∧ books t = books s := by
  unfold streamStep at h
  split at h
  next =>
    obtain ⟨stream, -, rfl⟩ := Option.map_eq_some_iff.mp h
    exact ⟨⟨hs.opened, hs.distinct⟩, rfl⟩
  next => cases h

theorem effect_of_step (hs : Shape s) (h : s.step a = some t) : Shape t ∧ Effect s a t := by
  cases a with
  | forwardTransfer ep seqnum length owner transfer =>
      obtain ⟨-, rfl⟩ := locked_eq_some h
      exact effect_forwardTransfer hs
  | onPipeControlRequest setup seqnum length owner transfer =>
      obtain ⟨-, rfl⟩ := locked_eq_some h
      exact effect_onPipeControlRequest hs
  | onPipeUnlink unlinkSeqnum cmdSeqnum =>
      obtain ⟨-, rfl⟩ := locked_eq_some h
      exact effect_onPipeUnlink hs
  | read =>
      obtain ⟨-, rfl⟩ := locked_eq_some h
      exact effect_read hs
  | write ep data timeoutMs answers =>
      obtain rfl := by simpa [step] using h
      exact ⟨⟨hs.opened, hs.distinct⟩, .same rfl⟩
  | lookUp index =>
      simp only [step] at h
      split at h
      next call hcall =>
        split at h
        next =>
          obtain ⟨-, rfl⟩ := locked_eq_some h
          exact (books_lookUp hs).imp_right .same
        next => cases h
      next => cases h
  | fill id call => exact (books_streamStep hs h).imp_right .same
  | wake id call timedOut => exact (books_streamStep hs h).imp_right .same
  | sendPending id call => exact (books_streamStep hs h).imp_right .same
  | setInFifoCapacity capacity =>
      obtain ⟨-, rfl⟩ := locked_eq_some h
      exact ⟨⟨hs.opened, hs.distinct⟩, .same rfl⟩
  | onDisconnection =>
      obtain ⟨-, rfl⟩ := locked_eq_some h
      exact ⟨⟨hs.opened, hs.distinct⟩, .same rfl⟩
  | closeChannel =>
      simp only [step] at h
      split at h
      next =>
        obtain rfl := Option.some.inj h
        exact ⟨⟨hs.opened, hs.distinct⟩, .same rfl⟩
      next => cases h
  | clear =>
      simp only [step] at h
      split at h
      next =>
        obtain rfl := Option.some.inj h
        exact ⟨⟨fun _ hmem => absurd hmem List.not_mem_nil, List.nodup_nil⟩, .cleared rfl⟩
      next => cases h
  | onNewConnection =>
      obtain ⟨-, rfl⟩ := locked_eq_some h
      exact ⟨⟨fun _ hmem => absurd hmem List.not_mem_nil, List.nodup_nil⟩, .cleared rfl⟩
  | rehash inChannels outChannels =>
      simp only [step] at h
      split at h
      next hperm =>
        obtain ⟨-, rfl⟩ := locked_eq_some h
        refine ⟨⟨fun entry hmem => hs.opened entry (hperm.2.mem_iff.mpr hmem), ?_⟩,
          .kept (queues_perm hperm.2) rfl⟩
        exact (hperm.2.map Prod.fst).nodup_iff.mp hs.distinct
      next => cases h

/-- An unlink that finds a request whose notice waits is the one step that leaves a notice of a
cancelled request. -/
theorem noticed_step (hs : Noticed s) (hkeyed : Keyed s)
    (hbooked : ∀ (id : Nat) (channel : PipeChannel Handler), s.channels[id]? = some channel →
      ChannelLedger.Booked channel.stream.channel)
    (hnotice : NoticeRead s a) (h : s.step a = some t) : Noticed t := by
  have hnext := nextNumber_of_step hkeyed h
  obtain ⟨hshape, heffect⟩ := effect_of_step hs.shape h
  cases heffect with
  | kept hperm hbooks =>
      obtain ⟨hqueues, harrived, -, -, -, hunlinks⟩ := books_eq hbooks
      dsimp only [books] at hqueues harrived hunlinks
      refine hs.keep hshape (fun ep r hr => ?_) harrived hnext hunlinks
      rw [hqueues] at hr
      exact Queues.queue_perm hs.shape.distinct_queues hperm ▸ hr
  | arrived hseqnum hnumber hin hbooks =>
      obtain ⟨hqueues, harrived, -, -, -, hunlinks⟩ := books_eq hbooks
      dsimp only [books] at hqueues harrived hunlinks
      exact hs.arrive hshape hnumber hin hnext hqueues harrived hunlinks
  | taken htake hwithout hbooks =>
      obtain ⟨hqueues, harrived, -, -, -, hunlinks⟩ := books_eq hbooks
      dsimp only [books] at hqueues harrived hunlinks
      exact hs.keep hshape (fun ep r hr => hwithout.mem_of_mem (hqueues ▸ hr)) harrived hnext
        hunlinks
  | cancelledIn ha hfound hbooks =>
      subst ha
      obtain ⟨hqueues, harrived, -, -, -, hunlinks⟩ := books_eq hbooks
      dsimp only [books] at hqueues harrived hunlinks
      refine hs.unlink hshape (fun ep r hr => hqueues ▸ hr) harrived hnext hunlinks
        fun id' number' hcancelled => ?_
      obtain ⟨rfl, rfl⟩ := by simpa using hcancelled
      exact ⟨lt_nextNumber_of_cancelIn hbooked hfound, hnotice _ _ _ hfound⟩
  | cancelledOut hwithout hbooks =>
      obtain ⟨hqueues, harrived, -, -, -, hunlinks⟩ := books_eq hbooks
      dsimp only [books] at hqueues harrived hunlinks
      exact hs.unlink hshape (fun ep r hr => hwithout.mem_of_mem (hqueues ▸ hr)) harrived hnext
        hunlinks fun id number hcancelled => by cases hcancelled
  | missed hbooks =>
      obtain ⟨hqueues, harrived, -, -, -, hunlinks⟩ := books_eq hbooks
      dsimp only [books] at hqueues harrived hunlinks
      exact hs.unlink hshape (fun ep r hr => hqueues ▸ hr) harrived hnext hunlinks
        fun id number hcancelled => by cases hcancelled
  | cleared hbooks =>
      obtain ⟨hqueues, harrived, -, -, -, hunlinks⟩ := books_eq hbooks
      dsimp only [books] at hqueues harrived hunlinks
      refine hs.keep hshape (fun ep r hr => ?_) harrived hnext hunlinks
      rw [hqueues] at hr
      exact absurd hr List.not_mem_nil

theorem noticed_of_reachable {G : PipeDevice Handler → PipeAction Handler → Prop}
    (hG : ∀ s a, G s a → NoticeRead s a) (h : ReachableUnder system G s) : Noticed s := by
  induction h with
  | initial hinit =>
      subst hinit
      exact noticed_create
  | step hreach hguard hstep ih =>
      exact noticed_step ih (keyed_of_reachable hreach)
        (fun _ _ hchannel => booked_of_reachable hreach hchannel) (hG _ _ hguard) hstep

end Steps

/-- A vendor request for four bytes. -/
def vendorIn : SetupPacket where
  requestType := 0xC0
  request := 1
  value := 0
  index := 0
  length := 4

end Usbipdcpp.VirtualDevice.PipeNotices
