import Usbipdcpp.VirtualDevice.PipeNotices

namespace Usbipdcpp.VirtualDevice.PipeReads

open Foundation.FifoLedger Foundation.KeyedList Foundation.KeyedQueues Foundation.TransitionSystem
open OutEndpointChannelBase hiding create cancelPending onNewConnection onDisconnection enqueue
open Protocol Utils PipeDevice PipeNotices PipeStreams

section Oldest

variable {l : List (UInt8 × OutEndpointChannelBase)} {ep : UInt8}

/-- `r` is at the front of a channel, and none at the front of another has arrived before it. -/
structure Leads (l : List (UInt8 × OutEndpointChannelBase)) (ep : UInt8) (r : PendingRequest) :
    Prop where
  front : ∃ channel rest, (ep, channel) ∈ l ∧ channel.pending = r :: rest
  least : ∀ entry ∈ l, ∀ r' ∈ entry.2.pending.head?, r.number ≤ r'.number

theorem Leads.concat {r : PendingRequest} {entry : UInt8 × OutEndpointChannelBase}
    (h : Leads l ep r) (hle : ∀ r' ∈ entry.2.pending.head?, r.number ≤ r'.number) :
    Leads (l ++ [entry]) ep r where
  front := by
    obtain ⟨channel, rest, hmem, hpending⟩ := h.front
    exact ⟨channel, rest, List.mem_append_left _ hmem, hpending⟩
  least e he := by
    rcases List.mem_append.mp he with he | he
    · exact h.least e he
    · rw [List.mem_singleton.mp he]
      exact hle

end Oldest

variable {Handler : Type} {s t : PipeDevice Handler} {a : PipeAction Handler}

def withdrawnNumber (unlink : PipeUnlink) : Option (UInt8 × Nat) :=
  match unlink.cancelled with
  | some (.outRequest request) => some (request.ep, request.number)
  | _ => none

/-- The books of `read`, which serves the requests that an unlink has not taken out of an OUT
channel. -/
def ledger (s : PipeDevice Handler) : Ledger UInt8 where
  arrived := s.arrived.length
  waiting := (queues s.outChannels).numbered (·.number)
  served := s.reads.map fun r => (r.ep, r.number)
  express := []
  withdrawn := s.unlinks.filterMap withdrawnNumber
  dropped := s.dropped.map fun r => (r.ep, r.number)

/-- Every request for `read` waits, has been read, cancelled or dropped, once; they are read in
the order of their arrival, none while one before it waits; one that announces a cancelled request
does not wait; and the replies are those to the requests with data that have been read. -/
structure InArrivalOrder (s : PipeDevice Handler) : Prop where
  accounted : (ledger s).Accounted
  arrived : ∀ r ∈ s.pending ++ s.reads, s.arrived[r.number]?.map PipeArrival.request = some r
  ordered : (s.reads.map (·.number)).Pairwise (· < ·)
  first : ∀ r ∈ s.reads, ∀ p ∈ s.pending, r.number < p.number
  cancelled : ∀ unlink ∈ s.unlinks, ∀ id number,
    unlink.cancelled = some (.inRequest id number) →
      ∀ r ∈ s.pending, announced s r ≠ some (id, number)
  replies : s.replies = s.reads.filterMap takeLockedReply

/-- What is kept besides: a queue has the requests of its endpoint only, and the comparison of the
sequence numbers of two that wait agrees with the order of their arrival. -/
structure Merged (s : PipeDevice Handler) : Prop where
  filed : ∀ ep, ∀ r ∈ Queues.queue ep (queues s.outChannels), r.ep = ep
  compared : ∀ r ∈ s.pending, ∀ r' ∈ s.pending,
    (seqnumNewer r.seqnum r'.seqnum = true ↔ r'.number < r.number)
  order : InArrivalOrder s

/-- No request comes to wait. -/
theorem Merged.of_subset (hs : Merged s) (hshape : Shape s) (ht : Noticed t)
    (hqueue : ∀ ep, ∀ r ∈ Queues.queue ep (queues t.outChannels),
      r ∈ Queues.queue ep (queues s.outChannels))
    (harrived : t.arrived = s.arrived) (hreads : t.reads = s.reads)
    (hreplies : t.replies = s.replies) (haccounted : (ledger t).Accounted) : Merged t := by
  have hpending := pending_subset hshape ht.shape hqueue
  refine ⟨fun ep r hr => hs.filed ep r (hqueue ep r hr),
    fun r hr r' hr' => hs.compared r (hpending r hr) r' (hpending r' hr'), haccounted,
    fun r hr => ?_, ?_, fun r hr p hp => ?_, ht.cancelled, ?_⟩
  · rcases List.mem_append.mp hr with hr | hr
    · exact ht.recorded r hr
    · rw [harrived]
      exact hs.order.arrived r (List.mem_append_right _ (hreads ▸ hr))
  · rw [hreads]
    exact hs.order.ordered
  · exact hs.order.first r (hreads ▸ hr) p (hpending p hp)
  · rw [hreplies, hreads]
    exact hs.order.replies

theorem seqnumNewer_self (seqnum : UInt32) : seqnumNewer seqnum seqnum = false := by
  rw [← Bool.not_eq_true, seqnumNewer_iff]
  simp

/-- A request arrives. -/
theorem Merged.arrive {r : PendingRequest} {inRequest : Option (Nat × Nat)} (hs : Merged s)
    (hshape : Shape s) (ht : Noticed t) (hnumber : r.number = s.arrived.length)
    (hwindow : ∀ p ∈ s.pending,
      0 < (r.seqnum - p.seqnum).toNat ∧ (r.seqnum - p.seqnum).toNat < 2 ^ 31)
    (h : books t = { books s with
      queues := Queues.enqueue r.ep r (queues s.outChannels)
      arrived := s.arrived ++ [{ request := r, inRequest }] }) : Merged t := by
  obtain ⟨hqueues, harrived, hreads, hdropped, hreplies, hunlinks⟩ := books_eq h
  dsimp only [books] at hqueues harrived hreads hdropped hreplies hunlinks
  have hpending : ∀ r' ∈ t.pending, r' ∈ s.pending ∨ r' = r := fun r' hr' =>
    mem_pending_arrive hshape ht.shape hqueues hr'
  have hold : ∀ r' ∈ s.pending ++ s.reads, r'.number < r.number := fun r' hr' => by
    rw [hnumber]
    exact lt_arrived (hs.order.arrived r' hr')
  have hnewer : ∀ p ∈ s.pending, seqnumNewer r.seqnum p.seqnum = true := fun p hp =>
    (seqnumNewer_iff _ _).mpr (hwindow p hp)
  refine ⟨?_, ?_, ?_, ?_, ?_, ?_, ht.cancelled, ?_⟩
  · intro ep r' hr'
    rw [hqueues, Queues.queue_enqueue] at hr'
    split at hr'
    next heq =>
      rcases List.mem_append.mp hr' with hr' | hr'
      · exact hs.filed ep r' hr'
      · rw [List.mem_singleton.mp hr', heq]
    next => exact hs.filed ep r' hr'
  · intro r' hr' p hp
    rcases hpending r' hr' with hr' | rfl
    · rcases hpending p hp with hp | rfl
      · exact hs.compared r' hr' p hp
      · rw [not_seqnumNewer_swap (hnewer r' hr')]
        exact iff_of_false Bool.false_ne_true
          (Nat.not_lt_of_lt (hold r' (List.mem_append_left _ hr')))
    · rcases hpending p hp with hp | rfl
      · exact iff_of_true (hnewer p hp) (hold p (List.mem_append_left _ hp))
      · rw [seqnumNewer_self]
        exact iff_of_false Bool.false_ne_true (Nat.lt_irrefl _)
  · have hledger : ledger t = { ledger s with
        arrived := (ledger s).arrived + 1
        waiting := (Queues.enqueue r.ep r (queues s.outChannels)).numbered (·.number) } := by
      simp [ledger, hqueues, harrived, hreads, hdropped, hunlinks]
    rw [hledger]
    have hsame : SameOrder
        ((Queues.enqueue r.ep r (queues s.outChannels)).numbered PendingRequest.number)
        ((queues s.outChannels).numbered PendingRequest.number ++ [(r.ep, r.number)]) :=
      Queues.sameOrder_enqueue hshape.distinct_queues
    rw [hnumber] at hsame
    exact hs.order.accounted.arrive hsame
  · intro r' hr'
    rcases List.mem_append.mp hr' with hr' | hr'
    · exact ht.recorded r' hr'
    · rw [hreads] at hr'
      exact (announced_append harrived (hs.order.arrived r' (List.mem_append_right _ hr'))).1
  · rw [hreads]
    exact hs.order.ordered
  · intro r' hr' p hp
    rw [hreads] at hr'
    rcases hpending p hp with hp | rfl
    · exact hs.order.first r' hr' p hp
    · exact hold r' (List.mem_append_right _ hr')
  · rw [hreplies, hreads]
    exact hs.order.replies

/-- The request that arrived first is read. -/
theorem Merged.take {ep : UInt8} {r : PendingRequest} {queues' : Queues UInt8 PendingRequest}
    {after : List PendingRequest} (hs : Merged s) (hshape : Shape s) (ht : Noticed t)
    (hwithout : Queues.Without (queues s.outChannels) queues' ep [] r after)
    (hleast : ∀ p ∈ s.pending, r.number ≤ p.number)
    (h : books t = { books s with
      queues := queues'
      reads := s.reads ++ [r]
      replies := s.replies ++ (takeLockedReply r).toList }) : Merged t := by
  obtain ⟨hqueues, harrived, hreads, hdropped, hreplies, hunlinks⟩ := books_eq h
  dsimp only [books] at hqueues harrived hreads hdropped hreplies hunlinks
  have hqueue : ∀ ep, ∀ r' ∈ Queues.queue ep (queues t.outChannels),
      r' ∈ Queues.queue ep (queues s.outChannels) := fun ep r' hr' =>
    hwithout.mem_of_mem (by rwa [← hqueues])
  have hpending := pending_subset hshape ht.shape hqueue
  have hr : r ∈ s.pending := (mem_pending_iff hshape).mpr ⟨ep, hwithout.mem⟩
  have hep : r.ep = ep := hs.filed ep r hwithout.mem
  have haccounted : (ledger t).Accounted := by
    have hledger : ledger t = { ledger s with
        waiting := queues'.numbered (·.number)
        served := (ledger s).served ++ [(ep, r.number)] } := by
      simp [ledger, hqueues, harrived, hreads, hdropped, hunlinks, hep]
    rw [hledger]
    exact hs.order.accounted.serve (hwithout.sameOrder hshape.distinct_queues)
  have hother : ∀ p ∈ t.pending, p.number ≠ r.number := fun p hp heq => by
    obtain ⟨ep', hp⟩ := (mem_pending_iff ht.shape).mp hp
    have hserved : r.number ∈ (ledger t).served.map Prod.snd := by
      simp [ledger, hreads]
    refine haccounted.not_mem_waiting_of_served hserved
      (List.mem_map.mpr ⟨(ep', p.number), ?_, heq⟩)
    rw [ledger, ← mem_ofKey_iff, Queues.ofKey_numbered ht.shape.distinct_queues]
    exact List.mem_map_of_mem hp
  refine ⟨fun ep r' hr' => hs.filed ep r' (hqueue ep r' hr'),
    fun r' hr' p hp => hs.compared r' (hpending r' hr') p (hpending p hp), haccounted, ?_, ?_, ?_,
    ht.cancelled, ?_⟩
  · intro r' hr'
    rw [harrived]
    refine hs.order.arrived r' ?_
    rw [hreads] at hr'
    simp only [List.mem_append, List.mem_singleton] at hr' ⊢
    rcases hr' with hr' | hr' | rfl
    · exact Or.inl (hpending r' hr')
    · exact Or.inr hr'
    · exact Or.inl hr
  · rw [hreads, List.map_append, List.pairwise_append]
    refine ⟨hs.order.ordered, List.pairwise_singleton _ _, fun n hn n' hn' => ?_⟩
    obtain ⟨r', hr', rfl⟩ := List.mem_map.mp hn
    rw [List.map_singleton, List.mem_singleton] at hn'
    rw [hn']
    exact hs.order.first r' hr' r hr
  · intro r' hr' p hp
    rw [hreads] at hr'
    rcases List.mem_append.mp hr' with hr' | hr'
    · exact hs.order.first r' hr' p (hpending p hp)
    · rw [List.mem_singleton.mp hr']
      exact Nat.lt_of_le_of_ne (hleast p (hpending p hp)) (hother p hp).symm
  · rw [hreplies, hreads, hs.order.replies, List.filterMap_append]
    cases hreply : (takeLockedReply r : Option (UsbIpRetSubmit Handler)) with
    | none => simp [hreply]
    | some ret => simp [hreply]

/-- A request is taken out of an OUT channel. -/
theorem Merged.cancel {unlinkSeqnum cmdSeqnum : UInt32} {ep : UInt8} {r : PendingRequest}
    {queues' : Queues UInt8 PendingRequest} {before after : List PendingRequest} (hs : Merged s)
    (hshape : Shape s) (ht : Noticed t)
    (hwithout : Queues.Without (queues s.outChannels) queues' ep before r after)
    (h : books t = { books s with
      queues := queues'
      unlinks := s.unlinks ++
        [{ unlinkSeqnum, cmdSeqnum, cancelled := some (.outRequest r) }] }) : Merged t := by
  obtain ⟨hqueues, harrived, hreads, hdropped, hreplies, hunlinks⟩ := books_eq h
  dsimp only [books] at hqueues harrived hreads hdropped hreplies hunlinks
  refine hs.of_subset hshape ht (fun ep' r' hr' => hwithout.mem_of_mem (by rwa [← hqueues]))
    harrived hreads hreplies ?_
  have hledger : ledger t = { ledger s with
      waiting := queues'.numbered (·.number)
      withdrawn := (ledger s).withdrawn ++ [(ep, r.number)] } := by
    simp [ledger, hqueues, harrived, hreads, hdropped, hunlinks, withdrawnNumber,
      hs.filed ep r hwithout.mem]
  rw [hledger]
  exact hwithout.withdraw hs.order.accounted hshape.distinct_queues rfl

/-- The OUT channels are left alone by an unlink. -/
theorem Merged.unlink {new : PipeUnlink} (hs : Merged s) (hshape : Shape s) (ht : Noticed t)
    (hnone : withdrawnNumber new = none)
    (h : books t = { books s with unlinks := s.unlinks ++ [new] }) : Merged t := by
  obtain ⟨hqueues, harrived, hreads, hdropped, hreplies, hunlinks⟩ := books_eq h
  dsimp only [books] at hqueues harrived hreads hdropped hreplies hunlinks
  refine hs.of_subset hshape ht (fun ep' r' hr' => by rwa [← hqueues]) harrived hreads hreplies ?_
  have hledger : ledger t = ledger s := by
    simp [ledger, hqueues, harrived, hreads, hdropped, hunlinks, hnone]
  rw [hledger]
  exact hs.order.accounted

/-- The OUT channels change their order. -/
theorem Merged.reorder {queues' : Queues UInt8 PendingRequest} (hs : Merged s) (hshape : Shape s)
    (ht : Noticed t) (hperm : (queues s.outChannels).Perm queues')
    (h : books t = { books s with queues := queues' }) : Merged t := by
  obtain ⟨hqueues, harrived, hreads, hdropped, hreplies, hunlinks⟩ := books_eq h
  dsimp only [books] at hqueues harrived hreads hdropped hreplies hunlinks
  have hqueue : ∀ ep, Queues.queue ep (queues t.outChannels) =
      Queues.queue ep (queues s.outChannels) := fun ep => by
    rw [hqueues, Queues.queue_perm hshape.distinct_queues hperm]
  refine hs.of_subset hshape ht (fun ep r hr => hqueue ep ▸ hr) harrived hreads hreplies ?_
  have hledger : ledger t = { ledger s with
      waiting := (queues t.outChannels).numbered (·.number) } := by
    simp [ledger, harrived, hreads, hdropped, hunlinks]
  rw [hledger]
  refine hs.order.accounted.reorder fun ep => ?_
  rw [ledger, Queues.ofKey_numbered hshape.distinct_queues,
    Queues.ofKey_numbered ht.shape.distinct_queues, hqueue]

theorem Merged.clear (hs : Merged s) (hshape : Shape s) (ht : Noticed t)
    (h : books t = { books s with queues := [], dropped := s.dropped ++ s.pending }) :
    Merged t := by
  obtain ⟨hqueues, harrived, hreads, hdropped, hreplies, hunlinks⟩ := books_eq h
  dsimp only [books] at hqueues harrived hreads hdropped hreplies hunlinks
  refine hs.of_subset hshape ht (fun ep r hr => ?_) harrived hreads hreplies ?_
  · rw [hqueues] at hr
    exact absurd hr List.not_mem_nil
  · have hkeys : s.pending.map (fun r => (r.ep, r.number)) = (ledger s).waiting := by
      rw [pending_eq, Queues.elements, List.map_flatMap, ledger, Queues.numbered, items]
      refine List.flatMap_congr fun entry hentry => ?_
      rw [List.map_map]
      refine List.map_congr_left fun r hr => ?_
      have hfiled := hs.filed entry.1 r (by
        rwa [Queues.queue, valueOf_of_mem hshape.distinct_queues hentry])
      rw [Function.comp_apply, hfiled]
    have hledger : ledger t = { ledger s with
        waiting := []
        dropped := (ledger s).dropped ++ (ledger s).waiting } := by
      rw [← hkeys]
      simp [ledger, hqueues, harrived, hreads, hdropped, hunlinks, Queues.numbered, items]
    rw [hledger]
    exact hs.order.accounted.drop

section Steps

variable [DecidableEq Handler]

end Steps

end Usbipdcpp.VirtualDevice.PipeReads
