import Usbipdcpp.VirtualDevice.OutEndpointChannelBase

namespace Usbipdcpp.VirtualDevice.OutChannelLedger

open Foundation.FifoLedger Foundation.KeyedList Foundation.TransitionSystem Protocol
open OutEndpointChannelBase hiding create cancelPending onNewConnection onDisconnection enqueue
open OutChannelRun

def request : Departure → PendingRequest
  | .taken request _ => request
  | .refused request _ => request
  | .cancelled request => request
  | .dropped request => request

section Kinds

/-- The number of a request that a call has taken, under the one key of a single queue. -/
def takenNumber : Departure → Option (Unit × Nat)
  | .taken request _ => some ((), request.number)
  | _ => none

def refusedNumber : Departure → Option (Unit × Nat)
  | .refused request _ => some ((), request.number)
  | _ => none

def cancelledNumber : Departure → Option (Unit × Nat)
  | .cancelled request => some ((), request.number)
  | _ => none

def droppedNumber : Departure → Option (Unit × Nat)
  | .dropped request => some ((), request.number)
  | _ => none

/-- The sequence number that a cancellation has found. -/
def cancelledSeqnum : Departure → Option UInt32
  | .cancelled request => some request.seqnum
  | _ => none

/-- The call that has taken a request, and what it returns. -/
def result : Departure → Option (Nat × Pending)
  | .taken request call => some (call, takeLocked request)
  | _ => none

end Kinds

variable {Handler : Type}

/-- The reply that a request gets when it leaves the channel. -/
def answer : Departure → Option (UsbIpRetSubmit Handler)
  | .taken request _ => takeLockedReply request
  | .refused request _ => some (reply request.seqnum 0 UrbStatusType.statusEPIPE)
  | _ => none

/-- The books of a channel: a taken request is served, a refused one is answered at once. -/
def ledger (s : OutChannelRun Handler) : Ledger Unit where
  arrived := s.arrived.length
  waiting := s.channel.pending.map fun request => ((), request.number)
  served := s.departures.filterMap takenNumber
  express := s.departures.filterMap refusedNumber
  withdrawn := s.departures.filterMap cancelledNumber
  dropped := s.departures.filterMap droppedNumber

/-- What holds of the requests of a channel. -/
structure Settled (s : OutChannelRun Handler) : Prop where
  accounted : (ledger s).Accounted
  arrived : ∀ r ∈ s.channel.pending ++ s.departures.map request, s.arrived[r.number]? = some r
  replies : s.replies = s.departures.filterMap answer
  refused : ∀ r held, Departure.refused r held ∈ s.departures →
    s.channel.maxPending ≠ 0 ∧ held = s.channel.maxPending
  results : ∀ entry, entry ∈ Results s.calls ↔ entry ∈ s.departures.filterMap result
  callers : ((s.departures.filterMap result).map Prod.fst).Nodup
  cancels : (s.cancels.filter (·.2)).map Prod.fst = s.departures.filterMap cancelledSeqnum
  bounded : s.channel.maxPending ≠ 0 → s.channel.pending.length ≤ s.channel.maxPending
  awake : s.calls.any isBlocked = true → s.channel.pending.length ≤ s.calls.countP isWoken

theorem settled_create (maxPending : Nat) :
    Settled (create maxPending : OutChannelRun Handler) where
  accounted := Ledger.accounted_empty
  arrived _ hmem := absurd hmem List.not_mem_nil
  replies := rfl
  refused _ _ hmem := absurd hmem List.not_mem_nil
  results entry := by simp [Results, create]
  callers := List.nodup_nil
  cancels := rfl
  bounded _ := Nat.zero_le _
  awake h := by cases h

variable {s t : OutChannelRun Handler} {a : OutChannelAction} {r : PendingRequest}

theorem arrived_concat (hs : Settled s) (hnumber : r.number = s.arrived.length)
    {r' : PendingRequest} (hmem : r' = r ∨ r' ∈ s.channel.pending ++ s.departures.map request) :
    (s.arrived ++ [r])[r'.number]? = some r' := by
  rcases hmem with rfl | hmem
  · rw [hnumber, List.getElem?_concat_length]
  · have harrived := hs.arrived r' hmem
    rw [List.getElem?_append_left (List.getElem?_eq_some_iff.mp harrived).1, harrived]

theorem settled_refuse (hs : Settled s) (hnumber : r.number = s.arrived.length)
    (hfull : s.channel.full = true) : Settled (s.refuse r) where
  accounted := by
    have hledger : ledger (s.refuse r) = { ledger s with
        arrived := (ledger s).arrived + 1
        express := (ledger s).express ++ [((), (ledger s).arrived)] } := by
      simp [ledger, refuse, takenNumber, refusedNumber, cancelledNumber, droppedNumber, hnumber]
    rw [hledger]
    exact hs.accounted.arriveExpress ()
  arrived r' hmem := by
    refine arrived_concat hs hnumber ?_
    simp only [refuse, List.map_append, List.mem_append, List.map_cons, List.map_nil,
      List.mem_singleton] at hmem ⊢
    tauto
  replies := by
    simp [refuse, hs.replies, answer]
  refused r' held hmem := by
    obtain ⟨hlimit, hle⟩ : s.channel.maxPending ≠ 0 ∧
        s.channel.maxPending ≤ s.channel.pending.length := by
      simpa [full] using hfull
    rcases List.mem_append.mp hmem with hmem | hmem
    · exact hs.refused r' held hmem
    · cases List.mem_singleton.mp hmem
      exact ⟨hlimit, Nat.le_antisymm (hs.bounded hlimit) hle⟩
  results entry := by simp [refuse, hs.results entry, result]
  callers := by simpa [refuse, result, List.filterMap_cons] using hs.callers
  cancels := by simpa [refuse, cancelledSeqnum, List.filterMap_cons] using hs.cancels
  bounded := hs.bounded
  awake := hs.awake

theorem settled_enqueue {calls : List TakeCall} (hs : Settled s)
    (hnumber : r.number = s.arrived.length) (hroom : s.channel.full = false)
    (hresults : Results calls = Results s.calls)
    (hwakes : calls.any isBlocked = true →
      s.calls.any isBlocked = true ∧ s.calls.countP isWoken + 1 ≤ calls.countP isWoken) :
    Settled (s.enqueue r calls) where
  accounted := by
    have hledger : ledger (s.enqueue r calls) = { ledger s with
        arrived := (ledger s).arrived + 1
        waiting := (ledger s).waiting ++ [((), (ledger s).arrived)] } := by
      simp [ledger, OutChannelRun.enqueue, OutEndpointChannelBase.enqueue, hnumber]
    rw [hledger]
    exact hs.accounted.arrive SameOrder.rfl
  arrived r' hmem := by
    refine arrived_concat hs hnumber ?_
    simp only [OutChannelRun.enqueue, OutEndpointChannelBase.enqueue, List.mem_append,
      List.mem_singleton] at hmem ⊢
    tauto
  replies := hs.replies
  refused := hs.refused
  results entry := by
    change entry ∈ Results calls ↔ _
    rw [hresults]
    exact hs.results entry
  callers := hs.callers
  cancels := hs.cancels
  bounded hlimit := by
    have hlt : s.channel.maxPending = 0 ∨ s.channel.pending.length < s.channel.maxPending := by
      simpa [full, or_iff_not_imp_left] using hroom
    have hpos : s.channel.maxPending ≠ 0 := hlimit
    change (s.channel.pending ++ [r]).length ≤ s.channel.maxPending
    rw [List.length_append, List.length_singleton]
    omega
  awake hany := by
    obtain ⟨hbefore, hwoken⟩ := hwakes hany
    have hle := hs.awake hbefore
    change (s.channel.pending ++ [r]).length ≤ calls.countP isWoken
    rw [List.length_append, List.length_singleton]
    omega

theorem settled_taken {rest : List PendingRequest} {index : Nat} {calls : List TakeCall}
    (hs : Settled s) (hpending : s.channel.pending = r :: rest)
    (hresults : Results calls = insert (index, takeLocked r) (Results s.calls))
    (hfresh : ∀ result, (index, result) ∉ Results s.calls) (hwakes : Wakes s.calls calls 1) :
    Settled (s.takeFront r { s.channel with pending := rest } index calls) where
  accounted := by
    have hledger : ledger (s.takeFront r { s.channel with pending := rest } index calls) =
        { ledger s with
          waiting := rest.map fun request => ((), request.number)
          served := (ledger s).served ++ [((), r.number)] } := by
      simp [ledger, takeFront, takenNumber, refusedNumber, cancelledNumber, droppedNumber]
    rw [hledger]
    refine hs.accounted.serve ?_
    simp only [ledger, hpending]
    exact SameOrder.rfl
  arrived r' hmem := by
    refine hs.arrived r' ?_
    rw [hpending]
    simp only [takeFront, List.map_append, List.mem_append, List.map_cons, List.map_nil,
      List.mem_cons] at hmem ⊢
    tauto
  replies := by
    simp only [takeFront, hs.replies, List.filterMap_append, List.append_cancel_left_eq]
    cases hreply : (takeLockedReply r : Option (UsbIpRetSubmit Handler)) with
    | none => simp [answer, hreply]
    | some ret => simp [answer, hreply]
  refused r' held hmem := by
    rcases List.mem_append.mp hmem with hmem | hmem
    · exact hs.refused r' held hmem
    · cases List.mem_singleton.mp hmem
  results entry := by
    change entry ∈ Results calls ↔ _
    rw [hresults, Set.mem_insert_iff, hs.results entry, takeFront, List.filterMap_append,
      List.mem_append, or_comm]
    exact or_congr_right (by simp [result])
  callers := by
    have hconcat :
        (takeFront r { s.channel with pending := rest } index calls s).departures.filterMap result =
          s.departures.filterMap result ++ [(index, takeLocked r)] := by
      rw [takeFront, List.filterMap_append]
      rfl
    rw [hconcat, List.map_append]
    refine List.nodup_append.mpr ⟨hs.callers, List.nodup_singleton _, ?_⟩
    rintro call hcall _ hsame rfl
    obtain rfl := List.mem_singleton.mp hsame
    obtain ⟨entry, hentry, hindex⟩ := List.mem_map.mp hcall
    exact hfresh entry.2 (hindex ▸ (hs.results entry).mpr hentry)
  cancels := by simpa [takeFront, cancelledSeqnum, List.filterMap_cons] using hs.cancels
  bounded hlimit := by
    have hle := hs.bounded hlimit
    rw [hpending, List.length_cons] at hle
    exact Nat.le_of_succ_le hle
  awake hany := by
    obtain ⟨hbefore, hwoken⟩ := hwakes hany
    have hle := hs.awake hbefore
    rw [hpending, List.length_cons] at hle
    change rest.length ≤ calls.countP isWoken
    omega

theorem settled_cancelled {before after : List PendingRequest} (hs : Settled s)
    (hpending : s.channel.pending = before ++ r :: after) :
    Settled { s with
      channel := { s.channel with pending := before ++ after }
      departures := s.departures ++ [.cancelled r]
      cancels := s.cancels ++ [(r.seqnum, true)] } where
  accounted := by
    have hkey : ∀ l : List PendingRequest,
        ofKey () (l.map fun request => ((), request.number)) = l.map (·.number) := fun l => by
      have hsame : ofKey () ((l.map (·.number)).map ((), ·)) = l.map (·.number) :=
        ofKey_map_same _
      rwa [List.map_map] at hsame
    have hbefore : ofKey () (ledger s).waiting =
        before.map (·.number) ++ r.number :: after.map (·.number) := by
      rw [ledger, hkey, hpending, List.map_append, List.map_cons]
    have hafter : ofKey () ((before ++ after).map fun request => ((), request.number)) =
        before.map (·.number) ++ after.map (·.number) := by
      rw [hkey, List.map_append]
    have hwithdrawn := hs.accounted.withdraw hbefore hafter fun k hk => absurd rfl hk
    simpa [ledger, takenNumber, refusedNumber, cancelledNumber, droppedNumber,
      List.filterMap_cons] using hwithdrawn
  arrived r' hmem := by
    refine hs.arrived r' ?_
    rw [hpending]
    simp only [List.map_append, List.mem_append, List.map_cons, List.map_nil, List.mem_cons,
      request] at hmem ⊢
    tauto
  replies := by simp [hs.replies, answer]
  refused r' held hmem := by
    rcases List.mem_append.mp hmem with hmem | hmem
    · exact hs.refused r' held hmem
    · cases List.mem_singleton.mp hmem
  results entry := by simp [hs.results entry, result]
  callers := by simpa [result, List.filterMap_cons] using hs.callers
  cancels := by simp [hs.cancels, cancelledSeqnum]
  bounded hlimit := by
    have hle := hs.bounded hlimit
    simp only [hpending, List.length_append, List.length_cons] at hle ⊢
    omega
  awake hany := by
    have hle := hs.awake hany
    simp only [hpending, List.length_append, List.length_cons] at hle ⊢
    omega

theorem filterMap_dropped {β : Type} {f : Departure → Option β}
    (hnone : ∀ r, f (.dropped r) = none) (requests : List PendingRequest) :
    (requests.map Departure.dropped).filterMap f = [] := by
  refine List.filterMap_eq_nil_iff.mpr fun departure hmem => ?_
  obtain ⟨r, -, rfl⟩ := List.mem_map.mp hmem
  exact hnone r

theorem filterMap_onDisconnection {β : Type} {f : Departure → Option β}
    (hnone : ∀ r, f (.dropped r) = none) (s : OutChannelRun Handler) :
    s.onDisconnection.departures.filterMap f = s.departures.filterMap f := by
  rw [OutChannelRun.onDisconnection, List.filterMap_append, filterMap_dropped hnone,
    List.append_nil]

theorem settled_onDisconnection (hs : Settled s) : Settled s.onDisconnection where
  accounted := by
    have hdropped : s.onDisconnection.departures.filterMap droppedNumber =
        (ledger s).dropped ++ (ledger s).waiting := by
      rw [OutChannelRun.onDisconnection, List.filterMap_append, List.filterMap_map]
      exact congrArg _ (List.filterMap_eq_map ▸ rfl)
    have hledger : ledger s.onDisconnection = { ledger s with
        waiting := []
        dropped := (ledger s).dropped ++ (ledger s).waiting } := by
      rw [ledger, hdropped, filterMap_onDisconnection fun _ => rfl,
        filterMap_onDisconnection fun _ => rfl, filterMap_onDisconnection fun _ => rfl]
      rfl
    rw [hledger]
    exact hs.accounted.drop
  arrived r' hmem := by
    refine hs.arrived r' ?_
    have hsame : request ∘ Departure.dropped = id := rfl
    simp only [OutChannelRun.onDisconnection, OutEndpointChannelBase.onDisconnection,
      List.nil_append, List.map_append, List.map_map, hsame, List.map_id,
      List.mem_append] at hmem ⊢
    exact hmem.symm
  replies := by
    rw [filterMap_onDisconnection fun _ => rfl]
    exact hs.replies
  refused r' held hmem := by
    rcases List.mem_append.mp hmem with hmem | hmem
    · exact hs.refused r' held hmem
    · obtain ⟨_, -, hfalse⟩ := List.mem_map.mp hmem
      cases hfalse
  results entry := by
    rw [filterMap_onDisconnection fun _ => rfl]
    exact hs.results entry
  callers := by
    rw [filterMap_onDisconnection fun _ => rfl]
    exact hs.callers
  cancels := by
    rw [filterMap_onDisconnection fun _ => rfl]
    exact hs.cancels
  bounded _ := Nat.zero_le _
  awake _ := Nat.zero_le _

theorem settled_step (hs : Settled s) (h : s.step a = some t) : Settled t := by
  cases effect_of_step h with
  | refused hnumber hfull => exact settled_refuse hs hnumber hfull
  | enqueued hnumber hroom hresults hwakes =>
      exact settled_enqueue hs hnumber hroom hresults hwakes
  | taken hpending hresults hfresh hwakes =>
      exact settled_taken hs hpending hresults hfresh hwakes
  | cancelled hpending hseqnum =>
      subst hseqnum
      exact settled_cancelled hs hpending
  | missed =>
      refine ⟨hs.accounted, hs.arrived, hs.replies, hs.refused, hs.results, hs.callers, ?_,
        hs.bounded, hs.awake⟩
      simpa using hs.cancels
  | dropped => exact settled_onDisconnection hs
  | connected =>
      exact ⟨hs.accounted, hs.arrived, hs.replies, hs.refused, hs.results, hs.callers, hs.cancels,
        hs.bounded, hs.awake⟩
  | @moved _ calls notifying hresults hwakes =>
      refine ⟨hs.accounted, hs.arrived, hs.replies, hs.refused, fun entry => ?_, hs.callers,
        hs.cancels, hs.bounded, fun hany => ?_⟩
      · change entry ∈ Results calls ↔ _
        rw [hresults]
        exact hs.results entry
      · rcases hwakes with hnone | hwakes
        · change s.channel.pending.length ≤ _
          rw [hnone]
          exact Nat.zero_le _
        · obtain ⟨hbefore, hwoken⟩ := hwakes hany
          exact (hs.awake hbefore).trans hwoken

theorem settled_of_reachable (h : Reachable system s) : Settled s := by
  refine h.invariant (I := Settled) ?_ fun _ _ _ hs hstep => settled_step hs hstep
  rintro s ⟨maxPending, rfl⟩
  exact settled_create maxPending

end Usbipdcpp.VirtualDevice.OutChannelLedger
