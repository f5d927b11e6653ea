import Usbipdcpp.VirtualDevice.SchedulerPacing

namespace Usbipdcpp.VirtualDevice.SchedulerCancel

open Foundation.KeyedList Foundation.TransitionSystem
open SchedulerRun SchedulerLedger SchedulerPacing

variable {s : SchedulerRun} {seqnum : UInt32} {ep : UInt8} {urb : PendingUrb}
  {before after : List PendingUrb}

/-- The cancellation of the URB between `before` and `after` takes it out of the queue of `ep` and
does nothing else. -/
def RemovesOnly (s : SchedulerRun) (seqnum : UInt32) (ep : UInt8)
    (before after : List PendingUrb) : Prop :=
  (s.cancel seqnum).state ep = { s.state ep with queue := before ++ after } ∧
    ∀ ep', ep' ≠ ep → (s.cancel seqnum).state ep' = s.state ep'

/-- Arming the head once more changes nothing: it is isochronous, its service time is what the
pacing chain has come to, and neither the clock nor its delay moves that. -/
def Settled (now : Int) (state : EndpointState) (front : PendingUrb) : Prop :=
  front.type = .isochronous ∧ front.serviceTime = state.lastScheduled ∧
    max now (state.lastScheduled + front.delay) = state.lastScheduled

/-- The cancellation of the head of `ep` touches no other endpoint, and its successor is not due
before it would have been. -/
def KeepsPace (s : SchedulerRun) (seqnum : UInt32) (ep : UInt8) (urb : PendingUrb) : Prop :=
  (∀ ep', ep' ≠ ep → (s.cancel seqnum).state ep' = s.state ep') ∧
    ∀ next, ((s.cancel seqnum).state ep).queue.head? = some next →
      urb.serviceTime ≤ next.serviceTime

/-- A successor that is not armed follows a head that has not been armed either; one that is armed
is not isochronous, or the head's time has come, or its delay does not take it back before the
head's service time. -/
def SuccessorNotEarlier (now : Int) (state : EndpointState) (urb : PendingUrb)
    (after : List PendingUrb) : Prop :=
  ∀ next, after.head? = some next →
    if state.processing then urb.serviceTime = 0
    else next.type = .isochronous →
      urb.serviceTime ≤ now ∨ urb.serviceTime ≤ state.lastScheduled + next.delay

theorem settled_iff {now : Int} {state : EndpointState} {front : PendingUrb}
    (hbegun : 0 < state.lastScheduled) :
    Settled now state front ↔ front.serviceTime = state.lastScheduled ∧
      front.armTime now state.lastScheduled = state.lastScheduled := by
  rw [armTime_of_begun hbegun, Settled]
  by_cases htype : front.type = .isochronous
  · simp [htype]
  · have hlater := (le_max_right now state.lastScheduled).trans_lt (lt_alignToFrame _)
    simp only [htype, false_and, if_false, false_iff, not_and]
    exact fun _ => hlater.ne'

theorem withServiceTime_eq_iff {urb : PendingUrb} {time : Int} :
    { urb with serviceTime := time } = urb ↔ urb.serviceTime = time := by
  cases urb
  simp [eq_comm]

/-- Taking a URB out from behind the head is all that happens if and only if the head is not armed
again, or that changes nothing. -/
theorem withoutUrb_eq_iff {now : Int} {state : EndpointState} (hpaced : Paced state)
    (hqueue : state.queue = before ++ urb :: after) (hbefore : before ≠ []) :
    state.withoutUrb now before urb after = { state with queue := before ++ after } ↔
      state.processing = true ∨ ∀ front, state.queue.head? = some front →
        Settled now state front := by
  have hchain := hpaced.chainWithout_eq hqueue
  obtain ⟨front, rest, rfl⟩ := List.exists_cons_of_ne_nil hbefore
  by_cases hprocessing : state.processing = true
  · rw [EndpointState.withoutUrb_of_not_armed (.inl hprocessing), hchain]
    exact iff_of_true rfl (.inl hprocessing)
  · have hbegun : 0 < state.lastScheduled := hpaced.begun (.inl (by simp [hqueue]))
    have hidle : state.processing = false := Bool.eq_false_of_not_eq_true hprocessing
    have hhead : (∀ front', state.queue.head? = some front' → Settled now state front') ↔
        Settled now state front := by
      rw [hqueue]
      simp
    rw [EndpointState.withoutUrb_of_armed hidle (List.cons_append ..), hchain, or_iff_right
      hprocessing, hhead, settled_iff hbegun, EndpointState.mk.injEq]
    simp only [List.cons_append, List.cons.injEq, withServiceTime_eq_iff, and_true]
    constructor
    · rintro ⟨htime, harm⟩
      exact ⟨htime.trans harm, harm⟩
    · rintro ⟨htime, harm⟩
      exact ⟨htime.trans harm.symm, harm⟩

/-- A cancellation that takes a URB out of a queue takes out the one that its search finds. -/
theorem cancels_of_queue (hbooked : Booked s) (hqueue : (s.state ep).queue = before ++ urb :: after)
    (hcancel : ((s.cancel seqnum).state ep).queue = before ++ after) :
    Cancels s seqnum ep before urb after := by
  have hlength : ((s.cancel seqnum).state ep).queue ≠ (s.state ep).queue := by
    rw [hqueue, hcancel]
    intro h
    have := congrArg List.length h
    simp only [List.length_append, List.length_cons] at this
    omega
  rcases cancel_cases seqnum hbooked.distinct with ⟨-, hsame⟩ |
    ⟨ep', before', urb', after', hcancels, -, -, hstate⟩
  · exact absurd (by rw [hsame]) hlength
  · obtain rfl : ep = ep' := by
      by_contra hne
      exact hlength (by rw [hstate, if_neg hne])
    have hnodup := hbooked.nodup_queue ep
    have hnumbers : before.map (·.number) ++ after.map (·.number) =
        before'.map (·.number) ++ after'.map (·.number) := by
      rw [← List.map_append, ← hcancel, hstate, if_pos rfl, map_number_withoutUrb]
    have hsplit := hqueue.symm.trans hcancels.queue
    have hbefore : before.map (·.number) = before'.map (·.number) := by
      rw [hcancels.queue, List.map_append, List.map_cons, List.nodup_middle, List.nodup_cons,
        ← hnumbers, List.mem_append, not_or] at hnodup
      have hmapped := congrArg (List.map (·.number)) hsplit
      rw [List.map_append, List.map_cons, List.map_append, List.map_cons] at hmapped
      exact ((List.append_cons_inj_of_notMem hnodup.1.1 hnodup.1.2).mp hmapped).1
    have hsame : before.length = before'.length := by simpa using congrArg List.length hbefore
    obtain ⟨rfl, htail⟩ := List.append_inj hsplit hsame
    obtain ⟨rfl, rfl⟩ := List.cons.inj htail
    exact hcancels

theorem removesOnly_iff (hbooked : Booked s) (hpaced : Paced (s.state ep))
    (hqueue : (s.state ep).queue = before ++ urb :: after) (hbefore : before ≠ []) :
    RemovesOnly s seqnum ep before after ↔
      Cancels s seqnum ep before urb after ∧ ((s.state ep).processing = true ∨
        ∀ front, (s.state ep).queue.head? = some front → Settled s.clock (s.state ep) front) := by
  rw [← withoutUrb_eq_iff hpaced hqueue hbefore]
  constructor
  · rintro ⟨hstate, -⟩
    have hcancels := cancels_of_queue hbooked hqueue (congrArg EndpointState.queue hstate)
    refine ⟨hcancels, ?_⟩
    rwa [hcancels.state_eq hbooked.distinct, if_pos rfl] at hstate
  · rintro ⟨hcancels, hwithout⟩
    refine ⟨?_, fun ep' hep => ?_⟩
    · rw [hcancels.state_eq hbooked.distinct, if_pos rfl, hwithout]
    · rw [hcancels.state_eq hbooked.distinct, if_neg hep]

/-- The successor of a head that is cancelled. -/
theorem successor_iff {now : Int} {state : EndpointState} (hpaced : Paced state)
    (hqueue : state.queue = urb :: after) :
    (∀ next, (state.withoutUrb now [] urb after).queue.head? = some next →
        urb.serviceTime ≤ next.serviceTime) ↔ SuccessorNotEarlier now state urb after := by
  have hchain : state.chainWithout [] urb = state.lastScheduled := hpaced.chainWithout_eq hqueue
  have hbegun : 0 < state.lastScheduled := hpaced.begun (.inl (by simp [hqueue]))
  have hhead := hpaced.head urb (by rw [hqueue]; rfl)
  rcases after with _ | ⟨next, rest⟩
  · rw [EndpointState.withoutUrb_of_not_armed (.inr rfl)]
    exact iff_of_true nofun nofun
  · by_cases hprocessing : state.processing = true
    · have htail : next.serviceTime = 0 := hpaced.tail next (by rw [hqueue]; exact .head _)
      rw [EndpointState.withoutUrb_of_not_armed (.inl hprocessing)]
      simp only [SuccessorNotEarlier, List.nil_append, List.head?_cons, Option.some.injEq,
        forall_eq', hprocessing, if_true, htail]
      omega
    · have hidle : state.processing = false := Bool.eq_false_of_not_eq_true hprocessing
      rw [EndpointState.withoutUrb_of_armed hidle (List.nil_append _), hchain,
        armTime_of_begun hbegun]
      simp only [SuccessorNotEarlier, List.head?_cons, Option.some.injEq, forall_eq', hidle,
        Bool.false_eq_true, if_false]
      split
      next htype => simp [htype]
      next htype =>
        have hlater := (le_max_right now state.lastScheduled).trans_lt (lt_alignToFrame _)
        simp only [htype, false_imp_iff, iff_true]
        omega

theorem keepsPace_iff (hbooked : Booked s) (hpaced : Paced (s.state ep))
    (hcancels : Cancels s seqnum ep [] urb after) :
    KeepsPace s seqnum ep urb ↔ SuccessorNotEarlier s.clock (s.state ep) urb after := by
  rw [← successor_iff hpaced hcancels.queue, KeepsPace, hcancels.state_eq hbooked.distinct,
    if_pos rfl]
  refine and_iff_right fun ep' hep => ?_
  rw [hcancels.state_eq hbooked.distinct, if_neg hep]

/-- In every reachable state: cancelling a URB behind the head of its queue does nothing but to take
it out if and only if the search finds that very URB and the head is not armed again, or that
changes nothing; and cancelling a head never touches another endpoint, and leaves a successor that
is not due earlier if and only if the head's slot still lies before what the successor is given. -/
theorem cancel_local_iff (h : Reachable pacedSystem s) (ep : UInt8) (urb : PendingUrb)
    (after : List PendingUrb) :
    (∀ before, before ≠ [] → (s.state ep).queue = before ++ urb :: after →
      (RemovesOnly s urb.seqnum ep before after ↔
        Cancels s urb.seqnum ep before urb after ∧ ((s.state ep).processing = true ∨
          ∀ front, (s.state ep).queue.head? = some front →
            Settled s.clock (s.state ep) front))) ∧
      ∀ seqnum, Cancels s seqnum ep [] urb after →
        (KeepsPace s seqnum ep urb ↔ SuccessorNotEarlier s.clock (s.state ep) urb after) := by
  have hbooked := reachable_booked h.of_startingIn
  have hpaced := (reachable_paced h).2 ep
  constructor
  · intro before hbefore hqueue
    exact removesOnly_iff hbooked hpaced hqueue hbefore
  · intro seqnum hcancels
    exact keepsPace_iff hbooked hpaced hcancels

/-- Three bulk URBs come to an endpoint, and the first of them is being processed. -/
def processingRun : List SchedulerAction :=
  [.start, .submitProcessor 1 .bulk 0 7, .submitProcessor 1 .bulk 0 8, .submitProcessor 1 .bulk 0 9,
    .invoke 0, .enter fun _ => 0, .tick 2000000, .expire, .invoke 0, .enter fun _ => 0]

/-- The third URB goes without a trace; without the second one the third would be due at once. -/
theorem cancel_local_iff_instance :
    ∃ s before urb after, pacedSystem.run (initial 1000000) processingRun = some s ∧
      RemovesOnly s 9 1 before after ∧ ¬ KeepsPace s 8 1 urb := by
  obtain ⟨s, front, urb, hrun, hqueue, hprocessing, hnext, hlast, htime⟩ :
      ∃ (s : SchedulerRun) (front urb : PendingUrb),
        pacedSystem.run (initial 1000000) processingRun = some s ∧
          (s.state 1).queue = [front, urb] ∧ (s.state 1).processing = true ∧
            Cancels s 8 1 [] front [urb] ∧ Cancels s urb.seqnum 1 [front] urb [] ∧
              front.serviceTime = 3000000 ∧ urb.seqnum = 9 := by
    refine ⟨_, _, _, rfl, rfl, rfl, ⟨rfl, rfl, rfl, nofun⟩, ⟨rfl, rfl, rfl, ?_⟩, rfl, rfl⟩
    intro other hmem
    rw [List.mem_singleton.mp hmem]
    decide
  have hreach : Reachable pacedSystem s :=
    Reachable.run processingRun (.initial ⟨⟨1000000, rfl⟩, by decide⟩) hrun
  refine ⟨s, [front], front, [], hrun, ?_, fun hpace => ?_⟩
  · have hremoves := ((cancel_local_iff hreach 1 urb []).1 [front] (by simp) hqueue).mpr
      ⟨hlast, .inl hprocessing⟩
    rwa [htime.2] at hremoves
  · have hearlier := ((cancel_local_iff hreach 1 front [urb]).2 8 hnext).mp hpace urb rfl
    rw [if_pos hprocessing, htime.1] at hearlier
    exact absurd hearlier (by decide)

/-- The second of two bulk URBs on an idle endpoint is cancelled, and the first is put off to the
next frame. -/
theorem head_moved_by_cancel :
    ¬ ∀ s, Reachable pacedSystem s → ∀ ep before urb after, before ≠ [] →
      (s.state ep).queue = before ++ urb :: after → RemovesOnly s urb.seqnum ep before after := by
  obtain ⟨s, front, urb, hrun, hqueue, hmoved⟩ : ∃ (s : SchedulerRun) (front urb : PendingUrb),
      pacedSystem.run (initial 1000000)
          [.start, .submitProcessor 1 .bulk 0 7, .submitProcessor 1 .bulk 0 8] = some s ∧
        (s.state 1).queue = [front] ++ urb :: [] ∧ front.serviceTime = 2000000 ∧
          ((s.cancel urb.seqnum).state 1).queue = [{ front with serviceTime := 3000000 }] :=
    ⟨_, _, _, rfl, rfl, rfl, rfl⟩
  have hreach : Reachable pacedSystem s :=
    Reachable.run _ (.initial ⟨⟨1000000, rfl⟩, by decide⟩) hrun
  intro h
  obtain ⟨hstate, -⟩ := h s hreach 1 [front] urb [] (by simp) hqueue
  have hkept := congrArg EndpointState.queue hstate
  rw [hmoved.2] at hkept
  have htime := congrArg PendingUrb.serviceTime (List.cons.inj hkept).1
  rw [hmoved.1] at htime
  change (3000000 : Int) = 2000000 at htime
  exact absurd htime (by decide)

end Usbipdcpp.VirtualDevice.SchedulerCancel
