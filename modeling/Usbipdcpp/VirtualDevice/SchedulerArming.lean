import Usbipdcpp.VirtualDevice.SchedulerCancel

namespace Usbipdcpp.VirtualDevice.SchedulerArming

open Foundation.KeyedList Foundation.TransitionSystem
open SchedulerRun SchedulerLedger SchedulerService SchedulerPacing SchedulerCancel

variable {s t : SchedulerRun} {a : SchedulerAction} {ep : UInt8}

/-- The service time that `arm_next` computes for a URB that becomes the head of a queue in this
step: the clock has gone on when it follows one that the timer has taken, and the slot of a head
that is cancelled is not given back. -/
def timeAsHead (s : SchedulerRun) (a : SchedulerAction) (ep : UInt8) (urb : PendingUrb) : Int :=
  match a with
  | .enter elapsed => urb.armTime (s.clock + elapsed ep) (s.state ep).lastScheduled
  | .cancel _ =>
      urb.armTime s.clock
        (((s.state ep).queue.head?.map ((s.state ep).chainWithout [])).getD
          (s.state ep).lastScheduled)
  | _ => urb.armTime s.clock (s.state ep).lastScheduled

def headNumber (s : SchedulerRun) (ep : UInt8) : Option Nat :=
  (s.state ep).queue.head?.map (·.number)

/-- The time recorded for the head of an endpoint's queue changes when another URB becomes the
head. -/
def timeRecorded (time : Option Int) (s : SchedulerRun) (a : SchedulerAction) (ep : UInt8)
    (state : EndpointState) : Option Int :=
  if state.queue.head?.map (·.number) = headNumber s ep then time
  else state.queue.head?.map (timeAsHead s a ep)

def recordHeads (times : UInt8 → Option Int) (s : SchedulerRun) (a : SchedulerAction)
    (t : SchedulerRun) : UInt8 → Option Int := fun ep =>
  timeRecorded (times ep) s a ep (t.state ep)

/-- The scheduler under an observer who records, for the head of every queue, what `arm_next`
computes at the moment at which the URB becomes the head. -/
def observedSystem : System (SchedulerRun × (UInt8 → Option Int)) SchedulerAction :=
  pacedSystem.observe (fun _ => none) recordHeads

/-- Every head has the service time computed when it became the head, and no URB is taken for
service without one. -/
structure HeadsArmed (p : SchedulerRun × (UInt8 → Option Int)) : Prop where
  heads : ∀ ep, (p.1.state ep).queue.head?.map (·.serviceTime) = p.2 ep
  served : ∀ ep urb, (ep, urb) ∈ taken p.1 → urb.serviceTime ≠ 0

/-- A cancellation of the head leaves none or comes while the endpoint is idle, and one from behind
the head comes while the endpoint is processing or arms the head for the same time again. -/
def ArmsSuccessor (s : SchedulerRun) : SchedulerAction → Prop
  | .cancel seqnum => ∀ ep before urb after, Cancels s seqnum ep before urb after →
      if before = [] then (s.state ep).processing = false ∨ after = []
      else (s.state ep).processing = true ∨
        ∀ front, (s.state ep).queue.head? = some front → Settled s.clock (s.state ep) front
  | _ => True

theorem headNumber_eq_none : headNumber s ep = none ↔ (s.state ep).queue = [] := by
  simp [headNumber]

theorem lt_timeAsHead (hclock : 0 < s.clock) (urb : PendingUrb) :
    0 < timeAsHead s a ep urb := by
  unfold timeAsHead
  split
  · exact (by omega : 0 < s.clock + (_ : Nat)).trans_le (urb.le_armTime _ _)
  · exact hclock.trans_le (urb.le_armTime _ _)
  · exact hclock.trans_le (urb.le_armTime _ _)

theorem positive_record {times : UInt8 → Option Int} (hclock : 0 < s.clock)
    (h : ∀ ep time, times ep = some time → 0 < time) :
    ∀ ep time, recordHeads times s a t ep = some time → 0 < time := by
  intro ep time htime
  rw [recordHeads, timeRecorded] at htime
  split at htime
  next => exact h ep time htime
  next =>
    obtain ⟨urb, -, rfl⟩ := Option.map_eq_some_iff.mp htime
    exact lt_timeAsHead hclock urb

theorem timeAsHead_of_submits (ha : submits a = true) (urb : PendingUrb) :
    timeAsHead s a ep urb = urb.armTime s.clock (s.state ep).lastScheduled := by
  cases a <;> first | rfl | cases ha

section EndpointStep

variable {time : Option Int} {state : EndpointState}

theorem timeRecorded_of_head (h : state.queue.head?.map (·.number) = headNumber s ep) :
    timeRecorded time s a ep state = time :=
  if_pos h

theorem timeRecorded_of_new (h : state.queue.head?.map (·.number) ≠ headNumber s ep) :
    timeRecorded time s a ep state = state.queue.head?.map (timeAsHead s a ep) :=
  if_neg h

/-- No URB has the number of the one in front of it. -/
theorem number_ne_of_cons {urb : PendingUrb} (next : PendingUrb) {rest : List PendingUrb}
    (hnodup : ((s.state ep).queue.map (·.number)).Nodup)
    (hqueue : (s.state ep).queue = urb :: next :: rest) : some next.number ≠ headNumber s ep := by
  rw [hqueue] at hnodup
  rw [headNumber, hqueue]
  intro h
  have hnot := (List.nodup_cons.mp hnodup).1
  rw [← Option.some.inj h] at hnot
  exact hnot (.head _)

theorem timeRecorded_of_empty (hhead : (s.state ep).queue.head?.map (·.serviceTime) = time)
    (hqueue : state.queue = []) : none = timeRecorded time s a ep state := by
  unfold timeRecorded
  rw [hqueue]
  split
  next heq =>
    have hempty := headNumber_eq_none.mp heq.symm
    rw [hempty] at hhead
    exact hhead
  next => rfl

theorem heads_push {urb : PendingUrb} (ha : submits a = true)
    (hhead : (s.state ep).queue.head?.map (·.serviceTime) = time) :
    ((s.state ep).push s.clock urb).2.queue.head?.map (·.serviceTime) =
      timeRecorded time s a ep ((s.state ep).push s.clock urb).2 := by
  cases hqueue : (s.state ep).queue with
  | nil =>
      have hpushed : ((s.state ep).push s.clock urb).2.queue =
          [{ urb with serviceTime := urb.armTime s.clock (s.state ep).lastScheduled }] := by
        simp only [EndpointState.push, hqueue, List.isEmpty_nil, if_true, List.nil_append]
        rw [EndpointState.armNext_cons rfl]
      rw [timeRecorded_of_new, hpushed, List.head?_cons, Option.map_some, Option.map_some,
        timeAsHead_of_submits ha]
      · rfl
      · rw [hpushed, headNumber, hqueue]
        exact nofun
  | cons front rest =>
      have hpushed : ((s.state ep).push s.clock urb).2.queue.head? = some front := by
        simp [EndpointState.push, hqueue]
      rw [timeRecorded_of_head, hpushed, ← hhead, hqueue]
      · rfl
      · rw [hpushed, headNumber, hqueue]
        rfl

theorem heads_cancel {seqnum : UInt32} {before after : List PendingUrb} {urb : PendingUrb}
    (hpaced : Paced (s.state ep)) (hnodup : ((s.state ep).queue.map (·.number)).Nodup)
    (hguard : ArmsSuccessor s (.cancel seqnum)) (hcancels : Cancels s seqnum ep before urb after)
    (hhead : (s.state ep).queue.head?.map (·.serviceTime) = time) :
    ((s.state ep).withoutUrb s.clock before urb after).queue.head?.map (·.serviceTime) =
      timeRecorded time s (.cancel seqnum) ep
        ((s.state ep).withoutUrb s.clock before urb after) := by
  have harms := hguard ep before urb after hcancels
  have hqueue := hcancels.queue
  rcases before with _ | ⟨front, before⟩
  · rw [if_pos rfl] at harms
    rcases after with _ | ⟨next, rest⟩
    · rw [EndpointState.withoutUrb_of_not_armed (.inr rfl)]
      exact timeRecorded_of_empty hhead rfl
    · have hidle : (s.state ep).processing = false := harms.resolve_right (by simp)
      rw [EndpointState.withoutUrb_of_armed hidle (List.nil_append _), timeRecorded_of_new]
      · simp only [List.head?_cons, Option.map_some, timeAsHead, hqueue, List.nil_append,
          Option.getD_some]
        rfl
      · exact number_ne_of_cons next hnodup hqueue
  · rw [if_neg (by simp)] at harms
    rw [(withoutUrb_eq_iff hpaced hqueue (by simp)).mpr harms, timeRecorded_of_head, ← hhead,
      hqueue]
    · rfl
    · rw [headNumber, hqueue]
      rfl

theorem heads_take {elapsed : UInt8 → Nat} {urb : PendingUrb}
    (hnodup : ((s.state ep).queue.map (·.number)).Nodup)
    (hhead : (s.state ep).queue.head?.map (·.serviceTime) = time)
    (htake : (s.state ep).takeDue s.clock (s.clock + elapsed ep) = some (urb, state)) :
    state.queue.head?.map (·.serviceTime) = timeRecorded time s (.enter elapsed) ep state := by
  obtain ⟨rest, hqueue, -, -, rfl⟩ := EndpointState.takeDue_cases htake
  rcases rest with _ | ⟨next, rest⟩
  · rw [EndpointState.armNext_nil rfl]
    exact timeRecorded_of_empty hhead rfl
  · rw [EndpointState.armNext_cons rfl, timeRecorded_of_new]
    · rfl
    · exact number_ne_of_cons next hnodup hqueue

theorem heads_endpointStep (hpaced : Paced (s.state ep))
    (hnodup : ((s.state ep).queue.map (·.number)).Nodup) (hguard : ArmsSuccessor s a)
    (hhead : (s.state ep).queue.head?.map (·.serviceTime) = time)
    (hstep : EndpointStep s ep a state) :
    state.queue.head?.map (·.serviceTime) = timeRecorded time s a ep state := by
  cases hstep with
  | same => rw [timeRecorded_of_head rfl, hhead]
  | push urb ha htime => exact heads_push ha hhead
  | release ha => exact hhead.trans (timeRecorded_of_head rfl).symm
  | cancel hcancels => exact heads_cancel hpaced hnodup hguard hcancels hhead
  | take htake => exact heads_take hnodup hhead htake
  | clear => exact timeRecorded_of_empty hhead rfl

end EndpointStep

/-- What holds at every moment of a run that arms the successors. -/
structure Armed (p : SchedulerRun × (UInt8 → Option Int)) : Prop where
  positive : ∀ ep time, p.2 ep = some time → 0 < time
  armed : HeadsArmed p

theorem headsArmed_step {p q : SchedulerRun × (UInt8 → Option Int)}
    (hreach : Reachable pacedSystem p.1) (hp : Armed p) (hguard : ArmsSuccessor p.1 a)
    (hstep : observedSystem.step p a = some q) : Armed q := by
  obtain ⟨hstep, hrecord⟩ := observe_step hstep
  obtain ⟨hclock, hpaced⟩ := reachable_paced hreach
  have hbooked := reachable_booked hreach.of_startingIn
  obtain ⟨-, hendpoints⟩ := step_endpointsStep hbooked.distinct hstep
  refine ⟨hrecord ▸ positive_record hclock hp.positive, fun ep => ?_, fun ep urb hmem => ?_⟩
  · rw [hrecord]
    exact heads_endpointStep (hpaced ep) (hbooked.nodup_queue ep) hguard (hp.armed.heads ep)
      (hendpoints ep)
  · obtain ⟨heads, htaken, hheads⟩ := takesHeads_step hbooked hstep
    rw [htaken] at hmem
    rcases List.mem_append.mp hmem with hold | hnew
    · exact hp.armed.served ep urb hold
    · have hhead := hp.armed.heads ep
      rw [hheads ep urb hnew] at hhead
      exact (hp.positive ep _ hhead.symm).ne'

theorem positive_of_reachable {p : SchedulerRun × (UInt8 → Option Int)}
    (h : Reachable observedSystem p) : ∀ ep time, p.2 ep = some time → 0 < time := by
  have hinvariant : Reachable pacedSystem p.1 ∧ ∀ ep time, p.2 ep = some time → 0 < time := by
    refine Reachable.invariant (T := observedSystem) (I := fun p =>
      Reachable pacedSystem p.1 ∧ ∀ ep time, p.2 ep = some time → 0 < time) ?_ ?_ h
    · rintro ⟨s, times⟩ ⟨hinit, rfl⟩
      exact ⟨.initial hinit, nofun⟩
    · rintro p a q ⟨hreach, hpositive⟩ hstep
      obtain ⟨hstep, hrecord⟩ := observe_step hstep
      exact ⟨hreach.step hstep, hrecord ▸ positive_record (reachable_paced hreach).1 hpositive⟩
  exact hinvariant.2

/-- A successor that a cancellation leaves unarmed has the epoch for its service time. -/
theorem head_not_armed {seqnum : UInt32} {urb next : PendingUrb} {rest : List PendingUrb}
    {time : Option Int} (hclock : 0 < s.clock) (hpaced : Paced (s.state ep))
    (hnodup : ((s.state ep).queue.map (·.number)).Nodup)
    (hqueue : (s.state ep).queue = urb :: next :: rest)
    (hprocessing : (s.state ep).processing = true) :
    ((s.state ep).withoutUrb s.clock [] urb (next :: rest)).queue.head?.map (·.serviceTime) ≠
      timeRecorded time s (.cancel seqnum) ep
        ((s.state ep).withoutUrb s.clock [] urb (next :: rest)) := by
  have htime : next.serviceTime = 0 := hpaced.tail next (by rw [hqueue]; exact .head _)
  rw [EndpointState.withoutUrb_of_not_armed (.inl hprocessing), timeRecorded_of_new]
  · simp only [List.nil_append, List.head?_cons, Option.map_some, ne_eq, Option.some.injEq, htime]
    exact (lt_timeAsHead hclock next).ne
  · exact number_ne_of_cons next hnodup hqueue

/-- A head that a cancellation behind it arms again, and for another time. -/
theorem head_armed_again {seqnum : UInt32} {front urb : PendingUrb}
    {before after : List PendingUrb} {time : Int} (hpaced : Paced (s.state ep))
    (hqueue : (s.state ep).queue = (front :: before) ++ urb :: after)
    (hprocessing : (s.state ep).processing = false) (hpositive : 0 < time)
    (hhead : front.serviceTime = time) (hmoves : ¬ Settled s.clock (s.state ep) front) :
    ((s.state ep).withoutUrb s.clock (front :: before) urb after).queue.head?.map
        (·.serviceTime) ≠
      timeRecorded (some time) s (.cancel seqnum) ep
        ((s.state ep).withoutUrb s.clock (front :: before) urb after) := by
  have hbegun : 0 < (s.state ep).lastScheduled := hpaced.begun (.inl (by simp [hqueue]))
  have hlast : front.serviceTime = (s.state ep).lastScheduled :=
    (hpaced.head front (by rw [hqueue]; rfl)).resolve_left (by omega)
  rw [EndpointState.withoutUrb_of_armed hprocessing (List.cons_append ..),
    hpaced.chainWithout_eq hqueue, timeRecorded_of_head]
  · intro harm
    have harm : front.armTime s.clock (s.state ep).lastScheduled = time := by simpa using harm
    exact hmoves ((settled_iff hbegun).mpr ⟨hlast, by rw [harm, ← hhead, hlast]⟩)
  · rw [headNumber, hqueue]
    rfl

theorem not_headsArmed_step {p q : SchedulerRun × (UInt8 → Option Int)}
    (h : Reachable observedSystem p) (hp : HeadsArmed p) (hguard : ¬ ArmsSuccessor p.1 a)
    (hstep : observedSystem.step p a = some q) : ¬ HeadsArmed q := by
  have hreach := h.of_observe
  obtain ⟨hclock, hpaced⟩ := reachable_paced hreach
  have hbooked := reachable_booked hreach.of_startingIn
  cases a with
  | cancel seqnum =>
      simp only [ArmsSuccessor, not_forall] at hguard
      obtain ⟨ep, before, urb, after, hcancels, hguard⟩ := hguard
      obtain ⟨hstep, hrecord⟩ := observe_step hstep
      have hstate : q.1.state ep = (p.1.state ep).withoutUrb p.1.clock before urb after := by
        rw [← Option.some.inj hstep]
        exact (hcancels.state_eq hbooked.distinct ep).trans (if_pos rfl)
      intro hq
      have hhead := hq.heads ep
      rw [hrecord, recordHeads, hstate] at hhead
      have hqueue := hcancels.queue
      rcases before with _ | ⟨front, before⟩
      · rw [if_pos rfl, not_or] at hguard
        obtain ⟨next, rest, rfl⟩ := List.exists_cons_of_ne_nil hguard.2
        exact head_not_armed hclock (hpaced ep) (hbooked.nodup_queue ep) hqueue
          (Bool.eq_true_of_not_eq_false hguard.1) hhead
      · rw [if_neg (by simp), not_or, not_forall] at hguard
        obtain ⟨hprocessing, front', hguard⟩ := hguard
        obtain ⟨hfront, hmoves⟩ := Classical.not_imp.mp hguard
        obtain rfl : front = front' := by simpa [hqueue] using hfront
        have htime : p.2 ep = some front.serviceTime := by
          rw [← hp.heads ep, hfront]
          rfl
        rw [htime] at hhead
        exact head_armed_again (hpaced ep) hqueue (Bool.eq_false_of_not_eq_true hprocessing)
          (positive_of_reachable h ep _ htime) rfl hmoves hhead
  | _ => exact absurd trivial hguard

theorem reachable_armed {p : SchedulerRun × (UInt8 → Option Int)}
    (h : ReachableUnder observedSystem (fun p a => ArmsSuccessor p.1 a) p) : Armed p := by
  have hinvariant : Reachable pacedSystem p.1 ∧ Armed p := by
    refine h.invariant (I := fun p => Reachable pacedSystem p.1 ∧ Armed p) ?_ ?_
    · rintro ⟨s, times⟩ ⟨⟨⟨clock, rfl⟩, hclock⟩, rfl⟩
      exact ⟨.initial ⟨⟨clock, rfl⟩, hclock⟩, nofun, fun _ => rfl, nofun⟩
    · rintro p a q ⟨hreach, hp⟩ hguard hstep
      exact ⟨hreach.step (observe_step hstep).1, headsArmed_step hreach hp hguard hstep⟩
  exact hinvariant.2

/-- In a run in which every cancellation leaves the next head armed and no other head armed again,
all heads have the service time computed when they became heads, and nothing is served without one;
and the first cancellation that does not do so leaves a head of which this is false. -/
theorem headsArmed_of_armsSuccessor (p : SchedulerRun × (UInt8 → Option Int)) :
    (ReachableUnder observedSystem (fun p a => ArmsSuccessor p.1 a) p → HeadsArmed p) ∧
      ∀ a q, Reachable observedSystem p → HeadsArmed p → observedSystem.step p a = some q →
        ¬ ArmsSuccessor p.1 a → ¬ HeadsArmed q :=
  ⟨fun h => (reachable_armed h).armed,
    fun _ _ h hp hstep hguard => not_headsArmed_step h hp hguard hstep⟩

/-- The head of an idle endpoint is cancelled and its successor armed. -/
theorem headsArmed_of_armsSuccessor_instance :
    ∃ p, ReachableUnder observedSystem (fun p a => ArmsSuccessor p.1 a) p ∧
      p.1.cancelled = [(1, 0)] ∧ HeadsArmed p ∧ p.2 1 = some 3000000 := by
  have hinitial : ReachableUnder observedSystem (fun p a => ArmsSuccessor p.1 a)
      (initial 1000000, fun _ => none) := .initial ⟨⟨⟨_, rfl⟩, by decide⟩, rfl⟩
  have hstarted := hinitial.step (a := SchedulerAction.start) trivial rfl
  have hfirst := hstarted.step (a := SchedulerAction.submitProcessor 1 .bulk 0 7) trivial rfl
  have hsecond := hfirst.step (a := SchedulerAction.submitProcessor 1 .bulk 0 8) trivial rfl
  have hcancelled := hsecond.step (a := SchedulerAction.cancel 7) (fun ep before urb after h => by
    obtain ⟨rfl, -⟩ := Prod.mk.inj (Option.some.inj h.target)
    rw [show before = [] from h.before_eq, if_pos rfl]
    exact .inl rfl) rfl
  exact ⟨_, hcancelled, rfl, (headsArmed_of_armsSuccessor _).1 hcancelled, rfl⟩

/-- The head of an endpoint that is processing is cancelled, and its successor served when the URB
that was being processed is reported as done. -/
def unarmedRun : List SchedulerAction :=
  processingRun ++ [.cancel 8, .serve, .serve, .onUrbDone 1 7, .invoke 0, .enter fun _ => 0,
    .expire, .invoke 0, .enter fun _ => 0]

/-- The successor is taken for service with the epoch as its service time. -/
theorem served_without_time : ¬ ∀ p, Reachable observedSystem p → HeadsArmed p := by
  obtain ⟨p, urb, hrun, htaken, htime⟩ : ∃ (p : SchedulerRun × (UInt8 → Option Int))
      (urb : PendingUrb), observedSystem.run (initial 1000000, fun _ => none) unarmedRun = some p ∧
        (taken p.1)[1]? = some (1, urb) ∧ urb.serviceTime = 0 :=
    ⟨_, _, rfl, rfl, rfl⟩
  intro h
  have hreach : Reachable observedSystem p :=
    Reachable.run unarmedRun (.initial ⟨⟨⟨1000000, rfl⟩, by decide⟩, rfl⟩) hrun
  exact (h p hreach).served 1 urb (List.mem_of_getElem? htaken) htime

end Usbipdcpp.VirtualDevice.SchedulerArming
