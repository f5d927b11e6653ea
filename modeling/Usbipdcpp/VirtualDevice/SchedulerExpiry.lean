import Usbipdcpp.VirtualDevice.SchedulerTimer

namespace Usbipdcpp.VirtualDevice.SchedulerExpiry

open Foundation.KeyedList Foundation.TransitionSystem
open SchedulerRun SchedulerTimer

variable {s t : SchedulerRun}

/-- No `schedule_on_thread` will set the timer anew: none is outstanding, or it will find the timer
set. -/
def Relied (s : SchedulerRun) : Prop :=
  s.timerPending = true ∨ ¬ Outstanding .scheduleOnThread s

/-- A URB that a submission makes the head of an idle endpoint is not due before the timer, if it
is set, expires. -/
def EntersInTime (s : SchedulerRun) (ep : UInt8) (urb : PendingUrb) : Prop :=
  s.started = true → s.timerPending = true → (s.state ep).processing = false →
    (s.state ep).queue = [] → s.expiry ≤ urb.armTime s.clock (s.state ep).lastScheduled

/-- The same of the URB behind the one that is reported as done. -/
def ReleasedInTime (s : SchedulerRun) (ep : UInt8) (seqnum : UInt32) : Prop :=
  s.started = true → s.timerPending = true → (s.state ep).processing = true →
    (s.state ep).processingSeqnum = seqnum →
      ∀ urb, (s.state ep).queue.head? = some urb → s.expiry ≤ urb.serviceTime

/-- The same of the head that an idle endpoint is left with by a cancellation. -/
def RearmedInTime (s : SchedulerRun) (seqnum : UInt32) : Prop :=
  Relied s → ∀ ep before urb after, Cancels s seqnum ep before urb after →
    (s.state ep).processing = false → ∀ next, (before ++ after).head? = some next →
      s.expiry ≤ next.armTime s.clock ((s.state ep).chainWithout before urb)

/-- A head that the step puts before a timer that is set is not due before that timer expires. -/
def KeepsExpiry (s : SchedulerRun) : SchedulerAction → Prop
  | .submitProcessor ep type dataDuration seqnum =>
      type = .control ∨ EntersInTime s ep (s.processorUrb type dataDuration seqnum)
  | .submitReady ep type interval numIsoPackets seqnum dataDuration =>
      (type = .control ∨ type = .isochronous ∧ numIsoPackets ≤ 0) ∨
        EntersInTime s ep (s.readyUrb type interval numIsoPackets seqnum dataDuration)
  | .onUrbDone ep seqnum => ReleasedInTime s ep seqnum
  | .serve => ∀ ep seqnum due, s.thread = .answered ep seqnum due → ReleasedInTime s ep seqnum
  | .cancel seqnum => RearmedInTime s seqnum
  | _ => True

/-- With no `schedule_on_thread` outstanding, heads wait only while the timer is set or its handler
on the way, and none of them is due before the timer expires. -/
def HeadsByExpiry (s : SchedulerRun) : Prop :=
  ¬ Outstanding .scheduleOnThread s → ∀ urb, ReadyHead s urb →
    (s.waiting = true ∨ Outstanding (.onTimer false) s) ∧ s.expiry ≤ urb.serviceTime

/-- What is kept while a `schedule_on_thread` may be outstanding. -/
def InTime (s : SchedulerRun) : Prop :=
  Relied s → ∀ urb, ReadyHead s urb → s.expiry ≤ urb.serviceTime

theorem InTime.mono (hs : InTime s) (hready : ∀ urb, ReadyHead t urb → ReadyHead s urb)
    (hexpiry : t.expiry = s.expiry) (hrelied : Relied t → Relied s) : InTime t := by
  intro h urb hurb
  rw [hexpiry]
  exact hs (hrelied h) urb (hready urb hurb)

theorem readyHead_of_endpoints (h : t.endpoints = s.endpoints) {urb : PendingUrb}
    (hready : ReadyHead t urb) : ReadyHead s urb := by
  simpa only [ReadyHead, state, h] using hready

/-- A step that leaves the queues, the timer and what is outstanding alone. -/
theorem InTime.of_eq (hs : InTime s) (hendpoints : t.endpoints = s.endpoints)
    (hexpiry : t.expiry = s.expiry) (htimer : t.timerPending = s.timerPending)
    (houtstanding : Outstanding .scheduleOnThread s → Outstanding .scheduleOnThread t) :
    InTime t := by
  refine hs.mono (fun _ => readyHead_of_endpoints hendpoints) hexpiry fun h => ?_
  rw [Relied, htimer] at h
  exact h.imp id (mt houtstanding)

theorem inTime_of_empty (h : s.endpoints = []) : InTime s := by
  rintro - urb ⟨ep, hready⟩
  have hmem := mem_endpoints_of_readyHead hready
  rw [h] at hmem
  cases hmem

/-- A kick relies on the timer only if it is set. -/
theorem inTime_kick (h : s.timerPending = true →
    ∀ urb, ReadyHead s urb → s.expiry ≤ urb.serviceTime) : InTime s.kick := by
  unfold kick
  split
  next htimer => exact fun _ => h htimer
  next htimer =>
    rintro (hrelied | hrelied)
    · exact absurd hrelied htimer
    · exact absurd (.inl (by simp)) hrelied

section Upsert

variable {ep : UInt8} {state : EndpointState}

theorem state_of_upsert (h : t.endpoints = upsert ep state s.endpoints) : t.state ep = state := by
  rw [SchedulerRun.state, h, valueOf_upsert, if_pos rfl]

theorem readyHead_of_upsert (h : t.endpoints = upsert ep state s.endpoints) {urb : PendingUrb}
    (hready : ReadyHead t urb) : state.readyHead = some urb ∨ ReadyHead s urb := by
  obtain ⟨ep', hready⟩ := hready
  rw [SchedulerRun.state, h, valueOf_upsert] at hready
  split at hready
  next => exact .inl hready
  next => exact .inr ⟨ep', hready⟩

end Upsert

theorem push_of_idle (now : Int) (urb : PendingUrb) {state : EndpointState}
    (hqueue : state.queue = []) (hprocessing : state.processing = false) :
    (state.push now urb).1 = true ∧ (state.push now urb).2.readyHead =
      some { urb with serviceTime := urb.armTime now state.lastScheduled } := by
  constructor
  · simp [EndpointState.push, hqueue, hprocessing]
  · have harm : ({ state with queue := [urb] } : EndpointState).armNext now =
        { state with
          queue := [{ urb with serviceTime := urb.armTime now state.lastScheduled }]
          lastScheduled := urb.armTime now state.lastScheduled } :=
      EndpointState.armNext_cons rfl
    simp only [EndpointState.push, hqueue, List.isEmpty_nil, if_true, List.nil_append, harm]
    simp [EndpointState.readyHead, hprocessing]

theorem push_kicks_iff {now : Int} {urb : PendingUrb} {state : EndpointState} :
    (state.push now urb).1 = true ↔ state.queue = [] ∧ state.processing = false := by
  unfold EndpointState.push
  dsimp only
  split
  next hempty => simp [List.isEmpty_iff.mp hempty]
  next hempty => simpa using fun h => absurd (by simp [h]) hempty

theorem inTime_enqueue {ep : UInt8} {urb : PendingUrb} (hs : InTime s)
    (hguard : EntersInTime s ep urb) : InTime (s.enqueue ep urb) := by
  unfold enqueue
  split
  next hstarted =>
    dsimp only
    split
    next hkick =>
      obtain ⟨hqueue, hprocessing⟩ := push_kicks_iff.mp hkick
      refine inTime_kick fun htimer urb' hready => ?_
      rcases readyHead_of_upsert rfl hready with hnew | hold
      · rw [(push_of_idle s.clock urb hqueue hprocessing).2, Option.some.injEq] at hnew
        rw [← hnew]
        exact hguard hstarted htimer hprocessing hqueue
      · exact hs (.inl htimer) urb' hold
    next hkick =>
      refine hs.mono (fun urb' hready => ?_) rfl id
      rcases readyHead_of_upsert rfl hready with hnew | hold
      · exact ⟨ep, readyHead_push (Bool.eq_false_of_not_eq_true hkick) hnew⟩
      · exact hold
  next => exact hs

theorem readyHead_released {state : EndpointState} :
    { state with processing := false, processingSeqnum := 0 }.readyHead = state.queue.head? := rfl

theorem inTime_onUrbDone {ep : UInt8} {seqnum : UInt32} (hs : InTime s)
    (hguard : ReleasedInTime s ep seqnum) : InTime (s.onUrbDone ep seqnum) := by
  unfold onUrbDone
  split
  next => exact hs
  next hstarted =>
    split
    next => exact hs
    next hmatch =>
      have hstarted : s.started = true := Bool.eq_true_of_not_eq_false hstarted
      obtain ⟨hprocessing, hseqnum⟩ : (s.state ep).processing = true ∧
          (s.state ep).processingSeqnum = seqnum := by simpa using hmatch
      dsimp only
      split
      next hqueue =>
        refine hs.mono (fun urb' hready => ?_) rfl id
        rcases readyHead_of_upsert rfl hready with hnew | hold
        · rw [readyHead_released, hqueue] at hnew
          cases hnew
        · exact hold
      next =>
        refine inTime_kick fun htimer urb' hready => ?_
        rcases readyHead_of_upsert rfl hready with hnew | hold
        · rw [readyHead_released] at hnew
          exact hguard hstarted htimer hprocessing hseqnum urb' hnew
        · exact hs (.inl htimer) urb' hold

/-- What waits at the head of an endpoint that a URB has been taken out of. -/
theorem readyHead_of_withoutUrb {now : Int} {state : EndpointState}
    {before after : List PendingUrb} {urb urb' : PendingUrb}
    (hready : (state.withoutUrb now before urb after).readyHead = some urb') :
    state.processing = false ∧ ∃ next, (before ++ after).head? = some next ∧
      urb' = { next with serviceTime := next.armTime now (state.chainWithout before urb) } := by
  have hprocessing : state.processing = false := by
    cases h : state.processing with
    | false => rfl
    | true => simp [EndpointState.readyHead, h] at hready
  refine ⟨hprocessing, ?_⟩
  rcases hrest : before ++ after with _ | ⟨next, rest⟩
  · simp [EndpointState.withoutUrb_of_not_armed (.inr hrest), EndpointState.readyHead, hrest]
      at hready
  · rw [EndpointState.withoutUrb_of_armed hprocessing hrest] at hready
    simp only [EndpointState.readyHead, hprocessing] at hready
    exact ⟨next, rfl, (Option.some.inj hready).symm⟩

theorem cancel_expiry (s : SchedulerRun) (seqnum : UInt32) :
    (s.cancel seqnum).expiry = s.expiry := by
  unfold SchedulerRun.cancel
  split <;> rfl

theorem inTime_cancel {seqnum : UInt32} (hkept : TimerKept s) (hs : InTime s)
    (hguard : RearmedInTime s seqnum) : InTime (s.cancel seqnum) := by
  obtain ⟨-, htimer, -, hhandlers, hthread⟩ := cancel_frame s seqnum
  rcases cancel_cases seqnum hkept.distinct with ⟨-, hsame⟩ |
    ⟨ep, before, urb, after, hcancels, -, -, hstate⟩
  · rwa [hsame]
  · intro hrelied urb' ⟨ep', hready⟩
    have hrelied : Relied s := by simpa only [Relied, Outstanding, htimer, hhandlers, hthread]
      using hrelied
    rw [cancel_expiry]
    rw [hstate] at hready
    split at hready
    next =>
      obtain ⟨hprocessing, next, hnext, rfl⟩ := readyHead_of_withoutUrb hready
      exact hguard hrelied ep before urb after hcancels hprocessing next hnext
    next => exact hs hrelied urb' ⟨ep', hready⟩

/-- `schedule_next` looks at every head, whatever the timer was set to. -/
theorem inTime_scheduleNext (s : SchedulerRun) (thread : ThreadPc) :
    InTime { s.scheduleNext with thread } := by
  rcases scheduleNext_cases s with ⟨hnone, hsame⟩ | ⟨next, hnext, hset⟩
  · rw [hsame]
    exact fun _ urb hready => absurd hready (hnone urb)
  · rw [hset]
    exact fun _ urb hready => hnext urb (readyHead_of_endpoints (by simp) hready)

theorem inTime_enter {elapsed : UInt8 → Nat} {handler : IoHandler} (hkept : TimerKept s)
    (hs : InTime s) (hthread : s.thread = .invoked handler) :
    InTime (s.runHandler elapsed handler) := by
  cases handler with
  | scheduleOnThread =>
      rw [runHandler, scheduleOnThread]
      split
      next hstarted => exact inTime_of_empty (hkept.quiet hstarted).1
      next =>
        split
        next htimer => exact fun _ urb hready => hs (.inl htimer) urb hready
        next => exact inTime_scheduleNext s .polling
  | onTimer aborted =>
      rcases onTimer_cases elapsed aborted s with ⟨-, hreturn⟩ | ⟨-, hrun⟩
      · rw [runHandler, hreturn]
        cases hstarted : s.started with
        | false => exact inTime_of_empty (hkept.quiet hstarted).1
        | true =>
            -- the handler of a wait that was aborted leaves everything to what is outstanding
            refine hs.mono (fun _ => id) rfl (Or.imp (by simp) (mt fun h => ?_))
            exact .inl (h.resolve_right (by simp [hthread]))
      · rw [runHandler, hrun]
        exact inTime_scheduleNext _ _

theorem inTime_serve (hs : InTime s) (hguard : KeepsExpiry s .serve) (h : s.serve = some t) :
    InTime t := by
  rcases serve_cases h with ⟨hthread, rfl⟩ | ⟨ep, urb, due, hthread, -, rfl⟩ |
    ⟨ep, urb, due, hthread, -, rfl⟩ | ⟨ep, seqnum, due, hthread, rfl⟩
  · exact hs.of_eq rfl rfl rfl (outstanding_of_thread rfl (by simp [hthread]))
  · exact hs.of_eq rfl rfl rfl (outstanding_of_thread rfl (by simp [hthread]))
  · exact hs.of_eq rfl rfl rfl (outstanding_of_thread rfl (by simp [hthread]))
  · refine (inTime_onUrbDone hs (hguard ep seqnum due hthread)).of_eq rfl rfl rfl
      (outstanding_of_thread rfl ?_)
    simp [onUrbDone_thread, hthread]

theorem inTime_step (hkept : TimerKept s) (hs : InTime s) {a : SchedulerAction}
    (hguard : KeepsExpiry s a) (h : s.step a = some t) : InTime t := by
  cases effect_of_step h with
  | ticked => exact hs.of_eq rfl rfl rfl id
  | again => exact hs
  | started hphase => exact inTime_of_empty (hkept.quiet (by simp [started, hphase])).1
  | stopped => exact inTime_of_empty (by simp [SchedulerRun.stop])
  | contextStopped => exact hs.of_eq rfl rfl rfl id
  | joined hphase => exact inTime_of_empty (hkept.quiet (by simp [started, hphase])).1
  | express => exact hs.of_eq rfl rfl rfl id
  | queuedProcessor htype => exact inTime_enqueue hs (hguard.resolve_left htype)
  | queuedReady htype => exact inTime_enqueue hs (hguard.resolve_left htype)
  | reported => exact inTime_onUrbDone (hs.of_eq rfl rfl rfl id) hguard
  | cancelled => exact inTime_cancel hkept hs hguard
  | expired => exact hs.of_eq rfl rfl rfl fun h => h.imp (List.mem_append_left _) id
  | invoked hhandler hthread =>
      exact hs.of_eq rfl rfl rfl (outstanding_invoke hhandler hthread)
  | entered hthread => exact inTime_enter hkept hs hthread
  | served hserve => exact inTime_serve hs hguard hserve
  | rehashed hperm =>
      refine hs.mono (fun urb => ?_) rfl id
      rintro ⟨ep, hready⟩
      exact ⟨ep, by rwa [← rehash_state hkept.distinct hperm]⟩

theorem headsByExpiry_of_inTime (hkept : TimerKept s) (hs : InTime s) : HeadsByExpiry s :=
  fun hpost urb hready =>
    ⟨(hkept.attended ⟨urb, hready⟩).imp id fun h => h.resolve_left hpost,
      hs (.inr hpost) urb hready⟩

section Late

/-- A head that is due before the timer expires, with nothing on its way to set the timer anew. -/
theorem not_headsByExpiry (urb : PendingUrb) (hpost : ¬ Outstanding .scheduleOnThread t)
    (hready : ReadyHead t urb) (hlate : ¬ t.expiry ≤ urb.serviceTime) : ¬ HeadsByExpiry t :=
  fun h => hlate (h hpost urb hready).2

theorem kick_of_timerPending (h : s.timerPending = true) : s.kick = s := by
  rw [kick, if_pos h]

theorem late_enqueue {ep : UInt8} {urb : PendingUrb} (hpost : ¬ Outstanding .scheduleOnThread s)
    (hlate : ¬ EntersInTime s ep urb) : ¬ HeadsByExpiry (s.enqueue ep urb) := by
  simp only [EntersInTime, Classical.not_imp] at hlate
  obtain ⟨hstarted, htimer, hprocessing, hqueue, hlate⟩ := hlate
  obtain ⟨hkick, hready⟩ := push_of_idle s.clock urb hqueue hprocessing
  rw [enqueue, if_pos hstarted]
  dsimp only
  rw [if_pos hkick, kick_of_timerPending]
  · refine not_headsByExpiry { urb with
      serviceTime := urb.armTime s.clock (s.state ep).lastScheduled } hpost ⟨ep, ?_⟩ hlate
    rw [state_of_upsert rfl]
    exact hready
  · exact htimer

/-- Reporting the URB leaves a head that is due before the timer expires, and kicks nothing. -/
theorem late_onUrbDone {ep : UInt8} {seqnum : UInt32} (hlate : ¬ ReleasedInTime s ep seqnum) :
    (s.onUrbDone ep seqnum).handlers = s.handlers ∧ ∃ urb, ReadyHead (s.onUrbDone ep seqnum) urb ∧
      ¬ (s.onUrbDone ep seqnum).expiry ≤ urb.serviceTime := by
  simp only [ReleasedInTime, Classical.not_imp, not_forall] at hlate
  obtain ⟨hstarted, htimer, hprocessing, hseqnum, urb, hurb, hlate⟩ := hlate
  have hqueue : (s.state ep).queue ≠ [] := fun h => by
    rw [h] at hurb
    cases hurb
  have hmatch : ¬ ((s.state ep).processing = false ∨ (s.state ep).processingSeqnum ≠ seqnum) := by
    simp [hprocessing, hseqnum]
  rw [onUrbDone, if_neg (by simp [hstarted]), if_neg hmatch]
  dsimp only
  rw [if_neg hqueue, kick_of_timerPending]
  · refine ⟨rfl, urb, ⟨ep, ?_⟩, hlate⟩
    rw [state_of_upsert rfl]
    exact hurb
  · exact htimer

theorem late_cancel {seqnum : UInt32} (hkept : TimerKept s)
    (hpost : ¬ Outstanding .scheduleOnThread s) (hlate : ¬ RearmedInTime s seqnum) :
    ¬ HeadsByExpiry (s.cancel seqnum) := by
  simp only [RearmedInTime, Classical.not_imp, not_forall] at hlate
  obtain ⟨-, ep, before, urb, after, hcancels, hprocessing, next, hnext, hlate⟩ := hlate
  obtain ⟨-, -, -, hhandlers, hthread⟩ := cancel_frame s seqnum
  obtain ⟨rest, hrest⟩ := List.head?_eq_some_iff.mp hnext
  refine not_headsByExpiry { next with
    serviceTime := next.armTime s.clock ((s.state ep).chainWithout before urb) } ?_ ⟨ep, ?_⟩ ?_
  · rwa [Outstanding, hhandlers, hthread]
  · rw [hcancels.state_eq hkept.distinct, if_pos rfl,
      EndpointState.withoutUrb_of_armed hprocessing hrest]
    simp [EndpointState.readyHead, hprocessing]
  · rwa [cancel_expiry]

theorem late_step (hkept : TimerKept s) {a : SchedulerAction} (h : s.step a = some t)
    (hpost : ¬ Outstanding .scheduleOnThread s) (hlate : ¬ KeepsExpiry s a) :
    ¬ HeadsByExpiry t := by
  cases a with
  | submitProcessor ep type dataDuration seqnum =>
      obtain rfl := by simpa [step] using h
      obtain ⟨htype, hlate⟩ := not_or.mp hlate
      rw [submitProcessor, if_neg htype]
      exact late_enqueue hpost hlate
  | submitReady ep type interval numIsoPackets seqnum dataDuration =>
      obtain rfl := by simpa [step] using h
      obtain ⟨htype, hlate⟩ := not_or.mp hlate
      rw [submitReady, if_neg htype]
      exact late_enqueue hpost hlate
  | onUrbDone ep seqnum =>
      obtain rfl := by simpa [step] using h
      obtain ⟨hhandlers, urb, hready, hlate⟩ :=
        late_onUrbDone (s := { s with unreported := s.unreported.erase (ep, seqnum) }) hlate
      refine not_headsByExpiry urb ?_ hready hlate
      rwa [Outstanding, hhandlers, onUrbDone_thread]
  | cancel seqnum =>
      obtain rfl := by simpa [step] using h
      exact late_cancel hkept hpost hlate
  | serve =>
      simp only [KeepsExpiry, Classical.not_imp, not_forall] at hlate
      obtain ⟨ep, seqnum, due, hthread, hlate⟩ := hlate
      obtain rfl : { s.onUrbDone ep seqnum with thread := .serving due } = t := by
        simpa [step, serve, hthread] using h
      obtain ⟨hhandlers, urb, hready, hlate⟩ := late_onUrbDone hlate
      refine not_headsByExpiry urb (fun h => hpost ?_) hready hlate
      exact .inl (hhandlers ▸ h.resolve_right (by simp))
  | _ => exact absurd trivial hlate

end Late

theorem reachable_inTime (h : ReachableUnder system KeepsExpiry s) : TimerKept s ∧ InTime s := by
  refine h.invariant (I := fun s => TimerKept s ∧ InTime s) ?_ fun _ _ _ hs hguard hstep =>
    ⟨kept_step hs.1 hstep, inTime_step hs.1 hs.2 hguard hstep⟩
  rintro s ⟨clock, rfl⟩
  exact ⟨kept_of_empty rfl rfl, inTime_of_empty rfl⟩

/-- In a run in which no head comes before a timer that is set without being due at its expiry or
later, the timer never delays a head; and a step that breaks this rule makes a head wait for the
timer at once, unless a `schedule_on_thread` is still outstanding. -/
theorem headsByExpiry_of_keepsExpiry (s : SchedulerRun) :
    (ReachableUnder system KeepsExpiry s → HeadsByExpiry s) ∧
      ∀ a t, Reachable system s → s.step a = some t → ¬ Outstanding .scheduleOnThread s →
        ¬ KeepsExpiry s a → ¬ HeadsByExpiry t := by
  constructor
  · intro h
    obtain ⟨hkept, hs⟩ := reachable_inTime h
    exact headsByExpiry_of_inTime hkept hs
  · intro a t h hstep hpost hlate
    exact late_step (reachable_kept h) hstep hpost hlate

/-- The timer is set for one second, and the URB that comes to another endpoint is due after
two. -/
theorem headsByExpiry_of_keepsExpiry_instance :
    ∃ s, s.timerPending = true ∧ (s.state 2).queue ≠ [] ∧ HeadsByExpiry s := by
  have hinitial : ReachableUnder system KeepsExpiry (initial 1000000) := .initial ⟨_, rfl⟩
  have hstarted := hinitial.step (a := SchedulerAction.start) trivial rfl
  have hfirst := hstarted.step (a := SchedulerAction.submitProcessor 1 .isochronous 1000000 7)
    (Or.inr fun _ htimer => Bool.noConfusion htimer) rfl
  have hinvoked := hfirst.step (a := SchedulerAction.invoke 0) trivial rfl
  have htimer := hinvoked.step (a := SchedulerAction.enter fun _ => 0) trivial rfl
  have hsecond := htimer.step (a := SchedulerAction.submitProcessor 2 .isochronous 2000000 8)
    (Or.inr fun _ _ _ _ => by decide) rfl
  refine ⟨_, ?_, ?_, (headsByExpiry_of_keepsExpiry _).1 hsecond⟩
  · rfl
  · exact List.cons_ne_nil _ _

/-- An isochronous URB of one second sets the timer, and then a bulk URB comes to another
endpoint. -/
def longTimerRun : List SchedulerAction :=
  [.start, .submitProcessor 1 .isochronous 1000000 7, .invoke 0, .enter fun _ => 0,
    .submitProcessor 2 .bulk 0 8]

/-- The bulk URB is due at the next frame and waits for the whole second. -/
theorem head_delayed_by_other_endpoint :
    ¬ ∀ s, Reachable system s → HeadsByExpiry s := by
  obtain ⟨s, hrun, hexpiry, hhandlers, hthread, urb, hready, htime⟩ : ∃ s,
      system.run (initial 1000000) longTimerRun = some s ∧ s.expiry = 1001000000 ∧
        s.handlers = [] ∧ s.thread = .polling ∧
          ∃ urb, (s.state 2).readyHead = some urb ∧ urb.serviceTime = 2000000 :=
    ⟨_, rfl, rfl, rfl, rfl, _, rfl, rfl⟩
  intro h
  have hheads := h s (Reachable.run longTimerRun (.initial ⟨1000000, rfl⟩) hrun)
  have hpost : ¬ Outstanding .scheduleOnThread s := by simp [Outstanding, hhandlers, hthread]
  have hlate := (hheads hpost urb ⟨2, hready⟩).2
  rw [hexpiry, htime] at hlate
  exact absurd hlate (by decide)

end Usbipdcpp.VirtualDevice.SchedulerExpiry
