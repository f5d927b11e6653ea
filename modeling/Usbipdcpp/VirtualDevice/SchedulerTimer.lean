import Usbipdcpp.VirtualDevice.SchedulerRun

namespace Usbipdcpp.VirtualDevice.SchedulerTimer

open Foundation.KeyedList Foundation.TransitionSystem
open SchedulerRun TransferScheduler

variable {s t : SchedulerRun}

/-- A URB waits at the head of the queue of an endpoint that processes none. -/
def ReadyHead (s : SchedulerRun) (urb : PendingUrb) : Prop :=
  ∃ ep, (s.state ep).readyHead = some urb

/-- The handler waits in the `io_context`, or the thread has taken it and it has yet to take the
lock. -/
def Outstanding (handler : IoHandler) (s : SchedulerRun) : Prop :=
  handler ∈ s.handlers ∨ s.thread = .invoked handler

theorem mem_endpoints_of_readyHead {ep : UInt8} {urb : PendingUrb}
    (h : (s.state ep).readyHead = some urb) : (ep, s.state ep) ∈ s.endpoints := by
  refine mem_of_valueOf_ne fun hidle => ?_
  rw [state, hidle] at h
  cases h

theorem nextServiceTime_eq_none {urb : PendingUrb} (h : nextServiceTime s.endpoints = none) :
    ¬ ReadyHead s urb := by
  rintro ⟨ep, hready⟩
  have hmem := mem_endpoints_of_readyHead hready
  rw [nextServiceTime, List.min?_eq_none_iff, List.map_eq_nil_iff, List.filterMap_eq_nil_iff] at h
  rw [h _ hmem] at hready
  cases hready

theorem nextServiceTime_le {next : Int} {urb : PendingUrb}
    (h : nextServiceTime s.endpoints = some next) (hready : ReadyHead s urb) :
    next ≤ urb.serviceTime := by
  obtain ⟨ep, hready⟩ := hready
  refine (List.min?_eq_some_iff.mp h).2 _ (List.mem_map.mpr ⟨urb, ?_, rfl⟩)
  exact List.mem_filterMap.mpr ⟨_, mem_endpoints_of_readyHead hready, hready⟩

/-- `schedule_next` sets the timer to a time that no head is due before, or there is no head. -/
theorem scheduleNext_cases (s : SchedulerRun) :
    ((∀ urb, ¬ ReadyHead s urb) ∧ s.scheduleNext = s) ∨
    ∃ next, (∀ urb, ReadyHead s urb → next ≤ urb.serviceTime) ∧
      s.scheduleNext =
        { s.abortWait with timerPending := true, expiry := next, waiting := true } := by
  cases hnext : nextServiceTime s.endpoints with
  | none =>
      refine .inl ⟨fun urb => nextServiceTime_eq_none hnext, ?_⟩
      rw [scheduleNext, hnext]
  | some next =>
      refine .inr ⟨next, fun urb => nextServiceTime_le hnext, ?_⟩
      rw [scheduleNext, hnext]

theorem outstanding_of_thread {handler : IoHandler} (hhandlers : t.handlers = s.handlers)
    (hthread : ∀ handler, s.thread ≠ .invoked handler) (h : Outstanding handler s) :
    Outstanding handler t :=
  .inl (hhandlers ▸ h.resolve_right (hthread handler))

/-- Something will come back to the queues: the timer, a handler that sets it, or its handler. -/
def Attended (s : SchedulerRun) : Prop :=
  s.waiting = true ∨ Outstanding .scheduleOnThread s ∨ Outstanding (.onTimer false) s

/-- The timer is marked pending only while its wait is outstanding or its handler on the way, a
head that waits is attended to, and a scheduler that is not running has neither. -/
structure TimerKept (s : SchedulerRun) : Prop where
  distinct : Distinct Prod.fst s.endpoints
  quiet : s.started = false → s.endpoints = [] ∧ s.timerPending = false
  pending : s.timerPending = true → s.waiting = true ∨ Outstanding (.onTimer false) s
  attended : (∃ urb, ReadyHead s urb) → Attended s

theorem Attended.mono (hs : Attended s) (hwaiting : s.waiting = true → t.waiting = true)
    (houtstanding : ∀ handler, Outstanding handler s → Outstanding handler t) : Attended t :=
  hs.imp hwaiting (Or.imp (houtstanding _) (houtstanding _))

/-- What a step has to leave alone to keep the timer. -/
theorem TimerKept.mono (hs : TimerKept s) (hdistinct : Distinct Prod.fst t.endpoints)
    (hquiet : t.started = false → t.endpoints = [] ∧ t.timerPending = false)
    (hready : (∃ urb, ReadyHead t urb) → ∃ urb, ReadyHead s urb)
    (htimer : t.timerPending = true → s.timerPending = true)
    (hwaiting : s.waiting = true → t.waiting = true)
    (houtstanding : ∀ handler, Outstanding handler s → Outstanding handler t) : TimerKept t where
  distinct := hdistinct
  quiet := hquiet
  pending h := (hs.pending (htimer h)).imp hwaiting (houtstanding _)
  attended h := (hs.attended (hready h)).mono hwaiting houtstanding

/-- A step that touches neither the queues nor the timer keeps it. -/
theorem TimerKept.of_eq (hs : TimerKept s) (hphase : t.phase = s.phase)
    (hendpoints : t.endpoints = s.endpoints) (htimer : t.timerPending = s.timerPending)
    (hwaiting : t.waiting = s.waiting)
    (houtstanding : ∀ handler, Outstanding handler s → Outstanding handler t) : TimerKept t := by
  refine hs.mono (hendpoints ▸ hs.distinct) ?_ ?_ (fun h => htimer ▸ h) (fun h => hwaiting ▸ h)
    houtstanding
  · rw [hendpoints, htimer]
    intro h
    exact hs.quiet (by rw [started, ← hphase]; exact h)
  · simp only [ReadyHead, state, hendpoints]
    exact id

/-- Without queues and with the timer unset there is nothing to keep. -/
theorem kept_of_empty (hendpoints : s.endpoints = []) (htimer : s.timerPending = false) :
    TimerKept s := by
  refine ⟨by simp [hendpoints, Distinct], fun _ => ⟨hendpoints, htimer⟩, ?_, ?_⟩
  · simp [htimer]
  · rintro ⟨urb, ep, hready⟩
    have hmem := mem_endpoints_of_readyHead hready
    rw [hendpoints] at hmem
    cases hmem

/-- The queues and the timer of a scheduler that is not running are empty. -/
theorem TimerKept.of_quiet (hs : TimerKept s) (hstarted : s.started = false)
    (hendpoints : t.endpoints = s.endpoints) (htimer : t.timerPending = false) : TimerKept t :=
  kept_of_empty (hendpoints.trans (hs.quiet hstarted).1) htimer

theorem attended_kick (hpending : s.timerPending = true → s.waiting = true ∨
    Outstanding (.onTimer false) s) : Attended s.kick := by
  unfold kick
  split
  next htimer => exact (hpending htimer).imp id .inr
  next => exact .inr (.inl (.inl (by simp)))

theorem outstanding_kick {handler : IoHandler} (h : Outstanding handler s) :
    Outstanding handler s.kick := by
  unfold kick
  split
  next => exact h
  next => exact h.imp (List.mem_append_left _) id

/-- A new head is attended to by a kick. -/
theorem TimerKept.kick (hs : TimerKept s) (hstarted : s.started = true)
    (hdistinct : Distinct Prod.fst t.endpoints) (hphase : t.phase = s.phase)
    (htimer : t.timerPending = s.timerPending) (hwaiting : t.waiting = s.waiting)
    (hhandlers : t.handlers = s.handlers) (hthread : t.thread = s.thread) : TimerKept t.kick := by
  have hpending : t.timerPending = true → t.waiting = true ∨ Outstanding (.onTimer false) t := by
    rw [htimer, hwaiting]
    intro h
    exact (hs.pending h).imp id (Or.imp (hhandlers ▸ id) (hthread ▸ id))
  refine ⟨by rwa [kick_endpoints], fun h => ?_, fun h => ?_, fun _ => attended_kick hpending⟩
  · rw [started, kick_phase, hphase, ← started, hstarted] at h
    cases h
  · rw [kick_timerPending] at h
    rw [kick_waiting]
    exact (hpending h).imp id outstanding_kick

/-- `push` does not kick only where no head becomes ready. -/
theorem readyHead_push {now : Int} {urb urb' : PendingUrb} {state : EndpointState}
    (hkick : (state.push now urb).1 = false)
    (hready : (state.push now urb).2.readyHead = some urb') : state.readyHead = some urb' := by
  unfold EndpointState.push at hkick hready
  dsimp only at hkick hready
  split at hkick
  next hempty =>
    rw [if_pos hempty] at hready
    have hprocessing : state.processing = true := by simpa using hkick
    simp [EndpointState.readyHead, hprocessing] at hready
  next hempty =>
    rw [if_neg hempty] at hready
    cases hqueue : state.queue with
    | nil => simp [hqueue] at hempty
    | cons front queue => simpa [EndpointState.readyHead, hqueue] using hready

theorem kept_enqueue {ep : UInt8} {urb : PendingUrb} (hs : TimerKept s) :
    TimerKept (s.enqueue ep urb) := by
  unfold enqueue
  split
  next hstarted =>
    have hdistinct : Distinct Prod.fst (upsert ep ((s.state ep).push s.clock urb).2 s.endpoints) :=
      distinct_upsert hs.distinct
    dsimp only
    split
    next => exact hs.kick hstarted hdistinct rfl rfl rfl rfl rfl
    next hkick =>
      refine hs.mono hdistinct (fun h => ?_) ?_ id id fun _ => id
      · change s.started = false at h
        rw [hstarted] at h
        cases h
      · rintro ⟨urb', ep', hready⟩
        rw [state, valueOf_upsert] at hready
        split at hready
        next => exact ⟨urb', ep, readyHead_push (Bool.eq_false_of_not_eq_true hkick) hready⟩
        next => exact ⟨urb', ep', hready⟩
  next => exact hs

theorem kept_onUrbDone (ep : UInt8) (seqnum : UInt32) (hs : TimerKept s) :
    TimerKept (s.onUrbDone ep seqnum) := by
  unfold onUrbDone
  split
  next => exact hs
  next hstarted =>
    have hrunning : s.started = true := Bool.eq_true_of_not_eq_false hstarted
    split
    next => exact hs
    next =>
      dsimp only
      split
      next hqueue =>
        refine hs.mono (distinct_upsert hs.distinct) (fun h => ?_) ?_ id id fun _ => id
        · exact absurd h hstarted
        · rintro ⟨urb', ep', hready⟩
          rw [state, valueOf_upsert] at hready
          split at hready
          next => simp [EndpointState.readyHead, hqueue] at hready
          next => exact ⟨urb', ep', hready⟩
      next => exact hs.kick hrunning (distinct_upsert hs.distinct) rfl rfl rfl rfl rfl

/-- A cancellation makes no head ready where none was. -/
theorem readyHead_withoutUrb {now : Int} {state : EndpointState} {before after : List PendingUrb}
    {urb urb' : PendingUrb} (hqueue : state.queue = before ++ urb :: after)
    (hready : (state.withoutUrb now before urb after).readyHead = some urb') :
    ∃ urb, state.readyHead = some urb := by
  have hprocessing : state.processing = false := by
    cases h : state.processing with
    | false => rfl
    | true => simp [EndpointState.withoutUrb, EndpointState.readyHead, h] at hready
  rcases before with _ | ⟨front, before⟩
  · exact ⟨urb, by simp [EndpointState.readyHead, hprocessing, hqueue]⟩
  · exact ⟨front, by simp [EndpointState.readyHead, hprocessing, hqueue]⟩

theorem cancel_frame (s : SchedulerRun) (seqnum : UInt32) :
    (s.cancel seqnum).phase = s.phase ∧ (s.cancel seqnum).timerPending = s.timerPending ∧
      (s.cancel seqnum).waiting = s.waiting ∧ (s.cancel seqnum).handlers = s.handlers ∧
      (s.cancel seqnum).thread = s.thread := by
  unfold SchedulerRun.cancel
  split <;> exact ⟨rfl, rfl, rfl, rfl, rfl⟩

theorem kept_cancel {seqnum : UInt32} (hs : TimerKept s) : TimerKept (s.cancel seqnum) := by
  obtain ⟨hdistinct, hstep⟩ := endpointsStep_cancel seqnum hs.distinct
  obtain ⟨hphase, htimer, hwaiting, hhandlers, hthread⟩ := cancel_frame s seqnum
  refine hs.mono hdistinct (fun h => ?_) ?_ (fun h => htimer ▸ h) (fun h => hwaiting ▸ h)
    (fun _ h => by rwa [Outstanding, hhandlers, hthread])
  · have hstopped : s.started = false := by rwa [started, ← hphase]
    obtain ⟨hempty, hpending⟩ := hs.quiet hstopped
    refine ⟨?_, htimer.trans hpending⟩
    rw [SchedulerRun.cancel, hempty]
    exact hempty
  · rintro ⟨urb, ep, hready⟩
    have hep := hstep ep
    generalize (s.cancel seqnum).state ep = state' at hep hready
    cases hep with
    | same => exact ⟨urb, ep, hready⟩
    | push urb' ha htime => cases ha
    | release ha => cases ha
    | cancel hcancels =>
        obtain ⟨urb', hurb'⟩ := readyHead_withoutUrb hcancels.queue hready
        exact ⟨urb', ep, hurb'⟩

/-- After `schedule_next` the timer is set, or there is nothing that needs it. -/
theorem kept_scheduleNext (hdistinct : Distinct Prod.fst s.endpoints) (hstarted : s.started = true)
    (htimer : s.timerPending = false) (thread : ThreadPc) :
    TimerKept { s.scheduleNext with thread } := by
  rcases scheduleNext_cases s with ⟨hnone, hsame⟩ | ⟨next, -, hset⟩
  · rw [hsame]
    refine ⟨hdistinct, fun h => ?_, fun h => ?_, ?_⟩
    · change s.started = false at h
      rw [hstarted] at h
      cases h
    · change s.timerPending = true at h
      rw [htimer] at h
      cases h
    · rintro ⟨urb, hready⟩
      exact absurd hready (hnone urb)
  · rw [hset]
    refine ⟨by simpa using hdistinct, fun h => ?_, fun _ => .inl rfl, fun _ => .inl rfl⟩
    change (s.abortWait.phase == .running) = false at h
    rw [abortWait_phase, ← started, hstarted] at h
    cases h

theorem kept_onTimer {aborted : Bool} {elapsed : UInt8 → Nat} (hs : TimerKept s)
    (hthread : s.thread = .invoked (.onTimer aborted)) :
    TimerKept (s.onTimer aborted elapsed) := by
  rcases onTimer_cases elapsed aborted s with ⟨hreturn, hsame⟩ | ⟨hstarted, hrun⟩
  · rw [hsame]
    cases hstarted : s.started with
    | false => exact hs.of_quiet hstarted rfl rfl
    | true =>
        have haborted : aborted = true := hreturn.resolve_right (by simp [hstarted])
        have houtstanding : ∀ handler, handler ≠ .onTimer true → Outstanding handler s →
            handler ∈ s.handlers := fun handler hne h => h.resolve_right fun h => by
          rw [hthread, haborted, ThreadPc.invoked.injEq] at h
          exact hne h.symm
        refine ⟨hs.distinct, fun h => ?_, nofun, fun hready => ?_⟩
        · change s.started = false at h
          rw [hstarted] at h
          cases h
        · exact (hs.attended hready).imp id (Or.imp
            (fun h => .inl (houtstanding _ (by simp) h))
            fun h => .inl (houtstanding _ (by simp) h))
  · rw [hrun]
    exact kept_scheduleNext
      (s := { s with timerPending := false, endpoints := s.withoutDue elapsed })
      (distinct_withoutDue elapsed hs.distinct) hstarted rfl _

theorem kept_scheduleOnThread (hs : TimerKept s)
    (hthread : s.thread = .invoked .scheduleOnThread) :
    TimerKept { s.scheduleOnThread with thread := .polling } := by
  unfold scheduleOnThread
  split
  next hstarted => exact hs.of_quiet hstarted rfl (hs.quiet hstarted).2
  next hrun =>
    have hstarted : s.started = true := Bool.eq_true_of_not_eq_false hrun
    split
    next htimer =>
      -- the timer is set already, and so something else attends to the heads
      have hkept : s.waiting = true ∨ .onTimer false ∈ s.handlers := by
        refine (hs.pending htimer).imp id fun h => h.resolve_right fun h => ?_
        rw [hthread] at h
        cases h
      refine ⟨hs.distinct, fun h => absurd h hrun, fun _ => hkept.imp id .inl, fun _ => ?_⟩
      exact hkept.imp id fun h => .inr (.inl h)
    next htimer =>
      exact kept_scheduleNext hs.distinct hstarted (Bool.eq_false_of_not_eq_true htimer) _

theorem kept_enter {elapsed : UInt8 → Nat} {handler : IoHandler} (hs : TimerKept s)
    (hthread : s.thread = .invoked handler) : TimerKept (s.runHandler elapsed handler) := by
  cases handler with
  | onTimer aborted => exact kept_onTimer hs hthread
  | scheduleOnThread => exact kept_scheduleOnThread hs hthread

/-- The handler that the thread takes stays outstanding until it takes the lock. -/
theorem outstanding_invoke {index : Nat} {handler other : IoHandler}
    (hhandler : s.handlers[index]? = some handler) (hthread : s.thread = .polling)
    (hother : Outstanding other s) : Outstanding other
      { s with thread := .invoked handler, handlers := s.handlers.eraseIdx index } := by
  have hmem : other ∈ s.handlers := hother.resolve_right (by simp [hthread])
  obtain ⟨position, hposition⟩ := List.mem_iff_getElem?.mp hmem
  by_cases hindex : position = index
  · subst hindex
    rw [hhandler, Option.some.injEq] at hposition
    exact .inr (hposition ▸ rfl)
  · exact .inl (List.mem_eraseIdx_iff_getElem?.mpr ⟨position, hindex, hposition⟩)

theorem kept_serve (hs : TimerKept s) (h : s.serve = some t) : TimerKept t := by
  rcases serve_cases h with ⟨hthread, rfl⟩ | ⟨ep, urb, due, hthread, -, rfl⟩ |
    ⟨ep, urb, due, hthread, -, rfl⟩ | ⟨ep, seqnum, due, hthread, rfl⟩
  · exact hs.of_eq rfl rfl rfl rfl fun _ => outstanding_of_thread rfl (by simp [hthread])
  · exact hs.of_eq rfl rfl rfl rfl fun _ => outstanding_of_thread rfl (by simp [hthread])
  · exact hs.of_eq rfl rfl rfl rfl fun _ => outstanding_of_thread rfl (by simp [hthread])
  · refine (kept_onUrbDone ep seqnum hs).of_eq rfl rfl rfl rfl fun _ =>
      outstanding_of_thread rfl ?_
    simp [onUrbDone_thread, hthread]

theorem kept_expire (hs : TimerKept s) :
    TimerKept { s with waiting := false, handlers := s.handlers ++ [.onTimer false] } := by
  have hqueued : Outstanding (.onTimer false)
      { s with waiting := false, handlers := s.handlers ++ [.onTimer false] } :=
    .inl (List.mem_append_right _ (.head _))
  exact ⟨hs.distinct, hs.quiet, fun _ => .inr hqueued, fun _ => .inr (.inr hqueued)⟩

theorem kept_step (hs : TimerKept s) {a : SchedulerAction} (h : s.step a = some t) :
    TimerKept t := by
  have hstopped : s.phase ≠ .running → s.started = false := fun hphase => by
    simp [started, hphase]
  cases effect_of_step h with
  | ticked => exact hs.of_eq rfl rfl rfl rfl fun _ => id
  | again => exact hs
  | started hphase =>
      have hquiet := hstopped (by simp [hphase])
      exact hs.of_quiet hquiet rfl (hs.quiet hquiet).2
  | stopped =>
      refine kept_of_empty (by simp [SchedulerRun.stop]) ?_
      unfold SchedulerRun.stop abortWait
      split <;> rfl
  | contextStopped hphase =>
      have hquiet := hstopped (by simp [hphase])
      exact hs.of_quiet hquiet rfl (hs.quiet hquiet).2
  | joined hphase =>
      have hquiet := hstopped (by simp [hphase])
      exact hs.of_quiet hquiet rfl (hs.quiet hquiet).2
  | express => exact hs.of_eq rfl rfl rfl rfl fun _ => id
  | queuedProcessor => exact kept_enqueue hs
  | queuedReady => exact kept_enqueue hs
  | reported => exact kept_onUrbDone _ _ (hs.of_eq rfl rfl rfl rfl fun _ => id)
  | cancelled => exact kept_cancel hs
  | expired => exact kept_expire hs
  | invoked hhandler hthread =>
      exact hs.of_eq rfl rfl rfl rfl fun _ => outstanding_invoke hhandler hthread
  | entered hthread => exact kept_enter hs hthread
  | served hserve => exact kept_serve hs hserve
  | @rehashed endpoints hperm =>
      have hdistinct : Distinct Prod.fst endpoints :=
        (hperm.map Prod.fst).nodup_iff.mp hs.distinct
      refine hs.mono hdistinct (fun hstarted => ?_) ?_ id id fun _ => id
      · obtain ⟨hempty, htimer⟩ := hs.quiet hstarted
        exact ⟨(hempty ▸ hperm).nil_eq.symm, htimer⟩
      · rintro ⟨urb, ep, hready⟩
        exact ⟨urb, ep, by rwa [← rehash_state hs.distinct hperm]⟩

theorem reachable_kept (h : Reachable system s) : TimerKept s := by
  refine h.invariant (I := TimerKept) ?_ fun _ _ _ hs hstep => kept_step hs hstep
  rintro s ⟨clock, rfl⟩
  exact kept_of_empty rfl rfl

/-- Whenever the lock is free, an endpoint that processes no URB and has one in its queue does not
wait in vain: the wait of the timer is outstanding, or a `schedule_on_thread` or an `on_timer`
without an error is yet to take the lock. A scheduler that is not running has no such endpoint. -/
theorem queue_not_stranded {ep : UInt8} {state : EndpointState} (h : Reachable system s)
    (hmem : (ep, state) ∈ s.endpoints) (hprocessing : state.processing = false)
    (hqueue : state.queue ≠ []) :
    s.started = true ∧
      (s.waiting = true ∨ Outstanding .scheduleOnThread s ∨ Outstanding (.onTimer false) s) := by
  have hkept := reachable_kept h
  constructor
  · refine Bool.eq_true_of_not_eq_false fun hstarted => ?_
    rw [(hkept.quiet hstarted).1] at hmem
    cases hmem
  · refine hkept.attended ?_
    have hstate : s.state ep = state := valueOf_of_mem hkept.distinct hmem _
    obtain ⟨urb, queue, hcons⟩ := List.exists_cons_of_ne_nil hqueue
    exact ⟨urb, ep, by simp [hstate, EndpointState.readyHead, hprocessing, hcons]⟩

/-- The scheduler is stopped with its timer set and started again with the aborted handler still in
the `io_context`, which then runs before the `schedule_on_thread` of the new connection. -/
def staleHandlerRun : List SchedulerAction :=
  [.start, .submitProcessor 1 .bulk 0 7, .invoke 0, .enter fun _ => 0, .stop, .stopContext, .join,
    .start, .submitProcessor 1 .bulk 0 8, .invoke 0, .enter fun _ => 0]

theorem queue_not_stranded_instance :
    ∃ s, system.run (initial 1) staleHandlerRun = some s ∧ s.timerPending = false ∧
      (s.waiting = true ∨ Outstanding .scheduleOnThread s ∨ Outstanding (.onTimer false) s) := by
  refine ⟨_, rfl, rfl, ?_⟩
  exact (queue_not_stranded (Reachable.run staleHandlerRun (.initial ⟨1, rfl⟩) rfl)
    (.head _) rfl (List.cons_ne_nil _ _)).2

end Usbipdcpp.VirtualDevice.SchedulerTimer
