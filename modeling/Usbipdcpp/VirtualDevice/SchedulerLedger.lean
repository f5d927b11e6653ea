import Usbipdcpp.VirtualDevice.SchedulerRun

namespace Usbipdcpp.VirtualDevice.SchedulerLedger

open Foundation.FifoLedger Foundation.KeyedList Foundation.TransitionSystem
open SchedulerRun TransferScheduler

variable {s t : SchedulerRun}

/-- The URBs that have been taken from the queues and not yet served. -/
def due : ThreadPc → List (UInt8 × PendingUrb)
  | .serving due | .answered _ _ due => due
  | _ => []

def numbered (urbs : List (UInt8 × PendingUrb)) : List (UInt8 × Nat) :=
  urbs.map fun entry => (entry.1, entry.2.number)

/-- The URBs taken from the queues for service, in the order in which they are served. -/
def taken (s : SchedulerRun) : List (UInt8 × PendingUrb) := s.handed ++ due s.thread

/-- The books of the scheduler; a URB is withdrawn by a cancellation that succeeds. -/
def ledger (s : SchedulerRun) : Ledger UInt8 where
  arrived := s.submissions
  waiting := queued s.endpoints
  served := numbered (taken s)
  express := s.express
  withdrawn := s.cancelled
  dropped := s.dropped

structure Booked (s : SchedulerRun) : Prop where
  distinct : Distinct Prod.fst s.endpoints
  accounted : (ledger s).Accounted
  absent : s.phase = .stopped → s.thread = .absent

theorem ofKey_queued (hdistinct : Distinct Prod.fst s.endpoints) (ep : UInt8) :
    ofKey ep (queued s.endpoints) = (s.state ep).queue.map (·.number) :=
  ofKey_items rfl hdistinct

/-- A step that leaves the numbers in every queue as they are. -/
theorem Booked.of_queues (hs : Booked s) (hdistinct : Distinct Prod.fst t.endpoints)
    (hqueues : ∀ ep, (t.state ep).queue.map (·.number) = (s.state ep).queue.map (·.number))
    (hbooks : ledger t = { ledger s with waiting := queued t.endpoints })
    (habsent : t.phase = .stopped → t.thread = .absent) : Booked t where
  distinct := hdistinct
  accounted := by
    rw [hbooks]
    refine hs.accounted.reorder fun ep => ?_
    change ofKey ep (queued s.endpoints) = _
    rw [ofKey_queued hs.distinct, ofKey_queued hdistinct, hqueues]
  absent := habsent

/-- A step that leaves the queues and the books alone. -/
theorem Booked.of_eq (hs : Booked s) (hendpoints : t.endpoints = s.endpoints)
    (hbooks : ledger t = ledger s) (habsent : t.phase = .stopped → t.thread = .absent) :
    Booked t :=
  ⟨hendpoints ▸ hs.distinct, hbooks ▸ hs.accounted, habsent⟩

theorem ledger_kick (s : SchedulerRun) : ledger s.kick = ledger s := by
  rw [kick_frame]
  rfl

theorem Booked.kick (hs : Booked s) : Booked s.kick :=
  hs.of_eq (by simp) (ledger_kick s) (by rw [kick_phase, kick_thread]; exact hs.absent)

theorem ledger_scheduleNext (s : SchedulerRun) (thread : ThreadPc) :
    ledger { s.scheduleNext with thread } = ledger { s with thread } := by
  rw [scheduleNext_frame]
  rfl

/-- A URB that is put into a queue joins it at the end. -/
theorem map_number_push (now : Int) (urb : PendingUrb) (state : EndpointState) :
    (state.push now urb).2.queue.map (·.number) = state.queue.map (·.number) ++ [urb.number] := by
  unfold EndpointState.push
  dsimp only
  split
  · rw [EndpointState.map_queue_armNext fun _ _ => rfl]
    simp
  · simp

theorem booked_enqueue {ep : UInt8} {urb : PendingUrb} (hs : Booked s)
    (hnumber : urb.number = s.submissions) : Booked (s.enqueue ep urb) := by
  unfold enqueue
  split
  next =>
    have hdistinct : Distinct Prod.fst (upsert ep ((s.state ep).push s.clock urb).2 s.endpoints) :=
      distinct_upsert hs.distinct
    have hpushed : Booked { s with
        endpoints := upsert ep ((s.state ep).push s.clock urb).2 s.endpoints
        submissions := s.submissions + 1 } := by
      refine ⟨hdistinct, hs.accounted.arrive (k := ep) fun ep' => ?_, hs.absent⟩
      change _ = ofKey ep' (queued s.endpoints ++ [(ep, s.submissions)])
      rw [ofKey_queued (s := { s with endpoints := _ }) hdistinct, ofKey_append,
        ofKey_queued hs.distinct, ofKey_cons, SchedulerRun.state, valueOf_upsert]
      by_cases hep : ep' = ep
      · subst hep
        rw [if_pos rfl, if_pos rfl, map_number_push, hnumber]
        rfl
      · rw [if_neg hep, if_neg (Ne.symm hep), ofKey_nil, List.append_nil]
        rfl
    dsimp only
    split
    next => exact hpushed.kick
    next => exact hpushed
  next => exact hs

theorem booked_serveExpress {ep : UInt8} (hs : Booked s) : Booked (s.serveExpress ep) :=
  ⟨hs.distinct, hs.accounted.arriveExpress ep, hs.absent⟩

theorem ledger_onUrbDone (ep : UInt8) (seqnum : UInt32) (s : SchedulerRun) :
    ledger (s.onUrbDone ep seqnum) =
      { ledger s with waiting := queued (s.onUrbDone ep seqnum).endpoints } := by
  rw [onUrbDone_frame]
  rfl

theorem state_onUrbDone (ep ep' : UInt8) (seqnum : UInt32) (s : SchedulerRun) :
    ((s.onUrbDone ep seqnum).state ep').queue = (s.state ep').queue := by
  rcases onUrbDone_cases s ep seqnum with ⟨-, hsame⟩ | ⟨-, hendpoints⟩
  · rw [hsame]
  · rw [SchedulerRun.state, hendpoints, valueOf_upsert]
    split
    next heq => rw [heq]
    next => rfl

theorem distinct_onUrbDone {ep : UInt8} {seqnum : UInt32}
    (hdistinct : Distinct Prod.fst s.endpoints) :
    Distinct Prod.fst (s.onUrbDone ep seqnum).endpoints :=
  (endpointsStep_onUrbDone (a := SchedulerAction.serve) rfl hdistinct).1

theorem booked_onUrbDone {ep : UInt8} {seqnum : UInt32} (hs : Booked s) :
    Booked (s.onUrbDone ep seqnum) := by
  refine hs.of_queues (distinct_onUrbDone hs.distinct) (fun ep' => ?_)
    (ledger_onUrbDone ep seqnum s) (by simpa using hs.absent)
  rw [state_onUrbDone]

theorem map_number_withoutUrb (now : Int) (state : EndpointState) (before after : List PendingUrb)
    (urb : PendingUrb) :
    (state.withoutUrb now before urb after).queue.map (·.number) =
      before.map (·.number) ++ after.map (·.number) := by
  unfold EndpointState.withoutUrb
  dsimp only
  split
  · rw [EndpointState.map_queue_armNext fun _ _ => rfl, List.map_append]
  · rw [List.map_append]

theorem booked_cancel {seqnum : UInt32} (hs : Booked s) : Booked (s.cancel seqnum) := by
  rcases cancel_cases seqnum hs.distinct with ⟨-, hsame⟩ |
    ⟨ep, before, urb, after, hcancels, hcancel, hdistinct, hstate⟩
  · rwa [hsame]
  · have hbooks : ledger (s.cancel seqnum) =
        { ledger s with waiting := queued (s.cancel seqnum).endpoints,
                        withdrawn := s.cancelled ++ [(ep, urb.number)] } := by
      rw [hcancel]
      rfl
    refine ⟨hdistinct, ?_, by rw [hcancel]; exact hs.absent⟩
    rw [hbooks]
    have hqueue : ofKey ep (ledger s).waiting =
        before.map (·.number) ++ urb.number :: after.map (·.number) := by
      change ofKey ep (queued s.endpoints) = _
      rw [ofKey_queued hs.distinct, hcancels.queue, List.map_append, List.map_cons]
    refine hs.accounted.withdraw hqueue ?_ fun ep' hep => ?_
    · rw [ofKey_queued hdistinct, hstate, if_pos rfl, map_number_withoutUrb]
    · change _ = ofKey ep' (queued s.endpoints)
      rw [ofKey_queued hdistinct, ofKey_queued hs.distinct, hstate, if_neg hep]

theorem booked_stop (hs : Booked s) : Booked s.stop := by
  have hbooks : ledger s.stop =
      { ledger s with waiting := [], dropped := s.dropped ++ queued s.endpoints } := by
    unfold SchedulerRun.stop abortWait
    split <;> rfl
  refine ⟨by simp [SchedulerRun.stop, Distinct], ?_, by simp [SchedulerRun.stop]⟩
  rw [hbooks]
  exact hs.accounted.drop

theorem map_number_takeDue {now armNow : Int} {state state' : EndpointState} {urb : PendingUrb}
    (h : state.takeDue now armNow = some (urb, state')) :
    state.queue.map (·.number) = urb.number :: state'.queue.map (·.number) := by
  obtain ⟨rest, hqueue, -, -, rfl⟩ := EndpointState.takeDue_cases h
  rw [EndpointState.map_queue_armNext fun _ _ => rfl, hqueue, List.map_cons]

/-- What `on_timer` takes out of the queues are the first URBs of some of them. -/
theorem sameOrder_onTimer (hdistinct : Distinct Prod.fst s.endpoints) (elapsed : UInt8 → Nat) :
    SameOrder (queued s.endpoints)
      (numbered (s.dueUrbs elapsed) ++ queued (s.withoutDue elapsed)) := by
  intro ep
  have hleft : ofKey ep (queued (s.withoutDue elapsed)) =
      ((s.state ep).afterTimer s.clock (s.clock + elapsed ep)).queue.map (·.number) := by
    rw [← valueOf_withoutDue]
    exact ofKey_items rfl (distinct_withoutDue elapsed hdistinct)
  rw [ofKey_append, numbered, ofKey_dueUrbs elapsed _ hdistinct, hleft, ofKey_queued hdistinct,
    EndpointState.afterTimer]
  cases htake : (s.state ep).takeDue s.clock (s.clock + elapsed ep) with
  | none => rfl
  | some taken => exact map_number_takeDue htake

theorem booked_onTimer {aborted : Bool} {elapsed : UInt8 → Nat} (hs : Booked s)
    (hthread : s.thread = .invoked (.onTimer aborted)) :
    Booked (s.onTimer aborted elapsed) := by
  have hphase : s.phase ≠ .stopped := fun h => by
    have habsent := hs.absent h
    rw [hthread] at habsent
    cases habsent
  have htaken : (ledger s).served = numbered s.handed := by
    simp [ledger, taken, due, hthread]
  rcases onTimer_cases elapsed aborted s with ⟨-, hreturn⟩ | ⟨-, hrun⟩
  · rw [hreturn]
    refine hs.of_eq rfl ?_ fun h => absurd h hphase
    simp [ledger, taken, due, hthread]
  · rw [hrun]
    refine ⟨by simpa using distinct_withoutDue elapsed hs.distinct, ?_,
      fun h => absurd (by simpa using h) hphase⟩
    have hserved := hs.accounted.serve (sameOrder_onTimer hs.distinct elapsed)
    rw [htaken, numbered, numbered, ← List.map_append] at hserved
    rw [ledger_scheduleNext]
    exact hserved

theorem booked_enter {elapsed : UInt8 → Nat} {handler : IoHandler} (hs : Booked s)
    (hthread : s.thread = .invoked handler) : Booked (s.runHandler elapsed handler) := by
  cases handler with
  | onTimer aborted => exact booked_onTimer hs hthread
  | scheduleOnThread =>
      have hphase : s.phase ≠ .stopped := fun h => by
        have habsent := hs.absent h
        rw [hthread] at habsent
        cases habsent
      refine hs.of_eq (by simp [runHandler]) ?_ fun h =>
        absurd (by simpa [runHandler] using h) hphase
      rw [runHandler, scheduleOnThread]
      split
      · simp [ledger, taken, due, hthread]
      · split
        · simp [ledger, taken, due, hthread]
        · rw [ledger_scheduleNext]
          simp [ledger, taken, due, hthread]

/-- The thread serves the first of the URBs it has taken, and takes no other. -/
theorem taken_serve (h : s.serve = some t) : taken t = taken s := by
  rcases serve_cases h with ⟨hthread, rfl⟩ | ⟨ep, urb, due', hthread, -, rfl⟩ |
    ⟨ep, urb, due', hthread, -, rfl⟩ | ⟨ep, seqnum, due', hthread, rfl⟩
  · simp [taken, due, hthread]
  · simp [taken, due, hthread]
  · simp [taken, due, hthread]
  · rw [onUrbDone_frame]
    simp [taken, due, hthread]

theorem booked_serve (hs : Booked s) (h : s.serve = some t) : Booked t := by
  have htaken := taken_serve h
  have hphase : s.phase ≠ .stopped := fun hphase => by
    rw [serve, hs.absent hphase] at h
    cases h
  rcases serve_cases h with ⟨-, rfl⟩ | ⟨ep, urb, due', -, -, rfl⟩ |
    ⟨ep, urb, due', -, -, rfl⟩ | ⟨ep, seqnum, due', -, rfl⟩
  · exact hs.of_eq rfl (by rw [ledger, htaken]; rfl) fun h => absurd h hphase
  · exact hs.of_eq rfl (by rw [ledger, htaken]; rfl) fun h => absurd h hphase
  · exact hs.of_eq rfl (by rw [ledger, htaken]; rfl) fun h => absurd h hphase
  · refine hs.of_queues (distinct_onUrbDone hs.distinct) (fun ep' => ?_) ?_ fun h =>
      absurd (by simpa using h) hphase
    · exact congrArg (List.map _) (state_onUrbDone ep ep' seqnum s)
    · rw [ledger, htaken, onUrbDone_frame]
      rfl

theorem booked_step (hs : Booked s) {a : SchedulerAction} (h : s.step a = some t) : Booked t := by
  cases effect_of_step h with
  | ticked => exact hs.of_eq rfl rfl hs.absent
  | again => exact hs
  | started hphase =>
      refine hs.of_eq rfl ?_ (by simp)
      simp [ledger, taken, due, hs.absent hphase]
  | stopped => exact booked_stop hs
  | contextStopped => exact hs.of_eq rfl rfl (by simp)
  | joined _ hthread =>
      refine hs.of_eq rfl ?_ fun _ => rfl
      simp [ledger, taken, due, hthread]
  | express => exact booked_serveExpress hs
  | queuedProcessor => exact booked_enqueue hs rfl
  | queuedReady => exact booked_enqueue hs rfl
  | reported => exact booked_onUrbDone (hs.of_eq rfl rfl hs.absent)
  | cancelled => exact booked_cancel hs
  | expired => exact hs.of_eq rfl rfl hs.absent
  | invoked _ hthread hphase =>
      refine hs.of_eq rfl ?_ fun h => ?_
      · simp [ledger, taken, due, hthread]
      · rcases hphase with hphase | hphase <;> exact absurd (hphase.symm.trans h) (by decide)
  | entered hthread => exact booked_enter hs hthread
  | served hserve => exact booked_serve hs hserve
  | rehashed hperm =>
      refine hs.of_queues ((hperm.map Prod.fst).nodup_iff.mp hs.distinct) (fun ep => ?_) rfl
        hs.absent
      rw [rehash_state hs.distinct hperm]

theorem reachable_booked (h : Reachable system s) : Booked s := by
  refine h.invariant (I := Booked) ?_ fun _ _ _ hs hstep => booked_step hs hstep
  rintro s ⟨clock, rfl⟩
  exact ⟨List.nodup_nil, Ledger.accounted_empty, fun _ => rfl⟩

/-- No two URBs in a queue have the same number. -/
theorem Booked.nodup_queue (hs : Booked s) (ep : UInt8) :
    ((s.state ep).queue.map (·.number)).Nodup := by
  have h := (List.pairwise_append.mp (hs.accounted.inOrder_append ep)).2.1
  change (ofKey ep (queued s.endpoints)).Pairwise (· < ·) at h
  rw [ofKey_queued hs.distinct] at h
  exact h.imp fun hlt => hlt.ne

end Usbipdcpp.VirtualDevice.SchedulerLedger
