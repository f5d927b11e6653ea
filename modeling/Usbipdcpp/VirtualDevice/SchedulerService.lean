import Usbipdcpp.VirtualDevice.SchedulerLedger
import Usbipdcpp.VirtualDevice.SchedulerTimer

namespace Usbipdcpp.VirtualDevice.SchedulerService

open Foundation.FifoLedger Foundation.KeyedList Foundation.TransitionSystem
open SchedulerRun SchedulerLedger SchedulerTimer

variable {s t : SchedulerRun}

/-- The URBs in the hands of the scheduling thread. -/
def inService : ThreadPc → List (UInt8 × UInt32)
  | .serving due => due.map fun entry => (entry.1, entry.2.seqnum)
  | .answered ep seqnum due => (ep, seqnum) :: due.map fun entry => (entry.1, entry.2.seqnum)
  | _ => []

/-- The URBs that have been taken from the queues in this connection and not been reported as
done. -/
def active (s : SchedulerRun) : List (UInt8 × UInt32) := s.unreported ++ inService s.thread

/-- What an endpoint's processing mark says. -/
def mark (state : EndpointState) : List UInt32 :=
  if state.processing then [state.processingSeqnum] else []

/-- A handler's report names the URB that is being processed only if the handler was given that URB
in this connection and has not reported it before. -/
def ReportsGiven (s : SchedulerRun) : SchedulerAction → Prop
  | .onUrbDone ep seqnum => Reports s ep seqnum → (ep, seqnum) ∈ s.unreported
  | _ => True

/-- The processing marks show what is active, and all of that has been taken from the queues. -/
structure Marked (s : SchedulerRun) : Prop where
  marks : s.started = true → ∀ ep, ofKey ep (active s) = mark (s.state ep)
  single : ∀ ep, (ofKey ep (active s)).length ≤ 1
  known : ∀ ep seqnum, (ep, seqnum) ∈ active s →
    ∃ urb, urb.seqnum = seqnum ∧ (ep, urb) ∈ taken s

theorem length_mark (state : EndpointState) : (mark state).length ≤ 1 := by
  unfold mark
  split <;> simp

theorem marked_of_marks (hmarks : ∀ ep, ofKey ep (active s) = mark (s.state ep))
    (hknown : ∀ ep seqnum, (ep, seqnum) ∈ active s →
      ∃ urb, urb.seqnum = seqnum ∧ (ep, urb) ∈ taken s) : Marked s :=
  ⟨fun _ => hmarks, fun ep => hmarks ep ▸ length_mark _, hknown⟩

/-- A step that leaves alone what is active and what the marks say. -/
theorem Marked.of_eq (hs : Marked s) (hstarted : t.started = true → s.started = true)
    (hactive : active t = active s) (hmark : ∀ ep, mark (t.state ep) = mark (s.state ep))
    (htaken : taken t = taken s) : Marked t where
  marks h ep := by rw [hactive, hmark, hs.marks (hstarted h)]
  single ep := hactive ▸ hs.single ep
  known ep seqnum h := by
    rw [hactive] at h
    rw [htaken]
    exact hs.known ep seqnum h

theorem mem_active_of_mark (hs : Marked s) (hstarted : s.started = true) {ep : UInt8}
    (hprocessing : (s.state ep).processing = true) :
    (ep, (s.state ep).processingSeqnum) ∈ active s := by
  rw [← mem_ofKey_iff, hs.marks hstarted ep, mark, if_pos hprocessing]
  exact .head _

theorem reports_of_mem_active (hs : Marked s) (hstarted : s.started = true) {ep : UInt8}
    {seqnum : UInt32} (hmem : (ep, seqnum) ∈ active s) : Reports s ep seqnum := by
  rw [← mem_ofKey_iff, hs.marks hstarted ep, mark] at hmem
  split at hmem
  next hprocessing => exact ⟨hstarted, hprocessing, (List.mem_singleton.mp hmem).symm⟩
  next => cases hmem

theorem mark_push (now : Int) (urb : PendingUrb) (state : EndpointState) :
    mark (state.push now urb).2 = mark state := by
  unfold EndpointState.push mark
  dsimp only
  split <;> simp

theorem mark_withoutUrb (now : Int) (state : EndpointState) (before after : List PendingUrb)
    (urb : PendingUrb) : mark (state.withoutUrb now before urb after) = mark state := by
  unfold EndpointState.withoutUrb mark
  dsimp only
  split <;> simp

theorem marked_enqueue {ep : UInt8} {urb : PendingUrb} (hs : Marked s) :
    Marked (s.enqueue ep urb) := by
  unfold enqueue
  split
  next =>
    have hpushed : Marked { s with
        endpoints := upsert ep ((s.state ep).push s.clock urb).2 s.endpoints
        submissions := s.submissions + 1 } := by
      refine hs.of_eq id rfl (fun ep' => ?_) rfl
      rw [SchedulerRun.state, valueOf_upsert]
      split
      next heq => rw [mark_push, heq]
      next => rfl
    dsimp only
    split
    next =>
      rw [kick_frame]
      exact hpushed.of_eq id rfl (fun _ => rfl) rfl
    next => exact hpushed
  next => exact hs

theorem taken_enqueue (ep : UInt8) (urb : PendingUrb) (s : SchedulerRun) :
    taken (s.enqueue ep urb) = taken s := by
  unfold enqueue
  split
  · dsimp only
    split
    · rw [kick_frame]
      rfl
    · rfl
  · rfl

theorem state_released {ep ep' : UInt8} {seqnum : UInt32} (h : Reports s ep seqnum) :
    mark ((s.onUrbDone ep seqnum).state ep') = if ep' = ep then [] else mark (s.state ep') := by
  rcases onUrbDone_cases s ep seqnum with ⟨hnot, -⟩ | ⟨-, hendpoints⟩
  · exact absurd h hnot
  · rw [SchedulerRun.state, hendpoints, valueOf_upsert]
    split <;> rfl

/-- The URB that is reported as done is active no more. -/
theorem marked_released {ep : UInt8} {seqnum : UInt32} (hs : Marked s)
    (hreports : Reports s ep seqnum)
    (hmarks : ∀ ep', mark (t.state ep') = if ep' = ep then [] else mark (s.state ep'))
    (hactive : ∀ ep', ofKey ep' (active t) =
      if ep = ep' then (ofKey ep' (active s)).erase seqnum else ofKey ep' (active s))
    (htaken : taken t = taken s) : Marked t := by
  refine marked_of_marks (fun ep' => ?_) fun ep' seqnum' h => ?_
  · rw [hactive, hmarks, hs.marks hreports.1]
    by_cases hep : ep' = ep
    · rw [if_pos hep.symm, if_pos hep, hep, mark, if_pos hreports.2.1, hreports.2.2]
      simp
    · rw [if_neg (Ne.symm hep), if_neg hep]
  · rw [← mem_ofKey_iff, hactive] at h
    have hmem : seqnum' ∈ ofKey ep' (active s) := by
      split at h
      next => exact List.mem_of_mem_erase h
      next => exact h
    exact htaken ▸ hs.known ep' seqnum' (mem_ofKey_iff.mp hmem)

/-- While the scheduler is not running, URBs cease to be active and no others become so. -/
theorem Marked.of_stopped (hs : Marked s) (hstarted : t.started = false)
    (hactive : (active t).Sublist (active s)) (htaken : taken t = taken s) : Marked t where
  marks h := by
    rw [hstarted] at h
    cases h
  single ep := ((hactive.filter _).map _).length_le.trans (hs.single ep)
  known ep seqnum h := htaken ▸ hs.known ep seqnum (hactive.subset h)

theorem active_onUrbDone (ep : UInt8) (seqnum : UInt32) (s : SchedulerRun) :
    active (s.onUrbDone ep seqnum) = active s := by
  rw [onUrbDone_frame]
  rfl

theorem taken_onUrbDone (ep : UInt8) (seqnum : UInt32) (s : SchedulerRun) :
    taken (s.onUrbDone ep seqnum) = taken s := by
  rw [onUrbDone_frame]
  rfl

/-- A report of the handler, which is either for the URB that is being processed or ignored. -/
theorem marked_onUrbDone {ep : UInt8} {seqnum : UInt32} (hs : Marked s)
    (hguard : Reports s ep seqnum → (ep, seqnum) ∈ s.unreported) :
    Marked ({ s with unreported := s.unreported.erase (ep, seqnum) }.onUrbDone ep seqnum) := by
  by_cases hreports : Reports s ep seqnum
  · have hmem : seqnum ∈ ofKey ep s.unreported := mem_ofKey_iff.mpr (hguard hreports)
    refine marked_released hs hreports (fun ep' => state_released hreports) (fun ep' => ?_)
      (taken_onUrbDone ep seqnum _)
    rw [active_onUrbDone, active, active, ofKey_append, ofKey_append, ofKey_erase]
    split
    next hep => rw [List.erase_append_left _ (hep ▸ hmem)]
    next => rfl
  · rcases onUrbDone_cases { s with unreported := s.unreported.erase (ep, seqnum) } ep seqnum
      with ⟨-, hsame⟩ | ⟨hreports', -⟩
    · rw [hsame]
      cases hstarted : s.started with
      | true =>
          have hnot : (ep, seqnum) ∉ s.unreported := fun hmem =>
            hreports (reports_of_mem_active hs hstarted (List.mem_append_left _ hmem))
          exact hs.of_eq id (by simp [active, List.erase_of_not_mem hnot]) (fun _ => rfl) rfl
      | false =>
          exact hs.of_stopped hstarted (List.erase_sublist.append_right _) rfl
    · exact absurd hreports' hreports

/-- The URB that is being processed is active once, and so only in the hands of the thread that has
just answered it. -/
theorem ofKey_active_answered {ep : UInt8} {seqnum : UInt32} {due : List (UInt8 × PendingUrb)}
    (hs : Marked s) (hreports : Reports s ep seqnum) (hthread : s.thread = .answered ep seqnum due)
    (ep' : UInt8) :
    ofKey ep' (active { s.onUrbDone ep seqnum with thread := .serving due }) =
      if ep = ep' then (ofKey ep' (active s)).erase seqnum else ofKey ep' (active s) := by
  have hafter : active { s.onUrbDone ep seqnum with thread := .serving due } =
      s.unreported ++ inService (.serving due) := by
    rw [onUrbDone_frame]
    rfl
  have hbefore : active s = s.unreported ++ (ep, seqnum) :: inService (.serving due) := by
    rw [active, hthread]
    rfl
  have hmarks := hs.marks hreports.1 ep
  rw [mark, if_pos hreports.2.1, hreports.2.2, hbefore, ofKey_append, ofKey_cons, if_pos rfl]
    at hmarks
  have hunreported : ofKey ep s.unreported = [] := by
    have hlength := congrArg List.length hmarks
    simp only [List.length_append, List.length_cons, List.length_nil] at hlength
    exact List.length_eq_zero_iff.mp (by omega)
  rw [hafter, hbefore, ofKey_append, ofKey_append, ofKey_cons]
  split
  next hep =>
    rw [← hep, hunreported, List.nil_append, List.nil_append, List.erase_cons_head]
  next => rfl

/-- What the scheduling thread does between two critical sections. -/
theorem marked_serve (hs : Marked s) (h : s.serve = some t) : Marked t := by
  have htaken := taken_serve h
  rcases serve_cases h with ⟨hthread, rfl⟩ | ⟨ep, urb, due, hthread, -, rfl⟩ |
    ⟨ep, urb, due, hthread, -, rfl⟩ | ⟨ep, seqnum, due, hthread, rfl⟩
  · exact hs.of_eq id (by simp [active, hthread, inService]) (fun _ => rfl) htaken
  · exact hs.of_eq id (by simp [active, hthread, inService]) (fun _ => rfl) htaken
  · exact hs.of_eq id (by simp [active, hthread, inService]) (fun _ => rfl) htaken
  · have hmem : (ep, seqnum) ∈ active s := by simp [active, hthread, inService]
    cases hstarted : s.started with
    | true =>
        have hreports := reports_of_mem_active hs hstarted hmem
        refine marked_released hs hreports (fun ep' => state_released hreports)
          (ofKey_active_answered hs hreports hthread) htaken
    | false =>
        refine hs.of_stopped (by simpa [started] using hstarted) ?_ htaken
        rw [active, onUrbDone_frame, active, hthread]
        exact (List.sublist_cons_self _ _).append_left _

/-- The timer takes URBs from idle endpoints only, and marks them. -/
theorem mark_takeDue {now armNow : Int} {state state' : EndpointState} {urb : PendingUrb}
    (h : state.takeDue now armNow = some (urb, state')) :
    mark state = [] ∧ mark state' = [urb.seqnum] := by
  obtain ⟨rest, -, hprocessing, -, rfl⟩ := EndpointState.takeDue_cases h
  simp [mark, hprocessing]

theorem marked_onTimer {aborted : Bool} {elapsed : UInt8 → Nat}
    (hdistinct : Distinct Prod.fst s.endpoints) (hs : Marked s)
    (hthread : s.thread = .invoked (.onTimer aborted)) :
    Marked (s.onTimer aborted elapsed) := by
  have hidle : active s = s.unreported := by simp [active, hthread, inService]
  have htaken : taken s = s.handed := by simp [taken, hthread, due]
  rcases onTimer_cases elapsed aborted s with ⟨-, hreturn⟩ | ⟨hstarted, hrun⟩
  · rw [hreturn]
    refine hs.of_eq id ?_ (fun _ => rfl) ?_
    · rw [hidle]
      simp [active, inService]
    · rw [htaken]
      simp [taken, due]
  · rw [hrun, scheduleNext_frame]
    refine marked_of_marks (fun ep => ?_) fun ep seqnum hmem => ?_
    · have hmark := hs.marks hstarted ep
      rw [hidle] at hmark
      change ofKey ep (s.unreported ++ inService (.serving (s.dueUrbs elapsed))) =
        mark (valueOf .idle ep (s.withoutDue elapsed))
      rw [ofKey_append, hmark, inService, ofKey_dueUrbs elapsed _ hdistinct, valueOf_withoutDue,
        EndpointState.afterTimer]
      cases htake : (s.state ep).takeDue s.clock (s.clock + elapsed ep) with
      | none => simp
      | some taken =>
          obtain ⟨hunmarked, hmarked⟩ := mark_takeDue htake
          simp [hunmarked, hmarked]
    · rcases List.mem_append.mp hmem with hold | hnew
      · obtain ⟨urb, hurb, hurbs⟩ := hs.known ep seqnum (hidle ▸ hold)
        exact ⟨urb, hurb, List.mem_append_left _ (htaken ▸ hurbs)⟩
      · obtain ⟨⟨ep', urb⟩, hurb, heq⟩ := List.mem_map.mp hnew
        obtain ⟨rfl, rfl⟩ := Prod.mk.inj heq
        exact ⟨urb, rfl, List.mem_append_right _ hurb⟩

theorem marked_enter {elapsed : UInt8 → Nat} {handler : IoHandler}
    (hdistinct : Distinct Prod.fst s.endpoints) (hs : Marked s)
    (hthread : s.thread = .invoked handler) : Marked (s.runHandler elapsed handler) := by
  cases handler with
  | onTimer aborted => exact marked_onTimer hdistinct hs hthread
  | scheduleOnThread =>
      rw [runHandler, scheduleOnThread_frame]
      refine hs.of_eq id ?_ (fun _ => rfl) ?_
      · simp [active, hthread, inService]
      · simp [taken, hthread, due]

theorem marked_step (hbooked : Booked s) (hkept : TimerKept s) (hs : Marked s)
    {a : SchedulerAction} (hguard : ReportsGiven s a) (h : s.step a = some t) : Marked t := by
  cases effect_of_step h with
  | ticked => exact hs.of_eq id rfl (fun _ => rfl) rfl
  | again => exact hs
  | started hphase =>
      have hempty := (hkept.quiet (by simp [started, hphase])).1
      refine marked_of_marks (fun ep => ?_) (by simp [active, inService])
      simp [active, inService, SchedulerRun.state, hempty, valueOf, lookup, mark,
        EndpointState.idle]
  | stopped =>
      rw [SchedulerRun.stop, abortWait_frame]
      exact hs.of_stopped rfl (List.Sublist.refl _) rfl
  | contextStopped => exact hs.of_stopped rfl (List.Sublist.refl _) rfl
  | joined _ hthread =>
      refine hs.of_stopped rfl ?_ (by simp [taken, hthread, due])
      simp [active, inService]
  | express => exact hs.of_eq id rfl (fun _ => rfl) rfl
  | queuedProcessor => exact marked_enqueue hs
  | queuedReady => exact marked_enqueue hs
  | reported => exact marked_onUrbDone hs hguard
  | @cancelled seqnum =>
      rcases cancel_cases seqnum hbooked.distinct with ⟨-, hsame⟩ |
        ⟨ep, before, urb, after, -, hcancel, -, hstate⟩
      · rwa [hsame]
      · refine hs.of_eq (by rw [hcancel]; exact id) (by rw [hcancel]; rfl) (fun ep' => ?_)
          (by rw [hcancel]; rfl)
        rw [hstate]
        split
        next heq => rw [mark_withoutUrb, heq]
        next => rfl
  | expired => exact hs.of_eq id rfl (fun _ => rfl) rfl
  | invoked _ hthread =>
      refine hs.of_eq id ?_ (fun _ => rfl) ?_
      · simp [active, hthread, inService]
      · simp [taken, hthread, due]
  | entered hthread => exact marked_enter hbooked.distinct hs hthread
  | served hserve => exact marked_serve hs hserve
  | rehashed hperm =>
      exact hs.of_eq id rfl (fun ep => by rw [rehash_state hbooked.distinct hperm]) rfl

/-- `t` has taken what `s` has, and besides only heads of queues of `s`. -/
def TakesHeads (s t : SchedulerRun) : Prop :=
  ∃ heads, taken t = taken s ++ heads ∧
    ∀ ep urb, (ep, urb) ∈ heads → (s.state ep).queue.head? = some urb

theorem takesHeads_of_eq (h : taken t = taken s) : TakesHeads s t :=
  ⟨[], by rw [h, List.append_nil], nofun⟩

theorem head_of_mem_dueUrbs {elapsed : UInt8 → Nat} (hdistinct : Distinct Prod.fst s.endpoints)
    {ep : UInt8} {urb : PendingUrb} (hmem : (ep, urb) ∈ s.dueUrbs elapsed) :
    (s.state ep).queue.head? = some urb := by
  have hdue := ofKey_dueUrbs elapsed id hdistinct ep
  have hkey : urb ∈ ofKey ep ((s.dueUrbs elapsed).map fun entry => (entry.1, id entry.2)) :=
    mem_ofKey_iff.mpr (List.mem_map.mpr ⟨(ep, urb), hmem, rfl⟩)
  rw [hdue, Option.mem_toList, Option.map_eq_some_iff] at hkey
  obtain ⟨⟨urb', state'⟩, htake, rfl⟩ := hkey
  obtain ⟨rest, hqueue, -⟩ := EndpointState.takeDue_cases htake
  rw [hqueue]
  rfl

theorem takesHeads_enter (hdistinct : Distinct Prod.fst s.endpoints) {elapsed : UInt8 → Nat}
    {handler : IoHandler} (hthread : s.thread = .invoked handler) :
    TakesHeads s (s.runHandler elapsed handler) := by
  have htaken : taken s = s.handed := by simp [taken, due, hthread]
  cases handler with
  | scheduleOnThread =>
      refine takesHeads_of_eq ?_
      rw [htaken, runHandler, scheduleOnThread_frame]
      exact List.append_nil _
  | onTimer aborted =>
      rw [runHandler]
      rcases onTimer_cases elapsed aborted s with ⟨-, hreturn⟩ | ⟨-, hrun⟩
      · refine takesHeads_of_eq ?_
        rw [htaken, hreturn]
        exact List.append_nil _
      · refine ⟨s.dueUrbs elapsed, ?_, fun ep urb => head_of_mem_dueUrbs hdistinct⟩
        rw [htaken, hrun, scheduleNext_frame]
        rfl

/-- What has been taken from the queues stays taken. -/
theorem takesHeads_step (hbooked : Booked s) {a : SchedulerAction} (h : s.step a = some t) :
    TakesHeads s t := by
  cases effect_of_step h with
  | started hphase => exact takesHeads_of_eq (by simp [taken, due, hbooked.absent hphase])
  | stopped =>
      rw [SchedulerRun.stop, abortWait_frame]
      exact takesHeads_of_eq rfl
  | joined _ hthread => exact takesHeads_of_eq (by simp [taken, due, hthread])
  | queuedProcessor => exact takesHeads_of_eq (taken_enqueue _ _ _)
  | queuedReady => exact takesHeads_of_eq (taken_enqueue _ _ _)
  | reported => exact takesHeads_of_eq (taken_onUrbDone _ _ _)
  | cancelled =>
      unfold SchedulerRun.cancel
      split <;> exact takesHeads_of_eq rfl
  | invoked _ hthread => exact takesHeads_of_eq (by simp [taken, due, hthread])
  | entered hthread => exact takesHeads_enter hbooked.distinct hthread
  | served hserve => exact takesHeads_of_eq (taken_serve hserve)
  -- the other steps take no URB from a queue and hand none on
  | _ => exact takesHeads_of_eq rfl

theorem taken_run {actions : List SchedulerAction} (h : Reachable system s)
    (hrun : system.run s actions = some t) : taken s <+: taken t := by
  refine (System.run_invariant (T := system)
    (I := fun _ t => Reachable system t ∧ taken s <+: taken t) ⟨h, List.prefix_rfl⟩ ?_ hrun).2
  rintro - u a t ⟨hu, hprefix⟩ hstep
  obtain ⟨heads, htaken, -⟩ := takesHeads_step (reachable_booked hu) hstep
  exact ⟨hu.step hstep, hprefix.trans ⟨heads, htaken.symm⟩⟩

/-- How many steps the scheduling thread has left in its loop over the due URBs. -/
def workLeft : ThreadPc → Nat
  | .serving due => 2 * due.length
  | .answered _ _ due => 2 * due.length + 1
  | _ => 0

theorem serve_of_due (h : due s.thread ≠ []) :
    ∃ t, s.serve = some t ∧ workLeft t.thread < workLeft s.thread := by
  cases hthread : s.thread with
  | serving due' =>
      cases due' with
      | nil => simp [hthread, due] at h
      | cons entry due' =>
          obtain ⟨ep, urb⟩ := entry
          rw [serve, hthread]
          dsimp only
          split
          · refine ⟨_, rfl, ?_⟩
            simp only [workLeft, List.length_cons]
            omega
          · refine ⟨_, rfl, ?_⟩
            simp only [workLeft, List.length_cons]
            omega
  | answered ep seqnum due' =>
      rw [serve, hthread]
      refine ⟨_, rfl, ?_⟩
      simp only [workLeft]
      omega
  | _ => simp [hthread, due] at h

/-- Nothing can keep the scheduling thread from serving what it has taken. -/
theorem serve_all (s : SchedulerRun) :
    ∃ k t, system.run s (List.replicate k .serve) = some t ∧ t.handed = taken s := by
  induction hwork : workLeft s.thread using Nat.strong_induction_on generalizing s with
  | _ work ih =>
      by_cases hdue : due s.thread = []
      · exact ⟨0, s, rfl, by simp [taken, hdue]⟩
      · obtain ⟨u, hserve, hless⟩ := serve_of_due hdue
        obtain ⟨k, t, hrun, hhanded⟩ := ih _ (hwork ▸ hless) u rfl
        refine ⟨k + 1, t, ?_, hhanded.trans (taken_serve hserve)⟩
        simp only [List.replicate_succ, System.run, List.foldlM_cons]
        rw [show system.step s .serve = some u from hserve]
        exact hrun

theorem reachable_marked (h : ReachableUnder system ReportsGiven s) :
    Booked s ∧ TimerKept s ∧ Marked s := by
  refine h.invariant (I := fun s => Booked s ∧ TimerKept s ∧ Marked s) ?_
    fun _ _ _ hs hguard hstep => ⟨booked_step hs.1 hstep, kept_step hs.2.1 hstep,
      marked_step hs.1 hs.2.1 hs.2.2 hguard hstep⟩
  rintro s ⟨clock, rfl⟩
  refine ⟨⟨List.nodup_nil, Ledger.accounted_empty, fun _ => rfl⟩, kept_of_empty rfl rfl, ?_⟩
  exact marked_of_marks (fun _ => rfl) nofun

/-- In every run every URB accepted is in the books exactly once: in a queue, taken for service,
passed on or answered at once, cancelled or dropped; those of an endpoint that go through its
queue are served in the order of their submission, and at most one of them is active; one that is
cancelled is never served; and one that is being processed has been taken for service, stays taken
in every continuation, and is served by the scheduling thread whatever the others do. -/
theorem urbs_serialised (h : ReachableUnder system ReportsGiven s) :
    (ledger s).Accounted ∧
      (∀ ep, (ofKey ep (numbered s.handed)).Pairwise (· < ·)) ∧
      (∀ ep, (ofKey ep (active s)).length ≤ 1) ∧
      (∀ n ∈ s.cancelled.map Prod.snd,
        n ∉ (numbered (taken s)).map Prod.snd ∧ n ∉ s.express.map Prod.snd) ∧
      (∀ ep, (s.state ep).processing = true →
        ∃ urb, urb.seqnum = (s.state ep).processingSeqnum ∧ (ep, urb) ∈ taken s) ∧
      (∀ actions t, system.run s actions = some t → taken s <+: taken t) ∧
      ∃ k t, system.run s (List.replicate k .serve) = some t ∧ t.handed = taken s := by
  obtain ⟨hbooked, hkept, hmarked⟩ := reachable_marked h
  refine ⟨hbooked.accounted, fun ep => ?_, hmarked.single, fun n hn => ?_, fun ep hprocessing => ?_,
    fun actions t => taken_run h.reachable, serve_all s⟩
  · have horder := (List.pairwise_append.mp (hbooked.accounted.inOrder_append ep)).1
    have hserved : (ledger s).served = numbered s.handed ++ numbered (due s.thread) :=
      List.map_append
    rw [hserved, ofKey_append] at horder
    exact (List.pairwise_append.mp horder).1
  · exact (hbooked.accounted.not_mem_of_withdrawn hn).2
  · have hstarted : s.started = true := by
      refine Bool.eq_true_of_not_eq_false fun hstarted => ?_
      rw [SchedulerRun.state, (hkept.quiet hstarted).1] at hprocessing
      cases hprocessing
    exact hmarked.known ep _ (mem_active_of_mark hmarked hstarted hprocessing)

/-- The first of two URBs has been served and reported as done when the second one is cancelled. -/
theorem urbs_serialised_instance :
    ∃ s, ReachableUnder system ReportsGiven s ∧ numbered s.handed = [(1, 0)] ∧
      s.cancelled = [(1, 1)] ∧ (ledger s).Accounted := by
  have hinitial : ReachableUnder system ReportsGiven (initial 1000000) := .initial ⟨_, rfl⟩
  have hstarted := hinitial.step (a := SchedulerAction.start) trivial rfl
  have hfirst := hstarted.step (a := SchedulerAction.submitProcessor 1 .bulk 0 7) trivial rfl
  have hsecond := hfirst.step (a := SchedulerAction.submitProcessor 1 .bulk 0 8) trivial rfl
  have hposted := hsecond.step (a := SchedulerAction.invoke 0) trivial rfl
  have hset := hposted.step (a := SchedulerAction.enter fun _ => 0) trivial rfl
  have hlater := hset.step (a := SchedulerAction.tick 2000000) trivial rfl
  have hexpired := hlater.step (a := SchedulerAction.expire) trivial rfl
  have hinvoked := hexpired.step (a := SchedulerAction.invoke 0) trivial rfl
  have htaken := hinvoked.step (a := SchedulerAction.enter fun _ => 0) trivial rfl
  have hserved := htaken.step (a := SchedulerAction.serve) trivial rfl
  have hreported := hserved.step (a := SchedulerAction.onUrbDone 1 7) (fun _ => .head _) rfl
  have hcancelled := hreported.step (a := SchedulerAction.cancel 8) trivial rfl
  exact ⟨_, hcancelled, rfl, rfl, (urbs_serialised hcancelled).1⟩

/-- An isochronous URB without packets, whose reply is ready, is answered past the URB that waits in
the queue of its endpoint. -/
theorem answered_past_queue :
    ¬ ∀ s, ReachableUnder system ReportsGiven s → ∀ ep m n,
      (ep, n) ∈ numbered s.handed ++ s.express → m < n → (ep, m) ∉ queued s.endpoints := by
  have hinitial : ReachableUnder system ReportsGiven (initial 1000000) := .initial ⟨_, rfl⟩
  have hstarted := hinitial.step (a := SchedulerAction.start) trivial rfl
  have hqueued := hstarted.step (a := SchedulerAction.submitReady 0x81 .isochronous 1000 8 7 0)
    trivial rfl
  have hanswered := hqueued.step (a := SchedulerAction.submitReady 0x81 .isochronous 1000 0 8 0)
    trivial rfl
  intro h
  exact h _ hanswered 0x81 0 1 (.head _) (by decide) (.head _)

end Usbipdcpp.VirtualDevice.SchedulerService
