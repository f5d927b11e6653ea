import Usbipdcpp.VirtualDevice.SchedulerService

namespace Usbipdcpp.VirtualDevice.SchedulerPacing

open Foundation.KeyedList Foundation.TransitionSystem
open SchedulerRun SchedulerLedger

variable {s t : SchedulerRun}

/-- The runs of a scheduler that is constructed after the clock's epoch. -/
def pacedSystem : System SchedulerRun SchedulerAction :=
  system.startingIn fun s => 0 < s.clock

/-- An endpoint's pacing chain has begun once it has a URB, and ends at the service time of the head
of its queue, if that has one; the URBs behind the head have none. -/
structure Paced (state : EndpointState) : Prop where
  nonneg : 0 ≤ state.lastScheduled
  begun : state.queue ≠ [] ∨ state.processing = true → 0 < state.lastScheduled
  head : ∀ urb, state.queue.head? = some urb →
    urb.serviceTime = 0 ∨ urb.serviceTime = state.lastScheduled
  tail : ∀ urb ∈ state.queue.tail, urb.serviceTime = 0

theorem paced_idle : Paced .idle :=
  ⟨le_rfl, by simp [EndpointState.idle], nofun, nofun⟩

variable {now : Int} {state state' : EndpointState} {before after : List PendingUrb}
  {urb : PendingUrb}

theorem armTime_of_begun {lastScheduled : Int} (h : 0 < lastScheduled)
    (urb : PendingUrb) :
    urb.armTime now lastScheduled =
      if urb.type = .isochronous then max now (lastScheduled + urb.delay)
      else alignToFrame (max now lastScheduled) := by
  rw [PendingUrb.armTime, if_neg h.ne']

/-- A head that has just been armed. -/
theorem paced_armed {next : PendingUrb} {rest : List PendingUrb} (lastScheduled : Int)
    (hnow : 0 < now)
    (hqueue : state.queue = { next with serviceTime := next.armTime now lastScheduled } :: rest)
    (hchain : state.lastScheduled = next.armTime now lastScheduled)
    (hrest : ∀ urb ∈ rest, urb.serviceTime = 0) : Paced state := by
  have hpos : 0 < state.lastScheduled := hchain ▸ hnow.trans_le (next.le_armTime _ _)
  refine ⟨hpos.le, fun _ => hpos, fun urb hhead => ?_, by rwa [hqueue]⟩
  rw [hqueue, List.head?_cons, Option.some.injEq] at hhead
  rw [← hhead, hchain]
  exact .inr rfl

theorem paced_push (h : Paced state) (hnow : 0 < now) (htime : urb.serviceTime = 0) :
    Paced (state.push now urb).2 := by
  unfold EndpointState.push
  dsimp only
  split
  next hempty =>
    have hqueue : state.queue = [] := List.isEmpty_iff.mp hempty
    dsimp only
    rw [hqueue, List.nil_append, EndpointState.armNext_cons rfl]
    exact paced_armed state.lastScheduled hnow rfl rfl nofun
  next hempty =>
    obtain ⟨front, rest, hqueue⟩ := List.exists_cons_of_ne_nil (mt List.isEmpty_iff.mpr hempty)
    refine ⟨h.nonneg, fun _ => h.begun (.inl (by simp [hqueue])), fun other hhead => ?_, ?_⟩
    · exact h.head other (by simpa [hqueue] using hhead)
    · intro other hmem
      rw [hqueue, List.cons_append, List.tail_cons] at hmem
      rcases List.mem_append.mp hmem with hmem | hmem
      · exact h.tail other (by rwa [hqueue])
      · rw [List.mem_singleton.mp hmem, htime]

theorem Paced.release (h : Paced state) :
    Paced { state with processing := false, processingSeqnum := 0 } :=
  ⟨h.nonneg, fun hqueue => h.begun (.inl (hqueue.resolve_right nofun)), h.head, h.tail⟩

/-- The slot of a head that is cancelled is where the chain has already come to. -/
theorem Paced.chainWithout_eq (h : Paced state) (hqueue : state.queue = before ++ urb :: after) :
    state.chainWithout before urb = state.lastScheduled := by
  unfold EndpointState.chainWithout
  split
  next hbefore =>
    have hhead := h.head urb (by rw [hqueue, hbefore]; rfl)
    rcases hhead with htime | htime
    · rw [htime, max_eq_left h.nonneg]
    · rw [htime, max_self]
  next => rfl

theorem Paced.tail_without (h : Paced state) (hqueue : state.queue = before ++ urb :: after) :
    ∀ other ∈ (before ++ after).tail, other.serviceTime = 0 := by
  intro other hmem
  refine h.tail other ?_
  rw [hqueue]
  rcases before with _ | ⟨front, before⟩
  · exact List.mem_of_mem_tail hmem
  · exact (List.Sublist.append_left (List.sublist_cons_self _ _) _).subset hmem

theorem paced_withoutUrb (h : Paced state) (hnow : 0 < now)
    (hqueue : state.queue = before ++ urb :: after) :
    Paced (state.withoutUrb now before urb after) := by
  have htail := h.tail_without hqueue
  have hbegun : 0 < state.lastScheduled := h.begun (.inl (by simp [hqueue]))
  by_cases hskip : state.processing = true ∨ before ++ after = []
  · rw [EndpointState.withoutUrb_of_not_armed hskip, h.chainWithout_eq hqueue]
    refine ⟨h.nonneg, fun _ => hbegun, fun other hhead => ?_, htail⟩
    rcases before with _ | ⟨front, before⟩
    · refine .inl (h.tail other ?_)
      rw [hqueue]
      exact List.mem_of_mem_head? hhead
    · exact h.head other (by rw [hqueue]; exact hhead)
  · obtain ⟨hprocessing, hleft⟩ := not_or.mp hskip
    obtain ⟨next, rest, hrest⟩ := List.exists_cons_of_ne_nil hleft
    rw [EndpointState.withoutUrb_of_armed (Bool.eq_false_of_not_eq_true hprocessing) hrest]
    exact paced_armed _ hnow rfl rfl (by rwa [hrest] at htail)

theorem paced_takeDue {armNow : Int} (h : Paced state) (harm : 0 < armNow)
    (htake : state.takeDue now armNow = some (urb, state')) : Paced state' := by
  obtain ⟨rest, hqueue, -, -, rfl⟩ := EndpointState.takeDue_cases htake
  have hbegun : 0 < state.lastScheduled := h.begun (.inl (by simp [hqueue]))
  rcases rest with _ | ⟨next, rest⟩
  · rw [EndpointState.armNext_nil rfl]
    exact ⟨h.nonneg, fun _ => hbegun, nofun, nofun⟩
  · rw [EndpointState.armNext_cons rfl]
    refine paced_armed state.lastScheduled harm rfl rfl fun other hmem => h.tail other ?_
    rw [hqueue]
    exact .tail _ hmem

theorem paced_endpointStep {ep : UInt8} {a : SchedulerAction} (hclock : 0 < s.clock)
    (h : Paced (s.state ep)) (hstep : EndpointStep s ep a state) : Paced state := by
  cases hstep with
  | same => exact h
  | push urb ha htime => exact paced_push h hclock htime
  | release ha => exact h.release
  | cancel hcancels => exact paced_withoutUrb h hclock hcancels.queue
  | take htake => exact paced_takeDue h (by omega) htake
  | clear => exact paced_idle

theorem clock_enqueue (ep : UInt8) (urb : PendingUrb) (s : SchedulerRun) :
    (s.enqueue ep urb).clock = s.clock := by
  unfold enqueue
  split
  · dsimp only
    split
    · rw [kick_frame]
    · rfl
  · rfl

/-- The clock does not go back. -/
theorem clock_step {a : SchedulerAction} (h : s.step a = some t) : s.clock ≤ t.clock := by
  cases effect_of_step h with
  | ticked hnow => exact hnow
  | stopped => rw [SchedulerRun.stop, abortWait_frame]
  | queuedProcessor => rw [clock_enqueue]
  | queuedReady => rw [clock_enqueue]
  | reported => rw [onUrbDone_frame]
  | cancelled =>
      unfold SchedulerRun.cancel
      split <;> rfl
  | @entered elapsed handler =>
      cases handler with
      | scheduleOnThread => rw [runHandler, scheduleOnThread_frame]
      | onTimer aborted =>
          rw [runHandler]
          rcases onTimer_cases elapsed aborted s with ⟨-, hreturn⟩ | ⟨-, hrun⟩
          · rw [hreturn]
          · rw [hrun, scheduleNext_frame]
  | served hserve =>
      rcases serve_cases hserve with ⟨-, rfl⟩ | ⟨ep, urb, due, -, -, rfl⟩ |
        ⟨ep, urb, due, -, -, rfl⟩ | ⟨ep, seqnum, due, -, rfl⟩
      · rfl
      · rfl
      · rfl
      · rw [onUrbDone_frame]
  | _ => exact le_rfl

theorem reachable_paced (h : Reachable pacedSystem s) :
    0 < s.clock ∧ ∀ ep, Paced (s.state ep) := by
  have hinvariant : Distinct Prod.fst s.endpoints ∧ 0 < s.clock ∧ ∀ ep, Paced (s.state ep) := by
    refine Reachable.invariant (T := pacedSystem) (I := fun s =>
      Distinct Prod.fst s.endpoints ∧ 0 < s.clock ∧ ∀ ep, Paced (s.state ep)) ?_ ?_ h
    · rintro s ⟨⟨clock, rfl⟩, hclock⟩
      exact ⟨List.nodup_nil, hclock, fun _ => paced_idle⟩
    · rintro s a t ⟨hdistinct, hclock, hpaced⟩ hstep
      obtain ⟨hdistinct', hendpoints⟩ := step_endpointsStep hdistinct hstep
      exact ⟨hdistinct', hclock.trans_le (clock_step hstep),
        fun ep => paced_endpointStep hclock (hpaced ep) (hendpoints ep)⟩
  exact hinvariant.2

end Usbipdcpp.VirtualDevice.SchedulerPacing
