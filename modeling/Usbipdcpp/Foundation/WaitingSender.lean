import Mathlib.Algebra.BigOperators.Group.List.Basic
import Usbipdcpp.Foundation.TransitionSystem

namespace Usbipdcpp.Foundation.WaitingSender

open Foundation.TransitionSystem

variable {σ α ρ γ : Type*}

/-- A thread that sends what a state asks for, and waits on a condition variable while there is
nothing: what a call makes of the state and whether it notifies the thread, the predicate of the
wait, and what a turn of the thread sends and leaves. -/
structure Sender (σ α ρ : Type*) where
  call : σ → α → σ × Bool
  pending : σ → Bool
  send : σ → List ρ × σ

/-- The state with all that has been sent; the thread sleeps or is about to take the lock. -/
structure Running (σ ρ : Type*) where
  state : σ
  asleep : Bool
  sent : List ρ
  deriving DecidableEq, Repr

/-- Calls and turns of the thread hold the lock to their end, so they follow one another; the thread
may wake without being notified. -/
inductive Event (α : Type*) where
  | call (a : α)
  | turn
  | wake
  deriving DecidableEq, Repr

namespace Sender

def step (sender : Sender σ α ρ) (s : Running σ ρ) : Event α → Option (Running σ ρ)
  | .call a =>
      let (state, notifies) := sender.call s.state a
      some { s with state, asleep := s.asleep && !notifies }
  | .turn =>
      if s.asleep = true then
        none
      else if sender.pending s.state = true then
        let (reports, state) := sender.send s.state
        some { state, asleep := false, sent := s.sent ++ reports }
      else
        some { s with asleep := true }
  | .wake => some { s with asleep := false }

def system (sender : Sender σ α ρ) (start : σ → Prop) : System (Running σ ρ) (Event α) where
  initial s := start s.state ∧ s.asleep = false ∧ s.sent = []
  step := sender.step

variable {sender : Sender σ α ρ} {start : σ → Prop}

/-- A sleeping thread has nothing to send, and while it has nothing to send, what has been sent is
up to date. -/
def Converges (sender : Sender σ α ρ) (start : σ → Prop) (upToDate : Running σ ρ → Prop) : Prop :=
  ∀ s, Reachable (sender.system start) s →
    (s.asleep = true → sender.pending s.state = false) ∧
      (sender.pending s.state = false → upToDate s)

/-- The call that gives the thread something to send notifies it. -/
def Notifies (sender : Sender σ α ρ) : Prop :=
  ∀ s a, sender.pending s = false → (sender.call s a).2 = false →
    sender.pending (sender.call s a).1 = false

/-- What an event makes of the state. -/
inductive Effect (sender : Sender σ α ρ) (s : Running σ ρ) : Event α → Running σ ρ → Prop
  | call (a : α) : Effect sender s (.call a)
      { s with
        state := (sender.call s.state a).1
        asleep := s.asleep && !(sender.call s.state a).2 }
  | send (hpending : sender.pending s.state = true) : Effect sender s .turn
      ⟨(sender.send s.state).2, false, s.sent ++ (sender.send s.state).1⟩
  | sleep (hnone : sender.pending s.state = false) : Effect sender s .turn { s with asleep := true }
  | wake : Effect sender s .wake { s with asleep := false }

theorem effect_of_step {s t : Running σ ρ} {event : Event α} (h : sender.step s event = some t) :
    Effect sender s event t := by
  cases event with
  | call a =>
      obtain rfl := Option.some.inj h
      exact .call a
  | turn =>
      simp only [step] at h
      split at h
      next => exact nomatch h
      next =>
        split at h
        next hpending =>
          obtain rfl := Option.some.inj h
          exact .send hpending
        next hnone =>
          obtain rfl := Option.some.inj h
          exact .sleep (Bool.eq_false_iff.mpr hnone)
  | wake =>
      obtain rfl := Option.some.inj h
      exact .wake

/-- A thread is not left asleep with something to send. -/
theorem pending_of_asleep (h : sender.Notifies) {s : Running σ ρ}
    (hreached : Reachable (sender.system start) s) (hasleep : s.asleep = true) :
    sender.pending s.state = false := by
  refine Reachable.invariant
    (I := fun s => s.asleep = true → sender.pending s.state = false) ?_ ?_ hreached hasleep
  · rintro s ⟨-, hawake, -⟩ hasleep
    exact absurd (hawake.symm.trans hasleep) Bool.false_ne_true
  · intro s event t hs hstep hasleep
    cases effect_of_step hstep with
    | call a =>
        obtain ⟨hslept, hsilent⟩ := Bool.and_eq_true_iff.mp hasleep
        exact h s.state a (hs hslept) (Bool.not_eq_true' _ ▸ hsilent)
    | send => exact absurd hasleep Bool.false_ne_true
    | sleep hnone => exact hnone
    | wake => exact absurd hasleep Bool.false_ne_true

/-- What holds of the state and all that has been sent, when calls and turns keep it. -/
theorem reachable_invariant (sender : Sender σ α ρ) (start : σ → Prop)
    {I : σ → List ρ → Prop} (hstart : ∀ s, start s → I s [])
    (hcall : ∀ s sent a, I s sent → I (sender.call s a).1 sent)
    (hsend : ∀ s sent, sender.pending s = true → I s sent →
      I (sender.send s).2 (sent ++ (sender.send s).1))
    {s : Running σ ρ} (hreached : Reachable (sender.system start) s) : I s.state s.sent := by
  refine Reachable.invariant (I := fun s => I s.state s.sent) ?_ ?_ hreached
  · rintro s ⟨hs, -, hnone⟩
    rw [hnone]
    exact hstart s.state hs
  · intro s event t hs hstep
    cases effect_of_step hstep with
    | call a => exact hcall s.state s.sent a hs
    | send hpending => exact hsend s.state s.sent hpending hs
    | sleep => exact hs
    | wake => exact hs

section Balance

variable {M : Type*} [AddCommMonoid M] {weight : ρ → M} {amount : α → M}
  {G : Running σ ρ → Event α → Prop}

/-- What an event brings, where a call brings its amount. -/
def brought (amount : α → M) : Event α → M
  | .call a => amount a
  | .turn => 0
  | .wake => 0

/-- What has been sent and what is held are together what the calls have brought. -/
theorem run_balance (held : σ → M)
    (hcall : ∀ s a, G s (.call a) → held (sender.call s.state a).1 = held s.state + amount a)
    (hsend : ∀ s, sender.pending s = true →
      ((sender.send s).1.map weight).sum + held (sender.send s).2 = held s)
    {s t : Running σ ρ} {events : List (Event α)}
    (hmeets : (sender.system start).Meets G s events)
    (hrun : (sender.system start).run s events = some t) :
    (t.sent.map weight).sum + held t.state =
      (s.sent.map weight).sum + held s.state + (events.map (brought amount)).sum := by
  induction events using List.reverseRecOn generalizing t with
  | nil =>
      obtain rfl : s = t := Option.some.inj hrun
      rw [List.map_nil, List.sum_nil, add_zero]
  | append_singleton events event ih =>
      obtain ⟨u, hbefore, hstep⟩ := System.run_concat.mp hrun
      obtain ⟨hevents, hevent⟩ := (System.meets_concat hbefore).mp hmeets
      have hu := ih hevents hbefore
      rw [List.map_append, List.sum_append, List.map_singleton, List.sum_singleton, ← add_assoc,
        ← hu]
      cases effect_of_step hstep with
      | call a =>
          dsimp only
          rw [hcall u a hevent, ← add_assoc]
          rfl
      | send hpending =>
          dsimp only
          rw [List.map_append, List.sum_append, add_assoc, hsend u.state hpending]
          exact (add_zero _).symm
      | sleep => exact (add_zero _).symm
      | wake => exact (add_zero _).symm

end Balance

end Sender

/-- The last report of a kind, as `view` reads it; `initial` stands for none. -/
def lastView (isKind : ρ → Bool) (view : ρ → γ) (initial : γ) (sent : List ρ) : γ :=
  (sent.filter isKind).getLast?.elim initial view

theorem lastView_append {isKind : ρ → Bool} {view : ρ → γ} {initial : γ} {sent reports : List ρ} :
    lastView isKind view initial (sent ++ reports) =
      lastView isKind view (lastView isKind view initial sent) reports := by
  rw [lastView, lastView, lastView, List.filter_append, List.getLast?_append]
  cases (reports.filter isKind).getLast? <;> rfl

/-- The state that calls change, beside what of it was sent last. -/
structure Mirror (σ : Type*) where
  current : σ
  last : σ
  deriving DecidableEq, Repr

variable [DecidableEq σ]

/-- The sender that compares both: it sends `reports` of them, and both are then what `settle` makes
of the current one. -/
def Mirror.sender (call : σ → α → σ × Bool) (reports : σ → σ → List ρ) (settle : σ → σ) :
    Sender (Mirror σ) α ρ where
  call s a := let (current, notifies) := call s.current a
    ({ s with current }, notifies)
  pending s := s.current ≠ s.last
  send s := (reports s.current s.last, ⟨settle s.current, settle s.current⟩)

namespace Mirror

variable {call : σ → α → σ × Bool} {reports : σ → σ → List ρ} {settle : σ → σ} {init : σ}

/-- Both are the same at the beginning. -/
def Starts (init : σ) (s : Mirror σ) : Prop := s = ⟨init, init⟩

theorem notifies (h : ∀ s a, (call s a).2 = false → (call s a).1 = s) :
    (sender call reports settle).Notifies := by
  intro s a hsame hsilent
  have hcurrent : (call s.current a).1 = s.current := h s.current a hsilent
  change decide ((call s.current a).1 ≠ s.last) = false
  rw [hcurrent]
  exact hsame

/-- A kind of report whose every sending brings the host up to date shows the state that was sent
last, at all times. -/
theorem lastView_eq {isKind : ρ → Bool} {view : ρ → γ} {controls : σ → γ}
    (h : ∀ current last, current ≠ last →
      lastView isKind view (controls last) (reports current last) = controls (settle current))
    {s : Running (Mirror σ) ρ}
    (hreached : Reachable ((sender call reports settle).system (Starts init)) s) :
    lastView isKind view (controls init) s.sent = controls s.state.last := by
  refine Sender.reachable_invariant (sender call reports settle) (Starts init)
    (I := fun s sent => lastView isKind view (controls init) sent = controls s.last)
    ?_ ?_ ?_ hreached
  · rintro s rfl
    rfl
  · exact fun s sent a hs => hs
  · intro s sent hpending hs
    rw [lastView_append, hs]
    exact h s.current s.last (of_decide_eq_true hpending)

/-- While nothing is pending, the host sees the current state. -/
theorem converges {isKind : ρ → Bool} {view : ρ → γ} {controls : σ → γ}
    (h : ∀ current last, current ≠ last →
      lastView isKind view (controls last) (reports current last) = controls (settle current))
    {s : Running (Mirror σ) ρ}
    (hreached : Reachable ((sender call reports settle).system (Starts init)) s)
    (hblocked : (sender call reports settle).pending s.state = false) :
    lastView isKind view (controls init) s.sent = controls s.state.current := by
  have hsame : s.state.current = s.state.last := not_not.mp (of_decide_eq_false hblocked)
  rw [lastView_eq h hreached, hsame]

end Mirror

end Usbipdcpp.Foundation.WaitingSender
