import Mathlib.Tactic.Push
import Usbipdcpp.Session.ResponseQueue

namespace Usbipdcpp.Session.SenderWakeup

open Usbipdcpp.Foundation.TransitionSystem
open Usbipdcpp.Session.ResponseQueue

variable {Producer Response : Type}

/-- `read_buffer` is empty while the sender waits for data, so a swap empties
`write_buffer`. -/
def ReadBufferDrained (q : Queue Producer Response) : Prop :=
  q.sender.waits = true → q.readBuffer = []

theorem swapBuffers_of_drained {q : Queue Producer Response} (hq : ReadBufferDrained q)
    (hpc : q.sender = .admitted) :
    q.swapBuffers.writeBuffer = [] ∧ q.swapBuffers.producers = q.producers ∧
      (q.writeBuffer ≠ [] → q.swapBuffers.hasData = false ∧ q.swapBuffers.readBuffer ≠ []) ∧
      (q.writeBuffer = [] → q.swapBuffers = q) := by
  have hread : q.readBuffer = [] := hq (by rw [hpc]; rfl)
  by_cases hwrite : q.writeBuffer = []
  · simp [Queue.swapBuffers, hwrite]
  · simp [Queue.swapBuffers, hwrite, hread]

variable [DecidableEq Producer]

theorem readBufferDrained_step {q t : Queue Producer Response} {a : QueueAction Producer Response}
    (hq : ReadBufferDrained q) (h : q.step a = some t) : ReadBufferDrained t := by
  rcases step_cases h with ⟨p, response, rfl, -, -, rfl⟩ | ⟨p, rfl, -, rfl⟩ | ⟨p, rfl, -, rfl⟩ |
    ⟨-, rfl⟩ | ⟨rfl, rfl⟩ | ⟨rfl, hstep⟩ | ⟨rfl, hpc, rfl⟩ | ⟨outcome, rfl, hwrite⟩
  · exact hq
  · exact hq
  · simpa [ReadBufferDrained] using hq
  · exact hq
  · simpa [ReadBufferDrained] using hq
  · intro hwaits
    rcases senderStep_cases hstep with ⟨-, rfl⟩ | ⟨-, -, -, -, -, -, -, -, -, hfrom⟩
    · simp [SenderPc.waits] at hwaits
    · obtain ⟨hread, hpc | ⟨-, hempty⟩⟩ := hfrom hwaits
      · rw [hread, hq hpc]
      · rw [hread, hempty]
  · intro _
    exact hq (by rw [hpc]; rfl)
  · intro hwaits
    rcases (write_cases hwrite).2.2.2.2 with hpc | hpc <;> simp [hpc, SenderPc.waits] at hwaits

theorem reachable_readBufferDrained {q : Queue Producer Response}
    (h : Reachable (system Producer Response) q) : ReadBufferDrained q := by
  refine h.invariant ?_ fun _ _ _ => readBufferDrained_step
  rintro q rfl
  simp [ReadBufferDrained, Queue.initial, SenderPc.waits]

/-- Responses wait in `write_buffer`, every producer has finished its call, and the sender
sleeps in `data_available_cv.wait`. -/
def LostWakeup (q : Queue Producer Response) : Prop :=
  q.writeBuffer ≠ [] ∧ (∀ p, q.producers p = .idle) ∧ q.sender = .blocked

/-- While `has_data` is not set, some producer of a queued response has still to set it. -/
def StorePending (q : Queue Producer Response) : Prop :=
  q.hasData = false → q.writeBuffer ≠ [] → ∃ p, q.producers p = .enqueued

/-- While the sender sleeps, or is about to sleep, some producer of a queued response has
still to notify it. -/
def NotifyPending (q : Queue Producer Response) : Prop :=
  q.sender = .refused ∨ q.sender = .blocked → q.writeBuffer ≠ [] →
    ∃ p, q.producers p ≠ .idle

/-- The step is not the notification that ends the last call still in progress while the
sender has found its predicate false and has not yet gone to sleep. -/
def NotifyReachesSender (q : Queue Producer Response) : QueueAction Producer Response → Prop
  | .notify p =>
      ¬ (q.sender = .refused ∧ q.writeBuffer ≠ [] ∧ ∀ other, other ≠ p →
        q.producers other = .idle)
  | _ => True

theorem storePending_step {q t : Queue Producer Response} {a : QueueAction Producer Response}
    (hdrained : ReadBufferDrained q) (hq : StorePending q) (h : q.step a = some t) :
    StorePending t := by
  rcases step_cases h with ⟨p, response, rfl, -, -, rfl⟩ | ⟨p, rfl, -, rfl⟩ |
    ⟨p, rfl, hp, rfl⟩ | ⟨-, rfl⟩ | ⟨rfl, rfl⟩ | ⟨rfl, hstep⟩ | ⟨rfl, hpc, rfl⟩ |
    ⟨outcome, rfl, hwrite⟩
  · exact fun _ _ => ⟨p, by simp⟩
  · intro hdata
    simp at hdata
  · intro hdata hbuffer
    obtain ⟨other, hother⟩ := hq hdata hbuffer
    have hne : other ≠ p := by
      rintro rfl
      rw [hp] at hother
      cases hother
    exact ⟨other, by simpa [hne] using hother⟩
  · exact hq
  · exact hq
  · rcases senderStep_cases hstep with ⟨hpc, rfl⟩ | ⟨hbuffer, hdata, hproducers, -⟩
    · intro _ hbuffer
      exact absurd (swapBuffers_of_drained hdrained hpc).1 hbuffer
    · simpa only [StorePending, hbuffer, hdata, hproducers] using hq
  · exact hq
  · obtain ⟨hbuffer, -, hdata, hproducers, -⟩ := write_cases hwrite
    simpa only [StorePending, hbuffer, hdata, hproducers] using hq

theorem reachable_storePending {q : Queue Producer Response}
    (h : Reachable (system Producer Response) q) : StorePending q := by
  have hboth : ReadBufferDrained q ∧ StorePending q := by
    refine h.invariant (I := fun q => ReadBufferDrained q ∧ StorePending q) ?_ ?_
    · rintro q rfl
      simp [ReadBufferDrained, StorePending, Queue.initial, SenderPc.waits]
    · exact fun q a t hq hstep =>
        ⟨readBufferDrained_step hq.1 hstep, storePending_step hq.1 hq.2 hstep⟩
  exact hboth.2

theorem notifyPending_step {q t : Queue Producer Response} {a : QueueAction Producer Response}
    (hstore : StorePending q) (hq : NotifyPending q) (hguard : NotifyReachesSender q a)
    (h : q.step a = some t) : NotifyPending t := by
  rcases step_cases h with ⟨p, response, rfl, -, -, rfl⟩ | ⟨p, rfl, -, rfl⟩ |
    ⟨p, rfl, hp, rfl⟩ | ⟨-, rfl⟩ | ⟨rfl, rfl⟩ | ⟨rfl, hstep⟩ | ⟨rfl, hpc, rfl⟩ |
    ⟨outcome, rfl, hwrite⟩
  · exact fun _ _ => ⟨p, by simp⟩
  · exact fun _ _ => ⟨p, by simp⟩
  · rintro (hrefused | hblocked) hbuffer
    · have hpc : q.sender = .refused := by simpa using hrefused
      have hother : ∃ other, other ≠ p ∧ q.producers other ≠ .idle := by
        by_contra hnone
        push Not at hnone
        exact hguard ⟨hpc, hbuffer, hnone⟩
      obtain ⟨other, hne, hbusy⟩ := hother
      exact ⟨other, by simpa [hne] using hbusy⟩
    · simp at hblocked
  · exact hq
  · rintro (hrefused | hblocked) hbuffer
    · exact hq (.inl (by simpa using hrefused)) hbuffer
    · simp at hblocked
  · rcases senderStep_cases hstep with
      ⟨-, rfl⟩ | ⟨hbuffer, -, hproducers, -, hrefused, hblocked, -⟩
    · rintro (hpc | hpc) <;> simp at hpc
    · rw [NotifyPending, hbuffer, hproducers]
      rintro (hpc | hpc) hqueued
      · obtain ⟨-, hpred⟩ := hrefused hpc
        have hdata : q.hasData = false := (Bool.or_eq_false_iff.mp hpred).1
        obtain ⟨p, hp⟩ := hstore hdata hqueued
        exact ⟨p, by simp [hp]⟩
      · exact hq (.inl (hblocked hpc)) hqueued
  · rintro (hrefused | hblocked) <;> simp_all
  · obtain ⟨-, -, -, -, hpc | hpc⟩ := write_cases hwrite <;> simp [NotifyPending, hpc]

theorem reachableUnder_notifyPending {q : Queue Producer Response}
    (h : ReachableUnder (system Producer Response) NotifyReachesSender q) :
    NotifyPending q := by
  have hall : ReadBufferDrained q ∧ StorePending q ∧ NotifyPending q := by
    refine h.invariant
      (I := fun q => ReadBufferDrained q ∧ StorePending q ∧ NotifyPending q) ?_ ?_
    · rintro q rfl
      simp [ReadBufferDrained, StorePending, NotifyPending, Queue.initial, SenderPc.waits]
    · exact fun q a t hq hguard hstep =>
        ⟨readBufferDrained_step hq.1 hstep, storePending_step hq.1 hq.2.1 hstep,
          notifyPending_step hq.2.1 hq.2.2 hguard hstep⟩
  exact hall.2.2

/-- In runs whose notifications all reach the sender no wakeup is lost, and a notification
that does not is lost as soon as the sender goes to sleep. -/
theorem no_lostWakeup_of_notifyReachesSender :
    (∀ q : Queue Producer Response,
      ReachableUnder (system Producer Response) NotifyReachesSender q → ¬ LostWakeup q) ∧
    ∀ (q t : Queue Producer Response) (p : Producer),
      ¬ NotifyReachesSender q (.notify p) → q.step (.notify p) = some t →
        ∃ u, t.step .senderStep = some u ∧ LostWakeup u := by
  constructor
  · rintro q hreach ⟨hbuffer, hidle, hpc⟩
    obtain ⟨p, hp⟩ := reachableUnder_notifyPending hreach (.inr hpc) hbuffer
    exact hp (hidle p)
  · intro q t p hguard hstep
    obtain ⟨hpc, hbuffer, hidle⟩ := not_not.mp hguard
    have ht : t = q.notify p := by
      simp only [Queue.step, Option.ite_none_right_eq_some, Option.some.injEq] at hstep
      exact hstep.2.symm
    subst ht
    have hsender : (q.notify p).sender = .refused := by simp [hpc]
    refine ⟨{ q.notify p with sender := .blocked }, senderStep_of_refused hsender, hbuffer, ?_,
      rfl⟩
    · intro other
      by_cases hother : other = p
      · simp [hother]
      · simpa [hother] using hidle other hother

/-- A producer whose call falls as a whole between the sender's evaluation of the predicate
and its sleep leaves the sender asleep over a queued response. -/
theorem lostWakeup_reachable :
    ∃ q : Queue Unit Nat, Reachable (system Unit Nat) q ∧ LostWakeup q := by
  refine ⟨_, Reachable.run
    [.enqueue () 7, .senderStep, .senderStep, .senderStep, .storeHasData (), .notify (),
      .senderStep] (.initial rfl) rfl, ?_, ?_, rfl⟩
  · exact List.cons_ne_nil _ _
  · exact fun _ => rfl

/-- The sender before it goes to sleep over response `7`, whose producer has still to call
`notify_all`. -/
def refusedQueue : Queue Unit Nat where
  writeBuffer := [7]
  readBuffer := []
  hasData := true
  shouldImmediatelyStop := false
  producers := fun _ => .stored
  sender := .refused
  sent := []

theorem no_lostWakeup_of_notifyReachesSender_instance :
    (∃ q : Queue Unit Nat, q.sender = .woken ∧ q.writeBuffer = [7] ∧ ¬ LostWakeup q) ∧
    ∃ u, (refusedQueue.notify ()).step .senderStep = some u ∧ LostWakeup u := by
  constructor
  · refine ⟨_, ?_, ?_, (@no_lostWakeup_of_notifyReachesSender Unit Nat _).1 _
      (.step (a := .notify ()) (.step (a := .storeHasData ()) (.step (a := .senderStep)
        (.step (a := .senderStep) (.step (a := .senderStep) (.step (a := .senderStep)
          (.step (a := .enqueue () 7) (.initial rfl) trivial rfl) trivial rfl) trivial rfl)
          trivial rfl) trivial rfl) trivial rfl) (fun h => nomatch h.1) rfl)⟩
    · rfl
    · rfl
  · refine no_lostWakeup_of_notifyReachesSender.2 refusedQueue _ () ?_ rfl
    exact not_not.mpr ⟨rfl, List.cons_ne_nil _ _, fun other h => absurd rfl h⟩

/-- `sender_get_data` returns nothing, or is bound to because the swap found nothing. -/
def ReturnsNothing (q : Queue Producer Response) : Prop :=
  q.sender = .popping ∧ q.readBuffer = [] ∨ q.sender = .returned none

/-- The sender leaves the wait only while its predicate holds, and returns nothing only if
the swap left the predicate true. -/
def PredicateKept (q : Queue Producer Response) : Prop :=
  q.sender = .admitted ∨ ReturnsNothing q → q.waitPredicate = true

theorem predicateKept_step {q t : Queue Producer Response} {a : QueueAction Producer Response}
    (hdrained : ReadBufferDrained q) (hq : PredicateKept q) (h : q.step a = some t) :
    PredicateKept t := by
  rcases step_cases h with ⟨p, response, rfl, -, -, rfl⟩ | ⟨p, rfl, -, rfl⟩ |
    ⟨p, rfl, -, rfl⟩ | ⟨-, rfl⟩ | ⟨rfl, rfl⟩ | ⟨rfl, hstep⟩ | ⟨rfl, -, rfl⟩ |
    ⟨outcome, rfl, hwrite⟩
  · exact hq
  · simp [PredicateKept, Queue.waitPredicate]
  · intro hpc
    exact hq (by simpa [ReturnsNothing] using hpc)
  · simp [PredicateKept, Queue.waitPredicate]
  · intro hpc
    exact hq (by simpa [ReturnsNothing] using hpc)
  · rcases senderStep_cases hstep with ⟨hpc, rfl⟩ |
      ⟨-, hdata, -, hstop, -, -, hadmitted, hpopping, hnone, -⟩
    · rintro (hadmitted | ⟨-, hread⟩ | hreturned)
      · cases hadmitted
      · by_cases hwrite : q.writeBuffer = []
        · rw [(swapBuffers_of_drained hdrained hpc).2.2.2 hwrite]
          exact hq (.inl hpc)
        · exact absurd hread ((swapBuffers_of_drained hdrained hpc).2.2.1 hwrite).2
      · cases hreturned
    · rw [PredicateKept, Queue.waitPredicate, hdata, hstop]
      rintro (hpc | ⟨hpc, hread⟩ | hpc)
      · exact (hadmitted hpc).2
      · exact absurd hread (hpopping hpc)
      · exact hq (.inr (.inl (hnone hpc)))
  · rintro (hpc | hpc) <;> simp [ReturnsNothing] at hpc
  · rintro (hpc | hpc) <;>
      obtain ⟨-, -, -, -, hsender | hsender⟩ := write_cases hwrite <;>
      simp [ReturnsNothing, hsender] at hpc

theorem reachable_predicateKept {q : Queue Producer Response}
    (h : Reachable (system Producer Response) q) : PredicateKept q := by
  have hboth : ReadBufferDrained q ∧ PredicateKept q := by
    refine h.invariant (I := fun q => ReadBufferDrained q ∧ PredicateKept q) ?_ ?_
    · rintro q rfl
      simp [ReadBufferDrained, PredicateKept, ReturnsNothing, Queue.initial, SenderPc.waits]
    · exact fun q a t hq hstep =>
        ⟨readBufferDrained_step hq.1 hstep, predicateKept_step hq.1 hq.2 hstep⟩
  exact hboth.2

/-- The step is not a store of `has_data` into a queue whose `write_buffer` the sender has
already emptied. -/
def StoreFindsResponse (q : Queue Producer Response) : QueueAction Producer Response → Prop
  | .storeHasData _ => q.writeBuffer ≠ []
  | _ => True

/-- `has_data` is set only while `write_buffer` holds a response. -/
def HasDataBacked (q : Queue Producer Response) : Prop :=
  q.hasData = true → q.writeBuffer ≠ []

theorem hasDataBacked_step {q t : Queue Producer Response} {a : QueueAction Producer Response}
    (hq : HasDataBacked q) (hguard : StoreFindsResponse q a) (h : q.step a = some t) :
    HasDataBacked t := by
  rcases step_cases h with ⟨p, response, rfl, -, -, rfl⟩ | ⟨p, rfl, -, rfl⟩ |
    ⟨p, rfl, -, rfl⟩ | ⟨-, rfl⟩ | ⟨rfl, rfl⟩ | ⟨rfl, hstep⟩ | ⟨rfl, -, rfl⟩ |
    ⟨outcome, rfl, hwrite⟩
  · simp [HasDataBacked]
  · exact fun _ => hguard
  · exact hq
  · exact hq
  · exact hq
  · rcases senderStep_cases hstep with ⟨hpc, rfl⟩ | ⟨hbuffer, hdata, -⟩
    · by_cases hwrite : q.writeBuffer = []
      · simpa [HasDataBacked, Queue.swapBuffers, hwrite] using hq
      · simp [HasDataBacked, Queue.swapBuffers, hwrite]
    · simpa only [HasDataBacked, hbuffer, hdata] using hq
  · exact hq
  · obtain ⟨hbuffer, -, hdata, -⟩ := write_cases hwrite
    simpa only [HasDataBacked, hbuffer, hdata] using hq

/-- `sender_get_data` returns nothing only once the session stops. -/
def NothingOnlyAtStop (q : Queue Producer Response) : Prop :=
  ReturnsNothing q → q.shouldImmediatelyStop = true

theorem nothingOnlyAtStop_step {q t : Queue Producer Response} {a : QueueAction Producer Response}
    (hdrained : ReadBufferDrained q) (hkept : PredicateKept q) (hbacked : HasDataBacked q)
    (hq : NothingOnlyAtStop q) (h : q.step a = some t) : NothingOnlyAtStop t := by
  rcases step_cases h with ⟨p, response, rfl, -, -, rfl⟩ | ⟨p, rfl, -, rfl⟩ |
    ⟨p, rfl, -, rfl⟩ | ⟨-, rfl⟩ | ⟨rfl, rfl⟩ | ⟨rfl, hstep⟩ | ⟨rfl, -, rfl⟩ |
    ⟨outcome, rfl, hwrite⟩
  · exact hq
  · exact hq
  · intro hpc
    exact hq (by simpa [ReturnsNothing] using hpc)
  · exact fun _ => rfl
  · intro hpc
    exact hq (by simpa [ReturnsNothing] using hpc)
  · rcases senderStep_cases hstep with ⟨hpc, rfl⟩ | ⟨-, -, -, hstop, -, -, -, hpopping, hnone, -⟩
    · rintro (⟨-, hread⟩ | hreturned)
      · by_cases hwrite : q.writeBuffer = []
        · have hstop := hkept (.inl hpc)
          rw [Queue.waitPredicate, Bool.or_eq_true] at hstop
          have hstopped : q.shouldImmediatelyStop = true :=
            hstop.resolve_left fun hdata => hbacked hdata hwrite
          simpa [Queue.swapBuffers, hwrite] using hstopped
        · exact absurd hread ((swapBuffers_of_drained hdrained hpc).2.2.1 hwrite).2
      · cases hreturned
    · rw [NothingOnlyAtStop, hstop]
      rintro (⟨hpc, hread⟩ | hpc)
      · exact absurd hread (hpopping hpc)
      · exact hq (.inl (hnone hpc))
  · rintro (hpc | hpc) <;> simp at hpc
  · rintro (hpc | hpc) <;>
      obtain ⟨-, -, -, -, hsender | hsender⟩ := write_cases hwrite <;>
      simp [hsender] at hpc

theorem reachableUnder_nothingOnlyAtStop {q : Queue Producer Response}
    (h : ReachableUnder (system Producer Response) StoreFindsResponse q) :
    NothingOnlyAtStop q := by
  have hall : ReadBufferDrained q ∧ PredicateKept q ∧ HasDataBacked q ∧
      NothingOnlyAtStop q := by
    refine h.invariant (I := fun q => ReadBufferDrained q ∧ PredicateKept q ∧
      HasDataBacked q ∧ NothingOnlyAtStop q) ?_ ?_
    · rintro q rfl
      simp [ReadBufferDrained, PredicateKept, HasDataBacked, NothingOnlyAtStop, ReturnsNothing,
        Queue.initial, SenderPc.waits]
    · exact fun q a t hq hguard hstep =>
        ⟨readBufferDrained_step hq.1 hstep, predicateKept_step hq.1 hq.2.1 hstep,
          hasDataBacked_step hq.2.2.1 hguard hstep,
          nothingOnlyAtStop_step hq.1 hq.2.1 hq.2.2.1 hq.2.2.2 hstep⟩
  exact hall.2.2.2

/-- `sender_get_data` has returned nothing although the session is running, and `has_data`
is still set, so the next call does not block. -/
def Spins (q : Queue Producer Response) : Prop :=
  q.sender = .returned none ∧ q.shouldImmediatelyStop = false ∧ q.hasData = true

/-- In runs whose stores of `has_data` all find a response in `write_buffer` the sender never
spins; wherever a running sender does return nothing, it spins. -/
theorem not_spins_of_storeFindsResponse :
    (∀ q : Queue Producer Response,
      ReachableUnder (system Producer Response) StoreFindsResponse q → ¬ Spins q) ∧
    ∀ q : Queue Producer Response, Reachable (system Producer Response) q →
      q.sender = .returned none → q.shouldImmediatelyStop = false → Spins q := by
  constructor
  · rintro q hreach ⟨hpc, hstop, -⟩
    have hstopped := reachableUnder_nothingOnlyAtStop hreach (.inr hpc)
    rw [hstop] at hstopped
    cases hstopped
  · intro q hreach hpc hstop
    have hpred := reachable_predicateKept hreach (.inr (.inr hpc))
    exact ⟨hpc, hstop, by simpa [Queue.waitPredicate, hstop] using hpred⟩

/-- Two producers, of which the second stores `has_data` only after the sender has swapped
its response out, and the sender's way through both responses. -/
def splitProducerTrace : List (QueueAction Bool Nat) :=
  [.enqueue false 7, .enqueue true 8, .storeHasData false, .notify false,
    .senderStep, .senderStep, .senderStep, .senderStep, .storeHasData true, .notify true,
    .senderStep, .senderStep, .write .written,
    .senderStep, .senderStep, .senderStep, .senderStep, .write .written,
    .senderStep, .senderStep, .senderStep, .senderStep, .senderStep]

theorem spins_reachable :
    ∃ q : Queue Bool Nat, Reachable (system Bool Nat) q ∧ Spins q :=
  ⟨_, Reachable.run splitProducerTrace (.initial rfl) rfl, rfl, rfl, rfl⟩

theorem not_spins_of_storeFindsResponse_instance :
    (∃ q : Queue Unit Nat, q.sender = .returned (some 7) ∧ ¬ Spins q) ∧
    ∃ q : Queue Bool Nat, q.sent = [7, 8] ∧ Spins q := by
  constructor
  · refine ⟨_, ?_, (@not_spins_of_storeFindsResponse Unit Nat _).1 _
      (.step (a := .senderStep) (.step (a := .senderStep) (.step (a := .senderStep)
        (.step (a := .senderStep) (.step (a := .senderStep) (.step (a := .storeHasData ())
          (.step (a := .enqueue () 7) (.initial rfl) trivial rfl) (List.cons_ne_nil _ _) rfl)
          trivial rfl) trivial rfl) trivial rfl) trivial rfl) trivial rfl)⟩
    rfl
  · refine ⟨_, ?_, (@not_spins_of_storeFindsResponse Bool Nat _).2 _
      (Reachable.run splitProducerTrace (.initial rfl) rfl) ?_ ?_⟩
    · rfl
    · rfl
    · rfl

end Usbipdcpp.Session.SenderWakeup
