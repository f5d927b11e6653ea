import Usbipdcpp.Session.SenderWakeup

namespace Usbipdcpp.Session.SendOrder

open Usbipdcpp.Foundation.TransitionSystem
open Usbipdcpp.Session.ResponseQueue
open Usbipdcpp.Session.SenderWakeup

variable {Producer Response : Type}

/-- The responses of a run in the order of the critical sections that enqueue them. -/
def enqueued (actions : List (QueueAction Producer Response)) : List Response :=
  actions.filterMap fun
    | .enqueue _ response => some response
    | _ => none

/-- The response that the sender has taken off `read_buffer` and not yet written. -/
def inHand : SenderPc Response → List Response
  | .returned (some response) => [response]
  | .sending response => [response]
  | _ => []

/-- What is on its way to the socket, the next response first. -/
def pipeline (q : Queue Producer Response) : List Response :=
  inHand q.sender ++ q.readBuffer ++ q.writeBuffer

@[simp] theorem inHand_notifyAll (pc : SenderPc Response) :
    inHand pc.notifyAll = inHand pc := by
  cases pc <;> rfl

/-- A step of the sender keeps what is on its way, or gives up the response in hand and ends
the thread. -/
theorem senderStep_pipeline {q t : Queue Producer Response} (hdrained : ReadBufferDrained q)
    (h : q.senderStep = some t) :
    t.sent = q.sent ∧ q.sender ≠ .finished ∧
      (t.sender ≠ .finished → pipeline t = pipeline q) := by
  cases hpc : q.sender with
  | admitted =>
      have hread : q.readBuffer = [] := hdrained (by rw [hpc]; rfl)
      obtain rfl := by simpa [Queue.senderStep, hpc] using h
      by_cases hwrite : q.writeBuffer = []
      · simp [pipeline, inHand, Queue.swapBuffers, hwrite, hpc]
      · simp [pipeline, inHand, Queue.swapBuffers, hwrite, hread, hpc]
  | looping =>
      obtain rfl := by simpa [Queue.senderStep, hpc] using h
      cases q.shouldImmediatelyStop <;> simp [pipeline, inHand, hpc]
  | getting =>
      obtain rfl := by simpa [Queue.senderStep, hpc] using h
      by_cases hread : q.readBuffer = [] <;> simp [pipeline, inHand, hread, hpc]
  | locked =>
      obtain rfl := by simpa [Queue.senderStep, hpc] using h
      cases q.waitPredicate <;> simp [pipeline, inHand, hpc]
  | refused =>
      obtain rfl := by simpa [Queue.senderStep, hpc] using h
      simp [pipeline, inHand, hpc]
  | woken =>
      obtain rfl := by simpa [Queue.senderStep, hpc] using h
      simp [pipeline, inHand, hpc]
  | popping =>
      cases hread : q.readBuffer with
      | nil =>
          obtain rfl := by simpa [Queue.senderStep, hpc, hread] using h
          simp [pipeline, inHand, hpc, hread]
      | cons response rest =>
          obtain rfl := by simpa [Queue.senderStep, hpc, hread] using h
          simp [pipeline, inHand, hpc, hread]
  | returned retV =>
      cases hstop : q.shouldImmediatelyStop <;> cases retV <;>
        simp only [Queue.senderStep, hpc, hstop, Bool.false_eq_true, if_true, if_false,
          Option.some.injEq] at h <;>
        subst h <;> simp [pipeline, inHand, hpc]
  | blocked => simp [Queue.senderStep, hpc] at h
  | sending response => simp [Queue.senderStep, hpc] at h
  | finished => simp [Queue.senderStep, hpc] at h

/-- A write moves the response in hand to the responses sent, or ends the thread. -/
theorem write_pipeline {q t : Queue Producer Response} {outcome : WriteOutcome}
    (h : q.write outcome = some t) :
    q.sender ≠ .finished ∧ (t.sender = .finished ∧ t.sent = q.sent ∨
      t.sender ≠ .finished ∧ t.sent ++ pipeline t = q.sent ++ pipeline q) := by
  cases hpc : q.sender with
  | sending response =>
      cases outcome with
      | written =>
          obtain rfl := by simpa [Queue.write, hpc] using h
          simp [pipeline, inHand, hpc]
      | failed =>
          obtain rfl := by simpa [Queue.write, hpc] using h
          simp
      | threw =>
          obtain rfl := by simpa [Queue.write, hpc] using h
          simp
  | _ => simp [Queue.write, hpc] at h

/-- What has been sent comes first among what has been enqueued, and as long as the sender
runs, what is on its way is the rest. -/
structure Ordered (actions : List (QueueAction Producer Response))
    (q : Queue Producer Response) : Prop where
  drained : ReadBufferDrained q
  sent_prefix : q.sent <+: enqueued actions
  complete : q.sender ≠ .finished → q.sent ++ pipeline q = enqueued actions

theorem enqueued_concat_of_ne {actions : List (QueueAction Producer Response)}
    {a : QueueAction Producer Response} (ha : ∀ p response, a ≠ .enqueue p response) :
    enqueued (actions ++ [a]) = enqueued actions := by
  cases a with
  | enqueue p response => exact absurd rfl (ha p response)
  | _ => simp [enqueued]

/-- A step that enqueues nothing and sends nothing keeps the order, if what is on its way stays
as it is. -/
theorem Ordered.of_pipeline_eq {actions : List (QueueAction Producer Response)}
    {q t : Queue Producer Response} {a : QueueAction Producer Response} (hq : Ordered actions q)
    (ha : ∀ p response, a ≠ .enqueue p response) (hdrained : ReadBufferDrained t)
    (hsent : t.sent = q.sent)
    (hpipeline : t.sender ≠ .finished → q.sender ≠ .finished ∧ pipeline t = pipeline q) :
    Ordered (actions ++ [a]) t where
  drained := hdrained
  sent_prefix := by
    rw [enqueued_concat_of_ne ha, hsent]
    exact hq.sent_prefix
  complete hpc := by
    obtain ⟨hrunning, hkept⟩ := hpipeline hpc
    rw [enqueued_concat_of_ne ha, hsent, hkept, hq.complete hrunning]

theorem ordered_initial : Ordered [] (Queue.initial : Queue Producer Response) where
  drained := by simp [ReadBufferDrained, Queue.initial, SenderPc.waits]
  sent_prefix := List.prefix_rfl
  complete := fun _ => rfl

variable [DecidableEq Producer]

theorem ordered_step {actions : List (QueueAction Producer Response)}
    {q t : Queue Producer Response} {a : QueueAction Producer Response}
    (hq : Ordered actions q) (h : q.step a = some t) : Ordered (actions ++ [a]) t := by
  have hdrained := readBufferDrained_step hq.drained h
  have hnotify : ∀ pc : SenderPc Response, pc.notifyAll ≠ .finished → pc ≠ .finished := by
    rintro pc hpc rfl
    exact hpc rfl
  rcases step_cases h with ⟨p, response, rfl, -, -, rfl⟩ | ⟨p, rfl, -, rfl⟩ | ⟨p, rfl, -, rfl⟩ |
    ⟨ha, rfl⟩ | ⟨rfl, rfl⟩ | ⟨rfl, hstep⟩ | ⟨rfl, hpc, rfl⟩ | ⟨outcome, rfl, hwrite⟩
  · have hlog : enqueued (actions ++ [.enqueue p response]) = enqueued actions ++ [response] := by
      simp [enqueued]
    refine ⟨hdrained, hlog ▸ hq.sent_prefix.trans (List.prefix_append _ _), fun hpc => ?_⟩
    rw [hlog, ← hq.complete hpc]
    simp [pipeline, Queue.enqueue, Queue.setProducer]
  · exact hq.of_pipeline_eq (by simp) hdrained rfl fun hpc => ⟨hpc, rfl⟩
  · refine hq.of_pipeline_eq (by simp) hdrained rfl fun hpc => ⟨hnotify _ hpc, ?_⟩
    simp [pipeline]
  · have ha' : ∀ p response, a ≠ .enqueue p response := by
      rcases ha with rfl | rfl <;> simp
    exact hq.of_pipeline_eq ha' hdrained rfl fun hpc => ⟨hpc, rfl⟩
  · refine hq.of_pipeline_eq (by simp) hdrained rfl fun hpc => ⟨hnotify _ hpc, ?_⟩
    simp [pipeline]
  · obtain ⟨hsent, hrunning, hkept⟩ := senderStep_pipeline hq.drained hstep
    exact hq.of_pipeline_eq (by simp) hdrained hsent fun hpc => ⟨hrunning, hkept hpc⟩
  · refine hq.of_pipeline_eq (by simp) hdrained rfl fun _ => ⟨by simp [hpc], ?_⟩
    simp [pipeline, inHand, hpc]
  · obtain ⟨hrunning, ⟨hpc, hsent⟩ | ⟨hpc, hkept⟩⟩ := write_pipeline hwrite
    · exact hq.of_pipeline_eq (by simp) hdrained hsent fun h => absurd hpc h
    · have hlog : enqueued (actions ++ [.write outcome]) = enqueued actions :=
        enqueued_concat_of_ne (by simp)
      have hall : t.sent ++ pipeline t = enqueued (actions ++ [.write outcome]) := by
        rw [hlog, hkept, hq.complete hrunning]
      exact ⟨hdrained, hall ▸ List.prefix_append _ _, fun _ => hall⟩

/-- In every run the responses sent are the first of those enqueued, in the order in which they
were enqueued; while the sender runs, the others are on their way in that order; and of two
responses the one enqueued first is sent first. -/
theorem sent_in_enqueue_order (actions : List (QueueAction Producer Response))
    (q : Queue Producer Response)
    (hrun : (system Producer Response).run .initial actions = some q) :
    q.sent <+: enqueued actions ∧
      (q.sender ≠ .finished →
        q.sent ++ inHand q.sender ++ q.readBuffer ++ q.writeBuffer = enqueued actions) ∧
      ∀ before first between second behind,
        enqueued actions = before ++ first :: between ++ second :: behind →
          before.length + between.length + 1 < q.sent.length →
            before ++ first :: between ++ [second] <+: q.sent := by
  have hordered : Ordered actions q :=
    System.run_invariant ordered_initial (fun _ _ _ _ => ordered_step) hrun
  refine ⟨hordered.sent_prefix, fun hpc => ?_, ?_⟩
  · simpa [pipeline] using hordered.complete hpc
  · intro before first between second behind hlog hlength
    have hprefix : before ++ first :: between ++ [second] <+: enqueued actions := by
      rw [hlog]
      exact ⟨behind, by simp⟩
    apply List.prefix_of_prefix_length_le hprefix hordered.sent_prefix
    simp only [List.length_append, List.length_cons, List.length_nil]
    omega

/-- The run in which the second of two producers is split across the swap. -/
theorem sent_in_enqueue_order_instance :
    ∃ q : Queue Bool Nat, q.sent = [7, 8] ∧
      q.sent <+: enqueued splitProducerTrace ∧ [] ++ 7 :: [] ++ [8] <+: q.sent := by
  obtain ⟨q, hrun, hsent⟩ : ∃ q : Queue Bool Nat,
      (system Bool Nat).run .initial splitProducerTrace = some q ∧ q.sent = [7, 8] :=
    ⟨_, rfl, rfl⟩
  obtain ⟨hfirst, -, hpair⟩ := sent_in_enqueue_order splitProducerTrace q hrun
  exact ⟨q, hsent, hfirst, hpair [] 7 [] 8 [] rfl (by rw [hsent]; decide)⟩

end Usbipdcpp.Session.SendOrder
