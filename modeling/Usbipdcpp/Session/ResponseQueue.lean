import Usbipdcpp.Foundation.TransitionSystem

namespace Usbipdcpp.Session.ResponseQueue

open Usbipdcpp.Foundation.TransitionSystem

/-- Where a producer stands in a call of `submit_ret_submit` or `submit_ret_unlink`, or in a
sequence of `enqueue_ret_*` calls closed by `wakeup_sender`. -/
inductive ProducerPc where
  | idle
  | enqueued
  | stored
  deriving DecidableEq, Repr

/-- Where the sender thread stands in `sender` and in the `sender_get_data` it calls.  The
positions `locked`, `refused` and `admitted` are inside `swap_mutex`: about to evaluate the
wait predicate, after it was false and before `data_available_cv` sleeps, and after it was
true and before the swap. -/
inductive SenderPc (Response : Type) where
  | looping
  | getting
  | locked
  | refused
  | blocked
  | woken
  | admitted
  | popping
  | returned (retV : Option Response)
  | sending (response : Response)
  | finished
  deriving DecidableEq, Repr

/-- How `to_socket` ends for one response. -/
inductive WriteOutcome where
  | written
  | failed
  | threw
  deriving DecidableEq, Repr

/-- The response queue of a session with the threads that work on it. -/
structure Queue (Producer Response : Type) where
  writeBuffer : List Response
  readBuffer : List Response
  hasData : Bool
  shouldImmediatelyStop : Bool
  producers : Producer → ProducerPc
  sender : SenderPc Response
  sent : List Response

/-- One atomic step: a critical section of `swap_mutex`, an atomic store, a notification, or
a step of the sender, which is determined by the sender's position but for spurious wakeups
and the outcome of a write. -/
inductive QueueAction (Producer Response : Type) where
  | enqueue (producer : Producer) (response : Response)
  | storeHasData (producer : Producer)
  | notify (producer : Producer)
  | setStop
  | setStopUnlocked
  | notifyStop
  | senderStep
  | wakeSpuriously
  | write (outcome : WriteOutcome)
  deriving DecidableEq, Repr

variable {Producer Response : Type}

def Queue.initial : Queue Producer Response where
  writeBuffer := []
  readBuffer := []
  hasData := false
  shouldImmediatelyStop := false
  producers := fun _ => .idle
  sender := .looping
  sent := []

/-- Whether the sender is inside the critical section of `sender_get_data`. -/
def SenderPc.holdsSwapMutex : SenderPc Response → Bool
  | .locked | .refused | .admitted => true
  | _ => false

/-- `data_available_cv.notify_all()`: only a sender that already sleeps is woken. -/
def SenderPc.notifyAll : SenderPc Response → SenderPc Response
  | .blocked => .woken
  | pc => pc

/-- The predicate of the wait in `sender_get_data`. -/
def Queue.waitPredicate (q : Queue Producer Response) : Bool :=
  q.hasData || q.shouldImmediatelyStop

/-- The body of the critical section of `sender_get_data` after the wait. -/
def Queue.swapBuffers (q : Queue Producer Response) : Queue Producer Response :=
  if q.writeBuffer = [] then q
  else { q with readBuffer := q.writeBuffer, writeBuffer := q.readBuffer, hasData := false }

/-- The next step of the sender thread, from the loop test of `sender` through
`sender_get_data` to the point where a response is handed to `to_socket`. -/
def Queue.senderStep (q : Queue Producer Response) : Option (Queue Producer Response) :=
  match q.sender with
  | .looping =>
      some { q with sender := if q.shouldImmediatelyStop then .finished else .getting }
  | .getting => some { q with sender := if q.readBuffer = [] then .locked else .popping }
  | .locked => some { q with sender := if q.waitPredicate then .admitted else .refused }
  | .refused => some { q with sender := .blocked }
  | .blocked => none
  | .woken => some { q with sender := .locked }
  | .admitted => some { q.swapBuffers with sender := .popping }
  | .popping =>
      match q.readBuffer with
      | [] => some { q with sender := .returned none }
      | response :: rest =>
          some { q with readBuffer := rest, sender := .returned (some response) }
  | .returned retV =>
      if q.shouldImmediatelyStop then some { q with sender := .finished }
      else
        match retV with
        | none => some { q with sender := .looping }
        | some response => some { q with sender := .sending response }
  | .sending _ => none
  | .finished => none

/-- The sender's reaction to the outcome of `to_socket`: a failed write stops the session, an
exception ends the thread. -/
def Queue.write (q : Queue Producer Response) (outcome : WriteOutcome) :
    Option (Queue Producer Response) :=
  match q.sender with
  | .sending response =>
      match outcome with
      | .written => some { q with sender := .looping, sent := q.sent ++ [response] }
      | .failed => some { q with sender := .finished, shouldImmediatelyStop := true }
      | .threw => some { q with sender := .finished }
  | _ => none

/-- The sender is between finding `read_buffer` empty and the swap. -/
def SenderPc.waits : SenderPc Response → Bool
  | .locked | .refused | .blocked | .woken | .admitted => true
  | _ => false

@[simp] theorem notifyAll_waits (pc : SenderPc Response) : pc.notifyAll.waits = pc.waits := by
  cases pc <;> rfl

@[simp] theorem notifyAll_ne_blocked (pc : SenderPc Response) : pc.notifyAll ≠ .blocked := by
  cases pc <;> simp [SenderPc.notifyAll]

@[simp] theorem notifyAll_eq_iff (pc : SenderPc Response) {target : SenderPc Response}
    (hblocked : target ≠ .blocked) (hwoken : target ≠ .woken) :
    pc.notifyAll = target ↔ pc = target := by
  cases pc with
  | blocked =>
      exact ⟨fun h => absurd h.symm hwoken, fun h => absurd h.symm hblocked⟩
  | _ => rfl

/-- A step of the sender is the swap, or leaves `write_buffer`, `has_data` and the producers
alone and moves the sender one position further. -/
theorem senderStep_cases {q t : Queue Producer Response} (h : q.senderStep = some t) :
    (q.sender = .admitted ∧ t = { q.swapBuffers with sender := .popping }) ∨
    (t.writeBuffer = q.writeBuffer ∧ t.hasData = q.hasData ∧ t.producers = q.producers ∧
      t.shouldImmediatelyStop = q.shouldImmediatelyStop ∧
      (t.sender = .refused → q.sender = .locked ∧ q.waitPredicate = false) ∧
      (t.sender = .blocked → q.sender = .refused) ∧
      (t.sender = .admitted → q.sender = .locked ∧ q.waitPredicate = true) ∧
      (t.sender = .popping → t.readBuffer ≠ []) ∧
      (t.sender = .returned none → q.sender = .popping ∧ q.readBuffer = []) ∧
      (t.sender.waits = true → t.readBuffer = q.readBuffer ∧
        (q.sender.waits = true ∨ q.sender = .getting ∧ q.readBuffer = []))) := by
  cases hpc : q.sender with
  | admitted =>
      refine .inl ⟨rfl, ?_⟩
      simpa [Queue.senderStep, hpc] using h.symm
  | looping =>
      obtain rfl := by simpa [Queue.senderStep, hpc] using h
      refine .inr ⟨rfl, rfl, rfl, rfl, ?_⟩
      cases q.shouldImmediatelyStop <;> simp [SenderPc.waits]
  | getting =>
      obtain rfl := by simpa [Queue.senderStep, hpc] using h
      refine .inr ⟨rfl, rfl, rfl, rfl, ?_⟩
      by_cases hread : q.readBuffer = [] <;> simp [hread, SenderPc.waits]
  | locked =>
      obtain rfl := by simpa [Queue.senderStep, hpc] using h
      refine .inr ⟨rfl, rfl, rfl, rfl, ?_⟩
      cases q.waitPredicate <;> simp [SenderPc.waits]
  | refused =>
      obtain rfl := by simpa [Queue.senderStep, hpc] using h
      exact .inr ⟨rfl, rfl, rfl, rfl, by simp [SenderPc.waits]⟩
  | woken =>
      obtain rfl := by simpa [Queue.senderStep, hpc] using h
      exact .inr ⟨rfl, rfl, rfl, rfl, by simp [SenderPc.waits]⟩
  | popping =>
      right
      cases hread : q.readBuffer with
      | nil =>
          obtain rfl := by simpa [Queue.senderStep, hpc, hread] using h
          exact ⟨rfl, rfl, rfl, rfl, by simp [SenderPc.waits]⟩
      | cons response rest =>
          obtain rfl := by simpa [Queue.senderStep, hpc, hread] using h
          exact ⟨rfl, rfl, rfl, rfl, by simp [SenderPc.waits]⟩
  | returned retV =>
      right
      cases hstop : q.shouldImmediatelyStop <;> cases retV <;>
        simp only [Queue.senderStep, hpc, hstop, Bool.false_eq_true, if_true, if_false,
          Option.some.injEq] at h <;>
        subst h <;> simp [SenderPc.waits]
  | blocked => simp [Queue.senderStep, hpc] at h
  | sending response => simp [Queue.senderStep, hpc] at h
  | finished => simp [Queue.senderStep, hpc] at h

theorem senderStep_of_refused {q : Queue Producer Response} (hpc : q.sender = .refused) :
    q.senderStep = some { q with sender := .blocked } := by
  simp [Queue.senderStep, hpc]

theorem write_cases {q t : Queue Producer Response} {outcome : WriteOutcome}
    (h : q.write outcome = some t) :
    t.writeBuffer = q.writeBuffer ∧ t.readBuffer = q.readBuffer ∧ t.hasData = q.hasData ∧
      t.producers = q.producers ∧ (t.sender = .looping ∨ t.sender = .finished) := by
  cases hpc : q.sender <;> cases outcome <;> simp [Queue.write, hpc] at h <;> subst h <;> simp

/-- No response is queued or in the hands of the sender. -/
def Queue.Drained (q : Queue Producer Response) : Prop :=
  q.writeBuffer = [] ∧ q.readBuffer = [] ∧
    ∀ response, q.sender ≠ .returned (some response) ∧ q.sender ≠ .sending response

theorem drained_initial : (Queue.initial : Queue Producer Response).Drained :=
  ⟨rfl, rfl, fun _ => ⟨nofun, nofun⟩⟩

theorem senderStep_drained {q t : Queue Producer Response} (hq : q.Drained)
    (h : q.senderStep = some t) : t.Drained := by
  obtain ⟨hwrite, hread, hsender⟩ := hq
  cases hpc : q.sender with
  | returned retV =>
      cases retV with
      | none =>
          cases hstop : q.shouldImmediatelyStop <;>
            simp only [Queue.senderStep, hpc, hstop, Bool.false_eq_true, if_true, if_false,
              Option.some.injEq] at h <;>
            subst h <;> exact ⟨hwrite, hread, fun _ => ⟨nofun, nofun⟩⟩
      | some response => exact absurd hpc (hsender response).1
  | popping =>
      obtain rfl := by simpa [Queue.senderStep, hpc, hread] using h
      exact ⟨hwrite, rfl, fun _ => ⟨nofun, nofun⟩⟩
  | admitted =>
      obtain rfl := by simpa [Queue.senderStep, hpc] using h
      refine ⟨?_, ?_, fun _ => ⟨nofun, nofun⟩⟩ <;> simp [Queue.swapBuffers, hwrite, hread]
  | looping =>
      obtain rfl := by simpa [Queue.senderStep, hpc] using h
      refine ⟨hwrite, hread, fun _ => ?_⟩
      cases q.shouldImmediatelyStop <;> simp
  | getting =>
      obtain rfl := by simpa [Queue.senderStep, hpc] using h
      exact ⟨hwrite, hread, fun _ => by simp [hread]⟩
  | locked =>
      obtain rfl := by simpa [Queue.senderStep, hpc] using h
      refine ⟨hwrite, hread, fun _ => ?_⟩
      cases q.waitPredicate <;> simp
  | refused =>
      obtain rfl := by simpa [Queue.senderStep, hpc] using h
      exact ⟨hwrite, hread, fun _ => ⟨nofun, nofun⟩⟩
  | woken =>
      obtain rfl := by simpa [Queue.senderStep, hpc] using h
      exact ⟨hwrite, hread, fun _ => ⟨nofun, nofun⟩⟩
  | blocked => simp [Queue.senderStep, hpc] at h
  | sending response => simp [Queue.senderStep, hpc] at h
  | finished => simp [Queue.senderStep, hpc] at h

variable [DecidableEq Producer]

def Queue.setProducer (q : Queue Producer Response) (p : Producer) (pc : ProducerPc) :
    Queue Producer Response :=
  { q with producers := Function.update q.producers p pc }

/-- `enqueue_ret_submit` and `enqueue_ret_unlink`. -/
def Queue.enqueue (q : Queue Producer Response) (p : Producer) (response : Response) :
    Queue Producer Response :=
  { q with writeBuffer := q.writeBuffer ++ [response] }.setProducer p .enqueued

/-- The first half of `wakeup_sender`. -/
def Queue.storeHasData (q : Queue Producer Response) (p : Producer) :
    Queue Producer Response :=
  { q with hasData := true }.setProducer p .stored

/-- The second half of `wakeup_sender`. -/
def Queue.notify (q : Queue Producer Response) (p : Producer) : Queue Producer Response :=
  { q with sender := q.sender.notifyAll }.setProducer p .idle

def Queue.step (q : Queue Producer Response) :
    QueueAction Producer Response → Option (Queue Producer Response)
  | .enqueue p response =>
      if q.sender.holdsSwapMutex = false ∧ q.producers p ≠ .stored then
        some (q.enqueue p response)
      else none
  | .storeHasData p => if q.producers p = .enqueued then some (q.storeHasData p) else none
  | .notify p => if q.producers p = .stored then some (q.notify p) else none
  | .setStop =>
      if q.sender.holdsSwapMutex = false then some { q with shouldImmediatelyStop := true }
      else none
  -- `receiver` stores the flag without the mutex when `receive_urb` reports an error
  | .setStopUnlocked => some { q with shouldImmediatelyStop := true }
  | .notifyStop => some { q with sender := q.sender.notifyAll }
  | .senderStep => q.senderStep
  | .wakeSpuriously =>
      match q.sender with
      | .blocked => some { q with sender := .woken }
      | _ => none
  | .write outcome => q.write outcome

/-- The runs of a session's response queue under any number of producers. -/
def system (Producer Response : Type) [DecidableEq Producer] :
    System (Queue Producer Response) (QueueAction Producer Response) where
  initial q := q = .initial
  step := Queue.step

section Fields

variable (q : Queue Producer Response) (p : Producer) (response : Response)

@[simp] theorem enqueue_writeBuffer :
    (q.enqueue p response).writeBuffer = q.writeBuffer ++ [response] := rfl

@[simp] theorem enqueue_readBuffer :
    (q.enqueue p response).readBuffer = q.readBuffer := rfl

@[simp] theorem enqueue_hasData : (q.enqueue p response).hasData = q.hasData := rfl

@[simp] theorem enqueue_sender : (q.enqueue p response).sender = q.sender := rfl

@[simp] theorem enqueue_producers :
    (q.enqueue p response).producers = Function.update q.producers p .enqueued := rfl

@[simp] theorem storeHasData_writeBuffer :
    (q.storeHasData p).writeBuffer = q.writeBuffer := rfl

@[simp] theorem storeHasData_readBuffer :
    (q.storeHasData p).readBuffer = q.readBuffer := rfl

@[simp] theorem storeHasData_hasData : (q.storeHasData p).hasData = true := rfl

@[simp] theorem storeHasData_sender : (q.storeHasData p).sender = q.sender := rfl

@[simp] theorem storeHasData_producers :
    (q.storeHasData p).producers = Function.update q.producers p .stored := rfl

@[simp] theorem notify_writeBuffer : (q.notify p).writeBuffer = q.writeBuffer := rfl

@[simp] theorem notify_readBuffer : (q.notify p).readBuffer = q.readBuffer := rfl

@[simp] theorem notify_hasData : (q.notify p).hasData = q.hasData := rfl

@[simp] theorem notify_sender : (q.notify p).sender = q.sender.notifyAll := rfl

@[simp] theorem notify_producers :
    (q.notify p).producers = Function.update q.producers p .idle := rfl

end Fields

/-- Everything a step of the queue can do. -/
theorem step_cases {q t : Queue Producer Response} {a : QueueAction Producer Response}
    (h : q.step a = some t) :
    (∃ p response, a = .enqueue p response ∧ q.sender.holdsSwapMutex = false ∧
      q.producers p ≠ .stored ∧ t = q.enqueue p response) ∨
    (∃ p, a = .storeHasData p ∧ q.producers p = .enqueued ∧ t = q.storeHasData p) ∨
    (∃ p, a = .notify p ∧ q.producers p = .stored ∧ t = q.notify p) ∨
    ((a = .setStop ∨ a = .setStopUnlocked) ∧ t = { q with shouldImmediatelyStop := true }) ∨
    (a = .notifyStop ∧ t = { q with sender := q.sender.notifyAll }) ∨
    (a = .senderStep ∧ q.senderStep = some t) ∨
    (a = .wakeSpuriously ∧ q.sender = .blocked ∧ t = { q with sender := .woken }) ∨
    (∃ outcome, a = .write outcome ∧ q.write outcome = some t) := by
  cases a with
  | enqueue p response =>
      simp only [Queue.step, Option.ite_none_right_eq_some, Option.some.injEq] at h
      exact .inl ⟨p, response, rfl, h.1.1, h.1.2, h.2.symm⟩
  | storeHasData p =>
      simp only [Queue.step, Option.ite_none_right_eq_some, Option.some.injEq] at h
      exact .inr (.inl ⟨p, rfl, h.1, h.2.symm⟩)
  | notify p =>
      simp only [Queue.step, Option.ite_none_right_eq_some, Option.some.injEq] at h
      exact .inr (.inr (.inl ⟨p, rfl, h.1, h.2.symm⟩))
  | setStop =>
      simp only [Queue.step, Option.ite_none_right_eq_some, Option.some.injEq] at h
      exact .inr (.inr (.inr (.inl ⟨.inl rfl, h.2.symm⟩)))
  | setStopUnlocked =>
      simp only [Queue.step, Option.some.injEq] at h
      exact .inr (.inr (.inr (.inl ⟨.inr rfl, h.symm⟩)))
  | notifyStop =>
      simp only [Queue.step, Option.some.injEq] at h
      exact .inr (.inr (.inr (.inr (.inl ⟨rfl, h.symm⟩))))
  | senderStep => exact .inr (.inr (.inr (.inr (.inr (.inl ⟨rfl, h⟩)))))
  | wakeSpuriously =>
      refine .inr (.inr (.inr (.inr (.inr (.inr (.inl ⟨rfl, ?_⟩))))))
      cases hpc : q.sender <;> simp [Queue.step, hpc] at h
      exact ⟨rfl, h.symm⟩
  | write outcome => exact .inr (.inr (.inr (.inr (.inr (.inr (.inr ⟨outcome, rfl, h⟩))))))

/-- Only a producer puts responses into a drained queue. -/
theorem step_drained {q t : Queue Producer Response} {a : QueueAction Producer Response}
    (hq : q.Drained) (ha : ∀ p response, a ≠ .enqueue p response) (h : q.step a = some t) :
    t.Drained := by
  rcases step_cases h with ⟨p, response, rfl, -⟩ | ⟨p, rfl, -, rfl⟩ | ⟨p, rfl, -, rfl⟩ |
    ⟨-, rfl⟩ | ⟨rfl, rfl⟩ | ⟨rfl, hstep⟩ | ⟨rfl, -, rfl⟩ | ⟨outcome, rfl, hwrite⟩
  · exact absurd rfl (ha p response)
  · exact hq
  · exact ⟨hq.1, hq.2.1, fun response => by simpa using hq.2.2 response⟩
  · exact hq
  · exact ⟨hq.1, hq.2.1, fun response => by simpa using hq.2.2 response⟩
  · exact senderStep_drained hq hstep
  · exact ⟨hq.1, hq.2.1, fun _ => ⟨nofun, nofun⟩⟩
  · obtain ⟨hbuffer, hread, -, -, hpc⟩ := write_cases hwrite
    refine ⟨hbuffer.trans hq.1, hread.trans hq.2.1, fun _ => ?_⟩
    rcases hpc with hpc | hpc <;> simp [hpc]

end Usbipdcpp.Session.ResponseQueue
