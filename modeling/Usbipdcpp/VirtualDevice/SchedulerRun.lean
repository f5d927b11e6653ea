import Usbipdcpp.Foundation.FifoLedger
import Usbipdcpp.Foundation.TransitionSystem
import Usbipdcpp.VirtualDevice.TransferScheduler

namespace Usbipdcpp.VirtualDevice

open Foundation.KeyedList Foundation.TransitionSystem

/-- An operation that waits in the `io_context` for the scheduler's thread. -/
inductive IoHandler where
  | onTimer (aborted : Bool)
  | scheduleOnThread
  deriving DecidableEq, Repr

/-- Where the scheduler's thread stands: between two handlers, before a handler's critical
section, in the loop of `on_timer` over the due URBs, or in that loop between the reply that was
ready and the `on_urb_done` that follows it. -/
inductive ThreadPc where
  | absent
  | polling
  | invoked (handler : IoHandler)
  | serving (due : List (UInt8 × PendingUrb))
  | answered (ep : UInt8) (seqnum : UInt32) (due : List (UInt8 × PendingUrb))
  deriving DecidableEq, Repr

/-- How far `start` and `stop` have got: `closing` is `stop` behind its critical section, and
`halting` behind `io_context.stop()`. -/
inductive Phase where
  | stopped
  | running
  | closing
  | halting
  deriving DecidableEq, Repr

/-- A `TransferScheduler` with its timer, its `io_context` and its thread, and with the books of
what became of the URBs submitted to it. -/
structure SchedulerRun where
  phase : Phase
  endpoints : List (UInt8 × EndpointState)
  timerPending : Bool
  expiry : Int
  waiting : Bool
  handlers : List IoHandler
  thread : ThreadPc
  clock : Int
  submissions : Nat
  handed : List (UInt8 × PendingUrb)
  express : List (UInt8 × Nat)
  cancelled : List (UInt8 × Nat)
  dropped : List (UInt8 × Nat)
  unreported : List (UInt8 × UInt32)
  deriving DecidableEq, Repr

inductive SchedulerAction where
  | tick (now : Int)
  | start
  | stop
  | stopContext
  | join
  | submitProcessor (ep : UInt8) (type : EndpointAttributes) (dataDuration : Int)
      (seqnum : UInt32)
  | submitReady (ep : UInt8) (type : EndpointAttributes) (interval numIsoPackets : Int)
      (seqnum : UInt32) (dataDuration : Int)
  | onUrbDone (ep : UInt8) (seqnum : UInt32)
  | cancel (seqnum : UInt32)
  | expire
  | invoke (index : Nat)
  | enter (elapsed : UInt8 → Nat)
  | serve
  | rehash (endpoints : List (UInt8 × EndpointState))

namespace EndpointState

/-- The state of an endpoint that no URB has been submitted to. -/
def idle : EndpointState where
  queue := []
  lastScheduled := 0
  processing := false
  processingSeqnum := 0

/-- The head of the queue, unless another URB of the endpoint is being processed. -/
def readyHead (state : EndpointState) : Option PendingUrb :=
  if state.processing then none else state.queue.head?

/-- The part of `submit` that the lock protects: whether the scheduler is to be kicked, and the
endpoint's state. -/
def push (now : Int) (urb : PendingUrb) (state : EndpointState) : Bool × EndpointState :=
  let queueWasEmpty := state.queue.isEmpty
  let state' := { state with queue := state.queue ++ [urb] }
  if queueWasEmpty then (!state.processing, state'.armNext now) else (false, state')

/-- What `on_timer` does with an endpoint whose head is due: the URB taken and the state left. -/
def takeDue (now armNow : Int) (state : EndpointState) : Option (PendingUrb × EndpointState) :=
  match state.queue with
  | [] => none
  | front :: queue =>
      if state.processing = false ∧ front.serviceTime ≤ now then
        some (front, { state with queue, processing := true,
                                  processingSeqnum := front.seqnum }.armNext armNow)
      else none

def afterTimer (now armNow : Int) (state : EndpointState) : EndpointState :=
  ((state.takeDue now armNow).map Prod.snd).getD state

theorem takeDue_cases {now armNow : Int} {state state' : EndpointState} {urb : PendingUrb}
    (h : state.takeDue now armNow = some (urb, state')) :
    ∃ rest, state.queue = urb :: rest ∧ state.processing = false ∧ urb.serviceTime ≤ now ∧
      state' = { state with queue := rest, processing := true,
                            processingSeqnum := urb.seqnum }.armNext armNow := by
  unfold takeDue at h
  split at h
  next => cases h
  next front queue hqueue =>
    split at h
    next hready =>
      cases h
      exact ⟨queue, hqueue, hready.1, hready.2, rfl⟩
    next => cases h

end EndpointState

namespace TransferScheduler

/-- The earliest service time of the heads that wait for the timer. -/
def nextServiceTime (endpoints : List (UInt8 × EndpointState)) : Option Int :=
  ((endpoints.filterMap fun entry => entry.2.readyHead).map (·.serviceTime)).min?

end TransferScheduler

namespace SchedulerRun

open TransferScheduler

def initial (clock : Int) : SchedulerRun where
  phase := .stopped
  endpoints := []
  timerPending := false
  expiry := 0
  waiting := false
  handlers := []
  thread := .absent
  clock := clock
  submissions := 0
  handed := []
  express := []
  cancelled := []
  dropped := []
  unreported := []

def started (s : SchedulerRun) : Bool := s.phase == .running

def state (s : SchedulerRun) (ep : UInt8) : EndpointState := valueOf .idle ep s.endpoints

/-- The numbers of the URBs that wait in the queues. -/
def queued (endpoints : List (UInt8 × EndpointState)) : List (UInt8 × Nat) :=
  items (fun state : EndpointState => state.queue.map (·.number)) endpoints

def kick (s : SchedulerRun) : SchedulerRun :=
  if s.timerPending then s else { s with handlers := s.handlers ++ [.scheduleOnThread] }

/-- A wait that is still outstanding ends, with `operation_aborted`. -/
def abortWait (s : SchedulerRun) : SchedulerRun :=
  if s.waiting then { s with waiting := false, handlers := s.handlers ++ [.onTimer true] } else s

def scheduleNext (s : SchedulerRun) : SchedulerRun :=
  match nextServiceTime s.endpoints with
  | none => s
  | some next => { s.abortWait with timerPending := true, expiry := next, waiting := true }

def scheduleOnThread (s : SchedulerRun) : SchedulerRun :=
  if s.started = false then s
  else if s.timerPending then s
  else s.scheduleNext

/-- The URBs that `on_timer` takes, where `elapsed` has passed since it read the clock when an
endpoint's next URB is armed. -/
def dueUrbs (elapsed : UInt8 → Nat) (s : SchedulerRun) : List (UInt8 × PendingUrb) :=
  s.endpoints.filterMap fun entry =>
    (entry.2.takeDue s.clock (s.clock + elapsed entry.1)).map fun taken => (entry.1, taken.1)

/-- What `on_timer` leaves of the endpoints. -/
def withoutDue (elapsed : UInt8 → Nat) (s : SchedulerRun) : List (UInt8 × EndpointState) :=
  s.endpoints.map fun entry => (entry.1, entry.2.afterTimer s.clock (s.clock + elapsed entry.1))

/-- The critical section of `on_timer`. -/
def onTimer (aborted : Bool) (elapsed : UInt8 → Nat) (s : SchedulerRun) : SchedulerRun :=
  let s := { s with timerPending := false }
  if aborted = true ∨ s.started = false then { s with thread := .polling }
  else
    { { s with endpoints := s.withoutDue elapsed }.scheduleNext with
      thread := .serving (s.dueUrbs elapsed) }

def runHandler (elapsed : UInt8 → Nat) (s : SchedulerRun) : IoHandler → SchedulerRun
  | .onTimer aborted => s.onTimer aborted elapsed
  | .scheduleOnThread => { s.scheduleOnThread with thread := .polling }

/-- The URB joins its endpoint's queue, unless the scheduler has been stopped. -/
def enqueue (ep : UInt8) (urb : PendingUrb) (s : SchedulerRun) : SchedulerRun :=
  if s.started then
    let pushed := (s.state ep).push s.clock urb
    let s' := { s with endpoints := upsert ep pushed.2 s.endpoints,
                       submissions := s.submissions + 1 }
    if pushed.1 then s'.kick else s'
  else s

/-- A URB that takes no slot is passed on or answered in the call that submits it. -/
def serveExpress (ep : UInt8) (s : SchedulerRun) : SchedulerRun :=
  { s with submissions := s.submissions + 1, express := s.express ++ [(ep, s.submissions)] }

/-- The URB that `submit` with a processor puts into the queue; durations are in microseconds. -/
def processorUrb (s : SchedulerRun) (type : EndpointAttributes) (dataDuration : Int)
    (seqnum : UInt32) : PendingUrb where
  serviceTime := 0
  processor := true
  type := type
  seqnum := seqnum
  delay := 1000 * dataDuration
  number := s.submissions

def submitProcessor (ep : UInt8) (type : EndpointAttributes) (dataDuration : Int)
    (seqnum : UInt32) (s : SchedulerRun) : SchedulerRun :=
  if type = .control then s.serveExpress ep
  else s.enqueue ep (s.processorUrb type dataDuration seqnum)

/-- The URB that `submit` with a reply that is ready puts into the queue. -/
def readyUrb (s : SchedulerRun) (type : EndpointAttributes) (interval numIsoPackets : Int)
    (seqnum : UInt32) (dataDuration : Int) : PendingUrb where
  serviceTime := 0
  processor := false
  type := type
  seqnum := seqnum
  delay :=
    1000 *
      if type = .isochronous then
        if dataDuration ≠ 0 then dataDuration else interval * numIsoPackets
      else 0
  number := s.submissions

def submitReady (ep : UInt8) (type : EndpointAttributes) (interval numIsoPackets : Int)
    (seqnum : UInt32) (dataDuration : Int) (s : SchedulerRun) : SchedulerRun :=
  if type = .control ∨ type = .isochronous ∧ numIsoPackets ≤ 0 then s.serveExpress ep
  else s.enqueue ep (s.readyUrb type interval numIsoPackets seqnum dataDuration)

def onUrbDone (ep : UInt8) (seqnum : UInt32) (s : SchedulerRun) : SchedulerRun :=
  if s.started = false then s
  else if (s.state ep).processing = false ∨ (s.state ep).processingSeqnum ≠ seqnum then s
  else
    let state := { s.state ep with processing := false, processingSeqnum := 0 }
    let s' := { s with endpoints := upsert ep state s.endpoints }
    if state.queue = [] then s' else s'.kick

def cancel (seqnum : UInt32) (s : SchedulerRun) : SchedulerRun :=
  match cancelIn s.clock seqnum s.endpoints, cancelTarget seqnum s.endpoints with
  | some endpoints, some (ep, urb) =>
      { s with endpoints, cancelled := s.cancelled ++ [(ep, urb.number)] }
  | _, _ => s

/-- The critical section of `stop`. -/
def stop (s : SchedulerRun) : SchedulerRun :=
  { s with phase := .closing, endpoints := [], dropped := s.dropped ++ queued s.endpoints,
           timerPending := false }.abortWait

/-- The loop of `on_timer` behind its critical section: a URB with a processor is handed to it,
and the reply of another is sent and the URB reported as done. -/
def serve (s : SchedulerRun) : Option SchedulerRun :=
  match s.thread with
  | .serving [] => some { s with thread := .polling }
  | .serving ((ep, urb) :: due) =>
      let s := { s with handed := s.handed ++ [(ep, urb)] }
      if urb.processor then
        some { s with thread := .serving due, unreported := s.unreported ++ [(ep, urb.seqnum)] }
      else some { s with thread := .answered ep urb.seqnum due }
  | .answered ep seqnum due => some { s.onUrbDone ep seqnum with thread := .serving due }
  | _ => none

/-- One step of a thread: a critical section, or what the scheduler's thread does between
two. -/
def step (s : SchedulerRun) : SchedulerAction → Option SchedulerRun
  | .tick now => if s.clock ≤ now then some { s with clock := now } else none
  | .start =>
      match s.phase with
      | .running => some s
      | .stopped => some { s with phase := .running, thread := .polling, unreported := [] }
      | _ => none
  | .stop =>
      match s.phase with
      | .running => some s.stop
      | .stopped => some s
      | _ => none
  | .stopContext => if s.phase = .closing then some { s with phase := .halting } else none
  | .join =>
      if s.phase = .halting ∧ s.thread = .polling then
        some { s with phase := .stopped, thread := .absent }
      else none
  | .submitProcessor ep type dataDuration seqnum =>
      some (s.submitProcessor ep type dataDuration seqnum)
  | .submitReady ep type interval numIsoPackets seqnum dataDuration =>
      some (s.submitReady ep type interval numIsoPackets seqnum dataDuration)
  | .onUrbDone ep seqnum =>
      some ({ s with unreported := s.unreported.erase (ep, seqnum) }.onUrbDone ep seqnum)
  | .cancel seqnum => some (s.cancel seqnum)
  | .expire =>
      if s.waiting = true ∧ s.expiry ≤ s.clock then
        some { s with waiting := false, handlers := s.handlers ++ [.onTimer false] }
      else none
  | .invoke index =>
      match s.handlers[index]? with
      | some handler =>
          if s.thread = .polling ∧ (s.phase = .running ∨ s.phase = .closing) then
            some { s with thread := .invoked handler, handlers := s.handlers.eraseIdx index }
          else none
      | none => none
  | .enter elapsed =>
      match s.thread with
      | .invoked handler => some (s.runHandler elapsed handler)
      | _ => none
  | .serve => s.serve
  -- the map does not specify the order in which its endpoints are visited
  | .rehash endpoints =>
      if s.endpoints.Perm endpoints then some { s with endpoints } else none

def system : System SchedulerRun SchedulerAction where
  initial s := ∃ clock, s = initial clock
  step := step

section Frame

variable (s : SchedulerRun)

theorem kick_frame : s.kick = { s with handlers := s.kick.handlers } := by
  unfold kick
  split <;> rfl

theorem abortWait_frame :
    s.abortWait =
      { s with waiting := s.abortWait.waiting, handlers := s.abortWait.handlers } := by
  unfold abortWait
  split <;> rfl

theorem scheduleNext_frame :
    s.scheduleNext =
      { s with timerPending := s.scheduleNext.timerPending, expiry := s.scheduleNext.expiry,
               waiting := s.scheduleNext.waiting, handlers := s.scheduleNext.handlers } := by
  unfold scheduleNext
  split
  · rfl
  · rw [abortWait_frame]

theorem scheduleOnThread_frame :
    s.scheduleOnThread =
      { s with timerPending := s.scheduleOnThread.timerPending,
               expiry := s.scheduleOnThread.expiry, waiting := s.scheduleOnThread.waiting,
               handlers := s.scheduleOnThread.handlers } := by
  unfold scheduleOnThread
  split
  · rfl
  · split
    · rfl
    · exact s.scheduleNext_frame

theorem onUrbDone_frame (ep : UInt8) (seqnum : UInt32) :
    s.onUrbDone ep seqnum =
      { s with endpoints := (s.onUrbDone ep seqnum).endpoints,
               handlers := (s.onUrbDone ep seqnum).handlers } := by
  unfold onUrbDone
  split
  · rfl
  · split
    · rfl
    · dsimp only
      split
      · rfl
      · rw [kick_frame]

@[simp] theorem kick_endpoints : s.kick.endpoints = s.endpoints := by rw [kick_frame]

@[simp] theorem kick_phase : s.kick.phase = s.phase := by rw [kick_frame]

@[simp] theorem kick_thread : s.kick.thread = s.thread := by rw [kick_frame]

@[simp] theorem kick_timerPending : s.kick.timerPending = s.timerPending := by rw [kick_frame]

@[simp] theorem kick_waiting : s.kick.waiting = s.waiting := by rw [kick_frame]

@[simp] theorem abortWait_endpoints : s.abortWait.endpoints = s.endpoints := by
  rw [abortWait_frame]

@[simp] theorem abortWait_phase : s.abortWait.phase = s.phase := by rw [abortWait_frame]

@[simp] theorem scheduleNext_endpoints : s.scheduleNext.endpoints = s.endpoints := by
  rw [scheduleNext_frame]

@[simp] theorem scheduleNext_phase : s.scheduleNext.phase = s.phase := by
  rw [scheduleNext_frame]

@[simp] theorem scheduleOnThread_endpoints : s.scheduleOnThread.endpoints = s.endpoints := by
  rw [scheduleOnThread_frame]

@[simp] theorem scheduleOnThread_phase : s.scheduleOnThread.phase = s.phase := by
  rw [scheduleOnThread_frame]

@[simp] theorem onUrbDone_phase (ep : UInt8) (seqnum : UInt32) :
    (s.onUrbDone ep seqnum).phase = s.phase := by rw [onUrbDone_frame]

@[simp] theorem onUrbDone_thread (ep : UInt8) (seqnum : UInt32) :
    (s.onUrbDone ep seqnum).thread = s.thread := by rw [onUrbDone_frame]

end Frame

section Due

variable {s : SchedulerRun} (elapsed : UInt8 → Nat)

theorem distinct_withoutDue (hdistinct : Distinct Prod.fst s.endpoints) :
    Distinct Prod.fst (s.withoutDue elapsed) := by
  have hkeys : (s.withoutDue elapsed).map Prod.fst = s.endpoints.map Prod.fst := by
    simp [withoutDue]
  rwa [Distinct, hkeys]

theorem valueOf_withoutDue (ep : UInt8) :
    valueOf .idle ep (s.withoutDue elapsed) =
      (s.state ep).afterTimer s.clock (s.clock + elapsed ep) :=
  valueOf_map (fun ep state =>
    EndpointState.afterTimer s.clock (s.clock + elapsed ep) state) rfl

theorem ofKey_dueUrbs {α : Type} (f : PendingUrb → α) (hdistinct : Distinct Prod.fst s.endpoints)
    (ep : UInt8) :
    ofKey ep ((s.dueUrbs elapsed).map fun entry => (entry.1, f entry.2)) =
      (((s.state ep).takeDue s.clock (s.clock + elapsed ep)).map
        fun taken => f taken.1).toList := by
  have hdue : (s.dueUrbs elapsed).map (fun entry => (entry.1, f entry.2)) =
      s.endpoints.filterMap fun entry => ((entry.2.takeDue s.clock
        (s.clock + elapsed entry.1)).map fun taken => f taken.1).map (entry.1, ·) := by
    simp [dueUrbs, List.map_filterMap, Function.comp_def]
  rw [hdue]
  exact ofKey_filterMap (fun ep state =>
    (EndpointState.takeDue s.clock (s.clock + elapsed ep) state).map fun taken => f taken.1)
    .idle rfl hdistinct

/-- Everything that `onTimer` can do. -/
theorem onTimer_cases (aborted : Bool) (s : SchedulerRun) :
    ((aborted = true ∨ s.started = false) ∧
      s.onTimer aborted elapsed = { s with timerPending := false, thread := .polling }) ∨
    (s.started = true ∧ s.onTimer aborted elapsed =
      { { s with timerPending := false, endpoints := s.withoutDue elapsed }.scheduleNext with
        thread := .serving (s.dueUrbs elapsed) }) := by
  unfold onTimer
  dsimp only
  split
  next hreturn => exact .inl ⟨hreturn, rfl⟩
  next hrun => exact .inr ⟨Bool.eq_true_of_not_eq_false fun h => hrun (.inr h), rfl⟩

end Due

/-- Everything that `serve` can do. -/
theorem serve_cases {s t : SchedulerRun} (h : s.serve = some t) :
    (s.thread = .serving [] ∧ t = { s with thread := .polling }) ∨
    (∃ ep urb due, s.thread = .serving ((ep, urb) :: due) ∧ urb.processor = true ∧
      t = { s with handed := s.handed ++ [(ep, urb)], thread := .serving due,
                   unreported := s.unreported ++ [(ep, urb.seqnum)] }) ∨
    (∃ ep urb due, s.thread = .serving ((ep, urb) :: due) ∧ urb.processor = false ∧
      t = { s with handed := s.handed ++ [(ep, urb)], thread := .answered ep urb.seqnum due }) ∨
    (∃ ep seqnum due, s.thread = .answered ep seqnum due ∧
      t = { s.onUrbDone ep seqnum with thread := .serving due }) := by
  unfold serve at h
  split at h
  next hthread =>
    cases h
    exact .inl ⟨hthread, rfl⟩
  next ep urb due hthread =>
    dsimp only at h
    split at h
    next hprocessor =>
      cases h
      exact .inr (.inl ⟨ep, urb, due, hthread, hprocessor, rfl⟩)
    next hprocessor =>
      cases h
      exact .inr (.inr (.inl ⟨ep, urb, due, hthread, Bool.eq_false_of_not_eq_true hprocessor, rfl⟩))
  next ep seqnum due hthread =>
    cases h
    exact .inr (.inr (.inr ⟨ep, seqnum, due, hthread, rfl⟩))
  next => cases h

/-- The action may put a URB into a queue. -/
def submits : SchedulerAction → Bool
  | .submitProcessor _ _ _ _ | .submitReady _ _ _ _ _ _ => true
  | _ => false

/-- What one step does. -/
inductive Effect (s : SchedulerRun) : SchedulerAction → SchedulerRun → Prop
  | ticked {now : Int} (hnow : s.clock ≤ now) : Effect s (.tick now) { s with clock := now }
  | again {a : SchedulerAction} (ha : a = .start ∨ a = .stop) : Effect s a s
  | started (hphase : s.phase = .stopped) :
      Effect s .start { s with phase := .running, thread := .polling, unreported := [] }
  | stopped (hphase : s.phase = .running) : Effect s .stop s.stop
  | contextStopped (hphase : s.phase = .closing) :
      Effect s .stopContext { s with phase := .halting }
  | joined (hphase : s.phase = .halting) (hthread : s.thread = .polling) :
      Effect s .join { s with phase := .stopped, thread := .absent }
  | express {a : SchedulerAction} {ep : UInt8} (ha : submits a = true) :
      Effect s a (s.serveExpress ep)
  | queuedProcessor {ep : UInt8} {type : EndpointAttributes} {dataDuration : Int}
      {seqnum : UInt32} (htype : type ≠ .control) :
      Effect s (.submitProcessor ep type dataDuration seqnum)
        (s.enqueue ep (s.processorUrb type dataDuration seqnum))
  | queuedReady {ep : UInt8} {type : EndpointAttributes} {interval numIsoPackets : Int}
      {seqnum : UInt32} {dataDuration : Int}
      (htype : ¬ (type = .control ∨ type = .isochronous ∧ numIsoPackets ≤ 0)) :
      Effect s (.submitReady ep type interval numIsoPackets seqnum dataDuration)
        (s.enqueue ep (s.readyUrb type interval numIsoPackets seqnum dataDuration))
  | reported {ep : UInt8} {seqnum : UInt32} :
      Effect s (.onUrbDone ep seqnum)
        ({ s with unreported := s.unreported.erase (ep, seqnum) }.onUrbDone ep seqnum)
  | cancelled {seqnum : UInt32} : Effect s (.cancel seqnum) (s.cancel seqnum)
  | expired (hwaiting : s.waiting = true) (hexpiry : s.expiry ≤ s.clock) :
      Effect s .expire { s with waiting := false, handlers := s.handlers ++ [.onTimer false] }
  | invoked {index : Nat} {handler : IoHandler} (hhandler : s.handlers[index]? = some handler)
      (hthread : s.thread = .polling) (hphase : s.phase = .running ∨ s.phase = .closing) :
      Effect s (.invoke index)
        { s with thread := .invoked handler, handlers := s.handlers.eraseIdx index }
  | entered {elapsed : UInt8 → Nat} {handler : IoHandler} (hthread : s.thread = .invoked handler) :
      Effect s (.enter elapsed) (s.runHandler elapsed handler)
  | served {t : SchedulerRun} (hserve : s.serve = some t) : Effect s .serve t
  | rehashed {endpoints : List (UInt8 × EndpointState)} (hperm : s.endpoints.Perm endpoints) :
      Effect s (.rehash endpoints) { s with endpoints }

theorem effect_of_step {s t : SchedulerRun} {a : SchedulerAction} (h : s.step a = some t) :
    Effect s a t := by
  cases a with
  | tick now =>
      obtain ⟨hnow, rfl⟩ := by simpa [step] using h
      exact .ticked hnow
  | start =>
      cases hphase : s.phase with
      | running =>
          obtain rfl := by simpa [step, hphase] using h
          exact .again (.inl rfl)
      | stopped =>
          obtain rfl := by simpa [step, hphase] using h
          exact .started hphase
      | _ => simp [step, hphase] at h
  | stop =>
      cases hphase : s.phase with
      | running =>
          obtain rfl := by simpa [step, hphase] using h
          exact .stopped hphase
      | stopped =>
          obtain rfl := by simpa [step, hphase] using h
          exact .again (.inr rfl)
      | _ => simp [step, hphase] at h
  | stopContext =>
      obtain ⟨hphase, rfl⟩ := by simpa [step] using h
      exact .contextStopped hphase
  | join =>
      obtain ⟨⟨hphase, hthread⟩, rfl⟩ := by simpa [step] using h
      exact .joined hphase hthread
  | submitProcessor ep type dataDuration seqnum =>
      obtain rfl := by simpa [step] using h
      unfold submitProcessor
      split
      next => exact .express rfl
      next htype => exact .queuedProcessor htype
  | submitReady ep type interval numIsoPackets seqnum dataDuration =>
      obtain rfl := by simpa [step] using h
      unfold submitReady
      split
      next => exact .express rfl
      next htype => exact .queuedReady htype
  | onUrbDone ep seqnum =>
      obtain rfl := by simpa [step] using h
      exact .reported
  | cancel seqnum =>
      obtain rfl := by simpa [step] using h
      exact .cancelled
  | expire =>
      obtain ⟨⟨hwaiting, hexpiry⟩, rfl⟩ := by simpa [step] using h
      exact .expired hwaiting hexpiry
  | invoke index =>
      cases hhandler : s.handlers[index]? with
      | none => simp [step, hhandler] at h
      | some handler =>
          obtain ⟨⟨hthread, hphase⟩, rfl⟩ := by simpa [step, hhandler] using h
          exact .invoked hhandler hthread hphase
  | enter elapsed =>
      cases hthread : s.thread with
      | invoked handler =>
          obtain rfl := by simpa [step, hthread] using h
          exact .entered hthread
      | _ => simp [step, hthread] at h
  | serve => exact .served h
  | rehash endpoints =>
      obtain ⟨hperm, rfl⟩ := by simpa [step] using h
      exact .rehashed hperm

/-- `urb` is what `cancel` takes out of the queue of `ep`, from behind `before`. -/
structure Cancels (s : SchedulerRun) (seqnum : UInt32) (ep : UInt8) (before : List PendingUrb)
    (urb : PendingUrb) (after : List PendingUrb) : Prop where
  target : cancelTarget seqnum s.endpoints = some (ep, urb)
  queue : (s.state ep).queue = before ++ urb :: after
  named : urb.seqnum = seqnum
  first : ∀ other ∈ before, other.seqnum ≠ seqnum

/-- Everything that `cancel` can do. -/
theorem cancel_cases {s : SchedulerRun} (seqnum : UInt32)
    (hdistinct : Distinct Prod.fst s.endpoints) :
    (cancelIn s.clock seqnum s.endpoints = none ∧ s.cancel seqnum = s) ∨
    ∃ ep before urb after, Cancels s seqnum ep before urb after ∧
      s.cancel seqnum = { s with endpoints := (s.cancel seqnum).endpoints,
                                 cancelled := s.cancelled ++ [(ep, urb.number)] } ∧
      Distinct Prod.fst (s.cancel seqnum).endpoints ∧
      ∀ ep', (s.cancel seqnum).state ep' =
        if ep' = ep then (s.state ep).withoutUrb s.clock before urb after else s.state ep' := by
  cases hcancel : cancelIn s.clock seqnum s.endpoints with
  | none => exact .inl ⟨rfl, by rw [cancel, hcancel]⟩
  | some endpoints =>
      obtain ⟨passed, ep, state, state', rest, before, urb, after, hendpoints, rfl, -, -, hqueue,
        hseqnum, hbefore, rfl, htarget⟩ := cancelIn_eq_some hcancel
      have hcancelled : s.cancel seqnum =
          { s with endpoints := passed ++ (ep, state.withoutUrb s.clock before urb after) :: rest,
                   cancelled := s.cancelled ++ [(ep, urb.number)] } := by
        rw [cancel, hcancel, htarget]
      rw [hendpoints] at hdistinct
      have hvalue : s.state ep = state := by
        rw [SchedulerRun.state, hendpoints]
        exact valueOf_of_mem hdistinct (by simp) _
      refine .inr ⟨ep, before, urb, after, ⟨htarget, hvalue ▸ hqueue, hseqnum, hbefore⟩, ?_, ?_,
        fun ep' => ?_⟩
      · rw [hcancelled]
      · rw [hcancelled]
        exact distinct_replace hdistinct
      · rw [hcancelled, hvalue, SchedulerRun.state, SchedulerRun.state,
          valueOf_replace _ hdistinct, ← hendpoints]

section Cancels

variable {s : SchedulerRun} {seqnum : UInt32} {ep : UInt8} {urb : PendingUrb}
  {before after : List PendingUrb}

theorem Cancels.before_eq (h : Cancels s seqnum ep before urb after) :
    before = (s.state ep).queue.takeWhile (·.seqnum != seqnum) := by
  have hbefore : ∀ other ∈ before, (other.seqnum != seqnum) = true := fun other hmem => by
    simpa using h.first other hmem
  rw [h.queue, List.takeWhile_append_of_pos hbefore, List.takeWhile_cons_of_neg (by simp [h.named]),
    List.append_nil]

/-- What `cancel` does where its search finds a URB. -/
theorem Cancels.state_eq (h : Cancels s seqnum ep before urb after)
    (hdistinct : Distinct Prod.fst s.endpoints) (ep' : UInt8) :
    (s.cancel seqnum).state ep' =
      if ep' = ep then (s.state ep).withoutUrb s.clock before urb after else s.state ep' := by
  rcases cancel_cases seqnum hdistinct with ⟨hnone, -⟩ |
    ⟨ep'', before', urb', after', hcancels, -, -, hstate⟩
  · have htarget := h.target
    rw [cancelTarget_eq_none hnone] at htarget
    cases htarget
  · have htarget : (ep'', urb') = (ep, urb) :=
      Option.some.inj (hcancels.target.symm.trans h.target)
    obtain ⟨rfl, rfl⟩ := Prod.mk.inj htarget
    obtain rfl : before = before' := h.before_eq.trans hcancels.before_eq.symm
    have hqueue := h.queue.symm.trans hcancels.queue
    obtain rfl : after = after' := (List.cons.inj (List.append_cancel_left hqueue)).2
    exact hstate ep'

end Cancels

theorem rehash_state {s : SchedulerRun} {endpoints : List (UInt8 × EndpointState)}
    (hdistinct : Distinct Prod.fst s.endpoints) (hperm : s.endpoints.Perm endpoints) (ep : UInt8) :
    { s with endpoints }.state ep = s.state ep :=
  valueOf_perm hdistinct hperm _

/-- The action may report a URB as done. -/
def reports : SchedulerAction → Bool
  | .onUrbDone _ _ | .serve => true
  | _ => false

/-- The report that `onUrbDone` gets is for the URB that is being processed. -/
def Reports (s : SchedulerRun) (ep : UInt8) (seqnum : UInt32) : Prop :=
  s.started = true ∧ (s.state ep).processing = true ∧ (s.state ep).processingSeqnum = seqnum

/-- Everything that `onUrbDone` can do to the queues. -/
theorem onUrbDone_cases (s : SchedulerRun) (ep : UInt8) (seqnum : UInt32) :
    (¬ Reports s ep seqnum ∧ s.onUrbDone ep seqnum = s) ∨
    (Reports s ep seqnum ∧ (s.onUrbDone ep seqnum).endpoints =
      upsert ep { s.state ep with processing := false, processingSeqnum := 0 } s.endpoints) := by
  unfold Reports onUrbDone
  split
  next hstarted => exact .inl ⟨by simp [hstarted], rfl⟩
  next hstarted =>
    split
    next hmatch => exact .inl ⟨by rcases hmatch with h | h <;> simp [h], rfl⟩
    next hmatch =>
      obtain ⟨hprocessing, hseqnum⟩ : (s.state ep).processing = true ∧
          (s.state ep).processingSeqnum = seqnum := by simpa using hmatch
      refine .inr ⟨⟨Bool.eq_true_of_not_eq_false hstarted, hprocessing, hseqnum⟩, ?_⟩
      dsimp only
      split <;> simp

/-- What an action may leave of the state of one endpoint. -/
inductive EndpointStep (s : SchedulerRun) (ep : UInt8) : SchedulerAction → EndpointState → Prop
  | same {a : SchedulerAction} : EndpointStep s ep a (s.state ep)
  | push {a : SchedulerAction} (urb : PendingUrb) (ha : submits a = true)
      (htime : urb.serviceTime = 0) : EndpointStep s ep a ((s.state ep).push s.clock urb).2
  | release {a : SchedulerAction} (ha : reports a = true) :
      EndpointStep s ep a { s.state ep with processing := false, processingSeqnum := 0 }
  | cancel {seqnum : UInt32} {before after : List PendingUrb} {urb : PendingUrb}
      (hcancels : Cancels s seqnum ep before urb after) :
      EndpointStep s ep (.cancel seqnum) ((s.state ep).withoutUrb s.clock before urb after)
  | take {elapsed : UInt8 → Nat} {state' : EndpointState} {urb : PendingUrb}
      (htake : (s.state ep).takeDue s.clock (s.clock + elapsed ep) = some (urb, state')) :
      EndpointStep s ep (.enter elapsed) state'
  | clear : EndpointStep s ep .stop .idle

/-- The keys stay distinct, and every endpoint makes a step of its own. -/
def EndpointsStep (s : SchedulerRun) (a : SchedulerAction) (t : SchedulerRun) : Prop :=
  Distinct Prod.fst t.endpoints ∧ ∀ ep, EndpointStep s ep a (t.state ep)

section EndpointsStep

variable {s t : SchedulerRun} {a : SchedulerAction}

theorem endpointsStep_of_eq (hdistinct : Distinct Prod.fst s.endpoints)
    (h : t.endpoints = s.endpoints) : EndpointsStep s a t := by
  refine ⟨h ▸ hdistinct, fun ep => ?_⟩
  have hstate : t.state ep = s.state ep := by rw [state, state, h]
  rw [hstate]
  exact .same

theorem endpointsStep_of_upsert {ep : UInt8} {state : EndpointState}
    (hdistinct : Distinct Prod.fst s.endpoints) (h : t.endpoints = upsert ep state s.endpoints)
    (hstep : EndpointStep s ep a state) : EndpointsStep s a t := by
  refine ⟨h ▸ distinct_upsert hdistinct, fun ep' => ?_⟩
  have hstate : t.state ep' = if ep' = ep then state else s.state ep' := by
    rw [SchedulerRun.state, h, valueOf_upsert, SchedulerRun.state]
  rw [hstate]
  split
  next heq => exact heq ▸ hstep
  next => exact .same

theorem endpointsStep_enqueue {ep : UInt8} {urb : PendingUrb} (ha : submits a = true)
    (htime : urb.serviceTime = 0) (hdistinct : Distinct Prod.fst s.endpoints) :
    EndpointsStep s a (s.enqueue ep urb) := by
  unfold enqueue
  split
  next =>
    have hendpoints : (if ((s.state ep).push s.clock urb).1 then
        { s with endpoints := upsert ep ((s.state ep).push s.clock urb).2 s.endpoints,
                 submissions := s.submissions + 1 }.kick
        else { s with endpoints := upsert ep ((s.state ep).push s.clock urb).2 s.endpoints,
                      submissions := s.submissions + 1 }).endpoints =
        upsert ep ((s.state ep).push s.clock urb).2 s.endpoints := by
      split <;> simp
    exact endpointsStep_of_upsert hdistinct hendpoints (.push urb ha htime)
  next => exact endpointsStep_of_eq hdistinct rfl

theorem endpointsStep_onUrbDone {ep : UInt8} {seqnum : UInt32} (ha : reports a = true)
    (hdistinct : Distinct Prod.fst s.endpoints) : EndpointsStep s a (s.onUrbDone ep seqnum) := by
  rcases onUrbDone_cases s ep seqnum with ⟨-, hsame⟩ | ⟨-, hendpoints⟩
  · exact endpointsStep_of_eq hdistinct (by rw [hsame])
  · exact endpointsStep_of_upsert hdistinct hendpoints (.release ha)

theorem endpointsStep_cancel (seqnum : UInt32) (hdistinct : Distinct Prod.fst s.endpoints) :
    EndpointsStep s (.cancel seqnum) (s.cancel seqnum) := by
  rcases cancel_cases seqnum hdistinct with ⟨-, hsame⟩ |
    ⟨ep, before, urb, after, hcancels, -, hkeys, hstate⟩
  · exact endpointsStep_of_eq hdistinct (by rw [hsame])
  · refine ⟨hkeys, fun ep' => ?_⟩
    rw [hstate]
    split
    next heq =>
      subst heq
      exact .cancel hcancels
    next => exact .same

theorem endpointsStep_onTimer {aborted : Bool} {elapsed : UInt8 → Nat}
    (hdistinct : Distinct Prod.fst s.endpoints) :
    EndpointsStep s (.enter elapsed) (s.onTimer aborted elapsed) := by
  rcases onTimer_cases elapsed aborted s with ⟨-, hreturn⟩ | ⟨-, hrun⟩
  · rw [hreturn]
    exact endpointsStep_of_eq hdistinct rfl
  · rw [hrun]
    constructor
    · simpa using distinct_withoutDue elapsed hdistinct
    · intro ep
      simp only [SchedulerRun.state, scheduleNext_endpoints, valueOf_withoutDue]
      unfold EndpointState.afterTimer
      cases htake : (valueOf EndpointState.idle ep s.endpoints).takeDue s.clock
        (s.clock + elapsed ep) with
      | none => exact .same
      | some taken => exact .take htake

theorem step_endpointsStep (hdistinct : Distinct Prod.fst s.endpoints) (h : s.step a = some t) :
    EndpointsStep s a t := by
  cases effect_of_step h with
  | stopped =>
      refine ⟨by simp [SchedulerRun.stop, Distinct], fun ep => ?_⟩
      have hstate : s.stop.state ep = .idle := by
        simp [SchedulerRun.stop, state, valueOf, lookup]
      rw [hstate]
      exact .clear
  | queuedProcessor => exact endpointsStep_enqueue rfl rfl hdistinct
  | queuedReady => exact endpointsStep_enqueue rfl rfl hdistinct
  | @reported ep seqnum =>
      rcases onUrbDone_cases { s with unreported := s.unreported.erase (ep, seqnum) } ep seqnum
        with ⟨-, hsame⟩ | ⟨-, hendpoints⟩
      · exact endpointsStep_of_eq hdistinct (by rw [hsame])
      · exact endpointsStep_of_upsert hdistinct hendpoints (.release rfl)
  | cancelled => exact endpointsStep_cancel _ hdistinct
  | @entered _ handler =>
      cases handler with
      | onTimer aborted => exact endpointsStep_onTimer hdistinct
      | scheduleOnThread =>
          refine endpointsStep_of_eq hdistinct ?_
          simp [runHandler]
  | served hserve =>
      rcases serve_cases hserve with ⟨-, rfl⟩ | ⟨ep, urb, due, -, -, rfl⟩ |
        ⟨ep, urb, due, -, -, rfl⟩ | ⟨ep, seqnum, due, -, rfl⟩
      · exact endpointsStep_of_eq hdistinct rfl
      · exact endpointsStep_of_eq hdistinct rfl
      · exact endpointsStep_of_eq hdistinct rfl
      · exact endpointsStep_onUrbDone rfl hdistinct
  | rehashed hperm =>
      refine ⟨(hperm.map Prod.fst).nodup_iff.mp hdistinct, fun ep => ?_⟩
      rw [rehash_state hdistinct hperm]
      exact .same
  -- the other steps do not touch the endpoints
  | _ => exact endpointsStep_of_eq hdistinct rfl

end EndpointsStep

end SchedulerRun

end Usbipdcpp.VirtualDevice
