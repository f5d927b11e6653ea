import Usbipdcpp.VirtualDevice.InEndpointChannelBase

namespace Usbipdcpp.VirtualDevice

open Foundation.TransitionSystem InEndpointChannelBase

structure MessageBuffer where
  pending : List (List UInt8)
  maxPending : Nat
  deriving DecidableEq, Repr

namespace MessageBuffer

def full (buffer : MessageBuffer) : Bool :=
  buffer.maxPending != 0 && buffer.maxPending ≤ buffer.pending.length

/-- The oldest message gives way when the buffer is full. -/
def pushLocked (data : List UInt8) (buffer : MessageBuffer) : MessageBuffer :=
  { buffer with
    pending := (if buffer.full then buffer.pending.tail else buffer.pending) ++ [data] }

def popFront (buffer : MessageBuffer) : List (List UInt8) × MessageBuffer :=
  (buffer.pending.take 1, { buffer with pending := buffer.pending.tail })

theorem popFront_append (buffer : MessageBuffer) :
    buffer.popFront.1 ++ buffer.popFront.2.pending = buffer.pending := by
  unfold popFront
  cases buffer.pending <;> rfl

theorem sublist_pushLocked (data : List UInt8) (buffer : MessageBuffer) :
    (buffer.pushLocked data).pending.Sublist (buffer.pending ++ [data]) := by
  refine List.Sublist.append_right ?_ [data]
  split
  · exact List.tail_sublist _
  · exact List.Sublist.refl _

end MessageBuffer

/-- Where a call to `push_blocking` is: at the lock for the first time, waiting for the oldest
message to be taken, or back with its result. -/
inductive PushPc where
  | pushing
  | waiting
  | returned (pushed : Bool)
  deriving DecidableEq, Repr

def PushPc.done : PushPc → Bool
  | .returned _ => true
  | _ => false

/-- A call to `push` or `push_blocking`, with the connection that it began in. -/
structure PushCall where
  message : List UInt8
  timeoutMs : UInt32
  pc : PushPc
  began : Option Nat
  deriving DecidableEq, Repr

structure MessageInChannel (Handler : Type) where
  channel : InEndpointChannelBase MessageBuffer (List UInt8) Handler
  calls : List PushCall

/-- The critical sections of the channel's operations.  A call to `push_blocking` that waits is
woken at any time, and with `timedOut` when its timeout has passed. -/
inductive MessageAction (Handler : Type) where
  | base (a : ChannelAction Handler)
  | setMaxPendingMessages (maxPending : Nat)
  | push (data : List UInt8) (dropOldest : Bool)
  | pushBlocking (data : List UInt8) (timeoutMs : UInt32)
  | lock (index : Nat)
  | wake (index : Nat) (timedOut : Bool)

namespace MessageInChannel

/-- A message is taken whole, and cut to the length of the request. -/
def derived : Derived MessageBuffer (List UInt8) where
  bufferEmpty buffer := buffer.pending.isEmpty
  bufferClear buffer := { buffer with pending := [] }
  take _ buffer := buffer.popFront
  payload length taken := taken.flatMap fun front => front.take (min front.length length.toNat)
  tryPullData _ := []
  sendPulled length pulled buffer :=
    let taken := (buffer.pushLocked pulled).popFront
    { data := taken.1.flatMap fun front => front.take (min front.length length.toNat)
      put := [pulled]
      taken := taken.1
      buffer := taken.2 }
  contents := MessageBuffer.pending
  bufferEmpty_iff _ := List.isEmpty_iff
  contents_bufferClear _ := rfl
  contents_take _ := MessageBuffer.popFront_append
  contents_sendPulled _ pulled buffer := by
    dsimp only
    rw [MessageBuffer.popFront_append]
    exact buffer.sublist_pushLocked pulled

variable {Handler : Type}

def create : MessageInChannel Handler where
  channel := .create { pending := [], maxPending := 0 }
  calls := []

def setPc (index : Nat) (pc : PushPc) (s : MessageInChannel Handler) : MessageInChannel Handler :=
  { s with calls := s.calls.modify index fun call => { call with pc } }

/-- The push of a message, and the answers that it makes possible. -/
def deliver (index : Nat) (message : List UInt8)
    (channel : InEndpointChannelBase MessageBuffer (List UInt8) Handler) :
    InEndpointChannelBase MessageBuffer (List UInt8) Handler :=
  trySendPendingLocked derived
    (channel.put index [message] (channel.buffer.pushLocked message))

def push (data : List UInt8) (dropOldest : Bool) (s : MessageInChannel Handler) :
    MessageInChannel Handler :=
  let call : PushCall :=
    { message := data, timeoutMs := 0, pc := .returned false, began := s.channel.current }
  if s.channel.disconnected then { s with calls := s.calls ++ [call] }
  else if dropOldest = false ∧ s.channel.buffer.full then { s with calls := s.calls ++ [call] }
  else
    { channel := deliver s.calls.length data s.channel
      calls := s.calls ++ [{ call with pc := .returned true }] }

def pushBlocking (data : List UInt8) (timeoutMs : UInt32) (s : MessageInChannel Handler) :
    MessageInChannel Handler :=
  { s with
    calls := s.calls ++
      [{ message := data, timeoutMs, pc := .pushing, began := s.channel.current }] }

/-- What `push_blocking` does once it has the lock. -/
def locked (index : Nat) (message : List UInt8) (timedOut : Bool) (s : MessageInChannel Handler) :
    MessageInChannel Handler :=
  if s.channel.buffer.full = true ∧ s.channel.disconnected = false ∧ timedOut = false then
    s.setPc index .waiting
  else if s.channel.disconnected then s.setPc index (.returned false)
  else if s.channel.buffer.full then s.setPc index (.returned false)
  else { s.setPc index (.returned true) with channel := deliver index message s.channel }

variable [DecidableEq Handler]

def step (s : MessageInChannel Handler) :
    MessageAction Handler → Option (MessageInChannel Handler)
  | .base a => (s.channel.step derived a).map fun channel => { s with channel }
  | .setMaxPendingMessages maxPending =>
      some { s with channel.buffer.maxPending := maxPending }
  | .push data dropOldest => some (s.push data dropOldest)
  | .pushBlocking data timeoutMs => some (s.pushBlocking data timeoutMs)
  | .lock index =>
      match s.calls[index]? with
      | some call => if call.pc = .pushing then some (s.locked index call.message false) else none
      | none => none
  | .wake index timedOut =>
      match s.calls[index]? with
      | some call =>
          if call.pc = .waiting ∧ (timedOut = true → call.timeoutMs ≠ 0) then
            some (s.locked index call.message timedOut)
          else none
      | none => none

/-- What a step does to the channel and to the calls. -/
inductive Effect (s : MessageInChannel Handler) :
    MessageAction Handler → MessageInChannel Handler → Prop
  | base {b : ChannelAction Handler}
      {channel : InEndpointChannelBase MessageBuffer (List UInt8) Handler}
      (hstep : s.channel.step derived b = some channel) : Effect s (.base b) { s with channel }
  | limited (maxPending : Nat) :
      Effect s (.setMaxPendingMessages maxPending)
        { s with channel.buffer.maxPending := maxPending }
  | opened {a : MessageAction Handler} {call : PushCall}
      (hbegan : call.began = s.channel.current) :
      Effect s a { s with calls := s.calls ++ [call] }
  | pushed {a : MessageAction Handler} {call : PushCall}
      (hconnected : s.channel.disconnected = false) (hbegan : call.began = s.channel.current) :
      Effect s a { channel := deliver s.calls.length call.message s.channel,
                   calls := s.calls ++ [call] }
  | moved {a : MessageAction Handler} {index : Nat} {call : PushCall} (pc : PushPc)
      (hcall : s.calls[index]? = some call)
      (hopen : call.pc.done = false) : Effect s a (s.setPc index pc)
  | delivered {a : MessageAction Handler} {index : Nat} {call : PushCall}
      (hcall : s.calls[index]? = some call) (hopen : call.pc.done = false)
      (hconnected : s.channel.disconnected = false) :
      Effect s a { s.setPc index (.returned true) with
                   channel := deliver index call.message s.channel }

theorem effect_push (data : List UInt8) (dropOldest : Bool) (s : MessageInChannel Handler) :
    Effect s (.push data dropOldest) (s.push data dropOldest) := by
  unfold push
  dsimp only
  split
  next => exact .opened rfl
  next hconnected =>
    split
    next => exact .opened rfl
    next =>
      exact @Effect.pushed _ _ s _
        { message := data, timeoutMs := 0, pc := .returned true, began := s.channel.current }
        (by simpa using hconnected) rfl

theorem effect_locked {a : MessageAction Handler} {index : Nat} {call : PushCall}
    {s : MessageInChannel Handler} (hcall : s.calls[index]? = some call)
    (hopen : call.pc.done = false) (timedOut : Bool) :
    Effect s a (s.locked index call.message timedOut) := by
  unfold locked
  split
  next => exact .moved _ hcall hopen
  next =>
    split
    next => exact .moved _ hcall hopen
    next hconnected =>
      split
      next => exact .moved _ hcall hopen
      next => exact .delivered hcall hopen (by simpa using hconnected)

theorem effect_of_step {s t : MessageInChannel Handler} {a : MessageAction Handler}
    (h : s.step a = some t) : Effect s a t := by
  cases a with
  | base b =>
      obtain ⟨channel, hchannel, rfl⟩ := Option.map_eq_some_iff.mp h
      exact .base hchannel
  | setMaxPendingMessages maxPending =>
      obtain rfl := by simpa [step] using h
      exact .limited maxPending
  | push data dropOldest =>
      obtain rfl := by simpa [step] using h
      exact effect_push data dropOldest s
  | pushBlocking data timeoutMs =>
      obtain rfl := by simpa [step] using h
      exact .opened rfl
  | lock index =>
      cases hcall : s.calls[index]? with
      | none => simp [step, hcall] at h
      | some call =>
          obtain ⟨hpc, rfl⟩ := by simpa [step, hcall] using h
          exact effect_locked hcall (by rw [hpc]; rfl) false
  | wake index timedOut =>
      cases hcall : s.calls[index]? with
      | none => simp [step, hcall] at h
      | some call =>
          obtain ⟨⟨hpc, -⟩, rfl⟩ := by simpa [step, hcall] using h
          exact effect_locked hcall (by rw [hpc]; rfl) timedOut

def system : System (MessageInChannel Handler) (MessageAction Handler) where
  initial s := s = create
  step := step

end MessageInChannel

end Usbipdcpp.VirtualDevice
