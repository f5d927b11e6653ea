import Usbipdcpp.Utils.RingBuffer
import Usbipdcpp.VirtualDevice.InEndpointChannelBase

namespace Usbipdcpp.VirtualDevice

open Foundation.TransitionSystem InEndpointChannelBase Utils

/-- Where a call to `write` is: before the first phase of a round, waiting in it for space,
between the two phases, or back. -/
inductive WritePc where
  | filling
  | waiting
  | filled
  | returned
  deriving DecidableEq, Repr

/-- A call to `write` or `write_nb`.  `total` is what it has written so far, and what it reports
when it returns; `began` is the connection that it began in, and `carried` what it had written
before the latest connection. -/
structure WriteCall where
  data : List UInt8
  timeoutMs : UInt32
  total : Nat
  pc : WritePc
  began : Option Nat
  carried : Nat
  deriving DecidableEq, Repr

structure ByteStreamInChannel (Handler : Type) where
  channel : InEndpointChannelBase ByteBuffer UInt8 Handler
  calls : List WriteCall

/-- The critical sections of the channel's operations; `fill` and `sendPending` are the two
phases of a round of `write`.  A call that waits is woken at any time, and with `timedOut` when
its timeout has passed. -/
inductive ByteStreamAction (Handler : Type) where
  | base (a : ChannelAction Handler)
  | setCapacity (capacity : Nat)
  | writeNb (data : List UInt8)
  | write (data : List UInt8) (timeoutMs : UInt32)
  | fill (index : Nat)
  | wake (index : Nat) (timedOut : Bool)
  | sendPending (index : Nat)

namespace ByteStreamInChannel

def takeBytes (length : UInt32) (buffer : ByteBuffer) : List UInt8 × ByteBuffer :=
  buffer.read (min buffer.size length.toNat)

/-- The pulled data answers the request, and what is left over goes into the buffer. -/
def sendPulled (length : UInt32) (pulled : List UInt8) (buffer : ByteBuffer) :
    PulledData ByteBuffer UInt8 :=
  let sendLen := min pulled.length length.toNat
  let written := buffer.write (pulled.drop sendLen)
  { data := pulled.take sendLen
    put := (pulled.drop sendLen).take written.1
    taken := []
    buffer := if sendLen < pulled.length then written.2 else buffer }

theorem takeBytes_append (length : UInt32) (buffer : ByteBuffer) :
    (takeBytes length buffer).1 ++ (takeBytes length buffer).2.contents = buffer.contents := by
  rw [takeBytes, (buffer.contents_read _).1, (buffer.contents_read _).2, List.take_append_drop]

theorem contents_sendPulled (length : UInt32) (pulled : List UInt8) (buffer : ByteBuffer) :
    (sendPulled length pulled buffer).buffer.contents =
      buffer.contents ++ (sendPulled length pulled buffer).put := by
  unfold sendPulled
  dsimp only
  split
  next => exact buffer.contents_write _
  next hnone => simp [List.drop_of_length_le (Nat.le_of_not_lt hnone)]

/-- As many bytes are taken as the request asks for. -/
def derived : Derived ByteBuffer UInt8 where
  bufferEmpty := ByteBuffer.empty
  bufferClear := ByteBuffer.clear
  take := takeBytes
  payload _ taken := taken
  tryPullData pulled := pulled
  sendPulled := sendPulled
  contents := ByteBuffer.contents
  bufferEmpty_iff := ByteBuffer.empty_iff
  contents_bufferClear := ByteBuffer.contents_clear
  contents_take := takeBytes_append
  contents_sendPulled length pulled buffer := by
    rw [contents_sendPulled]
    exact List.Sublist.refl _

variable {Handler : Type}

def create (capacity : Nat) : ByteStreamInChannel Handler where
  channel := .create (.create capacity)
  calls := []

def setPc (index : Nat) (pc : WritePc) (s : ByteStreamInChannel Handler) :
    ByteStreamInChannel Handler :=
  { s with calls := s.calls.modify index fun call => { call with pc } }

def writeNb (data : List UInt8) (s : ByteStreamInChannel Handler) : ByteStreamInChannel Handler :=
  let call : WriteCall :=
    { data, timeoutMs := 0, total := 0, pc := .returned, began := s.channel.current, carried := 0 }
  if s.channel.disconnected then { s with calls := s.calls ++ [call] }
  else
    let written := s.channel.buffer.write data
    { channel := trySendPendingLocked derived
        (s.channel.put s.calls.length (data.take written.1) written.2)
      calls := s.calls ++ [{ call with total := written.1 }] }

/-- The loop of `write` has no round when there is nothing to write. -/
def write (data : List UInt8) (timeoutMs : UInt32) (s : ByteStreamInChannel Handler) :
    ByteStreamInChannel Handler :=
  { s with
    calls := s.calls ++
      [{ data, timeoutMs, total := 0, pc := if data = [] then .returned else .filling,
         began := s.channel.current, carried := 0 }] }

/-- The end of the first phase, when there is space. -/
def store (index : Nat) (call : WriteCall) (s : ByteStreamInChannel Handler) :
    ByteStreamInChannel Handler :=
  let rest := call.data.drop call.total
  let written := s.channel.buffer.write rest
  { channel := s.channel.put index (rest.take written.1) written.2
    calls := s.calls.modify index fun call =>
      { call with total := call.total + written.1, pc := .filled } }

def fill (index : Nat) (call : WriteCall) (s : ByteStreamInChannel Handler) :
    ByteStreamInChannel Handler :=
  if s.channel.disconnected then s.setPc index .returned
  else if s.channel.buffer.available = 0 then
    let s := { s with channel := trySendPendingLocked derived s.channel }
    if s.channel.buffer.available = 0 then s.setPc index .waiting else s.store index call
  else s.store index call

/-- What `write` does once it has the lock again. -/
def woken (index : Nat) (call : WriteCall) (timedOut : Bool) (s : ByteStreamInChannel Handler) :
    ByteStreamInChannel Handler :=
  if s.channel.buffer.available = 0 ∧ s.channel.disconnected = false ∧ timedOut = false then
    s.setPc index .waiting
  else if s.channel.disconnected then s.setPc index .returned
  else if s.channel.buffer.available = 0 then s.setPc index .returned
  else s.store index call

/-- The second phase, and the condition of the loop. -/
def sendPending (index : Nat) (call : WriteCall) (s : ByteStreamInChannel Handler) :
    ByteStreamInChannel Handler :=
  { s.setPc index (if call.total < call.data.length then .filling else .returned) with
    channel := trySendPendingLocked derived s.channel }

/-- A new connection, at which every call has written what it has written. -/
def carry (s : ByteStreamInChannel Handler) : ByteStreamInChannel Handler :=
  { s with calls := s.calls.map fun call => { call with carried := call.total } }

variable [DecidableEq Handler]

def step (s : ByteStreamInChannel Handler) :
    ByteStreamAction Handler → Option (ByteStreamInChannel Handler)
  | .base .onNewConnection =>
      some { s.carry with channel := s.channel.onNewConnection derived }
  | .base a => (s.channel.step derived a).map fun channel => { s with channel }
  | .setCapacity capacity =>
      some { s with channel.buffer := s.channel.buffer.resize capacity }
  | .writeNb data => some (s.writeNb data)
  | .write data timeoutMs => some (s.write data timeoutMs)
  | .fill index =>
      match s.calls[index]? with
      | some call => if call.pc = .filling then some (s.fill index call) else none
      | none => none
  | .wake index timedOut =>
      match s.calls[index]? with
      | some call =>
          if call.pc = .waiting ∧ (timedOut = true → call.timeoutMs ≠ 0) then
            some (s.woken index call timedOut)
          else none
      | none => none
  | .sendPending index =>
      match s.calls[index]? with
      | some call => if call.pc = .filled then some (s.sendPending index call) else none
      | none => none

/-- A call in its first phase. -/
def WritePc.Open (pc : WritePc) : Prop := pc = .filling ∨ pc = .waiting

/-- What a step does to the channel and to the calls. -/
inductive Effect (s : ByteStreamInChannel Handler) :
    ByteStreamAction Handler → ByteStreamInChannel Handler → Prop
  | base {b : ChannelAction Handler} {channel : InEndpointChannelBase ByteBuffer UInt8 Handler}
      (hb : b ≠ .onNewConnection) (hstep : s.channel.step derived b = some channel) :
      Effect s (.base b) { s with channel }
  | connected :
      Effect s (.base .onNewConnection)
        { s.carry with channel := s.channel.onNewConnection derived }
  | resized (capacity : Nat) :
      Effect s (.setCapacity capacity)
        { s with channel.buffer := s.channel.buffer.resize capacity }
  | opened {a : ByteStreamAction Handler} {call : WriteCall}
      (hbegan : call.began = s.channel.current) (htotal : call.total = 0)
      (hcarried : call.carried = 0) (hpc : call.pc ≠ .filled) :
      Effect s a { s with calls := s.calls ++ [call] }
  | written (data : List UInt8) (hconnected : s.channel.disconnected = false) :
      Effect s (.writeNb data)
        { channel := trySendPendingLocked derived
            (s.channel.put s.calls.length (data.take (s.channel.buffer.write data).1)
              (s.channel.buffer.write data).2)
          calls := s.calls ++
            [{ data, timeoutMs := 0, total := (s.channel.buffer.write data).1, pc := .returned,
               began := s.channel.current, carried := 0 }] }
  | moved {a : ByteStreamAction Handler} {index : Nat} {call : WriteCall}
      {channel : InEndpointChannelBase ByteBuffer UInt8 Handler} {pc : WritePc}
      (hcall : s.calls[index]? = some call) (hopen : WritePc.Open call.pc)
      (hpc : pc = .waiting ∨ pc = .returned)
      (hchannel : channel = s.channel ∨ channel = trySendPendingLocked derived s.channel) :
      Effect s a { s.setPc index pc with channel }
  | stored {a : ByteStreamAction Handler} {index : Nat} {call : WriteCall}
      {channel : InEndpointChannelBase ByteBuffer UInt8 Handler}
      (hcall : s.calls[index]? = some call) (hopen : WritePc.Open call.pc)
      (hconnected : s.channel.disconnected = false)
      (hchannel : channel = s.channel ∨ channel = trySendPendingLocked derived s.channel) :
      Effect s a (store index call { s with channel })
  | sent {a : ByteStreamAction Handler} {index : Nat} {call : WriteCall}
      (hcall : s.calls[index]? = some call) (hpc : call.pc = .filled) :
      Effect s a (s.sendPending index call)

theorem effect_writeNb (data : List UInt8) (s : ByteStreamInChannel Handler) :
    Effect s (.writeNb data) (s.writeNb data) := by
  unfold writeNb
  dsimp only
  split
  next => exact .opened rfl rfl rfl (by simp)
  next hconnected => exact .written data (by simpa using hconnected)

theorem effect_fill {a : ByteStreamAction Handler} {index : Nat} {call : WriteCall}
    {s : ByteStreamInChannel Handler} (hcall : s.calls[index]? = some call)
    (hopen : WritePc.Open call.pc) : Effect s a (s.fill index call) := by
  unfold fill
  split
  next => exact .moved hcall hopen (Or.inr rfl) (Or.inl rfl)
  next hconnected =>
    have hconnected' : s.channel.disconnected = false := by simpa using hconnected
    split
    next =>
      dsimp only
      split
      next => exact .moved hcall hopen (Or.inl rfl) (Or.inr rfl)
      next => exact .stored hcall hopen hconnected' (Or.inr rfl)
    next => exact .stored hcall hopen hconnected' (Or.inl rfl)

theorem effect_woken {a : ByteStreamAction Handler} {index : Nat} {call : WriteCall}
    {s : ByteStreamInChannel Handler} (hcall : s.calls[index]? = some call)
    (hopen : WritePc.Open call.pc) (timedOut : Bool) :
    Effect s a (s.woken index call timedOut) := by
  unfold woken
  split
  next => exact .moved hcall hopen (Or.inl rfl) (Or.inl rfl)
  next =>
    split
    next => exact .moved hcall hopen (Or.inr rfl) (Or.inl rfl)
    next hconnected =>
      split
      next => exact .moved hcall hopen (Or.inr rfl) (Or.inl rfl)
      next => exact .stored hcall hopen (by simpa using hconnected) (Or.inl rfl)

theorem effect_of_step {s t : ByteStreamInChannel Handler} {a : ByteStreamAction Handler}
    (h : s.step a = some t) : Effect s a t := by
  cases a with
  | base b =>
      by_cases hb : b = .onNewConnection
      · subst hb
        obtain rfl := by simpa [step] using h
        exact .connected
      · have hbase : (s.channel.step derived b).map (fun channel => { s with channel }) =
            some t := by
          unfold step at h
          split at h <;> simp_all
        obtain ⟨channel, hchannel, rfl⟩ := Option.map_eq_some_iff.mp hbase
        exact .base hb hchannel
  | setCapacity capacity =>
      obtain rfl := by simpa [step] using h
      exact .resized capacity
  | writeNb data =>
      obtain rfl := by simpa [step] using h
      exact effect_writeNb data s
  | write data timeoutMs =>
      obtain rfl := by simpa [step] using h
      refine .opened rfl rfl rfl ?_
      dsimp only
      split <;> simp
  | fill index =>
      cases hcall : s.calls[index]? with
      | none => simp [step, hcall] at h
      | some call =>
          obtain ⟨hpc, rfl⟩ := by simpa [step, hcall] using h
          exact effect_fill hcall (Or.inl hpc)
  | wake index timedOut =>
      cases hcall : s.calls[index]? with
      | none => simp [step, hcall] at h
      | some call =>
          obtain ⟨⟨hpc, -⟩, rfl⟩ := by simpa [step, hcall] using h
          exact effect_woken hcall (Or.inr hpc) timedOut
  | sendPending index =>
      cases hcall : s.calls[index]? with
      | none => simp [step, hcall] at h
      | some call =>
          obtain ⟨hpc, rfl⟩ := by simpa [step, hcall] using h
          exact .sent hcall hpc

/-- A channel may be given any capacity. -/
def system : System (ByteStreamInChannel Handler) (ByteStreamAction Handler) where
  initial s := ∃ capacity, s = create capacity
  step := step

end ByteStreamInChannel

end Usbipdcpp.VirtualDevice
