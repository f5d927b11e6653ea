import Usbipdcpp.Foundation.KeyedQueues
import Usbipdcpp.Foundation.TransitionSystem
import Usbipdcpp.VirtualDevice.Unlink

namespace Usbipdcpp.VirtualDevice

open Foundation.FifoLedger Foundation.KeyedList Foundation.KeyedQueues Protocol

/-- A request with the transfer of its handle, whose operator is a generic one: the others take
no part in these channels.  The request is known by the number of requests that its channel has
accepted before it. -/
structure ChannelRequest (Handler : Type) extends Request where
  owner : Option Handler
  transfer : GenericTransfer
  number : Nat
  deriving DecidableEq, Repr

/-- The transfer that is allocated for an IN request without packets. -/
def inTransfer (length : Nat) : GenericTransfer where
  data := .replicate length 0
  isoDescriptors := []
  actualLength := 0
  dataOffset := 0
  isIn := true

/-- A reply that a channel has submitted, with what it took out of the buffer. -/
structure ChannelReply (Item Handler : Type) where
  ep : UInt8
  number : Nat
  taken : List Item
  ret : UsbIpRetSubmit Handler

/-- The data that a reply brings to the client. -/
def ChannelReply.payload {Item Handler : Type} (reply : ChannelReply Item Handler) : List UInt8 :=
  match reply.ret.transfer with
  | some (.generic _ trx) => trx.data.take reply.ret.actualLength.toNat
  | _ => []

/-- What `send_pulled_locked` does: the data that it replies with, the items that it puts into
the buffer, those that it takes out of it, and the buffer that is left. -/
structure PulledData (Buffer Item : Type) where
  data : List UInt8
  put : List Item
  taken : List Item
  buffer : Buffer

/-- What a derived class adds to the base class.  `take` is what `try_send_one` takes out of the
buffer for a request of some length, and `payload` the data it makes of that; `tryPullData` is
applied to what a pull callback returns.  The items of a buffer are its contents, the oldest
first. -/
structure Derived (Buffer Item : Type) where
  bufferEmpty : Buffer → Bool
  bufferClear : Buffer → Buffer
  take : UInt32 → Buffer → List Item × Buffer
  payload : UInt32 → List Item → List UInt8
  tryPullData : List UInt8 → List UInt8
  sendPulled : UInt32 → List UInt8 → Buffer → PulledData Buffer Item
  contents : Buffer → List Item
  bufferEmpty_iff : ∀ buffer, bufferEmpty buffer = true ↔ contents buffer = []
  contents_bufferClear : ∀ buffer, contents (bufferClear buffer) = []
  contents_take : ∀ length buffer,
    (take length buffer).1 ++ contents (take length buffer).2 = contents buffer
  contents_sendPulled : ∀ length pulled buffer,
    ((sendPulled length pulled buffer).taken ++
      contents (sendPulled length pulled buffer).buffer).Sublist
        (contents buffer ++ (sendPulled length pulled buffer).put)

/-- The members of the base class, and a record of what has happened to the channel: the
endpoints and sequence numbers of the requests accepted, the replies of earlier connections and
of the latest one, the requests cancelled and dropped, how many connections there have been,
what was put into the buffer in the latest one, each time with the call that did, and how many
calls to `on_disconnection` are between their two critical sections. -/
structure InEndpointChannelBase (Buffer Item Handler : Type) where
  buffer : Buffer
  endpointRequests : Queues UInt8 (ChannelRequest Handler)
  maxPendingRequests : Nat
  disconnected : Bool
  accepted : List (UInt8 × UInt32)
  earlierReplies : List (ChannelReply Item Handler)
  replies : List (ChannelReply Item Handler)
  cancelled : List (UInt8 × Nat)
  dropped : List (UInt8 × Nat)
  connection : Nat
  placed : List (Option Nat × List Item)
  disconnecting : Nat

/-- The critical sections of the base class's operations.  `pulled` is what a pull callback
returns, and nothing without one; `rehash` is the map changing the order in which it is
traversed. -/
inductive ChannelAction (Handler : Type) where
  | onInRequest (ep : UInt8) (seqnum length : UInt32) (owner : Option Handler)
      (transfer : GenericTransfer) (pulled : List UInt8)
  | setMaxPendingRequests (maxPending : Nat)
  | cancelPending (unlinkSeqnum : UInt32)
  | disconnectBuffer
  | disconnectRequests
  | onNewConnection
  | rehash (queues : Queues UInt8 (ChannelRequest Handler))

namespace InEndpointChannelBase

variable {Buffer Item Handler : Type} (derived : Derived Buffer Item)

/-- A channel before its first connection. -/
def create (buffer : Buffer) : InEndpointChannelBase Buffer Item Handler where
  buffer := buffer
  endpointRequests := []
  maxPendingRequests := 0
  disconnected := true
  accepted := []
  earlierReplies := []
  replies := []
  cancelled := []
  dropped := []
  connection := 0
  placed := []
  disconnecting := 0

def answer (channel : InEndpointChannelBase Buffer Item Handler) (ep : UInt8)
    (request : ChannelRequest Handler) (taken : List Item) (ret : UsbIpRetSubmit Handler) :
    InEndpointChannelBase Buffer Item Handler :=
  { channel with
    replies := channel.replies ++ [{ ep, number := request.number, taken, ret }] }

/-- The reply with the data that `set_transfer_data` leaves in the transfer. -/
def dataReply (request : ChannelRequest Handler) (data : List UInt8) : UsbIpRetSubmit Handler :=
  let filled := GenericTransferOperator.setTransferData request.transfer data
    request.length.toNat
  .createRetSubmitOkWithNoIso request.seqnum (UInt32.ofNat filled.1)
    (.generic request.owner filled.2)

def trySendOne (ep : UInt8) (request : ChannelRequest Handler)
    (channel : InEndpointChannelBase Buffer Item Handler) :
    InEndpointChannelBase Buffer Item Handler :=
  let taken := derived.take request.length channel.buffer
  answer { channel with buffer := taken.2 } ep request taken.1
    (dataReply request (derived.payload request.length taken.1))

def sendPulledLocked (ep : UInt8) (request : ChannelRequest Handler) (pulled : List UInt8)
    (channel : InEndpointChannelBase Buffer Item Handler) :
    InEndpointChannelBase Buffer Item Handler :=
  let sent := derived.sendPulled request.length pulled channel.buffer
  answer { channel with buffer := sent.buffer, placed := channel.placed ++ [(none, sent.put)] } ep
    request sent.taken (dataReply request sent.data)

/-- A round of the loop of `try_send_pending_locked`, and `none` where the loop ends. -/
def sendRound (channel : InEndpointChannelBase Buffer Item Handler) :
    Option (InEndpointChannelBase Buffer Item Handler) :=
  if derived.bufferEmpty channel.buffer then none
  else channel.endpointRequests.dequeueAny.map fun (taken, rest) =>
    trySendOne derived taken.1 taken.2 { channel with endpointRequests := rest }

def sendRounds : Nat → InEndpointChannelBase Buffer Item Handler →
    InEndpointChannelBase Buffer Item Handler
  | 0, channel => channel
  | n + 1, channel =>
      match sendRound derived channel with
      | some channel' => sendRounds n channel'
      | none => channel

/-- Every round takes one request off the queues. -/
def trySendPendingLocked (channel : InEndpointChannelBase Buffer Item Handler) :
    InEndpointChannelBase Buffer Item Handler :=
  sendRounds derived channel.endpointRequests.size channel

def accept (ep : UInt8) (seqnum : UInt32) (channel : InEndpointChannelBase Buffer Item Handler) :
    InEndpointChannelBase Buffer Item Handler :=
  { channel with accepted := channel.accepted ++ [(ep, seqnum)] }

/-- `on_in_request` makes room for a request by answering the oldest one with no data. -/
def evictOldest (ep : UInt8) (channel : InEndpointChannelBase Buffer Item Handler) :
    InEndpointChannelBase Buffer Item Handler :=
  if channel.maxPendingRequests ≠ 0 ∧
      channel.maxPendingRequests ≤ (channel.endpointRequests.queue ep).length then
    match channel.endpointRequests.dequeue ep with
    | some (evicted, rest) =>
        answer { channel with endpointRequests := rest } ep evicted []
          (.createRetSubmitOkWithoutData evicted.seqnum 0)
    | none => channel
  else channel

def park (ep : UInt8) (request : ChannelRequest Handler)
    (channel : InEndpointChannelBase Buffer Item Handler) :
    InEndpointChannelBase Buffer Item Handler :=
  { channel.accept ep request.seqnum with
    endpointRequests := channel.endpointRequests.enqueue ep request }

def onInRequest (ep : UInt8) (seqnum length : UInt32) (owner : Option Handler)
    (transfer : GenericTransfer) (pulled : List UInt8)
    (channel : InEndpointChannelBase Buffer Item Handler) :
    InEndpointChannelBase Buffer Item Handler :=
  if channel.disconnected then channel
  else
    let request : ChannelRequest Handler :=
      { seqnum, length, owner, transfer, number := channel.accepted.length }
    if channel.endpointRequests.queue ep = [] ∧ derived.bufferEmpty channel.buffer = false then
      trySendOne derived ep request (channel.accept ep seqnum)
    else if channel.endpointRequests.queue ep = [] ∧ derived.tryPullData pulled ≠ [] then
      trySendPendingLocked derived
        (sendPulledLocked derived ep request (derived.tryPullData pulled)
          (channel.accept ep seqnum))
    else
      -- another request of the endpoint waits, or there is nothing to answer this one with
      trySendPendingLocked derived ((channel.evictOldest ep).park ep request)

/-- Whether a request was cancelled, and the channel without it. -/
def cancelPending (unlinkSeqnum : UInt32) (channel : InEndpointChannelBase Buffer Item Handler) :
    Bool × InEndpointChannelBase Buffer Item Handler :=
  match channel.endpointRequests.takeFirstOfAny (·.seqnum == unlinkSeqnum) with
  | some ((ep, request), rest) =>
      (true, { channel with
        endpointRequests := rest, cancelled := channel.cancelled ++ [(ep, request.number)] })
  | none => (false, channel)

section Unlink

/-- What the handling of a `CMD_UNLINK` sees of a channel. -/
def parkedRequests (channel : InEndpointChannelBase Buffer Item Handler) : InEndpointChannel where
  endpointRequests := channel.endpointRequests.map fun entry =>
    (entry.1, entry.2.map ChannelRequest.toRequest)

theorem parkedRequests_cancelPending (unlinkSeqnum : UInt32)
    (channel : InEndpointChannelBase Buffer Item Handler) :
    channel.parkedRequests.cancelPending unlinkSeqnum =
      if (channel.cancelPending unlinkSeqnum).1 then
        some (channel.cancelPending unlinkSeqnum).2.parkedRequests
      else none := by
  have hmap := Queues.updateFirstValue_map ChannelRequest.toRequest (·.seqnum == unlinkSeqnum)
    channel.endpointRequests
  unfold InEndpointChannel.cancelPending EndpointRequestQueue.cancelBySeqnum parkedRequests
  dsimp only
  rw [hmap]
  unfold cancelPending
  cases Queues.takeFirstOfAny (fun a : ChannelRequest Handler => a.seqnum == unlinkSeqnum)
      channel.endpointRequests with
  | none => rfl
  | some taken => rfl

end Unlink

/-- The connection that an operation begins in, if it begins in one. -/
def current (channel : InEndpointChannelBase Buffer Item Handler) : Option Nat :=
  if channel.disconnected then none else some channel.connection

/-- A call of the producer puts items into the buffer. -/
def put (call : Nat) (items : List Item) (buffer : Buffer)
    (channel : InEndpointChannelBase Buffer Item Handler) :
    InEndpointChannelBase Buffer Item Handler :=
  { channel with buffer, placed := channel.placed ++ [(some call, items)] }

def onNewConnection (channel : InEndpointChannelBase Buffer Item Handler) :
    InEndpointChannelBase Buffer Item Handler :=
  { channel with
    disconnected := false
    buffer := derived.bufferClear channel.buffer
    earlierReplies := channel.earlierReplies ++ channel.replies
    replies := []
    connection := channel.connection + 1
    placed := [] }

/-- The first critical section of `on_disconnection`. -/
def disconnectBuffer (channel : InEndpointChannelBase Buffer Item Handler) :
    InEndpointChannelBase Buffer Item Handler :=
  { channel with
    disconnected := true
    buffer := derived.bufferClear channel.buffer
    disconnecting := channel.disconnecting + 1 }

/-- Its second critical section. -/
def disconnectRequests (channel : InEndpointChannelBase Buffer Item Handler) :
    InEndpointChannelBase Buffer Item Handler :=
  { channel with
    endpointRequests := []
    dropped := channel.dropped ++ channel.endpointRequests.numbered (·.number)
    disconnecting := channel.disconnecting - 1 }

section Rounds

variable {derived} {channel channel' : InEndpointChannelBase Buffer Item Handler}

/-- There is nothing in the buffer, or no request to send it to. -/
def Settled (derived : Derived Buffer Item)
    (channel : InEndpointChannelBase Buffer Item Handler) : Prop :=
  derived.bufferEmpty channel.buffer = true ∨ channel.endpointRequests.size = 0

theorem sendRound_eq_none_iff : sendRound derived channel = none ↔ Settled derived channel := by
  unfold sendRound Settled
  split
  next hempty => simp [hempty]
  next hempty => rw [Option.map_eq_none_iff, Queues.dequeueAny_eq_none_iff, or_iff_right hempty]

theorem sendRound_cases (h : sendRound derived channel = some channel') :
    ∃ ep request rest, channel.endpointRequests.dequeueAny = some ((ep, request), rest) ∧
      channel' = trySendOne derived ep request { channel with endpointRequests := rest } := by
  unfold sendRound at h
  split at h
  next => cases h
  next =>
    obtain ⟨⟨⟨ep, request⟩, rest⟩, htaken, rfl⟩ := Option.map_eq_some_iff.mp h
    exact ⟨ep, request, rest, htaken, rfl⟩

/-- What holds before the loop and what each round keeps holds after it. -/
theorem sendRounds_invariant {P : InEndpointChannelBase Buffer Item Handler → Prop}
    (hround : ∀ c c', P c → sendRound derived c = some c' → P c') (n : Nat) (h : P channel) :
    P (sendRounds derived n channel) := by
  induction n generalizing channel with
  | zero => exact h
  | succ n ih =>
      unfold sendRounds
      split
      next channel' hsend => exact ih (hround _ _ h hsend)
      next => exact h

theorem trySendPendingLocked_of_settled (h : Settled derived channel) :
    trySendPendingLocked derived channel = channel := by
  have hend := sendRound_eq_none_iff.mpr h
  unfold trySendPendingLocked
  cases channel.endpointRequests.size with
  | zero => rfl
  | succ n => rw [sendRounds, hend]

theorem settled_sendRounds (n : Nat) (h : channel.endpointRequests.size ≤ n) :
    Settled derived (sendRounds derived n channel) := by
  induction n generalizing channel with
  | zero => exact Or.inr (Nat.le_zero.mp h)
  | succ n ih =>
      unfold sendRounds
      split
      next channel' hsend =>
        obtain ⟨ep, request, rest, htaken, rfl⟩ := sendRound_cases hsend
        have hsize := Queues.size_dequeueAny htaken
        exact ih (by change rest.size ≤ n; omega)
      next hend => exact sendRound_eq_none_iff.mp hend

/-- The loop goes on until there is nothing left that can be sent. -/
theorem settled_trySendPendingLocked : Settled derived (trySendPendingLocked derived channel) :=
  settled_sendRounds _ (Nat.le_refl _)

end Rounds

variable [DecidableEq Handler]

def step (channel : InEndpointChannelBase Buffer Item Handler) :
    ChannelAction Handler → Option (InEndpointChannelBase Buffer Item Handler)
  | .onInRequest ep seqnum length owner transfer pulled =>
      some (channel.onInRequest derived ep seqnum length owner transfer pulled)
  | .setMaxPendingRequests maxPending =>
      some { channel with maxPendingRequests := maxPending }
  | .cancelPending unlinkSeqnum => some (channel.cancelPending unlinkSeqnum).2
  | .disconnectBuffer => some (channel.disconnectBuffer derived)
  | .disconnectRequests =>
      if 0 < channel.disconnecting then some channel.disconnectRequests else none
  | .onNewConnection => some (channel.onNewConnection derived)
  | .rehash queues =>
      if channel.endpointRequests.Perm queues then
        some { channel with endpointRequests := queues }
      else none

end InEndpointChannelBase

end Usbipdcpp.VirtualDevice
