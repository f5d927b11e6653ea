import Usbipdcpp.Utils.SeqnumOrder
import Usbipdcpp.VirtualDevice.ByteStreamInChannel
import Usbipdcpp.VirtualDevice.OutEndpointChannelBase

namespace Usbipdcpp.VirtualDevice

open Foundation.KeyedList Foundation.TransitionSystem Protocol Utils
open OutEndpointChannelBase hiding create cancelPending onNewConnection onDisconnection enqueue

/-- An IN channel that has been made, with the endpoint it was made for and, for each call to its
`write`, the control request that the application makes it for, if it is one of the channel's. -/
structure PipeChannel (Handler : Type) where
  ep : UInt8
  stream : ByteStreamInChannel Handler
  answers : List (Option Nat)

/-- Where a call to the device's `write` is: at `pipe_mutex`, in the `write` of a channel, which
it knows by a reference only, or back without having got that far. -/
inductive PipeWritePc where
  | locking
  | inChannel (id call : Nat)
  | refused
  deriving DecidableEq, Repr

/-- A call to the device's `write`, and for endpoint 0 the control request that it answers, by
the number of requests that arrived before that one. -/
structure PipeWrite where
  ep : UInt8
  data : List UInt8
  timeoutMs : UInt32
  answers : Option Nat
  pc : PipeWritePc
  deriving DecidableEq, Repr

/-- A request as `read` gets it, and for a control IN request also the number under which an IN
channel has it. -/
structure PipeArrival where
  request : PendingRequest
  inRequest : Option (Nat × Nat)
  deriving DecidableEq, Repr

/-- What an unlink has cancelled: a request of an IN channel, or one of an OUT channel. -/
inductive PipeCancelled where
  | inRequest (id number : Nat)
  | outRequest (request : PendingRequest)
  deriving DecidableEq, Repr

structure PipeUnlink where
  unlinkSeqnum : UInt32
  cmdSeqnum : UInt32
  cancelled : Option PipeCancelled
  deriving DecidableEq, Repr

def PipeUnlink.ret (unlink : PipeUnlink) : UsbIpRetUnlink :=
  .createRetUnlink unlink.cmdSeqnum
    (if unlink.cancelled.isSome then UrbStatusType.statusECONNRESET else 0)

/-- A call of `on_disconnection` that holds `pipe_mutex`: the critical sections of the channels'
`on_disconnection` that are still to come, each with the channel and whether it is the second of
the two, and then the end, at which the maps are cleared. -/
abbrev PipeClosing : Type := List (Nat × Bool)

/-- The members of `PipeDeviceHandler`.  `channels` are all IN channels ever made, and `inChannels`
says which of them the map holds; the rest are destroyed.  The last five are a record of the
requests that have arrived for `read`, of those that it has returned or a disconnection dropped, of
the replies to those returned, and of the unlinks. -/
structure PipeDevice (Handler : Type) where
  outChannels : List (UInt8 × OutEndpointChannelBase)
  inChannels : List (UInt8 × Nat)
  channels : List (PipeChannel Handler)
  disconnected : Bool
  fifoCapacity : Nat
  writes : List PipeWrite
  closing : Option PipeClosing
  arrived : List PipeArrival
  reads : List PendingRequest
  dropped : List PendingRequest
  replies : List (UsbIpRetSubmit Handler)
  unlinks : List PipeUnlink

/-- The critical sections of the device's operations and of the channels' `write`; `rehash` is the
maps changing the order in which they are traversed. -/
inductive PipeAction (Handler : Type) where
  | forwardTransfer (ep : UInt8) (seqnum length : UInt32) (owner : Option Handler)
      (transfer : GenericTransfer)
  | onPipeControlRequest (setup : SetupPacket) (seqnum length : UInt32) (owner : Option Handler)
      (transfer : GenericTransfer)
  | onPipeUnlink (unlinkSeqnum cmdSeqnum : UInt32)
  | read
  | write (ep : UInt8) (data : List UInt8) (timeoutMs : UInt32) (answers : Option Nat)
  | lookUp (index : Nat)
  | fill (id call : Nat)
  | wake (id call : Nat) (timedOut : Bool)
  | sendPending (id call : Nat)
  | setInFifoCapacity (capacity : Nat)
  | onDisconnection
  | closeChannel
  | clear
  | onNewConnection
  | rehash (inChannels : List (UInt8 × Nat))
      (outChannels : List (UInt8 × OutEndpointChannelBase))

namespace PipeDevice

variable {Handler : Type}

def create : PipeDevice Handler where
  outChannels := []
  inChannels := []
  channels := []
  disconnected := true
  fifoCapacity := 64 * 1024
  writes := []
  closing := none
  arrived := []
  reads := []
  dropped := []
  replies := []
  unlinks := []

section OutChannels

/-- A channel that a request is the first to use. -/
def freshOut : OutEndpointChannelBase := (OutEndpointChannelBase.create 0).onNewConnection

def getOutChannel (ep : UInt8) (s : PipeDevice Handler) : OutEndpointChannelBase :=
  valueOf freshOut ep s.outChannels

/-- A request for `read` comes to the channel of its endpoint. -/
def onOutRequest (ep : UInt8) (seqnum : UInt32) (transfer : Option GenericTransfer)
    (setupReq : Option SetupPacket) (inRequest : Option (Nat × Nat))
    (s : PipeDevice Handler) : PipeDevice Handler :=
  let request : PendingRequest := { ep, seqnum, setupReq, transfer, number := s.arrived.length }
  let channel := s.getOutChannel ep
  let found := upsert ep channel s.outChannels
  if channel.disconnected then { s with outChannels := found }
  else if channel.full then
    { s with
      outChannels := found
      replies := s.replies ++ [reply seqnum 0 UrbStatusType.statusEPIPE] }
  else
    { s with
      outChannels := upsert ep (channel.enqueue request) s.outChannels
      arrived := s.arrived ++ [{ request, inRequest }] }

/-- Such a request changes the OUT channels, and nothing of the IN channels. -/
theorem onOutRequest_eq (ep : UInt8) (seqnum : UInt32) (transfer : Option GenericTransfer)
    (setupReq : Option SetupPacket) (inRequest : Option (Nat × Nat)) (s : PipeDevice Handler) :
    ∃ outChannels arrived replies,
      s.onOutRequest ep seqnum transfer setupReq inRequest =
        { s with outChannels, arrived, replies } := by
  unfold onOutRequest
  dsimp only
  split
  next => exact ⟨_, _, _, rfl⟩
  next =>
    split
    · exact ⟨_, _, _, rfl⟩
    · exact ⟨_, _, _, rfl⟩

/-- The loop over the channels in `take_one`: the one whose front request is the oldest, and the
sequence number of that. -/
def oldest (outChannels : List (UInt8 × OutEndpointChannelBase)) : Option (UInt8 × UInt32) :=
  outChannels.foldl
    (fun found entry =>
      match entry.2.frontSeqnum with
      | none => found
      | some seqnum =>
          match found with
          | none => some (entry.1, seqnum)
          | some (_, old) => if seqnumNewer old seqnum then some (entry.1, seqnum) else found)
    none

/-- The request that `take_one` takes, and the channels without it. -/
def takeOne (outChannels : List (UInt8 × OutEndpointChannelBase)) :
    Option (PendingRequest × List (UInt8 × OutEndpointChannelBase)) :=
  match oldest outChannels with
  | none => none
  | some (ep, _) =>
      ((valueOf freshOut ep outChannels).popFront).map fun (request, channel) =>
        (request, upsert ep channel outChannels)

/-- An iteration of the loop of `read`, or its end; without a request it changes nothing, whether
the call then waits or returns. -/
def read (s : PipeDevice Handler) : PipeDevice Handler :=
  match takeOne s.outChannels with
  | none => s
  | some (request, outChannels) =>
      { s with
        outChannels := outChannels
        reads := s.reads ++ [request]
        replies := s.replies ++ (takeLockedReply request).toList }

theorem read_eq (s : PipeDevice Handler) :
    ∃ outChannels reads replies, s.read = { s with outChannels, reads, replies } := by
  unfold read
  split
  · exact ⟨_, _, _, rfl⟩
  · exact ⟨_, _, _, rfl⟩

/-- The request that the first of the channels to have one with the sequence number loses, and
the channels without it. -/
def cancelOut (unlinkSeqnum : UInt32) : List (UInt8 × OutEndpointChannelBase) →
    Option (PendingRequest × List (UInt8 × OutEndpointChannelBase))
  | [] => none
  | (ep, channel) :: rest =>
      match channel.cancelPending unlinkSeqnum with
      | some (request, channel') => some (request, (ep, channel') :: rest)
      | none => (cancelOut unlinkSeqnum rest).map fun (request, rest') =>
          (request, (ep, channel) :: rest')

end OutChannels

section InChannels

/-- A channel that is made in a connection. -/
def freshIn (ep : UInt8) (capacity : Nat) : PipeChannel Handler :=
  let stream : ByteStreamInChannel Handler := .create capacity
  let channel := stream.channel.onNewConnection ByteStreamInChannel.derived
  { ep, stream := { stream with channel }, answers := [] }

/-- The channel of an endpoint, by its number, and the device after it has been made. -/
def getInChannel (ep : UInt8) (s : PipeDevice Handler) :
    Nat × PipeDevice Handler :=
  match lookup Prod.fst ep s.inChannels with
  | some (_, id) => (id, s)
  | none =>
      (s.channels.length,
        { s with
          inChannels := s.inChannels ++ [(ep, s.channels.length)]
          channels := s.channels ++ [freshIn ep s.fifoCapacity] })

/-- The channel has been there, or it has been made with nothing in it. -/
theorem getInChannel_cases (ep : UInt8) (s : PipeDevice Handler) :
    (∃ id, (ep, id) ∈ s.inChannels ∧ s.getInChannel ep = (id, s)) ∨
      lookup Prod.fst ep s.inChannels = none ∧
        s.getInChannel ep = (s.channels.length,
          { s with
            inChannels := s.inChannels ++ [(ep, s.channels.length)]
            channels := s.channels ++ [freshIn ep s.fifoCapacity] }) := by
  unfold getInChannel
  split
  next key id hfound =>
    refine Or.inl ⟨id, ?_, rfl⟩
    have hkey := key_of_lookup hfound
    subst hkey
    exact mem_of_lookup hfound
  next hnone => exact Or.inr ⟨hnone, rfl⟩

/-- The number that the next request of a channel will have there. -/
def nextNumber (id : Nat) (s : PipeDevice Handler) : Nat :=
  match s.channels[id]? with
  | some entry => entry.stream.channel.accepted.length
  | none => 0

/-- Something happens in a channel. -/
def modifyStream (id : Nat) (f : ByteStreamInChannel Handler → ByteStreamInChannel Handler)
    (s : PipeDevice Handler) : PipeDevice Handler :=
  { s with channels := s.channels.modify id fun entry => { entry with stream := f entry.stream } }

/-- The device's channels have no pull callback. -/
def onInRequest (id : Nat) (ep : UInt8) (seqnum length : UInt32) (owner : Option Handler)
    (transfer : GenericTransfer) (s : PipeDevice Handler) : PipeDevice Handler :=
  s.modifyStream id fun stream =>
    let channel := stream.channel.onInRequest ByteStreamInChannel.derived ep seqnum length owner
      transfer []
    { stream with channel }

/-- The first channel of the map with a request that has the sequence number, and the number that
the request has there. -/
def cancelIn (unlinkSeqnum : UInt32) (s : PipeDevice Handler) :
    List (UInt8 × Nat) → Option (Nat × Nat × InEndpointChannelBase ByteBuffer UInt8 Handler)
  | [] => none
  | (_, id) :: rest =>
      match s.channels[id]? with
      | some entry =>
          match entry.stream.channel.cancelPending unlinkSeqnum with
          | (true, channel) =>
              some (id, (channel.cancelled.getLast?.map (·.2)).getD 0, channel)
          | (false, _) => cancelIn unlinkSeqnum s rest
      | none => cancelIn unlinkSeqnum s rest

end InChannels

def onPipeInRequest (ep : UInt8) (seqnum length : UInt32) (owner : Option Handler)
    (transfer : GenericTransfer) (s : PipeDevice Handler) : PipeDevice Handler :=
  let (id, s) := s.getInChannel ep
  s.onInRequest id ep seqnum length owner transfer

def onPipeOutTransfer (ep : UInt8) (seqnum : UInt32) (transfer : GenericTransfer)
    (s : PipeDevice Handler) : PipeDevice Handler :=
  s.onOutRequest ep seqnum (some transfer) none none

def isIn (ep : UInt8) : Bool := ep &&& 0x80 != 0

/-- A transfer to an endpoint of an interface. -/
def forwardTransfer (ep : UInt8) (seqnum length : UInt32) (owner : Option Handler)
    (transfer : GenericTransfer) (s : PipeDevice Handler) : PipeDevice Handler :=
  if isIn ep then s.onPipeInRequest ep seqnum length owner transfer
  else s.onPipeOutTransfer ep seqnum transfer

/-- A control IN request waits in the IN channel of endpoint 0, and its setup in the OUT channel,
as a notification. -/
def onPipeControlRequest (setup : SetupPacket) (seqnum length : UInt32) (owner : Option Handler)
    (transfer : GenericTransfer) (s : PipeDevice Handler) : PipeDevice Handler :=
  if setup.isOut then s.onOutRequest 0 seqnum (some transfer) (some setup) none
  else
    let (id, s) := s.getInChannel 0
    let number := s.nextNumber id
    (s.onInRequest id 0 seqnum length owner transfer).onOutRequest 0 seqnum none (some setup)
      (some (id, number))

def onPipeUnlink (unlinkSeqnum cmdSeqnum : UInt32) (s : PipeDevice Handler) :
    PipeDevice Handler :=
  match s.cancelIn unlinkSeqnum s.inChannels with
  | some (id, number, channel) =>
      { s.modifyStream id fun stream => { stream with channel } with
        unlinks := s.unlinks ++
          [{ unlinkSeqnum, cmdSeqnum, cancelled := some (.inRequest id number) }] }
  | none =>
      match cancelOut unlinkSeqnum s.outChannels with
      | some (request, outChannels) =>
          { s with
            outChannels := outChannels
            unlinks := s.unlinks ++
              [{ unlinkSeqnum, cmdSeqnum, cancelled := some (.outRequest request) }] }
      | none =>
          { s with unlinks := s.unlinks ++ [{ unlinkSeqnum, cmdSeqnum, cancelled := none }] }

/-- An unlink takes a request out of an IN channel, or it changes the OUT channels. -/
theorem onPipeUnlink_eq (unlinkSeqnum cmdSeqnum : UInt32) (s : PipeDevice Handler) :
    (∃ id channel unlinks, s.onPipeUnlink unlinkSeqnum cmdSeqnum =
        { s.modifyStream id fun stream => { stream with channel } with unlinks }) ∨
      ∃ outChannels unlinks,
        s.onPipeUnlink unlinkSeqnum cmdSeqnum = { s with outChannels, unlinks } := by
  unfold onPipeUnlink
  split
  next id number channel _ => exact Or.inl ⟨id, channel, _, rfl⟩
  next =>
    split
    · exact Or.inr ⟨_, _, rfl⟩
    · exact Or.inr ⟨_, _, rfl⟩

/-- The request of a channel that a write to the channel answers. -/
def answeredIn (id : Nat) (answers : Option Nat) (s : PipeDevice Handler) : Option Nat :=
  match answers.bind fun number => s.arrived[number]?.bind PipeArrival.inRequest with
  | some (id', number) => if id' = id then some number else none
  | none => none

/-- The critical section of `write`, and the call to the channel's `write`. -/
def lookUp (index : Nat) (call : PipeWrite) (s : PipeDevice Handler) :
    PipeDevice Handler :=
  if s.disconnected then { s with writes := s.writes.set index { call with pc := .refused } }
  else
    let (id, s) := s.getInChannel call.ep
    match s.channels[id]? with
    | some entry =>
        { s with
          writes := s.writes.set index
            { call with pc := .inChannel id entry.stream.calls.length }
          channels := s.channels.set id
            { entry with
              stream := entry.stream.write call.data call.timeoutMs
              answers := entry.answers ++ [s.answeredIn id call.answers] } }
    | none => s

/-- The first thing that `on_disconnection` does with `pipe_mutex`. -/
def onDisconnection (s : PipeDevice Handler) : PipeDevice Handler :=
  { s with
    disconnected := true
    closing := some (s.inChannels.flatMap fun entry => [(entry.2, false), (entry.2, true)]) }

/-- A critical section of a channel's `on_disconnection`. -/
def closeChannel (id : Nat) (requests : Bool) (rest : PipeClosing)
    (s : PipeDevice Handler) : PipeDevice Handler :=
  { s.modifyStream id fun stream =>
      { stream with channel := if requests then stream.channel.disconnectRequests
          else stream.channel.disconnectBuffer ByteStreamInChannel.derived } with
    closing := some rest }

/-- The requests that wait for `read`. -/
def pending (s : PipeDevice Handler) : List PendingRequest :=
  s.outChannels.flatMap fun entry => entry.2.pending

/-- The maps lose all channels. -/
def clear (s : PipeDevice Handler) : PipeDevice Handler :=
  { s with
    inChannels := []
    outChannels := []
    closing := none
    dropped := s.dropped ++ s.pending }

def onNewConnection (s : PipeDevice Handler) : PipeDevice Handler :=
  { s.clear with disconnected := false }

/-- What needs `pipe_mutex` has to wait while `on_disconnection` holds it. -/
def locked (s t : PipeDevice Handler) : Option (PipeDevice Handler) :=
  if s.closing = none then some t else none

theorem locked_eq_some {s t u : PipeDevice Handler} (h : s.locked t = some u) :
    s.closing = none ∧ u = t := by
  unfold locked at h
  split at h
  next hfree => exact ⟨hfree, (Option.some.inj h).symm⟩
  next => cases h

variable [DecidableEq Handler]

/-- A step of the `write` of a channel. -/
def streamStep (id : Nat) (a : ByteStreamAction Handler) (s : PipeDevice Handler) :
    Option (PipeDevice Handler) :=
  match s.channels[id]? with
  | some entry => (entry.stream.step a).map fun stream =>
      { s with channels := s.channels.set id { entry with stream } }
  | none => none

def step (s : PipeDevice Handler) :
    PipeAction Handler → Option (PipeDevice Handler)
  | .forwardTransfer ep seqnum length owner transfer =>
      s.locked (s.forwardTransfer ep seqnum length owner transfer)
  | .onPipeControlRequest setup seqnum length owner transfer =>
      s.locked (s.onPipeControlRequest setup seqnum length owner transfer)
  | .onPipeUnlink unlinkSeqnum cmdSeqnum => s.locked (s.onPipeUnlink unlinkSeqnum cmdSeqnum)
  | .read => s.locked s.read
  | .write ep data timeoutMs answers =>
      some { s with writes := s.writes ++ [{ ep, data, timeoutMs, answers, pc := .locking }] }
  | .lookUp index =>
      match s.writes[index]? with
      | some call => if call.pc = .locking then s.locked (s.lookUp index call) else none
      | none => none
  | .fill id call => s.streamStep id (.fill call)
  | .wake id call timedOut => s.streamStep id (.wake call timedOut)
  | .sendPending id call => s.streamStep id (.sendPending call)
  | .setInFifoCapacity capacity => s.locked { s with fifoCapacity := capacity }
  | .onDisconnection => s.locked s.onDisconnection
  | .closeChannel =>
      match s.closing with
      | some ((id, requests) :: rest) => some (s.closeChannel id requests rest)
      | _ => none
  | .clear =>
      match s.closing with
      | some [] => some s.clear
      | _ => none
  | .onNewConnection => s.locked s.onNewConnection
  | .rehash inChannels outChannels =>
      if s.inChannels.Perm inChannels ∧ s.outChannels.Perm outChannels then
        s.locked { s with inChannels, outChannels }
      else none

def system : System (PipeDevice Handler) (PipeAction Handler) where
  initial s := s = create
  step := step

end PipeDevice

end Usbipdcpp.VirtualDevice
