import Usbipdcpp.Foundation.KeyedQueues
import Usbipdcpp.Foundation.TransitionSystem
import Usbipdcpp.VirtualDevice.Unlink

namespace Usbipdcpp.VirtualDevice

open Foundation.FirstMatch Foundation.KeyedQueues Foundation.TransitionSystem Protocol

/-- What a `take` hands out. -/
structure Pending where
  ep : UInt8
  setupReq : Option SetupPacket
  data : List UInt8
  deriving DecidableEq, Repr

/-- A request that waits to be taken; one without a transfer is a mere notification.  The request
is known by the number of requests that arrived before it. -/
structure PendingRequest where
  ep : UInt8
  seqnum : UInt32
  setupReq : Option SetupPacket
  transfer : Option GenericTransfer
  number : Nat
  deriving DecidableEq, Repr

/-- The data that is read out of the request's transfer. -/
def PendingRequest.data (request : PendingRequest) : List UInt8 :=
  match request.transfer with
  | some trx => (GenericTransferOperator.getTransferData trx []).2.1
  | none => []

/-- The transfer of an OUT request without packets, whose data has been received. -/
def outTransfer (data : List UInt8) : GenericTransfer where
  data := data
  isoDescriptors := []
  actualLength := 0
  dataOffset := 0
  isIn := false

/-- The members of the base class. -/
structure OutEndpointChannelBase where
  pending : List PendingRequest
  maxPending : Nat
  disconnected : Bool
  deriving DecidableEq, Repr

namespace OutEndpointChannelBase

def create (maxPending : Nat) : OutEndpointChannelBase where
  pending := []
  maxPending := maxPending
  disconnected := true

section Reply

variable {Handler : Type}

/-- A reply with an error brings no length. -/
def reply (seqnum length status : UInt32) : UsbIpRetSubmit Handler :=
  if status = 0 then .createRetSubmitOkWithoutData seqnum length
  else .createRetSubmitWithStatusAndNoData seqnum status 0

/-- The reply with which `take_locked` answers the front request; a mere notification is not
answered. -/
def takeLockedReply (request : PendingRequest) : Option (UsbIpRetSubmit Handler) :=
  request.transfer.map fun trx =>
    reply request.seqnum (UInt32.ofNat (GenericTransferOperator.getTransferData trx []).1) 0

end Reply

/-- What `take_locked` returns for the front request. -/
def takeLocked (request : PendingRequest) : Pending where
  ep := request.ep
  setupReq := request.setupReq
  data := request.data

/-- The queue is at its limit. -/
def full (channel : OutEndpointChannelBase) : Bool :=
  channel.maxPending != 0 && channel.maxPending ≤ channel.pending.length

def frontSeqnum (channel : OutEndpointChannelBase) : Option UInt32 :=
  channel.pending.head?.map (·.seqnum)

def enqueue (request : PendingRequest) (channel : OutEndpointChannelBase) :
    OutEndpointChannelBase :=
  { channel with pending := channel.pending ++ [request] }

/-- The front request and the channel without it, if it has one. -/
def popFront (channel : OutEndpointChannelBase) :
    Option (PendingRequest × OutEndpointChannelBase) :=
  match channel.pending with
  | [] => none
  | request :: rest => some (request, { channel with pending := rest })

/-- The request that a cancellation takes out, and the channel without it. -/
def cancelPending (unlinkSeqnum : UInt32) (channel : OutEndpointChannelBase) :
    Option (PendingRequest × OutEndpointChannelBase) :=
  (Queues.takeFirst (·.seqnum == unlinkSeqnum) channel.pending).map fun (request, rest) =>
    (request, { channel with pending := rest })

def onNewConnection (channel : OutEndpointChannelBase) : OutEndpointChannelBase :=
  { channel with disconnected := false }

/-- The critical section of `on_disconnection`. -/
def onDisconnection (channel : OutEndpointChannelBase) : OutEndpointChannelBase :=
  { channel with disconnected := true, pending := [] }

/-- What the handling of a `CMD_UNLINK` sees of a channel. -/
def pendingRequests (channel : OutEndpointChannelBase) : OutEndpointChannel where
  pending := channel.pending.map fun request =>
    { seqnum := request.seqnum, length := UInt32.ofNat request.data.length }

theorem pendingRequests_cancelPending (unlinkSeqnum : UInt32) (channel : OutEndpointChannelBase) :
    channel.pendingRequests.cancelPending unlinkSeqnum =
      (channel.cancelPending unlinkSeqnum).map fun cancelled => cancelled.2.pendingRequests := by
  have hmap := Queues.eraseFirst_map
    (fun request : PendingRequest => ({ seqnum := request.seqnum,
                                        length := UInt32.ofNat request.data.length } : Request))
    (·.seqnum == unlinkSeqnum) channel.pending
  rw [OutEndpointChannel.cancelPending, pendingRequests, hmap, cancelPending, Option.map_map,
    Option.map_map]
  rfl

end OutEndpointChannelBase

/-- Where a call to `take` is: on its way to the lock for the first time, waiting on the condition
variable, woken and on its way back to the lock, or back with its result. -/
inductive TakePc where
  | entering
  | blocked
  | woken (timedOut : Bool)
  | returned (result : Option Pending)
  deriving DecidableEq, Repr

/-- A call to `take` or `try_take`. -/
structure TakeCall where
  timeoutMs : UInt32
  pc : TakePc
  deriving DecidableEq, Repr

/-- How a request has left the channel: taken by a call, refused with that many others before it,
cancelled, or dropped. -/
inductive Departure where
  | taken (request : PendingRequest) (call : Nat)
  | refused (request : PendingRequest) (held : Nat)
  | cancelled (request : PendingRequest)
  | dropped (request : PendingRequest)
  deriving DecidableEq, Repr

/-- A channel and the calls to it, with a record of the requests that arrived while it was
connected, of those that have left it, of its replies and of the calls to `cancel_pending` with
their results.  `notifying` are the calls to `on_disconnection` that have left their critical
section and not yet woken the others. -/
structure OutChannelRun (Handler : Type) where
  channel : OutEndpointChannelBase
  calls : List TakeCall
  notifying : Nat
  arrived : List PendingRequest
  departures : List Departure
  replies : List (UsbIpRetSubmit Handler)
  cancels : List (UInt32 × Bool)

/-- The critical sections of the channel's operations.  `notified` is the waiting call that
`notify_one` picks; a call that waits may wake by itself, and with `timedOut` when its timeout
has passed. -/
inductive OutChannelAction where
  | onOutRequest (ep : UInt8) (seqnum : UInt32) (transfer : Option GenericTransfer)
      (setupReq : Option SetupPacket) (notified : Option Nat)
  | tryTake
  | take (timeoutMs : UInt32)
  | lock (index : Nat)
  | wake (index : Nat) (timedOut : Bool)
  | cancelPending (unlinkSeqnum : UInt32)
  | onDisconnection
  | notifyAll
  | onNewConnection

namespace OutChannelRun

open OutEndpointChannelBase

variable {Handler : Type}

def create (maxPending : Nat) : OutChannelRun Handler where
  channel := .create maxPending
  calls := []
  notifying := 0
  arrived := []
  departures := []
  replies := []
  cancels := []

/-- One of the calls that wait is woken, if there are any. -/
def notifyOne (notified : Option Nat) (calls : List TakeCall) : Option (List TakeCall) :=
  match notified with
  | none => if calls.all (·.pc != .blocked) then some calls else none
  | some index =>
      match calls[index]? with
      | some call =>
          if call.pc = .blocked then some (calls.set index { call with pc := .woken false })
          else none
      | none => none

def refuse (request : PendingRequest) (s : OutChannelRun Handler) : OutChannelRun Handler :=
  { s with
    arrived := s.arrived ++ [request]
    departures := s.departures ++ [.refused request s.channel.pending.length]
    replies := s.replies ++ [reply request.seqnum 0 UrbStatusType.statusEPIPE] }

def enqueue (request : PendingRequest) (calls : List TakeCall) (s : OutChannelRun Handler) :
    OutChannelRun Handler :=
  { s with
    channel := s.channel.enqueue request
    calls := calls
    arrived := s.arrived ++ [request] }

def onOutRequest (ep : UInt8) (seqnum : UInt32) (transfer : Option GenericTransfer)
    (setupReq : Option SetupPacket) (notified : Option Nat) (s : OutChannelRun Handler) :
    Option (OutChannelRun Handler) :=
  let request : PendingRequest :=
    { ep, seqnum, setupReq, transfer, number := s.arrived.length }
  if s.channel.disconnected then some s
  else if s.channel.full then some (s.refuse request)
  else (notifyOne notified s.calls).map fun calls => s.enqueue request calls

/-- `take_locked`, on behalf of the call with some index. -/
def takeFront (request : PendingRequest) (channel : OutEndpointChannelBase) (index : Nat)
    (calls : List TakeCall) (s : OutChannelRun Handler) : OutChannelRun Handler :=
  { s with
    channel := channel
    calls := calls
    departures := s.departures ++ [.taken request index]
    replies := s.replies ++ (takeLockedReply request).toList }

def tryTake (s : OutChannelRun Handler) : OutChannelRun Handler :=
  match s.channel.popFront with
  | none => { s with calls := s.calls ++ [{ timeoutMs := 0, pc := .returned none }] }
  | some (request, channel) =>
      s.takeFront request channel s.calls.length
        (s.calls ++ [{ timeoutMs := 0,
                       pc := .returned (some (takeLocked request)) }])

/-- What `take` does once it has the lock. -/
def locked (index : Nat) (call : TakeCall) (timedOut : Bool) (s : OutChannelRun Handler) :
    OutChannelRun Handler :=
  match s.channel.popFront with
  | none =>
      { s with calls := s.calls.set index { call with
          pc := if s.channel.disconnected = false ∧ timedOut = false then .blocked
            else .returned none } }
  | some (request, channel) =>
      s.takeFront request channel index (s.calls.set index { call with
        pc := .returned (some (takeLocked request)) })

def cancelPending (unlinkSeqnum : UInt32) (s : OutChannelRun Handler) : OutChannelRun Handler :=
  match s.channel.cancelPending unlinkSeqnum with
  | some (request, channel) =>
      { s with
        channel := channel
        departures := s.departures ++ [.cancelled request]
        cancels := s.cancels ++ [(unlinkSeqnum, true)] }
  | none => { s with cancels := s.cancels ++ [(unlinkSeqnum, false)] }

def onDisconnection (s : OutChannelRun Handler) : OutChannelRun Handler :=
  { s with
    channel := s.channel.onDisconnection
    departures := s.departures ++ s.channel.pending.map .dropped
    notifying := s.notifying + 1 }

/-- All calls that wait are woken. -/
def notifyAll (calls : List TakeCall) : List TakeCall :=
  calls.map fun call => if call.pc = .blocked then { call with pc := .woken false } else call

def step (s : OutChannelRun Handler) : OutChannelAction → Option (OutChannelRun Handler)
  | .onOutRequest ep seqnum transfer setupReq notified =>
      s.onOutRequest ep seqnum transfer setupReq notified
  | .tryTake => some s.tryTake
  | .take timeoutMs => some { s with calls := s.calls ++ [{ timeoutMs, pc := .entering }] }
  | .lock index =>
      match s.calls[index]? with
      | some call =>
          match call.pc with
          | .entering => some (s.locked index call false)
          | .woken timedOut => some (s.locked index call timedOut)
          | _ => none
      | none => none
  | .wake index timedOut =>
      match s.calls[index]? with
      | some call =>
          if call.pc = .blocked ∧ (timedOut = true → call.timeoutMs ≠ 0) then
            some { s with calls := s.calls.set index { call with pc := .woken timedOut } }
          else none
      | none => none
  | .cancelPending unlinkSeqnum => some (s.cancelPending unlinkSeqnum)
  | .onDisconnection => some s.onDisconnection
  | .notifyAll =>
      if 0 < s.notifying then
        some { s with calls := notifyAll s.calls, notifying := s.notifying - 1 }
      else none
  | .onNewConnection => some { s with channel := s.channel.onNewConnection }

section Effect

/-- The data that calls have returned. -/
def Results (calls : List TakeCall) : Set (Nat × Pending) :=
  { entry | ∃ call, calls[entry.1]? = some call ∧ call.pc = .returned (some entry.2) }

def isBlocked (call : TakeCall) : Bool := call.pc == .blocked

/-- A call that has been woken and not got the lock back. -/
def isWoken (call : TakeCall) : Bool :=
  match call.pc with
  | .woken _ => true
  | _ => false

/-- No call begins to wait, and at most `spent` of the wakeups are used up. -/
def Wakes (calls calls' : List TakeCall) (spent : Nat) : Prop :=
  calls'.any isBlocked = true →
    calls.any isBlocked = true ∧ calls.countP isWoken ≤ calls'.countP isWoken + spent

variable {calls : List TakeCall} {call call' : TakeCall} {index : Nat}

theorem mem_results_set (hcall : calls[index]? = some call) (i : Nat) (result : Pending) :
    (i, result) ∈ Results (calls.set index call') ↔
      if i = index then call'.pc = .returned (some result) else (i, result) ∈ Results calls := by
  have hlt := (List.getElem?_eq_some_iff.mp hcall).1
  split
  next heq =>
    subst heq
    simp [Results, List.getElem?_set_self hlt]
  next hne => simp [Results, List.getElem?_set_ne (Ne.symm hne)]

/-- A call that is not over has no result. -/
theorem notMem_results (hcall : calls[index]? = some call)
    (hopen : ∀ result, call.pc ≠ .returned result) (result : Pending) :
    (index, result) ∉ Results calls := by
  rintro ⟨call', hcall', hpc⟩
  obtain rfl := Option.some.inj (hcall.symm.trans hcall')
  exact hopen _ hpc

theorem results_set_open (hcall : calls[index]? = some call)
    (hopen : ∀ result, call.pc ≠ .returned result)
    (hnone : ∀ result, call'.pc ≠ .returned (some result)) :
    Results (calls.set index call') = Results calls := by
  ext ⟨i, result⟩
  rw [mem_results_set hcall]
  split
  next heq =>
    subst heq
    simp [hnone, notMem_results hcall hopen]
  next => rfl

theorem results_set_returned {result : Pending} (hcall : calls[index]? = some call)
    (hopen : ∀ result, call.pc ≠ .returned result)
    (hpc : call'.pc = .returned (some result)) :
    Results (calls.set index call') = insert (index, result) (Results calls) := by
  ext ⟨i, result'⟩
  rw [mem_results_set hcall, Set.mem_insert_iff, Prod.mk.injEq]
  split
  next heq =>
    subst heq
    simp [hpc, notMem_results hcall hopen, eq_comm]
  next hne => simp [hne]

theorem results_concat_open (hnone : ∀ result, call.pc ≠ .returned (some result)) :
    Results (calls ++ [call]) = Results calls := by
  ext ⟨i, result⟩
  constructor
  · rintro ⟨call', hcall', hpc⟩
    rcases Nat.lt_or_ge i calls.length with hlt | hge
    · rw [List.getElem?_append_left hlt] at hcall'
      exact ⟨call', hcall', hpc⟩
    · rw [List.getElem?_append_right hge] at hcall'
      obtain rfl := List.mem_singleton.mp (List.mem_of_getElem? hcall')
      exact absurd hpc (hnone _)
  · rintro ⟨call', hcall', hpc⟩
    refine ⟨call', ?_, hpc⟩
    rw [List.getElem?_append_left (List.getElem?_eq_some_iff.mp hcall').1, hcall']

theorem results_concat_returned {result : Pending} (hpc : call.pc = .returned (some result)) :
    Results (calls ++ [call]) = insert (calls.length, result) (Results calls) := by
  let opened : TakeCall := { call with pc := .entering }
  have hopened : (calls ++ [opened])[calls.length]? = some opened := by simp
  have hset : Results ((calls ++ [opened]).set calls.length call) =
      insert (calls.length, result) (Results (calls ++ [opened])) :=
    results_set_returned hopened (by simp [opened]) hpc
  rw [results_concat_open (by simp [opened])] at hset
  rw [← hset]
  simp

theorem wakes_set {spent : Nat} (hcall : calls[index]? = some call)
    (hblocked : isBlocked call' = false)
    (hwoken : (if isWoken call then 1 else 0) ≤ (if isWoken call' then 1 else 0) + spent) :
    Wakes calls (calls.set index call') spent := by
  intro hany
  obtain ⟨hlt, rfl⟩ := List.getElem?_eq_some_iff.mp hcall
  obtain ⟨waiting, hmem, hwaiting⟩ := List.any_eq_true.mp hany
  refine ⟨List.any_eq_true.mpr ⟨waiting, ?_, hwaiting⟩, ?_⟩
  · rcases List.mem_or_eq_of_mem_set hmem with hmem | rfl
    · exact hmem
    · rw [hblocked] at hwaiting
      cases hwaiting
  · rw [List.countP_set hlt]
    have hle : (if isWoken calls[index] then 1 else 0) ≤ calls.countP isWoken := by
      split
      next hwoken => exact List.countP_pos_iff.mpr ⟨_, List.getElem_mem hlt, hwoken⟩
      next => exact Nat.zero_le _
    omega

theorem wakes_concat {spent : Nat} (hblocked : isBlocked call = false) :
    Wakes calls (calls ++ [call]) spent := by
  intro hany
  rw [List.any_append, List.any_cons, hblocked] at hany
  refine ⟨by simpa using hany, ?_⟩
  rw [List.countP_append]
  omega

/-- `notify_one` adds a wakeup where a call waits. -/
theorem wakes_notifyOne {notified : Option Nat} {calls' : List TakeCall}
    (h : notifyOne notified calls = some calls') :
    Results calls' = Results calls ∧
      (calls'.any isBlocked = true →
        calls.any isBlocked = true ∧ calls.countP isWoken + 1 ≤ calls'.countP isWoken) := by
  unfold notifyOne at h
  split at h
  next =>
    split at h
    next hnone =>
      obtain rfl := Option.some.inj h
      refine ⟨rfl, fun hany => ?_⟩
      obtain ⟨waiting, hmem, hwaiting⟩ := List.any_eq_true.mp hany
      have hfree := List.all_eq_true.mp hnone waiting hmem
      simp [isBlocked] at hwaiting
      simp [hwaiting] at hfree
    next => cases h
  next index =>
    split at h
    next call hcall =>
      split at h
      next hblocked =>
        obtain rfl := Option.some.inj h
        refine ⟨results_set_open hcall (by simp [hblocked]) (by simp), fun hany => ?_⟩
        obtain ⟨hlt, rfl⟩ := List.getElem?_eq_some_iff.mp hcall
        have hwakes : Wakes calls (calls.set index { calls[index] with pc := .woken false }) 0 :=
          wakes_set hcall rfl (by simp [isWoken, hblocked])
        refine ⟨(hwakes hany).1, ?_⟩
        rw [List.countP_set hlt]
        simp [isWoken, hblocked]
      next => cases h
    next => cases h

theorem results_notifyAll : Results (notifyAll calls) = Results calls := by
  ext ⟨i, result⟩
  simp only [Results, notifyAll, List.getElem?_map, Set.mem_ofPred_eq]
  cases calls[i]? with
  | none => simp
  | some call =>
      by_cases hblocked : call.pc = .blocked
      · simp [hblocked]
      · simp [hblocked]

theorem any_notifyAll : (notifyAll calls).any isBlocked = false := by
  rw [List.any_eq_false]
  intro call hmem
  obtain ⟨call', -, rfl⟩ := List.mem_map.mp hmem
  split
  next => simp [isBlocked]
  next hopen => simp [isBlocked, hopen]

/-- What a step does. -/
inductive Effect (s : OutChannelRun Handler) : OutChannelAction → OutChannelRun Handler → Prop
  | refused {a : OutChannelAction} {request : PendingRequest}
      (hnumber : request.number = s.arrived.length) (hfull : s.channel.full = true) :
      Effect s a (s.refuse request)
  | enqueued {a : OutChannelAction} {request : PendingRequest} {calls : List TakeCall}
      (hnumber : request.number = s.arrived.length) (hroom : s.channel.full = false)
      (hresults : Results calls = Results s.calls)
      (hwakes : calls.any isBlocked = true → s.calls.any isBlocked = true ∧
        s.calls.countP isWoken + 1 ≤ calls.countP isWoken) :
      Effect s a (s.enqueue request calls)
  | taken {a : OutChannelAction} {request : PendingRequest} {rest : List PendingRequest}
      {index : Nat} {calls : List TakeCall} (hpending : s.channel.pending = request :: rest)
      (hresults : Results calls = insert (index, takeLocked request) (Results s.calls))
      (hfresh : ∀ result, (index, result) ∉ Results s.calls) (hwakes : Wakes s.calls calls 1) :
      Effect s a (s.takeFront request { s.channel with pending := rest } index calls)
  | cancelled {unlinkSeqnum : UInt32} {request : PendingRequest}
      {before after : List PendingRequest}
      (hpending : s.channel.pending = before ++ request :: after)
      (hseqnum : request.seqnum = unlinkSeqnum) :
      Effect s (.cancelPending unlinkSeqnum)
        { s with
          channel := { s.channel with pending := before ++ after }
          departures := s.departures ++ [.cancelled request]
          cancels := s.cancels ++ [(unlinkSeqnum, true)] }
  | missed {unlinkSeqnum : UInt32} :
      Effect s (.cancelPending unlinkSeqnum)
        { s with cancels := s.cancels ++ [(unlinkSeqnum, false)] }
  | dropped : Effect s .onDisconnection s.onDisconnection
  | connected : Effect s .onNewConnection { s with channel := s.channel.onNewConnection }
  | moved {a : OutChannelAction} {calls : List TakeCall} (notifying : Nat)
      (hresults : Results calls = Results s.calls)
      (hwakes : s.channel.pending = [] ∨ Wakes s.calls calls 0) :
      Effect s a { s with calls, notifying }

variable {s t : OutChannelRun Handler} {a : OutChannelAction}

theorem popFront_cases (channel : OutEndpointChannelBase) :
    (channel.pending = [] ∧ channel.popFront = none) ∨
      ∃ request rest, channel.pending = request :: rest ∧
        channel.popFront = some (request, { channel with pending := rest }) := by
  unfold popFront
  cases hpending : channel.pending with
  | nil => exact Or.inl ⟨rfl, rfl⟩
  | cons request rest => exact Or.inr ⟨request, rest, rfl, rfl⟩

theorem effect_tryTake : Effect s .tryTake s.tryTake := by
  unfold tryTake
  rcases popFront_cases s.channel with ⟨hnone, hpop⟩ | ⟨request, rest, hpending, hpop⟩
  · rw [hpop]
    exact .moved s.notifying (results_concat_open (by simp)) (Or.inl hnone)
  · rw [hpop]
    exact .taken hpending (results_concat_returned rfl) (fun result => by simp [Results])
      (wakes_concat rfl)

theorem effect_locked {call : TakeCall} {index : Nat} (hcall : s.calls[index]? = some call)
    (hopen : ∀ result, call.pc ≠ .returned result) (timedOut : Bool) :
    Effect s a (s.locked index call timedOut) := by
  unfold locked
  rcases popFront_cases s.channel with ⟨hnone, hpop⟩ | ⟨request, rest, hpending, hpop⟩
  · rw [hpop]
    refine .moved s.notifying (results_set_open hcall hopen fun result => ?_) (Or.inl hnone)
    dsimp only
    split
    · exact fun hfalse => by cases hfalse
    · exact fun hfalse => by cases hfalse
  · rw [hpop]
    refine .taken hpending (results_set_returned hcall hopen rfl) (notMem_results hcall hopen)
      (wakes_set hcall rfl ?_)
    split
    · exact Nat.le_add_left _ _
    · exact Nat.zero_le _

theorem effect_onOutRequest {ep : UInt8} {seqnum : UInt32} {transfer : Option GenericTransfer}
    {setupReq : Option SetupPacket} {notified : Option Nat}
    (h : s.onOutRequest ep seqnum transfer setupReq notified = some t) : Effect s a t := by
  unfold onOutRequest at h
  dsimp only at h
  split at h
  next =>
    obtain rfl := Option.some.inj h
    exact .moved s.notifying rfl (Or.inr fun hany => ⟨hany, Nat.le_refl _⟩)
  next =>
    split at h
    next hfull =>
      obtain rfl := Option.some.inj h
      exact .refused rfl hfull
    next hroom =>
      obtain ⟨calls, hcalls, rfl⟩ := Option.map_eq_some_iff.mp h
      obtain ⟨hresults, hwakes⟩ := wakes_notifyOne hcalls
      exact .enqueued rfl (by simpa using hroom) hresults hwakes

theorem effect_cancelPending (unlinkSeqnum : UInt32) :
    Effect s (.cancelPending unlinkSeqnum) (s.cancelPending unlinkSeqnum) := by
  unfold cancelPending OutEndpointChannelBase.cancelPending
  cases htake : Queues.takeFirst (·.seqnum == unlinkSeqnum) s.channel.pending with
  | none => exact .missed
  | some taken =>
      obtain ⟨before, after, hpending, hrest, hseqnum, -⟩ := Queues.takeFirst_cases htake
      simp only [Option.map_some, hrest]
      exact .cancelled hpending (by simpa using hseqnum)

theorem effect_of_step (h : s.step a = some t) : Effect s a t := by
  cases a with
  | onOutRequest ep seqnum transfer setupReq notified => exact effect_onOutRequest h
  | tryTake =>
      obtain rfl := by simpa [step] using h
      exact effect_tryTake
  | take timeoutMs =>
      obtain rfl := by simpa [step] using h
      exact .moved s.notifying (results_concat_open (by simp)) (Or.inr (wakes_concat rfl))
  | lock index =>
      cases hcall : s.calls[index]? with
      | none => simp [step, hcall] at h
      | some call =>
          simp only [step, hcall] at h
          split at h
          next hpc =>
            obtain rfl := Option.some.inj h
            exact effect_locked hcall (by simp [hpc]) false
          next timedOut hpc =>
            obtain rfl := Option.some.inj h
            exact effect_locked hcall (by simp [hpc]) timedOut
          next => cases h
  | wake index timedOut =>
      cases hcall : s.calls[index]? with
      | none => simp [step, hcall] at h
      | some call =>
          obtain ⟨⟨hpc, -⟩, rfl⟩ := by simpa [step, hcall] using h
          exact .moved s.notifying (results_set_open hcall (by simp [hpc]) (by simp))
            (Or.inr (wakes_set hcall rfl (by simp [isWoken, hpc])))
  | cancelPending unlinkSeqnum =>
      obtain rfl := by simpa [step] using h
      exact effect_cancelPending unlinkSeqnum
  | onDisconnection =>
      obtain rfl := by simpa [step] using h
      exact .dropped
  | notifyAll =>
      obtain ⟨-, rfl⟩ := by simpa [step] using h
      refine .moved _ results_notifyAll (Or.inr fun hany => ?_)
      rw [any_notifyAll] at hany
      cases hany
  | onNewConnection =>
      obtain rfl := by simpa [step] using h
      exact .connected

end Effect

/-- The channel has the limit that it was made with. -/
def system : System (OutChannelRun Handler) OutChannelAction where
  initial s := ∃ maxPending, s = create maxPending
  step := step

end OutChannelRun

end Usbipdcpp.VirtualDevice
