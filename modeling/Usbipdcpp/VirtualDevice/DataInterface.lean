import Usbipdcpp.VirtualDevice.ChannelTally
import Usbipdcpp.VirtualDevice.Device
import Usbipdcpp.VirtualDevice.RndisOutDelivery

namespace Usbipdcpp.VirtualDevice.DataInterface

open Foundation Foundation.TransitionSystem Protocol Protocol.UrbStatusType ChannelLedger
open ChannelTally OutChannelLedger

/-- The IN channel of a data interface, which is of one of the derived classes.  `base` is an
operation of the base class. -/
structure InChannelClass (Buffer Item State Action Handler : Type) where
  derived : Derived Buffer Item
  channel : State → InEndpointChannelBase Buffer Item Handler
  base : ChannelAction Handler → Action
  system : System State Action
  ofReceiver : Action → Bool
  created : ∀ s, system.initial s → ∃ buffer, channel s = .create buffer
  channel_onInRequest : ∀ s t ep seqnum length owner transfer pulled,
    system.step s (base (.onInRequest ep seqnum length owner transfer pulled)) = some t →
      channel t = (channel s).onInRequest derived ep seqnum length owner transfer pulled
  channel_cancelPending : ∀ s t unlinkSeqnum,
    system.step s (base (.cancelPending unlinkSeqnum)) = some t →
      channel t = ((channel s).cancelPending unlinkSeqnum).2
  booked_step : ∀ s a t, Booked (channel s) → system.step s a = some t → Booked (channel t)
  adds_step : ∀ s a t, ofReceiver a = false → system.step s a = some t →
    Adds [] [] (channel s) (channel t)

section Classes

variable {Handler : Type} [DecidableEq Handler]

def byteStreamInChannel : InChannelClass Utils.ByteBuffer UInt8 (ByteStreamInChannel Handler)
    (ByteStreamAction Handler) Handler where
  derived := ByteStreamInChannel.derived
  channel s := s.channel
  base := .base
  system := ByteStreamInChannel.system
  ofReceiver
    | .base a => ofReceiver a
    | _ => false
  created := by
    rintro s ⟨capacity, rfl⟩
    exact ⟨_, rfl⟩
  channel_onInRequest _ _ _ _ _ _ _ _ h := Option.some.inj h ▸ rfl
  channel_cancelPending _ _ _ h := Option.some.inj h ▸ rfl
  booked_step _ _ _ hs h := booked_byteStreamStep hs h
  adds_step _ _ _ ha h := adds_byteStreamStep (by rintro b rfl; exact ha) h

def messageInChannel : InChannelClass MessageBuffer (List UInt8) (MessageInChannel Handler)
    (MessageAction Handler) Handler where
  derived := MessageInChannel.derived
  channel s := s.channel
  base := .base
  system := MessageInChannel.system
  ofReceiver
    | .base a => ofReceiver a
    | _ => false
  created := by
    rintro s rfl
    exact ⟨_, rfl⟩
  channel_onInRequest _ _ _ _ _ _ _ _ h := Option.some.inj h ▸ rfl
  channel_cancelPending _ _ _ h := Option.some.inj h ▸ rfl
  booked_step _ _ _ hs h := booked_messageStep hs h
  adds_step _ _ _ ha h := adds_messageStep (by rintro b rfl; exact ha) h

end Classes

/-- Where a call of `handle_unlink_seqnum` is: at the IN channel, at the OUT channel, or about to
reply. -/
inductive UnlinkPc where
  | inChannel
  | outChannel
  | replying (cancelled : Bool)
  deriving DecidableEq, Repr

structure UnlinkCall where
  unlinkSeqnum : UInt32
  cmdSeqnum : UInt32
  pc : UnlinkPc
  deriving DecidableEq, Repr

/-- The members of a data interface's handler, with the call of `handle_unlink_seqnum` that the
receiver is in.  The last four are a record of the transfers that it has been given, of those that
came to a disconnected channel, of the replies that the handler has made by itself, and of the
replies to unlinks, each with the sequence number that was to be unlinked. -/
structure DataInterfaceHandler (State Handler : Type) where
  inChannel : State
  outChannel : OutChannelRun Handler
  unlinking : Option UnlinkCall
  received : List UInt32
  ignored : List UInt32
  replies : List (UsbIpRetSubmit Handler)
  unlinks : List (UInt32 × UsbIpRetUnlink)

/-- What tells the handlers of data interfaces apart: the class of the IN channel, and whether the
data of an OUT transfer is used up at once, by what the application and the backend answer. -/
structure DataInterfaceClass (Buffer Item State Action Answer Handler : Type) where
  inChannel : InChannelClass Buffer Item State Action Handler
  consumes : Answer → List UInt8 → Bool

/-- The receiver's calls, where a call of `handle_unlink_seqnum` has a critical section in each
channel and then replies, and what the channels do besides. -/
inductive DataInterfaceAction (Action Answer Handler : Type) where
  | handleBulkTransfer (ep : UsbEndpoint) (seqnum length : UInt32) (owner : Option Handler)
      (transfer : GenericTransfer) (pulled : List UInt8) (answer : Answer) (notified : Option Nat)
  | handleNonStandardRequestTypeControlUrb (seqnum : UInt32)
  | handleUnlinkSeqnum (unlinkSeqnum cmdSeqnum : UInt32)
  | cancelPending
  | submitRetUnlink
  | inChannel (a : Action)
  | outChannel (a : OutChannelAction)

section Handlers

variable {Handler : Type} [DecidableEq Handler]

/-- `on_data_received` decides. -/
def cdcAcmDataInterfaceHandler : DataInterfaceClass Utils.ByteBuffer UInt8
    (ByteStreamInChannel Handler) (ByteStreamAction Handler) Bool Handler where
  inChannel := byteStreamInChannel
  consumes accepted _ := accepted

/-- A backend takes every frame, and else `on_frame_received` decides. -/
def ecmDataInterfaceHandler : DataInterfaceClass MessageBuffer (List UInt8)
    (MessageInChannel Handler) (MessageAction Handler) (Bool × Bool) Handler where
  inChannel := messageInChannel
  consumes answer _ := answer.1 || answer.2

/-- A backend takes every frame, and else `on_frame_received` decides on each. -/
def rndisDataInterfaceHandler : DataInterfaceClass MessageBuffer (List UInt8)
    (MessageInChannel Handler) (MessageAction Handler) (Bool × (Nat → Bool)) Handler where
  inChannel := messageInChannel
  consumes answer data := answer.1 || (Rndis.offer answer.2 data).2

end Handlers

variable {Buffer Item State Action Answer Handler : Type}
  (c : DataInterfaceClass Buffer Item State Action Answer Handler)

namespace DataInterfaceHandler

/-- A transfer that the handler is given; a disconnected channel ignores it. -/
def receive (seqnum : UInt32) (disconnected : Bool) (s : DataInterfaceHandler State Handler) :
    DataInterfaceHandler State Handler :=
  { s with
    received := s.received ++ [seqnum]
    ignored := s.ignored ++ if disconnected then [seqnum] else [] }

def reply (ret : UsbIpRetSubmit Handler) (s : DataInterfaceHandler State Handler) :
    DataInterfaceHandler State Handler :=
  { s with replies := s.replies ++ [ret] }

def handleBulkTransfer (ep : UsbEndpoint) (seqnum length : UInt32) (owner : Option Handler)
    (transfer : GenericTransfer) (pulled : List UInt8) (answer : Answer) (notified : Option Nat)
    (s : DataInterfaceHandler State Handler) : Option (DataInterfaceHandler State Handler) :=
  if ep.isIn then
    (c.inChannel.system.step s.inChannel
      (c.inChannel.base (.onInRequest ep.address seqnum length owner transfer pulled))).map
        fun inChannel =>
          { s.receive seqnum (c.inChannel.channel s.inChannel).disconnected with inChannel }
  else if c.consumes answer transfer.data then
    some ((s.receive seqnum false).reply
      (.createRetSubmitOkWithoutData seqnum (UInt32.ofNat transfer.data.length)))
  else
    (s.outChannel.onOutRequest ep.address seqnum (some transfer) none notified).map
      fun outChannel => { s.receive seqnum s.outChannel.channel.disconnected with outChannel }

/-- The critical section of `cancel_pending` that a call of `handle_unlink_seqnum` is at; where the
IN channel has cancelled a request, the OUT channel is not asked. -/
def cancelPending (call : UnlinkCall) (s : DataInterfaceHandler State Handler) :
    Option (DataInterfaceHandler State Handler) :=
  match call.pc with
  | .inChannel =>
      (c.inChannel.system.step s.inChannel
        (c.inChannel.base (.cancelPending call.unlinkSeqnum))).map fun inChannel =>
          let cancelled := ((c.inChannel.channel s.inChannel).cancelPending call.unlinkSeqnum).1
          { s with
            inChannel
            unlinking := some { call with
              pc := if cancelled then .replying true else .outChannel } }
  | .outChannel =>
      let cancelled := (s.outChannel.channel.cancelPending call.unlinkSeqnum).isSome
      some
        { s with
          outChannel := s.outChannel.cancelPending call.unlinkSeqnum
          unlinking := some { call with pc := .replying cancelled } }
  | .replying _ => none

/-- The end of `handle_unlink_seqnum`. -/
def submitRetUnlink (call : UnlinkCall) (s : DataInterfaceHandler State Handler) :
    Option (DataInterfaceHandler State Handler) :=
  match call.pc with
  | .replying cancelled =>
      some
        { s with
          unlinking := none
          unlinks := s.unlinks ++
            [(call.unlinkSeqnum,
              .createRetUnlink call.cmdSeqnum (if cancelled then statusECONNRESET else 0))] }
  | _ => none

/-- The receiver makes one call after the other. -/
def step (s : DataInterfaceHandler State Handler) :
    DataInterfaceAction Action Answer Handler → Option (DataInterfaceHandler State Handler)
  | .handleBulkTransfer ep seqnum length owner transfer pulled answer notified =>
      if s.unlinking = none then
        s.handleBulkTransfer c ep seqnum length owner transfer pulled answer notified
      else none
  | .handleNonStandardRequestTypeControlUrb seqnum =>
      if s.unlinking = none then
        some ((s.receive seqnum false).reply (.createRetSubmitEpipeWithoutData seqnum 0))
      else none
  | .handleUnlinkSeqnum unlinkSeqnum cmdSeqnum =>
      if s.unlinking = none then
        some { s with unlinking := some { unlinkSeqnum, cmdSeqnum, pc := .inChannel } }
      else none
  | .cancelPending => s.unlinking.bind fun call => s.cancelPending c call
  | .submitRetUnlink => s.unlinking.bind fun call => s.submitRetUnlink call
  | .inChannel a =>
      if c.inChannel.ofReceiver a then none
      else (c.inChannel.system.step s.inChannel a).map fun inChannel => { s with inChannel }
  | .outChannel a =>
      if outOfReceiver a then none
      else (s.outChannel.step a).map fun outChannel => { s with outChannel }

def system : System (DataInterfaceHandler State Handler)
    (DataInterfaceAction Action Answer Handler) where
  initial s := ∃ inChannel maxPending, c.inChannel.system.initial inChannel ∧
    s = { inChannel, outChannel := .create maxPending, unlinking := none, received := [],
          ignored := [], replies := [], unlinks := [] }
  step := step c

/-- The sequence numbers of the transfers that wait in the channels. -/
def waiting (s : DataInterfaceHandler State Handler) : List UInt32 :=
  (c.inChannel.channel s.inChannel).endpointRequests.elements.map (·.seqnum) ++
    s.outChannel.channel.pending.map (·.seqnum)

/-- The `RET_SUBMIT`s that have been submitted. -/
def retSubmits (s : DataInterfaceHandler State Handler) : List (UsbIpRetSubmit Handler) :=
  s.replies ++ (allReplies (c.inChannel.channel s.inChannel)).map (·.ret) ++ s.outChannel.replies

/-- How many transfers with a sequence number have been cancelled, by the `RET_UNLINK`s with
`-ECONNRESET` that have been submitted and the one that is about to be. -/
def unlinked (s : DataInterfaceHandler State Handler) (seqnum : UInt32) : Nat :=
  s.unlinks.countP (fun entry => entry.1 = seqnum ∧ entry.2.status = statusECONNRESET) +
    s.unlinking.toList.countP fun call => call.unlinkSeqnum = seqnum ∧ call.pc = .replying true

/-- How many have been ignored or dropped because the connection had ended. -/
def dropped (s : DataInterfaceHandler State Handler) (seqnum : UInt32) : Nat :=
  s.ignored.count seqnum + (inTally (c.inChannel.channel s.inChannel)).dropped seqnum +
    (outTally s.outChannel).dropped seqnum

/-- What a call of `handle_unlink_seqnum` knows of the channels that it has been at. -/
def Searched (inWaiting outWaiting : Nat) : UnlinkPc → Prop
  | .inChannel => True
  | .outChannel => inWaiting = 0
  | .replying cancelled => cancelled = false → inWaiting = 0 ∧ outWaiting = 0

theorem Searched.mono {i i' o o' : Nat} {pc : UnlinkPc} (h : Searched i o pc) (hi : i' ≤ i)
    (ho : o' ≤ o) : Searched i' o' pc := by
  cases pc with
  | inChannel => exact trivial
  | outChannel => exact Nat.le_zero.mp (hi.trans (Nat.le_of_eq h))
  | replying cancelled =>
      intro hnot
      obtain ⟨hin, hout⟩ := h hnot
      exact ⟨Nat.le_zero.mp (hi.trans (Nat.le_of_eq hin)),
        Nat.le_zero.mp (ho.trans (Nat.le_of_eq hout))⟩

/-- The tallies of the two channels together are those of the handler. -/
structure Accounted (s : DataInterfaceHandler State Handler) : Prop where
  booked : Booked (c.inChannel.channel s.inChannel)
  settled : Settled s.outChannel
  transfers : WithTransfers s.outChannel
  received : ∀ seqnum, s.received.count seqnum =
    (inTally (c.inChannel.channel s.inChannel)).arrived seqnum +
      (outTally s.outChannel).arrived seqnum +
      (s.replies.map (·.header.seqnum)).count seqnum + s.ignored.count seqnum
  unlinked : ∀ seqnum, s.unlinked seqnum =
    (inTally (c.inChannel.channel s.inChannel)).withdrawn seqnum +
      (outTally s.outChannel).withdrawn seqnum
  searched : ∀ call, s.unlinking = some call →
    Searched ((inTally (c.inChannel.channel s.inChannel)).waiting call.unlinkSeqnum)
      ((outTally s.outChannel).waiting call.unlinkSeqnum) call.pc

variable {c} {s t : DataInterfaceHandler State Handler}

theorem accounted_initial (h : (system c).initial s) : Accounted c s := by
  obtain ⟨inChannel, maxPending, hin, rfl⟩ := h
  obtain ⟨buffer, hchannel⟩ := c.inChannel.created inChannel hin
  constructor
  · rw [hchannel]
    exact booked_create buffer
  · exact settled_create maxPending
  · exact fun _ hmem => absurd hmem List.not_mem_nil
  · intro seqnum
    rw [hchannel]
    rfl
  · intro seqnum
    rw [hchannel]
    rfl
  · exact fun _ h => absurd h (Option.some_ne_none _).symm

/-- A step that the tallies of the channels account for. -/
theorem Accounted.moves {cameIn cameOut goneIn goneOut : List UInt32} (hs : Accounted c s)
    (hbooked : Booked (c.inChannel.channel t.inChannel)) (hsettled : Settled t.outChannel)
    (htransfers : WithTransfers t.outChannel)
    (hin : Tally.Moves cameIn goneIn (inTally (c.inChannel.channel s.inChannel))
      (inTally (c.inChannel.channel t.inChannel)))
    (hout : Tally.Moves cameOut goneOut (outTally s.outChannel) (outTally t.outChannel))
    (hreceived : ∀ seqnum, t.received.count seqnum +
        ((s.replies.map (·.header.seqnum)).count seqnum + s.ignored.count seqnum) =
      s.received.count seqnum + cameIn.count seqnum + cameOut.count seqnum +
        ((t.replies.map (·.header.seqnum)).count seqnum + t.ignored.count seqnum))
    (hunlinked : ∀ seqnum, t.unlinked seqnum =
      s.unlinked seqnum + goneIn.count seqnum + goneOut.count seqnum)
    (hsearched : ∀ call, t.unlinking = some call →
      Searched ((inTally (c.inChannel.channel t.inChannel)).waiting call.unlinkSeqnum)
        ((outTally t.outChannel).waiting call.unlinkSeqnum) call.pc) : Accounted c t where
  booked := hbooked
  settled := hsettled
  transfers := htransfers
  received seqnum := by
    have hbefore := hs.received seqnum
    have hstep := hreceived seqnum
    rw [hin.arrived, hout.arrived]
    omega
  unlinked seqnum := by
    rw [hin.withdrawn, hout.withdrawn, hunlinked, hs.unlinked]
    omega
  searched := hsearched

theorem withTransfers_onOutRequest {q q' : OutChannelRun Handler} {ep : UInt8} {seqnum : UInt32}
    {transfer : GenericTransfer} {notified : Option Nat} (hq : WithTransfers q)
    (h : q.onOutRequest ep seqnum (some transfer) none notified = some q') :
    WithTransfers q' := by
  have hconcat (r : PendingRequest) (hr : r.transfer = some transfer) :
      ∀ r' ∈ q.arrived ++ [r], r'.transfer.isSome = true := by
    intro r' hmem
    rcases List.mem_append.mp hmem with hmem | hmem
    · exact hq r' hmem
    · rw [List.mem_singleton.mp hmem, hr]
      rfl
  unfold OutChannelRun.onOutRequest at h
  dsimp only at h
  split at h
  next => exact Option.some.inj h ▸ hq
  next =>
    split at h
    next => exact Option.some.inj h ▸ hconcat _ rfl
    next =>
      obtain ⟨calls, -, rfl⟩ := Option.map_eq_some_iff.mp h
      exact hconcat _ rfl

/-- A transfer that the handler answers by itself. -/
theorem accounted_reply {ret : UsbIpRetSubmit Handler} {seqnum : UInt32} (hs : Accounted c s)
    (hidle : s.unlinking = none) (hret : ret.header.seqnum = seqnum) :
    Accounted c ((s.receive seqnum false).reply ret) := by
  refine hs.moves hs.booked hs.settled hs.transfers Tally.Moves.rfl Tally.Moves.rfl ?_
    (fun _ => rfl) fun call hcall => absurd (hidle.symm.trans hcall) (by simp)
  intro k
  simp only [receive, reply, hret, List.map_append, List.map_cons, List.map_nil,
    List.count_append, List.count_nil, if_false, Bool.false_eq_true]
  omega

theorem accounted_handleBulkTransfer {ep : UsbEndpoint} {seqnum length : UInt32}
    {owner : Option Handler} {transfer : GenericTransfer} {pulled : List UInt8} {answer : Answer}
    {notified : Option Nat} (hs : Accounted c s) (hidle : s.unlinking = none)
    (h : s.handleBulkTransfer c ep seqnum length owner transfer pulled answer notified = some t) :
    Accounted c t := by
  unfold handleBulkTransfer at h
  split at h
  next =>
    obtain ⟨inChannel, hstep, rfl⟩ := Option.map_eq_some_iff.mp h
    have hbooked := c.inChannel.booked_step _ _ _ hs.booked hstep
    have hadds := @adds_onInRequest _ _ _ c.inChannel.derived ep.address seqnum length owner
      transfer pulled (c.inChannel.channel s.inChannel)
    rw [← c.inChannel.channel_onInRequest _ _ _ _ _ _ _ _ hstep] at hadds
    have hmoves := @moves_inTally _ _ _ _ _ _ _ [] hs.booked hadds rfl
    refine hs.moves hbooked hs.settled hs.transfers hmoves Tally.Moves.rfl ?_ (fun _ => rfl)
      fun call hcall => absurd (hidle.symm.trans hcall) (by simp)
    intro k
    simp only [receive, List.count_append]
    split
    · simp only [List.map_nil, List.count_nil]
      omega
    · simp only [List.map_cons, List.map_nil, List.count_nil]
      omega
  next =>
    split at h
    next =>
      obtain rfl := Option.some.inj h
      exact accounted_reply hs hidle rfl
    next =>
      obtain ⟨outChannel, hstep, rfl⟩ := Option.map_eq_some_iff.mp h
      have hsettled : Settled outChannel :=
        settled_step (a := .onOutRequest ep.address seqnum (some transfer) none notified)
          hs.settled hstep
      refine hs.moves hs.booked hsettled (withTransfers_onOutRequest hs.transfers hstep)
        Tally.Moves.rfl (moves_onOutRequest hs.settled hstep) ?_ (fun _ => rfl)
        fun call hcall => absurd (hidle.symm.trans hcall) (by simp)
      intro k
      simp only [receive, List.count_append]
      split
      · simp only [List.count_nil]
        omega
      · simp only [List.count_nil]
        omega

theorem unlinked_of_call {call : UnlinkCall} (hcall : s.unlinking = some call) (seqnum : UInt32) :
    s.unlinked seqnum =
      s.unlinks.countP (fun entry => entry.1 = seqnum ∧ entry.2.status = statusECONNRESET) +
        if call.unlinkSeqnum = seqnum ∧ call.pc = .replying true then 1 else 0 := by
  simp [DataInterfaceHandler.unlinked, hcall, List.countP_cons]

theorem accounted_cancelPending {call : UnlinkCall} (hs : Accounted c s)
    (hcall : s.unlinking = some call) (h : s.cancelPending c call = some t) :
    Accounted c t := by
  have hsearched := hs.searched call hcall
  have hunlinked := unlinked_of_call hcall
  unfold cancelPending at h
  split at h
  next hpc =>
    obtain ⟨inChannel, hstep, rfl⟩ := Option.map_eq_some_iff.mp h
    have hbooked := c.inChannel.booked_step _ _ _ hs.booked hstep
    have hchannel := c.inChannel.channel_cancelPending _ _ _ hstep
    rcases moves_cancelPending call.unlinkSeqnum hs.booked with ⟨hfound, hmoves⟩ | ⟨hsame, hnone⟩
    · rw [← hchannel] at hmoves
      refine hs.moves hbooked hs.settled hs.transfers hmoves Tally.Moves.rfl
        (fun _ => by simp) (fun k => ?_) fun call' hcall' => ?_
      · rw [hunlinked, unlinked_of_call rfl]
        simp [hfound, hpc, List.count_cons]
      · obtain rfl := Option.some.inj hcall'
        simp [hfound, Searched]
    · have hmissed : ((c.inChannel.channel s.inChannel).cancelPending call.unlinkSeqnum).1 =
          false := by rw [hsame]
      rw [hsame] at hchannel
      have hmoves : Tally.Moves [] [] (inTally (c.inChannel.channel s.inChannel))
          (inTally (c.inChannel.channel inChannel)) := by
        rw [hchannel]
        exact Tally.Moves.rfl
      refine hs.moves hbooked hs.settled hs.transfers hmoves Tally.Moves.rfl
        (fun _ => by simp) (fun k => ?_) fun call' hcall' => ?_
      · rw [hunlinked, unlinked_of_call rfl]
        simp [hmissed, hpc]
      · obtain rfl := Option.some.inj hcall'
        simpa [hmissed, Searched, hchannel] using hnone
  next hpc =>
    obtain rfl := Option.some.inj h
    have hsettled : Settled (s.outChannel.cancelPending call.unlinkSeqnum) :=
      settled_step (a := .cancelPending call.unlinkSeqnum) hs.settled rfl
    have htransfers : WithTransfers (s.outChannel.cancelPending call.unlinkSeqnum) := by
      have harrived : (s.outChannel.cancelPending call.unlinkSeqnum).arrived =
          s.outChannel.arrived := by
        unfold OutChannelRun.cancelPending
        split
        · rfl
        · rfl
      rw [WithTransfers, harrived]
      exact hs.transfers
    rcases moves_cancelOut call.unlinkSeqnum hs.settled with
      ⟨hfound, hmoves⟩ | ⟨hmissed, hsame, hnone⟩
    · refine hs.moves hs.booked hsettled htransfers Tally.Moves.rfl hmoves
        (fun _ => by simp) (fun k => ?_) fun call' hcall' => ?_
      · rw [hunlinked, unlinked_of_call rfl]
        simp [hfound, hpc, List.count_cons]
      · obtain rfl := Option.some.inj hcall'
        simp [hfound, Searched]
    · have hmoves : Tally.Moves [] [] (outTally s.outChannel)
          (outTally (s.outChannel.cancelPending call.unlinkSeqnum)) := by
        rw [hsame]
        exact Tally.Moves.rfl
      refine hs.moves hs.booked hsettled htransfers Tally.Moves.rfl hmoves
        (fun _ => by simp) (fun k => ?_) fun call' hcall' => ?_
      · rw [hunlinked, unlinked_of_call rfl]
        simp [hmissed, hpc]
      · obtain rfl := Option.some.inj hcall'
        rw [hpc] at hsearched
        exact fun _ => ⟨hsearched, hsame ▸ hnone⟩
  next => cases h

theorem accounted_submitRetUnlink {call : UnlinkCall} (hs : Accounted c s)
    (hcall : s.unlinking = some call) (h : s.submitRetUnlink call = some t) :
    Accounted c t := by
  unfold submitRetUnlink at h
  split at h
  next cancelled hpc =>
    obtain rfl := Option.some.inj h
    refine hs.moves hs.booked hs.settled hs.transfers Tally.Moves.rfl Tally.Moves.rfl
      (fun _ => rfl) (fun k => ?_) fun _ hnone => absurd hnone (by simp)
    rw [unlinked_of_call hcall]
    cases cancelled with
    | true =>
        simp [DataInterfaceHandler.unlinked, hpc, List.countP_append, List.countP_cons,
          UsbIpRetUnlink.createRetUnlink]
    | false =>
        have hstatus : (0 : UInt32) ≠ statusECONNRESET := by decide
        simp [DataInterfaceHandler.unlinked, hpc, List.countP_append,
          UsbIpRetUnlink.createRetUnlink, hstatus]
  next => cases h

theorem accounted_step {a : DataInterfaceAction Action Answer Handler} (hs : Accounted c s)
    (h : s.step c a = some t) : Accounted c t := by
  cases a with
  | handleBulkTransfer ep seqnum length owner transfer pulled answer notified =>
      obtain ⟨hidle, hstep⟩ := Option.ite_none_right_eq_some.mp h
      exact accounted_handleBulkTransfer hs hidle hstep
  | handleNonStandardRequestTypeControlUrb seqnum =>
      obtain ⟨hidle, hstep⟩ := Option.ite_none_right_eq_some.mp h
      obtain rfl := Option.some.inj hstep
      exact accounted_reply hs hidle rfl
  | handleUnlinkSeqnum unlinkSeqnum cmdSeqnum =>
      obtain ⟨hidle, hstep⟩ := Option.ite_none_right_eq_some.mp h
      obtain rfl := Option.some.inj hstep
      refine hs.moves hs.booked hs.settled hs.transfers Tally.Moves.rfl Tally.Moves.rfl
        (fun _ => rfl) (fun k => ?_) fun call hcall => ?_
      · rw [unlinked_of_call rfl]
        simp [DataInterfaceHandler.unlinked, hidle]
      · obtain rfl := Option.some.inj hcall
        exact trivial
  | cancelPending =>
      obtain ⟨call, hcall, hstep⟩ := Option.bind_eq_some_iff.mp h
      exact accounted_cancelPending hs hcall hstep
  | submitRetUnlink =>
      obtain ⟨call, hcall, hstep⟩ := Option.bind_eq_some_iff.mp h
      exact accounted_submitRetUnlink hs hcall hstep
  | inChannel a =>
      obtain ⟨hother, hmap⟩ := Option.ite_none_left_eq_some.mp h
      obtain ⟨inChannel, hstep, rfl⟩ := Option.map_eq_some_iff.mp hmap
      have hbooked := c.inChannel.booked_step _ _ _ hs.booked hstep
      have hmoves : Tally.Moves [] [] _ _ := @moves_inTally _ _ _ _ _ [] [] [] hs.booked
        (c.inChannel.adds_step _ _ _ (by simpa using hother) hstep) rfl
      refine hs.moves hbooked hs.settled hs.transfers hmoves Tally.Moves.rfl (fun _ => by simp)
        (fun _ => rfl) fun call hcall => (hs.searched call hcall).mono ?_ (Nat.le_refl _)
      exact hmoves.waiting_le (balanced_inTally hs.booked) (balanced_inTally hbooked) _
  | outChannel a =>
      obtain ⟨hother, hmap⟩ := Option.ite_none_left_eq_some.mp h
      obtain ⟨outChannel, hstep, rfl⟩ := Option.map_eq_some_iff.mp hmap
      have hother : outOfReceiver a = false := by simpa using hother
      have hsettled := settled_step hs.settled hstep
      have htransfers : WithTransfers outChannel := by
        rw [WithTransfers, arrived_of_step hother hstep]
        exact hs.transfers
      have hmoves := moves_outStep hs.settled hother hstep
      refine hs.moves hs.booked hsettled htransfers Tally.Moves.rfl hmoves (fun _ => by simp)
        (fun _ => rfl) fun call hcall => (hs.searched call hcall).mono (Nat.le_refl _) ?_
      exact hmoves.waiting_le (balanced_outTally hs.settled) (balanced_outTally hsettled) _

theorem accounted_of_reachable (h : Reachable (system c) s) : Accounted c s :=
  h.invariant (fun _ => accounted_initial) fun _ _ _ => accounted_step

theorem Accounted.count_waiting (h : Accounted c s) (seqnum : UInt32) :
    (s.waiting c).count seqnum =
      (inTally (c.inChannel.channel s.inChannel)).waiting seqnum +
        (outTally s.outChannel).waiting seqnum := by
  rw [waiting, List.count_append, waiting_inTally h.booked, waiting_outTally h.settled]

theorem Accounted.count_retSubmits (h : Accounted c s) (seqnum : UInt32) :
    ((s.retSubmits c).map (·.header.seqnum)).count seqnum =
      (s.replies.map (·.header.seqnum)).count seqnum +
        (inTally (c.inChannel.channel s.inChannel)).answered seqnum +
        (outTally s.outChannel).answered seqnum := by
  rw [retSubmits, List.map_append, List.map_append, List.count_append, List.count_append,
    List.map_map, answered_inTally h.booked, answered_outTally h.settled h.transfers]
  rfl

/-- Whatever the receiver, the application and the ends of connections do in between, each transfer
that the handler of a data interface has been given waits, or has been answered by one
`RET_SUBMIT`, or has been unlinked by one `RET_UNLINK` with `-ECONNRESET`, or has been dropped with
its connection.  A `RET_UNLINK` without that status is submitted only when no transfer with the
sequence number waits any more. -/
theorem transfers_accounted (h : Reachable (system c) s) :
    (∀ seqnum, s.received.count seqnum =
      (s.waiting c).count seqnum + ((s.retSubmits c).map (·.header.seqnum)).count seqnum +
        s.unlinked seqnum + s.dropped c seqnum) ∧
    ∀ t, s.step c .submitRetUnlink = some t → ∃ call ret, s.unlinking = some call ∧
      t = { s with unlinking := none, unlinks := s.unlinks ++ [(call.unlinkSeqnum, ret)] } ∧
      ret.header.seqnum = call.cmdSeqnum ∧
      (ret.status = statusECONNRESET ∨
        ret.status = 0 ∧ call.unlinkSeqnum ∉ s.waiting c) := by
  have hs := accounted_of_reachable h
  refine ⟨fun seqnum => ?_, fun t hstep => ?_⟩
  · have hin := balanced_inTally hs.booked seqnum
    have hout := balanced_outTally hs.settled seqnum
    rw [hs.received, hs.count_waiting, hs.count_retSubmits, hs.unlinked, dropped]
    omega
  · obtain ⟨call, hcall, hreply⟩ := Option.bind_eq_some_iff.mp hstep
    have hsearched := hs.searched call hcall
    unfold submitRetUnlink at hreply
    split at hreply
    next cancelled hpc =>
      refine ⟨call, _, hcall, (Option.some.inj hreply).symm, rfl, ?_⟩
      rw [hpc] at hsearched
      cases cancelled with
      | true => exact .inl rfl
      | false =>
          obtain ⟨hin, hout⟩ := hsearched rfl
          refine .inr ⟨rfl, List.count_eq_zero.mp ?_⟩
          rw [hs.count_waiting, hin, hout]
    next => cases hreply

/-- An IN transfer waits and is unlinked, and an OUT transfer that the application has not used up
is taken while an unlink looks for it. -/
def unlinkedTransfers : List (DataInterfaceAction (ByteStreamAction Unit) Bool Unit) :=
  [.inChannel (.base .onNewConnection), .outChannel .onNewConnection,
    .handleBulkTransfer ⟨0x81, 2⟩ 7 1 none (inTransfer 1) [] false none,
    .handleBulkTransfer ⟨0x02, 2⟩ 8 1 none (outTransfer [5]) [] false none,
    .handleUnlinkSeqnum 7 9, .cancelPending, .submitRetUnlink,
    .handleUnlinkSeqnum 8 10, .cancelPending, .outChannel .tryTake, .cancelPending]

theorem transfers_accounted_instance :
    ∃ s : DataInterfaceHandler (ByteStreamInChannel Unit) Unit,
      s.received = [7, 8] ∧
        (s.retSubmits cdcAcmDataInterfaceHandler).map (·.header.seqnum) = [8] ∧
        s.unlinks = [(7, .createRetUnlink 9 statusECONNRESET)] ∧
        s.received.count 7 = (s.waiting cdcAcmDataInterfaceHandler).count 7 +
          ((s.retSubmits cdcAcmDataInterfaceHandler).map (·.header.seqnum)).count 7 +
          s.unlinked 7 + s.dropped cdcAcmDataInterfaceHandler 7 := by
  obtain ⟨s, hrun, hreceived, hsubmits, hunlinks⟩ :
      ∃ s, (system cdcAcmDataInterfaceHandler).run
          { inChannel := .create 4, outChannel := .create 0, unlinking := none, received := [],
            ignored := [], replies := [], unlinks := [] } unlinkedTransfers = some s ∧
        s.received = [7, 8] ∧
        (s.retSubmits cdcAcmDataInterfaceHandler).map (·.header.seqnum) = [8] ∧
        s.unlinks = [(7, .createRetUnlink 9 statusECONNRESET)] :=
    ⟨_, rfl, rfl, rfl, rfl⟩
  have hreach : Reachable (system cdcAcmDataInterfaceHandler) s :=
    Reachable.run unlinkedTransfers (.initial ⟨_, 0, ⟨4, rfl⟩, rfl⟩) hrun
  exact ⟨s, hreceived, hsubmits, hunlinks, (transfers_accounted hreach).1 7⟩

end DataInterfaceHandler

end Usbipdcpp.VirtualDevice.DataInterface
