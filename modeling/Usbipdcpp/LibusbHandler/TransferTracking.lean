import Mathlib.Logic.Function.Basic
import Usbipdcpp.Foundation.TransitionSystem
import Usbipdcpp.LibusbHandler.TransferCallback

namespace Usbipdcpp.LibusbHandler.TransferTracking

open Protocol VirtualDevice Foundation.TransitionSystem

inductive LibusbSubmitErrorPolicy where
  | disconnectOnAnyError
  | disconnectOnDeviceGone
  deriving DecidableEq, Repr

def libusbErrorNoDevice : Int := -4

def shouldDisconnectOnSubmitError (err : Int) (policy : LibusbSubmitErrorPolicy) : Bool :=
  err == libusbErrorNoDevice || policy == .disconnectOnAnyError

/-- Where a transfer in `transfers_` stands: before `libusb_submit_transfer` has come back, with
libusb, and in its callback, past the look at `client_disconnection`. -/
inductive TransferStage where
  | tracked
  | submitted
  | completed (trx : LibusbTransfer)
  deriving DecidableEq, Repr

structure LibusbCallbackArgs where
  args : SubmittedTransfer
  unlinking : Bool
  unlinkCmdSeqnum : UInt32
  stage : TransferStage
  deriving DecidableEq, Repr

/-- Where the receiver's thread stands in `receive_urb` and `handle_unlink_seqnum`, between their
accesses to what it shares with the callbacks. -/
inductive ReceiverPc (Handler : Type) where
  | idle
  | tracking (args : SubmittedTransfer)
  | submitting (seqnum : UInt32)
  | submitFailed (seqnum : UInt32) (err : Int)
  | answering (ret : UsbIpRetSubmit Handler) (noDevice : Bool)
  | unlinking (unlinkSeqnum cmdSeqnum : UInt32)
  | stopped

/-- What is received and what is enqueued for the sender, in this order, and what becomes of the
transfers that nothing is enqueued for.  A `RET_UNLINK` comes from the callback of a transfer or
from the `handle_unlink_seqnum` that has not found it. -/
inductive HandlerEvent (Handler : Type) where
  | received (seqnum : UInt32)
  | refused (seqnum : UInt32)
  | marked (seqnum cmdSeqnum : UInt32)
  | retSubmit (ret : UsbIpRetSubmit Handler)
  | retUnlink (seqnum : UInt32) (ret : UsbIpRetUnlink)
  | notFound (seqnum : UInt32) (ret : UsbIpRetUnlink)
  | abandoned (seqnum : UInt32)

/-- The members of `LibusbDeviceHandler` that the receiver and the callbacks share, for one
connection. -/
structure LibusbDeviceHandler (Handler : Type) where
  deviceRemoved : Bool
  clientDisconnection : Bool
  transfers : UInt32 → Option LibusbCallbackArgs
  receiver : ReceiverPc Handler
  events : List (HandlerEvent Handler)

/-- The steps of the receiver, of libusb's event thread and of a backend that finds the device gone.
Libusb calls back once for each transfer that it has taken, whenever it likes, with what it likes
to report. -/
inductive HandlerAction where
  | receiveUrb (cmd : CmdSubmitFields) (trx : LibusbTransfer) (ep : UsbEndpoint)
      (hasInterface tweaked : Bool)
  | track
  | submitTransfer (err : Int)
  | untrack
  | submitRetSubmit
  | handleUnlinkSeqnum (unlinkSeqnum cmdSeqnum : UInt32)
  | findUnlinked
  | onDeviceRemoved
  | onDisconnection
  | transferCallback (seqnum : UInt32) (trx : LibusbTransfer)
  | enqueueReply (seqnum : UInt32)

variable {Handler : Type}

/-- The answer to a URB for which no transfer is submitted. -/
def immediateReply (cmd : CmdSubmitFields) (ep : UsbEndpoint) (tweaked : Bool) :
    UsbIpRetSubmit Handler :=
  if ep.attributes = EndpointAttributes.control.toUInt8 ∧ tweaked = true then
    .createRetSubmitOkWithoutData cmd.header.seqnum cmd.transferBufferLength
  else .createRetSubmitEpipeWithoutData cmd.header.seqnum 0

/-- A short packet that the client accepts counts as completed. -/
def callbackStatus (args : SubmittedTransfer) (trx : LibusbTransfer) : LibusbTransferStatus :=
  if trx.status = .error ∧ args.shortNotOk = false then .completed else trx.status

namespace LibusbDeviceHandler

def create : LibusbDeviceHandler Handler where
  deviceRemoved := false
  clientDisconnection := false
  transfers := fun _ => none
  receiver := .idle
  events := []

def setTransfer (seqnum : UInt32) (transfer : Option LibusbCallbackArgs)
    (s : LibusbDeviceHandler Handler) : LibusbDeviceHandler Handler :=
  { s with transfers := Function.update s.transfers seqnum transfer }

def record (event : HandlerEvent Handler) (s : LibusbDeviceHandler Handler) :
    LibusbDeviceHandler Handler :=
  { s with events := s.events ++ [event] }

/-- `receive_urb` up to the lock on `transfers_`. -/
def receiveUrb (cmd : CmdSubmitFields) (trx : LibusbTransfer) (ep : UsbEndpoint)
    (hasInterface tweaked : Bool) (s : LibusbDeviceHandler Handler) :
    LibusbDeviceHandler Handler :=
  let s := s.record (.received cmd.header.seqnum)
  if s.deviceRemoved then { s.record (.refused cmd.header.seqnum) with receiver := .stopped }
  else
    match LibusbHandler.receiveUrb cmd trx ep hasInterface tweaked with
    | some args => { s with receiver := .tracking args }
    | none => { s with receiver := .answering (immediateReply cmd ep tweaked) false }

/-- A seqnum that is in flight already is answered without being submitted. -/
def track (args : SubmittedTransfer) (s : LibusbDeviceHandler Handler) :
    LibusbDeviceHandler Handler :=
  match s.transfers args.seqnum with
  | some _ =>
      { s with receiver := .answering (.createRetSubmitEpipeWithoutData args.seqnum 0) false }
  | none =>
      { s.setTransfer args.seqnum (some ⟨args, false, 0, .tracked⟩) with
        receiver := .submitting args.seqnum }

def submitTransfer (seqnum : UInt32) (err : Int) (s : LibusbDeviceHandler Handler) :
    LibusbDeviceHandler Handler :=
  if err < 0 then { s with receiver := .submitFailed seqnum err }
  else
    { s.setTransfer seqnum ((s.transfers seqnum).map fun cb => { cb with stage := .submitted }) with
      receiver := .idle }

def untrack (policy : LibusbSubmitErrorPolicy) (seqnum : UInt32) (err : Int)
    (s : LibusbDeviceHandler Handler) : LibusbDeviceHandler Handler :=
  { s.setTransfer seqnum none with
    receiver := .answering (.createRetSubmitEpipeWithoutData seqnum 0)
      (shouldDisconnectOnSubmitError err policy) }

/-- The receiver does not go on after a lost device. -/
def submitRetSubmit (ret : UsbIpRetSubmit Handler) (noDevice : Bool)
    (s : LibusbDeviceHandler Handler) : LibusbDeviceHandler Handler :=
  { s.record (.retSubmit ret) with
    deviceRemoved := s.deviceRemoved || noDevice
    receiver := if noDevice then .stopped else .idle }

/-- `handle_unlink_seqnum` under the shared lock.  The cancellation is libusb's affair: a transfer
that it has taken comes back either way. -/
def findUnlinked (unlinkSeqnum cmdSeqnum : UInt32) (s : LibusbDeviceHandler Handler) :
    LibusbDeviceHandler Handler :=
  let s := { s with receiver := .idle }
  match s.transfers unlinkSeqnum with
  | some cb =>
      (s.setTransfer unlinkSeqnum
        (some { cb with unlinking := true, unlinkCmdSeqnum := cmdSeqnum })).record
          (.marked unlinkSeqnum cmdSeqnum)
  | none => s.record (.notFound unlinkSeqnum (.createRetUnlink cmdSeqnum 0))

/-- `transfer_callback` up to the lock on `transfers_`. -/
def transferCallback (seqnum : UInt32) (cb : LibusbCallbackArgs) (trx : LibusbTransfer)
    (s : LibusbDeviceHandler Handler) : LibusbDeviceHandler Handler :=
  if s.clientDisconnection then (s.setTransfer seqnum none).record (.abandoned seqnum)
  else
    { s.setTransfer seqnum (some { cb with stage := .completed trx }) with
      deviceRemoved := s.deviceRemoved || trx.status == .noDevice }

/-- Under the lock the callback gives up the transfer, looks for an unlink and enqueues. -/
def enqueueReply (seqnum : UInt32) (cb : LibusbCallbackArgs) (trx : LibusbTransfer)
    (s : LibusbDeviceHandler Handler) : LibusbDeviceHandler Handler :=
  let s := s.setTransfer seqnum none
  if cb.unlinking then
    s.record (.retUnlink seqnum (.createRetUnlink cb.unlinkCmdSeqnum
      (LibusbTransferOperator.trxstat2error (callbackStatus cb.args trx))))
  else s.record (.retSubmit (retSubmit cb.args trx))

def step (policy : LibusbSubmitErrorPolicy) (s : LibusbDeviceHandler Handler) :
    HandlerAction → Option (LibusbDeviceHandler Handler)
  | .receiveUrb cmd trx ep hasInterface tweaked =>
      match s.receiver with
      | .idle => some (s.receiveUrb cmd trx ep hasInterface tweaked)
      | _ => none
  | .track =>
      match s.receiver with
      | .tracking args => some (s.track args)
      | _ => none
  | .submitTransfer err =>
      match s.receiver with
      | .submitting seqnum => some (s.submitTransfer seqnum err)
      | _ => none
  | .untrack =>
      match s.receiver with
      | .submitFailed seqnum err => some (s.untrack policy seqnum err)
      | _ => none
  | .submitRetSubmit =>
      match s.receiver with
      | .answering ret noDevice => some (s.submitRetSubmit ret noDevice)
      | _ => none
  | .handleUnlinkSeqnum unlinkSeqnum cmdSeqnum =>
      match s.receiver with
      | .idle =>
          if s.deviceRemoved then some s
          else some { s with receiver := .unlinking unlinkSeqnum cmdSeqnum }
      | _ => none
  | .findUnlinked =>
      match s.receiver with
      | .unlinking unlinkSeqnum cmdSeqnum => some (s.findUnlinked unlinkSeqnum cmdSeqnum)
      | _ => none
  | .onDeviceRemoved => some { s with deviceRemoved := true }
  | .onDisconnection =>
      match s.receiver with
      | .idle | .stopped => some { s with clientDisconnection := true, receiver := .stopped }
      | _ => none
  | .transferCallback seqnum trx =>
      match s.transfers seqnum with
      | some cb => if cb.stage = .submitted then some (s.transferCallback seqnum cb trx) else none
      | none => none
  | .enqueueReply seqnum =>
      match s.transfers seqnum with
      | some cb =>
          match cb.stage with
          | .completed trx => some (s.enqueueReply seqnum cb trx)
          | _ => none
      | none => none

/-- What each action does where it is enabled. -/
inductive Stepped (policy : LibusbSubmitErrorPolicy) (s : LibusbDeviceHandler Handler) :
    HandlerAction → LibusbDeviceHandler Handler → Prop
  | receiveUrb {cmd : CmdSubmitFields} {trx : LibusbTransfer} {ep : UsbEndpoint}
      {hasInterface tweaked : Bool} (hidle : s.receiver = .idle) :
      Stepped policy s (.receiveUrb cmd trx ep hasInterface tweaked)
        (s.receiveUrb cmd trx ep hasInterface tweaked)
  | track {args : SubmittedTransfer} (hreceiver : s.receiver = .tracking args) :
      Stepped policy s .track (s.track args)
  | submitTransfer {seqnum : UInt32} {err : Int} (hreceiver : s.receiver = .submitting seqnum) :
      Stepped policy s (.submitTransfer err) (s.submitTransfer seqnum err)
  | untrack {seqnum : UInt32} {err : Int} (hreceiver : s.receiver = .submitFailed seqnum err) :
      Stepped policy s .untrack (s.untrack policy seqnum err)
  | submitRetSubmit {ret : UsbIpRetSubmit Handler} {noDevice : Bool}
      (hreceiver : s.receiver = .answering ret noDevice) :
      Stepped policy s .submitRetSubmit (s.submitRetSubmit ret noDevice)
  | unlinkIgnored {unlinkSeqnum cmdSeqnum : UInt32} (hidle : s.receiver = .idle)
      (hremoved : s.deviceRemoved = true) :
      Stepped policy s (.handleUnlinkSeqnum unlinkSeqnum cmdSeqnum) s
  | unlinkBegun {unlinkSeqnum cmdSeqnum : UInt32} (hidle : s.receiver = .idle)
      (hremoved : s.deviceRemoved = false) :
      Stepped policy s (.handleUnlinkSeqnum unlinkSeqnum cmdSeqnum)
        { s with receiver := .unlinking unlinkSeqnum cmdSeqnum }
  | findUnlinked {unlinkSeqnum cmdSeqnum : UInt32}
      (hreceiver : s.receiver = .unlinking unlinkSeqnum cmdSeqnum) :
      Stepped policy s .findUnlinked (s.findUnlinked unlinkSeqnum cmdSeqnum)
  | onDeviceRemoved : Stepped policy s .onDeviceRemoved { s with deviceRemoved := true }
  | onDisconnection (hreceiver : s.receiver = .idle ∨ s.receiver = .stopped) :
      Stepped policy s .onDisconnection
        { s with clientDisconnection := true, receiver := .stopped }
  | transferCallback {seqnum : UInt32} {trx : LibusbTransfer} {cb : LibusbCallbackArgs}
      (hcb : s.transfers seqnum = some cb) (hstage : cb.stage = .submitted) :
      Stepped policy s (.transferCallback seqnum trx) (s.transferCallback seqnum cb trx)
  | enqueueReply {seqnum : UInt32} {trx : LibusbTransfer} {cb : LibusbCallbackArgs}
      (hcb : s.transfers seqnum = some cb) (hstage : cb.stage = .completed trx) :
      Stepped policy s (.enqueueReply seqnum) (s.enqueueReply seqnum cb trx)

theorem stepped_of_step {policy : LibusbSubmitErrorPolicy} {s t : LibusbDeviceHandler Handler}
    {a : HandlerAction} (h : s.step policy a = some t) : Stepped policy s a t := by
  cases a with
  | receiveUrb cmd trx ep hasInterface tweaked =>
      simp only [step] at h
      split at h
      next hidle =>
        obtain rfl := Option.some.inj h
        exact .receiveUrb hidle
      next => cases h
  | track =>
      simp only [step] at h
      split at h
      next args hreceiver =>
        obtain rfl := Option.some.inj h
        exact .track hreceiver
      next => cases h
  | submitTransfer err =>
      simp only [step] at h
      split at h
      next seqnum hreceiver =>
        obtain rfl := Option.some.inj h
        exact .submitTransfer hreceiver
      next => cases h
  | untrack =>
      simp only [step] at h
      split at h
      next seqnum err hreceiver =>
        obtain rfl := Option.some.inj h
        exact .untrack hreceiver
      next => cases h
  | submitRetSubmit =>
      simp only [step] at h
      split at h
      next ret noDevice hreceiver =>
        obtain rfl := Option.some.inj h
        exact .submitRetSubmit hreceiver
      next => cases h
  | handleUnlinkSeqnum unlinkSeqnum cmdSeqnum =>
      simp only [step] at h
      split at h
      next hidle =>
        split at h
        next hremoved =>
          obtain rfl := Option.some.inj h
          exact .unlinkIgnored hidle hremoved
        next hremoved =>
          obtain rfl := Option.some.inj h
          exact .unlinkBegun hidle (Bool.not_eq_true _ ▸ hremoved)
      next => cases h
  | findUnlinked =>
      simp only [step] at h
      split at h
      next unlinkSeqnum cmdSeqnum hreceiver =>
        obtain rfl := Option.some.inj h
        exact .findUnlinked hreceiver
      next => cases h
  | onDeviceRemoved =>
      obtain rfl := Option.some.inj h
      exact .onDeviceRemoved
  | onDisconnection =>
      simp only [step] at h
      split at h
      next hreceiver =>
        obtain rfl := Option.some.inj h
        exact .onDisconnection (Or.inl hreceiver)
      next hreceiver =>
        obtain rfl := Option.some.inj h
        exact .onDisconnection (Or.inr hreceiver)
      next => cases h
  | transferCallback seqnum trx =>
      simp only [step] at h
      split at h
      next cb hcb =>
        split at h
        next hstage =>
          obtain rfl := Option.some.inj h
          exact .transferCallback hcb hstage
        next => cases h
      next => cases h
  | enqueueReply seqnum =>
      simp only [step] at h
      split at h
      next cb hcb =>
        split at h
        next trx hstage =>
          obtain rfl := Option.some.inj h
          exact .enqueueReply hcb hstage
        next => cases h
      next => cases h

/-- The runs of one connection, `on_new_connection` behind it. -/
def system (policy : LibusbSubmitErrorPolicy) :
    System (LibusbDeviceHandler Handler) HandlerAction where
  initial s := s = create
  step := step policy

end LibusbDeviceHandler

end Usbipdcpp.LibusbHandler.TransferTracking
