import Usbipdcpp.Protocol.Responses
import Usbipdcpp.VirtualDevice.TransferScheduler

namespace Usbipdcpp.VirtualDevice

open Protocol Protocol.UrbStatusType Foundation.FirstMatch

/-- A request that a channel has parked. -/
structure Request where
  seqnum : UInt32
  length : UInt32
  deriving DecidableEq, Repr

/-- The parked IN requests of each endpoint, in the map's order. -/
abbrev EndpointRequestQueue : Type := List (UInt8 × List Request)

/-- The requests an `InEndpointChannel` has parked. -/
structure InEndpointChannel where
  endpointRequests : EndpointRequestQueue
  deriving DecidableEq, Repr

/-- The requests an `OutEndpointChannel` has parked. -/
structure OutEndpointChannel where
  pending : List Request
  deriving DecidableEq, Repr

def EndpointRequestQueue.cancelBySeqnum (seqnum : UInt32) :
    EndpointRequestQueue → Option EndpointRequestQueue :=
  updateFirstValue (eraseFirst (·.seqnum == seqnum))

namespace InEndpointChannel

def cancelPending (seqnum : UInt32) (channel : InEndpointChannel) : Option InEndpointChannel :=
  (channel.endpointRequests.cancelBySeqnum seqnum).map .mk

def pendingCount (seqnum : UInt32) (channel : InEndpointChannel) : Nat :=
  (channel.endpointRequests.map fun entry => entry.2.countP (·.seqnum == seqnum)).sum

theorem decrements_cancelPending (seqnum : UInt32) :
    Decrements (cancelPending seqnum) (pendingCount seqnum) := by
  intro channel channel' h
  obtain ⟨queues, hqueues, rfl⟩ := Option.map_eq_some_iff.mp h
  exact decrements_updateFirstValue (decrements_eraseFirst _) _ _ hqueues

end InEndpointChannel

namespace OutEndpointChannel

def cancelPending (seqnum : UInt32) (channel : OutEndpointChannel) : Option OutEndpointChannel :=
  (eraseFirst (·.seqnum == seqnum) channel.pending).map .mk

def pendingCount (seqnum : UInt32) (channel : OutEndpointChannel) : Nat :=
  channel.pending.countP (·.seqnum == seqnum)

theorem decrements_cancelPending (seqnum : UInt32) :
    Decrements (cancelPending seqnum) (pendingCount seqnum) := by
  intro channel channel' h
  obtain ⟨pending, hpending, rfl⟩ := Option.map_eq_some_iff.mp h
  exact decrements_eraseFirst _ _ _ hpending

end OutEndpointChannel

/-- The channels of an interface's two data directions. -/
abbrev DataChannels : Type := InEndpointChannel × OutEndpointChannel

/-- The channels of a pipe device, one for each endpoint in each direction. -/
abbrev PipeChannels : Type := List (UInt8 × InEndpointChannel) × List (UInt8 × OutEndpointChannel)

namespace DataChannels

def cancelPending (seqnum : UInt32) : DataChannels → Option DataChannels :=
  updateEither (·.cancelPending seqnum) (·.cancelPending seqnum)

def pendingCount (seqnum : UInt32) (channels : DataChannels) : Nat :=
  channels.1.pendingCount seqnum + channels.2.pendingCount seqnum

theorem decrements_cancelPending (seqnum : UInt32) :
    Decrements (cancelPending seqnum) (pendingCount seqnum) :=
  decrements_updateEither (InEndpointChannel.decrements_cancelPending seqnum)
    (OutEndpointChannel.decrements_cancelPending seqnum)

end DataChannels

namespace PipeChannels

def cancelPending (seqnum : UInt32) : PipeChannels → Option PipeChannels :=
  updateEither (updateFirstValue (·.cancelPending seqnum))
    (updateFirstValue (·.cancelPending seqnum))

def pendingCount (seqnum : UInt32) (channels : PipeChannels) : Nat :=
  (channels.1.map fun entry => entry.2.pendingCount seqnum).sum +
    (channels.2.map fun entry => entry.2.pendingCount seqnum).sum

theorem decrements_cancelPending (seqnum : UInt32) :
    Decrements (cancelPending seqnum) (pendingCount seqnum) :=
  decrements_updateEither
    (decrements_updateFirstValue (InEndpointChannel.decrements_cancelPending seqnum))
    (decrements_updateFirstValue (OutEndpointChannel.decrements_cancelPending seqnum))

end PipeChannels

/-- The library's interface handlers, with the channels that their `handle_unlink_seqnum` looks
through; a pipe handler's belong to its device.  The last five keep the base class's. -/
inductive InterfaceHandler where
  | hid (inputChannel : InEndpointChannel)
  | cdcAcmCommunication (notificationChannel : InEndpointChannel)
  | cdcAcmData (channels : DataChannels)
  | ecmCommunication (notificationChannel : InEndpointChannel)
  | ecmData (channels : DataChannels)
  | rndisCommunication (notificationChannel : InEndpointChannel)
  | rndisData (channels : DataChannels)
  | uacAudioControl (statusChannel : InEndpointChannel)
  | uvcVideoControl (statusChannel : InEndpointChannel)
  | pipe (channels : PipeChannels)
  | mscBulkOnly
  | uacAudioStreamingSource
  | uacAudioStreamingSink
  | uvcVideoStreaming
  | base
  deriving DecidableEq, Repr

/-- What a call to a handler submits, and the handler it leaves. -/
abbrev UnlinkResult : Type := List UsbIpRetUnlink × InterfaceHandler

/-- One reply: the request was cancelled, or no queue had it. -/
def answerUnlink (handler : InterfaceHandler) (cancelled : Option InterfaceHandler)
    (cmdSeqnum : UInt32) : UnlinkResult :=
  match cancelled with
  | some handler' => ([.createRetUnlink cmdSeqnum statusECONNRESET], handler')
  | none => ([.createRetUnlink cmdSeqnum 0], handler)

/-- `AbstInterfaceHandler::handle_unlink_seqnum`, which only logs. -/
def ignoreUnlink (handler : InterfaceHandler) : UnlinkResult := ([], handler)

namespace HidVirtualInterfaceHandler

def handleUnlinkSeqnum (channel : InEndpointChannel) (unlinkSeqnum cmdSeqnum : UInt32) :
    UnlinkResult :=
  answerUnlink (.hid channel) ((channel.cancelPending unlinkSeqnum).map .hid) cmdSeqnum

end HidVirtualInterfaceHandler

namespace CdcAcmCommunicationInterfaceHandler

def handleUnlinkSeqnum (channel : InEndpointChannel) (unlinkSeqnum cmdSeqnum : UInt32) :
    UnlinkResult :=
  answerUnlink (.cdcAcmCommunication channel)
    ((channel.cancelPending unlinkSeqnum).map .cdcAcmCommunication) cmdSeqnum

end CdcAcmCommunicationInterfaceHandler

namespace CdcAcmDataInterfaceHandler

def handleUnlinkSeqnum (channels : DataChannels) (unlinkSeqnum cmdSeqnum : UInt32) :
    UnlinkResult :=
  answerUnlink (.cdcAcmData channels) ((channels.cancelPending unlinkSeqnum).map .cdcAcmData)
    cmdSeqnum

end CdcAcmDataInterfaceHandler

namespace EcmCommunicationInterfaceHandler

def handleUnlinkSeqnum (channel : InEndpointChannel) (unlinkSeqnum cmdSeqnum : UInt32) :
    UnlinkResult :=
  answerUnlink (.ecmCommunication channel)
    ((channel.cancelPending unlinkSeqnum).map .ecmCommunication) cmdSeqnum

end EcmCommunicationInterfaceHandler

namespace EcmDataInterfaceHandler

def handleUnlinkSeqnum (channels : DataChannels) (unlinkSeqnum cmdSeqnum : UInt32) :
    UnlinkResult :=
  answerUnlink (.ecmData channels) ((channels.cancelPending unlinkSeqnum).map .ecmData) cmdSeqnum

end EcmDataInterfaceHandler

namespace RndisCommunicationInterfaceHandler

def handleUnlinkSeqnum (channel : InEndpointChannel) (unlinkSeqnum cmdSeqnum : UInt32) :
    UnlinkResult :=
  answerUnlink (.rndisCommunication channel)
    ((channel.cancelPending unlinkSeqnum).map .rndisCommunication) cmdSeqnum

end RndisCommunicationInterfaceHandler

namespace RndisDataInterfaceHandler

def handleUnlinkSeqnum (channels : DataChannels) (unlinkSeqnum cmdSeqnum : UInt32) :
    UnlinkResult :=
  answerUnlink (.rndisData channels) ((channels.cancelPending unlinkSeqnum).map .rndisData)
    cmdSeqnum

end RndisDataInterfaceHandler

namespace UacAudioControlHandler

def handleUnlinkSeqnum (channel : InEndpointChannel) (unlinkSeqnum cmdSeqnum : UInt32) :
    UnlinkResult :=
  answerUnlink (.uacAudioControl channel)
    ((channel.cancelPending unlinkSeqnum).map .uacAudioControl) cmdSeqnum

end UacAudioControlHandler

namespace UvcVideoControlHandler

def handleUnlinkSeqnum (channel : InEndpointChannel) (unlinkSeqnum cmdSeqnum : UInt32) :
    UnlinkResult :=
  answerUnlink (.uvcVideoControl channel)
    ((channel.cancelPending unlinkSeqnum).map .uvcVideoControl) cmdSeqnum

end UvcVideoControlHandler

namespace PipeDeviceHandler

def onPipeUnlink (channels : PipeChannels) (unlinkSeqnum cmdSeqnum : UInt32) : UnlinkResult :=
  answerUnlink (.pipe channels) ((channels.cancelPending unlinkSeqnum).map .pipe) cmdSeqnum

end PipeDeviceHandler

namespace InterfaceHandler

def handleUnlinkSeqnum (handler : InterfaceHandler) (unlinkSeqnum cmdSeqnum : UInt32) :
    UnlinkResult :=
  match handler with
  | .hid ch => HidVirtualInterfaceHandler.handleUnlinkSeqnum ch unlinkSeqnum cmdSeqnum
  | .cdcAcmCommunication ch =>
      CdcAcmCommunicationInterfaceHandler.handleUnlinkSeqnum ch unlinkSeqnum cmdSeqnum
  | .cdcAcmData chs => CdcAcmDataInterfaceHandler.handleUnlinkSeqnum chs unlinkSeqnum cmdSeqnum
  | .ecmCommunication ch =>
      EcmCommunicationInterfaceHandler.handleUnlinkSeqnum ch unlinkSeqnum cmdSeqnum
  | .ecmData chs => EcmDataInterfaceHandler.handleUnlinkSeqnum chs unlinkSeqnum cmdSeqnum
  | .rndisCommunication ch =>
      RndisCommunicationInterfaceHandler.handleUnlinkSeqnum ch unlinkSeqnum cmdSeqnum
  | .rndisData chs => RndisDataInterfaceHandler.handleUnlinkSeqnum chs unlinkSeqnum cmdSeqnum
  | .uacAudioControl ch => UacAudioControlHandler.handleUnlinkSeqnum ch unlinkSeqnum cmdSeqnum
  | .uvcVideoControl ch => UvcVideoControlHandler.handleUnlinkSeqnum ch unlinkSeqnum cmdSeqnum
  | .pipe chs => PipeDeviceHandler.onPipeUnlink chs unlinkSeqnum cmdSeqnum
  | .mscBulkOnly | .uacAudioStreamingSource | .uacAudioStreamingSink | .uvcVideoStreaming
  | .base => ignoreUnlink handler

/-- The handler overrides `handle_unlink_seqnum`. -/
def answersUnlink : InterfaceHandler → Bool
  | .mscBulkOnly | .uacAudioStreamingSource | .uacAudioStreamingSink | .uvcVideoStreaming
  | .base => false
  | _ => true

/-- The parked requests with this seqnum. -/
def pendingCount (seqnum : UInt32) : InterfaceHandler → Nat
  | .hid ch | .cdcAcmCommunication ch | .ecmCommunication ch | .rndisCommunication ch
  | .uacAudioControl ch | .uvcVideoControl ch => ch.pendingCount seqnum
  | .cdcAcmData chs | .ecmData chs | .rndisData chs => DataChannels.pendingCount seqnum chs
  | .pipe chs => PipeChannels.pendingCount seqnum chs
  | .mscBulkOnly | .uacAudioStreamingSource | .uacAudioStreamingSink | .uvcVideoStreaming
  | .base => 0

end InterfaceHandler

/-- There is one reply, with the command's seqnum and the status of a request that was removed
just where one was. -/
def AnsweredOnce (cmdSeqnum : UInt32) (replies : List UsbIpRetUnlink) (removed : Prop) : Prop :=
  ∃ status, replies = [.createRetUnlink cmdSeqnum status] ∧ (status = statusECONNRESET ↔ removed)

theorem answeredOnce_answerUnlink {handler : InterfaceHandler}
    {cancelled : Option InterfaceHandler} {weight : InterfaceHandler → Nat} (cmdSeqnum : UInt32)
    (h : ∀ handler', cancelled = some handler' → weight handler' + 1 = weight handler) :
    AnsweredOnce cmdSeqnum (answerUnlink handler cancelled cmdSeqnum).1
      (weight (answerUnlink handler cancelled cmdSeqnum).2 < weight handler) := by
  rcases cancelled with _ | handler'
  · exact ⟨0, rfl, iff_of_false (by decide) (Nat.lt_irrefl (weight handler))⟩
  · have hweight := h handler' rfl
    refine ⟨statusECONNRESET, rfl, iff_of_true rfl ?_⟩
    change weight handler' < weight handler
    omega

namespace InterfaceHandler

/-- A handler that overrides `handle_unlink_seqnum` answers once. -/
theorem answeredOnce_of_answersUnlink {handler : InterfaceHandler}
    (h : handler.answersUnlink = true) (unlinkSeqnum cmdSeqnum : UInt32) :
    AnsweredOnce cmdSeqnum (handler.handleUnlinkSeqnum unlinkSeqnum cmdSeqnum).1
      ((handler.handleUnlinkSeqnum unlinkSeqnum cmdSeqnum).2.pendingCount unlinkSeqnum <
        handler.pendingCount unlinkSeqnum) := by
  cases handler with
  | hid channel | cdcAcmCommunication channel | ecmCommunication channel
  | rndisCommunication channel | uacAudioControl channel | uvcVideoControl channel =>
      exact answeredOnce_answerUnlink cmdSeqnum fun _ hcancelled =>
        weight_of_map_eq_some (InEndpointChannel.decrements_cancelPending unlinkSeqnum) hcancelled
          fun _ => rfl
  | cdcAcmData channels | ecmData channels | rndisData channels =>
      exact answeredOnce_answerUnlink cmdSeqnum fun _ hcancelled =>
        weight_of_map_eq_some (DataChannels.decrements_cancelPending unlinkSeqnum) hcancelled
          fun _ => rfl
  | pipe channels =>
      exact answeredOnce_answerUnlink cmdSeqnum fun _ hcancelled =>
        weight_of_map_eq_some (PipeChannels.decrements_cancelPending unlinkSeqnum) hcancelled
          fun _ => rfl
  | mscBulkOnly | uacAudioStreamingSource | uacAudioStreamingSink | uvcVideoStreaming | base =>
      cases h

theorem handleUnlinkSeqnum_of_not_answersUnlink {handler : InterfaceHandler}
    (h : handler.answersUnlink = false) (unlinkSeqnum cmdSeqnum : UInt32) :
    handler.handleUnlinkSeqnum unlinkSeqnum cmdSeqnum = ([], handler) := by
  cases handler with
  | mscBulkOnly | uacAudioStreamingSource | uacAudioStreamingSink | uvcVideoStreaming | base =>
      rfl
  | _ => cases h

end InterfaceHandler

/-- An interface, with its handler where it has one, as the call's loop finds it. -/
def unlinkInterface (unlinkSeqnum cmdSeqnum : UInt32) :
    Option InterfaceHandler → List UsbIpRetUnlink × Option InterfaceHandler
  | none => ([], none)
  | some handler =>
      let (replies, handler') := handler.handleUnlinkSeqnum unlinkSeqnum cmdSeqnum
      (replies, some handler')

def interfaceAnswers (interface : Option InterfaceHandler) : Bool :=
  interface.any InterfaceHandler.answersUnlink

def interfacePending (seqnum : UInt32) (interface : Option InterfaceHandler) : Nat :=
  interface.elim 0 (InterfaceHandler.pendingCount seqnum)

/-- What a call of `handle_unlink_seqnum` finds: the scheduler when it takes its lock, and each
interface when its turn comes.  The other threads may have run in between. -/
structure UnlinkTurns where
  useTransferScheduler : Bool
  scheduler : TransferScheduler
  interfaces : List (Option InterfaceHandler)
  deriving DecidableEq, Repr

namespace UnlinkTurns

/-- The parked requests with this seqnum. -/
def pendingCount (seqnum : UInt32) (turns : UnlinkTurns) : Nat :=
  turns.scheduler.pendingCount seqnum + (turns.interfaces.map (interfacePending seqnum)).sum

/-- `VirtualDeviceHandler::handle_unlink_seqnum`: the replies submitted, and what the call makes
of what it finds. -/
def handleUnlinkSeqnum (now : Int) (unlinkSeqnum cmdSeqnum : UInt32) (turns : UnlinkTurns) :
    List UsbIpRetUnlink × UnlinkTurns :=
  let cancelled := if turns.useTransferScheduler then turns.scheduler.cancel now unlinkSeqnum
    else none
  match cancelled with
  | some scheduler =>
      ([.createRetUnlink cmdSeqnum statusECONNRESET], { turns with scheduler })
  | none =>
      let results := turns.interfaces.map (unlinkInterface unlinkSeqnum cmdSeqnum)
      (results.flatMap Prod.fst, { turns with interfaces := results.map Prod.snd })

end UnlinkTurns

section Interfaces

variable {interface : Option InterfaceHandler} {interfaces : List (Option InterfaceHandler)}
  (unlinkSeqnum cmdSeqnum : UInt32)

theorem unlinkInterface_of_not_answers (h : interfaceAnswers interface = false) :
    unlinkInterface unlinkSeqnum cmdSeqnum interface = ([], interface) := by
  rcases interface with _ | handler
  · rfl
  · rw [unlinkInterface, InterfaceHandler.handleUnlinkSeqnum_of_not_answersUnlink h]

theorem answeredOnce_unlinkInterface (h : interfaceAnswers interface = true) :
    AnsweredOnce cmdSeqnum (unlinkInterface unlinkSeqnum cmdSeqnum interface).1
      (interfacePending unlinkSeqnum (unlinkInterface unlinkSeqnum cmdSeqnum interface).2 <
        interfacePending unlinkSeqnum interface) := by
  rcases interface with _ | handler
  · cases h
  · exact InterfaceHandler.answeredOnce_of_answersUnlink h unlinkSeqnum cmdSeqnum

theorem unlinkInterfaces_of_none_answers (h : interfaces.countP interfaceAnswers = 0) :
    interfaces.map (unlinkInterface unlinkSeqnum cmdSeqnum) =
      interfaces.map fun interface => ([], interface) := by
  refine List.map_congr_left fun interface hmem => ?_
  apply unlinkInterface_of_not_answers unlinkSeqnum cmdSeqnum
  simpa using List.countP_eq_zero.mp h interface hmem

/-- As many replies as there are interfaces that answer. -/
theorem length_replies :
    ((interfaces.map (unlinkInterface unlinkSeqnum cmdSeqnum)).flatMap Prod.fst).length =
      interfaces.countP interfaceAnswers := by
  induction interfaces with
  | nil => rfl
  | cons interface interfaces ih =>
      rw [List.map_cons, List.flatMap_cons, List.length_append, ih, List.countP_cons]
      by_cases h : interfaceAnswers interface = true
      · obtain ⟨status, hreplies, -⟩ := answeredOnce_unlinkInterface unlinkSeqnum cmdSeqnum h
        rw [hreplies, if_pos h, List.length_singleton, Nat.add_comm]
      · rw [unlinkInterface_of_not_answers unlinkSeqnum cmdSeqnum (Bool.eq_false_of_not_eq_true h),
          if_neg h, List.length_nil, Nat.add_comm]

theorem answeredOnce_unlinkInterfaces (h : interfaces.countP interfaceAnswers = 1) :
    AnsweredOnce cmdSeqnum
      ((interfaces.map (unlinkInterface unlinkSeqnum cmdSeqnum)).flatMap Prod.fst)
      ((((interfaces.map (unlinkInterface unlinkSeqnum cmdSeqnum)).map Prod.snd).map
          (interfacePending unlinkSeqnum)).sum <
        (interfaces.map (interfacePending unlinkSeqnum)).sum) := by
  induction interfaces with
  | nil => cases h
  | cons interface interfaces ih =>
      rw [List.countP_cons] at h
      by_cases hanswers : interfaceAnswers interface = true
      · -- the first interface answers, and so no other does
        rw [if_pos hanswers] at h
        obtain ⟨status, hreplies, hstatus⟩ :=
          answeredOnce_unlinkInterface unlinkSeqnum cmdSeqnum hanswers
        refine ⟨status, ?_, hstatus.trans ?_⟩
        · rw [List.map_cons, List.flatMap_cons, hreplies,
            unlinkInterfaces_of_none_answers unlinkSeqnum cmdSeqnum (by omega)]
          simp
        · rw [List.map_cons, unlinkInterfaces_of_none_answers unlinkSeqnum cmdSeqnum (by omega)]
          simp
      · rw [if_neg hanswers] at h
        obtain ⟨status, hreplies, hstatus⟩ := ih (by omega)
        have hsilent := unlinkInterface_of_not_answers unlinkSeqnum cmdSeqnum
          (Bool.eq_false_of_not_eq_true hanswers)
        refine ⟨status, ?_, hstatus.trans ?_⟩
        · rw [List.map_cons, List.flatMap_cons, hsilent]
          exact hreplies
        · simp only [List.map_cons, List.sum_cons, hsilent]
          omega

end Interfaces

/-- An unlink is answered once, with the status of a cancelled request just where a request was
removed, if and only if the scheduler cancels it or exactly one interface's handler answers. -/
theorem unlink_answered_iff (now : Int) (unlinkSeqnum cmdSeqnum : UInt32) (turns : UnlinkTurns) :
    AnsweredOnce cmdSeqnum (turns.handleUnlinkSeqnum now unlinkSeqnum cmdSeqnum).1
        ((turns.handleUnlinkSeqnum now unlinkSeqnum cmdSeqnum).2.pendingCount unlinkSeqnum <
          turns.pendingCount unlinkSeqnum) ↔
      (turns.useTransferScheduler = true ∧
        TransferScheduler.Waits unlinkSeqnum turns.scheduler.endpoints) ∨
      turns.interfaces.countP interfaceAnswers = 1 := by
  rcases hcancel : if turns.useTransferScheduler then turns.scheduler.cancel now unlinkSeqnum
    else none with _ | scheduler
  · have hwaits : ¬ (turns.useTransferScheduler = true ∧
        TransferScheduler.Waits unlinkSeqnum turns.scheduler.endpoints) := by
      rintro ⟨huse, hwaits⟩
      rw [if_pos huse] at hcancel
      have hsome : (turns.scheduler.cancel now unlinkSeqnum).isSome = true :=
        TransferScheduler.cancel_isSome_iff.mpr hwaits
      simp [hcancel] at hsome
    rw [UnlinkTurns.handleUnlinkSeqnum, hcancel, or_iff_right hwaits]
    constructor
    · rintro ⟨status, hreplies, -⟩
      rw [← length_replies unlinkSeqnum cmdSeqnum]
      exact congrArg List.length hreplies
    · intro hone
      obtain ⟨status, hreplies, hstatus⟩ :=
        answeredOnce_unlinkInterfaces unlinkSeqnum cmdSeqnum hone
      refine ⟨status, hreplies, hstatus.trans ?_⟩
      exact (Nat.add_lt_add_iff_left).symm
  · split at hcancel
    next huse =>
      have hcount := TransferScheduler.decrements_cancel now unlinkSeqnum _ _ hcancel
      have hwaits := TransferScheduler.cancel_isSome_iff.mp (Option.isSome_of_eq_some hcancel)
      rw [UnlinkTurns.handleUnlinkSeqnum, if_pos huse, hcancel]
      refine iff_of_true ⟨statusECONNRESET, rfl, iff_of_true rfl ?_⟩ (.inl ⟨huse, hwaits⟩)
      simp only [UnlinkTurns.pendingCount]
      omega
    next => cases hcancel

/-- A mass storage device on which nothing is pending. -/
def massStorageTurns : UnlinkTurns where
  useTransferScheduler := false
  scheduler := ⟨[]⟩
  interfaces := [some .mscBulkOnly]

/-- A serial port, a communication and a data interface, on which nothing is pending. -/
def cdcAcmTurns : UnlinkTurns where
  useTransferScheduler := false
  scheduler := ⟨[]⟩
  interfaces := [some (.cdcAcmCommunication ⟨[]⟩), some (.cdcAcmData (⟨[]⟩, ⟨[]⟩))]

/-- The mass storage device does not answer, and the serial port answers twice. -/
theorem unlink_not_answered_once :
    ¬ AnsweredOnce 8 (massStorageTurns.handleUnlinkSeqnum 0 7 8).1
        ((massStorageTurns.handleUnlinkSeqnum 0 7 8).2.pendingCount 7 <
          massStorageTurns.pendingCount 7) ∧
      ¬ AnsweredOnce 8 (cdcAcmTurns.handleUnlinkSeqnum 0 7 8).1
        ((cdcAcmTurns.handleUnlinkSeqnum 0 7 8).2.pendingCount 7 <
          cdcAcmTurns.pendingCount 7) := by
  constructor
  · rintro ⟨status, hreplies, -⟩
    exact absurd (congrArg List.length hreplies) Nat.zero_ne_one
  · rintro ⟨status, hreplies, -⟩
    exact absurd (congrArg List.length hreplies) (Nat.succ_succ_ne_one 0)

end Usbipdcpp.VirtualDevice
