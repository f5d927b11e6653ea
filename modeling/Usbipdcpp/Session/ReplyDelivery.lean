import Mathlib.Data.List.Infix
import Usbipdcpp.Protocol.ReplyReading
import Usbipdcpp.Session.ReplyStream
import Usbipdcpp.Session.SendOrder

namespace Usbipdcpp.Session.ReplyDelivery

open Foundation.ByteStream
open Foundation.TransitionSystem
open Protocol
open ResponseQueue
open SendOrder

variable {Producer Handler : Type}

/-- A session's response queue with the bytes that have got onto the wire. -/
structure Wire (Producer Handler : Type) where
  queue : Queue Producer (RetVariant Handler)
  bytes : List UInt8

/-- A step of the queue; where it is a write that fails, `cut` bytes of the response get out. -/
structure WireAction (Producer Handler : Type) where
  action : QueueAction Producer (RetVariant Handler)
  cut : Nat

/-- What a step puts onto the wire. -/
def written (pc : SenderPc (RetVariant Handler))
    (a : WireAction Producer Handler) : List UInt8 :=
  match pc, a.action with
  | .sending response, .write .written => response.toSocket
  | .sending response, .write .failed => response.toSocket.take a.cut
  | .sending response, .write .threw => response.toSocket.take a.cut
  | _, _ => []

theorem written_of_written {response : RetVariant Handler} {a : WireAction Producer Handler}
    (h : a.action = .write .written) : written (.sending response) a = response.toSocket := by
  simp only [written, h]

theorem written_of_failed {response : RetVariant Handler} {a : WireAction Producer Handler}
    {outcome : WriteOutcome} (h : a.action = .write outcome) (hfailed : outcome ≠ .written) :
    written (.sending response) a = response.toSocket.take a.cut := by
  cases outcome with
  | written => exact absurd rfl hfailed
  | failed => simp only [written, h]
  | threw => simp only [written, h]

theorem written_of_not_write {pc : SenderPc (RetVariant Handler)}
    {a : WireAction Producer Handler} (ha : ∀ outcome, a.action ≠ .write outcome) :
    written pc a = [] := by
  unfold written
  split
  next h => exact absurd h (ha .written)
  next h => exact absurd h (ha .failed)
  next h => exact absurd h (ha .threw)
  next => rfl

/-- A write is the sender's, which then goes on, or ends with nothing more sent. -/
theorem write_eq_some {Response : Type} {q t : Queue Producer Response} {outcome : WriteOutcome}
    (h : q.write outcome = some t) :
    ∃ response, q.sender = .sending response ∧
      (outcome = .written ∧ t.sent = q.sent ++ [response] ∧ t.sender ≠ .finished ∨
        outcome ≠ .written ∧ t.sent = q.sent ∧ t.sender = .finished) := by
  cases hpc : q.sender with
  | sending response =>
      refine ⟨response, rfl, ?_⟩
      cases outcome <;> simp [Queue.write, hpc] at h <;> subst h <;> simp
  | _ => simp [Queue.write, hpc] at h

def Wire.initial : Wire Producer Handler := ⟨.initial, []⟩

/-- The wire carries the responses sent, and behind them, once the sender has ended, a part of
the next one at most. -/
structure Carries (actions : List (WireAction Producer Handler))
    (w : Wire Producer Handler) : Prop where
  ordered : Ordered (actions.map WireAction.action) w.queue
  sent_prefix : w.queue.sent.flatMap RetVariant.toSocket <+: w.bytes
  bytes_prefix : w.bytes <+:
    (enqueued (actions.map WireAction.action)).flatMap RetVariant.toSocket
  exact : w.queue.sender ≠ .finished → w.bytes = w.queue.sent.flatMap RetVariant.toSocket

theorem carries_initial : Carries [] (.initial : Wire Producer Handler) where
  ordered := ordered_initial
  sent_prefix := List.prefix_rfl
  bytes_prefix := List.prefix_rfl
  exact := fun _ => rfl

variable [DecidableEq Producer]

def Wire.step (w : Wire Producer Handler) (a : WireAction Producer Handler) :
    Option (Wire Producer Handler) :=
  (w.queue.step a.action).map fun queue => ⟨queue, w.bytes ++ written w.queue.sender a⟩

def system (Producer Handler : Type) [DecidableEq Producer] :
    System (Wire Producer Handler) (WireAction Producer Handler) where
  initial w := w = .initial
  step := Wire.step

/-- A step that is not the sender's write sends nothing, and a sender that has ended stays so. -/
theorem sent_of_not_write {Response : Type} {q t : Queue Producer Response}
    {a : QueueAction Producer Response} (hdrained : SenderWakeup.ReadBufferDrained q)
    (ha : ∀ outcome, a ≠ .write outcome) (h : q.step a = some t) :
    t.sent = q.sent ∧ (q.sender = .finished → t.sender = .finished) := by
  rcases step_cases h with ⟨p, response, rfl, -, -, rfl⟩ | ⟨p, rfl, -, rfl⟩ | ⟨p, rfl, -, rfl⟩ |
    ⟨-, rfl⟩ | ⟨rfl, rfl⟩ | ⟨rfl, hstep⟩ | ⟨rfl, hpc, rfl⟩ | ⟨outcome, rfl, -⟩
  · exact ⟨rfl, id⟩
  · exact ⟨rfl, id⟩
  · exact ⟨rfl, fun hpc => by simp [hpc, SenderPc.notifyAll]⟩
  · exact ⟨rfl, id⟩
  · exact ⟨rfl, fun hpc => by simp [hpc, SenderPc.notifyAll]⟩
  · obtain ⟨hsent, hrunning, -⟩ := senderStep_pipeline hdrained hstep
    exact ⟨hsent, fun hpc => absurd hpc hrunning⟩
  · exact ⟨rfl, fun hfinished => absurd (hpc.symm.trans hfinished) (by simp)⟩
  · exact absurd rfl (ha outcome)

theorem carries_step {actions : List (WireAction Producer Handler)} {w t : Wire Producer Handler}
    {a : WireAction Producer Handler} (hw : Carries actions w) (h : w.step a = some t) :
    Carries (actions ++ [a]) t := by
  obtain ⟨queue, hstep, rfl⟩ := Option.map_eq_some_iff.mp h
  have hordered : Ordered (actions.map WireAction.action ++ [a.action]) queue :=
    ordered_step hw.ordered hstep
  have hlog : (actions ++ [a]).map WireAction.action =
      actions.map WireAction.action ++ [a.action] := by simp
  have hlater (b : QueueAction Producer (RetVariant Handler)) :
      enqueued (actions.map WireAction.action) <+:
        enqueued (actions.map WireAction.action ++ [b]) :=
    List.IsPrefix.filterMap _ (List.prefix_append _ _)
  by_cases hwrite : ∃ outcome, a.action = .write outcome
  · obtain ⟨outcome, houtcome⟩ := hwrite
    have hqueue : w.queue.write outcome = some queue := by
      rwa [houtcome] at hstep
    obtain ⟨response, hpc, hend⟩ := write_eq_some hqueue
    have hbytes := hw.exact (by rw [hpc]; simp)
    rcases hend with ⟨rfl, hsent, hrunning⟩ | ⟨hfailed, hsent, hfinished⟩
    · have hall : w.bytes ++ written w.queue.sender a =
          queue.sent.flatMap RetVariant.toSocket := by
        rw [hpc, written_of_written houtcome, hbytes, hsent, List.flatMap_append,
          List.flatMap_singleton]
      refine ⟨hlog ▸ hordered, hall ▸ List.prefix_rfl, ?_, fun _ => hall⟩
      rw [hlog, hall]
      exact hordered.sent_prefix.flatMap _
    · have hnext : w.queue.sent ++ [response] <+: enqueued (actions.map WireAction.action) := by
        rw [← hw.ordered.complete (by rw [hpc]; simp), pipeline, hpc, inHand, List.append_assoc,
          ← List.append_assoc]
        exact List.prefix_append _ _
      refine ⟨hlog ▸ hordered, ?_, ?_, fun hrunning => absurd hfinished hrunning⟩
      · rw [hsent, hbytes]
        exact List.prefix_append _ _
      · have hwhole := (hnext.trans (hlater a.action)).flatMap RetVariant.toSocket
        rw [List.flatMap_append, List.flatMap_singleton] at hwhole
        rw [hlog, hbytes, hpc, written_of_failed houtcome hfailed]
        exact ((List.prefix_append_right_inj _).mpr (List.take_prefix _ _)).trans hwhole
  · have hother : ∀ outcome, a.action ≠ .write outcome := fun outcome h => hwrite ⟨outcome, h⟩
    obtain ⟨hsent, hended⟩ := sent_of_not_write hw.ordered.drained hother hstep
    have hnone : written w.queue.sender a = [] := written_of_not_write hother
    refine ⟨hlog ▸ hordered, ?_, ?_, fun hrunning => ?_⟩
    · rw [hnone, List.append_nil, hsent]
      exact hw.sent_prefix
    · rw [hnone, List.append_nil, hlog]
      exact hw.bytes_prefix.trans ((hlater _).flatMap _)
    · rw [hnone, List.append_nil, hsent]
      exact hw.exact fun hfinished => hrunning (hended hfinished)

theorem carries_of_run {actions : List (WireAction Producer Handler)} {w : Wire Producer Handler}
    (hrun : (system Producer Handler).run .initial actions = some w) : Carries actions w :=
  System.run_invariant carries_initial (fun _ _ _ _ => carries_step) hrun

section Produced

variable {isIn : UInt32 → Bool}

/-- Every site answers under the command's number, and says that it does. -/
theorem header_of_reply {cmd : UsbIpCmdSubmit Handler} {site : ReplySite}
    {ret : UsbIpRetSubmit Handler} (h : site.reply cmd = some ret) :
    ret.header = .getServerHeader usbipRetSubmit cmd.header.seqnum := by
  have hpackets (owner : Option Handler) (trx : GenericTransfer)
      (filled : Option VirtualDevice.FilledPackets) :
      (VirtualDevice.replyPackets cmd.header.seqnum owner trx filled).header =
        .getServerHeader usbipRetSubmit cmd.header.seqnum := by
    cases filled <;> rfl
  cases site with
  | noIso status actualLength data dataOffset =>
      cases htransfer : cmd.transfer <;> simp only [ReplySite.reply, htransfer, reduceCtorEq] at h
      exact Option.some.inj h ▸ rfl
  | uvc handler now getFrame =>
      cases htransfer : cmd.transfer <;> simp only [ReplySite.reply, htransfer, reduceCtorEq] at h
      exact Option.some.inj h ▸ hpackets _ _ _
  | uacSource handler applyVolume =>
      cases htransfer : cmd.transfer <;> simp only [ReplySite.reply, htransfer, reduceCtorEq] at h
      exact Option.some.inj h ▸ hpackets _ _ _
  | uacSink handler applyVolume =>
      cases htransfer : cmd.transfer <;> simp only [ReplySite.reply, htransfer, reduceCtorEq] at h
      exact Option.some.inj h ▸ hpackets _ _ _
  | mscBulk handler =>
      cases htransfer : cmd.transfer <;> simp only [ReplySite.reply, htransfer, reduceCtorEq] at h
      rw [← Option.some.inj h]
      unfold VirtualDevice.MscBulkInHandler.handleBulkTransfer
      dsimp only
      repeat' split
      all_goals rfl
  | transferCallback ep hasInterface tweaked clientDisconnection unlinking complete =>
      cases htransfer : cmd.transfer <;> simp only [ReplySite.reply, htransfer, reduceCtorEq] at h
      split at h
      next => cases h
      next args hargs =>
        obtain ⟨-, rfl⟩ := LibusbHandler.transferCallback_eq_some h
        have hseqnum : args.seqnum = cmd.header.seqnum := by
          unfold LibusbHandler.receiveUrb at hargs
          split at hargs
          next =>
            split at hargs
            next => cases hargs
            next => exact Option.some.inj hargs ▸ rfl
          next =>
            split at hargs
            next =>
              obtain ⟨type, -, rfl⟩ := Option.map_eq_some_iff.mp hargs
              rfl
            next => cases hargs
        rw [← hseqnum]
        unfold LibusbHandler.retSubmit
        dsimp only
        repeat' split
        all_goals rfl

/-- The responses that a session enqueues: a reply with its transfer, one without, and the answer
to an unlink.  A reply without a transfer tells a length to a client only of what it has sent
itself. -/
inductive Produced (isIn : UInt32 → Bool) : RetVariant Handler → Prop where
  | withTransfer (reply : SubmittedReply Handler) (hkeeps : reply.KeepsFraming)
      (hdirection : reply.ret.actualLength = 0 ∨
        isIn reply.cmd.header.seqnum = reply.ret.transferIsIn) :
      Produced isIn (.retSubmit reply.ret reply.storageHandler)
  | withoutData (seqnum status actualLength : UInt32)
      (storageHandler : Handler → MscBulkOnlyHandler)
      (hdirection : actualLength = 0 ∨ isIn seqnum = false) :
      Produced isIn (.retSubmit
        (.createRetSubmitWithStatusAndNoData seqnum status actualLength) storageHandler)
  | unlinked (seqnum status : UInt32) : Produced isIn (.retUnlink (.createRetUnlink seqnum status))

theorem readable_of_produced {response : RetVariant Handler} (h : Produced isIn response) :
    response.Readable isIn := by
  cases h with
  | withTransfer reply hkeeps hdirection =>
      have hheader := header_of_reply reply.submits
      refine ⟨by rw [hheader]; rfl, (framed_iff_keepsFraming reply).mpr hkeeps, ?_⟩
      rwa [hheader]
  | withoutData seqnum status actualLength storageHandler hdirection =>
      exact ⟨rfl, UsbIpRetSubmit.framed_of_no_transfer rfl rfl, hdirection⟩
  | unlinked seqnum status => exact rfl

end Produced

theorem extends_clientReply (isIn : UInt32 → Bool) :
    Extends (ClientReply.fromSocket isIn : Reader (ClientReply Handler)) := by
  refine extends_bind extends_readU32 fun command => ?_
  split
  · exact extends_bind UsbIpRetSubmit.extends_fromSocket fun _ =>
      extends_bind (extends_readBytes _ _) fun _ =>
        extends_bind (extends_readMany UsbIpIsoPacketDescriptor.extends_fromSocket _) fun _ =>
          extends_pure _
  · split
    · exact extends_bind UsbIpRetUnlink.extends_fromSocket fun _ => extends_pure _
    · exact extends_fail _

theorem needs_clientReply (isIn : UInt32 → Bool) :
    Needs (ClientReply.fromSocket isIn : Reader (ClientReply Handler)) :=
  needs_bind (needs_bind (needs_readBytes _ (by decide)))

/-- In every run, whatever part of the bytes on the wire has reached the client, it reads the
responses whole that lie in it, with all that was sent of each, and they are the first of those
enqueued; once all of it has come, they are all those that the sender has sent, and as long as
the sender runs just those. -/
theorem replies_read_in_order (isIn : UInt32 → Bool)
    (actions : List (WireAction Producer Handler)) (w : Wire Producer Handler)
    (hrun : (system Producer Handler).run .initial actions = some w)
    (hproduced : ∀ response ∈ enqueued (actions.map WireAction.action), Produced isIn response)
    (received : List UInt8) (hreceived : received <+: w.bytes) :
    ∃ whole : List (RetVariant Handler),
      whole <+: enqueued (actions.map WireAction.action) ∧
      List.Forall₂ RetVariant.ReadAs whole
        (drain (ClientReply.fromSocket isIn) received.length received).1 ∧
      received = whole.flatMap RetVariant.toSocket ++
        (drain (ClientReply.fromSocket isIn : Reader (ClientReply Handler))
          received.length received).2 ∧
      (received = w.bytes → w.queue.sent <+: whole) ∧
      (received = w.bytes → w.queue.sender ≠ .finished → whole = w.queue.sent) := by
  have hcarries := carries_of_run hrun
  obtain ⟨whole, hwhole, hsplit, hread, hnext⟩ :=
    drain_of_prefix (extends_clientReply isIn) (needs_clientReply isIn)
      (fun response hresponse =>
        RetVariant.exists_decodes_of_readable (readable_of_produced (hproduced _ hresponse)))
      (hreceived.trans hcarries.bytes_prefix) (Nat.le_refl received.length)
  have hall : received = w.bytes → w.queue.sent <+: whole := by
    rintro rfl
    rcases List.prefix_or_prefix_of_prefix hwhole hcarries.ordered.sent_prefix with h | h
    · obtain ⟨behind, hsent⟩ := h
      cases behind with
      | nil => exact ⟨[], by rw [← hsent]; simp⟩
      | cons response behind =>
          -- the next response would lie whole in what is left
          have hpart : whole ++ [response] <+: w.queue.sent := ⟨behind, by simp [← hsent]⟩
          have hbytes := (hpart.flatMap RetVariant.toSocket).trans hcarries.sent_prefix
          rw [hsplit, List.flatMap_append, List.flatMap_singleton] at hbytes
          have hlength := ((List.prefix_append_right_inj _).mp hbytes).length_le
          have hcut := hnext response (hpart.trans hcarries.ordered.sent_prefix)
          omega
    · exact h
  refine ⟨whole, hwhole, hread, hsplit, hall, fun hreached hrunning => ?_⟩
  obtain ⟨more, rfl⟩ := hall hreached
  have hbytes := hcarries.exact hrunning
  rw [← hreached, hsplit, List.flatMap_append, List.append_assoc, List.append_right_eq_self,
    List.append_eq_nil_iff] at hbytes
  cases more with
  | nil => rw [List.append_nil]
  | cons response more =>
      rw [List.flatMap_cons, List.append_eq_nil_iff] at hbytes
      exact absurd hbytes.1.1 response.toSocket_ne_nil

def cancelledAnswer : RetVariant Unit :=
  .retUnlink (.createRetUnlink 2 UrbStatusType.statusECONNRESET)

def stalledAnswer : RetVariant Unit :=
  .retSubmit (.createRetSubmitEpipeWithoutData 3 0) (contextOf .generic).storageHandler

/-- Of two responses the first is written, and twenty bytes of the second. -/
def cutTrace : List (WireAction Unit Unit) :=
  [⟨.enqueue () cancelledAnswer, 0⟩, ⟨.enqueue () stalledAnswer, 0⟩, ⟨.storeHasData (), 0⟩,
    ⟨.notify (), 0⟩] ++ .replicate 6 ⟨.senderStep, 0⟩ ++ [⟨.write .written, 0⟩] ++
    .replicate 4 ⟨.senderStep, 0⟩ ++ [⟨.write .failed, 20⟩]

theorem replies_read_in_order_instance :
    ∃ w : Wire Unit Unit, (system Unit Unit).run .initial cutTrace = some w ∧
      w.bytes.length = 68 ∧
      ∃ whole, w.queue.sent <+: whole ∧ whole <+: [cancelledAnswer, stalledAnswer] ∧
        List.Forall₂ RetVariant.ReadAs whole
          (drain (ClientReply.fromSocket fun _ => true) w.bytes.length w.bytes).1 := by
  obtain ⟨w, hrun, hlength⟩ : ∃ w : Wire Unit Unit,
      (system Unit Unit).run .initial cutTrace = some w ∧ w.bytes.length = 68 :=
    ⟨_, rfl, rfl⟩
  have hproduced : ∀ response ∈ enqueued (cutTrace.map WireAction.action),
      Produced (fun _ => true) response := by
    intro response hresponse
    obtain rfl | rfl : response = cancelledAnswer ∨ response = stalledAnswer := by
      simpa [cutTrace, enqueued] using hresponse
    · exact .unlinked 2 UrbStatusType.statusECONNRESET
    · exact .withoutData 3 UrbStatusType.statusEPIPE 0 _ (.inl rfl)
  obtain ⟨whole, hwhole, hread, -, hsent, -⟩ :=
    replies_read_in_order (fun _ => true) cutTrace w hrun hproduced w.bytes List.prefix_rfl
  exact ⟨w, hrun, hlength, whole, hsent rfl, hwhole, hread⟩

end Usbipdcpp.Session.ReplyDelivery
