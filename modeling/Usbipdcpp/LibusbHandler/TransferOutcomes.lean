import Mathlib.Data.List.Nodup
import Usbipdcpp.LibusbHandler.TransferTracking

namespace Usbipdcpp.LibusbHandler.TransferOutcomes

open Protocol VirtualDevice TransferTracking Foundation.TransitionSystem
open LibusbDeviceHandler hiding step receiveUrb transferCallback

variable {Handler : Type}

/-- The command whose receipt an event is. -/
def receipt : HandlerEvent Handler → Option UInt32
  | .received q => some q
  | _ => none

/-- The command that an event answers.  The `RET_UNLINK` of a transfer that has not been found
answers nothing but the unlink. -/
def answer : HandlerEvent Handler → Option UInt32
  | .retSubmit ret => some ret.header.seqnum
  | .retUnlink q _ => some q
  | _ => none

/-- The command that an event leaves without an answer for good. -/
def loss : HandlerEvent Handler → Option UInt32
  | .refused q => some q
  | .abandoned q => some q
  | _ => none

/-- How many events concern a command in the way of `f`. -/
def tally (f : HandlerEvent Handler → Option UInt32) (q : UInt32)
    (events : List (HandlerEvent Handler)) : Nat :=
  (events.filterMap f).count q

/-- The command that the receiver is about to track or to answer. -/
def carried : ReceiverPc Handler → Option UInt32
  | .tracking args => some args.seqnum
  | .answering ret _ => some ret.header.seqnum
  | _ => none

/-- The command whose transfer the receiver is handing to libusb. -/
def untaken : ReceiverPc Handler → Option UInt32
  | .submitting q => some q
  | .submitFailed q _ => some q
  | _ => none

def carriedCount (q : UInt32) (receiver : ReceiverPc Handler) : Nat :=
  if carried receiver = some q then 1 else 0

def trackedCount (q : UInt32) (transfers : UInt32 → Option LibusbCallbackArgs) : Nat :=
  if (transfers q).isSome then 1 else 0

/-- In how many places a command is under way. -/
def underWay (q : UInt32) (s : LibusbDeviceHandler Handler) : Nat :=
  carriedCount q s.receiver + trackedCount q s.transfers

/-- No command is lost or made up: it is answered, lost or under way as often as it has been
received. -/
def Conserved (s : LibusbDeviceHandler Handler) : Prop :=
  ∀ q, tally receipt q s.events =
    tally answer q s.events + tally loss q s.events + underWay q s

section Conserved

variable {s t : LibusbDeviceHandler Handler} {q : UInt32} {f : HandlerEvent Handler → Option UInt32}
  {events events' : List (HandlerEvent Handler)}

theorem tally_append : tally f q (events ++ events') = tally f q events + tally f q events' := by
  rw [tally, List.filterMap_append, List.count_append]
  rfl

@[simp] theorem tally_nil : tally f q [] = 0 := rfl

@[simp] theorem tally_cons {event : HandlerEvent Handler} :
    tally f q (event :: events) = (if f event = some q then 1 else 0) + tally f q events := by
  cases hf : f event with
  | none => simp [tally, hf]
  | some q' =>
      rw [tally, List.filterMap_cons_some hf, List.count_cons, Nat.add_comm]
      simp [tally]

theorem tally_pos_iff : 0 < tally f q events ↔ ∃ event ∈ events, f event = some q := by
  rw [tally, List.count_pos_iff, List.mem_filterMap]

theorem tally_eq_zero_iff : tally f q events = 0 ↔ ∀ event ∈ events, f event ≠ some q := by
  rw [← Nat.le_zero, ← Nat.not_lt, tally_pos_iff]
  simp

/-- A step that records events and moves commands accordingly. -/
theorem Conserved.move (h : Conserved s) (hevents : t.events = s.events ++ events)
    (hmoved : ∀ q, tally receipt q events + underWay q s =
      tally answer q events + tally loss q events + underWay q t) :
    Conserved t := by
  intro q
  have hbefore := h q
  have hhere := hmoved q
  rw [hevents, tally_append, tally_append, tally_append]
  omega

theorem trackedCount_update {transfers : UInt32 → Option LibusbCallbackArgs} (k : UInt32)
    (transfer : Option LibusbCallbackArgs) :
    trackedCount q (Function.update transfers k transfer) =
      if q = k then (if transfer.isSome then 1 else 0) else trackedCount q transfers := by
  by_cases heq : q = k
  · rw [if_pos heq, trackedCount, heq, Function.update_self]
  · rw [if_neg heq, trackedCount, Function.update_of_ne heq, trackedCount]

theorem args_of_receiveUrb {cmd : CmdSubmitFields} {trx : LibusbTransfer} {ep : UsbEndpoint}
    {hasInterface tweaked : Bool} {args : SubmittedTransfer}
    (h : LibusbHandler.receiveUrb cmd trx ep hasInterface tweaked = some args) :
    args.seqnum = cmd.header.seqnum := by
  unfold LibusbHandler.receiveUrb at h
  split at h
  · split at h
    · cases h
    · obtain rfl := Option.some.inj h
      rfl
  · split at h
    · obtain ⟨type, -, rfl⟩ := Option.map_eq_some_iff.mp h
      rfl
    · cases h

theorem seqnum_immediateReply {cmd : CmdSubmitFields} {ep : UsbEndpoint} {tweaked : Bool} :
    (immediateReply cmd ep tweaked : UsbIpRetSubmit Handler).header.seqnum =
      cmd.header.seqnum := by
  unfold immediateReply
  split
  · rfl
  · rfl

theorem seqnum_retSubmit {args : SubmittedTransfer} {trx : LibusbTransfer} :
    (retSubmit args trx : UsbIpRetSubmit Handler).header.seqnum = args.seqnum := by
  unfold retSubmit
  dsimp only
  split
  · rfl
  · rfl

theorem conserved_receiveUrb {cmd : CmdSubmitFields} {trx : LibusbTransfer} {ep : UsbEndpoint}
    {hasInterface tweaked : Bool} (h : Conserved s) (hidle : s.receiver = .idle) :
    Conserved (s.receiveUrb cmd trx ep hasInterface tweaked) := by
  unfold LibusbDeviceHandler.receiveUrb
  dsimp only [record]
  split
  · refine h.move (List.append_assoc _ _ _) fun q => ?_
    simp [receipt, answer, loss, underWay, carriedCount, hidle, carried]
  · split
    next args hargs =>
      refine h.move rfl fun q => ?_
      simp [receipt, answer, loss, underWay, carriedCount, hidle, carried,
        args_of_receiveUrb hargs]
    next =>
      refine h.move rfl fun q => ?_
      simp [receipt, answer, loss, underWay, carriedCount, hidle, carried, seqnum_immediateReply]

@[simp] theorem seqnum_epipe (q length : UInt32) :
    (.createRetSubmitEpipeWithoutData q length : UsbIpRetSubmit Handler).header.seqnum = q := rfl

theorem conserved_track {args : SubmittedTransfer} (h : Conserved s)
    (hreceiver : s.receiver = .tracking args) : Conserved (s.track args) := by
  unfold track
  split
  next =>
    refine h.move (List.append_nil _).symm fun q => ?_
    simp [underWay, carriedCount, hreceiver, carried]
  next hnone =>
    have hcount : trackedCount args.seqnum s.transfers = 0 := by simp [trackedCount, hnone]
    refine h.move (List.append_nil _).symm fun q => ?_
    by_cases heq : q = args.seqnum
    · simp [setTransfer, underWay, trackedCount_update, carriedCount, hreceiver, carried, heq,
        hcount]
    · simp [setTransfer, underWay, trackedCount_update, carriedCount, hreceiver, carried, heq,
        Ne.symm heq]

/-- A change of a transfer that stays in flight. -/
theorem trackedCount_update_of_some {cb cb' : LibusbCallbackArgs} {k : UInt32}
    (hcb : s.transfers k = some cb) :
    trackedCount q (Function.update s.transfers k (some cb')) = trackedCount q s.transfers := by
  rw [trackedCount_update]
  split
  next heq => simp [heq, trackedCount, hcb]
  next => rfl

theorem conserved_submitTransfer {k : UInt32} {err : Int} {cb : LibusbCallbackArgs}
    (h : Conserved s) (hreceiver : s.receiver = .submitting k) (hcb : s.transfers k = some cb) :
    Conserved (s.submitTransfer k err) := by
  unfold submitTransfer
  split
  next =>
    refine h.move (List.append_nil _).symm fun q => ?_
    simp [underWay, carriedCount, hreceiver, carried]
  next =>
    refine h.move (List.append_nil _).symm fun q => ?_
    simp [setTransfer, underWay, carriedCount, hreceiver, carried, hcb,
      trackedCount_update_of_some hcb]

/-- A transfer that is in flight no more. -/
theorem trackedCount_untrack {cb : LibusbCallbackArgs} {k : UInt32}
    (hcb : s.transfers k = some cb) :
    trackedCount q s.transfers =
      (if k = q then 1 else 0) + trackedCount q (Function.update s.transfers k none) := by
  rw [trackedCount_update]
  by_cases heq : q = k
  · simp [heq, trackedCount, hcb]
  · simp [heq, Ne.symm heq]

theorem conserved_untrack {policy : LibusbSubmitErrorPolicy} {k : UInt32} {err : Int}
    {cb : LibusbCallbackArgs} (h : Conserved s) (hreceiver : s.receiver = .submitFailed k err)
    (hcb : s.transfers k = some cb) : Conserved (s.untrack policy k err) := by
  refine h.move (List.append_nil _).symm fun q => ?_
  simp [untrack, setTransfer, underWay, carriedCount, hreceiver, carried, trackedCount_untrack hcb]

theorem conserved_submitRetSubmit {ret : UsbIpRetSubmit Handler} {noDevice : Bool}
    (h : Conserved s) (hreceiver : s.receiver = .answering ret noDevice) :
    Conserved (s.submitRetSubmit ret noDevice) := by
  refine h.move rfl fun q => ?_
  cases noDevice with
  | true =>
      simp [submitRetSubmit, record, receipt, answer, loss, underWay, carriedCount, hreceiver,
        carried]
  | false =>
      simp [submitRetSubmit, record, receipt, answer, loss, underWay, carriedCount, hreceiver,
        carried]

theorem conserved_findUnlinked {k cmdSeqnum : UInt32} (h : Conserved s)
    (hreceiver : s.receiver = .unlinking k cmdSeqnum) :
    Conserved (s.findUnlinked k cmdSeqnum) := by
  unfold findUnlinked
  dsimp only
  split
  next cb hcb =>
    refine h.move rfl fun q => ?_
    simp [setTransfer, record, receipt, answer, loss, underWay, carriedCount, hreceiver, carried,
      trackedCount_update_of_some hcb]
  next =>
    refine h.move rfl fun q => ?_
    simp [record, receipt, answer, loss, underWay, carriedCount, hreceiver, carried]

theorem conserved_settle {k : UInt32} {cb : LibusbCallbackArgs} {event : HandlerEvent Handler}
    (h : Conserved s) (hcb : s.transfers k = some cb) (hreceipt : receipt event = none)
    (hsettled : answer event = some k ∧ loss event = none ∨
      answer event = none ∧ loss event = some k) :
    Conserved ((s.setTransfer k none).record event) := by
  refine h.move rfl fun q => ?_
  rcases hsettled with ⟨hanswer, hloss⟩ | ⟨hanswer, hloss⟩
  · simp [setTransfer, record, hreceipt, hanswer, hloss, underWay, trackedCount_untrack hcb]
    omega
  · simp [setTransfer, record, hreceipt, hanswer, hloss, underWay, trackedCount_untrack hcb]
    omega

theorem conserved_transferCallback {k : UInt32} {cb : LibusbCallbackArgs} {trx : LibusbTransfer}
    (h : Conserved s) (hcb : s.transfers k = some cb) :
    Conserved (s.transferCallback k cb trx) := by
  unfold LibusbDeviceHandler.transferCallback
  split
  next => exact conserved_settle h hcb rfl (Or.inr ⟨rfl, rfl⟩)
  next =>
    refine h.move (List.append_nil _).symm fun q => ?_
    simp [setTransfer, underWay, trackedCount_update_of_some hcb]

theorem conserved_enqueueReply {k : UInt32} {cb : LibusbCallbackArgs} {trx : LibusbTransfer}
    (h : Conserved s) (hcb : s.transfers k = some cb) (hkey : cb.args.seqnum = k) :
    Conserved (s.enqueueReply k cb trx) := by
  unfold enqueueReply
  dsimp only
  split
  · exact conserved_settle h hcb rfl (Or.inl ⟨rfl, rfl⟩)
  · exact conserved_settle h hcb rfl (Or.inl ⟨by rw [answer, seqnum_retSubmit, hkey], rfl⟩)

end Conserved

/-- What an event that is not an answer to its own command owes to those before it: the
`RET_UNLINK` of a callback an unlink of its seqnum, and one of a transfer that has not been found
the answer to a command that has been received. -/
def Due (before : List (HandlerEvent Handler)) : HandlerEvent Handler → Prop
  | .retUnlink q ret => .marked q ret.header.seqnum ∈ before
  | .notFound q ret =>
      ret.status = 0 ∧ (.received q ∈ before → ∃ event ∈ before, answer event = some q)
  | _ => True

/-- What the entry of a seqnum holds. -/
def Booked (events : List (HandlerEvent Handler)) (q : UInt32) (cb : LibusbCallbackArgs) : Prop :=
  cb.args.seqnum = q ∧ (cb.unlinking = true → .marked q cb.unlinkCmdSeqnum ∈ events)

/-- What the record of the events says of the rest. -/
structure Log (s : LibusbDeviceHandler Handler) : Prop where
  running : s.receiver ≠ .stopped →
    s.clientDisconnection = false ∧ ∀ event ∈ s.events, loss event = none
  abandoned : ∀ q, .abandoned q ∈ s.events → s.clientDisconnection = true
  refused : ∀ q, .refused q ∈ s.events → s.deviceRemoved = true
  justified : Justified Due s.events

/-- What `transfers_` says of the rest. -/
structure Tracking (s : LibusbDeviceHandler Handler) : Prop where
  booked : ∀ q cb, s.transfers q = some cb → Booked s.events q cb
  tracked : ∀ q, untaken s.receiver = some q ↔ ∃ cb, s.transfers q = some cb ∧ cb.stage = .tracked

section Log

variable {s t : LibusbDeviceHandler Handler} {q : UInt32}

/-- A step that loses no command. -/
theorem Log.advance (h : Log s)
    (hevents : t.events = s.events ∨
      ∃ event, t.events = s.events ++ [event] ∧ loss event = none ∧ Due s.events event)
    (hrunning : t.receiver ≠ .stopped → s.receiver ≠ .stopped)
    (hclient : t.clientDisconnection = s.clientDisconnection)
    (hremoved : s.deviceRemoved = true → t.deviceRemoved = true) : Log t := by
  have hmem : ∀ event ∈ t.events, event ∈ s.events ∨ loss event = none := by
    rcases hevents with heq | ⟨event, heq, hloss, -⟩
    · rw [heq]
      exact fun event hevent => Or.inl hevent
    · rw [heq]
      intro e he
      refine (List.mem_append.mp he).imp_right fun hlast => ?_
      rw [List.mem_singleton.mp hlast]
      exact hloss
  refine ⟨fun hreceiver => ?_, fun q hq => ?_, fun q hq => ?_, ?_⟩
  · obtain ⟨hfalse, hnone⟩ := h.running (hrunning hreceiver)
    exact ⟨hclient.trans hfalse, fun event hevent => (hmem event hevent).elim (hnone event) id⟩
  · rw [hclient]
    exact h.abandoned q ((hmem _ hq).resolve_right (by simp [loss]))
  · exact hremoved (h.refused q ((hmem _ hq).resolve_right (by simp [loss])))
  · rcases hevents with heq | ⟨event, heq, -, hdue⟩
    · rw [heq]
      exact h.justified
    · rw [heq]
      exact justified_concat.mpr ⟨h.justified, hdue⟩

/-- A transfer that has not been found, though it has been received, has been answered. -/
theorem due_notFound {k cmdSeqnum : UInt32} {ret : UsbIpRetUnlink} (hlog : Log s)
    (hconserved : Conserved s) (hreceiver : s.receiver = .unlinking k cmdSeqnum)
    (hnone : s.transfers k = none) (hstatus : ret.status = 0) :
    Due s.events (.notFound k ret) := by
  refine ⟨hstatus, fun hreceived => ?_⟩
  have hcount := hconserved k
  have hlost : tally loss k s.events = 0 :=
    tally_eq_zero_iff.mpr fun event hevent => by
      rw [(hlog.running (by simp [hreceiver])).2 event hevent]
      simp
  have hgot : 0 < tally receipt k s.events := tally_pos_iff.mpr ⟨_, hreceived, rfl⟩
  rw [hlost, underWay, carriedCount, trackedCount, hreceiver, hnone] at hcount
  have hanswered : 0 < tally answer k s.events := by
    simp only [carried, reduceCtorEq, Option.isSome_none, Bool.false_eq_true, if_false] at hcount
    omega
  exact tally_pos_iff.mp hanswered

end Log

section Steps

variable {s t : LibusbDeviceHandler Handler} {k : UInt32} {cb : LibusbCallbackArgs}

theorem Booked.mono {events events' : List (HandlerEvent Handler)} (h : Booked events k cb)
    (hsubset : events ⊆ events') : Booked events' k cb :=
  ⟨h.1, fun hunlinking => hsubset (h.2 hunlinking)⟩

theorem booked_update {transfers : UInt32 → Option LibusbCallbackArgs}
    {transfer : Option LibusbCallbackArgs} {events : List (HandlerEvent Handler)}
    (h : ∀ q cb, transfers q = some cb → Booked events q cb)
    (htransfer : ∀ cb, transfer = some cb → Booked events k cb) :
    ∀ q cb, Function.update transfers k transfer q = some cb → Booked events q cb := by
  intro q cb hcb
  by_cases heq : q = k
  · subst heq
    rw [Function.update_self] at hcb
    exact htransfer cb hcb
  · rw [Function.update_of_ne heq] at hcb
    exact h q cb hcb

/-- A step of the receiver that leaves the transfers alone. -/
theorem Tracking.keep (h : Tracking s) (htransfers : t.transfers = s.transfers)
    (hevents : s.events ⊆ t.events) (huntaken : untaken t.receiver = untaken s.receiver) :
    Tracking t where
  booked q cb hcb := (h.booked q cb (htransfers ▸ hcb)).mono hevents
  tracked q := by
    rw [htransfers, huntaken]
    exact h.tracked q

/-- The receiver and the transfer of one seqnum change. -/
theorem tracked_update {receiver : ReceiverPc Handler} {transfer : Option LibusbCallbackArgs}
    (h : Tracking s) (hothers : ∀ q, q ≠ k → (untaken receiver = some q ↔
      untaken s.receiver = some q))
    (hk : untaken receiver = some k ↔ ∃ cb, transfer = some cb ∧ cb.stage = .tracked) (q : UInt32) :
    untaken receiver = some q ↔
      ∃ cb, Function.update s.transfers k transfer q = some cb ∧ cb.stage = .tracked := by
  by_cases heq : q = k
  · rw [heq, Function.update_self]
    exact hk
  · rw [Function.update_of_ne heq, hothers q heq]
    exact h.tracked q

/-- A transfer that libusb has taken is none that is being handed to it. -/
theorem Tracking.untaken_ne (h : Tracking s) (hcb : s.transfers k = some cb)
    (hstage : cb.stage ≠ .tracked) : untaken s.receiver ≠ some k := by
  intro huntaken
  obtain ⟨cb', hcb', htracked⟩ := (h.tracked k).mp huntaken
  obtain rfl := Option.some.inj (hcb.symm.trans hcb')
  exact hstage htracked

/-- A step of a callback, whose transfer libusb has taken. -/
theorem Tracking.callback {transfer : Option LibusbCallbackArgs} (h : Tracking s)
    (hcb : s.transfers k = some cb) (hstage : cb.stage ≠ .tracked)
    (htransfers : t.transfers = Function.update s.transfers k transfer)
    (htransfer : ∀ cb', transfer = some cb' → Booked s.events k cb' ∧ cb'.stage ≠ .tracked)
    (hevents : s.events ⊆ t.events) (hreceiver : t.receiver = s.receiver) : Tracking t where
  booked q cb' hcb' :=
    (booked_update h.booked (fun cb hcb => (htransfer cb hcb).1) q cb'
      (htransfers ▸ hcb')).mono hevents
  tracked q := by
    rw [htransfers, hreceiver]
    refine tracked_update h (fun _ _ => Iff.rfl) ?_ q
    exact iff_of_false (h.untaken_ne hcb hstage)
      fun ⟨cb', hcb', htracked⟩ => (htransfer cb' hcb').2 htracked

/-- What holds of every run. -/
def Inv (s : LibusbDeviceHandler Handler) : Prop :=
  Log s ∧ Tracking s ∧ Conserved s

theorem books_receiveUrb {cmd : CmdSubmitFields} {trx : LibusbTransfer} {ep : UsbEndpoint}
    {hasInterface tweaked : Bool} (hlog : Log s) (htracking : Tracking s)
    (hidle : s.receiver = .idle) :
    Log (s.receiveUrb cmd trx ep hasInterface tweaked) ∧
      Tracking (s.receiveUrb cmd trx ep hasInterface tweaked) := by
  have hrunning : s.receiver ≠ .stopped := by simp [hidle]
  unfold LibusbDeviceHandler.receiveUrb
  dsimp only [record]
  split
  next hremoved =>
    obtain ⟨hclient, hnone⟩ := hlog.running hrunning
    refine ⟨⟨fun hreceiver => absurd rfl hreceiver, fun q hq => ?_, fun _ _ => hremoved, ?_⟩,
      htracking.keep rfl (fun event hevent => ?_) (by simp [hidle, untaken])⟩
    · rcases List.mem_append.mp hq with hq | hq
      · rcases List.mem_append.mp hq with hq | hq
        · exact hlog.abandoned q hq
        · simp at hq
      · simp at hq
    · exact justified_concat.mpr ⟨justified_concat.mpr ⟨hlog.justified, trivial⟩, trivial⟩
    · exact List.mem_append_left _ (List.mem_append_left _ hevent)
  next hremoved =>
    split
    next args hargs =>
      exact ⟨hlog.advance (Or.inr ⟨_, rfl, rfl, trivial⟩) (fun _ => hrunning) rfl id,
        htracking.keep rfl (List.subset_append_left _ _) (by simp [hidle, untaken])⟩
    next hargs =>
      exact ⟨hlog.advance (Or.inr ⟨_, rfl, rfl, trivial⟩) (fun _ => hrunning) rfl id,
        htracking.keep rfl (List.subset_append_left _ _) (by simp [hidle, untaken])⟩

theorem books_track {args : SubmittedTransfer} (hlog : Log s) (htracking : Tracking s)
    (hreceiver : s.receiver = .tracking args) : Log (s.track args) ∧ Tracking (s.track args) := by
  have hrunning : s.receiver ≠ .stopped := by simp [hreceiver]
  unfold track
  split
  next cb hcb =>
    exact ⟨hlog.advance (Or.inl rfl) (fun _ => hrunning) rfl id,
      htracking.keep rfl (List.Subset.refl _) (by simp [hreceiver, untaken])⟩
  next hnone =>
    refine ⟨hlog.advance (Or.inl rfl) (fun _ => hrunning) rfl id, ?_, ?_⟩
    · refine booked_update htracking.booked fun cb hcb => ?_
      obtain rfl := Option.some.inj hcb
      exact ⟨rfl, fun hunlinking => Bool.noConfusion hunlinking⟩
    · refine tracked_update htracking (fun q hne => ?_) (iff_of_true rfl ⟨_, rfl, rfl⟩)
      simp [hreceiver, untaken, Ne.symm hne]

theorem books_submitTransfer {err : Int} (hlog : Log s) (htracking : Tracking s)
    (hreceiver : s.receiver = .submitting k) (hcb : s.transfers k = some cb) :
    Log (s.submitTransfer k err) ∧ Tracking (s.submitTransfer k err) := by
  have hrunning : s.receiver ≠ .stopped := by simp [hreceiver]
  unfold submitTransfer
  split
  next hfailed =>
    exact ⟨hlog.advance (Or.inl rfl) (fun _ => hrunning) rfl id,
      htracking.keep rfl (List.Subset.refl _) (by simp [hreceiver, untaken])⟩
  next hfailed =>
    refine ⟨hlog.advance (Or.inl rfl) (fun _ => hrunning) rfl id, ?_, ?_⟩
    · refine booked_update htracking.booked fun cb' hcb' => ?_
      rw [hcb] at hcb'
      obtain rfl := Option.some.inj hcb'
      exact htracking.booked k cb hcb
    · refine tracked_update htracking (fun q hne => ?_) ?_
      · simp [hreceiver, untaken, Ne.symm hne]
      · simp [untaken, hcb]

theorem books_untrack {policy : LibusbSubmitErrorPolicy} {err : Int} (hlog : Log s)
    (htracking : Tracking s) (hreceiver : s.receiver = .submitFailed k err) :
    Log (s.untrack policy k err) ∧ Tracking (s.untrack policy k err) := by
  have hrunning : s.receiver ≠ .stopped := by simp [hreceiver]
  refine ⟨hlog.advance (Or.inl rfl) (fun _ => hrunning) rfl id, ?_, ?_⟩
  · exact booked_update htracking.booked fun cb' hcb' => by cases hcb'
  · refine tracked_update htracking (fun q hne => ?_) (by simp [untrack, untaken])
    simp [untrack, hreceiver, untaken, Ne.symm hne]

theorem books_submitRetSubmit {ret : UsbIpRetSubmit Handler} {noDevice : Bool} (hlog : Log s)
    (htracking : Tracking s) (hreceiver : s.receiver = .answering ret noDevice) :
    Log (s.submitRetSubmit ret noDevice) ∧ Tracking (s.submitRetSubmit ret noDevice) := by
  have hrunning : s.receiver ≠ .stopped := by simp [hreceiver]
  refine ⟨hlog.advance (Or.inr ⟨_, rfl, rfl, trivial⟩) (fun _ => hrunning) rfl fun hremoved => ?_,
    htracking.keep rfl (List.subset_append_left _ _) ?_⟩
  · simp [submitRetSubmit, hremoved]
  · cases noDevice with
    | true => simp [submitRetSubmit, hreceiver, untaken]
    | false => simp [submitRetSubmit, hreceiver, untaken]

theorem books_findUnlinked {cmdSeqnum : UInt32} (h : Inv s)
    (hreceiver : s.receiver = .unlinking k cmdSeqnum) :
    Log (s.findUnlinked k cmdSeqnum) ∧ Tracking (s.findUnlinked k cmdSeqnum) := by
  obtain ⟨hlog, htracking, hconserved⟩ := h
  have hrunning : s.receiver ≠ .stopped := by simp [hreceiver]
  unfold findUnlinked
  dsimp only
  split
  next cb hcb =>
    have htaken : cb.stage ≠ .tracked := by
      intro htracked
      have huntaken := (htracking.tracked k).mpr ⟨cb, hcb, htracked⟩
      rw [hreceiver] at huntaken
      cases huntaken
    refine ⟨hlog.advance (Or.inr ⟨_, rfl, rfl, trivial⟩) (fun _ => hrunning) rfl id, ?_, ?_⟩
    · refine booked_update (fun q cb' hcb' => ?_) fun cb' hcb' => ?_
      · exact (htracking.booked q cb' hcb').mono (List.subset_append_left _ _)
      · obtain rfl := Option.some.inj hcb'
        exact ⟨(htracking.booked k cb hcb).1, fun _ => List.mem_append_right _ List.mem_cons_self⟩
    · refine tracked_update (s := s) htracking (fun q hne => ?_) ?_
      · simp [record, setTransfer, hreceiver, untaken]
      · simp [record, setTransfer, untaken, htaken]
  next hnone =>
    have hdue : Due s.events (.notFound k (.createRetUnlink cmdSeqnum 0)) :=
      due_notFound hlog hconserved hreceiver hnone rfl
    exact ⟨hlog.advance (Or.inr ⟨_, rfl, rfl, hdue⟩) (fun _ => hrunning) rfl id,
      htracking.keep rfl (List.subset_append_left _ _) (by simp [record, hreceiver, untaken])⟩

theorem books_transferCallback {trx : LibusbTransfer} (hlog : Log s) (htracking : Tracking s)
    (hcb : s.transfers k = some cb) (hstage : cb.stage = .submitted) :
    Log (s.transferCallback k cb trx) ∧ Tracking (s.transferCallback k cb trx) := by
  have htaken : cb.stage ≠ .tracked := by simp [hstage]
  unfold LibusbDeviceHandler.transferCallback
  split
  next hclient =>
    refine ⟨⟨fun hreceiver => ?_, fun _ _ => hclient, fun q hq => ?_, ?_⟩,
      htracking.callback hcb htaken rfl (fun cb' hcb' => by cases hcb')
        (List.subset_append_left _ _) rfl⟩
    · have hfalse := (hlog.running hreceiver).1
      rw [hclient] at hfalse
      cases hfalse
    · exact hlog.refused q ((List.mem_append.mp hq).resolve_right (by simp))
    · exact justified_concat.mpr ⟨hlog.justified, trivial⟩
  next hclient =>
    refine ⟨hlog.advance (Or.inl rfl) id rfl fun hremoved => ?_,
      htracking.callback hcb htaken rfl (fun cb' hcb' => ?_) (List.Subset.refl _) rfl⟩
    · simp [hremoved]
    · obtain rfl := Option.some.inj hcb'
      exact ⟨htracking.booked k cb hcb, fun htracked => TransferStage.noConfusion htracked⟩

theorem books_enqueueReply {trx : LibusbTransfer} (hlog : Log s) (htracking : Tracking s)
    (hcb : s.transfers k = some cb) (hstage : cb.stage = .completed trx) :
    Log (s.enqueueReply k cb trx) ∧ Tracking (s.enqueueReply k cb trx) := by
  have htaken : cb.stage ≠ .tracked := by simp [hstage]
  unfold enqueueReply
  dsimp only
  split
  next hunlinking =>
    have hmarked := (htracking.booked k cb hcb).2 hunlinking
    exact ⟨hlog.advance (Or.inr ⟨_, rfl, rfl, hmarked⟩) id rfl id,
      htracking.callback hcb htaken rfl (fun cb' hcb' => by cases hcb')
        (List.subset_append_left _ _) rfl⟩
  next hunlinking =>
    exact ⟨hlog.advance (Or.inr ⟨_, rfl, rfl, trivial⟩) id rfl id,
      htracking.callback hcb htaken rfl (fun cb' hcb' => by cases hcb')
        (List.subset_append_left _ _) rfl⟩

/-- A step that neither records an event nor moves a command. -/
theorem Inv.quiet (h : Inv s) (hlog : Log t) (htransfers : t.transfers = s.transfers)
    (hevents : t.events = s.events) (huntaken : untaken t.receiver = untaken s.receiver)
    (hcarried : carried t.receiver = carried s.receiver) : Inv t := by
  refine ⟨hlog, h.2.1.keep htransfers (fun event hevent => hevents ▸ hevent) huntaken, fun q => ?_⟩
  have hbefore := h.2.2 q
  rw [underWay, carriedCount] at hbefore ⊢
  rwa [hevents, htransfers, hcarried]

theorem inv_step {policy : LibusbSubmitErrorPolicy} {a : HandlerAction} (h : Inv s)
    (ht : s.step policy a = some t) : Inv t := by
  obtain ⟨hlog, htracking, hconserved⟩ := h
  cases stepped_of_step ht with
  | receiveUrb hidle =>
      obtain ⟨hlog', htracking'⟩ := books_receiveUrb hlog htracking hidle
      exact ⟨hlog', htracking', conserved_receiveUrb hconserved hidle⟩
  | track hreceiver =>
      obtain ⟨hlog', htracking'⟩ := books_track hlog htracking hreceiver
      exact ⟨hlog', htracking', conserved_track hconserved hreceiver⟩
  | @submitTransfer q err hreceiver =>
      obtain ⟨cb, hcb, -⟩ := (htracking.tracked q).mp (by rw [hreceiver]; rfl)
      obtain ⟨hlog', htracking'⟩ := books_submitTransfer hlog htracking hreceiver hcb
      exact ⟨hlog', htracking', conserved_submitTransfer hconserved hreceiver hcb⟩
  | @untrack q err hreceiver =>
      obtain ⟨cb, hcb, -⟩ := (htracking.tracked q).mp (by rw [hreceiver]; rfl)
      obtain ⟨hlog', htracking'⟩ := books_untrack hlog htracking hreceiver
      exact ⟨hlog', htracking', conserved_untrack hconserved hreceiver hcb⟩
  | submitRetSubmit hreceiver =>
      obtain ⟨hlog', htracking'⟩ := books_submitRetSubmit hlog htracking hreceiver
      exact ⟨hlog', htracking', conserved_submitRetSubmit hconserved hreceiver⟩
  | unlinkIgnored hidle hremoved => exact ⟨hlog, htracking, hconserved⟩
  | unlinkBegun hidle hremoved =>
      refine Inv.quiet ⟨hlog, htracking, hconserved⟩
        (hlog.advance (Or.inl rfl) (fun _ => by simp [hidle]) rfl id) rfl rfl ?_ ?_
      · simp [hidle, untaken]
      · simp [hidle, carried]
  | findUnlinked hreceiver =>
      obtain ⟨hlog', htracking'⟩ := books_findUnlinked ⟨hlog, htracking, hconserved⟩ hreceiver
      exact ⟨hlog', htracking', conserved_findUnlinked hconserved hreceiver⟩
  | onDeviceRemoved =>
      exact Inv.quiet ⟨hlog, htracking, hconserved⟩ (hlog.advance (Or.inl rfl) id rfl fun _ => rfl)
        rfl rfl rfl rfl
  | onDisconnection hreceiver =>
      refine Inv.quiet ⟨hlog, htracking, hconserved⟩
        ⟨fun hrunning => absurd rfl hrunning, fun _ _ => rfl, hlog.refused, hlog.justified⟩
        rfl rfl ?_ ?_
      · rcases hreceiver with hreceiver | hreceiver
        · simp [hreceiver, untaken]
        · simp [hreceiver, untaken]
      · rcases hreceiver with hreceiver | hreceiver
        · simp [hreceiver, carried]
        · simp [hreceiver, carried]
  | transferCallback hcb hstage =>
      obtain ⟨hlog', htracking'⟩ := books_transferCallback hlog htracking hcb hstage
      exact ⟨hlog', htracking', conserved_transferCallback hconserved hcb⟩
  | @enqueueReply q trx cb hcb hstage =>
      obtain ⟨hlog', htracking'⟩ := books_enqueueReply hlog htracking hcb hstage
      exact ⟨hlog', htracking',
        conserved_enqueueReply hconserved hcb (htracking.booked q cb hcb).1⟩

/-- The commands that an action receives. -/
def receives : HandlerAction → List UInt32
  | .receiveUrb cmd _ _ _ _ => [cmd.header.seqnum]
  | _ => []

theorem receipts_step {policy : LibusbSubmitErrorPolicy} {a : HandlerAction}
    (ht : s.step policy a = some t) :
    t.events.filterMap receipt = s.events.filterMap receipt ++ receives a := by
  cases stepped_of_step ht with
  | @receiveUrb cmd trx ep hasInterface tweaked hidle =>
      unfold LibusbDeviceHandler.receiveUrb
      dsimp only [record]
      split
      · simp [receipt, receives]
      · split
        · simp [receipt, receives]
        · simp [receipt, receives]
  | track hreceiver =>
      unfold track
      split
      · simp [receives]
      · simp [setTransfer, receives]
  | submitTransfer hreceiver =>
      unfold submitTransfer
      split
      · simp [receives]
      · simp [setTransfer, receives]
  | untrack hreceiver => simp [untrack, setTransfer, receives]
  | submitRetSubmit hreceiver => simp [submitRetSubmit, record, receipt, receives]
  | unlinkIgnored hidle hremoved => simp [receives]
  | unlinkBegun hidle hremoved => simp [receives]
  | findUnlinked hreceiver =>
      unfold findUnlinked
      dsimp only
      split
      · simp [record, setTransfer, receipt, receives]
      · simp [record, receipt, receives]
  | onDeviceRemoved => simp [receives]
  | onDisconnection hreceiver => simp [receives]
  | transferCallback hcb hstage =>
      unfold LibusbDeviceHandler.transferCallback
      split
      · simp [record, setTransfer, receipt, receives]
      · simp [setTransfer, receives]
  | enqueueReply hcb hstage =>
      unfold enqueueReply
      dsimp only
      split
      · simp [record, setTransfer, receipt, receives]
      · simp [record, setTransfer, receipt, receives]

end Steps

/-- The client does not use a seqnum twice. -/
def Fresh (s : LibusbDeviceHandler Handler) : HandlerAction → Prop
  | .receiveUrb cmd _ _ _ _ => .received cmd.header.seqnum ∉ s.events
  | _ => True

/-- The receiver's calls and libusb's callbacks, without new commands or an end of the
connection. -/
def Finishes : HandlerAction → Prop
  | .receiveUrb .. | .handleUnlinkSeqnum .. | .onDeviceRemoved | .onDisconnection => False
  | _ => True

/-- The calls have come back, and libusb has called back for every transfer that it has taken. -/
def Quiescent (policy : LibusbSubmitErrorPolicy) (s : LibusbDeviceHandler Handler) : Prop :=
  ∀ a, Finishes a → s.step policy a = none

section Outcomes

variable {policy : LibusbSubmitErrorPolicy} {s : LibusbDeviceHandler Handler} {q : UInt32}

theorem underWay_of_quiescent (htracking : Tracking s) (h : Quiescent policy s) :
    underWay q s = 0 := by
  have hcarried : carried s.receiver ≠ some q := by
    intro hcarried
    cases hreceiver : s.receiver with
    | tracking args =>
        have htrack := h .track trivial
        simp [LibusbDeviceHandler.step, hreceiver] at htrack
    | answering ret noDevice =>
        have hanswer := h .submitRetSubmit trivial
        simp [LibusbDeviceHandler.step, hreceiver] at hanswer
    | _ => simp [hreceiver, carried] at hcarried
  have huntracked : s.transfers q = none := by
    by_contra htransfer
    obtain ⟨cb, hcb⟩ := Option.ne_none_iff_exists'.mp htransfer
    cases hstage : cb.stage with
    | tracked =>
        have huntaken := (htracking.tracked q).mpr ⟨cb, hcb, hstage⟩
        cases hreceiver : s.receiver with
        | submitting k =>
            have hsubmit := h (.submitTransfer 0) trivial
            simp [LibusbDeviceHandler.step, hreceiver] at hsubmit
        | submitFailed k err =>
            have huntrack := h .untrack trivial
            simp [LibusbDeviceHandler.step, hreceiver] at huntrack
        | _ => simp [hreceiver, untaken] at huntaken
    | submitted =>
        have hcallback := h (.transferCallback q cb.args.trx) trivial
        simp [LibusbDeviceHandler.step, hcb, hstage] at hcallback
    | completed trx =>
        have hreply := h (.enqueueReply q) trivial
        simp [LibusbDeviceHandler.step, hcb, hstage] at hreply
  rw [underWay, carriedCount, trackedCount, if_neg hcarried, huntracked]
  rfl

/-- Two events that answer a command are one. -/
theorem eq_of_answer {event event' : HandlerEvent Handler} {events : List (HandlerEvent Handler)}
    (honce : tally answer q events ≤ 1) (hevent : event ∈ events) (hevent' : event' ∈ events)
    (hanswer : answer event = some q) (hanswer' : answer event' = some q) : event = event' := by
  by_contra hne
  obtain ⟨before, after, rfl⟩ := List.append_of_mem hevent
  rw [tally_append, tally_cons, if_pos hanswer] at honce
  rcases List.mem_append.mp hevent' with hbefore | hafter
  · have hcount : 0 < tally answer q before := tally_pos_iff.mpr ⟨event', hbefore, hanswer'⟩
    omega
  · have hmem := (List.mem_cons.mp hafter).resolve_left (Ne.symm hne)
    have hcount : 0 < tally answer q after := tally_pos_iff.mpr ⟨event', hmem, hanswer'⟩
    omega

/-- What becomes of the commands of a connection. -/
structure SingleOutcome (policy : LibusbSubmitErrorPolicy) (s : LibusbDeviceHandler Handler) :
    Prop where
  answered : ∀ q, .received q ∈ s.events → .refused q ∉ s.events →
    s.clientDisconnection = false → tally answer q s.events + underWay q s = 1
  settled : Quiescent policy s → ∀ q, underWay q s = 0
  refused : ∀ q, .refused q ∈ s.events → s.deviceRemoved = true ∧ tally answer q s.events = 0
  exclusive : ∀ q ret ret', .retSubmit ret ∈ s.events → ret.header.seqnum = q →
    .retUnlink q ret' ∉ s.events
  justified : Justified Due s.events

theorem inv_create : Inv (create : LibusbDeviceHandler Handler) := by
  refine ⟨⟨fun _ => ⟨rfl, ?_⟩, ?_, ?_, ?_⟩, ⟨?_, ?_⟩, fun q => ?_⟩
  · simp [create]
  · simp [create]
  · simp [create]
  · rw [create]
    exact justified_nil
  · simp [create]
  · simp [create, untaken]
  · simp [create, underWay, carriedCount, trackedCount, carried]

theorem inv_of_fresh (h : ReachableUnder (system policy) Fresh s) :
    Inv s ∧ (s.events.filterMap receipt).Nodup := by
  refine ReachableUnder.invariant
    (I := fun s => Inv s ∧ (s.events.filterMap receipt).Nodup) ?_ ?_ h
  · rintro s rfl
    exact ⟨inv_create, List.nodup_nil⟩
  · rintro s a t ⟨hinv, hnodup⟩ hfresh ht
    refine ⟨inv_step hinv ht, ?_⟩
    rw [receipts_step ht]
    cases a with
    | receiveUrb cmd trx ep hasInterface tweaked =>
        refine List.nodup_append.mpr ⟨hnodup, List.nodup_singleton _, ?_⟩
        intro q hq q' hq' heq
        rw [heq, List.mem_singleton.mp hq'] at hq
        obtain ⟨event, hevent, hreceipt⟩ := List.mem_filterMap.mp hq
        cases event with
        | received q =>
            obtain rfl : q = cmd.header.seqnum := Option.some.inj hreceipt
            exact hfresh hevent
        | _ => cases hreceipt
    | _ => simpa [receives] using hnodup

theorem single_outcome (h : ReachableUnder (system policy) Fresh s) : SingleOutcome policy s := by
  obtain ⟨⟨hlog, htracking, hconserved⟩, hnodup⟩ := inv_of_fresh h
  have hreceived : ∀ q, tally receipt q s.events ≤ 1 := List.nodup_iff_count_le_one.mp hnodup
  refine ⟨fun q hq hrefused hclient => ?_, fun hquiet q => underWay_of_quiescent htracking hquiet,
    fun q hq => ⟨hlog.refused q hq, ?_⟩, fun q ret ret' hret hseqnum hret' => ?_, hlog.justified⟩
  · have hcount := hconserved q
    have hone := hreceived q
    have hpos : 0 < tally receipt q s.events := tally_pos_iff.mpr ⟨_, hq, rfl⟩
    have hlost : tally loss q s.events = 0 := by
      refine tally_eq_zero_iff.mpr fun event hevent hloss => ?_
      cases event with
      | refused q' =>
          obtain rfl : q' = q := Option.some.inj hloss
          exact hrefused hevent
      | abandoned q' =>
          rw [hlog.abandoned q' hevent] at hclient
          cases hclient
      | _ => cases hloss
    omega
  · have hcount := hconserved q
    have hone := hreceived q
    have hlost : 0 < tally loss q s.events := tally_pos_iff.mpr ⟨_, hq, rfl⟩
    omega
  · have honce : tally answer q s.events ≤ 1 := by
      have hcount := hconserved q
      have hone := hreceived q
      omega
    have heq := eq_of_answer honce hret hret' (congrArg some hseqnum) rfl
    cases heq

end Outcomes

/-- A read from a bulk endpoint. -/
def bulkRead (seqnum : UInt32) : HandlerAction :=
  .receiveUrb
    { header := ⟨usbipCmdSubmit, seqnum, 0, UsbIpDirection.in_, 1⟩, transferFlags := 0
      transferBufferLength := 4, startFrame := 0, numberOfPackets := nonIsoPackets, interval := 0
      setup := ⟨0, 0, 0, 0, 0⟩ }
    ⟨0, .bulk, .completed, 4, 0, [0, 0, 0, 0], []⟩ ⟨0x81, EndpointAttributes.bulk.toUInt8⟩ true
    false

def finishedTransfer (status : LibusbTransferStatus) : LibusbTransfer :=
  ⟨0x81, .bulk, status, 4, 0, [0, 0, 0, 0], []⟩

/-- A late unlink is answered after the command. -/
theorem single_outcome_instance :
    ∃ s : LibusbDeviceHandler Unit,
      ReachableUnder (system .disconnectOnAnyError) Fresh s ∧
      SingleOutcome .disconnectOnAnyError s ∧ tally answer 1 s.events = 1 ∧
      s.events.getLast? = some (.notFound 1 (.createRetUnlink 2 0)) := by
  obtain ⟨s, t, hs, ht, hanswer, hlast⟩ :
      ∃ s t : LibusbDeviceHandler Unit,
        (system .disconnectOnAnyError).step create (bulkRead 1) = some s ∧
        (system .disconnectOnAnyError).run s [.track, .submitTransfer 0,
          .transferCallback 1 (finishedTransfer .completed), .enqueueReply 1,
          .handleUnlinkSeqnum 1 2, .findUnlinked] = some t ∧
        tally answer 1 t.events = 1 ∧
        t.events.getLast? = some (.notFound 1 (.createRetUnlink 2 0)) :=
    ⟨_, _, rfl, rfl, rfl, rfl⟩
  have hfresh : Fresh (create : LibusbDeviceHandler Unit) (bulkRead 1) := by
    simp [bulkRead, Fresh, create]
  have hreach : ReachableUnder (system .disconnectOnAnyError) Fresh t :=
    ReachableUnder.run _ (by simp [Fresh]) (.step (.initial rfl) hfresh hs) ht
  exact ⟨t, hreach, single_outcome hreach, hanswer, hlast⟩

/-- A command that finds the device removed gets no answer, and the unlink of a transfer that has
been cancelled already gets one though there is no `RET_SUBMIT`. -/
theorem outcomes_missing :
    (∃ s : LibusbDeviceHandler Unit, ReachableUnder (system .disconnectOnAnyError) Fresh s ∧
      .received 1 ∈ s.events ∧ s.clientDisconnection = false ∧ underWay 1 s = 0 ∧
      tally answer 1 s.events = 0) ∧
    ∃ s : LibusbDeviceHandler Unit, ReachableUnder (system .disconnectOnAnyError) Fresh s ∧
      ∃ before ret, s.events = before ++ [.notFound 1 ret] ∧ .received 1 ∈ before ∧
        ∀ event ∈ before, ∀ ret', event ≠ .retSubmit ret' := by
  constructor
  · obtain ⟨s, t, hs, ht, hevents, hevents', hclient, hunder⟩ :
        ∃ s t : LibusbDeviceHandler Unit,
          (system .disconnectOnAnyError).step create .onDeviceRemoved = some s ∧
          (system .disconnectOnAnyError).step s (bulkRead 1) = some t ∧ s.events = [] ∧
          t.events = [.received 1, .refused 1] ∧ t.clientDisconnection = false ∧
          underWay 1 t = 0 :=
      ⟨_, _, rfl, rfl, rfl, rfl, rfl, rfl⟩
    have hfresh : Fresh s (bulkRead 1) := by simp [bulkRead, Fresh, hevents]
    have hreach : ReachableUnder (system .disconnectOnAnyError) Fresh s :=
      .step (a := .onDeviceRemoved) (.initial rfl) trivial hs
    refine ⟨t, hreach.step hfresh ht, ?_, hclient, hunder, ?_⟩
    · rw [hevents']
      exact List.mem_cons_self
    · rw [hevents']
      rfl
  · obtain ⟨s, t, hs, ht, hevents⟩ :
        ∃ s t : LibusbDeviceHandler Unit,
          (system .disconnectOnAnyError).step create (bulkRead 1) = some s ∧
          (system .disconnectOnAnyError).run s [.track, .submitTransfer 0, .handleUnlinkSeqnum 1 2,
            .findUnlinked, .transferCallback 1 (finishedTransfer .cancelled), .enqueueReply 1,
            .handleUnlinkSeqnum 1 3, .findUnlinked] = some t ∧
          t.events = [.received 1, .marked 1 2,
            .retUnlink 1 (.createRetUnlink 2 UrbStatusType.statusECONNRESET)] ++
            [.notFound 1 (.createRetUnlink 3 0)] :=
      ⟨_, _, rfl, rfl, rfl⟩
    have hfresh : Fresh (create : LibusbDeviceHandler Unit) (bulkRead 1) := by
      simp [bulkRead, Fresh, create]
    have hreach : ReachableUnder (system .disconnectOnAnyError) Fresh s :=
      .step (.initial rfl) hfresh hs
    refine ⟨t, ReachableUnder.run _ (by simp [Fresh]) hreach ht, _, _, hevents,
      List.mem_cons_self, ?_⟩
    simp

end Usbipdcpp.LibusbHandler.TransferOutcomes
