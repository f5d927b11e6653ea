import Mathlib.Data.Multiset.AddSub
import Mathlib.Data.Multiset.MapFold
import Mathlib.Data.Multiset.Filter
import Usbipdcpp.LibusbHandler.TransferOutcomes

namespace Usbipdcpp.LibusbHandler.UnlinkAnswers

open Protocol VirtualDevice TransferTracking TransferOutcomes Foundation.TransitionSystem
open LibusbDeviceHandler hiding step receiveUrb transferCallback

variable {Handler : Type}

/-- The seqnum of the `CMD_UNLINK` that an action receives. -/
def unlinkCommand : HandlerAction → Option UInt32
  | .handleUnlinkSeqnum _ cmdSeqnum => some cmdSeqnum
  | _ => none

/-- The seqnum of the `RET_UNLINK` that an event is. -/
def unlinkAnswer : HandlerEvent Handler → Option UInt32
  | .retUnlink _ ret => some ret.header.seqnum
  | .notFound _ ret => some ret.header.seqnum
  | _ => none

/-- Every `CMD_UNLINK` has got exactly one `RET_UNLINK` with its own seqnum. -/
def AnsweredOnce (actions : List HandlerAction) (s : LibusbDeviceHandler Handler) : Prop :=
  ∀ c, tally unlinkAnswer c s.events = occurrences unlinkCommand c actions

/-- A `CMD_UNLINK` does not find its transfer marked by an earlier one. -/
def FirstMark (s : LibusbDeviceHandler Handler) : HandlerAction → Prop
  | .findUnlinked => ∀ q c cb, s.receiver = .unlinking q c → s.transfers q = some cb →
      cb.unlinking = false
  | _ => True

/-- In a run, no `CMD_UNLINK` finds its transfer marked by an earlier one. -/
def FirstMarks (Handler : Type) (policy : LibusbSubmitErrorPolicy)
    (actions : List HandlerAction) : Prop :=
  (system policy : System (LibusbDeviceHandler Handler) HandlerAction).Meets FirstMark create
    actions

/-- The transfer that an unlink marks, with the seqnum that its callback is to answer. -/
def mark : HandlerEvent Handler → Option (UInt32 × UInt32)
  | .marked q c => some (q, c)
  | _ => none

/-- The mark that the `RET_UNLINK` of a callback answers. -/
def markAnswer : HandlerEvent Handler → Option (UInt32 × UInt32)
  | .retUnlink q ret => some (q, ret.header.seqnum)
  | _ => none

/-- The seqnum of an unlink that has left a mark. -/
def markCommand : HandlerEvent Handler → Option UInt32
  | .marked _ c => some c
  | _ => none

/-- The seqnum that the unlink of a transfer which is not in flight is answered with. -/
def notFoundAnswer : HandlerEvent Handler → Option UInt32
  | .notFound _ ret => some ret.header.seqnum
  | _ => none

/-- How often a transfer carries the mark of an unlink: once or not at all. -/
def carriedMark (transfer : Option LibusbCallbackArgs) (c : UInt32) : Nat :=
  match transfer with
  | some cb => if cb.unlinking = true ∧ cb.unlinkCmdSeqnum = c then 1 else 0
  | none => 0

/-- The unlink that the receiver is looking for a transfer for. -/
def lookingFor (c : UInt32) : ReceiverPc Handler → Nat
  | .unlinking _ cmdSeqnum => if cmdSeqnum = c then 1 else 0
  | _ => 0

/-- What has become of the unlinks of a run: each is in hand, has found nothing or has left a mark,
and a mark is in flight, answered or overwritten by another one. -/
structure Accounts (policy : LibusbSubmitErrorPolicy) (actions : List HandlerAction)
    (s : LibusbDeviceHandler Handler) (overwritten : Multiset (UInt32 × UInt32)) : Prop where
  commands : ∀ c, occurrences unlinkCommand c actions =
    lookingFor c s.receiver + occurrences notFoundAnswer c s.events +
      occurrences markCommand c s.events
  marks : ∀ q c, occurrences mark (q, c) s.events =
    carriedMark (s.transfers q) c + occurrences markAnswer (q, c) s.events +
      overwritten.count (q, c)
  firstMarks : FirstMarks Handler policy actions ↔ overwritten = 0

section Steps

variable {policy : LibusbSubmitErrorPolicy} {s t : LibusbDeviceHandler Handler}
  {actions : List HandlerAction} {a : HandlerAction} {overwritten : Multiset (UInt32 × UInt32)}
  {events : List (HandlerEvent Handler)}

/-- A transfer that changes, its mark apart. -/
theorem carriedMark_update {transfers : UInt32 → Option LibusbCallbackArgs} {k : UInt32}
    {transfer : Option LibusbCallbackArgs}
    (hsame : ∀ c, carriedMark transfer c = carriedMark (transfers k) c) (q c : UInt32) :
    carriedMark (Function.update transfers k transfer q) c = carriedMark (transfers q) c := by
  by_cases heq : q = k
  · rw [heq, Function.update_self]
    exact hsame c
  · rw [Function.update_of_ne heq]

theorem carriedMark_of_unmarked {cb : LibusbCallbackArgs} (h : cb.unlinking = false)
    (c : UInt32) : carriedMark (some cb) c = 0 := by
  simp [carriedMark, h]

theorem Accounts.advance {overwritten' : Multiset (UInt32 × UInt32)}
    (h : Accounts policy actions s overwritten) (hevents : t.events = s.events ++ events)
    (hcommands : ∀ c, lookingFor c s.receiver + occurrences unlinkCommand c [a] =
      lookingFor c t.receiver + occurrences notFoundAnswer c events +
        occurrences markCommand c events)
    (hmarks : ∀ q c, carriedMark (s.transfers q) c + occurrences mark (q, c) events +
        overwritten.count (q, c) =
      carriedMark (t.transfers q) c + occurrences markAnswer (q, c) events +
        overwritten'.count (q, c))
    (hfirst : FirstMarks Handler policy (actions ++ [a]) ↔ overwritten' = 0) :
    Accounts policy (actions ++ [a]) t overwritten' := by
  refine ⟨fun c => ?_, fun q c => ?_, hfirst⟩
  · have hbefore := h.commands c
    have hhere := hcommands c
    rw [hevents, occurrences_append, occurrences_append, occurrences_append]
    omega
  · have hbefore := h.marks q c
    have hhere := hmarks q c
    rw [hevents, occurrences_append, occurrences_append]
    omega

/-- A step that overwrites no mark. -/
theorem Accounts.keep (h : Accounts policy actions s overwritten)
    (hrun : (system policy).run create actions = some s) (hfirst : FirstMark s a)
    (hevents : t.events = s.events ++ events)
    (hcommands : ∀ c, lookingFor c s.receiver + occurrences unlinkCommand c [a] =
      lookingFor c t.receiver + occurrences notFoundAnswer c events +
        occurrences markCommand c events)
    (hmarks : ∀ q c, carriedMark (s.transfers q) c + occurrences mark (q, c) events =
      carriedMark (t.transfers q) c + occurrences markAnswer (q, c) events) :
    Accounts policy (actions ++ [a]) t overwritten := by
  refine h.advance hevents hcommands (fun q c => by rw [hmarks q c]) ?_
  rw [FirstMarks, System.meets_concat hrun, and_iff_left hfirst]
  exact h.firstMarks

/-- A step that sends nothing and touches no mark. -/
theorem Accounts.silent (h : Accounts policy actions s overwritten)
    (hrun : (system policy).run create actions = some s) (hfirst : FirstMark s a)
    (hevents : t.events = s.events)
    (hcommands : ∀ c, lookingFor c s.receiver + occurrences unlinkCommand c [a] =
      lookingFor c t.receiver)
    (hmarks : ∀ q c, carriedMark (t.transfers q) c = carriedMark (s.transfers q) c) :
    Accounts policy (actions ++ [a]) t overwritten := by
  refine h.keep hrun hfirst (hevents.trans (List.append_nil s.events).symm) (fun c => ?_)
    fun q c => ?_
  · rw [hcommands c, occurrences_nil, occurrences_nil]
    rfl
  · rw [hmarks q c, occurrences_nil, occurrences_nil]

/-- No unlink is handled while a transfer is being handed to libusb. -/
def Unmarked (s : LibusbDeviceHandler Handler) : Prop :=
  ∀ q cb, s.transfers q = some cb → cb.stage = .tracked → cb.unlinking = false

theorem unmarked_update {transfers : UInt32 → Option LibusbCallbackArgs} {k : UInt32}
    {transfer : Option LibusbCallbackArgs}
    (h : ∀ q cb, transfers q = some cb → cb.stage = .tracked → cb.unlinking = false)
    (htransfer : ∀ cb, transfer = some cb → cb.stage = .tracked → cb.unlinking = false) :
    ∀ q cb, Function.update transfers k transfer q = some cb → cb.stage = .tracked →
      cb.unlinking = false := by
  intro q cb hcb hstage
  by_cases heq : q = k
  · rw [heq, Function.update_self] at hcb
    exact htransfer cb hcb hstage
  · rw [Function.update_of_ne heq] at hcb
    exact h q cb hcb hstage

theorem unmarked_step (h : Unmarked s) (htracking : Tracking s)
    (ht : s.step policy a = some t) : Unmarked t := by
  cases stepped_of_step ht with
  | receiveUrb hidle =>
      unfold LibusbDeviceHandler.receiveUrb
      dsimp only [record]
      split
      · exact h
      · split
        · exact h
        · exact h
  | track hreceiver =>
      unfold track
      split
      · exact h
      · refine unmarked_update h fun cb hcb _ => ?_
        obtain rfl := Option.some.inj hcb
        rfl
  | @submitTransfer q err hreceiver =>
      unfold submitTransfer
      split
      · exact h
      · refine unmarked_update h fun cb hcb hstage => ?_
        obtain ⟨cb, -, rfl⟩ := Option.map_eq_some_iff.mp hcb
        cases hstage
  | untrack hreceiver => exact unmarked_update h fun cb hcb => nomatch hcb
  | submitRetSubmit hreceiver => exact h
  | unlinkIgnored hidle hremoved => exact h
  | unlinkBegun hidle hremoved => exact h
  | findUnlinked hreceiver =>
      unfold findUnlinked
      dsimp only
      split
      next cb hcb =>
        refine unmarked_update h fun cb' hcb' hstage => ?_
        obtain rfl := Option.some.inj hcb'
        -- the receiver is not handing a transfer over while it looks for one
        have huntaken := (htracking.tracked _).mpr ⟨cb, hcb, hstage⟩
        simp [hreceiver, untaken] at huntaken
      next => exact h
  | onDeviceRemoved => exact h
  | onDisconnection hreceiver => exact h
  | transferCallback hcb hstage =>
      unfold LibusbDeviceHandler.transferCallback
      split
      · exact unmarked_update h fun cb hcb => nomatch hcb
      · refine unmarked_update h fun cb' hcb' hcompleted => ?_
        obtain rfl := Option.some.inj hcb'
        cases hcompleted
  | enqueueReply hcb hstage =>
      unfold enqueueReply
      dsimp only
      split
      · exact unmarked_update h fun cb hcb => nomatch hcb
      · exact unmarked_update h fun cb hcb => nomatch hcb

/-- The unlink of a transfer that is not in flight is answered at once. -/
theorem accounts_notFound {unlinkSeqnum cmdSeqnum : UInt32}
    (h : Accounts policy actions s overwritten)
    (hrun : (system policy).run create actions = some s)
    (hreceiver : s.receiver = .unlinking unlinkSeqnum cmdSeqnum)
    (hnone : s.transfers unlinkSeqnum = none) :
    Accounts policy (actions ++ [.findUnlinked]) (s.findUnlinked unlinkSeqnum cmdSeqnum)
      overwritten := by
  have hfirst : FirstMark s .findUnlinked := by
    intro q c cb hlooking hcb
    rw [hreceiver] at hlooking
    obtain ⟨rfl, rfl⟩ := ReceiverPc.unlinking.inj hlooking
    exact nomatch hnone.symm.trans hcb
  unfold findUnlinked
  dsimp only
  rw [hnone]
  refine h.keep hrun hfirst rfl (fun c => ?_) fun q c => ?_
  · simp [record, hreceiver, lookingFor, unlinkCommand, notFoundAnswer, markCommand,
      UsbIpRetUnlink.createRetUnlink, UsbIpHeaderBasic.getServerHeader]
  · simp [record, mark, markAnswer]

theorem firstMark_iff {unlinkSeqnum cmdSeqnum : UInt32} {cb : LibusbCallbackArgs}
    (hreceiver : s.receiver = .unlinking unlinkSeqnum cmdSeqnum)
    (hcb : s.transfers unlinkSeqnum = some cb) :
    FirstMark s .findUnlinked ↔ cb.unlinking = false := by
  constructor
  · intro h
    exact h unlinkSeqnum cmdSeqnum cb hreceiver hcb
  · intro h q c cb' hlooking hcb'
    rw [hreceiver] at hlooking
    obtain ⟨rfl, rfl⟩ := ReceiverPc.unlinking.inj hlooking
    obtain rfl := Option.some.inj (hcb.symm.trans hcb')
    exact h

/-- The mark that an unlink of a transfer in flight takes away. -/
def replacedMark (unlinkSeqnum : UInt32) (cb : LibusbCallbackArgs) : Multiset (UInt32 × UInt32) :=
  if cb.unlinking then {(unlinkSeqnum, cb.unlinkCmdSeqnum)} else 0

theorem replacedMark_eq_zero {unlinkSeqnum : UInt32} {cb : LibusbCallbackArgs} :
    replacedMark unlinkSeqnum cb = 0 ↔ cb.unlinking = false := by
  unfold replacedMark
  cases cb.unlinking with
  | true => simp
  | false => simp

/-- The unlink of a transfer in flight leaves its mark there, whatever it finds. -/
theorem accounts_marked {unlinkSeqnum cmdSeqnum : UInt32} {cb : LibusbCallbackArgs}
    (h : Accounts policy actions s overwritten)
    (hrun : (system policy).run create actions = some s)
    (hreceiver : s.receiver = .unlinking unlinkSeqnum cmdSeqnum)
    (hcb : s.transfers unlinkSeqnum = some cb) :
    Accounts policy (actions ++ [.findUnlinked]) (s.findUnlinked unlinkSeqnum cmdSeqnum)
      (overwritten + replacedMark unlinkSeqnum cb) := by
  have hfirst := firstMark_iff hreceiver hcb
  unfold findUnlinked
  dsimp only
  rw [hcb]
  refine h.advance rfl (fun c => ?_) (fun q c => ?_) ?_
  · simp [record, setTransfer, hreceiver, lookingFor, unlinkCommand, notFoundAnswer, markCommand]
  · rw [Multiset.count_add]
    by_cases heq : q = unlinkSeqnum
    · subst heq
      cases hunlinking : cb.unlinking with
      | true =>
          simp [record, setTransfer, carriedMark, replacedMark, hcb, hunlinking, mark, markAnswer,
            Multiset.count_singleton, eq_comm]
          omega
      | false =>
          simp [record, setTransfer, carriedMark, replacedMark, hcb, hunlinking, mark, markAnswer]
    · have hcount : (replacedMark unlinkSeqnum cb).count (q, c) = 0 := by
        unfold replacedMark
        split
        next => simp [heq]
        next => rfl
      simp [record, setTransfer, Function.update_of_ne heq, mark, markAnswer, Ne.symm heq, hcount]
  · rw [FirstMarks, System.meets_concat hrun, hfirst, ← FirstMarks, h.firstMarks,
      ← replacedMark_eq_zero, ← Multiset.card_eq_zero, ← Multiset.card_eq_zero,
      ← Multiset.card_eq_zero, Multiset.card_add, Nat.add_eq_zero_iff]

/-- The flags are never taken back in a connection. -/
theorem present_before (ht : s.step policy a = some t) :
    (t.deviceRemoved = false → s.deviceRemoved = false) ∧
      (t.clientDisconnection = false → s.clientDisconnection = false) := by
  cases stepped_of_step ht with
  | receiveUrb hidle =>
      unfold LibusbDeviceHandler.receiveUrb
      dsimp only [record]
      split
      · exact ⟨id, id⟩
      · split
        · exact ⟨id, id⟩
        · exact ⟨id, id⟩
  | track hreceiver =>
      unfold track
      split
      · exact ⟨id, id⟩
      · exact ⟨id, id⟩
  | submitTransfer hreceiver =>
      unfold submitTransfer
      split
      · exact ⟨id, id⟩
      · exact ⟨id, id⟩
  | untrack hreceiver => exact ⟨id, id⟩
  | submitRetSubmit hreceiver => exact ⟨fun h => (Bool.or_eq_false_iff.mp h).1, id⟩
  | unlinkIgnored hidle hremoved => exact ⟨id, id⟩
  | unlinkBegun hidle hremoved => exact ⟨id, id⟩
  | findUnlinked hreceiver =>
      unfold findUnlinked
      dsimp only
      split
      · exact ⟨id, id⟩
      · exact ⟨id, id⟩
  | onDeviceRemoved => exact ⟨fun h => Bool.noConfusion h, id⟩
  | onDisconnection hreceiver => exact ⟨id, fun h => Bool.noConfusion h⟩
  | transferCallback hcb hstage =>
      unfold LibusbDeviceHandler.transferCallback
      split
      · exact ⟨id, id⟩
      · exact ⟨fun h => (Bool.or_eq_false_iff.mp h).1, id⟩
  | enqueueReply hcb hstage =>
      unfold enqueueReply
      dsimp only
      split
      · exact ⟨id, id⟩
      · exact ⟨id, id⟩

theorem accounts_step (h : Accounts policy actions s overwritten)
    (hrun : (system policy).run create actions = some s) (htracking : Tracking s)
    (hunmarked : Unmarked s) (ht : s.step policy a = some t) (hpresent : t.deviceRemoved = false)
    (hconnected : t.clientDisconnection = false) :
    ∃ overwritten', Accounts policy (actions ++ [a]) t overwritten' := by
  have hbefore := present_before ht
  have hremoved := hbefore.1 hpresent
  have hclient := hbefore.2 hconnected
  cases stepped_of_step ht with
  | receiveUrb hidle =>
      refine ⟨overwritten, ?_⟩
      unfold LibusbDeviceHandler.receiveUrb
      dsimp only [record]
      rw [if_neg (by simp [hremoved])]
      split
      · exact h.keep hrun trivial rfl
          (fun c => by simp [hidle, lookingFor, unlinkCommand, notFoundAnswer, markCommand])
          fun q c => by simp [mark, markAnswer]
      · exact h.keep hrun trivial rfl
          (fun c => by simp [hidle, lookingFor, unlinkCommand, notFoundAnswer, markCommand])
          fun q c => by simp [mark, markAnswer]
  | track hreceiver =>
      refine ⟨overwritten, ?_⟩
      unfold track
      split
      next =>
        exact h.silent hrun trivial rfl
          (fun c => by simp [hreceiver, lookingFor, unlinkCommand]) fun _ _ => rfl
      next hnone =>
        exact h.silent hrun trivial rfl
          (fun c => by simp [hreceiver, lookingFor, unlinkCommand])
          (carriedMark_update fun c => by rw [hnone]; rfl)
  | submitTransfer hreceiver =>
      refine ⟨overwritten, ?_⟩
      unfold submitTransfer
      split
      next =>
        exact h.silent hrun trivial rfl
          (fun c => by simp [hreceiver, lookingFor, unlinkCommand]) fun _ _ => rfl
      next =>
        refine h.silent hrun trivial rfl
          (fun c => by simp [hreceiver, lookingFor, unlinkCommand]) (carriedMark_update fun c => ?_)
        rcases s.transfers _ with _ | cb <;> rfl
  | @untrack k err hreceiver =>
      refine ⟨overwritten, h.silent hrun trivial rfl
        (fun c => by simp [untrack, hreceiver, lookingFor, unlinkCommand])
        (carriedMark_update fun c => ?_)⟩
      -- the transfer that libusb has refused is still there, and no unlink has come meanwhile
      obtain ⟨cb, hcb, hstage⟩ := (htracking.tracked k).mp (by rw [hreceiver]; rfl)
      rw [hcb, carriedMark_of_unmarked (hunmarked k cb hcb hstage)]
      rfl
  | @submitRetSubmit ret noDevice hreceiver =>
      refine ⟨overwritten, h.keep hrun trivial rfl (fun c => ?_) fun q c => ?_⟩
      · cases noDevice <;> simp [submitRetSubmit, record, hreceiver, lookingFor, unlinkCommand,
          notFoundAnswer, markCommand]
      · simp [submitRetSubmit, record, mark, markAnswer]
  | unlinkIgnored hidle hgone => exact absurd hgone (by simp [hremoved])
  | unlinkBegun hidle _ =>
      exact ⟨overwritten, h.silent hrun trivial rfl
        (fun c => by simp [hidle, lookingFor, unlinkCommand]) fun _ _ => rfl⟩
  | @findUnlinked q c hreceiver =>
      rcases hcb : s.transfers q with _ | cb
      · exact ⟨_, accounts_notFound h hrun hreceiver hcb⟩
      · exact ⟨_, accounts_marked h hrun hreceiver hcb⟩
  | onDeviceRemoved => cases hpresent
  | onDisconnection hreceiver => cases hconnected
  | @transferCallback k trx cb hcb hstage =>
      refine ⟨overwritten, ?_⟩
      unfold LibusbDeviceHandler.transferCallback
      rw [if_neg (by simp [hclient])]
      exact h.silent hrun trivial rfl (fun c => by simp [setTransfer, unlinkCommand])
        (carriedMark_update fun c => by rw [hcb]; rfl)
  | @enqueueReply k trx cb hcb hstage =>
      refine ⟨overwritten, ?_⟩
      unfold enqueueReply
      dsimp only
      split
      next hunlinking =>
        refine h.keep hrun trivial rfl (fun c => ?_) fun q c => ?_
        · simp [record, setTransfer, unlinkCommand, notFoundAnswer, markCommand]
        · by_cases heq : q = k
          · subst heq
            simp [record, setTransfer, hcb, carriedMark, hunlinking, mark, markAnswer,
              UsbIpRetUnlink.createRetUnlink, UsbIpHeaderBasic.getServerHeader]
          · simp [record, setTransfer, Function.update_of_ne heq, mark, markAnswer, Ne.symm heq]
      next hunlinking =>
        refine h.keep hrun trivial rfl (fun c => ?_) fun q c => ?_
        · simp [record, setTransfer, unlinkCommand, notFoundAnswer, markCommand]
        · have hnone := carriedMark_of_unmarked ((Bool.not_eq_true _).mp hunlinking)
          exact Nat.add_right_cancel_iff.mpr
            (carriedMark_update (fun c => by rw [hcb, hnone c]; rfl) q c).symm

theorem inv_of_run (hrun : (system policy).run create actions = some s) : Inv s :=
  System.run_invariant (I := fun _ s => Inv s) inv_create (fun _ _ _ _ h ht => inv_step h ht) hrun

/-- Of every run that ends with the device there and the client connected, the accounts can be
drawn up. -/
theorem accounts_of_run (hrun : (system policy).run create actions = some s)
    (hpresent : s.deviceRemoved = false) (hconnected : s.clientDisconnection = false) :
    ∃ overwritten, Accounts policy actions s overwritten := by
  refine (System.run_invariant (T := system policy) (s := create)
    (I := fun actions s => (system policy).run create actions = some s ∧ Inv s ∧ Unmarked s ∧
      (s.deviceRemoved = false → s.clientDisconnection = false →
        ∃ overwritten, Accounts policy actions s overwritten)) ?_ ?_ hrun).2.2.2 hpresent hconnected
  · have hunmarked : Unmarked (create : LibusbDeviceHandler Handler) := fun q cb hcb => nomatch hcb
    refine ⟨rfl, inv_create, hunmarked, fun _ _ => ⟨0, fun c => rfl, fun q c => rfl, ?_⟩⟩
    exact iff_of_true System.meets_nil rfl
  · rintro actions s a t ⟨hrun, hinv, hunmarked, haccounts⟩ ht
    refine ⟨System.run_concat.mpr ⟨s, hrun, ht⟩, inv_step hinv ht,
      unmarked_step hunmarked hinv.2.1 ht, fun hpresent hconnected => ?_⟩
    have hbefore := present_before ht
    obtain ⟨overwritten, h⟩ := haccounts (hbefore.1 hpresent) (hbefore.2 hconnected)
    exact accounts_step h hrun hinv.2.1 hunmarked ht hpresent hconnected

end Steps

section Answers

variable {policy : LibusbSubmitErrorPolicy} {s : LibusbDeviceHandler Handler}
  {actions : List HandlerAction} {overwritten : Multiset (UInt32 × UInt32)}

theorem tally_unlinkAnswer (c : UInt32) (events : List (HandlerEvent Handler)) :
    tally unlinkAnswer c events =
      ((events.filterMap markAnswer).map Prod.snd).count c +
        occurrences notFoundAnswer c events := by
  rw [count_map_filterMap]
  induction events with
  | nil => rfl
  | cons event events ih =>
      rw [tally_cons, ih, ← List.singleton_append, occurrences_append, occurrences_append,
        occurrences_singleton, occurrences_singleton]
      cases event with
      | retUnlink q ret => simp [unlinkAnswer, markAnswer, notFoundAnswer]; omega
      | notFound q ret => simp [unlinkAnswer, markAnswer, notFoundAnswer]; omega
      | _ => simp [unlinkAnswer, markAnswer, notFoundAnswer]

theorem occurrences_markCommand (c : UInt32) (events : List (HandlerEvent Handler)) :
    occurrences markCommand c events = ((events.filterMap mark).map Prod.snd).count c := by
  rw [count_map_filterMap]
  congr 1
  funext event
  cases event <;> rfl

/-- Once nothing is under way, what unlinks have not been answered are those whose marks have been
overwritten. -/
theorem answeredOnce_iff (h : Accounts policy actions s overwritten)
    (hidle : ∀ c, lookingFor c s.receiver = 0) (hnone : ∀ q, s.transfers q = none) :
    AnsweredOnce actions s ↔ overwritten = 0 := by
  have hmarks : ((s.events.filterMap mark : List _) : Multiset (UInt32 × UInt32)) =
      (s.events.filterMap markAnswer : List _) + overwritten := by
    ext ⟨q, c⟩
    have hcount := h.marks q c
    rw [hnone, carriedMark, Nat.zero_add] at hcount
    rw [Multiset.count_add, Multiset.coe_count, Multiset.coe_count]
    exact hcount
  have hsplit (c : UInt32) : occurrences unlinkCommand c actions =
      tally unlinkAnswer c s.events + (overwritten.map Prod.snd).count c := by
    have hmarked := congrArg (fun m => (m.map Prod.snd).count c) hmarks
    simp only [Multiset.map_add, Multiset.count_add, Multiset.map_coe,
      Multiset.coe_count] at hmarked
    rw [h.commands c, hidle, occurrences_markCommand, hmarked, tally_unlinkAnswer]
    omega
  have hnothing : overwritten = 0 ↔ ∀ c, (overwritten.map Prod.snd).count c = 0 := by
    rw [← Multiset.map_eq_zero (f := Prod.snd), Multiset.ext]
    simp
  rw [hnothing]
  refine forall_congr' fun c => ?_
  rw [hsplit c]
  omega

/-- In a run that leaves nothing under way, with the device there and the client connected, every
`CMD_UNLINK` is answered once just where none of them finds its transfer marked by an earlier
one. -/
theorem unlinks_answered (hrun : (system policy).run create actions = some s)
    (hpresent : s.deviceRemoved = false) (hconnected : s.clientDisconnection = false)
    (hquiet : Quiescent policy s) :
    AnsweredOnce actions s ↔ FirstMarks Handler policy actions := by
  obtain ⟨overwritten, h⟩ := accounts_of_run hrun hpresent hconnected
  rw [h.firstMarks]
  refine answeredOnce_iff h (fun c => ?_) fun q => ?_
  · cases hreceiver : s.receiver with
    | unlinking q c' =>
        have hlook := hquiet .findUnlinked trivial
        simp [LibusbDeviceHandler.step, hreceiver] at hlook
    | _ => rfl
  · have hunder := underWay_of_quiescent (q := q) (inv_of_run hrun).2.1 hquiet
    rw [underWay, trackedCount] at hunder
    cases htransfer : s.transfers q with
    | none => rfl
    | some cb => simp [htransfer] at hunder

end Answers

/-- Where all commands are answered, an idle receiver leaves nothing to do. -/
theorem quiescent_of_idle {policy : LibusbSubmitErrorPolicy} {s : LibusbDeviceHandler Handler}
    {actions : List HandlerAction} (hrun : (system policy).run create actions = some s)
    (hidle : s.receiver = .idle)
    (hanswered : ∀ q, tally receipt q s.events = tally answer q s.events) :
    Quiescent policy s := by
  have hnone (q : UInt32) : s.transfers q = none := by
    have hcount := (inv_of_run hrun).2.2 q
    rw [hanswered q, underWay, trackedCount] at hcount
    cases htransfer : s.transfers q with
    | none => rfl
    | some cb =>
        rw [htransfer, Option.isSome_some, if_pos rfl] at hcount
        omega
  intro a ha
  cases a with
  | receiveUrb | handleUnlinkSeqnum | onDeviceRemoved | onDisconnection => exact ha.elim
  | track | submitTransfer | untrack | submitRetSubmit | findUnlinked =>
      simp [LibusbDeviceHandler.step, hidle]
  | transferCallback q | enqueueReply q => simp [LibusbDeviceHandler.step, hnone]

/-- A read that is cancelled while it is with libusb, by `CMD_UNLINK`s with the given seqnums. -/
def cancelledRead (unlinks : List UInt32) : List HandlerAction :=
  [bulkRead 1, .track, .submitTransfer 0] ++
    unlinks.flatMap (fun c => [.handleUnlinkSeqnum 1 c, .findUnlinked]) ++
    [.transferCallback 1 (finishedTransfer .cancelled), .enqueueReply 1]

/-- One unlink is answered by the callback. -/
theorem unlinks_answered_instance :
    ∃ s : LibusbDeviceHandler Unit,
      (system .disconnectOnAnyError).run create (cancelledRead [2]) = some s ∧
      (AnsweredOnce (cancelledRead [2]) s ↔
        FirstMarks Unit .disconnectOnAnyError (cancelledRead [2])) ∧
      tally unlinkAnswer 2 s.events = 1 := by
  obtain ⟨s, hrun, hpresent, hconnected, hidle, hevents⟩ :
      ∃ s : LibusbDeviceHandler Unit,
        (system .disconnectOnAnyError).run create (cancelledRead [2]) = some s ∧
        s.deviceRemoved = false ∧ s.clientDisconnection = false ∧ s.receiver = .idle ∧
        s.events = [.received 1, .marked 1 2,
          .retUnlink 1 (.createRetUnlink 2 UrbStatusType.statusECONNRESET)] :=
    ⟨_, rfl, rfl, rfl, rfl, rfl⟩
  have hquiet : Quiescent .disconnectOnAnyError s :=
    quiescent_of_idle hrun hidle fun q => by simp [hevents, receipt, answer]
  refine ⟨s, hrun, unlinks_answered hrun hpresent hconnected hquiet, ?_⟩
  rw [hevents]
  rfl

/-- Of two unlinks of one transfer in flight only the second is answered. -/
theorem unlink_unanswered :
    ∃ s : LibusbDeviceHandler Unit,
      (system .disconnectOnAnyError).run create (cancelledRead [2, 3]) = some s ∧
      s.deviceRemoved = false ∧ s.clientDisconnection = false ∧
      Quiescent .disconnectOnAnyError s ∧ ¬ AnsweredOnce (cancelledRead [2, 3]) s := by
  obtain ⟨s, hrun, hpresent, hconnected, hidle, hevents⟩ :
      ∃ s : LibusbDeviceHandler Unit,
        (system .disconnectOnAnyError).run create (cancelledRead [2, 3]) = some s ∧
        s.deviceRemoved = false ∧ s.clientDisconnection = false ∧ s.receiver = .idle ∧
        s.events = [.received 1, .marked 1 2, .marked 1 3,
          .retUnlink 1 (.createRetUnlink 3 UrbStatusType.statusECONNRESET)] :=
    ⟨_, rfl, rfl, rfl, rfl, rfl⟩
  have hquiet : Quiescent .disconnectOnAnyError s :=
    quiescent_of_idle hrun hidle fun q => by simp [hevents, receipt, answer]
  refine ⟨s, hrun, hpresent, hconnected, hquiet, fun h => ?_⟩
  have hcount := h 2
  rw [hevents] at hcount
  exact absurd hcount (by decide)

end Usbipdcpp.LibusbHandler.UnlinkAnswers
