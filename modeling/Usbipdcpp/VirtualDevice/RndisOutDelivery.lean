import Usbipdcpp.VirtualDevice.OutChannelLedger
import Usbipdcpp.VirtualDevice.RndisPackets

namespace Usbipdcpp.VirtualDevice.Rndis

open Foundation.FifoLedger Foundation.TransitionSystem Protocol
open OutChannelLedger (Settled takenNumber settled_of_reachable)

/-- The calls of `on_frame_received` for the frames of a transfer, the `i`-th of which is answered
by `answers i`: the frames that are accepted, and whether all of them are. -/
def offerFrames (answers : Nat → Bool) : List (List UInt8) → List (List UInt8) × Bool
  | [] => ([], true)
  | frame :: frames =>
      if answers 0 then
        let (accepted, consumed) := offerFrames (fun i => answers (i + 1)) frames
        (frame :: accepted, consumed)
      else ([], false)

/-- What the application makes of a transfer: the frames that it accepts, and whether the transfer
is used up by that.  One without a frame is not. -/
def offer (answers : Nat → Bool) (data : List UInt8) : List (List UInt8) × Bool :=
  let frames := unwrapRndisPackets data
  if frames = [] then ([], false) else offerFrames answers frames

/-- A transfer as the application has come to know it: the frames that it has accepted, and the
number of the request that has been suspended. -/
structure OutTransfer where
  data : List UInt8
  accepted : List (List UInt8)
  number : Option Nat
  deriving DecidableEq, Repr

/-- A handler without a backend, with a record of the transfers it has been given and of the
replies that it has made at once. -/
structure RndisDataInterfaceHandler (Handler : Type) where
  outChannel : OutChannelRun Handler
  replies : List (UsbIpRetSubmit Handler)
  transfers : List OutTransfer

inductive RndisOutAction where
  | bulkOut (ep : UInt8) (seqnum : UInt32) (data : List UInt8) (answers : Nat → Bool)
      (notified : Option Nat)
  | channel (a : OutChannelAction)

namespace RndisDataInterfaceHandler

variable {Handler : Type}

/-- The number of requests that wait is not limited. -/
def create : RndisDataInterfaceHandler Handler where
  outChannel := .create 0
  replies := []
  transfers := []

/-- `handle_bulk_transfer` for an OUT transfer: where a frame is not accepted, and where there is
none, the transfer is suspended as it has come. -/
def handleBulkTransfer (ep : UInt8) (seqnum : UInt32) (data : List UInt8) (answers : Nat → Bool)
    (notified : Option Nat) (s : RndisDataInterfaceHandler Handler) :
    Option (RndisDataInterfaceHandler Handler) :=
  let (accepted, consumed) := offer answers data
  if consumed then
    some
      { s with
        replies := s.replies ++ [.createRetSubmitOkWithoutData seqnum (.ofNat data.length)]
        transfers := s.transfers ++ [⟨data, accepted, none⟩] }
  else
    (s.outChannel.onOutRequest ep seqnum (some (outTransfer data)) none notified).map
      fun outChannel =>
        { s with
          outChannel
          transfers := s.transfers ++ [⟨data, accepted, some s.outChannel.arrived.length⟩] }

/-- All else is done with the channel by itself, which is given requests by the handler only. -/
def step (s : RndisDataInterfaceHandler Handler) :
    RndisOutAction → Option (RndisDataInterfaceHandler Handler)
  | .bulkOut ep seqnum data answers notified =>
      s.handleBulkTransfer ep seqnum data answers notified
  | .channel (.onOutRequest ..) => none
  | .channel a => (s.outChannel.step a).map fun outChannel => { s with outChannel }

def system : System (RndisDataInterfaceHandler Handler) RndisOutAction where
  initial s := s = create
  step := step

end RndisDataInterfaceHandler

section Offering

variable {answers : Nat → Bool} {frames : List (List UInt8)}

theorem consumed_offerFrames_iff :
    (offerFrames answers frames).2 = true ↔ ∀ i < frames.length, answers i = true := by
  induction frames generalizing answers with
  | nil => simp [offerFrames]
  | cons frame frames ih =>
      rw [offerFrames]
      split
      next hfirst =>
        dsimp only
        rw [ih]
        constructor
        · intro hrest i hi
          cases i with
          | zero => exact hfirst
          | succ i => exact hrest i (Nat.lt_of_succ_lt_succ hi)
        · intro hall i hi
          exact hall (i + 1) (Nat.succ_lt_succ hi)
      next hfirst =>
        refine iff_of_false Bool.false_ne_true fun hall => ?_
        exact hfirst (hall 0 (Nat.succ_pos _))

theorem accepted_of_consumed (h : (offerFrames answers frames).2 = true) :
    (offerFrames answers frames).1 = frames := by
  induction frames generalizing answers with
  | nil => rfl
  | cons frame frames ih =>
      rw [offerFrames] at h ⊢
      split at h
      next hfirst =>
        rw [if_pos hfirst]
        exact congrArg (frame :: ·) (ih h)
      next => cases h

/-- The first frame is refused, or there is none, where none is accepted. -/
theorem accepted_offerFrames_eq_nil_iff :
    (offerFrames answers frames).1 = [] ↔ frames = [] ∨ answers 0 = false := by
  cases frames with
  | nil => simp [offerFrames]
  | cons frame frames =>
      rw [offerFrames]
      split
      next hfirst => simp [hfirst]
      next hfirst => simp [hfirst]

end Offering

section Taken

variable {Handler : Type}

/-- The frames in the transfers that calls of `take_frame` and `try_take_frame` have returned for
the request with a number. -/
def takenFrames (number : Nat) (departures : List Departure) : List (List UInt8) :=
  departures.flatMap fun departure =>
    match departure with
    | .taken request _ =>
        if request.number = number then unwrapRndisPackets request.data else []
    | _ => []

theorem takenFrames_eq_nil {number : Nat} {departures : List Departure}
    (h : ((), number) ∉ departures.filterMap takenNumber) :
    takenFrames number departures = [] := by
  refine List.flatMap_eq_nil_iff.mpr fun departure hmem => ?_
  cases departure with
  | taken request call =>
      refine if_neg fun heq => h ?_
      exact List.mem_filterMap.mpr ⟨_, hmem, congrArg (fun n => some ((), n)) heq⟩
  | refused request held => rfl
  | cancelled request => rfl
  | dropped request => rfl

/-- A request that no two calls have taken has its frames returned once. -/
theorem takenFrames_of_mem {departures : List Departure} {request : PendingRequest} {call : Nat}
    (hnodup : (departures.filterMap takenNumber).Nodup)
    (hmem : Departure.taken request call ∈ departures) :
    takenFrames request.number departures = unwrapRndisPackets request.data := by
  induction departures with
  | nil => cases hmem
  | cons departure departures ih =>
      rw [takenFrames, List.flatMap_cons, ← takenFrames]
      rcases List.mem_cons.mp hmem with rfl | hrest
      · have hfresh : ((), request.number) ∉ departures.filterMap takenNumber :=
          (List.nodup_cons.mp hnodup).1
        rw [takenFrames_eq_nil hfresh, List.append_nil]
        exact if_pos rfl
      · have htaken : ((), request.number) ∈ departures.filterMap takenNumber :=
          List.mem_filterMap.mpr ⟨_, hrest, rfl⟩
        cases departure with
        | taken request' call' =>
            obtain ⟨hfresh, hnodup⟩ := List.nodup_cons.mp hnodup
            have hne : request'.number ≠ request.number := fun heq =>
              hfresh (heq ▸ htaken)
            dsimp only
            rw [if_neg hne, List.nil_append]
            exact ih hnodup hrest
        | refused request' held => exact ih hnodup hrest
        | cancelled request' => exact ih hnodup hrest
        | dropped request' => exact ih hnodup hrest

end Taken

namespace RndisDataInterfaceHandler

variable {Handler : Type} {s t u : RndisDataInterfaceHandler Handler} {a : RndisOutAction}

/-- What a step is for the channel: none of its own, or one of its steps. -/
theorem outChannel_of_step (h : s.step a = some t) :
    t.outChannel = s.outChannel ∨ ∃ b, s.outChannel.step b = some t.outChannel := by
  cases a with
  | bulkOut ep seqnum data answers notified =>
      simp only [step, handleBulkTransfer] at h
      split at h
      next =>
        obtain rfl := Option.some.inj h
        exact .inl rfl
      next =>
        obtain ⟨outChannel, hchannel, rfl⟩ := Option.map_eq_some_iff.mp h
        exact .inr ⟨.onOutRequest ep seqnum (some (outTransfer data)) none notified, hchannel⟩
  | channel b =>
      cases b with
      | onOutRequest => cases h
      | tryTake | take | lock | wake | cancelPending | onDisconnection | notifyAll
      | onNewConnection =>
          simp only [step] at h
          obtain ⟨outChannel, hchannel, rfl⟩ := Option.map_eq_some_iff.mp h
          exact .inr ⟨_, hchannel⟩

theorem reachable_outChannel (h : Reachable system s) :
    Reachable OutChannelRun.system s.outChannel := by
  refine h.invariant (I := fun s => Reachable OutChannelRun.system s.outChannel) ?_ ?_
  · rintro s rfl
    exact .initial ⟨0, rfl⟩
  · intro s a t hs hstep
    rcases outChannel_of_step hstep with heq | ⟨b, hb⟩
    · exact heq ▸ hs
    · exact hs.step hb

/-- The frames of a transfer that the application has got: those that it has accepted, and those of
the transfer as it has taken it. -/
def delivered (s : RndisDataInterfaceHandler Handler) (transfer : OutTransfer) :
    List (List UInt8) :=
  transfer.accepted ++
    transfer.number.elim [] fun number => takenFrames number s.outChannel.departures

/-- The application has accepted the transfer, or taken it. -/
def Done (s : RndisDataInterfaceHandler Handler) (transfer : OutTransfer) : Prop :=
  ∀ number, transfer.number = some number →
    ((), number) ∈ s.outChannel.departures.filterMap takenNumber

/-- The transfer that has come with the step from `s` to `t` has each of its frames delivered once
and in order, whatever is done later, and is answered at once if it has none. -/
structure DeliversOnce (s t : RndisDataInterfaceHandler Handler) (seqnum : UInt32)
    (data : List UInt8) : Prop where
  frames : ∀ transfer, t.transfers = s.transfers ++ [transfer] → ∀ actions u,
    system.run t actions = some u → Done u transfer →
      delivered u transfer = unwrapRndisPackets data
  answered : unwrapRndisPackets data = [] →
    t.outChannel = s.outChannel ∧
      t.replies = s.replies ++ [.createRetSubmitOkWithoutData seqnum (.ofNat data.length)]

section Channel

variable {q q' : OutChannelRun Handler} {b : OutChannelAction}

theorem keeps_of_step (h : q.step b = some q') :
    q.arrived <+: q'.arrived ∧ q'.channel.maxPending = q.channel.maxPending := by
  cases OutChannelRun.effect_of_step h with
  | refused hnumber hfull => exact ⟨List.prefix_append _ _, rfl⟩
  | enqueued hnumber hroom hresults hwakes => exact ⟨List.prefix_append _ _, rfl⟩
  | taken hpending hresults hfresh hwakes => exact ⟨List.prefix_rfl, rfl⟩
  | cancelled hpending hseqnum => exact ⟨List.prefix_rfl, rfl⟩
  | missed => exact ⟨List.prefix_rfl, rfl⟩
  | dropped => exact ⟨List.prefix_rfl, rfl⟩
  | connected => exact ⟨List.prefix_rfl, rfl⟩
  | moved notifying hresults hwakes => exact ⟨List.prefix_rfl, rfl⟩

end Channel

theorem keeps_outChannel_of_step (h : s.step a = some t) :
    s.outChannel.arrived <+: t.outChannel.arrived ∧
      t.outChannel.channel.maxPending = s.outChannel.channel.maxPending := by
  rcases outChannel_of_step h with heq | ⟨b, hb⟩
  · rw [heq]
    exact ⟨List.prefix_rfl, rfl⟩
  · exact keeps_of_step hb

theorem maxPending_eq_zero (h : Reachable system s) : s.outChannel.channel.maxPending = 0 := by
  refine h.invariant (I := fun s => s.outChannel.channel.maxPending = 0) ?_ ?_
  · rintro s rfl
    rfl
  · intro s a t hs hstep
    exact (keeps_outChannel_of_step hstep).2.trans hs

theorem arrived_prefix_of_run {actions : List RndisOutAction} (h : system.run s actions = some t) :
    s.outChannel.arrived <+: t.outChannel.arrived := by
  refine System.run_invariant
    (I := fun _ t => s.outChannel.arrived <+: t.outChannel.arrived) List.prefix_rfl ?_ h
  intro actions u a t hu hstep
  exact hu.trans (keeps_outChannel_of_step hstep).1

/-- What a connected channel is given waits there as it has come. -/
theorem suspended_of_step {ep : UInt8} {seqnum : UInt32} {data : List UInt8}
    {answers : Nat → Bool} {notified : Option Nat} (hs : Reachable system s)
    (hconnected : s.outChannel.channel.disconnected = false)
    (hrefused : (offer answers data).2 = false)
    (ht : s.step (.bulkOut ep seqnum data answers notified) = some t) :
    ∃ request : PendingRequest, request.number = s.outChannel.arrived.length ∧
      request.data = data ∧
      t.outChannel.channel.pending = s.outChannel.channel.pending ++ [request] ∧
      t.outChannel.arrived = s.outChannel.arrived ++ [request] ∧
      t.transfers = s.transfers ++
        [⟨data, (offer answers data).1, some s.outChannel.arrived.length⟩] := by
  have hfull : s.outChannel.channel.full = false := by
    rw [OutEndpointChannelBase.full, maxPending_eq_zero hs]
    rfl
  simp only [step, handleBulkTransfer, hrefused, Bool.false_eq_true, if_false] at ht
  obtain ⟨outChannel, hchannel, rfl⟩ := Option.map_eq_some_iff.mp ht
  simp only [OutChannelRun.onOutRequest, hconnected, hfull, Bool.false_eq_true, if_false]
    at hchannel
  obtain ⟨calls, -, rfl⟩ := Option.map_eq_some_iff.mp hchannel
  exact ⟨_, rfl, rfl, rfl, rfl, rfl⟩

/-- A request that waits is taken by one of the next calls. -/
theorem exists_taken {before : List PendingRequest} {request : PendingRequest}
    (hpending : t.outChannel.channel.pending = before ++ [request]) :
    ∃ actions u, system.run t actions = some u ∧
      ((), request.number) ∈ u.outChannel.departures.filterMap takenNumber := by
  induction before generalizing t with
  | nil =>
      refine ⟨[.channel .tryTake], { t with outChannel := t.outChannel.tryTake }, rfl, ?_⟩
      rw [OutChannelRun.tryTake, OutEndpointChannelBase.popFront, hpending]
      exact List.mem_filterMap.mpr ⟨_, List.mem_concat_self, rfl⟩
  | cons first before ih =>
      have hnext : t.outChannel.tryTake.channel.pending = before ++ [request] := by
        rw [OutChannelRun.tryTake, OutEndpointChannelBase.popFront, hpending]
        rfl
      obtain ⟨actions, u, hrun, htaken⟩ :=
        ih (t := { t with outChannel := t.outChannel.tryTake }) hnext
      exact ⟨.channel .tryTake :: actions, u, hrun, htaken⟩

/-- What has been suspended and then taken has been delivered as a whole behind the frames that
have been accepted before. -/
theorem delivered_of_done {transfer : OutTransfer} {request : PendingRequest}
    (hu : Reachable system u) (hnumber : transfer.number = some request.number)
    (harrived : u.outChannel.arrived[request.number]? = some request) (hdone : Done u transfer) :
    delivered u transfer = transfer.accepted ++ unwrapRndisPackets request.data := by
  have hsettled := settled_of_reachable (reachable_outChannel hu)
  obtain ⟨departure, hmem, htaken⟩ := List.mem_filterMap.mp (hdone _ hnumber)
  have hnodup : (u.outChannel.departures.filterMap takenNumber).Nodup := by
    have hall := hsettled.accounted.nodup
    simp only [Ledger.all, List.map_append, List.nodup_append] at hall
    exact hall.1.1.1.2.1.of_map
  rw [delivered, hnumber]
  cases departure with
  | taken request' call =>
      have heq : request'.number = request.number := congrArg Prod.snd (Option.some.inj htaken)
      have hsame : request' = request := by
        have hfound := hsettled.arrived request' (List.mem_append_right _
          (List.mem_map.mpr ⟨_, hmem, rfl⟩))
        exact Option.some.inj ((heq ▸ hfound).symm.trans harrived)
      subst hsame
      exact congrArg (transfer.accepted ++ ·) (takenFrames_of_mem hnodup hmem)
  | refused request' held => cases htaken
  | cancelled request' => cases htaken
  | dropped request' => cases htaken

section Transfer

variable {ep : UInt8} {seqnum : UInt32} {data : List UInt8} {answers : Nat → Bool}
  {notified : Option Nat}

theorem deliversOnce_of_consumed (hconsumed : (offer answers data).2 = true)
    (ht : s.step (.bulkOut ep seqnum data answers notified) = some t) :
    DeliversOnce s t seqnum data := by
  have hframes : unwrapRndisPackets data ≠ [] := by
    intro hnone
    rw [offer, if_pos hnone] at hconsumed
    cases hconsumed
  have haccepted : (offer answers data).1 = unwrapRndisPackets data := by
    rw [offer, if_neg hframes] at hconsumed ⊢
    exact accepted_of_consumed hconsumed
  simp only [step, handleBulkTransfer, hconsumed, if_true] at ht
  obtain rfl := Option.some.inj ht
  refine ⟨fun transfer htransfer actions u hrun hdone => ?_, fun hnone => absurd hnone hframes⟩
  obtain rfl := List.singleton_inj.mp (List.append_cancel_left htransfer)
  rw [delivered, haccepted]
  exact List.append_nil _

/-- What is delivered of a transfer that is suspended is what has been accepted, and then all. -/
theorem deliversOnce_of_refused_iff (hs : Reachable system s)
    (hconnected : s.outChannel.channel.disconnected = false)
    (hrefused : (offer answers data).2 = false)
    (ht : s.step (.bulkOut ep seqnum data answers notified) = some t) :
    DeliversOnce s t seqnum data ↔
      unwrapRndisPackets data ≠ [] ∧ (offer answers data).1 = [] := by
  obtain ⟨request, hnumber, hdata, hpending, harrived, htransfers⟩ :=
    suspended_of_step hs hconnected hrefused ht
  have hdelivered {actions : List RndisOutAction} {u : RndisDataInterfaceHandler Handler}
      (hrun : system.run t actions = some u)
      (hdone : Done u ⟨data, (offer answers data).1, some s.outChannel.arrived.length⟩) :
      delivered u ⟨data, (offer answers data).1, some s.outChannel.arrived.length⟩ =
        (offer answers data).1 ++ unwrapRndisPackets data := by
    have hstep : system.step s (.bulkOut ep seqnum data answers notified) = some t := ht
    have hreach : Reachable system u := Reachable.run actions (hs.step hstep) hrun
    have hmem : t.outChannel.arrived[request.number]? = some request := by
      rw [harrived, hnumber, List.getElem?_concat_length]
    have hlater : u.outChannel.arrived[request.number]? = some request := by
      have hlt := (List.getElem?_eq_some_iff.mp hmem).1
      obtain ⟨later, hlater⟩ := arrived_prefix_of_run hrun
      rw [← hlater, List.getElem?_append_left hlt, hmem]
    rw [delivered_of_done hreach (congrArg some hnumber.symm) hlater hdone, hdata]
  constructor
  · rintro ⟨hframes, hanswered⟩
    constructor
    · intro hnone
      rw [(hanswered hnone).1] at hpending
      exact absurd hpending (by simp)
    · obtain ⟨actions, u, hrun, htaken⟩ := exists_taken hpending
      have hdone : Done u ⟨data, (offer answers data).1, some s.outChannel.arrived.length⟩ := by
        intro number hsome
        obtain rfl := Option.some.inj hsome
        exact hnumber ▸ htaken
      have hall := (hdelivered hrun hdone).symm.trans (hframes _ htransfers actions u hrun hdone)
      exact List.append_left_eq_self.mp hall
  · rintro ⟨hframes, haccepted⟩
    refine ⟨fun transfer htransfer actions u hrun hdone => ?_, fun hnone => absurd hnone hframes⟩
    obtain rfl := List.singleton_inj.mp (List.append_cancel_left (htransfers.symm.trans htransfer))
    rw [hdelivered hrun hdone, haccepted, List.nil_append]

/-- Each frame of a transfer is delivered once and in order, and a transfer without a frame is
answered at once, if and only if there are frames and the application accepts all of them or
refuses the first. -/
theorem out_delivery (hs : Reachable system s)
    (hconnected : s.outChannel.channel.disconnected = false)
    (ht : s.step (.bulkOut ep seqnum data answers notified) = some t) :
    DeliversOnce s t seqnum data ↔
      unwrapRndisPackets data ≠ [] ∧
        ((∀ i < (unwrapRndisPackets data).length, answers i = true) ∨ answers 0 = false) := by
  by_cases hframes : unwrapRndisPackets data = []
  · have hrefused : (offer answers data).2 = false := by rw [offer, if_pos hframes]
    rw [deliversOnce_of_refused_iff hs hconnected hrefused ht]
    exact iff_of_false (fun h => h.1 hframes) fun h => h.1 hframes
  · have hoffer : offer answers data = offerFrames answers (unwrapRndisPackets data) :=
      if_neg hframes
    rw [← consumed_offerFrames_iff, ← hoffer]
    cases hconsumed : (offer answers data).2 with
    | true => exact iff_of_true (deliversOnce_of_consumed hconsumed ht) ⟨hframes, .inl rfl⟩
    | false =>
        rw [deliversOnce_of_refused_iff hs hconnected hconsumed ht, hoffer,
          accepted_offerFrames_eq_nil_iff]
        simp [hframes]

end Transfer

section Instances

/-- Two messages with a frame each. -/
def twoFrames : List UInt8 :=
  wrapRndisPacket (.replicate 14 0xAA) ++ wrapRndisPacket (.replicate 14 0xBB)

def connected : RndisDataInterfaceHandler Unit :=
  { create with outChannel.channel.disconnected := false }

theorem reachable_connected : Reachable system connected :=
  Reachable.run [.channel .onNewConnection] (.initial rfl) rfl

/-- Two frames that are refused are taken later. -/
theorem out_delivery_instance :
    ∃ t, connected.step (.bulkOut 2 7 twoFrames (fun _ => false) none) = some t ∧
      DeliversOnce connected t 7 twoFrames := by
  have hframes : unwrapRndisPackets twoFrames ≠ [] := by decide +kernel
  obtain ⟨t, ht⟩ : ∃ t,
      connected.step (.bulkOut 2 7 twoFrames (fun _ => false) none) = some t := by
    refine Option.isSome_iff_exists.mp ?_
    decide +kernel
  exact ⟨t, ht, (out_delivery reachable_connected rfl ht).mpr ⟨hframes, .inr rfl⟩⟩

/-- A transfer without a frame is suspended, and a frame that is accepted before one that is
refused comes again with the transfer. -/
theorem not_delivers_once :
    (∃ t, connected.step (.bulkOut 2 7 [] (fun _ => true) none) = some t ∧
      ¬DeliversOnce connected t 7 []) ∧
    ∃ t, connected.step (.bulkOut 2 7 twoFrames (fun i => i == 0) none) = some t ∧
      ¬DeliversOnce connected t 7 twoFrames := by
  constructor
  · have hrefused : (offer (fun _ => true) []).2 = false := rfl
    obtain ⟨t, ht⟩ : ∃ t, connected.step (.bulkOut 2 7 [] (fun _ => true) none) = some t :=
      ⟨_, rfl⟩
    refine ⟨t, ht, fun h => ?_⟩
    exact ((deliversOnce_of_refused_iff reachable_connected rfl hrefused ht).mp h).1 rfl
  · have hrefused : (offer (fun i => i == 0) twoFrames).2 = false := by decide +kernel
    have haccepted : (offer (fun i => i == 0) twoFrames).1 ≠ [] := by decide +kernel
    obtain ⟨t, ht⟩ : ∃ t,
        connected.step (.bulkOut 2 7 twoFrames (fun i => i == 0) none) = some t := by
      refine Option.isSome_iff_exists.mp ?_
      decide +kernel
    refine ⟨t, ht, fun h => ?_⟩
    exact haccepted ((deliversOnce_of_refused_iff reachable_connected rfl hrefused ht).mp h).2

end Instances

end RndisDataInterfaceHandler

end Usbipdcpp.VirtualDevice.Rndis
