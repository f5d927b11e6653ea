import Usbipdcpp.Foundation.FirstMatch
import Usbipdcpp.VirtualDevice.Device

namespace Usbipdcpp.VirtualDevice

open Foundation.FirstMatch

/-- A URB in a queue of the scheduler; the clock's times are in nanoseconds, with 0 for a time
not yet set.  It is handed to a processor, or its reply is ready to be sent.  The number of the
submission tells URBs apart that look the same to the scheduler. -/
structure PendingUrb where
  serviceTime : Int
  processor : Bool
  type : EndpointAttributes
  seqnum : UInt32
  delay : Int
  number : Nat
  deriving DecidableEq, Repr

structure EndpointState where
  queue : List PendingUrb
  lastScheduled : Int
  processing : Bool
  processingSeqnum : UInt32
  deriving DecidableEq, Repr

structure TransferScheduler where
  endpoints : List (UInt8 × EndpointState)
  deriving DecidableEq, Repr

/-- The next boundary of the millisecond grid. -/
def alignToFrame (t : Int) : Int :=
  t + 1000 * (1000 - (t.tdiv 1000).tmod 1000)

/-- The time that `arm_next` computes for a URB on an endpoint whose pacing chain has come to
`lastScheduled`. -/
def PendingUrb.armTime (now lastScheduled : Int) (urb : PendingUrb) : Int :=
  let lastScheduled := if lastScheduled = 0 then now else lastScheduled
  if urb.type = .isochronous then max now (lastScheduled + urb.delay)
  else alignToFrame (max now lastScheduled)

theorem lt_alignToFrame (t : Int) : t < alignToFrame t := by
  have hmod : (t.tdiv 1000).tmod 1000 < 1000 := Int.tmod_lt_of_pos _ (by decide)
  unfold alignToFrame
  omega

/-- No URB is due before it is armed. -/
theorem PendingUrb.le_armTime (now lastScheduled : Int) (urb : PendingUrb) :
    now ≤ urb.armTime now lastScheduled := by
  unfold armTime
  dsimp only
  split
  · exact Int.le_max_left _ _
  · exact (Int.le_max_left _ _).trans (lt_alignToFrame _).le

namespace EndpointState

/-- `arm_next`, with the time `now` that the clock shows. -/
def armNext (now : Int) (state : EndpointState) : EndpointState :=
  match state.queue with
  | [] => state
  | front :: queue =>
      let lastScheduled := if state.lastScheduled = 0 then now else state.lastScheduled
      let serviceTime :=
        if front.type = .isochronous then max now (lastScheduled + front.delay)
        else alignToFrame (max now lastScheduled)
      { state with queue := { front with serviceTime } :: queue, lastScheduled := serviceTime }

def pendingCount (seqnum : UInt32) (state : EndpointState) : Nat :=
  state.queue.countP (·.seqnum == seqnum)

/-- The part of `cancel` that looks through one endpoint's queue; `none` where the URB is not
in it. -/
def cancel (now : Int) (seqnum : UInt32) (state : EndpointState) : Option EndpointState :=
  match eraseFirst (·.seqnum == seqnum) state.queue, state.queue.find? (·.seqnum == seqnum) with
  | some queue, some urb =>
      let isFront := state.queue.head?.any (·.seqnum == seqnum)
      let lastScheduled :=
        if isFront then max state.lastScheduled urb.serviceTime else state.lastScheduled
      let state := { state with queue, lastScheduled }
      some (if !state.processing && !state.queue.isEmpty then state.armNext now else state)
  | _, _ => none

theorem armNext_nil {now : Int} {state : EndpointState} (h : state.queue = []) :
    state.armNext now = state := by
  rw [armNext, h]

theorem armNext_cons {now : Int} {state : EndpointState} {front : PendingUrb}
    {queue : List PendingUrb} (h : state.queue = front :: queue) :
    state.armNext now =
      { state with
        queue := { front with serviceTime := front.armTime now state.lastScheduled } :: queue
        lastScheduled := front.armTime now state.lastScheduled } := by
  rw [armNext, h]
  rfl

@[simp] theorem armNext_processing (now : Int) (state : EndpointState) :
    (state.armNext now).processing = state.processing := by
  unfold armNext
  split <;> rfl

@[simp] theorem armNext_processingSeqnum (now : Int) (state : EndpointState) :
    (state.armNext now).processingSeqnum = state.processingSeqnum := by
  unfold armNext
  split <;> rfl

/-- Arming changes nothing of a URB but its service time. -/
theorem map_queue_armNext {α : Type} {f : PendingUrb → α}
    (hf : ∀ urb serviceTime, f { urb with serviceTime } = f urb) (now : Int)
    (state : EndpointState) : (state.armNext now).queue.map f = state.queue.map f := by
  unfold armNext
  split
  next => rfl
  next front queue hqueue => simp [hqueue, hf]

@[simp] theorem pendingCount_armNext (now : Int) (seqnum : UInt32) (state : EndpointState) :
    (state.armNext now).pendingCount seqnum = state.pendingCount seqnum := by
  unfold armNext
  split
  next => rfl
  next front queue hqueue => simp [pendingCount, hqueue, List.countP_cons]

/-- What the pacing chain has come to when `urb` is taken out of the queue from behind `before`:
the slot of a head is not given back. -/
def chainWithout (state : EndpointState) (before : List PendingUrb) (urb : PendingUrb) : Int :=
  if before = [] then max state.lastScheduled urb.serviceTime else state.lastScheduled

/-- What is left of an endpoint's state when `urb` is taken out of its queue from behind
`before`. -/
def withoutUrb (now : Int) (state : EndpointState) (before : List PendingUrb) (urb : PendingUrb)
    (after : List PendingUrb) : EndpointState :=
  let state' :=
    { state with queue := before ++ after, lastScheduled := state.chainWithout before urb }
  if !state.processing && !(before ++ after).isEmpty then state'.armNext now else state'

@[simp] theorem withoutUrb_processing (now : Int) (state : EndpointState)
    (before : List PendingUrb) (urb : PendingUrb) (after : List PendingUrb) :
    (state.withoutUrb now before urb after).processing = state.processing := by
  unfold withoutUrb
  dsimp only
  split
  · exact armNext_processing _ _
  · rfl

/-- Only an idle endpoint that has a URB left arms it. -/
theorem withoutUrb_of_not_armed {now : Int} {state : EndpointState} {before after : List PendingUrb}
    {urb : PendingUrb} (h : state.processing = true ∨ before ++ after = []) :
    state.withoutUrb now before urb after =
      { state with queue := before ++ after, lastScheduled := state.chainWithout before urb } := by
  unfold withoutUrb
  rcases h with h | h <;> simp [h]

theorem withoutUrb_of_armed {now : Int} {state : EndpointState}
    {before after rest : List PendingUrb} {urb next : PendingUrb}
    (hprocessing : state.processing = false) (hrest : before ++ after = next :: rest) :
    state.withoutUrb now before urb after =
      { state with
        queue := { next with
          serviceTime := next.armTime now (state.chainWithout before urb) } :: rest
        lastScheduled := next.armTime now (state.chainWithout before urb) } := by
  unfold withoutUrb
  simp only [hprocessing, hrest, Bool.not_false, List.isEmpty_cons, Bool.and_self, if_true]
  rw [armNext_cons rfl]

section Cancel

variable {now : Int} {seqnum : UInt32} {state state' : EndpointState}
  {before after : List PendingUrb} {urb : PendingUrb}

theorem find?_of_first (hurb : urb.seqnum = seqnum) (hbefore : ∀ other ∈ before,
    other.seqnum ≠ seqnum) : (before ++ urb :: after).find? (·.seqnum == seqnum) = some urb :=
  List.find?_eq_some_iff_append.mpr
    ⟨by simpa using hurb, before, after, rfl, fun other hmem => by simpa using hbefore other hmem⟩

/-- The first URB with the seqnum is the one cancelled. -/
theorem cancel_of_first (hqueue : state.queue = before ++ urb :: after)
    (hurb : urb.seqnum = seqnum) (hbefore : ∀ other ∈ before, other.seqnum ≠ seqnum) :
    state.cancel now seqnum = some (state.withoutUrb now before urb after) := by
  have hbeq : (urb.seqnum == seqnum) = true := by simpa using hurb
  have hnone : ∀ other ∈ before, ¬ (other.seqnum == seqnum) = true := fun other hmem => by
    simpa using hbefore other hmem
  have herase : eraseFirst (·.seqnum == seqnum) state.queue = some (before ++ after) := by
    rw [eraseFirst, hqueue, if_pos (by simp [hbeq]), List.eraseP_append_right _ hnone]
    congr 2
    exact List.eraseP_cons_of_pos hbeq
  have hfront : (state.queue.head?.any fun urb => urb.seqnum == seqnum) = true ↔
      before = [] := by
    rw [hqueue]
    rcases before with _ | ⟨first, before⟩
    · simp [hbeq]
    · simpa using hbefore first (List.mem_cons_self ..)
  rw [cancel, herase, hqueue, find?_of_first hurb hbefore]
  simp only [withoutUrb, chainWithout, ← hqueue, hfront]

theorem cancel_eq_some (h : state.cancel now seqnum = some state') :
    ∃ before urb after, state.queue = before ++ urb :: after ∧ urb.seqnum = seqnum ∧
      (∀ other ∈ before, other.seqnum ≠ seqnum) ∧
      state' = state.withoutUrb now before urb after := by
  obtain ⟨urb, hurb⟩ : ∃ urb, state.queue.find? (·.seqnum == seqnum) = some urb := by
    unfold cancel at h
    split at h
    next urb _ hurb => exact ⟨_, hurb⟩
    next => cases h
  obtain ⟨hbeq, before, after, hqueue, hbefore⟩ := List.find?_eq_some_iff_append.mp hurb
  have hseqnum : urb.seqnum = seqnum := by simpa using hbeq
  have hnone : ∀ other ∈ before, other.seqnum ≠ seqnum := fun other hmem => by
    simpa using hbefore other hmem
  refine ⟨before, urb, after, hqueue, hseqnum, hnone, ?_⟩
  rw [cancel_of_first hqueue hseqnum hnone] at h
  exact (Option.some.inj h).symm

end Cancel

theorem decrements_cancel (now : Int) (seqnum : UInt32) :
    Decrements (cancel now seqnum) (pendingCount seqnum) := by
  intro state state' h
  unfold cancel at h
  split at h
  next queue urb hqueue hurb =>
    have herased := decrements_eraseFirst _ _ _ hqueue
    cases h
    dsimp only
    split
    next => rw [pendingCount_armNext]; exact herased
    next => exact herased
  next => cases h

theorem cancel_isSome_iff (now : Int) {seqnum : UInt32} {state : EndpointState} :
    (state.cancel now seqnum).isSome = true ↔ ∃ urb ∈ state.queue, urb.seqnum = seqnum := by
  have hany : (state.queue.any fun urb => urb.seqnum == seqnum) = true ↔
      ∃ urb ∈ state.queue, urb.seqnum = seqnum := by
    simp
  unfold cancel eraseFirst
  by_cases h : (state.queue.any fun urb => urb.seqnum == seqnum) = true
  · rw [if_pos h]
    obtain ⟨urb, hurb⟩ := Option.isSome_iff_exists.mp
      (List.find?_isSome.mpr (List.any_eq_true.mp h))
    rw [hurb]
    exact iff_of_true rfl (hany.mp h)
  · rw [if_neg h]
    exact iff_of_false (by simp) (mt hany.mpr h)

end EndpointState

namespace TransferScheduler

/-- The loop of `cancel` over the endpoints, which a URB that is being processed ends. -/
def cancelIn (now : Int) (seqnum : UInt32) :
    List (UInt8 × EndpointState) → Option (List (UInt8 × EndpointState))
  | [] => none
  | (ep, state) :: endpoints =>
      if state.processing && state.processingSeqnum == seqnum then none
      else
        match state.cancel now seqnum with
        | some state' => some ((ep, state') :: endpoints)
        | none => (cancelIn now seqnum endpoints).map ((ep, state) :: ·)

def cancel (now : Int) (seqnum : UInt32) (scheduler : TransferScheduler) :
    Option TransferScheduler :=
  (cancelIn now seqnum scheduler.endpoints).map fun endpoints => { endpoints }

/-- A URB with this seqnum waits in a queue that the loop of `cancel` gets to. -/
def Waits (seqnum : UInt32) : List (UInt8 × EndpointState) → Prop
  | [] => False
  | (_, state) :: endpoints =>
      ¬ (state.processing = true ∧ state.processingSeqnum = seqnum) ∧
        ((∃ urb ∈ state.queue, urb.seqnum = seqnum) ∨ Waits seqnum endpoints)

def pendingCount (seqnum : UInt32) (scheduler : TransferScheduler) : Nat :=
  (scheduler.endpoints.map fun entry => entry.2.pendingCount seqnum).sum

theorem decrements_cancelIn (now : Int) (seqnum : UInt32) :
    Decrements (cancelIn now seqnum) fun endpoints =>
      (endpoints.map fun entry => entry.2.pendingCount seqnum).sum := by
  intro endpoints
  induction endpoints with
  | nil =>
      intro endpoints' h
      cases h
  | cons entry endpoints ih =>
      intro endpoints' h
      unfold cancelIn at h
      split at h
      next => cases h
      next =>
        split at h
        next state' hcancel =>
          cases h
          have hstate := EndpointState.decrements_cancel now seqnum _ _ hcancel
          simp only [List.map_cons, List.sum_cons]
          omega
        next =>
          obtain ⟨rest, hrest, rfl⟩ := Option.map_eq_some_iff.mp h
          have hsum := ih rest hrest
          simp only [List.map_cons, List.sum_cons] at hsum ⊢
          omega

theorem cancelIn_isSome_iff {now : Int} {seqnum : UInt32}
    {endpoints : List (UInt8 × EndpointState)} :
    (cancelIn now seqnum endpoints).isSome = true ↔ Waits seqnum endpoints := by
  induction endpoints with
  | nil => simp [cancelIn, Waits]
  | cons entry endpoints ih =>
      unfold cancelIn Waits
      rw [← ih, ← EndpointState.cancel_isSome_iff now]
      split
      next hprocessing => simp_all
      next hprocessing =>
        split
        next state' hcancel => simp_all
        next hcancel => simp_all

/-- The URB that `cancel` removes, with its endpoint. -/
def cancelTarget (seqnum : UInt32) : List (UInt8 × EndpointState) → Option (UInt8 × PendingUrb)
  | [] => none
  | (ep, state) :: endpoints =>
      if state.processing && state.processingSeqnum == seqnum then none
      else
        match state.queue.find? (·.seqnum == seqnum) with
        | some urb => some (ep, urb)
        | none => cancelTarget seqnum endpoints

theorem cancelTarget_eq_none {now : Int} {seqnum : UInt32}
    {endpoints : List (UInt8 × EndpointState)} (h : cancelIn now seqnum endpoints = none) :
    cancelTarget seqnum endpoints = none := by
  induction endpoints with
  | nil => rfl
  | cons entry endpoints ih =>
      obtain ⟨ep, state⟩ := entry
      rw [cancelIn] at h
      rw [cancelTarget]
      split
      next => rfl
      next hidle =>
        rw [if_neg hidle] at h
        split at h
        next => cases h
        next hcancel =>
          have hfind : state.queue.find? (·.seqnum == seqnum) = none := by
            have hnone := mt (EndpointState.cancel_isSome_iff now).mpr
              (by rw [hcancel]; exact Bool.false_ne_true)
            simpa using hnone
          rw [hfind]
          exact ih (Option.map_eq_none_iff.mp h)

/-- The loop of `cancel` goes past an endpoint. -/
def Passes (seqnum : UInt32) (state : EndpointState) : Prop :=
  ¬ (state.processing = true ∧ state.processingSeqnum = seqnum) ∧
    ∀ urb ∈ state.queue, urb.seqnum ≠ seqnum

theorem cancelIn_eq_some {now : Int} {seqnum : UInt32}
    {endpoints endpoints' : List (UInt8 × EndpointState)}
    (h : cancelIn now seqnum endpoints = some endpoints') :
    ∃ passed ep state state' rest before urb after,
      endpoints = passed ++ (ep, state) :: rest ∧ endpoints' = passed ++ (ep, state') :: rest ∧
      (∀ entry ∈ passed, Passes seqnum entry.2) ∧
      ¬ (state.processing = true ∧ state.processingSeqnum = seqnum) ∧
      state.queue = before ++ urb :: after ∧ urb.seqnum = seqnum ∧
      (∀ other ∈ before, other.seqnum ≠ seqnum) ∧
      state' = state.withoutUrb now before urb after ∧
      cancelTarget seqnum endpoints = some (ep, urb) := by
  induction endpoints generalizing endpoints' with
  | nil => cases h
  | cons entry endpoints ih =>
      obtain ⟨ep, state⟩ := entry
      rw [cancelIn] at h
      split at h
      next => cases h
      next hidle =>
        split at h
        next state' hcancel =>
          cases h
          obtain ⟨before, urb, after, hqueue, hurb, hbefore, hstate⟩ :=
            EndpointState.cancel_eq_some hcancel
          refine ⟨[], ep, state, state', endpoints, before, urb, after, rfl, rfl, nofun,
            by simpa using hidle, hqueue, hurb, hbefore, hstate, ?_⟩
          rw [cancelTarget, if_neg hidle, hqueue, EndpointState.find?_of_first hurb hbefore]
        next hnone =>
          obtain ⟨endpoints'', hrest, rfl⟩ := Option.map_eq_some_iff.mp h
          obtain ⟨passed, ep', state', state'', rest, before, urb, after, rfl, rfl, hpassed,
            hidle', hqueue, hurb, hbefore, hstate, htarget⟩ := ih hrest
          have hqueue' : ∀ urb ∈ state.queue, urb.seqnum ≠ seqnum := by
            intro other hmem hother
            have hsome := (EndpointState.cancel_isSome_iff now).mpr ⟨other, hmem, hother⟩
            rw [hnone] at hsome
            cases hsome
          refine ⟨(ep, state) :: passed, ep', state', state'', rest, before, urb, after, rfl, rfl,
            List.forall_mem_cons.mpr ⟨⟨by simpa using hidle, hqueue'⟩, hpassed⟩, hidle', hqueue,
            hurb, hbefore, hstate, ?_⟩
          have hfind : state.queue.find? (·.seqnum == seqnum) = none := by
            simpa using hqueue'
          rw [cancelTarget, if_neg hidle, hfind]
          exact htarget

theorem decrements_cancel (now : Int) (seqnum : UInt32) :
    Decrements (cancel now seqnum) (pendingCount seqnum) := by
  intro scheduler scheduler' h
  obtain ⟨endpoints, hendpoints, rfl⟩ := Option.map_eq_some_iff.mp h
  exact decrements_cancelIn now seqnum _ _ hendpoints

theorem cancel_isSome_iff {now : Int} {seqnum : UInt32} {scheduler : TransferScheduler} :
    (scheduler.cancel now seqnum).isSome = true ↔ Waits seqnum scheduler.endpoints := by
  rw [cancel, Option.isSome_map, cancelIn_isSome_iff]

end TransferScheduler

end Usbipdcpp.VirtualDevice
