import Mathlib.Algebra.Order.Group.Multiset
import Usbipdcpp.Foundation.KeyedList
import Usbipdcpp.LibusbHandler.TransferOutcomes
import Usbipdcpp.Utils.ObjectPool

namespace Usbipdcpp.LibusbHandler.PendingTransfers

open Protocol VirtualDevice TransferTracking TransferOutcomes Foundation.TransitionSystem Utils
open Foundation.KeyedList

def callbackArgsPoolSize : Nat := 256

/-- The address of a `libusb_callback_args`: an object of the pool, or one made with `new`. -/
inductive ArgsPointer where
  | pooled (i : Fin callbackArgsPoolSize)
  | heap (n : Nat)
  deriving DecidableEq, Repr

/-- The pool with the objects that have been made because it was empty, and not deleted yet. -/
structure CallbackArgsStore where
  pool : ObjectPool callbackArgsPoolSize
  heap : List Nat
  nextHeap : Nat
  heap_lt : ∀ n ∈ heap, n < nextHeap

namespace CallbackArgsStore

def create : CallbackArgsStore where
  pool := .create callbackArgsPoolSize
  heap := []
  nextHeap := 0
  heap_lt := by simp

def alloc (store : CallbackArgsStore) : ArgsPointer × CallbackArgsStore :=
  match store.pool.alloc with
  | some (i, pool) => (.pooled i, { store with pool })
  | none =>
      (.heap store.nextHeap,
        { store with
          heap := store.nextHeap :: store.heap
          nextHeap := store.nextHeap + 1
          heap_lt := fun n hn => by
            rcases List.mem_cons.mp hn with rfl | hmem
            · exact Nat.lt_succ_self _
            · exact Nat.lt_succ_of_lt (store.heap_lt n hmem) })

def delete (n : Nat) (store : CallbackArgsStore) : CallbackArgsStore :=
  { store with
    heap := store.heap.filter (· ≠ n)
    heap_lt := fun m hm => store.heap_lt m (List.mem_filter.mp hm).1 }

/-- An object that the pool refuses is deleted. -/
def free (args : ArgsPointer) (store : CallbackArgsStore) : CallbackArgsStore :=
  match args with
  | .pooled i =>
      match store.pool.free i with
      | some pool => { store with pool }
      | none => store
  | .heap n => store.delete n

def reset (store : CallbackArgsStore) : CallbackArgsStore :=
  { store with pool := store.pool.reset }

/-- The object has been handed out, and neither returned nor deleted. -/
def Live (store : CallbackArgsStore) : ArgsPointer → Prop
  | .pooled i => store.pool.inUse i = true
  | .heap n => n ∈ store.heap

variable {store : CallbackArgsStore} {args args' : ArgsPointer}

theorem live_alloc :
    ¬ store.Live store.alloc.1 ∧
      ∀ args, store.alloc.2.Live args ↔ args = store.alloc.1 ∨ store.Live args := by
  unfold alloc
  split
  next i pool halloc =>
    obtain ⟨hfree, hinUse⟩ := ObjectPool.inUse_of_alloc halloc
    refine ⟨by simp [Live, hfree], fun args => ?_⟩
    cases args with
    | pooled j =>
        simp only [Live, hinUse]
        by_cases heq : j = i
        · simp [heq]
        · simp [heq]
    | heap n => simp [Live]
  next =>
    refine ⟨fun hlive => absurd (store.heap_lt _ hlive) (Nat.lt_irrefl _), fun args => ?_⟩
    cases args with
    | pooled j => simp [Live]
    | heap n => simp [Live]

theorem live_free (h : store.Live args) :
    (store.free args).Live args' ↔ store.Live args' ∧ args' ≠ args := by
  cases args with
  | pooled i =>
      unfold free
      dsimp only
      split
      next pool hfree =>
        have hinUse := (ObjectPool.inUse_of_free hfree).2
        cases args' with
        | pooled j =>
            simp only [Live, hinUse]
            by_cases heq : j = i
            · simp [heq]
            · simp [heq]
        | heap n => simp [Live]
      next hnone =>
        rw [ObjectPool.free_eq_none_iff] at hnone
        exact nomatch hnone.symm.trans h
  | heap n =>
      cases args' with
      | pooled j => simp [free, delete, Live]
      | heap m => simp [free, delete, Live]

theorem not_live_create : ¬ create.Live args := by
  cases args <;> simp [Live, create, ObjectPool.create]

/-- Resetting the pool takes nothing away from anyone where nothing is handed out. -/
theorem not_live_reset (h : ∀ args, ¬ store.Live args) : ¬ store.reset.Live args := by
  cases args with
  | pooled i => simp [Live, reset, ObjectPool.reset, ObjectPool.create]
  | heap n => exact h (.heap n)

end CallbackArgsStore

/-- Where the handler stands between `on_new_connection` and the end of `on_disconnection`. -/
inductive ConnectionPhase where
  | closed
  | connected
  | waiting
  | resetting
  | releasing
  deriving DecidableEq, Repr

/-- What happens to the submissions that `transfers_` takes: a failed one is taken out again, the
others end with the last decrement of their callbacks. -/
inductive PendingEvent where
  | accepted (seqnum : UInt32)
  | withdrawn (seqnum : UInt32)
  | decremented (seqnum : UInt32)
  deriving DecidableEq, Repr

/-- A handler over any number of connections, with the arguments of its callbacks: those that
`receive_urb` has in hand, those in `transfers_`, and those of the callbacks that are past its
lock.  `freed` are the callbacks that have only the decrement to do. -/
structure PendingHandler (Handler : Type) where
  handler : LibusbDeviceHandler Handler
  store : CallbackArgsStore
  transfers : List (UInt32 × ArgsPointer)
  held : Option ArgsPointer
  retired : List (UInt32 × ArgsPointer)
  freed : List UInt32
  pendingCount : Int
  phase : ConnectionPhase
  interfacesClaimed : Bool
  ledger : List PendingEvent

inductive PendingAction where
  | handler (a : HandlerAction)
  | freeHeld
  | freeCallbackArgs (seqnum : UInt32) (args : ArgsPointer)
  | decrementPendingAndNotify (seqnum : UInt32)
  | transfersComplete
  | resetPool
  | releaseAndCloseDevice
  | onNewConnection (opened : Bool)

namespace PendingHandler

variable {Handler : Type}

def create : PendingHandler Handler where
  handler := LibusbDeviceHandler.create
  store := .create
  transfers := []
  held := none
  retired := []
  freed := []
  pendingCount := 0
  phase := .closed
  interfacesClaimed := false
  ledger := []

def allocHeld (s : PendingHandler Handler) : PendingHandler Handler :=
  { s with held := some s.store.alloc.1, store := s.store.alloc.2 }

def emplace (seqnum : UInt32) (s : PendingHandler Handler) : PendingHandler Handler :=
  match s.held with
  | some args =>
      { s with
        transfers := s.transfers ++ [(seqnum, args)]
        held := none
        pendingCount := s.pendingCount + 1
        ledger := s.ledger ++ [.accepted seqnum] }
  | none => s

/-- The decrement of `receive_urb`, in the same critical section as the erasure. -/
def eraseFailed (seqnum : UInt32) (s : PendingHandler Handler) : PendingHandler Handler :=
  match lookup Prod.fst seqnum s.transfers with
  | some entry =>
      { s with
        transfers := remove Prod.fst seqnum s.transfers
        held := some entry.2
        pendingCount := s.pendingCount - 1
        ledger := s.ledger ++ [.withdrawn seqnum] }
  | none => s

def retire (seqnum : UInt32) (s : PendingHandler Handler) : PendingHandler Handler :=
  match lookup Prod.fst seqnum s.transfers with
  | some entry =>
      { s with
        transfers := remove Prod.fst seqnum s.transfers
        retired := s.retired ++ [entry] }
  | none => s

/-- What a step of the handler does to its callbacks' arguments and to `pending_count_`. -/
def account (a : HandlerAction) (before after : LibusbDeviceHandler Handler)
    (s : PendingHandler Handler) : PendingHandler Handler :=
  match a with
  | .receiveUrb .. =>
      match after.receiver with
      | .tracking _ => s.allocHeld
      | _ => s
  | .track =>
      match after.receiver with
      | .submitting seqnum => s.emplace seqnum
      | _ => s
  | .untrack =>
      match before.receiver with
      | .submitFailed seqnum _ => s.eraseFailed seqnum
      | _ => s
  | .onDisconnection => { s with phase := .waiting }
  | .transferCallback seqnum _ => if before.clientDisconnection then s.retire seqnum else s
  | .enqueueReply seqnum => s.retire seqnum
  | _ => s

/-- The receiver takes commands while it is connected, and returns what it has in hand before it
answers. -/
def ready (s : PendingHandler Handler) : HandlerAction → Bool
  | .receiveUrb .. | .handleUnlinkSeqnum .. | .onDisconnection => s.phase == .connected
  | .submitRetSubmit => s.held.isNone
  | _ => true

def step (policy : LibusbSubmitErrorPolicy) (s : PendingHandler Handler) :
    PendingAction → Option (PendingHandler Handler)
  | .handler a =>
      if s.ready a then
        (s.handler.step policy a).map fun t => { s.account a s.handler t with handler := t }
      else none
  | .freeHeld =>
      match s.handler.receiver, s.held with
      | .answering _ _, some args => some { s with store := s.store.free args, held := none }
      | _, _ => none
  | .freeCallbackArgs seqnum args =>
      if (seqnum, args) ∈ s.retired then
        some
          { s with
            store := s.store.free args
            retired := s.retired.erase (seqnum, args)
            freed := s.freed ++ [seqnum] }
      else none
  | .decrementPendingAndNotify seqnum =>
      if seqnum ∈ s.freed then
        some
          { s with
            freed := s.freed.erase seqnum
            pendingCount := s.pendingCount - 1
            ledger := s.ledger ++ [.decremented seqnum] }
      else none
  | .transfersComplete =>
      if s.phase = .waiting ∧ s.pendingCount = 0 then some { s with phase := .resetting } else none
  | .resetPool =>
      if s.phase = .resetting then some { s with store := s.store.reset, phase := .releasing }
      else none
  | .releaseAndCloseDevice =>
      if s.phase = .releasing then some { s with interfacesClaimed := false, phase := .closed }
      else none
  | .onNewConnection opened =>
      if s.phase = .closed then
        if opened then
          some
            { s with
              handler :=
                { LibusbDeviceHandler.create with
                  deviceRemoved := s.handler.deviceRemoved
                  transfers := s.handler.transfers }
              phase := .connected
              interfacesClaimed := true }
        else some s
      else none

def system (policy : LibusbSubmitErrorPolicy) : System (PendingHandler Handler) PendingAction where
  initial s := s = create
  step := step policy

/-- The arguments of callbacks that somebody still has to return. -/
def outstanding (s : PendingHandler Handler) : List ArgsPointer :=
  s.held.toList ++ (s.transfers ++ s.retired).map Prod.snd

/-- The submissions that `transfers_` has taken and whose callbacks have not decremented yet. -/
def inFlight (s : PendingHandler Handler) : Multiset UInt32 :=
  ((s.transfers ++ s.retired).map Prod.fst ++ s.freed : List UInt32)

end PendingHandler

def accepted : PendingEvent → Option UInt32
  | .accepted seqnum => some seqnum
  | _ => none

def ended : PendingEvent → Option UInt32
  | .withdrawn seqnum => some seqnum
  | .decremented seqnum => some seqnum
  | _ => none

/-- The submissions that a record leaves without an end. -/
def unfinished (ledger : List PendingEvent) : Multiset UInt32 :=
  (ledger.filterMap accepted : Multiset UInt32) - (ledger.filterMap ended : Multiset UInt32)

variable {Handler : Type}

/-- The arguments that have been handed out are those that somebody still has to return. -/
structure Kept (s : PendingHandler Handler) : Prop where
  live : ∀ args, s.store.Live args ↔ args ∈ s.outstanding
  nodup : s.outstanding.Nodup

/-- The counter and the record agree with what is in flight. -/
structure Counted (s : PendingHandler Handler) : Prop where
  ledger : (s.ledger.filterMap accepted : Multiset UInt32) =
    (s.ledger.filterMap ended : Multiset UInt32) + s.inFlight
  count : s.pendingCount = s.inFlight.card

section Books

variable {s t : PendingHandler Handler} {q : UInt32} {args : ArgsPointer} {e : PendingEvent}

theorem Kept.perm (h : Kept s) (hstore : t.store = s.store)
    (houtstanding : t.outstanding.Perm s.outstanding) : Kept t where
  live args := by rw [hstore, h.live, houtstanding.mem_iff]
  nodup := houtstanding.nodup_iff.mpr h.nodup

theorem Kept.alloc (h : Kept s) (hstore : t.store = s.store.alloc.2)
    (houtstanding : t.outstanding = s.store.alloc.1 :: s.outstanding) : Kept t := by
  obtain ⟨hfresh, hlive⟩ := s.store.live_alloc
  refine ⟨fun args => ?_, ?_⟩
  · rw [houtstanding, List.mem_cons, ← h.live, hstore]
    exact hlive args
  · rw [houtstanding, List.nodup_cons, ← h.live]
    exact ⟨hfresh, h.nodup⟩

theorem Kept.free (h : Kept s) (hstore : t.store = s.store.free args)
    (houtstanding : s.outstanding.Perm (args :: t.outstanding)) : Kept t := by
  have hnodup := List.nodup_cons.mp (houtstanding.nodup_iff.mp h.nodup)
  have hlive : s.store.Live args :=
    (h.live args).mpr (houtstanding.mem_iff.mpr List.mem_cons_self)
  refine ⟨fun args' => ?_, hnodup.2⟩
  rw [hstore, CallbackArgsStore.live_free hlive, h.live, houtstanding.mem_iff, List.mem_cons]
  constructor
  · rintro ⟨hmem, hne⟩
    exact hmem.resolve_left hne
  · intro hmem
    exact ⟨Or.inr hmem, fun heq => hnodup.1 (heq ▸ hmem)⟩

theorem Counted.same (h : Counted s) (hinFlight : t.inFlight = s.inFlight)
    (hledger : t.ledger = s.ledger) (hcount : t.pendingCount = s.pendingCount) : Counted t where
  ledger := by rw [hledger, hinFlight]; exact h.ledger
  count := by rw [hcount, hinFlight]; exact h.count

theorem Counted.accept (h : Counted s) (hinFlight : t.inFlight = q ::ₘ s.inFlight)
    (hledger : t.ledger = s.ledger ++ [.accepted q])
    (hcount : t.pendingCount = s.pendingCount + 1) : Counted t where
  ledger := by
    have hone : [PendingEvent.accepted q].filterMap accepted = [q] := rfl
    have hnone : [PendingEvent.accepted q].filterMap ended = [] := rfl
    rw [hledger, List.filterMap_append, List.filterMap_append, hone, hnone, List.append_nil,
      ← Multiset.coe_add, h.ledger, hinFlight, add_assoc, Multiset.coe_singleton,
      add_comm s.inFlight, Multiset.singleton_add]
  count := by
    rw [hcount, hinFlight, Multiset.card_cons, h.count]
    rfl

theorem Counted.finish (h : Counted s) (hinFlight : s.inFlight = q ::ₘ t.inFlight)
    (hledger : t.ledger = s.ledger ++ [e]) (haccepted : accepted e = none)
    (hended : ended e = some q) (hcount : t.pendingCount = s.pendingCount - 1) :
    Counted t where
  ledger := by
    have hnone : [e].filterMap accepted = [] := by simp [haccepted]
    have hone : [e].filterMap ended = [q] := by simp [hended]
    rw [hledger, List.filterMap_append, List.filterMap_append, hone, hnone, List.append_nil,
      ← Multiset.coe_add, h.ledger, hinFlight, add_assoc, Multiset.coe_singleton,
      Multiset.singleton_add]
  count := by
    rw [hcount, h.count, hinFlight, Multiset.card_cons]
    push_cast
    omega

theorem kept_allocHeld (h : Kept s) (hheld : s.held = none) : Kept s.allocHeld := by
  refine h.alloc rfl ?_
  simp [PendingHandler.allocHeld, PendingHandler.outstanding, hheld]

theorem emplace_of_held (hheld : s.held = some args) :
    s.emplace q =
      { s with
        transfers := s.transfers ++ [(q, args)]
        held := none
        pendingCount := s.pendingCount + 1
        ledger := s.ledger ++ [.accepted q] } := by
  unfold PendingHandler.emplace
  rw [hheld]

theorem books_emplace (hkept : Kept s) (hcounted : Counted s) (hheld : s.held = some args) :
    Kept (s.emplace q) ∧ Counted (s.emplace q) := by
  rw [emplace_of_held hheld]
  refine ⟨hkept.perm rfl ?_, hcounted.accept (q := q) ?_ rfl rfl⟩
  · simp only [PendingHandler.outstanding, hheld, Option.toList_none, Option.toList_some,
      List.map_append, List.map_cons, List.map_nil, List.nil_append, List.append_assoc]
    exact List.perm_middle
  · simp only [PendingHandler.inFlight, List.map_append, List.map_cons, List.map_nil,
      List.append_assoc, Multiset.cons_coe, Multiset.coe_eq_coe]
    exact List.perm_middle

theorem books_eraseFailed (hkept : Kept s) (hcounted : Counted s) (hheld : s.held = none)
    (hmem : q ∈ s.transfers.map Prod.fst) :
    Kept (s.eraseFailed q) ∧ Counted (s.eraseFailed q) := by
  unfold PendingHandler.eraseFailed
  split
  next entry hlookup =>
    have hperm := perm_cons_remove hlookup
    obtain rfl : entry.1 = q := key_of_lookup hlookup
    refine ⟨hkept.perm rfl ?_, hcounted.finish (e := .withdrawn entry.1) ?_ rfl rfl rfl
      rfl⟩
    · simp only [PendingHandler.outstanding, hheld, Option.toList_none, Option.toList_some,
        List.map_append, List.nil_append, List.singleton_append]
      exact ((hperm.map Prod.snd).append_right _).symm
    · simp only [PendingHandler.inFlight, List.map_append, List.append_assoc, Multiset.cons_coe,
        Multiset.coe_eq_coe]
      exact (hperm.map Prod.fst).append_right _
  next hlookup =>
    obtain ⟨entry, hentry, hkey⟩ := List.mem_map.mp hmem
    exact absurd hkey (lookup_eq_none_iff.mp hlookup entry hentry)

theorem books_retire (hkept : Kept s) (hcounted : Counted s) :
    Kept (s.retire q) ∧ Counted (s.retire q) := by
  unfold PendingHandler.retire
  split
  next entry hlookup =>
    have hperm : (remove Prod.fst q s.transfers ++ (s.retired ++ [entry])).Perm
        (s.transfers ++ s.retired) := by
      rw [← List.append_assoc]
      exact List.perm_append_comm.trans ((perm_cons_remove hlookup).symm.append_right _)
    refine ⟨hkept.perm rfl ?_, hcounted.same ?_ rfl rfl⟩
    · exact (hperm.map Prod.snd).append_left _
    · exact Multiset.coe_eq_coe.mpr ((hperm.map Prod.fst).append_right _)
  next => exact ⟨hkept, hcounted⟩

theorem books_freeHeld (hkept : Kept s) (hcounted : Counted s) (hheld : s.held = some args) :
    Kept { s with store := s.store.free args, held := none } ∧
      Counted { s with store := s.store.free args, held := none } := by
  refine ⟨hkept.free rfl ?_, hcounted.same rfl rfl rfl⟩
  simp [PendingHandler.outstanding, hheld]

theorem books_freeCallbackArgs (hkept : Kept s) (hcounted : Counted s)
    (hmem : (q, args) ∈ s.retired) :
    let t := { s with
      store := s.store.free args
      retired := s.retired.erase (q, args)
      freed := s.freed ++ [q] }
    Kept t ∧ Counted t := by
  have hperm := List.perm_cons_erase hmem
  refine ⟨hkept.free rfl ?_, hcounted.same ?_ rfl rfl⟩
  · have hmoved := ((hperm.append_left s.transfers).trans List.perm_middle).map Prod.snd
    exact (hmoved.append_left s.held.toList).trans List.perm_middle
  · have hmoved := ((hperm.append_left s.transfers).trans List.perm_middle).map Prod.fst
    refine Multiset.coe_eq_coe.mpr (List.Perm.trans ?_ (hmoved.append_right s.freed).symm)
    rw [← List.append_assoc]
    exact List.perm_append_comm

theorem books_decrement (hkept : Kept s) (hcounted : Counted s) (hmem : q ∈ s.freed) :
    let t := { s with
      freed := s.freed.erase q
      pendingCount := s.pendingCount - 1
      ledger := s.ledger ++ [.decremented q] }
    Kept t ∧ Counted t := by
  refine ⟨hkept.perm rfl (.refl _), hcounted.finish (e := .decremented q) ?_ rfl rfl rfl rfl⟩
  have hmoved := ((List.perm_cons_erase hmem).append_left
    ((s.transfers ++ s.retired).map Prod.fst)).trans List.perm_middle
  exact Multiset.coe_eq_coe.mpr hmoved

/-- Where nothing is pending, only `receive_urb` may have something to return. -/
theorem outstanding_of_count (hcounted : Counted s) (hzero : s.pendingCount = 0) :
    s.transfers = [] ∧ s.retired = [] ∧ s.freed = [] ∧ s.outstanding = s.held.toList := by
  have hcard := hcounted.count
  rw [hzero, PendingHandler.inFlight, Multiset.coe_card, List.length_append, List.length_map,
    List.length_append] at hcard
  have htransfers : s.transfers = [] := List.eq_nil_of_length_eq_zero (by omega)
  have hretired : s.retired = [] := List.eq_nil_of_length_eq_zero (by omega)
  have hfreed : s.freed = [] := List.eq_nil_of_length_eq_zero (by omega)
  refine ⟨htransfers, hretired, hfreed, ?_⟩
  rw [PendingHandler.outstanding, htransfers, hretired]
  exact List.append_nil _

end Books

/-- `receive_urb` has arguments in hand from their allocation to their entry into `transfers_`, and
once they have come out of it again or have not been let in until it answers. -/
def HeldBy : ReceiverPc Handler → Option ArgsPointer → Prop
  | .tracking _, held => held ≠ none
  | .answering _ _, _ => True
  | _, held => held = none

/-- What holds of every run over any number of connections. -/
structure Accounted (s : PendingHandler Handler) : Prop where
  handler : Inv s.handler
  kept : Kept s
  counted : Counted s
  distinct : Distinct Prod.fst s.transfers
  matched : ∀ q, q ∈ s.transfers.map Prod.fst ↔ s.handler.transfers q ≠ none
  held : HeldBy s.handler.receiver s.held
  resting : s.phase ≠ .connected → s.handler.receiver = .idle ∨ s.handler.receiver = .stopped
  drained : s.phase ≠ .connected → s.phase ≠ .waiting → s.pendingCount = 0

section Steps

variable {policy : LibusbSubmitErrorPolicy} {s t : PendingHandler Handler}
  {h h' : LibusbDeviceHandler Handler} {q k : UInt32} {cb : LibusbCallbackArgs}

theorem update_ne_none_iff {transfers : UInt32 → Option LibusbCallbackArgs}
    (hcb : transfers k ≠ none) : Function.update transfers k (some cb) q ≠ none ↔
      transfers q ≠ none := by
  by_cases heq : q = k
  · simp [heq, hcb]
  · rw [Function.update_of_ne heq]

theorem mem_keys_remove_iff (hdistinct : Distinct Prod.fst s.transfers) :
    q ∈ (remove Prod.fst k s.transfers).map Prod.fst ↔
      q ∈ s.transfers.map Prod.fst ∧ q ≠ k := by
  simp only [List.mem_map]
  constructor
  · rintro ⟨entry, hentry, rfl⟩
    obtain ⟨hmem, hne⟩ := (mem_remove_iff hdistinct).mp hentry
    exact ⟨⟨entry, hmem, rfl⟩, hne⟩
  · rintro ⟨⟨entry, hmem, rfl⟩, hne⟩
    exact ⟨entry, (mem_remove_iff hdistinct).mpr ⟨hmem, hne⟩, rfl⟩

theorem matched_remove (hdistinct : Distinct Prod.fst s.transfers)
    (hmatched : ∀ q, q ∈ s.transfers.map Prod.fst ↔ h.transfers q ≠ none) (q : UInt32) :
    q ∈ (remove Prod.fst k s.transfers).map Prod.fst ↔
      Function.update h.transfers k none q ≠ none := by
  rw [mem_keys_remove_iff hdistinct, hmatched]
  by_cases heq : q = k
  · simp [heq]
  · simp [heq]

theorem retire_of_mem (hmem : k ∈ s.transfers.map Prod.fst) :
    ∃ entry, s.retire k = { s with
      transfers := remove Prod.fst k s.transfers
      retired := s.retired ++ [entry] } := by
  unfold PendingHandler.retire
  split
  next entry hlookup => exact ⟨entry, rfl⟩
  next hlookup =>
    obtain ⟨entry, hentry, hkey⟩ := List.mem_map.mp hmem
    exact absurd hkey (lookup_eq_none_iff.mp hlookup entry hentry)

theorem eraseFailed_of_mem (hmem : k ∈ s.transfers.map Prod.fst) :
    ∃ args, s.eraseFailed k = { s with
      transfers := remove Prod.fst k s.transfers
      held := some args
      pendingCount := s.pendingCount - 1
      ledger := s.ledger ++ [.withdrawn k] } := by
  unfold PendingHandler.eraseFailed
  split
  next entry hlookup => exact ⟨entry.2, rfl⟩
  next hlookup =>
    obtain ⟨entry, hentry, hkey⟩ := List.mem_map.mp hmem
    exact absurd hkey (lookup_eq_none_iff.mp hlookup entry hentry)

/-- A step of the handler that brings and takes no transfer. -/
theorem Accounted.quiet (ha : Accounted s) (hinv : Inv h)
    (hdomain : ∀ q, h.transfers q ≠ none ↔ s.handler.transfers q ≠ none)
    (hheld : HeldBy h.receiver s.held)
    (hresting : s.phase ≠ .connected → h.receiver = .idle ∨ h.receiver = .stopped) :
    Accounted { s with handler := h } where
  handler := hinv
  kept := ha.kept.perm rfl (.refl _)
  counted := ha.counted.same rfl rfl rfl
  distinct := ha.distinct
  matched q := (ha.matched q).trans (hdomain q).symm
  held := hheld
  resting := hresting
  drained := ha.drained

/-- A callback gives its transfer up. -/
theorem Accounted.retire (ha : Accounted s) (hinv : Inv h) (hcb : s.handler.transfers k = some cb)
    (htransfers : h.transfers = Function.update s.handler.transfers k none)
    (hreceiver : h.receiver = s.handler.receiver) :
    Accounted { s.retire k with handler := h } := by
  have hmem : k ∈ s.transfers.map Prod.fst := (ha.matched k).mpr (by simp [hcb])
  obtain ⟨hkept, hcounted⟩ := books_retire (q := k) ha.kept ha.counted
  obtain ⟨entry, hretire⟩ := retire_of_mem hmem
  rw [hretire] at hkept hcounted ⊢
  refine ⟨hinv, hkept.perm rfl (.refl _), hcounted.same rfl rfl rfl, distinct_remove ha.distinct,
    fun q => ?_, ?_, ?_, ha.drained⟩
  · rw [htransfers]
    exact matched_remove ha.distinct ha.matched q
  · rw [hreceiver]
    exact ha.held
  · rw [hreceiver]
    exact ha.resting

theorem connected_of_busy (ha : Accounted s) (hidle : s.handler.receiver ≠ .idle)
    (hstopped : s.handler.receiver ≠ .stopped) : s.phase = .connected := by
  by_contra hphase
  rcases ha.resting hphase with hreceiver | hreceiver
  · exact hidle hreceiver
  · exact hstopped hreceiver

theorem accounted_receiveUrb {cmd : CmdSubmitFields} {trx : LibusbTransfer} {ep : UsbEndpoint}
    {hasInterface tweaked : Bool} (ha : Accounted s) (hphase : s.phase = .connected)
    (hidle : s.handler.receiver = .idle)
    (hinv : Inv (s.handler.receiveUrb cmd trx ep hasInterface tweaked)) :
    Accounted
      { s.account (.receiveUrb cmd trx ep hasInterface tweaked) s.handler
          (s.handler.receiveUrb cmd trx ep hasInterface tweaked) with
        handler := s.handler.receiveUrb cmd trx ep hasInterface tweaked } := by
  have hnone : s.held = none := by
    have hheld := ha.held
    rw [hidle] at hheld
    exact hheld
  have hconnected {receiver : ReceiverPc Handler} :
      s.phase ≠ .connected → receiver = .idle ∨ receiver = .stopped :=
    fun hne => absurd hphase hne
  unfold LibusbDeviceHandler.receiveUrb at hinv ⊢
  dsimp only [LibusbDeviceHandler.record] at hinv ⊢
  split
  next hremoved =>
    rw [if_pos hremoved] at hinv
    exact ha.quiet hinv (fun _ => Iff.rfl) hnone hconnected
  next hpresent =>
    rw [if_neg hpresent] at hinv
    split
    next args hargs =>
      rw [hargs] at hinv
      have hkept := kept_allocHeld ha.kept hnone
      exact ⟨hinv, hkept.perm rfl (.refl _), ha.counted.same rfl rfl rfl, ha.distinct, ha.matched,
        Option.some_ne_none _, hconnected, ha.drained⟩
    next hargs =>
      rw [hargs] at hinv
      exact ha.quiet hinv (fun _ => Iff.rfl) trivial hconnected

theorem accounted_track {args : SubmittedTransfer} (ha : Accounted s)
    (hreceiver : s.handler.receiver = .tracking args) (hinv : Inv (s.handler.track args)) :
    Accounted { s.account .track s.handler (s.handler.track args) with
      handler := s.handler.track args } := by
  have hphase := connected_of_busy ha (by simp [hreceiver]) (by simp [hreceiver])
  have hheld : s.held ≠ none := by
    have hheld := ha.held
    rw [hreceiver] at hheld
    exact hheld
  have hconnected {receiver : ReceiverPc Handler} :
      s.phase ≠ .connected → receiver = .idle ∨ receiver = .stopped :=
    fun hne => absurd hphase hne
  unfold LibusbDeviceHandler.track at hinv ⊢
  split
  next cb hcb =>
    rw [hcb] at hinv
    exact ha.quiet hinv (fun _ => Iff.rfl) trivial hconnected
  next hnone =>
    rw [hnone] at hinv
    obtain ⟨pointer, hpointer⟩ := Option.ne_none_iff_exists'.mp hheld
    have hnew : args.seqnum ∉ s.transfers.map Prod.fst := by
      rw [ha.matched]
      exact not_not_intro hnone
    obtain ⟨hkept, hcounted⟩ := books_emplace (q := args.seqnum) ha.kept ha.counted hpointer
    dsimp only [PendingHandler.account]
    rw [emplace_of_held hpointer] at hkept hcounted ⊢
    refine ⟨hinv, hkept.perm rfl (.refl _), hcounted.same rfl rfl rfl, ?_, fun q => ?_, rfl,
      hconnected, fun hne => absurd hphase hne⟩
    · refine distinct_concat_iff.mpr ⟨ha.distinct, fun entry hentry heq => hnew ?_⟩
      exact List.mem_map.mpr ⟨entry, hentry, heq⟩
    · simp only [LibusbDeviceHandler.setTransfer, List.map_append, List.mem_append, ha.matched,
        List.map_cons, List.map_nil, List.mem_singleton]
      by_cases heq : q = args.seqnum
      · simp [heq]
      · simp [heq]

theorem accounted_untrack {err : Int} (ha : Accounted s)
    (hreceiver : s.handler.receiver = .submitFailed k err)
    (hinv : Inv (s.handler.untrack policy k err)) :
    Accounted { s.account .untrack s.handler (s.handler.untrack policy k err) with
      handler := s.handler.untrack policy k err } := by
  have hphase := connected_of_busy ha (by simp [hreceiver]) (by simp [hreceiver])
  have hheld : s.held = none := by
    have hheld := ha.held
    rw [hreceiver] at hheld
    exact hheld
  have hmem : k ∈ s.transfers.map Prod.fst := by
    obtain ⟨cb, hcb, -⟩ := (ha.handler.2.1.tracked k).mp (by rw [hreceiver]; rfl)
    exact (ha.matched k).mpr (by simp [hcb])
  obtain ⟨hkept, hcounted⟩ := books_eraseFailed ha.kept ha.counted hheld hmem
  obtain ⟨args, herase⟩ := eraseFailed_of_mem hmem
  dsimp only [PendingHandler.account]
  rw [hreceiver]
  dsimp only
  rw [herase] at hkept hcounted ⊢
  exact ⟨hinv, hkept.perm rfl (.refl _), hcounted.same rfl rfl rfl, distinct_remove ha.distinct,
    matched_remove ha.distinct ha.matched, trivial, fun hne => absurd hphase hne,
    fun hne => absurd hphase hne⟩

theorem accounted_submitTransfer {err : Int} (ha : Accounted s)
    (hreceiver : s.handler.receiver = .submitting k)
    (hinv : Inv (s.handler.submitTransfer k err)) :
    Accounted { s with handler := s.handler.submitTransfer k err } := by
  have hphase := connected_of_busy ha (by simp [hreceiver]) (by simp [hreceiver])
  have hheld := ha.held
  rw [hreceiver] at hheld
  unfold LibusbDeviceHandler.submitTransfer at hinv ⊢
  split
  next herr =>
    rw [if_pos herr] at hinv
    exact ha.quiet hinv (fun _ => Iff.rfl) hheld fun hne => absurd hphase hne
  next herr =>
    rw [if_neg herr] at hinv
    obtain ⟨cb, hcb, -⟩ := (ha.handler.2.1.tracked k).mp (by rw [hreceiver]; rfl)
    refine ha.quiet hinv (fun q => ?_) hheld fun hne => absurd hphase hne
    simp only [LibusbDeviceHandler.setTransfer, hcb, Option.map_some]
    exact update_ne_none_iff (by simp [hcb])

theorem accounted_submitRetSubmit {ret : UsbIpRetSubmit Handler} {noDevice : Bool}
    (ha : Accounted s) (hreceiver : s.handler.receiver = .answering ret noDevice)
    (hnone : s.held = none) (hinv : Inv (s.handler.submitRetSubmit ret noDevice)) :
    Accounted { s with handler := s.handler.submitRetSubmit ret noDevice } := by
  have hphase := connected_of_busy ha (by simp [hreceiver]) (by simp [hreceiver])
  refine ha.quiet hinv (fun _ => Iff.rfl) ?_ fun hne => absurd hphase hne
  cases noDevice with
  | false => exact hnone
  | true => exact hnone

theorem accounted_findUnlinked {cmdSeqnum : UInt32} (ha : Accounted s)
    (hreceiver : s.handler.receiver = .unlinking k cmdSeqnum)
    (hinv : Inv (s.handler.findUnlinked k cmdSeqnum)) :
    Accounted { s with handler := s.handler.findUnlinked k cmdSeqnum } := by
  have hheld := ha.held
  rw [hreceiver] at hheld
  unfold LibusbDeviceHandler.findUnlinked at hinv ⊢
  dsimp only at hinv ⊢
  split
  next cb hcb =>
    rw [hcb] at hinv
    exact ha.quiet hinv (fun q => update_ne_none_iff (by simp [hcb])) hheld fun _ => Or.inl rfl
  next hnone =>
    rw [hnone] at hinv
    exact ha.quiet hinv (fun q => Iff.rfl) hheld fun _ => Or.inl rfl

theorem accounted_onDisconnection (ha : Accounted s)
    (hreceiver : s.handler.receiver = .idle ∨ s.handler.receiver = .stopped)
    (hinv : Inv { s.handler with clientDisconnection := true, receiver := .stopped }) :
    Accounted { s with
      phase := .waiting
      handler := { s.handler with clientDisconnection := true, receiver := .stopped } } := by
  have hheld : s.held = none := by
    have hheld := ha.held
    rcases hreceiver with hidle | hstopped
    · rw [hidle] at hheld
      exact hheld
    · rw [hstopped] at hheld
      exact hheld
  exact ⟨hinv, ha.kept.perm rfl (.refl _), ha.counted.same rfl rfl rfl, ha.distinct, ha.matched,
    hheld, fun _ => Or.inr rfl, fun _ hne => absurd rfl hne⟩

theorem accounted_transferCallback {trx : LibusbTransfer} (ha : Accounted s)
    (hcb : s.handler.transfers k = some cb)
    (hinv : Inv (s.handler.transferCallback k cb trx)) :
    Accounted { s.account (.transferCallback k trx) s.handler (s.handler.transferCallback k cb trx)
      with handler := s.handler.transferCallback k cb trx } := by
  dsimp only [PendingHandler.account]
  unfold LibusbDeviceHandler.transferCallback at hinv ⊢
  split
  next hclient =>
    rw [if_pos hclient] at hinv
    exact ha.retire hinv hcb rfl rfl
  next hclient =>
    rw [if_neg hclient] at hinv
    exact ha.quiet hinv (fun q => update_ne_none_iff (by simp [hcb])) ha.held ha.resting

theorem accounted_enqueueReply {trx : LibusbTransfer} (ha : Accounted s)
    (hcb : s.handler.transfers k = some cb)
    (hinv : Inv (s.handler.enqueueReply k cb trx)) :
    Accounted { s.retire k with handler := s.handler.enqueueReply k cb trx } := by
  refine ha.retire hinv hcb ?_ ?_
  · unfold LibusbDeviceHandler.enqueueReply
    dsimp only
    split <;> rfl
  · unfold LibusbDeviceHandler.enqueueReply
    dsimp only
    split <;> rfl

theorem accounted_handler {a : HandlerAction} (ha : Accounted s) (hready : s.ready a = true)
    (ht : s.handler.step policy a = some h) :
    Accounted { s.account a s.handler h with handler := h } := by
  have hinv := inv_step ha.handler ht
  cases LibusbDeviceHandler.stepped_of_step ht with
  | receiveUrb hidle =>
      exact accounted_receiveUrb ha (by simpa [PendingHandler.ready] using hready) hidle hinv
  | track hreceiver => exact accounted_track ha hreceiver hinv
  | submitTransfer hreceiver => exact accounted_submitTransfer ha hreceiver hinv
  | untrack hreceiver => exact accounted_untrack ha hreceiver hinv
  | submitRetSubmit hreceiver =>
      exact accounted_submitRetSubmit ha hreceiver (by simpa [PendingHandler.ready] using hready)
        hinv
  | unlinkIgnored hidle hremoved =>
      exact ha.quiet hinv (fun _ => Iff.rfl) ha.held ha.resting
  | unlinkBegun hidle hremoved =>
      have hphase : s.phase = .connected := by simpa [PendingHandler.ready] using hready
      have hheld := ha.held
      rw [hidle] at hheld
      exact ha.quiet hinv (fun _ => Iff.rfl) hheld fun hne => absurd hphase hne
  | findUnlinked hreceiver => exact accounted_findUnlinked ha hreceiver hinv
  | onDeviceRemoved => exact ha.quiet hinv (fun _ => Iff.rfl) ha.held ha.resting
  | onDisconnection hreceiver =>
      exact accounted_onDisconnection ha hreceiver hinv
  | transferCallback hcb hstage => exact accounted_transferCallback ha hcb hinv
  | enqueueReply hcb hstage => exact accounted_enqueueReply ha hcb hinv

/-- Outside a connection there is nothing to return. -/
theorem not_live_of_drained (ha : Accounted s) (hconnected : s.phase ≠ .connected)
    (hwaiting : s.phase ≠ .waiting) :
    s.pendingCount = 0 ∧ s.transfers = [] ∧ s.held = none ∧
      ∀ args, ¬ s.store.Live args := by
  have hzero := ha.drained hconnected hwaiting
  obtain ⟨htransfers, -, -, houtstanding⟩ := outstanding_of_count ha.counted hzero
  have hnone : s.held = none := by
    have hheld := ha.held
    rcases ha.resting hconnected with hreceiver | hreceiver
    · rw [hreceiver] at hheld
      exact hheld
    · rw [hreceiver] at hheld
      exact hheld
  refine ⟨hzero, htransfers, hnone, fun args hlive => ?_⟩
  rw [ha.kept.live, houtstanding, hnone] at hlive
  exact absurd hlive List.not_mem_nil

theorem transfers_eq_none (ha : Accounted s) (htransfers : s.transfers = []) (q : UInt32) :
    s.handler.transfers q = none := by
  have hmatched := ha.matched q
  rw [htransfers] at hmatched
  by_contra hne
  exact absurd (hmatched.mpr hne) List.not_mem_nil

theorem inv_reconnect {removed : Bool} {transfers : UInt32 → Option LibusbCallbackArgs}
    (hnone : ∀ q, transfers q = none) :
    Inv { (LibusbDeviceHandler.create : LibusbDeviceHandler Handler) with
      deviceRemoved := removed
      transfers } := by
  obtain rfl : transfers = fun _ => none := funext hnone
  obtain ⟨hlog, htracking, hconserved⟩ :
      Inv (LibusbDeviceHandler.create : LibusbDeviceHandler Handler) := inv_create
  refine Inv.quiet ⟨hlog, htracking, hconserved⟩ (hlog.advance (Or.inl rfl) id rfl ?_) rfl rfl rfl
    rfl
  exact fun hfalse => absurd hfalse Bool.false_ne_true

theorem accounted_create : Accounted (PendingHandler.create : PendingHandler Handler) where
  handler := inv_create
  kept :=
    ⟨fun _ => iff_of_false CallbackArgsStore.not_live_create List.not_mem_nil, List.nodup_nil⟩
  counted := ⟨rfl, rfl⟩
  distinct := .nil
  matched q := by simp [PendingHandler.create, LibusbDeviceHandler.create]
  held := rfl
  resting _ := Or.inl rfl
  drained _ _ := rfl

theorem accounted_step {a : PendingAction} (ha : Accounted s)
    (ht : PendingHandler.step policy s a = some t) : Accounted t := by
  cases a with
  | handler a =>
      simp only [PendingHandler.step] at ht
      split at ht
      next hready =>
        obtain ⟨h, hh, rfl⟩ := Option.map_eq_some_iff.mp ht
        exact accounted_handler ha hready hh
      next => cases ht
  | freeHeld =>
      simp only [PendingHandler.step] at ht
      split at ht
      next ret noDevice args hreceiver hheld =>
        obtain rfl := Option.some.inj ht
        obtain ⟨hkept, hcounted⟩ := books_freeHeld ha.kept ha.counted hheld
        refine ⟨ha.handler, hkept, hcounted, ha.distinct, ha.matched, ?_, ha.resting, ha.drained⟩
        rw [hreceiver]
        trivial
      next => cases ht
  | freeCallbackArgs q args =>
      simp only [PendingHandler.step] at ht
      split at ht
      next hmem =>
        obtain rfl := Option.some.inj ht
        obtain ⟨hkept, hcounted⟩ := books_freeCallbackArgs ha.kept ha.counted hmem
        exact ⟨ha.handler, hkept, hcounted, ha.distinct, ha.matched, ha.held, ha.resting,
          ha.drained⟩
      next => cases ht
  | decrementPendingAndNotify q =>
      simp only [PendingHandler.step] at ht
      split at ht
      next hmem =>
        obtain rfl := Option.some.inj ht
        obtain ⟨hkept, hcounted⟩ := books_decrement ha.kept ha.counted hmem
        refine ⟨ha.handler, hkept, hcounted, ha.distinct, ha.matched, ha.held, ha.resting,
          fun hconnected hwaiting => ?_⟩
        -- A callback that still has to decrement keeps `on_disconnection` waiting.
        obtain ⟨-, -, hfreed, -⟩ :=
          outstanding_of_count ha.counted (ha.drained hconnected hwaiting)
        rw [hfreed] at hmem
        exact absurd hmem List.not_mem_nil
      next => cases ht
  | transfersComplete =>
      simp only [PendingHandler.step] at ht
      split at ht
      next hdone =>
        obtain rfl := Option.some.inj ht
        refine ⟨ha.handler, ha.kept.perm rfl (.refl _), ha.counted.same rfl rfl rfl, ha.distinct,
          ha.matched, ha.held, fun _ => ha.resting (by simp [hdone.1]), fun _ _ => hdone.2⟩
      next => cases ht
  | resetPool =>
      simp only [PendingHandler.step] at ht
      split at ht
      next hphase =>
        obtain rfl := Option.some.inj ht
        obtain ⟨hzero, -, -, hlive⟩ := not_live_of_drained ha (by simp [hphase]) (by simp [hphase])
        refine ⟨ha.handler, ⟨fun args => ?_, ha.kept.nodup⟩, ha.counted.same rfl rfl rfl,
          ha.distinct, ha.matched, ha.held, fun _ => ha.resting (by simp [hphase]),
          fun _ _ => hzero⟩
        exact iff_of_false (CallbackArgsStore.not_live_reset hlive)
          fun hmem => hlive args ((ha.kept.live args).mpr hmem)
      next => cases ht
  | releaseAndCloseDevice =>
      simp only [PendingHandler.step] at ht
      split at ht
      next hphase =>
        obtain rfl := Option.some.inj ht
        exact ⟨ha.handler, ha.kept.perm rfl (.refl _), ha.counted.same rfl rfl rfl, ha.distinct,
          ha.matched, ha.held, fun _ => ha.resting (by simp [hphase]),
          fun _ _ => ha.drained (by simp [hphase]) (by simp [hphase])⟩
      next => cases ht
  | onNewConnection opened =>
      simp only [PendingHandler.step] at ht
      split at ht
      next hphase =>
        split at ht
        next hopened =>
          obtain rfl := Option.some.inj ht
          obtain ⟨-, htransfers, hnone, -⟩ :=
            not_live_of_drained ha (by simp [hphase]) (by simp [hphase])
          exact ⟨inv_reconnect (transfers_eq_none ha htransfers), ha.kept.perm rfl (.refl _),
            ha.counted.same rfl rfl rfl, ha.distinct, ha.matched, hnone,
            fun hne => absurd rfl hne, fun hne => absurd rfl hne⟩
        next hopened =>
          obtain rfl := Option.some.inj ht
          exact ha
      next => cases ht

end Steps

section Runs

variable {policy : LibusbSubmitErrorPolicy} {s : PendingHandler Handler}

/-- The counter counts the submissions that have no end yet; where it is zero only `receive_urb`
may have arguments in hand, and where `on_disconnection` tidies up nobody has. -/
structure InFlightAccounting (policy : LibusbSubmitErrorPolicy) (s : PendingHandler Handler) :
    Prop where
  count : s.pendingCount = (unfinished s.ledger).card
  returned : s.pendingCount = 0 → s.transfers = [] ∧ (∀ q, s.handler.transfers q = none) ∧
    ∀ args, s.store.Live args → s.held = some args
  held : HeldBy s.handler.receiver s.held
  quiescent : ∀ a t, a = .resetPool ∨ a = .releaseAndCloseDevice →
    s.step policy a = some t →
    s.pendingCount = 0 ∧ s.transfers = [] ∧ (∀ q, s.handler.transfers q = none) ∧
      ∀ args, ¬ s.store.Live args

theorem accounted_of_reachable (h : Reachable (PendingHandler.system policy) s) : Accounted s := by
  refine Reachable.invariant (I := Accounted) ?_ (fun _ _ _ hs ht => accounted_step hs ht) h
  rintro s rfl
  exact accounted_create

theorem unfinished_eq (h : Counted s) : unfinished s.ledger = s.inFlight := by
  rw [unfinished, h.ledger]
  exact add_tsub_cancel_left _ _

theorem phase_of_tidying {t : PendingHandler Handler} {a : PendingAction}
    (ha : a = .resetPool ∨ a = .releaseAndCloseDevice) (ht : s.step policy a = some t) :
    s.phase = .resetting ∨ s.phase = .releasing := by
  rcases ha with rfl | rfl
  · simp only [PendingHandler.step] at ht
    split at ht
    next hphase => exact Or.inl hphase
    next => cases ht
  · simp only [PendingHandler.step] at ht
    split at ht
    next hphase => exact Or.inr hphase
    next => cases ht

theorem in_flight_accounting (h : Reachable (PendingHandler.system policy) s) :
    InFlightAccounting policy s := by
  have ha := accounted_of_reachable h
  refine ⟨?_, fun hzero => ?_, ha.held, fun a t htidying ht => ?_⟩
  · rw [unfinished_eq ha.counted]
    exact ha.counted.count
  · obtain ⟨htransfers, -, -, houtstanding⟩ := outstanding_of_count ha.counted hzero
    refine ⟨htransfers, transfers_eq_none ha htransfers, fun args hlive => ?_⟩
    rw [ha.kept.live, houtstanding] at hlive
    exact Option.mem_toList.mp hlive
  · have hphase := phase_of_tidying htidying ht
    obtain ⟨hzero, htransfers, -, hlive⟩ :=
      not_live_of_drained ha (by rcases hphase with hp | hp <;> simp [hp])
        (by rcases hphase with hp | hp <;> simp [hp])
    exact ⟨hzero, htransfers, transfers_eq_none ha htransfers, hlive⟩

end Runs

/-- A transfer whose callback is past its lock when the client goes is waited for, and the next
connection finds the pool full. -/
theorem in_flight_accounting_instance :
    ∃ s : PendingHandler Unit,
      Reachable (PendingHandler.system .disconnectOnAnyError) s ∧
      InFlightAccounting .disconnectOnAnyError s ∧ s.phase = .connected ∧
      s.ledger = [.accepted 1, .decremented 1] := by
  obtain ⟨s, hs, hphase, hledger⟩ :
      ∃ s : PendingHandler Unit,
        (PendingHandler.system .disconnectOnAnyError).run .create
          [.onNewConnection true, .handler (bulkRead 1), .handler .track,
            .handler (.submitTransfer 0),
            .handler (.transferCallback 1 (finishedTransfer .completed)),
            .handler (.enqueueReply 1), .handler .onDisconnection,
            .freeCallbackArgs 1 (.pooled ⟨255, by decide⟩), .decrementPendingAndNotify 1,
            .transfersComplete, .resetPool, .releaseAndCloseDevice, .onNewConnection true] =
          some s ∧
        s.phase = .connected ∧ s.ledger = [.accepted 1, .decremented 1] :=
    ⟨_, rfl, rfl, rfl⟩
  have hreach : Reachable (PendingHandler.system .disconnectOnAnyError) s :=
    Reachable.run _ (.initial rfl) hs
  exact ⟨s, hreach, in_flight_accounting hreach, hphase, hledger⟩

/-- `receive_urb` has taken its arguments from the pool before it counts them. -/
theorem allocated_before_counted :
    ¬ ∀ (policy : LibusbSubmitErrorPolicy) (s : PendingHandler Unit),
      Reachable (PendingHandler.system policy) s → s.pendingCount = 0 →
      ∀ args, ¬ s.store.Live args := by
  intro h
  obtain ⟨s, hs, hzero, hlive⟩ :
      ∃ s : PendingHandler Unit,
        (PendingHandler.system .disconnectOnAnyError).run .create
          [.onNewConnection true, .handler (bulkRead 1)] = some s ∧
        s.pendingCount = 0 ∧ s.store.pool.inUse ⟨255, by decide⟩ = true :=
    ⟨_, rfl, rfl, rfl⟩
  exact h .disconnectOnAnyError s (Reachable.run _ (.initial rfl) hs) hzero
    (.pooled ⟨255, by decide⟩) hlive

end Usbipdcpp.LibusbHandler.PendingTransfers
