import Usbipdcpp.Foundation.KeyedList
import Mathlib.Data.List.Perm.Basic

namespace Usbipdcpp.Foundation.FifoLedger

open Usbipdcpp.Foundation.KeyedList

universe u v

variable {κ : Type u} [DecidableEq κ]

section SameOrder

variable {ι : Type v} {l l' l'' m m' : List (κ × ι)}

/-- Two lists have the elements of each key in the same order. -/
def SameOrder (l l' : List (κ × ι)) : Prop :=
  ∀ k, ofKey k l = ofKey k l'

theorem SameOrder.rfl : SameOrder l l :=
  fun _ => Eq.refl _

theorem SameOrder.symm (h : SameOrder l l') : SameOrder l' l :=
  fun k => (h k).symm

theorem SameOrder.trans (h : SameOrder l l') (h' : SameOrder l' l'') : SameOrder l l'' :=
  fun k => (h k).trans (h' k)

theorem count_ofKey [DecidableEq ι] (k : κ) (i : ι) : (ofKey k l).count i = l.count (k, i) := by
  induction l with
  | nil => rfl
  | cons item l ih =>
      obtain ⟨k', i'⟩ := item
      rw [ofKey_cons, List.count_cons, ← ih]
      by_cases hk : k' = k
      · rw [if_pos hk, List.count_cons]
        simp [hk]
      · simp [hk]

theorem SameOrder.perm (h : SameOrder l l') : l.Perm l' := by
  classical
  rw [List.perm_iff_count]
  rintro ⟨k, i⟩
  rw [← count_ofKey, ← count_ofKey, h k]

end SameOrder

/-- The books of a service that takes requests one after the other and serves those of each
key first come, first served.  A request is known by the number of requests that came before
it.  An express request is served at once, past those that wait; a withdrawn one is never
served, and a dropped one neither. -/
structure Ledger (κ : Type u) where
  arrived : Nat
  waiting : List (κ × Nat)
  served : List (κ × Nat)
  express : List (κ × Nat)
  withdrawn : List (κ × Nat)
  dropped : List (κ × Nat)

namespace Ledger

/-- All requests that have arrived. -/
def all (d : Ledger κ) : List Nat :=
  (d.waiting ++ d.served ++ d.express ++ d.withdrawn ++ d.dropped).map Prod.snd

/-- Every request is in the books exactly once, and those of each key are served in the order
of their arrival, the ones that wait being the last. -/
structure Accounted (d : Ledger κ) : Prop where
  once : d.all.Perm (List.range d.arrived)
  inOrder : ∀ k, (ofKey k (d.served ++ d.waiting)).Pairwise (· < ·)

def empty : Ledger κ where
  arrived := 0
  waiting := []
  served := []
  express := []
  withdrawn := []
  dropped := []

theorem accounted_empty : (empty : Ledger κ).Accounted where
  once := List.Perm.refl _
  inOrder _ := List.Pairwise.nil

namespace Accounted

variable {d : Ledger κ} {k : κ} {n : Nat} {waiting taken : List (κ × Nat)}

theorem nodup (hd : d.Accounted) : d.all.Nodup :=
  hd.once.nodup_iff.mpr List.nodup_range

theorem lt_arrived (hd : d.Accounted) (hmem : n ∈ d.all) : n < d.arrived :=
  List.mem_range.mp (hd.once.mem_iff.mp hmem)

theorem mem_all_of_mem_ofKey (hmem : n ∈ ofKey k (d.served ++ d.waiting)) : n ∈ d.all := by
  have hitem := mem_ofKey_iff.mp hmem
  refine List.mem_map.mpr ⟨(k, n), ?_, rfl⟩
  simp only [List.mem_append] at hitem ⊢
  tauto

omit [DecidableEq κ] in
theorem count_all (n : Nat) :
    d.all.count n = (d.waiting.map Prod.snd).count n + (d.served.map Prod.snd).count n +
      (d.express.map Prod.snd).count n + (d.withdrawn.map Prod.snd).count n +
      (d.dropped.map Prod.snd).count n := by
  simp only [all, List.map_append, List.count_append]

omit [DecidableEq κ] in
theorem count_of_perm {l l' : List (κ × Nat)} (h : l.Perm l') (n : Nat) :
    (l.map Prod.snd).count n = (l'.map Prod.snd).count n :=
  (h.map Prod.snd).count_eq n

theorem inOrder_append (hd : d.Accounted) (k : κ) :
    (ofKey k d.served ++ ofKey k d.waiting).Pairwise (· < ·) := by
  rw [← ofKey_append]
  exact hd.inOrder k

/-- A request arrives and waits behind the others of its key. -/
theorem arrive (hd : d.Accounted) (hwaiting : SameOrder waiting (d.waiting ++ [(k, d.arrived)])) :
    Accounted { d with arrived := d.arrived + 1, waiting } where
  once := List.perm_iff_count.mpr fun n => by
    have honce := hd.once.count_eq n
    have hcount := count_of_perm hwaiting.perm n
    rw [count_all] at honce ⊢
    simp only [List.map_append, List.map_cons, List.map_nil, List.count_append] at hcount
    simp only [List.range_succ, List.count_append]
    omega
  inOrder k' := by
    rw [ofKey_append, hwaiting k', ofKey_append, ← List.append_assoc]
    refine List.pairwise_append.mpr ⟨hd.inOrder_append k', ?_, ?_⟩
    · rw [ofKey_cons]
      split
      · exact List.pairwise_singleton _ _
      · exact List.Pairwise.nil
    · intro n hn m hm
      obtain ⟨-, rfl⟩ : k' = k ∧ m = d.arrived := by simpa [mem_ofKey_iff] using hm
      rw [← ofKey_append] at hn
      exact hd.lt_arrived (mem_all_of_mem_ofKey hn)

/-- A request arrives and is served at once. -/
theorem arriveExpress (hd : d.Accounted) (k : κ) :
    Accounted { d with arrived := d.arrived + 1, express := d.express ++ [(k, d.arrived)] } where
  once := List.perm_iff_count.mpr fun n => by
    have honce := hd.once.count_eq n
    rw [count_all] at honce ⊢
    simp only [List.range_succ, List.map_append, List.map_cons, List.map_nil, List.count_append]
    omega
  inOrder := hd.inOrder

/-- The first requests of some keys are served. -/
theorem serve (hd : d.Accounted) (hwaiting : SameOrder d.waiting (taken ++ waiting)) :
    Accounted { d with waiting, served := d.served ++ taken } where
  once := List.perm_iff_count.mpr fun n => by
    have honce := hd.once.count_eq n
    have hcount := count_of_perm hwaiting.perm n
    rw [count_all] at honce ⊢
    simp only [List.map_append, List.count_append] at hcount ⊢
    omega
  inOrder k := by
    have h := hd.inOrder_append k
    rw [hwaiting k, ofKey_append, ← List.append_assoc] at h
    rwa [ofKey_append, ofKey_append]

/-- A request that waits is withdrawn. -/
theorem withdraw {before after : List Nat} (hd : d.Accounted)
    (hbefore : ofKey k d.waiting = before ++ n :: after)
    (hafter : ofKey k waiting = before ++ after)
    (hother : ∀ k', k' ≠ k → ofKey k' waiting = ofKey k' d.waiting) :
    Accounted { d with waiting, withdrawn := d.withdrawn ++ [(k, n)] } where
  once := by
    have hperm : d.waiting.Perm ((k, n) :: waiting) := by
      rw [List.perm_iff_count]
      rintro ⟨k', i⟩
      rw [← count_ofKey, ← count_ofKey, ofKey_cons]
      by_cases hk : k = k'
      · subst hk
        rw [if_pos rfl, hbefore, hafter]
        exact List.perm_middle.count_eq i
      · rw [if_neg hk, hother k' (Ne.symm hk)]
    refine List.perm_iff_count.mpr fun m => ?_
    have honce := hd.once.count_eq m
    have hcount := count_of_perm hperm m
    rw [count_all] at honce ⊢
    rw [List.map_cons, ← List.singleton_append] at hcount
    simp only [List.map_append, List.map_cons, List.map_nil, List.count_append] at hcount ⊢
    omega
  inOrder k' := by
    have h := hd.inOrder_append k'
    rw [ofKey_append]
    by_cases hk : k' = k
    · subst hk
      rw [hbefore] at h
      rw [hafter]
      exact h.sublist (List.Sublist.append_left
        (List.Sublist.append_left (List.sublist_cons_self _ _) _) _)
    · rwa [hother k' hk]

/-- All requests that wait are dropped. -/
theorem drop (hd : d.Accounted) :
    Accounted { d with waiting := [], dropped := d.dropped ++ d.waiting } where
  once := List.perm_iff_count.mpr fun n => by
    have honce := hd.once.count_eq n
    rw [count_all] at honce ⊢
    simp only [List.map_append, List.map_nil, List.count_append, List.count_nil] at honce ⊢
    omega
  inOrder k := by
    have h := List.pairwise_append.mp (hd.inOrder_append k)
    rw [List.append_nil]
    exact h.1

/-- A request arrives and is served at once, when no other of its key waits. -/
theorem arriveServed (hd : d.Accounted) (hnone : ofKey k d.waiting = []) :
    Accounted { d with arrived := d.arrived + 1, served := d.served ++ [(k, d.arrived)] } := by
  have hfront : SameOrder ([(k, d.arrived)] ++ d.waiting) (d.waiting ++ [(k, d.arrived)]) := by
    intro k'
    rw [ofKey_append, ofKey_append, ofKey_cons, ofKey_nil]
    rcases eq_or_ne k k' with rfl | hne
    · rw [hnone, if_pos rfl, List.append_nil, List.nil_append]
    · rw [if_neg hne, List.append_nil, List.nil_append]
  exact (hd.arrive hfront).serve SameOrder.rfl

/-- The order in which the requests of different keys wait is of no importance. -/
theorem reorder (hd : d.Accounted) (hwaiting : SameOrder d.waiting waiting) :
    Accounted { d with waiting } := by
  have htaken : SameOrder d.waiting ([] ++ waiting) := hwaiting
  simpa using hd.serve htaken

/-- A served request does not wait. -/
theorem not_mem_waiting_of_served (hd : d.Accounted) (hmem : n ∈ d.served.map Prod.snd) :
    n ∉ d.waiting.map Prod.snd := by
  have hcount := List.nodup_iff_count_le_one.mp hd.nodup n
  have hpos := List.count_pos_iff.mpr hmem
  rw [count_all] at hcount
  intro hwaiting
  have := List.count_pos_iff.mpr hwaiting
  omega

/-- A withdrawn request neither waits nor is it served. -/
theorem not_mem_of_withdrawn (hd : d.Accounted) (hmem : n ∈ d.withdrawn.map Prod.snd) :
    n ∉ d.waiting.map Prod.snd ∧ n ∉ d.served.map Prod.snd ∧ n ∉ d.express.map Prod.snd := by
  have hcount := List.nodup_iff_count_le_one.mp hd.nodup n
  have hpos := List.count_pos_iff.mpr hmem
  rw [count_all] at hcount
  refine ⟨fun hwaiting => ?_, fun hserved => ?_, fun hexpress => ?_⟩
  · have := List.count_pos_iff.mpr hwaiting
    omega
  · have := List.count_pos_iff.mpr hserved
    omega
  · have := List.count_pos_iff.mpr hexpress
    omega

end Accounted

end Ledger

end Usbipdcpp.Foundation.FifoLedger
