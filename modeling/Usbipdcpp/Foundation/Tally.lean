import Usbipdcpp.Foundation.FifoLedger
import Mathlib.Data.List.Count
import Mathlib.Data.List.Induction

namespace Usbipdcpp.Foundation

open FifoLedger

universe u v

/-- How many requests with each label have come to a party, and how many of them wait there, have
been answered, have been withdrawn and have been dropped. -/
structure Tally (κ : Type u) where
  arrived : κ → Nat
  waiting : κ → Nat
  answered : κ → Nat
  withdrawn : κ → Nat
  dropped : κ → Nat

namespace Tally

variable {κ : Type u}

/-- Every request is in one place. -/
def Balanced (t : Tally κ) : Prop :=
  ∀ k, t.arrived k = t.waiting k + t.answered k + t.withdrawn k + t.dropped k

section Moves

variable [DecidableEq κ] {t t' : Tally κ} {came gone : List κ}

/-- Requests have come with some labels, and requests with some labels have been withdrawn.
Besides, the party has answered and dropped requests, which it does for good. -/
structure Moves (came gone : List κ) (t t' : Tally κ) : Prop where
  arrived : ∀ k, t'.arrived k = t.arrived k + came.count k
  withdrawn : ∀ k, t'.withdrawn k = t.withdrawn k + gone.count k
  answered : ∀ k, t.answered k ≤ t'.answered k
  dropped : ∀ k, t.dropped k ≤ t'.dropped k

theorem Moves.rfl : Moves [] [] t t :=
  ⟨fun _ => Eq.refl _, fun _ => Eq.refl _, fun _ => Nat.le_refl _, fun _ => Nat.le_refl _⟩

/-- Where no request comes, none begins to wait. -/
theorem Moves.waiting_le (h : Moves [] gone t t') (hbefore : t.Balanced) (hafter : t'.Balanced)
    (k : κ) : t'.waiting k ≤ t.waiting k := by
  have harrived := h.arrived k
  have hwithdrawn := h.withdrawn k
  have hanswered := h.answered k
  have hdropped := h.dropped k
  have hle := hbefore k
  have hle' := hafter k
  rw [List.count_nil] at harrived
  omega

end Moves

section OfLedger

variable {ι : Type v} [DecidableEq κ] {labels came gone : List κ} {numbers numbers' : List Nat}
  {d d' : Ledger ι} {k : κ}

/-- How many of the numbers stand for a label. -/
def countOf (labels : List κ) (numbers : List Nat) (k : κ) : Nat :=
  numbers.countP fun n => labels[n]? = some k

theorem countOf_append : countOf labels (numbers ++ numbers') k =
    countOf labels numbers k + countOf labels numbers' k :=
  List.countP_append

/-- Labels that come later do not matter to the numbers that there are. -/
theorem countOf_labels_append (h : ∀ n ∈ numbers, n < labels.length) :
    countOf (labels ++ came) numbers k = countOf labels numbers k := by
  refine List.countP_congr fun n hn => ?_
  rw [List.getElem?_append_left (h n hn)]

theorem countOf_range (labels : List κ) (k : κ) :
    countOf labels (List.range labels.length) k = labels.count k := by
  induction labels using List.reverseRecOn with
  | nil => rfl
  | append_singleton labels label ih =>
      have hlast : countOf (labels ++ [label]) [labels.length] k = [label].count k := by
        simp [countOf, List.countP_cons, List.count_cons]
      rw [List.length_append, List.length_singleton, List.range_succ, countOf_append,
        countOf_labels_append fun n hn => List.mem_range.mp hn, ih, hlast, List.count_append]

/-- The numbers of requests whose labels are known one by one. -/
theorem countOf_map {α : Type*} {l : List α} {number : α → Nat} {label : α → κ}
    (h : ∀ a ∈ l, labels[number a]? = some (label a)) :
    countOf labels (l.map number) k = (l.map label).count k := by
  rw [countOf, List.countP_map, List.count, List.countP_map]
  refine List.countP_congr fun a ha => ?_
  simp [h a ha]

/-- The tally of books whose requests have labels, in the order of their numbers. -/
def ofLedger (labels : List κ) (d : Ledger ι) : Tally κ where
  arrived k := labels.count k
  waiting := countOf labels (d.waiting.map Prod.snd)
  answered := countOf labels ((d.served ++ d.express).map Prod.snd)
  withdrawn := countOf labels (d.withdrawn.map Prod.snd)
  dropped := countOf labels (d.dropped.map Prod.snd)

variable [DecidableEq ι]

theorem balanced_ofLedger (hd : d.Accounted) (hlabels : labels.length = d.arrived) :
    (ofLedger labels d).Balanced := by
  intro k
  have honce : countOf labels d.all k = countOf labels (List.range labels.length) k :=
    (hlabels ▸ hd.once).countP_eq _
  rw [countOf_range] at honce
  simp only [ofLedger, Ledger.all, List.map_append, countOf_append] at honce ⊢
  omega

omit [DecidableEq ι] in
theorem countOf_le_of_start {l l' : List (ι × Nat)} (h : l <+: l')
    (hlt : ∀ n ∈ l.map Prod.snd, n < labels.length) :
    countOf labels (l.map Prod.snd) k ≤ countOf (labels ++ came) (l'.map Prod.snd) k := by
  obtain ⟨rest, rfl⟩ := h
  rw [List.map_append, countOf_append, countOf_labels_append hlt]
  exact Nat.le_add_right _ _

/-- Books that are only added to, but for what waits. -/
theorem moves_ofLedger {withdrawn : List (ι × Nat)} (hd : d.Accounted)
    (hlabels : labels.length = d.arrived)
    (hserved : d.served <+: d'.served) (hexpress : d.express <+: d'.express)
    (hdropped : d.dropped <+: d'.dropped) (hwithdrawn : d'.withdrawn = d.withdrawn ++ withdrawn)
    (hgone : withdrawn.map (fun entry => (labels ++ came)[entry.2]?) = gone.map some) :
    Moves came gone (ofLedger labels d) (ofLedger (labels ++ came) d') := by
  have hlt {l : List (ι × Nat)} (hl : ∀ entry ∈ l, entry.2 ∈ d.all) :
      ∀ n ∈ l.map Prod.snd, n < labels.length := by
    intro n hn
    obtain ⟨entry, hentry, rfl⟩ := List.mem_map.mp hn
    exact hlabels ▸ hd.lt_arrived (hl entry hentry)
  have hall {entry : ι × Nat} (h : entry ∈ d.served ∨ entry ∈ d.express ∨ entry ∈ d.withdrawn ∨
      entry ∈ d.dropped) : entry.2 ∈ d.all := by
    refine List.mem_map_of_mem ?_
    simp only [List.mem_append]
    tauto
  constructor
  · intro k
    exact List.count_append
  · intro k
    have hcount : countOf (labels ++ came) (withdrawn.map Prod.snd) k = gone.count k := by
      have hsome : gone.count k = (gone.map some).count (some k) :=
        (List.count_map_of_injective _ _ (fun _ _ => Option.some.inj) _).symm
      rw [hsome, ← hgone, countOf, List.count, List.countP_map, List.countP_map]
      exact List.countP_congr fun entry _ => by simp
    simp only [ofLedger, hwithdrawn, List.map_append, countOf_append, hcount]
    rw [countOf_labels_append (hlt fun entry h => hall (.inr (.inr (.inl h))))]
  · intro k
    simp only [ofLedger, List.map_append, countOf_append]
    exact Nat.add_le_add (countOf_le_of_start hserved (hlt fun entry h => hall (.inl h)))
      (countOf_le_of_start hexpress (hlt fun entry h => hall (.inr (.inl h))))
  · intro k
    exact countOf_le_of_start hdropped (hlt fun entry h => hall (.inr (.inr (.inr h))))

end OfLedger

end Tally

end Usbipdcpp.Foundation
