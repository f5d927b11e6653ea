import Mathlib.Data.List.Basic

namespace Usbipdcpp.Foundation.ErasedRanges

universe u v

variable {α : Type u}

/-- The positions from `start` on and before `stop`. -/
structure Range where
  start : Nat
  stop : Nat
  deriving DecidableEq, Repr

namespace Range

def Contains (r : Range) (i : Nat) : Prop := r.start ≤ i ∧ i < r.stop

instance (r : Range) (i : Nat) : Decidable (r.Contains i) :=
  inferInstanceAs (Decidable (_ ∧ _))

/-- The range of whole units of `unit` positions that `r` reaches into. -/
def roundOut (unit : Nat) (r : Range) : Range where
  start := r.start / unit * unit
  stop := (r.stop + unit - 1) / unit * unit

theorem contains_roundOut {unit : Nat} (hunit : 0 < unit) {r : Range} {i : Nat}
    (h : r.Contains i) : (r.roundOut unit).Contains i := by
  have hstop : r.stop + unit - 1 < (r.stop + unit - 1) / unit * unit + unit := by
    have hdiv := Nat.div_add_mod (r.stop + unit - 1) unit
    have hmod := Nat.mod_lt (r.stop + unit - 1) hunit
    rw [Nat.mul_comm unit] at hdiv
    omega
  have hstart : r.start / unit * unit ≤ r.start := Nat.div_mul_le_self r.start unit
  refine ⟨Nat.le_trans hstart h.1, Nat.lt_of_lt_of_le h.2 ?_⟩
  simp only [roundOut]
  omega

theorem roundOut_of_dvd {unit : Nat} (hunit : 0 < unit) {r : Range} (hstart : unit ∣ r.start)
    (hstop : unit ∣ r.stop) : r.roundOut unit = r := by
  obtain ⟨start, stop⟩ := r
  obtain ⟨k, rfl⟩ := hstart
  obtain ⟨n, rfl⟩ := hstop
  have hdiv : (unit * n + unit - 1) / unit = n := by
    rw [Nat.add_sub_assoc hunit, Nat.mul_add_div hunit, Nat.div_eq_of_lt (Nat.sub_lt hunit
      Nat.one_pos), Nat.add_zero]
  simp only [roundOut, Nat.mul_div_cancel_left k hunit, hdiv, Nat.mul_comm]

end Range

/-- A position lies in one of the ranges. -/
def Covers (ranges : List Range) (i : Nat) : Prop := ∃ r ∈ ranges, r.Contains i

instance (ranges : List Range) (i : Nat) : Decidable (Covers ranges i) :=
  inferInstanceAs (Decidable (∃ r ∈ ranges, _))

/-- The list with `blank` at every position that one of the ranges covers. -/
def erase (blank : α) (ranges : List Range) (xs : List α) : List α :=
  xs.mapIdx fun i x => if Covers ranges i then blank else x

section Covers

variable {ranges others : List Range} {i : Nat}

theorem not_covers_nil : ¬Covers [] i := by
  rintro ⟨r, hr, -⟩
  cases hr

theorem covers_singleton {r : Range} : Covers [r] i ↔ r.Contains i := by
  simp [Covers]

theorem covers_cons {r : Range} : Covers (r :: ranges) i ↔ r.Contains i ∨ Covers ranges i := by
  simp [Covers]

theorem covers_append : Covers (ranges ++ others) i ↔ Covers ranges i ∨ Covers others i := by
  simp [Covers, or_and_right, exists_or]

/-- What ranges cover is covered by the units that they reach into. -/
theorem covers_roundOut {unit : Nat} (hunit : 0 < unit) (h : Covers ranges i) :
    Covers (ranges.map (Range.roundOut unit)) i := by
  obtain ⟨r, hr, hcontains⟩ := h
  exact ⟨_, List.mem_map_of_mem hr, Range.contains_roundOut hunit hcontains⟩

end Covers

section Erase

variable {blank : α} {ranges others : List Range} {xs : List α} {i : Nat}

@[simp] theorem length_erase : (erase blank ranges xs).length = xs.length := by
  simp [erase]

theorem getElem?_erase :
    (erase blank ranges xs)[i]? = xs[i]?.map fun x => if Covers ranges i then blank else x := by
  simp [erase]

theorem getElem?_erase_of_not_covers (h : ¬Covers ranges i) :
    (erase blank ranges xs)[i]? = xs[i]? := by
  simp [getElem?_erase, h]

theorem getElem?_erase_of_covers (h : Covers ranges i) (hi : i < xs.length) :
    (erase blank ranges xs)[i]? = some blank := by
  rw [getElem?_erase, List.getElem?_eq_getElem hi, Option.map_some, if_pos h]

theorem erase_nil : erase blank [] xs = xs := by
  apply List.ext_getElem?
  intro i
  exact getElem?_erase_of_not_covers not_covers_nil

/-- Ranges may be erased one after the other. -/
theorem erase_append : erase blank (ranges ++ others) xs =
    erase blank others (erase blank ranges xs) := by
  apply List.ext_getElem?
  intro i
  rw [getElem?_erase, getElem?_erase, getElem?_erase, Option.map_map]
  congr 1
  funext x
  simp only [covers_append, Function.comp_apply]
  by_cases hothers : Covers others i
  · rw [if_pos (.inr hothers), if_pos hothers]
  · simp only [hothers, or_false, if_false]

theorem erase_cons {r : Range} :
    erase blank (r :: ranges) xs = erase blank ranges (erase blank [r] xs) := by
  rw [← erase_append, List.singleton_append]

/-- Steps that erase a range each amount to all of their ranges. -/
theorem foldl_eq_erase {β : Type v} {step : List α → β → List α} {range : β → Range}
    (items : List β) (hstep : ∀ item ∈ items, ∀ ys : List α, ys.length = xs.length →
      step ys item = erase blank [range item] ys) :
    items.foldl step xs = erase blank (items.map range) xs := by
  induction items generalizing xs with
  | nil => exact erase_nil.symm
  | cons item items ih =>
      have hfirst := hstep item List.mem_cons_self xs rfl
      rw [List.foldl_cons, hfirst]
      refine (ih ?_).trans erase_cons.symm
      intro next hnext ys hys
      exact hstep next (List.mem_cons_of_mem item hnext) ys (hys.trans length_erase)

theorem take_erase (n : Nat) :
    (erase blank ranges xs).take n = erase blank ranges (xs.take n) := by
  apply List.ext_getElem?
  intro i
  rw [List.getElem?_take, getElem?_erase, getElem?_erase, List.getElem?_take]
  split
  next => rfl
  next => rfl

/-- Two ways of erasing differ where just one of them erases something that was not blank. -/
theorem erase_eq_erase_iff :
    erase blank ranges xs = erase blank others xs ↔
      ∀ i x, xs[i]? = some x → (Covers ranges i ↔ Covers others i) ∨ x = blank := by
  constructor
  · intro heq i x hx
    have hi := congrArg (·[i]?) heq
    simp only [getElem?_erase, hx, Option.map_some, Option.some.injEq] at hi
    by_cases hranges : Covers ranges i
    · by_cases hothers : Covers others i
      · exact .inl (iff_of_true hranges hothers)
      · rw [if_pos hranges, if_neg hothers] at hi
        exact .inr hi.symm
    · by_cases hothers : Covers others i
      · rw [if_neg hranges, if_pos hothers] at hi
        exact .inr hi
      · exact .inl (iff_of_false hranges hothers)
  · intro h
    apply List.ext_getElem?
    intro i
    rw [getElem?_erase, getElem?_erase]
    cases hx : xs[i]? with
    | none => rfl
    | some x =>
        rw [Option.map_some, Option.map_some]
        rcases h i x hx with hcovers | hblank
        · simp only [hcovers]
        · simp only [hblank, ite_self]

/-- Only where a position is covered by the one and not by the other does it matter that less is
erased. -/
theorem erase_eq_erase_iff_of_covers (hcovers : ∀ i, Covers others i → Covers ranges i) :
    erase blank ranges xs = erase blank others xs ↔
      ∀ i x, xs[i]? = some x → Covers ranges i → ¬Covers others i → x = blank := by
  rw [erase_eq_erase_iff]
  constructor
  · intro h i x hx hranges hothers
    rcases h i x hx with hiff | hblank
    · exact absurd (hiff.mp hranges) hothers
    · exact hblank
  · intro h i x hx
    by_cases hothers : Covers others i
    · exact .inl (iff_of_true (hcovers i hothers) hothers)
    · by_cases hranges : Covers ranges i
      · exact .inr (h i x hx hranges hothers)
      · exact .inl (iff_of_false hranges hothers)

/-- A range is erased where `blank` takes its place. -/
theorem erase_singleton {r : Range} (hstart : r.start ≤ r.stop) (hstop : r.stop ≤ xs.length) :
    erase blank [r] xs =
      xs.take r.start ++ List.replicate (r.stop - r.start) blank ++ xs.drop r.stop := by
  apply List.ext_getElem?
  intro i
  have htake : (xs.take r.start).length = r.start :=
    List.length_take_of_le (Nat.le_trans hstart hstop)
  rw [getElem?_erase]
  simp only [covers_singleton, Range.Contains]
  rcases Nat.lt_or_ge i r.start with hi | hi
  · rw [List.append_assoc, List.getElem?_append_left (htake.symm ▸ hi), List.getElem?_take,
      if_pos hi]
    simp [Nat.not_le.mpr hi]
  · rw [List.append_assoc, List.getElem?_append_right (htake.symm ▸ hi), htake]
    rcases Nat.lt_or_ge i r.stop with hin | hin
    · have hx : i < xs.length := Nat.lt_of_lt_of_le hin hstop
      rw [List.getElem?_append_left (by simp; omega), List.getElem?_replicate,
        if_pos (Nat.sub_lt_sub_right hi hin)]
      simp [hi, hin, hx]
    · rw [List.getElem?_append_right (by simp; omega), List.getElem?_drop, List.length_replicate]
      have hindex : r.stop + (i - r.start - (r.stop - r.start)) = i := by omega
      rw [hindex]
      simp [Nat.not_lt.mpr hin]

end Erase

end Usbipdcpp.Foundation.ErasedRanges
