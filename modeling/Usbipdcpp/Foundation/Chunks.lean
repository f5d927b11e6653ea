import Mathlib.Data.List.Basic

namespace Usbipdcpp.Foundation.Chunks

universe u v

variable {β : Type u} {S : Type v}

/-- What has been gathered when it is enough for the first time, where the chunks ever give
enough.  Nothing is looked at before the first chunk. -/
def enough (needed : Nat) (gathered : List β) : List (List β) → Option (List β)
  | [] => none
  | chunk :: chunks =>
      if needed ≤ (gathered ++ chunk).length then some (gathered ++ chunk)
      else enough needed (gathered ++ chunk) chunks

section Enough

variable {needed : Nat} {gathered data : List β} {chunks before after : List (List β)}

theorem isSome_enough_iff :
    (enough needed gathered chunks).isSome ↔
      chunks ≠ [] ∧ needed ≤ (gathered ++ chunks.flatten).length := by
  induction chunks generalizing gathered with
  | nil => simp [enough]
  | cons chunk chunks ih =>
      rw [enough, List.flatten_cons, ← List.append_assoc]
      split
      next hfull =>
        refine iff_of_true rfl ⟨List.cons_ne_nil chunk chunks, Nat.le_trans hfull ?_⟩
        rw [(gathered ++ chunk).length_append]
        exact Nat.le_add_right _ _
      next hshort =>
        rw [ih]
        constructor
        · rintro ⟨-, hfull⟩
          exact ⟨List.cons_ne_nil chunk chunks, hfull⟩
        · rintro ⟨-, hfull⟩
          refine ⟨?_, hfull⟩
          rintro rfl
          rw [List.flatten_nil, List.append_nil] at hfull
          exact hshort hfull

/-- What is enough is what the chunks up to one of them give. -/
theorem exists_of_enough (h : enough needed gathered chunks = some data) :
    ∃ before after, chunks = before ++ after ∧ before ≠ [] ∧
      data = gathered ++ before.flatten ∧ needed ≤ data.length := by
  induction chunks generalizing gathered with
  | nil => cases h
  | cons chunk chunks ih =>
      rw [enough] at h
      split at h
      next hfull =>
        obtain rfl := Option.some.inj h
        exact ⟨[chunk], chunks, rfl, List.cons_ne_nil chunk [], by simp, hfull⟩
      next hshort =>
        obtain ⟨before, after, rfl, -, rfl, hfull⟩ := ih h
        exact ⟨chunk :: before, after, rfl, List.cons_ne_nil chunk before, by simp, hfull⟩

/-- Where less than all is never enough, nothing but all is. -/
theorem eq_flatten_of_enough (hwhole : ∀ before after, chunks = before ++ after → before ≠ [] →
      needed ≤ before.flatten.length → before.flatten.length = chunks.flatten.length)
    (h : enough needed [] chunks = some data) : data = chunks.flatten := by
  obtain ⟨before, after, rfl, hbefore, rfl, hfull⟩ := exists_of_enough h
  rw [List.nil_append] at hfull ⊢
  have hlength := hwhole before after rfl hbefore hfull
  rw [List.flatten_append, List.length_append] at hlength
  have hafter : after.flatten = [] := List.eq_nil_of_length_eq_zero (by omega)
  rw [List.flatten_append, hafter, List.append_nil]

end Enough

/-- A machine that gathers chunks until it has enough, is done then, and does no more. -/
structure Gathers (step : S → List β → Option S) (needed : Nat)
    (waiting done : List β → S → Prop) : Prop where
  wait : ∀ data s chunk, waiting data s → (data ++ chunk).length < needed →
    ∃ t, step s chunk = some t ∧ waiting (data ++ chunk) t
  finish : ∀ data s chunk, waiting data s → needed ≤ (data ++ chunk).length →
    ∃ t, step s chunk = some t ∧ done (data ++ chunk) t
  stay : ∀ data s chunk, done data s → step s chunk = some s

section Gathers

variable {step : S → List β → Option S} {needed : Nat} {waiting done : List β → S → Prop}
  {gathered data : List β} {s : S}

theorem Gathers.foldlM_of_done (h : Gathers step needed waiting done) (hs : done data s)
    (chunks : List (List β)) : chunks.foldlM step s = some s := by
  induction chunks with
  | nil => rfl
  | cons chunk chunks ih =>
      rw [List.foldlM_cons, h.stay data s chunk hs]
      exact ih

/-- Where a run of such a machine ends. -/
theorem Gathers.foldlM (h : Gathers step needed waiting done) (hs : waiting gathered s)
    (chunks : List (List β)) :
    ∃ t, chunks.foldlM step s = some t ∧
      (∀ data, enough needed gathered chunks = some data → done data t) ∧
      (enough needed gathered chunks = none → waiting (gathered ++ chunks.flatten) t) := by
  induction chunks generalizing s gathered with
  | nil =>
      refine ⟨s, rfl, ?_, fun _ => ?_⟩
      · intro data hdata
        cases hdata
      · rw [List.flatten_nil, List.append_nil]
        exact hs
  | cons chunk chunks ih =>
      rw [enough]
      rcases Nat.lt_or_ge (gathered ++ chunk).length needed with hshort | hfull
      · obtain ⟨u, hu, hwaiting⟩ := h.wait gathered s chunk hs hshort
        obtain ⟨t, ht, hdone, hwait⟩ := ih hwaiting
        rw [if_neg (Nat.not_le.mpr hshort), List.flatten_cons, ← List.append_assoc]
        refine ⟨t, ?_, hdone, hwait⟩
        rw [List.foldlM_cons, hu]
        exact ht
      · obtain ⟨u, hu, hdone⟩ := h.finish gathered s chunk hs hfull
        rw [if_pos hfull]
        refine ⟨u, ?_, ?_, fun hnone => by cases hnone⟩
        · rw [List.foldlM_cons, hu]
          exact h.foldlM_of_done hdone chunks
        · intro data hdata
          obtain rfl := Option.some.inj hdata
          exact hdone

/-- Chunks that are just enough make the machine done with the last of them. -/
theorem Gathers.exact (h : Gathers step needed waiting done) (hs : waiting [] s)
    {before after : List (List β)} (hneeded : (before ++ after).flatten.length = needed) :
    ∃ t, before.foldlM step s = some t ∧
      (before ≠ [] ∧ before.flatten.length = needed → done (before ++ after).flatten t) ∧
      (¬(before ≠ [] ∧ before.flatten.length = needed) → waiting before.flatten t) := by
  obtain ⟨t, ht, hdone, hwait⟩ := h.foldlM hs before
  have hle : before.flatten.length ≤ needed := by
    rw [List.flatten_append, List.length_append] at hneeded
    omega
  have hsome : (enough needed [] before).isSome ↔
      before ≠ [] ∧ before.flatten.length = needed := by
    rw [isSome_enough_iff, List.nil_append]
    exact and_congr_right fun _ => ⟨Nat.le_antisymm hle, fun heq => Nat.le_of_eq heq.symm⟩
  refine ⟨t, ht, ?_, ?_⟩
  · intro hall
    obtain ⟨data, hdata⟩ := Option.isSome_iff_exists.mp (hsome.mpr hall)
    have hafter : after.flatten = [] := by
      rw [List.flatten_append, List.length_append] at hneeded
      exact List.eq_nil_of_length_eq_zero (by omega)
    have hwhole : data = before.flatten := by
      refine eq_flatten_of_enough ?_ hdata
      rintro early late rfl - hfull
      rw [List.flatten_append, List.length_append] at hle ⊢
      omega
    rw [List.flatten_append, hafter, List.append_nil, ← hwhole]
    exact hdone data hdata
  · intro hshort
    apply hwait
    rw [← Option.not_isSome_iff_eq_none, hsome]
    exact hshort

end Gathers

end Usbipdcpp.Foundation.Chunks
