import Mathlib.Data.Fin.Tuple.Basic
import Mathlib.Tactic.Ring

namespace Usbipdcpp.Foundation.FirstMatch

variable {α β κ : Type}

/-- The list with its first element for which `f` succeeds replaced, and `none` where it
succeeds for no element. -/
def updateFirst (f : α → Option α) : List α → Option (List α)
  | [] => none
  | a :: l =>
      match f a with
      | some a' => some (a' :: l)
      | none => (updateFirst f l).map (a :: ·)

/-- The first element that satisfies `p`, with those before and behind it. -/
theorem split_of_findIdx? {γ : Type*} {p : γ → Bool} {l : List γ} {i : Nat}
    (h : l.findIdx? p = some i) :
    ∃ before a after, l = before ++ a :: after ∧ p a = true ∧ (∀ b ∈ before, p b = false) ∧
      (∀ b, l.set i b = before ++ b :: after) ∧ ∀ f, l.modify i f = before ++ f a :: after := by
  obtain ⟨hi, hfound, hbefore⟩ := List.findIdx?_eq_some_iff_getElem.mp h
  have hsplit : l = l.take i ++ l[i] :: l.drop (i + 1) := by
    rw [List.getElem_cons_drop, List.take_append_drop]
  refine ⟨l.take i, l[i], l.drop (i + 1), hsplit, hfound, fun b hb => ?_, fun b => ?_, fun f => ?_⟩
  · obtain ⟨j, hj, rfl⟩ := List.mem_take_iff_getElem.mp hb
    exact Bool.eq_false_iff.mpr (hbefore j (lt_of_lt_of_le hj (Nat.min_le_left _ _)))
  · rw [List.set_eq_take_append_cons_drop, if_pos hi]
  · exact List.modify_eq_take_cons_drop hi

/-- The list without its first element that satisfies `p`. -/
def eraseFirst (p : α → Bool) (l : List α) : Option (List α) :=
  if l.any p then some (l.eraseP p) else none

/-- The same on the values of a keyed list. -/
def updateFirstValue (f : α → Option α) : List (κ × α) → Option (List (κ × α)) :=
  updateFirst fun entry => (f entry.2).map (entry.1, ·)

/-- `f` on the first component, and `g` on the second where `f` fails. -/
def updateEither (f : α → Option α) (g : β → Option β) (ab : α × β) : Option (α × β) :=
  match f ab.1 with
  | some a => some (a, ab.2)
  | none => (g ab.2).map (ab.1, ·)

/-- A successful `f` takes one away from the weight. -/
def Decrements (f : α → Option α) (weight : α → Nat) : Prop :=
  ∀ a a', f a = some a' → weight a' + 1 = weight a

theorem decrements_updateFirst {f : α → Option α} {weight : α → Nat} (hf : Decrements f weight) :
    Decrements (updateFirst f) fun l => (l.map weight).sum := by
  intro l
  induction l with
  | nil =>
      intro l' h
      cases h
  | cons a l ih =>
      intro l' h
      unfold updateFirst at h
      split at h
      next a' ha =>
        cases h
        have hweight := hf a a' ha
        simp only [List.map_cons, List.sum_cons]
        omega
      next =>
        obtain ⟨l'', hl'', rfl⟩ := Option.map_eq_some_iff.mp h
        have hsum : (l''.map weight).sum + 1 = (l.map weight).sum := ih l'' hl''
        simp only [List.map_cons, List.sum_cons]
        omega

/-- A part of a larger state is replaced, and the weight of the whole is that of the part. -/
theorem weight_of_map_eq_some {f : α → Option α} {weight : α → Nat} {weight' : β → Nat}
    {build : α → β} {a : α} {b : β} (hf : Decrements f weight) (h : (f a).map build = some b)
    (hbuild : ∀ a, weight' (build a) = weight a) : weight' b + 1 = weight' (build a) := by
  obtain ⟨a', ha, rfl⟩ := Option.map_eq_some_iff.mp h
  rw [hbuild, hbuild]
  exact hf a a' ha

theorem decrements_updateFirstValue {f : α → Option α} {weight : α → Nat}
    (hf : Decrements f weight) :
    Decrements (updateFirstValue (κ := κ) f) fun l =>
      (l.map fun entry => weight entry.2).sum := by
  refine decrements_updateFirst fun entry entry' h => ?_
  obtain ⟨a, ha, rfl⟩ := Option.map_eq_some_iff.mp h
  exact hf entry.2 a ha

theorem decrements_updateEither {f : α → Option α} {g : β → Option β} {weight : α → Nat}
    {weight' : β → Nat} (hf : Decrements f weight) (hg : Decrements g weight') :
    Decrements (updateEither f g) fun ab => weight ab.1 + weight' ab.2 := by
  intro ab ab' h
  unfold updateEither at h
  split at h
  next a ha =>
    cases h
    have hweight := hf ab.1 a ha
    dsimp only
    omega
  next =>
    obtain ⟨b, hb, rfl⟩ := Option.map_eq_some_iff.mp h
    have hweight := hg ab.2 b hb
    dsimp only
    omega

theorem decrements_eraseFirst (p : α → Bool) : Decrements (eraseFirst p) (List.countP p) := by
  intro l l' h
  unfold eraseFirst at h
  split at h
  next hany =>
    cases h
    obtain ⟨a, hmem, ha⟩ := List.any_eq_true.mp hany
    obtain ⟨b, before, after, -, hb, hl, herased⟩ := List.exists_of_eraseP hmem ha
    rw [herased, hl]
    simp only [List.countP_append, List.countP_cons, hb, if_true]
    omega
  next => cases h

section LowerBound

variable {γ : Type*} [LinearOrder γ] {n : Nat} {f : Fin n → γ}

/-- The first index whose value is not less, which a binary search finds where the values ascend. -/
def lowerBound (f : Fin n → γ) (c : γ) : Option (Fin n) :=
  Fin.find? fun i => !decide (f i < c)

theorem lowerBound_self (h : StrictMono f) (i : Fin n) : lowerBound f (f i) = some i := by
  refine Fin.find?_eq_some_iff.mpr ⟨by simp, fun j hj => ?_⟩
  simp [h hj]

end LowerBound

end Usbipdcpp.Foundation.FirstMatch
