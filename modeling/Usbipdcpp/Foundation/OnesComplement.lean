import Mathlib.Data.List.Basic
import Mathlib.Tactic.Ring

namespace Usbipdcpp.Foundation.OnesComplement

/-- The words of two bytes that a byte string is made of, the high byte first; a last byte alone is
a high one. -/
def words : List UInt8 → List Nat
  | high :: low :: rest => (256 * high.toNat + low.toNat) :: words rest
  | [high] => [256 * high.toNat]
  | [] => []

/-- The sum of two words, with the carry brought round to its end. -/
def add (a b : Nat) : Nat :=
  if a + b < 65536 then a + b else a + b - 65535

def endAroundSum (terms : List Nat) : Nat :=
  terms.foldl add 0

/-- The word that a number stands for when its carries are brought round: the residue modulo 65535,
which is 65535 rather than 0 for all but 0 itself. -/
def fold (n : Nat) : Nat :=
  if n = 0 then 0 else (n - 1) % 65535 + 1

theorem fold_of_pos {n : Nat} (h : 0 < n) : fold n = (n - 1) % 65535 + 1 :=
  if_neg (Nat.pos_iff_ne_zero.mp h)

theorem fold_of_lt {n : Nat} (h : n < 65536) : fold n = n := by
  unfold fold
  split <;> omega

theorem fold_le (n : Nat) : fold n ≤ 65535 := by
  unfold fold
  split <;> omega

/-- Carries may be brought round at any time. -/
theorem fold_carry (n : Nat) : fold (n % 65536 + n / 65536) = fold n := by
  unfold fold
  by_cases hzero : n = 0
  · subst hzero
    rfl
  · have hsome : n % 65536 + n / 65536 ≠ 0 := by omega
    rw [if_neg hsome, if_neg hzero]
    omega

theorem add_fold {m w : Nat} (hw : w < 65536) : add (fold m) w = fold (m + w) := by
  rcases Nat.eq_zero_or_pos m with hzero | hpos
  · rw [hzero, Nat.zero_add, fold_of_lt hw, fold_of_lt (Nat.succ_pos _), add, Nat.zero_add,
      if_pos hw]
  · have hless : (m - 1) % 65535 < 65535 := Nat.mod_lt _ (by decide)
    have hsum : (m + w - 1) % 65535 = ((m - 1) % 65535 + w) % 65535 := by
      rw [Nat.mod_add_mod, ← Nat.sub_add_comm hpos]
    rw [fold_of_pos hpos, fold_of_pos (Nat.add_pos_left hpos w), hsum, add]
    generalize (m - 1) % 65535 = residue at hless ⊢
    split <;> omega

/-- The complement of a word brings the sum to all ones. -/
theorem fold_complement (n : Nat) : fold (n + (65535 - fold n)) = 65535 := by
  unfold fold
  split <;> split <;> omega

theorem endAroundSum_eq_fold {terms : List Nat} (h : ∀ w ∈ terms, w < 65536) :
    endAroundSum terms = fold terms.sum := by
  have hfold (m : Nat) : terms.foldl add (fold m) = fold (m + terms.sum) := by
    induction terms generalizing m with
    | nil => rfl
    | cons w terms ih =>
        obtain ⟨hw, hterms⟩ := List.forall_mem_cons.mp h
        rw [List.foldl_cons, add_fold hw, ih hterms, List.sum_cons, Nat.add_assoc]
  have hterms := hfold 0
  rwa [Nat.zero_add] at hterms

theorem words_lt (bytes : List UInt8) : ∀ w ∈ words bytes, w < 65536 := by
  fun_induction words bytes with
  | case1 high low rest ih =>
      have hhigh := high.toNat_lt
      have hlow := low.toNat_lt
      exact List.forall_mem_cons.mpr ⟨by omega, ih⟩
  | case2 high =>
      have hhigh := high.toNat_lt
      exact List.forall_mem_singleton.mpr (by omega)
  | case3 => exact nofun

/-- A string that is cut between two words has the words of its parts. -/
theorem words_append (front back : List UInt8) (h : 2 ∣ front.length) :
    words (front ++ back) = words front ++ words back := by
  fun_induction words front with
  | case1 high low rest ih =>
      have hrest : 2 ∣ rest.length := by simpa [Nat.dvd_add_left] using h
      rw [List.cons_append, List.cons_append, words, ih hrest]
      rfl
  | case2 high => exact absurd h (by decide : ¬2 ∣ 1)
  | case3 => rfl

theorem sum_words_le (bytes : List UInt8) :
    (words bytes).sum ≤ 65535 * ((bytes.length + 1) / 2) := by
  fun_induction words bytes with
  | case1 high low rest ih =>
      have hhigh := high.toNat_lt
      have hlow := low.toNat_lt
      rw [List.sum_cons, List.length_cons, List.length_cons]
      omega
  | case2 high =>
      have hhigh := high.toNat_lt
      simp only [List.sum_singleton, List.length_singleton]
      omega
  | case3 => exact Nat.zero_le _

/-- A string whose checksum field holds the complement of the sum of all else sums to all ones. -/
theorem endAroundSum_of_complement {terms : List Nat} {before after : List Nat} {field : Nat}
    (hterms : terms = before ++ field :: after) (hwords : ∀ w ∈ terms, w < 65536)
    (hfield : field = 65535 - fold (before ++ 0 :: after).sum) :
    endAroundSum terms = 65535 := by
  have hsum : terms.sum = (before ++ 0 :: after).sum + field := by
    rw [hterms]
    simp only [List.sum_append, List.sum_cons]
    omega
  rw [endAroundSum_eq_fold hwords, hsum, hfield]
  exact fold_complement _

end Usbipdcpp.Foundation.OnesComplement
