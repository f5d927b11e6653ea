import Mathlib.Algebra.Group.Nat.Defs
import Mathlib.Tactic.Push

namespace Usbipdcpp.Utils

/-- Whether `a` is newer than `b`, for sequence numbers that wrap around. -/
def seqnumNewer (a b : UInt32) : Bool := 0 < (a - b).toBitVec.toInt

/-- Newer is what is ahead by less than half of the circle. -/
theorem seqnumNewer_iff (a b : UInt32) :
    seqnumNewer a b = true ↔ 0 < (a - b).toNat ∧ (a - b).toNat < 2 ^ 31 := by
  rw [seqnumNewer, decide_eq_true_eq, BitVec.toInt_eq_toNat_cond, UInt32.toNat_toBitVec]
  have hlt := (a - b).toNat_lt
  split
  · omega
  · omega

theorem toNat_sub_swap {a b : UInt32} (h : 0 < (a - b).toNat) :
    (b - a).toNat = 2 ^ 32 - (a - b).toNat := by
  have ha := a.toNat_lt
  have hb := b.toNat_lt
  rw [UInt32.toNat_sub] at h ⊢
  rw [UInt32.toNat_sub]
  omega

/-- Of two sequence numbers only one is newer than the other. -/
theorem not_seqnumNewer_swap {a b : UInt32} (h : seqnumNewer a b = true) :
    seqnumNewer b a = false := by
  obtain ⟨hpos, hlt⟩ := (seqnumNewer_iff a b).mp h
  rw [← Bool.not_eq_true, seqnumNewer_iff, toNat_sub_swap hpos]
  omega

end Usbipdcpp.Utils
