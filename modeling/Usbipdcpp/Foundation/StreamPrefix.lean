import Usbipdcpp.Foundation.ByteStream

namespace Usbipdcpp.Foundation.ByteStream

variable {ε : Type} {α β : Type}

/-- What follows a value in the stream does not change it. -/
def Extends (r : ByteReader ε α) : Prop :=
  ∀ s a rest more, r s = .ok (a, rest) → r (s ++ more) = .ok (a, rest ++ more)

/-- A stream that holds nothing yields no value. -/
def Needs (r : ByteReader ε α) : Prop :=
  ∀ a rest, r [] ≠ .ok (a, rest)

theorem extends_pure (a : α) : Extends (pure a : ByteReader ε α) := by
  rintro s b rest more h
  obtain ⟨rfl, rfl⟩ : a = b ∧ s = rest := by simpa [Pure.pure, ByteReader.pure] using h
  rfl

theorem extends_fail (e : ε) : Extends (fail e : ByteReader ε α) :=
  fun _ _ _ _ h => by cases h

theorem extends_readBytes (eof : ε) (n : Nat) : Extends (readBytes eof n) := by
  intro s a rest more h
  unfold readBytes at h
  split at h
  next => cases h
  next hlength =>
    obtain ⟨rfl, rfl⟩ : s.take n = a ∧ s.drop n = rest := by simpa using h
    have hle : n ≤ s.length := Nat.le_of_not_lt hlength
    rw [readBytes, if_neg (by rw [List.length_append]; omega),
      List.take_append_of_le_length hle, List.drop_append_of_le_length hle]

theorem extends_bind {r : ByteReader ε α} {k : α → ByteReader ε β} (hr : Extends r)
    (hk : ∀ a, Extends (k a)) : Extends (r >>= k) := by
  intro s b rest more h
  obtain ⟨a, mid, ha, hb⟩ := bind_eq_ok_iff.mp h
  exact bind_eq_ok_iff.mpr ⟨a, mid ++ more, hr s a mid more ha, hk a mid b rest more hb⟩

theorem extends_readMany {r : ByteReader ε α} (hr : Extends r) (count : Nat) :
    Extends (readMany r count) := by
  induction count with
  | zero => exact extends_pure []
  | succ count ih => exact extends_bind hr fun _ => extends_bind ih fun _ => extends_pure _

theorem needs_readBytes (eof : ε) {n : Nat} (hn : 0 < n) : Needs (readBytes eof n) := by
  intro a rest h
  rw [readBytes, if_pos (show ([] : List UInt8).length < n from hn)] at h
  cases h

theorem needs_bind {r : ByteReader ε α} {k : α → ByteReader ε β} (hr : Needs r) :
    Needs (r >>= k) := by
  intro b rest h
  obtain ⟨a, mid, ha, -⟩ := bind_eq_ok_iff.mp h
  exact hr a mid ha

/-- Of the bytes of a value none can be missing. -/
theorem eq_of_prefix {r : ByteReader ε α} {bytes s rest : List UInt8} {a b : α}
    (hext : Extends r) (hr : Decodes r bytes a) (hs : s <+: bytes) (h : r s = .ok (b, rest)) :
    b = a ∧ rest = [] ∧ s = bytes := by
  obtain ⟨missing, rfl⟩ := hs
  have hwhole := hext s b rest missing h
  have hbytes := hr []
  rw [List.append_nil, hwhole] at hbytes
  obtain ⟨hvalue, hnil⟩ := Prod.mk.inj (Except.ok.inj hbytes)
  obtain ⟨hrest, rfl⟩ := List.append_eq_nil_iff.mp hnil
  exact ⟨hvalue, hrest, (List.append_nil s).symm⟩

theorem not_ok_of_cut {r : ByteReader ε α} {bytes s : List UInt8} {a : α} (hext : Extends r)
    (hr : Decodes r bytes a) (hs : s <+: bytes) (hcut : s.length < bytes.length) (b : α)
    (rest : List UInt8) : r s ≠ .ok (b, rest) := by
  intro h
  obtain ⟨-, -, rfl⟩ := eq_of_prefix hext hr hs h
  exact Nat.lt_irrefl _ hcut

/-- The values that a stream holds, one after the other as long as a whole one is left, and what
is left of it; at most `fuel` of them. -/
def drain (r : ByteReader ε α) : Nat → List UInt8 → List α × List UInt8
  | 0, s => ([], s)
  | fuel + 1, s =>
      match r s with
      | .error _ => ([], s)
      | .ok (a, rest) => (a :: (drain r fuel rest).1, (drain r fuel rest).2)

theorem drain_of_not_ok {r : ByteReader ε α} {s : List UInt8}
    (h : ∀ a rest, r s ≠ .ok (a, rest)) (fuel : Nat) : drain r fuel s = ([], s) := by
  cases fuel with
  | zero => rfl
  | succ fuel =>
      rw [drain]
      rcases hs : r s with e | ⟨a, rest⟩
      · rfl
      · exact absurd hs (h a rest)

theorem drain_of_ok {r : ByteReader ε α} {s rest : List UInt8} {a : α}
    (h : r s = .ok (a, rest)) (fuel : Nat) :
    drain r (fuel + 1) s = (a :: (drain r fuel rest).1, (drain r fuel rest).2) := by
  rw [drain, h]

/-- A stream of values that is cut anywhere is read as the values before the cut, and what is
left is the part of the next one that lies before the cut. -/
theorem drain_of_prefix {r : ByteReader ε α} {encode : β → List UInt8} {R : β → α → Prop}
    (hext : Extends r) (hneeds : Needs r) {bs : List β}
    (hr : ∀ b ∈ bs, ∃ a, Decodes r (encode b) a ∧ R b a) {s : List UInt8}
    (hs : s <+: bs.flatMap encode) {fuel : Nat} (hfuel : s.length ≤ fuel) :
    ∃ whole, whole <+: bs ∧ s = whole.flatMap encode ++ (drain r fuel s).2 ∧
      List.Forall₂ R whole (drain r fuel s).1 ∧
      ∀ b, whole ++ [b] <+: bs → (drain r fuel s).2.length < (encode b).length := by
  induction bs generalizing s fuel with
  | nil =>
      obtain rfl : s = [] := List.prefix_nil.mp hs
      rw [drain_of_not_ok hneeds]
      exact ⟨[], List.prefix_rfl, rfl, .nil, fun b hb => by simp at hb⟩
  | cons b bs ih =>
      obtain ⟨a, hdecodes, hview⟩ := hr b List.mem_cons_self
      rw [List.flatMap_cons] at hs
      rcases Nat.lt_or_ge s.length (encode b).length with hcut | hlength
      · have hprefix : s <+: encode b :=
          List.prefix_of_prefix_length_le hs (List.prefix_append _ _) hcut.le
        rw [drain_of_not_ok (not_ok_of_cut hext hdecodes hprefix hcut)]
        refine ⟨[], List.nil_prefix, rfl, .nil, fun b' hb' => ?_⟩
        obtain rfl : b' = b := by simpa using List.cons_prefix_cons.mp hb'
        exact hcut
      · obtain ⟨s', rfl⟩ := List.prefix_of_prefix_length_le (List.prefix_append _ _) hs hlength
        have hne : encode b ≠ [] := by
          intro hnil
          have hread := hdecodes []
          rw [hnil, List.append_nil] at hread
          exact hneeds a [] hread
        have hpos := List.length_pos_iff.mpr hne
        obtain ⟨fuel, rfl⟩ : ∃ n, fuel = n + 1 :=
          Nat.exists_eq_add_one.mpr (by rw [List.length_append] at hfuel; omega)
        have hshorter : s'.length ≤ fuel := by
          rw [List.length_append] at hfuel
          omega
        obtain ⟨whole, hwhole, hsplit, hviews, hnext⟩ :=
          ih (fun b' hb' => hr b' (List.mem_cons_of_mem b hb'))
            ((List.prefix_append_right_inj _).mp hs) hshorter
        rw [drain_of_ok (hdecodes s')]
        refine ⟨b :: whole, List.cons_prefix_cons.mpr ⟨rfl, hwhole⟩, ?_, .cons hview hviews,
          fun b' hb' => hnext b' (List.cons_prefix_cons.mp hb').2⟩
        rw [List.flatMap_cons, List.append_assoc, ← hsplit]

end Usbipdcpp.Foundation.ByteStream
