import Mathlib.Data.Nat.Basic
import Mathlib.Tactic.Ring

namespace Usbipdcpp.Foundation.ByteStream

universe u

/-- A reader takes a prefix off a byte stream and yields a value, or fails. -/
def ByteReader (ε : Type) (α : Type u) : Type u :=
  List UInt8 → Except ε (α × List UInt8)

variable {ε : Type} {α β γ : Type}

def ByteReader.pure (a : α) : ByteReader ε α :=
  fun s => .ok (a, s)

def ByteReader.bind (r : ByteReader ε α) (k : α → ByteReader ε β) : ByteReader ε β :=
  fun s =>
    match r s with
    | .error e => .error e
    | .ok (a, rest) => k a rest

instance : Monad (ByteReader ε) where
  pure := ByteReader.pure
  bind := ByteReader.bind

/-- The reader that fails with `e`. -/
def fail (e : ε) : ByteReader ε α :=
  fun _ => .error e

/-- Fail with `e` where `condition` holds. -/
def failIf (condition : Bool) (e : ε) : ByteReader ε Unit :=
  if condition then fail e else .pure ()

/-- Exactly `n` bytes; `eof` where the stream holds fewer. -/
def readBytes (eof : ε) (n : Nat) : ByteReader ε (List UInt8) :=
  fun s => if s.length < n then .error eof else .ok (s.take n, s.drop n)

/-- `n` values, one after the other. -/
def readMany (r : ByteReader ε α) : Nat → ByteReader ε (List α)
  | 0 => .pure []
  | n + 1 => do
      let a ← r
      let as ← readMany r n
      return a :: as

/-- `rest` is what is left of a stream behind its first `n` bytes. -/
def Takes (n : Nat) (s rest : List UInt8) : Prop :=
  ∃ taken, s = taken ++ rest ∧ taken.length = n

/-- Whatever the reader takes off a stream is as long as `size` says of its value. -/
def Consumes (r : ByteReader ε α) (size : α → Nat) : Prop :=
  ∀ s a rest, r s = .ok (a, rest) → Takes (size a) s rest

/-- The reader takes exactly `bytes` off every stream that begins with them, and yields
`a`. -/
def Decodes (r : ByteReader ε α) (bytes : List UInt8) (a : α) : Prop :=
  ∀ rest, r (bytes ++ rest) = .ok (a, rest)

theorem takes_iff_of_suffix {n : Nat} {s rest : List UInt8} (h : rest <:+ s) :
    Takes n s rest ↔ s.length = rest.length + n := by
  obtain ⟨taken, rfl⟩ := h
  constructor
  · rintro ⟨taken', htaken, rfl⟩
    rw [htaken, List.length_append, Nat.add_comm]
  · intro hlength
    refine ⟨taken, rfl, ?_⟩
    rw [List.length_append] at hlength
    omega

theorem suffix_of_takes {n : Nat} {s rest : List UInt8} (h : Takes n s rest) : rest <:+ s := by
  obtain ⟨taken, rfl, -⟩ := h
  exact List.suffix_append taken rest

theorem drop_eq_of_takes {n : Nat} {s rest : List UInt8} (h : Takes n s rest) :
    s.drop n = rest := by
  obtain ⟨taken, rfl, rfl⟩ := h
  exact List.drop_left

theorem takes_add_iff {m n : Nat} {s mid rest : List UInt8} (hmid : Takes m s mid)
    (hrest : rest <:+ mid) : Takes (m + n) s rest ↔ Takes n mid rest := by
  rw [takes_iff_of_suffix (hrest.trans (suffix_of_takes hmid)), takes_iff_of_suffix hrest,
    (takes_iff_of_suffix (suffix_of_takes hmid)).mp hmid]
  omega

theorem bind_eq_ok_iff {r : ByteReader ε α} {k : α → ByteReader ε β} {s rest : List UInt8}
    {b : β} :
    (r >>= k) s = .ok (b, rest) ↔ ∃ a mid, r s = .ok (a, mid) ∧ k a mid = .ok (b, rest) := by
  change ByteReader.bind r k s = _ ↔ _
  unfold ByteReader.bind
  rcases r s with e | ⟨a, mid⟩ <;> simp

theorem bind_of_ok {r : ByteReader ε α} {k : α → ByteReader ε β} {s mid : List UInt8} {a : α}
    (h : r s = .ok (a, mid)) : (r >>= k) s = k a mid := by
  change ByteReader.bind r k s = _
  rw [ByteReader.bind, h]

theorem bind_of_error {r : ByteReader ε α} {k : α → ByteReader ε β} {s : List UInt8} {e : ε}
    (h : r s = .error e) : (r >>= k) s = .error e := by
  change ByteReader.bind r k s = _
  rw [ByteReader.bind, h]

theorem failIf_eq_ok_iff {condition : Bool} {e : ε} {s rest : List UInt8} {a : Unit} :
    failIf condition e s = .ok (a, rest) ↔ condition = false ∧ rest = s := by
  cases condition <;> simp [failIf, fail, ByteReader.pure, eq_comm]

theorem consumes_pure (a : α) : Consumes (pure a : ByteReader ε α) fun _ => 0 := by
  rintro s b rest h
  obtain ⟨rfl, rfl⟩ : a = b ∧ s = rest := by simpa [Pure.pure, ByteReader.pure] using h
  exact ⟨[], rfl, rfl⟩

theorem consumes_bind {r : ByteReader ε α} {k : α → ByteReader ε β} {n : Nat} {size : β → Nat}
    (hr : Consumes r fun _ => n) (hk : ∀ a, Consumes (k a) size) :
    Consumes (r >>= k) fun b => n + size b := by
  intro s b rest h
  obtain ⟨a, mid, ha, hb⟩ := bind_eq_ok_iff.mp h
  obtain ⟨taken, rfl, htaken⟩ := hr s a mid ha
  obtain ⟨taken', rfl, htaken'⟩ := hk a mid b rest hb
  exact ⟨taken ++ taken', by simp, by simp [htaken, htaken']⟩

theorem consumes_of_size_eq {r : ByteReader ε α} {size size' : α → Nat}
    (hr : Consumes r size) (hsize : ∀ a, size a = size' a) : Consumes r size' := by
  intro s a rest h
  obtain ⟨taken, hs, htaken⟩ := hr s a rest h
  exact ⟨taken, hs, htaken.trans (hsize a)⟩

theorem consumes_failIf (condition : Bool) (e : ε) :
    Consumes (failIf condition e) fun _ => 0 := by
  intro s a rest h
  obtain ⟨-, rfl⟩ := failIf_eq_ok_iff.mp h
  exact ⟨[], rfl, rfl⟩

theorem consumes_readBytes (eof : ε) (n : Nat) : Consumes (readBytes eof n) fun _ => n := by
  intro s a rest h
  unfold readBytes at h
  split at h
  · cases h
  · obtain ⟨rfl, rfl⟩ : s.take n = a ∧ s.drop n = rest := by simpa using h
    exact ⟨s.take n, by simp, by simp; omega⟩

theorem length_eq_of_readBytes {eof : ε} {n : Nat} {s rest bytes : List UInt8}
    (h : readBytes eof n s = .ok (bytes, rest)) : bytes.length = n := by
  unfold readBytes at h
  split at h
  · cases h
  · obtain ⟨rfl, -⟩ : s.take n = bytes ∧ s.drop n = rest := by simpa using h
    exact List.length_take_of_le (by omega)

theorem consumes_readMany {r : ByteReader ε α} {n : Nat} (hr : Consumes r fun _ => n)
    (count : Nat) : Consumes (readMany r count) fun _ => count * n := by
  induction count with
  | zero => exact consumes_of_size_eq (consumes_pure []) fun _ => by simp
  | succ count ih =>
      refine consumes_of_size_eq
        (consumes_bind hr fun _ => consumes_bind ih fun _ => consumes_pure _) fun _ => ?_
      ring

theorem length_eq_of_readMany {r : ByteReader ε α} {count : Nat} {s rest : List UInt8}
    {as : List α} (h : readMany r count s = .ok (as, rest)) : as.length = count := by
  induction count generalizing s rest as with
  | zero =>
      obtain ⟨rfl, -⟩ : [] = as ∧ s = rest := by simpa [readMany, ByteReader.pure] using h
      rfl
  | succ count ih =>
      obtain ⟨a, mid, -, hmid⟩ := bind_eq_ok_iff.mp h
      obtain ⟨tail, mid', htail, hrest⟩ := bind_eq_ok_iff.mp hmid
      obtain ⟨rfl, -⟩ : a :: tail = as ∧ mid' = rest := by
        simpa [Pure.pure, ByteReader.pure] using hrest
      simp [ih htail]

theorem decodes_pure (a : α) : Decodes (pure a : ByteReader ε α) [] a :=
  fun _ => rfl

theorem decodes_bind {r : ByteReader ε α} {k : α → ByteReader ε β} {bytes bytes' : List UInt8}
    {a : α} {b : β} (hr : Decodes r bytes a) (hk : Decodes (k a) bytes' b) :
    Decodes (r >>= k) (bytes ++ bytes') b := by
  intro rest
  rw [List.append_assoc]
  exact bind_eq_ok_iff.mpr ⟨a, bytes' ++ rest, hr _, hk rest⟩

theorem decodes_of_bytes_eq {r : ByteReader ε α} {bytes bytes' : List UInt8} {a : α}
    (hbytes : bytes = bytes') (hr : Decodes r bytes a) : Decodes r bytes' a :=
  hbytes ▸ hr

theorem decodes_failIf {condition : Bool} (h : condition = false) (e : ε) :
    Decodes (failIf condition e) [] () := by
  subst h
  exact fun _ => rfl

theorem decodes_readBytes (eof : ε) (bytes : List UInt8) :
    Decodes (readBytes eof bytes.length) bytes bytes := by
  intro rest
  simp [readBytes]

theorem decodes_readMany_of_mem {r : ByteReader ε α} {encode : α → List UInt8} {as : List α}
    (hr : ∀ a ∈ as, Decodes r (encode a) a) :
    Decodes (readMany r as.length) (as.flatMap encode) as := by
  induction as with
  | nil => exact decodes_pure []
  | cons a as ih =>
      have htail : Decodes (readMany r as.length >>= fun tail => pure (a :: tail))
          (as.flatMap encode) (a :: as) := by
        simpa using decodes_bind (k := fun tail => pure (a :: tail))
          (ih fun b hb => hr b (List.mem_cons_of_mem a hb)) (decodes_pure (a :: as))
      exact decodes_bind (k := fun head => readMany r as.length >>= fun tail =>
        pure (head :: tail)) (hr a List.mem_cons_self) htail

theorem decodes_readMany {r : ByteReader ε α} {encode : α → List UInt8}
    (hr : ∀ a, Decodes r (encode a) a) (as : List α) :
    Decodes (readMany r as.length) (as.flatMap encode) as :=
  decodes_readMany_of_mem fun a _ => hr a

/-- The number that bytes denote, most significant byte first. -/
def natOfBytes (bytes : List UInt8) : Nat :=
  bytes.foldl (fun acc byte => 256 * acc + byte.toNat) 0

/-- The `width` bytes that denote a number below `256 ^ width`, most significant byte
first. -/
def bytesOfNat : Nat → Nat → List UInt8
  | 0, _ => []
  | width + 1, n => .ofNat (n / 256 ^ width) :: bytesOfNat width (n % 256 ^ width)

@[simp] theorem length_bytesOfNat (width n : Nat) : (bytesOfNat width n).length = width := by
  induction width generalizing n with
  | zero => rfl
  | succ width ih => simp [bytesOfNat, ih]

theorem foldl_bytesOfNat {width n : Nat} (hn : n < 256 ^ width) (acc : Nat) :
    (bytesOfNat width n).foldl (fun acc byte => 256 * acc + byte.toNat) acc =
      256 ^ width * acc + n := by
  induction width generalizing n acc with
  | zero =>
      obtain rfl : n = 0 := by simpa using hn
      simp [bytesOfNat]
  | succ width ih =>
      have hdigit : n / 256 ^ width < 256 :=
        Nat.div_lt_of_lt_mul (by rwa [Nat.pow_succ] at hn)
      have htail : n % 256 ^ width < 256 ^ width := Nat.mod_lt _ (Nat.pow_pos (by decide))
      rw [bytesOfNat, List.foldl_cons, ih htail, UInt8.toNat_ofNat', Nat.mod_eq_of_lt hdigit]
      calc
        256 ^ width * (256 * acc + n / 256 ^ width) + n % 256 ^ width =
            256 ^ (width + 1) * acc + (256 ^ width * (n / 256 ^ width) + n % 256 ^ width) := by
          ring
        _ = 256 ^ (width + 1) * acc + n := by rw [Nat.div_add_mod]

theorem natOfBytes_bytesOfNat {width n : Nat} (hn : n < 256 ^ width) :
    natOfBytes (bytesOfNat width n) = n := by
  simpa [natOfBytes] using foldl_bytesOfNat hn 0

theorem natOfBytes_bytesOfNat_mod (width n : Nat) :
    natOfBytes (bytesOfNat width n) = n % 256 ^ width := by
  have hlow : bytesOfNat width n = bytesOfNat width (n % 256 ^ width) := by
    cases width with
    | zero => rfl
    | succ width =>
        have hdiv : n % 256 ^ (width + 1) / 256 ^ width = n / 256 ^ width % 256 := by
          rw [Nat.pow_succ, Nat.mod_mul_right_div_self]
        refine congrArg₂ List.cons ?_ ?_
        · refine UInt8.toNat_inj.mp ?_
          rw [UInt8.toNat_ofNat', UInt8.toNat_ofNat', hdiv]
          exact (Nat.mod_mod _ _).symm
        · rw [Nat.pow_succ, Nat.mod_mul_right_mod]
  rw [hlow]
  exact natOfBytes_bytesOfNat (Nat.mod_lt _ (Nat.pow_pos (by decide)))

theorem natOfBytes_cons (byte : UInt8) (bytes : List UInt8) :
    natOfBytes (byte :: bytes) = 256 ^ bytes.length * byte.toNat + natOfBytes bytes := by
  have hfoldl : ∀ (bytes : List UInt8) (acc : Nat),
      bytes.foldl (fun acc byte => 256 * acc + byte.toNat) acc =
        256 ^ bytes.length * acc + natOfBytes bytes := by
    intro bytes
    induction bytes with
    | nil => intro acc; simp [natOfBytes]
    | cons byte bytes ih =>
        intro acc
        rw [natOfBytes, List.foldl_cons, List.foldl_cons, ih, ih (256 * 0 + byte.toNat),
          List.length_cons]
        ring
  rw [natOfBytes, List.foldl_cons, hfoldl]
  simp

theorem natOfBytes_lt (bytes : List UInt8) : natOfBytes bytes < 256 ^ bytes.length := by
  induction bytes with
  | nil => exact Nat.one_pos
  | cons byte bytes ih =>
      have hbyte : byte.toNat + 1 ≤ 256 := byte.toNat_lt
      rw [natOfBytes_cons, List.length_cons]
      calc
        256 ^ bytes.length * byte.toNat + natOfBytes bytes <
            256 ^ bytes.length * (byte.toNat + 1) := by
          rw [Nat.mul_succ]
          exact Nat.add_lt_add_left ih _
        _ ≤ 256 ^ bytes.length * 256 := Nat.mul_le_mul_left _ hbyte
        _ = 256 ^ (bytes.length + 1) := (Nat.pow_succ ..).symm

theorem bytesOfNat_natOfBytes (bytes : List UInt8) :
    bytesOfNat bytes.length (natOfBytes bytes) = bytes := by
  induction bytes with
  | nil => rfl
  | cons byte bytes ih =>
      have hlt := natOfBytes_lt bytes
      have hpos : 0 < 256 ^ bytes.length := Nat.pow_pos (by decide)
      rw [natOfBytes_cons, List.length_cons, bytesOfNat, Nat.mul_add_div hpos,
        Nat.div_eq_of_lt hlt, Nat.mul_add_mod, Nat.mod_eq_of_lt hlt, ih, Nat.add_zero,
        UInt8.ofNat_toNat]

/-- The `width` bytes that denote a number below `256 ^ width`, least significant byte first. -/
def leBytesOfNat (width n : Nat) : List UInt8 :=
  (bytesOfNat width n).reverse

/-- The number that `width` bytes of `data` denote from `offset` on, least significant byte
first. -/
def leField (width offset : Nat) (data : List UInt8) : Nat :=
  natOfBytes ((data.drop offset).take width).reverse

@[simp] theorem length_leBytesOfNat (width n : Nat) : (leBytesOfNat width n).length = width := by
  rw [leBytesOfNat, List.length_reverse, length_bytesOfNat]

/-- A field that is too small for its number holds the low bytes of it. -/
theorem leField_leBytesOfNat_mod (width n : Nat) (rest : List UInt8) :
    leField width 0 (leBytesOfNat width n ++ rest) = n % 256 ^ width := by
  have htake : (leBytesOfNat width n ++ rest).take width = leBytesOfNat width n := by
    simp
  rw [leField, List.drop_zero, htake, leBytesOfNat, List.reverse_reverse,
    natOfBytes_bytesOfNat_mod]

theorem leField_leBytesOfNat {width n : Nat} (hn : n < 256 ^ width) (rest : List UInt8) :
    leField width 0 (leBytesOfNat width n ++ rest) = n := by
  rw [leField_leBytesOfNat_mod, Nat.mod_eq_of_lt hn]

/-- A field behind the bytes of `taken` is a field of what follows them. -/
theorem leField_append_right {width offset : Nat} {taken : List UInt8} (rest : List UInt8)
    (h : taken.length ≤ offset) :
    leField width offset (taken ++ rest) = leField width (offset - taken.length) rest := by
  rw [leField, leField, List.drop_append, List.drop_of_length_le h, List.nil_append]

theorem leField_field {taken rest : List UInt8} {width offset n : Nat}
    (h : taken.length = offset) (hn : n < 256 ^ width) :
    leField width offset (taken ++ (leBytesOfNat width n ++ rest)) = n := by
  rw [← h, leField_append_right _ (Nat.le_refl _), Nat.sub_self]
  exact leField_leBytesOfNat hn rest

/-- The fields of numbers that stand one after the other. -/
theorem leFields_flatMap (width : Nat) (numbers : List Nat) :
    (List.range numbers.length).map (fun i => leField width (width * i)
      (numbers.flatMap (leBytesOfNat width))) = numbers.map (· % 256 ^ width) := by
  induction numbers with
  | nil => rfl
  | cons number numbers ih =>
      have htail (i : Nat) : leField width (width * (i + 1))
          (leBytesOfNat width number ++ numbers.flatMap (leBytesOfNat width)) =
            leField width (width * i) (numbers.flatMap (leBytesOfNat width)) := by
        rw [leField_append_right _ (by rw [length_leBytesOfNat, Nat.mul_succ]; omega),
          length_leBytesOfNat, Nat.mul_succ, Nat.add_sub_cancel]
      rw [List.length_cons, List.range_succ_eq_map, List.map_cons, List.map_map, List.map_cons,
        List.flatMap_cons, Nat.mul_zero, leField_leBytesOfNat_mod, ← ih]
      exact congrArg _ (List.map_congr_left fun i _ => htail i)

/-- A field is told by any start of the data that holds it. -/
theorem leField_take {width offset count : Nat} (h : offset + width ≤ count) (data : List UInt8) :
    leField width offset (data.take count) = leField width offset data := by
  rw [leField, leField, List.drop_take, List.take_take, Nat.min_eq_left (by omega)]

theorem leField_lt (width offset : Nat) (data : List UInt8) :
    leField width offset data < 256 ^ width := by
  refine (natOfBytes_lt _).trans_le (Nat.pow_le_pow_right (by decide) ?_)
  rw [List.length_reverse]
  exact List.length_take_le _ _

/-- The bytes of a field are those it was read from. -/
theorem leBytesOfNat_leField {width offset : Nat} {data : List UInt8}
    (h : offset + width ≤ data.length) :
    leBytesOfNat width (leField width offset data) = (data.drop offset).take width := by
  have hlength : ((data.drop offset).take width).reverse.length = width := by
    rw [List.length_reverse, List.length_take, List.length_drop]
    omega
  have hbytes := bytesOfNat_natOfBytes ((data.drop offset).take width).reverse
  rw [hlength] at hbytes
  rw [leBytesOfNat, leField, hbytes, List.reverse_reverse]

/-- The bytes that the shifts and masks take out of a value. -/
theorem shifts_eq_leBytesOfNat_four (value : UInt32) :
    [(value &&& 0xFF).toUInt8, ((value >>> 8) &&& 0xFF).toUInt8,
      ((value >>> 16) &&& 0xFF).toUInt8, ((value >>> 24) &&& 0xFF).toUInt8] =
      leBytesOfNat 4 value.toNat := by
  have hvalue := value.toNat_lt
  have hbyte (v : UInt32) : (v &&& 0xFF).toUInt8 = .ofNat (v.toNat % 256) := by
    refine UInt8.toNat_inj.mp ?_
    rw [UInt32.toNat_toUInt8, UInt32.toNat_and, UInt8.toNat_ofNat']
    exact congrArg (· % 2 ^ 8) (Nat.and_two_pow_sub_one_eq_mod v.toNat 8)
  have hshift {k : UInt32} {n : Nat} (hk : k.toNat < 32) (hn : 2 ^ k.toNat = n) :
      (value >>> k).toNat = value.toNat / n := by
    rw [UInt32.toNat_shiftRight, Nat.mod_eq_of_lt hk, Nat.shiftRight_eq_div_pow, hn]
  have hbytes : leBytesOfNat 4 value.toNat = [.ofNat (value.toNat % 16777216 % 65536 % 256 / 1),
      .ofNat (value.toNat % 16777216 % 65536 / 256), .ofNat (value.toNat % 16777216 / 65536),
      .ofNat (value.toNat / 16777216)] := rfl
  have hfirst : value.toNat % 16777216 % 65536 % 256 / 1 = value.toNat % 256 := by omega
  have hsecond : value.toNat % 16777216 % 65536 / 256 = value.toNat / 256 % 256 := by omega
  have hthird : value.toNat % 16777216 / 65536 = value.toNat / 65536 % 256 := by omega
  have hfourth : value.toNat / 16777216 = value.toNat / 16777216 % 256 := by omega
  rw [hbyte, hbyte, hbyte, hbyte, hshift (k := 8) (n := 256) (by decide) (by decide),
    hshift (k := 16) (n := 65536) (by decide) (by decide),
    hshift (k := 24) (n := 16777216) (by decide) (by decide), ← hsecond, ← hthird, ← hfourth,
    ← hfirst, hbytes]

theorem shifts_eq_leBytesOfNat_two (value : UInt16) :
    [(value &&& 0xFF).toUInt8, ((value >>> 8) &&& 0xFF).toUInt8] =
      leBytesOfNat 2 value.toNat := by
  have hvalue := value.toNat_lt
  have hbyte (v : UInt16) : (v &&& 0xFF).toUInt8 = .ofNat (v.toNat % 256) := by
    refine UInt8.toNat_inj.mp ?_
    rw [UInt16.toNat_toUInt8, UInt16.toNat_and, UInt8.toNat_ofNat']
    exact congrArg (· % 2 ^ 8) (Nat.and_two_pow_sub_one_eq_mod v.toNat 8)
  have hshift : (value >>> 8).toNat = value.toNat / 256 :=
    (UInt16.toNat_shiftRight value 8).trans (Nat.shiftRight_eq_div_pow value.toNat 8)
  have hbytes : leBytesOfNat 2 value.toNat = [.ofNat (value.toNat % 256 / 1),
      .ofNat (value.toNat / 256)] := rfl
  have hfirst : value.toNat % 256 / 1 = value.toNat % 256 := Nat.div_one _
  have hsecond : value.toNat / 256 = value.toNat / 256 % 256 := by omega
  rw [hbyte, hbyte, hshift, ← hsecond, ← hfirst, hbytes]

end Usbipdcpp.Foundation.ByteStream
