import Mathlib.Data.Int.ModEq
import Mathlib.Tactic.Ring
import Usbipdcpp.VirtualDevice.ControlData
import Usbipdcpp.VirtualDevice.IsochronousReplies

namespace Usbipdcpp.VirtualDevice

open Foundation Protocol

/-- A sample of two bytes, the low one first. -/
def pcmSample (low high : UInt8) : Int16 :=
  (low.toUInt16 ||| high.toUInt16 <<< 8).toInt16

/-- What `fill_pcm` makes of a sample; the product is one of unsigned numbers. -/
def scaleSample (scale : UInt32) (sample : Int16) : Int16 :=
  ((sample.toInt32.toUInt32 * scale) >>> 16).toUInt16.toInt16

/-- A sample times a volume that counts 65536 as one. -/
def q16 (scale : UInt32) (sample : Int16) : Int16 :=
  .ofInt (sample.toInt * scale.toNat / 65536)

/-- The wrapping product has the bits that are kept of it right. -/
theorem scaleSample_eq_q16 (scale : UInt32) (sample : Int16) :
    scaleSample scale sample = q16 scale sample := by
  have hsample : (sample.toInt32.toUInt32.toNat : Int) = sample.toInt % 4294967296 := by
    rw [← UInt32.toNat_toBitVec]
    change ((sample.toBitVec.signExtend 32).toNat : Int) = sample.toBitVec.toInt % 4294967296
    rw [BitVec.signExtend, BitVec.toNat_ofInt]
    omega
  have hbits : ((sample.toInt32.toUInt32 * scale) >>> 16).toNat =
      sample.toInt32.toUInt32.toNat * scale.toNat % 4294967296 / 65536 := by
    rw [UInt32.toNat_shiftRight, UInt32.toNat_mul, Nat.shiftRight_eq_div_pow]
    rfl
  have hproduct : ((sample.toInt32.toUInt32.toNat * scale.toNat : Nat) : Int) % 4294967296 =
      sample.toInt * scale.toNat % 4294967296 := by
    rw [Nat.cast_mul, hsample]
    exact (Int.mod_modEq sample.toInt 4294967296).mul_right _
  apply Int16.toBitVec_inj.mp
  apply BitVec.eq_of_toNat_eq
  change ((sample.toInt32.toUInt32 * scale) >>> 16).toNat % 65536 = (BitVec.ofInt 16 _).toNat
  rw [hbits, BitVec.toNat_ofInt]
  omega

theorem q16_unity (sample : Int16) : q16 65536 sample = sample := by
  have hunity : sample.toInt * ((65536 : UInt32).toNat : Int) / 65536 = sample.toInt :=
    Int.mul_ediv_cancel _ (by decide)
  rw [q16, hunity, Int16.ofInt_toInt]

theorem q16_zero (sample : Int16) : q16 0 sample = 0 := by
  simp [q16]

theorem int16Bytes_pcmSample (low high : UInt8) :
    int16Bytes (pcmSample low high) = [low, high] := by
  have hlow := low.toNat_lt
  have hhigh := high.toNat_lt
  have hshift : high.toNat <<< ((8 : UInt16).toNat % 16) % 2 ^ 16 = high.toNat <<< 8 := by
    refine Nat.mod_eq_of_lt ?_
    rw [Nat.shiftLeft_eq]
    exact Nat.mul_lt_mul_of_pos_right hhigh (by decide)
  have hvalue : (low.toUInt16 ||| high.toUInt16 <<< 8).toNat = high.toNat * 256 + low.toNat := by
    rw [UInt16.toNat_or, UInt16.toNat_shiftLeft, UInt8.toNat_toUInt16, UInt8.toNat_toUInt16,
      hshift, Nat.or_comm, ← Nat.shiftLeft_add_eq_or_of_lt hlow, Nat.shiftLeft_eq]
  have hhighByte : UInt8.ofNat ((high.toNat * 256 + low.toNat) / 256 ^ 1) = high := by
    rw [show (high.toNat * 256 + low.toNat) / 256 ^ 1 = high.toNat by omega, UInt8.ofNat_toNat]
  have hlowByte : UInt8.ofNat ((high.toNat * 256 + low.toNat) % 256 ^ 1 / 256 ^ 0) = low := by
    rw [show (high.toNat * 256 + low.toNat) % 256 ^ 1 / 256 ^ 0 = low.toNat by omega,
      UInt8.ofNat_toNat]
  unfold int16Bytes pcmSample u16leToBytes
  rw [show (low.toUInt16 ||| high.toUInt16 <<< 8).toInt16.toUInt16 =
    low.toUInt16 ||| high.toUInt16 <<< 8 from rfl, hvalue, ByteStream.bytesOfNat,
    ByteStream.bytesOfNat, hhighByte, hlowByte]
  rfl

/-- A byte of a packet; `none` is one that nothing has been written to yet. -/
abbrev Cell : Type := Option UInt8

/-- The loop over the samples of a piece, which leaves a byte at an odd end alone. -/
def scaleCells (scale : UInt32) : List Cell → List UInt8 → List Cell
  | _ :: _ :: dst, low :: high :: src =>
      (int16Bytes (scaleSample scale (pcmSample low high))).map some ++ scaleCells scale dst src
  | dst, _ => dst

/-- A piece of a chunk, written behind what `dst` points at. -/
def writePiece (scale : UInt32) (dst : List Cell) (src : List UInt8) : List Cell :=
  if scale = 65536 then src.map some
  else if scale = 0 then .replicate src.length (some 0)
  else scaleCells scale dst src

/-- The chunk that is being read, and those that the source is going to yield. -/
structure PcmReader where
  chunk : List UInt8
  chunkOffset : Nat
  chunks : List (List UInt8)
  deriving DecidableEq, Repr

namespace PcmReader

/-- The loop of `fill_pcm`: a piece of the current chunk, then the next chunk; silence once the
source has no more. -/
def pull (scale : UInt32) :
    List (List UInt8) → List UInt8 → Nat → List Cell → List Cell × PcmReader
  | chunks, chunk, chunkOffset, dst =>
      let take := min dst.length (chunk.length - chunkOffset)
      let written := writePiece scale (dst.take take) ((chunk.drop chunkOffset).take take)
      if dst.length ≤ take then (written, ⟨chunk, chunkOffset + take, chunks⟩)
      else
        match chunks with
        | [] => (written ++ .replicate (dst.length - take) (some 0),
            ⟨chunk, chunkOffset + take, []⟩)
        | next :: chunks =>
            let (more, reader) := pull scale chunks next 0 (dst.drop take)
            (written ++ more, reader)

def fillPcm (muted : Bool) (scale : UInt32) (dst : List Cell) (reader : PcmReader) :
    List Cell × PcmReader :=
  if muted then (.replicate dst.length (some 0), reader)
  else pull scale reader.chunks reader.chunk reader.chunkOffset dst

/-- What is filled by one request after the other, none of them for bytes written before. -/
def requests (scale : UInt32) : List Nat → PcmReader → List Cell × PcmReader
  | [], reader => ([], reader)
  | n :: sizes, reader =>
      let (pcm, reader) := reader.fillPcm false scale (.replicate n none)
      let (more, reader) := requests scale sizes reader
      (pcm ++ more, reader)

/-- The rest of the current chunk and the chunks behind it. -/
def pieces (reader : PcmReader) : List (List UInt8) :=
  reader.chunk.drop reader.chunkOffset :: reader.chunks

def stream (reader : PcmReader) : List UInt8 :=
  reader.pieces.flatten

end PcmReader

/-- The stream with each of its samples scaled; a byte left over at its end is the low one of a
sample. -/
def scaledStream (scale : UInt32) : List UInt8 → List UInt8
  | low :: high :: rest => int16Bytes (q16 scale (pcmSample low high)) ++ scaledStream scale rest
  | [low] => (int16Bytes (q16 scale (pcmSample low 0))).take 1
  | [] => []

/-- As many bytes hold whole samples, as far as the volume regards samples at all. -/
def WholeSamples (scale : UInt32) (n : Nat) : Prop :=
  scale = 65536 ∨ scale = 0 ∨ 2 ∣ n

/-- The chunks that end before the `n`-th byte hold whole samples. -/
def ChunksWhole (scale : UInt32) : Nat → List (List UInt8) → Prop
  | n, chunk :: chunks =>
      chunk.length < n → WholeSamples scale chunk.length ∧
        ChunksWhole scale (n - chunk.length) chunks
  | _, [] => True

section Scaling

variable {scale : UInt32}

theorem chunksWhole_cons {n : Nat} {chunk : List UInt8} {chunks : List (List UInt8)} :
    ChunksWhole scale n (chunk :: chunks) ↔
      (chunk.length < n → WholeSamples scale chunk.length ∧
        ChunksWhole scale (n - chunk.length) chunks) :=
  Iff.rfl

theorem wholeSamples_add_iff {m n : Nat} (hm : WholeSamples scale m) :
    WholeSamples scale (m + n) ↔ WholeSamples scale n := by
  rcases hm with hunity | hzero | heven
  · exact iff_of_true (.inl hunity) (.inl hunity)
  · exact iff_of_true (.inr (.inl hzero)) (.inr (.inl hzero))
  · exact or_congr_right (or_congr_right (Nat.dvd_add_right heven))

theorem scaledStream_unity (bytes : List UInt8) : scaledStream 65536 bytes = bytes := by
  fun_induction scaledStream 65536 bytes with
  | case1 low high rest ih =>
      rw [q16_unity, int16Bytes_pcmSample, ih]
      rfl
  | case2 low =>
      rw [q16_unity, int16Bytes_pcmSample]
      rfl
  | case3 => rfl

theorem scaledStream_zero (bytes : List UInt8) :
    scaledStream 0 bytes = .replicate bytes.length 0 := by
  fun_induction scaledStream 0 bytes with
  | case1 low high rest ih =>
      rw [q16_zero, ih]
      rfl
  | case2 low =>
      rw [q16_zero]
      rfl
  | case3 => rfl

@[simp] theorem length_scaledStream (bytes : List UInt8) :
    (scaledStream scale bytes).length = bytes.length := by
  fun_induction scaledStream scale bytes with
  | case1 low high rest ih => simp [int16Bytes, ih]; omega
  | case2 low => simp [int16Bytes]
  | case3 => rfl

/-- A stream that is cut behind whole samples is scaled piece by piece. -/
theorem scaledStream_append (before after : List UInt8) (h : WholeSamples scale before.length) :
    scaledStream scale (before ++ after) =
      scaledStream scale before ++ scaledStream scale after := by
  rcases h with rfl | rfl | heven
  · simp only [scaledStream_unity]
  · simp only [scaledStream_zero, List.length_append,
      List.replicate_append_replicate]
  · fun_induction scaledStream scale before with
    | case1 low high rest ih =>
        have hrest : 2 ∣ rest.length := by simpa [Nat.dvd_add_left] using heven
        rw [List.append_assoc, ← ih hrest]
        rfl
    | case2 low => exact absurd heven (by decide : ¬2 ∣ 1)
    | case3 => rfl

/-- Samples that end with a request are scaled apart from those behind it. -/
theorem take_add_scaledStream {bytes : List UInt8} {n m : Nat} (hn : n ≤ bytes.length)
    (h : WholeSamples scale n) :
    (scaledStream scale bytes).take (n + m) =
      scaledStream scale (bytes.take n) ++ (scaledStream scale (bytes.drop n)).take m := by
  have htake : (bytes.take n).length = n := by
    rw [List.length_take, Nat.min_eq_left hn]
  have hsplit := scaledStream_append (bytes.take n) (bytes.drop n) (by rwa [htake])
  rw [List.take_append_drop] at hsplit
  rw [hsplit, List.take_append, length_scaledStream, htake, Nat.add_sub_cancel_left,
    List.take_of_length_le (by rw [length_scaledStream, htake]; omega)]

/-- A piece of whole samples is written as a stream of its own. -/
theorem writePiece_eq {dst : List Cell} {src : List UInt8} (hlength : dst.length = src.length)
    (h : WholeSamples scale src.length) :
    writePiece scale dst src = (scaledStream scale src).map some := by
  unfold writePiece
  by_cases hunity : scale = 65536
  · rw [if_pos hunity, hunity, scaledStream_unity]
  · rw [if_neg hunity]
    by_cases hzero : scale = 0
    · rw [if_pos hzero, hzero, scaledStream_zero, List.map_replicate]
    · rw [if_neg hzero]
      have heven : 2 ∣ src.length := (h.resolve_left hunity).resolve_left hzero
      clear h
      fun_induction scaleCells scale dst src with
      | case1 first second dst low high src ih =>
          have hsrc : 2 ∣ src.length := by simpa [Nat.dvd_add_left] using heven
          rw [ih (by simpa using hlength) hsrc, scaledStream, scaleSample_eq_q16, List.map_append]
      | case2 dst src hshort =>
          match src, dst with
          | [], [] => rfl
          | [_], [_] => exact absurd heven (by decide : ¬2 ∣ 1)
          | low :: high :: src, first :: second :: dst =>
              exact (hshort first second dst low high src rfl rfl).elim

/-- A piece that ends within a sample leaves a byte of its place as it was. -/
theorem wholeSamples_of_writePiece {n : Nat} {src : List UInt8} (hlength : n = src.length)
    (h : none ∉ writePiece scale (.replicate n none) src) : WholeSamples scale src.length := by
  unfold writePiece at h
  by_cases hunity : scale = 65536
  · exact .inl hunity
  · rw [if_neg hunity] at h
    by_cases hzero : scale = 0
    · exact .inr (.inl hzero)
    · rw [if_neg hzero] at h
      refine .inr (.inr ?_)
      subst hlength
      fun_induction scaledStream scale src with
      | case1 low high rest ih =>
          have hrest : none ∉ scaleCells scale (.replicate rest.length none) rest :=
            fun hnone => h (List.mem_append_right _ hnone)
          exact Nat.dvd_add_self_right.mpr (ih hrest)
      | case2 low => exact absurd (List.mem_cons_self) h
      | case3 => exact Nat.dvd_zero 2

end Scaling

namespace PcmReader

/-- The pieces that are left behind the first `n` bytes. -/
def piecesBehind : Nat → List (List UInt8) → List (List UInt8)
  | n, chunk :: chunks =>
      if n ≤ chunk.length then chunk.drop n :: chunks else piecesBehind (n - chunk.length) chunks
  | _, [] => []

theorem flatten_piecesBehind (n : Nat) (chunks : List (List UInt8)) :
    (piecesBehind n chunks).flatten = chunks.flatten.drop n := by
  induction chunks generalizing n with
  | nil => exact (List.drop_nil).symm
  | cons chunk chunks ih =>
      rw [piecesBehind, List.flatten_cons, List.drop_append]
      by_cases hwithin : n ≤ chunk.length
      · rw [if_pos hwithin, Nat.sub_eq_zero_of_le hwithin]
        rfl
      · rw [if_neg hwithin, ih, List.drop_of_length_le (Nat.le_of_not_le hwithin)]
        rfl

variable {scale : UInt32}

theorem pull_within {chunks : List (List UInt8)} {chunk : List UInt8} {chunkOffset : Nat}
    {dst : List Cell} (h : dst.length ≤ (chunk.drop chunkOffset).length) :
    pull scale chunks chunk chunkOffset dst =
      (writePiece scale dst ((chunk.drop chunkOffset).take dst.length),
        ⟨chunk, chunkOffset + dst.length, chunks⟩) := by
  rw [List.length_drop] at h
  unfold pull
  simp only [Nat.min_eq_left h, Nat.le_refl, if_true, List.take_length]

theorem pull_dry {chunk : List UInt8} {chunkOffset : Nat} {dst : List Cell}
    (h : (chunk.drop chunkOffset).length < dst.length) :
    pull scale [] chunk chunkOffset dst =
      (writePiece scale (dst.take (chunk.drop chunkOffset).length) (chunk.drop chunkOffset) ++
          .replicate (dst.length - (chunk.drop chunkOffset).length) (some 0),
        ⟨chunk, chunkOffset + (chunk.drop chunkOffset).length, []⟩) := by
  rw [pull]
  simp only [← List.length_drop, Nat.min_eq_right h.le, Nat.not_le_of_lt h, if_false,
    List.take_length]

theorem pull_beyond {next : List UInt8} {chunks : List (List UInt8)} {chunk : List UInt8}
    {chunkOffset : Nat} {dst : List Cell} (h : (chunk.drop chunkOffset).length < dst.length) :
    pull scale (next :: chunks) chunk chunkOffset dst =
      (writePiece scale (dst.take (chunk.drop chunkOffset).length) (chunk.drop chunkOffset) ++
          (pull scale chunks next 0 (dst.drop (chunk.drop chunkOffset).length)).1,
        (pull scale chunks next 0 (dst.drop (chunk.drop chunkOffset).length)).2) := by
  rw [pull]
  simp only [← List.length_drop, Nat.min_eq_right h.le, Nat.not_le_of_lt h, if_false,
    List.take_length]

/-- A request goes on from where it begins: what it reads is what lies ahead. -/
theorem pieces_pull {chunks : List (List UInt8)} {chunk : List UInt8} {chunkOffset : Nat}
    {dst : List Cell} (hdata : dst.length ≤ (chunk.drop chunkOffset :: chunks).flatten.length) :
    (pull scale chunks chunk chunkOffset dst).2.pieces =
      piecesBehind dst.length (chunk.drop chunkOffset :: chunks) := by
  induction chunks generalizing chunk chunkOffset dst with
  | nil =>
      have hwithin : dst.length ≤ (chunk.drop chunkOffset).length := by simpa using hdata
      rw [pull_within hwithin, piecesBehind, if_pos hwithin, List.drop_drop]
      rfl
  | cons next chunks ih =>
      rw [piecesBehind]
      rcases Nat.lt_or_ge (chunk.drop chunkOffset).length dst.length with hbeyond | hwithin
      · rw [List.flatten_cons, List.length_append] at hdata
        have hrest := @ih next 0 (dst.drop (chunk.drop chunkOffset).length)
          (by rw [List.length_drop, List.drop_zero]; omega)
        rw [pull_beyond hbeyond, if_neg (Nat.not_le_of_lt hbeyond), hrest, List.length_drop,
          List.drop_zero]
      · rw [pull_within hwithin, if_pos hwithin, List.drop_drop]
        rfl

/-- Requests that are cut behind whole samples, of chunks that are, get the scaled stream. -/
theorem pull_eq {chunks : List (List UInt8)} {chunk : List UInt8} {chunkOffset : Nat}
    {dst : List Cell} (hdata : dst.length ≤ (chunk.drop chunkOffset :: chunks).flatten.length)
    (hsize : WholeSamples scale dst.length)
    (hchunks : ChunksWhole scale dst.length (chunk.drop chunkOffset :: chunks)) :
    (pull scale chunks chunk chunkOffset dst).1 =
      (scaledStream scale
        ((chunk.drop chunkOffset :: chunks).flatten.take dst.length)).map some := by
  have hpiece {chunks : List (List UInt8)} {piece : List UInt8} {dst : List Cell}
      (hwithin : dst.length ≤ piece.length) (hsize : WholeSamples scale dst.length) :
      writePiece scale dst (piece.take dst.length) =
        (scaledStream scale ((piece :: chunks).flatten.take dst.length)).map some := by
    have hlength : (piece.take dst.length).length = dst.length := by
      rw [List.length_take, Nat.min_eq_left hwithin]
    rw [List.flatten_cons, List.take_append_of_le_length hwithin]
    exact writePiece_eq hlength.symm (by rwa [hlength])
  induction chunks generalizing chunk chunkOffset dst with
  | nil =>
      have hwithin : dst.length ≤ (chunk.drop chunkOffset).length := by simpa using hdata
      rw [pull_within hwithin]
      exact hpiece hwithin hsize
  | cons next chunks ih =>
      rcases Nat.lt_or_ge (chunk.drop chunkOffset).length dst.length with hbeyond | hwithin
      · rw [List.flatten_cons, List.length_append] at hdata
        obtain ⟨hchunk, hchunks⟩ := hchunks hbeyond
        have hplace : (dst.take (chunk.drop chunkOffset).length).length =
            (chunk.drop chunkOffset).length := by
          rw [List.length_take, Nat.min_eq_left hbeyond.le]
        have hleft : (dst.drop (chunk.drop chunkOffset).length).length =
            dst.length - (chunk.drop chunkOffset).length :=
          List.length_drop
        have hsum : dst.length = (chunk.drop chunkOffset).length +
            (dst.drop (chunk.drop chunkOffset).length).length := by
          omega
        rw [hsum, wholeSamples_add_iff hchunk] at hsize
        rw [← hleft] at hchunks
        have hrest := @ih next 0 (dst.drop (chunk.drop chunkOffset).length)
          (by rw [List.drop_zero]; omega) hsize (by rwa [List.drop_zero])
        rw [List.drop_zero] at hrest
        have hstream : (chunk.drop chunkOffset :: next :: chunks).flatten.take dst.length =
            chunk.drop chunkOffset ++ (next :: chunks).flatten.take
              (dst.drop (chunk.drop chunkOffset).length).length := by
          rw [List.flatten_cons, List.take_append, List.take_of_length_le hbeyond.le, ← hleft]
        rw [pull_beyond hbeyond, hstream, scaledStream_append _ _ hchunk, List.map_append, ← hrest,
          ← writePiece_eq hplace hchunk]
      · rw [pull_within hwithin]
        exact hpiece hwithin hsize

theorem whole_of_pull {chunks : List (List UInt8)} {chunk : List UInt8} {chunkOffset n : Nat}
    (hdata : n ≤ (chunk.drop chunkOffset :: chunks).flatten.length)
    (h : none ∉ (pull scale chunks chunk chunkOffset (.replicate n none)).1) :
    WholeSamples scale n ∧ ChunksWhole scale n (chunk.drop chunkOffset :: chunks) := by
  have hpiece {chunks : List (List UInt8)} {piece : List UInt8} {n : Nat}
      (hwithin : n ≤ piece.length)
      (h : none ∉ writePiece scale (.replicate n none) (piece.take n)) :
      WholeSamples scale n ∧ ChunksWhole scale n (piece :: chunks) := by
    have hlength : n = (piece.take n).length := by
      rw [List.length_take, Nat.min_eq_left hwithin]
    have hwhole := wholeSamples_of_writePiece hlength h
    exact ⟨hlength ▸ hwhole, fun hbeyond => absurd hbeyond (Nat.not_lt.mpr hwithin)⟩
  induction chunks generalizing chunk chunkOffset n with
  | nil =>
      have hwithin : n ≤ (chunk.drop chunkOffset).length := by simpa using hdata
      rw [pull_within (by rwa [List.length_replicate]), List.length_replicate] at h
      exact hpiece hwithin h
  | cons next chunks ih =>
      rcases Nat.lt_or_ge (chunk.drop chunkOffset).length n with hbeyond | hwithin
      · rw [List.flatten_cons, List.length_append] at hdata
        rw [pull_beyond (by rwa [List.length_replicate]), List.take_replicate,
          Nat.min_eq_left hbeyond.le, List.drop_replicate] at h
        have hchunk := wholeSamples_of_writePiece rfl fun hnone => h (List.mem_append_left _ hnone)
        obtain ⟨hleft, hchunks⟩ := @ih next 0 (n - (chunk.drop chunkOffset).length)
          (by rw [List.drop_zero]; omega) fun hnone => h (List.mem_append_right _ hnone)
        rw [List.drop_zero] at hchunks
        rw [← wholeSamples_add_iff hchunk, Nat.add_sub_cancel' hbeyond.le] at hleft
        exact ⟨hleft, fun _ => ⟨hchunk, hchunks⟩⟩
      · rw [pull_within (by rwa [List.length_replicate]), List.length_replicate] at h
        exact hpiece hwithin h

theorem chunksWhole_add_iff {m n : Nat} {chunks : List (List UInt8)} (hm : WholeSamples scale m) :
    ChunksWhole scale (m + n) chunks ↔
      ChunksWhole scale m chunks ∧ ChunksWhole scale n (piecesBehind m chunks) := by
  induction chunks generalizing m with
  | nil => exact iff_of_true trivial ⟨trivial, trivial⟩
  | cons chunk chunks ih =>
      rw [piecesBehind, chunksWhole_cons, chunksWhole_cons]
      by_cases hwithin : m ≤ chunk.length
      · have hsum : chunk.length = m + (chunk.drop m).length := by
          rw [List.length_drop]
          omega
        have hleft : m + n - chunk.length = n - (chunk.drop m).length := by omega
        have hbeyond : chunk.length < m + n ↔ (chunk.drop m).length < n := by omega
        have hwhole : WholeSamples scale chunk.length ↔
            WholeSamples scale (chunk.drop m).length := by
          rw [hsum, wholeSamples_add_iff hm]
        rw [if_pos hwithin, chunksWhole_cons, hbeyond, hwhole, hleft]
        exact (and_iff_right fun hover => absurd hover (Nat.not_lt.mpr hwithin)).symm
      · have hbeyond : chunk.length < m := Nat.lt_of_not_le hwithin
        rw [if_neg hwithin, Nat.sub_add_comm hbeyond.le,
          forall_prop_of_true (Nat.lt_add_right n hbeyond), forall_prop_of_true hbeyond, and_assoc]
        refine and_congr_right fun hchunk => ih ?_
        rw [← wholeSamples_add_iff hchunk, Nat.add_sub_cancel' hbeyond.le]
        exact hm

theorem pieces_fillPcm {reader : PcmReader} {n : Nat} (hn : n ≤ reader.stream.length) :
    (reader.fillPcm false scale (.replicate n none)).2.pieces =
      piecesBehind n reader.pieces := by
  have hdata : (List.replicate n (none : Cell)).length ≤ reader.stream.length := by
    rwa [List.length_replicate]
  have hpieces : (pull scale _ _ _ _).2.pieces = _ := pieces_pull hdata
  rwa [List.length_replicate] at hpieces

/-- What one request takes off the stream is there for none after it. -/
theorem stream_fillPcm {reader : PcmReader} {n : Nat} (hn : n ≤ reader.stream.length) :
    (reader.fillPcm false scale (.replicate n none)).2.stream = reader.stream.drop n := by
  unfold stream
  rw [pieces_fillPcm hn, flatten_piecesBehind]

theorem fillPcm_eq {reader : PcmReader} {n : Nat} (hn : n ≤ reader.stream.length)
    (hsize : WholeSamples scale n) (hchunks : ChunksWhole scale n reader.pieces) :
    (reader.fillPcm false scale (.replicate n none)).1 =
      (scaledStream scale (reader.stream.take n)).map some := by
  have hlength : (List.replicate n (none : Cell)).length = n := List.length_replicate
  rw [← hlength] at hn hsize hchunks
  have hpulled := pull_eq hn hsize hchunks
  rwa [hlength] at hpulled

/-- There is as much left for the requests behind the first. -/
theorem le_length_stream_fillPcm {reader : PcmReader} {n m : Nat}
    (hdata : n + m ≤ reader.stream.length) :
    m ≤ (reader.fillPcm false scale (.replicate n none)).2.stream.length := by
  rw [stream_fillPcm (le_trans (Nat.le_add_right n m) hdata), List.length_drop]
  omega

/-- Requests that are filled, and none of their bytes left out, end between samples. -/
theorem whole_of_requests {reader : PcmReader} {sizes : List Nat}
    (hdata : sizes.sum ≤ reader.stream.length)
    (hfilled : none ∉ (reader.requests scale sizes).1) :
    (∀ n ∈ sizes, WholeSamples scale n) ∧ ChunksWhole scale sizes.sum reader.pieces := by
  induction sizes generalizing reader with
  | nil => exact ⟨nofun, fun hover => absurd hover (Nat.not_lt_zero _)⟩
  | cons n sizes ih =>
      rw [List.sum_cons] at hdata
      have hn : n ≤ reader.stream.length := le_trans (Nat.le_add_right n _) hdata
      obtain ⟨hwhole, hchunks⟩ := whole_of_pull hn fun hnone =>
        hfilled (List.mem_append_left _ hnone)
      obtain ⟨hsizes, hrest⟩ := ih (le_length_stream_fillPcm hdata) fun hnone =>
        hfilled (List.mem_append_right _ hnone)
      rw [pieces_fillPcm hn] at hrest
      exact ⟨List.forall_mem_cons.mpr ⟨hwhole, hsizes⟩,
        (chunksWhole_add_iff hwhole).mpr ⟨hchunks, hrest⟩⟩

theorem requests_eq {reader : PcmReader} {sizes : List Nat}
    (hdata : sizes.sum ≤ reader.stream.length) (hsizes : ∀ n ∈ sizes, WholeSamples scale n)
    (hchunks : ChunksWhole scale sizes.sum reader.pieces) :
    (reader.requests scale sizes).1 =
      ((scaledStream scale reader.stream).take sizes.sum).map some := by
  induction sizes generalizing reader with
  | nil => rfl
  | cons n sizes ih =>
      rw [List.sum_cons] at hdata
      have hn : n ≤ reader.stream.length := le_trans (Nat.le_add_right n _) hdata
      obtain ⟨hwhole, hsizes⟩ := List.forall_mem_cons.mp hsizes
      obtain ⟨hchunks, hrest⟩ := (chunksWhole_add_iff hwhole).mp hchunks
      rw [← pieces_fillPcm hn] at hrest
      have hmore := ih (le_length_stream_fillPcm hdata) hsizes hrest
      have hfirst := fillPcm_eq hn hwhole hchunks
      rw [stream_fillPcm hn] at hmore
      rw [List.sum_cons, take_add_scaledStream hn hwhole, List.map_append, ← hfirst, ← hmore]
      rfl

/-- Samples come out of a microphone as its source has put them in, each scaled, if and only if
no request and no chunk ends within one (where the volume neither leaves them nor mutes them). -/
theorem stream_intact_iff (reader : PcmReader) (sizes : List Nat)
    (hdata : sizes.sum ≤ reader.stream.length) :
    (reader.requests scale sizes).1 =
        ((scaledStream scale reader.stream).take sizes.sum).map some ↔
      (∀ n ∈ sizes, WholeSamples scale n) ∧ ChunksWhole scale sizes.sum reader.pieces := by
  constructor
  · intro hintact
    refine whole_of_requests hdata fun hnone => ?_
    rw [hintact] at hnone
    obtain ⟨byte, -, hbyte⟩ := List.mem_map.mp hnone
    cases hbyte
  · rintro ⟨hsizes, hchunks⟩
    exact requests_eq hdata hsizes hchunks

theorem stream_intact_iff_stereo :
    (requests 32768 [4, 2] ⟨[], 0, [[1, 2, 3, 4], [5, 255]]⟩).1 =
        ((scaledStream 32768 (stream ⟨[], 0, [[1, 2, 3, 4], [5, 255]]⟩)).take 6).map some ↔
      (∀ n ∈ [4, 2], WholeSamples 32768 n) ∧
        ChunksWhole 32768 6 (pieces ⟨[], 0, [[1, 2, 3, 4], [5, 255]]⟩) :=
  stream_intact_iff ⟨[], 0, [[1, 2, 3, 4], [5, 255]]⟩ [4, 2] (by decide)

/-- A chunk of three bytes at half the volume: its last byte and the one behind it are left as
they were. -/
theorem not_stream_intact :
    ¬ ∀ (scale : UInt32) (chunks : List (List UInt8)) (sizes : List Nat),
      (∀ chunk ∈ chunks, 1 ≤ chunk.length) → sizes.sum ≤ (stream ⟨[], 0, chunks⟩).length →
        (requests scale sizes ⟨[], 0, chunks⟩).1 =
          ((scaledStream scale (stream ⟨[], 0, chunks⟩)).take sizes.sum).map some := by
  intro hintact
  exact absurd (hintact 32768 [[1, 2, 3], [4, 5, 6]] [4] (by decide) (by decide)) (by decide)

/-- The reader as the replies to transfers know it, which looks at lengths alone. -/
def toSource (muted : Bool) (reader : PcmReader) : PcmSource :=
  ⟨muted, reader.chunk.drop reader.chunkOffset, reader.chunks⟩

theorem toSource_pull (applyVolume : List UInt8 → List UInt8) (chunks : List (List UInt8))
    (chunk : List UInt8) (chunkOffset : Nat) (dst : List Cell) :
    (PcmSource.pullPcm applyVolume chunks (chunk.drop chunkOffset) dst.length).2 =
      (((pull scale chunks chunk chunkOffset dst).2.toSource false).chunk,
        ((pull scale chunks chunk chunkOffset dst).2.toSource false).chunks) := by
  induction chunks generalizing chunk chunkOffset dst with
  | nil =>
      rw [PcmSource.pullPcm]
      rcases Nat.lt_or_ge (chunk.drop chunkOffset).length dst.length with hbeyond | hwithin
      · rw [pull_dry hbeyond, List.drop_of_length_le hbeyond.le, toSource, ← List.drop_drop,
          List.drop_length]
      · rw [pull_within hwithin, List.drop_drop, toSource]
  | cons next chunks ih =>
      rw [PcmSource.pullPcm]
      rcases Nat.lt_or_ge (chunk.drop chunkOffset).length dst.length with hbeyond | hwithin
      · have hrest := ih next 0 (dst.drop (chunk.drop chunkOffset).length)
        rw [List.drop_zero, List.length_drop] at hrest
        rw [pull_beyond hbeyond, if_neg (Nat.not_le_of_lt hbeyond)]
        exact hrest
      · rw [pull_within hwithin, if_pos hwithin, List.drop_drop, toSource]

/-- Both models of `fill_pcm` leave the same behind. -/
theorem toSource_fillPcm (applyVolume : List UInt8 → List UInt8) (muted : Bool)
    (dst : List Cell) (reader : PcmReader) :
    (reader.fillPcm muted scale dst).2.toSource muted =
      ((reader.toSource muted).fillPcm applyVolume dst.length).2 := by
  cases muted with
  | true => rfl
  | false =>
      have hpulled := @toSource_pull scale applyVolume reader.chunks reader.chunk
        reader.chunkOffset dst
      exact (congrArg (fun left => (⟨false, left.1, left.2⟩ : PcmSource)) hpulled).symm

end PcmReader

end Usbipdcpp.VirtualDevice
