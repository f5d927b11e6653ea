import Usbipdcpp.Foundation.ErasedRanges
import Usbipdcpp.MassStorage.TransferSteps

namespace Usbipdcpp.MassStorage

open Foundation.ErasedRanges
open Protocol (BotState storeAt)
open MscBulkOnlyHandler

variable {Medium : Type}

/-- Blocks that a host names, `count` of them from `lba` on. -/
structure BlockRange where
  lba : UInt64
  count : UInt64
  deriving DecidableEq, Repr

namespace BlockRange

def bytes (blockSize : UInt32) (r : BlockRange) : Range where
  start := r.lba.toNat * blockSize.toNat
  stop := r.lba.toNat * blockSize.toNat + r.count.toNat * blockSize.toNat

def Within (blocks : UInt64) (r : BlockRange) : Prop :=
  r.lba.toNat + r.count.toNat ≤ blocks.toNat

instance (blocks : UInt64) (r : BlockRange) : Decidable (r.Within blocks) :=
  inferInstanceAs (Decidable (_ ≤ _))

def ofDescriptor (desc : UnmapBlockDescriptor) : BlockRange := ⟨desc.lba, desc.blockCount.toUInt64⟩

end BlockRange

/-- `fallocate` with `FALLOC_FL_PUNCH_HOLE | FALLOC_FL_KEEP_SIZE`, as the mapping shows it: the
bytes of the range are zero as far as there is a file. -/
def fallocate (file : List UInt8) (offset length : Nat) : List UInt8 :=
  erase 0 [⟨offset, offset + length⟩] file

/-- The backend over a mapped image file, which may end with a part of a block.  `fallocate` is
given whole blocks of the file system. -/
def rawImageBackend (blocks : UInt64) (blockSize : UInt32) (fsBlockSize : Nat) :
    StorageBackend (List UInt8) :=
  { memoryBackend blocks blockSize with
    punchHole := fun file lba count =>
      let offset := lba.toNat * blockSize.toNat
      let length := count.toNat * blockSize.toNat
      let alignedOff := offset / fsBlockSize * fsBlockSize
      let alignedEnd := (offset + length + fsBlockSize - 1) / fsBlockSize * fsBlockSize
      fallocate (storeAt file offset (List.replicate length 0)) alignedOff
        (alignedEnd - alignedOff) }

/-- The ranges of a list are punched one after the other. -/
def punchAll (backend : StorageBackend Medium) (ranges : List BlockRange)
    (medium : Medium) : Medium :=
  ranges.foldl (fun medium r => backend.punchHole medium r.lba r.count) medium

/-- The blocks of an image file. -/
def blocksOf (blocks : UInt64) (blockSize : UInt32) (file : List UInt8) : List UInt8 :=
  file.take (blocks.toNat * blockSize.toNat)

/-- The file system's blocks that the ranges reach into hold, apart from the ranges themselves,
nothing but zeros. -/
def SparesNeighbours (blockSize : UInt32) (fsBlockSize : Nat) (ranges : List BlockRange)
    (medium : List UInt8) : Prop :=
  ∀ i byte, medium[i]? = some byte →
    Covers ((ranges.map (BlockRange.bytes blockSize)).map (Range.roundOut fsBlockSize)) i →
    ¬Covers (ranges.map (BlockRange.bytes blockSize)) i → byte = 0

section Punching

variable {blocks : UInt64} {blockSize : UInt32} {fsBlockSize : Nat} {file : List UInt8}
  {r : BlockRange} {ranges : List BlockRange}

theorem getElem?_blocksOf (i : Nat) : (blocksOf blocks blockSize file)[i]? =
    if i < blocks.toNat * blockSize.toNat then file[i]? else none :=
  List.getElem?_take

theorem bytes_stop_le (hsize : blocks.toNat * blockSize.toNat ≤ file.length)
    (hr : r.Within blocks) : (r.bytes blockSize).stop ≤ file.length := by
  have hmul := Nat.mul_le_mul_right blockSize.toNat hr
  rw [Nat.add_mul] at hmul
  exact hmul.trans hsize

theorem storeAt_zeros (hsize : blocks.toNat * blockSize.toNat ≤ file.length)
    (hr : r.Within blocks) :
    storeAt file (r.lba.toNat * blockSize.toNat)
      (List.replicate (r.count.toNat * blockSize.toNat) 0) =
      erase 0 [r.bytes blockSize] file := by
  rw [erase_singleton (Nat.le_add_right _ _) (bytes_stop_le hsize hr), storeAt,
    List.length_replicate]
  simp [BlockRange.bytes]

/-- What memory is left with: the blocks of the range are zero, and the others as they were. -/
theorem punchHole_memoryBackend (hsize : blocks.toNat * blockSize.toNat ≤ file.length)
    (hr : r.Within blocks) :
    (memoryBackend blocks blockSize).punchHole file r.lba r.count =
      erase 0 [r.bytes blockSize] file :=
  storeAt_zeros hsize hr

/-- What the image file is left with: zeros in all of the file system's blocks that the range
reaches into. -/
theorem punchHole_rawImageBackend (hfs : 0 < fsBlockSize)
    (hsize : blocks.toNat * blockSize.toNat ≤ file.length) (hr : r.Within blocks) :
    (rawImageBackend blocks blockSize fsBlockSize).punchHole file r.lba r.count =
      erase 0 [(r.bytes blockSize).roundOut fsBlockSize] file := by
  have hrounded : ∀ i, (r.bytes blockSize).Contains i →
      ((r.bytes blockSize).roundOut fsBlockSize).Contains i :=
    fun _ => Range.contains_roundOut hfs
  have hmemset := storeAt_zeros hsize hr
  have halign : ((r.bytes blockSize).roundOut fsBlockSize).start ≤
      ((r.bytes blockSize).roundOut fsBlockSize).stop := by
    apply Nat.mul_le_mul_right
    apply Nat.div_le_div_right
    simp only [BlockRange.bytes]
    omega
  calc (rawImageBackend blocks blockSize fsBlockSize).punchHole file r.lba r.count
      = erase 0 [(r.bytes blockSize).roundOut fsBlockSize]
          (erase 0 [r.bytes blockSize] file) := by
        rw [← hmemset]
        simp only [rawImageBackend, fallocate]
        congr 3
        exact Nat.add_sub_of_le halign
    _ = erase 0 ([r.bytes blockSize] ++ [(r.bytes blockSize).roundOut fsBlockSize]) file :=
        erase_append.symm
    _ = erase 0 [(r.bytes blockSize).roundOut fsBlockSize] file := by
        apply erase_eq_erase_iff.mpr
        intro i x _
        refine .inl ?_
        rw [covers_append, covers_singleton, covers_singleton]
        exact or_iff_right_of_imp (hrounded i)

theorem punchAll_rawImageBackend (hfs : 0 < fsBlockSize)
    (hsize : blocks.toNat * blockSize.toNat ≤ file.length)
    (hranges : ∀ r ∈ ranges, r.Within blocks) :
    punchAll (rawImageBackend blocks blockSize fsBlockSize) ranges file =
      erase 0 ((ranges.map (BlockRange.bytes blockSize)).map (Range.roundOut fsBlockSize))
        file := by
  rw [List.map_map]
  apply foldl_eq_erase ranges
  intro r hr ys hys
  exact punchHole_rawImageBackend hfs (hys ▸ hsize) (hranges r hr)

theorem erase_roundOut_eq_iff (hfs : 0 < fsBlockSize) (ranges : List BlockRange)
    (medium : List UInt8) :
    erase 0 ((ranges.map (BlockRange.bytes blockSize)).map (Range.roundOut fsBlockSize)) medium =
        erase 0 (ranges.map (BlockRange.bytes blockSize)) medium ↔
      SparesNeighbours blockSize fsBlockSize ranges medium :=
  erase_eq_erase_iff_of_covers fun _ => covers_roundOut hfs

/-- A range of whole blocks of the file system has no neighbours in them. -/
theorem sparesNeighbours_of_aligned (hfs : 0 < fsBlockSize) {medium : List UInt8}
    (haligned : ∀ r ∈ ranges, fsBlockSize ∣ (r.bytes blockSize).start ∧
      fsBlockSize ∣ (r.bytes blockSize).stop) :
    SparesNeighbours blockSize fsBlockSize ranges medium := by
  rintro i byte - ⟨rounded, hrounded, hcontains⟩ hnamed
  obtain ⟨named, hmem, rfl⟩ := List.mem_map.mp hrounded
  obtain ⟨r, hr, rfl⟩ := List.mem_map.mp hmem
  obtain ⟨hstart, hstop⟩ := haligned r hr
  rw [Range.roundOut_of_dvd hfs hstart hstop] at hcontains
  exact absurd ⟨_, hmem, hcontains⟩ hnamed

end Punching

/-- The wrapper that an idle handler is given asks for WRITE SAME with the bit that makes it punch
the blocks. -/
inductive AsksToPunch (s : MscBulkOnlyHandler Medium) (fallbackData : List UInt8) :
    MscBulkOnlyHandler Medium → ScsiCmd → Prop
  | writeSame {cmd : ScsiCmd} (hstate : s.state = .idle) (h : Cbw.size ≤ fallbackData.length)
      (hsignature : (Cbw.ofBytes fallbackData h).signature = Cbw.signatureValue)
      (hcommand : (s.loadCbw (.ofBytes fallbackData h)).command = some cmd)
      (hcmd : cmd = .writeSame10 ∨ cmd = .writeSame16)
      (hunmap : (Cbw.ofBytes fallbackData h).cdbByte 1 &&& 0x08 ≠ 0) :
      AsksToPunch s fallbackData (s.loadCbw (.ofBytes fallbackData h)) cmd

/-- The ranges that the host names to a call of `on_out_data_received`, by the list of UNMAP or by
the command block of WRITE SAME.  There are none in a list that is not complete, or in a command
that is refused. -/
inductive NamesRanges (s : MscBulkOnlyHandler Medium) (fallbackData : List UInt8) :
    List BlockRange → Prop
  | unmapWaiting (hstate : s.state = .dataOut) (hunmap : s.dataOutUnmap = true)
      (hshort : s.stagingData.length < s.writeCount.toNat) : NamesRanges s fallbackData []
  | unmap (hstate : s.state = .dataOut) (hunmap : s.dataOutUnmap = true)
      (hfull : s.writeCount.toNat ≤ s.stagingData.length) :
      NamesRanges s fallbackData
        ((unmapBlockDescriptors s.stagingData).map BlockRange.ofDescriptor)
  | writeSameRefused {u : MscBulkOnlyHandler Medium} {cmd : ScsiCmd}
      (hasks : AsksToPunch s fallbackData u cmd) (hrefused : ¬WriteSameAllowed cmd u) :
      NamesRanges s fallbackData []
  | writeSame {u : MscBulkOnlyHandler Medium} {cmd : ScsiCmd}
      (hasks : AsksToPunch s fallbackData u cmd) (hallowed : WriteSameAllowed cmd u) :
      NamesRanges s fallbackData [⟨writeSameLbaOf cmd u.currentCbw, writeSameBlocks cmd u⟩]

section Handler

variable {backend : StorageBackend Medium} {s t u : MscBulkOnlyHandler Medium} {cmd : ScsiCmd}
  {fallbackData : List UInt8} {length : Nat} {ranges : List BlockRange}

theorem punchAll_ofDescriptor (descs : List UnmapBlockDescriptor) (medium : Medium) :
    punchAll backend (descs.map BlockRange.ofDescriptor) medium =
      punchMedium backend descs medium :=
  List.foldl_map

theorem onOutDataReceived_of_asksToPunch (h : AsksToPunch s fallbackData u cmd) :
    s.onOutDataReceived fallbackData length = u.writeSame cmd := by
  obtain ⟨hstate, hlength, hsignature, hcommand, hcmd, -⟩ := h
  rw [onOutDataReceived_of_idle hstate, onCommand, dif_pos hlength]
  dsimp only
  rw [if_pos hsignature, execute, hcommand]
  rcases hcmd with rfl | rfl
  · rfl
  · rfl

theorem medium_of_namesRanges (hbackend : s.backend = some backend)
    (hnames : NamesRanges s fallbackData ranges)
    (ht : s.onOutDataReceived fallbackData length = some t) :
    t.medium = punchAll backend ranges s.medium := by
  cases hnames with
  | unmapWaiting hstate hunmap hshort =>
      rw [onOutDataReceived_of_dataOut hstate, onData, if_pos hunmap, onUnmapData,
        if_neg (Nat.not_le.mpr hshort)] at ht
      obtain rfl := Option.some.inj ht
      rfl
  | unmap hstate hunmap hfull =>
      rw [onOutDataReceived_of_dataOut hstate, onData, if_pos hunmap, onUnmapData,
        if_pos hfull, foldlM_punchDescriptor hbackend] at ht
      obtain rfl := Option.some.inj ht
      exact (punchAll_ofDescriptor _ _).symm
  | writeSameRefused hasks hrefused =>
      rw [onOutDataReceived_of_asksToPunch hasks, writeSame_of_not_allowed hrefused] at ht
      obtain rfl := Option.some.inj ht
      obtain ⟨⟩ := hasks
      rfl
  | writeSame hasks hallowed =>
      rw [onOutDataReceived_of_asksToPunch hasks, writeSame_of_allowed hallowed] at ht
      obtain ⟨hstate, hlength, hsignature, hcommand, hcmd, hunmap⟩ := hasks
      have hloaded : (s.loadCbw (.ofBytes fallbackData hlength)).backend = some backend := hbackend
      have hbit : (s.loadCbw (.ofBytes fallbackData hlength)).currentCbw.cdbByte 1 &&& 0x08 ≠ 0 :=
        hunmap
      rw [hloaded, Option.map_some, if_pos hbit] at ht
      obtain rfl := Option.some.inj ht
      rfl

end Handler

section Locality

variable {blocks : UInt64} {blockSize : UInt32} {fsBlockSize : Nat}

/-- The image's blocks are left as memory's are just where the neighbours hold zeros. -/
theorem blocksOf_punchHole_eq_iff (hfs : 0 < fsBlockSize) {file : List UInt8} {r : BlockRange}
    (hsize : blocks.toNat * blockSize.toNat ≤ file.length) (hr : r.Within blocks) :
    blocksOf blocks blockSize
          ((rawImageBackend blocks blockSize fsBlockSize).punchHole file r.lba r.count) =
        (memoryBackend blocks blockSize).punchHole (blocksOf blocks blockSize file) r.lba r.count ↔
      SparesNeighbours blockSize fsBlockSize [r] (blocksOf blocks blockSize file) := by
  have hmedium : blocks.toNat * blockSize.toNat ≤ (blocksOf blocks blockSize file).length := by
    rw [blocksOf, List.length_take_of_le hsize]
  rw [punchHole_rawImageBackend hfs hsize hr, punchHole_memoryBackend hmedium hr, blocksOf,
    take_erase]
  exact erase_roundOut_eq_iff hfs [r] _

/-- What a host names is all that changes just where the neighbours hold zeros. -/
theorem unchanged_outside_iff (hfs : 0 < fsBlockSize) {file : List UInt8}
    {ranges : List BlockRange} (hsize : blocks.toNat * blockSize.toNat ≤ file.length)
    (hranges : ∀ r ∈ ranges, r.Within blocks) :
    (∀ i < blocks.toNat * blockSize.toNat,
        ¬Covers (ranges.map (BlockRange.bytes blockSize)) i →
        (punchAll (rawImageBackend blocks blockSize fsBlockSize) ranges file)[i]? = file[i]?) ↔
      SparesNeighbours blockSize fsBlockSize ranges (blocksOf blocks blockSize file) := by
  rw [punchAll_rawImageBackend hfs hsize hranges]
  constructor
  · intro h i byte hbyte hrounded hnamed
    rw [getElem?_blocksOf] at hbyte
    split at hbyte
    next hlt =>
      have hi := h i hlt hnamed
      rw [getElem?_erase, hbyte, Option.map_some, if_pos hrounded] at hi
      exact (Option.some.inj hi).symm
    next => cases hbyte
  · intro h i hi hnamed
    have hfile : i < file.length := hi.trans_le hsize
    rw [getElem?_erase, List.getElem?_eq_getElem hfile, Option.map_some]
    split
    next hrounded =>
      have hbyte : (blocksOf blocks blockSize file)[i]? = some file[i] := by
        rw [getElem?_blocksOf, if_pos hi, List.getElem?_eq_getElem hfile]
      rw [h i _ hbyte hrounded hnamed]
    next => rfl

/-- Memory is left with zeros in the blocks of a range, and all else as it was.  An image is left
with the same just where all else in the file system's blocks that the range reaches into is zero
already, and just then no call of the handler changes what the host has not named. -/
theorem punch_hole_local (hfs : 0 < fsBlockSize) :
    (∀ (medium : List UInt8) (r : BlockRange), r.Within blocks →
      medium.length = blocks.toNat * blockSize.toNat → ∀ i < medium.length,
        ((memoryBackend blocks blockSize).punchHole medium r.lba r.count)[i]? =
          if (r.bytes blockSize).Contains i then some 0 else medium[i]?) ∧
    (∀ (file : List UInt8) (r : BlockRange), r.Within blocks →
      blocks.toNat * blockSize.toNat ≤ file.length →
        (blocksOf blocks blockSize
              ((rawImageBackend blocks blockSize fsBlockSize).punchHole file r.lba r.count) =
            (memoryBackend blocks blockSize).punchHole (blocksOf blocks blockSize file) r.lba
              r.count ↔
          SparesNeighbours blockSize fsBlockSize [r] (blocksOf blocks blockSize file))) ∧
    (∀ (s t : MscBulkOnlyHandler (List UInt8)) (fallbackData : List UInt8) (length : Nat)
      (ranges : List BlockRange),
      s.backend = some (rawImageBackend blocks blockSize fsBlockSize) →
      blocks.toNat * blockSize.toNat ≤ s.medium.length → NamesRanges s fallbackData ranges →
      (∀ r ∈ ranges, r.Within blocks) → s.onOutDataReceived fallbackData length = some t →
        ((∀ i < blocks.toNat * blockSize.toNat,
            ¬Covers (ranges.map (BlockRange.bytes blockSize)) i →
            t.medium[i]? = s.medium[i]?) ↔
          SparesNeighbours blockSize fsBlockSize ranges
            (blocksOf blocks blockSize s.medium))) := by
  refine ⟨?_, ?_, ?_⟩
  · intro medium r hr hlength i hi
    rw [punchHole_memoryBackend hlength.ge hr, getElem?_erase, List.getElem?_eq_getElem hi]
    simp only [covers_singleton, Option.map_some]
    split
    next => rfl
    next => rfl
  · intro file r hr hsize
    exact blocksOf_punchHole_eq_iff hfs hsize hr
  · intro s t fallbackData length ranges hbackend hsize hnames hranges ht
    rw [medium_of_namesRanges hbackend hnames ht]
    exact unchanged_outside_iff hfs hsize hranges

theorem punch_hole_local_whole :
    blocksOf 8 512 ((rawImageBackend 8 512 4096).punchHole (List.replicate 4096 0xFF) 0 8) =
      (memoryBackend 8 512).punchHole (blocksOf 8 512 (List.replicate 4096 0xFF)) 0 8 := by
  have hfs : 0 < 4096 := by decide
  have hsize : (8 : UInt64).toNat * (512 : UInt32).toNat ≤
      (List.replicate 4096 (0xFF : UInt8)).length := by
    rw [List.length_replicate]
    decide
  refine ((punch_hole_local hfs).2.1 _ ⟨0, 8⟩ (by decide) hsize).mpr ?_
  exact sparesNeighbours_of_aligned hfs (by decide)

/-- Punching the second of eight blocks of 512 bytes takes the others with it, where the file
system has blocks of 4096. -/
theorem not_punch_hole_local :
    (rawImageBackend 8 512 4096).punchHole (List.replicate 4096 0xFF) 1 1 ≠
      (memoryBackend 8 512).punchHole (List.replicate 4096 0xFF) 1 1 := by
  intro heq
  have hsize : (8 : UInt64).toNat * (512 : UInt32).toNat ≤
      (List.replicate 4096 (0xFF : UInt8)).length := by
    rw [List.length_replicate]
    decide
  have hr : BlockRange.Within 8 ⟨1, 1⟩ := by decide
  have himage := punchHole_rawImageBackend (by decide : 0 < 4096) hsize hr
  have hmemory := punchHole_memoryBackend hsize hr
  have hfirst := congrArg (·[0]?) ((himage.symm.trans heq).trans hmemory)
  simp only [getElem?_erase, covers_singleton] at hfirst
  revert hfirst
  decide

end Locality

end Usbipdcpp.MassStorage
