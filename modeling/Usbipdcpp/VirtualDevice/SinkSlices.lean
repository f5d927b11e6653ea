import Mathlib.Tactic.Ring
import Usbipdcpp.VirtualDevice.IsochronousBounds

namespace Usbipdcpp.VirtualDevice.UacAudioStreamingSinkHandler

open Protocol

/-- The slices of a buffer of `size` bytes that are scaled in place and given to the sink.  The
cursor moves on by the whole length of a packet, whatever is left of the buffer. -/
def slices (size : Nat) : UInt64 → List UsbIpIsoPacketDescriptor → List BufferRange
  | _, [] => []
  | dataPos, iso :: descs =>
      let take := min iso.length.toNat (UInt64.ofNat size - dataPos).toNat
      let rest := slices size (dataPos + iso.length.toUInt64) descs
      if take > 0 then ⟨dataPos.toNat, take⟩ :: rest else rest

def totalReceived (slices : List BufferRange) : UInt32 :=
  slices.foldl (fun total slice => total + .ofNat slice.size) 0

/-- Each slice begins where the one before it ends. -/
def Consecutive : Nat → List BufferRange → Prop
  | _, [] => True
  | pos, slice :: slices => slice.offset = pos ∧ Consecutive (pos + slice.size) slices

/-- The slices lie in the buffer, one behind the other and apart from each other, and the total is
theirs. -/
structure SlicesKept (data : List UInt8) (slices : List BufferRange) : Prop where
  inside : ∀ slice ∈ slices, slice.Inside data
  consecutive : Consecutive 0 slices
  disjoint : slices.Pairwise fun slice later => slice.offset + slice.size ≤ later.offset
  total : (totalReceived slices).toNat = (slices.map BufferRange.size).sum
  total_le : (slices.map BufferRange.size).sum ≤ data.length

/-- Every packet that has a length begins in the buffer, or right behind it. -/
def StartsInside (size : Nat) : Nat → List UsbIpIsoPacketDescriptor → Prop
  | _, [] => True
  | pos, iso :: descs =>
      (iso.length ≠ 0 → pos ≤ size) ∧ StartsInside size (pos + iso.length.toNat) descs

/-- The bytes that the packets of a list lay claim to. -/
def claimedBytes (descs : List UsbIpIsoPacketDescriptor) : Nat :=
  (descs.map fun iso => iso.length.toNat).sum

theorem startsInside_iff {size pos : Nat} {descs : List UsbIpIsoPacketDescriptor} :
    StartsInside size pos descs ↔ ∀ before iso after, descs = before ++ iso :: after →
      iso.length ≠ 0 → pos + claimedBytes before ≤ size := by
  induction descs generalizing pos with
  | nil => exact iff_of_true trivial fun before iso after h => absurd h (by simp)
  | cons first descs ih =>
      unfold StartsInside
      rw [ih]
      constructor
      · rintro ⟨hfirst, hrest⟩ before iso after heq hlength
        cases before with
        | nil =>
            obtain ⟨rfl, -⟩ := List.cons_eq_cons.mp heq
            exact hfirst hlength
        | cons head before =>
            obtain ⟨rfl, hdescs⟩ := List.cons_eq_cons.mp heq
            have hbefore := hrest before iso after hdescs hlength
            rwa [Nat.add_assoc] at hbefore
      · intro hall
        refine ⟨fun hlength => hall [] first descs rfl hlength, ?_⟩
        intro before iso after heq hlength
        have hbefore := hall (first :: before) iso after (congrArg (first :: ·) heq) hlength
        rw [Nat.add_assoc]
        exact hbefore

section Step

variable {size pos : Nat} {iso : UsbIpIsoPacketDescriptor} {descs : List UsbIpIsoPacketDescriptor}

theorem slices_empty (hlength : iso.length = 0) (dataPos : UInt64) :
    slices size dataPos (iso :: descs) = slices size dataPos descs := by
  rw [slices, hlength]
  simp

theorem toNat_room (hsize : size < 2 ^ 32) (hpos : pos ≤ size) :
    (UInt64.ofNat size - UInt64.ofNat pos).toNat = size - pos := by
  rw [UInt64.toNat_sub, UInt64.toNat_ofNat', UInt64.toNat_ofNat']
  omega

theorem toNat_room_pos (hsize : size < 2 ^ 32) (hover : size < pos) (hpos : pos < 2 ^ 64) :
    0 < (UInt64.ofNat size - UInt64.ofNat pos).toNat := by
  rw [UInt64.toNat_sub, UInt64.toNat_ofNat', UInt64.toNat_ofNat']
  omega

theorem ofNat_add_length (length : UInt32) :
    UInt64.ofNat pos + length.toUInt64 = UInt64.ofNat (pos + length.toNat) := by
  rw [UInt64.ofNat_add]
  exact congrArg (UInt64.ofNat pos + ·) (UInt64.toNat.inj (by simp))

/-- A packet that begins in the buffer, or right behind it, is cut off at its end. -/
theorem slices_within (hsize : size < 2 ^ 32) (hpos : pos ≤ size) :
    slices size (.ofNat pos) (iso :: descs) =
      if min iso.length.toNat (size - pos) > 0 then
        ⟨pos, min iso.length.toNat (size - pos)⟩ ::
          slices size (.ofNat (pos + iso.length.toNat)) descs
      else slices size (.ofNat (pos + iso.length.toNat)) descs := by
  have hfits : (UInt64.ofNat pos).toNat = pos := 
    UInt64.toNat_ofNat_of_lt' (lt_of_le_of_lt hpos (lt_trans hsize (by decide)))
  rw [slices, toNat_room hsize hpos, ofNat_add_length, hfits]

/-- Behind the end of the buffer the room left wraps round, and the packet gets a slice out of
bounds. -/
theorem slices_beyond (hsize : size < 2 ^ 32) (hover : size < pos) (hpos : pos < 2 ^ 64)
    (hlength : iso.length ≠ 0) :
    ∃ take > 0, (⟨pos, take⟩ : BufferRange) ∈ slices size (.ofNat pos) (iso :: descs) := by
  have hfits : (UInt64.ofNat pos).toNat = pos := UInt64.toNat_ofNat_of_lt' hpos
  have htake : min iso.length.toNat (UInt64.ofNat size - UInt64.ofNat pos).toNat > 0 := by
    refine Nat.lt_min.mpr ⟨?_, toNat_room_pos hsize hover hpos⟩
    exact Nat.pos_of_ne_zero fun hzero => hlength (UInt32.toNat.inj hzero)
  refine ⟨_, htake, ?_⟩
  rw [slices, if_pos htake, hfits]
  exact List.mem_cons_self

end Step

/-- Packets that begin inside are given slices one behind the other up to the end. -/
theorem kept_of_startsInside {size pos : Nat} {descs : List UsbIpIsoPacketDescriptor}
    (hsize : size < 2 ^ 32) (hstart : StartsInside size pos descs) :
    slices size (.ofNat pos) descs = [] ∨
      Consecutive pos (slices size (.ofNat pos) descs) ∧
        pos + ((slices size (.ofNat pos) descs).map BufferRange.size).sum ≤ size := by
  induction descs generalizing pos with
  | nil => exact .inl rfl
  | cons iso descs ih =>
      obtain ⟨hfirst, hrest⟩ := hstart
      have hkept := ih hrest
      by_cases hlength : iso.length = 0
      · rw [hlength, UInt32.toNat_zero, Nat.add_zero] at hkept
        rw [slices_empty hlength]
        exact hkept
      · have hpos := hfirst hlength
        rw [slices_within hsize hpos]
        by_cases htake : min iso.length.toNat (size - pos) > 0
        · rw [if_pos htake]
          right
          rcases hkept with hnone | ⟨hconsecutive, hsum⟩
          · rw [hnone]
            refine ⟨⟨rfl, trivial⟩, ?_⟩
            simp only [List.map_cons, List.map_nil, List.sum_cons, List.sum_nil]
            omega
          · have hwhole : min iso.length.toNat (size - pos) = iso.length.toNat := by omega
            rw [hwhole]
            refine ⟨⟨rfl, hconsecutive⟩, ?_⟩
            rw [List.map_cons, List.sum_cons, ← Nat.add_assoc]
            exact hsum
        · rw [if_neg htake]
          refine hkept.imp_right fun hbehind => ?_
          have hnone : iso.length.toNat ≠ 0 := fun hzero => hlength (UInt32.toNat.inj hzero)
          omega

theorem Consecutive.offset_ge {pos : Nat} {slices : List BufferRange} (h : Consecutive pos slices) :
    ∀ slice ∈ slices, pos ≤ slice.offset := by
  induction slices generalizing pos with
  | nil => exact nofun
  | cons first slices ih =>
      obtain ⟨hfirst, hrest⟩ := h
      refine List.forall_mem_cons.mpr ⟨hfirst.ge, fun slice hslice => ?_⟩
      exact le_trans (Nat.le_add_right pos _) (ih hrest slice hslice)

theorem Consecutive.pairwise {pos : Nat} {slices : List BufferRange} (h : Consecutive pos slices) :
    slices.Pairwise fun slice later => slice.offset + slice.size ≤ later.offset := by
  induction slices generalizing pos with
  | nil => exact .nil
  | cons first slices ih =>
      obtain ⟨hfirst, hrest⟩ := h
      refine .cons (fun later hlater => ?_) (ih hrest)
      rw [hfirst]
      exact hrest.offset_ge later hlater

theorem Consecutive.end_le {pos : Nat} {slices : List BufferRange} (h : Consecutive pos slices) :
    ∀ slice ∈ slices, slice.offset + slice.size ≤
      pos + (slices.map BufferRange.size).sum := by
  induction slices generalizing pos with
  | nil => exact nofun
  | cons first slices ih =>
      obtain ⟨hfirst, hrest⟩ := h
      rw [List.map_cons, List.sum_cons, ← Nat.add_assoc]
      refine List.forall_mem_cons.mpr ⟨?_, ih hrest⟩
      rw [hfirst]
      exact Nat.le_add_right _ _

theorem toNat_totalReceived (slices : List BufferRange) :
    (totalReceived slices).toNat = (slices.map BufferRange.size).sum % 2 ^ 32 := by
  have hfold (total : UInt32) :
      (slices.foldl (fun total slice => total + .ofNat slice.size) total).toNat =
        (total.toNat + (slices.map BufferRange.size).sum) % 2 ^ 32 := by
    induction slices generalizing total with
    | nil => exact (Nat.mod_eq_of_lt total.toNat_lt).symm
    | cons slice slices ih =>
        rw [List.foldl_cons, ih, UInt32.toNat_add, UInt32.toNat_ofNat', List.map_cons,
          List.sum_cons]
        omega
  have htotal := hfold 0
  rwa [UInt32.toNat_zero, Nat.zero_add] at htotal

theorem startsInside_of_inside {data : List UInt8} {pos : Nat}
    {descs : List UsbIpIsoPacketDescriptor} (hsize : data.length < 2 ^ 32) (hpos : pos < 2 ^ 64)
    (hinside : ∀ slice ∈ slices data.length (.ofNat pos) descs, slice.Inside data) :
    StartsInside data.length pos descs := by
  induction descs generalizing pos with
  | nil => trivial
  | cons iso descs ih =>
      have hlength_lt := iso.length.toNat_lt
      by_cases hlength : iso.length = 0
      · rw [slices_empty hlength] at hinside
        refine ⟨fun hsome => absurd hlength hsome, ?_⟩
        rw [hlength]
        exact ih hpos hinside
      · rcases Nat.lt_or_ge data.length pos with hover | hwithin
        · obtain ⟨take, htake, hmem⟩ := @slices_beyond _ _ _ descs hsize hover hpos hlength
          rcases BufferRange.inside_iff.mp (hinside _ hmem) with hnone | hend
          · exact absurd hnone (Nat.ne_of_gt htake)
          · dsimp only at hend
            omega
        · rw [slices_within hsize hwithin] at hinside
          refine ⟨fun _ => hwithin, ih (by omega) fun slice hslice => hinside slice ?_⟩
          split
          · exact List.mem_cons_of_mem _ hslice
          · exact hslice

/-- What a speaker takes of a transfer lies in the data that has come for it if and only if every
packet that has a length begins there, or right behind it. -/
theorem slices_kept_iff (data : List UInt8) (descs : List UsbIpIsoPacketDescriptor)
    (hsize : data.length < 2 ^ 32) :
    SlicesKept data (slices data.length 0 descs) ↔
      ∀ before iso after, descs = before ++ iso :: after → iso.length ≠ 0 →
        claimedBytes before ≤ data.length := by
  have hcondition := @startsInside_iff data.length 0 descs
  simp only [Nat.zero_add] at hcondition
  rw [← hcondition]
  constructor
  · intro hkept
    exact startsInside_of_inside hsize (by decide) hkept.inside
  · intro hstart
    have htotal := toNat_totalReceived (slices data.length 0 descs)
    rcases kept_of_startsInside hsize hstart with hnone | ⟨hconsecutive, hsum⟩
    · have hnone : slices data.length 0 descs = [] := hnone
      rw [hnone]
      exact ⟨nofun, trivial, .nil, rfl, Nat.zero_le _⟩
    · rw [Nat.zero_add] at hsum
      exact
        { inside := fun slice hslice => BufferRange.inside_iff.mpr
            (.inr (le_trans (hconsecutive.end_le slice hslice) (by rwa [Nat.zero_add])))
          consecutive := hconsecutive
          disjoint := hconsecutive.pairwise
          total := htotal.trans (Nat.mod_eq_of_lt (lt_of_le_of_lt hsum hsize))
          total_le := hsum }

theorem slices_kept_iff_clipped :
    SlicesKept (.replicate 6 0) (slices 6 0 [⟨0, 4, 0, 0⟩, ⟨4, 4, 0, 0⟩]) ↔
      ∀ before iso after, [⟨0, 4, 0, 0⟩, ⟨4, 4, 0, 0⟩] = before ++ iso :: after →
        iso.length ≠ 0 → claimedBytes before ≤ 6 :=
  slices_kept_iff (.replicate 6 0) [⟨0, 4, 0, 0⟩, ⟨4, 4, 0, 0⟩] (by decide)

/-- Four bytes have come, and the first of two packets lays claim to eight. -/
theorem not_slices_kept :
    ¬ ∀ (data : List UInt8) (descs : List UsbIpIsoPacketDescriptor), data.length < 2 ^ 32 →
      SlicesKept data (slices data.length 0 descs) := by
  intro hkept
  have hinside := (hkept [1, 2, 3, 4] [⟨0, 8, 0, 0⟩, ⟨8, 4, 0, 0⟩] (by decide)).inside ⟨8, 4⟩
    (by decide)
  exact absurd hinside (by decide)

section Handler

variable {applyVolume : List UInt8 → List UInt8}

/-- A packet that begins inside is taken as far as the buffer goes. -/
theorem body_of_room {data : List UInt8} (hsize : data.length < 2 ^ 32) {pos : Nat}
    (hwithin : pos ≤ data.length) {iso : UsbIpIsoPacketDescriptor} {s : ReceiveCursor}
    (hlength : s.data.length = data.length) (hpos : s.dataPos = .ofNat pos)
    (hrest : ∀ i, pos ≤ i → s.data[i]? = data[i]?)
    (hroom : min iso.length.toNat (data.length - pos) > 0) :
    let pcm := applyVolume (bytesAt data pos (min iso.length.toNat (data.length - pos)))
    (packetLoop applyVolume).body s iso =
      (some (.ofNat (min iso.length.toNat (data.length - pos))),
        ⟨storeAt s.data pos pcm, .ofNat (pos + iso.length.toNat), s.samples ++ pcm⟩) := by
  have hfits : (UInt64.ofNat pos).toNat = pos :=
    UInt64.toNat_ofNat_of_lt' (lt_of_le_of_lt hwithin (lt_trans hsize (by decide)))
  simp only [packetLoop, hlength, hpos, toNat_room hsize hwithin, if_pos hroom, hfits,
    ofNat_add_length, bytesAt_congr fun i hfrom _ => hrest i hfrom]

/-- The loop takes the slices: what it has scaled in place is not looked at again. -/
theorem run_packetLoop (hvolume : ∀ pcm, (applyVolume pcm).length = pcm.length)
    {data : List UInt8} (hsize : data.length < 2 ^ 32) {pos : Nat}
    {descs : List UsbIpIsoPacketDescriptor} (hstart : StartsInside data.length pos descs)
    {s : ReceiveCursor} (hlength : s.data.length = data.length) (hpos : s.dataPos = .ofNat pos)
    (hrest : ∀ i, pos ≤ i → s.data[i]? = data[i]?) :
    bytesWritten ((packetLoop applyVolume).run descs.length descs s).1 =
        ((slices data.length (.ofNat pos) descs).map BufferRange.size).sum ∧
      ((packetLoop applyVolume).run descs.length descs s).2.samples = s.samples ++
        (slices data.length (.ofNat pos) descs).flatMap fun slice =>
          applyVolume (bytesAt data slice.offset slice.size) := by
  induction descs generalizing pos s with
  | nil => exact ⟨rfl, (List.append_nil _).symm⟩
  | cons iso descs ih =>
      obtain ⟨hfirst, hstart⟩ := hstart
      have hgoes : (packetLoop applyVolume).goesOn s = true := rfl
      rw [List.length_cons, PacketLoop.run, if_pos hgoes, slices, ofNat_add_length]
      by_cases hsome : min iso.length.toNat (UInt64.ofNat data.length - .ofNat pos).toNat > 0
      · have hwithin : pos ≤ data.length := hfirst fun hzero => by simp [hzero] at hsome
        have hfits : (UInt64.ofNat pos).toNat = pos :=
          UInt64.toNat_ofNat_of_lt' (lt_of_le_of_lt hwithin (lt_trans hsize (by decide)))
        rw [if_pos hsome, toNat_room hsize hwithin, hfits]
        rw [toNat_room hsize hwithin] at hsome
        have htaken : min iso.length.toNat (data.length - pos) ≤ iso.length.toNat :=
          Nat.min_le_left _ _
        have hroom : min iso.length.toNat (data.length - pos) ≤ data.length - pos :=
          Nat.min_le_right _ _
        rw [body_of_room hsize hwithin hlength hpos hrest hsome]
        generalize min iso.length.toNat (data.length - pos) = take at htaken hroom ⊢
        have hpcm : (applyVolume (bytesAt data pos take)).length = take := by
          rw [hvolume, length_bytesAt]
        have hinside : pos + (applyVolume (bytesAt data pos take)).length ≤ s.data.length := by
          omega
        have hbehind (i : Nat) (hi : pos + iso.length.toNat ≤ i) :
            (storeAt s.data pos (applyVolume (bytesAt data pos take)))[i]? = data[i]? := by
          rw [getElem?_storeAt hinside, hpcm, hrest i (by omega)]
          exact if_neg (by omega)
        obtain ⟨hbytes, hsamples⟩ := @ih _ hstart ⟨_, _, _⟩
          ((length_storeAt hinside).trans hlength) rfl hbehind
        have hwritten : (UInt32.ofNat take).toNat = take :=
          UInt32.toNat_ofNat_of_lt' (lt_of_le_of_lt htaken iso.length.toNat_lt)
        constructor
        · refine (congrArg₂ (· + ·) hwritten hbytes).trans ?_
          rw [List.map_cons, List.sum_cons]
        · rw [List.flatMap_cons, ← List.append_assoc]
          exact hsamples
      · have hbody : (packetLoop applyVolume).body s iso =
            (none, { s with dataPos := .ofNat (pos + iso.length.toNat) }) := by
          simp only [packetLoop, hlength, hpos, if_neg hsome, ofNat_add_length]
        rw [if_neg hsome, hbody]
        obtain ⟨hbytes, hsamples⟩ := @ih _ hstart
          { s with dataPos := .ofNat (pos + iso.length.toNat) } hlength rfl
          fun i hi => hrest i (by omega)
        refine ⟨?_, hsamples⟩
        rw [← hbytes]
        exact Nat.zero_add _

/-- A speaker whose packets begin inside is given the samples of the slices, and tells how many
bytes they are. -/
theorem processIsoOut_slices (hvolume : ∀ pcm, (applyVolume pcm).length = pcm.length)
    {trx : GenericTransfer} (hsize : trx.data.length < 2 ^ 32)
    (hstart : StartsInside trx.data.length 0 trx.isoDescriptors)
    (handler : UacAudioStreamingSinkHandler) :
    let taken := slices trx.data.length 0 trx.isoDescriptors
    ((handler.processIsoOut trx applyVolume).2.elim 0 fun packets => totalSent packets.written) =
        totalReceived taken ∧
      (handler.processIsoOut trx applyVolume).1.samples = handler.samples ++
        taken.flatMap fun slice => applyVolume (bytesAt trx.data slice.offset slice.size) := by
  obtain ⟨hbytes, hsamples⟩ := @run_packetLoop applyVolume hvolume _ hsize _ _ hstart
    ⟨trx.data, 0, handler.samples⟩ rfl rfl fun _ _ => rfl
  refine ⟨UInt32.toNat.inj ?_, hsamples⟩
  rw [toNat_totalReceived]
  refine (toNat_totalSent _).trans ?_
  rw [hbytes]
  rfl

end Handler

end Usbipdcpp.VirtualDevice.UacAudioStreamingSinkHandler
