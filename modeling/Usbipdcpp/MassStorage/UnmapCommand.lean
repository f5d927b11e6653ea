import Usbipdcpp.MassStorage.DataTransfers

namespace Usbipdcpp.MassStorage

open Foundation.TransitionSystem
open Foundation.Chunks
open Protocol (BotState)
open MscBulkOnlyHandler

variable {Medium : Type}

def descriptorAt (data : List UInt8) (offset : Nat) : UnmapBlockDescriptor :=
  ⟨getBe64 (data.drop offset), getBe32 (data.drop (offset + 8))⟩

/-- The descriptors at the offsets 8, 24, 40 and so on, in order, that the data has room for. -/
def AreDescriptors (data : List UInt8) (descs : List UnmapBlockDescriptor) : Prop :=
  ∀ k, descs[k]? =
    if 8 + 16 * k + 16 ≤ data.length then some (descriptorAt data (8 + 16 * k)) else none

/-- Every descriptor of the data is punched when the last byte is there, and nothing before. -/
def UnmapsWhole (s : MscBulkOnlyHandler Medium) (transfers : List (List UInt8)) : Prop :=
  ∃ descs, AreDescriptors transfers.flatten descs ∧
    ∀ before after, transfers = before ++ after →
      ∃ t, receiveAll s before = some t ∧
        t.accesses = s.accesses ++
          (if before.flatten.length = transfers.flatten.length then punches descs else []) ∧
        (t.state = .status ↔ before.flatten.length = transfers.flatten.length)

/-- Where the transfers have reached the length of the data as 16 bits have it, all of the data is
there. -/
def ComesWhole (transfers : List (List UInt8)) : Prop :=
  ∀ before after, transfers = before ++ after → before ≠ [] →
    transfers.flatten.length % 2 ^ 16 ≤ before.flatten.length →
    before.flatten.length = transfers.flatten.length

theorem areDescriptors_unmapBlockDescriptors (data : List UInt8) :
    AreDescriptors data (unmapBlockDescriptors data) := by
  intro k
  rw [unmapBlockDescriptors, List.getElem?_map]
  split
  next hfits =>
    rw [List.getElem?_range (by omega), Option.map_some]
    dsimp only
    rw [List.drop_drop, descriptorAt]
  next hbeyond =>
    rw [List.getElem?_eq_none (by rw [List.length_range]; omega), Option.map_none]

theorem AreDescriptors.unique {data : List UInt8} {descs : List UnmapBlockDescriptor}
    (h : AreDescriptors data descs) : descs = unmapBlockDescriptors data :=
  List.ext_getElem? fun k => (h k).trans (areDescriptors_unmapBlockDescriptors data k).symm

/-- UNMAP's data is being gathered. -/
structure GathersList (backend : StorageBackend Medium) (needed : Nat)
    (accesses : List MediumAccess) (data : List UInt8) (s : MscBulkOnlyHandler Medium) : Prop where
  state : s.state = .dataOut
  unmap : s.dataOutUnmap = true
  base : s.writeMmapBase = none
  backend : s.backend = some backend
  data : s.stagingData = data
  needed : s.writeCount.toNat = needed
  accesses : s.accesses = accesses

/-- UNMAP's data has been dealt with. -/
structure HasPunched (accesses : List MediumAccess) (data : List UInt8)
    (s : MscBulkOnlyHandler Medium) : Prop where
  state : s.state = .status
  accesses : s.accesses = accesses ++ punches (unmapBlockDescriptors data)

section Unmap

variable {backend : StorageBackend Medium} {needed : Nat} {accesses : List MediumAccess}
  {P : Medium → Prop} {s t : MscBulkOnlyHandler Medium}

theorem gathers_unmap : Gathers receive needed (GathersList backend needed accesses)
    (fun data (s : MscBulkOnlyHandler Medium) => HasPunched accesses data s) where
  wait data s bytes hs hshort := by
    rw [receive_of_staged hs.state hs.base, onData, if_pos hs.unmap, onUnmapData,
      if_neg (by rw [hs.data, hs.needed]; exact Nat.not_le.mpr hshort)]
    refine ⟨_, rfl, hs.state, hs.unmap, hs.base, hs.backend, ?_, hs.needed, hs.accesses⟩
    rw [hs.data]
  finish data s bytes hs hfull := by
    rw [receive_of_staged hs.state hs.base, onData, if_pos hs.unmap, onUnmapData,
      if_pos (by rw [hs.data, hs.needed]; exact hfull),
      foldlM_punchDescriptor (by exact hs.backend)]
    refine ⟨_, rfl, rfl, ?_⟩
    rw [hs.accesses, hs.data]
  stay data s bytes hs := receive_of_status hs.state

/-- Where the data comes whole, it is enough when its last byte is there. -/
theorem enough_of_comesWhole {transfers before after : List (List UInt8)}
    (hwhole : ComesWhole transfers) (hdata : transfers.flatten ≠ [])
    (htransfers : transfers = before ++ after) :
    enough (transfers.flatten.length % 2 ^ 16) [] before =
      if before.flatten.length = transfers.flatten.length then some transfers.flatten
      else none := by
  split
  next hall =>
    have hbefore : before ≠ [] := by
      rintro rfl
      exact hdata (List.eq_nil_of_length_eq_zero hall.symm)
    have henough : (enough (transfers.flatten.length % 2 ^ 16) [] before).isSome := by
      rw [isSome_enough_iff, List.nil_append, hall]
      exact ⟨hbefore, Nat.mod_le _ _⟩
    obtain ⟨data, hsome⟩ := Option.isSome_iff_exists.mp henough
    have hflat : before.flatten = transfers.flatten := by
      rw [htransfers, List.flatten_append, List.length_append] at hall
      rw [htransfers, List.flatten_append, List.eq_nil_of_length_eq_zero
        (by omega : after.flatten.length = 0), List.append_nil]
    rw [hsome, ← hflat]
    apply congrArg some
    refine eq_flatten_of_enough ?_ hsome
    rintro early late rfl hearly hreached
    rw [hall]
    exact hwhole early (late ++ after) (by rw [htransfers, List.append_assoc]) hearly hreached
  next hall =>
    rw [← Option.not_isSome_iff_eq_none, isSome_enough_iff]
    rintro ⟨hbefore, hreached⟩
    exact hall (hwhole before after htransfers hbefore hreached)

theorem unmapsWhole_iff (hs : GathersList backend needed accesses [] s)
    {transfers : List (List UInt8)} (hneeded : needed = transfers.flatten.length % 2 ^ 16)
    (hdata : transfers.flatten ≠ []) : UnmapsWhole s transfers ↔ ComesWhole transfers := by
  subst hneeded
  constructor
  · rintro ⟨descs, -, hruns⟩ before after htransfers hbefore hreached
    obtain ⟨t, ht, -, hstatus⟩ := hruns before after htransfers
    apply hstatus.mp
    obtain ⟨u, hu, hdone, -⟩ := gathers_unmap.foldlM hs before
    obtain rfl : t = u := Option.some.inj (ht.symm.trans hu)
    have henough : (enough (transfers.flatten.length % 2 ^ 16) [] before).isSome :=
      isSome_enough_iff.mpr ⟨hbefore, hreached⟩
    obtain ⟨data, hsome⟩ := Option.isSome_iff_exists.mp henough
    exact (hdone data hsome).state
  · intro hwhole
    refine ⟨_, areDescriptors_unmapBlockDescriptors _, fun before after htransfers => ?_⟩
    obtain ⟨t, ht, hdone, hwait⟩ := gathers_unmap.foldlM hs before
    refine ⟨t, ht, ?_⟩
    have henough := enough_of_comesWhole hwhole hdata htransfers
    by_cases hall : before.flatten.length = transfers.flatten.length
    · rw [if_pos hall] at henough
      have hpunched := hdone _ henough
      rw [if_pos hall, hs.accesses]
      exact ⟨hpunched.accesses, iff_of_true hpunched.state hall⟩
    · rw [if_neg hall] at henough
      have hwaits := hwait henough
      rw [if_neg hall, List.append_nil, hs.accesses]
      refine ⟨hwaits.accesses, iff_of_false ?_ hall⟩
      rw [hwaits.state]
      exact BotState.noConfusion

/-- The wrapper of UNMAP begins the list. -/
theorem gathersList_of_unmap {bytes : List UInt8} (hworks : WorksWith backend false P s)
    (hstate : s.state = .idle) (h : Cbw.size ≤ bytes.length)
    (hsignature : (Cbw.ofBytes bytes h).signature = Cbw.signatureValue)
    (hcommand : (s.loadCbw (.ofBytes bytes h)).command = some .unmap)
    (hlength : (Cbw.ofBytes bytes h).dataTransferLength ≠ 0) :
    ∃ t, receive s bytes = some t ∧
      GathersList backend ((Cbw.ofBytes bytes h).dataTransferLength.toNat % 2 ^ 16) s.accesses
        [] t := by
  have hwritable : (s.loadCbw (.ofBytes bytes h)).readOnly = false := hworks.readOnly
  refine ⟨(s.loadCbw (.ofBytes bytes h)).unmapBegin, ?_, ?_⟩
  · rw [receive_of_idle hstate, onCommand_of_signature h hsignature, execute, hcommand]
    dsimp only
    rw [MscBulkOnlyHandler.unmap, hwritable, if_neg Bool.false_ne_true]
    exact congrArg some (if_neg hlength)
  · exact ⟨rfl, rfl, rfl, hworks.backend, rfl, rfl, rfl⟩

/-- A list whose length fits in 16 bits always comes whole. -/
theorem comesWhole_of_small {transfers : List (List UInt8)}
    (hsmall : transfers.flatten.length < 2 ^ 16) : ComesWhole transfers := by
  rintro before after htransfers - hreached
  rw [Nat.mod_eq_of_lt hsmall] at hreached
  rw [htransfers, List.flatten_append, List.length_append] at hreached ⊢
  omega

/-- On a writable medium the list of UNMAP, however it is split, is dealt with as a whole just where
its length in 16 bits is not reached before its end. -/
theorem unmap_whole_iff {config : MscConfig} {medium : Medium} {bytes : List UInt8}
    (transfers : List (List UInt8))
    (hs : Reachable (system (some backend) false config medium) s) (hstate : s.state = .idle)
    (h : Cbw.size ≤ bytes.length)
    (hsignature : (Cbw.ofBytes bytes h).signature = Cbw.signatureValue)
    (hcommand : ScsiCmd.ofOpcode ((Cbw.ofBytes bytes h).cdbByte 0) = some .unmap)
    (hlength : (Cbw.ofBytes bytes h).dataTransferLength ≠ 0)
    (hdata : transfers.flatten.length = (Cbw.ofBytes bytes h).dataTransferLength.toNat) :
    ∃ t, receive s bytes = some t ∧ t.accesses = s.accesses ∧
      (UnmapsWhole t transfers ↔ ComesWhole transfers) := by
  have hworks : WorksWith backend false (fun _ => True) s :=
    worksWith_of_reachable ⟨fun _ _ _ _ _ => trivial, fun _ _ _ _ => trivial,
      fun _ _ _ _ _ => trivial⟩ trivial hs
  obtain ⟨t, ht, hgathers⟩ := gathersList_of_unmap hworks hstate h hsignature hcommand hlength
  refine ⟨t, ht, hgathers.accesses, ?_⟩
  rw [← hdata, ← hgathers.accesses] at hgathers
  refine unmapsWhole_iff hgathers rfl ?_
  rintro hnil
  rw [hnil, List.length_nil] at hdata
  exact hlength (UInt32.toNat_inj.mp hdata.symm)

end Unmap

/-- A list of one descriptor is dealt with whole, in whatever pieces it comes. -/
theorem unmap_whole_instance :
    ∃ t, receive (create (some (memoryBackend 4 2)) false ⟨[], [], [], []⟩ (.replicate 8 1))
        (Cbw.ofCommand 1 24 false [0x42]).toBytes = some t ∧
      UnmapsWhole t
        [[0, 22, 0, 16], [0, 0, 0, 0, 0, 0, 0, 0, 0, 0, 0, 1, 0, 0, 0, 2, 0, 0, 0, 0]] := by
  have hcbw := Cbw.ofBytes_toBytes (Cbw.ofCommand 1 24 false [0x42])
  obtain ⟨t, ht, -, hiff⟩ := unmap_whole_iff
    [[0, 22, 0, 16], [0, 0, 0, 0, 0, 0, 0, 0, 0, 0, 0, 1, 0, 0, 0, 2, 0, 0, 0, 0]]
    (s := create (some (memoryBackend 4 2)) false ⟨[], [], [], []⟩ (.replicate 8 1))
    (.initial rfl) rfl (Cbw.length_toBytes (Cbw.ofCommand 1 24 false [0x42])).ge
    (by rw [hcbw]; rfl) (by rw [hcbw]; rfl) (by rw [hcbw]; decide) (by rw [hcbw]; rfl)
  exact ⟨t, ht, hiff.mpr (comesWhole_of_small (by decide))⟩

/-- A list of 65536 bytes is taken for complete with its first transfer. -/
theorem not_unmaps_whole :
    ∃ t, receive (create (some (memoryBackend 4 2)) false ⟨[], [], [], []⟩ (.replicate 8 1))
        (Cbw.ofCommand 1 65536 false [0x42]).toBytes = some t ∧
      ¬UnmapsWhole t [.replicate 32768 0, .replicate 32768 0] := by
  have hcbw := Cbw.ofBytes_toBytes (Cbw.ofCommand 1 65536 false [0x42])
  have hworks : WorksWith (memoryBackend 4 2) false (fun _ => True)
      (create (some (memoryBackend 4 2)) false ⟨[], [], [], []⟩ (.replicate 8 1)) :=
    ⟨rfl, rfl, trivial⟩
  obtain ⟨t, ht, hgathers⟩ := gathersList_of_unmap hworks rfl
    (Cbw.length_toBytes (Cbw.ofCommand 1 65536 false [0x42])).ge
    (by rw [hcbw]; rfl) (by rw [hcbw]; rfl) (by rw [hcbw]; decide)
  have hlength : [List.replicate 32768 (0 : UInt8), .replicate 32768 0].flatten.length = 65536 := by
    simp only [List.flatten_cons, List.flatten_nil, List.append_nil, List.length_append,
      List.length_replicate]
  refine ⟨t, ht, ?_⟩
  have haccesses := hgathers.accesses
  rw [hcbw, ← haccesses] at hgathers
  have hdata := List.ne_nil_of_length_eq_add_one hlength
  rw [unmapsWhole_iff hgathers (by rw [hlength]; rfl) hdata]
  intro hwhole
  have hfirst := hwhole [.replicate 32768 0] [.replicate 32768 0] rfl (List.cons_ne_nil _ _)
  rw [hlength, List.flatten_singleton, List.length_replicate] at hfirst
  exact absurd (hfirst (by decide)) (by decide)

end Usbipdcpp.MassStorage
