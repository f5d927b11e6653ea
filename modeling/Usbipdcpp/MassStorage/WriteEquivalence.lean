import Usbipdcpp.MassStorage.LinearMedium

namespace Usbipdcpp.MassStorage

open Foundation.TransitionSystem
open Foundation.Chunks
open Protocol (BotState bytesAt storeAt storeAt_nil storeAt_storeAt getElem?_storeAt)
open MscBulkOnlyHandler

/-- WRITE (10) has begun, for `size` bytes that belong at `start` on the medium. -/
structure Writes (backend : StorageBackend (List UInt8)) (cbw : Cbw) (start size : Nat)
    (s : MscBulkOnlyHandler (List UInt8)) : Prop where
  state : s.state = .dataOut
  unmap : s.dataOutUnmap = false
  writeSame : s.dataOutWriteSame = false
  uses : s.backend = some backend
  start : backend.position (lba10 cbw).toUInt64 0 = start
  count : s.writeCount.toNat * backend.blockSize.toNat = size

/-- The data so far is on the medium. -/
structure WritesMapped (backend : StorageBackend (List UInt8)) (cbw : Cbw) (start size : Nat)
    (medium data : List UInt8) (s : MscBulkOnlyHandler (List UInt8)) : Prop where
  writes : Writes backend cbw start size s
  base : s.writeMmapBase = some (lba10 cbw).toUInt64
  accumulated : s.writeAccumulated = data.length
  room : start + size ≤ medium.length
  short : data.length ≤ size
  medium : s.medium = storeAt medium start data

/-- The data so far waits in `staging_data_`. -/
structure WritesStaged (backend : StorageBackend (List UInt8)) (cbw : Cbw) (start size : Nat)
    (medium data : List UInt8) (s : MscBulkOnlyHandler (List UInt8)) : Prop where
  writes : Writes backend cbw start size s
  base : s.writeMmapBase = none
  staged : s.stagingData = data
  lba : s.writeLba = (lba10 cbw).toUInt64
  range : s.writeLba + s.writeCount.toUInt64 ≤ backend.blockCount
  medium : s.medium = medium

/-- The data is on the medium, if there has been no more of it than announced. -/
structure HasWritten (start size : Nat) (medium data : List UInt8)
    (s : MscBulkOnlyHandler (List UInt8)) : Prop where
  state : s.state = .status
  medium : data.length = size → s.medium = storeAt medium start data

section Writing

variable {backend : StorageBackend (List UInt8)} {cbw : Cbw} {start size : Nat}
  {medium : List UInt8} {s : MscBulkOnlyHandler (List UInt8)}

theorem Writes.onData_mapped {base : UInt64} {length : Nat}
    (h : Writes backend cbw start size s) (hbase : s.writeMmapBase = some base) :
    s.onData length =
      some (if size ≤ s.writeAccumulated + length then
        { s with writeMmapBase := none, writeAccumulated := 0, dataResidue := 0, state := .status }
      else { s with writeAccumulated := s.writeAccumulated + length }) := by
  rw [MscBulkOnlyHandler.onData, if_neg (by rw [h.unmap]; exact Bool.false_ne_true),
    if_neg (by rw [h.writeSame]; exact Bool.false_ne_true), if_pos (by rw [hbase]; rfl),
    MscBulkOnlyHandler.onMappedData, h.uses, Option.map_some, h.count]

theorem Writes.onData_staged {length : Nat} (h : Writes backend cbw start size s)
    (hbase : s.writeMmapBase = none)
    (hrange : s.writeLba + s.writeCount.toUInt64 ≤ backend.blockCount) :
    s.onData length =
      some (if size ≤ s.stagingData.length then
        { s.writeBlocks backend s.writeLba s.writeCount s.stagingData with
          stagingData := [], dataResidue := 0, state := .status }
      else s) := by
  rw [MscBulkOnlyHandler.onData, if_neg (by rw [h.unmap]; exact Bool.false_ne_true),
    if_neg (by rw [h.writeSame]; exact Bool.false_ne_true),
    if_neg (by rw [hbase]; exact Bool.false_ne_true), MscBulkOnlyHandler.onStagedData, h.uses,
    Option.map_some, h.count]
  simp only [hrange, true_and]

/-- Received data goes on where the last has stopped. -/
theorem WritesMapped.medium_receiveMapped {data bytes : List UInt8} (hlinear : backend.Linear)
    (h : WritesMapped backend cbw start size medium data s) :
    (s.receiveMapped (lba10 cbw).toUInt64 bytes.length bytes).medium =
      storeAt medium start (data ++ bytes) := by
  have hposition : backend.position (lba10 cbw).toUInt64 data.length = start + data.length := by
    rw [← h.writes.start]
    rfl
  have hroom : start + data.length ≤ medium.length :=
    (Nat.add_le_add_left h.short start).trans h.room
  simp only [MscBulkOnlyHandler.receiveMapped, h.writes.uses]
  rw [hlinear.store, h.accumulated, h.medium, hposition, storeAt_storeAt data bytes hroom]

theorem WritesMapped.receive {data bytes : List UInt8}
    (h : WritesMapped backend cbw start size medium data s) :
    receive s bytes = some
      (if size ≤ (data ++ bytes).length then
        { s.receiveMapped (lba10 cbw).toUInt64 bytes.length bytes with
          writeMmapBase := none, writeAccumulated := 0, dataResidue := 0, state := .status }
      else
        { s.receiveMapped (lba10 cbw).toUInt64 bytes.length bytes with
          writeAccumulated := (data ++ bytes).length }) := by
  have hwrites : Writes backend cbw start size
      (s.receiveMapped (lba10 cbw).toUInt64 bytes.length bytes) :=
    ⟨h.writes.state, h.writes.unmap, h.writes.writeSame, h.writes.uses, h.writes.start,
      h.writes.count⟩
  have hlength : (s.receiveMapped (lba10 cbw).toUInt64 bytes.length bytes).writeAccumulated +
      bytes.length = (data ++ bytes).length := by
    rw [List.length_append, ← h.accumulated]
    rfl
  rw [receive_of_mapped h.writes.state h.base, hwrites.onData_mapped h.base, hlength]

theorem gathers_mapped (hlinear : backend.Linear) :
    Gathers receive size (WritesMapped backend cbw start size medium)
      (HasWritten start size medium) where
  wait data s bytes hs hshort := by
    rw [hs.receive, if_neg (Nat.not_le.mpr hshort)]
    refine ⟨_, rfl, ?_, hs.base, rfl, hs.room, hshort.le, hs.medium_receiveMapped hlinear⟩
    exact ⟨hs.writes.state, hs.writes.unmap, hs.writes.writeSame, hs.writes.uses,
      hs.writes.start, hs.writes.count⟩
  finish data s bytes hs hfull := by
    rw [hs.receive, if_pos hfull]
    exact ⟨_, rfl, rfl, fun _ => hs.medium_receiveMapped hlinear⟩
  stay data s bytes hs := receive_of_status hs.state

theorem WritesStaged.receive {data bytes : List UInt8}
    (h : WritesStaged backend cbw start size medium data s) :
    receive s bytes = some
      (if size ≤ (data ++ bytes).length then
        { s.writeBlocks backend s.writeLba s.writeCount (data ++ bytes) with
          stagingData := [], dataResidue := 0, state := .status }
      else { s with stagingData := data ++ bytes }) := by
  have hwrites : Writes backend cbw start size
      ({ s with stagingData := data ++ bytes } : MscBulkOnlyHandler (List UInt8)) :=
    ⟨h.writes.state, h.writes.unmap, h.writes.writeSame, h.writes.uses, h.writes.start,
      h.writes.count⟩
  rw [receive_of_staged h.writes.state h.base, h.staged, hwrites.onData_staged h.base h.range]
  rfl

theorem gathers_staged (hlinear : backend.Linear) :
    Gathers receive size (WritesStaged backend cbw start size medium)
      (HasWritten start size medium) where
  wait data s bytes hs hshort := by
    rw [hs.receive, if_neg (Nat.not_le.mpr hshort)]
    refine ⟨_, rfl, ?_, hs.base, rfl, hs.lba, hs.range, hs.medium⟩
    exact ⟨hs.writes.state, hs.writes.unmap, hs.writes.writeSame, hs.writes.uses,
      hs.writes.start, hs.writes.count⟩
  finish data s bytes hs hfull := by
    rw [hs.receive, if_pos hfull]
    refine ⟨_, rfl, rfl, fun hlength => ?_⟩
    have hwhole : (data ++ bytes).take (s.writeCount.toNat * backend.blockSize.toNat) =
        data ++ bytes := by
      rw [hs.writes.count, ← hlength, List.take_length]
    simp only [MscBulkOnlyHandler.writeBlocks]
    rw [hlinear.write, hwhole, hs.lba, hs.writes.start, hs.medium]
  stay data s bytes hs := receive_of_status hs.state

/-- Either way, the medium holds the data with the last byte of it. -/
theorem written_of_gathers {waiting : List UInt8 → MscBulkOnlyHandler (List UInt8) → Prop}
    (hgathers : Gathers receive size waiting (HasWritten start size medium))
    (hwaiting : ∀ data u, waiting data u → u.state = .dataOut) (hs : waiting [] s)
    (hroom : start + size ≤ medium.length) {before after : List (List UInt8)}
    (hdata : (before ++ after).flatten.length = size) :
    ∃ u, receiveAll s before = some u ∧
      (u.state = .status ↔ before ≠ [] ∧ before.flatten.length = size) ∧
      (u.state = .status → ∀ i, u.medium[i]? =
        if start ≤ i ∧ i < start + size then (before ++ after).flatten[i - start]?
        else medium[i]?) := by
  obtain ⟨u, hu, hdone, hwait⟩ := hgathers.exact hs hdata
  by_cases hall : before ≠ [] ∧ before.flatten.length = size
  · have hwritten := hdone hall
    refine ⟨u, hu, iff_of_true hwritten.state hall, fun _ i => ?_⟩
    rw [hwritten.medium hdata, getElem?_storeAt (hdata ▸ hroom), hdata]
  · have hstate := hwaiting _ u (hwait hall)
    have hnot : u.state ≠ .status := by
      rw [hstate]
      exact BotState.noConfusion
    exact ⟨u, hu, iff_of_false hnot hall, fun hstatus => absurd hstatus hnot⟩

end Writing

section Command

variable {backend : StorageBackend (List UInt8)} {s : MscBulkOnlyHandler (List UInt8)}
  {bytes : List UInt8}

/-- The wrapper of WRITE (10) begins the data phase, the one way or the other. -/
theorem writes_of_write10 (hworks : WorksWith backend false backend.Fits s) (hsettled : Settled s)
    (hstate : s.state = .idle) (h : Cbw.size ≤ bytes.length)
    (hsignature : (Cbw.ofBytes bytes h).signature = Cbw.signatureValue)
    (hcommand : (s.loadCbw (.ofBytes bytes h)).command = some .write10)
    (honMedium : OnMedium backend (.ofBytes bytes h)) :
    ∃ t, receive s bytes = some t ∧
      (WritesMapped backend (.ofBytes bytes h)
          (start10 backend (.ofBytes bytes h)) (size10 backend (.ofBytes bytes h)) s.medium [] t ∨
        WritesStaged backend (.ofBytes bytes h)
          (start10 backend (.ofBytes bytes h)) (size10 backend (.ofBytes bytes h))
          s.medium [] t) := by
  set u := s.loadCbw (.ofBytes bytes h) with hu
  have hbackend : u.backend = some backend := hworks.backend
  have hwritable : u.readOnly = false := hworks.readOnly
  have hunmap : s.dataOutUnmap = false := hsettled.unmap (by simp [hstate])
  have hwriteSame : s.dataOutWriteSame = false := hsettled.writeSame (by simp [hstate])
  have hwrites : Writes backend (.ofBytes bytes h)
      (start10 backend (.ofBytes bytes h)) (size10 backend (.ofBytes bytes h))
      (u.write10 backend (lba10 u.currentCbw) (count10 u.currentCbw)) :=
    ⟨rfl, hunmap, hwriteSame, hbackend, rfl, rfl⟩
  refine ⟨u.write10 backend (lba10 u.currentCbw) (count10 u.currentCbw), ?_, ?_⟩
  · rw [receive_of_idle hstate, onCommand_of_signature h hsignature, ← hu, execute, hcommand]
    dsimp only
    rw [readWrite10_of_inRange hbackend (inRange10_of_onMedium hbackend honMedium),
      if_neg (by decide), hwritable, if_neg Bool.false_ne_true]
  · cases hdirect : backend.getDirectBuffer u.medium (lba10 u.currentCbw).toUInt64 with
    | true =>
        refine .inl ⟨hwrites, ?_, rfl, start10_add_size10_le honMedium hworks.medium,
          Nat.zero_le _, storeAt_nil.symm⟩
        exact if_pos hdirect
    | false =>
        refine .inr ⟨hwrites, ?_, ?_, rfl, ?_, rfl⟩
        · exact if_neg (by rw [hdirect]; exact Bool.false_ne_true)
        · exact if_neg (by rw [hdirect]; exact Bool.false_ne_true)
        · exact le_blockCount_of_onMedium honMedium

/-- In a WRITE (10) on the medium, however its data is split and whether or not the medium is
mapped, the blocks of the range hold the data when its last byte is there, and all else is as it
was. -/
theorem write_equivalent {config : MscConfig} {medium : List UInt8}
    (transfers : List (List UInt8)) (hlinear : backend.Linear) (hfits : backend.Fits medium)
    (hs : Reachable (system (some backend) false config medium) s) (hstate : s.state = .idle)
    (h : Cbw.size ≤ bytes.length)
    (hsignature : (Cbw.ofBytes bytes h).signature = Cbw.signatureValue)
    (hcommand : ScsiCmd.ofOpcode ((Cbw.ofBytes bytes h).cdbByte 0) = some .write10)
    (honMedium : OnMedium backend (.ofBytes bytes h))
    (hdata : transfers.flatten.length = size10 backend (.ofBytes bytes h)) :
    ∃ t, receive s bytes = some t ∧
      ∀ before after, transfers = before ++ after →
        ∃ u, receiveAll t before = some u ∧
          (u.state = .status ↔
            before ≠ [] ∧ before.flatten.length = size10 backend (.ofBytes bytes h)) ∧
          (u.state = .status → ∀ i, u.medium[i]? =
            if start10 backend (.ofBytes bytes h) ≤ i ∧ i < start10 backend (.ofBytes bytes h) +
                size10 backend (.ofBytes bytes h) then
              transfers.flatten[i - start10 backend (.ofBytes bytes h)]?
            else s.medium[i]?) := by
  have hworks := hlinear.worksWith hfits hs
  have hroom := start10_add_size10_le honMedium hworks.medium
  obtain ⟨t, ht, hwrites⟩ :=
    writes_of_write10 hworks (settled_of_reachable hs) hstate h hsignature hcommand honMedium
  refine ⟨t, ht, ?_⟩
  rintro before after rfl
  rcases hwrites with hmapped | hstaged
  · exact written_of_gathers (gathers_mapped hlinear) (fun data u hu => hu.writes.state) hmapped
      hroom hdata
  · exact written_of_gathers (gathers_staged hlinear) (fun data u hu => hu.writes.state) hstaged
      hroom hdata

end Command

/-- Two blocks are written to memory that is not mapped, in two transfers. -/
theorem write_equivalent_instance :
    ∃ t u,
      receive (create (some { memoryBackend 4 2 with getDirectBuffer := fun _ _ => false }) false
          ⟨[], [], [], []⟩ (.replicate 8 1))
        (Cbw.ofCommand 1 4 false [0x2A, 0, 0, 0, 0, 1, 0, 0, 2]).toBytes = some t ∧
      receiveAll t [[7], [8, 9, 10]] = some u ∧ u.state = .status := by
  have hcbw := Cbw.ofBytes_toBytes (Cbw.ofCommand 1 4 false [0x2A, 0, 0, 0, 0, 1, 0, 0, 2])
  obtain ⟨t, ht, hruns⟩ := write_equivalent [[7], [8, 9, 10]]
    (s := create (some { memoryBackend 4 2 with getDirectBuffer := fun _ _ => false }) false
      ⟨[], [], [], []⟩ (.replicate 8 1))
    (linear_memoryBackend.setGetDirectBuffer fun _ _ => false) (by decide) (.initial rfl) rfl
    (Cbw.length_toBytes (Cbw.ofCommand 1 4 false [0x2A, 0, 0, 0, 0, 1, 0, 0, 2])).ge
    (by rw [hcbw]; rfl) (by rw [hcbw]; rfl) (by rw [hcbw]; decide) (by rw [hcbw]; rfl)
  obtain ⟨u, hu, hstatus, -⟩ := hruns [[7], [8, 9, 10]] [] rfl
  refine ⟨t, u, ht, hu, hstatus.mpr ⟨List.cons_ne_nil _ _, ?_⟩⟩
  rw [hcbw]
  rfl

end Usbipdcpp.MassStorage
