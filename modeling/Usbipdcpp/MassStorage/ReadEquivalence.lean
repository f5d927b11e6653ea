import Usbipdcpp.MassStorage.LinearMedium
import Usbipdcpp.MassStorage.ReplyStability

namespace Usbipdcpp.MassStorage

open Foundation.TransitionSystem
open Protocol (BotState bytesAt bytesAt_append bytesAt_eq_take_drop length_bytesAt
  take_drop_bytesAt)
open MscBulkOnlyHandler

/-- The replies to IN transfers as long as there is data to send. -/
def dataReplies {Medium : Type} (s : MscBulkOnlyHandler Medium) :
    List UInt32 → Option (MscBulkOnlyHandler Medium × List Answer)
  | [] => some (s, [])
  | length :: lengths =>
      if s.state = .dataIn then
        (exchange s (.in_ length)).bind fun p =>
          (dataReplies p.1 lengths).map fun q => (q.1, p.2.toList ++ q.2)
      else some (s, [])

/-- The answer has gone well and is as long as it says. -/
def Answer.Full (answer : Answer) : Prop :=
  answer.status = Protocol.UrbStatusType.statusOK ∧ answer.actualLength.toNat = answer.data.length

/-- READ (10) has begun, and the next byte to send is the one at `offset`. -/
structure Sends (backend : StorageBackend (List UInt8)) (cbw : Cbw) (medium : List UInt8)
    (offset : Nat) (s : MscBulkOnlyHandler (List UInt8)) : Prop where
  state : s.state = .dataIn
  handedOut : s.stagingOffset = offset
  short : offset ≤ size10 backend cbw
  total : s.total = size10 backend cbw
  source :
    (s.readMmapBase = some (lba10 cbw).toUInt64 ∧ s.backend = some backend ∧ s.medium = medium) ∨
    (s.readMmapBase = none ∧
      s.stagingData = bytesAt medium (start10 backend cbw) (size10 backend cbw))

section Sending

variable {backend : StorageBackend (List UInt8)} {cbw : Cbw} {medium : List UInt8} {offset : Nat}
  {s t : MscBulkOnlyHandler (List UInt8)}

/-- Either way, a reply refers to what is on the medium. -/
theorem Sends.bytes_dataSource (hlinear : backend.Linear) (h : Sends backend cbw medium offset s)
    {n : Nat} (hn : offset + n ≤ size10 backend cbw) :
    (s.dataSource n).bytes s = bytesAt medium (start10 backend cbw + offset) n := by
  unfold MscBulkOnlyHandler.dataSource
  rcases h.source with ⟨hbase, hbackend, hmedium⟩ | ⟨hbase, hstaged⟩
  · rw [hbase]
    simp only [ReplySource.bytes, hbackend]
    rw [hlinear.load, hmedium, h.handedOut]
    rfl
  · rw [hbase]
    simp only [ReplySource.bytes]
    rw [hstaged, h.handedOut, take_drop_bytesAt hn]

theorem Sends.handOut (h : Sends backend cbw medium offset s) {n : Nat}
    (hn : offset + n ≤ size10 backend cbw) :
    Sends backend cbw medium (offset + n) (s.handOut n) :=
  ⟨h.state, congrArg (· + n) h.handedOut, hn, h.total, h.source⟩

/-- The data phase ends with its last byte. -/
theorem Sends.finishDataIn (h : Sends backend cbw medium offset s) :
    (offset < size10 backend cbw → Sends backend cbw medium offset s.finishDataIn) ∧
      (size10 backend cbw ≤ offset → s.finishDataIn.state = .status) := by
  unfold MscBulkOnlyHandler.finishDataIn
  rw [h.total, h.handedOut]
  constructor
  · intro hleft
    rw [if_neg (Nat.not_le.mpr hleft)]
    exact h
  · intro hall
    rw [if_pos hall]

theorem exchange_in_of_dataIn (hstate : s.state = .dataIn) (length : UInt32) :
    exchange s (.in_ length) = some ((s.handleBulkIn length).1,
      some ((s.handleBulkIn length).2.answer (s.handleBulkIn length).1)) := by
  have hreceived : s.onOutDataReceived [] 0 = some s :=
    onOutDataReceived_of_other (by simp [hstate]) (by simp [hstate])
  rw [exchange, MscBulkOnlyHandler.transfer, hreceived]
  rfl

theorem Sends.handleBulkIn (h : Sends backend cbw medium offset s) (length : UInt32) {n : Nat}
    (hn : n = min length.toNat (size10 backend cbw - offset)) :
    s.handleBulkIn length =
      if 0 < n then
        ((s.handOut n).finishDataIn,
          ⟨Protocol.UrbStatusType.statusOK, .ofNat n, s.dataSource n⟩)
      else (s.finishDataIn, ⟨Protocol.UrbStatusType.statusOK, 0, .none⟩) := by
  rw [MscBulkOnlyHandler.handleBulkIn, h.state]
  dsimp only
  rw [h.total, h.handedOut, ← hn]

/-- A transfer gets the next bytes, as many as there are for it. -/
theorem Sends.exchange (hlinear : backend.Linear) (h : Sends backend cbw medium offset s)
    (length : UInt32) {n : Nat} (hn : n = min length.toNat (size10 backend cbw - offset)) :
    ∃ t answer, exchange s (.in_ length) = some (t, some answer) ∧ answer.Full ∧
      answer.data = bytesAt medium (start10 backend cbw + offset) n ∧
      (offset + n < size10 backend cbw → Sends backend cbw medium (offset + n) t) ∧
      (size10 backend cbw ≤ offset + n → t.state = .status) := by
  have hroom : offset + n ≤ size10 backend cbw := by
    have hshort := h.short
    omega
  refine ⟨_, _, exchange_in_of_dataIn h.state length, ?_⟩
  have hsources : SameSources s (s.handleBulkIn length).1 := by
    have hanswered : InAnswered s (s.handleBulkIn length).1 (s.handleBulkIn length).2 :=
      inAnswered_of_dataIn h.state
    cases hanswered with
    | data _ _ hsources => exact hsources
    | tooShort hidle => exact absurd (h.state.symm.trans hidle) BotState.noConfusion
    | status hstatus => exact absurd (h.state.symm.trans hstatus) BotState.noConfusion
    | used hdata => exact absurd (h.state.symm.trans hdata) BotState.noConfusion
    | stalled hdata => exact absurd (h.state.symm.trans hdata) BotState.noConfusion
  rw [h.handleBulkIn length hn] at hsources ⊢
  split
  next hpos =>
    rw [if_pos hpos] at hsources
    have hdata := (hsources.bytes_eq (s.dataSource n)).trans (h.bytes_dataSource hlinear hroom)
    have hsize : n < 2 ^ 32 := by
      have hlength := length.toNat_lt
      omega
    refine ⟨⟨rfl, ?_⟩, hdata, (h.handOut hroom).finishDataIn⟩
    simp only [BulkReply.answer]
    rw [hdata, length_bytesAt, UInt32.toNat_ofNat_of_lt' hsize]
  next hnone =>
    obtain rfl : n = 0 := Nat.eq_zero_of_not_pos hnone
    exact ⟨⟨rfl, rfl⟩, rfl, h.finishDataIn⟩

theorem dataReplies_of_status (hstate : s.state = .status) (lengths : List UInt32) :
    dataReplies s lengths = some (s, []) := by
  cases lengths with
  | nil => rfl
  | cons length lengths =>
      rw [dataReplies, if_neg]
      rw [hstate]
      exact BotState.noConfusion

/-- The replies give the host the medium's bytes from `offset` on. -/
theorem Sends.dataReplies (hlinear : backend.Linear) (h : Sends backend cbw medium offset s)
    (lengths : List UInt32) :
    ∃ t answers, dataReplies s lengths = some (t, answers) ∧
      (answers.map Answer.data).flatten = bytesAt medium (start10 backend cbw + offset)
        (min (lengths.map UInt32.toNat).sum (size10 backend cbw - offset)) ∧
      (∀ answer ∈ answers, answer.Full) ∧
      (t.state = .status ↔ lengths ≠ [] ∧
        size10 backend cbw ≤ offset + (lengths.map UInt32.toNat).sum) := by
  induction lengths generalizing s offset with
  | nil =>
      refine ⟨s, [], rfl, ?_, ?_, ?_⟩
      · simp [bytesAt]
      · intro answer hanswer
        cases hanswer
      · rw [h.state]
        exact iff_of_false BotState.noConfusion fun hnil => hnil.1 rfl
  | cons length lengths ih =>
      obtain ⟨u, answer, hu, hfull, hdata, hmore, hlast⟩ := h.exchange hlinear length rfl
      have hshort := h.short
      rw [dataReplies, if_pos h.state, hu, Option.bind_some, List.map_cons, List.sum_cons]
      rcases Nat.lt_or_ge (offset + min length.toNat (size10 backend cbw - offset))
          (size10 backend cbw) with hleft | hall
      · obtain ⟨t, answers, ht, hbytes, hfulls, hstatus⟩ :=
          ih (hmore hleft)
        refine ⟨t, answer :: answers, ?_, ?_, ?_, ?_⟩
        · rw [ht]
          rfl
        · rw [List.map_cons, List.flatten_cons, hdata, hbytes, ← Nat.add_assoc, bytesAt_append]
          congr 1
          omega
        · intro a ha
          rcases List.mem_cons.mp ha with rfl | ha
          · exact hfull
          · exact hfulls a ha
        · rw [hstatus]
          constructor
          · rintro ⟨-, hall⟩
            exact ⟨List.cons_ne_nil length lengths, by omega⟩
          · rintro ⟨-, hall⟩
            refine ⟨?_, by omega⟩
            rintro rfl
            rw [List.map_nil, List.sum_nil] at hall
            omega
      · have hdone := hlast hall
        refine ⟨u, [answer], ?_, ?_, ?_, ?_⟩
        · rw [dataReplies_of_status hdone]
          rfl
        · rw [List.map_singleton, List.flatten_singleton, hdata]
          congr 1
          omega
        · intro a ha
          rw [List.mem_singleton.mp ha]
          exact hfull
        · exact iff_of_true hdone ⟨List.cons_ne_nil length lengths, by omega⟩

end Sending

section Command

variable {backend : StorageBackend (List UInt8)} {readOnly : Bool}
  {s : MscBulkOnlyHandler (List UInt8)} {bytes : List UInt8}

/-- The wrapper of READ (10) begins the data phase with its first byte. -/
theorem sends_of_read10 (hlinear : backend.Linear)
    (hworks : WorksWith backend readOnly backend.Fits s) (hstate : s.state = .idle)
    (h : Cbw.size ≤ bytes.length)
    (hsignature : (Cbw.ofBytes bytes h).signature = Cbw.signatureValue)
    (hcommand : (s.loadCbw (.ofBytes bytes h)).command = some .read10)
    (honMedium : OnMedium backend (.ofBytes bytes h)) :
    ∃ t, receive s bytes = some t ∧ Sends backend (.ofBytes bytes h) s.medium 0 t := by
  set u := s.loadCbw (.ofBytes bytes h) with hu
  have hbackend : u.backend = some backend := hworks.backend
  refine ⟨u.read10 backend (lba10 u.currentCbw) (count10 u.currentCbw), ?_, ?_⟩
  · rw [receive_of_idle hstate, onCommand_of_signature h hsignature, ← hu, execute, hcommand]
    dsimp only
    rw [readWrite10_of_inRange hbackend (inRange10_of_onMedium hbackend honMedium), if_pos rfl]
  · unfold MscBulkOnlyHandler.read10
    dsimp only
    split
    next hdirect => exact ⟨rfl, rfl, Nat.zero_le _, rfl, .inl ⟨rfl, hbackend, rfl⟩⟩
    next hstaged =>
      have hread := hlinear.read u.medium (lba10 u.currentCbw).toUInt64 (count10 u.currentCbw)
      refine ⟨rfl, rfl, Nat.zero_le _, List.takeD_length _ _ _, .inr ⟨rfl, ?_⟩⟩
      dsimp only
      rw [hread, List.takeD_eq_take _ (length_bytesAt _ _ _).ge, List.take_of_length_le
        (length_bytesAt _ _ _).le]
      rfl

/-- In a READ (10) on the medium, whatever the host asks for at a time and whether or not the
medium is mapped, the replies give it the blocks of the range from the first byte on, and the data
phase ends with the last one. -/
theorem read_equivalent {config : MscConfig} {medium : List UInt8} (lengths : List UInt32)
    (hlinear : backend.Linear) (hfits : backend.Fits medium)
    (hs : Reachable (system (some backend) readOnly config medium) s) (hstate : s.state = .idle)
    (h : Cbw.size ≤ bytes.length)
    (hsignature : (Cbw.ofBytes bytes h).signature = Cbw.signatureValue)
    (hcommand : ScsiCmd.ofOpcode ((Cbw.ofBytes bytes h).cdbByte 0) = some .read10)
    (honMedium : OnMedium backend (.ofBytes bytes h)) :
    ∃ t u answers, receive s bytes = some t ∧ dataReplies t lengths = some (u, answers) ∧
      (answers.map Answer.data).flatten =
        (((s.medium.drop (start10 backend (.ofBytes bytes h))).take
          (size10 backend (.ofBytes bytes h))).take (lengths.map UInt32.toNat).sum) ∧
      (∀ answer ∈ answers, answer.Full) ∧
      (u.state = .status ↔ lengths ≠ [] ∧
        size10 backend (.ofBytes bytes h) ≤ (lengths.map UInt32.toNat).sum) := by
  have hworks := hlinear.worksWith hfits hs
  have hroom := start10_add_size10_le honMedium hworks.medium
  obtain ⟨t, ht, hsends⟩ :=
    sends_of_read10 hlinear hworks hstate h hsignature hcommand honMedium
  obtain ⟨u, answers, hu, hbytes, hfull, hstatus⟩ := hsends.dataReplies hlinear lengths
  refine ⟨t, u, answers, ht, hu, ?_, hfull, ?_⟩
  · rw [hbytes, List.take_take, Nat.add_zero, Nat.sub_zero, bytesAt_eq_take_drop (by omega)]
  · rw [hstatus, Nat.zero_add]

end Command

/-- Two blocks are read in three transfers, the last of which has room for more. -/
theorem read_equivalent_instance :
    ∃ t u answers,
      receive (create (some (memoryBackend 4 2)) false ⟨[], [], [], []⟩ [1, 2, 3, 4, 5, 6, 7, 8])
        (Cbw.ofCommand 1 4 true [0x28, 0, 0, 0, 0, 1, 0, 0, 2]).toBytes = some t ∧
      dataReplies t [1, 2, 5] = some (u, answers) ∧
      (answers.map Answer.data).flatten = [3, 4, 5, 6] ∧ u.state = .status := by
  have hcbw := Cbw.ofBytes_toBytes (Cbw.ofCommand 1 4 true [0x28, 0, 0, 0, 0, 1, 0, 0, 2])
  obtain ⟨t, u, answers, ht, hu, hbytes, -, hstatus⟩ := read_equivalent [1, 2, 5]
    (s := create (some (memoryBackend 4 2)) false ⟨[], [], [], []⟩ [1, 2, 3, 4, 5, 6, 7, 8])
    linear_memoryBackend (by decide) (.initial rfl) rfl
    (Cbw.length_toBytes (Cbw.ofCommand 1 4 true [0x28, 0, 0, 0, 0, 1, 0, 0, 2])).ge
    (by rw [hcbw]; rfl) (by rw [hcbw]; rfl) (by rw [hcbw]; decide)
  rw [hcbw] at hbytes hstatus
  exact ⟨t, u, answers, ht, hu, hbytes, hstatus.mpr ⟨List.cons_ne_nil _ _, by decide⟩⟩

end Usbipdcpp.MassStorage
