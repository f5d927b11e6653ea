import Usbipdcpp.MassStorage.CommandPhases

namespace Usbipdcpp.MassStorage

open Foundation.TransitionSystem
open Protocol (BotState)
open MscBulkOnlyHandler

variable {Medium : Type}

/-- What a transfer does that finds the handler idle. -/
inductive Commanded (s : MscBulkOnlyHandler Medium) (bytes : List UInt8) :
    MscBulkOnlyHandler Medium → Prop
  | short (hshort : bytes.length < Cbw.size) : Commanded s bytes s.clearLast.fail
  | badSignature (h : Cbw.size ≤ bytes.length)
      (hsignature : (Cbw.ofBytes bytes h).signature ≠ Cbw.signatureValue) :
      Commanded s bytes (s.loadCbw (.ofBytes bytes h)).fail
  | executed {t : MscBulkOnlyHandler Medium} (h : Cbw.size ≤ bytes.length)
      (hsignature : (Cbw.ofBytes bytes h).signature = Cbw.signatureValue)
      (hdefined : dataPhase (s.loadCbw (.ofBytes bytes h)) ≠ .undefined)
      (hexecuted : Executed (s.loadCbw (.ofBytes bytes h))
        (dataPhase (s.loadCbw (.ofBytes bytes h))) t) :
      Commanded s bytes t

def punches (descs : List UnmapBlockDescriptor) : List MediumAccess :=
  descs.map fun desc => .punchHole desc.lba desc.blockCount.toUInt64

def fills : (count : Nat) → (lba : UInt64) → List MediumAccess
  | 0, _ => []
  | count + 1, lba => .write lba 1 :: fills count (lba + 1)

def punchMedium (backend : StorageBackend Medium) (descs : List UnmapBlockDescriptor)
    (medium : Medium) : Medium :=
  descs.foldl (fun medium desc => backend.punchHole medium desc.lba desc.blockCount.toUInt64) medium

def fillMedium (backend : StorageBackend Medium) (data : List UInt8) :
    (count : Nat) → (lba : UInt64) → Medium → Medium
  | 0, _, medium => medium
  | count + 1, lba, medium =>
      fillMedium backend data count (lba + 1) (backend.write medium lba 1 data)

/-- What data from the host does, once it has been received. -/
inductive DataTaken (s : MscBulkOnlyHandler Medium) (length : Nat) :
    MscBulkOnlyHandler Medium → Prop
  | unmapWaiting (hunmap : s.dataOutUnmap = true)
      (hshort : s.stagingData.length < s.writeCount.toNat) : DataTaken s length s
  | unmapDone (medium : Medium) (hunmap : s.dataOutUnmap = true)
      (hfull : s.writeCount.toNat ≤ s.stagingData.length)
      (hbackend : s.backend = none → unmapBlockDescriptors s.stagingData = []) :
      DataTaken s length
        { s with
          medium
          accesses := s.accesses ++ punches (unmapBlockDescriptors s.stagingData)
          stagingData := []
          dataOutUnmap := false
          dataResidue := 0
          state := .status }
  | writeSameWaiting {backend : StorageBackend Medium} (hbackend : s.backend = some backend)
      (hunmap : s.dataOutUnmap = false) (hwriteSame : s.dataOutWriteSame = true)
      (hshort : s.stagingData.length < backend.blockSize.toNat) : DataTaken s length s
  | writeSameDone (medium : Medium) {backend : StorageBackend Medium}
      (hbackend : s.backend = some backend) (hunmap : s.dataOutUnmap = false)
      (hwriteSame : s.dataOutWriteSame = true)
      (hfull : backend.blockSize.toNat ≤ s.stagingData.length) :
      DataTaken s length
        { s with
          medium
          accesses := s.accesses ++ fills s.writeSameCount.toNat s.writeSameLba
          stagingData := []
          dataOutWriteSame := false
          state := .status }
  | mappedWaiting {backend : StorageBackend Medium} {base : UInt64}
      (hbackend : s.backend = some backend) (hunmap : s.dataOutUnmap = false)
      (hwriteSame : s.dataOutWriteSame = false) (hbase : s.writeMmapBase = some base)
      (hshort : s.writeAccumulated + length < s.writeCount.toNat * backend.blockSize.toNat) :
      DataTaken s length { s with writeAccumulated := s.writeAccumulated + length }
  | mappedDone {backend : StorageBackend Medium} {base : UInt64}
      (hbackend : s.backend = some backend) (hunmap : s.dataOutUnmap = false)
      (hwriteSame : s.dataOutWriteSame = false) (hbase : s.writeMmapBase = some base)
      (hfull : s.writeCount.toNat * backend.blockSize.toNat ≤ s.writeAccumulated + length) :
      DataTaken s length
        { s with writeMmapBase := none, writeAccumulated := 0, dataResidue := 0, state := .status }
  | stagedWaiting {backend : StorageBackend Medium} (hbackend : s.backend = some backend)
      (hunmap : s.dataOutUnmap = false) (hwriteSame : s.dataOutWriteSame = false)
      (hbase : s.writeMmapBase = none)
      (hshort : ¬(s.writeLba + s.writeCount.toUInt64 ≤ backend.blockCount ∧
        s.writeCount.toNat * backend.blockSize.toNat ≤ s.stagingData.length)) :
      DataTaken s length s
  | stagedDone (medium : Medium) {backend : StorageBackend Medium}
      (hbackend : s.backend = some backend) (hunmap : s.dataOutUnmap = false)
      (hwriteSame : s.dataOutWriteSame = false) (hbase : s.writeMmapBase = none)
      (hrange : s.writeLba + s.writeCount.toUInt64 ≤ backend.blockCount)
      (hfull : s.writeCount.toNat * backend.blockSize.toNat ≤ s.stagingData.length) :
      DataTaken s length
        { s with
          medium
          accesses := s.accesses ++ [.write s.writeLba s.writeCount]
          stagingData := []
          dataResidue := 0
          state := .status }

section Inversion

variable {s t : MscBulkOnlyHandler Medium} {bytes : List UInt8} {length : Nat}

theorem commanded_of_onCommand (hclean : s.commandFailed = false)
    (h : s.onCommand bytes = some t) : Commanded s bytes t := by
  unfold MscBulkOnlyHandler.onCommand at h
  split at h
  next hlength =>
    dsimp only at h
    split at h
    next hsignature =>
      have hloaded : (s.loadCbw (.ofBytes bytes hlength)).commandFailed = false := hclean
      obtain ⟨hdefined, hexecuted⟩ := executed_of_execute hloaded h
      exact .executed hlength hsignature hdefined hexecuted
    next hsignature =>
      obtain rfl := Option.some.inj h
      exact .badSignature hlength hsignature
  next hshort =>
    obtain rfl := Option.some.inj h
    exact .short (Nat.not_le.mp hshort)

/-- The ranges are punched one after the other, which touches nothing but the medium. -/
theorem foldlM_punchDescriptor {backend : StorageBackend Medium}
    (hbackend : s.backend = some backend) (descs : List UnmapBlockDescriptor) :
    descs.foldlM punchDescriptor s =
      some
        { s with
          medium := punchMedium backend descs s.medium
          accesses := s.accesses ++ punches descs } := by
  induction descs generalizing s with
  | nil => simp [punches, punchMedium]
  | cons desc descs ih =>
      have hfirst : s.punchDescriptor desc =
          some (s.punchHole backend desc.lba desc.blockCount.toUInt64) := by
        rw [punchDescriptor, hbackend, Option.map_some]
      rw [List.foldlM_cons, hfirst, Option.bind_eq_bind, Option.bind_some, ih (by exact hbackend)]
      simp [punches, punchMedium, MscBulkOnlyHandler.punchHole]

/-- Without a backend there is nothing to punch a range in. -/
theorem foldlM_punchDescriptor_none (hbackend : s.backend = none)
    {descs : List UnmapBlockDescriptor} :
    descs.foldlM punchDescriptor s = if descs = [] then some s else none := by
  cases descs with
  | nil => rfl
  | cons desc descs =>
      have hfirst : s.punchDescriptor desc = none := by
        rw [punchDescriptor, hbackend, Option.map_none]
      rw [List.foldlM_cons, hfirst, if_neg (List.cons_ne_nil desc descs)]
      rfl

theorem fillBlocks_eq {backend : StorageBackend Medium} {data : List UInt8} (count : Nat)
    (lba : UInt64) : s.fillBlocks backend data count lba =
      { s with
        medium := fillMedium backend data count lba s.medium
        accesses := s.accesses ++ fills count lba } := by
  induction count generalizing s lba with
  | zero => simp [fillBlocks, fills, fillMedium]
  | succ count ih =>
      rw [fillBlocks, ih]
      simp [fills, fillMedium, MscBulkOnlyHandler.writeBlocks]

theorem dataTaken_unmap (hunmap : s.dataOutUnmap = true) (h : s.onUnmapData = some t) :
    DataTaken s length t := by
  unfold MscBulkOnlyHandler.onUnmapData at h
  split at h
  next hfull =>
    obtain ⟨u, hu, rfl⟩ := Option.map_eq_some_iff.mp h
    cases hbackend : s.backend with
    | none =>
        rw [foldlM_punchDescriptor_none hbackend] at hu
        split at hu
        next hnil =>
          obtain rfl := Option.some.inj hu
          have hdone : DataTaken s length _ := .unmapDone s.medium hunmap hfull fun _ => hnil
          rw [hnil, punches, List.map_nil, List.append_nil] at hdone
          exact hdone
        next => cases hu
    | some backend =>
        rw [foldlM_punchDescriptor hbackend] at hu
        obtain rfl := Option.some.inj hu
        exact .unmapDone _ hunmap hfull fun hnone => (nomatch hbackend.symm.trans hnone)
  next hshort =>
    obtain rfl := Option.some.inj h
    exact .unmapWaiting hunmap (Nat.not_le.mp hshort)

theorem dataTaken_writeSame (hunmap : s.dataOutUnmap = false)
    (hwriteSame : s.dataOutWriteSame = true) (h : s.onWriteSameData = some t) :
    DataTaken s length t := by
  obtain ⟨backend, hbackend, rfl⟩ := Option.map_eq_some_iff.mp h
  split
  next hfull =>
    rw [fillBlocks_eq]
    exact .writeSameDone _ hbackend hunmap hwriteSame hfull
  next hshort => exact .writeSameWaiting hbackend hunmap hwriteSame (Nat.not_le.mp hshort)

theorem dataTaken_mapped {base : UInt64} (hunmap : s.dataOutUnmap = false)
    (hwriteSame : s.dataOutWriteSame = false) (hbase : s.writeMmapBase = some base)
    (h : s.onMappedData length = some t) : DataTaken s length t := by
  obtain ⟨backend, hbackend, rfl⟩ := Option.map_eq_some_iff.mp h
  split
  next hfull => exact .mappedDone hbackend hunmap hwriteSame hbase hfull
  next hshort => exact .mappedWaiting hbackend hunmap hwriteSame hbase (Nat.not_le.mp hshort)

theorem dataTaken_staged (hunmap : s.dataOutUnmap = false)
    (hwriteSame : s.dataOutWriteSame = false) (hbase : s.writeMmapBase = none)
    (h : s.onStagedData = some t) : DataTaken s length t := by
  obtain ⟨backend, hbackend, rfl⟩ := Option.map_eq_some_iff.mp h
  split
  next hfull =>
    exact .stagedDone _ hbackend hunmap hwriteSame hbase hfull.1 hfull.2
  next hshort => exact .stagedWaiting hbackend hunmap hwriteSame hbase hshort

theorem dataTaken_of_onData (h : s.onData length = some t) : DataTaken s length t := by
  unfold MscBulkOnlyHandler.onData at h
  split at h
  next hunmap => exact dataTaken_unmap hunmap h
  next hunmap =>
    have hunmap : s.dataOutUnmap = false := Bool.not_eq_true _ ▸ hunmap
    split at h
    next hwriteSame => exact dataTaken_writeSame hunmap hwriteSame h
    next hwriteSame =>
      have hwriteSame : s.dataOutWriteSame = false := Bool.not_eq_true _ ▸ hwriteSame
      split at h
      next hbase =>
        obtain ⟨base, hbase⟩ := Option.isSome_iff_exists.mp hbase
        exact dataTaken_mapped hunmap hwriteSame hbase h
      next hbase =>
        exact dataTaken_staged hunmap hwriteSame (by simpa using hbase) h

end Inversion

section Equations

variable {s : MscBulkOnlyHandler Medium} {bytes : List UInt8} {length : Nat}

theorem receiveOut_of_not_dataOut (h : s.state ≠ .dataOut) :
    s.receiveOut length bytes = (s, bytes) := by
  unfold MscBulkOnlyHandler.receiveOut
  cases hstate : s.state with
  | idle => rfl
  | dataOut => exact absurd hstate h
  | dataIn => rfl
  | status => rfl

theorem receiveOut_of_mapped {base : UInt64} (hstate : s.state = .dataOut)
    (hbase : s.writeMmapBase = some base) :
    s.receiveOut length bytes = (s.receiveMapped base length bytes, []) := by
  rw [MscBulkOnlyHandler.receiveOut, hstate, hbase]

theorem receiveOut_of_staged (hstate : s.state = .dataOut) (hbase : s.writeMmapBase = none) :
    s.receiveOut length bytes = (s.receiveStaged length bytes, []) := by
  rw [MscBulkOnlyHandler.receiveOut, hstate, hbase]

theorem receiveOut_cases (s : MscBulkOnlyHandler Medium) (length : Nat) (bytes : List UInt8) :
    (∃ base, s.state = .dataOut ∧ s.writeMmapBase = some base ∧
      s.receiveOut length bytes = (s.receiveMapped base length bytes, [])) ∨
    (s.state = .dataOut ∧ s.writeMmapBase = none ∧
      s.receiveOut length bytes = (s.receiveStaged length bytes, [])) ∨
    (s.state ≠ .dataOut ∧ s.receiveOut length bytes = (s, bytes)) := by
  by_cases hstate : s.state = .dataOut
  · cases hbase : s.writeMmapBase with
    | none => exact .inr (.inl ⟨hstate, rfl, receiveOut_of_staged hstate hbase⟩)
    | some base => exact .inl ⟨base, hstate, rfl, receiveOut_of_mapped hstate hbase⟩
  · exact .inr (.inr ⟨hstate, receiveOut_of_not_dataOut hstate⟩)

theorem receiveStaged_length :
    s.receiveStaged bytes.length bytes = { s with stagingData := s.stagingData ++ bytes } := by
  simp [MscBulkOnlyHandler.receiveStaged, List.takeD_eq_take]

theorem onOutDataReceived_of_idle (h : s.state = .idle) :
    s.onOutDataReceived bytes length = s.onCommand bytes := by
  rw [MscBulkOnlyHandler.onOutDataReceived, h]

theorem onOutDataReceived_of_dataOut (h : s.state = .dataOut) :
    s.onOutDataReceived bytes length = s.onData length := by
  rw [MscBulkOnlyHandler.onOutDataReceived, h]

theorem onOutDataReceived_of_other (hidle : s.state ≠ .idle) (hdata : s.state ≠ .dataOut) :
    s.onOutDataReceived bytes length = some s := by
  unfold MscBulkOnlyHandler.onOutDataReceived
  split
  next hstate => exact absurd hstate hidle
  next hstate => exact absurd hstate hdata
  next => rfl

end Equations

section Rules

variable {I : MscBulkOnlyHandler Medium → Prop} {s t : MscBulkOnlyHandler Medium}

theorem onOutDataReceived_invariant
    (hcommand : ∀ s bytes t, I s → s.state = .idle → s.onCommand bytes = some t → I t)
    (hdata : ∀ s length t, I s → s.state = .dataOut → s.onData length = some t → I t)
    {bytes : List UInt8} {length : Nat} (hs : I s)
    (ht : s.onOutDataReceived bytes length = some t) : I t := by
  unfold MscBulkOnlyHandler.onOutDataReceived at ht
  split at ht
  next hstate => exact hcommand s bytes t hs hstate ht
  next hstate => exact hdata s length t hs hstate ht
  next =>
    obtain rfl := Option.some.inj ht
    exact hs

/-- What resetting, receiving, commands, data and replies each preserve holds after every step. -/
theorem step_invariant (hreset : ∀ s, I s → I s.resetState)
    (hreceive : ∀ s length bytes, I s → I (s.receiveOut length bytes).1)
    (hcommand : ∀ s bytes t, I s → s.state = .idle → s.onCommand bytes = some t → I t)
    (hdata : ∀ s length t, I s → s.state = .dataOut → s.onData length = some t → I t)
    (hreply : ∀ s length, I s → I (s.handleBulkIn length).1) {a : MscAction} (hs : I s)
    (ht : s.step a = some t) : I t := by
  cases a with
  | onNewConnection =>
      obtain rfl := Option.some.inj ht
      exact hreset s hs
  | onDisconnection =>
      obtain rfl := Option.some.inj ht
      exact hreset s hs
  | brokenOut length received =>
      obtain rfl := Option.some.inj ht
      exact hreset _ (hreceive s length received hs)
  | transfer transfer =>
      obtain ⟨⟨u, reply⟩, hu, rfl⟩ := Option.map_eq_some_iff.mp ht
      cases transfer with
      | out bytes =>
          obtain ⟨v, hv, heq⟩ := Option.map_eq_some_iff.mp hu
          cases heq
          exact onOutDataReceived_invariant hcommand hdata
            (hreceive s bytes.length bytes hs) hv
      | in_ length =>
          obtain ⟨v, hv, heq⟩ := Option.map_eq_some_iff.mp hu
          cases heq
          exact hreply v length (onOutDataReceived_invariant hcommand hdata hs hv)
      | undirected bytes epFound =>
          obtain ⟨v, hv, heq⟩ := Option.map_eq_some_iff.mp hu
          have hinv := onOutDataReceived_invariant hcommand hdata hs hv
          split at heq
          next =>
            cases heq
            exact hreply v _ hinv
          next =>
            cases heq
            exact hinv

end Rules

/-- A command leaves no marks on the handler beyond the state that they are for. -/
structure Settled (s : MscBulkOnlyHandler Medium) : Prop where
  clean : s.state ≠ .status → s.commandFailed = false
  unmap : s.state ≠ .dataOut → s.dataOutUnmap = false
  writeSame : s.state ≠ .dataOut → s.dataOutWriteSame = false
  exclusive : s.dataOutUnmap = true → s.dataOutWriteSame = false
  unmapped : s.dataOutUnmap = true ∨ s.dataOutWriteSame = true → s.writeMmapBase = none

section Settled

variable {s t : MscBulkOnlyHandler Medium} {phase : DataPhase} {bytes : List UInt8} {length : Nat}

/-- Between commands no mark is set. -/
theorem Settled.of_unmarked {s : MscBulkOnlyHandler Medium}
    (hclean : s.state ≠ .status → s.commandFailed = false) (hunmap : s.dataOutUnmap = false)
    (hwriteSame : s.dataOutWriteSame = false) : Settled s :=
  ⟨hclean, fun _ => hunmap, fun _ => hwriteSame, fun _ => hwriteSame,
    fun hmarked => by simp [hunmap, hwriteSame] at hmarked⟩

theorem Settled.reset : Settled s.resetState := .of_unmarked (fun _ => rfl) rfl rfl

theorem Settled.receiveOut (h : Settled s) : Settled (s.receiveOut length bytes).1 := by
  obtain ⟨base, -, -, heq⟩ | ⟨-, -, heq⟩ | ⟨-, heq⟩ := receiveOut_cases s length bytes
  · rw [heq]
    exact ⟨h.clean, h.unmap, h.writeSame, h.exclusive, h.unmapped⟩
  · rw [heq]
    exact ⟨h.clean, h.unmap, h.writeSame, h.exclusive, h.unmapped⟩
  · rwa [heq]

theorem settled_of_executed (hclean : s.commandFailed = false) (hunmap : s.dataOutUnmap = false)
    (hwriteSame : s.dataOutWriteSame = false) (hbase : s.writeMmapBase = none)
    (ht : Executed s phase t) : Settled t := by
  cases ht with
  | passed => exact .of_unmarked (fun hne => absurd rfl hne) hunmap hwriteSame
  | failed => exact .of_unmarked (fun hne => absurd rfl hne) hunmap hwriteSame
  | punched => exact .of_unmarked (fun hne => absurd rfl hne) hunmap hwriteSame
  | answered => exact .of_unmarked (fun _ => hclean) hunmap hwriteSame
  | write => exact .of_unmarked (fun _ => hclean) hunmap hwriteSame
  | read =>
      unfold MscBulkOnlyHandler.read10
      dsimp only
      split
      next => exact .of_unmarked (fun _ => hclean) hunmap hwriteSame
      next => exact .of_unmarked (fun _ => hclean) hunmap hwriteSame
  | writeSame =>
      exact ⟨fun _ => hclean, fun _ => hunmap, fun hne => absurd rfl hne,
        fun htrue => (nomatch hunmap.symm.trans htrue), fun _ => hbase⟩
  | unmap =>
      exact ⟨fun _ => hclean, fun hne => absurd rfl hne, fun _ => hwriteSame, fun _ => hwriteSame,
        fun _ => hbase⟩

theorem Settled.onCommand (h : Settled s) (hstate : s.state = .idle)
    (ht : s.onCommand bytes = some t) : Settled t := by
  have hclean : s.commandFailed = false := h.clean (by simp [hstate])
  have hunmap : s.dataOutUnmap = false := h.unmap (by simp [hstate])
  have hwriteSame : s.dataOutWriteSame = false := h.writeSame (by simp [hstate])
  cases commanded_of_onCommand hclean ht with
  | short => exact .of_unmarked (fun hne => absurd rfl hne) hunmap hwriteSame
  | badSignature => exact .of_unmarked (fun hne => absurd rfl hne) hunmap hwriteSame
  | executed hlength hsignature hdefined hexecuted =>
      exact settled_of_executed (by exact hclean) (by exact hunmap) (by exact hwriteSame) rfl
        hexecuted

theorem Settled.onData (h : Settled s) (ht : s.onData length = some t) : Settled t := by
  cases dataTaken_of_onData ht with
  | unmapWaiting => exact h
  | unmapDone medium hunmap =>
      exact .of_unmarked (fun hne => absurd rfl hne) rfl (h.exclusive hunmap)
  | writeSameWaiting => exact h
  | writeSameDone medium hbackend hunmap =>
      exact .of_unmarked (fun hne => absurd rfl hne) hunmap rfl
  | mappedWaiting => exact ⟨h.clean, h.unmap, h.writeSame, h.exclusive, h.unmapped⟩
  | mappedDone hbackend hunmap hwriteSame =>
      exact .of_unmarked (fun hne => absurd rfl hne) hunmap hwriteSame
  | stagedWaiting => exact h
  | stagedDone medium hbackend hunmap hwriteSame =>
      exact .of_unmarked (fun hne => absurd rfl hne) hunmap hwriteSame

theorem Settled.handleBulkIn {transferBufferLength : UInt32} (h : Settled s) :
    Settled (s.handleBulkIn transferBufferLength).1 := by
  unfold MscBulkOnlyHandler.handleBulkIn
  split
  next hstate =>
    have hunmap : s.dataOutUnmap = false := h.unmap (by simp [hstate])
    have hwriteSame : s.dataOutWriteSame = false := h.writeSame (by simp [hstate])
    have hfinish (u : MscBulkOnlyHandler Medium) (hu : u.commandFailed = s.commandFailed)
        (hu' : u.dataOutUnmap = s.dataOutUnmap) (hu'' : u.dataOutWriteSame = s.dataOutWriteSame) :
        Settled u.finishDataIn := by
      unfold MscBulkOnlyHandler.finishDataIn
      split
      next =>
        exact .of_unmarked (fun hne => absurd rfl hne) (hu'.trans hunmap) (hu''.trans hwriteSame)
      next =>
        exact .of_unmarked (fun _ => hu.trans (h.clean (by simp [hstate]))) (hu'.trans hunmap)
          (hu''.trans hwriteSame)
    dsimp only
    split
    next => exact hfinish _ rfl rfl rfl
    next => exact hfinish _ rfl rfl rfl
  next hstate =>
    exact .of_unmarked (fun _ => rfl) (h.unmap (by simp [hstate])) (h.writeSame (by simp [hstate]))
  next => exact h

theorem settled_of_reachable {backend : Option (StorageBackend Medium)} {readOnly : Bool}
    {config : MscConfig} {medium : Medium}
    (h : Reachable (system backend readOnly config medium) s) :
    Settled s := by
  refine Reachable.invariant (I := Settled) ?_ ?_ h
  · rintro s rfl
    exact .of_unmarked (fun _ => rfl) rfl rfl
  · intro s a t hs ht
    exact step_invariant (fun _ _ => .reset) (fun _ _ _ hs => hs.receiveOut)
      (fun _ _ _ hs hstate ht => hs.onCommand hstate ht)
      (fun _ _ _ hs _ ht => hs.onData ht) (fun _ _ hs => hs.handleBulkIn) hs ht

end Settled

end Usbipdcpp.MassStorage
