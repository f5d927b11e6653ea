import Usbipdcpp.MassStorage.TransferSteps

namespace Usbipdcpp.MassStorage

open Foundation.TransitionSystem
open Protocol (BotState)
open MscBulkOnlyHandler

namespace MediumAccess

/-- The first byte of the medium that is used. -/
def start (blockSize : Nat) : MediumAccess → Nat
  | .read lba _ => lba.toNat * blockSize
  | .write lba _ => lba.toNat * blockSize
  | .punchHole lba _ => lba.toNat * blockSize
  | .directSource lba offset _ => lba.toNat * blockSize + offset
  | .directDestination lba offset _ => lba.toNat * blockSize + offset

def size (blockSize : Nat) : MediumAccess → Nat
  | .read _ count => count.toNat * blockSize
  | .write _ count => count.toNat * blockSize
  | .punchHole _ count => count.toNat * blockSize
  | .directSource _ _ length => length
  | .directDestination _ _ length => length

end MediumAccess

variable {Medium : Type}

def StorageBackend.capacity (backend : StorageBackend Medium) : Nat :=
  backend.blockCount.toNat * backend.blockSize.toNat

def MediumAccess.Within (backend : StorageBackend Medium) (access : MediumAccess) : Prop :=
  access.start backend.blockSize.toNat + access.size backend.blockSize.toNat ≤ backend.capacity

/-- A READ (10) that is let through asks for blocks that there are. -/
def ReadStays (backend : StorageBackend Medium) (s : MscBulkOnlyHandler Medium)
    (bytes : List UInt8) : Prop :=
  ∀ h : Cbw.size ≤ bytes.length, (Cbw.ofBytes bytes h).signature = Cbw.signatureValue →
    let t := s.loadCbw (.ofBytes bytes h)
    t.command = some .read10 → InRange10 t →
      ((lba10 t.currentCbw).toNat + (count10 t.currentCbw).toNat) * backend.blockSize.toNat ≤
        backend.capacity

/-- The ranges of UNMAP are blocks that there are. -/
def ListStays (backend : StorageBackend Medium) (s : MscBulkOnlyHandler Medium)
    (data : List UInt8) : Prop :=
  s.dataOutUnmap = true → s.writeCount.toNat ≤ data.length →
    ∀ desc ∈ unmapBlockDescriptors data,
      (desc.lba.toNat + desc.blockCount.toNat) * backend.blockSize.toNat ≤ backend.capacity

/-- Data for mapped blocks ends before the medium does. -/
def DirectStays (backend : StorageBackend Medium) (s : MscBulkOnlyHandler Medium)
    (length : Nat) : Prop :=
  ∀ base, s.writeMmapBase = some base →
    base.toNat * backend.blockSize.toNat + s.writeAccumulated + length ≤ backend.capacity

/-- What the host must keep to, as long as the handler does not see to it. -/
def Stays (backend : StorageBackend Medium) (s : MscBulkOnlyHandler Medium) : MscAction → Prop
  | .transfer (.out bytes) =>
      (s.state = .idle → ReadStays backend s bytes) ∧
        (s.state = .dataOut → DirectStays backend s bytes.length ∧
          ListStays backend s (s.stagingData ++ bytes))
  | .transfer (.undirected bytes _) => s.state = .idle → ReadStays backend s bytes
  | .brokenOut length _ => s.state = .dataOut → DirectStays backend s length
  | _ => True

/-- What the handler knows of the ranges that it works on. -/
structure Bounded (backend : StorageBackend Medium) (s : MscBulkOnlyHandler Medium) : Prop where
  installed : s.backend = some backend
  accesses : ∀ access ∈ s.accesses, access.Within backend
  clean : s.state ≠ .status → s.commandFailed = false
  reading : s.state = .dataIn → ∀ base, s.readMmapBase = some base →
    base.toNat * backend.blockSize.toNat + s.readTotalSize ≤ backend.capacity
  filling : s.dataOutWriteSame = true →
    s.writeSameLba.toNat + s.writeSameCount.toNat ≤ backend.blockCount.toNat
  listing : s.state ≠ .dataOut → s.dataOutUnmap = false
  placed : s.writeLba.toNat < 2 ^ 32

/-- The list of UNMAP is not there yet, or its length of zero has not been noticed. -/
def ListPending (s : MscBulkOnlyHandler Medium) : Prop :=
  s.dataOutUnmap = true → s.stagingData = [] ∨ s.stagingData.length < s.writeCount.toNat

section Ranges

variable {backend : StorageBackend Medium} {accesses : List MediumAccess} {access : MediumAccess}

theorem within_concat (haccesses : ∀ access ∈ accesses, access.Within backend)
    (haccess : access.Within backend) :
    ∀ a ∈ accesses ++ [access], a.Within backend := by
  intro a ha
  rcases List.mem_append.mp ha with hold | hnew
  · exact haccesses a hold
  · rw [List.mem_singleton.mp hnew]
    exact haccess

theorem within_punches {descs : List UnmapBlockDescriptor}
    (haccesses : ∀ access ∈ accesses, access.Within backend)
    (hdescs : ∀ desc ∈ descs,
      (desc.lba.toNat + desc.blockCount.toNat) * backend.blockSize.toNat ≤ backend.capacity) :
    ∀ a ∈ accesses ++ punches descs, a.Within backend := by
  intro a ha
  rcases List.mem_append.mp ha with hold | hnew
  · exact haccesses a hold
  · obtain ⟨desc, hdesc, rfl⟩ := List.mem_map.mp hnew
    have hrange := hdescs desc hdesc
    rw [Nat.add_mul] at hrange
    simpa [MediumAccess.Within, MediumAccess.start, MediumAccess.size] using hrange

/-- The blocks that WRITE SAME fills one by one. -/
theorem within_fills {count : Nat} {lba : UInt64}
    (hrange : lba.toNat + count ≤ backend.blockCount.toNat) :
    ∀ a ∈ fills count lba, a.Within backend := by
  induction count generalizing lba with
  | zero => exact fun a ha => absurd ha List.not_mem_nil
  | succ count ih =>
      have hlast : lba.toNat < backend.blockCount.toNat := by omega
      have hnext : lba.toNat + 1 < 2 ^ 64 := by
        have := backend.blockCount.toNat_lt
        omega
      have hstep : (lba + 1).toNat = lba.toNat + 1 := by
        rw [UInt64.toNat_add]
        exact Nat.mod_eq_of_lt hnext
      intro a ha
      rcases List.mem_cons.mp ha with rfl | hrest
      · have hone : (lba.toNat + 1) * backend.blockSize.toNat ≤ backend.capacity :=
          Nat.mul_le_mul_right _ hlast
        rw [Nat.add_mul] at hone
        simpa [MediumAccess.Within, MediumAccess.start, MediumAccess.size] using hone
      · exact ih (by omega) a hrest

end Ranges

section Steps

variable {backend : StorageBackend Medium} {s t : MscBulkOnlyHandler Medium} {phase : DataPhase}
  {bytes : List UInt8} {length : Nat}

theorem Bounded.reset (h : Bounded backend s) : Bounded backend s.resetState where
  installed := h.installed
  accesses := h.accesses
  clean _ := rfl
  reading hstate := nomatch hstate
  filling hfill := nomatch hfill
  listing _ := rfl
  placed := h.placed

theorem Bounded.fail (h : Bounded backend s) (hstate : s.state ≠ .dataOut) :
    Bounded backend s.fail :=
  ⟨h.installed, h.accesses, fun hne => absurd rfl hne, fun hdata => (nomatch hdata), h.filling,
    fun _ => h.listing hstate, h.placed⟩

theorem Bounded.pass (h : Bounded backend s) (hstate : s.state ≠ .dataOut) :
    Bounded backend s.pass :=
  ⟨h.installed, h.accesses, fun hne => absurd rfl hne, fun hdata => (nomatch hdata), h.filling,
    fun _ => h.listing hstate, h.placed⟩

theorem Bounded.clearLast (h : Bounded backend s) : Bounded backend s.clearLast :=
  ⟨h.installed, h.accesses, h.clean, fun _ _ hbase => (nomatch hbase), h.filling, h.listing,
    h.placed⟩

theorem Bounded.loadCbw {cbw : Cbw} (h : Bounded backend s) : Bounded backend (s.loadCbw cbw) :=
  ⟨h.installed, h.accesses, h.clean, fun _ _ hbase => (nomatch hbase), h.filling, h.listing,
    h.placed⟩

theorem Bounded.read10 (h : Bounded backend s) (hclean : s.commandFailed = false)
    (hstate : s.state ≠ .dataOut) {lba : UInt32}
    {count : UInt16}
    (hstays : (lba.toNat + count.toNat) * backend.blockSize.toNat ≤ backend.capacity) :
    Bounded backend (s.read10 backend lba count) := by
  rw [Nat.add_mul] at hstays
  unfold MscBulkOnlyHandler.read10
  dsimp only
  split
  next hmapped =>
    refine ⟨h.installed, h.accesses, fun _ => hclean, fun _ base hbase => ?_, h.filling,
      fun _ => h.listing hstate, h.placed⟩
    obtain rfl := Option.some.inj hbase
    simpa using hstays
  next hstaged =>
    refine ⟨h.installed, within_concat h.accesses ?_, fun _ => hclean,
      fun _ _ hbase => (nomatch hbase), h.filling, fun _ => h.listing hstate, h.placed⟩
    simpa [MediumAccess.Within, MediumAccess.start, MediumAccess.size] using hstays

theorem Bounded.executed (h : Bounded backend s) (hclean : s.commandFailed = false)
    (hread : s.command = some .read10 → InRange10 s →
      ((lba10 s.currentCbw).toNat + (count10 s.currentCbw).toNat) * backend.blockSize.toNat ≤
        backend.capacity)
    (hbase : s.readMmapBase = none) (hstate : s.state ≠ .dataOut) (ht : Executed s phase t) :
    Bounded backend t := by
  have hsame {b : StorageBackend Medium} (hb : s.backend = some b) : backend = b :=
    Option.some.inj (h.installed.symm.trans hb)
  cases ht with
  | passed => exact h.pass hstate
  | failed => exact h.fail hstate
  | answered =>
      refine ⟨h.installed, h.accesses, fun _ => hclean, fun _ base hsome => ?_, h.filling,
        fun _ => h.listing hstate, h.placed⟩
      exact nomatch hbase.symm.trans hsome
  | read hbackend hcommand hrange =>
      obtain rfl := hsame hbackend
      exact h.read10 hclean hstate (hread hcommand hrange)
  | punched hbackend hwritable hrange =>
      obtain rfl := hsame hbackend
      refine Bounded.pass ⟨h.installed, within_concat h.accesses ?_, h.clean,
        h.reading, h.filling, h.listing, h.placed⟩ hstate
      have hsize := Nat.mul_le_mul_right backend.blockSize.toNat hrange
      rw [Nat.add_mul] at hsize
      exact hsize
  | write hbackend hwritable =>
      refine ⟨h.installed, h.accesses, fun _ => hclean, fun hdata => (nomatch hdata), h.filling,
        fun hne => absurd rfl hne, ?_⟩
      have := (lba10 s.currentCbw).toNat_lt
      simpa [MscBulkOnlyHandler.write10] using this
  | writeSame hbackend hwritable hrange =>
      obtain rfl := hsame hbackend
      exact ⟨h.installed, h.accesses, fun _ => hclean, fun hdata => (nomatch hdata),
        fun _ => hrange, fun hne => absurd rfl hne, h.placed⟩
  | unmap hwritable hlength =>
      exact ⟨h.installed, h.accesses, fun _ => hclean, fun hdata => (nomatch hdata), h.filling,
        fun hne => absurd rfl hne, h.placed⟩

/-- Only UNMAP leaves a list to wait for, which is empty at first. -/
theorem listPending_of_executed (hunmap : s.dataOutUnmap = false) (ht : Executed s phase t) :
    ListPending t := by
  have hnever {u : MscBulkOnlyHandler Medium} (hu : u.dataOutUnmap = s.dataOutUnmap) :
      ListPending u := fun htrue => (nomatch hunmap.symm.trans (hu.symm.trans htrue))
  cases ht with
  | passed => exact hnever rfl
  | failed => exact hnever rfl
  | answered => exact hnever rfl
  | punched => exact hnever rfl
  | write => exact hnever rfl
  | writeSame => exact hnever rfl
  | read =>
      refine hnever ?_
      unfold MscBulkOnlyHandler.read10
      dsimp only
      split <;> rfl
  | unmap => exact fun _ => Or.inl rfl

theorem Bounded.onCommand (h : Bounded backend s) (hstate : s.state = .idle)
    (hread : ReadStays backend s bytes) (ht : s.onCommand bytes = some t) :
    Bounded backend t ∧ ListPending t := by
  have hclean : s.commandFailed = false := h.clean (by simp [hstate])
  have hidle : s.state ≠ .dataOut := by simp [hstate]
  have hnever {u : MscBulkOnlyHandler Medium} (hu : u.dataOutUnmap = s.dataOutUnmap) :
      ListPending u := fun htrue => (nomatch (h.listing hidle).symm.trans (hu.symm.trans htrue))
  cases commanded_of_onCommand hclean ht with
  | short => exact ⟨h.clearLast.fail hidle, hnever rfl⟩
  | badSignature => exact ⟨h.loadCbw.fail hidle, hnever rfl⟩
  | executed hlength hsignature hdefined hexecuted =>
      have hunmap : (s.loadCbw (.ofBytes bytes hlength)).dataOutUnmap = false := h.listing hidle
      exact ⟨h.loadCbw.executed hclean (hread hlength hsignature) rfl hidle hexecuted,
        listPending_of_executed hunmap hexecuted⟩

theorem Bounded.onData (h : Bounded backend s)
    (hlist : s.dataOutUnmap = true → s.writeCount.toNat ≤ s.stagingData.length →
      ∀ desc ∈ unmapBlockDescriptors s.stagingData,
        (desc.lba.toNat + desc.blockCount.toNat) * backend.blockSize.toNat ≤ backend.capacity)
    (hstate : s.state = .dataOut) (ht : s.onData length = some t) :
    Bounded backend t ∧ ListPending t := by
  have hclean : s.commandFailed = false := h.clean (by simp [hstate])
  have hsame {b : StorageBackend Medium} (hb : s.backend = some b) : backend = b :=
    Option.some.inj (h.installed.symm.trans hb)
  cases dataTaken_of_onData ht with
  | unmapWaiting hunmap hshort => exact ⟨h, fun _ => Or.inr hshort⟩
  | unmapDone medium hunmap hfull hbackend =>
      exact ⟨⟨h.installed, within_punches h.accesses (hlist hunmap hfull),
        fun hne => absurd rfl hne, fun hne => (nomatch hne), h.filling, fun _ => rfl, h.placed⟩,
        fun hfalse => (nomatch hfalse)⟩
  | writeSameWaiting hbackend hunmap hwriteSame hshort =>
      exact ⟨h, fun htrue => (nomatch hunmap.symm.trans htrue)⟩
  | writeSameDone medium hbackend hunmap hwriteSame hfull =>
      refine ⟨⟨h.installed, fun a ha => ?_, fun hne => absurd rfl hne, fun hne => (nomatch hne),
        fun hfalse => (nomatch hfalse), fun _ => hunmap, h.placed⟩,
        fun htrue => (nomatch hunmap.symm.trans htrue)⟩
      rcases List.mem_append.mp ha with hold | hnew
      · exact h.accesses a hold
      · exact within_fills (h.filling hwriteSame) a hnew
  | mappedWaiting hbackend hunmap hwriteSame hbase hshort =>
      exact ⟨⟨h.installed, h.accesses, h.clean, h.reading, h.filling, h.listing, h.placed⟩,
        fun htrue => (nomatch hunmap.symm.trans htrue)⟩
  | mappedDone hbackend hunmap hwriteSame hbase hfull =>
      exact ⟨⟨h.installed, h.accesses, fun hne => absurd rfl hne, fun hne => (nomatch hne),
        h.filling, fun _ => hunmap, h.placed⟩, fun htrue => (nomatch hunmap.symm.trans htrue)⟩
  | stagedWaiting hbackend hunmap hwriteSame hbase hshort =>
      exact ⟨h, fun htrue => (nomatch hunmap.symm.trans htrue)⟩
  | stagedDone medium hbackend hunmap hwriteSame hbase hrange hfull =>
      obtain rfl := hsame hbackend
      refine ⟨⟨h.installed, within_concat h.accesses ?_, fun hne => absurd rfl hne,
        fun hne => (nomatch hne), h.filling, fun _ => hunmap, h.placed⟩,
        fun htrue => (nomatch hunmap.symm.trans htrue)⟩
      have hcount := s.writeCount.toNat_lt
      have hplaced := h.placed
      rw [UInt64.le_iff_toNat_le, UInt64.toNat_add, UInt16.toNat_toUInt64,
        Nat.mod_eq_of_lt (by omega)] at hrange
      have hsize := Nat.mul_le_mul_right backend.blockSize.toNat hrange
      rw [Nat.add_mul] at hsize
      exact hsize

theorem Bounded.receiveOut (h : Bounded backend s)
    (hdirect : s.state = .dataOut → DirectStays backend s length) :
    Bounded backend (s.receiveOut length bytes).1 := by
  obtain ⟨base, hstate, hbase, heq⟩ | ⟨-, -, heq⟩ | ⟨-, heq⟩ := receiveOut_cases s length bytes
  · rw [heq]
    refine ⟨h.installed, within_concat h.accesses ?_, h.clean, h.reading, h.filling, h.listing,
      h.placed⟩
    have hend := hdirect hstate base hbase
    simpa [MediumAccess.Within, MediumAccess.start, MediumAccess.size] using hend
  · rw [heq]
    exact ⟨h.installed, h.accesses, h.clean, h.reading, h.filling, h.listing, h.placed⟩
  · rwa [heq]

theorem Bounded.finishDataIn (h : Bounded backend s) (hstate : s.state = .dataIn) :
    Bounded backend s.finishDataIn := by
  unfold MscBulkOnlyHandler.finishDataIn
  split
  next =>
    exact ⟨h.installed, h.accesses, fun hne => absurd rfl hne, fun hdata => (nomatch hdata),
      h.filling, fun _ => h.listing (by simp [hstate]), h.placed⟩
  next => exact h

theorem Bounded.handleBulkIn {transferBufferLength : UInt32} (h : Bounded backend s) :
    Bounded backend (s.handleBulkIn transferBufferLength).1 := by
  unfold MscBulkOnlyHandler.handleBulkIn
  split
  next hstate =>
    dsimp only
    split
    next hpos =>
      refine Bounded.finishDataIn
        ⟨h.installed, ?_, h.clean, h.reading, h.filling, h.listing, h.placed⟩ hstate
      unfold MscBulkOnlyHandler.handOut
      dsimp only
      split
      next base hbase =>
        refine within_concat h.accesses ?_
        have hrange := h.reading hstate base hbase
        have htotal : s.total = s.readTotalSize := by rw [MscBulkOnlyHandler.total, hbase]
        rw [htotal] at hpos ⊢
        unfold MediumAccess.Within MediumAccess.start MediumAccess.size
        dsimp only
        omega
      next => exact h.accesses
    next => exact h.finishDataIn hstate
  next hstate =>
    exact ⟨h.installed, h.accesses, fun _ => rfl, fun hdata => (nomatch hdata), h.filling,
      fun _ => h.listing (by simp [hstate]), h.placed⟩
  next => exact h

/-- A list that is waited for names no ranges as long as nothing is added to it. -/
theorem ListPending.stays (hpending : ListPending s) (hunmap : s.dataOutUnmap = true)
    (hfull : s.writeCount.toNat ≤ s.stagingData.length) :
    ∀ desc ∈ unmapBlockDescriptors s.stagingData,
      (desc.lba.toNat + desc.blockCount.toNat) * backend.blockSize.toNat ≤ backend.capacity := by
  rcases hpending hunmap with hnil | hshort
  · rw [hnil]
    exact fun desc hdesc => absurd hdesc List.not_mem_nil
  · exact absurd hfull (Nat.not_le.mpr hshort)

theorem ListPending.handleBulkIn {transferBufferLength : UInt32} (hpending : ListPending s) :
    ListPending (s.handleBulkIn transferBufferLength).1 := by
  have hfinish (u : MscBulkOnlyHandler Medium) (hu : ListPending u) :
      ListPending u.finishDataIn := by
    unfold MscBulkOnlyHandler.finishDataIn
    split
    next => exact hu
    next => exact hu
  unfold MscBulkOnlyHandler.handleBulkIn
  split
  next =>
    dsimp only
    split
    next => exact hfinish _ hpending
    next => exact hfinish _ hpending
  next => exact hpending
  next => exact hpending

theorem Bounded.onOutDataReceived (h : Bounded backend s) (hpending : ListPending s)
    (hread : s.state = .idle → ReadStays backend s bytes)
    (ht : s.onOutDataReceived bytes length = some t) : Bounded backend t ∧ ListPending t := by
  unfold MscBulkOnlyHandler.onOutDataReceived at ht
  split at ht
  next hstate => exact h.onCommand hstate (hread hstate) ht
  next hstate => exact h.onData (fun hunmap hfull => hpending.stays hunmap hfull) hstate ht
  next =>
    obtain rfl := Option.some.inj ht
    exact ⟨h, hpending⟩

theorem readStays_nil : ReadStays backend s [] :=
  fun hlength => absurd hlength (by decide)

/-- An OUT transfer, from its allocation on. -/
theorem Bounded.out (h : Bounded backend s) (hpending : ListPending s)
    (hstays : Stays backend s (.transfer (.out bytes)))
    (ht : (s.receiveOut bytes.length bytes).1.onOutDataReceived
      (s.receiveOut bytes.length bytes).2 bytes.length = some t) :
    Bounded backend t ∧ ListPending t := by
  have hreceived : Bounded backend (s.receiveOut bytes.length bytes).1 :=
    h.receiveOut fun hstate => (hstays.2 hstate).1
  by_cases hstate : s.state = .dataOut
  · cases hbase : s.writeMmapBase with
    | some base =>
        rw [receiveOut_of_mapped hstate hbase] at ht hreceived
        exact hreceived.onOutDataReceived hpending (fun _ => readStays_nil) ht
    | none =>
        rw [receiveOut_of_staged hstate hbase, receiveStaged_length] at ht hreceived
        rw [onOutDataReceived_of_dataOut (by exact hstate)] at ht
        exact hreceived.onData ((hstays.2 hstate).2) hstate ht
  · rw [receiveOut_of_not_dataOut hstate] at ht
    exact h.onOutDataReceived hpending hstays.1 ht

theorem Bounded.step {a : MscAction} (h : Bounded backend s) (hpending : ListPending s)
    (hstays : Stays backend s a) (ht : s.step a = some t) :
    Bounded backend t ∧ ListPending t := by
  cases a with
  | onNewConnection =>
      obtain rfl := Option.some.inj ht
      exact ⟨h.reset, fun hfalse => (nomatch hfalse)⟩
  | onDisconnection =>
      obtain rfl := Option.some.inj ht
      exact ⟨h.reset, fun hfalse => (nomatch hfalse)⟩
  | brokenOut length received =>
      obtain rfl := Option.some.inj ht
      exact ⟨(h.receiveOut hstays).reset, fun hfalse => (nomatch hfalse)⟩
  | transfer transfer =>
      obtain ⟨⟨u, reply⟩, hu, rfl⟩ := Option.map_eq_some_iff.mp ht
      cases transfer with
      | out bytes =>
          obtain ⟨v, hv, heq⟩ := Option.map_eq_some_iff.mp hu
          cases heq
          exact h.out hpending hstays hv
      | in_ length =>
          obtain ⟨v, hv, heq⟩ := Option.map_eq_some_iff.mp hu
          cases heq
          obtain ⟨hbounded, hlist⟩ := h.onOutDataReceived hpending (fun _ => readStays_nil) hv
          exact ⟨hbounded.handleBulkIn, hlist.handleBulkIn⟩
      | undirected bytes epFound =>
          obtain ⟨v, hv, heq⟩ := Option.map_eq_some_iff.mp hu
          obtain ⟨hbounded, hlist⟩ := h.onOutDataReceived hpending hstays hv
          split at heq
          next =>
            cases heq
            exact ⟨hbounded.handleBulkIn, hlist.handleBulkIn⟩
          next =>
            cases heq
            exact ⟨hbounded, hlist⟩

end Steps

section Runs

variable {backend : StorageBackend Medium} {readOnly : Bool} {config : MscConfig}
  {medium : Medium} {s : MscBulkOnlyHandler Medium}

/-- While the host keeps to what the handler does not check, every use of the medium lies within
it. -/
theorem medium_bounds
    (h : ReachableUnder (system (some backend) readOnly config medium) (Stays backend) s) :
    ∀ access ∈ s.accesses, access.Within backend := by
  have hinv : Bounded backend s ∧ ListPending s := by
    refine ReachableUnder.invariant (I := fun s => Bounded backend s ∧ ListPending s) ?_ ?_ h
    · rintro s rfl
      refine ⟨⟨rfl, fun access haccess => (nomatch haccess), fun _ => rfl,
        fun hstate => (nomatch hstate), fun hfalse => (nomatch hfalse), fun _ => rfl, ?_⟩,
        fun hfalse => (nomatch hfalse)⟩
      exact Nat.two_pow_pos 32
    · rintro s a t ⟨hs, hpending⟩ hstays ht
      exact hs.step hpending hstays ht
  exact hinv.1.accesses

end Runs

/-- Two blocks in the middle are read in two transfers. -/
theorem medium_bounds_instance :
    ∃ s : MscBulkOnlyHandler (List UInt8),
      ReachableUnder
        (system (some (memoryBackend 4 2)) false ⟨[], [], [], []⟩ [1, 2, 3, 4, 5, 6, 7, 8])
        (Stays (memoryBackend 4 2)) s ∧
      (∀ access ∈ s.accesses, access.Within (memoryBackend 4 2)) ∧
      s.accesses = [.directSource 1 0 3, .directSource 1 3 1] := by
  obtain ⟨s, t, hs, ht, haccesses⟩ :
      ∃ s t : MscBulkOnlyHandler (List UInt8),
        (create (some (memoryBackend 4 2)) false ⟨[], [], [], []⟩ [1, 2, 3, 4, 5, 6, 7, 8]).step
          (.transfer (.out (Cbw.ofCommand 1 4 true [0x28, 0, 0, 0, 0, 1, 0, 0, 2]).toBytes)) =
          some s ∧
        (system (some (memoryBackend 4 2)) false ⟨[], [], [], []⟩ [1, 2, 3, 4, 5, 6, 7, 8]).run s
          [.transfer (.in_ 3), .transfer (.in_ 5)] = some t ∧
        t.accesses = [.directSource 1 0 3, .directSource 1 3 1] :=
    ⟨_, _, rfl, rfl, rfl⟩
  have hstays : Stays (memoryBackend 4 2)
      (create (some (memoryBackend 4 2)) false ⟨[], [], [], []⟩ [1, 2, 3, 4, 5, 6, 7, 8])
      (.transfer (.out (Cbw.ofCommand 1 4 true [0x28, 0, 0, 0, 0, 1, 0, 0, 2]).toBytes)) := by
    refine ⟨fun _ _ _ _ _ => ?_, fun hdata => (nomatch hdata)⟩
    exact (by decide : 6 ≤ 8)
  have hreach := ReachableUnder.run _ (by simp [Stays]) (.step (.initial rfl) hstays hs) ht
  exact ⟨t, hreach, medium_bounds hreach, haccesses⟩

/-- The last block number that 32 bits hold and one block come to zero, which is within any
medium. -/
theorem medium_left :
    ¬ ∀ (backend : StorageBackend (List UInt8)) (readOnly : Bool) (config : MscConfig)
      (medium : List UInt8) (s : MscBulkOnlyHandler (List UInt8)),
      Reachable (system (some backend) readOnly config medium) s →
      ∀ access ∈ s.accesses, access.Within backend := by
  intro h
  obtain ⟨s, hs, haccess⟩ :
      ∃ s : MscBulkOnlyHandler (List UInt8),
        (system (some (memoryBackend 2 2)) true ⟨[], [], [], []⟩ [1, 2, 3, 4]).run
          (create (some (memoryBackend 2 2)) true ⟨[], [], [], []⟩ [1, 2, 3, 4])
          [.transfer (.out (Cbw.ofCommand 1 2 true
            [0x28, 0, 0xFF, 0xFF, 0xFF, 0xFF, 0, 0, 1]).toBytes), .transfer (.in_ 2)] = some s ∧
        s.accesses = [.directSource 0xFFFFFFFF 0 2] :=
    ⟨_, rfl, rfl⟩
  have hwithin := h _ _ _ _ s (Reachable.run _ (.initial rfl) hs) (.directSource 0xFFFFFFFF 0 2)
    (by rw [haccess]; exact List.mem_singleton_self _)
  exact absurd hwithin (by decide : ¬ 8589934592 ≤ 4)

end Usbipdcpp.MassStorage
