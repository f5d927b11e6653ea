import Usbipdcpp.Foundation.Chunks
import Usbipdcpp.MassStorage.TransferSteps

namespace Usbipdcpp.MassStorage

open Foundation.TransitionSystem
open Protocol (BotState)
open MscBulkOnlyHandler

variable {Medium : Type}

/-- An OUT transfer that takes part in a data phase. -/
def receive (s : MscBulkOnlyHandler Medium) (bytes : List UInt8) :
    Option (MscBulkOnlyHandler Medium) :=
  s.step (.transfer (.out bytes))

/-- The OUT transfers of a host, one after the other. -/
def receiveAll (s : MscBulkOnlyHandler Medium) (transfers : List (List UInt8)) :
    Option (MscBulkOnlyHandler Medium) :=
  transfers.foldlM receive s

section Receiving

variable {s : MscBulkOnlyHandler Medium} {bytes : List UInt8}

theorem receive_eq : receive s bytes =
    (s.receiveOut bytes.length bytes).1.onOutDataReceived (s.receiveOut bytes.length bytes).2
      bytes.length := by
  simp only [receive, MscBulkOnlyHandler.step, MscBulkOnlyHandler.transfer, Option.map_map]
  exact Option.map_id'

theorem receive_of_idle (hstate : s.state = .idle) : receive s bytes = s.onCommand bytes := by
  rw [receive_eq, receiveOut_of_not_dataOut (by simp [hstate]), onOutDataReceived_of_idle hstate]

theorem receive_of_status (hstate : s.state = .status) : receive s bytes = some s := by
  rw [receive_eq, receiveOut_of_not_dataOut (by simp [hstate]),
    onOutDataReceived_of_other (by simp [hstate]) (by simp [hstate])]

theorem receive_of_staged (hstate : s.state = .dataOut) (hbase : s.writeMmapBase = none) :
    receive s bytes =
      ({ s with stagingData := s.stagingData ++ bytes } : MscBulkOnlyHandler Medium).onData
        bytes.length := by
  rw [receive_eq, receiveOut_of_staged hstate hbase, receiveStaged_length]
  exact onOutDataReceived_of_dataOut hstate

theorem receive_of_mapped {base : UInt64} (hstate : s.state = .dataOut)
    (hbase : s.writeMmapBase = some base) :
    receive s bytes = (s.receiveMapped base bytes.length bytes).onData bytes.length := by
  rw [receive_eq, receiveOut_of_mapped hstate hbase]
  exact onOutDataReceived_of_dataOut hstate

theorem onCommand_of_signature (h : Cbw.size ≤ bytes.length)
    (hsignature : (Cbw.ofBytes bytes h).signature = Cbw.signatureValue) :
    s.onCommand bytes = (s.loadCbw (.ofBytes bytes h)).execute := by
  rw [MscBulkOnlyHandler.onCommand, dif_pos h]
  exact if_pos hsignature

end Receiving

/-- What a backend's operations preserve of the medium. -/
structure StorageBackend.Preserves (backend : StorageBackend Medium) (P : Medium → Prop) :
    Prop where
  write : ∀ medium lba count data, P medium → P (backend.write medium lba count data)
  punchHole : ∀ medium lba count, P medium → P (backend.punchHole medium lba count)
  store : ∀ medium lba offset bytes, P medium → P (backend.store medium lba offset bytes)

/-- A handler works with the one backend that it was made with, on what that preserves. -/
structure WorksWith (backend : StorageBackend Medium) (readOnly : Bool) (P : Medium → Prop)
    (s : MscBulkOnlyHandler Medium) : Prop where
  backend : s.backend = some backend
  readOnly : s.readOnly = readOnly
  medium : P s.medium

section WorksWith

variable {backend : StorageBackend Medium} {readOnly : Bool} {P : Medium → Prop}
  {s t : MscBulkOnlyHandler Medium} {bytes : List UInt8} {length : Nat}

theorem WorksWith.receiveOut (hP : backend.Preserves P) (h : WorksWith backend readOnly P s) :
    WorksWith backend readOnly P (s.receiveOut length bytes).1 := by
  obtain ⟨base, -, -, heq⟩ | ⟨-, -, heq⟩ | ⟨-, heq⟩ := receiveOut_cases s length bytes
  · rw [heq]
    refine ⟨h.backend, h.readOnly, ?_⟩
    simp only [MscBulkOnlyHandler.receiveMapped, h.backend]
    exact hP.store _ _ _ _ h.medium
  · rw [heq]
    exact ⟨h.backend, h.readOnly, h.medium⟩
  · rwa [heq]

theorem WorksWith.punched (hP : backend.Preserves P) (h : WorksWith backend readOnly P s)
    (descs : List UnmapBlockDescriptor) : P (punchMedium backend descs s.medium) := by
  have hmedium := h.medium
  generalize s.medium = medium at hmedium
  induction descs generalizing medium with
  | nil => exact hmedium
  | cons desc descs ih => exact ih _ (hP.punchHole _ _ _ hmedium)

theorem WorksWith.filled (hP : backend.Preserves P) (h : WorksWith backend readOnly P s)
    (data : List UInt8) (count : Nat) (lba : UInt64) :
    P (fillMedium backend data count lba s.medium) := by
  have hmedium := h.medium
  generalize s.medium = medium at hmedium
  induction count generalizing medium lba with
  | zero => exact hmedium
  | succ count ih => exact ih _ _ (hP.write _ _ _ _ hmedium)

theorem WorksWith.executed {phase : DataPhase} (hP : backend.Preserves P)
    (h : WorksWith backend readOnly P s) (ht : Executed s phase t) :
    WorksWith backend readOnly P t := by
  cases ht with
  | passed => exact ⟨h.backend, h.readOnly, h.medium⟩
  | failed => exact ⟨h.backend, h.readOnly, h.medium⟩
  | answered => exact ⟨h.backend, h.readOnly, h.medium⟩
  | write => exact ⟨h.backend, h.readOnly, h.medium⟩
  | writeSame => exact ⟨h.backend, h.readOnly, h.medium⟩
  | unmap => exact ⟨h.backend, h.readOnly, h.medium⟩
  | punched hbackend =>
      obtain rfl := Option.some.inj (h.backend.symm.trans hbackend)
      exact ⟨h.backend, h.readOnly, hP.punchHole _ _ _ h.medium⟩
  | read =>
      unfold MscBulkOnlyHandler.read10
      dsimp only
      split
      next => exact ⟨h.backend, h.readOnly, h.medium⟩
      next => exact ⟨h.backend, h.readOnly, h.medium⟩

theorem WorksWith.onCommand (hP : backend.Preserves P) (h : WorksWith backend readOnly P s)
    (hclean : s.commandFailed = false) (ht : s.onCommand bytes = some t) :
    WorksWith backend readOnly P t := by
  cases commanded_of_onCommand hclean ht with
  | short => exact ⟨h.backend, h.readOnly, h.medium⟩
  | badSignature => exact ⟨h.backend, h.readOnly, h.medium⟩
  | executed hlength hsignature hdefined hexecuted =>
      have hloaded : WorksWith backend readOnly P (s.loadCbw (.ofBytes bytes hlength)) :=
        ⟨h.backend, h.readOnly, h.medium⟩
      exact hloaded.executed hP hexecuted

theorem WorksWith.onUnmapData (hP : backend.Preserves P) (h : WorksWith backend readOnly P s)
    (ht : s.onUnmapData = some t) : WorksWith backend readOnly P t := by
  unfold MscBulkOnlyHandler.onUnmapData at ht
  split at ht
  next =>
    rw [foldlM_punchDescriptor h.backend] at ht
    obtain rfl := Option.some.inj ht
    exact ⟨h.backend, h.readOnly, h.punched hP _⟩
  next =>
    obtain rfl := Option.some.inj ht
    exact h

theorem WorksWith.onWriteSameData (hP : backend.Preserves P)
    (h : WorksWith backend readOnly P s) (ht : s.onWriteSameData = some t) :
    WorksWith backend readOnly P t := by
  obtain ⟨used, hused, rfl⟩ := Option.map_eq_some_iff.mp ht
  obtain rfl := Option.some.inj (h.backend.symm.trans hused)
  split
  next =>
    rw [fillBlocks_eq]
    exact ⟨h.backend, h.readOnly, h.filled hP _ _ _⟩
  next => exact h

theorem WorksWith.onMappedData (h : WorksWith backend readOnly P s)
    (ht : s.onMappedData length = some t) : WorksWith backend readOnly P t := by
  obtain ⟨used, hused, rfl⟩ := Option.map_eq_some_iff.mp ht
  obtain rfl := Option.some.inj (h.backend.symm.trans hused)
  split
  next => exact ⟨h.backend, h.readOnly, h.medium⟩
  next => exact ⟨h.backend, h.readOnly, h.medium⟩

theorem WorksWith.onStagedData (hP : backend.Preserves P) (h : WorksWith backend readOnly P s)
    (ht : s.onStagedData = some t) : WorksWith backend readOnly P t := by
  obtain ⟨used, hused, rfl⟩ := Option.map_eq_some_iff.mp ht
  obtain rfl := Option.some.inj (h.backend.symm.trans hused)
  split
  next => exact ⟨h.backend, h.readOnly, hP.write _ _ _ _ h.medium⟩
  next => exact h

theorem WorksWith.onData (hP : backend.Preserves P) (h : WorksWith backend readOnly P s)
    (ht : s.onData length = some t) : WorksWith backend readOnly P t := by
  unfold MscBulkOnlyHandler.onData at ht
  split at ht
  next => exact h.onUnmapData hP ht
  next =>
    split at ht
    next => exact h.onWriteSameData hP ht
    next =>
      split at ht
      next => exact h.onMappedData ht
      next => exact h.onStagedData hP ht

theorem WorksWith.handleBulkIn {transferBufferLength : UInt32}
    (h : WorksWith backend readOnly P s) :
    WorksWith backend readOnly P (s.handleBulkIn transferBufferLength).1 := by
  have hfinish (u : MscBulkOnlyHandler Medium) (hu : WorksWith backend readOnly P u) :
      WorksWith backend readOnly P u.finishDataIn := by
    unfold MscBulkOnlyHandler.finishDataIn
    split
    next => exact ⟨hu.backend, hu.readOnly, hu.medium⟩
    next => exact hu
  unfold MscBulkOnlyHandler.handleBulkIn
  split
  next =>
    dsimp only
    split
    next => exact hfinish _ ⟨h.backend, h.readOnly, h.medium⟩
    next => exact hfinish _ h
  next => exact ⟨h.backend, h.readOnly, h.medium⟩
  next => exact h

theorem worksWith_of_reachable {config : MscConfig} {medium : Medium}
    (hP : backend.Preserves P) (hmedium : P medium)
    (h : Reachable (system (some backend) readOnly config medium) s) :
    WorksWith backend readOnly P s := by
  have hboth : Settled s ∧ WorksWith backend readOnly P s := by
    refine Reachable.invariant (I := fun s => Settled s ∧ WorksWith backend readOnly P s) ?_ ?_ h
    · rintro s rfl
      exact ⟨.of_unmarked (fun _ => rfl) rfl rfl, rfl, rfl, hmedium⟩
    · intro s a t hs ht
      refine step_invariant (I := fun s => Settled s ∧ WorksWith backend readOnly P s)
        ?_ ?_ ?_ ?_ ?_ hs ht
      · intro s hs
        exact ⟨.reset, hs.2.backend, hs.2.readOnly, hs.2.medium⟩
      · intro s length bytes hs
        exact ⟨hs.1.receiveOut, hs.2.receiveOut hP⟩
      · intro s bytes t hs hstate ht
        exact ⟨hs.1.onCommand hstate ht,
          hs.2.onCommand hP (hs.1.clean (by simp [hstate])) ht⟩
      · intro s length t hs hstate ht
        exact ⟨hs.1.onData ht, hs.2.onData hP ht⟩
      · intro s length hs
        exact ⟨hs.1.handleBulkIn, hs.2.handleBulkIn⟩
  exact hboth.2

end WorksWith

end Usbipdcpp.MassStorage
