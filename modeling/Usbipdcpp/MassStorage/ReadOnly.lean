import Usbipdcpp.MassStorage.TransferSteps

namespace Usbipdcpp.MassStorage

open Foundation.TransitionSystem
open Protocol (BotState)
open MscBulkOnlyHandler

/-- The uses of the medium that change it or let the host change it. -/
def MediumAccess.modifies : MediumAccess → Bool
  | .read .. => false
  | .directSource .. => false
  | .write .. => true
  | .punchHole .. => true
  | .directDestination .. => true

variable {Medium : Type}

/-- No command of a read-only handler gets to the data that would change the medium. -/
structure Protected (medium : Medium) (s : MscBulkOnlyHandler Medium) : Prop where
  readOnly : s.readOnly = true
  state : s.state ≠ .dataOut
  clean : s.state ≠ .status → s.commandFailed = false
  medium : s.medium = medium
  accesses : ∀ access ∈ s.accesses, access.modifies = false

section Steps

variable {medium : Medium} {s t : MscBulkOnlyHandler Medium} {phase : DataPhase}
  {bytes : List UInt8} {length : Nat}

theorem Protected.reset (h : Protected medium s) : Protected medium s.resetState :=
  ⟨h.readOnly, BotState.noConfusion, fun _ => rfl, h.medium, h.accesses⟩

theorem Protected.fail (h : Protected medium s) : Protected medium s.fail :=
  ⟨h.readOnly, BotState.noConfusion, fun hne => absurd rfl hne, h.medium, h.accesses⟩

theorem Protected.receiveOut (h : Protected medium s) :
    Protected medium (s.receiveOut length bytes).1 := by
  rwa [receiveOut_of_not_dataOut h.state]

theorem Protected.executed (h : Protected medium s) (hclean : s.commandFailed = false)
    (ht : Executed s phase t) : Protected medium t := by
  cases ht with
  | passed =>
      exact ⟨h.readOnly, BotState.noConfusion, fun hne => absurd rfl hne, h.medium, h.accesses⟩
  | failed => exact h.fail
  | answered => exact ⟨h.readOnly, BotState.noConfusion, fun _ => hclean, h.medium, h.accesses⟩
  | read hbackend hcommand hrange =>
      unfold MscBulkOnlyHandler.read10
      dsimp only
      split
      next hmapped =>
        exact ⟨h.readOnly, BotState.noConfusion, fun _ => hclean, h.medium, h.accesses⟩
      next hstaged =>
        refine ⟨h.readOnly, BotState.noConfusion, fun _ => hclean, h.medium,
          fun access haccess => ?_⟩
        rcases List.mem_append.mp haccess with hold | hnew
        · exact h.accesses access hold
        · rw [List.mem_singleton.mp hnew]
          rfl
  | punched _ hwritable _ => exact absurd (h.readOnly.symm.trans hwritable) Bool.true_eq_false.mp
  | write _ hwritable => exact absurd (h.readOnly.symm.trans hwritable) Bool.true_eq_false.mp
  | writeSame _ hwritable _ => exact absurd (h.readOnly.symm.trans hwritable) Bool.true_eq_false.mp
  | unmap hwritable _ => exact absurd (h.readOnly.symm.trans hwritable) Bool.true_eq_false.mp

theorem Protected.onCommand (h : Protected medium s) (hstate : s.state = .idle)
    (ht : s.onCommand bytes = some t) : Protected medium t := by
  have hclean : s.commandFailed = false := h.clean (by simp [hstate])
  have hloaded (cbw : Cbw) : Protected medium (s.loadCbw cbw) :=
    ⟨h.readOnly, h.state, h.clean, h.medium, h.accesses⟩
  cases commanded_of_onCommand hclean ht with
  | short =>
      have hcleared : Protected medium s.clearLast :=
        ⟨h.readOnly, h.state, h.clean, h.medium, h.accesses⟩
      exact hcleared.fail
  | badSignature => exact (hloaded _).fail
  | executed hlength hsignature hdefined hexecuted =>
      exact (hloaded _).executed hclean hexecuted

theorem Protected.handleBulkIn {transferBufferLength : UInt32} (h : Protected medium s) :
    Protected medium (s.handleBulkIn transferBufferLength).1 := by
  have hfinish (u : MscBulkOnlyHandler Medium) (hu : Protected medium u) :
      Protected medium u.finishDataIn := by
    unfold MscBulkOnlyHandler.finishDataIn
    split
    next =>
      exact ⟨hu.readOnly, BotState.noConfusion, fun hne => absurd rfl hne, hu.medium, hu.accesses⟩
    next => exact hu
  unfold MscBulkOnlyHandler.handleBulkIn
  split
  next hstate =>
    dsimp only
    split
    next hpos =>
      refine hfinish _ ⟨h.readOnly, h.state, h.clean, h.medium, fun access haccess => ?_⟩
      unfold MscBulkOnlyHandler.handOut at haccess
      dsimp only at haccess
      split at haccess
      next base hbase =>
        rcases List.mem_append.mp haccess with hold | hnew
        · exact h.accesses access hold
        · rw [List.mem_singleton.mp hnew]
          rfl
      next => exact h.accesses access haccess
    next => exact hfinish _ h
  next => exact ⟨h.readOnly, BotState.noConfusion, fun _ => rfl, h.medium, h.accesses⟩
  next => exact h

end Steps

section Runs

variable {backend : Option (StorageBackend Medium)} {config : MscConfig} {medium : Medium}
  {s : MscBulkOnlyHandler Medium}

/-- Whatever the host sends, a read-only medium stays as it is. -/
theorem read_only_protected (h : Reachable (system backend true config medium) s) :
    s.state ≠ .dataOut ∧ s.medium = medium ∧
      ∀ access ∈ s.accesses, access.modifies = false := by
  have hprotected : Protected medium s := by
    refine Reachable.invariant (I := Protected medium) ?_ ?_ h
    · rintro s rfl
      exact ⟨rfl, BotState.noConfusion, fun _ => rfl, rfl, fun access haccess => by cases haccess⟩
    · intro s a t hs ht
      exact step_invariant (fun s hs => hs.reset) (fun s length bytes hs => hs.receiveOut)
        (fun s bytes t hs hstate ht => hs.onCommand hstate ht)
        (fun s length t hs hstate ht => absurd hstate hs.state)
        (fun s length hs => hs.handleBulkIn) hs ht
  exact ⟨hprotected.state, hprotected.medium, hprotected.accesses⟩

end Runs

/-- A WRITE (10) to a read-only device fails before its data, which goes nowhere. -/
theorem read_only_protected_instance :
    ∃ s : MscBulkOnlyHandler (List UInt8),
      Reachable (system (some (memoryBackend 2 2)) true ⟨[], [], [], []⟩ [1, 2, 3, 4]) s ∧
      s.state = .idle ∧ s.medium = [1, 2, 3, 4] := by
  obtain ⟨s, hs, hstate⟩ :
      ∃ s : MscBulkOnlyHandler (List UInt8),
        (system (some (memoryBackend 2 2)) true ⟨[], [], [], []⟩ [1, 2, 3, 4]).run
          (create (some (memoryBackend 2 2)) true ⟨[], [], [], []⟩ [1, 2, 3, 4])
          [.onNewConnection,
            .transfer (.out (Cbw.ofCommand 1 2 false [0x2A, 0, 0, 0, 0, 0, 0, 0, 1]).toBytes),
            .transfer (.out [5, 6]), .transfer (.in_ 13)] = some s ∧ s.state = .idle :=
    ⟨_, rfl, rfl⟩
  have hreach := Reachable.run _ (.initial rfl) hs
  exact ⟨s, hreach, hstate, (read_only_protected hreach).2.1⟩

end Usbipdcpp.MassStorage
