import Usbipdcpp.MassStorage.BulkStages

namespace Usbipdcpp.MassStorage

open Foundation.TransitionSystem
open Foundation.Lockstep
open Protocol (BotState)
open VirtualDevice (Csw)
open MscBulkOnlyHandler

variable {Medium : Type}

/-- A transfer of the data phase, in either direction. -/
inductive DataTransfer where
  | out (bytes : List UInt8)
  | in_ (length : UInt32)
  deriving DecidableEq

namespace DataTransfer

def toHostTransfer : DataTransfer → HostTransfer
  | out bytes => .out bytes
  | in_ length => .in_ length

/-- The bytes that the host sends. -/
def sent : DataTransfer → Nat
  | out bytes => bytes.length
  | in_ _ => 0

/-- The bytes that a transfer moves, by the reply to it. -/
def moved : DataTransfer → Option BulkReply → Nat
  | out bytes, _ => bytes.length
  | in_ _, some reply => reply.actualLength.toNat
  | in_ _, none => 0

end DataTransfer

def BulkReply.isCsw (reply : BulkReply) : Bool :=
  match reply.source with
  | .fallback _ => true
  | _ => false

/-- A data phase that the status does not interrupt, with the number of bytes that it moves. -/
def dataPhaseRun (s : MscBulkOnlyHandler Medium) :
    List DataTransfer → Option (MscBulkOnlyHandler Medium × Nat)
  | [] => some (s, 0)
  | transfer :: transfers =>
      (s.transfer transfer.toHostTransfer).bind fun p =>
        if p.2.any BulkReply.isCsw then none
        else (dataPhaseRun p.1 transfers).map fun q => (q.1, transfer.moved p.2 + q.2)

/-- The residue that a command reports, where the handler happens to have `stale` of one. -/
def DataPhase.residue (length stale : UInt32) : DataPhase → UInt32
  | passed => stale
  | failed => length
  | toHost _ => 0
  | fromHost _ residue => residue
  | stuck => 0
  | undefined => 0

/-- The data that a command is answered with. -/
def DataPhase.sentSize : DataPhase → Nat
  | toHost size => size
  | _ => 0

namespace Stage

def residue : Stage → UInt32
  | idle => 0
  | status csw => csw.dataResidue
  | sending _ => 0
  | collecting _ _ residue _ => residue

def left : Stage → Nat
  | sending left => left
  | _ => 0

theorem residue_settle {cbw : Cbw} {stage next : Stage} (hstage : stage ≠ .idle)
    (h : stage.settle cbw = some next) :
    next.residue = stage.residue ∧ next.left = stage.left := by
  obtain rfl | ⟨needed, gathered, residue, backed, rfl, rfl⟩ := eq_or_of_settle hstage h
  · exact ⟨rfl, rfl⟩
  · exact ⟨rfl, rfl⟩

theorem residue_grow {stage : Stage} {length : Nat} :
    (stage.grow length).residue = stage.residue ∧ (stage.grow length).left = stage.left := by
  cases stage with
  | _ => exact ⟨rfl, rfl⟩

/-- A reply takes its data from what is left, unless it is the status. -/
theorem residue_reply {cbw : Cbw} {stage next : Stage} {r : StageReply} {length : Nat}
    (hstage : stage ≠ .idle) (h : stage.reply cbw length = (next, r)) (hcsw : ∀ csw, r ≠ .csw csw) :
    next ≠ .idle ∧ next.residue = stage.residue ∧ next.left + r.length = stage.left := by
  cases stage with
  | idle => exact absurd rfl hstage
  | status csw =>
      cases h
      exact absurd rfl (hcsw csw)
  | sending left =>
      obtain ⟨rfl, rfl⟩ := Prod.mk.injEq _ _ _ _ ▸ h
      split
      next hlast => exact ⟨Stage.noConfusion, rfl, by simp [Stage.left, StageReply.length, hlast]⟩
      next hmore =>
        refine ⟨Stage.noConfusion, rfl, ?_⟩
        simp only [Stage.left, StageReply.length]
        omega
  | collecting needed gathered residue backed =>
      cases h
      exact ⟨Stage.noConfusion, rfl, rfl⟩

/-- The status is given where nothing is left, with the residue that has been due. -/
theorem residue_csw {cbw : Cbw} {stage next : Stage} {csw : Csw} {length : Nat}
    (h : stage.reply cbw length = (next, .csw csw)) :
    csw.dataResidue = stage.residue ∧ stage.left = 0 := by
  cases stage with
  | status csw' =>
      cases h
      exact ⟨rfl, rfl⟩
  | idle => cases h
  | sending left => cases congrArg Prod.snd h
  | collecting => cases h

end Stage

section Ledger

variable {s t : MscBulkOnlyHandler Medium} {stage : Stage} {cbw : Cbw} {phase : DataPhase}

/-- Neither the residue to come nor the data still to be sent is lost by a transfer. -/
theorem at_transfer {transfer : DataTransfer} {reply : Option BulkReply} (h : At cbw s stage)
    (hstage : stage ≠ .idle) (ht : s.transfer transfer.toHostTransfer = some (t, reply))
    (hreply : reply.any BulkReply.isCsw = false) :
    ∃ next, At cbw t next ∧ next ≠ .idle ∧ next.residue = stage.residue ∧
      next.left + transfer.moved reply = stage.left + transfer.sent := by
  cases transfer with
  | out bytes =>
      obtain ⟨next, hnext, hat⟩ := exists_of_rel_left (h.out hstage bytes) ht
      have hgrown : stage.grow bytes.length ≠ .idle := Stage.grow_ne_idle hstage
      obtain ⟨hresidue, hleft⟩ := Stage.residue_settle hgrown hnext
      refine ⟨next, hat, Stage.settle_ne_idle hgrown hnext,
        hresidue.trans Stage.residue_grow.1, ?_⟩
      rw [hleft, Stage.residue_grow.2]
      rfl
  | in_ length =>
      obtain ⟨⟨next, r⟩, hnext, hat, bulkReply, rfl, hconveys⟩ :=
        exists_of_rel_left (h.in_ length) ht
      obtain ⟨settled, hsettled, hreplied⟩ := Option.map_eq_some_iff.mp hnext
      have hidle : settled ≠ .idle := Stage.settle_ne_idle hstage hsettled
      obtain ⟨hresidue, hleft⟩ := Stage.residue_settle hstage hsettled
      have hcsw (csw : Csw) : r ≠ .csw csw := by
        rintro rfl
        cases hconveys with
        | csw hconveyed =>
            subst hconveyed
            cases hreply
      obtain ⟨hnext, hresidue', hleft'⟩ := Stage.residue_reply hidle hreplied hcsw
      refine ⟨next, hat, hnext, hresidue'.trans hresidue, ?_⟩
      rw [← hleft, ← hleft', ← hconveys.length]
      rfl

/-- What a data phase has moved is what the host has sent and what the handler had to send. -/
theorem at_dataPhaseRun {transfers : List DataTransfer} {moved : Nat} (h : At cbw s stage)
    (hstage : stage ≠ .idle) (ht : dataPhaseRun s transfers = some (t, moved)) :
    ∃ next, At cbw t next ∧ next ≠ .idle ∧ next.residue = stage.residue ∧
      next.left + moved = stage.left + (transfers.map DataTransfer.sent).sum := by
  induction transfers generalizing s stage moved with
  | nil =>
      cases ht
      exact ⟨stage, h, hstage, rfl, rfl⟩
  | cons transfer transfers ih =>
      obtain ⟨⟨u, reply⟩, hu, hrest⟩ := Option.bind_eq_some_iff.mp ht
      dsimp only at hrest
      split at hrest
      next => cases hrest
      next hreply =>
        obtain ⟨⟨v, moved'⟩, hv, heq⟩ := Option.map_eq_some_iff.mp hrest
        cases heq
        obtain ⟨middle, hmiddle, hidle, hresidue, hleft⟩ :=
          at_transfer h hstage hu (Bool.eq_false_of_not_eq_true hreply)
        obtain ⟨next, hnext, hidle', hresidue', hleft'⟩ := ih hmiddle hidle hv
        refine ⟨next, hnext, hidle', hresidue'.trans hresidue, ?_⟩
        rw [List.map_cons, List.sum_cons]
        omega

theorem residue_of_csw {length : UInt32} {csw : Csw} {status actualLength : UInt32}
    (h : At cbw s stage) (hstage : stage ≠ .idle)
    (ht : s.transfer (.in_ length) = some (t, some ⟨status, actualLength, .fallback csw⟩)) :
    csw.dataResidue = stage.residue ∧ stage.left = 0 := by
  obtain ⟨⟨next, r⟩, hnext, hat, bulkReply, hreply, hconveys⟩ :=
    exists_of_rel_left (h.in_ length) ht
  obtain rfl := Option.some.inj hreply
  obtain ⟨settled, hsettled, hreplied⟩ := Option.map_eq_some_iff.mp hnext
  obtain ⟨hresidue, hleft⟩ := Stage.residue_settle hstage hsettled
  cases hconveys with
  | data hstatus hlength hsource => exact absurd rfl (hsource csw)
  | csw hconveyed =>
      cases hconveyed
      obtain ⟨hcsw, hnone⟩ := Stage.residue_csw hreplied
      exact ⟨hcsw.trans hresidue, hleft.symm.trans hnone⟩
  | stall hconveyed => cases hconveyed

theorem residue_of_stage {stale : UInt32} {backed : Bool}
    (hphase : phase.stage cbw stale backed = some stage) :
    stage.residue = phase.residue cbw.dataTransferLength stale ∧ stage.left = phase.sentSize := by
  cases phase with
  | undefined => cases hphase
  | _ =>
      obtain rfl := Option.some.inj hphase
      exact ⟨rfl, rfl⟩

end Ledger

/-- The status of a command tells what its data phase has left if and only if the residue that the
command sets, or finds, makes up for the data that it sends and for the data that the host sends. -/
theorem residue_exact_iff {backend : Option (StorageBackend Medium)} {readOnly : Bool}
    {config : MscConfig} {medium : Medium} {s t u v : MscBulkOnlyHandler Medium}
    {bytes : List UInt8} {transfers : List DataTransfer} {moved : Nat} {length : UInt32}
    {reply : Option BulkReply} {status actualLength : UInt32} {csw : Csw}
    (hs : Reachable (system backend readOnly config medium) s) (hstate : s.state = .idle)
    (hlength : Cbw.size ≤ bytes.length)
    (hsignature : (Cbw.ofBytes bytes hlength).signature = Cbw.signatureValue)
    (hcommand : s.transfer (.out bytes) = some (t, reply))
    (hdata : dataPhaseRun t transfers = some (u, moved))
    (hstatus : u.transfer (.in_ length) = some (v, some ⟨status, actualLength, .fallback csw⟩)) :
    csw.dataResidue.toNat + moved = (Cbw.ofBytes bytes hlength).dataTransferLength.toNat ↔
      ((dataPhase (s.loadCbw (Cbw.ofBytes bytes hlength))).residue
          (Cbw.ofBytes bytes hlength).dataTransferLength s.dataResidue).toNat +
        (dataPhase (s.loadCbw (Cbw.ofBytes bytes hlength))).sentSize +
        (transfers.map DataTransfer.sent).sum =
      (Cbw.ofBytes bytes hlength).dataTransferLength.toNat := by
  obtain ⟨t', ht, heq⟩ : ∃ t', s.onCommand bytes = some t' ∧ t' = t := by
    simp only [MscBulkOnlyHandler.transfer,
      receiveOut_of_not_dataOut (by simp [hstate] : s.state ≠ .dataOut),
      onOutDataReceived_of_idle hstate] at hcommand
    obtain ⟨t', ht, heq⟩ := Option.map_eq_some_iff.mp hcommand
    exact ⟨t', ht, congrArg Prod.fst heq⟩
  subst heq
  obtain ⟨stage, hphase, hat⟩ :=
    exists_of_rel_left (rel_onCommand (settled_of_reachable hs) hstate hlength hsignature) ht
  obtain ⟨hresidue, hleft⟩ := residue_of_stage hphase
  obtain ⟨next, hnext, hidle, hkept, hmoved⟩ := at_dataPhaseRun hat (ne_idle_of_stage hphase) hdata
  obtain ⟨hcsw, hnone⟩ := residue_of_csw hnext hidle hstatus
  rw [hcsw, hkept, hresidue]
  rw [hnone, hleft] at hmoved
  omega

/-- A block is read to its end. -/
theorem residue_exact_instance :
    ∃ (s : MscBulkOnlyHandler (List UInt8)) (csw : Csw) (moved : Nat),
      s = create (some (memoryBackend 2 4)) false ⟨[], [], [], []⟩ [1, 2, 3, 4, 5, 6, 7, 8] ∧
      (∃ t reply u v,
        s.transfer (.out (Cbw.ofCommand 1 4 true [0x28, 0, 0, 0, 0, 1, 0, 0, 1]).toBytes) =
            some (t, reply) ∧
          dataPhaseRun t [.in_ 3, .in_ 1] = some (u, moved) ∧
          u.transfer (.in_ 13) = some (v, some ⟨0, 13, .fallback csw⟩)) ∧
      csw.dataResidue.toNat + moved = 4 := by
  obtain ⟨s, t, reply, u, moved, v, csw, hs, ht, hu, hv⟩ :
      ∃ (s t : MscBulkOnlyHandler (List UInt8)) (reply : Option BulkReply)
        (u : MscBulkOnlyHandler (List UInt8)) (moved : Nat) (v : MscBulkOnlyHandler (List UInt8))
        (csw : Csw),
        s = create (some (memoryBackend 2 4)) false ⟨[], [], [], []⟩ [1, 2, 3, 4, 5, 6, 7, 8] ∧
        s.transfer (.out (Cbw.ofCommand 1 4 true [0x28, 0, 0, 0, 0, 1, 0, 0, 1]).toBytes) =
          some (t, reply) ∧
        dataPhaseRun t [.in_ 3, .in_ 1] = some (u, moved) ∧
        u.transfer (.in_ 13) = some (v, some ⟨0, 13, .fallback csw⟩) :=
    ⟨_, _, _, _, _, _, _, rfl, rfl, rfl, rfl⟩
  have hcbw := Cbw.ofBytes_toBytes (Cbw.ofCommand 1 4 true [0x28, 0, 0, 0, 0, 1, 0, 0, 1])
  have hexact := residue_exact_iff (.initial hs) (by rw [hs]; rfl) (Cbw.length_toBytes _).ge
    (by rw [hcbw]; rfl) ht hu hv
  rw [hcbw, hs] at hexact
  exact ⟨s, csw, moved, hs, ⟨t, reply, u, v, ht, hu, hv⟩, hexact.mpr rfl⟩

/-- A host with room for more than the sense data is told that nothing of it is left. -/
theorem residue_unset :
    ∃ (t u v : MscBulkOnlyHandler (List UInt8)) (reply : Option BulkReply),
      (create (some (memoryBackend 2 4)) false ⟨[], [], [], []⟩ [1, 2, 3, 4, 5, 6, 7, 8]).transfer
          (.out (Cbw.ofCommand 1 252 true [0x03, 0, 0, 0, 252]).toBytes) = some (t, reply) ∧
        dataPhaseRun t [.in_ 252] = some (u, 18) ∧
        u.transfer (.in_ 13) = some (v, some ⟨0, 13, .fallback ⟨1, 0, 0⟩⟩) ∧
        (0 : UInt32).toNat + 18 ≠ 252 :=
  ⟨_, _, _, _, rfl, rfl, rfl, by decide⟩

end Usbipdcpp.MassStorage
