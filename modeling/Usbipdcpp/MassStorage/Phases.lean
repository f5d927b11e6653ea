import Usbipdcpp.MassStorage.BulkStages

namespace Usbipdcpp.MassStorage

open Foundation.TransitionSystem
open Foundation.Lockstep
open Protocol (BotState)
open VirtualDevice (Csw)
open MscBulkOnlyHandler

variable {Medium : Type}

/-- What a host does between a wrapper and its status. -/
inductive DataStage where
  | out (transfers : List (List UInt8))
  | in_ (sizes : List UInt32)
  deriving DecidableEq

namespace DataStage

/-- The host moves what its wrapper has announced, the way that it has announced. -/
def Moves (cbw : Cbw) : DataStage → Prop
  | out transfers =>
      cbw.isDataIn = false ∧ (transfers.map List.length).sum = cbw.dataTransferLength.toNat ∧
        (cbw.dataTransferLength = 0 → transfers = [])
  | in_ sizes =>
      cbw.isDataIn = true ∧ (sizes.map UInt32.toNat).sum = cbw.dataTransferLength.toNat ∧
        (cbw.dataTransferLength = 0 → sizes = [])

end DataStage

/-- A host that has got less than it has asked for takes the data as complete. -/
def isShort (length : UInt32) (reply : Option BulkReply) : Bool :=
  reply.any fun reply => decide (reply.actualLength < length)

def sentBytes (replies : List (Option BulkReply)) : Nat :=
  (replies.map fun reply => (reply.map fun reply => reply.actualLength.toNat).getD 0).sum

/-- The state behind the data stage, and the number of bytes that the handler has sent in it. -/
def dataStage (s : MscBulkOnlyHandler Medium) : DataStage → Option (MscBulkOnlyHandler Medium × Nat)
  | .out transfers =>
      (runUntil (fun s bytes => s.transfer (.out bytes)) (fun _ _ => false) s transfers).map
        fun p => (p.1, 0)
  | .in_ sizes =>
      (runUntil (fun s length => s.transfer (.in_ length)) isShort s sizes).map
        fun p => (p.1, sentBytes p.2)

/-- The host asks for the status and gets it, and the handler waits for the next wrapper. -/
def StatusGiven (cbw : Cbw) (s : MscBulkOnlyHandler Medium) : Prop :=
  ∃ t csw,
    s.transfer (.in_ 13) =
      some (t, some ⟨Protocol.UrbStatusType.statusOK, 13, .fallback csw⟩) ∧
    csw.tag = cbw.tag ∧ t.state = .idle

/-- The three phases of a command, from its wrapper on. -/
def PhasesKept (cbw : Cbw) (bytes : List UInt8) (stage : DataStage)
    (s : MscBulkOnlyHandler Medium) : Prop :=
  ∃ t reply u sent,
    s.transfer (.out bytes) = some (t, reply) ∧ dataStage t stage = some (u, sent) ∧
      sent ≤ cbw.dataTransferLength.toNat ∧ StatusGiven cbw u

/-- The status wrappers among the data, if the data is asked for in transfers of these sizes.  One
that is shorter than its transfer ends the data. -/
def strays : List Nat → Nat
  | [] => 0
  | n :: sizes => if Csw.size < n then 1 else strays sizes + 1

/-- The transfers that are left when the last one of the data has been answered. -/
def afterData (left : Nat) : List Nat → Option (List Nat)
  | [] => none
  | n :: sizes =>
      if left < n then some []
      else if left = n then some sizes
      else afterData (left - n) sizes

/-- How much there is when there is enough for the first time. -/
def filled (needed gathered : Nat) : List Nat → Nat
  | [] => gathered
  | n :: sizes =>
      if needed ≤ gathered + n then gathered + n else filled needed (gathered + n) sizes

/-- The host's data stage suits the device's data phase. -/
def Suits (length : Nat) (backed : Bool) : DataPhase → DataStage → Prop
  | .passed, .out _ => True
  | .failed, .out _ => True
  | .passed, .in_ sizes => Csw.size * strays (sizes.map UInt32.toNat) ≤ length
  | .failed, .in_ sizes => Csw.size * strays (sizes.map UInt32.toNat) ≤ length
  | .toHost size, .in_ sizes =>
      ∃ rest, afterData size (sizes.map UInt32.toNat) = some rest ∧
        size + Csw.size * strays rest ≤ length
  | .fromHost needed _, .out transfers =>
      needed ≤ length ∧ (backed = true ∨ filled needed 0 (transfers.map List.length) < 24)
  | .fromHost needed _, .in_ sizes =>
      needed = 0 ∧ Csw.size * strays (sizes.map UInt32.toNat) ≤ length
  | _, _ => False

namespace Stage

def dataStage (cbw : Cbw) (stage : Stage) : DataStage → Option (Stage × Nat)
  | .out transfers =>
      (runUntil (fun stage bytes => (stage.out cbw bytes.length).map fun next => (next, ()))
        (fun _ _ => false) stage transfers).map fun p => (p.1, 0)
  | .in_ sizes =>
      (runUntil (fun stage (length : UInt32) => stage.in_ cbw length.toNat)
        (fun length reply => decide (reply.length < length.toNat)) stage sizes).map
        fun p => (p.1, (p.2.map StageReply.length).sum)

end Stage

section Stages

variable {s : MscBulkOnlyHandler Medium} {stage : Stage} {cbw : Cbw}

/-- The handler and its stage go through the data from the host together. -/
theorem inStep_out (cbw : Cbw) :
    InStep (fun (s : MscBulkOnlyHandler Medium) bytes => s.transfer (.out bytes))
      (fun stage bytes => (stage.out cbw bytes.length).map fun next => (next, ()))
      (fun _ _ => false) (fun _ _ => false) (fun s stage => At cbw s stage ∧ stage ≠ .idle)
      (At cbw) (fun _ _ => True) := by
  refine ⟨fun s stage h => h.1, ?_⟩
  rintro s stage bytes ⟨hat, hstage⟩
  refine rel_map_right (rel_self (hat.out hstage bytes)) ?_
  rintro p next ⟨hnext, -, hout⟩
  exact ⟨hnext, trivial, rfl,
    fun _ => ⟨hnext, Stage.settle_ne_idle (Stage.grow_ne_idle hstage) hout⟩⟩

/-- The handler and its stage answer the IN transfers together. -/
theorem inStep_in (cbw : Cbw) :
    InStep (fun (s : MscBulkOnlyHandler Medium) length => s.transfer (.in_ length))
      (fun stage (length : UInt32) => stage.in_ cbw length.toNat) isShort
      (fun length reply => decide (reply.length < length.toNat)) (At cbw) (At cbw)
      (fun reply r => ∃ bulkReply, reply = some bulkReply ∧ bulkReply.Conveys r) := by
  refine ⟨fun s stage h => h, fun s stage length hat => rel_mono (hat.in_ length) ?_⟩
  rintro ⟨t, _⟩ ⟨next, r⟩ ⟨ht, reply, rfl, hconveys⟩
  refine ⟨ht, ⟨reply, rfl, hconveys⟩, ?_, fun _ => ht⟩
  simp only [isShort, Option.any_some, UInt32.lt_iff_toNat_lt, hconveys.length]

theorem sentBytes_of_conveys {replies : List (Option BulkReply)} {rs : List StageReply}
    (h : List.Forall₂ (fun reply r => ∃ bulkReply, reply = some bulkReply ∧ bulkReply.Conveys r)
      replies rs) : sentBytes replies = (rs.map StageReply.length).sum := by
  induction h with
  | nil => rfl
  | cons hfirst hrest ih =>
      obtain ⟨reply, rfl, hconveys⟩ := hfirst
      rw [sentBytes] at ih ⊢
      simp [hconveys.length, ih]

theorem rel_dataStage (h : At cbw s stage) (hstage : stage ≠ .idle) (d : DataStage) :
    Option.Rel (fun p q => At cbw p.1 q.1 ∧ p.2 = q.2) (dataStage s d) (stage.dataStage cbw d) := by
  cases d with
  | out transfers =>
      exact rel_map ((inStep_out cbw).runUntil ⟨h, hstage⟩ transfers)
        fun _ _ hends => ⟨hends.1, rfl⟩
  | in_ sizes =>
      exact rel_map ((inStep_in cbw).runUntil h sizes) fun _ _ hends =>
        ⟨hends.1, sentBytes_of_conveys hends.2⟩

theorem At.idle_iff (h : At cbw s stage) : s.state = .idle ↔ stage = .idle := by
  cases h with
  | idle hcbw hstate => exact iff_of_true hstate rfl
  | status hcbw hstate => exact iff_of_false (by simp [hstate]) Stage.noConfusion
  | sending hcbw hstate => exact iff_of_false (by simp [hstate]) Stage.noConfusion
  | collecting hcbw hstate => exact iff_of_false (by simp [hstate]) Stage.noConfusion

/-- The status is what the stage answers next. -/
def Stage.Answers (cbw : Cbw) (stage : Stage) (length : Nat) : Prop :=
  ∃ csw, stage.in_ cbw length = some (.idle, .csw csw) ∧ csw.tag = cbw.tag

theorem statusGiven_iff (h : At cbw s stage) : StatusGiven cbw s ↔ stage.Answers cbw 13 := by
  constructor
  · rintro ⟨t, csw, ht, htag, hidle⟩
    obtain ⟨⟨next, r⟩, hnext, hat, reply, hreply, hconveys⟩ := exists_of_rel_left (h.in_ 13) ht
    obtain rfl := Option.some.inj hreply
    obtain rfl := hat.idle_iff.mp hidle
    cases hconveys with
    | data hstatus hlength hsource => exact absurd rfl (hsource csw)
    | csw hreply =>
        cases hreply
        exact ⟨csw, hnext, htag⟩
    | stall hreply => cases hreply
  · rintro ⟨csw, hnext, htag⟩
    obtain ⟨⟨t, _⟩, ht, hat, reply, rfl, hconveys⟩ := exists_of_rel_right (h.in_ 13) hnext
    cases hconveys with
    | csw hreply =>
        subst hreply
        exact ⟨t, csw, ht, htag, hat.idle_iff.mpr rfl⟩

/-- The phases behind the wrapper, in stages. -/
def Stage.Kept (cbw : Cbw) (stage : Stage) (d : DataStage) : Prop :=
  ∃ next sent, stage.dataStage cbw d = some (next, sent) ∧
    sent ≤ cbw.dataTransferLength.toNat ∧ next.Answers cbw 13

theorem kept_iff (h : At cbw s stage) (hstage : stage ≠ .idle) {d : DataStage} :
    (∃ t sent, MassStorage.dataStage s d = some (t, sent) ∧
      sent ≤ cbw.dataTransferLength.toNat ∧ StatusGiven cbw t) ↔ stage.Kept cbw d := by
  have hrel := rel_dataStage h hstage d
  constructor
  · rintro ⟨t, sent, ht, hsent, hgiven⟩
    obtain ⟨⟨next, sent'⟩, hnext, hat, hsame⟩ := exists_of_rel_left hrel ht
    obtain rfl : sent = sent' := hsame
    exact ⟨next, sent, hnext, hsent, (statusGiven_iff hat).mp hgiven⟩
  · rintro ⟨next, sent, hnext, hsent, hanswers⟩
    obtain ⟨⟨t, sent'⟩, ht, hat, hsame⟩ := exists_of_rel_right hrel hnext
    obtain rfl : sent' = sent := hsame
    exact ⟨t, sent', ht, hsent, (statusGiven_iff hat).mpr hanswers⟩

end Stages

section DataIn

variable {cbw : Cbw} {stage : Stage}

/-- A stage behind which every IN transfer is answered by the status. -/
def Stage.Answering (cbw : Cbw) (stage : Stage) : Prop := ∀ length, stage.Answers cbw length

theorem answering_idle : Stage.idle.Answering cbw :=
  fun _ => ⟨cbw.failedCsw, rfl, rfl⟩

theorem answering_status {csw : Csw} (htag : csw.tag = cbw.tag) :
    (Stage.status csw).Answering cbw := fun _ => ⟨csw, rfl, htag⟩

/-- Data from the host that nothing is needed of is complete before there is any. -/
theorem answering_collecting {residue : UInt32} {backed : Bool} :
    (Stage.collecting (some 0) 0 residue backed).Answering cbw :=
  fun _ => ⟨cbw.passedCsw residue, by simp [Stage.in_, Stage.settle, Stage.reply], rfl⟩

theorem dataStage_cons {size : UInt32} {sizes : List UInt32} {next : Stage} {r : StageReply}
    (hnext : stage.in_ cbw size.toNat = some (next, r)) :
    stage.dataStage cbw (.in_ (size :: sizes)) =
      if r.length < size.toNat then some (next, r.length)
      else (next.dataStage cbw (.in_ sizes)).map fun p => (p.1, r.length + p.2) := by
  simp only [Stage.dataStage, runUntil, hnext, Option.bind_some, decide_eq_true_eq]
  split
  next => simp
  next => simp [Option.map_map, Function.comp_def]

/-- Behind the data there are status wrappers, one for every transfer. -/
theorem dataStage_of_answering (h : stage.Answering cbw) (sizes : List UInt32) :
    ∃ next, stage.dataStage cbw (.in_ sizes) =
        some (next, Csw.size * strays (sizes.map UInt32.toNat)) ∧ next.Answering cbw := by
  induction sizes generalizing stage with
  | nil => exact ⟨stage, rfl, h⟩
  | cons size sizes ih =>
      obtain ⟨csw, hnext, htag⟩ := h size.toNat
      rw [dataStage_cons hnext, List.map_cons, strays, StageReply.length]
      split
      next => exact ⟨.idle, rfl, answering_idle⟩
      next =>
        obtain ⟨next, hrest, hanswering⟩ := ih answering_idle
        refine ⟨next, ?_, hanswering⟩
        rw [hrest, Option.map_some, Nat.mul_succ, Nat.add_comm]

/-- The data itself, and what follows it. -/
theorem dataStage_of_sending (cbw : Cbw) (left : Nat) (sizes : List UInt32) :
    match afterData left (sizes.map UInt32.toNat) with
    | some rest => ∃ next, (Stage.sending left).dataStage cbw (.in_ sizes) =
        some (next, left + Csw.size * strays rest) ∧ next.Answering cbw
    | none => ∃ left' sent, (Stage.sending left).dataStage cbw (.in_ sizes) =
        some (.sending left', sent) := by
  induction sizes generalizing left with
  | nil => exact ⟨left, 0, rfl⟩
  | cons size sizes ih =>
      have hnext : (Stage.sending left).in_ cbw size.toNat =
          some (if left ≤ size.toNat then .status (cbw.passedCsw 0)
            else .sending (left - size.toNat), .data (min size.toNat left)) := rfl
      rw [dataStage_cons hnext, List.map_cons, afterData, StageReply.length]
      rcases Nat.lt_trichotomy left size.toNat with hlt | heq | hgt
      · have hmin : min size.toNat left = left := by omega
        rw [if_pos hlt, if_pos hlt.le, hmin, if_pos hlt]
        exact ⟨_, rfl, answering_status rfl⟩
      · obtain ⟨next, hrest, hanswering⟩ := dataStage_of_answering
          (answering_status rfl : (Stage.status (cbw.passedCsw 0)).Answering cbw) sizes
        have hmin : min size.toNat left = left := by omega
        rw [if_neg heq.not_lt, if_pos heq, if_pos heq.le, hmin, if_neg heq.not_lt, hrest]
        exact ⟨next, rfl, hanswering⟩
      · have hmin : min size.toNat left = size.toNat := by omega
        have hrest := ih (left - size.toNat)
        rw [if_neg hgt.le.not_gt, if_neg hgt.ne', if_neg hgt.not_ge, hmin,
          if_neg (Nat.lt_irrefl _)]
        split
        next rest hafter =>
          rw [hafter] at hrest
          obtain ⟨next, hnext, hanswering⟩ := hrest
          rw [hnext]
          refine ⟨next, ?_, hanswering⟩
          rw [Option.map_some]
          congr 2
          omega
        next hafter =>
          rw [hafter] at hrest
          obtain ⟨left', sent, hnext⟩ := hrest
          rw [hnext]
          exact ⟨left', _, rfl⟩

theorem in_of_waiting {needed : Option Nat} {gathered : Nat} {residue : UInt32} {backed : Bool}
    (hneeded : ∀ size, needed = some size → gathered < size) {length : Nat} :
    (Stage.collecting needed gathered residue backed).in_ cbw length =
      some (.collecting needed gathered residue backed, .stall) := by
  rw [Stage.in_, settle_of_short hneeded]
  rfl

/-- A host that asks for data which the device waits for gets none, and no status either. -/
theorem dataStage_of_waiting {needed : Option Nat} {residue : UInt32} {backed : Bool}
    (hneeded : ∀ size, needed = some size → 0 < size) (sizes : List UInt32) :
    (Stage.collecting needed 0 residue backed).dataStage cbw (.in_ sizes) =
      some (.collecting needed 0 residue backed, 0) := by
  induction sizes with
  | nil => rfl
  | cons size sizes ih =>
      rw [dataStage_cons (in_of_waiting hneeded), ih]
      simp [StageReply.length]

theorem not_answers_of_waiting {needed : Option Nat} {gathered : Nat} {residue : UInt32}
    {backed : Bool} (hneeded : ∀ size, needed = some size → gathered < size) {length : Nat} :
    ¬(Stage.collecting needed gathered residue backed).Answers cbw length := by
  rintro ⟨csw, hnext, -⟩
  rw [in_of_waiting hneeded] at hnext
  cases hnext

theorem not_answers_of_sending {left length : Nat} :
    ¬(Stage.sending left).Answers cbw length := by
  rintro ⟨csw, hnext, -⟩
  have hreply : StageReply.data (min length left) = .csw csw :=
    congrArg Prod.snd (Option.some.inj hnext)
  cases hreply

end DataIn

section DataOut

variable {cbw : Cbw} {stage : Stage} {residue : UInt32} {backed : Bool}

theorem dataStage_out_cons {bytes : List UInt8} {transfers : List (List UInt8)} :
    stage.dataStage cbw (.out (bytes :: transfers)) =
      (stage.out cbw bytes.length).bind fun next => next.dataStage cbw (.out transfers) := by
  cases hnext : stage.out cbw bytes.length with
  | none => simp [Stage.dataStage, runUntil, hnext]
  | some next =>
      simp [Stage.dataStage, runUntil, hnext, Option.map_map, Function.comp_def]

/-- Data that the device has no use for is taken and thrown away. -/
theorem dataStage_of_ignoring (hout : ∀ length, stage.out cbw length = some stage)
    (transfers : List (List UInt8)) : stage.dataStage cbw (.out transfers) = some (stage, 0) := by
  induction transfers with
  | nil => rfl
  | cons bytes transfers ih => rw [dataStage_out_cons, hout, Option.bind_some, ih]

theorem out_of_waiting {needed : Option Nat} {gathered length : Nat}
    (hneeded : ∀ size, needed = some size → gathered + length < size) :
    (Stage.collecting needed gathered residue backed).out cbw length =
      some (.collecting needed (gathered + length) residue backed) := by
  rw [Stage.out, Stage.grow, settle_of_short hneeded]

theorem dataStage_of_stuck (gathered : Nat) (transfers : List (List UInt8)) :
    (Stage.collecting none gathered residue backed).dataStage cbw (.out transfers) =
      some (.collecting none (gathered + (transfers.map List.length).sum) residue backed, 0) := by
  induction transfers generalizing gathered with
  | nil => rfl
  | cons bytes transfers ih =>
      rw [dataStage_out_cons, out_of_waiting (fun size hsize => by cases hsize), Option.bind_some,
        ih, List.map_cons, List.sum_cons, Nat.add_assoc]

/-- The data ends the stage as soon as there is enough of it. -/
theorem dataStage_of_collecting {needed gathered : Nat} {transfers : List (List UInt8)}
    (hshort : transfers = [] → gathered < needed) :
    (Stage.collecting (some needed) gathered residue backed).dataStage cbw (.out transfers) =
      if needed ≤ gathered + (transfers.map List.length).sum then
        if backed = true ∨ filled needed gathered (transfers.map List.length) < 24 then
          some (.status (cbw.passedCsw residue), 0)
        else none
      else
        some (.collecting (some needed) (gathered + (transfers.map List.length).sum) residue backed,
          0) := by
  induction transfers generalizing gathered with
  | nil =>
      rw [List.map_nil, List.sum_nil, Nat.add_zero, if_neg (hshort rfl).not_ge]
      rfl
  | cons bytes transfers ih =>
      rw [dataStage_out_cons, List.map_cons, List.sum_cons, filled]
      by_cases hfull : needed ≤ gathered + bytes.length
      · rw [if_pos hfull, if_pos (by omega), Stage.out, Stage.grow, Stage.settle,
          if_pos (by simpa using hfull)]
        split
        next => exact dataStage_of_ignoring (fun _ => rfl) transfers
        next => rfl
      · rw [if_neg hfull, out_of_waiting (fun size hsize => by simp at hsize; omega),
          Option.bind_some, ih fun _ => Nat.not_le.mp hfull, Nat.add_assoc]

end DataOut

section Suits

variable {cbw : Cbw} {stage : Stage} {residue : UInt32} {backed : Bool} {phase : DataPhase}
  {d : DataStage}

theorem kept_iff_of_answering (h : stage.Answering cbw) {sizes : List UInt32} :
    stage.Kept cbw (.in_ sizes) ↔
      Csw.size * strays (sizes.map UInt32.toNat) ≤ cbw.dataTransferLength.toNat := by
  obtain ⟨next, hnext, hanswering⟩ := dataStage_of_answering h sizes
  constructor
  · rintro ⟨next', sent, hnext', hsent, -⟩
    rw [hnext] at hnext'
    cases hnext'
    exact hsent
  · exact fun hsent => ⟨next, _, hnext, hsent, hanswering 13⟩

theorem kept_iff_of_sending {size : Nat} {sizes : List UInt32} :
    (Stage.sending size).Kept cbw (.in_ sizes) ↔
      ∃ rest, afterData size (sizes.map UInt32.toNat) = some rest ∧
        size + Csw.size * strays rest ≤ cbw.dataTransferLength.toNat := by
  have hends := dataStage_of_sending cbw size sizes
  cases hafter : afterData size (sizes.map UInt32.toNat) with
  | none =>
      rw [hafter] at hends
      obtain ⟨left, sent, hnext⟩ := hends
      refine iff_of_false ?_ (by rintro ⟨rest, hrest, -⟩; cases hrest)
      rintro ⟨next', sent', hnext', -, hanswers⟩
      rw [hnext] at hnext'
      cases hnext'
      exact not_answers_of_sending hanswers
  | some rest =>
      rw [hafter] at hends
      obtain ⟨next, hnext, hanswering⟩ := hends
      constructor
      · rintro ⟨next', sent, hnext', hsent, -⟩
        rw [hnext] at hnext'
        cases hnext'
        exact ⟨rest, rfl, hsent⟩
      · rintro ⟨rest', hrest', hsent⟩
        cases hrest'
        exact ⟨next, _, hnext, hsent, hanswering 13⟩

theorem not_kept_of_waiting {needed : Option Nat} {sizes : List UInt32}
    (hneeded : ∀ size, needed = some size → 0 < size) :
    ¬(Stage.collecting needed 0 residue backed).Kept cbw (.in_ sizes) := by
  rintro ⟨next, sent, hnext, -, hanswers⟩
  rw [dataStage_of_waiting hneeded] at hnext
  cases hnext
  exact not_answers_of_waiting hneeded hanswers

/-- Data from the host is complete if and only if it is enough, and can be used. -/
theorem kept_iff_of_collecting {needed : Nat} {transfers : List (List UInt8)}
    (hsum : (transfers.map List.length).sum = cbw.dataTransferLength.toNat) :
    (Stage.collecting (some needed) 0 residue backed).Kept cbw (.out transfers) ↔
      needed ≤ cbw.dataTransferLength.toNat ∧
        (backed = true ∨ filled needed 0 (transfers.map List.length) < 24) := by
  by_cases hnone : transfers = [] ∧ needed = 0
  · obtain ⟨rfl, rfl⟩ := hnone
    exact iff_of_true ⟨_, 0, rfl, Nat.zero_le _, answering_collecting 13⟩
      ⟨Nat.zero_le _, .inr (by decide)⟩
  have hdata : (Stage.collecting (some needed) 0 residue backed).dataStage cbw
      (.out transfers) = _ :=
    dataStage_of_collecting fun hnil => by
      by_contra hzero
      exact hnone ⟨hnil, by omega⟩
  rw [Nat.zero_add, hsum] at hdata
  constructor
  · rintro ⟨next, sent, hnext, -, hanswers⟩
    rw [hdata] at hnext
    split at hnext
    next henough =>
      split at hnext
      next husable => exact ⟨henough, husable⟩
      next => cases hnext
    next hshort =>
      cases hnext
      refine absurd hanswers (not_answers_of_waiting fun size hsize => ?_)
      cases hsize
      exact Nat.not_le.mp hshort
  · rintro ⟨henough, husable⟩
    rw [if_pos henough, if_pos husable] at hdata
    exact ⟨_, 0, hdata, Nat.zero_le _, answering_status rfl 13⟩

theorem kept_iff_of_ignoring (hout : ∀ length, stage.out cbw length = some stage)
    {transfers : List (List UInt8)} :
    stage.Kept cbw (.out transfers) ↔ stage.Answers cbw 13 := by
  have hdata := dataStage_of_ignoring hout transfers
  constructor
  · rintro ⟨next, sent, hnext, -, hanswers⟩
    rw [hdata] at hnext
    cases hnext
    exact hanswers
  · exact fun hanswers => ⟨stage, 0, hdata, Nat.zero_le _, hanswers⟩

theorem not_kept_of_stuck {transfers : List (List UInt8)} :
    ¬(Stage.collecting none 0 residue backed).Kept cbw (.out transfers) := by
  rintro ⟨next, sent, hnext, -, hanswers⟩
  rw [dataStage_of_stuck] at hnext
  cases hnext
  exact not_answers_of_waiting (fun size hsize => by cases hsize) hanswers

/-- The phases of a command are kept if and only if the host's data stage suits it. -/
theorem kept_iff_suits (hphase : phase.stage cbw residue backed = some stage)
    (hmoves : d.Moves cbw) :
    stage.Kept cbw d ↔ Suits cbw.dataTransferLength.toNat backed phase d := by
  cases phase with
  | passed =>
      obtain rfl := Option.some.inj hphase
      cases d with
      | out transfers =>
          exact (kept_iff_of_ignoring fun _ => rfl).trans
            (iff_of_true (answering_status rfl 13) trivial)
      | in_ sizes => exact kept_iff_of_answering (answering_status rfl)
  | failed =>
      obtain rfl := Option.some.inj hphase
      cases d with
      | out transfers =>
          exact (kept_iff_of_ignoring fun _ => rfl).trans
            (iff_of_true (answering_status rfl 13) trivial)
      | in_ sizes => exact kept_iff_of_answering (answering_status rfl)
  | toHost size =>
      obtain rfl := Option.some.inj hphase
      cases d with
      | out transfers =>
          exact (kept_iff_of_ignoring fun _ => rfl).trans
            (iff_of_false not_answers_of_sending not_false)
      | in_ sizes => exact kept_iff_of_sending
  | fromHost needed left =>
      obtain rfl := Option.some.inj hphase
      cases d with
      | out transfers => exact kept_iff_of_collecting hmoves.2.1
      | in_ sizes =>
          by_cases hzero : needed = 0
          · subst hzero
            exact (kept_iff_of_answering answering_collecting).trans
              ⟨fun hsent => ⟨rfl, hsent⟩, fun h => h.2⟩
          · refine iff_of_false (not_kept_of_waiting fun size hsize => ?_) fun h => hzero h.1
            cases hsize
            exact Nat.pos_of_ne_zero hzero
  | stuck =>
      obtain rfl := Option.some.inj hphase
      cases d with
      | out transfers => exact iff_of_false not_kept_of_stuck not_false
      | in_ sizes =>
          exact iff_of_false (not_kept_of_waiting fun size hsize => by cases hsize) not_false
  | undefined => cases hphase

theorem phasesKept_iff_suits {s : MscBulkOnlyHandler Medium} {bytes : List UInt8}
    (hs : Settled s) (hstate : s.state = .idle) (hlength : Cbw.size ≤ bytes.length)
    (hcbw : Cbw.ofBytes bytes hlength = cbw) (hsignature : cbw.signature = Cbw.signatureValue)
    (hmoves : d.Moves cbw) :
    PhasesKept cbw bytes d s ↔
      Suits cbw.dataTransferLength.toNat s.backend.isSome (dataPhase (s.loadCbw cbw)) d := by
  subst hcbw
  have hrel := rel_onCommand hs hstate hlength hsignature
  have hout : s.transfer (.out bytes) =
      (s.onCommand bytes).map fun t => (t, some (handleBulkOut (.ofNat bytes.length))) := by
    simp only [MscBulkOnlyHandler.transfer,
      receiveOut_of_not_dataOut (by simp [hstate] : s.state ≠ .dataOut),
      onOutDataReceived_of_idle hstate]
  cases hstage : (dataPhase (s.loadCbw (Cbw.ofBytes bytes hlength))).stage
      (Cbw.ofBytes bytes hlength) s.dataResidue s.backend.isSome with
  | none =>
      rw [eq_undefined_of_stage hstage]
      refine iff_of_false ?_ not_false
      rintro ⟨t, reply, u, sent, ht, -⟩
      rw [hout] at ht
      obtain ⟨v, hv, -⟩ := Option.map_eq_some_iff.mp ht
      obtain ⟨stage, hstage', -⟩ := exists_of_rel_left hrel hv
      rw [hstage] at hstage'
      cases hstage'
  | some stage =>
      obtain ⟨t, ht, hat⟩ := exists_of_rel_right hrel hstage
      rw [← kept_iff_suits hstage hmoves, ← kept_iff hat (ne_idle_of_stage hstage)]
      rw [ht, Option.map_some] at hout
      constructor
      · rintro ⟨t', reply, u, sent, ht', hdata, hsent, hgiven⟩
        rw [hout] at ht'
        cases ht'
        exact ⟨u, sent, hdata, hsent, hgiven⟩
      · rintro ⟨u, sent, hdata, hsent, hgiven⟩
        exact ⟨t, _, u, sent, hout, hdata, hsent, hgiven⟩

end Suits

/-- Between commands, the phases of the next one are kept if and only if the data stage of its host
suits the data phase that the command leads to. -/
theorem phases_kept_iff {backend : Option (StorageBackend Medium)} {readOnly : Bool}
    {config : MscConfig} {medium : Medium} {s : MscBulkOnlyHandler Medium} {bytes : List UInt8}
    {d : DataStage} (hs : Reachable (system backend readOnly config medium) s)
    (hstate : s.state = .idle) (hlength : bytes.length = Cbw.size)
    (hsignature : (Cbw.ofBytes bytes hlength.ge).signature = Cbw.signatureValue)
    (hmoves : d.Moves (Cbw.ofBytes bytes hlength.ge)) :
    PhasesKept (Cbw.ofBytes bytes hlength.ge) bytes d s ↔
      Suits (Cbw.ofBytes bytes hlength.ge).dataTransferLength.toNat s.backend.isSome
        (dataPhase (s.loadCbw (Cbw.ofBytes bytes hlength.ge))) d :=
  phasesKept_iff_suits (settled_of_reachable hs) hstate hlength.ge rfl hsignature hmoves

/-- One block is read in two transfers. -/
theorem phases_kept_instance :
    PhasesKept (Cbw.ofCommand 1 4 true [0x28, 0, 0, 0, 0, 1, 0, 0, 1])
      (Cbw.ofCommand 1 4 true [0x28, 0, 0, 0, 0, 1, 0, 0, 1]).toBytes (.in_ [3, 1])
      (create (some (memoryBackend 2 4)) false ⟨[], [], [], []⟩ [1, 2, 3, 4, 5, 6, 7, 8]) := by
  have hcbw := Cbw.ofBytes_toBytes (Cbw.ofCommand 1 4 true [0x28, 0, 0, 0, 0, 1, 0, 0, 1])
  have hkept := phases_kept_iff (s := create (some (memoryBackend 2 4)) false ⟨[], [], [], []⟩
      [1, 2, 3, 4, 5, 6, 7, 8]) (d := .in_ [3, 1]) (.initial rfl) rfl
    (Cbw.length_toBytes (Cbw.ofCommand 1 4 true [0x28, 0, 0, 0, 0, 1, 0, 0, 1]))
    (by rw [hcbw]; rfl) (by rw [hcbw]; exact ⟨rfl, rfl, fun hzero => by cases hzero⟩)
  rw [hcbw] at hkept
  exact hkept.mpr ⟨[], rfl, by decide⟩

/-- A host that reads two blocks into the room for one gets the second one for its status. -/
theorem phases_mixed :
    (DataStage.in_ [4]).Moves (Cbw.ofCommand 1 4 true [0x28, 0, 0, 0, 0, 0, 0, 0, 2]) ∧
      ¬PhasesKept (Cbw.ofCommand 1 4 true [0x28, 0, 0, 0, 0, 0, 0, 0, 2])
        (Cbw.ofCommand 1 4 true [0x28, 0, 0, 0, 0, 0, 0, 0, 2]).toBytes (.in_ [4])
        (create (some (memoryBackend 2 4)) false ⟨[], [], [], []⟩ [1, 2, 3, 4, 5, 6, 7, 8]) := by
  have hmoves : (DataStage.in_ [4]).Moves
      (Cbw.ofCommand 1 4 true [0x28, 0, 0, 0, 0, 0, 0, 0, 2]) :=
    ⟨rfl, rfl, fun hzero => by cases hzero⟩
  refine ⟨hmoves, ?_⟩
  rw [phasesKept_iff_suits (settled_of_reachable (.initial rfl)) rfl (Cbw.length_toBytes _).ge
    (Cbw.ofBytes_toBytes _) rfl hmoves]
  rintro ⟨rest, hrest, -⟩
  cases hrest

end Usbipdcpp.MassStorage
