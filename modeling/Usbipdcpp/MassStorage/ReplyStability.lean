import Usbipdcpp.MassStorage.History
import Usbipdcpp.MassStorage.ReadOnly
import Usbipdcpp.MassStorage.Residue

namespace Usbipdcpp.MassStorage

open Foundation.TransitionSystem
open Protocol (BotState)
open VirtualDevice (Csw)
open MscBulkOnlyHandler

variable {Medium : Type}

/-- A reply between its submission and the end of its sending, with the wrapper that it belongs to
and the bytes that it has been submitted with. -/
structure QueuedReply where
  reply : BulkReply
  command : Nat
  submitted : List UInt8

def QueuedReply.isStaged (queued : QueuedReply) : Bool :=
  match queued.reply.source with
  | .staging .. => true
  | _ => false

def QueuedReply.isMapped (queued : QueuedReply) : Bool :=
  match queued.reply.source with
  | .mapped .. => true
  | _ => false

def QueuedReply.isData (queued : QueuedReply) : Bool := queued.isStaged || queued.isMapped

/-- A connection: the handler that the receiver works on, the queue that the sender empties, the
number of wrappers so far and of the last one whose status has reached the host. -/
structure ReplyRun (Medium : Type) where
  handler : MscBulkOnlyHandler Medium
  queue : List QueuedReply
  commands : Nat
  answered : Nat
  connected : Bool

/-- The steps of both threads.  The sender goes on for a while behind the disconnection. -/
inductive ReplyAction where
  | transfer (transfer : DataTransfer)
  | send
  | brokenOut (length : Nat) (received : List UInt8)
  | onDisconnection
  deriving DecidableEq

namespace ReplyRun

/-- An OUT transfer that finds the handler idle is a wrapper. -/
def isWrapper (r : ReplyRun Medium) : DataTransfer → Bool
  | .out _ => r.handler.state = .idle
  | .in_ _ => false

def submit (r : ReplyRun Medium) (handler : MscBulkOnlyHandler Medium) (commands : Nat)
    (reply : Option BulkReply) : ReplyRun Medium :=
  { r with
    handler
    commands
    queue := r.queue ++ reply.toList.map fun reply =>
      ⟨reply, commands, reply.source.bytes handler⟩ }

def step (r : ReplyRun Medium) : ReplyAction → Option (ReplyRun Medium)
  | .transfer transfer =>
      if r.connected then
        (r.handler.transfer transfer.toHostTransfer).map fun p =>
          r.submit p.1 (if r.isWrapper transfer then r.commands + 1 else r.commands) p.2
      else none
  | .send =>
      match r.queue with
      | [] => none
      | queued :: queue =>
          some
            { r with
              queue
              answered :=
                if queued.reply.isCsw then max r.answered queued.command else r.answered }
  | .brokenOut length received =>
      if r.connected then
        some
          { r with
            handler := (r.handler.receiveOut length received).1.onDisconnection
            connected := false }
      else none
  | .onDisconnection =>
      if r.connected then
        some { r with handler := r.handler.onDisconnection, connected := false }
      else none

/-- The runs of one connection, on a handler that may have had others before. -/
def system (backend : Option (StorageBackend Medium)) (readOnly : Bool) (config : MscConfig)
    (medium : Medium) : System (ReplyRun Medium) ReplyAction where
  initial r := ∃ s, Reachable (MscBulkOnlyHandler.system backend readOnly config medium) s ∧
    r = ⟨s.onNewConnection, [], 0, 0, true⟩
  step := step

/-- The host sends a wrapper only after the status of the last one has reached it. -/
def HostWaits (r : ReplyRun Medium) : ReplyAction → Prop
  | .transfer transfer => r.isWrapper transfer = true → r.answered = r.commands
  | _ => True

def StagedPending (r : ReplyRun Medium) : Prop := ∃ queued ∈ r.queue, queued.isStaged = true

def MappedPending (r : ReplyRun Medium) : Prop := ∃ queued ∈ r.queue, queued.isMapped = true

/-- `staging_data_` is resized, assigned or cleared between commands, while data from the host is
gathered and by a reset, and nowhere else. -/
def TouchesStaging (r : ReplyRun Medium) : ReplyAction → Prop
  | .transfer _ => r.handler.state = .idle ∨ r.handler.state = .dataOut
  | .send => False
  | .brokenOut .. => True
  | .onDisconnection => True

/-- A step keeps its hands off what the replies in the queue point to. -/
structure Undisturbed (r : ReplyRun Medium) (a : ReplyAction) (t : ReplyRun Medium) : Prop where
  staging : r.StagedPending → ¬r.TouchesStaging a
  medium : r.MappedPending →
    t.handler.accesses.filter MediumAccess.modifies =
      r.handler.accesses.filter MediumAccess.modifies

/-- Every reply in the queue still refers to the bytes that it has been submitted with. -/
def Intact (r : ReplyRun Medium) : Prop :=
  ∀ queued ∈ r.queue, queued.reply.source.bytes r.handler = queued.submitted

/-- No IN transfer is read as a wrapper, and the connection does not end, while staged data is
still to be sent. -/
def LeavesStaged (r : ReplyRun Medium) (a : ReplyAction) : Prop :=
  r.StagedPending →
    match a with
    | .transfer (.in_ _) => r.handler.state ≠ .idle
    | .transfer (.out _) => True
    | .send => True
    | .brokenOut .. => False
    | .onDisconnection => False

end ReplyRun

section Handler

variable {s t : MscBulkOnlyHandler Medium} {bytes : List UInt8} {length : UInt32}
  {reply : Option BulkReply}

/-- What a reply refers to is the same in both handlers. -/
structure SameSources (s t : MscBulkOnlyHandler Medium) : Prop where
  backend : t.backend = s.backend
  medium : t.medium = s.medium
  stagingData : t.stagingData = s.stagingData

theorem SameSources.bytes_eq (h : SameSources s t) (source : ReplySource) :
    source.bytes t = source.bytes s := by
  cases source with
  | none => rfl
  | fallback csw => rfl
  | staging offset length => simp only [ReplySource.bytes, h.stagingData]
  | mapped lba offset length => simp only [ReplySource.bytes, h.backend, h.medium]

theorem out_reply (ht : s.transfer (.out bytes) = some (t, reply)) :
    reply = some (handleBulkOut (.ofNat bytes.length)) := by
  obtain ⟨u, -, heq⟩ := Option.map_eq_some_iff.mp ht
  exact (congrArg Prod.snd heq).symm

theorem out_of_answering (hidle : s.state ≠ .idle) (hdata : s.state ≠ .dataOut)
    (ht : s.transfer (.out bytes) = some (t, reply)) : t = s := by
  simp only [MscBulkOnlyHandler.transfer, receiveOut_of_not_dataOut hdata,
    onOutDataReceived_of_other hidle hdata, Option.map_some, Option.some.injEq,
    Prod.mk.injEq] at ht
  exact ht.1.symm

/-- What an IN transfer does, by the state that it finds. -/
inductive InAnswered (s t : MscBulkOnlyHandler Medium) (reply : BulkReply) : Prop
  | tooShort (hstate : s.state = .idle) (hidle : t.state = .idle) (hbackend : t.backend = s.backend)
      (hmedium : t.medium = s.medium) (haccesses : t.accesses = s.accesses)
      (hcsw : reply.isCsw = true)
  | status (hstate : s.state = .status) (hidle : t.state = .idle) (hsources : SameSources s t)
      (haccesses : t.accesses = s.accesses) (hcsw : reply.isCsw = true)
  | data (hstate : s.state = .dataIn) (hsends : t.state = .dataIn ∨ t.state = .status)
      (hsources : SameSources s t)
      (haccesses : t.accesses.filter MediumAccess.modifies =
        s.accesses.filter MediumAccess.modifies)
      (hcsw : reply.isCsw = false)
  | used (hstate : s.state = .dataOut) (hidle : t.state = .idle) (hcsw : reply.isCsw = true)
  | stalled (hstate : s.state = .dataOut) (hwaits : t.state = .dataOut)
      (hsource : reply.source = .none)

theorem finishDataIn_keeps (hstate : s.state = .dataIn) :
    (s.finishDataIn.state = .dataIn ∨ s.finishDataIn.state = .status) ∧
      SameSources s s.finishDataIn ∧ s.finishDataIn.accesses = s.accesses := by
  unfold MscBulkOnlyHandler.finishDataIn
  split
  next => exact ⟨.inr rfl, ⟨rfl, rfl, rfl⟩, rfl⟩
  next => exact ⟨.inl hstate, ⟨rfl, rfl, rfl⟩, rfl⟩

theorem handOut_keeps (n : Nat) :
    SameSources s (s.handOut n) ∧
      (s.handOut n).accesses.filter MediumAccess.modifies =
        s.accesses.filter MediumAccess.modifies := by
  refine ⟨⟨rfl, rfl, rfl⟩, ?_⟩
  unfold MscBulkOnlyHandler.handOut
  dsimp only
  split
  next => simp [List.filter_append, MediumAccess.modifies]
  next => rfl

theorem isCsw_dataSource {n : Nat} :
    (⟨Protocol.UrbStatusType.statusOK, .ofNat n, s.dataSource n⟩ : BulkReply).isCsw = false := by
  simp only [BulkReply.isCsw, MscBulkOnlyHandler.dataSource]
  split
  next h =>
    split at h
    next => cases h
    next => cases h
  next => rfl

theorem inAnswered_of_dataIn (hstate : s.state = .dataIn) :
    InAnswered s (s.handleBulkIn length).1 (s.handleBulkIn length).2 := by
  rw [MscBulkOnlyHandler.handleBulkIn, hstate]
  dsimp only
  split
  next =>
    obtain ⟨hsources, haccesses⟩ := handOut_keeps (s := s)
      (min length.toNat (s.total - s.stagingOffset))
    obtain ⟨hsends, hsources', haccesses'⟩ :=
      finishDataIn_keeps (s := s.handOut (min length.toNat (s.total - s.stagingOffset))) hstate
    exact .data hstate hsends
      ⟨hsources'.backend.trans hsources.backend, hsources'.medium.trans hsources.medium,
        hsources'.stagingData.trans hsources.stagingData⟩
      ((congrArg _ haccesses').trans haccesses) isCsw_dataSource
  next =>
    obtain ⟨hsends, hsources, haccesses⟩ := finishDataIn_keeps hstate
    exact .data hstate hsends hsources (congrArg _ haccesses) rfl

theorem state_of_onData {n : Nat} (hstate : s.state = .dataOut) (ht : s.onData n = some t) :
    t.state = .dataOut ∨ t.state = .status := by
  cases dataTaken_of_onData ht with
  | unmapWaiting => exact .inl hstate
  | writeSameWaiting => exact .inl hstate
  | mappedWaiting => exact .inl hstate
  | stagedWaiting => exact .inl hstate
  | unmapDone => exact .inr rfl
  | writeSameDone => exact .inr rfl
  | mappedDone => exact .inr rfl
  | stagedDone => exact .inr rfl

theorem handleBulkIn_of_status (hstate : s.state = .status) :
    s.handleBulkIn length = ({ s with commandFailed := false, state := .idle },
      ⟨Protocol.UrbStatusType.statusOK, .ofNat Csw.size, .fallback s.csw⟩) := by
  rw [MscBulkOnlyHandler.handleBulkIn, hstate]

theorem handleBulkIn_of_dataOut (hstate : s.state = .dataOut) :
    s.handleBulkIn length = (s, ⟨Protocol.UrbStatusType.statusEPIPE, 0, .none⟩) := by
  rw [MscBulkOnlyHandler.handleBulkIn, hstate]

theorem inAnswered_of_in (ht : s.transfer (.in_ length) = some (t, reply)) :
    ∃ bulkReply, reply = some bulkReply ∧ InAnswered s t bulkReply := by
  obtain ⟨u, hu, heq⟩ := Option.map_eq_some_iff.mp ht
  obtain ⟨rfl, rfl⟩ : (u.handleBulkIn length).1 = t ∧ some (u.handleBulkIn length).2 = reply :=
    Prod.mk.inj heq
  refine ⟨_, rfl, ?_⟩
  cases hstate : s.state with
  | idle =>
      rw [onOutDataReceived_of_idle hstate] at hu
      cases hu
      exact .tooShort hstate rfl rfl rfl rfl rfl
  | dataIn =>
      rw [onOutDataReceived_of_other (by simp [hstate]) (by simp [hstate])] at hu
      cases hu
      exact inAnswered_of_dataIn hstate
  | status =>
      rw [onOutDataReceived_of_other (by simp [hstate]) (by simp [hstate])] at hu
      cases hu
      rw [handleBulkIn_of_status hstate]
      exact .status hstate rfl ⟨rfl, rfl, rfl⟩ rfl rfl
  | dataOut =>
      rw [onOutDataReceived_of_dataOut hstate] at hu
      rcases state_of_onData hstate hu with hwaits | hdone
      · rw [handleBulkIn_of_dataOut hwaits]
        exact .stalled hstate hwaits rfl
      · rw [handleBulkIn_of_status hdone]
        exact .used hstate rfl rfl

end Handler

namespace ReplyRun

/-- A data reply in the queue keeps the host from the next wrapper, and there is one only as long
as the handler is not gathering data; once the status of a command is there, its data is sent. -/
structure Consistent (r : ReplyRun Medium) : Prop where
  numbered : ∀ queued ∈ r.queue, queued.command ≤ r.commands
  unanswered : ∀ queued ∈ r.queue, queued.isData = true → r.answered ≠ r.commands
  sending : ∀ queued ∈ r.queue, queued.isData = true → r.handler.state ≠ .dataOut
  ended : (r.answered = r.commands ∨
    ∃ queued ∈ r.queue, queued.reply.isCsw = true ∧ queued.command = r.commands) →
    r.handler.state = .idle ∨ r.handler.state = .status
  ordered : r.queue.Pairwise fun first later =>
    first.reply.isCsw = true → later.isData = true → first.command ≠ r.commands
  intact : r.Intact

section Steps

variable {r t : ReplyRun Medium}

theorem Consistent.initial {backend : Option (StorageBackend Medium)} {readOnly : Bool}
    {config : MscConfig} {medium : Medium} (h : (system backend readOnly config medium).initial r) :
    r.Consistent := by
  obtain ⟨s, hs, rfl⟩ := h
  exact ⟨fun _ hmem => (nomatch hmem), fun _ hmem => (nomatch hmem),
    fun _ hmem => (nomatch hmem), fun _ => .inl rfl, .nil, fun _ hmem => (nomatch hmem)⟩

/-- A reply without data in memory is the same wherever it is sent from. -/
theorem bytes_of_not_data {queued : QueuedReply} (h : queued.isData = false)
    (s t : MscBulkOnlyHandler Medium) :
    queued.reply.source.bytes s = queued.reply.source.bytes t := by
  cases hsource : queued.reply.source with
  | none => rfl
  | fallback csw => rfl
  | staging offset length => simp [QueuedReply.isData, QueuedReply.isStaged, hsource] at h
  | mapped lba offset length =>
      simp [QueuedReply.isData, QueuedReply.isStaged, QueuedReply.isMapped, hsource] at h

theorem bytes_of_not_staged {queued : QueuedReply} {s t : MscBulkOnlyHandler Medium}
    (h : queued.isStaged = false) (hbackend : t.backend = s.backend)
    (hmedium : t.medium = s.medium) :
    queued.reply.source.bytes t = queued.reply.source.bytes s := by
  cases hsource : queued.reply.source with
  | none => rfl
  | fallback csw => rfl
  | staging offset length => simp [QueuedReply.isStaged, hsource] at h
  | mapped lba offset length => simp only [ReplySource.bytes, hbackend, hmedium]

theorem not_staged {queued : QueuedReply} (h : ¬r.StagedPending) (hin : queued ∈ r.queue) :
    queued.isStaged = false := by
  by_contra hstaged
  exact h ⟨queued, hin, by simpa using hstaged⟩

/-- A reply is submitted behind the others. -/
theorem Consistent.submit {handler : MscBulkOnlyHandler Medium} {reply : BulkReply}
    {queued : QueuedReply} (h : r.Consistent)
    (hqueued : queued = ⟨reply, r.commands, reply.source.bytes handler⟩)
    (hkeeps : ∀ queued ∈ r.queue, queued.isData = true →
      handler.state ≠ .dataOut ∧ queued.reply.source.bytes handler = queued.submitted)
    (hdata : queued.isData = true → r.handler.state = .dataIn ∧ handler.state ≠ .dataOut)
    (hended : (r.handler.state = .idle ∨ r.handler.state = .status) ∨ reply.isCsw = true →
      handler.state = .idle ∨ handler.state = .status) :
    (r.submit handler r.commands (some reply)).Consistent := by
  have hqueue : (r.submit handler r.commands (some reply)).queue = r.queue ++ [queued] := by
    rw [hqueued]
    rfl
  have hmem {p : QueuedReply → Prop} (hold : ∀ queued ∈ r.queue, p queued) (hnew : p queued) :
      ∀ queued ∈ (r.submit handler r.commands (some reply)).queue, p queued := by
    rw [hqueue]
    exact List.forall_mem_append.mpr ⟨hold, List.forall_mem_singleton.mpr hnew⟩
  have hopen (hsends : r.handler.state = .dataIn)
      (hends : r.answered = r.commands ∨
        ∃ queued ∈ r.queue, queued.reply.isCsw = true ∧ queued.command = r.commands) : False := by
    have hstate := h.ended hends
    rw [hsends] at hstate
    rcases hstate with hstate | hstate
    · cases hstate
    · cases hstate
  refine ⟨hmem h.numbered (by rw [hqueued]; exact Nat.le_refl _), hmem h.unanswered ?_,
    hmem ?_ ?_, ?_, ?_, hmem ?_ ?_⟩
  · exact fun hnew hanswered => hopen (hdata hnew).1 (.inl hanswered)
  · exact fun queued hin hpending => (hkeeps queued hin hpending).1
  · exact fun hnew => (hdata hnew).2
  · rintro (hanswered | ⟨last, hin, hcsw, hcommand⟩)
    · exact hended (.inl (h.ended (.inl hanswered)))
    · rw [hqueue, List.mem_append, List.mem_singleton] at hin
      rcases hin with hin | rfl
      · exact hended (.inl (h.ended (.inr ⟨last, hin, hcsw, hcommand⟩)))
      · exact hended (.inr (by rw [hqueued] at hcsw; exact hcsw))
  · rw [hqueue, List.pairwise_append]
    refine ⟨h.ordered, List.pairwise_singleton _ _, ?_⟩
    rintro first hin later hlater hcsw hnew hcommand
    obtain rfl := List.mem_singleton.mp hlater
    exact hopen (hdata hnew).1 (.inr ⟨first, hin, hcsw, hcommand⟩)
  · intro queued hin
    cases hpending : queued.isData with
    | true => exact (hkeeps queued hin hpending).2
    | false => exact (bytes_of_not_data hpending _ _).trans (h.intact queued hin)
  · rw [hqueued]
    rfl

theorem Consistent.not_data (h : r.Consistent)
    (hnone : r.answered = r.commands ∨ r.handler.state = .dataOut) :
    ∀ queued ∈ r.queue, queued.isData = false := by
  intro queued hin
  by_contra hpending
  have hpending : queued.isData = true := by simpa using hpending
  rcases hnone with hanswered | hstate
  · exact h.unanswered queued hin hpending hanswered
  · exact h.sending queued hin hpending hstate

/-- A wrapper comes where no data is left to be sent. -/
theorem Consistent.wrapper {handler : MscBulkOnlyHandler Medium} {length : UInt32}
    (h : r.Consistent) (hanswered : r.answered = r.commands) :
    (r.submit handler (r.commands + 1) (some (handleBulkOut length))).Consistent := by
  have hqueue : (r.submit handler (r.commands + 1) (some (handleBulkOut length))).queue =
      r.queue ++ [⟨handleBulkOut length, r.commands + 1, []⟩] := rfl
  have hnone : ∀ queued ∈
      (r.submit handler (r.commands + 1) (some (handleBulkOut length))).queue,
      queued.isData = false := by
    rw [hqueue]
    exact List.forall_mem_append.mpr
      ⟨h.not_data (.inl hanswered), List.forall_mem_singleton.mpr rfl⟩
  have hno {queued : QueuedReply}
      (hin : queued ∈ (r.submit handler (r.commands + 1) (some (handleBulkOut length))).queue)
      (hpending : queued.isData = true) : False :=
    Bool.false_ne_true ((hnone queued hin).symm.trans hpending)
  refine ⟨?_, fun queued hin hpending => (hno hin hpending).elim,
    fun queued hin hpending => (hno hin hpending).elim, ?_,
    List.pairwise_of_forall_mem_list fun _ _ later hin _ hpending => (hno hin hpending).elim, ?_⟩
  · rw [hqueue]
    exact List.forall_mem_append.mpr
      ⟨fun queued hin => Nat.le_succ_of_le (h.numbered queued hin),
        List.forall_mem_singleton.mpr (Nat.le_refl _)⟩
  · rintro (hall | ⟨queued, hin, hcsw, hcommand⟩)
    · exact absurd (hanswered.symm.trans hall) (Nat.lt_succ_self r.commands).ne
    · rw [hqueue, List.mem_append, List.mem_singleton] at hin
      rcases hin with hin | rfl
      · have hle := h.numbered queued hin
        have hcommand : queued.command = r.commands + 1 := hcommand
        omega
      · cases hcsw
  · intro queued hin
    have hnone := hnone queued hin
    rw [hqueue, List.mem_append, List.mem_singleton] at hin
    rcases hin with hin | rfl
    · exact (bytes_of_not_data hnone _ _).trans (h.intact queued hin)
    · rfl

theorem Consistent.send {queued : QueuedReply} {queue : List QueuedReply} (h : r.Consistent)
    (hqueue : r.queue = queued :: queue) :
    Consistent
      { r with
        queue
        answered := if queued.reply.isCsw then max r.answered queued.command else r.answered } := by
  have hin {other : QueuedReply} (hmem : other ∈ queue) : other ∈ r.queue := by
    rw [hqueue]
    exact List.mem_cons_of_mem queued hmem
  have hhead : queued ∈ r.queue := by
    rw [hqueue]
    exact List.mem_cons_self
  have hordered := h.ordered
  rw [hqueue, List.pairwise_cons] at hordered
  have hanswered : (if queued.reply.isCsw then max r.answered queued.command else r.answered) =
      r.commands → r.answered = r.commands ∨
        queued.reply.isCsw = true ∧ queued.command = r.commands := by
    split
    next hcsw =>
      intro hmax
      rcases max_choice r.answered queued.command with hleft | hright
      · exact .inl (hleft.symm.trans hmax)
      · exact .inr ⟨hcsw, hright.symm.trans hmax⟩
    next => exact .inl
  refine ⟨fun other hmem => h.numbered other (hin hmem), ?_,
    fun other hmem => h.sending other (hin hmem), ?_, hordered.2,
    fun other hmem => h.intact other (hin hmem)⟩
  · intro other hmem hpending hends
    rcases hanswered hends with hearlier | ⟨hcsw, hcommand⟩
    · exact h.unanswered other (hin hmem) hpending hearlier
    · exact hordered.1 other hmem hcsw hpending hcommand
  · rintro (hends | ⟨other, hmem, hcsw, hcommand⟩)
    · rcases hanswered hends with hearlier | ⟨hcsw, hcommand⟩
      · exact h.ended (.inl hearlier)
      · exact h.ended (.inr ⟨queued, hhead, hcsw, hcommand⟩)
    · exact h.ended (.inr ⟨other, hin hmem, hcsw, hcommand⟩)

/-- The end of the connection leaves mapped data alone. -/
theorem Consistent.disconnect {handler : MscBulkOnlyHandler Medium} (h : r.Consistent)
    (hstaged : ¬r.StagedPending)
    (hkeeps : r.handler.state ≠ .dataOut →
      handler.backend = r.handler.backend ∧ handler.medium = r.handler.medium) :
    Consistent { r with handler := handler.onDisconnection, connected := false } := by
  refine ⟨h.numbered, h.unanswered, fun _ _ _ => BotState.noConfusion, fun _ => .inl rfl,
    h.ordered, ?_⟩
  intro queued hin
  cases hpending : queued.isData with
  | false => exact (bytes_of_not_data hpending _ _).trans (h.intact queued hin)
  | true =>
      obtain ⟨hbackend, hmedium⟩ := hkeeps (h.sending queued hin hpending)
      exact (bytes_of_not_staged (not_staged hstaged hin) (by exact hbackend)
        (by exact hmedium)).trans (h.intact queued hin)

/-- An OUT transfer that is not a wrapper finds no data to be sent, or does nothing. -/
theorem Consistent.out {handler : MscBulkOnlyHandler Medium} {bytes : List UInt8}
    {reply : Option BulkReply} (h : r.Consistent) (hidle : r.handler.state ≠ .idle)
    (ht : r.handler.transfer (.out bytes) = some (handler, reply)) :
    (r.submit handler r.commands reply).Consistent := by
  obtain rfl := out_reply ht
  by_cases hdata : r.handler.state = .dataOut
  · refine h.submit rfl (fun queued hin hpending => ?_) (fun hpending => by cases hpending) ?_
    · exact absurd hdata (h.sending queued hin hpending)
    · rintro ((hstate | hstate) | hcsw)
      · exact absurd hstate hidle
      · rw [hdata] at hstate
        cases hstate
      · cases hcsw
  · obtain rfl := out_of_answering hidle hdata ht
    refine h.submit rfl (fun queued hin hpending => ⟨hdata, h.intact queued hin⟩)
      (fun hpending => by cases hpending) ?_
    rintro (hstate | hcsw)
    · exact hstate
    · cases hcsw

/-- An IN transfer, which must not be read as a wrapper while staged data is to be sent. -/
theorem Consistent.in_ {handler : MscBulkOnlyHandler Medium} {length : UInt32}
    {reply : Option BulkReply} (h : r.Consistent)
    (hleaves : r.StagedPending → r.handler.state ≠ .idle)
    (ht : r.handler.transfer (.in_ length) = some (handler, reply)) :
    (r.submit handler r.commands reply).Consistent := by
  obtain ⟨reply, rfl, hanswered⟩ := inAnswered_of_in ht
  have hcsw_data {submitted : List UInt8} (hcsw : reply.isCsw = true) :
      (⟨reply, r.commands, submitted⟩ : QueuedReply).isData = false := by
    obtain ⟨status, actualLength, source⟩ := reply
    cases source with
    | fallback csw => rfl
    | _ => cases hcsw
  cases hanswered with
  | tooShort hstate hidle hbackend hmedium haccesses hcsw =>
      have hstaged : ¬r.StagedPending := fun hpending => hleaves hpending hstate
      refine h.submit rfl (fun queued hin hpending => ⟨by simp [hidle], ?_⟩)
        (fun hpending => absurd hpending (by simp [hcsw_data hcsw])) fun _ => .inl hidle
      exact (bytes_of_not_staged (not_staged hstaged hin) hbackend hmedium).trans
        (h.intact queued hin)
  | status hstate hidle hsources haccesses hcsw =>
      exact h.submit rfl
        (fun queued hin hpending =>
          ⟨by simp [hidle], (hsources.bytes_eq _).trans (h.intact queued hin)⟩)
        (fun hpending => absurd hpending (by simp [hcsw_data hcsw])) fun _ => .inl hidle
  | data hstate hsends hsources haccesses hcsw =>
      have hnot : handler.state ≠ .dataOut := by
        rcases hsends with hsends | hsends
        · simp [hsends]
        · simp [hsends]
      refine h.submit rfl
        (fun queued hin hpending => ⟨hnot, (hsources.bytes_eq _).trans (h.intact queued hin)⟩)
        (fun _ => ⟨hstate, hnot⟩) ?_
      rintro ((hidle | hstatus) | hcsw')
      · rw [hstate] at hidle
        cases hidle
      · rw [hstate] at hstatus
        cases hstatus
      · exact absurd hcsw' (by simp [hcsw])
  | used hstate hidle hcsw =>
      exact h.submit rfl (fun queued hin hpending => absurd hstate (h.sending queued hin hpending))
        (fun hpending => absurd hpending (by simp [hcsw_data hcsw])) fun _ => .inl hidle
  | stalled hstate hwaits hsource =>
      refine h.submit rfl
        (fun queued hin hpending => absurd hstate (h.sending queued hin hpending))
        (fun hpending => ?_) ?_
      · simp [QueuedReply.isData, QueuedReply.isStaged, QueuedReply.isMapped, hsource] at hpending
      · rintro ((hidle | hstatus) | hcsw)
        · rw [hstate] at hidle
          cases hidle
        · rw [hstate] at hstatus
          cases hstatus
        · simp [BulkReply.isCsw, hsource] at hcsw

/-- What a step does to the run. -/
inductive Stepped (r : ReplyRun Medium) : ReplyAction → ReplyRun Medium → Prop
  | transfer {transfer : DataTransfer} {handler : MscBulkOnlyHandler Medium}
      {reply : Option BulkReply}
      (hreply : r.handler.transfer transfer.toHostTransfer = some (handler, reply)) :
      Stepped r (.transfer transfer)
        (r.submit handler (if r.isWrapper transfer then r.commands + 1 else r.commands) reply)
  | send {queued : QueuedReply} {queue : List QueuedReply} (hqueue : r.queue = queued :: queue) :
      Stepped r .send
        { r with
          queue
          answered := if queued.reply.isCsw then max r.answered queued.command else r.answered }
  | brokenOut {length : Nat} {received : List UInt8} :
      Stepped r (.brokenOut length received)
        { r with
          handler := (r.handler.receiveOut length received).1.onDisconnection
          connected := false }
  | onDisconnection :
      Stepped r .onDisconnection { r with handler := r.handler.onDisconnection, connected := false }

theorem stepped_of_step {a : ReplyAction} (ht : r.step a = some t) : Stepped r a t := by
  cases a with
  | transfer transfer =>
      simp only [ReplyRun.step] at ht
      split at ht
      next =>
        obtain ⟨⟨handler, reply⟩, hp, rfl⟩ := Option.map_eq_some_iff.mp ht
        exact .transfer hp
      next => cases ht
  | send =>
      simp only [ReplyRun.step] at ht
      split at ht
      next => cases ht
      next queued queue hqueue =>
        obtain rfl := Option.some.inj ht
        exact .send hqueue
  | brokenOut length received =>
      simp only [ReplyRun.step] at ht
      split at ht
      next =>
        obtain rfl := Option.some.inj ht
        exact .brokenOut
      next => cases ht
  | onDisconnection =>
      simp only [ReplyRun.step] at ht
      split at ht
      next =>
        obtain rfl := Option.some.inj ht
        exact .onDisconnection
      next => cases ht

theorem receiveOut_sources {s : MscBulkOnlyHandler Medium} {length : Nat} {received : List UInt8}
    (hstate : s.state ≠ .dataOut) :
    (s.receiveOut length received).1.backend = s.backend ∧
      (s.receiveOut length received).1.medium = s.medium := by
  rw [receiveOut_of_not_dataOut hstate]
  exact ⟨rfl, rfl⟩

theorem Consistent.step {a : ReplyAction} (h : r.Consistent) (hwaits : r.HostWaits a)
    (hleaves : r.LeavesStaged a) (ht : r.step a = some t) : t.Consistent := by
  cases stepped_of_step ht with
  | @transfer transfer handler reply hreply =>
      cases transfer with
      | in_ length => exact h.in_ hleaves hreply
      | out bytes =>
          by_cases hidle : r.handler.state = .idle
          · have hwrapper : r.isWrapper (.out bytes) = true := decide_eq_true hidle
            obtain rfl := out_reply hreply
            rw [if_pos hwrapper]
            exact h.wrapper (hwaits hwrapper)
          · have hwrapper : ¬r.isWrapper (.out bytes) = true := by
              rw [isWrapper, decide_eq_true_eq]
              exact hidle
            rw [if_neg hwrapper]
            exact h.out hidle hreply
  | send hqueue => exact h.send hqueue
  | brokenOut => exact h.disconnect hleaves receiveOut_sources
  | onDisconnection => exact h.disconnect hleaves fun _ => ⟨rfl, rfl⟩

theorem Consistent.not_dataOut (h : r.Consistent) (hmapped : r.MappedPending ∨ r.StagedPending) :
    r.handler.state ≠ .dataOut := by
  rcases hmapped with ⟨queued, hin, hpending⟩ | ⟨queued, hin, hpending⟩
  · exact h.sending queued hin (by rw [QueuedReply.isData, hpending, Bool.or_true])
  · exact h.sending queued hin (by rw [QueuedReply.isData, hpending, Bool.true_or])

theorem Consistent.not_wrapper (h : r.Consistent) {transfer : DataTransfer}
    (hwaits : r.HostWaits (.transfer transfer)) (hpending : r.MappedPending ∨ r.StagedPending) :
    r.isWrapper transfer ≠ true := by
  intro hwrapper
  rcases hpending with ⟨queued, hin, hpending⟩ | ⟨queued, hin, hpending⟩
  · exact h.unanswered queued hin (by rw [QueuedReply.isData, hpending, Bool.or_true])
      (hwaits hwrapper)
  · exact h.unanswered queued hin (by rw [QueuedReply.isData, hpending, Bool.true_or])
      (hwaits hwrapper)

/-- No step writes to the medium while mapped data is to be sent. -/
theorem Consistent.medium_kept {a : ReplyAction} (h : r.Consistent) (hwaits : r.HostWaits a)
    (hpending : r.MappedPending) (ht : r.step a = some t) :
    t.handler.accesses.filter MediumAccess.modifies =
      r.handler.accesses.filter MediumAccess.modifies := by
  have hdata := h.not_dataOut (.inl hpending)
  cases stepped_of_step ht with
  | @transfer transfer handler reply hreply =>
      have hwrapper := h.not_wrapper hwaits (.inl hpending)
      cases transfer with
      | out bytes =>
          have hidle : r.handler.state ≠ .idle := by
            simpa [isWrapper] using hwrapper
          rw [out_of_answering hidle hdata hreply]
          rfl
      | in_ length =>
          obtain ⟨reply, rfl, hanswered⟩ := inAnswered_of_in hreply
          cases hanswered with
          | tooShort hstate hidle hbackend hmedium haccesses =>
              exact congrArg (List.filter MediumAccess.modifies) haccesses
          | status hstate hidle hsources haccesses =>
              exact congrArg (List.filter MediumAccess.modifies) haccesses
          | data hstate hsends hsources haccesses => exact haccesses
          | used hstate => exact absurd hstate hdata
          | stalled hstate => exact absurd hstate hdata
  | send => rfl
  | brokenOut =>
      rw [receiveOut_of_not_dataOut hdata]
      rfl
  | onDisconnection => rfl

/-- A step keeps its hands off the data to be sent exactly if it leaves staged data alone. -/
theorem Consistent.undisturbed_iff {a : ReplyAction} (h : r.Consistent) (hwaits : r.HostWaits a)
    (ht : r.step a = some t) : r.Undisturbed a t ↔ r.LeavesStaged a := by
  constructor
  · intro hundisturbed hpending
    have huntouched := hundisturbed.staging hpending
    cases a with
    | transfer transfer =>
        cases transfer with
        | out bytes => trivial
        | in_ length => exact fun hidle => huntouched (.inl hidle)
    | send => trivial
    | brokenOut length received => exact huntouched trivial
    | onDisconnection => exact huntouched trivial
  · intro hleaves
    refine ⟨fun hpending htouches => ?_, fun hpending => h.medium_kept hwaits hpending ht⟩
    have hleaves := hleaves hpending
    cases a with
    | transfer transfer =>
        rcases htouches with hidle | hdata
        · cases transfer with
          | out bytes =>
              exact h.not_wrapper hwaits (.inr hpending) (by simpa [isWrapper] using hidle)
          | in_ length => exact hleaves hidle
        · exact h.not_dataOut (.inr hpending) hdata
    | send => exact htouches
    | brokenOut length received => exact hleaves
    | onDisconnection => exact hleaves

end Steps

/-- As long as no IN transfer is read as a wrapper, and the connection does not end, while staged
data is to be sent, every reply is sent with the bytes that it has been submitted with; and a next
step disturbs data that is to be sent exactly if it is one of these two. -/
theorem replies_stable {backend : Option (StorageBackend Medium)} {readOnly : Bool}
    {config : MscConfig} {medium : Medium} {r : ReplyRun Medium}
    (h : ReachableUnder (system backend readOnly config medium)
      (fun r a => r.HostWaits a ∧ r.LeavesStaged a) r) :
    r.Intact ∧ ∀ a t, r.HostWaits a → r.step a = some t →
      (r.Undisturbed a t ↔ r.LeavesStaged a) := by
  have hconsistent : r.Consistent :=
    ReachableUnder.invariant (fun _ hinit => .initial hinit)
      (fun _ _ _ hr hguard ht => hr.step hguard.1 hguard.2 ht) h
  exact ⟨hconsistent.intact, fun a t hwaits ht => hconsistent.undisturbed_iff hwaits ht⟩

theorem hostWaits_in {r : ReplyRun Medium} {length : UInt32} :
    r.HostWaits (.transfer (.in_ length)) :=
  fun hwrapper => absurd hwrapper Bool.false_ne_true

/-- Sense data that is read in two transfers, all of which waits in the queue. -/
theorem replies_stable_instance :
    ∃ r : ReplyRun (List UInt8),
      ReachableUnder (system none false ⟨[], [], [], []⟩ [])
        (fun r a => r.HostWaits a ∧ r.LeavesStaged a) r ∧
      r.queue.length = 3 ∧ r.Intact := by
  obtain ⟨r₁, r₂, r₃, h₁, h₂, h₃, hstate₁, hstate₂, hlength⟩ :
      ∃ r₁ r₂ r₃ : ReplyRun (List UInt8),
        (system none false ⟨[], [], [], []⟩ []).step
          ⟨(create none false ⟨[], [], [], []⟩ []).onNewConnection, [], 0, 0, true⟩
          (.transfer (.out (Cbw.ofCommand 1 18 true [0x03]).toBytes)) = some r₁ ∧
        (system none false ⟨[], [], [], []⟩ []).step r₁ (.transfer (.in_ 10)) = some r₂ ∧
        (system none false ⟨[], [], [], []⟩ []).step r₂ (.transfer (.in_ 8)) = some r₃ ∧
        r₁.handler.state = .dataIn ∧ r₂.handler.state = .dataIn ∧ r₃.queue.length = 3 :=
    ⟨_, _, _, rfl, rfl, rfl, rfl, rfl, rfl⟩
  have hreach : ReachableUnder (system none false ⟨[], [], [], []⟩ [])
      (fun r a => r.HostWaits a ∧ r.LeavesStaged a) r₃ := by
    refine .step (.step (.step (.initial ⟨_, .initial rfl, rfl⟩) ?_ h₁) ?_ h₂) ?_ h₃
    · exact ⟨fun _ => rfl, fun _ => trivial⟩
    · exact ⟨hostWaits_in, fun _ hidle => by rw [hstate₁] at hidle; cases hidle⟩
    · exact ⟨hostWaits_in, fun _ hidle => by rw [hstate₂] at hidle; cases hidle⟩
  exact ⟨r₃, hreach, hlength, (replies_stable hreach).1⟩

/-- An IN transfer too many clears the sense data that is still to be sent. -/
theorem replies_cleared :
    ∃ r : ReplyRun (List UInt8),
      ReachableUnder (system none false ⟨[], [], [], []⟩ []) HostWaits r ∧ ¬r.Intact := by
  obtain ⟨r₁, r₄, h₁, h₄, hcleared, hqueued⟩ :
      ∃ r₁ r₄ : ReplyRun (List UInt8),
        (system none false ⟨[], [], [], []⟩ []).step
          ⟨(create none false ⟨[], [], [], []⟩ []).onNewConnection, [], 0, 0, true⟩
          (.transfer (.out (Cbw.ofCommand 1 18 true [0x03]).toBytes)) = some r₁ ∧
        (system none false ⟨[], [], [], []⟩ []).run r₁
          [.transfer (.in_ 18), .transfer (.in_ 13), .transfer (.in_ 13)] = some r₄ ∧
        r₄.handler.stagingData = [] ∧
        r₄.queue[1]? = some ⟨⟨0, 18, .staging 0 18⟩, 1, senseData⟩ :=
    ⟨_, _, rfl, rfl, rfl, rfl⟩
  refine ⟨r₄, .run _ ?_ (.step (.initial ⟨_, .initial rfl, rfl⟩) ?_ h₁) h₄, ?_⟩
  · intro r a ha
    simp only [List.mem_cons, List.not_mem_nil, or_false] at ha
    rcases ha with rfl | rfl | rfl
    · exact hostWaits_in
    · exact hostWaits_in
    · exact hostWaits_in
  · exact fun _ => rfl
  · intro hintact
    have hsent := hintact _ (List.mem_of_getElem? hqueued)
    simp only [ReplySource.bytes, hcleared] at hsent
    exact absurd hsent (by decide)

end ReplyRun

end Usbipdcpp.MassStorage
