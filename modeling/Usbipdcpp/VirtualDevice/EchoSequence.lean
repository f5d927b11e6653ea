import Usbipdcpp.Foundation.TransitionSystem
import Usbipdcpp.VirtualDevice.EchoChecksums

namespace Usbipdcpp.VirtualDevice

open Foundation.ByteStream Foundation.TransitionSystem Protocol Protocol.DeviceList

namespace TcpEcho

variable {tcp : TcpEcho} (seq ack : UInt32) {flags : UInt8} {payload : List UInt8}

theorem receive_syn (hclosed : tcp.established = false) (hsyn : flags &&& tcpFlagSyn ≠ 0) :
    tcp.receive seq ack flags payload =
      ({ tcp with peerSeq := seq + 1, established := true },
        [⟨tcpFlagSyn ||| tcpFlagAck, tcp.mySeq, seq + 1, []⟩]) :=
  if_pos ⟨hsyn, hclosed⟩

theorem receive_closed (hclosed : tcp.established = false) (hsyn : flags &&& tcpFlagSyn = 0) :
    tcp.receive seq ack flags payload = (tcp, []) := by
  have hopen : ¬tcp.established = true := by rw [hclosed]; decide
  unfold receive
  rw [if_neg fun h => h.1 hsyn, if_neg hopen]

theorem receive_established (hopen : tcp.established = true) :
    tcp.receive seq ack flags payload =
      let (tcp, replies) := tcp.echo seq payload
      if flags &&& tcpFlagFin ≠ 0 then
        let peerSeq := seq + .ofNat payload.length + 1
        ({ tcp with peerSeq, established := false },
          replies ++ [⟨tcpFlagAck ||| tcpFlagFin, tcp.mySeq, peerSeq, []⟩])
      else if payload.length = 0 ∧ tcp.mySeq < ack then
        ({ tcp with mySeq := ack }, replies)
      else
        (tcp, replies) := by
  have hclosed : ¬tcp.established = false := by rw [hopen]; decide
  unfold receive
  rw [if_neg fun h => hclosed h.2, if_pos hopen]

/-- The data of a segment are echoed in one segment, whatever else it asks for. -/
theorem receive_data (flags : UInt8) (hopen : tcp.established = true) (hdata : payload ≠ []) :
    (tcp.receive seq ack flags payload).2.filter (·.flags = tcpFlagPsh ||| tcpFlagAck) =
        [⟨tcpFlagPsh ||| tcpFlagAck, tcp.mySeq, seq + .ofNat payload.length, payload⟩] ∧
      (tcp.receive seq ack flags payload).1.mySeq = tcp.mySeq + .ofNat payload.length ∧
      ((tcp.receive seq ack flags payload).1.established = true ↔ flags &&& tcpFlagFin = 0) := by
  have hpos : 0 < payload.length := List.length_pos_iff.mpr hdata
  rw [receive_established seq ack hopen, echo, if_pos hpos]
  dsimp only
  by_cases hfin : flags &&& tcpFlagFin ≠ 0
  · rw [if_pos hfin]
    exact ⟨rfl, rfl, iff_of_false Bool.false_ne_true hfin⟩
  · rw [if_neg hfin, if_neg fun h => hpos.ne' h.1]
    exact ⟨rfl, rfl, iff_of_true hopen (not_not.mp hfin)⟩

/-- A segment without data is not echoed; an acknowledgement moves the number on. -/
theorem receive_empty (flags : UInt8) (hopen : tcp.established = true) :
    (tcp.receive seq ack flags []).2.filter (·.flags = tcpFlagPsh ||| tcpFlagAck) = [] ∧
      (flags &&& tcpFlagFin = 0 → (tcp.receive seq ack flags []).1.mySeq =
        if tcp.mySeq < ack then ack else tcp.mySeq) ∧
      ((tcp.receive seq ack flags []).1.established = true ↔ flags &&& tcpFlagFin = 0) := by
  have hecho : tcp.echo seq [] = (tcp, []) := rfl
  rw [receive_established seq ack hopen, hecho]
  dsimp only
  by_cases hfin : flags &&& tcpFlagFin ≠ 0
  · rw [if_pos hfin]
    exact ⟨rfl, fun h => absurd h hfin, iff_of_false Bool.false_ne_true hfin⟩
  · rw [if_neg hfin]
    have hack : ([] : List UInt8).length = 0 ∧ tcp.mySeq < ack ↔ tcp.mySeq < ack :=
      and_iff_right rfl
    by_cases hahead : tcp.mySeq < ack
    · rw [if_pos (hack.mpr hahead), if_pos hahead]
      exact ⟨rfl, fun _ => rfl, iff_of_true hopen (not_not.mp hfin)⟩
    · rw [if_neg (mt hack.mp hahead), if_neg hahead]
      exact ⟨rfl, fun _ => rfl, iff_of_true hopen (not_not.mp hfin)⟩

end TcpEcho

theorem readBe32_of_bytesAt {data : List UInt8} {offset : Nat} {x : UInt32}
    (h : bytesAt data offset 4 = u32ToBytes x) : readBe32 data offset = x := by
  rw [readBe32, h, u32ToBytes, natOfBytes_bytesOfNat x.toNat_lt, UInt32.ofNat_toNat]

namespace EthernetEchoBackend

theorem bytesAt_segment (backend : EthernetEchoBackend) (proto : UInt8) (dstIp : Ipv4Address)
    (segment : List UInt8) {offset n : Nat} (h : offset + n ≤ segment.length) :
    bytesAt (backend.ipv4Frame proto dstIp segment) (ethHlen + ipv4Hlen + offset) n =
      bytesAt segment offset n := by
  have hinside : ipv4Hlen + offset + n ≤ ipv4Hlen + segment.length := by omega
  rw [Nat.add_assoc, bytesAt_ipv4Frame _ _ _ _ hinside, ipv4Packet,
    ← length_ipv4Header proto backend.ip dstIp segment.length
      (checksum (ipv4Header proto backend.ip dstIp segment.length 0) 0), bytesAt_append_right]

/-- The numbers that a host reads of a segment are those with which the service has answered. -/
theorem numbers_of_mem_handleTcp {backend : EthernetEchoBackend} {frame out : List UInt8}
    {tcp tcpLen : Nat} (haccepts : AcceptsTcp backend.tcpPort frame tcp tcpLen)
    (hout : out ∈ (backend.handleTcp frame tcp tcpLen).2.frames) :
    ∃ reply ∈ (backend.tcp.receive (TcpHeader.seq frame tcp) (TcpHeader.ack frame tcp)
        (TcpHeader.flags frame tcp) (bytesAt frame (tcp + TcpHeader.dataOffset frame tcp)
          (tcpLen - TcpHeader.dataOffset frame tcp))).2,
      TcpHeader.seq out (ethHlen + ipv4Hlen) = reply.seq ∧
        TcpHeader.ack out (ethHlen + ipv4Hlen) = reply.ack := by
  rw [handleTcp_of_accepts haccepts] at hout
  obtain ⟨reply, hreply, rfl⟩ := mem_frames_sendSegments hout
  have hlength (c : UInt16) : tcpHlen ≤ (tcpHeader backend.tcpPort (TcpHeader.srcPort frame tcp)
      reply c ++ reply.payload).length := by
    rw [List.length_append]
    exact Nat.le_add_right _ _
  refine ⟨reply, hreply, readBe32_of_bytesAt ?_, readBe32_of_bytesAt ?_⟩
  · exact bytesAt_segment _ _ _ _ (le_trans (by decide : 4 + 4 ≤ tcpHlen) (hlength _))
  · exact bytesAt_segment _ _ _ _ (le_trans (by decide : 8 + 4 ≤ tcpHlen) (hlength _))

end EthernetEchoBackend

/-- An echoed segment beside what its numbers are to be: `iss` is the number of the answer to the
`SYN`, `before` the count of the bytes echoed since, and `peerNext` the number of the byte that the
peer sends next. -/
structure SentEcho where
  reply : TcpReply
  iss : UInt32
  before : Nat
  peerNext : UInt32
  deriving DecidableEq, Repr

def SentEcho.RightlyNumbered (echo : SentEcho) : Prop :=
  echo.reply.seq = echo.iss + 1 + .ofNat echo.before ∧ echo.reply.ack = echo.peerNext

instance (echo : SentEcho) : Decidable echo.RightlyNumbered :=
  inferInstanceAs (Decidable (_ ∧ _))

/-- What a peer sends: the start of a connection, a segment of it, and what comes when it has been
closed.  A segment of the connection acknowledges the `acked` first bytes of the echo. -/
inductive PeerEvent where
  | connect (seq : UInt32) (flags : UInt8)
  | segment (acked : Nat) (flags : UInt8) (payload : List UInt8)
  | late (seq ack : UInt32) (flags : UInt8) (payload : List UInt8)
  deriving DecidableEq, Repr

/-- The service with a peer that sends in order and whose segments all arrive.  Of the connection
that is open: `echoed` and `acked` count the bytes sent back and acknowledged, `confirmed` tells
that an acknowledgement without data has come, and `lagged` that one of them was for a number above
the next one to be sent, though for bytes before it. -/
structure EchoRun where
  tcp : TcpEcho
  iss : UInt32
  peerNext : UInt32
  echoed : Nat
  acked : Nat
  confirmed : Bool
  lagged : Bool
  echoes : List SentEcho
  deriving DecidableEq, Repr

namespace EchoRun

/-- The number of the byte that is to be echoed next. -/
def next (s : EchoRun) : UInt32 := s.iss + 1 + .ofNat s.echoed

def IsPureAck (flags : UInt8) (payload : List UInt8) : Prop :=
  payload = [] ∧ flags &&& tcpFlagFin = 0

instance (flags : UInt8) (payload : List UInt8) : Decidable (IsPureAck flags payload) :=
  inferInstanceAs (Decidable (_ ∧ _))

/-- The number that acknowledges the `acked` first bytes of the echo. -/
def ackNumber (s : EchoRun) (acked : Nat) : UInt32 := s.iss + 1 + .ofNat acked

def afterSegment (s : EchoRun) (acked : Nat) (flags : UInt8) (payload : List UInt8) : EchoRun :=
  let (tcp, replies) := s.tcp.receive s.peerNext (s.ackNumber acked) flags payload
  let peerNext := s.peerNext + .ofNat payload.length
  let echoes := replies.filter (·.flags = tcpFlagPsh ||| tcpFlagAck)
  { s with
    tcp
    peerNext
    acked
    echoed := s.echoed + payload.length
    confirmed := s.confirmed || decide (IsPureAck flags payload)
    lagged := s.lagged || decide (IsPureAck flags payload ∧ s.next < s.ackNumber acked)
    echoes := s.echoes ++ echoes.map (⟨·, s.iss, s.echoed, peerNext⟩) }

def step (s : EchoRun) : PeerEvent → Option EchoRun
  | .connect seq flags =>
      if s.tcp.established = false ∧ flags &&& tcpFlagSyn ≠ 0 then
        let (tcp, replies) := s.tcp.receive seq 0 flags []
        some { s with
          tcp
          iss := (replies.map TcpReply.seq).headD 0
          peerNext := seq + 1
          echoed := 0
          acked := 0
          confirmed := false
          lagged := false }
      else
        none
  | .segment acked flags payload =>
      if s.tcp.established = true ∧ flags &&& tcpFlagSyn = 0 ∧ s.acked ≤ acked ∧
          acked ≤ s.echoed then
        some (s.afterSegment acked flags payload)
      else
        none
  | .late seq ack flags payload =>
      if s.tcp.established = false ∧ flags &&& tcpFlagSyn = 0 then
        some { s with tcp := (s.tcp.receive seq ack flags payload).1 }
      else
        none

/-- The number that the service begins with may be any. -/
def system : System EchoRun PeerEvent where
  initial s := s.tcp.established = false ∧ s.echoes = []
  step := step

def RightlyNumbered (s : EchoRun) : Prop :=
  ∀ echo ∈ s.echoes, echo.RightlyNumbered

/-- Data come when an acknowledgement without data has made up for the number of the `SYN`, which it
cannot where that is the last number, and when none has set the number back since. -/
def InStep (s : EchoRun) : PeerEvent → Prop
  | .segment _ _ payload =>
      payload ≠ [] → s.confirmed = true ∧ s.iss ≠ 0xFFFFFFFF ∧ s.lagged = false
  | _ => True

/-- How the service's number stands to the next one while all that has been echoed is right. -/
inductive Standing (s : EchoRun) : Prop
  | synced (hconfirmed : s.confirmed = true) (hiss : s.iss ≠ 0xFFFFFFFF)
      (hlagged : s.lagged = false) (hmySeq : s.tcp.mySeq = s.next)
  | handshake (hwaits : s.confirmed = false ∨ s.iss = 0xFFFFFFFF) (hlagged : s.lagged = false)
      (hechoed : s.echoed = 0) (hmySeq : s.tcp.mySeq = s.iss)
  | ahead (hlagged : s.lagged = true) (hmySeq : s.next < s.tcp.mySeq)

theorem next_of_echoed {s : EchoRun} (h : s.echoed = 0) : s.next = s.iss + 1 := by
  rw [next, h]
  exact UInt32.add_zero _

theorem succ_ne (n : UInt32) : n ≠ n + 1 := by
  intro h
  have hn := congrArg UInt32.toNat h
  rw [UInt32.toNat_add] at hn
  have hlt := n.toNat_lt
  change n.toNat = (n.toNat + 1) % 4294967296 at hn
  omega

/-- Data are echoed under the right number just when they come in step. -/
theorem Standing.mySeq_eq_next_iff {s : EchoRun} (h : s.Standing) :
    s.tcp.mySeq = s.next ↔ s.confirmed = true ∧ s.iss ≠ 0xFFFFFFFF ∧ s.lagged = false := by
  cases h with
  | synced hconfirmed hiss hlagged hmySeq => exact iff_of_true hmySeq ⟨hconfirmed, hiss, hlagged⟩
  | handshake hwaits hlagged hechoed hmySeq =>
      refine iff_of_false ?_ ?_
      · rw [next_of_echoed hechoed, hmySeq]
        exact succ_ne s.iss
      · rintro ⟨hconfirmed, hiss, -⟩
        rcases hwaits with hnone | hlast
        · exact absurd (hconfirmed.symm.trans hnone) (by decide)
        · exact hiss hlast
  | ahead hlagged hmySeq =>
      refine iff_of_false (fun h => ?_) fun h => absurd (hlagged.symm.trans h.2.2) (by decide)
      rw [h] at hmySeq
      exact absurd hmySeq (UInt32.lt_irrefl _)

/-- What is known of a run while all its echoes are right. -/
def Kept (s : EchoRun) : Prop :=
  s.RightlyNumbered → s.tcp.established = true → s.Standing

theorem step_segment {s t : EchoRun} {acked : Nat} {flags : UInt8} {payload : List UInt8}
    (h : s.step (.segment acked flags payload) = some t) :
    s.tcp.established = true ∧ acked ≤ s.echoed ∧ t = s.afterSegment acked flags payload := by
  simp only [step] at h
  split at h
  next henabled => exact ⟨henabled.1, henabled.2.2.2, (Option.some.inj h).symm⟩
  next => exact nomatch h

theorem next_afterSegment (s : EchoRun) (acked : Nat) (flags : UInt8) (payload : List UInt8) :
    (s.afterSegment acked flags payload).next = s.next + .ofNat payload.length := by
  change s.iss + 1 + .ofNat (s.echoed + payload.length) = s.iss + 1 + .ofNat s.echoed + _
  rw [UInt32.ofNat_add, UInt32.add_assoc _ (UInt32.ofNat s.echoed)]

theorem lt_succ_iff {n : UInt32} : n < n + 1 ↔ n ≠ 0xFFFFFFFF := by
  have hlt := n.toNat_lt
  have hlast : n = 0xFFFFFFFF ↔ n.toNat = 4294967295 := UInt32.toNat_inj.symm
  have hsucc : (n + 1).toNat = (n.toNat + 1) % 4294967296 := UInt32.toNat_add n 1
  rw [UInt32.lt_iff_toNat_lt, hsucc, ne_eq, hlast]
  omega

theorem Standing.pureAck {s : EchoRun} {acked : Nat} {flags : UInt8} (h : s.Standing)
    (hopen : s.tcp.established = true) (hacked : acked ≤ s.echoed)
    (hfin : flags &&& tcpFlagFin = 0) : (s.afterSegment acked flags []).Standing := by
  have hpure : IsPureAck flags [] := ⟨rfl, hfin⟩
  have hmySeq' : (s.afterSegment acked flags []).tcp.mySeq =
      if s.tcp.mySeq < s.ackNumber acked then s.ackNumber acked else s.tcp.mySeq :=
    (TcpEcho.receive_empty _ _ flags hopen).2.1 hfin
  have hnext : (s.afterSegment acked flags []).next = s.next :=
    (next_afterSegment s acked flags []).trans (UInt32.add_zero _)
  have hconfirmed' : (s.afterSegment acked flags []).confirmed = true := by
    simp only [afterSegment, hpure, decide_true, Bool.or_true]
  have hlagged' : (s.afterSegment acked flags []).lagged =
      (s.lagged || decide (s.next < s.ackNumber acked)) := by
    simp only [afterSegment, hpure, true_and]
  cases h with
  | synced hconfirmed hiss hlagged hmySeq =>
      rw [hmySeq] at hmySeq'
      rw [hlagged, Bool.false_or] at hlagged'
      by_cases hlag : s.next < s.ackNumber acked
      · rw [if_pos hlag] at hmySeq'
        exact .ahead (hlagged'.trans (decide_eq_true hlag)) (by rwa [hnext, hmySeq'])
      · rw [if_neg hlag] at hmySeq'
        exact .synced hconfirmed' hiss (hlagged'.trans (decide_eq_false hlag))
          (hmySeq'.trans hnext.symm)
  | handshake hwaits hlagged hechoed hmySeq =>
      -- Nothing has been echoed yet, so only the `SYN` is acknowledged.
      have hnone : acked = 0 := Nat.le_zero.mp (hechoed ▸ hacked)
      have hack : s.ackNumber acked = s.iss + 1 := by
        rw [ackNumber, hnone]
        exact UInt32.add_zero _
      rw [hlagged, Bool.false_or, next_of_echoed hechoed, hack,
        decide_eq_false (UInt32.lt_irrefl _)] at hlagged'
      rw [hmySeq, hack] at hmySeq'
      by_cases hiss : s.iss = 0xFFFFFFFF
      · rw [if_neg (mt lt_succ_iff.mp (not_not.mpr hiss))] at hmySeq'
        exact .handshake (.inr hiss) hlagged' hechoed hmySeq'
      · rw [if_pos (lt_succ_iff.mpr hiss)] at hmySeq'
        refine .synced hconfirmed' hiss hlagged' ?_
        rw [hmySeq', hnext, next_of_echoed hechoed]
  | ahead hlagged hmySeq =>
      refine .ahead (hlagged'.trans (by rw [hlagged, Bool.true_or])) ?_
      rw [hnext, hmySeq']
      split
      next hack => exact UInt32.lt_trans hmySeq hack
      next => exact hmySeq

/-- Data that have been echoed under the right number leave the next one right. -/
theorem Standing.data {s : EchoRun} {acked : Nat} {flags : UInt8} {payload : List UInt8}
    (h : s.Standing) (hopen : s.tcp.established = true) (hdata : payload ≠ [])
    (hright : s.tcp.mySeq = s.next) : (s.afterSegment acked flags payload).Standing := by
  obtain ⟨hconfirmed, hiss, hlagged⟩ := h.mySeq_eq_next_iff.mp hright
  have himpure : ¬IsPureAck flags payload := fun h => hdata h.1
  refine .synced ?_ hiss ?_ ?_
  · simp only [afterSegment, hconfirmed, Bool.true_or]
  · simp only [afterSegment, hlagged, himpure, false_and, decide_false, Bool.or_false]
  · rw [next_afterSegment, ← hright]
    exact (TcpEcho.receive_data _ _ flags hopen hdata).2.1

theorem rightlyNumbered_data {s : EchoRun} (acked : Nat) (flags : UInt8) {payload : List UInt8}
    (hopen : s.tcp.established = true) (hdata : payload ≠ []) :
    (s.afterSegment acked flags payload).RightlyNumbered ↔
      s.RightlyNumbered ∧ s.tcp.mySeq = s.next := by
  have hechoes := (TcpEcho.receive_data s.peerNext (s.ackNumber acked) flags hopen hdata).1
  simp only [RightlyNumbered, afterSegment, hechoes, List.map_singleton, List.forall_mem_append,
    List.forall_mem_singleton, SentEcho.RightlyNumbered, and_true]
  rfl

theorem rightlyNumbered_empty {s : EchoRun} (acked : Nat) (flags : UInt8)
    (hopen : s.tcp.established = true) :
    (s.afterSegment acked flags []).RightlyNumbered ↔ s.RightlyNumbered := by
  have hechoes := (TcpEcho.receive_empty s.peerNext (s.ackNumber acked) flags hopen).1
  simp only [RightlyNumbered, afterSegment, hechoes, List.map_nil, List.append_nil]

/-- A step goes on with right echoes just when it is in step. -/
theorem Kept.step {s t : EchoRun} {event : PeerEvent} (h : s.Kept)
    (hstep : s.step event = some t) :
    t.Kept ∧ (t.RightlyNumbered ↔ s.RightlyNumbered ∧ s.InStep event) := by
  cases event with
  | connect seq flags =>
      simp only [EchoRun.step] at hstep
      split at hstep
      next henabled =>
        rw [TcpEcho.receive_syn _ _ henabled.1 henabled.2] at hstep
        obtain rfl := Option.some.inj hstep
        exact ⟨fun _ _ => .handshake (.inl rfl) rfl rfl rfl, (and_iff_left trivial).symm⟩
      next => exact nomatch hstep
  | segment acked flags payload =>
      obtain ⟨hopen, hacked, rfl⟩ := step_segment hstep
      by_cases hdata : payload = []
      · subst hdata
        have hechoes := rightlyNumbered_empty acked flags hopen
        refine ⟨fun hright hopen' => ?_, hechoes.trans (and_iff_left fun h => absurd rfl h).symm⟩
        have hfin := (TcpEcho.receive_empty s.peerNext (s.ackNumber acked) flags hopen).2.2.mp
          hopen'
        exact (h (hechoes.mp hright) hopen).pureAck hopen hacked hfin
      · have hechoes := rightlyNumbered_data acked flags hopen hdata
        refine ⟨fun hright _ => ?_, hechoes.trans (and_congr_right fun hright => ?_)⟩
        · obtain ⟨hbefore, hnext⟩ := hechoes.mp hright
          exact (h hbefore hopen).data hopen hdata hnext
        · rw [(h hright hopen).mySeq_eq_next_iff]
          exact (imp_iff_right hdata).symm
  | late seq ack flags payload =>
      simp only [EchoRun.step] at hstep
      split at hstep
      next henabled =>
        rw [TcpEcho.receive_closed _ _ henabled.1 henabled.2] at hstep
        obtain rfl := Option.some.inj hstep
        exact ⟨h, (and_iff_left trivial).symm⟩
      next => exact nomatch hstep

/-- From any number that the service begins with, all echoes of a run carry the right numbers if and
only if all data come in step. -/
theorem rightlyNumbered_iff {s t : EchoRun} {events : List PeerEvent} (hinit : system.initial s)
    (hrun : system.run s events = some t) :
    t.RightlyNumbered ↔ system.Meets InStep s events := by
  have hstart : s.RightlyNumbered := by
    rw [RightlyNumbered, hinit.2]
    exact List.forall_mem_nil _
  have hinvariant := System.run_invariant (T := system) (s := s)
    (I := fun events t => system.run s events = some t ∧ t.Kept ∧
      (t.RightlyNumbered ↔ system.Meets InStep s events)) ?_ ?_ hrun
  · exact hinvariant.2.2
  · refine ⟨rfl, fun _ hopen => ?_, iff_of_true hstart System.meets_nil⟩
    exact absurd (hinit.1.symm.trans hopen) Bool.false_ne_true
  · rintro events u event v ⟨hu, hkept, hright⟩ hstep
    obtain ⟨hkept', hright'⟩ := hkept.step hstep
    refine ⟨System.run_concat.mpr ⟨u, hu, hstep⟩, hkept', ?_⟩
    rw [hright', hright, System.meets_concat hu]

/-- A service that has held no connection yet, with the number that the program gives it. -/
def fresh : EchoRun := ⟨{}, 0, 0, 0, 0, false, false, []⟩

theorem rightlyNumbered_iff_confirmed :
    EchoRun.RightlyNumbered ⟨⟨true, 0x10000002, 9⟩, 0x10000000, 9, 1, 0, true, false,
        [⟨⟨tcpFlagPsh ||| tcpFlagAck, 0x10000001, 9, [1]⟩, 0x10000000, 0, 9⟩]⟩ ↔
      system.Meets InStep fresh [.connect 7 tcpFlagSyn, .segment 0 tcpFlagAck [],
        .segment 0 (tcpFlagPsh ||| tcpFlagAck) [1]] :=
  rightlyNumbered_iff ⟨rfl, rfl⟩ (by decide)

/-- The last segment of the handshake brings data, which go back under the number of the answer to
the `SYN`. -/
theorem not_rightlyNumbered : ¬∀ (s t : EchoRun) (events : List PeerEvent), system.initial s →
    system.run s events = some t → t.RightlyNumbered := by
  intro h
  exact absurd (h fresh ⟨⟨true, 0x10000001, 9⟩, 0x10000000, 9, 1, 0, false, false,
      [⟨⟨tcpFlagPsh ||| tcpFlagAck, 0x10000000, 9, [1]⟩, 0x10000000, 0, 9⟩]⟩
    [.connect 7 tcpFlagSyn, .segment 0 (tcpFlagPsh ||| tcpFlagAck) [1]] ⟨rfl, rfl⟩ (by decide))
    fun hright => absurd (hright _ List.mem_cons_self) (by decide)

end EchoRun

end Usbipdcpp.VirtualDevice
