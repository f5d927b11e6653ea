import Usbipdcpp.VirtualDevice.RndisHandler

namespace Usbipdcpp.VirtualDevice.Rndis

open Foundation.ByteStream

/-- A SET message that is handled has its structure whole, and a length that its transfer
has. -/
structure SetMessage (msg : List UInt8) (set : RndisOidMsg) : Prop where
  whole : RndisOidMsg.size ≤ msg.length
  read : set = RndisOidMsg.read msg
  header : RndisMessageHeader.size ≤ set.messageLength.toNat
  within : set.messageLength.toNat ≤ msg.length
  type : set.messageType = rndisMsg .set

theorem parseRndisMessage_eq_set_iff {msg : List UInt8} {set : RndisOidMsg} :
    parseRndisMessage msg = some (.set set) ↔ SetMessage msg set := by
  unfold parseRndisMessage
  constructor
  · intro h
    split at h
    next => cases h
    next hdr hhdr =>
      obtain ⟨-, rfl⟩ := copyMsg_eq_some_iff.mp hhdr
      split at h
      next => cases h
      next hlength =>
        have hread (hset : copyMsg RndisOidMsg.size RndisOidMsg.read msg = some set)
            (htype : (RndisMessageHeader.read msg).messageType = rndisMsg .set) :
            SetMessage msg set := by
          obtain ⟨hwhole, rfl⟩ := copyMsg_eq_some_iff.mp hset
          exact ⟨hwhole, rfl, not_lt.mp (not_or.mp hlength).1, not_lt.mp (not_or.mp hlength).2,
            htype⟩
        split_ifs at h <;> simp_all
  · rintro ⟨hwhole, rfl, hheader, hwithin, htype⟩
    have hhdr : copyMsg RndisMessageHeader.size RndisMessageHeader.read msg =
        some (RndisOidMsg.read msg).toRndisMessageHeader :=
      copyMsg_eq_some_iff.mpr ⟨hheader.trans hwithin, rfl⟩
    have hset : copyMsg RndisOidMsg.size RndisOidMsg.read msg = some (RndisOidMsg.read msg) :=
      copyMsg_eq_some_iff.mpr ⟨hwhole, rfl⟩
    simp only [hhdr, hset, htype]
    rw [if_neg (by omega)]
    rfl

theorem parseRndisMessage_of_type_set {msg : List UInt8} (htype : readLe32 0 msg = rndisMsg .set)
    {command : RndisCommand} (h : parseRndisMessage msg = some command) :
    ∃ set, command = .set set := by
  have hset : (RndisMessageHeader.read msg).messageType = rndisMsg .set := htype
  have hne (t : RndisMessageType) (ht : rndisMsg .set ≠ rndisMsg t) :
      ¬ (RndisMessageHeader.read msg).messageType = rndisMsg t := fun heq => ht (hset ▸ heq)
  unfold parseRndisMessage at h
  split at h
  next => cases h
  next hdr hhdr =>
    obtain ⟨-, rfl⟩ := copyMsg_eq_some_iff.mp hhdr
    split at h
    next => cases h
    next =>
      rw [if_neg (hne .init (by decide)), if_neg (hne .halt (by decide)),
        if_neg (hne .query (by decide))] at h
      obtain ⟨set, -, rfl⟩ := Option.map_eq_some_iff.mp h
      exact ⟨set, rfl⟩

/-- Where the value of a SET begins in its message. -/
def valueStart (set : RndisOidMsg) : Nat := 8 + set.informationBufferOffset.toNat

theorem bufOff_eq_mod (set : RndisOidMsg) : bufOff set = valueStart set % 2 ^ 32 := by
  rw [bufOff, UInt32.toNat_add]
  rfl

theorem rndisSetCmplt_inj {requestId : UInt32} {status status' : RndisStatus}
    (h : rndisSetCmplt requestId status = rndisSetCmplt requestId status') : status = status' := by
  have hlast : le32Bytes (rndisStatus status) = le32Bytes (rndisStatus status') := by
    simpa [rndisSetCmplt, packed] using h
  have hvalue : rndisStatus status = rndisStatus status' := by
    rw [← readLe32_le32Bytes (rndisStatus status) [], hlast, readLe32_le32Bytes]
  revert hvalue
  cases status <;> cases status' <;> decide

namespace RndisCommunicationInterfaceHandler

variable {Handler : Type} (h : RndisCommunicationInterfaceHandler Handler)

/-- The handler takes the packet filter from the four bytes of the message that the offset
names, and answers that they are invalid where the message does not have them. -/
def TakesFilter (msg : List UInt8) (set : RndisOidMsg) : Prop :=
  let h' := h.processRndisMessage msg
  if valueStart set + 4 ≤ set.messageLength.toNat then
    h'.packetFilter = (readLe32 (valueStart set) msg).toUInt16 ∧
      h'.state = (if h'.packetFilter ≠ 0 then .dataInitialized else .initialized) ∧
      h'.responseQueue.getLast? = some (rndisSetCmplt set.requestId .success)
  else
    h'.packetFilter = h.packetFilter ∧ h'.state = h.state ∧
      h'.responseQueue.getLast? = some (rndisSetCmplt set.requestId .invalidData)

theorem processRndisMessage_eq_of_set {msg : List UInt8} {set : RndisOidMsg}
    (hset : SetMessage msg set) : h.processRndisMessage msg =
      (h.applySet msg set).1.enqueueResponse
        (rndisSetCmplt set.requestId (h.applySet msg set).2) := by
  rw [processRndisMessage, parseRndisMessage_eq_set_iff.mpr hset]
  rfl

theorem takesFilter_iff {msg : List UInt8} {set : RndisOidMsg} (hset : SetMessage msg set)
    (hoid : set.oid = Oid.genCurrentPacketFilter) :
    TakesFilter h msg set ↔ valueStart set + 4 ≤ set.messageLength.toNat ∨
      msg.length < valueStart set % 2 ^ 32 + 4 := by
  have hprocess := processRndisMessage_eq_of_set h hset
  have hlength := set.messageLength.toNat_lt
  have hwithin := hset.within
  unfold TakesFilter
  dsimp only
  rw [hprocess, getLast?_enqueueResponse, applySet, if_pos hoid, bufOff_eq_mod]
  by_cases hinside : valueStart set + 4 ≤ set.messageLength.toNat
  · have hmod : valueStart set % 2 ^ 32 = valueStart set := Nat.mod_eq_of_lt (by omega)
    rw [if_pos hinside, hmod, if_neg (by omega)]
    exact iff_of_true ⟨rfl, rfl, rfl⟩ (.inl hinside)
  · rw [if_neg hinside]
    by_cases hroom : msg.length < valueStart set % 2 ^ 32 + 4
    · rw [if_pos hroom]
      exact iff_of_true ⟨rfl, rfl, rfl⟩ (.inr hroom)
    · rw [if_neg hroom]
      refine iff_of_false ?_ (not_or.mpr ⟨hinside, hroom⟩)
      rintro ⟨-, -, hanswer⟩
      cases rndisSetCmplt_inj (Option.some.inj hanswer)

theorem processRndisMessage_keeps_of_set {msg : List UInt8}
    (htype : readLe32 0 msg = rndisMsg .set)
    (hset : ∀ set, SetMessage msg set → set.oid ≠ Oid.genCurrentPacketFilter) :
    (h.processRndisMessage msg).state = h.state ∧
      (h.processRndisMessage msg).packetFilter = h.packetFilter := by
  cases hparse : parseRndisMessage msg with
  | none =>
      rw [processRndisMessage, hparse]
      exact ⟨rfl, rfl⟩
  | some command =>
      obtain ⟨set, rfl⟩ := parseRndisMessage_of_type_set htype hparse
      have hmsg := parseRndisMessage_eq_set_iff.mp hparse
      rw [processRndisMessage_eq_of_set h hmsg, state_enqueueResponse,
        packetFilter_enqueueResponse, applySet, if_neg (hset set hmsg)]
      split <;> exact ⟨rfl, rfl⟩

end RndisCommunicationInterfaceHandler

/-- A frame lies in its own message if and only if the message ends behind it, and the filter is
taken from within a SET message if and only if its offset stays below the end, or does so when it
wraps around. -/
theorem containment {Handler : Type} :
    (∀ data : List UInt8,
      unwrapRndisPackets data = (returnedMessages data).map (PacketMessage.frame data) ∧
      ((∀ m ∈ returnedMessages data, m.Contained) ↔
        ∀ pos, MessageStart data pos → HeaderAt data pos → DataInMessage data pos)) ∧
    (∀ (h : RndisCommunicationInterfaceHandler Handler) msg set, SetMessage msg set →
      set.oid = Oid.genCurrentPacketFilter →
      (h.TakesFilter msg set ↔ valueStart set + 4 ≤ set.messageLength.toNat ∨
        msg.length < valueStart set % 2 ^ 32 + 4)) ∧
    ∀ (h : RndisCommunicationInterfaceHandler Handler) msg, readLe32 0 msg = rndisMsg .set →
      (∀ set, SetMessage msg set → set.oid ≠ Oid.genCurrentPacketFilter) →
      (h.processRndisMessage msg).state = h.state ∧
        (h.processRndisMessage msg).packetFilter = h.packetFilter := by
  refine ⟨fun data => ?_, fun h msg set hset hoid => ?_, fun h msg htype hset => ?_⟩
  · exact ⟨unwrapRndisPackets_eq_map data, contained_returnedMessages_iff data⟩
  · exact h.takesFilter_iff hset hoid
  · exact h.processRndisMessage_keeps_of_set htype hset

/-- Two messages of a header each, of which the first announces the second as its data. -/
def straddlingTransfer : List UInt8 :=
  packed [1, 24, 16, 14, 0, 0] ++ packed [1, 24, 16, 0, 0, 0]

/-- A SET of the packet filter whose offset wraps around to the start of the message. -/
def wrappingSet : List UInt8 :=
  packed [rndisMsg .set, 28, 7, Oid.genCurrentPacketFilter, 4, 0xFFFFFFFC, 0]

def newHandler : RndisCommunicationInterfaceHandler Unit := .create (.replicate 6 0) .full

theorem not_contained :
    (¬ ∀ m ∈ returnedMessages straddlingTransfer, m.Contained) ∧
      ¬ newHandler.TakesFilter wrappingSet (RndisOidMsg.read wrappingSet) := by
  have hwalk : returnedMessages straddlingTransfer = [⟨0, 24, 24, 14⟩] := by decide +kernel
  have hset : SetMessage wrappingSet (RndisOidMsg.read wrappingSet) :=
    ⟨by decide +kernel, rfl, by decide +kernel, by decide +kernel, by decide +kernel⟩
  constructor
  · rw [hwalk]
    intro hcontained
    exact absurd (hcontained _ List.mem_cons_self).2 (by decide)
  · rw [newHandler.takesFilter_iff hset (by decide +kernel)]
    decide +kernel

inductive RndisEvent (Handler : Type) where
  | control (urb : ControlUrb Handler)
  | newConnection
  | disconnection

/-- What an event means to the state machine: an INIT that is accepted, the value of a packet
filter that is, the end of a session, or nothing. -/
inductive Acceptance where
  | init
  | filter (value : UInt16)
  | ended
  | other
  deriving DecidableEq, Repr

namespace Acceptance

def nextState (state : RndisState) : Acceptance → RndisState
  | .init => .initialized
  | .filter value => if value ≠ 0 then .dataInitialized else .initialized
  | .ended => .uninitialized
  | .other => state

def nextFilter (packetFilter : UInt16) : Acceptance → UInt16
  | .filter value => value
  | .ended => 0
  | .init | .other => packetFilter

end Acceptance

def RndisCommand.acceptance (msg : List UInt8) : RndisCommand → Acceptance
  | .init _ => .init
  | .halt => .ended
  | .set oidMsg =>
      if oidMsg.oid = Oid.genCurrentPacketFilter ∧ bufOff oidMsg + 4 ≤ msg.length then
        .filter (readLe32 (bufOff oidMsg) msg).toUInt16
      else .other
  | .query _ | .reset | .keepalive _ => .other

/-- A session as the host sees it: whether an INIT has begun it, and the filter set since. -/
structure RndisSession where
  initAccepted : Bool
  filter : Option UInt16
  deriving DecidableEq, Repr

namespace RndisSession

def closed : RndisSession := ⟨false, none⟩

def next (s : RndisSession) : Acceptance → RndisSession
  | .init => ⟨true, none⟩
  | .filter value => { s with filter := some value }
  | .ended => closed
  | .other => s

/-- Data flow only in a session that an INIT has begun and in which the filter is not zero. -/
def Enabled (s : RndisSession) : Prop :=
  s.initAccepted = true ∧ ∃ value, s.filter = some value ∧ value ≠ 0

end RndisSession

section StateMachine

variable {Handler : Type}

namespace RndisEvent

def acceptance : RndisEvent Handler → Acceptance
  | .control urb =>
      match encapsulatedCommand urb with
      | none => .other
      | some msg => (parseRndisMessage msg).elim .other (RndisCommand.acceptance msg)
  | .newConnection | .disconnection => .ended

/-- The session that a history leaves. -/
def session (events : List (RndisEvent Handler)) : RndisSession :=
  events.foldl (fun s e => s.next e.acceptance) .closed

theorem session_concat (events : List (RndisEvent Handler)) (e : RndisEvent Handler) :
    session (events ++ [e]) = (session events).next e.acceptance := by
  rw [session, List.foldl_concat, session]

end RndisEvent

namespace RndisCommunicationInterfaceHandler

def step (h : RndisCommunicationInterfaceHandler Handler) :
    RndisEvent Handler → RndisCommunicationInterfaceHandler Handler
  | .control urb => (h.handleNonStandardRequestTypeControlUrb urb).2
  | .newConnection => h.onNewConnection
  | .disconnection => h.onDisconnection

def run (h : RndisCommunicationInterfaceHandler Handler) (events : List (RndisEvent Handler)) :
    RndisCommunicationInterfaceHandler Handler :=
  events.foldl step h

/-- What an event does to the state and the filter. -/
structure Steps (h h' : RndisCommunicationInterfaceHandler Handler) (a : Acceptance) : Prop where
  state : h'.state = a.nextState h.state
  packetFilter : h'.packetFilter = a.nextFilter h.packetFilter

theorem steps_other (h : RndisCommunicationInterfaceHandler Handler) : h.Steps h .other :=
  ⟨rfl, rfl⟩

theorem steps_applySet (h : RndisCommunicationInterfaceHandler Handler) (msg : List UInt8)
    (set : RndisOidMsg) :
    h.Steps (h.applySet msg set).1 (RndisCommand.acceptance msg (.set set)) := by
  by_cases hoid : set.oid = Oid.genCurrentPacketFilter
  · by_cases hroom : msg.length < bufOff set + 4
    · have hother : RndisCommand.acceptance msg (.set set) = .other :=
        if_neg fun hset => absurd hset.2 (not_le.mpr hroom)
      rw [applySet, if_pos hoid, if_pos hroom, hother]
      exact h.steps_other
    · have hfilter : RndisCommand.acceptance msg (.set set) =
          .filter (readLe32 (bufOff set) msg).toUInt16 :=
        if_pos ⟨hoid, not_lt.mp hroom⟩
      rw [applySet, if_pos hoid, if_neg hroom, hfilter]
      exact ⟨rfl, rfl⟩
  · have hother : RndisCommand.acceptance msg (.set set) = .other :=
      if_neg fun hset => hoid hset.1
    rw [applySet, if_neg hoid, hother]
    split <;> exact h.steps_other

theorem steps_execute (h : RndisCommunicationInterfaceHandler Handler) (msg : List UInt8)
    (command : RndisCommand) :
    h.Steps (h.execute msg command) (command.acceptance msg) := by
  cases command with
  | set set =>
      obtain ⟨hstate, hfilter⟩ := h.steps_applySet msg set
      exact ⟨hstate, hfilter⟩
  | init init => exact ⟨rfl, rfl⟩
  | halt => exact ⟨rfl, rfl⟩
  | query query => exact ⟨rfl, rfl⟩
  | reset => exact ⟨rfl, rfl⟩
  | keepalive ka => exact ⟨rfl, rfl⟩

theorem steps_processRndisMessage (h : RndisCommunicationInterfaceHandler Handler)
    (msg : List UInt8) :
    h.Steps (h.processRndisMessage msg)
      ((parseRndisMessage msg).elim .other (RndisCommand.acceptance msg)) := by
  unfold processRndisMessage
  cases parseRndisMessage msg with
  | none => exact h.steps_other
  | some command => exact h.steps_execute msg command

theorem steps_getEncapsulatedResponse (h : RndisCommunicationInterfaceHandler Handler)
    (urb : ControlUrb Handler) : h.Steps (h.getEncapsulatedResponse urb).2 .other := by
  unfold getEncapsulatedResponse
  split
  next => exact h.steps_other
  next => exact ⟨rfl, rfl⟩

theorem steps_step (h : RndisCommunicationInterfaceHandler Handler) (e : RndisEvent Handler) :
    h.Steps (h.step e) e.acceptance := by
  cases e with
  | newConnection => exact ⟨rfl, rfl⟩
  | disconnection => exact ⟨rfl, rfl⟩
  | control urb =>
      by_cases hsend : urb.setup.calcRequestType = requestTypeClass ∧
          urb.setup.request = CdcAcmRequest.sendEncapsulatedCommand ∧ urb.setup.isOut = true
      · have hcommand : encapsulatedCommand urb = some urb.trx.data := if_pos hsend
        rw [step, handleNonStandardRequestTypeControlUrb, if_neg (not_not_intro hsend.1),
          if_pos hsend.2, RndisEvent.acceptance, hcommand]
        exact h.steps_processRndisMessage urb.trx.data
      · have hcommand : encapsulatedCommand urb = none := if_neg hsend
        rw [step, handleNonStandardRequestTypeControlUrb, RndisEvent.acceptance, hcommand]
        split
        next => exact h.steps_other
        next hclass =>
          rw [if_neg fun h => hsend ⟨not_not.mp hclass, h⟩]
          split
          next => exact h.steps_getEncapsulatedResponse urb
          next => exact h.steps_other

theorem run_concat (h : RndisCommunicationInterfaceHandler Handler)
    (events : List (RndisEvent Handler)) (e : RndisEvent Handler) :
    h.run (events ++ [e]) = (h.run events).step e := by
  rw [run, List.foldl_concat, run]

/-- What the state of the handler says of the session that the host has had with it. -/
def Follows (h : RndisCommunicationInterfaceHandler Handler) (s : RndisSession) : Prop :=
  (h.isDataEnabled = true → s.Enabled) ∧ (h.state = .uninitialized → h.packetFilter = 0)

theorem isDataEnabled_iff {h : RndisCommunicationInterfaceHandler Handler} :
    h.isDataEnabled = true ↔ h.state = .dataInitialized := by
  rw [isDataEnabled, beq_iff_eq]

theorem Steps.isDataEnabled_iff {h h' : RndisCommunicationInterfaceHandler Handler}
    {a : Acceptance} (hsteps : h.Steps h' a) :
    h'.isDataEnabled = true ↔ (∃ value, a = .filter value ∧ value ≠ 0) ∨
      (a = .other ∧ h.isDataEnabled = true) := by
  rw [RndisCommunicationInterfaceHandler.isDataEnabled_iff,
    RndisCommunicationInterfaceHandler.isDataEnabled_iff, hsteps.state]
  cases a <;> simp [Acceptance.nextState]

/-- A step keeps to the session, unless it takes a filter that is not zero before any INIT. -/
theorem Follows.step {h : RndisCommunicationInterfaceHandler Handler} {s : RndisSession}
    (hfollows : h.Follows s) {e : RndisEvent Handler}
    (hfilter : ∀ value, e.acceptance = .filter value → value ≠ 0 → s.initAccepted = true) :
    (h.step e).Follows (s.next e.acceptance) := by
  have hsteps := h.steps_step e
  refine ⟨fun henabled => ?_, fun hstate => ?_⟩
  · rcases hsteps.isDataEnabled_iff.mp henabled with ⟨value, haccept, hvalue⟩ | ⟨haccept, hbefore⟩
    · rw [haccept]
      exact ⟨hfilter value haccept hvalue, value, rfl, hvalue⟩
    · rw [haccept]
      exact hfollows.1 hbefore
  · rw [hsteps.state] at hstate
    rw [hsteps.packetFilter]
    cases haccept : e.acceptance with
    | init => rw [haccept] at hstate; cases hstate
    | filter value =>
        rw [haccept, Acceptance.nextState] at hstate
        split at hstate <;> cases hstate
    | ended => rfl
    | other =>
        rw [haccept] at hstate
        exact hfollows.2 hstate

/-- Every filter that is not zero is set after an INIT that has been accepted since the last
HALT, connection or disconnection. -/
def FiltersAfterInit (events : List (RndisEvent Handler)) : Prop :=
  ∀ before e after value, events = before ++ e :: after → e.acceptance = .filter value →
    value ≠ 0 → (RndisEvent.session before).initAccepted = true

theorem follows_create (macAddress : List.Vector UInt8 6) (speed : UsbSpeed) :
    (create macAddress speed : RndisCommunicationInterfaceHandler Handler).Follows .closed :=
  ⟨fun henabled => (by cases henabled), fun _ => rfl⟩

theorem follows_run {h : RndisCommunicationInterfaceHandler Handler}
    (hinit : h.Follows .closed) {events : List (RndisEvent Handler)}
    (hfilters : FiltersAfterInit events) : (h.run events).Follows (RndisEvent.session events) := by
  induction events using List.reverseRecOn with
  | nil => exact hinit
  | append_singleton events e ih =>
      rw [run_concat, RndisEvent.session_concat]
      refine (ih fun before e' after value heq => ?_).step fun value => ?_
      · exact hfilters before e' (after ++ [e]) value (by rw [heq]; simp)
      · exact hfilters events e [] value rfl

end RndisCommunicationInterfaceHandler

/-- The state of a handler follows the session in every state of a run, if and only if the run
sets no filter before an INIT. -/
theorem state_machine (macAddress : List.Vector UInt8 6) (speed : UsbSpeed)
    (events : List (RndisEvent Handler)) :
    (∀ before after, events = before ++ after →
      ((RndisCommunicationInterfaceHandler.create macAddress speed).run before).Follows
        (RndisEvent.session before)) ↔
      RndisCommunicationInterfaceHandler.FiltersAfterInit events := by
  constructor
  · rintro hfollows before e after value rfl haccept hvalue
    have hsteps := ((RndisCommunicationInterfaceHandler.create macAddress speed).run
      before).steps_step e
    have henabled := hsteps.isDataEnabled_iff.mpr (.inl ⟨value, haccept, hvalue⟩)
    have hafter := hfollows (before ++ [e]) after (by simp)
    rw [RndisCommunicationInterfaceHandler.run_concat, RndisEvent.session_concat, haccept] at hafter
    exact (hafter.1 henabled).1
  · rintro hfilters before after rfl
    refine RndisCommunicationInterfaceHandler.follows_run
      (RndisCommunicationInterfaceHandler.follows_create macAddress speed) ?_
    rintro before' e after' value rfl
    exact hfilters before' e (after' ++ after) value (by simp)

/-- The default filter of a host, sent to a device that has seen no INIT. -/
def filterBeforeInit : RndisEvent Unit :=
  .control
    { seqnum := 1
      transferBufferLength := 32
      setup := ⟨0x21, CdcAcmRequest.sendEncapsulatedCommand, 0, 0, 32⟩
      owner := none
      trx := ⟨packed [rndisMsg .set, 32, 1, Oid.genCurrentPacketFilter, 4, 20, 0, 0x2D], [], 0, 0,
        false⟩ }

theorem not_follows_of_filter_before_init :
    ¬ (newHandler.run [filterBeforeInit]).Follows (RndisEvent.session [filterBeforeInit]) := by
  rintro ⟨henabled, -⟩
  have hinit := (henabled (by decide +kernel)).1
  revert hinit
  decide +kernel

end StateMachine

end Usbipdcpp.VirtualDevice.Rndis
