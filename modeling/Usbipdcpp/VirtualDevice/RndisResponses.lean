import Mathlib.Data.List.Infix
import Usbipdcpp.VirtualDevice.RndisHandler

namespace Usbipdcpp.VirtualDevice.Rndis

open Protocol

/-- What a message that is handled has to have at least. -/
def fixedPart : RndisMessageType → Option Nat
  | .init => some RndisInitMsg.size
  | .query | .set => some RndisOidMsg.size
  | .halt | .reset | .keepalive => some RndisMessageHeader.size
  | _ => none

/-- A byte string is a message of a type: it has all of the length that it announces, and is not
shorter than the fixed part. -/
structure IsMessage (type : RndisMessageType) (msg : List UInt8) : Prop where
  header : RndisMessageHeader.size ≤ (readLe32 4 msg).toNat
  within : (readLe32 4 msg).toNat ≤ msg.length
  typed : readLe32 0 msg = rndisMsg type
  whole : ∃ size, fixedPart type = some size ∧ size ≤ msg.length

/-- The structure that a type calls for, as the message has it. -/
def readCommand (msg : List UInt8) : RndisMessageType → Option RndisCommand
  | .init => some (.init (.read msg))
  | .halt => some .halt
  | .query => some (.query (.read msg))
  | .set => some (.set (.read msg))
  | .reset => some .reset
  | .keepalive => some (.keepalive (.read msg))
  | _ => none

section Parsing

variable {type : RndisMessageType} {msg : List UInt8} {command : RndisCommand}

theorem rndisMsg_injective : Function.Injective rndisMsg := by
  intro type type' heq
  revert heq
  cases type <;> cases type' <;> decide

theorem IsMessage.unique {type' : RndisMessageType} (h : IsMessage type msg)
    (h' : IsMessage type' msg) : type = type' :=
  rndisMsg_injective (h.typed.symm.trans h'.typed)

theorem map_copyMsg {T : Type} {size : Nat} {read : List UInt8 → T} (f : T → RndisCommand) :
    (copyMsg size read msg).map f = if size ≤ msg.length then some (f (read msg)) else none := by
  rw [copyMsg]
  split
  next hshort => rw [if_neg (not_le.mpr hshort), Option.map_none]
  next hwhole => rw [if_pos (not_lt.mp hwhole), Option.map_some]

theorem copyMsg_of_le {T : Type} {size : Nat} {read : List UInt8 → T} (h : size ≤ msg.length) :
    copyMsg size read msg = some (read msg) :=
  copyMsg_eq_some_iff.mpr ⟨h, rfl⟩

/-- The switch over the type, behind the checks of the header. -/
theorem parseRndisMessage_of_header (hheader : RndisMessageHeader.size ≤ (readLe32 4 msg).toNat)
    (hwithin : (readLe32 4 msg).toNat ≤ msg.length) (htype : readLe32 0 msg = rndisMsg type) :
    parseRndisMessage msg =
      (fixedPart type).bind fun size =>
        if size ≤ msg.length then readCommand msg type else none := by
  have hhdr : copyMsg RndisMessageHeader.size RndisMessageHeader.read msg =
      some (RndisMessageHeader.read msg) := copyMsg_of_le (hheader.trans hwithin)
  have hread : (RndisMessageHeader.read msg).messageType = rndisMsg type := htype
  have hlength : ¬((RndisMessageHeader.read msg).messageLength.toNat < RndisMessageHeader.size ∨
      msg.length < (RndisMessageHeader.read msg).messageLength.toNat) :=
    not_or.mpr ⟨not_lt.mpr hheader, not_lt.mpr hwithin⟩
  have hwhole : RndisMessageHeader.size ≤ msg.length := hheader.trans hwithin
  unfold parseRndisMessage
  rw [hhdr]
  dsimp only
  rw [if_neg hlength, hread]
  simp only [rndisMsg_injective.eq_iff, map_copyMsg]
  cases type <;> simp [fixedPart, readCommand, hwhole]

theorem parseRndisMessage_of_isMessage (h : IsMessage type msg) :
    parseRndisMessage msg = readCommand msg type := by
  obtain ⟨hheader, hwithin, htyped, size, hsize, hwhole⟩ := h
  rw [parseRndisMessage_of_header hheader hwithin htyped, hsize, Option.bind_some, if_pos hwhole]

theorem type_of_parseRndisMessage (h : parseRndisMessage msg = some command) :
    ∃ type, readLe32 0 msg = rndisMsg type := by
  unfold parseRndisMessage at h
  split at h
  next => cases h
  next hdr hhdr =>
    obtain ⟨-, rfl⟩ := copyMsg_eq_some_iff.mp hhdr
    by_contra hnone
    have hne (type : RndisMessageType) :
        (RndisMessageHeader.read msg).messageType ≠ rndisMsg type :=
      fun htype => hnone ⟨type, htype⟩
    simp [hne] at h

/-- A message that is not dropped is of a type that is handled, and has its fixed part. -/
theorem isMessage_of_parseRndisMessage (h : parseRndisMessage msg = some command) :
    ∃ type, IsMessage type msg := by
  obtain ⟨type, htype⟩ := type_of_parseRndisMessage h
  have hchecks : RndisMessageHeader.size ≤ (readLe32 4 msg).toNat ∧
      (readLe32 4 msg).toNat ≤ msg.length := by
    unfold parseRndisMessage at h
    split at h
    next => cases h
    next hdr hhdr =>
      obtain ⟨-, rfl⟩ := copyMsg_eq_some_iff.mp hhdr
      split at h
      next => cases h
      next hlength =>
        exact ⟨not_lt.mp (not_or.mp hlength).1, not_lt.mp (not_or.mp hlength).2⟩
  rw [parseRndisMessage_of_header hchecks.1 hchecks.2 htype] at h
  obtain ⟨size, hsize, hread⟩ := Option.bind_eq_some_iff.mp h
  split at hread
  next hwhole => exact ⟨type, hchecks.1, hchecks.2, htype, size, hsize, hwhole⟩
  next => cases hread

end Parsing

section Completions

/-- What a completion repeats of the message that it answers, and says of itself. -/
structure Completes (type : RndisMessageType) (msg completion : List UInt8) : Prop where
  typed : readLe32 0 completion = readLe32 0 msg ||| 0x80000000
  requestId : type ≠ .reset → readLe32 8 completion = readLe32 8 msg
  length : (readLe32 4 completion).toNat = completion.length

/-- A completion says how long the data are that it ends with, and where they begin. -/
structure CarriesPayload (payload completion : List UInt8) : Prop where
  length : (readLe32 16 completion).toNat = payload.length
  offset : completion.drop (8 + (readLe32 20 completion).toNat) = payload

@[simp] theorem length_packed (fields : List UInt32) :
    (packed fields).length = 4 * fields.length := by
  induction fields with
  | nil => rfl
  | cons field fields ih =>
      rw [packed, List.flatMap_cons, List.length_append, length_le32Bytes, ← packed, ih,
        List.length_cons]
      omega

/-- The fields of a message are found where they stand. -/
theorem readLe32_packed {fields : List UInt32} {i : Nat} {field : UInt32} (rest : List UInt8)
    (h : fields[i]? = some field) : readLe32 (4 * i) (packed fields ++ rest) = field := by
  induction fields generalizing i with
  | nil => cases h
  | cons first fields ih =>
      rw [packed, List.flatMap_cons, ← packed, List.append_assoc]
      cases i with
      | zero =>
          obtain rfl := Option.some.inj h
          exact readLe32_le32Bytes first _
      | succ i =>
          rw [readLe32_append_right _ (by rw [length_le32Bytes]; omega), length_le32Bytes,
            Nat.mul_succ, Nat.add_sub_cancel]
          exact ih h

variable {Handler : Type} {h : RndisCommunicationInterfaceHandler Handler} {msg : List UInt8}

theorem completes_packed {type : RndisMessageType} {fields : List UInt32} {rest : List UInt8}
    {typeField lengthField idField : UInt32} {others : List UInt32}
    (hfields : fields = typeField :: lengthField :: idField :: others)
    (htyped : typeField = readLe32 0 msg ||| 0x80000000)
    (hid : type ≠ .reset → idField = readLe32 8 msg)
    (hlength : lengthField.toNat = 4 * fields.length + rest.length) :
    Completes type msg (packed fields ++ rest) := by
  subst hfields
  refine ⟨?_, fun hreset => ?_, ?_⟩
  · exact (readLe32_packed (i := 0) rest rfl).trans htyped
  · exact (readLe32_packed (i := 2) rest rfl).trans (hid hreset)
  · rw [List.length_append, length_packed, ← hlength]
    exact congrArg UInt32.toNat (readLe32_packed (i := 1) rest rfl)

end Completions

def RndisCommand.clears : RndisCommand → Bool
  | .halt | .reset => true
  | .init _ | .query _ | .set _ | .keepalive _ => false

namespace RndisCommunicationInterfaceHandler

variable {Handler : Type} (h : RndisCommunicationInterfaceHandler Handler)

/-- The responses to a command, in the order in which they are queued. -/
def completions (msg : List UInt8) : RndisCommand → List (List UInt8)
  | .init init => [rndisInitCmplt init.requestId, makeIndicate .mediaConnect]
  | .halt => []
  | .query query =>
      let payload := h.queryOid query.oid
      [rndisQueryCmplt query.requestId (if payload.isEmpty then .notSupported else .success)
        payload]
  | .set set => [rndisSetCmplt set.requestId (h.applySet msg set).2]
  | .reset => [rndisResetCmplt]
  | .keepalive ka => [rndisKeepaliveCmplt ka.requestId]

/-- The responses that a request adds to the queue. -/
def posted (urb : ControlUrb Handler) : List (List UInt8) :=
  match encapsulatedCommand urb with
  | none => []
  | some msg => (parseRndisMessage msg).elim [] (h.completions msg)

theorem length_queryOid_le (oid : UInt32) : (h.queryOid oid).length ≤ 84 := by
  have hite (c : Prop) [Decidable c] {data others : List UInt8} (hdata : data.length ≤ 84)
      (hothers : others.length ≤ 84) : (if c then data else others).length ≤ 84 := by
    split
    · exact hdata
    · exact hothers
  have hlist : (packed supportedList).length ≤ 84 := by
    rw [length_packed]
    decide
  have hvalue (v : UInt32) : (le32Bytes v).length ≤ 84 := by
    rw [length_le32Bytes]
    decide
  have hmac : h.macAddress.toList.length ≤ 84 := by
    rw [List.Vector.toList_length]
    decide
  unfold queryOid
  repeat' apply hite
  all_goals first | exact hlist | exact hvalue _ | exact hmac | exact Nat.zero_le _

/-- A response that leaves the queue below its limit is appended to it. -/
theorem responseQueue_enqueueResponse_of_lt {response : List UInt8}
    (hbelow : (h.enqueueResponse response).responseQueue.length < rndisResponseQueueLimit) :
    (h.enqueueResponse response).responseQueue = h.responseQueue ++ [response] := by
  rw [enqueueResponse] at hbelow ⊢
  dsimp only at hbelow ⊢
  split
  next hfull =>
    rw [if_pos hfull, List.length_append, List.length_tail, List.length_singleton] at hbelow
    omega
  next => rfl

theorem responseQueue_applySet (msg : List UInt8) (set : RndisOidMsg) :
    (h.applySet msg set).1.responseQueue = h.responseQueue := by
  unfold applySet
  split_ifs <;> rfl

theorem responseQueue_execute {msg : List UInt8} {command : RndisCommand}
    (hbelow : (h.execute msg command).responseQueue.length < rndisResponseQueueLimit) :
    (h.execute msg command).responseQueue =
      (if command.clears then [] else h.responseQueue) ++ h.completions msg command := by
  cases command with
  | init init =>
      have hlast := responseQueue_enqueueResponse_of_lt _ hbelow
      have hfirst : (enqueueResponse { h with state := .initialized }
          (rndisInitCmplt init.requestId)).responseQueue.length < rndisResponseQueueLimit := by
        rw [execute, hlast, List.length_append] at hbelow
        omega
      rw [execute, hlast, responseQueue_enqueueResponse_of_lt _ hfirst, List.append_assoc]
      rfl
  | halt => rfl
  | query query => exact responseQueue_enqueueResponse_of_lt _ hbelow
  | set oidMsg =>
      have hlast := (h.applySet msg oidMsg).1.responseQueue_enqueueResponse_of_lt hbelow
      rw [responseQueue_applySet] at hlast
      exact hlast
  | reset => exact responseQueue_enqueueResponse_of_lt _ hbelow
  | keepalive ka => exact responseQueue_enqueueResponse_of_lt _ hbelow

/-- What SEND_ENCAPSULATED_COMMAND makes of a handler, with the responses that it adds.  Every
message that calls for a completion is answered with just that one, behind what is queued; INIT
has the indication of the link follow it. -/
structure Sent (msg : List UInt8) (posted : List (List UInt8))
    (h' : RndisCommunicationInterfaceHandler Handler) : Prop where
  answered : ∀ type ∈ [RndisMessageType.init, .query, .set, .reset, .keepalive],
    IsMessage type msg → ∃ completion, Completes type msg completion ∧
      posted = completion :: (if type = .init then [makeIndicate .mediaConnect] else []) ∧
      h'.responseQueue = (if type = .reset then [] else h.responseQueue) ++ posted
  payload : IsMessage .query msg →
    ∀ completion ∈ posted, CarriesPayload (h.queryOid (readLe32 12 msg)) completion
  halted : IsMessage .halt msg → posted = [] ∧ h'.responseQueue = []
  other : (∀ type, ¬IsMessage type msg) → posted = [] ∧ h' = h

theorem completes_of_isMessage {type : RndisMessageType} {msg : List UInt8}
    (hmsg : IsMessage type msg) (htype : type ∈ [RndisMessageType.init, .query, .set, .reset,
      .keepalive]) : ∃ command completion, readCommand msg type = some command ∧
        Completes type msg completion ∧ h.completions msg command =
          completion :: (if type = .init then [makeIndicate .mediaConnect] else []) ∧
        command.clears = decide (type = .reset) := by
  have htyped := hmsg.typed
  cases type with
  | init =>
      refine ⟨_, rndisInitCmplt (readLe32 8 msg), rfl, ?_, rfl, rfl⟩
      rw [← List.append_nil (rndisInitCmplt _)]
      exact completes_packed rfl (by rw [htyped]; rfl) (fun _ => rfl) rfl
  | query =>
      refine ⟨_, _, rfl, ?_, rfl, rfl⟩
      have hpayload := h.length_queryOid_le (readLe32 12 msg)
      refine completes_packed rfl (by rw [htyped]; rfl) (fun _ => rfl) ?_
      have hlength : 24 + (h.queryOid (readLe32 12 msg)).length < 2 ^ 32 := by omega
      exact UInt32.toNat_ofNat_of_lt' hlength
  | set =>
      refine ⟨_, _, rfl, ?_, rfl, rfl⟩
      rw [← List.append_nil (rndisSetCmplt _ _)]
      exact completes_packed rfl (by rw [htyped]; rfl) (fun _ => rfl) rfl
  | reset =>
      refine ⟨_, rndisResetCmplt, rfl, ?_, rfl, rfl⟩
      rw [← List.append_nil rndisResetCmplt]
      exact completes_packed rfl (by rw [htyped]; rfl) (fun hne => absurd rfl hne) rfl
  | keepalive =>
      refine ⟨_, rndisKeepaliveCmplt (readLe32 8 msg), rfl, ?_, rfl, rfl⟩
      rw [← List.append_nil (rndisKeepaliveCmplt _)]
      exact completes_packed rfl (by rw [htyped]; rfl) (fun _ => rfl) rfl
  | packet | initComplete | halt | queryComplete | setComplete | resetComplete | indicate
  | keepaliveComplete => exact absurd htype (by decide)

theorem carriesPayload_rndisQueryCmplt (requestId : UInt32) (status : RndisStatus)
    {payload : List UInt8} (hpayload : payload.length < 2 ^ 32) :
    CarriesPayload payload (rndisQueryCmplt requestId status payload) := by
  constructor
  · have hlength : readLe32 16 (rndisQueryCmplt requestId status payload) =
        .ofNat payload.length := readLe32_packed (i := 4) payload rfl
    rw [hlength]
    exact UInt32.toNat_ofNat_of_lt' hpayload
  · have hoffset : readLe32 20 (rndisQueryCmplt requestId status payload) = 16 :=
      readLe32_packed (i := 5) payload rfl
    rw [hoffset]
    exact List.drop_left' (length_packed _)

theorem sent_processRndisMessage {msg : List UInt8}
    (hbelow : (h.processRndisMessage msg).responseQueue.length < rndisResponseQueueLimit) :
    h.Sent msg ((parseRndisMessage msg).elim [] (h.completions msg))
      (h.processRndisMessage msg) := by
  have hexecute {type : RndisMessageType} {command : RndisCommand} (hmsg : IsMessage type msg)
      (hread : readCommand msg type = some command) :
      (parseRndisMessage msg).elim [] (h.completions msg) = h.completions msg command ∧
        (h.processRndisMessage msg).responseQueue =
          (if command.clears then [] else h.responseQueue) ++ h.completions msg command := by
    have hparse := (parseRndisMessage_of_isMessage hmsg).trans hread
    rw [processRndisMessage, hparse] at hbelow ⊢
    exact ⟨rfl, h.responseQueue_execute hbelow⟩
  constructor
  · intro type htype hmsg
    obtain ⟨command, completion, hread, hcompletes, hcompletions, hclears⟩ :=
      h.completes_of_isMessage hmsg htype
    obtain ⟨hposted, hqueue⟩ := hexecute hmsg hread
    rw [hposted]
    refine ⟨completion, hcompletes, hcompletions, ?_⟩
    rw [hqueue, hclears]
    simp only [decide_eq_true_eq]
  · intro hmsg completion hmem
    obtain ⟨hposted, -⟩ := hexecute hmsg rfl
    rw [hposted] at hmem
    obtain rfl := List.mem_singleton.mp hmem
    have hpayload := h.length_queryOid_le (readLe32 12 msg)
    exact carriesPayload_rndisQueryCmplt _ _ (hpayload.trans_lt (by decide))
  · intro hmsg
    obtain ⟨hposted, hqueue⟩ := hexecute hmsg rfl
    exact ⟨hposted, hqueue⟩
  · intro hnone
    cases hparse : parseRndisMessage msg with
    | none =>
        rw [processRndisMessage, hparse]
        exact ⟨rfl, rfl⟩
    | some command =>
        obtain ⟨type, hmsg⟩ := isMessage_of_parseRndisMessage hparse
        exact absurd hmsg (hnone type)

end RndisCommunicationInterfaceHandler

section Requests

variable {Handler : Type}

/-- The request asks for a response. -/
def Fetches (urb : ControlUrb Handler) : Prop :=
  urb.setup.calcRequestType = requestTypeClass ∧
    urb.setup.request = CdcAcmRequest.getEncapsulatedResponse ∧ urb.setup.isOut = false

instance (urb : ControlUrb Handler) : Decidable (Fetches urb) :=
  inferInstanceAs (Decidable (_ ∧ _ ∧ _))

/-- The request brings a message that empties the queue. -/
def Clears (urb : ControlUrb Handler) : Prop :=
  ∃ msg, encapsulatedCommand urb = some msg ∧ (IsMessage .halt msg ∨ IsMessage .reset msg)

namespace RndisCommunicationInterfaceHandler

variable (h : RndisCommunicationInterfaceHandler Handler) (urb : ControlUrb Handler)

/-- The response that a request takes from the queue, if it takes one. -/
def fetched : List (List UInt8) :=
  if Fetches urb then h.responseQueue.head?.toList else []

def next : RndisCommunicationInterfaceHandler Handler :=
  (h.handleNonStandardRequestTypeControlUrb urb).2

/-- What a request is answered with: a message with an empty reply, and a request for a response
with the oldest one, cut to the buffer of the host. -/
structure Serves : Prop where
  sent : ∀ msg, encapsulatedCommand urb = some msg →
    (h.handleNonStandardRequestTypeControlUrb urb).1 =
        .createRetSubmitWithStatusAndNoData urb.seqnum UrbStatusType.statusOK 0 ∧
      h.Sent msg (h.posted urb) (h.next urb)
  stalled : Fetches urb → h.responseQueue = [] →
    (h.handleNonStandardRequestTypeControlUrb urb).1 =
        .createRetSubmitEpipeWithoutData urb.seqnum 0 ∧
      h.next urb = h
  returned : Fetches urb → ∀ response rest, h.responseQueue = response :: rest →
    (h.handleNonStandardRequestTypeControlUrb urb).1 =
        .createRetSubmitOkWithNoIso urb.seqnum
          (.ofNat (min urb.transferBufferLength.toNat response.length))
          (.generic urb.owner
            { urb.trx with data := response.take urb.transferBufferLength.toNat }) ∧
      h.next urb = { h with responseQueue := rest }

variable {h urb}

theorem handle_of_encapsulatedCommand {msg : List UInt8}
    (hsends : encapsulatedCommand urb = some msg) :
    h.handleNonStandardRequestTypeControlUrb urb =
      (.createRetSubmitWithStatusAndNoData urb.seqnum UrbStatusType.statusOK 0,
        h.processRndisMessage msg) := by
  unfold encapsulatedCommand at hsends
  split at hsends
  next hsetup =>
    obtain rfl := Option.some.inj hsends
    rw [handleNonStandardRequestTypeControlUrb, if_neg (not_not_intro hsetup.1), if_pos hsetup.2]
  next => cases hsends

theorem not_encapsulatedCommand_of_fetches (hfetches : Fetches urb) :
    encapsulatedCommand urb = none := by
  refine if_neg fun hsends => ?_
  rw [hfetches.2.2] at hsends
  exact absurd hsends.2.2 Bool.false_ne_true

theorem handle_of_fetches (hfetches : Fetches urb) :
    h.handleNonStandardRequestTypeControlUrb urb = h.getEncapsulatedResponse urb := by
  obtain ⟨hclass, hrequest, hin⟩ := hfetches
  rw [handleNonStandardRequestTypeControlUrb, if_neg (not_not_intro hclass)]
  rw [if_neg (by rw [hin]; exact fun hout => absurd hout.2 Bool.false_ne_true),
    if_pos ⟨hrequest, hin⟩]

theorem next_of_other (hnone : encapsulatedCommand urb = none) (hfetches : ¬Fetches urb) :
    h.next urb = h := by
  rw [next, handleNonStandardRequestTypeControlUrb]
  split
  next => rfl
  next hclass =>
    have hclass := not_not.mp hclass
    split
    next hsends =>
      rw [encapsulatedCommand, if_pos ⟨hclass, hsends⟩] at hnone
      cases hnone
    next =>
      split
      next hfetch => exact absurd ⟨hclass, hfetch⟩ hfetches
      next => rfl

theorem serves_of_lt
    (hbelow : (h.next urb).responseQueue.length < rndisResponseQueueLimit) : h.Serves urb := by
  constructor
  · intro msg hsends
    have hhandle := handle_of_encapsulatedCommand (h := h) hsends
    rw [next, hhandle] at hbelow
    rw [next, hhandle, posted, hsends]
    exact ⟨rfl, h.sent_processRndisMessage hbelow⟩
  · intro hfetches hempty
    rw [next, handle_of_fetches hfetches, getEncapsulatedResponse, hempty]
    exact ⟨rfl, rfl⟩
  · intro hfetches response rest hqueue
    rw [next, handle_of_fetches hfetches, getEncapsulatedResponse, hqueue]
    dsimp only
    rw [List.length_take]
    exact ⟨rfl, rfl⟩

/-- A request that does not empty the queue adds at its end what it posts, and takes what it
fetches from its front. -/
theorem responseQueue_next (hbelow : (h.next urb).responseQueue.length < rndisResponseQueueLimit)
    (hkeeps : ¬Clears urb) :
    h.responseQueue ++ h.posted urb = h.fetched urb ++ (h.next urb).responseQueue := by
  have hserves := serves_of_lt hbelow
  cases hsends : encapsulatedCommand urb with
  | some msg =>
      have hfetched : h.fetched urb = [] := if_neg fun hfetches => by
        rw [not_encapsulatedCommand_of_fetches hfetches] at hsends
        cases hsends
      obtain ⟨-, hsent⟩ := hserves.sent msg hsends
      rw [hfetched, List.nil_append]
      by_cases hmsg : ∃ type, IsMessage type msg
      · obtain ⟨type, hmsg⟩ := hmsg
        have htype : type ≠ .halt ∧ type ≠ .reset := by
          constructor
          · rintro rfl
            exact hkeeps ⟨msg, hsends, .inl hmsg⟩
          · rintro rfl
            exact hkeeps ⟨msg, hsends, .inr hmsg⟩
        have hanswered : type ∈ [RndisMessageType.init, .query, .set, .reset, .keepalive] := by
          obtain ⟨size, hsize, -⟩ := hmsg.whole
          revert htype hsize
          cases type <;> simp [fixedPart]
        obtain ⟨completion, -, -, hqueue⟩ := hsent.answered type hanswered hmsg
        rw [hqueue, if_neg htype.2]
      · obtain ⟨hposted, hsame⟩ := hsent.other fun type hmessage => hmsg ⟨type, hmessage⟩
        rw [hposted, hsame, List.append_nil]
  | none =>
      have hposted : h.posted urb = [] := by rw [posted, hsends]
      rw [hposted, List.append_nil]
      by_cases hfetches : Fetches urb
      · rw [fetched, if_pos hfetches]
        cases hqueue : h.responseQueue with
        | nil =>
            rw [(hserves.stalled hfetches hqueue).2, hqueue]
            rfl
        | cons response rest =>
            rw [(hserves.returned hfetches response rest hqueue).2]
            rfl
      · rw [fetched, if_neg hfetches, next_of_other hsends hfetches, List.nil_append]

/-- The requests of a host one after the other. -/
def serve (h : RndisCommunicationInterfaceHandler Handler) (urbs : List (ControlUrb Handler)) :
    RndisCommunicationInterfaceHandler Handler :=
  urbs.foldl next h

/-- What the requests of a list post, each where the ones before it have left the handler. -/
def postedAll (h : RndisCommunicationInterfaceHandler Handler) :
    List (ControlUrb Handler) → List (List UInt8)
  | [] => []
  | urb :: urbs => h.posted urb ++ postedAll (h.next urb) urbs

def fetchedAll (h : RndisCommunicationInterfaceHandler Handler) :
    List (ControlUrb Handler) → List (List UInt8)
  | [] => []
  | urb :: urbs => h.fetched urb ++ fetchedAll (h.next urb) urbs

/-- Between two requests that empty the queue, what has been queued and posted is fetched in this
order, up to what is queued still. -/
theorem responseQueue_serve {urbs : List (ControlUrb Handler)}
    (hbelow : ∀ served, served <+: urbs →
      (h.serve served).responseQueue.length < rndisResponseQueueLimit)
    (hkeeps : ∀ urb ∈ urbs, ¬Clears urb) :
    h.responseQueue ++ h.postedAll urbs = h.fetchedAll urbs ++ (h.serve urbs).responseQueue := by
  induction urbs generalizing h with
  | nil =>
      rw [postedAll, fetchedAll, List.append_nil, List.nil_append]
      rfl
  | cons urb urbs ih =>
      obtain ⟨hkeep, hkeeps⟩ := List.forall_mem_cons.mp hkeeps
      have hnext : h.responseQueue ++ h.posted urb = h.fetched urb ++ (h.next urb).responseQueue :=
        responseQueue_next (hbelow [urb] (List.cons_prefix_cons.mpr ⟨rfl, List.nil_prefix⟩)) hkeep
      have hrest := ih (h := h.next urb)
        (fun served hserved =>
          hbelow (urb :: served) (List.cons_prefix_cons.mpr ⟨rfl, hserved⟩)) hkeeps
      rw [postedAll, fetchedAll, ← List.append_assoc, hnext, List.append_assoc, hrest,
        List.append_assoc]
      rfl

/-- In a connection during which the queue stays below its limit, every message is answered by
just its completion, every request for a response by the oldest one there is, and none is lost,
repeated or overtaken unless the queue is emptied. -/
theorem command_response (h : RndisCommunicationInterfaceHandler Handler)
    (urbs : List (ControlUrb Handler))
    (hbelow : ∀ served, served <+: urbs →
      (h.onNewConnection.serve served).responseQueue.length < rndisResponseQueueLimit) :
    (∀ before urb after, urbs = before ++ urb :: after →
      (h.onNewConnection.serve before).Serves urb) ∧
    ∀ before middle after, urbs = before ++ middle ++ after → (∀ urb ∈ middle, ¬Clears urb) →
      (h.onNewConnection.serve before).responseQueue ++
          (h.onNewConnection.serve before).postedAll middle =
        (h.onNewConnection.serve before).fetchedAll middle ++
          (h.onNewConnection.serve (before ++ middle)).responseQueue := by
  constructor
  · rintro before urb after rfl
    apply serves_of_lt
    have hserved := hbelow (before ++ [urb]) ⟨after, (List.append_cons before urb after).symm⟩
    rwa [serve, List.foldl_concat] at hserved
  · rintro before middle after rfl hkeeps
    have hserve (served : List (ControlUrb Handler)) :
        (h.onNewConnection.serve before).serve served =
          h.onNewConnection.serve (before ++ served) := List.foldl_append.symm
    rw [← hserve]
    refine responseQueue_serve (fun served hserved => ?_) hkeeps
    rw [hserve]
    refine hbelow (before ++ served) (List.IsPrefix.trans ?_ (List.prefix_append _ _))
    exact (List.prefix_append_right_inj before).mpr hserved

end RndisCommunicationInterfaceHandler

/-- A class request for the interface of the control messages. -/
def controlUrb (request requestType : UInt8) (data : List UInt8) : ControlUrb Unit where
  seqnum := 1
  transferBufferLength := 1558
  setup := ⟨requestType, request, 0, 0, 1558⟩
  owner := none
  trx := ⟨data, [], 0, 0, requestType ≠ 0x21⟩

/-- An INIT is answered by two responses. -/
theorem command_response_init :
    let served := [controlUrb CdcAcmRequest.sendEncapsulatedCommand 0x21
        (packed [rndisMsg .init, 24, 7, 1, 0, 1580]),
      controlUrb CdcAcmRequest.getEncapsulatedResponse 0xA1 []]
    let h : RndisCommunicationInterfaceHandler Unit := .create (.replicate 6 0) .full
    (h.onNewConnection.serve [served[0]]).Serves served[1] := by
  intro served h
  refine (h.command_response served fun before hbefore => ?_).1 [served[0]] served[1] [] rfl
  rw [← List.mem_inits] at hbefore
  revert before
  decide +kernel

end Requests

end Usbipdcpp.VirtualDevice.Rndis
