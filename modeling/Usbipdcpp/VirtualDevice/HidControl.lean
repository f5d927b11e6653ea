import Usbipdcpp.VirtualDevice.ControlUrb

namespace Usbipdcpp.VirtualDevice

open Protocol

namespace HIDRequest

def getReport : UInt8 := 0x01
def getIdle : UInt8 := 0x02
def getProtocol : UInt8 := 0x03
def setReport : UInt8 := 0x09
def setIdle : UInt8 := 0x0A
def setProtocol : UInt8 := 0x0B

end HIDRequest

/-- The callbacks of an HID handler for class requests without data for the host. -/
inductive HidOutRequest where
  | setIdle (speed : UInt8)
  | setProtocol (type : UInt16)
  | setReport (type reportId : UInt8) (length : UInt16) (data : List UInt8)
  deriving DecidableEq, Repr

/-- The callbacks of an HID handler for class requests with data for the host. -/
inductive HidInRequest where
  | getIdle (type reportId : UInt8) (length : UInt16)
  | getProtocol
  | getReport (type reportId : UInt8) (length : UInt16)
  deriving DecidableEq, Repr

namespace HidInRequest

def Result : HidInRequest → Type
  | .getIdle .. | .getReport .. => List UInt8
  | .getProtocol => UInt8

/-- A report and an idle rate are cut to the length asked for. -/
def resultBytes (length : UInt16) : (request : HidInRequest) → request.Result → List UInt8
  | .getIdle .., result | .getReport .., result => List.take length.toNat result
  | .getProtocol, result => u8ToBytes result

end HidInRequest

/-- The status that each callback of an HID handler leaves, with what it returns. -/
structure HidCallbacks where
  out : HidOutRequest → UInt32
  in_ : (request : HidInRequest) → UInt32 × request.Result

/-- The callbacks of an HID handler that does not override them, by its subclass. -/
def HidCallbacks.default (interfaceSubclass : UInt8) : HidCallbacks where
  out
    | .setIdle _ | .setReport .. => UrbStatusType.statusOK
    | .setProtocol type =>
        if interfaceSubclass = 0x01 ∧ type ≤ 1 then UrbStatusType.statusOK
        else UrbStatusType.statusEPIPE
  in_
    | .getIdle .. => (UrbStatusType.statusOK, ([0x00] : List UInt8))
    | .getProtocol => (UrbStatusType.statusOK, (0 : UInt8))
    | .getReport _ _ length => (UrbStatusType.statusOK, List.replicate length.toNat (0 : UInt8))

variable {Handler : Type}

namespace ControlUrb

variable (hid : HidCallbacks) (urb : ControlUrb Handler)

/-- The request type in `bmRequestType` is the class one. -/
def IsClass : Prop := urb.setup.calcRequestType = 0x20

instance : Decidable (IsClass urb) := inferInstanceAs (Decidable (_ = _))

def hidOutRequest : Option HidOutRequest :=
  let setup := urb.setup
  if setup.request = HIDRequest.setIdle then some (.setIdle (setup.value >>> 8).toUInt8)
  else if setup.request = HIDRequest.setProtocol then some (.setProtocol setup.value)
  else if setup.request = HIDRequest.setReport then
    some (.setReport (setup.value >>> 8).toUInt8 setup.value.toUInt8 setup.length
      (urb.trx.data.take urb.transferBufferLength.toNat))
  else none

def hidInRequest : Option HidInRequest :=
  let setup := urb.setup
  if setup.request = HIDRequest.getIdle then
    some (.getIdle (setup.value >>> 8).toUInt8 setup.value.toUInt8 setup.length)
  else if setup.request = HIDRequest.getProtocol then some .getProtocol
  else if setup.request = HIDRequest.getReport then
    some (.getReport (setup.value >>> 8).toUInt8 setup.value.toUInt8 setup.length)
  else none

def hidOutStatus (request : Option HidOutRequest) : UInt32 :=
  request.elim UrbStatusType.statusEPIPE hid.out

/-- The status and the data that a request for data has come to. -/
def hidIn (request : Option HidInRequest) : UInt32 × List UInt8 :=
  match request with
  | some request =>
      let (status, result) := hid.in_ request
      (status, request.resultBytes urb.setup.length result)
  | none => (UrbStatusType.statusEPIPE, [])

/-- What an HID handler does with requests of other types, where it does not do otherwise. -/
def handleNonHidRequestTypeControlUrb : UsbIpRetSubmit Handler :=
  .createRetSubmitEpipeWithoutData urb.seqnum 0

/-- `HidVirtualInterfaceHandler::handle_non_standard_request_type_control_urb`.  A request for data
is always answered with success. -/
def handleHidControlUrb : UsbIpRetSubmit Handler :=
  if IsClass urb then
    if urb.setup.isOut then
      .createRetSubmitWithStatusAndNoData urb.seqnum (hidOutStatus hid (hidOutRequest urb)) 0
    else
      let (_status, result) := hidIn hid urb (hidInRequest urb)
      let trx :=
        { urb.trx with data := result, actualLength := result.length, dataOffset := 0 }
      .createRetSubmitOkWithNoIso urb.seqnum (.ofNat trx.actualLength) (.generic urb.owner trx)
  else handleNonHidRequestTypeControlUrb urb

/-- What an interface handler does with requests to one of its endpoints, where it does not do
otherwise. -/
def handleNonStandardRequestTypeControlUrbToEndpoint : UsbIpRetSubmit Handler :=
  .createRetSubmitEpipeWithoutData urb.seqnum 0

end ControlUrb

/-- The HID handlers do what is handed over to them. -/
def ControlAction.serveHid (hid : Handler → Option HidCallbacks) (urb : ControlUrb Handler) :
    ControlAction Handler → ControlAction Handler
  | .hook (.interface handler) transfer =>
      (hid handler).elim (.hook (.interface handler) transfer) fun callbacks =>
        .submitRetSubmit (urb.handleHidControlUrb callbacks)
  | .hook (.endpoint handler) transfer =>
      (hid handler).elim (.hook (.endpoint handler) transfer) fun _ =>
        .submitRetSubmit urb.handleNonStandardRequestTypeControlUrbToEndpoint
  | .hook .device transfer => .hook .device transfer
  | .submitRetSubmit ret => .submitRetSubmit ret

namespace ControlUrb

/-- A control URB on a device some of whose handlers are HID ones. -/
def handleControlUrbWithHid (callbacks : Callbacks Handler) (hid : Handler → Option HidCallbacks)
    (device : UsbDevice Handler) (urb : ControlUrb Handler) : ControlOutcome Handler :=
  let outcome := handleControlUrb callbacks device urb
  { outcome with actions := outcome.actions.map (ControlAction.serveHid hid urb) }

section Propagation

variable (callbacks : Callbacks Handler) (hid : Handler → Option HidCallbacks)
  (device : UsbDevice Handler) (urb : ControlUrb Handler)

/-- The handler that a request to an interface or to an endpoint reaches. -/
def servingHandler : Option Handler :=
  match RequestRecipient.ofSetup urb.setup with
  | .interface =>
      let place :=
        if IsStandard urb then urb.setup.index.toNat else urb.setup.index.toNat &&& 0xFF
      device.interfaces[place]?.bind fun intf => intf.handler
  | .endpoint =>
      (device.findEp urb.setup.index.toUInt8).bind fun found =>
        found.2.bind fun intf => intf.handler
  | .device | .other | .unknown => none

/-- A call of a callback, or of none where the request code is unknown. -/
inductive Passed (Handler : Type) where
  | out (request : Option (OutRequest Handler))
  | in_ (request : Option (InRequest Handler))
  | hidOut (hid : HidCallbacks) (request : Option HidOutRequest)
  | hidIn (hid : HidCallbacks) (request : Option HidInRequest)

/-- Where a control request is passed to; an HID handler passes class requests to its interface
only. -/
def passed : Option (Passed Handler) :=
  let isOut := urb.setup.isOut
  if IsStandard urb then
    match RequestRecipient.ofSetup urb.setup with
    | .device =>
        some (if isOut then .out (deviceOutRequest urb) else .in_ (deviceInRequest urb))
    | .interface =>
        (servingHandler device urb).map fun handler =>
          if isOut then .out (interfaceOutRequest urb handler)
          else .in_ (interfaceInRequest urb handler)
    | .endpoint =>
        (servingHandler device urb).map fun handler =>
          if isOut then .out (endpointOutRequest urb handler)
          else .in_ (endpointInRequest urb handler)
    | .other | .unknown => none
  else if IsClass urb ∧ RequestRecipient.ofSetup urb.setup = .interface then
    ((servingHandler device urb).bind hid).map fun callbacks =>
      if isOut then .hidOut callbacks (hidOutRequest urb) else .hidIn callbacks (hidInRequest urb)
  else none

/-- The status that a callback leaves; an unknown request code is a stall. -/
def Passed.status : Passed Handler → UInt32
  | .out request => request.elim UrbStatusType.statusEPIPE callbacks.out
  | .in_ request => request.elim UrbStatusType.statusEPIPE fun request => (callbacks.in_ request).1
  | .hidOut hid request => request.elim UrbStatusType.statusEPIPE hid.out
  | .hidIn hid request => request.elim UrbStatusType.statusEPIPE fun request => (hid.in_ request).1

def Carries (status : UInt32) (outcome : ControlOutcome Handler) : Prop :=
  ∃ ret, outcome.actions = [.submitRetSubmit ret] ∧ ret.status = status

/-- The reply to a request that a callback is for has the status that the callback leaves. -/
def StatusPropagates : Prop :=
  ∀ call, passed hid device urb = some call →
    Carries (call.status callbacks) (handleControlUrbWithHid callbacks hid device urb)

end Propagation

section Status

variable {callbacks : Callbacks Handler} {hid : Handler → Option HidCallbacks}
  {device : UsbDevice Handler} {urb : ControlUrb Handler} {handler : Handler}

theorem Carries.unique {status status' : UInt32} {outcome : ControlOutcome Handler}
    (h : Carries status outcome) (h' : Carries status' outcome) : status = status' := by
  obtain ⟨ret, hactions, rfl⟩ := h
  obtain ⟨ret', hactions', rfl⟩ := h'
  have heq := hactions.symm.trans hactions'
  obtain rfl : ret = ret' := by simpa using heq
  rfl

/-- A reply passes by the HID handlers. -/
theorem carries_of_actions {ret : UsbIpRetSubmit Handler}
    (h : (handleControlUrb callbacks device urb).actions = [.submitRetSubmit ret]) :
    Carries ret.status (handleControlUrbWithHid callbacks hid device urb) := by
  refine ⟨ret, ?_, rfl⟩
  rw [handleControlUrbWithHid, h]
  rfl

theorem status_in (callbacks : Callbacks Handler) (device : UsbDevice Handler)
    (urb : ControlUrb Handler) (request : Option (InRequest Handler)) :
    ∃ ret, (replyIn callbacks device urb request).actions = [.submitRetSubmit ret] ∧
      ret.status = (Passed.in_ request).status callbacks := by
  cases request with
  | none => exact ⟨_, rfl, rfl⟩
  | some request => exact ⟨_, rfl, rfl⟩

/-- The handler that serves a standard request to an interface is asked. -/
theorem handleInterfaceRequest_of_served (callbacks : Callbacks Handler)
    (hrecipient : RequestRecipient.ofSetup urb.setup = .interface) (hstandard : IsStandard urb)
    (h : servingHandler device urb = some handler) :
    ∃ device', handleInterfaceRequest callbacks device urb =
      if urb.setup.isOut then replyOut callbacks device' urb (interfaceOutRequest urb handler)
      else replyIn callbacks device urb (interfaceInRequest urb handler) := by
  simp only [servingHandler, hrecipient, hstandard, if_true] at h
  obtain ⟨intf, hintf, hhandler⟩ := Option.bind_eq_some_iff.mp h
  refine ⟨selectAltsetting callbacks device urb intf (interfaceOutRequest urb handler), ?_⟩
  rw [handleInterfaceRequest, hintf]
  dsimp only
  rw [hhandler]

theorem handleEndpointRequest_of_served (callbacks : Callbacks Handler)
    (hrecipient : RequestRecipient.ofSetup urb.setup = .endpoint)
    (h : servingHandler device urb = some handler) :
    handleEndpointRequest callbacks device urb =
      if urb.setup.isOut then replyOut callbacks device urb (endpointOutRequest urb handler)
      else replyIn callbacks device urb (endpointInRequest urb handler) := by
  simp only [servingHandler, hrecipient] at h
  obtain ⟨⟨endpoint, intf⟩, hfound, hintf⟩ := Option.bind_eq_some_iff.mp h
  obtain ⟨intf, rfl, hhandler⟩ := Option.bind_eq_some_iff.mp hintf
  rw [handleEndpointRequest, hfound]
  dsimp only
  rw [hhandler]

/-- Any other request to an interface is handed over to the handler that serves it. -/
theorem handleNonStandardRequest_of_served
    (hrecipient : RequestRecipient.ofSetup urb.setup = .interface) (hstandard : ¬IsStandard urb)
    (h : servingHandler device urb = some handler) :
    (handleNonStandardRequest device urb).actions =
      [.hook (.interface handler) (.generic urb.owner urb.trx)] := by
  simp only [servingHandler, hrecipient, hstandard, if_false] at h
  obtain ⟨intf, hintf, hhandler⟩ := Option.bind_eq_some_iff.mp h
  simp only [handleNonStandardRequest, hrecipient, hintf, hhandler]
  rfl

/-- The status of a reply: that of an HID handler to a request for data tells of success. -/
def Passed.answeredStatus (callbacks : Callbacks Handler) : Passed Handler → UInt32
  | .hidIn _ _ => UrbStatusType.statusOK
  | call => call.status callbacks

/-- A standard request that is answered by way of a callback carries its status. -/
theorem carries_of_standard {d d' : UsbDevice Handler} {out : Option (OutRequest Handler)}
    {in_ : Option (InRequest Handler)}
    (h : handleControlUrb callbacks device urb =
      if urb.setup.isOut then replyOut callbacks d urb out
      else replyIn callbacks d' urb in_) :
    Carries ((if urb.setup.isOut then .out out else .in_ in_ : Passed Handler).answeredStatus
      callbacks) (handleControlUrbWithHid callbacks hid device urb) := by
  split
  next hout =>
    rw [if_pos hout] at h
    exact carries_of_actions (by rw [h]; rfl)
  next hin =>
    rw [if_neg hin] at h
    obtain ⟨ret, hactions, hstatus⟩ := status_in callbacks d' urb in_
    have hcarries : Carries ret.status (handleControlUrbWithHid callbacks hid device urb) :=
      carries_of_actions (by rw [h, hactions])
    rw [hstatus] at hcarries
    exact hcarries

theorem carries_answeredStatus_of_standard {call : Passed Handler} (hstandard : IsStandard urb)
    (h : passed hid device urb = some call) :
    Carries (call.answeredStatus callbacks)
      (handleControlUrbWithHid callbacks hid device urb) := by
  have houtcome : handleControlUrb callbacks device urb =
      handleStandardRequest callbacks device urb := if_pos hstandard
  simp only [passed, hstandard, if_true] at h
  cases hrecipient : RequestRecipient.ofSetup urb.setup with
  | device =>
      rw [hrecipient] at h
      obtain rfl := Option.some.inj h
      rw [handleStandardRequest, hrecipient] at houtcome
      exact carries_of_standard houtcome
  | interface =>
      rw [hrecipient] at h
      obtain ⟨handler, hserved, rfl⟩ := Option.map_eq_some_iff.mp h
      obtain ⟨device', hreply⟩ :=
        handleInterfaceRequest_of_served callbacks hrecipient hstandard hserved
      rw [handleStandardRequest, hrecipient] at houtcome
      exact carries_of_standard (houtcome.trans hreply)
  | endpoint =>
      rw [hrecipient] at h
      obtain ⟨handler, hserved, rfl⟩ := Option.map_eq_some_iff.mp h
      have hreply := handleEndpointRequest_of_served callbacks hrecipient hserved
      rw [handleStandardRequest, hrecipient] at houtcome
      exact carries_of_standard (houtcome.trans hreply)
  | other | unknown => rw [hrecipient] at h; cases h

theorem carries_answeredStatus_of_class {call : Passed Handler} (hstandard : ¬IsStandard urb)
    (hclass : IsClass urb) (hrecipient : RequestRecipient.ofSetup urb.setup = .interface)
    (h : passed hid device urb = some call) :
    Carries (call.answeredStatus callbacks)
      (handleControlUrbWithHid callbacks hid device urb) := by
  simp only [passed, hstandard, hclass, hrecipient, and_self, if_true, if_false] at h
  obtain ⟨hidCallbacks, hbind, rfl⟩ := Option.map_eq_some_iff.mp h
  obtain ⟨handler, hserved, hhid⟩ := Option.bind_eq_some_iff.mp hbind
  refine ⟨handleHidControlUrb hidCallbacks urb, ?_, ?_⟩
  · rw [handleControlUrbWithHid, handleControlUrb, if_neg hstandard,
      handleNonStandardRequest_of_served hrecipient hstandard hserved]
    simp only [List.map_cons, List.map_nil, ControlAction.serveHid, hhid, Option.elim_some]
  · rw [handleHidControlUrb, if_pos hclass]
    split
    next => rfl
    next => rfl

theorem carries_answeredStatus (callbacks : Callbacks Handler) {call : Passed Handler}
    (h : passed hid device urb = some call) :
    Carries (call.answeredStatus callbacks)
      (handleControlUrbWithHid callbacks hid device urb) := by
  by_cases hstandard : IsStandard urb
  · exact carries_answeredStatus_of_standard hstandard h
  · by_cases hclass : IsClass urb ∧ RequestRecipient.ofSetup urb.setup = .interface
    · exact carries_answeredStatus_of_class hstandard hclass.1 hclass.2 h
    · simp only [passed, hstandard, hclass, if_false] at h
      cases h

/-- The status propagates if and only if a class request for data, where it is an HID handler's,
has a known request code and a callback that leaves success. -/
theorem status_propagation (callbacks : Callbacks Handler) (hid : Handler → Option HidCallbacks)
    (device : UsbDevice Handler) (urb : ControlUrb Handler) :
    StatusPropagates callbacks hid device urb ↔
      ∀ hidCallbacks request, passed hid device urb = some (.hidIn hidCallbacks request) →
        ∃ known, request = some known ∧
          (hidCallbacks.in_ known).1 = UrbStatusType.statusOK := by
  constructor
  · intro h hidCallbacks request hpassed
    have hstatus : (Passed.hidIn hidCallbacks request).status callbacks =
        UrbStatusType.statusOK :=
      (h _ hpassed).unique (carries_answeredStatus callbacks hpassed)
    cases request with
    | none =>
        have hne : UrbStatusType.statusEPIPE ≠ UrbStatusType.statusOK := by decide
        exact absurd hstatus hne
    | some known => exact ⟨known, rfl, hstatus⟩
  · intro h call hpassed
    have hcarries := carries_answeredStatus callbacks hpassed
    cases call with
    | out request => exact hcarries
    | in_ request => exact hcarries
    | hidOut hidCallbacks request => exact hcarries
    | hidIn hidCallbacks request =>
        obtain ⟨known, rfl, hstatus⟩ := h hidCallbacks request hpassed
        rw [Passed.answeredStatus, ← hstatus] at hcarries
        exact hcarries

/-- A class request for data with a code that HID does not have. -/
def unknownHidRequest : ControlUrb Unit where
  seqnum := 7
  transferBufferLength := 1
  setup := ⟨0xA1, 0x05, 0, 0, 1⟩
  owner := none
  trx := ⟨[0], [], 0, 0, true⟩

def keyboard : UsbDevice Unit where
  ep0In := ⟨0x80, 0⟩
  ep0Out := ⟨0x00, 0⟩
  interfaces := [⟨some (), 0, [[⟨0x81, 3⟩]]⟩]

/-- A request code that is unknown is answered with success. -/
theorem not_status_propagates :
    ¬ StatusPropagates .stalling (fun _ => some (.default 0x01)) keyboard unknownHidRequest := by
  intro h
  have hpassed : passed (fun _ => some (.default 0x01)) keyboard unknownHidRequest =
      some (.hidIn (.default 0x01) none) := rfl
  have hstatus : UrbStatusType.statusEPIPE = UrbStatusType.statusOK :=
    (h _ hpassed).unique (carries_answeredStatus .stalling hpassed)
  exact absurd hstatus (by decide)

end Status

end ControlUrb

end Usbipdcpp.VirtualDevice
