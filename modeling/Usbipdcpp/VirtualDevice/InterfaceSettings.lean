import Usbipdcpp.Foundation.TransitionSystem
import Usbipdcpp.VirtualDevice.AlternateSettings

namespace Usbipdcpp.VirtualDevice

open Foundation.TransitionSystem Protocol

namespace UsbDevice

variable (device : UsbDevice AltHandler)

/-- `VirtualDeviceHandler::request_get_interface`. -/
def requestGetInterface (intf : UInt16) : UInt32 × UInt8 :=
  match device.interfaces[intf.toNat]? with
  | none => (UrbStatusType.statusEPIPE, 0 - 1)
  | some intf =>
      match intf.handler with
      | none => (UrbStatusType.statusEPIPE, 0 - 1)
      | some handler =>
          (UrbStatusType.statusOK, handler.requestGetInterface intf.currentAltsetting)

/-- What `find_ep` finds when the interface at a place has the endpoints of `alt`. -/
def findEpAt (place : Nat) (alt : List UsbEndpoint) (ep : UInt8) :
    Option (UsbEndpoint × Option (UsbInterface AltHandler)) :=
  if ep = device.ep0In.address then some (device.ep0In, none)
  else if ep = device.ep0Out.address then some (device.ep0Out, none)
  else
    device.interfaces.zipIdx.findSome? fun (intf, i) =>
      ((if i = place then alt else intf.currentEndpoints).find? fun endpoint =>
          endpoint.address = ep).map
        fun endpoint => (endpoint, some intf)

end UsbDevice

namespace ControlUrb

/-- A request for the alternate setting, as the dispatcher recognises it. -/
def GetsInterface {Handler : Type} (urb : ControlUrb Handler) : Prop :=
  IsStandard urb ∧ RequestRecipient.ofSetup urb.setup = .interface ∧ urb.setup.isOut = false ∧
    urb.setup.request = StandardRequest.getInterface

/-- The callbacks of a device whose handlers answer for alternate settings themselves. -/
def withSettings (callbacks : Callbacks AltHandler) (device : UsbDevice AltHandler)
    (urb : ControlUrb AltHandler) : Callbacks AltHandler where
  out := (urb.withAltHandlers callbacks device).out
  in_
    | .getInterface intf => device.requestGetInterface intf
    | request => callbacks.in_ request

/-- The answer of a device to a control request. -/
def answer (callbacks : Callbacks AltHandler) (device : UsbDevice AltHandler)
    (urb : ControlUrb AltHandler) : Option (UInt32 × List UInt8) :=
  (handleControlUrb (urb.withSettings callbacks device) device urb).answer

section Answers

variable {callbacks : Callbacks AltHandler} {device : UsbDevice AltHandler}
  {urb : ControlUrb AltHandler} {intf : UsbInterface AltHandler} {handler : AltHandler}

theorem answer_of_setsInterface (h : urb.SetsInterface)
    (hintf : device.interfaces[urb.setup.index.toNat]? = some intf)
    (hhandler : intf.handler = some handler) :
    urb.answer callbacks device =
      some ((handler.requestSetInterface intf.endpoints.length urb.setup.value).1, []) := by
  obtain ⟨hstandard, hinterface, hout, hset⟩ := h
  have hrequest : interfaceOutRequest urb handler =
      some (.interfaceSetInterface handler urb.setup.value) := by
    unfold interfaceOutRequest
    dsimp only
    rw [hset]
    rfl
  have hstatus : (urb.withSettings callbacks device).out
      (.interfaceSetInterface handler urb.setup.value) =
        (handler.requestSetInterface intf.endpoints.length urb.setup.value).1 := by
    simp only [withSettings, withAltHandlers, hintf]
  rw [answer, handleControlUrb, if_pos hstandard, handleStandardRequest, hinterface]
  dsimp only
  rw [handleInterfaceRequest, hintf]
  dsimp only
  rw [hhandler]
  dsimp only
  rw [if_pos hout, hrequest, ← hstatus]
  rfl

/-- An interface that is not there, or has no handler, has no setting. -/
theorem answer_of_no_handler (hstandard : IsStandard urb)
    (hinterface : RequestRecipient.ofSetup urb.setup = .interface)
    (hnone : (device.interfaces[urb.setup.index.toNat]?.bind fun intf => intf.handler) = none) :
    urb.answer callbacks device = some (UrbStatusType.statusEPIPE, []) := by
  rw [answer, handleControlUrb, if_pos hstandard, handleStandardRequest, hinterface]
  dsimp only
  rw [handleInterfaceRequest]
  cases hintf : device.interfaces[urb.setup.index.toNat]? with
  | none => rfl
  | some intf =>
      rw [hintf, Option.bind_some] at hnone
      dsimp only
      rw [hnone]
      rfl

theorem answer_of_getsInterface (h : urb.GetsInterface)
    (hintf : device.interfaces[urb.setup.index.toNat]? = some intf)
    (hhandler : intf.handler = some handler) :
    urb.answer callbacks device =
      some (UrbStatusType.statusOK, [handler.requestGetInterface intf.currentAltsetting]) := by
  obtain ⟨hstandard, hinterface, hin, hget⟩ := h
  have hrequest : interfaceInRequest urb handler = some (.getInterface urb.setup.index) := by
    unfold interfaceInRequest
    dsimp only
    rw [hget]
    rfl
  have hresult : (urb.withSettings callbacks device).in_ (.getInterface urb.setup.index) =
      (UrbStatusType.statusOK, handler.requestGetInterface intf.currentAltsetting) := by
    change device.requestGetInterface urb.setup.index = _
    rw [UsbDevice.requestGetInterface, hintf]
    dsimp only
    rw [hhandler]
  rw [answer, handleControlUrb, if_pos hstandard, handleStandardRequest, hinterface]
  dsimp only
  rw [handleInterfaceRequest, hintf]
  dsimp only
  rw [hhandler]
  dsimp only
  rw [hin, if_neg Bool.false_ne_true, hrequest, replyIn, hresult]
  dsimp only [InRequest.resultBytes]
  rw [u8ToBytes_eq]
  rfl

end Answers

end ControlUrb

/-- A device in a connection, with the setting that the last SET_INTERFACE on each interface, by
its `wIndex`, has asked for, if it has been answered with success. -/
structure SettingsRun where
  device : UsbDevice AltHandler
  answered : UInt16 → Option UInt16

namespace SettingsRun

def step (s : SettingsRun) (e : AltEvent) : SettingsRun where
  device := s.device.altStep e
  answered :=
    match e with
    | .newConnection _ | .disconnection => fun _ => none
    | .control urb callbacks =>
        if urb.SetsInterface then
          Function.update s.answered urb.setup.index
            (if (urb.answer callbacks s.device).map Prod.fst = some UrbStatusType.statusOK then
              some urb.setup.value
            else none)
        else s.answered
    | .commit _ | .notifyStopStreaming _ => s.answered

/-- The runs that begin with a connection to a device built of any handlers. -/
def system : System SettingsRun AltEvent where
  initial s :=
    ∃ device : UsbDevice AltHandler,
      s = ⟨device.altStep (.newConnection none), fun _ => none⟩
  step s e := some (s.step e)

end SettingsRun

/-- An interface has been set to `a`: that is reported, it exists, and its endpoints are those that
are found. -/
structure SettingHolds (device : UsbDevice AltHandler) (place a : UInt16) : Prop where
  reported : ∀ (callbacks : Callbacks AltHandler) (urb : ControlUrb AltHandler),
    urb.GetsInterface → urb.setup.index = place →
      ∃ value : UInt8, value.toNat = a.toNat ∧
        urb.answer callbacks device = some (UrbStatusType.statusOK, [value])
  existing : ∃ intf alt, device.interfaces[place.toNat]? = some intf ∧
    intf.endpoints[a.toNat]? = some alt ∧ intf.currentEndpoints = alt ∧
      ∀ ep, device.findEp ep = device.findEpAt place.toNat alt ep

/-- What has been answered with success holds at every interface. -/
def SettingsRun.Consistent (s : SettingsRun) : Prop :=
  ∀ place a, s.answered place = some a → SettingHolds s.device place a

/-- A video handler streams only once it has been committed. -/
def AltHandler.Committed (h : AltHandler) : Prop :=
  h.kind = .uvcVideoStreaming → h.streaming = true → h.committed = true

/-- A setting that a handler refuses, or that it then has. -/
def AltHandler.Honours (altsettings : Nat) (a : UInt16) (h : AltHandler) : Prop :=
  match h.kind with
  | .virtualInterface => altsettings ≤ a.toNat ∨ a.toNat < 256
  | .hid | .mscBulkOnly => a = 0 ∧ 0 < altsettings
  | .uvcVideoStreaming => 1 < a.toNat ∨ (a.toNat < altsettings ∧ (a = 1 → h.committed = true))
  | .uacAudioStreaming => 1 < a.toNat ∨ a.toNat < altsettings

/-- The condition on a step: a setting is asked for that the handler honours, and a video interface
that has been set to 1 is not told to stop. -/
def SettingsRun.Honours (s : SettingsRun) : AltEvent → Prop
  | .control urb _ =>
      urb.SetsInterface → ∀ intf handler,
        s.device.interfaces[urb.setup.index.toNat]? = some intf → intf.handler = some handler →
          handler.Honours intf.endpoints.length urb.setup.value
  | .notifyStopStreaming place =>
      ∀ wIndex : UInt16, wIndex.toNat = place → s.answered wIndex = some 1 → ∀ intf handler,
        s.device.interfaces[place]? = some intf → intf.handler = some handler →
          handler.kind ≠ .uvcVideoStreaming
  | .newConnection _ | .disconnection | .commit _ => True

namespace UsbInterface

/-- What `SettingHolds` comes to at the interface itself. -/
def Holds (intf : UsbInterface AltHandler) (a : UInt16) : Prop :=
  ∃ handler, intf.handler = some handler ∧
    intf.endpoints[a.toNat]? = some intf.currentEndpoints ∧
    (handler.requestGetInterface intf.currentAltsetting).toNat = a.toNat

end UsbInterface

section Holds

variable {device : UsbDevice AltHandler} {place a : UInt16} {intf : UsbInterface AltHandler}

theorem UsbDevice.findEp_eq_findEpAt (hintf : device.interfaces[place.toNat]? = some intf)
    (ep : UInt8) : device.findEp ep = device.findEpAt place.toNat intf.currentEndpoints ep := by
  unfold UsbDevice.findEp UsbDevice.findEpAt
  split
  next => rfl
  next =>
    split
    next => rfl
    next =>
      conv_lhs => rw [← List.zipIdx_map_fst 0 device.interfaces, List.findSome?_map]
      refine UsbDevice.findSome?_congr fun ⟨found, i⟩ hmem => ?_
      have hfound : device.interfaces[i]? = some found := by
        simpa [List.mem_zipIdx_iff_getElem?] using hmem
      dsimp only [Function.comp_apply]
      split
      next hi =>
        obtain rfl : found = intf := Option.some.inj ((hi ▸ hfound).symm.trans hintf)
        rfl
      next => rfl

/-- A request for the alternate setting of an interface. -/
def getInterfaceUrb (place : UInt16) : ControlUrb AltHandler where
  seqnum := 0
  transferBufferLength := 1
  setup := ⟨0x81, StandardRequest.getInterface, 0, place, 1⟩
  owner := none
  trx := ⟨[0], [], 0, 0, true⟩

theorem getsInterface_getInterfaceUrb (place : UInt16) : (getInterfaceUrb place).GetsInterface := by
  refine ⟨?_, ?_, ?_, rfl⟩
  · change (0x81 : UInt8) &&& 0b01100000 = 0
    decide
  · have hrecipient : (getInterfaceUrb place).setup.calcRecipient = 1 := by
      change (0x81 : UInt8) &&& 0b00011111 = 1
      decide
    rw [RequestRecipient.ofSetup, hrecipient]
    decide
  · change ((0x81 : UInt8) &&& 0x80 == 0 || (1 : UInt16) == 0) = false
    decide

theorem settingHolds_iff :
    SettingHolds device place a ↔
      ∃ intf, device.interfaces[place.toNat]? = some intf ∧ intf.Holds a := by
  constructor
  · rintro ⟨hreported, intf, alt, hintf, halt, hcurrent, -⟩
    obtain ⟨value, hvalue, hanswer⟩ :=
      hreported .stalling (getInterfaceUrb place) (getsInterface_getInterfaceUrb place) rfl
    obtain ⟨hstandard, hinterface, -⟩ := getsInterface_getInterfaceUrb place
    cases hhandler : intf.handler with
    | none =>
        rw [ControlUrb.answer_of_no_handler hstandard hinterface
          ((congrArg (Option.bind · _) hintf).trans hhandler)] at hanswer
        cases hanswer
    | some handler =>
        rw [ControlUrb.answer_of_getsInterface (getsInterface_getInterfaceUrb place) hintf hhandler]
          at hanswer
        obtain rfl : handler.requestGetInterface intf.currentAltsetting = value := by
          simpa using hanswer
        exact ⟨intf, hintf, handler, hhandler, hcurrent ▸ halt, hvalue⟩
  · rintro ⟨intf, hintf, handler, hhandler, halt, hget⟩
    refine ⟨fun callbacks urb hgets hplace => ⟨_, hget, ?_⟩,
      intf, _, hintf, halt, rfl, UsbDevice.findEp_eq_findEpAt hintf⟩
    subst hplace
    exact ControlUrb.answer_of_getsInterface hgets hintf hhandler

end Holds

section Honours

theorem UsbInterface.holds_mapHandler {f : AltHandler → AltHandler}
    {intf : UsbInterface AltHandler} {a : UInt16}
    (hf : ∀ handler, intf.handler = some handler →
      (f handler).requestGetInterface intf.currentAltsetting =
        handler.requestGetInterface intf.currentAltsetting)
    (h : intf.Holds a) : (intf.mapHandler f).Holds a := by
  obtain ⟨handler, hhandler, halt, hget⟩ := h
  refine ⟨f handler, congrArg (Option.map f) hhandler, halt, ?_⟩
  change ((f handler).requestGetInterface intf.currentAltsetting).toNat = a.toNat
  rw [hf handler hhandler, hget]

variable {intf : UsbInterface AltHandler} {handler : AltHandler} {a : UInt16}

theorem UsbInterface.holds_setInterface (hhandler : intf.handler = some handler)
    (hstatus : (handler.requestSetInterface intf.endpoints.length a).1 = 0) :
    (intf.setInterface a).Holds a ↔ a.toNat < intf.endpoints.length ∧
      ((handler.requestSetInterface intf.endpoints.length a).2.requestGetInterface
        a.toUInt8).toNat = a.toNat := by
  by_cases hlt : a.toNat < intf.endpoints.length
  · have hset : intf.setInterface a =
        { intf with
          handler := some (handler.requestSetInterface intf.endpoints.length a).2
          currentAltsetting := a.toUInt8 } := by
      unfold UsbInterface.setInterface
      rw [hhandler]
      dsimp only
      rw [if_pos ⟨hstatus, hlt⟩]
    rw [hset, and_iff_right hlt]
    constructor
    · rintro ⟨handler', hhandler', -, hget⟩
      obtain rfl := Option.some.inj hhandler'
      exact hget
    · intro hget
      refine ⟨_, rfl, ?_, hget⟩
      have hsmall : a.toNat < 256 := hget ▸ UInt8.toNat_lt _
      have hcurrent : a.toUInt8.toNat = a.toNat := by
        rw [UInt16.toNat_toUInt8, Nat.mod_eq_of_lt hsmall]
      rw [UsbInterface.currentEndpoints]
      dsimp only
      rw [hcurrent, List.getElem?_eq_getElem hlt, Option.getD_some]
  · refine iff_of_false ?_ fun h => hlt h.1
    rintro ⟨-, -, halt, -⟩
    have hendpoints := (intf.sameForm_setInterface a).1
    rw [hendpoints] at halt
    exact hlt (List.getElem?_eq_some_iff.mp halt).1

theorem AltHandler.honours_iff {n : Nat} (hcommitted : handler.Committed) :
    ((handler.requestSetInterface n a).1 = 0 → a.toNat < n ∧
        ((handler.requestSetInterface n a).2.requestGetInterface a.toUInt8).toNat = a.toNat) ↔
      handler.Honours n a := by
  obtain ⟨kind, committed, streaming⟩ := handler
  have hmod : a.toUInt8.toNat = a.toNat % 256 := UInt16.toNat_toUInt8 a
  have hepipe : UrbStatusType.statusEPIPE ≠ 0 := by decide
  have hlarge (hzero : a ≠ 0) (hone : a ≠ 1) : 1 < a.toNat := by
    rw [Ne, UInt16.ext_iff, UInt16.toNat_zero] at hzero
    rw [Ne, UInt16.ext_iff, UInt16.toNat_one] at hone
    omega
  cases kind with
  | virtualInterface =>
      simp only [requestSetInterface, requestGetInterface, Honours, hmod]
      by_cases hlt : a.toNat < n
      · simp only [hlt, if_true, true_and, forall_const]
        omega
      · simp only [hlt, if_false, hepipe, false_implies, true_iff]
        omega
  | hid | mscBulkOnly =>
      simp only [requestSetInterface, requestGetInterface, Honours, forall_const,
        UInt16.ext_iff, UInt8.toNat_zero, UInt16.toNat_zero]
      omega
  | uvcVideoStreaming =>
      simp only [requestSetInterface, requestGetInterface, Honours]
      by_cases hzero : a = 0
      · subst hzero
        simp
      · by_cases hone : a = 1
        · subst hone
          cases committed with
          | true => simp
          | false =>
              have hstreaming : streaming = false := by
                cases streaming with
                | false => rfl
                | true => exact absurd (hcommitted rfl rfl) (by simp)
              simp [hstreaming]
        · simp [hzero, hone, hepipe, hlarge hzero hone]
  | uacAudioStreaming =>
      simp only [requestSetInterface, requestGetInterface, Honours]
      by_cases hzero : a = 0
      · subst hzero
        simp
      · by_cases hone : a = 1
        · subst hone
          simp
        · simp [hzero, hone, hepipe, hlarge hzero hone]

/-- A setting is refused, or the interface has it afterwards, as its handler honours it. -/
theorem UsbInterface.holds_setInterface_iff (hhandler : intf.handler = some handler)
    (hcommitted : handler.Committed) :
    ((handler.requestSetInterface intf.endpoints.length a).1 = 0 → (intf.setInterface a).Holds a) ↔
      handler.Honours intf.endpoints.length a := by
  rw [← AltHandler.honours_iff hcommitted]
  exact forall_congr' fun hstatus => UsbInterface.holds_setInterface hhandler hstatus

end Honours

section Committed

namespace AltHandler

theorem committed_onNewConnection (h : AltHandler) : h.onNewConnection.Committed := by
  obtain ⟨kind, committed, streaming⟩ := h
  intro hkind hstreaming
  cases kind with
  | uvcVideoStreaming => cases hstreaming
  | virtualInterface | hid | mscBulkOnly | uacAudioStreaming => cases hkind

theorem committed_onDisconnection (h : AltHandler) : h.onDisconnection.Committed := by
  obtain ⟨kind, committed, streaming⟩ := h
  intro hkind hstreaming
  cases kind with
  | uvcVideoStreaming => cases hstreaming
  | virtualInterface | hid | mscBulkOnly | uacAudioStreaming => cases hkind

theorem committed_commit (h : AltHandler) : h.commit.Committed := by
  obtain ⟨kind, committed, streaming⟩ := h
  intro hkind hstreaming
  cases kind with
  | uvcVideoStreaming => rfl
  | virtualInterface | hid | mscBulkOnly | uacAudioStreaming => cases hkind

theorem committed_notifyStopStreaming (h : AltHandler) : h.notifyStopStreaming.Committed := by
  obtain ⟨kind, committed, streaming⟩ := h
  intro hkind hstreaming
  cases kind with
  | uvcVideoStreaming => cases hstreaming
  | virtualInterface | hid | mscBulkOnly | uacAudioStreaming => cases hkind

theorem committed_requestSetInterface {h : AltHandler} (hh : h.Committed) (altsettings : Nat)
    (a : UInt16) :
    (h.requestSetInterface altsettings a).2.Committed := by
  obtain ⟨kind, committed, streaming⟩ := h
  intro hkind hstreaming
  cases kind with
  | uvcVideoStreaming =>
      simp only [requestSetInterface] at hkind hstreaming ⊢
      by_cases hzero : a = 0
      · simp [hzero] at hstreaming
      · by_cases hone : a = 1
        · subst hone
          cases committed with
          | true => simp
          | false => simpa using hh rfl (by simpa using hstreaming)
        · simp only [hzero, hone, if_false] at hstreaming ⊢
          exact hh rfl hstreaming
  | virtualInterface | hid | mscBulkOnly => cases hkind
  | uacAudioStreaming =>
      rw [kind_requestSetInterface] at hkind
      cases hkind

end AltHandler

namespace UsbInterface

def Committed (intf : UsbInterface AltHandler) : Prop :=
  ∀ handler, intf.handler = some handler → handler.Committed

theorem committed_mapHandler {f : AltHandler → AltHandler} (hf : ∀ h, (f h).Committed)
    (intf : UsbInterface AltHandler) : (intf.mapHandler f).Committed := by
  intro handler hhandler
  obtain ⟨h, -, rfl⟩ := Option.map_eq_some_iff.mp hhandler
  exact hf h

theorem committed_setInterface {intf : UsbInterface AltHandler} (h : intf.Committed) (a : UInt16) :
    (intf.setInterface a).Committed := by
  unfold setInterface
  split
  next => exact h
  next handler hhandler =>
    intro handler' hhandler'
    obtain rfl := Option.some.inj hhandler'
    exact AltHandler.committed_requestSetInterface (h handler hhandler) _ _

end UsbInterface

theorem AltEvent.committed_onInterface {intf : UsbInterface AltHandler} (h : intf.Committed)
    (e : AltEvent) (i : Nat) : (e.onInterface i intf).Committed := by
  have hnew := UsbInterface.committed_mapHandler AltHandler.committed_onNewConnection
  have hdisconnected := UsbInterface.committed_mapHandler AltHandler.committed_onDisconnection
  cases e with
  | newConnection failing =>
      cases failing with
      | none => exact hnew intf
      | some place =>
          rw [onInterface]
          split
          next => exact hdisconnected _
          next =>
            split
            next => exact hnew intf
            next => exact h
  | disconnection => exact hdisconnected intf
  | control urb callbacks =>
      rw [onInterface]
      split
      next => exact UsbInterface.committed_setInterface h _
      next => exact h
  | commit place =>
      rw [onInterface]
      split
      next => exact UsbInterface.committed_mapHandler AltHandler.committed_commit intf
      next => exact h
  | notifyStopStreaming place =>
      rw [onInterface]
      split
      next =>
        exact UsbInterface.committed_mapHandler AltHandler.committed_notifyStopStreaming intf
      next => exact h

end Committed

namespace SettingsRun

variable {s : SettingsRun}

def Committed (s : SettingsRun) : Prop :=
  ∀ (i : Nat) (intf : UsbInterface AltHandler), s.device.interfaces[i]? = some intf → intf.Committed

theorem committed_step (h : s.Committed) (e : AltEvent) : (s.step e).Committed := by
  intro i intf hintf
  change (s.device.altStep e).interfaces[i]? = some intf at hintf
  rw [UsbDevice.getElem?_altStep] at hintf
  obtain ⟨before, hbefore, rfl⟩ := Option.map_eq_some_iff.mp hintf
  exact e.committed_onInterface (h i before hbefore) i

theorem committed_of_initial (h : system.initial s) : s.Committed := by
  obtain ⟨device, rfl⟩ := h
  intro i intf hintf
  rw [UsbDevice.getElem?_altStep] at hintf
  obtain ⟨before, -, rfl⟩ := Option.map_eq_some_iff.mp hintf
  exact UsbInterface.committed_mapHandler AltHandler.committed_onNewConnection before

theorem consistent_iff :
    s.Consistent ↔ ∀ place a, s.answered place = some a →
      ∃ intf, s.device.interfaces[place.toNat]? = some intf ∧ intf.Holds a :=
  forall₃_congr fun _ _ _ => settingHolds_iff

/-- Where an event leaves the answers as they are, it has to leave the settings they are about. -/
theorem consistent_step_of_answered {e : AltEvent} (hs : s.Consistent)
    (hanswered : (s.step e).answered = s.answered)
    (hkeeps : ∀ place a intf, s.answered place = some a →
      s.device.interfaces[place.toNat]? = some intf → intf.Holds a →
        (e.onInterface place.toNat intf).Holds a) : (s.step e).Consistent := by
  rw [consistent_iff] at hs ⊢
  intro place a hplace
  rw [hanswered] at hplace
  obtain ⟨intf, hintf, hholds⟩ := hs place a hplace
  refine ⟨e.onInterface place.toNat intf, ?_, hkeeps place a intf hplace hintf hholds⟩
  change (s.device.altStep e).interfaces[place.toNat]? = _
  rw [UsbDevice.getElem?_altStep, hintf, Option.map_some]

theorem getElem?_step (e : AltEvent) (i : Nat) :
    (s.step e).device.interfaces[i]? =
      (s.device.interfaces[i]?).map fun intf => e.onInterface i intf :=
  s.device.getElem?_altStep e i

/-- A request to select a setting decides about its own interface only. -/
theorem consistent_control_iff {urb : ControlUrb AltHandler} {callbacks : Callbacks AltHandler}
    (hs : s.Consistent) (hsets : urb.SetsInterface) :
    (s.step (.control urb callbacks)).Consistent ↔
      ((urb.answer callbacks s.device).map Prod.fst = some UrbStatusType.statusOK →
        ∃ intf, s.device.interfaces[urb.setup.index.toNat]? = some intf ∧
          (intf.setInterface urb.setup.value).Holds urb.setup.value) := by
  have hanswered : (s.step (.control urb callbacks)).answered =
      Function.update s.answered urb.setup.index
        (if (urb.answer callbacks s.device).map Prod.fst = some UrbStatusType.statusOK then
          some urb.setup.value
        else none) := if_pos hsets
  rw [consistent_iff] at hs ⊢
  simp only [hanswered, getElem?_step]
  constructor
  · intro h hok
    obtain ⟨after, hafter, hholds⟩ := h urb.setup.index urb.setup.value (by
      rw [Function.update_self, if_pos hok])
    obtain ⟨intf, hintf, rfl⟩ := Option.map_eq_some_iff.mp hafter
    rw [AltEvent.onInterface, if_pos ⟨hsets, rfl⟩] at hholds
    exact ⟨intf, hintf, hholds⟩
  · intro h place a hplace
    by_cases hsame : place = urb.setup.index
    · subst hsame
      rw [Function.update_self] at hplace
      split at hplace
      next hok =>
        obtain rfl := Option.some.inj hplace
        obtain ⟨intf, hintf, hholds⟩ := h hok
        refine ⟨intf.setInterface urb.setup.value, ?_, hholds⟩
        rw [hintf, Option.map_some, AltEvent.onInterface, if_pos ⟨hsets, rfl⟩]
      next => cases hplace
    · rw [Function.update_of_ne hsame] at hplace
      obtain ⟨intf, hintf, hholds⟩ := hs place a hplace
      refine ⟨intf, ?_, hholds⟩
      have hother : ¬(urb.SetsInterface ∧ urb.setup.index.toNat = place.toNat) :=
        fun h => hsame (UInt16.toNat_inj.mp h.2).symm
      rw [hintf, Option.map_some, AltEvent.onInterface, if_neg hother]

theorem consistent_setInterface_iff {urb : ControlUrb AltHandler}
    {callbacks : Callbacks AltHandler} (hcommitted : s.Committed) (hs : s.Consistent)
    (hsets : urb.SetsInterface) :
    (s.step (.control urb callbacks)).Consistent ↔ s.Honours (.control urb callbacks) := by
  rw [consistent_control_iff hs hsets]
  cases hserved : s.device.interfaces[urb.setup.index.toNat]?.bind fun intf => intf.handler with
  | none =>
      rw [ControlUrb.answer_of_no_handler hsets.1 hsets.2.1 hserved]
      refine iff_of_true (fun h => absurd h (by decide)) fun _ intf handler hintf hhandler => ?_
      rw [hintf, Option.bind_some, hhandler] at hserved
      cases hserved
  | some handler =>
      obtain ⟨intf, hintf, hhandler⟩ := Option.bind_eq_some_iff.mp hserved
      have hiff := UsbInterface.holds_setInterface_iff (a := urb.setup.value) hhandler
        (hcommitted _ intf hintf handler hhandler)
      rw [ControlUrb.answer_of_setsInterface hsets hintf hhandler, Option.map_some,
        Option.some_inj]
      constructor
      · intro h _ found handler' hfound hhandler'
        obtain rfl := Option.some.inj (hfound.symm.trans hintf)
        obtain rfl := Option.some.inj (hhandler'.symm.trans hhandler)
        refine hiff.mp fun hstatus => ?_
        obtain ⟨after, hafter, hholds⟩ := h hstatus
        obtain rfl := Option.some.inj (hafter.symm.trans hintf)
        exact hholds
      · intro h hstatus
        exact ⟨intf, hintf, hiff.mpr (h hsets intf handler hintf hhandler) hstatus⟩

theorem consistent_notifyStopStreaming_iff (hs : s.Consistent) (place : Nat) :
    (s.step (.notifyStopStreaming place)).Consistent ↔ s.Honours (.notifyStopStreaming place) := by
  constructor
  · rintro h w rfl hanswered intf handler hintf hhandler hkind
    obtain ⟨after, hafter, handler', hhandler', -, hget⟩ := consistent_iff.mp h w 1 hanswered
    rw [getElem?_step, hintf, Option.map_some, AltEvent.onInterface, if_pos rfl] at hafter
    obtain rfl := Option.some.inj hafter
    rw [UsbInterface.mapHandler, hhandler] at hhandler'
    obtain rfl := Option.some.inj hhandler'
    obtain ⟨kind, committed, streaming⟩ := handler
    subst hkind
    exact absurd (show (0 : Nat) = 1 from hget) (by decide)
  · intro h
    refine consistent_step_of_answered hs rfl fun w a intf hanswered hintf hholds => ?_
    rw [AltEvent.onInterface]
    split
    next hplace =>
      refine UsbInterface.holds_mapHandler (fun handler hhandler => ?_) hholds
      obtain ⟨handler', hhandler', -, hget⟩ := hholds
      obtain rfl := Option.some.inj (hhandler'.symm.trans hhandler)
      obtain ⟨kind, committed, streaming⟩ := handler'
      cases kind with
      | uvcVideoStreaming =>
          cases streaming with
          | false => rfl
          | true =>
              have hone : a = 1 := UInt16.ext_iff.mpr hget.symm
              exact absurd rfl (h w hplace.symm (hone ▸ hanswered) intf _ (hplace ▸ hintf) hhandler)
      | virtualInterface | hid | mscBulkOnly | uacAudioStreaming => rfl
    next => exact hholds

/-- A step keeps the settings if and only if it meets the condition. -/
theorem consistent_step_iff (hcommitted : s.Committed) (hs : s.Consistent) (e : AltEvent) :
    (s.step e).Consistent ↔ s.Honours e := by
  cases e with
  | newConnection failing => exact iff_of_true (fun _ _ h => by cases h) trivial
  | disconnection => exact iff_of_true (fun _ _ h => by cases h) trivial
  | commit place =>
      refine iff_of_true (consistent_step_of_answered hs rfl fun w a intf _ _ hholds => ?_) trivial
      rw [AltEvent.onInterface]
      split
      next =>
        refine UsbInterface.holds_mapHandler (fun handler _ => ?_) hholds
        obtain ⟨kind, committed, streaming⟩ := handler
        cases kind <;> rfl
      next => exact hholds
  | notifyStopStreaming place => exact consistent_notifyStopStreaming_iff hs place
  | control urb callbacks =>
      by_cases hsets : urb.SetsInterface
      · exact consistent_setInterface_iff hcommitted hs hsets
      · refine iff_of_true (consistent_step_of_answered hs (if_neg hsets)
          fun w a intf _ _ hholds => ?_) fun h => absurd h hsets
        rw [AltEvent.onInterface, if_neg fun h => hsets h.1]
        exact hholds

/-- In every state of a run, what SET_INTERFACE has been answered with success is what
GET_INTERFACE reports and what the endpoints are found by, if and only if every step of the run
meets the condition. -/
theorem interface_settings {s t : SettingsRun} {events : List AltEvent} (hs : system.initial s)
    (hrun : system.run s events = some t) :
    (∀ before after u, events = before ++ after → system.run s before = some u → u.Consistent) ↔
      system.Meets Honours s events := by
  refine System.forall_prefix_iff_meets (I := Committed) ?_ ?_ (committed_of_initial hs) ?_ hrun
  · rintro s e t h hstep
    obtain rfl := Option.some.inj hstep
    exact committed_step h e
  · rintro s e t hcommitted hconsistent hstep
    obtain rfl := Option.some.inj hstep
    exact consistent_step_iff hcommitted hconsistent e
  · obtain ⟨device, rfl⟩ := hs
    rintro place a h
    cases h

/-- SET_INTERFACE for the first interface. -/
def setInterfaceUrb (a : UInt16) : ControlUrb AltHandler where
  seqnum := 1
  transferBufferLength := 0
  setup := ⟨0x01, StandardRequest.setInterface, a, 0, 0⟩
  owner := none
  trx := ⟨[], [], 0, 0, false⟩

def connectedTo (device : UsbDevice AltHandler) : SettingsRun :=
  ⟨device.altStep (.newConnection none), fun _ => none⟩

theorem interface_settings_microphone :
    (∀ before after u,
      [AltEvent.control (setInterfaceUrb 1) .stalling] = before ++ after →
        system.run (connectedTo .microphone) before = some u → u.Consistent) ↔
      system.Meets Honours (connectedTo .microphone)
        [.control (setInterfaceUrb 1) .stalling] :=
  interface_settings ⟨.microphone, rfl⟩ rfl

/-- A camera whose interface has an endpoint in its second alternate setting only. -/
def camera : UsbDevice AltHandler where
  ep0In := ⟨0x80, 0⟩
  ep0Out := ⟨0x00, 0⟩
  interfaces := [⟨some ⟨.uvcVideoStreaming, false, false⟩, 0, [[], [⟨0x81, 1⟩]]⟩]

/-- A setting of a camera that has not been committed is taken and then not reported. -/
theorem not_consistent_camera :
    system.initial (connectedTo camera) ∧
      ∃ t, system.run (connectedTo camera) [.control (setInterfaceUrb 1) .stalling] = some t ∧
        ¬t.Consistent := by
  have hinitial : system.initial (connectedTo camera) := ⟨camera, rfl⟩
  refine ⟨hinitial, _, rfl, fun hconsistent => ?_⟩
  have hhonours := (consistent_step_iff (committed_of_initial hinitial) (fun _ _ h => by cases h)
    (.control (setInterfaceUrb 1) .stalling)).mp hconsistent
  have hhandler : AltHandler.Honours 2 1 ⟨.uvcVideoStreaming, false, false⟩ :=
    hhonours (by decide) _ _ rfl rfl
  rcases hhandler with hlarge | ⟨-, hcommitted⟩
  · exact absurd hlarge (by decide)
  · exact absurd (hcommitted rfl) (by decide)

end SettingsRun

end Usbipdcpp.VirtualDevice
