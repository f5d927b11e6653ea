import Mathlib.Data.List.Induction
import Usbipdcpp.VirtualDevice.ControlUrb

namespace Usbipdcpp.VirtualDevice

open Protocol

/-- The classes of interface handlers, by what they do with alternate settings: the class that
the others derive from does it for all that are not named here. -/
inductive AltKind where
  | virtualInterface
  | hid
  | mscBulkOnly
  | uvcVideoStreaming
  | uacAudioStreaming
  deriving DecidableEq, Repr

/-- An interface handler with its streaming state, which only the streaming classes have. -/
structure AltHandler where
  kind : AltKind
  committed : Bool
  streaming : Bool
  deriving DecidableEq, Repr

namespace AltHandler

/-- What a handler does with a setting of an interface that has `altsettings` of them. -/
def requestSetInterface (altsettings : Nat) (alternateSetting : UInt16) (h : AltHandler) :
    UInt32 × AltHandler :=
  match h.kind with
  | .virtualInterface =>
      (if alternateSetting.toNat < altsettings then 0 else UrbStatusType.statusEPIPE, h)
  | .hid | .mscBulkOnly => (0, h)
  | .uvcVideoStreaming =>
      if alternateSetting = 0 then (0, { h with streaming := false })
      else if alternateSetting = 1 then
        (0, if h.committed then { h with streaming := true } else h)
      else (UrbStatusType.statusEPIPE, h)
  | .uacAudioStreaming =>
      if alternateSetting = 0 then (0, { h with streaming := false })
      else if alternateSetting = 1 then (0, { h with streaming := true })
      else (UrbStatusType.statusEPIPE, h)

def requestGetInterface (currentAltsetting : UInt8) (h : AltHandler) : UInt8 :=
  match h.kind with
  | .virtualInterface | .uacAudioStreaming => currentAltsetting
  | .hid | .mscBulkOnly => 0
  | .uvcVideoStreaming => if h.streaming then 1 else 0

/-- Whether data flow, which they do in the streaming classes only. -/
def isStreaming (h : AltHandler) : Bool :=
  match h.kind with
  | .virtualInterface | .hid | .mscBulkOnly => false
  | .uvcVideoStreaming | .uacAudioStreaming => h.streaming

def onNewConnection (h : AltHandler) : AltHandler :=
  match h.kind with
  | .virtualInterface | .hid | .mscBulkOnly => h
  | .uvcVideoStreaming => { h with committed := false, streaming := false }
  | .uacAudioStreaming => { h with streaming := false }

def onDisconnection (h : AltHandler) : AltHandler :=
  match h.kind with
  | .virtualInterface | .hid | .mscBulkOnly => h
  | .uvcVideoStreaming => { h with committed := false, streaming := false }
  | .uacAudioStreaming => { h with streaming := false }

/-- The commit control of a video interface. -/
def commit (h : AltHandler) : AltHandler :=
  match h.kind with
  | .uvcVideoStreaming => { h with committed := true }
  | _ => h

/-- `notify_stop_streaming`, which only a video interface has. -/
def notifyStopStreaming (h : AltHandler) : AltHandler :=
  match h.kind with
  | .uvcVideoStreaming => { h with streaming := false }
  | _ => h

end AltHandler

/-- What happens to a virtual device.  The callbacks answer for the requests other than
SET_INTERFACE, and `failing` is the place of the handler that reports an error. -/
inductive AltEvent where
  | newConnection (failing : Option Nat)
  | disconnection
  | control (urb : ControlUrb AltHandler) (callbacks : Callbacks AltHandler)
  | commit (place : Nat)
  | notifyStopStreaming (place : Nat)

namespace ControlUrb

/-- A request to select an alternate setting, as the dispatcher recognises it. -/
def SetsInterface {Handler : Type} (urb : ControlUrb Handler) : Prop :=
  IsStandard urb ∧ RequestRecipient.ofSetup urb.setup = .interface ∧ urb.setup.isOut = true ∧
    urb.setup.request = StandardRequest.setInterface

instance {Handler : Type} (urb : ControlUrb Handler) : Decidable (SetsInterface urb) :=
  inferInstanceAs (Decidable (_ ∧ _))

/-- The callbacks of a device whose handlers decide on alternate settings themselves. -/
def withAltHandlers (callbacks : Callbacks AltHandler) (device : UsbDevice AltHandler)
    (urb : ControlUrb AltHandler) : Callbacks AltHandler where
  out
    | .interfaceSetInterface handler alternateSetting =>
        match device.interfaces[urb.setup.index.toNat]? with
        | some intf => (handler.requestSetInterface intf.endpoints.length alternateSetting).1
        | none => UrbStatusType.statusEPIPE
    | request => callbacks.out request
  in_ := callbacks.in_

end ControlUrb

namespace UsbInterface

def mapHandler (f : AltHandler → AltHandler) (intf : UsbInterface AltHandler) :
    UsbInterface AltHandler :=
  { intf with handler := intf.handler.map f }

end UsbInterface

namespace UsbDevice

variable (device : UsbDevice AltHandler)

/-- The handlers in order, up to the one that fails; those before it are disconnected again. -/
def onNewConnection (failing : Option Nat) : UsbDevice AltHandler :=
  { device with
    interfaces := device.interfaces.mapIdx fun i intf =>
      match failing with
      | none => intf.mapHandler AltHandler.onNewConnection
      | some place =>
          if i < place then
            (intf.mapHandler AltHandler.onNewConnection).mapHandler AltHandler.onDisconnection
          else if i = place then intf.mapHandler AltHandler.onNewConnection
          else intf }

def onDisconnection : UsbDevice AltHandler :=
  { device with
    interfaces := device.interfaces.map (UsbInterface.mapHandler AltHandler.onDisconnection) }

def modifyHandler (place : Nat) (f : AltHandler → AltHandler) : UsbDevice AltHandler :=
  { device with interfaces := device.interfaces.modify place (UsbInterface.mapHandler f) }

/-- A control URB, which leaves the device as `handle_control_urb` does and the handler as its
`request_set_interface` does. -/
def control (urb : ControlUrb AltHandler) (callbacks : Callbacks AltHandler) :
    UsbDevice AltHandler :=
  let outcome := ControlUrb.handleControlUrb (urb.withAltHandlers callbacks device) device urb
  if urb.SetsInterface then
    match device.interfaces[urb.setup.index.toNat]? with
    | some intf =>
        outcome.device.modifyHandler urb.setup.index.toNat fun handler =>
          (handler.requestSetInterface intf.endpoints.length urb.setup.value).2
    | none => outcome.device
  else outcome.device

def altStep : AltEvent → UsbDevice AltHandler
  | .newConnection failing => device.onNewConnection failing
  | .disconnection => device.onDisconnection
  | .control urb callbacks => device.control urb callbacks
  | .commit place => device.modifyHandler place AltHandler.commit
  | .notifyStopStreaming place => device.modifyHandler place AltHandler.notifyStopStreaming

def altRun (events : List AltEvent) : UsbDevice AltHandler :=
  events.foldl altStep device

end UsbDevice

namespace ControlUrb

variable {Handler : Type} {callbacks : Callbacks Handler} {device : UsbDevice Handler}
  {urb : ControlUrb Handler}

/-- Only a request to select an alternate setting changes the device. -/
theorem device_handleControlUrb_of_not_setsInterface (h : ¬ urb.SetsInterface) :
    (handleControlUrb callbacks device urb).device = device := by
  unfold handleControlUrb
  split
  next hstandard =>
    unfold handleStandardRequest
    split
    next =>
      unfold handleDeviceRequest
      split <;> rfl
    next hinterface =>
      unfold handleInterfaceRequest
      split
      next => rfl
      next intf hintf =>
        split
        next => rfl
        next handler hhandler =>
          split
          next hout =>
            have hselect : selectAltsetting callbacks device urb intf
                (interfaceOutRequest urb handler) = device :=
              if_neg fun hset => h ⟨hstandard, hinterface, hout, hset.1⟩
            exact hselect
          next => rfl
    next =>
      unfold handleEndpointRequest
      repeat' split
      all_goals rfl
    next => rfl
    next => rfl
  next =>
    unfold handleNonStandardRequest
    repeat' split
    all_goals rfl

theorem device_handleControlUrb_of_none (h : urb.SetsInterface)
    (hnone : device.interfaces[urb.setup.index.toNat]? = none) :
    (handleControlUrb callbacks device urb).device = device := by
  obtain ⟨hstandard, hinterface, -⟩ := h
  rw [handleControlUrb, if_pos hstandard, handleStandardRequest, hinterface]
  dsimp only
  rw [handleInterfaceRequest, hnone]
  rfl

/-- A request to select an alternate setting goes to the handler of the interface at its place,
whose answer decides. -/
theorem device_handleControlUrb_of_setsInterface (h : urb.SetsInterface)
    {intf : UsbInterface Handler} (hintf : device.interfaces[urb.setup.index.toNat]? = some intf) :
    (handleControlUrb callbacks device urb).device =
      match intf.handler with
      | none => device
      | some handler =>
          if callbacks.out (.interfaceSetInterface handler urb.setup.value) = 0 ∧
              urb.setup.value.toNat < intf.endpoints.length then
            { device with
              interfaces := device.interfaces.modify urb.setup.index.toNat fun intf =>
                { intf with currentAltsetting := urb.setup.value.toUInt8 } }
          else device := by
  obtain ⟨hstandard, hinterface, hout, hset⟩ := h
  have hrequest (handler : Handler) : interfaceOutRequest urb handler =
      some (.interfaceSetInterface handler urb.setup.value) := by
    unfold interfaceOutRequest
    dsimp only
    rw [hset]
    rfl
  rw [handleControlUrb, if_pos hstandard, handleStandardRequest, hinterface]
  dsimp only
  rw [handleInterfaceRequest, hintf]
  dsimp only
  cases intf.handler with
  | none => rfl
  | some handler =>
      dsimp only
      rw [if_pos hout, hrequest, selectAltsetting, hset]
      simp only [true_and]
      rfl

end ControlUrb

namespace UsbInterface

/-- What a request to select an alternate setting does to its interface. -/
def setInterface (alternateSetting : UInt16) (intf : UsbInterface AltHandler) :
    UsbInterface AltHandler :=
  match intf.handler with
  | none => intf
  | some handler =>
      let (status, handler) := handler.requestSetInterface intf.endpoints.length alternateSetting
      { intf with
        handler := some handler
        currentAltsetting :=
          if status = 0 ∧ alternateSetting.toNat < intf.endpoints.length then
            alternateSetting.toUInt8
          else intf.currentAltsetting }

end UsbInterface

/-- What an event does to the interface at a place. -/
def AltEvent.onInterface (i : Nat) (intf : UsbInterface AltHandler) :
    AltEvent → UsbInterface AltHandler
  | .newConnection none => intf.mapHandler AltHandler.onNewConnection
  | .newConnection (some place) =>
      if i < place then
        (intf.mapHandler AltHandler.onNewConnection).mapHandler AltHandler.onDisconnection
      else if i = place then intf.mapHandler AltHandler.onNewConnection
      else intf
  | .disconnection => intf.mapHandler AltHandler.onDisconnection
  | .control urb _ =>
      if urb.SetsInterface ∧ urb.setup.index.toNat = i then intf.setInterface urb.setup.value
      else intf
  | .commit place => if place = i then intf.mapHandler AltHandler.commit else intf
  | .notifyStopStreaming place =>
      if place = i then intf.mapHandler AltHandler.notifyStopStreaming else intf

namespace UsbDevice

variable (device : UsbDevice AltHandler)

theorem getElem?_modifyHandler (place i : Nat) (f : AltHandler → AltHandler) :
    (device.modifyHandler place f).interfaces[i]? =
      (device.interfaces[i]?).map fun intf =>
        if place = i then intf.mapHandler f else intf := by
  rw [modifyHandler, List.getElem?_modify]
  rcases device.interfaces[i]? with _ | intf
  · rfl
  · split <;> rfl

theorem getElem?_control (urb : ControlUrb AltHandler) (callbacks : Callbacks AltHandler)
    (i : Nat) :
    (device.control urb callbacks).interfaces[i]? =
      (device.interfaces[i]?).map fun intf =>
        if urb.SetsInterface ∧ urb.setup.index.toNat = i then intf.setInterface urb.setup.value
        else intf := by
  unfold control
  by_cases hsets : urb.SetsInterface
  · cases hplace : device.interfaces[urb.setup.index.toNat]? with
    | none =>
        rw [if_pos hsets, ControlUrb.device_handleControlUrb_of_none hsets hplace]
        rcases hi : device.interfaces[i]? with _ | intf
        · rfl
        · rw [Option.map_some, if_neg]
          rintro ⟨-, rfl⟩
          rw [hplace] at hi
          cases hi
    | some intf =>
        have hout (handler : AltHandler) : (urb.withAltHandlers callbacks device).out
            (.interfaceSetInterface handler urb.setup.value) =
              (handler.requestSetInterface intf.endpoints.length urb.setup.value).1 := by
          simp only [ControlUrb.withAltHandlers, hplace]
        rw [if_pos hsets]
        dsimp only
        rw [getElem?_modifyHandler,
          ControlUrb.device_handleControlUrb_of_setsInterface hsets hplace]
        simp only [hout]
        by_cases hi : urb.setup.index.toNat = i
        · subst hi
          simp only [hsets, hplace, Option.map_some, true_and, if_true, UsbInterface.setInterface]
          cases hhandler : intf.handler with
          | none =>
              simp only [hplace, Option.map_some, UsbInterface.mapHandler, hhandler,
                Option.map_none]
              rw [← hhandler]
          | some handler =>
              dsimp only
              split
              next => simp [hplace, UsbInterface.mapHandler, hhandler]
              next => simp [hplace, UsbInterface.mapHandler, hhandler]
        · simp only [hi, and_false, if_false, Option.map_id']
          cases intf.handler with
          | none => rfl
          | some handler =>
              dsimp only
              split
              next => simp [hi]
              next => rfl
  · rw [if_neg hsets, ControlUrb.device_handleControlUrb_of_not_setsInterface hsets]
    simp [hsets]

theorem getElem?_altStep (e : AltEvent) (i : Nat) :
    (device.altStep e).interfaces[i]? =
      (device.interfaces[i]?).map fun intf => e.onInterface i intf := by
  cases e with
  | newConnection failing =>
      rw [altStep, onNewConnection, List.getElem?_mapIdx]
      cases failing <;> rfl
  | disconnection => rw [altStep, onDisconnection, List.getElem?_map]; rfl
  | control urb callbacks => exact device.getElem?_control urb callbacks i
  | commit place => exact device.getElem?_modifyHandler place i _
  | notifyStopStreaming place => exact device.getElem?_modifyHandler place i _

theorem getElem?_altRun (events : List AltEvent) (i : Nat) :
    (device.altRun events).interfaces[i]? =
      (device.interfaces[i]?).map fun intf =>
        events.foldl (fun intf e => e.onInterface i intf) intf := by
  induction events using List.reverseRecOn with
  | nil => simp [altRun]
  | append_singleton events e ih =>
      have hstep := (device.altRun events).getElem?_altStep e i
      rw [ih, Option.map_map] at hstep
      simp only [altRun, List.foldl_append] at hstep ⊢
      exact hstep

end UsbDevice

namespace UsbInterface

/-- What no event changes: the settings of an interface and the class of its handler. -/
def SameForm (intf intf' : UsbInterface AltHandler) : Prop :=
  intf'.endpoints = intf.endpoints ∧ intf'.handler.map (·.kind) = intf.handler.map (·.kind)

/-- The handler agrees to a setting, and the interface has it. -/
def accepts (intf : UsbInterface AltHandler) (alternateSetting : UInt16) : Bool :=
  intf.handler.any fun handler =>
    (handler.requestSetInterface intf.endpoints.length alternateSetting).1 == 0 &&
      decide (alternateSetting.toNat < intf.endpoints.length)

theorem sameForm_mapHandler {f : AltHandler → AltHandler} (hf : ∀ h, (f h).kind = h.kind)
    (intf : UsbInterface AltHandler) : SameForm intf (intf.mapHandler f) := by
  refine ⟨rfl, ?_⟩
  rw [mapHandler, Option.map_map]
  exact congrArg (fun k => Option.map k intf.handler) (funext hf)

theorem SameForm.trans {a b c : UsbInterface AltHandler} (hab : SameForm a b)
    (hbc : SameForm b c) : SameForm a c :=
  ⟨hbc.1.trans hab.1, hbc.2.trans hab.2⟩

end UsbInterface

namespace AltHandler

theorem kind_onNewConnection (h : AltHandler) : h.onNewConnection.kind = h.kind := by
  unfold onNewConnection
  split <;> rfl

theorem kind_onDisconnection (h : AltHandler) : h.onDisconnection.kind = h.kind := by
  unfold onDisconnection
  split <;> rfl

theorem kind_commit (h : AltHandler) : h.commit.kind = h.kind := by
  unfold commit
  split <;> rfl

theorem kind_notifyStopStreaming (h : AltHandler) : h.notifyStopStreaming.kind = h.kind := by
  unfold notifyStopStreaming
  split <;> rfl

theorem isStreaming_onNewConnection (h : AltHandler) : h.onNewConnection.isStreaming = false := by
  obtain ⟨kind, committed, streaming⟩ := h
  cases kind <;> rfl

theorem requestGetInterface_onNewConnection (h : AltHandler) :
    h.onNewConnection.requestGetInterface 0 = 0 := by
  obtain ⟨kind, committed, streaming⟩ := h
  cases kind <;> rfl

theorem kind_requestSetInterface (altsettings : Nat) (alternateSetting : UInt16)
    (h : AltHandler) :
    (h.requestSetInterface altsettings alternateSetting).2.kind = h.kind := by
  unfold requestSetInterface
  repeat' split
  all_goals rfl

/-- Whether a setting is refused is a matter of the class. -/
theorem status_requestSetInterface_congr {h h' : AltHandler} (hkind : h'.kind = h.kind)
    (altsettings : Nat) (alternateSetting : UInt16) :
    (h'.requestSetInterface altsettings alternateSetting).1 =
      (h.requestSetInterface altsettings alternateSetting).1 := by
  unfold requestSetInterface
  rw [hkind]
  split
  next => rfl
  next => rfl
  next => rfl
  next => split <;> try split
          all_goals rfl
  next => split <;> try split
          all_goals rfl

end AltHandler

namespace UsbInterface

theorem SameForm.accepts_eq {intf intf' : UsbInterface AltHandler} (h : SameForm intf intf')
    (alternateSetting : UInt16) :
    intf'.accepts alternateSetting = intf.accepts alternateSetting := by
  obtain ⟨hendpoints, hkind⟩ := h
  unfold accepts
  rw [hendpoints]
  cases hhandler : intf.handler with
  | none =>
      rw [hhandler, Option.map_none, Option.map_eq_none_iff] at hkind
      rw [hkind]
  | some handler =>
      rw [hhandler, Option.map_some, Option.map_eq_some_iff] at hkind
      obtain ⟨handler', hhandler', hkind⟩ := hkind
      rw [hhandler', Option.any_some, Option.any_some,
        AltHandler.status_requestSetInterface_congr hkind]

theorem sameForm_setInterface (alternateSetting : UInt16) (intf : UsbInterface AltHandler) :
    SameForm intf (intf.setInterface alternateSetting) := by
  unfold setInterface
  split
  next => exact ⟨rfl, rfl⟩
  next handler hhandler =>
    refine ⟨rfl, ?_⟩
    rw [hhandler]
    exact congrArg some (handler.kind_requestSetInterface _ _)

theorem currentAltsetting_setInterface (alternateSetting : UInt16)
    (intf : UsbInterface AltHandler) :
    (intf.setInterface alternateSetting).currentAltsetting =
      if intf.accepts alternateSetting = true then alternateSetting.toUInt8
      else intf.currentAltsetting := by
  unfold setInterface accepts
  split
  next hhandler => simp [hhandler]
  next handler hhandler => simp [hhandler]

end UsbInterface

namespace AltEvent

/-- The alternate setting that an event selects at the interface in a place, if it selects
one. -/
def selection (i : Nat) (intf : UsbInterface AltHandler) : AltEvent → Option UInt8
  | .control urb _ =>
      if urb.SetsInterface ∧ urb.setup.index.toNat = i ∧ intf.accepts urb.setup.value = true then
        some urb.setup.value.toUInt8
      else none
  | _ => none

/-- The setting that the last selection of a history has chosen, the first one at the
beginning. -/
def lastSelection (i : Nat) (intf : UsbInterface AltHandler) (events : List AltEvent) : UInt8 :=
  events.foldl (fun alt e => (e.selection i intf).getD alt) 0

theorem sameForm_onInterface (e : AltEvent) (i : Nat) (intf : UsbInterface AltHandler) :
    intf.SameForm (e.onInterface i intf) := by
  have hnew := UsbInterface.sameForm_mapHandler AltHandler.kind_onNewConnection
  have hdisconnected := UsbInterface.sameForm_mapHandler AltHandler.kind_onDisconnection
  cases e with
  | newConnection failing =>
      cases failing with
      | none => exact hnew intf
      | some place =>
          rw [onInterface]
          split
          next => exact (hnew intf).trans (hdisconnected _)
          next =>
            split
            next => exact hnew intf
            next => exact ⟨rfl, rfl⟩
  | disconnection => exact hdisconnected intf
  | control urb callbacks =>
      rw [onInterface]
      split
      next => exact intf.sameForm_setInterface _
      next => exact ⟨rfl, rfl⟩
  | commit place =>
      rw [onInterface]
      split
      next => exact UsbInterface.sameForm_mapHandler AltHandler.kind_commit intf
      next => exact ⟨rfl, rfl⟩
  | notifyStopStreaming place =>
      rw [onInterface]
      split
      next => exact UsbInterface.sameForm_mapHandler AltHandler.kind_notifyStopStreaming intf
      next => exact ⟨rfl, rfl⟩

/-- Connections and disconnections leave the alternate setting as it is. -/
theorem currentAltsetting_onInterface (e : AltEvent) (i : Nat) (intf : UsbInterface AltHandler) :
    (e.onInterface i intf).currentAltsetting =
      (e.selection i intf).getD intf.currentAltsetting := by
  cases e with
  | newConnection failing =>
      cases failing with
      | none => rfl
      | some place =>
          rw [onInterface]
          split
          next => rfl
          next => split <;> rfl
  | disconnection => rfl
  | control urb callbacks =>
      rw [onInterface, selection]
      by_cases hsets : urb.SetsInterface ∧ urb.setup.index.toNat = i
      · rw [if_pos hsets, UsbInterface.currentAltsetting_setInterface]
        split
        next haccepts => rw [if_pos ⟨hsets.1, hsets.2, haccepts⟩, Option.getD_some]
        next hrefuses => rw [if_neg fun h => hrefuses h.2.2, Option.getD_none]
      · rw [if_neg hsets, if_neg fun h => hsets ⟨h.1, h.2.1⟩, Option.getD_none]
  | commit place =>
      rw [onInterface]
      split <;> rfl
  | notifyStopStreaming place =>
      rw [onInterface]
      split <;> rfl

theorem SameForm.selection_eq {intf intf' : UsbInterface AltHandler}
    (h : UsbInterface.SameForm intf intf') (e : AltEvent) (i : Nat) :
    e.selection i intf' = e.selection i intf := by
  cases e with
  | control urb callbacks => rw [selection, selection, h.accepts_eq]
  | newConnection failing => rfl
  | disconnection => rfl
  | commit place => rfl
  | notifyStopStreaming place => rfl

/-- The settings that a history has selected are those of the interface as it was built. -/
theorem foldl_onInterface (events : List AltEvent) (i : Nat) (intf : UsbInterface AltHandler) :
    intf.SameForm (events.foldl (fun intf e => e.onInterface i intf) intf) ∧
      (intf.currentAltsetting = 0 →
        (events.foldl (fun intf e => e.onInterface i intf) intf).currentAltsetting =
          lastSelection i intf events) := by
  induction events using List.reverseRecOn with
  | nil => exact ⟨⟨rfl, rfl⟩, id⟩
  | append_singleton events e ih =>
      obtain ⟨hform, halt⟩ := ih
      simp only [lastSelection, List.foldl_append, List.foldl_cons, List.foldl_nil] at halt ⊢
      refine ⟨hform.trans (e.sameForm_onInterface i _), fun hzero => ?_⟩
      rw [currentAltsetting_onInterface, SameForm.selection_eq hform, halt hzero]

end AltEvent

namespace UsbDevice

variable (device : UsbDevice AltHandler)

/-- What `find_ep` finds when every interface is at its first alternate setting. -/
def findEpInFirst (ep : UInt8) : Option (UsbEndpoint × Option (UsbInterface AltHandler)) :=
  if ep = device.ep0In.address then some (device.ep0In, none)
  else if ep = device.ep0Out.address then some (device.ep0Out, none)
  else
    device.interfaces.findSome? fun intf =>
      ((intf.endpoints.headD []).find? fun endpoint => endpoint.address = ep).map
        fun endpoint => (endpoint, some intf)

/-- A device as its first client sees it. -/
structure Fresh : Prop where
  altsetting : ∀ intf ∈ device.interfaces, intf.currentAltsetting = 0
  getInterface : ∀ intf ∈ device.interfaces, ∀ handler, intf.handler = some handler →
    handler.requestGetInterface intf.currentAltsetting = 0
  findEp : ∀ ep, device.findEp ep = device.findEpInFirst ep
  streaming : ∀ intf ∈ device.interfaces, ∀ handler, intf.handler = some handler →
    handler.isStreaming = false

theorem findSome?_congr {α β : Type} {f g : α → Option β} {as : List α}
    (h : ∀ a ∈ as, f a = g a) : as.findSome? f = as.findSome? g := by
  induction as with
  | nil => rfl
  | cons a as ih =>
      rw [List.findSome?_cons, List.findSome?_cons, h a List.mem_cons_self,
        ih fun b hb => h b (List.mem_cons_of_mem a hb)]

theorem findEp_eq_findEpInFirst (h : ∀ intf ∈ device.interfaces, intf.currentAltsetting = 0)
    (ep : UInt8) : device.findEp ep = device.findEpInFirst ep := by
  have hcurrent : ∀ intf ∈ device.interfaces, intf.currentEndpoints = intf.endpoints.headD [] := by
    intro intf hintf
    rw [UsbInterface.currentEndpoints, h intf hintf]
    cases intf.endpoints <;> rfl
  unfold findEp findEpInFirst
  split
  next => rfl
  next =>
    split
    next => rfl
    next =>
      refine findSome?_congr fun intf hintf => ?_
      rw [hcurrent intf hintf]

theorem mem_interfaces_onNewConnection {intf : UsbInterface AltHandler} :
    intf ∈ (device.altStep (.newConnection none)).interfaces ↔
      ∃ before ∈ device.interfaces, before.mapHandler AltHandler.onNewConnection = intf := by
  have hmap : (device.altStep (.newConnection none)).interfaces =
      device.interfaces.map (UsbInterface.mapHandler AltHandler.onNewConnection) := by
    apply List.ext_getElem?
    intro i
    rw [device.getElem?_altStep, List.getElem?_map]
    rfl
  rw [hmap, List.mem_map]

/-- A connection leaves a device fresh if and only if it finds every interface at its first
alternate setting. -/
theorem fresh_onNewConnection_iff :
    (device.altStep (.newConnection none)).Fresh ↔
      ∀ intf ∈ device.interfaces, intf.currentAltsetting = 0 := by
  constructor
  · intro hfresh intf hintf
    exact hfresh.altsetting (intf.mapHandler AltHandler.onNewConnection)
      (device.mem_interfaces_onNewConnection.mpr ⟨intf, hintf, rfl⟩)
  · intro hzero
    have haltsetting : ∀ intf ∈ (device.altStep (.newConnection none)).interfaces,
        intf.currentAltsetting = 0 := by
      intro intf hintf
      obtain ⟨before, hbefore, rfl⟩ := device.mem_interfaces_onNewConnection.mp hintf
      exact hzero before hbefore
    have hhandler : ∀ intf ∈ (device.altStep (.newConnection none)).interfaces,
        ∀ handler, intf.handler = some handler → ∃ h : AltHandler, h.onNewConnection = handler := by
      rintro intf hintf handler hsome
      obtain ⟨before, -, rfl⟩ := device.mem_interfaces_onNewConnection.mp hintf
      obtain ⟨h, -, hh⟩ := Option.map_eq_some_iff.mp hsome
      exact ⟨h, hh⟩
    refine ⟨haltsetting, fun intf hintf handler hsome => ?_, findEp_eq_findEpInFirst _ haltsetting,
      fun intf hintf handler hsome => ?_⟩
    · obtain ⟨h, rfl⟩ := hhandler intf hintf handler hsome
      rw [haltsetting intf hintf]
      exact h.requestGetInterface_onNewConnection
    · obtain ⟨h, rfl⟩ := hhandler intf hintf handler hsome
      exact h.isStreaming_onNewConnection

/-- Every connection of a run finds the device as the first one did, if and only if each comes
after a history whose last selection at every interface, if there was one, chose the first
setting. -/
theorem fresh_altsettings (hnew : ∀ intf ∈ device.interfaces, intf.currentAltsetting = 0)
    (events : List AltEvent) :
    (∀ before after, events = before ++ .newConnection none :: after →
      (device.altRun (before ++ [.newConnection none])).Fresh) ↔
    ∀ before after, events = before ++ .newConnection none :: after →
      ∀ i intf, device.interfaces[i]? = some intf → AltEvent.lastSelection i intf before = 0 := by
  have hiff (before : List AltEvent) :
      (device.altRun (before ++ [.newConnection none])).Fresh ↔
        ∀ i intf, device.interfaces[i]? = some intf → AltEvent.lastSelection i intf before = 0 := by
    have hrun : device.altRun (before ++ [.newConnection none]) =
        (device.altRun before).altStep (.newConnection none) := by
      simp only [altRun, List.foldl_append, List.foldl_cons, List.foldl_nil]
    rw [hrun, fresh_onNewConnection_iff]
    constructor
    · intro hzero i intf hintf
      obtain ⟨-, halt⟩ := AltEvent.foldl_onInterface before i intf
      have hafter := device.getElem?_altRun before i
      rw [hintf, Option.map_some] at hafter
      rw [← halt (hnew intf (List.mem_of_getElem? hintf))]
      exact hzero _ (List.mem_of_getElem? hafter)
    · intro hlast intf hintf
      obtain ⟨i, hi⟩ := List.mem_iff_getElem?.mp hintf
      rw [device.getElem?_altRun before i] at hi
      obtain ⟨first, hfirst, rfl⟩ := Option.map_eq_some_iff.mp hi
      obtain ⟨-, halt⟩ := AltEvent.foldl_onInterface before i first
      rw [halt (hnew first (List.mem_of_getElem? hfirst))]
      exact hlast i first hfirst
  simp only [hiff]

/-- A microphone whose interface has an endpoint in its second alternate setting only. -/
def microphone : UsbDevice AltHandler where
  ep0In := ⟨0x80, 0⟩
  ep0Out := ⟨0x00, 0⟩
  interfaces := [⟨some ⟨.uacAudioStreaming, false, false⟩, 0, [[], [⟨0x81, 1⟩]]⟩]

theorem fresh_altsettings_microphone :
    (∀ before after, [AltEvent.newConnection none] = before ++ .newConnection none :: after →
      (microphone.altRun (before ++ [.newConnection none])).Fresh) ↔
    ∀ before after, [AltEvent.newConnection none] = before ++ .newConnection none :: after →
      ∀ i intf, microphone.interfaces[i]? = some intf →
        AltEvent.lastSelection i intf before = 0 :=
  microphone.fresh_altsettings (by decide) [.newConnection none]

/-- A client that starts recording and leaves, and another one. -/
def secondClient : List AltEvent :=
  [.newConnection none,
    .control
      { seqnum := 1
        transferBufferLength := 0
        setup := ⟨0x01, StandardRequest.setInterface, 1, 0, 0⟩
        owner := none
        trx := ⟨[], [], 0, 0, false⟩ }
      { out := fun _ => UrbStatusType.statusEPIPE
        in_ := fun
          | .getConfiguration | .getInterface _ => (UrbStatusType.statusEPIPE, (0 : UInt8))
          | .getDescriptor .. | .interfaceGetDescriptor .. =>
              (UrbStatusType.statusEPIPE, ([] : List UInt8))
          | .getStatus | .interfaceGetStatus _ | .endpointGetStatus .. | .endpointSyncFrame .. =>
              (UrbStatusType.statusEPIPE, (0 : UInt16)) },
    .disconnection, .newConnection none]

theorem not_fresh_secondClient : ¬ (microphone.altRun secondClient).Fresh := by
  intro hfresh
  have hinterfaces : (microphone.altRun secondClient).interfaces =
      [⟨some ⟨.uacAudioStreaming, false, false⟩, 1, [[], [⟨0x81, 1⟩]]⟩] := by decide
  have hzero := hfresh.altsetting
  rw [hinterfaces] at hzero
  exact absurd (hzero _ List.mem_cons_self) (by decide)

end UsbDevice

end Usbipdcpp.VirtualDevice
