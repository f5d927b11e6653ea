import Usbipdcpp.Protocol.OpRequests
import Usbipdcpp.Server.DeviceRegistry
import Usbipdcpp.Session.ImportLifecycle

namespace Usbipdcpp.Session.Handshake

open Foundation.ByteStream Foundation.KeyedList Foundation.TransitionSystem
open Protocol.DeviceList Protocol.OpRequests Server.DeviceRegistry
open ImportLifecycle (CallOutcome)

namespace OperationStatuType

def na : UInt32 := 1

def noDev : UInt32 := 4

end OperationStatuType

/-- Where the thread of a session stands in `parse_op`. -/
inductive Stage where
  | connected
  | looking
  | opening
  | transferring
  | closed
  deriving DecidableEq, Repr

/-- The devices of a server, and of each session the bytes its client has written that are not
read yet, where its thread stands, and the bytes that have gone out. -/
structure HandshakeServer (Session : Type) where
  registry : Registry UsbDevice (List UInt8) Session
  unread : Session → List UInt8
  stage : Session → Stage
  sent : Session → List UInt8

/-- What happens to the server between two moments at which a thread of it waits.  Of a reply
`written` bytes go out before the write fails, or all of them. -/
inductive HandshakeAction (Session : Type) where
  | addDevice (device : UsbDevice)
  | detachAvailableDevice (busid : List UInt8)
  | readOp (session : Session) (written : Nat)
  | tryMovingDeviceToUsing (session : Session) (written : Nat)
  | onNewConnection (session : Session) (outcome : CallOutcome) (isDeviceRemoved : Bool)
      (written : Nat)
  | releaseDevice (session : Session) (isDeviceRemoved : Bool)

variable {Session : Type} [DecidableEq Session]

namespace HandshakeServer

def setStage (server : HandshakeServer Session) (s : Session) (stage : Stage) :
    HandshakeServer Session :=
  { server with stage := Function.update server.stage s stage }

def setUnread (server : HandshakeServer Session) (s : Session) (rest : List UInt8) :
    HandshakeServer Session :=
  { server with unread := Function.update server.unread s rest }

/-- `asio::write` of a reply. -/
def write (server : HandshakeServer Session) (s : Session) (reply : List UInt8) (written : Nat) :
    HandshakeServer Session :=
  { server with sent := Function.update server.sent s (server.sent s ++ reply.take written) }

def onRegistry (server : HandshakeServer Session)
    (a : RegistryAction UsbDevice (List UInt8) Session) : Option (HandshakeServer Session) :=
  (server.registry.step UsbDevice.busid a).map fun registry => { server with registry }

/-- `parse_op` up to `is_device_using`. -/
def readOp (server : HandshakeServer Session) (s : Session) (written : Nat) :
    Option (HandshakeServer Session) :=
  match getOpFromSocket (server.unread s) with
  | .error _ => some (server.setStage s .closed)
  | .ok (op, rest) =>
      let server := server.setUnread s rest
      match op with
      | .opReqDevlist _ =>
          let reply := OpRepDevlist.createFromDevices server.registry.availableDevices
          some ((server.write s reply.toBytes written).setStage s .closed)
      | .opReqImport req =>
          (server.onRegistry (.isDeviceUsing s req.wantedBusid)).map fun server' =>
            if server.registry.isDeviceUsing req.wantedBusid then
              let reply := OpRepImport.createOnFailureWithStatus OperationStatuType.na
              (server'.write s reply.toBytes written).setStage s .closed
            else server'.setStage s .looking

def tryMovingDeviceToUsing (server : HandshakeServer Session) (s : Session) (written : Nat) :
    Option (HandshakeServer Session) :=
  (server.onRegistry (.tryMovingDeviceToUsing s)).map fun server' =>
    match server'.registry.sessions s with
    | .importing _ _ => server'.setStage s .opening
    | _ =>
        let reply := OpRepImport.createOnFailureWithStatus OperationStatuType.noDev
        (server'.write s reply.toBytes written).setStage s .closed

/-- The device is opened before the reply goes out, and given back if that fails; an exception
of the handler leaves `parse_op` past the code that would give it back. -/
def onNewConnection (server : HandshakeServer Session) (s : Session) (outcome : CallOutcome)
    (isDeviceRemoved : Bool) (written : Nat) : Option (HandshakeServer Session) :=
  match server.registry.sessions s with
  | .importing _ device =>
      match outcome with
      | .succeeded =>
          let reply := OpRepImport.createOnSuccess device
          some ((server.write s reply.toBytes written).setStage s .transferring)
      | .failed =>
          let reply := OpRepImport.createOnFailureWithStatus OperationStatuType.na
          (server.onRegistry (.releaseDevice s isDeviceRemoved)).map fun server =>
            (server.write s reply.toBytes written).setStage s .closed
      | .threw => some (server.setStage s .closed)
  | _ => none

def step (server : HandshakeServer Session) :
    HandshakeAction Session → Option (HandshakeServer Session)
  | .addDevice device => server.onRegistry (.addDevice device)
  | .detachAvailableDevice busid => server.onRegistry (.detachAvailableDevice busid)
  | .readOp s written => if server.stage s = .connected then server.readOp s written else none
  | .tryMovingDeviceToUsing s written =>
      if server.stage s = .looking then server.tryMovingDeviceToUsing s written else none
  | .onNewConnection s outcome isDeviceRemoved written =>
      if server.stage s = .opening then
        server.onNewConnection s outcome isDeviceRemoved written
      else none
  | .releaseDevice s isDeviceRemoved =>
      if server.stage s = .transferring then
        (server.onRegistry (.releaseDevice s isDeviceRemoved)).map (·.setStage s .closed)
      else none

/-- A server over a list of devices; `requests` is what the clients write to it. -/
def start (devices : List UsbDevice) (requests : Session → List UInt8) :
    HandshakeServer Session where
  registry := .ofDevices devices
  unread := requests
  stage := fun _ => .connected
  sent := fun _ => []

end HandshakeServer

def system (devices : List UsbDevice) (requests : Session → List UInt8) :
    System (HandshakeServer Session) (HandshakeAction Session) where
  initial server := server = .start devices requests
  step := HandshakeServer.step

/-! What a critical section of the registry does to the devices and to the other sessions. -/

theorem has_of_step {r t : Registry UsbDevice (List UInt8) Session}
    {a : RegistryAction UsbDevice (List UInt8) Session} (hr : WellFormed UsbDevice.busid r)
    (h : r.step UsbDevice.busid a = some t) {device : UsbDevice} (hdevice : t.Has device) :
    r.Has device ∨ a = .addDevice device := by
  cases outcome_of_step hr h with
  | refused added => exact .inl hdevice
  | added added =>
      rcases hdevice with hmem | husing
      · rcases List.mem_append.mp hmem with hmem | hmem
        · exact .inl (.inl hmem)
        · exact .inr (by rw [List.mem_singleton.mp hmem])
      · exact .inl (.inr husing)
  | detached k => exact .inl (hdevice.imp_left fun hmem => remove_subset hmem)
  | asked hs hpc => exact .inl hdevice
  | @moved s k moved hs hlookup =>
      rcases hdevice with hmem | ⟨k', husing⟩
      · exact .inl (.inl (remove_subset hmem))
      · rcases eq_or_ne k' k with rfl | hne
        · obtain rfl : moved = device := by simpa [Registry.setSession] using husing
          exact .inl (.inl (mem_of_lookup hlookup))
        · exact .inl (.inr ⟨k', by simpa [Registry.setSession, hne] using husing⟩)
  | missed hs => exact .inl hdevice
  | @discarded s k released hs =>
      rcases hdevice with hmem | ⟨k', husing⟩
      · exact .inl (.inl hmem)
      · rcases eq_or_ne k' k with rfl | hne
        · simp [Registry.setSession] at husing
        · exact .inl (.inr ⟨k', by simpa [Registry.setSession, hne] using husing⟩)
  | @putBack s k released hs =>
      rcases hdevice with hmem | ⟨k', husing⟩
      · rcases List.mem_append.mp hmem with hmem | hmem
        · exact .inl (.inl hmem)
        · rw [List.mem_singleton.mp hmem]
          exact .inl (.inr ⟨k, hr.held s k released hs⟩)
      · rcases eq_or_ne k' k with rfl | hne
        · simp [Registry.setSession] at husing
        · exact .inl (.inr ⟨k', by simpa [Registry.setSession, hne] using husing⟩)

/-- The session that a critical section belongs to. -/
def sessionOf : RegistryAction UsbDevice (List UInt8) Session → Option Session
  | .addDevice _ | .detachAvailableDevice _ => none
  | .isDeviceUsing s _ | .tryMovingDeviceToUsing s | .releaseDevice s _ => some s

theorem sessions_of_step {r t : Registry UsbDevice (List UInt8) Session}
    {a : RegistryAction UsbDevice (List UInt8) Session} (hr : WellFormed UsbDevice.busid r)
    (h : r.step UsbDevice.busid a = some t) {s : Session} (hs : sessionOf a ≠ some s) :
    t.sessions s = r.sessions s := by
  have hset {r : Registry UsbDevice (List UInt8) Session} {s' : Session}
      {pc : SessionPc UsbDevice (List UInt8)} (hs : some s' ≠ some s) :
      (r.setSession s' pc).sessions s = r.sessions s :=
    Function.update_of_ne (fun heq => hs (congrArg some heq.symm)) _ _
  cases outcome_of_step hr h with
  | refused _ | added _ | detached _ => rfl
  | asked | missed => exact hset hs
  | moved | discarded | putBack => exact (hset hs).trans rfl

namespace HandshakeServer

variable {server t : HandshakeServer Session} {s s' : Session}

@[simp] theorem registry_setUnread (rest : List UInt8) :
    (server.setUnread s rest).registry = server.registry := rfl

@[simp] theorem unread_setUnread_self (rest : List UInt8) :
    (server.setUnread s rest).unread s = rest := Function.update_self _ _ _

@[simp] theorem sent_setUnread (rest : List UInt8) :
    (server.setUnread s rest).sent = server.sent := rfl

@[simp] theorem registry_write (reply : List UInt8) (written : Nat) :
    (server.write s reply written).registry = server.registry := rfl

@[simp] theorem unread_write (reply : List UInt8) (written : Nat) :
    (server.write s reply written).unread = server.unread := rfl

@[simp] theorem sent_write_self (reply : List UInt8) (written : Nat) :
    (server.write s reply written).sent s = server.sent s ++ reply.take written :=
  Function.update_self _ _ _

theorem onRegistry_eq_some {a : RegistryAction UsbDevice (List UInt8) Session}
    (h : server.onRegistry a = some t) :
    ∃ registry, server.registry.step UsbDevice.busid a = some registry ∧
      t = { server with registry } := by
  obtain ⟨registry, hstep, rfl⟩ := Option.map_eq_some_iff.mp h
  exact ⟨registry, hstep, rfl⟩

/-- What the other threads see of a session. -/
def view (server : HandshakeServer Session) (s : Session) :
    SessionPc UsbDevice (List UInt8) × List UInt8 × Stage × List UInt8 :=
  (server.registry.sessions s, server.unread s, server.stage s, server.sent s)

@[simp] theorem view_setStage_self (stage : Stage) :
    (server.setStage s stage).view s =
      (server.registry.sessions s, server.unread s, stage, server.sent s) := by
  simp [view, setStage]

theorem view_setStage_of_ne (stage : Stage) (h : s ≠ s') :
    (server.setStage s' stage).view s = server.view s := by
  simp [view, setStage, h]

theorem view_write_of_ne (reply : List UInt8) (written : Nat) (h : s ≠ s') :
    (server.write s' reply written).view s = server.view s := by
  simp [view, write, h]

theorem view_onRegistry (hr : WellFormed UsbDevice.busid server.registry)
    {a : RegistryAction UsbDevice (List UInt8) Session} (h : server.onRegistry a = some t)
    (hs : sessionOf a ≠ some s) : t.view s = server.view s := by
  obtain ⟨registry, hstep, rfl⟩ := onRegistry_eq_some h
  rw [view, sessions_of_step hr hstep hs]
  rfl

theorem view_readOp (hr : WellFormed UsbDevice.busid server.registry) {written : Nat}
    (h : server.readOp s' written = some t) (hs : s ≠ s') : t.view s = server.view s := by
  have hread (rest : List UInt8) : (server.setUnread s' rest).view s = server.view s := by
    simp [view, setUnread, hs]
  unfold readOp at h
  split at h
  · obtain rfl := Option.some.inj h
    exact view_setStage_of_ne _ hs
  · rename_i op rest hop
    cases op with
    | opReqDevlist req =>
        obtain rfl := Option.some.inj h
        rw [view_setStage_of_ne _ hs, view_write_of_ne _ _ hs, hread]
    | opReqImport req =>
        obtain ⟨server', hasked, rfl⟩ := Option.map_eq_some_iff.mp h
        have hasker : sessionOf (.isDeviceUsing s' req.wantedBusid) ≠ some s := by
          simpa [sessionOf] using hs.symm
        have hr' : WellFormed UsbDevice.busid (server.setUnread s' rest).registry := hr
        have hview : server'.view s = server.view s :=
          (view_onRegistry hr' hasked hasker).trans (hread rest)
        split
        · rw [view_setStage_of_ne _ hs, view_write_of_ne _ _ hs, hview]
        · rw [view_setStage_of_ne _ hs, hview]

theorem view_tryMovingDeviceToUsing (hr : WellFormed UsbDevice.busid server.registry)
    {written : Nat} (h : server.tryMovingDeviceToUsing s' written = some t) (hs : s ≠ s') :
    t.view s = server.view s := by
  obtain ⟨server', hmoved, rfl⟩ := Option.map_eq_some_iff.mp h
  have hview := view_onRegistry (s := s) hr hmoved (by simpa [sessionOf] using hs.symm)
  split
  · rw [view_setStage_of_ne _ hs, hview]
  · rw [view_setStage_of_ne _ hs, view_write_of_ne _ _ hs, hview]

theorem view_onNewConnection (hr : WellFormed UsbDevice.busid server.registry)
    {outcome : CallOutcome} {isDeviceRemoved : Bool} {written : Nat}
    (h : server.onNewConnection s' outcome isDeviceRemoved written = some t) (hs : s ≠ s') :
    t.view s = server.view s := by
  unfold onNewConnection at h
  split at h
  · cases outcome with
    | succeeded =>
        obtain rfl := Option.some.inj h
        rw [view_setStage_of_ne _ hs, view_write_of_ne _ _ hs]
    | failed =>
        obtain ⟨server', hreleased, rfl⟩ := Option.map_eq_some_iff.mp h
        rw [view_setStage_of_ne _ hs, view_write_of_ne _ _ hs,
          view_onRegistry hr hreleased (by simpa [sessionOf] using hs.symm)]
    | threw =>
        obtain rfl := Option.some.inj h
        exact view_setStage_of_ne _ hs
  · cases h

end HandshakeServer

/-- The session whose thread takes the step. -/
def HandshakeAction.session : HandshakeAction Session → Option Session
  | .addDevice _ | .detachAvailableDevice _ => none
  | .readOp s _ | .tryMovingDeviceToUsing s _ | .onNewConnection s _ _ _ | .releaseDevice s _ =>
      some s

variable {server t : HandshakeServer Session} {a : HandshakeAction Session} {s : Session}

theorem view_of_step (hr : WellFormed UsbDevice.busid server.registry)
    (h : server.step a = some t) (hs : a.session ≠ some s) : t.view s = server.view s := by
  cases a with
  | addDevice device => exact HandshakeServer.view_onRegistry hr h (by simp [sessionOf])
  | detachAvailableDevice k => exact HandshakeServer.view_onRegistry hr h (by simp [sessionOf])
  | readOp s' written =>
      have hne : s ≠ s' := fun heq => hs (congrArg some heq.symm)
      exact HandshakeServer.view_readOp hr (Option.ite_none_right_eq_some.mp h).2 hne
  | tryMovingDeviceToUsing s' written =>
      have hne : s ≠ s' := fun heq => hs (congrArg some heq.symm)
      exact HandshakeServer.view_tryMovingDeviceToUsing hr
        (Option.ite_none_right_eq_some.mp h).2 hne
  | onNewConnection s' outcome isDeviceRemoved written =>
      have hne : s ≠ s' := fun heq => hs (congrArg some heq.symm)
      exact HandshakeServer.view_onNewConnection hr (Option.ite_none_right_eq_some.mp h).2 hne
  | releaseDevice s' isDeviceRemoved =>
      have hne : s ≠ s' := fun heq => hs (congrArg some heq.symm)
      obtain ⟨server', hreleased, rfl⟩ :=
        Option.map_eq_some_iff.mp (Option.ite_none_right_eq_some.mp h).2
      rw [HandshakeServer.view_setStage_of_ne _ hne,
        HandshakeServer.view_onRegistry hr hreleased hs]

/-- The registry takes at most one step of its own. -/
theorem registry_of_step (h : server.step a = some t) :
    t.registry = server.registry ∨ ∃ b, server.registry.step UsbDevice.busid b = some t.registry ∧
      ∀ device, b = .addDevice device → a = .addDevice device := by
  have hregistry {b : RegistryAction UsbDevice (List UInt8) Session}
      {server server' : HandshakeServer Session} (h : server.onRegistry b = some server') :
      server.registry.step UsbDevice.busid b = some server'.registry := by
    obtain ⟨registry, hstep, rfl⟩ := HandshakeServer.onRegistry_eq_some h
    exact hstep
  cases a with
  | addDevice device =>
      refine .inr ⟨.addDevice device, hregistry h, fun d heq => ?_⟩
      cases heq
      rfl
  | detachAvailableDevice k =>
      exact .inr ⟨.detachAvailableDevice k, hregistry h, fun d heq => by cases heq⟩
  | readOp s written =>
      have h := (Option.ite_none_right_eq_some.mp h).2
      unfold HandshakeServer.readOp at h
      split at h
      · obtain rfl := Option.some.inj h
        exact .inl rfl
      · rename_i op rest hop
        cases op with
        | opReqDevlist req =>
            obtain rfl := Option.some.inj h
            exact .inl rfl
        | opReqImport req =>
            obtain ⟨server', hasked, rfl⟩ := Option.map_eq_some_iff.mp h
            refine .inr ⟨.isDeviceUsing s req.wantedBusid, (hregistry hasked).trans ?_,
              fun d heq => by cases heq⟩
            split <;> rfl
  | tryMovingDeviceToUsing s written =>
      obtain ⟨server', hmoved, rfl⟩ :=
        Option.map_eq_some_iff.mp (Option.ite_none_right_eq_some.mp h).2
      refine .inr ⟨.tryMovingDeviceToUsing s, (hregistry hmoved).trans ?_,
        fun d heq => by cases heq⟩
      split <;> rfl
  | onNewConnection s outcome isDeviceRemoved written =>
      have h := (Option.ite_none_right_eq_some.mp h).2
      unfold HandshakeServer.onNewConnection at h
      split at h
      · cases outcome with
        | succeeded | threw =>
            obtain rfl := Option.some.inj h
            exact .inl rfl
        | failed =>
            obtain ⟨server', hreleased, rfl⟩ := Option.map_eq_some_iff.mp h
            exact .inr ⟨.releaseDevice s isDeviceRemoved, (hregistry hreleased).trans rfl,
              fun d heq => by cases heq⟩
      · cases h
  | releaseDevice s isDeviceRemoved =>
      obtain ⟨server', hreleased, rfl⟩ :=
        Option.map_eq_some_iff.mp (Option.ite_none_right_eq_some.mp h).2
      exact .inr ⟨.releaseDevice s isDeviceRemoved, (hregistry hreleased).trans rfl,
        fun d heq => by cases heq⟩

/-- The registry is sound, and its devices fit where a reply keeps them. -/
structure Sound (server : HandshakeServer Session) : Prop where
  wellFormed : WellFormed UsbDevice.busid server.registry
  representable : ∀ device, server.registry.Has device → device.Representable

theorem Sound.step (h : Sound server) (hstep : server.step a = some t)
    (hadded : ∀ device, a = .addDevice device → device.Representable) : Sound t := by
  rcases registry_of_step hstep with heq | ⟨b, hregistry, hb⟩
  · exact ⟨heq ▸ h.wellFormed, heq ▸ h.representable⟩
  · refine ⟨wellFormed_step h.wellFormed hregistry, fun device hdevice => ?_⟩
    rcases has_of_step h.wellFormed hregistry hdevice with hhas | hnew
    · exact h.representable device hhas
    · exact hadded device (hb device hnew)

/-- What the server writes to a session before the transfer begins. -/
inductive OpReply where
  | opRepDevlist (reply : OpRepDevlist)
  | opRepImport (reply : OpRepImport)

def OpReply.toBytes : OpReply → List UInt8
  | .opRepDevlist reply => reply.toBytes
  | .opRepImport reply => reply.toBytes

/-- The reply is true of the server at the moment at which the step settles it. -/
inductive Settles (server : HandshakeServer Session) (s : Session) :
    OpCmdVariant → HandshakeAction Session → OpReply → Prop
  | devlist (req : OpReqDevlist) (written : Nat) :
      Settles server s (.opReqDevlist req) (.readOp s written)
        (.opRepDevlist (.createFromDevices server.registry.availableDevices))
  | inUse {req : OpReqImport} (written : Nat)
      (husing : server.registry.usingDevices req.wantedBusid ≠ none) :
      Settles server s (.opReqImport req) (.readOp s written)
        (.opRepImport (.createOnFailureWithStatus OperationStatuType.na))
  | notFound {req : OpReqImport} (written : Nat)
      (hlookup : lookup UsbDevice.busid req.wantedBusid server.registry.availableDevices = none) :
      Settles server s (.opReqImport req) (.tryMovingDeviceToUsing s written)
        (.opRepImport (.createOnFailureWithStatus OperationStatuType.noDev))
  | openFailed {req : OpReqImport} {device : UsbDevice} (isDeviceRemoved : Bool) (written : Nat)
      (hpc : server.registry.sessions s = .importing req.wantedBusid device) :
      Settles server s (.opReqImport req) (.onNewConnection s .failed isDeviceRemoved written)
        (.opRepImport (.createOnFailureWithStatus OperationStatuType.na))
  | imported {req : OpReqImport} {device : UsbDevice} (isDeviceRemoved : Bool) (written : Nat)
      (hpc : server.registry.sessions s = .importing req.wantedBusid device) :
      Settles server s (.opReqImport req) (.onNewConnection s .succeeded isDeviceRemoved written)
        (.opRepImport (.createOnSuccess device))

variable (devices : List UsbDevice) (requests : Session → List UInt8)

/-- A step on the way has settled the reply. -/
def Settled (actions : List (HandshakeAction Session)) (s : Session) (op : OpCmdVariant)
    (reply : OpReply) : Prop :=
  ∃ before a server, before ++ [a] <+: actions ∧
    (system devices requests).run (.start devices requests) before = some server ∧
    Settles server s op a reply

/-- What a session has been told, by the stage of its thread. -/
inductive Told (actions : List (HandshakeAction Session)) (s : Session) :
    SessionPc UsbDevice (List UInt8) × List UInt8 × Stage × List UInt8 → Prop
  | connected : Told actions s (.connected, requests s, .connected, [])
  | looking {req : OpReqImport} {rest : List UInt8}
      (hop : getOpFromSocket (requests s) = .ok (.opReqImport req, rest)) :
      Told actions s (.notUsing req.wantedBusid, rest, .looking, [])
  | opening {req : OpReqImport} {device : UsbDevice} {rest : List UInt8}
      (hop : getOpFromSocket (requests s) = .ok (.opReqImport req, rest)) :
      Told actions s (.importing req.wantedBusid device, rest, .opening, [])
  | transferring {req : OpReqImport} {device : UsbDevice} {rest sent : List UInt8}
      (hop : getOpFromSocket (requests s) = .ok (.opReqImport req, rest))
      (hsettled : Settled devices requests actions s (.opReqImport req)
        (.opRepImport (.createOnSuccess device)))
      (hsent : sent <+: (OpRepImport.createOnSuccess device).toBytes) :
      Told actions s (.importing req.wantedBusid device, rest, .transferring, sent)
  | refused {e : OpError} (hop : getOpFromSocket (requests s) = .error e) :
      Told actions s (.connected, requests s, .closed, [])
  | threw {op : OpCmdVariant} {rest : List UInt8} {pc : SessionPc UsbDevice (List UInt8)}
      (hop : getOpFromSocket (requests s) = .ok (op, rest)) : Told actions s (pc, rest, .closed, [])
  | closed {op : OpCmdVariant} {reply : OpReply} {rest sent : List UInt8}
      {pc : SessionPc UsbDevice (List UInt8)}
      (hop : getOpFromSocket (requests s) = .ok (op, rest))
      (hsettled : Settled devices requests actions s op reply) (hsent : sent <+: reply.toBytes)
      (hreleased : ∀ device, reply = .opRepImport (.createOnSuccess device) →
        ∃ isDeviceRemoved, .releaseDevice s isDeviceRemoved ∈ actions) :
      Told actions s (pc, rest, .closed, sent)

variable {devices requests} {actions : List (HandshakeAction Session)}

theorem Settled.concat {op : OpCmdVariant} {reply : OpReply}
    (h : Settled devices requests actions s op reply) (a : HandshakeAction Session) :
    Settled devices requests (actions ++ [a]) s op reply := by
  obtain ⟨before, b, server, hbefore, hrun, hsettles⟩ := h
  exact ⟨before, b, server, hbefore.trans (List.prefix_append _ _), hrun, hsettles⟩

theorem settled_now {op : OpCmdVariant} {reply : OpReply}
    (hrun : (system devices requests).run (.start devices requests) actions = some server)
    (h : Settles server s op a reply) : Settled devices requests (actions ++ [a]) s op reply :=
  ⟨actions, a, server, List.prefix_rfl, hrun, h⟩

theorem Told.concat {view : SessionPc UsbDevice (List UInt8) × List UInt8 × Stage × List UInt8}
    (h : Told devices requests actions s view) (a : HandshakeAction Session) :
    Told devices requests (actions ++ [a]) s view := by
  cases h with
  | connected => exact .connected
  | looking hop => exact .looking hop
  | opening hop => exact .opening hop
  | transferring hop hsettled hsent => exact .transferring hop (hsettled.concat a) hsent
  | refused hop => exact .refused hop
  | threw hop => exact .threw hop
  | closed hop hsettled hsent hreleased =>
      refine .closed hop (hsettled.concat a) hsent fun device hdevice => ?_
      obtain ⟨isDeviceRemoved, hmem⟩ := hreleased device hdevice
      exact ⟨isDeviceRemoved, List.mem_append_left _ hmem⟩

theorem told_readOp {written : Nat}
    (hrun : (system devices requests).run (.start devices requests) actions = some server)
    (htold : Told devices requests actions s (server.view s))
    (hstep : server.step (.readOp s written) = some t) :
    Told devices requests (actions ++ [.readOp s written]) s (t.view s) := by
  obtain ⟨hstage, hstep⟩ := Option.ite_none_right_eq_some.mp hstep
  obtain ⟨hpc, hunread, hsent⟩ : server.registry.sessions s = .connected ∧
      server.unread s = requests s ∧ server.sent s = [] := by
    generalize hview : server.view s = view at htold
    cases htold <;> simp_all [HandshakeServer.view]
  unfold HandshakeServer.readOp at hstep
  rw [hunread] at hstep
  split at hstep
  · rename_i e hop
    obtain rfl := Option.some.inj hstep
    rw [HandshakeServer.view_setStage_self, hpc, hunread, hsent]
    exact .refused hop
  · rename_i op rest hop
    cases op with
    | opReqDevlist req =>
        obtain rfl := Option.some.inj hstep
        rw [HandshakeServer.view_setStage_self]
        refine .closed ?_ (settled_now hrun (.devlist req written)) ?_
          fun device heq => by cases heq
        · simpa using hop
        · simpa [hsent, OpReply.toBytes] using List.take_prefix _ _
    | opReqImport req =>
        obtain ⟨server', hasked, rfl⟩ := Option.map_eq_some_iff.mp hstep
        obtain ⟨registry, hregistry, rfl⟩ := HandshakeServer.onRegistry_eq_some hasked
        simp only [HandshakeServer.registry_setUnread, Registry.step, hpc,
          Option.some.injEq] at hregistry
        subst hregistry
        rcases Bool.eq_false_or_eq_true
          ((server.setUnread s rest).registry.isDeviceUsing req.wantedBusid) with husing | husing
        · rw [if_pos husing, HandshakeServer.view_setStage_self]
          refine .closed ?_
            (settled_now hrun (.inUse written (Option.isSome_iff_ne_none.mp husing))) ?_
            fun device heq => by cases heq
          · simpa using hop
          · simpa [hsent, OpReply.toBytes] using List.take_prefix _ _
        · rw [if_neg (ne_true_of_eq_false husing), HandshakeServer.view_setStage_self]
          rw [HandshakeServer.registry_setUnread] at husing
          have htold : Told devices requests (actions ++ [.readOp s written]) s
              (.notUsing req.wantedBusid, rest, .looking, []) := .looking hop
          simpa [Registry.setSession, husing, hsent] using htold

theorem told_tryMovingDeviceToUsing {written : Nat}
    (hrun : (system devices requests).run (.start devices requests) actions = some server)
    (htold : Told devices requests actions s (server.view s))
    (hstep : server.step (.tryMovingDeviceToUsing s written) = some t) :
    Told devices requests (actions ++ [.tryMovingDeviceToUsing s written]) s (t.view s) := by
  obtain ⟨hstage, hstep⟩ := Option.ite_none_right_eq_some.mp hstep
  obtain ⟨req, hop, hpc, hsent⟩ : ∃ req,
      getOpFromSocket (requests s) = .ok (.opReqImport req, server.unread s) ∧
        server.registry.sessions s = .notUsing req.wantedBusid ∧ server.sent s = [] := by
    generalize hview : server.view s = view at htold
    cases htold <;> simp_all [HandshakeServer.view]
  obtain ⟨server', hmoved, rfl⟩ := Option.map_eq_some_iff.mp hstep
  obtain ⟨registry, hregistry, rfl⟩ := HandshakeServer.onRegistry_eq_some hmoved
  simp only [Registry.step, hpc, Registry.tryMovingDeviceToUsing] at hregistry
  cases hlookup : lookup UsbDevice.busid req.wantedBusid server.registry.availableDevices with
  | some device =>
      obtain rfl := by simpa only [hlookup, Option.some.injEq] using hregistry
      have htold : Told devices requests (actions ++ [.tryMovingDeviceToUsing s written]) s
          (.importing req.wantedBusid device, server.unread s, .opening, []) := .opening hop
      simpa [Registry.setSession, hsent] using htold
  | none =>
      obtain rfl := by simpa only [hlookup, Option.some.injEq] using hregistry
      simp only [Registry.setSession, Function.update_self]
      rw [HandshakeServer.view_setStage_self]
      refine .closed ?_ (settled_now hrun (.notFound written hlookup)) ?_
        fun device heq => by cases heq
      · simpa using hop
      · simpa [hsent, OpReply.toBytes] using List.take_prefix _ _

theorem told_onNewConnection {outcome : CallOutcome} {isDeviceRemoved : Bool} {written : Nat}
    (hrun : (system devices requests).run (.start devices requests) actions = some server)
    (htold : Told devices requests actions s (server.view s))
    (hstep : server.step (.onNewConnection s outcome isDeviceRemoved written) = some t) :
    Told devices requests (actions ++ [.onNewConnection s outcome isDeviceRemoved written]) s
      (t.view s) := by
  obtain ⟨hstage, hstep⟩ := Option.ite_none_right_eq_some.mp hstep
  obtain ⟨req, device, hop, hpc, hsent⟩ : ∃ req device,
      getOpFromSocket (requests s) = .ok (.opReqImport req, server.unread s) ∧
        server.registry.sessions s = .importing req.wantedBusid device ∧ server.sent s = [] := by
    generalize hview : server.view s = view at htold
    cases htold <;> simp_all [HandshakeServer.view]
  simp only [HandshakeServer.onNewConnection, hpc] at hstep
  cases outcome with
  | succeeded =>
      obtain rfl := Option.some.inj hstep
      rw [HandshakeServer.view_setStage_self, HandshakeServer.registry_write, hpc]
      refine .transferring ?_ (settled_now hrun (.imported isDeviceRemoved written hpc)) ?_
      · simpa using hop
      · simpa [hsent] using List.take_prefix _ _
  | failed =>
      obtain ⟨server', hreleased, rfl⟩ := Option.map_eq_some_iff.mp hstep
      obtain ⟨registry, -, rfl⟩ := HandshakeServer.onRegistry_eq_some hreleased
      rw [HandshakeServer.view_setStage_self]
      refine .closed ?_
        (settled_now hrun (.openFailed isDeviceRemoved written hpc)) ?_
        fun device heq => by cases heq
      · simpa using hop
      · simpa [hsent, OpReply.toBytes] using List.take_prefix _ _
  | threw =>
      obtain rfl := Option.some.inj hstep
      rw [HandshakeServer.view_setStage_self, hsent]
      exact .threw hop

theorem told_releaseDevice {isDeviceRemoved : Bool}
    (htold : Told devices requests actions s (server.view s))
    (hstep : server.step (.releaseDevice s isDeviceRemoved) = some t) :
    Told devices requests (actions ++ [.releaseDevice s isDeviceRemoved]) s (t.view s) := by
  obtain ⟨hstage, hstep⟩ := Option.ite_none_right_eq_some.mp hstep
  obtain ⟨req, device, hop, hsettled, hsent⟩ : ∃ req device,
      getOpFromSocket (requests s) = .ok (.opReqImport req, server.unread s) ∧
        Settled devices requests actions s (.opReqImport req)
          (.opRepImport (.createOnSuccess device)) ∧
        server.sent s <+: (OpRepImport.createOnSuccess device).toBytes := by
    generalize hview : server.view s = view at htold
    cases htold with
    | transferring hop hsettled hsent =>
        obtain ⟨-, rfl, -, rfl⟩ := by simpa [HandshakeServer.view] using hview
        exact ⟨_, _, hop, hsettled, hsent⟩
    | _ => simp_all [HandshakeServer.view]
  obtain ⟨server', hreleased, rfl⟩ := Option.map_eq_some_iff.mp hstep
  obtain ⟨registry, -, rfl⟩ := HandshakeServer.onRegistry_eq_some hreleased
  rw [HandshakeServer.view_setStage_self]
  exact .closed hop (hsettled.concat _) hsent fun _ _ =>
    ⟨isDeviceRemoved, List.mem_append_right _ List.mem_cons_self⟩

theorem told_step (hrun : (system devices requests).run (.start devices requests) actions =
      some server)
    (hsound : Sound server) (htold : ∀ s, Told devices requests actions s (server.view s))
    (hstep : server.step a = some t) (s : Session) :
    Told devices requests (actions ++ [a]) s (t.view s) := by
  rcases ne_or_eq a.session (some s) with hother | hown
  · rw [view_of_step hsound.wellFormed hstep hother]
    exact (htold s).concat a
  · cases a with
    | addDevice device => cases hown
    | detachAvailableDevice k => cases hown
    | readOp s' written =>
        cases hown
        exact told_readOp hrun (htold _) hstep
    | tryMovingDeviceToUsing s' written =>
        cases hown
        exact told_tryMovingDeviceToUsing hrun (htold _) hstep
    | onNewConnection s' outcome isDeviceRemoved written =>
        cases hown
        exact told_onNewConnection hrun (htold _) hstep
    | releaseDevice s' isDeviceRemoved =>
        cases hown
        exact told_releaseDevice (htold _) hstep

omit [DecidableEq Session] in
theorem sound_start (hdevices : Distinct UsbDevice.busid devices)
    (hfit : ∀ device ∈ devices, device.Representable) :
    Sound (.start devices requests : HandshakeServer Session) where
  wellFormed := wellFormed_ofDevices hdevices
  representable device hdevice := by
    rcases hdevice with hmem | ⟨k, husing⟩
    · exact hfit device hmem
    · cases husing

theorem told_of_run (hdevices : Distinct UsbDevice.busid devices)
    (hfit : ∀ device ∈ devices, device.Representable)
    (hadded : ∀ device, .addDevice device ∈ actions → device.Representable)
    (hrun : (system devices requests).run (.start devices requests) actions = some server) :
    Sound server ∧ ∀ s, Told devices requests actions s (server.view s) := by
  induction actions using List.reverseRecOn generalizing server with
  | nil =>
      obtain rfl : .start devices requests = server := Option.some.inj hrun
      exact ⟨sound_start hdevices hfit, fun s => .connected⟩
  | append_singleton actions a ih =>
      obtain ⟨before, hbefore, hstep⟩ := System.run_concat.mp hrun
      obtain ⟨hsound, htold⟩ :=
        ih (fun device hmem => hadded device (List.mem_append_left _ hmem)) hbefore
      refine ⟨hsound.step hstep fun device heq => hadded device ?_,
        told_step hbefore hsound htold hstep⟩
      exact List.mem_append_right _ (by rw [heq]; exact List.mem_cons_self)

variable (devices requests actions) in
/-- At some moment of the run the server was as `P` says. -/
def AtSomeMoment (P : HandshakeServer Session → Prop) : Prop :=
  ∃ before server, before <+: actions ∧
    (system devices requests).run (.start devices requests) before = some server ∧ P server

/-- The session has the device, and nobody else has. -/
structure HoldsAlone (server : HandshakeServer Session) (s : Session) (device : UsbDevice) :
    Prop where
  importing : server.registry.sessions s = .importing device.busid device
  using_ : server.registry.usingDevices device.busid = some device
  notAvailable : ∀ other ∈ server.registry.availableDevices, other.busid ≠ device.busid
  alone : ∀ s' other, server.registry.sessions s' = .importing device.busid other → s' = s

omit [DecidableEq Session] in
theorem holdsAlone_of_importing (hsound : Sound server) {k : List UInt8} {device : UsbDevice}
    (hpc : server.registry.sessions s = .importing k device) :
    k = device.busid ∧ HoldsAlone server s device := by
  have husing := hsound.wellFormed.held s k device hpc
  obtain rfl := hsound.wellFormed.keyed k device husing
  refine ⟨rfl, hpc, husing, fun other hother heq => ?_, fun s' other hpc' =>
    hsound.wellFormed.exclusive s' s _ other device hpc' hpc⟩
  have hfree := hsound.wellFormed.disjoint other hother
  rw [heq, husing] at hfree
  cases hfree

/-- What a session's client can take for an answer to a devlist request: the devices that were
available at some moment of the run. -/
def ListsDevices (devices : List UsbDevice) (requests : Session → List UInt8)
    (actions : List (HandshakeAction Session)) (sent : List UInt8) : Prop :=
  ∀ received left, readReply OpRepDevlist.fromSocket sent = .ok (received, left) →
    AtSomeMoment devices requests actions fun server =>
      server.registry.availableDevices.length < 2 ^ 32 →
        received = (usbipVersion, opRepDevlist,
          .createFromDevices server.registry.availableDevices) ∧ left = []

/-- What it can take for an answer to an import request: the device with the busid that it has
asked for, which its session has alone as long as it has not released it; or a refusal. -/
def AnswersImport (devices : List UsbDevice) (requests : Session → List UInt8)
    (actions : List (HandshakeAction Session)) (server : HandshakeServer Session) (s : Session)
    (busid : List UInt8) : Prop :=
  ∀ received left, readReply (OpRepImport.fromSocket ⟨0, none⟩) (server.sent s) =
      .ok (received, left) →
    left = [] ∧ ∃ reply, received = (usbipVersion, opRepImport, reply) ∧
      ((∃ device : UsbDevice, device.busid = busid ∧
          reply = .createOnSuccess device.withoutBodies ∧
          (HoldsAlone server s device ∨
            ∃ isDeviceRemoved, .releaseDevice s isDeviceRemoved ∈ actions)) ∨
        (reply = .createOnFailureWithStatus OperationStatuType.na ∧
          AtSomeMoment devices requests actions fun server =>
            server.registry.usingDevices busid ≠ none) ∨
        (reply = .createOnFailureWithStatus OperationStatuType.noDev ∧
          AtSomeMoment devices requests actions fun server =>
            ∀ device ∈ server.registry.availableDevices, device.busid ≠ busid))

theorem Settled.moment (hdevices : Distinct UsbDevice.busid devices)
    (hfit : ∀ device ∈ devices, device.Representable)
    (hadded : ∀ device, .addDevice device ∈ actions → device.Representable) {op : OpCmdVariant}
    {reply : OpReply} (h : Settled devices requests actions s op reply) :
    ∃ before a server, before <+: actions ∧
      (system devices requests).run (.start devices requests) before = some server ∧
      Sound server ∧ Settles server s op a reply := by
  obtain ⟨before, a, server, hbefore, hrun, hsettles⟩ := h
  have hprefix : before <+: actions := (List.prefix_append before [a]).trans hbefore
  have hsound := (told_of_run hdevices hfit
    (fun device hmem => hadded device (List.IsPrefix.subset hprefix hmem)) hrun).1
  exact ⟨before, a, server, hprefix, hrun, hsound, hsettles⟩

theorem listsDevices_of_told (hdevices : Distinct UsbDevice.busid devices)
    (hfit : ∀ device ∈ devices, device.Representable)
    (hadded : ∀ device, .addDevice device ∈ actions → device.Representable)
    {req : OpReqDevlist} {rest : List UInt8}
    (hop : getOpFromSocket (requests s) = .ok (.opReqDevlist req, rest))
    (htold : Told devices requests actions s (server.view s)) :
    ListsDevices devices requests actions (server.sent s) := by
  intro received left hread
  generalize hview : server.view s = view at htold
  obtain ⟨pc, unread, stage, sent⟩ := view
  rw [show server.sent s = sent from congrArg (fun v => v.2.2.2) hview] at hread
  cases htold with
  | closed hop' hsettled hsent hreleased =>
      rw [hop] at hop'
      obtain ⟨rfl, rfl⟩ := Prod.mk.inj (Except.ok.inj hop')
      obtain ⟨before, a, mid, hbefore, hrun, hsound, hsettles⟩ :=
        hsettled.moment hdevices hfit hadded
      cases hsettles with
      | devlist _ written =>
          exact ⟨before, mid, hbefore, hrun, fun hlength => read_devlist hlength
            (fun device hdevice => hsound.representable device (.inl hdevice)) hsent hread⟩
  | connected | looking _ | opening _ | threw _ => exact absurd hread not_read_of_nil
  | transferring hop' _ _ | refused hop' => rw [hop] at hop'; cases hop'

/-- A success was settled when the session had moved the device. -/
theorem answersImport_of_success {req : OpReqImport} {device : UsbDevice}
    {sent left : List UInt8} {received : UInt16 × UInt16 × OpRepImport}
    (hdevices : Distinct UsbDevice.busid devices)
    (hfit : ∀ device ∈ devices, device.Representable)
    (hadded : ∀ device, .addDevice device ∈ actions → device.Representable)
    (hsettled : Settled devices requests actions s (.opReqImport req)
      (.opRepImport (.createOnSuccess device)))
    (hsent : sent <+: (OpRepImport.createOnSuccess device).toBytes)
    (hread : readReply (OpRepImport.fromSocket ⟨0, none⟩) sent = .ok (received, left)) :
    device.busid = req.wantedBusid ∧ left = [] ∧
      received = (usbipVersion, opRepImport, .createOnSuccess device.withoutBodies) := by
  obtain ⟨before, a, mid, hbefore, hrun, hsound, hsettles⟩ :=
    hsettled.moment hdevices hfit hadded
  cases hsettles with
  | imported isDeviceRemoved written hpc =>
      obtain ⟨hbusid, halone⟩ := holdsAlone_of_importing hsound hpc
      obtain ⟨hreceived, hleft⟩ :=
        read_import_success (hsound.representable device (.inr ⟨_, halone.using_⟩)) hsent hread
      exact ⟨hbusid.symm, hleft, hreceived⟩

theorem answersImport_of_told (hdevices : Distinct UsbDevice.busid devices)
    (hfit : ∀ device ∈ devices, device.Representable)
    (hadded : ∀ device, .addDevice device ∈ actions → device.Representable)
    {req : OpReqImport} {rest : List UInt8}
    (hop : getOpFromSocket (requests s) = .ok (.opReqImport req, rest)) (hsound : Sound server)
    (htold : Told devices requests actions s (server.view s)) :
    AnswersImport devices requests actions server s req.wantedBusid := by
  intro received left hread
  generalize hview : server.view s = view at htold
  obtain ⟨pc, unread, stage, sent⟩ := view
  rw [show server.sent s = sent from congrArg (fun v => v.2.2.2) hview] at hread
  have hpc : server.registry.sessions s = pc := congrArg (fun v => v.1) hview
  cases htold with
  | transferring hop' hsettled hsent =>
      rw [hop] at hop'
      obtain ⟨hreq, rfl⟩ := Prod.mk.inj (Except.ok.inj hop')
      obtain rfl := OpCmdVariant.opReqImport.inj hreq
      obtain ⟨hbusid, rfl, rfl⟩ :=
        answersImport_of_success hdevices hfit hadded hsettled hsent hread
      exact ⟨rfl, _, rfl, .inl ⟨_, hbusid, rfl, .inl (holdsAlone_of_importing hsound hpc).2⟩⟩
  | closed hop' hsettled hsent hreleased =>
      rw [hop] at hop'
      obtain ⟨rfl, rfl⟩ := Prod.mk.inj (Except.ok.inj hop')
      obtain ⟨before, a, mid, hbefore, hrun, hmid, hsettles⟩ :=
        hsettled.moment hdevices hfit hadded
      cases hsettles with
      | inUse written husing =>
          obtain ⟨rfl, rfl⟩ := read_import_failure (by decide) hsent hread
          exact ⟨rfl, _, rfl, .inr (.inl ⟨rfl, before, mid, hbefore, hrun, husing⟩)⟩
      | notFound written hlookup =>
          obtain ⟨rfl, rfl⟩ := read_import_failure (by decide) hsent hread
          exact ⟨rfl, _, rfl,
            .inr (.inr ⟨rfl, before, mid, hbefore, hrun, lookup_eq_none_iff.mp hlookup⟩)⟩
      | openFailed isDeviceRemoved written hmidPc =>
          obtain ⟨rfl, rfl⟩ := read_import_failure (by decide) hsent hread
          have husing := hmid.wellFormed.held s _ _ hmidPc
          exact ⟨rfl, _, rfl, .inr (.inl ⟨rfl, before, mid, hbefore, hrun,
            fun hfree => by rw [hfree] at husing; cases husing⟩)⟩
      | imported isDeviceRemoved written hmidPc =>
          obtain ⟨hbusid, rfl, rfl⟩ :=
            answersImport_of_success hdevices hfit hadded hsettled hsent hread
          exact ⟨rfl, _, rfl, .inl ⟨_, hbusid, rfl, .inr (hreleased _ rfl)⟩⟩
  | connected | looking _ | opening _ | threw _ => exact absurd hread not_read_of_nil
  | refused hop' => rw [hop] at hop'; cases hop'

/-- Whatever the sessions do in between and wherever a write breaks off, a request takes its own
bytes off the stream of its session and no others, and what its client can read for a reply is
true: the devices that were available, the device that its session now has alone until it
releases it, or the reason of a refusal.  A session whose request is not understood is sent
nothing and touches no device. -/
theorem requests_answered (hdevices : Distinct UsbDevice.busid devices)
    (hfit : ∀ device ∈ devices, device.Representable)
    (hadded : ∀ device, .addDevice device ∈ actions → device.Representable)
    (hrun : (system devices requests).run (.start devices requests) actions = some server)
    (s : Session) :
    match getOpFromSocket (requests s) with
    | .error _ => server.sent s = [] ∧ server.registry.sessions s = .connected
    | .ok (op, rest) =>
        Takes op.size (requests s) rest ∧
          (server.stage s = .connected ∨ server.unread s = rest) ∧
          match op with
          | .opReqDevlist _ => ListsDevices devices requests actions (server.sent s)
          | .opReqImport req =>
              AnswersImport devices requests actions server s req.wantedBusid := by
  obtain ⟨hsound, htold⟩ := told_of_run hdevices hfit hadded hrun
  have htold := htold s
  cases hop : getOpFromSocket (requests s) with
  | error e =>
      generalize hview : server.view s = view at htold
      cases htold <;> simp_all [HandshakeServer.view]
  | ok read =>
      obtain ⟨op, rest⟩ := read
      refine ⟨takes_of_getOpFromSocket hop, ?_, ?_⟩
      · generalize hview : server.view s = view at htold
        cases htold <;> simp_all [HandshakeServer.view]
      · cases op with
        | opReqDevlist req => exact listsDevices_of_told hdevices hfit hadded hop htold
        | opReqImport req => exact answersImport_of_told hdevices hfit hadded hop hsound htold

/-- The client of session 0 asks for the keyboard and has a byte of a command behind that; the
client of session 1 asks for the list of devices. -/
def twoRequests : Nat → List UInt8
  | 0 => (OpCmdVariant.opReqImport ⟨0, nulPadded 32 keyboard.busid⟩).toBytes ++ [0xAB]
  | 1 => (OpCmdVariant.opReqDevlist ⟨0⟩).toBytes
  | _ => []

/-- The first import and the list that is sent while the device is being opened. -/
def importAndList : List (HandshakeAction Nat) :=
  [.readOp 0 8, .tryMovingDeviceToUsing 0 8, .readOp 1 12, .onNewConnection 0 .succeeded false 320]

theorem requests_answered_instance :
    ∃ server, (system [keyboard] twoRequests).run (.start [keyboard] twoRequests) importAndList =
        some server ∧
      server.stage 0 = .transferring ∧ server.unread 0 = [0xAB] ∧
      AnswersImport [keyboard] twoRequests importAndList server 0 keyboard.busid ∧
      ListsDevices [keyboard] twoRequests importAndList (server.sent 1) := by
  have hfit : ∀ device ∈ [keyboard], device.Representable := by
    intro device hdevice
    obtain rfl := List.mem_singleton.mp hdevice
    exact ⟨by decide, by decide, by decide, by decide, by decide, by decide, by decide⟩
  have hadded : ∀ device, .addDevice device ∈ importAndList → device.Representable := by
    intro device hdevice
    simp [importAndList] at hdevice
  obtain ⟨server, hrun, hstage⟩ : ∃ server,
      (system [keyboard] twoRequests).run (.start [keyboard] twoRequests) importAndList =
        some server ∧ server.stage 0 = .transferring :=
    ⟨_, rfl, rfl⟩
  have hop : getOpFromSocket (twoRequests 0) =
      .ok (.opReqImport ⟨0, nulPadded 32 keyboard.busid⟩, [0xAB]) :=
    decodes_getOpFromSocket (show OpCmdVariant.WellFormed (.opReqImport ⟨0, _⟩) from
      length_nulPadded 32 keyboard.busid) [0xAB]
  have hlistOp : getOpFromSocket (twoRequests 1) = .ok (.opReqDevlist ⟨0⟩, []) :=
    decodes_getOpFromSocket (show OpCmdVariant.WellFormed (.opReqDevlist ⟨0⟩) from trivial) []
  have hbusid : OpReqImport.wantedBusid ⟨0, nulPadded 32 keyboard.busid⟩ = keyboard.busid :=
    OpReqImport.wantedBusid_nulPadded (by decide) (by decide) 0
  have hdistinct : Distinct UsbDevice.busid [keyboard] := List.nodup_singleton keyboard.busid
  have himport := requests_answered hdistinct hfit hadded hrun 0
  have hlist := requests_answered hdistinct hfit hadded hrun 1
  rw [hop] at himport
  rw [hlistOp] at hlist
  obtain ⟨-, hconnected | hunread, himport⟩ := himport
  · rw [hstage] at hconnected
    cases hconnected
  · exact ⟨server, hrun, hstage, hunread, hbusid ▸ himport, hlist.2.2⟩

end Usbipdcpp.Session.Handshake
