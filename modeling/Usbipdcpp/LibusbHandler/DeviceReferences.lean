import Usbipdcpp.Foundation.ReferenceLedger
import Usbipdcpp.Server.DeviceRegistry

namespace Usbipdcpp.LibusbHandler.DeviceReferences

open Foundation.KeyedList Foundation.ReferenceLedger Foundation.TransitionSystem
open Server.DeviceRegistry

inductive DeviceOperationResult where
  | success
  | deviceNotFound
  | deviceInUse
  | deviceAlreadyBound
  | getDescriptorFailed
  | getConfigFailed
  | hubFiltered
  | deviceFiltered
  deriving DecidableEq, Repr

/-- What libusb and the filters of the configuration say of a device that is to be bound, and the
device that is made of its descriptors. -/
inductive HostProbe (Device : Type) where
  | descriptorFailed
  | hub
  | filtered
  | configFailed
  | described (device : Device)

/-- A `LibusbServer` with the handlers there are and their `native_device_`, the references that
its callers hold, and those that libusb counts. -/
structure LibusbServer (Native Device Busid Session : Type) where
  registry : Registry Device Busid Session
  handlers : List (Device × Option Native)
  hands : List Native
  references : References Native

/-- One critical section of `devices_mutex` with what its call does to references around it.  A
device that has been looked up before it is bound comes with the outcome of the look, as another
thread can bind it or give it up in between. -/
inductive ReferenceAction (Native Device Busid Session : Type) where
  | findByBusid (found : Native)
  | unrefDevice (dev : Native)
  | bindHostDevice (dev : Native) (probe : HostProbe Device)
  | bindHostDeviceWithWrappedFd (device : Device)
  | unbindHostDevice (dev : Native) (targetBusid : Busid)
  | unbindHostDeviceByFd (targetBusid : Busid)
  | tryRemoveDeadDevice (busid : Busid)
  | notifyDeviceRemoved (busid : Busid)
  | handleDeviceLeft (busid : Busid)
  | handleDeviceArrived (dev : Native) (probe : Option (HostProbe Device))
  | bindExistingDevices (devs : List (Native × Option (HostProbe Device)))
  | registry (a : RegistryAction Device Busid Session)
  | destroyHandler (device : Device)
  | stop

variable {Native Device Busid Session : Type} [DecidableEq Native] [DecidableEq Device]
  [DecidableEq Busid] (busid : Device → Busid)

namespace LibusbServer

/-- The references that callers and handlers hold. -/
def held (s : LibusbServer Native Device Busid Session) : List Native :=
  s.hands ++ s.handlers.filterMap Prod.snd

def ref (dev : Native) (s : LibusbServer Native Device Busid Session) :
    LibusbServer Native Device Busid Session :=
  { s with references := s.references.ref dev }

def unref (dev : Native) (s : LibusbServer Native Device Busid Session) :
    LibusbServer Native Device Busid Session :=
  { s with references := s.references.unref dev }

/-- Whatever comes of it, the call takes over the reference to `dev`; a handler whose device is
not added is destroyed. -/
def bindHostDevice (dev : Native) (probe : HostProbe Device)
    (s : LibusbServer Native Device Busid Session) :
    DeviceOperationResult × LibusbServer Native Device Busid Session :=
  match probe with
  | .descriptorFailed => (.getDescriptorFailed, s.unref dev)
  | .hub => (.hubFiltered, s.unref dev)
  | .filtered => (.deviceFiltered, s.unref dev)
  | .configFailed => (.getConfigFailed, s.unref dev)
  | .described device =>
      match s.registry.addDevice busid device with
      | (.added, registry) =>
          (.success, { s with registry, handlers := (device, some dev) :: s.handlers })
      | (.inUse, _) => (.deviceInUse, s.unref dev)
      | (.alreadyBound, _) => (.deviceAlreadyBound, s.unref dev)

/-- A handler over a file descriptor has no `native_device_`. -/
def bindHostDeviceWithWrappedFd (device : Device)
    (s : LibusbServer Native Device Busid Session) :
    DeviceOperationResult × LibusbServer Native Device Busid Session :=
  match s.registry.addDevice busid device with
  | (.added, registry) =>
      (.success, { s with registry, handlers := (device, none) :: s.handlers })
  | (.inUse, _) => (.deviceInUse, s)
  | (.alreadyBound, _) => (.deviceAlreadyBound, s)

/-- The handler of the device, if it is one of libusb's, gives its reference back, and has none
when it is destroyed. -/
def releaseHandler (device : Device) (s : LibusbServer Native Device Busid Session) :
    LibusbServer Native Device Busid Session :=
  match lookup Prod.fst device s.handlers with
  | none => s
  | some (_, nativeDevice) =>
      let s := { s with handlers := remove Prod.fst device s.handlers }
      match nativeDevice with
      | none => s
      | some dev => s.unref dev

/-- `detach_available_device` with what its callers do to the handler of the device. -/
def detachDevice (k : Busid) (s : LibusbServer Native Device Busid Session) :
    Bool × LibusbServer Native Device Busid Session :=
  match s.registry.detachAvailableDevice busid k with
  | (some device, registry) => (true, { s with registry }.releaseHandler device)
  | (none, registry) => (false, { s with registry })

/-- The reference to `dev` is given back whether or not the device has been found. -/
def unbindHostDevice (dev : Native) (targetBusid : Busid)
    (s : LibusbServer Native Device Busid Session) :
    DeviceOperationResult × LibusbServer Native Device Busid Session :=
  match s.detachDevice busid targetBusid with
  | (true, s) => (.success, s.unref dev)
  | (false, s) =>
      (if s.registry.isDeviceUsing targetBusid then .deviceInUse else .deviceNotFound,
        s.unref dev)

/-- `libusb_ref_device`, and `bind_host_device` takes the reference over. -/
def bindUnknown (dev : Native) (probe : Option (HostProbe Device))
    (s : LibusbServer Native Device Busid Session) : LibusbServer Native Device Busid Session :=
  match probe with
  | none => s
  | some probe => ((s.ref dev).bindHostDevice busid dev probe).2

/-- The list of the devices holds a reference to each of them while it is gone through. -/
def bindExistingDevices (devs : List (Native × Option (HostProbe Device)))
    (s : LibusbServer Native Device Busid Session) : LibusbServer Native Device Busid Session :=
  let s := { s with references := s.references.refAll (devs.map Prod.fst) }
  let s := devs.foldl (fun s entry => s.bindUnknown busid entry.1 entry.2) s
  { s with references := s.references.unrefAll (devs.map Prod.fst) }

/-- `using_devices`, as far as its handlers are libusb's. -/
def usingHandled (s : LibusbServer Native Device Busid Session) : List Device :=
  (s.handlers.map Prod.fst).filter fun device =>
    s.registry.usingDevices (busid device) = some device

def stop (s : LibusbServer Native Device Busid Session) :
    LibusbServer Native Device Busid Session :=
  let s' := (s.registry.availableDevices ++ s.usingHandled busid).foldl
    (fun s device => s.releaseHandler device) s
  { s' with registry := { s'.registry with
      availableDevices := []
      usingDevices := fun _ => none } }

variable [DecidableEq Session]

def step (s : LibusbServer Native Device Busid Session) :
    ReferenceAction Native Device Busid Session →
      Option (LibusbServer Native Device Busid Session)
  | .findByBusid found => some { s.ref found with hands := found :: s.hands }
  | .unrefDevice dev =>
      if dev ∈ s.hands then some ({ s with hands := s.hands.erase dev }.unref dev) else none
  | .bindHostDevice dev probe =>
      if dev ∈ s.hands then
        some ({ s with hands := s.hands.erase dev }.bindHostDevice busid dev probe).2
      else none
  | .bindHostDeviceWithWrappedFd device => some (s.bindHostDeviceWithWrappedFd busid device).2
  | .unbindHostDevice dev targetBusid =>
      if dev ∈ s.hands then
        some ({ s with hands := s.hands.erase dev }.unbindHostDevice busid dev targetBusid).2
      else none
  | .unbindHostDeviceByFd targetBusid => some (s.detachDevice busid targetBusid).2
  | .tryRemoveDeadDevice k => some (s.detachDevice busid k).2
  | .notifyDeviceRemoved k => some (s.detachDevice busid k).2
  | .handleDeviceLeft k => some (s.detachDevice busid k).2
  | .handleDeviceArrived dev probe => some (s.bindUnknown busid dev probe)
  | .bindExistingDevices devs => some (s.bindExistingDevices busid devs)
  | .registry a => (s.registry.step busid a).map fun registry => { s with registry }
  -- the last `shared_ptr` to a device that the registry does not have any more
  | .destroyHandler device =>
      if device ∈ s.handlers.map Prod.fst ∧ device ∉ s.registry.availableDevices ∧
          s.registry.usingDevices (busid device) ≠ some device then
        some (s.releaseHandler device)
      else none
  | .stop => some (s.stop busid)

def initial : LibusbServer Native Device Busid Session :=
  ⟨.ofDevices [], [], [], .none⟩

def system (Native Session : Type) [DecidableEq Native] [DecidableEq Session] :
    System (LibusbServer Native Device Busid Session)
      (ReferenceAction Native Device Busid Session) where
  initial s := s = initial
  step := step busid

end LibusbServer

open LibusbServer hiding step

/-- What libusb counts is what callers and handlers hold, and `extra`, which a call holds on its
way. -/
def Kept (extra : List Native) (s : LibusbServer Native Device Busid Session) : Prop :=
  Balanced (extra ++ s.held) s.references

variable {busid} {s : LibusbServer Native Device Busid Session} {extra : List Native}
  {dev : Native}

omit [DecidableEq Device] [DecidableEq Busid] in
theorem kept_ref (h : Kept extra s) (dev : Native) : Kept (dev :: extra) (s.ref dev) :=
  Balanced.ref h dev

omit [DecidableEq Device] [DecidableEq Busid] in
theorem kept_unref (h : Kept (dev :: extra) s) : Kept extra (s.unref dev) :=
  Balanced.unref h

omit [DecidableEq Device] in
theorem kept_bindHostDevice (h : Kept (dev :: extra) s) (probe : HostProbe Device) :
    Kept extra (s.bindHostDevice busid dev probe).2 := by
  cases probe with
  | descriptorFailed => exact kept_unref h
  | hub => exact kept_unref h
  | filtered => exact kept_unref h
  | configFailed => exact kept_unref h
  | described device =>
      unfold LibusbServer.bindHostDevice
      dsimp only
      split
      next =>
        -- the reference goes from the call to the handler
        refine Balanced.perm h ?_
        change (dev :: (extra ++ (s.hands ++ _))).Perm (extra ++ (s.hands ++ (dev :: _)))
        rw [← List.append_assoc, ← List.append_assoc]
        exact List.perm_middle.symm
      next => exact kept_unref h
      next => exact kept_unref h

omit [DecidableEq Device] in
theorem kept_bindHostDeviceWithWrappedFd (h : Kept extra s) (device : Device) :
    Kept extra (s.bindHostDeviceWithWrappedFd busid device).2 := by
  unfold LibusbServer.bindHostDeviceWithWrappedFd
  split <;> exact h

omit [DecidableEq Busid] in
theorem kept_releaseHandler (h : Kept extra s) (device : Device) :
    Kept extra (s.releaseHandler device) := by
  unfold LibusbServer.releaseHandler
  cases hlookup : lookup Prod.fst device s.handlers with
  | none => exact h
  | some entry =>
      obtain ⟨device', nativeDevice⟩ := entry
      have hperm := (perm_cons_remove hlookup).filterMap Prod.snd
      cases nativeDevice with
      | none => exact Balanced.perm h ((hperm.append_left s.hands).append_left extra)
      | some dev =>
          refine Balanced.unref (Balanced.perm h ?_)
          refine ((hperm.append_left s.hands).append_left extra).trans ?_
          exact (List.perm_middle.append_left extra).trans List.perm_middle

theorem kept_detachDevice (h : Kept extra s) (k : Busid) :
    Kept extra (s.detachDevice busid k).2 := by
  unfold LibusbServer.detachDevice
  rcases s.registry.detachAvailableDevice busid k with ⟨_ | device, registry⟩
  · exact h
  · have hregistry : Kept extra { s with registry } := h
    exact kept_releaseHandler hregistry device

theorem kept_unbindHostDevice (h : Kept (dev :: extra) s) (k : Busid) :
    Kept extra (s.unbindHostDevice busid dev k).2 := by
  have hdetach : Kept (dev :: extra) (s.detachDevice busid k).2 := kept_detachDevice h k
  unfold LibusbServer.unbindHostDevice
  rcases hfound : s.detachDevice busid k with ⟨_ | _, t⟩ <;> rw [hfound] at hdetach <;>
    exact kept_unref hdetach

omit [DecidableEq Device] in
theorem kept_bindUnknown (h : Kept extra s) (dev : Native) (probe : Option (HostProbe Device)) :
    Kept extra (s.bindUnknown busid dev probe) := by
  cases probe with
  | none => exact h
  | some probe => exact kept_bindHostDevice (kept_ref h dev) probe

omit [DecidableEq Device] in
theorem kept_bindExistingDevices (h : Kept extra s)
    (devs : List (Native × Option (HostProbe Device))) :
    Kept extra (s.bindExistingDevices busid devs) := by
  have hlisted : Kept (devs.map Prod.fst ++ extra)
      { s with references := s.references.refAll (devs.map Prod.fst) } := by
    rw [Kept, List.append_assoc]
    exact Balanced.refAll h _
  have hbound : ∀ (entries : List (Native × Option (HostProbe Device)))
      {t : LibusbServer Native Device Busid Session},
      Kept (devs.map Prod.fst ++ extra) t → Kept (devs.map Prod.fst ++ extra)
        (entries.foldl (fun s entry => s.bindUnknown busid entry.1 entry.2) t) := by
    intro entries
    induction entries with
    | nil => exact fun ht => ht
    | cons entry entries ih => exact fun ht => ih (kept_bindUnknown ht entry.1 entry.2)
  have hall := hbound devs hlisted
  rw [Kept, List.append_assoc] at hall
  exact Balanced.unrefAll hall

omit [DecidableEq Busid] in
theorem kept_stop (h : Kept extra s) : Kept extra (s.stop busid) := by
  have hreleased : ∀ (devices : List Device) {t : LibusbServer Native Device Busid Session},
      Kept extra t → Kept extra (devices.foldl (fun s device => s.releaseHandler device) t) := by
    intro devices
    induction devices with
    | nil => exact fun ht => ht
    | cons device devices ih => exact fun ht => ih (kept_releaseHandler ht device)
  exact hreleased _ h

variable [DecidableEq Session]

omit [DecidableEq Device] [DecidableEq Busid] [DecidableEq Session] in
/-- A reference that a caller hands over is the call's. -/
theorem kept_of_hand (h : Kept [] s) (hdev : dev ∈ s.hands) :
    Kept [dev] { s with hands := s.hands.erase dev } :=
  Balanced.perm h ((List.perm_cons_erase hdev).append_right _)

theorem kept_step {t : LibusbServer Native Device Busid Session}
    {a : ReferenceAction Native Device Busid Session} (hs : Kept [] s)
    (h : s.step busid a = some t) : Kept [] t := by
  cases a with
  | findByBusid found =>
      obtain rfl := Option.some.inj h
      exact Balanced.ref hs found
  | unrefDevice dev =>
      simp only [LibusbServer.step, Option.ite_none_right_eq_some, Option.some.injEq] at h
      obtain ⟨hdev, rfl⟩ := h
      exact kept_unref (kept_of_hand hs hdev)
  | bindHostDevice dev probe =>
      simp only [LibusbServer.step, Option.ite_none_right_eq_some, Option.some.injEq] at h
      obtain ⟨hdev, rfl⟩ := h
      exact kept_bindHostDevice (kept_of_hand hs hdev) probe
  | bindHostDeviceWithWrappedFd device =>
      obtain rfl := Option.some.inj h
      exact kept_bindHostDeviceWithWrappedFd hs device
  | unbindHostDevice dev k =>
      simp only [LibusbServer.step, Option.ite_none_right_eq_some, Option.some.injEq] at h
      obtain ⟨hdev, rfl⟩ := h
      exact kept_unbindHostDevice (kept_of_hand hs hdev) k
  | unbindHostDeviceByFd k => exact Option.some.inj h ▸ kept_detachDevice hs k
  | tryRemoveDeadDevice k => exact Option.some.inj h ▸ kept_detachDevice hs k
  | notifyDeviceRemoved k => exact Option.some.inj h ▸ kept_detachDevice hs k
  | handleDeviceLeft k => exact Option.some.inj h ▸ kept_detachDevice hs k
  | handleDeviceArrived dev probe => exact Option.some.inj h ▸ kept_bindUnknown hs dev probe
  | bindExistingDevices devs => exact Option.some.inj h ▸ kept_bindExistingDevices hs devs
  | registry a =>
      obtain ⟨registry, -, rfl⟩ := Option.map_eq_some_iff.mp h
      exact hs
  | destroyHandler device =>
      simp only [LibusbServer.step, Option.ite_none_right_eq_some, Option.some.injEq] at h
      exact h.2 ▸ kept_releaseHandler hs device
  | stop => exact Option.some.inj h ▸ kept_stop hs

/-- A handler that the registry does not have any more can be destroyed. -/
theorem handlers_eq_nil_of_stuck (havailable : s.registry.availableDevices = [])
    (husing : ∀ k, s.registry.usingDevices k = none)
    (hstuck : ∀ device, s.step busid (.destroyHandler device) = none) : s.handlers = [] := by
  cases hhandlers : s.handlers with
  | nil => rfl
  | cons entry handlers =>
      have h := hstuck entry.1
      simp [LibusbServer.step, hhandlers, havailable, husing] at h

/-- In every run no reference is given back that is not held, and those to each device are the
ones that callers have and those of its handlers; so once the registry is empty and no handler is
left to be destroyed, only the callers' are left. -/
theorem references_balanced (actions : List (ReferenceAction Native Device Busid Session))
    (s : LibusbServer Native Device Busid Session)
    (hrun : (LibusbServer.system busid Native Session).run initial actions = some s) :
    s.references.overReleased = false ∧
      (∀ dev, s.references.count dev =
        s.hands.count dev + s.handlers.countP fun entry => entry.2 == some dev) ∧
      (s.registry.availableDevices = [] → (∀ k, s.registry.usingDevices k = none) →
        (∀ device, s.step busid (.destroyHandler device) = none) →
          ∀ dev, s.references.count dev = s.hands.count dev) := by
  have hkept : Kept [] s := by
    refine System.run_invariant (I := fun _ s => Kept [] s) ?_
      (fun _ _ _ _ => kept_step) hrun
    exact balanced_none
  have hcount : ∀ dev, s.references.count dev =
      s.hands.count dev + s.handlers.countP fun entry => entry.2 == some dev := by
    intro dev
    rw [hkept.count_eq dev, List.nil_append, held, List.count_append, List.count_filterMap]
  refine ⟨hkept.sound, hcount, fun havailable husing hstuck dev => ?_⟩
  rw [hcount dev, handlers_eq_nil_of_stuck havailable husing hstuck]
  rfl

/-- A device that is unplugged while a session uses it, and a hub. -/
def unpluggedTrace : List (ReferenceAction Nat Nat Nat Unit) :=
  [.findByBusid 7, .findByBusid 8, .bindHostDevice 7 (.described 1), .bindHostDevice 8 .hub,
    .registry (.isDeviceUsing () 1), .registry (.tryMovingDeviceToUsing ()), .handleDeviceLeft 1,
    .registry (.releaseDevice () true), .destroyHandler 1, .stop]

theorem references_balanced_instance :
    ∃ s, (LibusbServer.system id Nat Unit).run initial unpluggedTrace = some s ∧
      s.references.overReleased = false ∧ ∀ dev, s.references.count dev = 0 := by
  obtain ⟨s, hrun, hhands, havailable, husing, hhandlers⟩ :
      ∃ s, (LibusbServer.system id Nat Unit).run initial unpluggedTrace = some s ∧ s.hands = [] ∧
        s.registry.availableDevices = [] ∧ (∀ k, s.registry.usingDevices k = none) ∧
          s.handlers = [] :=
    ⟨_, rfl, rfl, rfl, fun _ => rfl, rfl⟩
  obtain ⟨hsound, -, hempty⟩ := references_balanced unpluggedTrace s hrun
  refine ⟨s, hrun, hsound, fun dev => ?_⟩
  rw [hempty havailable husing (fun device => by simp [LibusbServer.step, hhandlers]) dev, hhands]
  rfl

end Usbipdcpp.LibusbHandler.DeviceReferences
