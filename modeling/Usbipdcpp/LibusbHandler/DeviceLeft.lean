import Usbipdcpp.Server.DeviceRegistry

namespace Usbipdcpp.LibusbHandler.DeviceLeft

open Server.DeviceRegistry Foundation.KeyedList Foundation.TransitionSystem

/-- How far a call of `handle_device_left` has come: not begun, past a first look that has not
found the device among the available ones, and back. -/
inductive LeftStage where
  | uncalled
  | missed
  | returned
  deriving DecidableEq, Repr

/-- The server behind a `LibusbServer`, the `device_removed` flags of its handlers, and one call of
`handle_device_left`. -/
structure LibusbServer (Device Busid Session : Type) where
  registry : Registry Device Busid Session
  deviceRemoved : Device → Bool
  stage : LeftStage

/-- The critical sections of `devices_mutex`; `noticeRemoved` is a transfer of the session's that
finds the device gone. -/
inductive LeftAction (Device Busid Session : Type) where
  | addDevice (device : Device)
  | detachAvailableDevice (busid : Busid)
  | isDeviceUsing (session : Session) (wantedBusid : Busid)
  | tryMovingDeviceToUsing (session : Session)
  | releaseDevice (session : Session)
  | noticeRemoved (session : Session)
  | detachLeftDevice
  | stopLeftDevice

variable {Device Busid Session : Type} [DecidableEq Device] [DecidableEq Busid]
  [DecidableEq Session]

namespace LibusbServer

/-- `on_device_removed` of the device's handler.  Only a `LibusbDeviceHandler` keeps in mind that
its device has been removed; for the others `is_device_removed` is always false. -/
def onDeviceRemoved (libusbHandled : Device → Bool) (device : Device)
    (s : LibusbServer Device Busid Session) : LibusbServer Device Busid Session :=
  if libusbHandled device then
    { s with deviceRemoved := Function.update s.deviceRemoved device true }
  else s

variable (busid : Device → Busid)

def onRegistry (a : RegistryAction Device Busid Session)
    (s : LibusbServer Device Busid Session) : Option (LibusbServer Device Busid Session) :=
  (s.registry.step busid a).map fun registry => { s with registry }

/-- `is_device_removed` of the device that a session uses. -/
def isDeviceRemoved (x : Session) (s : LibusbServer Device Busid Session) : Bool :=
  match s.registry.sessions x with
  | .importing k _ => ((s.registry.usingDevices k).map s.deviceRemoved).getD false
  | _ => false

variable (libusbHandled : Device → Bool) (k : Busid)

/-- The two critical sections of `handle_device_left(k)` among those of the sessions and of the
backend.  The device that has left is not bound again. -/
def step (s : LibusbServer Device Busid Session) :
    LeftAction Device Busid Session → Option (LibusbServer Device Busid Session)
  | .addDevice device =>
      if s.stage ≠ .uncalled ∧ busid device = k then none
      else s.onRegistry busid (.addDevice device)
  | .detachAvailableDevice k' => s.onRegistry busid (.detachAvailableDevice k')
  | .isDeviceUsing x k' => s.onRegistry busid (.isDeviceUsing x k')
  | .tryMovingDeviceToUsing x => s.onRegistry busid (.tryMovingDeviceToUsing x)
  | .releaseDevice x => s.onRegistry busid (.releaseDevice x (s.isDeviceRemoved x))
  | .noticeRemoved x =>
      match s.registry.sessions x with
      | .importing _ device => some (s.onDeviceRemoved libusbHandled device)
      | _ => none
  | .detachLeftDevice =>
      match s.stage with
      | .uncalled =>
          match s.registry.detachAvailableDevice busid k with
          | (some _, registry) => some { s with registry, stage := .returned }
          | (none, registry) => some { s with registry, stage := .missed }
      | _ => none
  | .stopLeftDevice =>
      match s.stage with
      | .missed =>
          match s.registry.usingDevices k with
          | some device =>
              some { s.onDeviceRemoved libusbHandled device with stage := .returned }
          | none => some { s with stage := .returned }
      | _ => none

/-- The server is constructed without devices. -/
def system (Session : Type) [DecidableEq Session] :
    System (LibusbServer Device Busid Session) (LeftAction Device Busid Session) where
  initial s := s = ⟨.ofDevices [], fun _ => false, .uncalled⟩
  step := step busid libusbHandled k

end LibusbServer

open LibusbServer hiding step

variable {busid : Device → Busid} {libusbHandled : Device → Bool} {k : Busid}

variable (busid libusbHandled k) in
/-- A second look does not find the device among the available ones, and one in use has a handler
that keeps in mind that it has been removed. -/
def Caught (s : LibusbServer Device Busid Session) : LeftAction Device Busid Session → Prop
  | .stopLeftDevice => lookup busid k s.registry.availableDevices = none ∧
      ∀ d, s.registry.usingDevices k = some d → libusbHandled d = true
  | _ => True

variable (busid k) in
/-- Once the call has returned and no session has the device, the registry does not have it. -/
def Gone (s : LibusbServer Device Busid Session) : Prop :=
  s.stage = .returned → (∀ x d, s.registry.sessions x ≠ .importing k d) →
    lookup busid k s.registry.availableDevices = none ∧ s.registry.usingDevices k = none

section Registry

variable {r t : Registry Device Busid Session} {a : RegistryAction Device Busid Session}

/-- The device in use under a busid has a session that imports it. -/
def Used (r : Registry Device Busid Session) : Prop :=
  ∀ k d, r.usingDevices k = some d → ∃ x, r.sessions x = .importing k d

omit [DecidableEq Busid] [DecidableEq Device] in
theorem Used.setSession {x : Session} {pc : SessionPc Device Busid} (hused : Used r)
    (hx : ∀ k d, r.sessions x ≠ .importing k d) : Used (r.setSession x pc) := by
  intro k d hk
  obtain ⟨y, hy⟩ := hused k d hk
  have hne : y ≠ x := by
    rintro rfl
    exact hx k d hy
  exact ⟨y, (Function.update_of_ne hne _ _).trans hy⟩

omit [DecidableEq Device] in
/-- A session that gives its device free leaves the others theirs. -/
theorem Used.release {x : Session} {d : Device} {devices : List Device} (hused : Used r)
    (hx : r.sessions x = .importing k d) :
    Used ({ r with
      availableDevices := devices
      usingDevices := Function.update r.usingDevices k none }.setSession x .ended) := by
  intro k' d' hk'
  have hne : k' ≠ k := by
    rintro rfl
    have hnone : Function.update r.usingDevices k' none k' = some d' := hk'
    rw [Function.update_self] at hnone
    cases hnone
  obtain ⟨y, hy⟩ := hused k' d' ((Function.update_of_ne hne _ _).symm.trans hk')
  have hne' : y ≠ x := by
    rintro rfl
    rw [hx] at hy
    exact hne (SessionPc.importing.inj hy).1.symm
  exact ⟨y, (Function.update_of_ne hne' _ _).trans hy⟩

omit [DecidableEq Device] in
theorem used_step (hr : WellFormed busid r) (hused : Used r) (h : r.step busid a = some t) :
    Used t := by
  cases outcome_of_step hr h with
  | refused device => exact hused
  | added device => exact hused
  | detached k => exact hused
  | asked hx hpc => exact hused.setSession (by simp [hx])
  | @moved x k device hx hlookup =>
      intro k' d' hk'
      by_cases heq : k' = k
      · subst heq
        have hmoved : Function.update r.usingDevices k' (some device) k' = some d' := hk'
        rw [Function.update_self] at hmoved
        obtain rfl := Option.some.inj hmoved
        exact ⟨x, Function.update_self _ _ _⟩
      · have hfound : Used (r.setSession x (.importing k device)) :=
          hused.setSession (by simp [hx])
        exact hfound k' d' ((Function.update_of_ne heq _ _).symm.trans hk')
  | missed hx => exact hused.setSession (by simp [hx])
  | discarded hx => exact hused.release hx
  | putBack hx => exact hused.release hx

omit [DecidableEq Device] in
/-- A busid that no available device has stays that way until such a device is added or given
free, and nobody can begin to use one. -/
theorem absent_step (hr : WellFormed busid r) (h : r.step busid a = some t)
    (habsent : lookup busid k r.availableDevices = none)
    (hadded : ∀ device, a = .addDevice device → busid device ≠ k)
    (hreleased : ∀ x removed d, a = .releaseDevice x removed → r.sessions x = .importing k d →
      removed = true) :
    lookup busid k t.availableDevices = none ∧
      ∀ d, t.usingDevices k = some d → r.usingDevices k = some d := by
  have hkeys := lookup_eq_none_iff.mp habsent
  cases outcome_of_step hr h with
  | refused device => exact ⟨habsent, fun _ hd => hd⟩
  | added device =>
      refine ⟨lookup_eq_none_iff.mpr fun d hd => ?_, fun _ hd => hd⟩
      rcases List.mem_append.mp hd with hd | hd
      · exact hkeys d hd
      · rw [List.mem_singleton.mp hd]
        exact hadded device rfl
  | detached k' =>
      exact ⟨lookup_eq_none_iff.mpr fun d hd => hkeys d (remove_subset hd), fun _ hd => hd⟩
  | asked hx hpc => exact ⟨habsent, fun _ hd => hd⟩
  | @moved x k' device hx hlookup =>
      have hne : k ≠ k' := by
        rintro rfl
        rw [habsent] at hlookup
        cases hlookup
      exact ⟨lookup_eq_none_iff.mpr fun d hd => hkeys d (remove_subset hd),
        fun d hd => (Function.update_of_ne hne _ _).symm.trans hd⟩
  | missed hx => exact ⟨habsent, fun _ hd => hd⟩
  | @discarded x k' device hx =>
      refine ⟨habsent, fun d hd => ?_⟩
      by_cases heq : k = k'
      · subst heq
        have hnone : Function.update r.usingDevices k none k = some d := hd
        rw [Function.update_self] at hnone
        cases hnone
      · exact (Function.update_of_ne heq _ _).symm.trans hd
  | @putBack x k' device hx =>
      have hne : k ≠ k' := by
        rintro rfl
        exact Bool.noConfusion (hreleased x false device rfl hx)
      have hkey := hr.keyed k' device (hr.held x k' device hx)
      refine ⟨lookup_eq_none_iff.mpr fun d hd => ?_,
        fun d hd => (Function.update_of_ne hne _ _).symm.trans hd⟩
      rcases List.mem_append.mp hd with hd | hd
      · exact hkeys d hd
      · rw [List.mem_singleton.mp hd, hkey]
        exact hne.symm

end Registry

variable (busid libusbHandled) in
/-- What holds of every run. -/
structure Sound (s : LibusbServer Device Busid Session) : Prop where
  wellFormed : WellFormed busid s.registry
  used : Used s.registry
  handled : ∀ d, s.deviceRemoved d = true → libusbHandled d = true

variable (busid k) in
/-- Once the call has returned, the device is not available, and is not put back. -/
def Settled (s : LibusbServer Device Busid Session) : Prop :=
  s.stage = .returned → lookup busid k s.registry.availableDevices = none ∧
    ∀ d, s.registry.usingDevices k = some d → s.deviceRemoved d = true

section Steps

variable {s t : LibusbServer Device Busid Session} {a : LeftAction Device Busid Session}

omit [DecidableEq Device] in
theorem sound_onRegistry {a : RegistryAction Device Busid Session}
    (h : Sound busid libusbHandled s) (ht : s.onRegistry busid a = some t) :
    Sound busid libusbHandled t := by
  obtain ⟨registry, hstep, rfl⟩ := Option.map_eq_some_iff.mp ht
  exact ⟨wellFormed_step h.wellFormed hstep, used_step h.wellFormed h.used hstep, h.handled⟩

omit [DecidableEq Device] in
theorem settled_onRegistry {a : RegistryAction Device Busid Session}
    (h : Sound busid libusbHandled s) (hsettled : Settled busid k s)
    (ht : s.onRegistry busid a = some t)
    (hadded : ∀ device, a = .addDevice device → s.stage = .uncalled ∨ busid device ≠ k)
    (hreleased : ∀ x removed, a = .releaseDevice x removed → removed = s.isDeviceRemoved x) :
    Settled busid k t := by
  obtain ⟨registry, hstep, rfl⟩ := Option.map_eq_some_iff.mp ht
  intro hreturned
  obtain ⟨habsent, hremoved⟩ := hsettled hreturned
  have hstage : s.stage ≠ .uncalled := by
    intro huncalled
    rw [show s.stage = .returned from hreturned] at huncalled
    cases huncalled
  obtain ⟨habsent', husing⟩ := absent_step h.wellFormed hstep habsent
    (fun device ha => (hadded device ha).resolve_left hstage) fun x removed d ha hx => by
      have hheld := h.wellFormed.held x k d hx
      rw [hreleased x removed ha, isDeviceRemoved, hx]
      simp [hheld, hremoved d hheld]
  exact ⟨habsent', fun d hd => hremoved d (husing d hd)⟩

omit [DecidableEq Busid] [DecidableEq Session] in
theorem registry_onDeviceRemoved (d : Device) :
    (s.onDeviceRemoved libusbHandled d).registry = s.registry := by
  unfold onDeviceRemoved
  split
  · rfl
  · rfl

omit [DecidableEq Busid] [DecidableEq Session] in
theorem deviceRemoved_onDeviceRemoved (d d' : Device) :
    (s.onDeviceRemoved libusbHandled d).deviceRemoved d' = true ↔
      s.deviceRemoved d' = true ∨ d' = d ∧ libusbHandled d = true := by
  unfold onDeviceRemoved
  split
  next hhandled =>
    by_cases heq : d' = d
    · simp [heq, hhandled]
    · simp [heq]
  next hhandled => simp [hhandled]

omit [DecidableEq Busid] [DecidableEq Session] in
theorem stage_onDeviceRemoved (d : Device) :
    (s.onDeviceRemoved libusbHandled d).stage = s.stage := by
  unfold onDeviceRemoved
  split
  · rfl
  · rfl

omit [DecidableEq Busid] [DecidableEq Session] in
theorem sound_onDeviceRemoved (h : Sound busid libusbHandled s) (d : Device) :
    Sound busid libusbHandled (s.onDeviceRemoved libusbHandled d) where
  wellFormed := by
    rw [registry_onDeviceRemoved]
    exact h.wellFormed
  used := by
    rw [registry_onDeviceRemoved]
    exact h.used
  handled d' hd' := by
    rcases (deviceRemoved_onDeviceRemoved d d').mp hd' with hd' | ⟨rfl, hhandled⟩
    · exact h.handled d' hd'
    · exact hhandled

omit [DecidableEq Session] in
theorem settled_onDeviceRemoved (h : Settled busid k s) (d : Device) :
    Settled busid k (s.onDeviceRemoved libusbHandled d) := by
  intro hreturned
  rw [stage_onDeviceRemoved] at hreturned
  rw [registry_onDeviceRemoved]
  obtain ⟨habsent, hremoved⟩ := h hreturned
  exact ⟨habsent, fun d' hd' =>
    (deviceRemoved_onDeviceRemoved d d').mpr (Or.inl (hremoved d' hd'))⟩

theorem inv_detachLeftDevice (h : Sound busid libusbHandled s)
    (ht : s.step busid libusbHandled k .detachLeftDevice = some t) :
    Sound busid libusbHandled t ∧ Settled busid k t := by
  cases hstage : s.stage with
  | uncalled =>
      simp only [LibusbServer.step, hstage, Registry.detachAvailableDevice] at ht
      have hwf := wellFormed_detachAvailableDevice h.wellFormed k
      cases hlookup : lookup busid k s.registry.availableDevices with
      | some d =>
          obtain rfl := by simpa only [hlookup, Option.some.injEq] using ht
          refine ⟨⟨hwf, h.used, h.handled⟩, fun _ => ⟨?_, fun d' hd' => ?_⟩⟩
          · exact lookup_eq_none_iff.mpr fun d' hd' =>
              key_ne_of_mem_remove h.wellFormed.distinct hd'
          · have hfree := h.wellFormed.disjoint d (mem_of_lookup hlookup)
            rw [key_of_lookup hlookup, show s.registry.usingDevices k = some d' from hd'] at hfree
            cases hfree
      | none =>
          obtain rfl := by simpa only [hlookup, Option.some.injEq] using ht
          exact ⟨⟨hwf, h.used, h.handled⟩, fun hreturned => LeftStage.noConfusion hreturned⟩
  | missed => simp [LibusbServer.step, hstage] at ht
  | returned => simp [LibusbServer.step, hstage] at ht

theorem inv_stopLeftDevice (h : Sound busid libusbHandled s)
    (ht : s.step busid libusbHandled k .stopLeftDevice = some t) :
    Sound busid libusbHandled t ∧
      (Caught busid libusbHandled k s .stopLeftDevice → Settled busid k t) := by
  cases hstage : s.stage with
  | missed =>
      simp only [LibusbServer.step, hstage] at ht
      cases husing : s.registry.usingDevices k with
      | some d =>
          obtain rfl := by simpa only [husing, Option.some.injEq] using ht
          have hsound := sound_onDeviceRemoved h d
          refine ⟨⟨hsound.wellFormed, hsound.used, hsound.handled⟩, ?_⟩
          rintro ⟨habsent, hhandled⟩ -
          dsimp only
          rw [registry_onDeviceRemoved]
          refine ⟨habsent, fun d' hd' => (deviceRemoved_onDeviceRemoved d d').mpr (Or.inr ?_)⟩
          exact ⟨Option.some.inj (hd'.symm.trans husing), hhandled d husing⟩
      | none =>
          obtain rfl := by simpa only [husing, Option.some.injEq] using ht
          refine ⟨⟨h.wellFormed, h.used, h.handled⟩, ?_⟩
          rintro ⟨habsent, -⟩ -
          refine ⟨habsent, fun d' hd' => ?_⟩
          rw [show s.registry.usingDevices k = some d' from hd'] at husing
          cases husing
  | uncalled => simp [LibusbServer.step, hstage] at ht
  | returned => simp [LibusbServer.step, hstage] at ht

theorem inv_step (h : Sound busid libusbHandled s)
    (ht : s.step busid libusbHandled k a = some t) :
    Sound busid libusbHandled t ∧
      (Settled busid k s → Caught busid libusbHandled k s a → Settled busid k t) := by
  cases a with
  | addDevice device =>
      simp only [LibusbServer.step] at ht
      split at ht
      · cases ht
      next hnew =>
        refine ⟨sound_onRegistry h ht, fun hsettled _ => ?_⟩
        refine settled_onRegistry h hsettled ht (fun device' hdevice => ?_) (by simp)
        obtain rfl := RegistryAction.addDevice.inj hdevice
        by_contra hor
        exact hnew ⟨(not_or.mp hor).1, not_not.mp (not_or.mp hor).2⟩
  | detachAvailableDevice k' =>
      exact ⟨sound_onRegistry h ht, fun hsettled _ =>
        settled_onRegistry h hsettled ht (by simp) (by simp)⟩
  | isDeviceUsing x k' =>
      exact ⟨sound_onRegistry h ht, fun hsettled _ =>
        settled_onRegistry h hsettled ht (by simp) (by simp)⟩
  | tryMovingDeviceToUsing x =>
      exact ⟨sound_onRegistry h ht, fun hsettled _ =>
        settled_onRegistry h hsettled ht (by simp) (by simp)⟩
  | releaseDevice x =>
      refine ⟨sound_onRegistry h ht, fun hsettled _ =>
        settled_onRegistry h hsettled ht (by simp) fun x' removed hrelease => ?_⟩
      obtain ⟨rfl, rfl⟩ := RegistryAction.releaseDevice.inj hrelease
      rfl
  | noticeRemoved x =>
      simp only [LibusbServer.step] at ht
      split at ht
      next k' d hx =>
        obtain rfl := Option.some.inj ht
        exact ⟨sound_onDeviceRemoved h d, fun hsettled _ => settled_onDeviceRemoved hsettled d⟩
      · cases ht
  | detachLeftDevice =>
      obtain ⟨hsound, hsettled⟩ := inv_detachLeftDevice h ht
      exact ⟨hsound, fun _ _ => hsettled⟩
  | stopLeftDevice =>
      obtain ⟨hsound, hsettled⟩ := inv_stopLeftDevice h ht
      exact ⟨hsound, fun _ => hsettled⟩

/-- A second look at a device that has been put back leaves it there. -/
theorem not_gone_of_available (h : Sound busid libusbHandled s)
    (ht : s.step busid libusbHandled k .stopLeftDevice = some t)
    (havailable : lookup busid k s.registry.availableDevices ≠ none) : ¬ Gone busid k t := by
  obtain ⟨d, hd⟩ := Option.ne_none_iff_exists'.mp havailable
  have hfree : s.registry.usingDevices k = none := by
    rw [← key_of_lookup hd]
    exact h.wellFormed.disjoint d (mem_of_lookup hd)
  cases hstage : s.stage with
  | missed =>
      obtain rfl := by
        simpa only [LibusbServer.step, hstage, hfree, Option.some.injEq] using ht
      intro hgone
      refine havailable (hgone rfl fun x d' hx => ?_).1
      rw [h.wellFormed.held x k d' hx] at hfree
      cases hfree
  | uncalled => simp [LibusbServer.step, hstage] at ht
  | returned => simp [LibusbServer.step, hstage] at ht

/-- A handler that does not keep in mind that its device has been removed has it put back. -/
theorem not_gone_of_unhandled {d : Device} (h : Sound busid libusbHandled s)
    (ht : s.step busid libusbHandled k .stopLeftDevice = some t)
    (husing : s.registry.usingDevices k = some d) (hhandled : libusbHandled d = false) :
    ∃ x u, t.step busid libusbHandled k (.releaseDevice x) = some u ∧ ¬ Gone busid k u := by
  obtain ⟨x, hx⟩ := h.used k d husing
  have hremoved : s.deviceRemoved d = false := by
    by_contra hremoved
    rw [h.handled d (Bool.not_eq_false _ ▸ hremoved)] at hhandled
    cases hhandled
  cases hstage : s.stage with
  | missed =>
      obtain rfl := by
        simpa only [LibusbServer.step, hstage, husing, onDeviceRemoved, hhandled,
          Bool.false_eq_true, if_false, Option.some.injEq] using ht
      have hstop : isDeviceRemoved x { s with stage := .returned } = false := by
        rw [isDeviceRemoved, show ({ s with stage := .returned } :
          LibusbServer Device Busid Session).registry.sessions x = .importing k d from hx]
        simp [husing, hremoved]
      refine ⟨x, _, by simp only [LibusbServer.step, onRegistry, Registry.step, hx, hstop,
        Registry.releaseDevice, husing]; rfl, fun hgone => ?_⟩
      have habsent := (hgone rfl fun y d' hy => ?_).1
      · refine lookup_eq_none_iff.mp habsent d ?_ (h.wellFormed.keyed k d husing)
        exact List.mem_append_right _ List.mem_cons_self
      · have hended : Function.update s.registry.sessions x .ended y = .importing k d' := hy
        by_cases heq : y = x
        · rw [heq, Function.update_self] at hended
          cases hended
        · rw [Function.update_of_ne heq] at hended
          exact heq (h.wellFormed.exclusive y x k d' d hended hx)
  | uncalled => simp [LibusbServer.step, hstage] at ht
  | returned => simp [LibusbServer.step, hstage] at ht

end Steps

omit [DecidableEq Device] [DecidableEq Busid] [DecidableEq Session] in
theorem sound_initial : Sound busid libusbHandled (⟨.ofDevices [], fun _ => false, .uncalled⟩ :
    LibusbServer Device Busid Session) where
  wellFormed := wellFormed_ofDevices List.nodup_nil
  used _ _ hd := by cases hd
  handled _ hd := by cases hd

theorem sound_of_reachable {s : LibusbServer Device Busid Session}
    (h : Reachable (LibusbServer.system busid libusbHandled k Session) s) :
    Sound busid libusbHandled s := by
  refine Reachable.invariant (I := Sound busid libusbHandled) ?_ (fun s a t hs ht => ?_) h
  · rintro s rfl
    exact sound_initial
  · exact (inv_step hs ht).1

/-- The device is gone after every run in which the second look does not miss it; and where that
look does miss it the device stays, at the latest when the session that uses it gives it free. -/
theorem left_device_gone :
    (∀ s : LibusbServer Device Busid Session,
      ReachableUnder (LibusbServer.system busid libusbHandled k Session)
        (Caught busid libusbHandled k) s → Gone busid k s) ∧
    ∀ s t : LibusbServer Device Busid Session,
      Reachable (LibusbServer.system busid libusbHandled k Session) s →
      s.step busid libusbHandled k .stopLeftDevice = some t →
      ¬ Caught busid libusbHandled k s .stopLeftDevice →
      ∃ u, (u = t ∨ ∃ x, t.step busid libusbHandled k (.releaseDevice x) = some u) ∧
        ¬ Gone busid k u := by
  constructor
  · intro s hreach
    obtain ⟨hsound, hsettled⟩ : Sound busid libusbHandled s ∧ Settled busid k s := by
      refine ReachableUnder.invariant
        (I := fun s => Sound busid libusbHandled s ∧ Settled busid k s) ?_
        (fun s a t hs hcaught ht => ?_) hreach
      · rintro s rfl
        exact ⟨sound_initial, fun hreturned => LeftStage.noConfusion hreturned⟩
      · obtain ⟨hsound, hsettled⟩ := inv_step hs.1 ht
        exact ⟨hsound, hsettled hs.2 hcaught⟩
    intro hreturned hreleased
    refine ⟨(hsettled hreturned).1, Option.eq_none_iff_forall_ne_some.mpr fun d hd => ?_⟩
    obtain ⟨x, hx⟩ := hsound.used k d hd
    exact hreleased x d hx
  · intro s t hreach ht hcaught
    have hsound := sound_of_reachable hreach
    by_cases habsent : lookup busid k s.registry.availableDevices = none
    · obtain ⟨d, husing, hhandled⟩ :
          ∃ d, s.registry.usingDevices k = some d ∧ libusbHandled d = false := by
        by_contra hnone
        refine hcaught ⟨habsent, fun d hd => ?_⟩
        by_contra hhandled
        exact hnone ⟨d, hd, Bool.not_eq_true _ ▸ hhandled⟩
      obtain ⟨x, u, hu, hgone⟩ := not_gone_of_unhandled hsound ht husing hhandled
      exact ⟨u, Or.inr ⟨x, hu⟩, hgone⟩
    · exact ⟨t, Or.inl rfl, not_gone_of_available hsound ht habsent⟩

/-- A device that leaves while a session uses it goes with that session. -/
theorem left_device_gone_instance :
    ∃ s : LibusbServer (Nat × String) String Nat,
      ReachableUnder (LibusbServer.system Prod.snd (fun _ => true) "1-1" Nat)
        (Caught Prod.snd (fun _ => true) "1-1") s ∧
      s.stage = .returned ∧ lookup Prod.snd "1-1" s.registry.availableDevices = none ∧
      s.registry.usingDevices "1-1" = none := by
  let T : System (LibusbServer (Nat × String) String Nat) _ :=
    LibusbServer.system Prod.snd (fun _ => true) "1-1" Nat
  obtain ⟨s, t, u, hs, ht, hu, hmissed, hreturned, hsession, hothers⟩ :
      ∃ s t u, T.run ⟨.ofDevices [], fun _ => false, .uncalled⟩ [.addDevice (1, "1-1"),
          .isDeviceUsing 0 "1-1", .tryMovingDeviceToUsing 0, .detachLeftDevice] = some s ∧
        T.step s .stopLeftDevice = some t ∧ T.step t (.releaseDevice 0) = some u ∧
        s.registry.availableDevices = [] ∧ u.stage = .returned ∧
        u.registry.sessions 0 = .ended ∧ ∀ x, u.registry.sessions (x + 1) = .connected :=
    ⟨_, _, _, rfl, rfl, rfl, rfl, rfl, rfl, fun _ => rfl⟩
  have hreach : ReachableUnder T (Caught Prod.snd (fun _ => true) "1-1") s :=
    ReachableUnder.run _ (by simp [Caught]) (.initial rfl) hs
  have hcaught : Caught Prod.snd (fun _ => true) "1-1" s .stopLeftDevice := by
    refine ⟨?_, fun _ _ => rfl⟩
    rw [hmissed]
    rfl
  have hreach' : ReachableUnder T (Caught Prod.snd (fun _ => true) "1-1") u :=
    (hreach.step hcaught ht).step (a := .releaseDevice 0) trivial hu
  have hgone : Gone Prod.snd "1-1" u := left_device_gone.1 u hreach'
  refine ⟨u, hreach', hreturned, hgone hreturned fun x d hx => ?_⟩
  cases x with
  | zero =>
      rw [hsession] at hx
      cases hx
  | succ x =>
      rw [hothers] at hx
      cases hx

/-- A session puts the device back between the two looks. -/
theorem zombie_between_looks :
    ∃ s : LibusbServer (Nat × String) String Nat,
      Reachable (LibusbServer.system Prod.snd (fun _ => true) "1-1" Nat) s ∧
      s.stage = .returned ∧ s.registry.availableDevices = [(1, "1-1")] ∧
      ¬ Gone Prod.snd "1-1" s := by
  obtain ⟨s, hrun, hreturned, havailable, hsessions, hothers⟩ :
      ∃ s : LibusbServer (Nat × String) String Nat,
        (LibusbServer.system Prod.snd (fun _ => true) "1-1" Nat).run
          ⟨.ofDevices [], fun _ => false, .uncalled⟩ [.addDevice (1, "1-1"),
            .isDeviceUsing 0 "1-1", .tryMovingDeviceToUsing 0, .detachLeftDevice,
            .releaseDevice 0, .stopLeftDevice] = some s ∧
        s.stage = .returned ∧ s.registry.availableDevices = [(1, "1-1")] ∧
        s.registry.sessions 0 = .ended ∧ ∀ x, s.registry.sessions (x + 1) = .connected :=
    ⟨_, rfl, rfl, rfl, rfl, fun _ => rfl⟩
  refine ⟨s, Reachable.run _ (.initial rfl) hrun, hreturned, havailable, fun hgone => ?_⟩
  have habsent := (hgone hreturned fun x d hx => ?_).1
  · rw [havailable] at habsent
    exact absurd habsent (by decide)
  · cases x with
    | zero =>
        rw [hsessions] at hx
        cases hx
    | succ x =>
        rw [hothers] at hx
        cases hx

end Usbipdcpp.LibusbHandler.DeviceLeft
