import Mathlib.Logic.Function.Basic
import Usbipdcpp.Foundation.KeyedList
import Usbipdcpp.Foundation.TransitionSystem

namespace Usbipdcpp.Server.DeviceRegistry

open Usbipdcpp.Foundation.KeyedList
open Usbipdcpp.Foundation.TransitionSystem

/-- What a session holds of the registry while `parse_op` serves an import request. -/
inductive SessionPc (Device Busid : Type) where
  | connected
  | notUsing (wantedBusid : Busid)
  | importing (busid : Busid) (device : Device)
  | ended

/-- `available_devices` and `using_devices` of a server, and where its sessions stand. -/
structure Registry (Device Busid Session : Type) where
  availableDevices : List Device
  usingDevices : Busid → Option Device
  sessions : Session → SessionPc Device Busid

/-- One critical section of `devices_mutex`.  What `is_device_removed` reports is up to the
device and comes with the release. -/
inductive RegistryAction (Device Busid Session : Type) where
  | addDevice (device : Device)
  | detachAvailableDevice (busid : Busid)
  | isDeviceUsing (session : Session) (wantedBusid : Busid)
  | tryMovingDeviceToUsing (session : Session)
  | releaseDevice (session : Session) (isDeviceRemoved : Bool)

/-- The result of `add_device`. -/
inductive AddDeviceStatus where
  | added
  | alreadyBound
  | inUse
  deriving DecidableEq, Repr

variable {Device Busid Session : Type} [DecidableEq Busid] (busid : Device → Busid)

/-- The constructor takes over its list of devices as it is. -/
def Registry.ofDevices (devices : List Device) : Registry Device Busid Session where
  availableDevices := devices
  usingDevices := fun _ => none
  sessions := fun _ => .connected

def Registry.addDevice (r : Registry Device Busid Session) (device : Device) :
    AddDeviceStatus × Registry Device Busid Session :=
  match lookup busid (busid device) r.availableDevices with
  | some _ => (.alreadyBound, r)
  | none =>
      match r.usingDevices (busid device) with
      | some _ => (.inUse, r)
      | none => (.added, { r with availableDevices := r.availableDevices ++ [device] })

def Registry.detachAvailableDevice (r : Registry Device Busid Session) (wantedBusid : Busid) :
    Option Device × Registry Device Busid Session :=
  (lookup busid wantedBusid r.availableDevices,
    { r with availableDevices := remove busid wantedBusid r.availableDevices })

def Registry.isDeviceUsing (r : Registry Device Busid Session) (wantedBusid : Busid) : Bool :=
  (r.usingDevices wantedBusid).isSome

def Registry.tryMovingDeviceToUsing (r : Registry Device Busid Session)
    (wantedBusid : Busid) : Option Device × Registry Device Busid Session :=
  match lookup busid wantedBusid r.availableDevices with
  | some device =>
      (some device,
        { r with
          usingDevices := Function.update r.usingDevices wantedBusid (some device)
          availableDevices := remove busid wantedBusid r.availableDevices })
  | none => (none, r)

def Registry.releaseDevice (r : Registry Device Busid Session) (wantedBusid : Busid)
    (isDeviceRemoved : Bool) : Registry Device Busid Session :=
  match r.usingDevices wantedBusid with
  | some device =>
      if isDeviceRemoved then
        { r with usingDevices := Function.update r.usingDevices wantedBusid none }
      else
        { r with
          availableDevices := r.availableDevices ++ [device]
          usingDevices := Function.update r.usingDevices wantedBusid none }
  | none => r

/-- What the registry relies on: busids are unique, and the importing sessions are exactly the
users of their devices. -/
structure WellFormed (r : Registry Device Busid Session) : Prop where
  distinct : Distinct busid r.availableDevices
  disjoint : ∀ d ∈ r.availableDevices, r.usingDevices (busid d) = none
  keyed : ∀ k d, r.usingDevices k = some d → busid d = k
  held : ∀ s k d, r.sessions s = .importing k d → r.usingDevices k = some d
  exclusive : ∀ s s' k d d', r.sessions s = .importing k d →
    r.sessions s' = .importing k d' → s = s'

section

variable {busid}

omit [DecidableEq Busid] in
theorem wellFormed_ofDevices {devices : List Device} (h : Distinct busid devices) :
    WellFormed busid (.ofDevices devices : Registry Device Busid Session) where
  distinct := h
  disjoint _ _ := rfl
  keyed _ _ h := by simp [Registry.ofDevices] at h
  held _ _ _ h := by simp [Registry.ofDevices] at h
  exclusive _ _ _ _ _ h := by simp [Registry.ofDevices] at h

theorem wellFormed_addDevice {r : Registry Device Busid Session} (hr : WellFormed busid r)
    (device : Device) : WellFormed busid (r.addDevice busid device).2 := by
  unfold Registry.addDevice
  cases hlookup : lookup busid (busid device) r.availableDevices with
  | some _ => exact hr
  | none =>
      cases husing : r.usingDevices (busid device) with
      | some _ => exact hr
      | none =>
          refine ⟨?_, ?_, hr.keyed, hr.held, hr.exclusive⟩
          · exact distinct_concat_iff.mpr ⟨hr.distinct, lookup_eq_none_iff.mp hlookup⟩
          · intro d hd
            rcases List.mem_append.mp hd with hd | hd
            · exact hr.disjoint d hd
            · obtain rfl := List.mem_singleton.mp hd
              exact husing

theorem wellFormed_detachAvailableDevice {r : Registry Device Busid Session}
    (hr : WellFormed busid r) (k : Busid) :
    WellFormed busid (r.detachAvailableDevice busid k).2 :=
  ⟨distinct_remove hr.distinct, fun d hd => hr.disjoint d (remove_subset hd), hr.keyed, hr.held,
    hr.exclusive⟩

end

variable [DecidableEq Session]

def Registry.setSession (r : Registry Device Busid Session) (s : Session)
    (pc : SessionPc Device Busid) : Registry Device Busid Session :=
  { r with sessions := Function.update r.sessions s pc }

/-- `parse_op` asks whether the device is in use and moves it in two critical sections, and
every exit of the session releases the busid it has imported. -/
def Registry.step (r : Registry Device Busid Session) :
    RegistryAction Device Busid Session → Option (Registry Device Busid Session)
  | .addDevice device => some (r.addDevice busid device).2
  | .detachAvailableDevice wantedBusid => some (r.detachAvailableDevice busid wantedBusid).2
  | .isDeviceUsing s wantedBusid =>
      match r.sessions s with
      | .connected =>
          some (r.setSession s (if r.isDeviceUsing wantedBusid then .ended
            else .notUsing wantedBusid))
      | _ => none
  | .tryMovingDeviceToUsing s =>
      match r.sessions s with
      | .notUsing wantedBusid =>
          match r.tryMovingDeviceToUsing busid wantedBusid with
          | (some device, r') => some (r'.setSession s (.importing wantedBusid device))
          | (none, r') => some (r'.setSession s .ended)
      | _ => none
  | .releaseDevice s isDeviceRemoved =>
      match r.sessions s with
      | .importing importedBusid _ =>
          some ((r.releaseDevice importedBusid isDeviceRemoved).setSession s .ended)
      | _ => none

/-- The runs of a server constructed over a list of devices. -/
def system (Session : Type) [DecidableEq Session] (devices : List Device) :
    System (Registry Device Busid Session) (RegistryAction Device Busid Session) where
  initial r := r = .ofDevices devices
  step := Registry.step busid

variable {busid}

omit [DecidableEq Busid] in
theorem wellFormed_setSession_idle {r : Registry Device Busid Session} (hr : WellFormed busid r)
    (s : Session) {pc : SessionPc Device Busid} (hpc : ∀ k d, pc ≠ .importing k d) :
    WellFormed busid (r.setSession s pc) := by
  have hsession : ∀ s' k d, (r.setSession s pc).sessions s' = .importing k d →
      r.sessions s' = .importing k d := by
    intro s' k d h
    by_cases hs : s' = s
    · subst hs
      exact absurd (by simpa [Registry.setSession] using h) (hpc k d)
    · simpa [Registry.setSession, hs] using h
  exact ⟨hr.distinct, hr.disjoint, hr.keyed, fun s' k d h => hr.held s' k d (hsession s' k d h),
    fun s' s'' k d d' h h' => hr.exclusive s' s'' k d d' (hsession _ _ _ h) (hsession _ _ _ h')⟩

theorem wellFormed_import {r : Registry Device Busid Session} (hr : WellFormed busid r)
    (s : Session) {k : Busid} {device : Device}
    (hlookup : lookup busid k r.availableDevices = some device) :
    WellFormed busid (({ r with
      usingDevices := Function.update r.usingDevices k (some device)
      availableDevices := remove busid k r.availableDevices }).setSession s
        (.importing k device)) := by
  have hmem := mem_of_lookup hlookup
  have hkey := key_of_lookup hlookup
  have hfree : r.usingDevices k = none := hkey ▸ hr.disjoint device hmem
  have hother : ∀ s' d, r.sessions s' ≠ .importing k d := by
    intro s' d h
    have := hr.held s' k d h
    rw [hfree] at this
    cases this
  refine ⟨distinct_remove hr.distinct, ?_, ?_, ?_, ?_⟩
  · intro d hd
    obtain ⟨hd, hne⟩ := (mem_remove_iff hr.distinct).mp hd
    simpa [Registry.setSession, hne] using hr.disjoint d hd
  · intro k' d h
    by_cases hk : k' = k
    · subst hk
      obtain rfl : device = d := by simpa [Registry.setSession] using h
      exact hkey
    · exact hr.keyed k' d (by simpa [Registry.setSession, hk] using h)
  · intro s' k' d h
    by_cases hs : s' = s
    · subst hs
      obtain ⟨rfl, rfl⟩ : k = k' ∧ device = d := by simpa [Registry.setSession] using h
      simp [Registry.setSession]
    · have hold : r.sessions s' = .importing k' d := by simpa [Registry.setSession, hs] using h
      have hne : k' ≠ k := by
        rintro rfl
        exact hother s' d hold
      simpa [Registry.setSession, hne] using hr.held s' k' d hold
  · intro s' s'' k' d d' h h'
    by_cases hs : s' = s <;> by_cases hs' : s'' = s
    · rw [hs, hs']
    · obtain ⟨rfl, -⟩ : k = k' ∧ device = d := by simpa [Registry.setSession, hs] using h
      exact absurd (by simpa [Registry.setSession, hs'] using h') (hother s'' d')
    · obtain ⟨rfl, -⟩ : k = k' ∧ device = d' := by simpa [Registry.setSession, hs'] using h'
      exact absurd (by simpa [Registry.setSession, hs] using h) (hother s' d)
    · exact hr.exclusive s' s'' k' d d' (by simpa [Registry.setSession, hs] using h)
        (by simpa [Registry.setSession, hs'] using h')

theorem wellFormed_release {r : Registry Device Busid Session} (hr : WellFormed busid r)
    {s : Session} {k : Busid} {device : Device} (hpc : r.sessions s = .importing k device)
    (isDeviceRemoved : Bool) :
    WellFormed busid ((r.releaseDevice k isDeviceRemoved).setSession s .ended) := by
  have husing := hr.held s k device hpc
  have hkey := hr.keyed k device husing
  have hsession : ∀ s' k' d, Function.update r.sessions s .ended s' = .importing k' d →
      k' ≠ k ∧ r.sessions s' = .importing k' d := by
    intro s' k' d h
    by_cases hs : s' = s
    · simp [hs] at h
    · have hold : r.sessions s' = .importing k' d := by simpa [hs] using h
      refine ⟨?_, hold⟩
      rintro rfl
      exact hs (hr.exclusive s' s k' d device hold hpc)
  have hkeyed : ∀ k' d, Function.update r.usingDevices k none k' = some d → busid d = k' := by
    intro k' d h
    by_cases hk : k' = k
    · simp [hk] at h
    · exact hr.keyed k' d (by simpa [hk] using h)
  have hheld : ∀ s' k' d, Function.update r.sessions s .ended s' = .importing k' d →
      Function.update r.usingDevices k none k' = some d := by
    intro s' k' d h
    obtain ⟨hne, hold⟩ := hsession s' k' d h
    simpa [hne] using hr.held s' k' d hold
  have hexclusive : ∀ s' s'' k' d d', Function.update r.sessions s .ended s' = .importing k' d →
      Function.update r.sessions s .ended s'' = .importing k' d' → s' = s'' :=
    fun s' s'' k' d d' h h' =>
      hr.exclusive s' s'' k' d d' (hsession s' k' d h).2 (hsession s'' k' d' h').2
  have hdisjoint : ∀ d ∈ r.availableDevices,
      Function.update r.usingDevices k none (busid d) = none := by
    intro d hd
    by_cases hd' : busid d = k
    · simp [hd']
    · simpa [hd'] using hr.disjoint d hd
  cases isDeviceRemoved with
  | true =>
      simp only [Registry.releaseDevice, husing, if_true]
      exact ⟨hr.distinct, hdisjoint, hkeyed, hheld, hexclusive⟩
  | false =>
      simp only [Registry.releaseDevice, husing, Bool.false_eq_true, if_false]
      refine ⟨?_, ?_, hkeyed, hheld, hexclusive⟩
      · refine distinct_concat_iff.mpr ⟨hr.distinct, fun d hd heq => ?_⟩
        have hfree := hr.disjoint d hd
        rw [heq, hkey, husing] at hfree
        cases hfree
      · intro d hd
        rcases List.mem_append.mp hd with hd | hd
        · exact hdisjoint d hd
        · obtain rfl := List.mem_singleton.mp hd
          simp [Registry.setSession, hkey]

theorem wellFormed_step {r t : Registry Device Busid Session}
    {a : RegistryAction Device Busid Session}
    (hr : WellFormed busid r) (h : r.step busid a = some t) : WellFormed busid t := by
  cases a with
  | addDevice device =>
      obtain rfl := Option.some.inj h
      exact wellFormed_addDevice hr device
  | detachAvailableDevice k =>
      obtain rfl := Option.some.inj h
      exact wellFormed_detachAvailableDevice hr k
  | isDeviceUsing s k =>
      cases hpc : r.sessions s with
      | connected =>
          simp only [Registry.step, hpc, Option.some.injEq] at h
          subst h
          apply wellFormed_setSession_idle hr s
          split <;> simp
      | _ => simp [Registry.step, hpc] at h
  | tryMovingDeviceToUsing s =>
      cases hpc : r.sessions s with
      | notUsing k =>
          cases hlookup : lookup busid k r.availableDevices with
          | some device =>
              simp only [Registry.step, hpc, Registry.tryMovingDeviceToUsing, hlookup,
                Option.some.injEq] at h
              subst h
              exact wellFormed_import hr s hlookup
          | none =>
              simp only [Registry.step, hpc, Registry.tryMovingDeviceToUsing, hlookup,
                Option.some.injEq] at h
              subst h
              exact wellFormed_setSession_idle hr s (by simp)
      | _ => simp [Registry.step, hpc] at h
  | releaseDevice s isDeviceRemoved =>
      cases hpc : r.sessions s with
      | importing k device =>
          simp only [Registry.step, hpc, Option.some.injEq] at h
          subst h
          exact wellFormed_release hr hpc isDeviceRemoved
      | _ => simp [Registry.step, hpc] at h

variable (busid) in
/-- What each critical section does to a well-formed registry. -/
inductive Outcome (r : Registry Device Busid Session) :
    RegistryAction Device Busid Session → Registry Device Busid Session → Prop
  | refused (device : Device) : Outcome r (.addDevice device) r
  | added (device : Device) :
      Outcome r (.addDevice device)
        { r with availableDevices := r.availableDevices ++ [device] }
  | detached (k : Busid) :
      Outcome r (.detachAvailableDevice k)
        { r with availableDevices := remove busid k r.availableDevices }
  | asked {s : Session} {k : Busid} {pc : SessionPc Device Busid} (hs : r.sessions s = .connected)
      (hpc : pc = .ended ∨ pc = .notUsing k) : Outcome r (.isDeviceUsing s k) (r.setSession s pc)
  | moved {s : Session} {k : Busid} {device : Device} (hs : r.sessions s = .notUsing k)
      (hlookup : lookup busid k r.availableDevices = some device) :
      Outcome r (.tryMovingDeviceToUsing s)
        ({ r with
          usingDevices := Function.update r.usingDevices k (some device)
          availableDevices := remove busid k r.availableDevices }.setSession s
            (.importing k device))
  | missed {s : Session} {k : Busid} (hs : r.sessions s = .notUsing k) :
      Outcome r (.tryMovingDeviceToUsing s) (r.setSession s .ended)
  | discarded {s : Session} {k : Busid} {device : Device}
      (hs : r.sessions s = .importing k device) :
      Outcome r (.releaseDevice s true)
        ({ r with usingDevices := Function.update r.usingDevices k none }.setSession s .ended)
  | putBack {s : Session} {k : Busid} {device : Device}
      (hs : r.sessions s = .importing k device) :
      Outcome r (.releaseDevice s false)
        ({ r with
          availableDevices := r.availableDevices ++ [device]
          usingDevices := Function.update r.usingDevices k none }.setSession s .ended)

theorem outcome_of_step {r t : Registry Device Busid Session}
    {a : RegistryAction Device Busid Session} (hr : WellFormed busid r)
    (h : r.step busid a = some t) : Outcome busid r a t := by
  cases a with
  | addDevice device =>
      obtain rfl := Option.some.inj h
      unfold Registry.addDevice
      split
      · exact .refused device
      · split
        · exact .refused device
        · exact .added device
  | detachAvailableDevice k =>
      obtain rfl := Option.some.inj h
      exact .detached k
  | isDeviceUsing s k =>
      cases hpc : r.sessions s with
      | connected =>
          obtain rfl := by simpa only [Registry.step, hpc, Option.some.injEq] using h
          apply Outcome.asked hpc
          split
          · exact Or.inl rfl
          · exact Or.inr rfl
      | _ => simp [Registry.step, hpc] at h
  | tryMovingDeviceToUsing s =>
      cases hpc : r.sessions s with
      | notUsing k =>
          simp only [Registry.step, hpc, Registry.tryMovingDeviceToUsing] at h
          cases hlookup : lookup busid k r.availableDevices with
          | some device =>
              obtain rfl := by simpa only [hlookup, Option.some.injEq] using h
              exact .moved hpc hlookup
          | none =>
              obtain rfl := by simpa only [hlookup, Option.some.injEq] using h
              exact .missed hpc
      | _ => simp [Registry.step, hpc] at h
  | releaseDevice s isDeviceRemoved =>
      cases hpc : r.sessions s with
      | importing k device =>
          have husing := hr.held s k device hpc
          simp only [Registry.step, hpc, Registry.releaseDevice, husing] at h
          obtain rfl := Option.some.inj h
          cases isDeviceRemoved with
          | true => exact .discarded hpc
          | false => exact .putBack hpc
      | _ => simp [Registry.step, hpc] at h

theorem reachable_wellFormed {devices : List Device} (hdevices : Distinct busid devices)
    {r : Registry Device Busid Session} (h : Reachable (system busid Session devices) r) :
    WellFormed busid r := by
  refine h.invariant ?_ fun _ _ _ => wellFormed_step
  rintro r rfl
  exact wellFormed_ofDevices hdevices

/-- The device is in one of the two lists of the registry. -/
def Registry.Has (r : Registry Device Busid Session) (device : Device) : Prop :=
  device ∈ r.availableDevices ∨ ∃ k, r.usingDevices k = some device

variable (busid) in
/-- The step takes the device out of the registry on purpose: it detaches it, or releases it
after it has been removed physically. -/
def RegistryAction.Discards (r : Registry Device Busid Session) (device : Device) :
    RegistryAction Device Busid Session → Prop
  | .detachAvailableDevice k => lookup busid k r.availableDevices = some device
  | .releaseDevice s isDeviceRemoved =>
      isDeviceRemoved = true ∧ ∃ k, r.sessions s = .importing k device
  | _ => False

variable (busid) in
/-- Busids are unique across both lists, `using_devices` is keyed by busid, and a device that
a session holds has no other place and no other holder. -/
structure Consistent (r : Registry Device Busid Session) : Prop where
  distinct : Distinct busid r.availableDevices
  disjoint : ∀ d ∈ r.availableDevices, r.usingDevices (busid d) = none
  keyed : ∀ k d, r.usingDevices k = some d → busid d = k
  heldInPlace : ∀ s k d, r.sessions s = .importing k d →
    r.usingDevices k = some d ∧ d ∉ r.availableDevices ∧
      ∀ k', r.usingDevices k' = some d → k' = k
  heldOnce : ∀ s s' k k' d, r.sessions s = .importing k d →
    r.sessions s' = .importing k' d → s = s'

omit [DecidableEq Busid] [DecidableEq Session] in
theorem consistent_of_wellFormed {r : Registry Device Busid Session}
    (hr : WellFormed busid r) : Consistent busid r where
  distinct := hr.distinct
  disjoint := hr.disjoint
  keyed := hr.keyed
  heldInPlace s k d h := by
    have husing := hr.held s k d h
    have hkey := hr.keyed k d husing
    refine ⟨husing, fun hmem => ?_, fun k' hk' => ?_⟩
    · have hfree := hr.disjoint d hmem
      rw [hkey, husing] at hfree
      cases hfree
    · rw [← hkey, hr.keyed k' d hk']
  heldOnce s s' k k' d h h' := by
    obtain rfl : k = k' := by
      rw [← hr.keyed k d (hr.held s k d h), hr.keyed k' d (hr.held s' k' d h')]
    exact hr.exclusive s s' k d d h h'

omit [DecidableEq Session] in
theorem has_or_eq_of_detach {r : Registry Device Busid Session} (hr : WellFormed busid r)
    {d : Device} (hd : r.Has d) (k : Busid) :
    (r.detachAvailableDevice busid k).2.Has d ∨ lookup busid k r.availableDevices = some d := by
  rcases hd with hmem | husing
  · by_cases hkey : busid d = k
    · exact .inr (lookup_of_mem hr.distinct hmem hkey)
    · exact .inl (.inl ((mem_remove_of_key_ne hkey).mpr hmem))
  · exact .inl (.inr husing)

omit [DecidableEq Session] in
theorem has_moved {r : Registry Device Busid Session} (hr : WellFormed busid r) {d : Device}
    (hd : r.Has d) {k : Busid} {device : Device}
    (hlookup : lookup busid k r.availableDevices = some device) :
    Registry.Has { r with
      usingDevices := Function.update r.usingDevices k (some device)
      availableDevices := remove busid k r.availableDevices } d := by
  rcases hd with hmem | ⟨k', husing⟩
  · by_cases hkey : busid d = k
    · obtain rfl : device = d := by
        rw [lookup_of_mem hr.distinct hmem hkey] at hlookup
        exact (Option.some.inj hlookup).symm
      exact .inr ⟨k, by simp⟩
    · exact .inl ((mem_remove_of_key_ne hkey).mpr hmem)
  · have hne : k' ≠ k := by
      rintro rfl
      have hfree := hr.disjoint device (mem_of_lookup hlookup)
      rw [key_of_lookup hlookup, husing] at hfree
      cases hfree
    exact .inr ⟨k', by simpa [hne] using husing⟩

omit [DecidableEq Session] in
/-- The device given free is the only one that may go. -/
theorem has_or_eq_of_release {r : Registry Device Busid Session} {d : Device} (hd : r.Has d)
    {k : Busid} {device : Device} (husing : r.usingDevices k = some device)
    {devices : List Device} (hdevices : r.availableDevices ⊆ devices) :
    Registry.Has { r with
      availableDevices := devices
      usingDevices := Function.update r.usingDevices k none } d ∨ d = device := by
  rcases hd with hmem | ⟨k', hk'⟩
  · exact .inl (.inl (hdevices hmem))
  · by_cases hk : k' = k
    · subst hk
      exact .inr (Option.some.inj (hk'.symm.trans husing))
    · exact .inl (.inr ⟨k', by simpa [hk] using hk'⟩)

theorem has_or_discards_of_step {r t : Registry Device Busid Session}
    {a : RegistryAction Device Busid Session} (hr : WellFormed busid r)
    (h : r.step busid a = some t) {d : Device} (hd : r.Has d) :
    t.Has d ∨ a.Discards busid r d := by
  cases outcome_of_step hr h with
  | refused device => exact .inl hd
  | added device => exact .inl (hd.imp_left (List.mem_append_left _))
  | detached k => exact has_or_eq_of_detach hr hd k
  | asked hs hpc => exact .inl hd
  | moved hs hlookup => exact .inl (has_moved hr hd hlookup)
  | missed hs => exact .inl hd
  | @discarded s k device hs =>
      rcases has_or_eq_of_release hd (hr.held s k device hs) (List.Subset.refl _) with hhas | rfl
      · exact .inl hhas
      · exact .inr ⟨rfl, k, hs⟩
  | @putBack s k device hs =>
      have hheld := hr.held s k device hs
      rcases has_or_eq_of_release hd hheld (List.subset_append_left _ _) with hhas | rfl
      · exact .inl hhas
      · exact .inl (.inl (List.mem_append_right _ List.mem_cons_self))

/-- The registry stays consistent and keeps its devices in every run exactly if the list given
to the constructor names no busid twice: every other way into the registry checks that. -/
theorem registry_consistent_iff {devices : List Device} :
    (∀ r : Registry Device Busid Session, Reachable (system busid Session devices) r →
      Consistent busid r ∧ ∀ a t, r.step busid a = some t →
        ∀ d, r.Has d → t.Has d ∨ a.Discards busid r d) ↔
    (devices.map busid).Nodup := by
  constructor
  · intro h
    exact (h (.ofDevices devices) (.initial rfl)).1.distinct
  · intro hdevices r hreach
    have hr := reachable_wellFormed hdevices hreach
    exact ⟨consistent_of_wellFormed hr, fun a t hstep d hd => has_or_discards_of_step hr hstep hd⟩

/-- Two devices of one busid in the constructor's list: two sessions import that busid, and
the device of the first is overwritten in `using_devices`. -/
theorem registry_overwritten_of_duplicate_busid :
    ∃ r : Registry (Nat × String) String Nat,
      Reachable (system Prod.snd Nat [(1, "1-1"), (2, "1-1")]) r ∧
      r.sessions 0 = .importing "1-1" (1, "1-1") ∧ r.sessions 1 = .importing "1-1" (2, "1-1") ∧
      ¬ Consistent Prod.snd r ∧ ¬ r.Has (1, "1-1") := by
  refine ⟨_, Reachable.run [.isDeviceUsing 0 "1-1", .isDeviceUsing 1 "1-1",
    .tryMovingDeviceToUsing 0, .tryMovingDeviceToUsing 1] (.initial rfl) rfl, rfl, rfl, ?_, ?_⟩
  · intro h
    have hplace := (h.heldInPlace 0 "1-1" (1, "1-1") rfl).1
    simp [Registry.setSession] at hplace
  · rintro (hmem | ⟨k, hk⟩)
    · exact List.not_mem_nil hmem
    · by_cases hkey : k = "1-1" <;>
        simp [Registry.setSession, Registry.ofDevices, hkey] at hk

end Usbipdcpp.Server.DeviceRegistry
