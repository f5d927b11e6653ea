import Usbipdcpp.Foundation.PackedSlots
import Usbipdcpp.VirtualDevice.KeyboardHandler

namespace Usbipdcpp.VirtualDevice.KeyboardHandler

open Foundation.PackedSlots Foundation.TransitionSystem Foundation.WaitingSender

/-- The keys that are down are different from each other and stand before the free slots, and one
that is released is up, with the others as they were. -/
structure KeysSound (s : KeyboardState) : Prop where
  packed : Packed 0 s.keys.val
  released : ∀ keycode ≠ 0, isKeyPressed (releaseKey s keycode).1 keycode = false
  others : ∀ keycode ≠ 0, ∀ other ≠ 0, other ≠ keycode →
    isKeyPressed (releaseKey s keycode).1 other = isKeyPressed s other

/-- Keys that are pressed together are different from each other, as far as there are slots for
them. -/
def DistinctKeys : Event KeyboardCall → Prop
  | .call (.pressKeys keycodes) => ((keycodes.filter (· ≠ 0)).take maxKeys).Nodup
  | _ => True

theorem zero_not_mem_filter (codes : List UInt8) : 0 ∉ codes.filter (· ≠ 0) := by
  simp

theorem packed_ofCodes_iff (codes : List UInt8) :
    Packed 0 (Keys.ofCodes (codes.filter (· ≠ 0))).val ↔
      ((codes.filter (· ≠ 0)).take maxKeys).Nodup :=
  packed_pad_iff (zero_not_mem_filter codes)

theorem packed_pressKey {s : KeyboardState} (h : Packed 0 s.keys.val) (keycode : UInt8) :
    Packed 0 (pressKey s keycode).1.keys.val := by
  unfold pressKey
  split
  next => exact h
  next hkey =>
    split
    next => exact h
    next hup =>
      split
      next slot hslot => exact h.set_free hkey hup hslot
      next => exact h

/-- The keys that are left move up in their order. -/
theorem packed_releaseKey {s : KeyboardState} (h : Packed 0 s.keys.val) (keycode : UInt8) :
    Packed 0 (releaseKey s keycode).1.keys.val := by
  unfold releaseKey
  split
  next => exact h
  next =>
    split
    next slot hslot =>
      apply (packed_ofCodes_iff _).mpr
      exact (h.distinct.sublist (stored_set_sublist hslot)).sublist (List.take_sublist _ _)
    next => exact h

theorem packed_call {s : KeyboardState} (h : Packed 0 s.keys.val) (c : KeyboardCall) :
    Packed 0 (call s c).1.keys.val ↔ DistinctKeys (.call c) := by
  cases c with
  | pressKey keycode => exact iff_true_intro (packed_pressKey h keycode)
  | releaseKey keycode => exact iff_true_intro (packed_releaseKey h keycode)
  | releaseAll => exact iff_true_intro ((packed_ofCodes_iff []).mpr List.nodup_nil)
  | pressKeys keycodes => exact packed_ofCodes_iff keycodes
  | setModifier | clearModifier | pressMediaKey => exact iff_true_intro h

theorem keys_settle (s : KeyboardState) : (settle s).keys = s.keys := by
  unfold settle
  split <;> rfl

theorem mem_releaseKey {s : KeyboardState} {other : UInt8} {slot : Nat} (hother : other ≠ 0) :
    other ∈ (Keys.ofCodes ((s.keys.set slot 0).val.filter (· ≠ 0))).val ↔
      other ∈ s.keys.val.set slot 0 := by
  have hlength : ((s.keys.set slot 0).val.filter (· ≠ 0)).length ≤ maxKeys :=
    (List.length_filter_le _ _).trans (s.keys.set slot 0).property.le
  refine (mem_pad hlength hother).trans ?_
  rw [List.mem_filter, decide_eq_true_iff]
  exact and_iff_left hother

theorem keysSound_of_packed {s : KeyboardState} (h : Packed 0 s.keys.val) : KeysSound s where
  packed := h
  released keycode hkey := by
    unfold isKeyPressed releaseKey
    rw [if_neg hkey]
    split
    next slot hslot =>
      exact decide_eq_false fun hdown =>
        not_mem_set h.distinct hkey hslot ((mem_releaseKey hkey).mp hdown)
    next hnone =>
      exact decide_eq_false fun hdown =>
        by simpa using List.findIdx?_eq_none_iff.mp hnone keycode hdown
  others keycode hkey other hother hne := by
    unfold isKeyPressed releaseKey
    rw [if_neg hkey]
    split
    next slot hslot =>
      exact decide_eq_decide.mpr
        ((mem_releaseKey hother).trans (mem_set_iff hother hne hslot))
    next => rfl

/-- A connection that has just begun. -/
def connected : Running (Mirror KeyboardState) (List UInt8) := ⟨⟨{}, {}⟩, false, []⟩

/-- The keys are sound all the time, if and only if no list of keys that are pressed together has
one twice. -/
theorem keys_sound_iff {events : List (Event KeyboardCall)}
    {t : Running (Mirror KeyboardState) (List UInt8)}
    (hrun : system.run connected events = some t) :
    (∀ before after u, events = before ++ after → system.run connected before = some u →
        KeysSound u.state.current) ↔ ∀ event ∈ events, DistinctKeys event := by
  refine Iff.trans ?_ (System.meets_iff_forall_mem hrun)
  refine System.forall_prefix_iff_meets (I := fun _ => True)
    (P := fun u : Running (Mirror KeyboardState) (List UInt8) => KeysSound u.state.current)
    (fun _ _ _ _ _ => trivial) ?_ trivial ?_ hrun
  · intro u event v _ hu hstep
    have heffect : Sender.Effect sender u event v := Sender.effect_of_step hstep
    have hiff : Packed 0 v.state.current.keys.val ↔ DistinctKeys event := by
      cases heffect with
      | call c => exact packed_call hu.packed c
      | send =>
          apply iff_true_intro
          change Packed 0 (settle u.state.current).keys.val
          rw [keys_settle]
          exact hu.packed
      | sleep => exact iff_true_intro hu.packed
      | wake => exact iff_true_intro hu.packed
    exact ⟨fun hv => hiff.mp hv.packed, fun hdistinct => keysSound_of_packed (hiff.mpr hdistinct)⟩
  · exact keysSound_of_packed ((packed_ofCodes_iff []).mpr List.nodup_nil)

theorem keys_sound_iff_threeKeys :
    let events : List (Event KeyboardCall) :=
      [.call (.pressKeys [4, 0, 5]), .turn, .call (.releaseKey 4), .call (.pressKey 6)]
    (∀ before after u, events = before ++ after → system.run connected before = some u →
        KeysSound u.state.current) ↔ ∀ event ∈ events, DistinctKeys event :=
  @keys_sound_iff [.call (.pressKeys [4, 0, 5]), .turn, .call (.releaseKey 4), .call (.pressKey 6)]
    ⟨⟨{ keys := .ofCodes [5, 6] }, { keys := .ofCodes [4, 5] }⟩, false,
      [[1, 0, 0, 4, 5, 0, 0, 0, 0]]⟩ (by decide)

/-- A key that is pressed twice in one call is still down when it has been released. -/
theorem not_keys_sound : ¬∀ events t, system.run connected events = some t →
    KeysSound t.state.current := by
  intro h
  have hsound := h [.call (.pressKeys [4, 4])]
    ⟨⟨{ keys := .ofCodes [4, 4] }, {}⟩, false, []⟩ (by decide)
  exact absurd (hsound.released 4 (by decide)) (by decide)

end Usbipdcpp.VirtualDevice.KeyboardHandler
