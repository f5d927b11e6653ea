import Usbipdcpp.Foundation.TransitionSystem

namespace Usbipdcpp.Foundation.Latch

open TransitionSystem

variable {ε α : Type*}

/-- An event has set the latch, which the ones before it may decide, and none after it has reset
it. -/
def HeldSince (sets : List ε → ε → Prop) (resets : ε → Prop) (events : List ε) : Prop :=
  ∃ before e after, events = before ++ e :: after ∧ sets before e ∧ ∀ later ∈ after, ¬ resets later

theorem not_heldSince_nil {sets : List ε → ε → Prop} {resets : ε → Prop} :
    ¬ HeldSince sets resets [] := by
  rintro ⟨before, e, after, heq, -, -⟩
  exact List.append_ne_nil_of_right_ne_nil before (List.cons_ne_nil e after) heq.symm

theorem heldSince_concat {sets : List ε → ε → Prop} {resets : ε → Prop} {events : List ε} {e : ε} :
    HeldSince sets resets (events ++ [e]) ↔
      sets events e ∨ HeldSince sets resets events ∧ ¬ resets e := by
  constructor
  · rintro ⟨before, e', after, heq, hset, hheld⟩
    rcases concat_eq_append_cons_iff.mp heq with ⟨rfl, rfl, rfl⟩ | ⟨after, rfl, rfl⟩
    · exact .inl hset
    · obtain ⟨hheld, hlast⟩ := List.forall_mem_append.mp hheld
      exact .inr ⟨⟨before, e', after, rfl, hset, hheld⟩, hlast e List.mem_cons_self⟩
  · rintro (hset | ⟨⟨before, e', after, rfl, hset, hheld⟩, hlast⟩)
    · exact ⟨events, e, [], rfl, hset, nofun⟩
    · refine ⟨before, e', after ++ [e], by simp, hset, ?_⟩
      exact List.forall_mem_append.mpr ⟨hheld, List.forall_mem_singleton.mpr hlast⟩

/-- What is false at first, and which each event sets, resets or leaves alone, is held since the
last event that has set it. -/
theorem iff_heldSince (state : List ε → Prop) {sets : List ε → ε → Prop} {resets : ε → Prop}
    (hinit : ¬ state [])
    (hstep : ∀ events e, state (events ++ [e]) ↔ sets events e ∨ state events ∧ ¬ resets e)
    (events : List ε) : state events ↔ HeldSince sets resets events := by
  induction events using List.reverseRecOn with
  | nil => exact iff_of_false hinit not_heldSince_nil
  | append_singleton events e ih => rw [hstep, heldSince_concat, ih]

theorem HeldSince.mono {sets sets' : List ε → ε → Prop} {resets : ε → Prop} {events : List ε}
    (h : HeldSince sets resets events)
    (hsets : ∀ before e, sets before e → sets' before e) : HeldSince sets' resets events := by
  obtain ⟨before, e, after, heq, hset, hheld⟩ := h
  exact ⟨before, e, after, heq, hsets before e hset, hheld⟩

/-- What the last event that writes something has written. -/
def lastOf (writes : ε → Option α) (events : List ε) : Option α :=
  (events.filterMap writes).getLast?

@[simp] theorem lastOf_nil (writes : ε → Option α) : lastOf writes [] = none := rfl

theorem lastOf_concat (writes : ε → Option α) (events : List ε) (e : ε) :
    lastOf writes (events ++ [e]) = (writes e).or (lastOf writes events) := by
  unfold lastOf
  rw [List.filterMap_append, List.getLast?_append]
  cases h : writes e with
  | none => simp [h]
  | some a => simp [h]

/-- A register holds what the last event that writes it has written. -/
theorem eq_lastOf (register : List ε → α) {init : α} {writes : ε → Option α}
    (hinit : register [] = init)
    (hstep : ∀ events e, register (events ++ [e]) = (writes e).getD (register events))
    (events : List ε) : register events = (lastOf writes events).getD init := by
  induction events using List.reverseRecOn with
  | nil => exact hinit
  | append_singleton events e ih =>
      rw [hstep, lastOf_concat, ih]
      cases writes e <;> rfl

/-- How many events leave a value other than the one before them. -/
def changes [DecidableEq α] (value : List ε → α) (events : List ε) : Nat :=
  (List.range events.length).countP fun i =>
    value (events.take (i + 1)) ≠ value (events.take i)

theorem changes_concat [DecidableEq α] (value : List ε → α) (events : List ε) (e : ε) :
    changes value (events ++ [e]) =
      changes value events + if value (events ++ [e]) ≠ value events then 1 else 0 := by
  have hbefore : (List.range events.length).countP (fun i =>
        decide (value ((events ++ [e]).take (i + 1)) ≠ value ((events ++ [e]).take i))) =
      changes value events := by
    refine List.countP_congr fun i hi => ?_
    have hlt := List.mem_range.mp hi
    rw [List.take_append_of_le_length hlt, List.take_append_of_le_length (Nat.le_of_lt hlt)]
  have hall : (events ++ [e]).take (events.length + 1) = events ++ [e] :=
    List.take_of_length_le (by simp)
  unfold changes at hbefore ⊢
  rw [List.length_append, List.length_singleton, List.range_succ, List.countP_append, hbefore,
    List.countP_singleton, hall, List.take_left]
  simp only [decide_eq_true_eq]

end Usbipdcpp.Foundation.Latch
