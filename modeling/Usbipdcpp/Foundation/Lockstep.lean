import Mathlib.Data.List.Forall2
import Mathlib.Data.Option.Basic

namespace Usbipdcpp.Foundation.Lockstep

variable {α β γ δ : Type*} {S T A O P : Type*}

/-- Related results are the results that there are. -/
theorem rel_self {r : α → β → Prop} {a : Option α} {b : Option β} (h : Option.Rel r a b) :
    Option.Rel (fun x y => r x y ∧ a = some x ∧ b = some y) a b := by
  cases h with
  | some hr => exact .some ⟨hr, rfl, rfl⟩
  | none => exact .none

theorem exists_of_rel_left {r : α → β → Prop} {a : Option α} {b : Option β} {x : α}
    (h : Option.Rel r a b) (ha : a = some x) : ∃ y, b = some y ∧ r x y := by
  subst ha
  cases h with
  | some hr => exact ⟨_, rfl, hr⟩

theorem exists_of_rel_right {r : α → β → Prop} {a : Option α} {b : Option β} {y : β}
    (h : Option.Rel r a b) (hb : b = some y) : ∃ x, a = some x ∧ r x y := by
  subst hb
  cases h with
  | some hr => exact ⟨_, rfl, hr⟩

theorem rel_mono {r q : α → β → Prop} {a : Option α} {b : Option β} (h : Option.Rel r a b)
    (hmono : ∀ x y, r x y → q x y) : Option.Rel q a b := by
  cases h with
  | some hr => exact .some (hmono _ _ hr)
  | none => exact .none

theorem rel_map_left {r : α → β → Prop} {q : γ → β → Prop} {f : α → γ} {a : Option α} {b : Option β}
    (h : Option.Rel r a b) (hmap : ∀ x y, r x y → q (f x) y) : Option.Rel q (a.map f) b := by
  cases h with
  | some hr => exact .some (hmap _ _ hr)
  | none => exact .none

theorem rel_map_right {r : α → β → Prop} {q : α → δ → Prop} {g : β → δ} {a : Option α}
    {b : Option β} (h : Option.Rel r a b) (hmap : ∀ x y, r x y → q x (g y)) :
    Option.Rel q a (b.map g) := by
  cases h with
  | some hr => exact .some (hmap _ _ hr)
  | none => exact .none

theorem rel_map {r : α → β → Prop} {q : γ → δ → Prop} {f : α → γ} {g : β → δ} {a : Option α}
    {b : Option β} (h : Option.Rel r a b) (hmap : ∀ x y, r x y → q (f x) (g y)) :
    Option.Rel q (a.map f) (b.map g) :=
  rel_map_left (q := fun z y => q z y) (rel_map_right h fun x y hr => hmap x y hr) fun _ _ hq => hq

theorem rel_bind {r : α → β → Prop} {q : γ → δ → Prop} {f : α → Option γ} {g : β → Option δ}
    {a : Option α} {b : Option β} (h : Option.Rel r a b)
    (hbind : ∀ x y, r x y → Option.Rel q (f x) (g y)) :
    Option.Rel q (a.bind f) (b.bind g) := by
  cases h with
  | some hr => exact hbind _ _ hr
  | none => exact .none

/-- The actions of a list in turn, each with its answer, up to the first answer behind which the
party that acts stops. -/
def runUntil (step : S → A → Option (S × O)) (stop : A → O → Bool) (s : S) :
    List A → Option (S × List O)
  | [] => some (s, [])
  | a :: actions =>
      (step s a).bind fun p =>
        if stop a p.2 then some (p.1, [p.2])
        else (runUntil step stop p.1 actions).map fun q => (q.1, p.2 :: q.2)

/-- A machine and what stands for it, step by step.  Where the party goes on, the states are
related by `R`; where it may stop, by `F`. -/
structure InStep (step : S → A → Option (S × O)) (step' : T → A → Option (T × P))
    (stop : A → O → Bool) (stop' : A → P → Bool) (R F : S → T → Prop) (Q : O → P → Prop) :
    Prop where
  weaken : ∀ s t, R s t → F s t
  step : ∀ s t a, R s t → Option.Rel
    (fun p q => F p.1 q.1 ∧ Q p.2 q.2 ∧ stop a p.2 = stop' a q.2 ∧
      (stop' a q.2 = false → R p.1 q.1)) (step s a) (step' t a)

/-- What holds step by step holds of whole runs. -/
theorem InStep.runUntil {step : S → A → Option (S × O)} {step' : T → A → Option (T × P)}
    {stop : A → O → Bool} {stop' : A → P → Bool} {R F : S → T → Prop} {Q : O → P → Prop}
    (h : InStep step step' stop stop' R F Q) {s : S} {t : T} (hst : R s t) (actions : List A) :
    Option.Rel (fun p q => F p.1 q.1 ∧ List.Forall₂ Q p.2 q.2)
      (runUntil step stop s actions) (runUntil step' stop' t actions) := by
  induction actions generalizing s t with
  | nil => exact .some ⟨h.weaken s t hst, .nil⟩
  | cons a actions ih =>
      refine rel_bind (h.step s t a hst) ?_
      rintro ⟨s', o⟩ ⟨t', p⟩ ⟨hend, hanswer, hstop, hgoes⟩
      dsimp only at hend hanswer hstop hgoes ⊢
      rw [hstop]
      cases hstops : stop' a p with
      | true => exact .some ⟨hend, .cons hanswer .nil⟩
      | false =>
          refine rel_map (ih (hgoes hstops)) ?_
          rintro ⟨u, os⟩ ⟨v, ps⟩ ⟨hfinal, hanswers⟩
          exact ⟨hfinal, .cons hanswer hanswers⟩

end Usbipdcpp.Foundation.Lockstep
