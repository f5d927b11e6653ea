import Mathlib.Logic.Basic

namespace Usbipdcpp.Foundation.DataRefinement

universe u v w x

variable {σ : Type u} {τ : Type v} {ι : Type w} {ο : Type x}

/-- The answers to the calls of a list in turn, and the state behind them. -/
def run (step : σ → ι → ο × σ) (s : σ) : List ι → List ο × σ
  | [] => ([], s)
  | call :: calls =>
      let (answer, t) := step s call
      let (answers, last) := run step t calls
      (answer :: answers, last)

/-- The answers to the calls of a list that a specification allows, and a state it may be in behind
them. -/
inductive Allows (spec : τ → ι → ο → τ → Prop) : τ → List ι → List ο → τ → Prop
  | nil (t : τ) : Allows spec t [] [] t
  | cons {t u v : τ} {call : ι} {calls : List ι} {answer : ο} {answers : List ο}
      (hcall : spec t call answer u) (hcalls : Allows spec u calls answers v) :
      Allows spec t (call :: calls) (answer :: answers) v

/-- Each call is one of the specification, between states that stand for each other. -/
def Refines (step : σ → ι → ο × σ) (spec : τ → ι → ο → τ → Prop) (R : σ → τ → Prop) : Prop :=
  ∀ s t call, R s t → ∃ u, spec t call (step s call).1 u ∧ R (step s call).2 u

variable {step : σ → ι → ο × σ} {spec : τ → ι → ο → τ → Prop} {R : σ → τ → Prop}

theorem Refines.run (h : Refines step spec R) {s : σ} {t : τ} (hst : R s t) (calls : List ι) :
    ∃ u, Allows spec t calls (run step s calls).1 u ∧ R (run step s calls).2 u := by
  induction calls generalizing s t with
  | nil => exact ⟨t, .nil t, hst⟩
  | cons call calls ih =>
      obtain ⟨u, hcall, hu⟩ := h s t call hst
      obtain ⟨v, hcalls, hv⟩ := ih hu
      exact ⟨v, .cons hcall hcalls, hv⟩

/-- The specification that has one answer and one state behind it. -/
def graph (f : τ → ι → ο × τ) (t : τ) (call : ι) (answer : ο) (u : τ) : Prop :=
  f t call = (answer, u)

theorem run_of_allows {f : τ → ι → ο × τ} {t u : τ} {calls : List ι} {answers : List ο}
    (h : Allows (graph f) t calls answers u) : DataRefinement.run f t calls = (answers, u) := by
  induction h with
  | nil => rfl
  | cons hcall hcalls ih =>
      rw [DataRefinement.run, hcall]
      dsimp only
      rw [ih]

/-- A structure whose calls are those of another one gives its answers. -/
theorem Refines.answers_eq {f : τ → ι → ο × τ} (h : Refines step (graph f) R) {s : σ} {t : τ}
    (hst : R s t) (calls : List ι) :
    (DataRefinement.run step s calls).1 = (DataRefinement.run f t calls).1 ∧
      R (DataRefinement.run step s calls).2 (DataRefinement.run f t calls).2 := by
  obtain ⟨u, hallows, hu⟩ := h.run hst calls
  rw [run_of_allows hallows]
  exact ⟨rfl, hu⟩

end Usbipdcpp.Foundation.DataRefinement
