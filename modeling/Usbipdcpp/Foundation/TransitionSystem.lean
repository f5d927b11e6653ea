import Mathlib.Data.List.Induction
import Mathlib.Data.Option.Basic

namespace Usbipdcpp.Foundation.TransitionSystem

universe u v

/-- A labelled transition system: the states a run may begin in, and what each action does.
An action that is not enabled in a state has no next state, so all nondeterminism is in the
choice of the action. -/
structure System (State : Type u) (Action : Type v) where
  initial : State → Prop
  step : State → Action → Option State

variable {State : Type u} {Action : Type v}

/-- The states reached by runs all of whose steps satisfy `G`, judged in the state before
the step. -/
inductive ReachableUnder (T : System State Action) (G : State → Action → Prop) :
    State → Prop
  | initial {s : State} (hinit : T.initial s) : ReachableUnder T G s
  | step {s t : State} {a : Action} (hreach : ReachableUnder T G s) (hguard : G s a)
      (hstep : T.step s a = some t) : ReachableUnder T G t

/-- The states reached by arbitrary runs. -/
def Reachable (T : System State Action) : State → Prop :=
  ReachableUnder T fun _ _ => True

/-- The state in which the actions of a list leave the system, if all of them are enabled. -/
def System.run (T : System State Action) (s : State) (actions : List Action) :
    Option State :=
  actions.foldlM T.step s

/-- A property of the initial states that every guarded step preserves holds of every state
that guarded runs reach. -/
theorem ReachableUnder.invariant {T : System State Action} {G : State → Action → Prop}
    {I : State → Prop} (hinit : ∀ s, T.initial s → I s)
    (hstep : ∀ s a t, I s → G s a → T.step s a = some t → I t)
    {s : State} (h : ReachableUnder T G s) : I s := by
  induction h with
  | initial hs => exact hinit _ hs
  | step _ hguard hs ih => exact hstep _ _ _ ih hguard hs

theorem ReachableUnder.reachable {T : System State Action} {G : State → Action → Prop} {s : State}
    (h : ReachableUnder T G s) : Reachable T s := by
  induction h with
  | initial hs => exact .initial hs
  | step _ _ hs ih => exact ih.step trivial hs

theorem Reachable.invariant {T : System State Action} {I : State → Prop}
    (hinit : ∀ s, T.initial s → I s)
    (hstep : ∀ s a t, I s → T.step s a = some t → I t)
    {s : State} (h : Reachable T s) : I s :=
  ReachableUnder.invariant hinit (fun s a t hs _ => hstep s a t hs) h

theorem Reachable.step {T : System State Action} {s t : State} {a : Action}
    (hreach : Reachable T s) (hstep : T.step s a = some t) : Reachable T t :=
  ReachableUnder.step hreach trivial hstep

/-- A run of actions that satisfy `G` in any state. -/
theorem ReachableUnder.run {T : System State Action} {G : State → Action → Prop} {s t : State}
    (actions : List Action) (hguard : ∀ s, ∀ a ∈ actions, G s a) (hreach : ReachableUnder T G s)
    (hrun : T.run s actions = some t) : ReachableUnder T G t := by
  induction actions generalizing s with
  | nil =>
      obtain rfl : s = t := by simpa [System.run] using hrun
      exact hreach
  | cons a actions ih =>
      obtain ⟨u, hu, hrest⟩ : ∃ u, T.step s a = some u ∧ T.run u actions = some t := by
        simpa [System.run, List.foldlM_cons, Option.bind_eq_some_iff] using hrun
      exact ih (fun s b hb => hguard s b (List.mem_cons_of_mem a hb))
        (hreach.step (hguard s a List.mem_cons_self) hu) hrest

theorem Reachable.run {T : System State Action} {s t : State} (actions : List Action)
    (hreach : Reachable T s) (hrun : T.run s actions = some t) : Reachable T t :=
  ReachableUnder.run actions (fun _ _ _ => trivial) hreach hrun

theorem System.run_concat {T : System State Action} {s t : State} {actions : List Action}
    {a : Action} :
    T.run s (actions ++ [a]) = some t ↔ ∃ u, T.run s actions = some u ∧ T.step u a = some t := by
  simp [System.run, List.foldlM_append, Option.bind_eq_some_iff]

/-- A property of a state and of the actions that have led to it, which holds before the first
action and which every step preserves, holds at the end of every run. -/
theorem System.run_invariant {T : System State Action} {I : List Action → State → Prop}
    {s : State} (hinit : I [] s)
    (hstep : ∀ actions u a t, I actions u → T.step u a = some t → I (actions ++ [a]) t)
    {actions : List Action} {t : State} (hrun : T.run s actions = some t) : I actions t := by
  induction actions using List.reverseRecOn generalizing t with
  | nil =>
      obtain rfl : s = t := by simpa [System.run] using hrun
      exact hinit
  | append_singleton actions a ih =>
      obtain ⟨u, hu, ht⟩ := System.run_concat.mp hrun
      exact hstep actions u a t (ih hu) ht

/-- An element of a list that ends with `a` is that one, or one of those before it. -/
theorem concat_eq_append_cons_iff {α : Type*} {as before after : List α} {a b : α} :
    as ++ [a] = before ++ b :: after ↔
      (before = as ∧ b = a ∧ after = []) ∨
        ∃ after', after = after' ++ [a] ∧ as = before ++ b :: after' := by
  constructor
  · intro heq
    rcases List.eq_nil_or_concat after with rfl | ⟨after, last, rfl⟩
    · obtain ⟨rfl, hlast⟩ := List.append_inj' heq rfl
      exact .inl ⟨rfl, (List.singleton_inj.mp hlast).symm, rfl⟩
    · rw [List.concat_eq_append, ← List.cons_append, ← List.append_assoc] at heq
      obtain ⟨rfl, hlast⟩ := List.append_inj' heq rfl
      exact .inr ⟨after, by rw [List.concat_eq_append, hlast], rfl⟩
  · rintro (⟨rfl, rfl, rfl⟩ | ⟨after', rfl, rfl⟩)
    · rfl
    · rw [List.append_assoc, List.cons_append]

/-- Every action of a list satisfies `G` in the state that the ones before it lead to. -/
def System.Meets (T : System State Action) (G : State → Action → Prop) (s : State)
    (actions : List Action) : Prop :=
  ∀ before a after u, actions = before ++ a :: after → T.run s before = some u → G u a

theorem System.meets_nil {T : System State Action} {G : State → Action → Prop} {s : State} :
    T.Meets G s [] := by
  intro before a after u heq
  exact absurd heq (by simp)

theorem System.meets_concat {T : System State Action} {G : State → Action → Prop} {s u : State}
    {actions : List Action} {a : Action} (hrun : T.run s actions = some u) :
    T.Meets G s (actions ++ [a]) ↔ T.Meets G s actions ∧ G u a := by
  constructor
  · intro h
    refine ⟨fun before b after v heq => ?_, h actions a [] u rfl hrun⟩
    exact h before b (after ++ [a]) v (concat_eq_append_cons_iff.mpr (.inr ⟨after, rfl, heq⟩))
  · rintro ⟨hactions, ha⟩ before b after v heq hbefore
    obtain ⟨rfl, rfl, -⟩ | ⟨after', -, heq⟩ := concat_eq_append_cons_iff.mp heq
    · obtain rfl := Option.some.inj (hrun.symm.trans hbefore)
      exact ha
    · exact hactions before b after' v heq hbefore

theorem System.meets_cons {T : System State Action} {G : State → Action → Prop} {s u : State}
    {actions : List Action} {a : Action} (hstep : T.step s a = some u) :
    T.Meets G s (a :: actions) ↔ G s a ∧ T.Meets G u actions := by
  have hbehind (before : List Action) : T.run s (a :: before) = T.run u before := by
    rw [System.run, List.foldlM_cons, hstep]
    rfl
  constructor
  · intro h
    refine ⟨h [] a actions s rfl rfl, fun before b after v heq hrun => ?_⟩
    exact h (a :: before) b after v (congrArg (List.cons a) heq) ((hbehind before).trans hrun)
  · rintro ⟨ha, hactions⟩ before b after v heq hrun
    cases before with
    | nil =>
        obtain rfl : s = v := Option.some.inj hrun
        exact (List.cons.inj heq).1 ▸ ha
    | cons first before =>
        obtain ⟨rfl, hrest⟩ := List.cons.inj heq
        exact hactions before b after v hrest ((hbehind before).symm.trans hrun)

theorem System.exists_run_of_append {T : System State Action} {s t : State}
    {before after : List Action} (hrun : T.run s (before ++ after) = some t) :
    ∃ u, T.run s before = some u ∧ T.run u after = some t := by
  rw [System.run, List.foldlM_append] at hrun
  exact Option.bind_eq_some_iff.mp hrun

theorem System.exists_step_of_append {T : System State Action} {s t u : State} {a : Action}
    {before after : List Action} (hrun : T.run s (before ++ a :: after) = some t)
    (hbefore : T.run s before = some u) :
    ∃ v, T.step u a = some v ∧ T.run s (before ++ [a]) = some v := by
  rw [← List.singleton_append, ← List.append_assoc] at hrun
  obtain ⟨v, hv, -⟩ := System.exists_run_of_append hrun
  obtain ⟨w, hw, hstep⟩ := System.run_concat.mp hv
  obtain rfl := Option.some.inj (hbefore.symm.trans hw)
  exact ⟨v, hstep, hv⟩

/-- What the actions of a run satisfy in every state, each of them satisfies. -/
theorem System.meets_iff_forall_mem {T : System State Action} {P : Action → Prop} {s t : State}
    {actions : List Action} (hrun : T.run s actions = some t) :
    T.Meets (fun _ a => P a) s actions ↔ ∀ a ∈ actions, P a := by
  constructor
  · intro h a ha
    obtain ⟨before, after, rfl⟩ := List.append_of_mem ha
    obtain ⟨u, hbefore, -⟩ := System.exists_run_of_append hrun
    exact h before a after u rfl hbefore
  · rintro h before a after u rfl -
    exact h a (List.mem_append_right _ List.mem_cons_self)

/-- What says the same of every step that is taken from a state of a run, the run meets alike. -/
theorem System.meets_congr {T : System State Action} {G G' : State → Action → Prop}
    {I : State → Prop} (hinvariant : ∀ s a t, I s → T.step s a = some t → I t)
    (hsame : ∀ s a t, I s → T.step s a = some t → (G s a ↔ G' s a)) {s t : State}
    {actions : List Action} (hI : I s) (hrun : T.run s actions = some t) :
    T.Meets G s actions ↔ T.Meets G' s actions := by
  have hstep (before : List Action) (a : Action) (after : List Action) (u : State)
      (heq : actions = before ++ a :: after) (hbefore : T.run s before = some u) :
      G u a ↔ G' u a := by
    obtain ⟨v, hstep, -⟩ := System.exists_step_of_append (heq ▸ hrun) hbefore
    refine hsame u a v ?_ hstep
    exact System.run_invariant (I := fun _ u => I u) hI (fun _ u a v => hinvariant u a v) hbefore
  exact ⟨fun h before a after u heq hu => (hstep before a after u heq hu).mp (h _ _ _ _ heq hu),
    fun h before a after u heq hu => (hstep before a after u heq hu).mpr (h _ _ _ _ heq hu)⟩

/-- Where each step keeps `P` if and only if it satisfies `G`, all states of a run have `P` if and
only if all its steps satisfy `G`. -/
theorem System.forall_prefix_iff_meets {T : System State Action} {G : State → Action → Prop}
    {I P : State → Prop} (hinvariant : ∀ s a t, I s → T.step s a = some t → I t)
    (hkeeps : ∀ s a t, I s → P s → T.step s a = some t → (P t ↔ G s a))
    {s t : State} {actions : List Action} (hI : I s) (hP : P s) (hrun : T.run s actions = some t) :
    (∀ before after u, actions = before ++ after → T.run s before = some u → P u) ↔
      T.Meets G s actions := by
  have hreached {actions : List Action} {u : State} (h : T.run s actions = some u) : I u :=
    System.run_invariant (I := fun _ u => I u) hI (fun _ u a v => hinvariant u a v) h
  constructor
  · intro hall before a after u heq hbefore
    obtain ⟨v, hstep, hv⟩ := System.exists_step_of_append (heq ▸ hrun) hbefore
    have hsplit : actions = (before ++ [a]) ++ after := by rw [heq, List.append_assoc]; rfl
    have hu := hall before (a :: after) u heq hbefore
    exact (hkeeps u a v (hreached hbefore) hu hstep).mp (hall (before ++ [a]) after v hsplit hv)
  · intro hmeets before after u heq hbefore
    induction before using List.reverseRecOn generalizing after u with
    | nil =>
        obtain rfl : s = u := by simpa [System.run] using hbefore
        exact hP
    | append_singleton before a ih =>
        obtain ⟨v, hv, hstep⟩ := System.run_concat.mp hbefore
        have hsplit : actions = before ++ a :: after := by rw [heq, List.append_assoc]; rfl
        have hbeforeP := ih (a :: after) v hsplit hv
        exact (hkeeps v a u (hreached hv) hbeforeP hstep).mpr (hmeets before a after v hsplit hv)

/-- The system whose runs begin in a state that has `P` besides. -/
def System.startingIn (T : System State Action) (P : State → Prop) : System State Action where
  initial s := T.initial s ∧ P s
  step := T.step

theorem Reachable.of_startingIn {T : System State Action} {P : State → Prop} {s : State}
    (h : Reachable (T.startingIn P) s) : Reachable T s := by
  refine Reachable.invariant (T := T.startingIn P) (I := Reachable T) ?_
    (fun _ _ _ hs hstep => hs.step hstep) h
  rintro s ⟨hs, -⟩
  exact .initial hs

section Observe

variable {History : Type*} {T : System State Action} {start : History}
  {record : History → State → Action → State → History}

/-- The system that keeps a record of its steps, which none of them depends on. -/
def System.observe (T : System State Action) (start : History)
    (record : History → State → Action → State → History) : System (State × History) Action where
  initial p := T.initial p.1 ∧ p.2 = start
  step p a := (T.step p.1 a).map fun t => (t, record p.2 p.1 a t)

theorem observe_step {p q : State × History} {a : Action}
    (h : (T.observe start record).step p a = some q) :
    T.step p.1 a = some q.1 ∧ q.2 = record p.2 p.1 a q.1 := by
  obtain ⟨t, hstep, rfl⟩ := Option.map_eq_some_iff.mp h
  exact ⟨hstep, rfl⟩

/-- The observer sees the system's own states. -/
theorem Reachable.of_observe {p : State × History} (h : Reachable (T.observe start record) p) :
    Reachable T p.1 := by
  refine Reachable.invariant (T := T.observe start record) (I := fun p => Reachable T p.1) ?_
    (fun _ _ _ hp hstep => hp.step (observe_step hstep).1) h
  rintro p ⟨hp, -⟩
  exact .initial hp

end Observe

section Record

variable {ε : Type u} {P : List ε → ε → Prop} {events : List ε} {e : ε}

/-- Every event of a record stands in the relation `P` to those before it. -/
def Justified (P : List ε → ε → Prop) (events : List ε) : Prop :=
  ∀ before e after, events = before ++ e :: after → P before e

theorem justified_nil : Justified P [] := by
  rintro before e after h
  exact absurd h.symm (by simp)

theorem justified_concat : Justified P (events ++ [e]) ↔ Justified P events ∧ P events e := by
  constructor
  · intro h
    refine ⟨fun before e' after heq => ?_, h events e [] rfl⟩
    exact h before e' (after ++ [e]) (concat_eq_append_cons_iff.mpr (.inr ⟨after, rfl, heq⟩))
  · rintro ⟨hevents, he⟩ before e' after heq
    obtain ⟨rfl, rfl, -⟩ | ⟨after', -, heq⟩ := concat_eq_append_cons_iff.mp heq
    · exact he
    · exact hevents before e' after' heq

variable {κ : Type*} [DecidableEq κ] {f : ε → Option κ} {k : κ} {events' : List ε}

/-- How many events of a record concern `k` in the way of `f`. -/
def occurrences (f : ε → Option κ) (k : κ) (events : List ε) : Nat :=
  (events.filterMap f).count k

@[simp] theorem occurrences_nil : occurrences f k [] = 0 := rfl

@[simp] theorem occurrences_singleton : occurrences f k [e] = if f e = some k then 1 else 0 := by
  cases hf : f e with
  | none => simp [occurrences, hf]
  | some k' => simp [occurrences, hf, List.count_singleton]

theorem count_map_filterMap {μ : Type*} {f : ε → Option μ} {g : μ → κ} :
    ((events.filterMap f).map g).count k = occurrences (fun e => (f e).map g) k events := by
  rw [List.map_filterMap]
  rfl

theorem occurrences_append :
    occurrences f k (events ++ events') = occurrences f k events + occurrences f k events' := by
  rw [occurrences, List.filterMap_append, List.count_append]
  rfl

end Record

end Usbipdcpp.Foundation.TransitionSystem
