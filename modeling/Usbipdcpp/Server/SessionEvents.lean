import Mathlib.Data.List.Infix
import Usbipdcpp.Server.AcceptLoop

namespace Usbipdcpp.Server.SessionEvents

open AcceptLoop Foundation.TransitionSystem
open ServerState hiding step create

/-- What an observer has been told of a session. -/
inductive Phase where
  | unknown
  | started
  | ended
  deriving DecidableEq, Repr

def Phase.events (id : Nat) : Phase → List SessionEvent
  | unknown => []
  | started => [.sessionStarted id]
  | ended => [.sessionStarted id, .sessionEnded id]

def eventsOf (id : Nat) (events : List SessionEvent) : List SessionEvent :=
  events.filter (·.id = id)

/-- What the server's state says of one session. -/
structure View where
  registered : Bool
  stage : Option AcceptStage
  thread : SessionThread
  failed : Bool
  deriving DecidableEq, Repr

def view (s : ServerState) (id : Nat) : View where
  registered := decide (id ∈ s.sessions)
  stage := s.accept.stageOf id
  thread := s.threads id
  failed := decide (id ∈ s.failed)

/-- The life of a session, with what has been told of it.  Its entry in the table is what
entitles to tell its end: whoever takes it away is the one to do so. -/
inductive Sound : View → Phase → Prop
  | fresh {stage : Option AcceptStage}
      (hstage : stage ∈ [none, some .created, some .accepting, some .accepted]) :
      Sound ⟨false, stage, .none, false⟩ .unknown
  | registered : Sound ⟨true, some .registered, .none, false⟩ .unknown
  | starting : Sound ⟨true, some .starting, .none, false⟩ .started
  | threadless : Sound ⟨true, some .failed, .none, true⟩ .started
  | parsing {stage : Option AcceptStage} {failed : Bool}
      (hstage : (stage, failed) ∈ [(none, false), (some .started, false), (some .failed, true)]) :
      Sound ⟨true, stage, .parsing, failed⟩ .started
  | removing {thread : SessionThread} (hthread : thread ≠ .notifying) :
      Sound ⟨false, some .removing, thread, true⟩ .started
  | notifying {stage : Option AcceptStage} {failed : Bool}
      (hstage : stage ∈ [none, some .started, some .failed]) :
      Sound ⟨false, stage, .notifying, failed⟩ .started
  | finished {stage : Option AcceptStage} {thread : SessionThread} {failed : Bool}
      (hstage : stage ∈ [none, some .started, some .failed]) (hthread : thread ≠ .notifying)
      (hdone : thread = .returned ∨ failed = true) :
      Sound ⟨false, stage, thread, failed⟩ .ended

def Told (s : ServerState) (id : Nat) (phase : Phase) : Prop :=
  eventsOf id s.events = phase.events id ∧ Sound (view s id) phase

/-- What holds of every run. -/
structure Inv (s : ServerState) : Prop where
  told : ∀ id, ∃ phase, Told s id phase
  fresh : ∀ id, s.nextSessionId ≤ id → view s id = ⟨false, none, .none, false⟩
  held : ∀ id, s.Held id → id ∈ s.alive
  stopped : s.stopping ≠ .idle → s.running = false
  reaped : s.stopping = .clearing → s.alive = []

variable {s t : ServerState} {id : Nat}

@[simp] theorem stageOf_serving (id : Nat) (stage : AcceptStage) :
    (AcceptPc.serving id stage).stageOf id = some stage := if_pos rfl

theorem stageOf_serving_ne {id' : Nat} (h : id' ≠ id) (stage : AcceptStage) :
    (AcceptPc.serving id stage).stageOf id' = none := if_neg fun heq => h heq.symm

@[simp] theorem stageOf_looping (id : Nat) : AcceptPc.looping.stageOf id = none := rfl

@[simp] theorem stageOf_idle (id : Nat) : AcceptPc.idle.stageOf id = none := rfl

theorem atStage_eq_some {stage : AcceptStage} {f : Nat → ServerState}
    (h : s.atStage stage f = some t) : ∃ id, s.accept = .serving id stage ∧ t = f id := by
  unfold atStage at h
  split at h
  next id stage' haccept =>
    split at h
    next hstage => exact ⟨id, hstage ▸ haccept, (Option.some.inj h).symm⟩
    next => cases h
  next => cases h

theorem eventsOf_concat (events : List SessionEvent) (event : SessionEvent) :
    eventsOf event.id (events ++ [event]) = eventsOf event.id events ++ [event] := by
  rw [eventsOf, List.filter_append, List.filter_cons_of_pos (by simp)]
  rfl

theorem eventsOf_concat_ne (events : List SessionEvent) (event : SessionEvent)
    (h : id ≠ event.id) : eventsOf id (events ++ [event]) = eventsOf id events := by
  rw [eventsOf, List.filter_append, List.filter_cons_of_neg (by simpa using h.symm)]
  exact List.append_nil _

/-- A session that has an entry in the table is alive. -/
theorem Sound.owned {v : View} {phase : Phase} (h : Sound v phase)
    (hregistered : v.registered = true) : v.stage ≠ none ∨ v.thread = .parsing := by
  cases h with
  | registered => exact Or.inl (by simp)
  | starting => exact Or.inl (by simp)
  | threadless => exact Or.inl (by simp)
  | parsing => exact Or.inr rfl
  | fresh | removing | notifying | finished => cases hregistered

/-- A step that concerns one session, which has an owner. -/
theorem Inv.change (h : Inv s) (id : Nat) (hheld : s.Held id)
    (hknown : view s id ≠ ⟨false, none, .none, false⟩)
    (hframe : (t.running, t.stopping, t.alive, t.conns, t.nextSessionId) =
      (s.running, s.stopping, s.alive, s.conns, s.nextSessionId))
    (hviews : ∀ id', id' ≠ id → view t id' = view s id')
    (hevents : ∀ id', id' ≠ id → eventsOf id' t.events = eventsOf id' s.events)
    (htold : ∃ phase, Told t id phase) : Inv t := by
  obtain ⟨hrunning, hstopping, halive, hconns, hnext⟩ := by simpa using hframe
  have hlt : id < s.nextSessionId := Nat.lt_of_not_le fun hle => hknown (h.fresh id hle)
  refine ⟨fun id' => ?_, fun id' hle => ?_, fun id' hheld' => ?_, ?_, ?_⟩
  · by_cases heq : id' = id
    · exact heq ▸ htold
    · obtain ⟨phase, hphase, hsound⟩ := h.told id'
      exact ⟨phase, (hevents id' heq).trans hphase, hviews id' heq ▸ hsound⟩
  · rw [hnext] at hle
    rw [hviews id' (by omega)]
    exact h.fresh id' hle
  · rw [halive]
    by_cases heq : id' = id
    · exact heq ▸ h.held id hheld
    · have hview := hviews id' heq
      have hstage : t.accept.stageOf id' = s.accept.stageOf id' := congrArg View.stage hview
      have hthread : t.threads id' = s.threads id' := congrArg View.thread hview
      refine h.held id' ?_
      rwa [ServerState.Held, hstage, hthread, hconns] at hheld'
  · rw [hstopping, hrunning]
    exact h.stopped
  · rw [hstopping, halive]
    exact h.reaped

theorem view_congr (hsessions : id ∈ t.sessions ↔ id ∈ s.sessions)
    (hstage : t.accept.stageOf id = s.accept.stageOf id) (hthread : t.threads id = s.threads id)
    (hfailed : id ∈ t.failed ↔ id ∈ s.failed) : view t id = view s id := by
  simp only [view, View.mk.injEq, decide_eq_decide]
  exact ⟨hsessions, hstage, hthread, hfailed⟩

/-- A step of the accept loop that concerns the session of its round. -/
theorem Inv.serve {stage : AcceptStage} (h : Inv s) (haccept : s.accept = .serving id stage)
    (hframe : (t.running, t.stopping, t.alive, t.conns, t.nextSessionId) =
      (s.running, s.stopping, s.alive, s.conns, s.nextSessionId))
    (hsessions : ∀ id', id' ≠ id → (id' ∈ t.sessions ↔ id' ∈ s.sessions))
    (hstage : ∀ id', id' ≠ id → t.accept.stageOf id' = none)
    (hthreads : ∀ id', id' ≠ id → t.threads id' = s.threads id')
    (hfailed : ∀ id', id' ≠ id → (id' ∈ t.failed ↔ id' ∈ s.failed))
    (hevents : ∀ id', id' ≠ id → eventsOf id' t.events = eventsOf id' s.events)
    (htold : ∀ v phase, Sound v phase → view s id = v → v.stage = some stage →
      eventsOf id s.events = phase.events id → ∃ phase, Told t id phase) : Inv t := by
  have hserving : s.accept.stageOf id = some stage := by rw [haccept, stageOf_serving]
  obtain ⟨phase, hphase, hsound⟩ := h.told id
  refine h.change id (Or.inl (by rw [hserving]; simp)) (fun heq => ?_) hframe (fun id' hne => ?_)
    hevents (htold _ phase hsound rfl hserving hphase)
  · have hnone : s.accept.stageOf id = none := congrArg View.stage heq
    rw [hnone] at hserving
    cases hserving
  · refine view_congr (hsessions id' hne) ?_ (hthreads id' hne) (hfailed id' hne)
    rw [hstage id' hne, haccept, stageOf_serving_ne hne]

theorem mem_cons_iff_of_ne {id' : Nat} (hne : id' ≠ id) {l : List Nat} :
    id' ∈ id :: l ↔ id' ∈ l := by
  simp [hne]

theorem stageOf_none_of_ne {accept : AcceptPc} {id' : Nat}
    (h : accept = .idle ∨ accept = .looping ∨ ∃ stage, accept = .serving id stage)
    (hne : id' ≠ id) : accept.stageOf id' = none := by
  rcases h with rfl | rfl | ⟨stage, rfl⟩
  · rfl
  · rfl
  · exact stageOf_serving_ne hne stage

/-- The accept loop goes on with a session that nobody has been told of. -/
theorem Inv.pass {stage : AcceptStage} {accept : AcceptPc} (h : Inv s)
    (haccept : s.accept = .serving id stage)
    (hstage : stage ∈ [.created, .accepting, .accepted])
    (hnext : accept = .idle ∨ accept = .looping ∨ ∃ stage, accept = .serving id stage)
    (hstage' : accept.stageOf id ∈ [none, some .created, some .accepting, some .accepted]) :
    Inv { s with accept } := by
  refine h.serve haccept rfl (fun _ _ => Iff.rfl) (fun _ hne => stageOf_none_of_ne hnext hne)
    (fun _ _ => rfl) (fun _ _ => Iff.rfl) (fun _ _ => rfl) ?_
  intro v phase hsound hview hserving hevents
  cases hsound with
  | fresh =>
      refine ⟨.unknown, hevents, ?_⟩
      change Sound { view s id with stage := accept.stageOf id } .unknown
      rw [hview]
      exact .fresh hstage'
  | registered | starting | threadless | removing =>
      cases hserving
      simp at hstage
  | parsing hstages | notifying hstages | finished hstages =>
      obtain rfl := hserving
      simp at hstages
      grind

theorem inv_register (h : Inv s) (haccept : s.accept = .serving id .accepted) :
    Inv { s with sessions := id :: s.sessions, accept := .serving id .registered } := by
  refine h.serve haccept rfl (fun _ hne => mem_cons_iff_of_ne hne)
    (fun _ hne => stageOf_serving_ne hne _) (fun _ _ => rfl) (fun _ _ => Iff.rfl)
    (fun _ _ => rfl) ?_
  intro v phase hsound hview hserving hevents
  cases hsound with
  | fresh =>
      have hthread : s.threads id = .none := congrArg View.thread hview
      have hfailed : id ∉ s.failed := by simpa [view] using congrArg View.failed hview
      refine ⟨.unknown, hevents, ?_⟩
      simp only [view, stageOf_serving, hthread, hfailed, List.mem_cons, true_or, decide_true,
        decide_false]
      exact .registered
  | registered | starting | threadless | removing => cases hserving
  | parsing hstage | notifying hstage | finished hstage => simp_all

theorem inv_notifySessionStarted (h : Inv s) (haccept : s.accept = .serving id .registered) :
    Inv { s with
      events := s.events ++ [.sessionStarted id]
      accept := .serving id .starting } := by
  refine h.serve haccept rfl (fun _ _ => Iff.rfl) (fun _ hne => stageOf_serving_ne hne _)
    (fun _ _ => rfl) (fun _ _ => Iff.rfl) (fun _ hne => ?_) ?_
  · exact eventsOf_concat_ne _ (.sessionStarted id) hne
  intro v phase hsound hview hserving hevents
  cases hsound with
  | registered =>
      refine ⟨.started, ?_, ?_⟩
      · exact (eventsOf_concat s.events (.sessionStarted id)).trans (congrArg (· ++ [_]) hevents)
      · change Sound { view s id with stage := AcceptPc.stageOf id (.serving id .starting) } _
        rw [hview, stageOf_serving]
        exact .starting
  | starting | threadless | removing => cases hserving
  | fresh hstage | parsing hstage | notifying hstage | finished hstage => simp_all

theorem inv_threadCreated (h : Inv s) (haccept : s.accept = .serving id .starting) :
    Inv { s with
      threads := Function.update s.threads id .parsing
      accept := .serving id .started } := by
  refine h.serve haccept rfl (fun _ _ => Iff.rfl) (fun _ hne => stageOf_serving_ne hne _)
    (fun _ hne => Function.update_of_ne hne _ _) (fun _ _ => Iff.rfl) (fun _ _ => rfl) ?_
  intro v phase hsound hview hserving hevents
  cases hsound with
  | starting =>
      refine ⟨.started, hevents, ?_⟩
      change Sound { view s id with
        stage := AcceptPc.stageOf id (.serving id .started)
        thread := Function.update s.threads id .parsing id } _
      rw [hview, stageOf_serving, Function.update_self]
      exact .parsing (by simp)
  | registered | threadless | removing => cases hserving
  | fresh hstage | parsing hstage | notifying hstage | finished hstage => simp_all

/-- The call of `run` throws. -/
theorem inv_failed {stage : AcceptStage} (h : Inv s) (haccept : s.accept = .serving id stage)
    (hstage : stage = .starting ∨ stage = .started) :
    Inv { s with failed := id :: s.failed, accept := .serving id .failed } := by
  refine h.serve haccept rfl (fun _ _ => Iff.rfl) (fun _ hne => stageOf_serving_ne hne _)
    (fun _ _ => rfl) (fun _ hne => mem_cons_iff_of_ne hne) (fun _ _ => rfl) ?_
  intro v phase hsound hview hserving hevents
  refine ⟨phase, hevents, ?_⟩
  have hfailed : decide (id ∈ id :: s.failed) = true := by simp
  change Sound { view s id with
    stage := AcceptPc.stageOf id (.serving id .failed)
    failed := decide (id ∈ id :: s.failed) } _
  rw [hview, stageOf_serving, hfailed]
  cases hsound with
  | starting => exact .threadless
  | parsing => exact .parsing (by simp)
  | notifying => exact .notifying (by simp)
  | finished _ hthread => exact .finished (by simp) hthread (Or.inr rfl)
  | registered | threadless | removing => cases hserving; simp at hstage
  | fresh hstages => rcases hstage with rfl | rfl <;> simp_all

/-- The call of `run` returns. -/
theorem inv_served (h : Inv s) (haccept : s.accept = .serving id .started) :
    Inv { s with accept := .looping } := by
  refine h.serve haccept rfl (fun _ _ => Iff.rfl) (fun _ _ => rfl)
    (fun _ _ => rfl) (fun _ _ => Iff.rfl) (fun _ _ => rfl) ?_
  intro v phase hsound hview hserving hevents
  refine ⟨phase, hevents, ?_⟩
  change Sound { view s id with stage := AcceptPc.looping.stageOf id } _
  rw [hview]
  cases hsound with
  | parsing hstage =>
      obtain rfl := hserving
      obtain rfl := by simpa using hstage
      exact .parsing (by simp)
  | notifying => exact .notifying (by simp)
  | finished _ hthread hdone => exact .finished (by simp) hthread hdone
  | registered | starting | threadless | removing => cases hserving
  | fresh hstage => simp_all

theorem removeSession_eq (id : Nat) (s : ServerState) :
    s.removeSession id = (decide (id ∈ s.sessions),
      { s with sessions := s.sessions.filter (· ≠ id) }) := by
  unfold ServerState.removeSession
  split
  next hmem => rw [decide_eq_true hmem]
  next hmem =>
    rw [decide_eq_false hmem, List.filter_eq_self.mpr fun id' hid' => ?_]
    have hne : id' ≠ id := fun heq => hmem (heq ▸ hid')
    simpa using hne

theorem mem_filter_iff_of_ne {id' : Nat} (hne : id' ≠ id) {l : List Nat} :
    id' ∈ l.filter (· ≠ id) ↔ id' ∈ l := by
  simp [hne]

theorem decide_mem_filter (id : Nat) (l : List Nat) :
    decide (id ∈ l.filter (· ≠ id)) = false := by
  simp

/-- The accept loop takes the entry of a session away, or finds that it is gone. -/
theorem inv_removeFailed (h : Inv s) (haccept : s.accept = .serving id .failed) :
    Inv { s with
      sessions := s.sessions.filter (· ≠ id)
      accept := if id ∈ s.sessions then .serving id .removing else .looping } := by
  refine h.serve haccept rfl (fun _ hne => mem_filter_iff_of_ne hne) (fun _ hne => ?_)
    (fun _ _ => rfl) (fun _ _ => Iff.rfl) (fun _ _ => rfl) ?_
  · dsimp only
    split
    · exact stageOf_serving_ne hne _
    · rfl
  intro v phase hsound hview hserving hevents
  refine ⟨phase, hevents, ?_⟩
  change Sound { view s id with
    registered := decide (id ∈ s.sessions.filter (· ≠ id))
    stage := AcceptPc.stageOf id (if id ∈ s.sessions then .serving id .removing else .looping) } _
  have hregistered : decide (id ∈ s.sessions) = v.registered := congrArg View.registered hview
  rw [hview, decide_mem_filter]
  cases hsound with
  | threadless =>
      rw [if_pos (of_decide_eq_true hregistered), stageOf_serving]
      exact .removing (by decide)
  | parsing hstage =>
      obtain rfl := hserving
      obtain rfl := by simpa using hstage
      rw [if_pos (of_decide_eq_true hregistered), stageOf_serving]
      exact .removing (by decide)
  | notifying =>
      rw [if_neg (of_decide_eq_false hregistered)]
      exact .notifying (by simp)
  | finished _ hthread hdone =>
      rw [if_neg (of_decide_eq_false hregistered)]
      exact .finished (by simp) hthread hdone
  | registered | starting | removing => cases hserving
  | fresh hstage => simp_all

/-- The accept loop tells the end of a session. -/
theorem inv_notifyFailedEnded (h : Inv s) (haccept : s.accept = .serving id .removing) :
    Inv { s with events := s.events ++ [.sessionEnded id], accept := .looping } := by
  refine h.serve haccept rfl (fun _ _ => Iff.rfl) (fun _ _ => rfl)
    (fun _ _ => rfl) (fun _ _ => Iff.rfl)
    (fun _ hne => eventsOf_concat_ne _ (.sessionEnded id) hne) ?_
  intro v phase hsound hview hserving hevents
  cases hsound with
  | removing hthread =>
      refine ⟨.ended, ?_, ?_⟩
      · exact (eventsOf_concat s.events (.sessionEnded id)).trans (congrArg (· ++ [_]) hevents)
      · change Sound { view s id with stage := AcceptPc.looping.stageOf id } _
        rw [hview]
        exact .finished (by simp) hthread (Or.inr rfl)
  | registered | starting | threadless => cases hserving
  | fresh hstage | parsing hstage | notifying hstage | finished hstage => simp_all

/-- The thread of a session takes its entry away, or finds that it is gone. -/
theorem inv_removeSession (h : Inv s) (hthread : s.threads id = .parsing) :
    Inv { s with
      sessions := s.sessions.filter (· ≠ id)
      threads := Function.update s.threads id
        (if id ∈ s.sessions then .notifying else .returned) } := by
  obtain ⟨phase, hevents, hsound⟩ := h.told id
  refine h.change id (Or.inr (Or.inl hthread)) (fun heq => ?_) rfl (fun id' hne => ?_)
    (fun _ _ => rfl) ⟨phase, hevents, ?_⟩
  · have hnone : s.threads id = .none := congrArg View.thread heq
    rw [hthread] at hnone
    cases hnone
  · exact view_congr (mem_filter_iff_of_ne hne) rfl (Function.update_of_ne hne _ _) Iff.rfl
  · change Sound { view s id with
      registered := decide (id ∈ s.sessions.filter (· ≠ id))
      thread := Function.update s.threads id
        (if id ∈ s.sessions then .notifying else .returned) id } _
    have hparsing : (view s id).thread = .parsing := hthread
    have hregistered : decide (id ∈ s.sessions) = (view s id).registered := rfl
    rw [decide_mem_filter, Function.update_self]
    generalize view s id = v at hsound hparsing hregistered
    cases hsound with
    | parsing hstage =>
        rw [if_pos (of_decide_eq_true hregistered)]
        exact .notifying (by simp at hstage ⊢; tauto)
    | removing =>
        rw [if_neg (of_decide_eq_false hregistered)]
        exact .removing (by decide)
    | finished hstage =>
        rw [if_neg (of_decide_eq_false hregistered)]
        exact .finished hstage (by decide) (Or.inl rfl)
    | fresh | registered | starting | threadless | notifying => cases hparsing

/-- The thread of a session tells its end. -/
theorem inv_notifySessionEnded (h : Inv s) (hthread : s.threads id = .notifying) :
    Inv { s with
      events := s.events ++ [.sessionEnded id]
      threads := Function.update s.threads id .returned } := by
  obtain ⟨phase, hevents, hsound⟩ := h.told id
  refine h.change id (Or.inr (Or.inr (Or.inl hthread))) (fun heq => ?_) rfl (fun id' hne => ?_)
    (fun _ hne => eventsOf_concat_ne _ (.sessionEnded id) hne) ?_
  · have hnone : s.threads id = .none := congrArg View.thread heq
    rw [hthread] at hnone
    cases hnone
  · exact view_congr Iff.rfl rfl (Function.update_of_ne hne _ _) Iff.rfl
  · have hnotifying : (view s id).thread = .notifying := hthread
    have hview : view { s with
        events := s.events ++ [.sessionEnded id]
        threads := Function.update s.threads id .returned } id =
          { view s id with thread := .returned } := by
      simp [view]
    generalize view s id = v at hsound hnotifying hview
    cases hsound with
    | notifying hstage =>
        refine ⟨.ended, ?_, ?_⟩
        · exact (eventsOf_concat s.events (.sessionEnded id)).trans (congrArg (· ++ [_]) hevents)
        · rw [hview]
          exact .finished hstage (by decide) (Or.inl rfl)
    | removing hne => exact absurd hnotifying hne
    | finished _ hne => exact absurd hnotifying hne
    | fresh | registered | starting | threadless | parsing => cases hnotifying

/-- A step that concerns no session. -/
theorem Inv.keep (h : Inv s) (hsessions : ∀ id, id ∈ t.sessions ↔ id ∈ s.sessions)
    (hstage : ∀ id, t.accept.stageOf id = s.accept.stageOf id)
    (hframe : (t.threads, t.failed, t.events, t.nextSessionId) =
      (s.threads, s.failed, s.events, s.nextSessionId))
    (hheld : ∀ id, t.Held id → id ∈ t.alive) (hstopped : t.stopping ≠ .idle → t.running = false)
    (hreaped : t.stopping = .clearing → t.alive = []) : Inv t := by
  obtain ⟨hthreads, hfailed, hevents, hnext⟩ := by simpa using hframe
  have hviews : ∀ id, view t id = view s id := fun id =>
    view_congr (hsessions id) (hstage id) (congrFun hthreads id) (by rw [hfailed])
  refine ⟨fun id => ?_, fun id hle => ?_, hheld, hstopped, hreaped⟩
  · obtain ⟨phase, hphase, hsound⟩ := h.told id
    exact ⟨phase, by rw [hevents, hphase], by rwa [hviews]⟩
  · rw [hviews]
    exact h.fresh id (hnext ▸ hle)

theorem inv_createSession (h : Inv s) (haccept : s.accept = .looping) : Inv s.createSession := by
  have hstage : ∀ id, s.accept.stageOf id = none := fun id => by rw [haccept]; rfl
  unfold ServerState.createSession
  split
  next hrunning =>
    have hidle : s.stopping = .idle := by
      by_contra hstopping
      rw [h.stopped hstopping] at hrunning
      cases hrunning
    have hother : ∀ id, id ≠ s.nextSessionId → view { s with
        nextSessionId := s.nextSessionId + 1
        alive := s.nextSessionId :: s.alive
        accept := .serving s.nextSessionId .created } id = view s id := fun id hne =>
      view_congr Iff.rfl ((stageOf_serving_ne hne _).trans (hstage id).symm) rfl Iff.rfl
    refine ⟨fun id => ?_, fun id hle => ?_, fun id hheld => ?_, fun hstopping => ?_,
      fun hclearing => ?_⟩
    · obtain ⟨phase, hphase, hsound⟩ := h.told id
      by_cases heq : id = s.nextSessionId
      · subst heq
        have hfresh := h.fresh s.nextSessionId (Nat.le_refl _)
        rw [hfresh] at hsound
        obtain rfl : phase = .unknown := by
          cases hsound with
          | fresh => rfl
          | finished _ _ hdone => simp at hdone
        refine ⟨.unknown, hphase, ?_⟩
        change Sound { view s s.nextSessionId with
          stage := AcceptPc.stageOf s.nextSessionId (.serving s.nextSessionId .created) } _
        rw [hfresh, stageOf_serving]
        exact .fresh (by simp)
      · exact ⟨phase, hphase, hother id heq ▸ hsound⟩
    · have hlt : s.nextSessionId + 1 ≤ id := hle
      rw [hother id (by omega)]
      exact h.fresh id (by omega)
    · by_cases heq : id = s.nextSessionId
      · exact heq ▸ List.mem_cons_self
      · refine List.mem_cons_of_mem _ (h.held id (Or.inr (hheld.resolve_left fun hne => hne ?_)))
        exact stageOf_serving_ne heq _
    · exact absurd hidle hstopping
    · rw [show s.stopping = .clearing from hclearing] at hidle
      cases hidle
  next =>
    exact h.keep (fun _ => Iff.rfl) (fun id => (hstage id).symm) rfl
      (fun id hheld => h.held id (Or.inr (hheld.resolve_left fun hne => hne rfl)))
      h.stopped h.reaped

/-- Nothing is left in the table when `stop` clears it. -/
theorem sessions_eq_nil (h : Inv s) (halive : s.alive = []) : s.sessions = [] := by
  refine List.eq_nil_iff_forall_not_mem.mpr fun id hmem => ?_
  obtain ⟨phase, -, hsound⟩ := h.told id
  have hheld : s.Held id := by
    rcases hsound.owned (decide_eq_true hmem) with hstage | hthread
    · exact Or.inl hstage
    · exact Or.inr (Or.inl hthread)
  have halive' := h.held id hheld
  rw [halive] at halive'
  exact absurd halive' List.not_mem_nil

/-- `stop` takes sessions over that have an owner, and gives them up. -/
theorem held_of_conns (hheld : t.Held id) (haccept : t.accept = s.accept)
    (hthreads : t.threads = s.threads) (hconns : id ∈ t.conns → s.Held id) : s.Held id := by
  rcases hheld with hstage | hparsing | hnotifying | hmem
  · exact Or.inl (haccept ▸ hstage)
  · exact Or.inr (Or.inl (hthreads ▸ hparsing))
  · exact Or.inr (Or.inr (Or.inl (hthreads ▸ hnotifying)))
  · exact hconns hmem

theorem inv_step {a : SessionAction} (h : Inv s) (hstep : s.step a = some t) : Inv t := by
  cases a with
  | start =>
      obtain ⟨⟨-, haccept, hstopping⟩, rfl⟩ := by simpa [ServerState.step] using hstep
      have hstage : ∀ id, s.accept.stageOf id = none := fun id => by rw [haccept]; rfl
      exact h.keep (fun _ => Iff.rfl) (fun id => (hstage id).symm) rfl
        (fun id hheld => h.held id (Or.inr (hheld.resolve_left fun hne => hne rfl)))
        (fun hne => absurd hstopping hne) h.reaped
  | createSession =>
      obtain ⟨haccept, rfl⟩ := by simpa [ServerState.step] using hstep
      exact inv_createSession h haccept
  | checkRunning =>
      obtain ⟨id, haccept, rfl⟩ := atStage_eq_some hstep
      refine h.pass haccept (by simp) ?_ ?_
      · split
        · exact Or.inr (Or.inr ⟨_, rfl⟩)
        · exact Or.inl rfl
      · split <;> simp
  | acceptConnection result =>
      obtain ⟨id, haccept, rfl⟩ := atStage_eq_some hstep
      cases result with
      | connected =>
          refine h.pass haccept (by simp) ?_ ?_
          · split
            · exact Or.inr (Or.inr ⟨_, rfl⟩)
            · exact Or.inl rfl
          · split <;> simp
      | transientError => exact h.pass haccept (by simp) (Or.inr (Or.inl rfl)) (by simp)
      | fatalError => exact h.pass haccept (by simp) (Or.inl rfl) (by simp)
  | discard =>
      obtain ⟨id, haccept, rfl⟩ := atStage_eq_some hstep
      exact h.pass haccept (by simp) (Or.inr (Or.inl rfl)) (by simp)
  | register =>
      obtain ⟨id, haccept, rfl⟩ := atStage_eq_some hstep
      exact inv_register h haccept
  | notifySessionStarted =>
      obtain ⟨id, haccept, rfl⟩ := atStage_eq_some hstep
      exact inv_notifySessionStarted h haccept
  | createThread created =>
      obtain ⟨id, haccept, rfl⟩ := atStage_eq_some hstep
      cases created with
      | true => exact inv_threadCreated h haccept
      | false => exact inv_failed h haccept (Or.inl rfl)
  | afterThreadCreate returns =>
      obtain ⟨id, haccept, rfl⟩ := atStage_eq_some hstep
      cases returns with
      | true => exact inv_served h haccept
      | false => exact inv_failed h haccept (Or.inr rfl)
  | removeFailed =>
      obtain ⟨id, haccept, rfl⟩ := atStage_eq_some hstep
      have hremoved := inv_removeFailed h haccept
      rw [removeSession_eq]
      by_cases hmem : id ∈ s.sessions
      · rw [if_pos hmem] at hremoved
        rwa [decide_eq_true hmem]
      · rw [if_neg hmem] at hremoved
        rwa [decide_eq_false hmem]
  | notifyFailedEnded =>
      obtain ⟨id, haccept, rfl⟩ := atStage_eq_some hstep
      exact inv_notifyFailedEnded h haccept
  | removeSession id =>
      simp only [ServerState.step] at hstep
      split at hstep
      next hthread =>
        have hremoved := inv_removeSession h hthread
        rw [removeSession_eq] at hstep
        by_cases hmem : id ∈ s.sessions
        · rw [if_pos hmem] at hremoved
          rw [decide_eq_true hmem] at hstep
          exact Option.some.inj hstep ▸ hremoved
        · rw [if_neg hmem] at hremoved
          rw [decide_eq_false hmem] at hstep
          exact Option.some.inj hstep ▸ hremoved
      next => cases hstep
  | notifySessionEnded id =>
      obtain ⟨hthread, rfl⟩ := by simpa [ServerState.step] using hstep
      exact inv_notifySessionEnded h hthread
  | sessionDestroyed id =>
      obtain ⟨⟨-, hheld⟩, rfl⟩ := by simpa [ServerState.step] using hstep
      refine h.keep (fun _ => Iff.rfl) (fun _ => rfl) rfl (fun id' hheld' => ?_) h.stopped
        fun hclearing => ?_
      · refine List.mem_filter.mpr ⟨h.held id' hheld', ?_⟩
        have hne : id' ≠ id := fun heq => hheld (heq ▸ hheld')
        simpa using hne
      · dsimp only
        rw [h.reaped hclearing]
        rfl
  | stop =>
      obtain ⟨-, rfl⟩ := by simpa [ServerState.step] using hstep
      exact h.keep (fun _ => Iff.rfl) (fun _ => rfl) rfl h.held (fun _ => rfl)
        (fun hclearing => by cases hclearing)
  | snapshot =>
      obtain ⟨⟨hjoining, -⟩, rfl⟩ := by simpa [ServerState.step] using hstep
      refine h.keep (fun _ => Iff.rfl) (fun _ => rfl) rfl
        (fun id hheld => h.held id (held_of_conns hheld rfl rfl fun hconns => ?_))
        (fun _ => h.stopped (by rw [hjoining]; decide)) (fun hclearing => by cases hclearing)
      simpa using (List.mem_filter.mp hconns).2
  | stopSessions =>
      obtain ⟨hstopping, rfl⟩ := by simpa [ServerState.step] using hstep
      exact h.keep (fun _ => Iff.rfl) (fun _ => rfl) rfl
        (fun id hheld => h.held id (held_of_conns hheld rfl rfl fun hconns =>
          absurd hconns List.not_mem_nil))
        (fun _ => h.stopped (by rw [hstopping]; decide)) (fun hclearing => by cases hclearing)
  | waitSessions =>
      obtain ⟨⟨hwaiting, halive⟩, rfl⟩ := by simpa [ServerState.step] using hstep
      exact h.keep (fun _ => Iff.rfl) (fun _ => rfl) rfl h.held
        (fun _ => h.stopped (by rw [hwaiting]; decide)) (fun _ => halive)
  | clearSessions =>
      obtain ⟨hclearing, rfl⟩ := by simpa [ServerState.step] using hstep
      have hnone := sessions_eq_nil h (h.reaped hclearing)
      exact h.keep (fun _ => by rw [hnone]) (fun _ => rfl) rfl h.held
        (fun hne => absurd rfl hne) (fun hclearing => by cases hclearing)

theorem inv_of_reachable (h : Reachable system s) : Inv s := by
  refine h.invariant ?_ fun _ _ _ => inv_step
  rintro s rfl
  refine ⟨fun id => ⟨.unknown, rfl, .fresh (by simp [ServerState.create])⟩, fun _ _ => rfl,
    fun id hheld => ?_, fun hne => absurd rfl hne, fun hclearing => by cases hclearing⟩
  rcases hheld with hstage | hparsing | hnotifying | hconns
  · exact absurd rfl hstage
  · cases hparsing
  · cases hnotifying
  · exact absurd hconns List.not_mem_nil

/-- Whoever has taken the entry of a session away, or is about to, has yet to tell its end. -/
def Owed (s : ServerState) (id : Nat) : Prop :=
  (s.accept = .serving id .failed ∧ id ∈ s.sessions) ∨ s.accept = .serving id .removing ∨
    s.threads id = .notifying

theorem accept_of_stageOf {accept : AcceptPc} {stage : AcceptStage}
    (h : accept.stageOf id = some stage) : accept = .serving id stage := by
  cases accept with
  | serving id' stage' =>
      rw [AcceptPc.stageOf] at h
      split at h
      next heq => rw [heq, Option.some.inj h]
      next => cases h
  | idle => cases h
  | looping => cases h

theorem Phase.events_prefix (id : Nat) (phase : Phase) :
    phase.events id <+: [.sessionStarted id, .sessionEnded id] := by
  cases phase with
  | unknown => exact List.nil_prefix
  | started => exact ⟨[.sessionEnded id], rfl⟩
  | ended => exact List.prefix_rfl

theorem Told.phase_ne {phase : Phase} (h : Told s id phase)
    (hstarted : .sessionStarted id ∈ s.events) : phase ≠ .unknown := by
  rintro rfl
  have hmem : SessionEvent.sessionStarted id ∈ eventsOf id s.events :=
    List.mem_filter.mpr ⟨hstarted, by simp [SessionEvent.id]⟩
  rw [h.1] at hmem
  exact absurd hmem List.not_mem_nil

/-- A session is over when its thread or its `run` is, but for the telling. -/
theorem Told.finished {phase : Phase} (h : Told s id phase)
    (hstarted : .sessionStarted id ∈ s.events)
    (hdone : s.threads id = .returned ∨ id ∈ s.failed) :
    phase = .ended ∨ Owed s id ∧ phase = .started := by
  have hphase := h.phase_ne hstarted
  obtain ⟨-, hsound⟩ := h
  have hregistered : decide (id ∈ s.sessions) = (view s id).registered := rfl
  have hstage : s.accept.stageOf id = (view s id).stage := rfl
  have hthread : s.threads id = (view s id).thread := rfl
  have hfailed : decide (id ∈ s.failed) = (view s id).failed := rfl
  rw [hthread, ← decide_eq_true_iff (p := id ∈ s.failed), hfailed] at hdone
  generalize view s id = v at hsound hregistered hstage hthread hdone
  cases hsound with
  | fresh | registered => exact absurd rfl hphase
  | starting => simp at hdone
  | threadless =>
      exact Or.inr ⟨Or.inl ⟨accept_of_stageOf hstage, of_decide_eq_true hregistered⟩, rfl⟩
  | parsing hstages =>
      obtain rfl := hdone.resolve_left (by simp)
      obtain rfl := by simpa using hstages
      exact Or.inr ⟨Or.inl ⟨accept_of_stageOf hstage, of_decide_eq_true hregistered⟩, rfl⟩
  | removing => exact Or.inr ⟨Or.inr (Or.inl (accept_of_stageOf hstage)), rfl⟩
  | notifying => exact Or.inr ⟨Or.inr (Or.inr hthread), rfl⟩
  | finished => exact Or.inl rfl

theorem Told.owed {phase : Phase} (h : Told s id phase) (howed : Owed s id) :
    eventsOf id s.events = [.sessionStarted id] := by
  obtain ⟨hevents, hsound⟩ := h
  rw [hevents]
  have hregistered : decide (id ∈ s.sessions) = (view s id).registered := rfl
  have hstage : s.accept.stageOf id = (view s id).stage := rfl
  have hthread : s.threads id = (view s id).thread := rfl
  generalize view s id = v at hsound hregistered hstage hthread
  rcases howed with ⟨haccept, hmem⟩ | haccept | hnotifying
  · rw [haccept, stageOf_serving] at hstage
    rw [decide_eq_true hmem] at hregistered
    cases hsound with
    | threadless | parsing => rfl
    | registered | starting => cases hstage
    | fresh | removing | notifying | finished => cases hregistered
  · rw [haccept, stageOf_serving] at hstage
    cases hsound with
    | removing => rfl
    | registered | starting | threadless => cases hstage
    | fresh hstages | parsing hstages | notifying hstages | finished hstages =>
        obtain rfl := hstage
        simp at hstages
  · rw [hnotifying] at hthread
    cases hsound with
    | notifying => rfl
    | removing hne | finished _ hne => exact absurd hthread.symm hne
    | fresh | registered | starting | threadless | parsing => cases hthread

/-- What is owed is one or two steps away. -/
theorem told_of_owed (h : Inv s) (howed : Owed s id) :
    ∃ actions t, actions.length ≤ 2 ∧ system.run s actions = some t ∧
      eventsOf id t.events = [.sessionStarted id, .sessionEnded id] := by
  obtain ⟨phase, htold⟩ := h.told id
  have hended : eventsOf id (s.events ++ [.sessionEnded id]) =
      [.sessionStarted id, .sessionEnded id] :=
    (eventsOf_concat s.events (.sessionEnded id)).trans (congrArg (· ++ [_]) (htold.owed howed))
  rcases howed with ⟨haccept, hmem⟩ | haccept | hnotifying
  · refine ⟨[.removeFailed, .notifyFailedEnded], { s with
      sessions := s.sessions.filter (· ≠ id)
      events := s.events ++ [.sessionEnded id]
      accept := .looping }, by simp, ?_, hended⟩
    simp [System.run, system, ServerState.step, ServerState.atStage, haccept, removeSession_eq,
      hmem]
  · refine ⟨[.notifyFailedEnded], { s with
      events := s.events ++ [.sessionEnded id]
      accept := .looping }, by simp, ?_, hended⟩
    simp [System.run, system, ServerState.step, ServerState.atStage, haccept]
  · refine ⟨[.notifySessionEnded id], { s with
      events := s.events ++ [.sessionEnded id]
      threads := Function.update s.threads id .returned }, by simp, ?_, hended⟩
    simp [System.run, system, ServerState.step, hnotifying]

/-- Nothing is owed for a session that has been destroyed, and it has ended. -/
theorem Told.destroyed {phase : Phase} (h : Told s id phase)
    (hstarted : .sessionStarted id ∈ s.events) (hheld : ¬ s.Held id) : phase = .ended := by
  have hphase := h.phase_ne hstarted
  have hstage : (view s id).stage = none := by
    by_contra hne
    exact hheld (Or.inl hne)
  have hparsing : (view s id).thread ≠ .parsing := fun heq => hheld (Or.inr (Or.inl heq))
  have hnotifying : (view s id).thread ≠ .notifying :=
    fun heq => hheld (Or.inr (Or.inr (Or.inl heq)))
  obtain ⟨-, hsound⟩ := h
  generalize view s id = v at hsound hstage hparsing hnotifying
  cases hsound with
  | finished => rfl
  | fresh => exact absurd rfl hphase
  | parsing => exact absurd rfl hparsing
  | notifying => exact absurd rfl hnotifying
  | registered | starting | threadless | removing => cases hstage

/-- In every run, what the observers are told of a session is a beginning of its start and its
end; when its thread has returned or its `run` has thrown it is both, unless the one who is to tell
the end has still to do so, which nothing keeps from it; and it is both when no session is alive. -/
theorem session_events_paired (s : ServerState) (h : Reachable system s) (id : Nat) :
    eventsOf id s.events <+: [.sessionStarted id, .sessionEnded id] ∧
    (.sessionStarted id ∈ s.events → s.threads id = .returned ∨ id ∈ s.failed →
      eventsOf id s.events = [.sessionStarted id, .sessionEnded id] ∨
        Owed s id ∧ eventsOf id s.events = [.sessionStarted id]) ∧
    (Owed s id → ∃ actions t, actions.length ≤ 2 ∧ system.run s actions = some t ∧
      eventsOf id t.events = [.sessionStarted id, .sessionEnded id]) ∧
    (s.alive = [] → .sessionStarted id ∈ s.events →
      eventsOf id s.events = [.sessionStarted id, .sessionEnded id]) := by
  have hs := inv_of_reachable h
  obtain ⟨phase, htold⟩ := hs.told id
  refine ⟨?_, fun hstarted hdone => ?_, told_of_owed hs, fun halive hstarted => ?_⟩
  · rw [htold.1]
    exact phase.events_prefix id
  · rcases htold.finished hstarted hdone with rfl | ⟨howed, rfl⟩
    · exact Or.inl htold.1
    · exact Or.inr ⟨howed, htold.1⟩
  · have hheld : ¬ s.Held id := fun hheld => by
      have hmem := hs.held id hheld
      rw [halive] at hmem
      exact absurd hmem List.not_mem_nil
    obtain rfl := htold.destroyed hstarted hheld
    exact htold.1

/-- The thread of a session is there when the callback after its creation throws: the accept loop
takes its entry away, and the thread finds nothing to tell. -/
theorem session_events_paired_instance :
    ∃ s : ServerState, s.threads 1 = .returned ∧ 1 ∈ s.failed ∧
      eventsOf 1 s.events <+: [.sessionStarted 1, .sessionEnded 1] ∧
      s.events = [.sessionStarted 1, .sessionEnded 1] := by
  obtain ⟨s, hrun, hthread, hfailed, hevents⟩ :
      ∃ s, system.run ServerState.create [.start, .createSession, .checkRunning,
          .acceptConnection .connected, .register, .notifySessionStarted, .createThread true,
          .afterThreadCreate false, .removeFailed, .removeSession 1, .notifyFailedEnded] =
            some s ∧ s.threads 1 = .returned ∧ s.failed = [1] ∧
        s.events = [.sessionStarted 1, .sessionEnded 1] :=
    ⟨_, rfl, rfl, rfl, rfl⟩
  have hreach : Reachable system s := Reachable.run _ (.initial rfl) hrun
  exact ⟨s, hthread, by rw [hfailed]; exact List.mem_cons_self,
    (session_events_paired s hreach 1).1, hevents⟩

end Usbipdcpp.Server.SessionEvents
