import Usbipdcpp.Session.ResponseQueue

namespace Usbipdcpp.Session.DeviceHandoff

open Usbipdcpp.Foundation.TransitionSystem
open Usbipdcpp.Session.ResponseQueue

/-- Where the main thread of a session stands that imports the device.  `moved` to `notified`
are the positions at which it keeps the device out of the available list. -/
inductive MainPc where
  | connected
  | notUsing
  | moved
  | opened
  | aborted
  | receiving
  | disconnecting
  | disconnected
  | stopSet
  | notified
  | released
  | joining
  | joined
  | ended
  deriving DecidableEq, Repr

/-- Where the server keeps the device. -/
inductive DevicePlace where
  | available
  | inUse
  | gone
  deriving DecidableEq, Repr

/-- One device, the sessions that import it, each with its response queue, and the order in
which they have called `on_new_connection`. -/
structure Handoff (Session Producer Response : Type) where
  device : DevicePlace
  main : Session → MainPc
  queue : Session → Queue Producer Response
  openings : List Session

/-- A step of a session's main thread, where `choice` decides whether `on_new_connection`
succeeds, whether the reply is written and the sender created, and whether a released device
stays; or a step of a session's producers and sender. -/
inductive HandoffAction (Session Producer Response : Type) where
  | main (session : Session) (choice : Bool)
  | queue (session : Session) (action : QueueAction Producer Response)

variable {Session Producer Response : Type}

/-- The session has moved the device to `using_devices` and not released it. -/
def MainPc.holds : MainPc → Bool
  | .moved | .opened | .aborted | .receiving | .disconnecting | .disconnected | .stopSet
  | .notified => true
  | _ => false

/-- The handler answers requests of this session: they have been read, and
`on_disconnection`, which waits for the handler's own threads, has not returned. -/
def MainPc.answers : MainPc → Bool
  | .receiving | .disconnecting => true
  | _ => false

/-- The sender thread exists. -/
def MainPc.sends : MainPc → Bool
  | .receiving | .disconnecting | .disconnected | .stopSet | .notified | .released
  | .joining => true
  | _ => false

def Handoff.initial : Handoff Session Producer Response where
  device := .available
  main := fun _ => .connected
  queue := fun _ => .initial
  openings := []

variable [DecidableEq Session]

def Handoff.setMain (h : Handoff Session Producer Response) (s : Session) (pc : MainPc) :
    Handoff Session Producer Response :=
  { h with main := Function.update h.main s pc }

def Handoff.setQueue (h : Handoff Session Producer Response) (s : Session)
    (q : Queue Producer Response) : Handoff Session Producer Response :=
  { h with queue := Function.update h.queue s q }

/-- `release_device`: the device goes back to the available list unless it was removed. -/
def Handoff.releaseDevice (h : Handoff Session Producer Response) (stays : Bool) :
    Handoff Session Producer Response :=
  { h with device := if stays then .available else .gone }

/-- The session may have responses under way while it holds the device. -/
def MainPc.mayQueue : MainPc → Bool
  | .receiving | .disconnecting | .disconnected | .stopSet | .notified => true
  | _ => false

/-- The session has called `on_new_connection`. -/
def MainPc.hasOpened : MainPc → Bool
  | .connected | .notUsing | .moved => false
  | _ => true

theorem mayQueue_of_answers {pc : MainPc} (h : pc.answers = true) : pc.mayQueue = true := by
  cases pc <;> simp [MainPc.answers, MainPc.mayQueue] at *

theorem holds_of_mayQueue {pc : MainPc} (h : pc.mayQueue = true) : pc.holds = true := by
  cases pc <;> simp [MainPc.mayQueue, MainPc.holds] at *

/-- At most one session holds the device, it is the last one to have opened it, and no other
session has a response under way. -/
structure Exclusive (h : Handoff Session Producer Response) : Prop where
  inUse : ∀ s, (h.main s).holds = true → h.device = .inUse
  holder : ∀ s s', (h.main s).holds = true → (h.main s').holds = true → s = s'
  drained : ∀ s, (h.main s).mayQueue = false → (h.queue s).Drained
  opened : ∀ s ∈ h.openings, (h.main s).hasOpened = true
  holderLast : ∀ s ∈ h.openings.dropLast, (h.main s).holds = false

/-- No session but the last one to call `on_new_connection` has a response queued or in the
hands of its sender. -/
def Isolated (h : Handoff Session Producer Response) : Prop :=
  ∀ s ∈ h.openings.dropLast, (h.queue s).Drained

omit [DecidableEq Session] in
theorem isolated_of_exclusive {h : Handoff Session Producer Response} (hx : Exclusive h) :
    Isolated h := by
  intro s hs
  apply hx.drained s
  by_contra hbusy
  have hholds := holds_of_mayQueue (by simpa using hbusy)
  rw [hx.holderLast s hs] at hholds
  cases hholds

omit [DecidableEq Session] in
theorem exclusive_initial : Exclusive (.initial : Handoff Session Producer Response) where
  inUse _ h := by simp [Handoff.initial, MainPc.holds] at h
  holder _ _ h := by simp [Handoff.initial, MainPc.holds] at h
  drained _ _ := drained_initial
  opened _ h := by simp [Handoff.initial] at h
  holderLast _ h := by simp [Handoff.initial] at h

theorem exclusive_setQueue {h : Handoff Session Producer Response} (hx : Exclusive h)
    {s : Session} {q : Queue Producer Response}
    (hq : (h.main s).mayQueue = false → q.Drained) : Exclusive (h.setQueue s q) := by
  refine ⟨hx.inUse, hx.holder, fun s' hs' => ?_, hx.opened, hx.holderLast⟩
  by_cases heq : s' = s
  · subst heq
    simpa [Handoff.setQueue] using hq hs'
  · simpa [Handoff.setQueue, heq] using hx.drained s' hs'

/-- A session that does not take the device moves on. -/
theorem exclusive_setMain {h : Handoff Session Producer Response} (hx : Exclusive h)
    {s : Session} {pc : MainPc} (hholds : pc.holds = true → (h.main s).holds = true)
    (hopened : (h.main s).hasOpened = true → pc.hasOpened = true)
    (hdrained : pc.mayQueue = false → (h.queue s).Drained) : Exclusive (h.setMain s pc) := by
  have hold : ∀ s', ((h.setMain s pc).main s').holds = true → (h.main s').holds = true := by
    intro s' hs'
    by_cases heq : s' = s
    · subst heq
      exact hholds (by simpa [Handoff.setMain] using hs')
    · simpa [Handoff.setMain, heq] using hs'
  refine ⟨fun s' hs' => hx.inUse s' (hold s' hs'),
    fun s' s'' hs' hs'' => hx.holder s' s'' (hold s' hs') (hold s'' hs''), ?_, ?_, ?_⟩
  · intro s' hs'
    by_cases heq : s' = s
    · subst heq
      exact hdrained (by simpa [Handoff.setMain] using hs')
    · exact hx.drained s' (by simpa [Handoff.setMain, heq] using hs')
  · intro s' hs'
    by_cases heq : s' = s
    · subst heq
      simpa [Handoff.setMain] using hopened (hx.opened s' hs')
    · simpa [Handoff.setMain, heq] using hx.opened s' hs'
  · intro s' hs'
    by_contra hne
    have hfree := hx.holderLast s' hs'
    rw [hold s' (by simpa using hne)] at hfree
    cases hfree

theorem exclusive_move {h : Handoff Session Producer Response} (hx : Exclusive h)
    {s : Session} (hpc : h.main s = .notUsing) (havailable : h.device = .available) :
    Exclusive ({ h with device := .inUse }.setMain s .moved) := by
  have hfree : ∀ s', (h.main s').holds = false := by
    intro s'
    by_contra hne
    have := hx.inUse s' (by simpa using hne)
    rw [havailable] at this
    cases this
  have honly : ∀ s', (Function.update h.main s .moved s').holds = true → s' = s := by
    intro s' hs'
    by_contra hne
    rw [Function.update_of_ne hne, hfree s'] at hs'
    cases hs'
  have hnotOpened : s ∉ h.openings := by
    intro hmem
    have := hx.opened s hmem
    rw [hpc] at this
    cases this
  refine ⟨fun _ _ => rfl, fun s' s'' hs' hs'' => (honly s' hs').trans (honly s'' hs'').symm,
    ?_, ?_, ?_⟩
  · intro s' hs'
    by_cases heq : s' = s
    · subst heq
      exact hx.drained s' (by rw [hpc]; rfl)
    · exact hx.drained s' (by simpa [Handoff.setMain, heq] using hs')
  · intro s' hs'
    have hne : s' ≠ s := fun heq => hnotOpened (heq ▸ hs')
    simpa [Handoff.setMain, hne] using hx.opened s' hs'
  · intro s' hs'
    have hne : s' ≠ s := fun heq => hnotOpened (heq ▸ List.dropLast_subset _ hs')
    simpa [Handoff.setMain, hne] using hfree s'

theorem exclusive_open {h : Handoff Session Producer Response} (hx : Exclusive h)
    {s : Session} (hpc : h.main s = .moved) :
    Exclusive ({ h with openings := h.openings ++ [s] }.setMain s .opened) ∧
      Exclusive ({ h with openings := h.openings ++ [s] }.setMain s .aborted) := by
  have hholds : (h.main s).holds = true := by rw [hpc]; rfl
  have hdrained : (h.queue s).Drained := hx.drained s (by rw [hpc]; rfl)
  have hopenings : ∀ {pc : MainPc}, pc.holds = true → pc.hasOpened = true →
      pc.mayQueue = false →
      Exclusive ({ h with openings := h.openings ++ [s] }.setMain s pc) := by
    intro pc hpcHolds hpcOpened hpcQueue
    have hold : ∀ s', (Function.update h.main s pc s').holds = true →
        (h.main s').holds = true := by
      intro s' hs'
      by_cases heq : s' = s
      · exact heq ▸ hholds
      · simpa [heq] using hs'
    refine ⟨fun s' hs' => hx.inUse s' (hold s' hs'),
      fun s' s'' hs' hs'' => hx.holder s' s'' (hold s' hs') (hold s'' hs''), ?_, ?_, ?_⟩
    · intro s' hs'
      by_cases heq : s' = s
      · exact heq ▸ hdrained
      · exact hx.drained s' (by simpa [Handoff.setMain, heq] using hs')
    · intro s' hs'
      by_cases heq : s' = s
      · simp [Handoff.setMain, heq, hpcOpened]
      · have hmem : s' ∈ h.openings := by simpa [Handoff.setMain, heq] using hs'
        simpa [Handoff.setMain, heq] using hx.opened s' hmem
    · intro s' hs'
      have hmem : s' ∈ h.openings := by simpa [Handoff.setMain] using hs'
      have hne : s' ≠ s := by
        rintro rfl
        have := hx.opened s' hmem
        rw [hpc] at this
        cases this
      by_contra hbusy
      exact hne (hx.holder s' s (hold s' (by simpa [Handoff.setMain] using hbusy)) hholds)
  exact ⟨hopenings rfl rfl rfl, hopenings rfl rfl rfl⟩

theorem exclusive_release {h : Handoff Session Producer Response} (hx : Exclusive h)
    {s : Session} (hholds : (h.main s).holds = true) (hdrained : (h.queue s).Drained) {pc : MainPc}
    (hpc : pc.holds = false) (hpcOpened : pc.hasOpened = true) (stays : Bool) :
    Exclusive ((h.releaseDevice stays).setMain s pc) := by
  have hfree : ∀ s', (Function.update h.main s pc s').holds = false := by
    intro s'
    by_cases heq : s' = s
    · simp [heq, hpc]
    · by_contra hbusy
      exact heq (hx.holder s' s (by simpa [heq] using hbusy) hholds)
  refine ⟨?_, ?_, ?_, ?_, fun s' _ => hfree s'⟩
  · intro s' hs'
    exact absurd ((hfree s').symm.trans hs') nofun
  · intro s' s'' hs'
    exact absurd ((hfree s').symm.trans hs') nofun
  · intro s' hs'
    by_cases heq : s' = s
    · exact heq ▸ hdrained
    · exact hx.drained s' (by simpa [Handoff.setMain, Handoff.releaseDevice, heq] using hs')
  · intro s' hs'
    by_cases heq : s' = s
    · simp [Handoff.setMain, heq, hpcOpened]
    · simpa [Handoff.setMain, Handoff.releaseDevice, heq] using hx.opened s' hs'

variable [DecidableEq Producer]

/-- The main thread from the import request through `transfer_loop`. -/
def Handoff.mainStep (h : Handoff Session Producer Response) (s : Session) (choice : Bool) :
    Option (Handoff Session Producer Response) :=
  match h.main s with
  | .connected => some (h.setMain s (if h.device = .inUse then .ended else .notUsing))
  | .notUsing =>
      if h.device = .available then some ({ h with device := .inUse }.setMain s .moved)
      else some (h.setMain s .ended)
  | .moved =>
      let h := { h with openings := h.openings ++ [s] }
      some (h.setMain s (if choice then .opened else .aborted))
  | .opened => some (h.setMain s (if choice then .receiving else .aborted))
  | .aborted => some ((h.releaseDevice choice).setMain s .ended)
  | .receiving => some (h.setMain s .disconnecting)
  | .disconnecting => some (h.setMain s .disconnected)
  | .disconnected =>
      ((h.queue s).step .setStop).map fun q => (h.setQueue s q).setMain s .stopSet
  | .stopSet =>
      ((h.queue s).step .notifyStop).map fun q => (h.setQueue s q).setMain s .notified
  | .notified => some ((h.releaseDevice choice).setMain s .released)
  | .released => some (h.setMain s .joining)
  | .joining =>
      match (h.queue s).sender with
      | .finished => some (h.setMain s .joined)
      | _ => none
  | .joined =>
      some ((h.setQueue s { h.queue s with writeBuffer := [], readBuffer := [] }).setMain s
        .ended)
  | .ended => none

/-- Whether a queue action can happen at a position of the main thread: only an answering
handler enqueues, and the sender's own steps need the sender. -/
def enabledAt (pc : MainPc) : QueueAction Producer Response → Bool
  | .enqueue _ _ => pc.answers
  | .senderStep | .wakeSpuriously | .write _ => pc.sends
  | _ => true

def Handoff.step (h : Handoff Session Producer Response) :
    HandoffAction Session Producer Response → Option (Handoff Session Producer Response)
  | .main s choice => h.mainStep s choice
  | .queue s a =>
      if enabledAt (h.main s) a then ((h.queue s).step a).map (h.setQueue s) else none

def system (Session Producer Response : Type) [DecidableEq Session] [DecidableEq Producer] :
    System (Handoff Session Producer Response) (HandoffAction Session Producer Response) where
  initial h := h = .initial
  step := Handoff.step

/-- The step is not a release of the device by a session that has responses under way. -/
def ReleasesDrained (h : Handoff Session Producer Response) :
    HandoffAction Session Producer Response → Prop
  | .main s _ => h.main s = .notified → (h.queue s).Drained
  | .queue _ _ => True

/-- What a step of a session's main thread does.  Where it only goes on, it neither takes the
device nor forgets that it has opened it. -/
inductive MainEffect (h : Handoff Session Producer Response) (s : Session) :
    Handoff Session Producer Response → Prop
  | advanced {pc : MainPc} (hholds : pc.holds = true → (h.main s).holds = true)
      (hopened : (h.main s).hasOpened = true → pc.hasOpened = true)
      (hidle : pc.mayQueue = false → (h.main s).mayQueue = false)
      (hbusy : pc.mayQueue = true ∨ pc = .opened →
        (h.main s).mayQueue = true ∨ h.main s = .opened) :
      MainEffect h s (h.setMain s pc)
  | taken (hpc : h.main s = .notUsing) (havailable : h.device = .available) :
      MainEffect h s ({ h with device := .inUse }.setMain s .moved)
  | opened (hpc : h.main s = .moved) (succeeds : Bool) :
      MainEffect h s ({ h with openings := h.openings ++ [s] }.setMain s
        (if succeeds then .opened else .aborted))
  | stopping {pc pc' : MainPc} (hpc : h.main s = pc) (hbusy : pc.mayQueue = true)
      (hholds : pc.holds = true) (hbusy' : pc'.mayQueue = true) (hopened : pc'.hasOpened = true)
      (q : Queue Producer Response) :
      MainEffect h s ((h.setQueue s q).setMain s pc')
  | released {pc : MainPc} (hpc : h.main s = .aborted ∨ h.main s = .notified)
      (hholds : pc.holds = false) (hidle : pc.mayQueue = false) (hopened : pc.hasOpened = true)
      (stays : Bool) :
      MainEffect h s ((h.releaseDevice stays).setMain s pc)
  | cleared (hpc : h.main s = .joined) :
      MainEffect h s
        ((h.setQueue s { h.queue s with writeBuffer := [], readBuffer := [] }).setMain s .ended)

theorem mainEffect_of_step {h t : Handoff Session Producer Response} {s : Session} {choice : Bool}
    (hstep : h.mainStep s choice = some t) : MainEffect h s t := by
  cases hpc : h.main s with
  | connected =>
      obtain rfl := by simpa only [Handoff.mainStep, hpc, Option.some.injEq] using hstep
      split
      · exact .advanced nofun (fun _ => rfl) (by simp [hpc, MainPc.mayQueue])
          (by simp [MainPc.mayQueue])
      · exact .advanced nofun (by simp [hpc, MainPc.hasOpened]) (by simp [hpc, MainPc.mayQueue])
          (by simp [MainPc.mayQueue])
  | notUsing =>
      simp only [Handoff.mainStep, hpc] at hstep
      split at hstep
      next havailable =>
        obtain rfl := Option.some.inj hstep
        exact .taken hpc havailable
      next =>
        obtain rfl := Option.some.inj hstep
        exact .advanced nofun (fun _ => rfl) (by simp [hpc, MainPc.mayQueue])
          (by simp [MainPc.mayQueue])
  | moved =>
      obtain rfl := by simpa only [Handoff.mainStep, hpc, Option.some.injEq] using hstep
      exact .opened hpc choice
  | opened =>
      obtain rfl := by simpa only [Handoff.mainStep, hpc, Option.some.injEq] using hstep
      refine .advanced (by simp [hpc, MainPc.holds]) ?_ (by simp [hpc, MainPc.mayQueue])
        fun _ => .inr hpc
      cases choice <;> exact fun _ => rfl
  | aborted =>
      obtain rfl := by simpa only [Handoff.mainStep, hpc, Option.some.injEq] using hstep
      exact .released (.inl hpc) rfl rfl rfl choice
  | receiving =>
      obtain rfl := by simpa only [Handoff.mainStep, hpc, Option.some.injEq] using hstep
      exact .advanced (by simp [hpc, MainPc.holds]) (fun _ => rfl) nofun fun _ =>
        .inl (by rw [hpc]; rfl)
  | disconnecting =>
      obtain rfl := by simpa only [Handoff.mainStep, hpc, Option.some.injEq] using hstep
      exact .advanced (by simp [hpc, MainPc.holds]) (fun _ => rfl) nofun fun _ =>
        .inl (by rw [hpc]; rfl)
  | disconnected =>
      obtain ⟨q, -, rfl⟩ :=
        Option.map_eq_some_iff.mp (by simpa only [Handoff.mainStep, hpc] using hstep)
      exact .stopping hpc rfl rfl rfl rfl q
  | stopSet =>
      obtain ⟨q, -, rfl⟩ :=
        Option.map_eq_some_iff.mp (by simpa only [Handoff.mainStep, hpc] using hstep)
      exact .stopping hpc rfl rfl rfl rfl q
  | notified =>
      obtain rfl := by simpa only [Handoff.mainStep, hpc, Option.some.injEq] using hstep
      exact .released (.inr hpc) rfl rfl rfl choice
  | released =>
      obtain rfl := by simpa only [Handoff.mainStep, hpc, Option.some.injEq] using hstep
      exact .advanced nofun (fun _ => rfl) (by simp [hpc, MainPc.mayQueue])
        (by simp [MainPc.mayQueue])
  | joining =>
      cases hsender : (h.queue s).sender <;> simp [Handoff.mainStep, hpc, hsender] at hstep
      subst hstep
      exact .advanced nofun (fun _ => rfl) (by simp [hpc, MainPc.mayQueue])
        (by simp [MainPc.mayQueue])
  | joined =>
      obtain rfl := by simpa only [Handoff.mainStep, hpc, Option.some.injEq] using hstep
      exact .cleared hpc
  | ended => simp [Handoff.mainStep, hpc] at hstep

theorem exclusive_mainStep {h t : Handoff Session Producer Response} (hx : Exclusive h)
    {s : Session} {choice : Bool} (hguard : h.main s = .notified → (h.queue s).Drained)
    (hstep : h.mainStep s choice = some t) : Exclusive t := by
  have hdrained := hx.drained s
  cases mainEffect_of_step hstep with
  | advanced hholds hopened hidle _ =>
      exact exclusive_setMain hx hholds hopened fun hpc => hdrained (hidle hpc)
  | taken hpc havailable => exact exclusive_move hx hpc havailable
  | opened hpc succeeds =>
      cases succeeds with
      | true => exact (exclusive_open hx hpc).1
      | false => exact (exclusive_open hx hpc).2
  | stopping hpc hbusy hholds hbusy' hopened q =>
      refine exclusive_setMain (exclusive_setQueue hx fun hidle => ?_) (fun _ => ?_)
        (fun _ => hopened) fun hidle => ?_
      · rw [hpc, hbusy] at hidle
        cases hidle
      · rw [← hpc] at hholds
        exact hholds
      · rw [hbusy'] at hidle
        cases hidle
  | released hpc hholds _ hopened stays =>
      rcases hpc with hpc | hpc <;> rw [hpc] at hdrained
      · exact exclusive_release hx (by rw [hpc]; rfl) (hdrained rfl) hholds hopened stays
      · exact exclusive_release hx (by rw [hpc]; rfl) (hguard hpc) hholds hopened stays
  | cleared hpc =>
      rw [hpc] at hdrained
      have hcleared : { h.queue s with writeBuffer := [], readBuffer := [] }.Drained :=
        ⟨rfl, rfl, (hdrained rfl).2.2⟩
      refine exclusive_setMain (exclusive_setQueue hx fun _ => hcleared) nofun (fun _ => rfl)
        fun _ => ?_
      simpa [Handoff.setQueue] using hcleared

theorem exclusive_step {h t : Handoff Session Producer Response} (hx : Exclusive h)
    {a : HandoffAction Session Producer Response} (hguard : ReleasesDrained h a)
    (hstep : h.step a = some t) : Exclusive t := by
  cases a with
  | main s choice => exact exclusive_mainStep hx hguard hstep
  | queue s a =>
      simp only [Handoff.step, Option.ite_none_right_eq_some, Option.map_eq_some_iff] at hstep
      obtain ⟨henabled, q, hq, rfl⟩ := hstep
      refine exclusive_setQueue hx fun hidle => step_drained (hx.drained s hidle) ?_ hq
      rintro p response rfl
      rw [mayQueue_of_answers henabled] at hidle
      cases hidle

theorem reachableUnder_exclusive {h : Handoff Session Producer Response}
    (hreach : ReachableUnder (system Session Producer Response) ReleasesDrained h) :
    Exclusive h := by
  refine hreach.invariant ?_ fun _ _ _ hx hguard hstep => exclusive_step hx hguard hstep
  rintro h rfl
  exact exclusive_initial

/-- A session that may have responses under way has called `on_new_connection`. -/
def Recorded (h : Handoff Session Producer Response) : Prop :=
  ∀ s, (h.main s).mayQueue = true ∨ h.main s = .opened → s ∈ h.openings

omit [DecidableEq Producer] in
theorem recorded_setMain {h : Handoff Session Producer Response} (hr : Recorded h)
    {s : Session} {pc : MainPc}
    (hpc : pc.mayQueue = true ∨ pc = .opened → s ∈ h.openings) :
    Recorded (h.setMain s pc) := by
  intro s' hs'
  by_cases heq : s' = s
  · subst heq
    exact hpc (by simpa [Handoff.setMain] using hs')
  · exact hr s' (by simpa [Handoff.setMain, heq] using hs')

theorem recorded_mainStep {h t : Handoff Session Producer Response} (hr : Recorded h)
    {s : Session} {choice : Bool} (hstep : h.mainStep s choice = some t) : Recorded t := by
  cases mainEffect_of_step hstep with
  | advanced _ _ _ hbusy => exact recorded_setMain hr fun hpc => hr s (hbusy hpc)
  | taken =>
      exact recorded_setMain (h := { h with device := .inUse }) hr (by simp [MainPc.mayQueue])
  | opened =>
      have hopenings : Recorded { h with openings := h.openings ++ [s] } :=
        fun s' hs' => List.mem_append_left _ (hr s' hs')
      exact recorded_setMain hopenings fun _ => by simp
  | stopping hpc hbusy _ _ _ q =>
      exact recorded_setMain (h := h.setQueue s q) hr fun _ => hr s (.inl (hpc ▸ hbusy))
  | @released pc _ hholds hidle _ stays =>
      refine recorded_setMain (h := h.releaseDevice stays) hr ?_
      rintro (hbusy | rfl)
      · rw [hidle] at hbusy
        cases hbusy
      · cases hholds
  | cleared => exact recorded_setMain (h := h.setQueue s _) hr (by simp [MainPc.mayQueue])

theorem reachable_recorded {h : Handoff Session Producer Response}
    (hreach : Reachable (system Session Producer Response) h) : Recorded h := by
  refine hreach.invariant ?_ ?_
  · rintro h rfl
    simp [Recorded, Handoff.initial, MainPc.mayQueue]
  · intro h a t hr hstep
    cases a with
    | main s choice => exact recorded_mainStep hr hstep
    | queue s a =>
        simp only [system, Handoff.step, Option.ite_none_right_eq_some,
          Option.map_eq_some_iff] at hstep
        obtain ⟨-, q, -, rfl⟩ := hstep
        exact hr

/-- In runs whose sessions release the device only when none of their responses is under way,
a new connection is isolated from the old ones; a release that finds one under way lets the
next session to import the device break the isolation at once. -/
theorem isolated_of_releasesDrained :
    (∀ h : Handoff Session Producer Response,
      ReachableUnder (system Session Producer Response) ReleasesDrained h → Isolated h) ∧
    ∀ (h : Handoff Session Producer Response) (s s' : Session),
      Reachable (system Session Producer Response) h → h.main s = .notified →
        ¬ ReleasesDrained h (.main s true) → h.main s' = .connected →
          ∃ t, (system Session Producer Response).run h
            [.main s true, .main s' true, .main s' true, .main s' true] = some t ∧
              ¬ Isolated t := by
  constructor
  · exact fun h hreach => isolated_of_exclusive (reachableUnder_exclusive hreach)
  · intro h s s' hreach hpc hbusy hpc'
    have hne : s' ≠ s := by
      rintro rfl
      rw [hpc] at hpc'
      cases hpc'
    have hmem : s ∈ h.openings := reachable_recorded hreach s (.inl (by rw [hpc]; rfl))
    let released := (h.releaseDevice true).setMain s .released
    let asked := released.setMain s' .notUsing
    let moved := { asked with device := .inUse }.setMain s' .moved
    let opened := { moved with openings := moved.openings ++ [s'] }.setMain s' .opened
    have hrelease : h.mainStep s true = some released := by
      simp only [Handoff.mainStep, hpc, released]
    have hreleased : released.main s' = .connected := by
      simpa [released, Handoff.setMain, Handoff.releaseDevice, hne] using hpc'
    have hask : released.mainStep s' true = some asked := by
      simp only [Handoff.mainStep, hreleased, asked]
      rfl
    have hasked : asked.main s' = .notUsing := by simp [asked, Handoff.setMain]
    have hmove : asked.mainStep s' true = some moved := by
      simp only [Handoff.mainStep, hasked, moved]
      rfl
    have hmoved : moved.main s' = .moved := by simp [moved, Handoff.setMain]
    have hopen : moved.mainStep s' true = some opened := by
      simp only [Handoff.mainStep, hmoved, opened]
      rfl
    refine ⟨opened, ?_, fun hisolated => hbusy fun _ => hisolated s ?_⟩
    · simp [System.run, system, Handoff.step, hrelease, hask, hmove, hopen]
    · change s ∈ (h.openings ++ [s']).dropLast
      simpa using hmem

/-- The first session's sender is inside the write of response `7` when its receiver, on the
end of the stream, is about to release the device. -/
def busyReleaseTrace : List (HandoffAction Bool Unit Nat) :=
  [.main false true, .main false true, .main false true, .main false true,
    .queue false (.enqueue () 7), .queue false (.storeHasData ()), .queue false (.notify ()),
    .queue false .senderStep, .queue false .senderStep, .queue false .senderStep,
    .queue false .senderStep, .queue false .senderStep, .queue false .senderStep,
    .main false true, .main false true, .main false true, .main false true]

/-- The second session imports and opens the device that the first one releases. -/
def takeOverTrace : List (HandoffAction Bool Unit Nat) :=
  [.main false true, .main true true, .main true true, .main true true]

theorem not_isolated_reachable :
    ∃ h : Handoff Bool Unit Nat, Reachable (system Bool Unit Nat) h ∧
      (h.queue false).sender = .sending 7 ∧ h.main true = .opened ∧ ¬ Isolated h := by
  refine ⟨_, Reachable.run (busyReleaseTrace ++ takeOverTrace) (.initial rfl) rfl, rfl, rfl,
    fun hisolated => ?_⟩
  exact ((hisolated false (by decide)).2.2 7).2 rfl

theorem isolated_of_releasesDrained_instance :
    (∃ h : Handoff Bool Unit Nat, h.main true = .opened ∧ h.main false = .released ∧
      Isolated h) ∧
    ∃ h t : Handoff Bool Unit Nat, h.main false = .notified ∧
      (system Bool Unit Nat).run h takeOverTrace = some t ∧ ¬ Isolated t := by
  constructor
  · refine ⟨_, ?_, ?_, (@isolated_of_releasesDrained Bool Unit Nat _ _).1 _
      (.step (a := .main true true) (.step (a := .main true true) (.step (a := .main true true)
        (.step (a := .main false true) (.step (a := .main false true)
        (.step (a := .main false true) (.step (a := .main false true)
        (.step (a := .main false true) (.step (a := .main false true)
        (.step (a := .main false true) (.step (a := .main false true)
        (.step (a := .main false true) (.initial rfl)
        nofun rfl) nofun rfl) nofun rfl) nofun rfl) nofun rfl) nofun rfl) nofun rfl) nofun rfl)
        (fun _ => ⟨rfl, rfl, fun _ => ⟨nofun, nofun⟩⟩) rfl) nofun rfl) nofun rfl) nofun rfl)⟩
    · rfl
    · rfl
  · obtain ⟨t, hrun, ht⟩ := isolated_of_releasesDrained.2 _ false true
      (Reachable.run busyReleaseTrace (.initial rfl) rfl) rfl
      (fun hguard => ((hguard rfl).2.2 7).2 rfl) rfl
    exact ⟨_, t, rfl, hrun, ht⟩

end Usbipdcpp.Session.DeviceHandoff
