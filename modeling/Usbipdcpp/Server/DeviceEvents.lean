import Mathlib.Data.List.Chain
import Usbipdcpp.Server.DeviceRegistry

namespace Usbipdcpp.Server.DeviceEvents

open DeviceRegistry Foundation.KeyedList Foundation.TransitionSystem

inductive DeviceReleaseReason where
  | clientDisconnected
  | deviceRemoved
  | serverStopped
  deriving DecidableEq, Repr

/-- What the observers are told of a device that sessions import. -/
inductive DeviceEvent (Busid : Type) where
  | deviceAttached (busid : Busid)
  | deviceReleased (busid : Busid) (reason : DeviceReleaseReason)
  deriving DecidableEq, Repr

/-- What `on_new_connection` comes to. -/
inductive OpenOutcome where
  | opened
  | failed
  | thrown
  deriving DecidableEq, Repr

/-- How far a session has come with the device that it imports: before and after
`on_new_connection`, and before and after a notification.  `attached` tells whether a release is
one of a device that has been attached. -/
inductive ImportStage (Busid : Type) where
  | idle
  | opening (busid : Busid)
  | failing (busid : Busid)
  | attaching (busid : Busid)
  | attached (busid : Busid)
  | releasing (busid : Busid) (reason : DeviceReleaseReason) (attached : Bool)
  | released (busid : Busid) (reason : DeviceReleaseReason) (attached : Bool)
  | lost
  deriving DecidableEq, Repr

/-- The members of `Server` that imports concern, how far the sessions have come, and a record of
the notifications in the order in which they are issued. -/
structure ImportServer (Device Busid Session : Type) where
  registry : Registry Device Busid Session
  running : Bool
  stages : Session → ImportStage Busid
  events : List (DeviceEvent Busid)

/-- The critical sections of `devices_mutex`, and what the sessions do between them. -/
inductive ImportAction (Device Busid Session : Type) where
  | addDevice (device : Device)
  | detachAvailableDevice (busid : Busid)
  | setRunning (running : Bool)
  | isDeviceUsing (session : Session) (wantedBusid : Busid)
  | tryMovingDeviceToUsing (session : Session)
  | onNewConnection (session : Session) (outcome : OpenOutcome)
  | notifyDeviceAttached (session : Session)
  | releaseDevice (session : Session) (isDeviceRemoved : Bool)
  | notifyDeviceReleased (session : Session)

variable {Device Busid Session : Type} [DecidableEq Busid] [DecidableEq Session]

namespace ImportServer

def setStage (x : Session) (stage : ImportStage Busid) (s : ImportServer Device Busid Session) :
    ImportServer Device Busid Session :=
  { s with stages := Function.update s.stages x stage }

/-- Why `release_device` gives a device free, if it has one to give. -/
def releaseReason (k : Busid) (isDeviceRemoved : Bool) (s : ImportServer Device Busid Session) :
    Option DeviceReleaseReason :=
  (s.registry.usingDevices k).map fun _ =>
    if isDeviceRemoved then .deviceRemoved
    else if s.running then .clientDisconnected
    else .serverStopped

variable (busid : Device → Busid)

/-- `release_device`, and what it leaves to be told. -/
def releaseDevice (x : Session) (k : Busid) (attached isDeviceRemoved : Bool)
    (s : ImportServer Device Busid Session) : Option (ImportServer Device Busid Session) :=
  (s.registry.step busid (.releaseDevice x isDeviceRemoved)).map fun registry =>
    { s with registry }.setStage x
      (match s.releaseReason k isDeviceRemoved with
        | some reason => .releasing k reason attached
        | none => .lost)

def step (s : ImportServer Device Busid Session) :
    ImportAction Device Busid Session → Option (ImportServer Device Busid Session)
  | .addDevice device =>
      (s.registry.step busid (.addDevice device)).map fun registry => { s with registry }
  | .detachAvailableDevice k =>
      (s.registry.step busid (.detachAvailableDevice k)).map fun registry => { s with registry }
  | .setRunning running => some { s with running }
  | .isDeviceUsing x k =>
      (s.registry.step busid (.isDeviceUsing x k)).map fun registry => { s with registry }
  | .tryMovingDeviceToUsing x =>
      (s.registry.step busid (.tryMovingDeviceToUsing x)).map fun registry =>
        match registry.sessions x with
        | .importing k _ => { s with registry }.setStage x (.opening k)
        | _ => { s with registry }
  | .onNewConnection x outcome =>
      match s.stages x with
      | .opening k =>
          some (s.setStage x
            (match outcome with
              | .opened => .attaching k
              | .failed => .failing k
              | .thrown => .lost))
      | _ => none
  | .notifyDeviceAttached x =>
      match s.stages x with
      | .attaching k =>
          some { s.setStage x (.attached k) with events := s.events ++ [.deviceAttached k] }
      | _ => none
  | .releaseDevice x isDeviceRemoved =>
      match s.stages x with
      | .failing k => s.releaseDevice busid x k false isDeviceRemoved
      | .attached k => s.releaseDevice busid x k true isDeviceRemoved
      | _ => none
  | .notifyDeviceReleased x =>
      match s.stages x with
      | .releasing k reason attached =>
          some { s.setStage x (.released k reason attached) with
            events := s.events ++ [.deviceReleased k reason] }
      | _ => none

/-- The runs of a server that is constructed with a list of devices. -/
def system (devices : List Device) :
    System (ImportServer Device Busid Session) (ImportAction Device Busid Session) where
  initial s := s = ⟨.ofDevices devices, false, fun _ => .idle, []⟩
  step := step busid

end ImportServer

open ImportServer hiding step releaseDevice

/-- The notifications of a busid, an attachment as `true`; those of devices that have been removed
do not count. -/
def marks (k : Busid) (events : List (DeviceEvent Busid)) : List Bool :=
  events.filterMap fun
    | .deviceAttached k' => if k' = k then some true else none
    | .deviceReleased k' reason =>
        if k' = k ∧ reason ≠ .deviceRemoved then some false else none

/-- Attachments and releases alternate, an attachment first. -/
def Alternates (marks : List Bool) : Prop :=
  List.IsChain (· ≠ ·) (false :: marks)

/-- The session has had the device attached and given it free, and the observers have not been
told so by a notification that counts. -/
def Left (k : Busid) : ImportStage Busid → Prop
  | .releasing k' _ attached => k' = k ∧ attached = true
  | .released k' reason attached => k' = k ∧ attached = true ∧ reason = .deviceRemoved
  | _ => False

/-- An attachment is not told while a release is still to be told, or after a device has been
removed from under a session; and a session gives a device free that it could not open only when
that has been removed. -/
def Orderly (s : ImportServer Device Busid Session) : ImportAction Device Busid Session → Prop
  | .notifyDeviceAttached x => ∀ k, s.stages x = .attaching k → ∀ y, ¬ Left k (s.stages y)
  | .releaseDevice x isDeviceRemoved =>
      ∀ k, s.stages x = .failing k → isDeviceRemoved = true
  | _ => True

section Marks

variable {k : Busid} {events : List (DeviceEvent Busid)}

theorem alternates_concat {l : List Bool} {b : Bool} :
    Alternates (l ++ [b]) ↔ Alternates l ∧ l.getLastD false ≠ b := by
  unfold Alternates
  rw [← List.cons_append, List.isChain_append]
  constructor
  · rintro ⟨hchain, -, hlast⟩
    refine ⟨hchain, hlast _ ?_ b rfl⟩
    rw [List.getLast?_cons, ← List.getLastD_eq_getLast?]
    rfl
  · rintro ⟨hchain, hne⟩
    refine ⟨hchain, List.isChain_singleton b, ?_⟩
    rintro x hx y hy
    rw [List.getLast?_cons, ← List.getLastD_eq_getLast?] at hx
    obtain rfl := Option.some.inj hx
    obtain rfl := Option.some.inj hy
    exact hne

theorem marks_attached (k' : Busid) : marks k (events ++ [.deviceAttached k']) =
    if k' = k then marks k events ++ [true] else marks k events := by
  rw [marks, List.filterMap_append]
  by_cases heq : k' = k
  · simp [heq, marks]
  · simp [heq, marks]

theorem marks_released (k' : Busid) (reason : DeviceReleaseReason) :
    marks k (events ++ [.deviceReleased k' reason]) =
      if k' = k ∧ reason ≠ .deviceRemoved then marks k events ++ [false] else marks k events := by
  rw [marks, List.filterMap_append]
  by_cases heq : k' = k ∧ reason ≠ .deviceRemoved
  · simp [heq, marks]
  · rw [List.filterMap_cons_none (by simp [heq])]
    simp [heq, marks]

end Marks

/-- The session has the device attached, or has left it. -/
def Unclosed (k : Busid) (stage : ImportStage Busid) : Prop :=
  stage = .attached k ∨ Left k stage

section Unclosed

variable {k k' : Busid} {reason : DeviceReleaseReason} {attached : Bool}

omit [DecidableEq Busid]

@[simp] theorem unclosed_attached : Unclosed k (.attached k') ↔ k' = k := by
  simp [Unclosed, Left]

@[simp] theorem unclosed_releasing :
    Unclosed k (.releasing k' reason attached) ↔ k' = k ∧ attached = true := by
  simp [Unclosed, Left]

@[simp] theorem unclosed_released : Unclosed k (.released k' reason attached) ↔
    k' = k ∧ attached = true ∧ reason = .deviceRemoved := by
  simp [Unclosed, Left]

@[simp] theorem not_unclosed_idle : ¬ Unclosed k .idle := by simp [Unclosed, Left]

@[simp] theorem not_unclosed_opening : ¬ Unclosed k (.opening k') := by simp [Unclosed, Left]

@[simp] theorem not_unclosed_failing : ¬ Unclosed k (.failing k') := by simp [Unclosed, Left]

@[simp] theorem not_unclosed_attaching : ¬ Unclosed k (.attaching k') := by simp [Unclosed, Left]

@[simp] theorem not_unclosed_lost : ¬ Unclosed k .lost := by simp [Unclosed, Left]

end Unclosed

section Books

variable {stages : Session → ImportStage Busid} {events events' : List (DeviceEvent Busid)}
  {x : Session} {k : Busid} {stage : ImportStage Busid}

omit [DecidableEq Busid] in
theorem unclosed_update (hstage : Unclosed k stage ↔ Unclosed k (stages x)) (y : Session) :
    Unclosed k (Function.update stages x stage y) ↔ Unclosed k (stages y) := by
  by_cases heq : y = x
  · rw [heq, Function.update_self]
    exact hstage
  · rw [Function.update_of_ne heq]

/-- The notifications of a busid alternate so far, and the last of them is an attachment just where
a session has not closed it. -/
structure BooksOf (k : Busid) (stages : Session → ImportStage Busid)
    (events : List (DeviceEvent Busid)) : Prop where
  alternates : Alternates (marks k events)
  last : (marks k events).getLastD false = true ↔ ∃ x, Unclosed k (stages x)
  once : ∀ x y, Unclosed k (stages x) → Unclosed k (stages y) → x = y

/-- A session moves on with what it has not closed. -/
theorem BooksOf.move (h : BooksOf k stages events) (hmarks : marks k events' = marks k events)
    (hstage : Unclosed k stage ↔ Unclosed k (stages x)) :
    BooksOf k (Function.update stages x stage) events' where
  alternates := hmarks ▸ h.alternates
  last := by
    rw [hmarks, h.last]
    exact exists_congr fun y => (unclosed_update hstage y).symm
  once y z hy hz :=
    h.once y z ((unclosed_update hstage y).mp hy) ((unclosed_update hstage z).mp hz)

theorem BooksOf.attach (h : BooksOf k stages events) (hnone : ∀ y, ¬ Unclosed k (stages y)) :
    BooksOf k (Function.update stages x (.attached k)) (events ++ [.deviceAttached k]) where
  alternates := by
    rw [marks_attached, if_pos rfl]
    refine alternates_concat.mpr ⟨h.alternates, fun hlast => ?_⟩
    obtain ⟨y, hy⟩ := h.last.mp hlast
    exact hnone y hy
  last := by
    rw [marks_attached, if_pos rfl, List.getLastD_concat]
    exact iff_of_true rfl ⟨x, by rw [Function.update_self]; exact unclosed_attached.mpr rfl⟩
  once y z hy hz := by
    have hx : ∀ y, Unclosed k (Function.update stages x (.attached k) y) → y = x := by
      intro y hy
      by_contra hne
      rw [Function.update_of_ne hne] at hy
      exact hnone y hy
    rw [hx y hy, hx z hz]

theorem BooksOf.release {reason : DeviceReleaseReason} (h : BooksOf k stages events)
    (hreason : reason ≠ .deviceRemoved) (hx : Unclosed k (stages x)) (hstage : ¬ Unclosed k stage) :
    BooksOf k (Function.update stages x stage) (events ++ [.deviceReleased k reason]) := by
  have hnone : ∀ y, ¬ Unclosed k (Function.update stages x stage y) := by
    intro y hy
    by_cases heq : y = x
    · rw [heq, Function.update_self] at hy
      exact hstage hy
    · rw [Function.update_of_ne heq] at hy
      exact heq (h.once y x hy hx)
  refine ⟨?_, ?_, fun y _ hy => absurd hy (hnone y)⟩
  · rw [marks_released, if_pos ⟨rfl, hreason⟩]
    refine alternates_concat.mpr ⟨h.alternates, ?_⟩
    rw [h.last.mpr ⟨x, hx⟩]
    decide
  · rw [marks_released, if_pos ⟨rfl, hreason⟩, List.getLastD_concat]
    exact iff_of_false (by decide) fun ⟨y, hy⟩ => hnone y hy

end Books

/-- The busid of the device that a session has in the registry. -/
def ImportStage.importing : ImportStage Busid → Option Busid
  | opening k | failing k | attaching k | attached k => some k
  | _ => none

variable {busid : Device → Busid}

variable (busid) in
/-- What holds of every orderly run. -/
structure Inv (s : ImportServer Device Busid Session) : Prop where
  wellFormed : WellFormed busid s.registry
  importing : ∀ x k, (s.stages x).importing = some k →
    ∃ d, s.registry.sessions x = .importing k d
  begun : ∀ x, s.stages x = .idle ∨ (∃ k d, s.registry.sessions x = .importing k d) ∨
    s.registry.sessions x = .ended
  removed : ∀ x k reason, s.stages x = .releasing k reason false → reason = .deviceRemoved
  books : ∀ k, BooksOf k s.stages s.events

section Steps

variable {s t : ImportServer Device Busid Session} {x : Session} {k : Busid}

omit [DecidableEq Session] in
/-- A step of the registry that leaves the sessions alone. -/
theorem Inv.keep {registry : Registry Device Busid Session} (h : Inv busid s)
    (hwf : WellFormed busid registry) (hsessions : registry.sessions = s.registry.sessions) :
    Inv busid { s with registry } where
  wellFormed := hwf
  importing := hsessions ▸ h.importing
  begun := hsessions ▸ h.begun
  removed := h.removed
  books := h.books

omit [DecidableEq Session] in
/-- A session has not begun to import before it has found a device. -/
theorem Inv.idle (h : Inv busid s) (himporting : ∀ k d, s.registry.sessions x ≠ .importing k d)
    (hended : s.registry.sessions x ≠ .ended) : s.stages x = .idle :=
  (h.begun x).resolve_right fun hor =>
    hor.elim (fun ⟨k, d, heq⟩ => himporting k d heq) hended

/-- One session moves on. -/
theorem Inv.change {stage : ImportStage Busid} (h : Inv busid s)
    (hwf : WellFormed busid t.registry)
    (hsessions : ∀ y, y ≠ x → t.registry.sessions y = s.registry.sessions y)
    (hstages : t.stages = Function.update s.stages x stage)
    (himporting : ∀ k, stage.importing = some k → ∃ d, t.registry.sessions x = .importing k d)
    (hbegun : stage = .idle ∨ (∃ k d, t.registry.sessions x = .importing k d) ∨
      t.registry.sessions x = .ended)
    (hremoved : ∀ k reason, stage = .releasing k reason false → reason = .deviceRemoved)
    (hbooks : ∀ k, BooksOf k (Function.update s.stages x stage) t.events) : Inv busid t where
  wellFormed := hwf
  importing y k hy := by
    rw [hstages] at hy
    by_cases heq : y = x
    · subst heq
      rw [Function.update_self] at hy
      exact himporting k hy
    · rw [Function.update_of_ne heq] at hy
      rw [hsessions y heq]
      exact h.importing y k hy
  begun y := by
    rw [hstages]
    by_cases heq : y = x
    · subst heq
      rw [Function.update_self]
      exact hbegun
    · rw [Function.update_of_ne heq, hsessions y heq]
      exact h.begun y
  removed y k reason hy := by
    rw [hstages] at hy
    by_cases heq : y = x
    · subst heq
      rw [Function.update_self] at hy
      exact hremoved k reason hy
    · rw [Function.update_of_ne heq] at hy
      exact h.removed y k reason hy
  books k := hstages ▸ hbooks k

/-- A session that looks for a device begins to import it just when it has found it. -/
theorem inv_search {registry : Registry Device Busid Session} {stage : ImportStage Busid}
    (h : Inv busid s) (hx : s.stages x = .idle) (hwf : WellFormed busid registry)
    (hsessions : ∀ y, y ≠ x → registry.sessions y = s.registry.sessions y)
    (hstage : stage = .idle ∨ ∃ k d, stage = .opening k ∧ registry.sessions x = .importing k d) :
    Inv busid ({ s with registry }.setStage x stage) := by
  refine h.change hwf hsessions rfl (fun k' hk' => ?_) ?_ (fun k' reason hk' => ?_) fun k' => ?_
  · rcases hstage with rfl | ⟨k, d, rfl, hd⟩
    · cases hk'
    · obtain rfl : k = k' := Option.some.inj hk'
      exact ⟨d, hd⟩
  · exact hstage.imp_right fun ⟨k, d, _, hd⟩ => Or.inl ⟨k, d, hd⟩
  · rcases hstage with rfl | ⟨k, d, rfl, -⟩
    · cases hk'
    · cases hk'
  · refine (h.books k').move rfl ?_
    rw [hx]
    rcases hstage with rfl | ⟨k, d, rfl, -⟩
    · exact Iff.rfl
    · simp

theorem Inv.search_vain {registry : Registry Device Busid Session} (h : Inv busid s)
    (hx : s.stages x = .idle) (hwf : WellFormed busid registry)
    (hsessions : ∀ y, y ≠ x → registry.sessions y = s.registry.sessions y) :
    Inv busid { s with registry } := by
  have hsame : Function.update s.stages x .idle = s.stages := by
    rw [← hx]
    exact Function.update_eq_self x s.stages
  have hinv := inv_search h hx hwf hsessions (Or.inl rfl)
  rw [setStage, hsame] at hinv
  exact hinv

theorem inv_isDeviceUsing (h : Inv busid s)
    (ht : s.step busid (.isDeviceUsing x k) = some t) : Inv busid t := by
  obtain ⟨registry, hstep, rfl⟩ := Option.map_eq_some_iff.mp ht
  have hwf := wellFormed_step h.wellFormed hstep
  cases outcome_of_step h.wellFormed hstep with
  | asked hsession hpc =>
      have hx := h.idle (x := x) (by simp [hsession]) (by simp [hsession])
      exact h.search_vain hx hwf fun y hne => Function.update_of_ne hne _ _

theorem inv_tryMovingDeviceToUsing (h : Inv busid s)
    (ht : s.step busid (.tryMovingDeviceToUsing x) = some t) : Inv busid t := by
  obtain ⟨registry, hstep, rfl⟩ := Option.map_eq_some_iff.mp ht
  have hwf := wellFormed_step h.wellFormed hstep
  cases outcome_of_step h.wellFormed hstep with
  | @moved _ k d hsession hlookup =>
      have hx := h.idle (x := x) (by simp [hsession]) (by simp [hsession])
      have hmoved := Function.update_self x (.importing k d) s.registry.sessions
      simp only [Registry.setSession, hmoved]
      exact inv_search h hx hwf (fun y hne => Function.update_of_ne hne _ _)
        (Or.inr ⟨k, d, rfl, hmoved⟩)
  | missed hsession =>
      have hx := h.idle (x := x) (by simp [hsession]) (by simp [hsession])
      simp only [Registry.setSession, Function.update_self]
      exact h.search_vain hx hwf fun y hne => Function.update_of_ne hne _ _

theorem inv_onNewConnection {stage : ImportStage Busid} (h : Inv busid s)
    (hx : s.stages x = .opening k)
    (hstage : stage = .attaching k ∨ stage = .failing k ∨ stage = .lost) :
    Inv busid (s.setStage x stage) := by
  obtain ⟨d, hd⟩ := h.importing x k (by rw [hx]; rfl)
  refine h.change h.wellFormed (fun _ _ => rfl) rfl (fun k' hk' => ?_)
    (Or.inr (Or.inl ⟨k, d, hd⟩)) (fun k' reason hk' => ?_) fun k' => ?_
  · rcases hstage with rfl | rfl | rfl
    · obtain rfl : k = k' := Option.some.inj hk'
      exact ⟨d, hd⟩
    · obtain rfl : k = k' := Option.some.inj hk'
      exact ⟨d, hd⟩
    · cases hk'
  · rcases hstage with rfl | rfl | rfl
    · cases hk'
    · cases hk'
    · cases hk'
  · refine (h.books k').move rfl ?_
    rw [hx]
    rcases hstage with rfl | rfl | rfl
    · simp
    · simp
    · simp

theorem inv_notifyDeviceAttached (h : Inv busid s) (hx : s.stages x = .attaching k)
    (horderly : ∀ y, ¬ Left k (s.stages y)) :
    Inv busid { s.setStage x (.attached k) with events := s.events ++ [.deviceAttached k] } := by
  obtain ⟨d, hd⟩ := h.importing x k (by rw [hx]; rfl)
  have hnone : ∀ y, ¬ Unclosed k (s.stages y) := by
    rintro y (hy | hy)
    · obtain ⟨d', hd'⟩ := h.importing y k (by rw [hy]; rfl)
      obtain rfl := h.wellFormed.exclusive y x k d' d hd' hd
      rw [hx] at hy
      cases hy
    · exact horderly y hy
  refine h.change h.wellFormed (fun _ _ => rfl) rfl (fun k' hk' => ?_)
    (Or.inr (Or.inl ⟨k, d, hd⟩)) (fun k' reason hk' => by cases hk') fun k' => ?_
  · obtain rfl : k = k' := Option.some.inj hk'
    exact ⟨d, hd⟩
  · by_cases heq : k = k'
    · subst heq
      exact (h.books k).attach hnone
    · exact (h.books k').move (by rw [marks_attached, if_neg heq]) (by rw [hx]; simp [heq])

theorem inv_notifyDeviceReleased {reason : DeviceReleaseReason} {attached : Bool}
    (h : Inv busid s) (hx : s.stages x = .releasing k reason attached) :
    Inv busid { s.setStage x (.released k reason attached) with
      events := s.events ++ [.deviceReleased k reason] } := by
  refine h.change h.wellFormed (fun _ _ => rfl) rfl (fun k' hk' => by cases hk')
    (Or.inr ((h.begun x).resolve_left (by rw [hx]; simp))) (fun k' reason hk' => by cases hk')
    fun k' => ?_
  by_cases hreason : reason = .deviceRemoved
  · refine (h.books k').move (by rw [marks_released, if_neg fun hcounts => hcounts.2 hreason]) ?_
    rw [hx]
    simp [hreason]
  · obtain rfl : attached = true := by
      by_contra hattached
      rw [Bool.not_eq_true] at hattached
      exact hreason (h.removed x k reason (hattached ▸ hx))
    by_cases heq : k = k'
    · subst heq
      exact (h.books k).release hreason (by rw [hx]; simp) (by simp [hreason])
    · exact (h.books k').move (by rw [marks_released, if_neg fun hcounts => heq hcounts.1])
        (by rw [hx]; simp [heq])

theorem inv_releaseDevice {attached isDeviceRemoved : Bool} (h : Inv busid s)
    (hx : s.stages x = .failing k ∧ attached = false ∧ isDeviceRemoved = true ∨
      s.stages x = .attached k ∧ attached = true)
    (ht : s.releaseDevice busid x k attached isDeviceRemoved = some t) : Inv busid t := by
  obtain ⟨registry, hstep, rfl⟩ := Option.map_eq_some_iff.mp ht
  have himporting : (s.stages x).importing = some k := by
    rcases hx with ⟨hx, -⟩ | ⟨hx, -⟩
    · rw [hx]
      rfl
    · rw [hx]
      rfl
  obtain ⟨d, hd⟩ := h.importing x k himporting
  have husing := h.wellFormed.held x k d hd
  have hsessions : registry.sessions = Function.update s.registry.sessions x .ended := by
    cases outcome_of_step h.wellFormed hstep with
    | discarded => rfl
    | putBack => rfl
  have hreason : s.releaseReason k isDeviceRemoved = some (if isDeviceRemoved then .deviceRemoved
      else if s.running then .clientDisconnected else .serverStopped) := by
    rw [releaseReason, husing]
    rfl
  rw [hreason]
  refine h.change (wellFormed_step h.wellFormed hstep) (fun y hne => ?_) rfl
    (fun k' hk' => by cases hk') (Or.inr (Or.inr ?_)) (fun k' reason hk' => ?_) fun k' => ?_
  · exact (congrFun hsessions y).trans (Function.update_of_ne hne _ _)
  · exact (congrFun hsessions x).trans (Function.update_self _ _ _)
  · obtain ⟨-, hreason', hattached⟩ := ImportStage.releasing.inj hk'
    rcases hx with ⟨-, -, hremoved⟩ | ⟨-, hattached'⟩
    · rw [← hreason', if_pos hremoved]
    · rw [hattached'] at hattached
      cases hattached
  · refine (h.books k').move rfl ?_
    rcases hx with ⟨hx, hattached, -⟩ | ⟨hx, hattached⟩
    · rw [hx, hattached]
      simp
    · rw [hx, hattached]
      simp

theorem inv_step {a : ImportAction Device Busid Session} (h : Inv busid s) (horderly : Orderly s a)
    (ht : s.step busid a = some t) : Inv busid t := by
  cases a with
  | addDevice device =>
      obtain rfl := Option.some.inj ht
      refine h.keep (wellFormed_addDevice h.wellFormed device) ?_
      unfold Registry.addDevice
      split
      · rfl
      · split
        · rfl
        · rfl
  | detachAvailableDevice k =>
      obtain rfl := Option.some.inj ht
      exact h.keep (wellFormed_detachAvailableDevice h.wellFormed k) rfl
  | setRunning running =>
      obtain rfl := Option.some.inj ht
      exact ⟨h.wellFormed, h.importing, h.begun, h.removed, h.books⟩
  | isDeviceUsing x k => exact inv_isDeviceUsing h ht
  | tryMovingDeviceToUsing x => exact inv_tryMovingDeviceToUsing h ht
  | onNewConnection x outcome =>
      cases hx : s.stages x with
      | opening k =>
          obtain rfl := by simpa only [ImportServer.step, hx, Option.some.injEq] using ht
          apply inv_onNewConnection h hx
          cases outcome with
          | opened => exact Or.inl rfl
          | failed => exact Or.inr (Or.inl rfl)
          | thrown => exact Or.inr (Or.inr rfl)
      | _ => simp [ImportServer.step, hx] at ht
  | notifyDeviceAttached x =>
      cases hx : s.stages x with
      | attaching k =>
          obtain rfl := by simpa only [ImportServer.step, hx, Option.some.injEq] using ht
          exact inv_notifyDeviceAttached h hx (horderly k hx)
      | _ => simp [ImportServer.step, hx] at ht
  | releaseDevice x isDeviceRemoved =>
      cases hx : s.stages x with
      | failing k =>
          simp only [ImportServer.step, hx] at ht
          exact inv_releaseDevice h (Or.inl ⟨hx, rfl, horderly k hx⟩) ht
      | attached k =>
          simp only [ImportServer.step, hx] at ht
          exact inv_releaseDevice h (Or.inr ⟨hx, rfl⟩) ht
      | _ => simp [ImportServer.step, hx] at ht
  | notifyDeviceReleased x =>
      cases hx : s.stages x with
      | releasing k reason attached =>
          obtain rfl := by simpa only [ImportServer.step, hx, Option.some.injEq] using ht
          exact inv_notifyDeviceReleased h hx
      | _ => simp [ImportServer.step, hx] at ht

end Steps

omit [DecidableEq Session] in
theorem inv_initial {devices : List Device} (hdevices : Distinct busid devices) :
    Inv busid (⟨.ofDevices devices, false, fun _ => .idle, []⟩ :
      ImportServer Device Busid Session) where
  wellFormed := wellFormed_ofDevices hdevices
  importing _ _ hx := by cases hx
  begun _ := Or.inl rfl
  removed _ _ _ hx := by cases hx
  books k := by
    refine ⟨List.isChain_singleton false, ?_, fun x _ hx => absurd hx not_unclosed_idle⟩
    exact iff_of_false (by simp [marks]) fun ⟨x, hx⟩ => not_unclosed_idle hx

/-- In every orderly run, however its sessions interleave, the observers are told of a device's
attachments and releases by turns. -/
theorem device_events_alternate {devices : List Device} (hdevices : Distinct busid devices)
    {s : ImportServer Device Busid Session}
    (h : ReachableUnder (ImportServer.system busid devices) Orderly s) (k : Busid) :
    Alternates (marks k s.events) := by
  have hinv : Inv busid s := by
    refine h.invariant ?_ fun _ _ _ hs horderly hstep => inv_step hs horderly hstep
    rintro s rfl
    exact inv_initial hdevices
  exact (hinv.books k).alternates

/-- One session after the other imports a device. -/
theorem device_events_alternate_inTurn :
    ∃ s : ImportServer (Nat × String) String Nat,
      ReachableUnder (ImportServer.system Prod.snd [(1, "1-1")]) Orderly s ∧
      s.events = [.deviceAttached "1-1", .deviceReleased "1-1" .clientDisconnected,
        .deviceAttached "1-1"] ∧
      Alternates (marks "1-1" s.events) := by
  let T : System (ImportServer (Nat × String) String Nat) _ :=
    ImportServer.system Prod.snd [(1, "1-1")]
  obtain ⟨s₀, s₁, s₂, s₃, s₄, h₀, h₁, h₂, h₃, h₄, hfirst, hothers, hattached, hreleased, hsecond,
      hothers', hevents⟩ :
      ∃ s₀ s₁ s₂ s₃ s₄ : ImportServer (Nat × String) String Nat,
        T.run ⟨.ofDevices [(1, "1-1")], false, fun _ => .idle, []⟩ [.setRunning true,
          .isDeviceUsing 0 "1-1", .tryMovingDeviceToUsing 0, .onNewConnection 0 .opened] = some s₀ ∧
        T.step s₀ (.notifyDeviceAttached 0) = some s₁ ∧
        T.step s₁ (.releaseDevice 0 false) = some s₂ ∧
        T.run s₂ [.notifyDeviceReleased 0, .isDeviceUsing 1 "1-1", .tryMovingDeviceToUsing 1,
          .onNewConnection 1 .opened] = some s₃ ∧
        T.step s₃ (.notifyDeviceAttached 1) = some s₄ ∧
        s₀.stages 0 = .attaching "1-1" ∧ (∀ y, s₀.stages (y + 1) = .idle) ∧
        s₁.stages 0 = .attached "1-1" ∧
        s₃.stages 0 = .released "1-1" .clientDisconnected true ∧
        s₃.stages 1 = .attaching "1-1" ∧ (∀ y, s₃.stages (y + 2) = .idle) ∧
        s₄.events = [.deviceAttached "1-1", .deviceReleased "1-1" .clientDisconnected,
          .deviceAttached "1-1"] :=
    ⟨_, _, _, _, _, rfl, rfl, rfl, rfl, rfl, rfl, fun _ => rfl, rfl, rfl, rfl, fun _ => rfl, rfl⟩
  have hreach₀ : ReachableUnder T Orderly s₀ :=
    ReachableUnder.run _ (by simp [Orderly]) (.initial rfl) h₀
  have hattach : Orderly s₀ (.notifyDeviceAttached 0) := by
    rintro k - (_ | y) hleft
    · rw [hfirst] at hleft
      exact hleft
    · rw [hothers] at hleft
      exact hleft
  have hrelease : Orderly s₁ (.releaseDevice 0 false) := by
    intro k hk
    rw [hattached] at hk
    cases hk
  have hreach₃ : ReachableUnder T Orderly s₃ :=
    ReachableUnder.run _ (by simp [Orderly]) ((hreach₀.step hattach h₁).step hrelease h₂) h₃
  have hattach' : Orderly s₃ (.notifyDeviceAttached 1) := by
    rintro k - (_ | _ | y) hleft
    · rw [hreleased] at hleft
      exact DeviceReleaseReason.noConfusion hleft.2.2
    · rw [hsecond] at hleft
      exact hleft
    · rw [hothers'] at hleft
      exact hleft
  have hreach : ReachableUnder T Orderly s₄ := hreach₃.step hattach' h₄
  have hdevices : Distinct Prod.snd [((1 : Nat), "1-1")] := List.nodup_singleton _
  exact ⟨s₄, hreach, hevents, device_events_alternate hdevices hreach "1-1"⟩

/-- The device cannot be opened. -/
def failedOpen : List (ImportAction (Nat × String) String Nat) :=
  [.setRunning true, .isDeviceUsing 0 "1-1", .tryMovingDeviceToUsing 0,
    .onNewConnection 0 .failed, .releaseDevice 0 false, .notifyDeviceReleased 0]

/-- A second session imports the device before the first one's release is told. -/
def overtaking : List (ImportAction (Nat × String) String Nat) :=
  [.setRunning true, .isDeviceUsing 0 "1-1", .tryMovingDeviceToUsing 0,
    .onNewConnection 0 .opened, .notifyDeviceAttached 0, .releaseDevice 0 false,
    .isDeviceUsing 1 "1-1", .tryMovingDeviceToUsing 1, .onNewConnection 1 .opened,
    .notifyDeviceAttached 1, .notifyDeviceReleased 0]

/-- A device that could not be opened is released without having been attached; and one that has
been attached is attached again before it has been released. -/
theorem device_events_unpaired :
    (∃ s : ImportServer (Nat × String) String Nat,
      Reachable (ImportServer.system Prod.snd [(1, "1-1")]) s ∧
      s.events = [.deviceReleased "1-1" .clientDisconnected] ∧
      ¬ Alternates (marks "1-1" s.events)) ∧
    ∃ s : ImportServer (Nat × String) String Nat,
      Reachable (ImportServer.system Prod.snd [(1, "1-1")]) s ∧
      s.events = [.deviceAttached "1-1", .deviceAttached "1-1",
        .deviceReleased "1-1" .clientDisconnected] ∧
      ¬ Alternates (marks "1-1" s.events) := by
  refine ⟨⟨_, Reachable.run failedOpen (.initial rfl) rfl, rfl, ?_⟩,
    ⟨_, Reachable.run overtaking (.initial rfl) rfl, rfl, ?_⟩⟩
  · rw [Alternates]
    decide
  · rw [Alternates]
    decide

end Usbipdcpp.Server.DeviceEvents
