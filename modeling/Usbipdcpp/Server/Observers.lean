import Mathlib.Data.Finset.Card
import Usbipdcpp.Foundation.FilledArray
import Usbipdcpp.Foundation.TransitionSystem

namespace Usbipdcpp.Server

open Foundation.FilledArray Foundation.TransitionSystem

def maxObservers : Nat := 8

/-- The array of observers with how many of its places are in use. -/
structure ObserverList (Observer : Type) where
  observers : List (Option Observer)
  observerCount : Nat
  deriving DecidableEq, Repr

namespace ObserverList

variable {Observer : Type}

def new : ObserverList Observer := ⟨.replicate maxObservers none, 0⟩

variable [DecidableEq Observer]

/-- The first place in use with this pointer. -/
def find (list : ObserverList Observer) (observer : Option Observer) : Option Nat :=
  (list.observers.take list.observerCount).findIdx? (· = observer)

def addObserver (observer : Option Observer) (list : ObserverList Observer) :
    ObserverList Observer :=
  match observer with
  | none => list
  | some _ =>
      match list.find observer with
      | some _ => list
      | none =>
          if list.observerCount ≥ maxObservers then list
          else
            { observers := list.observers.set list.observerCount observer
              observerCount := list.observerCount + 1 }

/-- The last observer takes the place of the one that goes. -/
def removeObserver (observer : Option Observer) (list : ObserverList Observer) :
    ObserverList Observer :=
  match list.find observer with
  | none => list
  | some i =>
      let last := list.observerCount - 1
      { observers := (list.observers.set i (list.observers.getD last none)).set last none
        observerCount := last }

omit [DecidableEq Observer] in
/-- The pointers that a notification takes along. -/
def observerSnapshot (list : ObserverList Observer) : List (Option Observer) :=
  list.observers.take list.observerCount

end ObserverList

/-- A notification on its way: the event, the observers called for it, and those still to call. -/
structure Notice (Observer Event : Type) where
  event : Event
  called : List (Option Observer)
  due : List (Option Observer)
  deriving DecidableEq, Repr

/-- The observers of a server, with the notifications that its threads have begun. -/
structure ObservedServer (Observer Event : Type) where
  list : ObserverList Observer
  notices : List (Notice Observer Event)
  deriving DecidableEq, Repr

/-- What the threads of a server do: they add and remove observers, also in a callback, begin a
notification, and call the next observer of one that is on its way; the callback may throw. -/
inductive ObserverAction (Observer Event : Type) where
  | addObserver (observer : Option Observer)
  | removeObserver (observer : Option Observer)
  | notify (event : Event)
  | call (index : Nat) (throws : Bool)
  deriving DecidableEq, Repr

namespace Notice

variable {Observer Event : Type}

/-- The next callback; what it throws is caught. -/
def next (_throws : Bool) (notice : Notice Observer Event) : Option (Notice Observer Event) :=
  match notice.due with
  | [] => none
  | observer :: due => some { notice with called := notice.called ++ [observer], due }

end Notice

namespace ObservedServer

variable {Observer Event : Type} [DecidableEq Observer]

def step (s : ObservedServer Observer Event) :
    ObserverAction Observer Event → Option (ObservedServer Observer Event)
  | .addObserver observer => some { s with list := s.list.addObserver observer }
  | .removeObserver observer => some { s with list := s.list.removeObserver observer }
  | .notify event =>
      some { s with notices := s.notices ++ [⟨event, [], s.list.observerSnapshot⟩] }
  | .call index throws =>
      (s.notices[index]?.bind (Notice.next throws)).map fun notice =>
        { s with notices := s.notices.set index notice }

def system : System (ObservedServer Observer Event) (ObserverAction Observer Event) where
  initial s := s = ⟨.new, []⟩
  step := step

end ObservedServer

section Registered

variable {Observer Event : Type} [DecidableEq Observer]

/-- A set with one more observer, where there is room for it. -/
def enroll (observers : Finset Observer) (observer : Option Observer) : Finset Observer :=
  observer.elim observers fun observer =>
    if observer ∈ observers ∨ maxObservers ≤ observers.card then observers
    else insert observer observers

def dismiss (observers : Finset Observer) (observer : Option Observer) : Finset Observer :=
  observer.elim observers observers.erase

/-- The set of observers behind one more action. -/
def register (observers : Finset Observer) : ObserverAction Observer Event → Finset Observer
  | .addObserver observer => enroll observers observer
  | .removeObserver observer => dismiss observers observer
  | .notify _ | .call _ _ => observers

/-- The observers that a server has behind some actions. -/
def registered (actions : List (ObserverAction Observer Event)) : Finset Observer :=
  actions.foldl register ∅

theorem registered_concat (actions : List (ObserverAction Observer Event))
    (a : ObserverAction Observer Event) :
    registered (actions ++ [a]) = register (registered actions) a := by
  rw [registered, List.foldl_append]
  rfl

end Registered

namespace ObserverList

variable {Observer : Type} [DecidableEq Observer]

/-- The places in use hold the observers of a set, each of them once. -/
def Holds (list : ObserverList Observer) (observers : Finset Observer) : Prop :=
  ∃ items : List Observer, list = ⟨filled maxObservers items, items.length⟩ ∧
    items.Nodup ∧ items.length ≤ maxObservers ∧ items.toFinset = observers

variable {list : ObserverList Observer} {observers : Finset Observer}

theorem holds_new : Holds (new : ObserverList Observer) ∅ :=
  ⟨[], rfl, .nil, Nat.zero_le _, rfl⟩

theorem find_eq (items : List Observer) (observer : Observer) :
    find ⟨filled maxObservers items, items.length⟩ (some observer) =
      items.findIdx? (· = observer) := by
  rw [find, take_filled, List.findIdx?_map]
  refine congrArg (List.findIdx? · items) (funext fun item => ?_)
  simp

theorem find_none (items : List Observer) :
    find ⟨filled maxObservers items, items.length⟩ none = none := by
  rw [find, take_filled, List.findIdx?_map]
  exact List.findIdx?_eq_none_iff.mpr fun item _ => by simp

theorem holds_addObserver (h : Holds list observers) (observer : Option Observer) :
    Holds (list.addObserver observer) (enroll observers observer) := by
  obtain ⟨items, rfl, hnodup, hfits, rfl⟩ := h
  cases observer with
  | none => exact ⟨items, rfl, hnodup, hfits, rfl⟩
  | some observer =>
      have hcard : items.toFinset.card = items.length := List.toFinset_card_of_nodup hnodup
      unfold addObserver enroll
      rw [find_eq, Option.elim_some, hcard]
      cases hfound : items.findIdx? (· = observer) with
      | some i =>
          have hlisted : observer ∈ items := by
            obtain ⟨hi, hitem, -⟩ := List.findIdx?_eq_some_iff_getElem.mp hfound
            exact of_decide_eq_true hitem ▸ List.getElem_mem hi
          dsimp only
          rw [if_pos (.inl (List.mem_toFinset.mpr hlisted))]
          exact ⟨items, rfl, hnodup, hfits, rfl⟩
      | none =>
          have hnew : observer ∉ items := fun hlisted =>
            absurd (decide_eq_true rfl)
              (Bool.eq_false_iff.mp (List.findIdx?_eq_none_iff.mp hfound observer hlisted))
          by_cases hfull : maxObservers ≤ items.length
          · rw [if_pos (show items.length ≥ maxObservers from hfull), if_pos (.inr hfull)]
            exact ⟨items, rfl, hnodup, hfits, rfl⟩
          · have hroom : items.length < maxObservers := Nat.lt_of_not_le hfull
            rw [if_neg (show ¬ items.length ≥ maxObservers from hfull),
              if_neg (not_or_intro (mt List.mem_toFinset.mp hnew) hfull), put_filled hroom]
            have hlength : (items ++ [observer]).length = items.length + 1 := by simp
            refine ⟨items ++ [observer], by rw [hlength], ?_, hlength ▸ hroom, ?_⟩
            · exact List.nodup_append.mpr ⟨hnodup, List.nodup_singleton _, by
                rintro item hitem _ hsingle rfl
                exact hnew (List.mem_singleton.mp hsingle ▸ hitem)⟩
            · rw [List.toFinset_append, List.toFinset_cons, List.toFinset_nil, Finset.union_comm]
              rfl

theorem holds_removeObserver (h : Holds list observers) (observer : Option Observer) :
    Holds (list.removeObserver observer) (dismiss observers observer) := by
  obtain ⟨items, rfl, hnodup, hfits, rfl⟩ := h
  cases observer with
  | none =>
      rw [removeObserver, find_none]
      exact ⟨items, rfl, hnodup, hfits, rfl⟩
  | some observer =>
      unfold removeObserver dismiss
      rw [find_eq, Option.elim_some]
      cases hfound : items.findIdx? (· = observer) with
      | none =>
          have hnone : observer ∉ items := fun hlisted =>
            absurd (decide_eq_true rfl)
              (Bool.eq_false_iff.mp (List.findIdx?_eq_none_iff.mp hfound observer hlisted))
          refine ⟨items, rfl, hnodup, hfits, (Finset.erase_eq_of_notMem ?_).symm⟩
          exact fun hmem => hnone (List.mem_toFinset.mp hmem)
      | some i =>
          obtain ⟨hi, hitem, -⟩ := List.findIdx?_eq_some_iff_getElem.mp hfound
          have hsplit : items = items.take i ++ items[i] :: items.drop (i + 1) := by
            rw [List.getElem_cons_drop, List.take_append_drop]
          have hplace : (items.take i).length = i := List.length_take_of_le (Nat.le_of_lt hi)
          rw [of_decide_eq_true hitem] at hsplit
          generalize items.take i = before, items.drop (i + 1) = after at hsplit hplace
          subst hsplit hplace
          obtain ⟨hbefore, hrest, hdisjoint⟩ := List.nodup_append.mp hnodup
          obtain ⟨hafter, hrest⟩ := List.nodup_cons.mp hrest
          obtain ⟨items, hperm, hslots⟩ := remove_filled hfits
          have hlength : items.length = (before ++ observer :: after).length - 1 := by
            rw [hperm.length_eq]
            simp
          refine ⟨items, ?_, ?_, ?_, ?_⟩
          · rw [hlength, ← hslots]
          · refine hperm.nodup_iff.mpr (List.nodup_append.mpr ⟨hbefore, hrest, ?_⟩)
            exact fun a ha b hb => hdisjoint a ha b (List.mem_cons_of_mem observer hb)
          · rw [hlength]
            omega
          · refine Finset.ext fun other => ?_
            have hgone : observer ∉ before := fun hmem =>
              hdisjoint observer hmem observer List.mem_cons_self rfl
            rw [List.mem_toFinset, hperm.mem_iff, Finset.mem_erase, List.mem_toFinset]
            simp only [List.mem_append, List.mem_cons]
            constructor
            · rintro (hother | hother)
              · exact ⟨fun heq => hgone (heq ▸ hother), .inl hother⟩
              · exact ⟨fun heq => hafter (heq ▸ hother), .inr (.inr hother)⟩
            · rintro ⟨hne, hother | heq | hother⟩
              · exact .inl hother
              · exact absurd heq hne
              · exact .inr hother

end ObserverList

namespace ObservedServer

variable {Observer Event : Type} [DecidableEq Observer]

/-- The observers of a notification: those that the server had when it was begun, each once. -/
def Serves (actions : List (ObserverAction Observer Event)) (index : Nat)
    (notice : Notice Observer Event) : Prop :=
  ∃ before after, actions = before ++ .notify notice.event :: after ∧
    before.countP (fun a => a matches .notify _) = index ∧
    ∃ items : List Observer, notice.called ++ notice.due = items.map some ∧ items.Nodup ∧
      items.toFinset = registered before

/-- What the places and the notifications hold behind some actions. -/
structure Told (actions : List (ObserverAction Observer Event))
    (s : ObservedServer Observer Event) : Prop where
  list : s.list.Holds (registered actions)
  count : s.notices.length = actions.countP fun a => a matches .notify _
  notices : ∀ index notice, s.notices[index]? = some notice → Serves actions index notice

variable {actions : List (ObserverAction Observer Event)} {s t : ObservedServer Observer Event}
  {a : ObserverAction Observer Event}

theorem Serves.concat {index : Nat} {notice : Notice Observer Event}
    (h : Serves actions index notice) (a : ObserverAction Observer Event) :
    Serves (actions ++ [a]) index notice := by
  obtain ⟨before, after, rfl, hcount, hitems⟩ := h
  exact ⟨before, after ++ [a], by simp, hcount, hitems⟩

theorem told_new : Told ([] : List (ObserverAction Observer Event)) ⟨.new, []⟩ where
  list := ObserverList.holds_new
  count := rfl
  notices _ _ h := absurd h (by simp)

theorem told_step (h : Told actions s) (hstep : s.step a = some t) : Told (actions ++ [a]) t := by
  cases a with
  | addObserver observer =>
      obtain rfl := Option.some.inj hstep
      refine ⟨?_, by simpa using h.count, fun i notice hi => (h.notices i notice hi).concat _⟩
      rw [registered_concat]
      exact ObserverList.holds_addObserver h.list observer
  | removeObserver observer =>
      obtain rfl := Option.some.inj hstep
      refine ⟨?_, by simpa using h.count, fun i notice hi => (h.notices i notice hi).concat _⟩
      rw [registered_concat]
      exact ObserverList.holds_removeObserver h.list observer
  | notify event =>
      obtain rfl := Option.some.inj hstep
      refine ⟨?_, by simp [h.count], fun i notice hi => ?_⟩
      · rw [registered_concat]
        exact h.list
      · rcases Nat.lt_trichotomy i s.notices.length with hold | rfl | hbeyond
        · rw [List.getElem?_append_left hold] at hi
          exact (h.notices i notice hi).concat _
        · rw [List.getElem?_concat_length] at hi
          obtain rfl := Option.some.inj hi
          obtain ⟨items, hlist, hnodup, -, hset⟩ := h.list
          refine ⟨actions, [], rfl, h.count.symm, items, ?_, hnodup, hset⟩
          rw [hlist]
          exact take_filled items
        · rw [List.getElem?_eq_none (by simp; omega)] at hi
          cases hi
  | call index throws =>
      obtain ⟨notice, hnext, rfl⟩ := Option.map_eq_some_iff.mp hstep
      obtain ⟨old, hold, hnext⟩ := Option.bind_eq_some_iff.mp hnext
      refine ⟨?_, by simpa using h.count, fun i other hi => ?_⟩
      · rw [registered_concat]
        exact h.list
      · rw [List.getElem?_set] at hi
        split at hi
        next heq =>
          subst heq
          split at hi
          · obtain rfl := Option.some.inj hi
            obtain ⟨before, after, hactions, hcount, items, hitems, hrest⟩ :=
              h.notices _ old hold
            unfold Notice.next at hnext
            split at hnext
            · cases hnext
            next observer due hdue =>
              obtain rfl := Option.some.inj hnext
              have hbehind : actions ++ [.call index throws] =
                  before ++ .notify old.event :: (after ++ [.call index throws]) := by
                rw [hactions]
                simp
              refine ⟨before, _, hbehind, hcount, items, ?_, hrest⟩
              rw [← hitems, hdue]
              simp
          · cases hi
        next => exact (h.notices i other hi).concat _

/-- In every run of the threads, whatever observers come and go meanwhile and whichever callbacks
throw, a notification calls each observer that the server had when it was begun at most once and no
other, and all of them once it has none left to call; and the server has the observers that a set
for eight of them would have. -/
theorem observers_notified (hrun : system.run ⟨.new, []⟩ actions = some s) :
    s.list.Holds (registered actions) ∧
    ∀ index notice, s.notices[index]? = some notice →
      ∃ before after, actions = before ++ .notify notice.event :: after ∧
        before.countP (fun a => a matches .notify _) = index ∧
        notice.called.Nodup ∧
        (∀ observer, observer ∈ notice.called →
          ∃ o ∈ registered before, observer = some o) ∧
        (notice.due = [] → ∀ o ∈ registered before, some o ∈ notice.called) := by
  have htold : Told actions s :=
    System.run_invariant told_new (fun _ _ _ _ h hstep => told_step h hstep) hrun
  refine ⟨htold.list, fun index notice hnotice => ?_⟩
  obtain ⟨before, after, hactions, hcount, items, hitems, hnodup, hset⟩ :=
    htold.notices index notice hnotice
  have hall : (notice.called ++ notice.due).Nodup :=
    hitems ▸ hnodup.map (Option.some_injective Observer)
  refine ⟨before, after, hactions, hcount, (List.nodup_append.mp hall).1, ?_, ?_⟩
  · intro observer hcalled
    obtain ⟨o, ho, rfl⟩ := List.mem_map.mp (hitems ▸ List.mem_append_left _ hcalled)
    exact ⟨o, hset ▸ List.mem_toFinset.mpr ho, rfl⟩
  · intro hdone o ho
    rw [hdone, List.append_nil] at hitems
    rw [hitems]
    exact List.mem_map_of_mem (List.mem_toFinset.mp (hset ▸ ho))

/-- The first of two observers takes itself out when it is called. -/
theorem observers_notified_instance :
    let actions : List (ObserverAction Nat String) :=
      [.addObserver (some 1), .addObserver (some 2), .addObserver (some 1), .notify "1-1",
        .call 0 true, .removeObserver (some 1), .call 0 false]
    ∃ s, system.run ⟨.new, []⟩ actions = some s ∧ s.list.Holds {2} := by
  intro actions
  obtain ⟨s, hrun⟩ : ∃ s, system.run ⟨.new, []⟩ actions = some s := ⟨_, rfl⟩
  exact ⟨s, hrun, (observers_notified hrun).1⟩

end ObservedServer

end Usbipdcpp.Server
