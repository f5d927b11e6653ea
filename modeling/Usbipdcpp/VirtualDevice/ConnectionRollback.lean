import Usbipdcpp.Foundation.Acquisition
import Usbipdcpp.VirtualDevice.AlternateSettings
import Usbipdcpp.VirtualDevice.SchedulerRun

namespace Usbipdcpp.VirtualDevice

open Foundation.Acquisition

/-- A call of the hooks of the interface handler at a place. -/
inductive HandlerCall where
  | onNewConnection (place : Nat)
  | onDisconnection (place : Nat)
  deriving DecidableEq, Repr

def HandlerCall.place : HandlerCall → Nat
  | .onNewConnection place | .onDisconnection place => place

/-- The part of a virtual device that connections set up.  The scheduler's thread runs in a device
that uses the scheduler only. -/
structure VirtualConnection (Session : Type) where
  usesTransferScheduler : Bool
  scheduler : Phase
  responder : Option Session
  scheduler_unused : usesTransferScheduler = false → scheduler = .stopped

namespace VirtualConnection

variable {Session Handler ε : Type}

def start (s : VirtualConnection Session) (h : s.usesTransferScheduler = true) :
    VirtualConnection Session :=
  { s with
    scheduler := .running
    scheduler_unused := fun hunused => by rw [h] at hunused; cases hunused }

def stop (s : VirtualConnection Session) : VirtualConnection Session :=
  { s with scheduler := .stopped, scheduler_unused := fun _ => rfl }

def registerResponder (session : Session) (s : VirtualConnection Session) :
    VirtualConnection Session :=
  { s with responder := some session }

def removeResponder (s : VirtualConnection Session) : VirtualConnection Session :=
  { s with responder := none }

/-- The loop over the interfaces before the one that has failed. -/
def rollback (interfaces : List (Option Handler)) (failed : Nat) : List HandlerCall :=
  (interfaces.zipIdx.takeWhile fun (_, i) => i != failed).flatMap fun (handler, i) =>
    if handler.isSome then [.onDisconnection i] else []

/-- A handler, if there is one, is called, and may report an error. -/
def connectInterface (answers : Nat → Option ε) (i : Nat) (handler : Option Handler) :
    List HandlerCall × Option ε :=
  if handler.isSome then ([.onNewConnection i], answers i) else ([], none)

/-- `VirtualDeviceHandler::on_new_connection`, with the calls it makes of the interface handlers
and the error it returns; `answers` has the errors that the handlers report. -/
def onNewConnection (interfaces : List (Option Handler)) (answers : Nat → Option ε)
    (session : Session) (s : VirtualConnection Session) :
    VirtualConnection Session × List HandlerCall × Option ε :=
  let s := s.registerResponder session
  let s := if h : s.usesTransferScheduler = true then s.start h else s
  match acquire (connectInterface answers) (rollback interfaces) 0 interfaces with
  | (calls, none) => (s, calls, none)
  | (calls, some (_, error)) =>
      let s := if s.usesTransferScheduler then s.stop else s
      (s.removeResponder, calls, some error)

/-- The calls of the handler at a place, in order. -/
def callsOf (place : Nat) (calls : List HandlerCall) : List HandlerCall :=
  calls.filter fun call => call.place = place

/-- A connection that the handler at a place has failed: nothing of it is left. -/
structure RolledBack (interfaces : List (Option Handler)) (failed : Nat) (error : ε)
    (outcome : VirtualConnection Session × List HandlerCall × Option ε) : Prop where
  ec : outcome.2.2 = some error
  before : ∀ place < failed, ∀ handler, interfaces[place]? = some (some handler) →
    callsOf place outcome.2.1 = [.onNewConnection place, .onDisconnection place]
  failing : callsOf failed outcome.2.1 = [.onNewConnection failed]
  after : ∀ place, failed < place → callsOf place outcome.2.1 = []
  withoutHandler : ∀ place, interfaces[place]? = some none → callsOf place outcome.2.1 = []
  scheduler : outcome.1.scheduler = .stopped
  responder : outcome.1.responder = none

section Calls

variable {interfaces : List (Option Handler)} {answers : Nat → Option ε} {place failed : Nat}

def hasHandler (interfaces : List (Option Handler)) (place : Nat) : Bool :=
  ((interfaces[place]?).bind id).isSome

/-- One call of each handler in a list of interfaces. -/
def callsFrom (call : Nat → HandlerCall) (i : Nat) (interfaces : List (Option Handler)) :
    List HandlerCall :=
  (interfaces.zipIdx i).flatMap fun (handler, j) => if handler.isSome then [call j] else []

theorem attempted_connectInterface (i : Nat) :
    attempted (connectInterface answers) i interfaces =
      callsFrom .onNewConnection i interfaces := by
  refine List.flatMap_congr fun ⟨handler, j⟩ _ => ?_
  cases handler <;> rfl

theorem rollback_eq (before after : List (Option Handler)) :
    rollback (before ++ after) before.length = callsFrom .onDisconnection 0 before := by
  have hbefore : ∀ p ∈ before.zipIdx, (p.2 != before.length) = true := by
    rintro ⟨handler, i⟩ hmem
    have hlt : i < before.length :=
      (List.getElem?_eq_some_iff.mp (List.mem_zipIdx_iff_getElem?.mp hmem)).1
    exact bne_iff_ne.mpr hlt.ne
  have hafter : (after.zipIdx before.length).takeWhile (fun p => p.2 != before.length) = [] := by
    cases after with
    | nil => rfl
    | cons handler after => simp
  have htake : (before ++ after).zipIdx.takeWhile (fun p => p.2 != before.length) =
      before.zipIdx := by
    rw [List.zipIdx_append, Nat.zero_add, List.takeWhile_append_of_pos hbefore, hafter,
      List.append_nil]
  rw [rollback, callsFrom, htake]

/-- The handler at a place is called if it is there. -/
theorem callsOf_callsFrom {call : Nat → HandlerCall} (hcall : ∀ j, (call j).place = j) (i : Nat) :
    callsOf place (callsFrom call i interfaces) =
      if i ≤ place ∧ hasHandler interfaces (place - i) = true then [call place] else [] := by
  induction interfaces generalizing i with
  | nil => simp [callsFrom, callsOf, hasHandler]
  | cons handler interfaces ih =>
      have hsplit : callsFrom call i (handler :: interfaces) =
          (if handler.isSome then [call i] else []) ++ callsFrom call (i + 1) interfaces := by
        rw [callsFrom, List.zipIdx_cons, List.flatMap_cons]
        rfl
      rw [hsplit, callsOf, List.filter_append, ← callsOf, ← callsOf, ih]
      by_cases hplace : place = i
      · subst hplace
        cases handler with
        | none => simp [callsOf, hasHandler]
        | some handler => simp [callsOf, hcall, hasHandler]
      · have hfirst : callsOf place (if handler.isSome then [call i] else []) = [] := by
          cases handler with
          | none => rfl
          | some handler => simp [callsOf, hcall, Ne.symm hplace]
        rw [hfirst, List.nil_append]
        by_cases hle : i + 1 ≤ place
        · have hnext : place - i = place - (i + 1) + 1 := by omega
          rw [hnext]
          simp only [hasHandler, List.getElem?_cons_succ, hle, Nat.le_of_succ_le hle, true_and]
        · have hlt : ¬i ≤ place := by omega
          rw [if_neg fun h => hle h.1, if_neg fun h => hlt h.1]

end Calls

section Failure

variable {interfaces : List (Option Handler)} {answers : Nat → Option ε} {failed : Nat}
  {handler : Handler} {error : ε}

/-- The calls of a connection that fails: those to the handlers up to the one that does, and those
that disconnect the ones before it. -/
theorem acquire_of_failure (hfailed : interfaces[failed]? = some (some handler))
    (herror : answers failed = some error)
    (hbefore : ∀ place < failed, ∀ handler, interfaces[place]? = some (some handler) →
      answers place = none) :
    acquire (connectInterface answers) (rollback interfaces) 0 interfaces =
      (callsFrom .onNewConnection 0 (interfaces.take failed) ++ [.onNewConnection failed] ++
        callsFrom .onDisconnection 0 (interfaces.take failed), some (failed, error)) := by
  obtain ⟨hlt, hget⟩ := List.getElem?_eq_some_iff.mp hfailed
  have hlength : (interfaces.take failed).length = failed := List.length_take_of_le hlt.le
  have hsplit : interfaces.take failed ++ some handler :: interfaces.drop (failed + 1) =
      interfaces := by
    rw [← hget, ← List.drop_eq_getElem_cons hlt, List.take_append_drop]
  have hundo := rollback_eq (interfaces.take failed) (some handler :: interfaces.drop (failed + 1))
  rw [hsplit, hlength] at hundo
  have hsucceeded : ∀ place intf, (interfaces.take failed)[place]? = some intf →
      (connectInterface answers (0 + place) intf).2 = none := by
    intro place intf hintf
    have hplace : place < failed := hlength ▸ (List.getElem?_eq_some_iff.mp hintf).1
    rw [List.getElem?_take_of_lt hplace] at hintf
    cases intf with
    | none => rfl
    | some handler => simpa [connectInterface] using hbefore place hplace handler hintf
  have hlast : (connectInterface answers (0 + (interfaces.take failed).length)
      (some handler)).2 = some error := by
    rw [hlength, Nat.zero_add]
    exact herror
  conv_lhs => rw [← hsplit]
  rw [acquire_of_failed hsucceeded hlast, hsplit, hlength, Nat.zero_add,
    attempted_connectInterface, hundo]
  rfl

theorem callsOf_failure (place : Nat) :
    callsOf place
        (callsFrom .onNewConnection 0 (interfaces.take failed) ++ [.onNewConnection failed] ++
          callsFrom .onDisconnection 0 (interfaces.take failed)) =
      if hasHandler (interfaces.take failed) place then
        [.onNewConnection place, .onDisconnection place]
      else if place = failed then [.onNewConnection failed] else [] := by
  have hcallsOf {call : Nat → HandlerCall} (hcall : ∀ j, (call j).place = j) :
      callsOf place (callsFrom call 0 (interfaces.take failed)) =
        if hasHandler (interfaces.take failed) place then [call place] else [] := by
    rw [callsOf_callsFrom hcall 0, Nat.sub_zero]
    simp only [Nat.zero_le, true_and]
  have happend (calls calls' : List HandlerCall) :
      callsOf place (calls ++ calls') = callsOf place calls ++ callsOf place calls' :=
    List.filter_append ..
  rw [happend, happend, hcallsOf fun _ => rfl, hcallsOf fun _ => rfl]
  by_cases hthere : hasHandler (interfaces.take failed) place = true
  · have hlt : place < failed := by
      by_contra hge
      have hnone : (interfaces.take failed)[place]? = none :=
        List.getElem?_eq_none ((List.length_take_le _ _).trans (Nat.le_of_not_lt hge))
      rw [hasHandler, hnone] at hthere
      cases hthere
    simp [hthere, callsOf, HandlerCall.place, hlt.ne']
  · by_cases hplace : place = failed
    · subst hplace
      simp [hthere, callsOf, HandlerCall.place]
    · simp [hthere, callsOf, HandlerCall.place, hplace, Ne.symm hplace]

/-- Whichever handler fails, the connection is rolled back. -/
theorem rolledBack (hfailed : interfaces[failed]? = some (some handler))
    (herror : answers failed = some error)
    (hbefore : ∀ place < failed, ∀ handler, interfaces[place]? = some (some handler) →
      answers place = none) (session : Session) (s : VirtualConnection Session) :
    RolledBack interfaces failed error (onNewConnection interfaces answers session s) := by
  have hcalls : (onNewConnection interfaces answers session s).2.1 =
      callsFrom .onNewConnection 0 (interfaces.take failed) ++ [.onNewConnection failed] ++
        callsFrom .onDisconnection 0 (interfaces.take failed) := by
    rw [onNewConnection, acquire_of_failure hfailed herror hbefore]
  have hnone {place : Nat} (h : failed ≤ place) : (interfaces.take failed)[place]? = none :=
    List.getElem?_eq_none ((List.length_take_le _ _).trans h)
  refine ⟨?_, fun place hlt handler hhandler => ?_, ?_, fun place hlt => ?_,
    fun place hplace => ?_, ?_, ?_⟩
  · rw [onNewConnection, acquire_of_failure hfailed herror hbefore]
  · rw [hcalls, callsOf_failure, hasHandler, List.getElem?_take_of_lt hlt, hhandler]
    rfl
  · rw [hcalls, callsOf_failure, hasHandler, hnone le_rfl]
    simp
  · rw [hcalls, callsOf_failure, hasHandler, hnone hlt.le]
    simp [hlt.ne']
  · rw [hcalls, callsOf_failure, hasHandler]
    have hne : place ≠ failed := by
      rintro rfl
      rw [hplace] at hfailed
      cases hfailed
    rcases Nat.lt_or_ge place failed with hlt | hge
    · rw [List.getElem?_take_of_lt hlt, hplace]
      simp [hne]
    · rw [hnone hge]
      simp [hne]
  · rw [onNewConnection, acquire_of_failure hfailed herror hbefore]
    by_cases huses : s.usesTransferScheduler = true
    · simp [huses, registerResponder, start, stop, removeResponder]
    · simp [huses, registerResponder, removeResponder,
        s.scheduler_unused (Bool.eq_false_iff.mpr huses)]
  · rw [onNewConnection, acquire_of_failure hfailed herror hbefore]
    rfl

def thirdFails (place : Nat) : Option Unit := if place = 2 then some () else none

/-- A device of four interfaces, the second of which has no handler, whose third one fails. -/
theorem rolledBack_third :
    RolledBack [some (), none, some (), some ()] 2 ()
      (onNewConnection [some (), none, some (), some ()] thirdFails ()
        ⟨true, .stopped, none, fun h => by cases h⟩) := by
  have hbefore : ∀ place < 2, ∀ handler, [some (), none, some (), some ()][place]? =
      some (some handler) → thirdFails place = none :=
    fun place hlt _ _ => if_neg hlt.ne
  have herror : thirdFails 2 = some () := rfl
  exact rolledBack rfl herror hbefore () _

end Failure

end VirtualConnection

/-- What a hook does to the streaming state of a handler. -/
def HandlerCall.onHandler : HandlerCall → AltHandler → AltHandler
  | .onNewConnection _ => AltHandler.onNewConnection
  | .onDisconnection _ => AltHandler.onDisconnection

open VirtualConnection in
/-- The calls leave the handlers as the device with a failing handler is left. -/
theorem UsbDevice.onNewConnection_of_rolledBack {Session ε : Type} {device : UsbDevice AltHandler}
    {failed : Nat} {error : ε} {outcome : VirtualConnection Session × List HandlerCall × Option ε}
    (h : RolledBack (device.interfaces.map fun intf => intf.handler) failed error outcome) :
    device.onNewConnection (some failed) =
      { device with
        interfaces := device.interfaces.mapIdx fun i intf =>
          (callsOf i outcome.2.1).foldl (fun intf call => intf.mapHandler call.onHandler)
            intf } := by
  have hcalls (i : Nat) (intf : UsbInterface AltHandler) (hintf : device.interfaces[i]? = some intf)
      (handler : Option AltHandler) (hhandler : intf.handler = handler) :
      (device.interfaces.map fun intf => intf.handler)[i]? = some handler := by
    rw [List.getElem?_map, hintf, Option.map_some, hhandler]
  rw [UsbDevice.onNewConnection]
  congr 1
  apply List.ext_getElem?
  intro i
  rw [List.getElem?_mapIdx, List.getElem?_mapIdx]
  cases hintf : device.interfaces[i]? with
  | none => rfl
  | some intf =>
      rw [Option.map_some, Option.map_some]
      dsimp only
      cases hhandler : intf.handler with
      | none =>
          have hkept (f : AltHandler → AltHandler) : intf.mapHandler f = intf := by
            rw [UsbInterface.mapHandler, hhandler, Option.map_none, ← hhandler]
          rw [h.withoutHandler i (hcalls i intf hintf none hhandler), List.foldl_nil, hkept, hkept]
          split
          next => rfl
          next => split <;> rfl
      | some handler =>
          rcases Nat.lt_trichotomy i failed with hlt | rfl | hgt
          · rw [if_pos hlt, h.before i hlt handler (hcalls i intf hintf _ hhandler)]
            rfl
          · rw [if_neg (Nat.lt_irrefl _), if_pos rfl, h.failing]
            rfl
          · rw [if_neg hgt.not_gt, if_neg hgt.ne', h.after i hgt]
            rfl

end Usbipdcpp.VirtualDevice
