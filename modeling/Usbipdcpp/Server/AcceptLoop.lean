import Mathlib.Logic.Function.Basic
import Usbipdcpp.Foundation.TransitionSystem

namespace Usbipdcpp.Server.AcceptLoop

open Foundation.TransitionSystem

/-- Where `accept_loop` is with the session of the current round. -/
inductive AcceptStage where
  | created
  | accepting
  | accepted
  | registered
  | starting
  | started
  | failed
  | removing
  deriving DecidableEq, Repr

/-- `accept_loop`: not running, before the first check of a round, or at a stage of one. -/
inductive AcceptPc where
  | idle
  | looping
  | serving (id : Nat) (stage : AcceptStage)
  deriving DecidableEq, Repr

/-- The main thread of a session: there is none yet, it is in `parse_op`, it has removed the
session and is about to tell, or it has returned. -/
inductive SessionThread where
  | none
  | parsing
  | notifying
  | returned
  deriving DecidableEq, Repr

/-- How far `stop` has come. -/
inductive StopPc where
  | idle
  | joining
  | stopping
  | waiting
  | clearing
  deriving DecidableEq, Repr

/-- What the observers are told. -/
inductive SessionEvent where
  | sessionStarted (id : Nat)
  | sessionEnded (id : Nat)
  deriving DecidableEq, Repr

def SessionEvent.id : SessionEvent → Nat
  | sessionStarted id => id
  | sessionEnded id => id

/-- The members of `Server` that its sessions concern.  `alive` are the sessions that
`active_sessions` counts, and `conns` those that `stop` holds.  The last two are a record of the
sessions whose `run` has thrown and of the calls of the observers, in the order in which they are
issued. -/
structure ServerState where
  running : Bool
  nextSessionId : Nat
  sessions : List Nat
  alive : List Nat
  accept : AcceptPc
  threads : Nat → SessionThread
  stopping : StopPc
  conns : List Nat
  failed : List Nat
  events : List SessionEvent

/-- The result of an asynchronous accept. -/
inductive AcceptResult where
  | connected
  | transientError
  | fatalError
  deriving DecidableEq, Repr

/-- What the threads do between two points at which they may be overtaken.  A connection is
discarded where its endpoint is gone, the filter rejects it, or the table has no memory for it;
`run` throws where a callback does or no thread is to be had. -/
inductive SessionAction where
  | start
  | createSession
  | checkRunning
  | acceptConnection (result : AcceptResult)
  | discard
  | register
  | notifySessionStarted
  | createThread (created : Bool)
  | afterThreadCreate (returns : Bool)
  | removeFailed
  | notifyFailedEnded
  | removeSession (id : Nat)
  | notifySessionEnded (id : Nat)
  | sessionDestroyed (id : Nat)
  | stop
  | snapshot
  | stopSessions
  | waitSessions
  | clearSessions
  deriving DecidableEq, Repr

/-- The stage that the accept loop is at with a session. -/
def AcceptPc.stageOf (id : Nat) : AcceptPc → Option AcceptStage
  | serving id' stage => if id' = id then some stage else none
  | _ => none

namespace ServerState

def create : ServerState where
  running := false
  nextSessionId := 1
  sessions := []
  alive := []
  accept := .idle
  threads := fun _ => .none
  stopping := .idle
  conns := []
  failed := []
  events := []

/-- A session has an owner: the round of the accept loop, its thread, or `stop`. -/
def Held (s : ServerState) (id : Nat) : Prop :=
  s.accept.stageOf id ≠ none ∨ s.threads id = .parsing ∨ s.threads id = .notifying ∨
    id ∈ s.conns

instance (s : ServerState) (id : Nat) : Decidable (s.Held id) :=
  inferInstanceAs (Decidable (_ ∨ _ ∨ _ ∨ _))

/-- The network thread gets no further: `accept_loop` has ended, waits for a connection, or has
not begun. -/
def Parked : AcceptPc → Prop
  | .serving _ stage => stage = .accepting
  | _ => True

instance : DecidablePred Parked
  | .serving _ stage => inferInstanceAs (Decidable (stage = .accepting))
  | .idle => isTrue trivial
  | .looping => isTrue trivial

def atStage (s : ServerState) (stage : AcceptStage) (f : Nat → ServerState) :
    Option ServerState :=
  match s.accept with
  | .serving id stage' => if stage' = stage then some (f id) else none
  | _ => none

/-- The beginning of a round, unless the server is to stop. -/
def createSession (s : ServerState) : ServerState :=
  if s.running then
    { s with
      nextSessionId := s.nextSessionId + 1
      alive := s.nextSessionId :: s.alive
      accept := .serving s.nextSessionId .created }
  else { s with accept := .idle }

/-- What `accept_loop` does after the connection, or the error, has come. -/
def afterAccept (id : Nat) (s : ServerState) : AcceptResult → ServerState
  | .connected =>
      { s with accept := if s.running then .serving id .accepted else .idle }
  | .transientError => { s with accept := .looping }
  | .fatalError => { s with accept := .idle }

/-- The critical section of `remove_session`, and whether there is something to tell after it. -/
def removeSession (id : Nat) (s : ServerState) : Bool × ServerState :=
  if id ∈ s.sessions then (true, { s with sessions := s.sessions.filter (· ≠ id) })
  else (false, s)

def step (s : ServerState) : SessionAction → Option ServerState
  | .start =>
      if s.running = false ∧ s.accept = .idle ∧ s.stopping = .idle then
        some { s with running := true, accept := .looping }
      else none
  | .createSession => if s.accept = .looping then some s.createSession else none
  | .checkRunning => s.atStage .created fun id =>
      { s with accept := if s.running then .serving id .accepting else .idle }
  | .acceptConnection result => s.atStage .accepting fun id => s.afterAccept id result
  | .discard => s.atStage .accepted fun _ => { s with accept := .looping }
  | .register => s.atStage .accepted fun id =>
      { s with sessions := id :: s.sessions, accept := .serving id .registered }
  | .notifySessionStarted => s.atStage .registered fun id =>
      { s with events := s.events ++ [.sessionStarted id], accept := .serving id .starting }
  | .createThread created => s.atStage .starting fun id =>
      if created then
        { s with
          threads := Function.update s.threads id .parsing
          accept := .serving id .started }
      else { s with failed := id :: s.failed, accept := .serving id .failed }
  | .afterThreadCreate returns => s.atStage .started fun id =>
      if returns then { s with accept := .looping }
      else { s with failed := id :: s.failed, accept := .serving id .failed }
  | .removeFailed => s.atStage .failed fun id =>
      match s.removeSession id with
      | (true, s) => { s with accept := .serving id .removing }
      | (false, s) => { s with accept := .looping }
  | .notifyFailedEnded => s.atStage .removing fun id =>
      { s with events := s.events ++ [.sessionEnded id], accept := .looping }
  | .removeSession id =>
      if s.threads id = .parsing then
        match s.removeSession id with
        | (true, s) => some { s with threads := Function.update s.threads id .notifying }
        | (false, s) => some { s with threads := Function.update s.threads id .returned }
      else none
  | .notifySessionEnded id =>
      if s.threads id = .notifying then
        some { s with
          events := s.events ++ [.sessionEnded id]
          threads := Function.update s.threads id .returned }
      else none
  | .sessionDestroyed id =>
      if id ∈ s.alive ∧ ¬ s.Held id then some { s with alive := s.alive.filter (· ≠ id) }
      else none
  | .stop =>
      if s.stopping = .idle ∧ s.running = true then
        some { s with running := false, stopping := .joining }
      else none
  | .snapshot =>
      if s.stopping = .joining ∧ Parked s.accept then
        some { s with conns := s.sessions.filter (s.Held ·), stopping := .stopping }
      else none
  | .stopSessions =>
      if s.stopping = .stopping then some { s with conns := [], stopping := .waiting } else none
  | .waitSessions =>
      if s.stopping = .waiting ∧ s.alive = [] then some { s with stopping := .clearing } else none
  | .clearSessions =>
      if s.stopping = .clearing then some { s with sessions := [], stopping := .idle } else none

def system : System ServerState SessionAction where
  initial s := s = create
  step := step

end ServerState

end Usbipdcpp.Server.AcceptLoop
