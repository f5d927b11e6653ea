import Mathlib.Data.List.Count

namespace Usbipdcpp.Session.ImportLifecycle

/-- How a call into a device handler ends. -/
inductive CallOutcome where
  | succeeded
  | failed
  | threw
  deriving DecidableEq, Repr

/-- The status of the reply to an import request. -/
inductive ImportReply where
  | ok
  | na
  | noDev
  deriving DecidableEq, Repr

/-- The calls of a session that others can observe. -/
inductive Call (Busid : Type) where
  | onNewConnection
  | onDisconnection
  | releaseDevice (busid : Option Busid)
  | reply (status : ImportReply)
  | createSender
  | receiveUrb
  | handleUnlinkSeqnum
  | joinSender
  | closeSocket
  deriving DecidableEq, Repr

/-- How a function of the session thread is left. -/
inductive Completion where
  | returned
  | threw
  deriving DecidableEq, Repr

/-- What one pass of the receiver's loop reads from the socket and what the handler makes of
it.  A submit on an endpoint the device does not have is dropped. -/
inductive Command where
  | readFailed
  | readThrew
  | submit (receiveUrb : CallOutcome)
  | submitUnknownEp
  | unlink (threw : Bool)
  | unknown
  deriving DecidableEq, Repr

/-- One pass of the receiver's loop: whether another thread's stop is seen at the loop test
and after the read, and the command read in between. -/
structure Pass where
  stopAtTest : Bool
  command : Command
  stopAfterRead : Bool
  deriving DecidableEq, Repr

/-- What looking up the requested device yields. -/
inductive ImportLookup where
  | inUse
  | notFound
  | moved
  deriving DecidableEq, Repr

/-- Everything the session thread does not decide itself while it serves an import request. -/
structure Script where
  lookup : ImportLookup
  onNewConnection : CallOutcome
  replyWritten : Bool
  senderCreated : Bool
  passes : List Pass
  senderEnds : Bool
  deriving DecidableEq, Repr

/-- The members of a session that `parse_op` works on, with the calls made so far. -/
structure ImportState (Busid : Type) where
  currentImportDeviceId : Option Busid
  cmdTransferring : Bool
  shouldImmediatelyStop : Bool
  calls : List (Call Busid)
  deriving DecidableEq, Repr

variable {Busid : Type}

def ImportState.initial : ImportState Busid where
  currentImportDeviceId := none
  cmdTransferring := false
  shouldImmediatelyStop := false
  calls := []

def ImportState.call (s : ImportState Busid) (call : Call Busid) : ImportState Busid :=
  { s with calls := s.calls ++ [call] }

/-- `server.release_device(*current_import_device_id)` with the resets that follow it. -/
def ImportState.releaseDevice (s : ImportState Busid) : ImportState Busid :=
  { s.call (.releaseDevice s.currentImportDeviceId) with currentImportDeviceId := none }

/-- The end of `receiver`, which `transfer_loop` repeats when `receiver` throws. -/
def ImportState.disconnect (s : ImportState Busid) : ImportState Busid :=
  { s.call .onDisconnection with shouldImmediatelyStop := true }.releaseDevice

/-- The loop of `receiver` with the clean-up after it; `none` while the loop still runs when
its passes are used up. -/
def receiver : List Pass → ImportState Busid → Option (Completion × ImportState Busid)
  | [], _ => none
  | pass :: passes, s =>
      if s.shouldImmediatelyStop || pass.stopAtTest then some (.returned, s.disconnect)
      else
        match pass.command with
        | .readFailed => some (.returned, s.disconnect)
        | .readThrew => some (.threw, s)
        | .submit outcome =>
            if pass.stopAfterRead then some (.returned, s.disconnect)
            else
              match outcome with
              | .succeeded => receiver passes (s.call .receiveUrb)
              | .failed =>
                  -- the flag is set, so the loop test that follows ends the loop
                  some (.returned,
                    { s.call .receiveUrb with shouldImmediatelyStop := true }.disconnect)
              | .threw => some (.threw, s.call .receiveUrb)
        | .unlink threw =>
            if pass.stopAfterRead then some (.returned, s.disconnect)
            else if threw then some (.threw, s.call .handleUnlinkSeqnum)
            else receiver passes (s.call .handleUnlinkSeqnum)
        | .submitUnknownEp | .unknown =>
            if pass.stopAfterRead then some (.returned, s.disconnect)
            else receiver passes s

/-- The state after `receiver` has returned, or after `transfer_loop` has caught what it threw
and made up for the clean-up it skipped. -/
def afterReceiver : Completion × ImportState Busid → ImportState Busid
  | (.returned, s) => s
  | (.threw, s) => s.disconnect

def transferLoop (script : Script) (s : ImportState Busid) :
    Option (Completion × ImportState Busid) :=
  if script.senderCreated then
    match receiver script.passes (s.call .createSender) with
    | none => none
    | some result =>
        if script.senderEnds then
          some (.returned,
            { (afterReceiver result).call .joinSender with cmdTransferring := false })
        else none
  else some (.threw, ((s.call .createSender).call .onDisconnection).releaseDevice)

/-- `parse_op` from the import request on. -/
def parseOp (script : Script) (wantedBusid : Busid) (s : ImportState Busid) :
    Option (Completion × ImportState Busid) :=
  match script.lookup with
  | .inUse => some (.returned, (s.call (.reply .na)).call .closeSocket)
  | .notFound => some (.returned, (s.call (.reply .noDev)).call .closeSocket)
  | .moved =>
      let s := { s with currentImportDeviceId := some wantedBusid }.call .onNewConnection
      match script.onNewConnection with
      | .threw => some (.threw, s)
      | .failed =>
          some (.returned, (s.releaseDevice.call (.reply .na)).call .closeSocket)
      | .succeeded =>
          let s := { s with cmdTransferring := true }.call (.reply .ok)
          if script.replyWritten then
            match transferLoop script s with
            | none => none
            | some (.returned, s) => some (.returned, s.call .closeSocket)
            | some (.threw, s) => some (.threw, s)
          else
            some (.returned, ((s.call .onDisconnection).releaseDevice).call .closeSocket)

/-- The thread of `run`, which swallows whatever leaves `parse_op`. -/
def run (script : Script) (wantedBusid : Busid) : Option (ImportState Busid) :=
  (parseOp script wantedBusid .initial).map Prod.snd

/-- The calls that give up what the session holds. -/
def Call.isCleanUp : Call Busid → Bool
  | .onDisconnection | .releaseDevice _ => true
  | _ => false

def ImportState.cleanUps (s : ImportState Busid) : List (Call Busid) :=
  s.calls.filter Call.isCleanUp

@[simp] theorem call_currentImportDeviceId (s : ImportState Busid) (call : Call Busid) :
    (s.call call).currentImportDeviceId = s.currentImportDeviceId := rfl

@[simp] theorem cleanUps_call (s : ImportState Busid) (call : Call Busid) :
    (s.call call).cleanUps = s.cleanUps ++ [call].filter Call.isCleanUp := by
  simp [ImportState.cleanUps, ImportState.call]

@[simp] theorem cleanUps_releaseDevice (s : ImportState Busid) :
    s.releaseDevice.cleanUps = s.cleanUps ++ [.releaseDevice s.currentImportDeviceId] := by
  simp [ImportState.cleanUps, ImportState.call, ImportState.releaseDevice, Call.isCleanUp]

@[simp] theorem cleanUps_disconnect (s : ImportState Busid) :
    s.disconnect.cleanUps =
      s.cleanUps ++ [.onDisconnection, .releaseDevice s.currentImportDeviceId] := by
  simp [ImportState.cleanUps, ImportState.call, ImportState.releaseDevice,
    ImportState.disconnect, Call.isCleanUp]

/-- A pass of the receiver's loop makes no clean-up call of its own: it ends in `disconnect`,
by itself or after `transfer_loop` has caught an exception, or goes on to the next pass. -/
theorem receiver_pass {pass : Pass} {passes : List Pass} {s : ImportState Busid}
    {result : Completion × ImportState Busid} (h : receiver (pass :: passes) s = some result) :
    ∃ s' : ImportState Busid, s'.cleanUps = s.cleanUps ∧
      s'.currentImportDeviceId = s.currentImportDeviceId ∧
      (afterReceiver result = s'.disconnect ∨ receiver passes s' = some result) := by
  rw [receiver] at h
  split at h
  · obtain rfl := Option.some.inj h
    exact ⟨s, rfl, rfl, .inl rfl⟩
  · rcases pass with ⟨stopAtTest, command, stopAfterRead⟩
    cases command with
    | readFailed =>
        obtain rfl := Option.some.inj h
        exact ⟨s, rfl, rfl, .inl rfl⟩
    | readThrew =>
        obtain rfl := Option.some.inj h
        exact ⟨s, rfl, rfl, .inl rfl⟩
    | submit outcome =>
        cases stopAfterRead with
        | true =>
            obtain rfl := Option.some.inj h
            exact ⟨s, rfl, rfl, .inl rfl⟩
        | false =>
            cases outcome with
            | succeeded => exact ⟨s.call .receiveUrb, by simp [Call.isCleanUp], rfl, .inr h⟩
            | failed =>
                obtain rfl := Option.some.inj h
                exact ⟨s.call .receiveUrb, by simp [Call.isCleanUp], rfl, .inl rfl⟩
            | threw =>
                obtain rfl := Option.some.inj h
                exact ⟨s.call .receiveUrb, by simp [Call.isCleanUp], rfl, .inl rfl⟩
    | submitUnknownEp =>
        cases stopAfterRead with
        | true =>
            obtain rfl := Option.some.inj h
            exact ⟨s, rfl, rfl, .inl rfl⟩
        | false => exact ⟨s, rfl, rfl, .inr h⟩
    | unlink threw =>
        cases stopAfterRead with
        | true =>
            obtain rfl := Option.some.inj h
            exact ⟨s, rfl, rfl, .inl rfl⟩
        | false =>
            cases threw with
            | true =>
                obtain rfl := Option.some.inj h
                exact ⟨s.call .handleUnlinkSeqnum, by simp [Call.isCleanUp], rfl, .inl rfl⟩
            | false =>
                exact ⟨s.call .handleUnlinkSeqnum, by simp [Call.isCleanUp], rfl, .inr h⟩
    | unknown =>
        cases stopAfterRead with
        | true =>
            obtain rfl := Option.some.inj h
            exact ⟨s, rfl, rfl, .inl rfl⟩
        | false => exact ⟨s, rfl, rfl, .inr h⟩

theorem receiver_cleanUps {passes : List Pass} {s : ImportState Busid}
    {result : Completion × ImportState Busid} (h : receiver passes s = some result) :
    (afterReceiver result).cleanUps =
      s.cleanUps ++ [.onDisconnection, .releaseDevice s.currentImportDeviceId] := by
  induction passes generalizing s with
  | nil => simp [receiver] at h
  | cons pass passes ih =>
      obtain ⟨s', hcleanUps, hbusid, hdone | hrest⟩ := receiver_pass h
      · rw [hdone, cleanUps_disconnect, hcleanUps, hbusid]
      · rw [ih hrest, hcleanUps, hbusid]

theorem transferLoop_cleanUps {script : Script} {s : ImportState Busid}
    {result : Completion × ImportState Busid} (h : transferLoop script s = some result) :
    result.2.cleanUps =
      s.cleanUps ++ [.onDisconnection, .releaseDevice s.currentImportDeviceId] := by
  unfold transferLoop at h
  split at h
  · cases hreceiver : receiver script.passes (s.call .createSender) with
    | none => simp [hreceiver] at h
    | some received =>
        have hcleanUps := receiver_cleanUps hreceiver
        rw [hreceiver] at h
        simp only [Option.ite_none_right_eq_some, Option.some.injEq] at h
        obtain ⟨-, rfl⟩ := h
        simpa [ImportState.cleanUps, ImportState.call, Call.isCleanUp] using hcleanUps
  · obtain rfl := Option.some.inj h
    simp [Call.isCleanUp, List.filter]

/-- The clean-up calls of a session whose import has obtained the device. -/
def expectedCleanUps (script : Script) (wantedBusid : Busid) : List (Call Busid) :=
  match script.onNewConnection with
  | .threw => []
  | .failed => [.releaseDevice (some wantedBusid)]
  | .succeeded => [.onDisconnection, .releaseDevice (some wantedBusid)]

theorem run_cleanUps {script : Script} {wantedBusid : Busid} {s : ImportState Busid}
    (hlookup : script.lookup = .moved) (h : run script wantedBusid = some s) :
    s.cleanUps = expectedCleanUps script wantedBusid := by
  obtain ⟨result, hparse, rfl⟩ := Option.map_eq_some_iff.mp h
  unfold expectedCleanUps
  cases hopen : script.onNewConnection with
  | threw =>
      obtain rfl := by simpa only [parseOp, hlookup, hopen, Option.some.injEq] using hparse
      rfl
  | failed =>
      obtain rfl := by simpa only [parseOp, hlookup, hopen, Option.some.injEq] using hparse
      rfl
  | succeeded =>
      cases hreply : script.replyWritten with
      | false =>
          obtain rfl := by
            simpa only [parseOp, hlookup, hopen, hreply, Bool.false_eq_true, if_false,
              Option.some.injEq] using hparse
          rfl
      | true =>
          simp only [parseOp, hlookup, hopen, hreply, if_true] at hparse
          split at hparse
          · cases hparse
          · rename_i t hloop
            obtain rfl := Option.some.inj hparse
            simpa [ImportState.cleanUps, ImportState.call, ImportState.initial, Call.isCleanUp]
              using transferLoop_cleanUps hloop
          · rename_i t hloop
            obtain rfl := Option.some.inj hparse
            simpa [ImportState.cleanUps, ImportState.call, ImportState.initial, Call.isCleanUp]
              using transferLoop_cleanUps hloop

/-- The session has released its device exactly once, and has told the handler of the
disconnection exactly once if it had opened the device, and not at all otherwise. -/
def GivesBack [DecidableEq Busid] (script : Script) (wantedBusid : Busid)
    (s : ImportState Busid) : Prop :=
  s.calls.count (.releaseDevice (some wantedBusid)) = 1 ∧
    s.calls.count .onDisconnection = if script.onNewConnection = .succeeded then 1 else 0

instance [DecidableEq Busid] (script : Script) (wantedBusid : Busid) (s : ImportState Busid) :
    Decidable (GivesBack script wantedBusid s) :=
  inferInstanceAs (Decidable (_ ∧ _))

theorem count_cleanUps [DecidableEq Busid] {s : ImportState Busid} {call : Call Busid}
    (hcall : call.isCleanUp = true) : s.cleanUps.count call = s.calls.count call :=
  List.count_filter hcall

/-- A session that obtained its device gives it back in every execution that ends, except
where `on_new_connection` throws. -/
theorem givesBack_iff [DecidableEq Busid] {script : Script} {wantedBusid : Busid}
    {s : ImportState Busid} (hlookup : script.lookup = .moved)
    (h : run script wantedBusid = some s) :
    GivesBack script wantedBusid s ↔ script.onNewConnection ≠ .threw := by
  have hcleanUps := run_cleanUps hlookup h
  unfold GivesBack
  rw [← count_cleanUps rfl, ← count_cleanUps rfl, hcleanUps]
  unfold expectedCleanUps
  cases script.onNewConnection <;> simp

/-- A session whose handler throws from `on_new_connection`. -/
def throwingOpen : Script where
  lookup := .moved
  onNewConnection := .threw
  replyWritten := true
  senderCreated := true
  passes := []
  senderEnds := true

theorem device_kept_of_throwing_open :
    ∃ s : ImportState String, run throwingOpen "1-1" = some s ∧
      s.calls = [.onNewConnection] ∧ ¬ GivesBack throwingOpen "1-1" s :=
  ⟨_, rfl, rfl, by decide⟩

/-- A session that serves one submit before `handle_unlink_seqnum` throws. -/
def throwingUnlink : Script where
  lookup := .moved
  onNewConnection := .succeeded
  replyWritten := true
  senderCreated := true
  passes := [⟨false, .submit .succeeded, false⟩, ⟨false, .unlink true, false⟩]
  senderEnds := true

theorem givesBack_iff_instance :
    ∃ s : ImportState String, run throwingUnlink "1-1" = some s ∧
      (GivesBack throwingUnlink "1-1" s ↔ throwingUnlink.onNewConnection ≠ .threw) :=
  ⟨_, rfl, givesBack_iff rfl rfl⟩

end Usbipdcpp.Session.ImportLifecycle
