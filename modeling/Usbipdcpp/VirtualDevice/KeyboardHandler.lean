import Usbipdcpp.VirtualDevice.HidInputReports

namespace Usbipdcpp.VirtualDevice.KeyboardHandler

open Foundation.TransitionSystem Foundation.WaitingSender Protocol

def maxKeys : Nat := 6

def reportIdKeyboard : UInt8 := 1

def reportIdConsumer : UInt8 := 2

/-- The slots of the keys that are down; a free slot holds zero. -/
abbrev Keys : Type := { slots : List UInt8 // slots.length = maxKeys }

namespace Keys

/-- The first slots hold the codes, as many as there is room for. -/
def ofCodes (codes : List UInt8) : Keys :=
  ⟨(codes ++ List.replicate maxKeys 0).take maxKeys, by
    rw [List.length_take_of_le]
    rw [List.length_append, List.length_replicate]
    exact Nat.le_add_left _ _⟩

def set (keys : Keys) (slot : Nat) (keycode : UInt8) : Keys :=
  ⟨keys.val.set slot keycode, by rw [List.length_set, keys.property]⟩

theorem eq_ofCodes_nil {keys : Keys} (h : ∀ code ∈ keys.val, code = 0) : keys = ofCodes [] := by
  refine Subtype.ext ?_
  rw [List.eq_replicate_of_mem h, keys.property]
  rfl

end Keys

/-- A usage of zero is no media key. -/
structure KeyboardState where
  modifier : UInt8 := 0
  keys : Keys := .ofCodes []
  consumerUsage : UInt16 := 0
  deriving DecidableEq

/-- What a call makes of the state, and whether it notifies the thread that sends. -/
abbrev Change : Type := KeyboardState × Bool

def pressKey (s : KeyboardState) (keycode : UInt8) : Change :=
  if keycode = 0 then
    (s, false)
  else if keycode ∈ s.keys.val then
    (s, false)
  else
    match s.keys.val.findIdx? (· = 0) with
    | some slot => ({ s with keys := s.keys.set slot keycode }, true)
    | none => (s, false)

/-- The slots behind the released one move up. -/
def releaseKey (s : KeyboardState) (keycode : UInt8) : Change :=
  if keycode = 0 then
    (s, false)
  else
    match s.keys.val.findIdx? (· = keycode) with
    | some slot =>
        ({ s with keys := .ofCodes ((s.keys.set slot 0).val.filter (· ≠ 0)) }, true)
    | none => (s, false)

def releaseAll (s : KeyboardState) : Change :=
  ({ s with modifier := 0, keys := .ofCodes [] },
    decide (s.modifier ≠ 0 ∨ ∃ code ∈ s.keys.val, code ≠ 0))

def pressKeys (s : KeyboardState) (keycodes : List UInt8) : Change :=
  ({ s with keys := .ofCodes (keycodes.filter (· ≠ 0)) }, true)

def isKeyPressed (s : KeyboardState) (keycode : UInt8) : Bool := decide (keycode ∈ s.keys.val)

def setModifier (s : KeyboardState) (mask : UInt8) : Change :=
  ({ s with modifier := s.modifier ||| mask }, decide (s.modifier ||| mask ≠ s.modifier))

def clearModifier (s : KeyboardState) (mask : UInt8) : Change :=
  ({ s with modifier := s.modifier &&& ~~~mask }, decide (s.modifier &&& ~~~mask ≠ s.modifier))

def pressMediaKey (s : KeyboardState) (usage : UInt16) : Change :=
  ({ s with consumerUsage := usage }, true)

inductive KeyboardCall where
  | pressKey (keycode : UInt8)
  | releaseKey (keycode : UInt8)
  | releaseAll
  | pressKeys (keycodes : List UInt8)
  | setModifier (mask : UInt8)
  | clearModifier (mask : UInt8)
  | pressMediaKey (usage : UInt16)
  deriving DecidableEq, Repr

def call (s : KeyboardState) : KeyboardCall → Change
  | .pressKey keycode => pressKey s keycode
  | .releaseKey keycode => releaseKey s keycode
  | .releaseAll => releaseAll s
  | .pressKeys keycodes => pressKeys s keycodes
  | .setModifier mask => setModifier s mask
  | .clearModifier mask => clearModifier s mask
  | .pressMediaKey usage => pressMediaKey s usage

def keyboardReport (s : KeyboardState) : List UInt8 :=
  [reportIdKeyboard, s.modifier, 0] ++ s.keys.val

def consumerReport (s : KeyboardState) : List UInt8 :=
  reportIdConsumer :: le16 s.consumerUsage

/-- A turn of the thread: the keys when they have changed, and a media key once. -/
def reports (current last : KeyboardState) : List (List UInt8) :=
  let kbChanged := current.modifier ≠ last.modifier ∨ current.keys ≠ last.keys
  (if kbChanged then [keyboardReport current] else []) ++
    (if current.consumerUsage ≠ 0 then [consumerReport current] else [])

/-- The media key is cleared when it has been sent. -/
def settle (current : KeyboardState) : KeyboardState :=
  if current.consumerUsage ≠ 0 then { current with consumerUsage := 0 } else current

/-- The callback for `GET_REPORT`; the state is the current one. -/
def requestGetReport (s : KeyboardState) (type reportId : UInt8) (_length : UInt16) :
    UInt32 × List UInt8 :=
  if type = HIDReportType.input then
    if reportId = reportIdConsumer then (UrbStatusType.statusOK, consumerReport s)
    else (UrbStatusType.statusOK, keyboardReport s)
  else (UrbStatusType.statusEPIPE, [])

/-- The handler in a connection, which resets both copies of the state. -/
def sender : Sender (Mirror KeyboardState) KeyboardCall (List UInt8) :=
  Mirror.sender call reports settle

def system : System (Running (Mirror KeyboardState) (List UInt8)) (Event KeyboardCall) :=
  sender.system (Mirror.Starts {})

/-- A call that does not notify the thread has changed nothing. -/
theorem call_of_silent (s : KeyboardState) (c : KeyboardCall) (h : (call s c).2 = false) :
    (call s c).1 = s := by
  cases c with
  | pressKey keycode =>
      change (pressKey s keycode).2 = false at h
      change (pressKey s keycode).1 = s
      unfold pressKey at h ⊢
      split at h
      next hzero => rw [if_pos hzero]
      next hzero =>
        rw [if_neg hzero]
        split at h
        next hdown => rw [if_pos hdown]
        next hdown =>
          rw [if_neg hdown]
          split at h
          next => exact absurd h.symm Bool.false_ne_true
          next => rfl
  | releaseKey keycode =>
      change (releaseKey s keycode).2 = false at h
      change (releaseKey s keycode).1 = s
      unfold releaseKey at h ⊢
      split at h
      next hzero => rw [if_pos hzero]
      next hzero =>
        rw [if_neg hzero]
        split at h
        next => exact absurd h.symm Bool.false_ne_true
        next => rfl
  | releaseAll =>
      obtain ⟨hmodifier, hkeys⟩ := not_or.mp (of_decide_eq_false h)
      have hup : s.keys = .ofCodes [] :=
        Keys.eq_ofCodes_nil fun code hcode => not_not.mp fun hdown => hkeys ⟨code, hcode, hdown⟩
      change { s with modifier := 0, keys := .ofCodes [] } = s
      rw [← hup, ← not_not.mp hmodifier]
  | pressKeys keycodes => exact absurd h.symm Bool.false_ne_true
  | setModifier mask =>
      have hsame : s.modifier ||| mask = s.modifier := not_not.mp (of_decide_eq_false h)
      change { s with modifier := s.modifier ||| mask } = s
      rw [hsame]
  | clearModifier mask =>
      have hsame : s.modifier &&& ~~~mask = s.modifier := not_not.mp (of_decide_eq_false h)
      change { s with modifier := s.modifier &&& ~~~mask } = s
      rw [hsame]
  | pressMediaKey usage => exact absurd h.symm Bool.false_ne_true

theorem notifies : sender.Notifies := Mirror.notifies call_of_silent

def isKeyboardReport (report : List UInt8) : Bool := report.head? = some reportIdKeyboard

def isConsumerReport (report : List UInt8) : Bool := report.head? = some reportIdConsumer

theorem keyboardReport_congr {s t : KeyboardState} (hmodifier : s.modifier = t.modifier)
    (hkeys : s.keys = t.keys) : keyboardReport s = keyboardReport t := by
  rw [keyboardReport, keyboardReport, hmodifier, hkeys]

theorem keyboardReport_settle (s : KeyboardState) :
    keyboardReport (settle s) = keyboardReport s := by
  unfold settle
  split <;> rfl

theorem filter_reports (current last : KeyboardState) :
    (reports current last).filter isKeyboardReport =
      if current.modifier ≠ last.modifier ∨ current.keys ≠ last.keys then [keyboardReport current]
      else [] := by
  have hconsumer : (if current.consumerUsage ≠ 0 then [consumerReport current] else []).filter
      isKeyboardReport = [] := by
    split <;> rfl
  rw [reports, List.filter_append, hconsumer, List.append_nil]
  split <;> rfl

/-- Whatever the thread sends, the host's keyboard report is that of the state last sent. -/
theorem lastView_reports (current last : KeyboardState) :
    lastView isKeyboardReport id (keyboardReport last) (reports current last) =
      keyboardReport (settle current) := by
  rw [lastView, filter_reports, keyboardReport_settle]
  split
  next => rfl
  next hsame =>
    obtain ⟨hmodifier, hkeys⟩ := not_or.mp hsame
    exact keyboardReport_congr (not_not.mp hmodifier).symm (not_not.mp hkeys).symm

/-- What a host reads of a keyboard report: the modifiers and the keys. -/
def hostKeys (report : List UInt8) : UInt8 × List UInt8 := (report.getD 1 0, report.drop 3)

theorem hostKeys_keyboardReport (s : KeyboardState) :
    hostKeys (keyboardReport s) = (s.modifier, s.keys.val) := rfl

/-- What a host reads of a consumer report. -/
def hostUsage (report : List UInt8) : UInt16 := hostLe16 report 1

theorem hostUsage_consumerReport (s : KeyboardState) :
    hostUsage (consumerReport s) = s.consumerUsage :=
  (congrArg (fun report => hostLe16 report 0) (List.append_nil _).symm).trans
    (hostLe16_le16 s.consumerUsage [])

theorem consumerUsage_settle (s : KeyboardState) : (settle s).consumerUsage = 0 := by
  unfold settle
  split
  next => rfl
  next hnone => exact not_not.mp hnone

/-- No consumer report shows that a media key is up again. -/
theorem hostUsage_ne_zero {s : Running (Mirror KeyboardState) (List UInt8)}
    (hreached : Reachable system s) :
    s.state.last.consumerUsage = 0 ∧
      ∀ report ∈ s.sent, isConsumerReport report = true → hostUsage report ≠ 0 := by
  refine Sender.reachable_invariant sender (Mirror.Starts {})
    (I := fun s sent => s.last.consumerUsage = 0 ∧
      ∀ report ∈ sent, isConsumerReport report = true → hostUsage report ≠ 0) ?_ ?_ ?_ hreached
  · rintro s rfl
    exact ⟨rfl, List.forall_mem_nil _⟩
  · exact fun s sent a hs => hs
  · rintro s sent - ⟨-, hsent⟩
    refine ⟨consumerUsage_settle s.current, List.forall_mem_append.mpr ⟨hsent, ?_⟩⟩
    refine List.forall_mem_append.mpr ⟨?_, ?_⟩
    · split
      next => exact List.forall_mem_singleton.mpr fun h => (Bool.false_ne_true h).elim
      next => exact List.forall_mem_nil _
    · split
      next hdown =>
        refine List.forall_mem_singleton.mpr fun _ => ?_
        rw [hostUsage_consumerReport]
        exact hdown
      next => exact List.forall_mem_nil _

/-- While nothing is pending, the host's usage is the current one if and only if it has never been
sent one in this connection. -/
theorem consumer_converges_iff {s : Running (Mirror KeyboardState) (List UInt8)}
    (hreached : Reachable system s) (hblocked : sender.pending s.state = false) :
    lastView isConsumerReport hostUsage 0 s.sent = s.state.current.consumerUsage ↔
      ∀ report ∈ s.sent, isConsumerReport report = false := by
  obtain ⟨hlast, hsent⟩ := hostUsage_ne_zero hreached
  have hsame : s.state.current = s.state.last := not_not.mp (of_decide_eq_false hblocked)
  rw [hsame, hlast, lastView]
  constructor
  · intro hzero
    cases hnone : (s.sent.filter isConsumerReport).getLast? with
    | none =>
        rw [List.getLast?_eq_none_iff, List.filter_eq_nil_iff] at hnone
        exact fun report hreport => Bool.eq_false_iff.mpr (hnone report hreport)
    | some report =>
        obtain ⟨hmem, hkind⟩ := List.mem_filter.mp (List.mem_of_getLast? hnone)
        rw [hnone] at hzero
        exact absurd hzero (hsent report hmem hkind)
  · intro hnone
    have hempty : s.sent.filter isConsumerReport = [] :=
      List.filter_eq_nil_iff.mpr fun report hreport => Bool.eq_false_iff.mp (hnone report hreport)
    rw [hempty]
    rfl

/-- The last report of the keys is what the host would be answered, and shows those that are down.
-/
def UpToDate (s : Running (Mirror KeyboardState) (List UInt8)) : Prop :=
  let shown := lastView isKeyboardReport id (keyboardReport {}) s.sent
  (∀ length, requestGetReport s.state.current HIDReportType.input reportIdKeyboard length =
      (UrbStatusType.statusOK, shown)) ∧
    hostKeys shown = (s.state.current.modifier, s.state.current.keys.val)

theorem upToDate_of_pending {s : Running (Mirror KeyboardState) (List UInt8)}
    (hreached : Reachable system s) (hblocked : sender.pending s.state = false) : UpToDate s := by
  have hshown : lastView isKeyboardReport id (keyboardReport {}) s.sent =
      keyboardReport s.state.current :=
    Mirror.converges (fun current last _ => lastView_reports current last) hreached hblocked
  refine ⟨fun length => ?_, ?_⟩
  · rw [hshown]
    rfl
  · rw [hshown, hostKeys_keyboardReport]

end Usbipdcpp.VirtualDevice.KeyboardHandler
