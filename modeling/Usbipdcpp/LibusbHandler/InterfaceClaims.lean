import Usbipdcpp.Foundation.Acquisition

namespace Usbipdcpp.LibusbHandler

open Foundation.Acquisition

/-- A call of libusb, with its result where that is looked at or changes the device. -/
inductive LibusbCall where
  | open (err : Int)
  | wrapSysDevice (err : Int)
  | getActiveConfigDescriptor (err : Int)
  | detachKernelDriver (number : Nat) (err : Int)
  | claimInterface (number : Nat) (err : Int)
  | attachKernelDriver (number : Nat)
  | releaseInterface (number : Nat)
  | setInterfaceAltSetting (number : Nat)
  | freeConfigDescriptor
  | close
  deriving DecidableEq, Repr

/-- What libusb answers when a device is opened; the interfaces are told apart by the turn of the
loop they come in. -/
structure LibusbAnswers (Handle : Type) where
  handle : Except Int Handle
  numInterfaces : Except Int Nat
  detach : Nat → Int
  claim : Nat → Int

/-- The part of a `LibusbDeviceHandler` that opens its device. -/
structure LibusbOpening (Handle : Type) where
  nativeDevice : Bool
  wrappedFd : Int
  nativeHandle : Option Handle
  interfacesClaimed : Bool
  interfaceNumbers : List UInt8
  currentAltsettings : List UInt8
  deriving DecidableEq, Repr

namespace LibusbOpening

variable {Handle : Type}

/-- The number that libusb knows an interface by. -/
def interfaceNumber (s : LibusbOpening Handle) (i : Nat) : Nat :=
  (s.interfaceNumbers[i]?).elim i UInt8.toNat

/-- One turn of the loop over the interfaces.  The driver of one that is not claimed is put back. -/
def claimInterface (answers : LibusbAnswers Handle) (s : LibusbOpening Handle) (i : Nat)
    (_intf : Nat) : List LibusbCall × Option Int :=
  let number := s.interfaceNumber i
  let calls :=
    [.detachKernelDriver number (answers.detach i), .claimInterface number (answers.claim i)]
  if answers.claim i = 0 then (calls, none)
  else (calls ++ [.attachKernelDriver number], some (answers.claim i))

/-- The loop over the interfaces that have been claimed. -/
def rollback (rollbackInterface : Nat → List LibusbCall) (s : LibusbOpening Handle) (i : Nat) :
    List LibusbCall :=
  (List.range i).flatMap fun j => rollbackInterface (s.interfaceNumber j)

/-- What `open_and_claim_device` and `wrap_fd_and_claim_interfaces` do with the handle they have
got; they differ in what they do with an interface when they roll back. -/
def claimInterfaces (rollbackInterface : Nat → List LibusbCall) (answers : LibusbAnswers Handle)
    (s : LibusbOpening Handle) : Bool × LibusbOpening Handle × List LibusbCall :=
  match answers.numInterfaces with
  | .error err =>
      (false, { s with nativeHandle := none }, [.getActiveConfigDescriptor err, .close])
  | .ok numInterfaces =>
      match acquire (s.claimInterface answers) (s.rollback rollbackInterface) 0
          (List.range numInterfaces) with
      | (calls, some _) =>
          (false, { s with nativeHandle := none },
            .getActiveConfigDescriptor 0 :: calls ++ [.freeConfigDescriptor, .close])
      | (calls, none) =>
          (true,
            { s with
              interfacesClaimed := true
              currentAltsettings := s.currentAltsettings.mapIdx fun i alt =>
                if i < numInterfaces then 0 else alt },
            .getActiveConfigDescriptor 0 :: calls ++
              (List.range numInterfaces).map (fun i =>
                .setInterfaceAltSetting (s.interfaceNumber i)) ++ [.freeConfigDescriptor])

def releaseAndAttach (number : Nat) : List LibusbCall :=
  [.releaseInterface number, .attachKernelDriver number]

def release (number : Nat) : List LibusbCall := [.releaseInterface number]

/-- For a device that libusb has found. -/
def openAndClaimDevice (answers : LibusbAnswers Handle) (s : LibusbOpening Handle) :
    Bool × LibusbOpening Handle × List LibusbCall :=
  if s.nativeDevice then
    match answers.handle with
    | .error err => (false, s, [.open err])
    | .ok handle =>
        let (result, s, calls) := claimInterfaces releaseAndAttach answers
          { s with nativeHandle := some handle }
        (result, s, .open 0 :: calls)
  else (false, s, [])

/-- For a device that comes as an open file; an interface is only released in the rollback. -/
def wrapFdAndClaimInterfaces (answers : LibusbAnswers Handle) (s : LibusbOpening Handle) :
    Bool × LibusbOpening Handle × List LibusbCall :=
  if s.wrappedFd < 0 then (false, s, [])
  else
    match answers.handle with
    | .error err => (false, s, [.wrapSysDevice err])
    | .ok handle =>
        let (result, s, calls) := claimInterfaces release answers
          { s with nativeHandle := some handle }
        (result, s, .wrapSysDevice 0 :: calls)

end LibusbOpening

/-- An attempt to open a device that has left nothing behind. -/
structure OpeningUndone {Handle : Type}
    (outcome : Bool × LibusbOpening Handle × List LibusbCall) : Prop where
  result : outcome.1 = false
  nativeHandle : outcome.2.1.nativeHandle = none
  closed : ∃ calls, outcome.2.2 = calls ++ [.close]
  released : ∀ number, FollowedBy (.claimInterface number 0) (.releaseInterface number) outcome.2.2
  reattached : ∀ number,
    FollowedBy (.detachKernelDriver number 0) (.attachKernelDriver number) outcome.2.2

/-- The two ways in which a device is opened. -/
inductive OpeningMode where
  | native
  | wrapped
  deriving DecidableEq, Repr

namespace LibusbOpening

variable {Handle : Type}

def openDevice (mode : OpeningMode) (answers : LibusbAnswers Handle) (s : LibusbOpening Handle) :
    Bool × LibusbOpening Handle × List LibusbCall :=
  match mode with
  | .native => s.openAndClaimDevice answers
  | .wrapped => s.wrapFdAndClaimInterfaces answers

/-- The device is there to be opened in the way asked for. -/
def Present (mode : OpeningMode) (s : LibusbOpening Handle) : Prop :=
  match mode with
  | .native => s.nativeDevice = true
  | .wrapped => 0 ≤ s.wrappedFd

section Failure

variable {answers : LibusbAnswers Handle} {s : LibusbOpening Handle} {i numInterfaces : Nat}
  {rollbackInterface : Nat → List LibusbCall}

/-- What has been called when the claim of an interface fails, and what is called then. -/
def callsUntil (answers : LibusbAnswers Handle) (s : LibusbOpening Handle) (i : Nat) :
    List LibusbCall :=
  .getActiveConfigDescriptor 0 :: attempted (s.claimInterface answers) 0 (List.range i) ++
    [.detachKernelDriver (s.interfaceNumber i) (answers.detach i),
      .claimInterface (s.interfaceNumber i) (answers.claim i)]

def callsThen (rollbackInterface : Nat → List LibusbCall) (s : LibusbOpening Handle) (i : Nat) :
    List LibusbCall :=
  .attachKernelDriver (s.interfaceNumber i) :: s.rollback rollbackInterface i ++
    [.freeConfigDescriptor, .close]

theorem claimInterfaces_of_failed (hnum : answers.numInterfaces = .ok numInterfaces)
    (hi : i < numInterfaces) (hclaim : answers.claim i ≠ 0)
    (hbefore : ∀ j < i, answers.claim j = 0) :
    claimInterfaces rollbackInterface answers s =
      (false, { s with nativeHandle := none },
        callsUntil answers s i ++ callsThen rollbackInterface s i) := by
  have hsplit : List.range i ++ i :: (List.range numInterfaces).drop (i + 1) =
      List.range numInterfaces := by
    have htake : (List.range numInterfaces).take i = List.range i := by
      rw [List.take_range, Nat.min_eq_left (Nat.le_of_lt hi)]
    have hlt : i < (List.range numInterfaces).length := by rwa [List.length_range]
    have hdrop := List.drop_eq_getElem_cons hlt
    rw [List.getElem_range] at hdrop
    rw [← hdrop, ← htake, List.take_append_drop]
  have hsucceeded : ∀ j intf, (List.range i)[j]? = some intf →
      (s.claimInterface answers (0 + j) intf).2 = none := by
    intro j intf hintf
    have hlt : j < i := by simpa using (List.getElem?_eq_some_iff.mp hintf).1
    rw [Nat.zero_add, claimInterface, if_pos (hbefore j hlt)]
  have hfailed : (s.claimInterface answers (0 + (List.range i).length) i).2 =
      some (answers.claim i) := by
    rw [List.length_range, Nat.zero_add, claimInterface, if_neg hclaim]
  rw [claimInterfaces, hnum]
  dsimp only
  rw [← hsplit, acquire_of_failed hsucceeded hfailed, List.length_range, Nat.zero_add]
  dsimp only
  rw [claimInterface, if_neg hclaim, callsUntil, callsThen]
  simp only [List.append_assoc, List.cons_append, List.nil_append]

theorem detach_mem_callsUntil {number : Nat} :
    .detachKernelDriver number 0 ∈ callsUntil answers s i ↔
      ∃ j ≤ i, s.interfaceNumber j = number ∧ answers.detach j = 0 := by
  have hattempted : .detachKernelDriver number 0 ∈
      attempted (s.claimInterface answers) 0 (List.range i) ↔
        ∃ j < i, s.interfaceNumber j = number ∧ answers.detach j = 0 := by
    rw [mem_attempted]
    constructor
    · rintro ⟨j, intf, hintf, hcall⟩
      refine ⟨j, by simpa using (List.getElem?_eq_some_iff.mp hintf).1, ?_⟩
      rw [claimInterface] at hcall
      split at hcall
      next => simpa [eq_comm] using hcall
      next => simpa [eq_comm] using hcall
    · rintro ⟨j, hlt, rfl, hdetach⟩
      refine ⟨j, j, by simp [hlt], ?_⟩
      rw [claimInterface]
      split
      next => simp [hdetach]
      next => simp [hdetach]
  rw [callsUntil, List.cons_append, List.mem_cons, List.mem_append, hattempted]
  simp only [reduceCtorEq, false_or, List.mem_cons, LibusbCall.detachKernelDriver.injEq,
    List.not_mem_nil, or_false]
  constructor
  · rintro (⟨j, hlt, hnumber⟩ | ⟨hnumber, hdetach⟩)
    · exact ⟨j, Nat.le_of_lt hlt, hnumber⟩
    · exact ⟨i, Nat.le_refl i, hnumber.symm, hdetach.symm⟩
  · rintro ⟨j, hle, hnumber, hdetach⟩
    rcases Nat.lt_or_eq_of_le hle with hlt | rfl
    · exact .inl ⟨j, hlt, hnumber, hdetach⟩
    · exact .inr ⟨hnumber.symm, hdetach.symm⟩

theorem exists_of_claim_mem {number : Nat} (hclaim : answers.claim i ≠ 0)
    (h : .claimInterface number 0 ∈ callsUntil answers s i) :
    ∃ j < i, s.interfaceNumber j = number := by
  rw [callsUntil, List.cons_append, List.mem_cons, List.mem_append, mem_attempted] at h
  rcases h with h | ⟨j, intf, hintf, hcall⟩ | h
  · cases h
  · refine ⟨j, by simpa using (List.getElem?_eq_some_iff.mp hintf).1, ?_⟩
    rw [claimInterface] at hcall
    split at hcall
    next => simpa [eq_comm] using (by simpa using hcall : _ ∧ _).1
    next => simpa [eq_comm] using (by simpa using hcall : _ ∧ _).1
  · simp only [List.mem_cons, reduceCtorEq, LibusbCall.claimInterface.injEq, List.not_mem_nil,
      false_or, or_false] at h
    exact absurd h.2.symm hclaim

theorem mem_callsThen {call : LibusbCall} :
    call ∈ callsThen rollbackInterface s i ↔
      call = .attachKernelDriver (s.interfaceNumber i) ∨
        (∃ j < i, call ∈ rollbackInterface (s.interfaceNumber j)) ∨
        call = .freeConfigDescriptor ∨ call = .close := by
  simp [callsThen, rollback]

/-- What is done with an interface that is rolled back: it is released, and none is claimed or
taken from its driver. -/
structure Releases (rollbackInterface : Nat → List LibusbCall) : Prop where
  released : ∀ number, .releaseInterface number ∈ rollbackInterface number
  notDetached : ∀ number other err, .detachKernelDriver other err ∉ rollbackInterface number
  notClaimed : ∀ number other err, .claimInterface other err ∉ rollbackInterface number

theorem releases_releaseAndAttach : Releases releaseAndAttach := by
  refine ⟨fun number => ?_, fun number other err => ?_, fun number other err => ?_⟩
  · simp [releaseAndAttach]
  · simp [releaseAndAttach]
  · simp [releaseAndAttach]

theorem releases_release : Releases release := by
  refine ⟨fun number => ?_, fun number other err => ?_, fun number other err => ?_⟩
  · simp [release]
  · simp [release]
  · simp [release]

theorem detach_notMem_callsThen (hr : Releases rollbackInterface) (number : Nat) (err : Int) :
    .detachKernelDriver number err ∉ callsThen rollbackInterface s i := by
  rw [mem_callsThen]
  rintro (h | ⟨j, -, hj⟩ | h | h)
  · cases h
  · exact hr.notDetached _ _ _ hj
  · cases h
  · cases h

theorem claim_notMem_callsThen (hr : Releases rollbackInterface) (number : Nat) (err : Int) :
    .claimInterface number err ∉ callsThen rollbackInterface s i := by
  rw [mem_callsThen]
  rintro (h | ⟨j, -, hj⟩ | h | h)
  · cases h
  · exact hr.notClaimed _ _ _ hj
  · cases h
  · cases h

theorem attach_notMem_callsUntil (hbefore : ∀ j < i, answers.claim j = 0) (number : Nat) :
    .attachKernelDriver number ∉ callsUntil answers s i := by
  rw [callsUntil, List.cons_append, List.mem_cons, List.mem_append, mem_attempted]
  rintro (h | ⟨j, intf, hintf, hcall⟩ | h)
  · cases h
  · have hlt : j < i := by simpa using (List.getElem?_eq_some_iff.mp hintf).1
    rw [claimInterface, if_pos (hbefore j hlt)] at hcall
    simp at hcall
  · simp at h

/-- A call that is made until the claim fails is followed by one that is made then. -/
theorem followedBy_calls {first call answer : LibusbCall} (hfirst : first ≠ call)
    (hcall : call ∉ callsThen rollbackInterface s i)
    (hanswer : call ∈ callsUntil answers s i → answer ∈ callsThen rollbackInterface s i) :
    FollowedBy call answer
      (first :: (callsUntil answers s i ++ callsThen rollbackInterface s i)) := by
  rw [← List.cons_append]
  by_cases hmem : call ∈ callsUntil answers s i
  · exact followedBy_append hcall (hanswer hmem)
  · refine followedBy_of_notMem fun h => ?_
    rcases List.mem_append.mp h with h | h
    · rcases List.mem_cons.mp h with heq | h
      · exact hfirst heq.symm
      · exact hmem h
    · exact hcall h

/-- A device whose claim has failed is left as it was, if and only if the drivers of all interfaces
that have lost them are put back. -/
theorem openingUndone_iff (hr : Releases rollbackInterface) (hclaim : answers.claim i ≠ 0)
    (hbefore : ∀ j < i, answers.claim j = 0) {first : LibusbCall}
    (hfirst : first = .open 0 ∨ first = .wrapSysDevice 0) (hnone : s.nativeHandle = none) :
    OpeningUndone (false, s, first :: (callsUntil answers s i ++ callsThen rollbackInterface s i)) ↔
      ∀ j ≤ i, answers.detach j = 0 →
        .attachKernelDriver (s.interfaceNumber j) ∈ callsThen rollbackInterface s i := by
  constructor
  · intro h j hle hdetach
    have hmem : .detachKernelDriver (s.interfaceNumber j) 0 ∈ callsUntil answers s i :=
      detach_mem_callsUntil.mpr ⟨j, hle, rfl, hdetach⟩
    have hattached := (h.reattached (s.interfaceNumber j)).mem
      (List.mem_cons_of_mem first (List.mem_append_left _ hmem))
    rcases List.mem_cons.mp hattached with heq | hattached
    · rcases hfirst with rfl | rfl
      · cases heq
      · cases heq
    · rcases List.mem_append.mp hattached with hearlier | hlater
      · exact absurd hearlier (attach_notMem_callsUntil hbefore _)
      · exact hlater
  · intro h
    refine ⟨rfl, hnone, ?_, fun number => ?_, fun number => ?_⟩
    · refine ⟨first :: (callsUntil answers s i ++
        (.attachKernelDriver (s.interfaceNumber i) :: s.rollback rollbackInterface i ++
          [.freeConfigDescriptor])), ?_⟩
      simp [callsThen]
    · refine followedBy_calls ?_ (claim_notMem_callsThen hr _ _) fun hmem => ?_
      · rcases hfirst with rfl | rfl <;> exact LibusbCall.noConfusion
      · obtain ⟨j, hlt, rfl⟩ := exists_of_claim_mem hclaim hmem
        exact mem_callsThen.mpr (.inr (.inl ⟨j, hlt, hr.released _⟩))
    · refine followedBy_calls ?_ (detach_notMem_callsThen hr _ _) fun hmem => ?_
      · rcases hfirst with rfl | rfl <;> exact LibusbCall.noConfusion
      · obtain ⟨j, hle, rfl, hdetach⟩ := detach_mem_callsUntil.mp hmem
        exact h j hle hdetach

/-- A device that cannot be claimed as a whole is left as it was, if and only if it has been opened
by itself, or no earlier interface has lost a driver, unless it has the number of the one that
fails. -/
theorem opening_undone {mode : OpeningMode} {handle : Handle} (hpresent : s.Present mode)
    (hhandle : answers.handle = .ok handle) (hnum : answers.numInterfaces = .ok numInterfaces)
    (hi : i < numInterfaces) (hclaim : answers.claim i ≠ 0)
    (hbefore : ∀ j < i, answers.claim j = 0) :
    OpeningUndone (s.openDevice mode answers) ↔
      mode = .native ∨
        ∀ j < i, answers.detach j = 0 → s.interfaceNumber j = s.interfaceNumber i := by
  let closed : LibusbOpening Handle := { s with nativeHandle := none }
  cases mode with
  | native =>
      have hnative : s.nativeDevice = true := hpresent
      have houtcome : s.openDevice .native answers =
          (false, closed,
            .open 0 :: (callsUntil answers closed i ++ callsThen releaseAndAttach closed i)) := by
        rw [openDevice, openAndClaimDevice, if_pos hnative, hhandle]
        dsimp only
        rw [claimInterfaces_of_failed hnum hi hclaim hbefore]
        rfl
      rw [houtcome, openingUndone_iff releases_releaseAndAttach hclaim hbefore (.inl rfl) rfl]
      refine iff_of_true (fun j hle _ => ?_) (.inl rfl)
      rcases Nat.lt_or_eq_of_le hle with hlt | rfl
      · exact mem_callsThen.mpr (.inr (.inl ⟨j, hlt, by simp [releaseAndAttach]⟩))
      · exact mem_callsThen.mpr (.inl rfl)
  | wrapped =>
      have houtcome : s.openDevice .wrapped answers =
          (false, closed,
            .wrapSysDevice 0 :: (callsUntil answers closed i ++ callsThen release closed i)) := by
        rw [openDevice, wrapFdAndClaimInterfaces, if_neg (Int.not_lt.mpr hpresent), hhandle]
        dsimp only
        rw [claimInterfaces_of_failed hnum hi hclaim hbefore]
        rfl
      rw [houtcome, openingUndone_iff releases_release hclaim hbefore (.inr rfl) rfl]
      simp only [reduceCtorEq, false_or]
      constructor
      · intro h j hlt hdetach
        rcases mem_callsThen.mp (h j (Nat.le_of_lt hlt) hdetach) with heq | ⟨k, -, hk⟩ | heq | heq
        · exact LibusbCall.attachKernelDriver.inj heq
        · simp [release] at hk
        · cases heq
        · cases heq
      · intro h j hle hdetach
        refine mem_callsThen.mpr (.inl ?_)
        rcases Nat.lt_or_eq_of_le hle with hlt | rfl
        · exact congrArg _ (h j hlt hdetach)
        · rfl

/-- A device of two interfaces, the second of which cannot be claimed. -/
def secondBusy (detach : Int) : LibusbAnswers Unit where
  handle := .ok ()
  numInterfaces := .ok 2
  detach _ := detach
  claim i := if i = 1 then -6 else 0

def keyboard : LibusbOpening Unit where
  nativeDevice := false
  wrappedFd := 3
  nativeHandle := none
  interfacesClaimed := false
  interfaceNumbers := [0, 2]
  currentAltsettings := [0, 0]

/-- Where there is no kernel driver, nothing is left behind. -/
theorem opening_undone_instance :
    OpeningUndone (keyboard.openDevice .wrapped (secondBusy (-5))) := by
  have hpresent : keyboard.Present .wrapped := Int.natCast_nonneg 3
  have hclaim : (secondBusy (-5)).claim 1 ≠ 0 := by decide
  have hbefore : ∀ j < 1, (secondBusy (-5)).claim j = 0 := by
    intro j hlt
    obtain rfl : j = 0 := by omega
    rfl
  refine (opening_undone hpresent rfl rfl (Nat.lt_add_one 1) hclaim hbefore).mpr (.inr ?_)
  intro j _ hdetach
  have hne : (-5 : Int) ≠ 0 := by decide
  exact absurd hdetach hne

/-- The driver of the first interface is detached and never attached again. -/
theorem not_opening_undone : ¬OpeningUndone (keyboard.openDevice .wrapped (secondBusy 0)) := by
  intro h
  have hattached := h.reattached 0 [.wrapSysDevice 0, .getActiveConfigDescriptor 0] _ rfl
  exact absurd hattached (by decide)

end Failure

end LibusbOpening

end Usbipdcpp.LibusbHandler
