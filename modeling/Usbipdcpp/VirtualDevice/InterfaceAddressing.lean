import Usbipdcpp.VirtualDevice.ControlUrb

namespace Usbipdcpp.VirtualDevice

open Protocol

variable {Handler : Type}

/-- A device whose interfaces have numbers, no two the same. -/
structure NumberedDevice (Handler : Type) extends UsbDevice Handler where
  interfaceNumbers : List UInt8
  length_interfaceNumbers : interfaceNumbers.length = interfaces.length
  nodup_interfaceNumbers : interfaceNumbers.Nodup

/-- The fields of an interface descriptor that follow from its interface and alternate
setting. -/
structure InterfaceDesc where
  bInterfaceNumber : UInt8
  bAlternateSetting : UInt8
  bNumEndpoints : UInt8
  deriving DecidableEq, Repr

/-- The descriptors of an interface, one for each alternate setting and one at least. -/
def interfaceDescs (interfaceNumber : UInt8) (intf : UsbInterface Handler) : List InterfaceDesc :=
  let numAlts := if intf.endpoints.length = 0 then 1 else intf.endpoints.length
  (List.range numAlts).map fun alt =>
    { bInterfaceNumber := interfaceNumber
      bAlternateSetting := .ofNat alt
      bNumEndpoints := .ofNat ((intf.endpoints[alt]?).getD (intf.endpoints.headD [])).length }

namespace ControlUrb

variable (callbacks : Callbacks Handler) (device : UsbDevice Handler) (urb : ControlUrb Handler)

/-- The place in the vector where the interface of a request is looked up. -/
def interfaceIndex : Nat :=
  if IsStandard urb then urb.setup.index.toNat else urb.setup.index.toNat &&& 0xFF

/-- The number of the interface that a request is for. -/
def interfaceNumber : UInt8 := urb.setup.index.toUInt8

/-- What is done with a request once its interface is found. -/
def serveInterface (intf : UsbInterface Handler) : ControlOutcome Handler :=
  match intf.handler with
  | none => replyInvalid device urb
  | some handler =>
      if IsStandard urb then
        if urb.setup.isOut then
          let request := interfaceOutRequest urb handler
          replyOut callbacks (selectAltsetting callbacks device urb intf request) urb request
        else replyIn callbacks device urb (interfaceInRequest urb handler)
      else handOver device urb (.interface handler)

/-- A request to an interface is served by the one at its place, and stalls where there is
none. -/
theorem handleControlUrb_eq_serveInterface
    (hrecipient : RequestRecipient.ofSetup urb.setup = .interface) :
    handleControlUrb callbacks device urb =
      (device.interfaces[urb.interfaceIndex]?).elim (replyEpipe device urb)
        (serveInterface callbacks device urb) := by
  unfold handleControlUrb interfaceIndex
  by_cases hstandard : IsStandard urb
  · rw [if_pos hstandard, if_pos hstandard, handleStandardRequest, hrecipient]
    dsimp only
    unfold handleInterfaceRequest
    cases hintf : device.interfaces[urb.setup.index.toNat]? with
    | none => rfl
    | some intf =>
        cases hhandler : intf.handler with
        | none => simp only [Option.elim_some, serveInterface, hhandler]
        | some handler =>
            simp only [Option.elim_some, serveInterface, hhandler, if_pos hstandard]
  · rw [if_neg hstandard, if_neg hstandard, handleNonStandardRequest, hrecipient]
    dsimp only
    cases hintf : device.interfaces[urb.setup.index.toNat &&& 0xFF]? with
    | none => rfl
    | some intf =>
        cases hhandler : intf.handler with
        | none => simp only [Option.elim_some, serveInterface, hhandler]
        | some handler =>
            simp only [Option.elim_some, serveInterface, hhandler, if_neg hstandard]

end ControlUrb

namespace NumberedDevice

variable (device : NumberedDevice Handler) (urb : ControlUrb Handler)

/-- The configuration descriptor presents the interface at `i` under the number `b`. -/
def Announces (i : Nat) (b : UInt8) : Prop :=
  ∃ number intf, device.interfaceNumbers[i]? = some number ∧ device.interfaces[i]? = some intf ∧
    ∃ desc ∈ interfaceDescs number intf, desc.bInterfaceNumber = b

/-- The interface that a request is served by. -/
def dispatched : Option Nat :=
  if urb.interfaceIndex < device.interfaces.length then some urb.interfaceIndex else none

/-- A request is served by the interface that the host knows by its number, and by none where
there is no such interface. -/
def Addressed : Prop :=
  ∀ i, device.dispatched urb = some i ↔ device.Announces i urb.interfaceNumber

/-- The interface at the place of a request has its number, or the request is beyond all of
them and no interface has its number. -/
def Aligned : Prop :=
  match device.interfaceNumbers[urb.interfaceIndex]? with
  | some number => number = urb.interfaceNumber
  | none => urb.interfaceNumber ∉ device.interfaceNumbers

theorem announces_iff {i : Nat} {b : UInt8} :
    device.Announces i b ↔ device.interfaceNumbers[i]? = some b := by
  constructor
  · rintro ⟨number, intf, hnumber, -, desc, hdesc, rfl⟩
    obtain ⟨alt, -, rfl⟩ := List.mem_map.mp hdesc
    exact hnumber
  · intro hnumber
    have hi : i < device.interfaces.length := by
      rw [← device.length_interfaceNumbers]
      exact (List.getElem?_eq_some_iff.mp hnumber).1
    refine ⟨b, _, hnumber, List.getElem?_eq_getElem hi, _, List.mem_map.mpr ⟨0, ?_, rfl⟩, rfl⟩
    rw [List.mem_range]
    split <;> omega

theorem dispatched_eq_some_iff {i : Nat} :
    device.dispatched urb = some i ↔
      i = urb.interfaceIndex ∧ ∃ number, device.interfaceNumbers[i]? = some number := by
  have hlength := device.length_interfaceNumbers
  unfold dispatched
  constructor
  · intro h
    split at h
    next hi =>
      obtain rfl := Option.some.inj h
      exact ⟨rfl, _, List.getElem?_eq_getElem (hlength ▸ hi)⟩
    next => cases h
  · rintro ⟨rfl, number, hnumber⟩
    rw [if_pos]
    rw [← hlength]
    exact (List.getElem?_eq_some_iff.mp hnumber).1

theorem addressed_iff : device.Addressed urb ↔ device.Aligned urb := by
  have hannounced := fun i => device.announces_iff (i := i) (b := urb.interfaceNumber)
  unfold Addressed Aligned
  cases hnumber : device.interfaceNumbers[urb.interfaceIndex]? with
  | none =>
      have hnone : ∀ i, ¬ device.dispatched urb = some i := by
        intro i hi
        obtain ⟨rfl, number, hsome⟩ := (device.dispatched_eq_some_iff urb).mp hi
        rw [hnumber] at hsome
        cases hsome
      simp only [hnone, false_iff, hannounced, List.mem_iff_getElem?, not_exists]
  | some number =>
      have hdispatched : device.dispatched urb = some urb.interfaceIndex :=
        (device.dispatched_eq_some_iff urb).mpr ⟨rfl, number, hnumber⟩
      constructor
      · intro haddressed
        have hannounces := (haddressed urb.interfaceIndex).mp hdispatched
        rw [hannounced, hnumber] at hannounces
        exact Option.some.inj hannounces
      · rintro rfl i
        rw [hdispatched, hannounced, Option.some.injEq]
        constructor
        · rintro rfl
          exact hnumber
        · intro hi
          obtain ⟨hlt, -⟩ := List.getElem?_eq_some_iff.mp hnumber
          exact (List.getElem?_inj hlt device.nodup_interfaceNumbers).mp (hnumber.trans hi.symm)

/-- A device whose interfaces are numbered by their places serves class and vendor requests
always, and standard requests that leave the upper byte of `wIndex` zero. -/
theorem aligned_of_assigned
    (hassigned : ∀ i, i < device.interfaces.length →
      device.interfaceNumbers[i]? = some (UInt8.ofNat i))
    (hsize : device.interfaces.length ≤ 256)
    (hindex : urb.IsStandard → urb.setup.index.toNat < 256) : device.Aligned urb := by
  have hlow : urb.interfaceIndex = urb.interfaceNumber.toNat := by
    rw [ControlUrb.interfaceIndex, ControlUrb.interfaceNumber, UInt16.toNat_toUInt8]
    split
    next hstandard => exact (Nat.mod_eq_of_lt (hindex hstandard)).symm
    next => exact Nat.and_two_pow_sub_one_eq_mod _ 8
  have hnumber : UInt8.ofNat urb.interfaceIndex = urb.interfaceNumber := by
    rw [hlow, UInt8.ofNat_toNat]
  unfold Aligned
  cases hsome : device.interfaceNumbers[urb.interfaceIndex]? with
  | some number =>
      have hi := (List.getElem?_eq_some_iff.mp hsome).1
      rw [device.length_interfaceNumbers] at hi
      rw [hassigned _ hi] at hsome
      exact (Option.some.inj hsome).symm.trans hnumber
  | none =>
      intro hmem
      obtain ⟨i, hi⟩ := List.mem_iff_getElem?.mp hmem
      have hlt := (List.getElem?_eq_some_iff.mp hi).1
      have hout := List.getElem?_eq_none_iff.mp hsome
      rw [device.length_interfaceNumbers] at hlt hout
      rw [hassigned i hlt] at hi
      have heq : i = urb.interfaceNumber.toNat := by
        rw [← Option.some.inj hi, UInt8.toNat_ofNat', Nat.mod_eq_of_lt (by omega)]
      omega

/-- A request to an interface is served by the interface at its place, which is the one that the
host has named, if and only if places and numbers agree there. -/
theorem interface_addressing (callbacks : Callbacks Handler)
    (hrecipient : RequestRecipient.ofSetup urb.setup = .interface) :
    ControlUrb.handleControlUrb callbacks device.toUsbDevice urb =
      ((device.dispatched urb).bind fun i => device.interfaces[i]?).elim
        (ControlUrb.replyEpipe device.toUsbDevice urb)
        (ControlUrb.serveInterface callbacks device.toUsbDevice urb) ∧
    (device.Addressed urb ↔ device.Aligned urb) := by
  refine ⟨?_, device.addressed_iff urb⟩
  rw [ControlUrb.handleControlUrb_eq_serveInterface callbacks device.toUsbDevice urb hrecipient]
  unfold dispatched
  split
  next => rfl
  next hi => rw [List.getElem?_eq_none (not_lt.mp hi), Option.bind_none]

/-- Two interfaces with the numbers 0 and 2. -/
def gapped : NumberedDevice Nat where
  ep0In := ⟨0x80, 0⟩
  ep0Out := ⟨0x00, 0⟩
  interfaces := [⟨some 0, 0, [[]]⟩, ⟨some 1, 0, [[]]⟩]
  interfaceNumbers := [0, 2]
  length_interfaceNumbers := rfl
  nodup_interfaceNumbers := by decide

def classRequest (index : UInt16) : ControlUrb Nat where
  seqnum := 7
  transferBufferLength := 0
  setup := ⟨0x21, 0x0A, 0, index, 0⟩
  owner := none
  trx := ⟨[], [], 0, 0, false⟩

/-- Callbacks that refuse everything. -/
def stallingCallbacks : Callbacks Nat where
  out _ := UrbStatusType.statusEPIPE
  in_
    | .getConfiguration | .getInterface _ => (UrbStatusType.statusEPIPE, (0 : UInt8))
    | .getDescriptor .. | .interfaceGetDescriptor .. =>
        (UrbStatusType.statusEPIPE, ([] : List UInt8))
    | .getStatus | .interfaceGetStatus _ | .endpointGetStatus .. | .endpointSyncFrame .. =>
        (UrbStatusType.statusEPIPE, (0 : UInt16))

theorem interface_addressing_gapped :
    ControlUrb.handleControlUrb stallingCallbacks gapped.toUsbDevice (classRequest 0) =
      ((gapped.dispatched (classRequest 0)).bind fun i => gapped.interfaces[i]?).elim
        (ControlUrb.replyEpipe gapped.toUsbDevice (classRequest 0))
        (ControlUrb.serveInterface stallingCallbacks gapped.toUsbDevice (classRequest 0)) ∧
    (gapped.Addressed (classRequest 0) ↔ gapped.Aligned (classRequest 0)) :=
  gapped.interface_addressing (classRequest 0) stallingCallbacks (by decide)

/-- A request to interface 2 stalls. -/
theorem not_addressed_gapped : ¬ gapped.Addressed (classRequest 2) := by
  intro haddressed
  have haligned : (2 : UInt8) ∉ gapped.interfaceNumbers :=
    (gapped.addressed_iff (classRequest 2)).mp haddressed
  exact haligned (by decide)

end NumberedDevice

end Usbipdcpp.VirtualDevice
