import Mathlib.Logic.Function.Basic
import Usbipdcpp.VirtualDevice.Device

namespace Usbipdcpp.VirtualDevice

open Protocol Foundation.ByteStream

variable {Handler : Type}

/-- The map from endpoint addresses to operators, `ep_operators_`. -/
abbrev EpOperators (Handler : Type) : Type := UInt8 → Option (TransferOperator Handler)

def registerEndpointOperator (ops : EpOperators Handler) (ep : UInt8)
    (op : TransferOperator Handler) : EpOperators Handler :=
  Function.update ops ep (some op)

/-- The operator of an interface's handler on every endpoint of all its alternate settings. -/
def registerInterface (transferOp : Handler → TransferOperator Handler)
    (ops : EpOperators Handler) (intf : UsbInterface Handler) : EpOperators Handler :=
  match intf.handler with
  | none => ops
  | some handler =>
      intf.endpoints.flatten.foldl
        (fun ops ep => registerEndpointOperator ops ep.address (transferOp handler)) ops

theorem foldl_register_eq (op : TransferOperator Handler) (eps : List UsbEndpoint)
    (ops : EpOperators Handler) (a : UInt8) :
    eps.foldl (fun ops ep => registerEndpointOperator ops ep.address op) ops a =
      if ∃ ep ∈ eps, ep.address = a then some op else ops a := by
  induction eps generalizing ops with
  | nil => simp
  | cons ep eps ih =>
      rw [List.foldl_cons, ih]
      by_cases hlater : ∃ ep ∈ eps, ep.address = a
      · rw [if_pos hlater, if_pos (hlater.imp fun _ h => ⟨List.mem_cons_of_mem _ h.1, h.2⟩)]
      · rw [if_neg hlater, registerEndpointOperator, Function.update_apply]
        by_cases hep : ep.address = a
        · rw [if_pos hep.symm, if_pos ⟨ep, List.mem_cons_self .., hep⟩]
        · rw [if_neg (Ne.symm hep), if_neg]
          rintro ⟨ep', hmem, hep'⟩
          rcases List.mem_cons.mp hmem with rfl | hmem
          · exact hep hep'
          · exact hlater ⟨ep', hmem, hep'⟩

/-- An interface brings its handler's operator to an endpoint address. -/
def Registers (intf : UsbInterface Handler) (handler : Handler) (a : UInt8) : Prop :=
  intf.handler = some handler ∧ ∃ ep ∈ intf.endpoints.flatten, ep.address = a

section RegisterInterface

variable {transferOp : Handler → TransferOperator Handler} {ops : EpOperators Handler}
  {intf : UsbInterface Handler} {a : UInt8}

theorem registerInterface_of_none (h : intf.handler = none) :
    registerInterface transferOp ops intf = ops := by
  unfold registerInterface
  rw [h]

theorem registerInterface_of_some {handler : Handler} (h : intf.handler = some handler) :
    registerInterface transferOp ops intf a =
      if ∃ ep ∈ intf.endpoints.flatten, ep.address = a then some (transferOp handler)
      else ops a := by
  unfold registerInterface
  rw [h]
  exact foldl_register_eq (transferOp handler) intf.endpoints.flatten ops a

theorem registerInterface_eq_some {op : TransferOperator Handler}
    (h : registerInterface transferOp ops intf a = some op) :
    (∃ handler, Registers intf handler a ∧ op = transferOp handler) ∨ ops a = some op := by
  rcases hhandler : intf.handler with _ | handler
  · rw [registerInterface_of_none hhandler] at h
    exact .inr h
  · rw [registerInterface_of_some hhandler] at h
    split at h
    next hep => exact .inl ⟨handler, ⟨hhandler, hep⟩, (Option.some.inj h).symm⟩
    next => exact .inr h

theorem registerInterface_isSome
    (h : (∃ handler, Registers intf handler a) ∨ (ops a).isSome = true) :
    (registerInterface transferOp ops intf a).isSome = true := by
  rcases h with ⟨handler, hhandler, hep⟩ | h
  · rw [registerInterface_of_some hhandler, if_pos hep]
    rfl
  · rcases hhandler : intf.handler with _ | handler
    · rwa [registerInterface_of_none hhandler]
    · rw [registerInterface_of_some hhandler]
      split
      next => rfl
      next => exact h

end RegisterInterface

def setupInterfaceHandlers (transferOp : Handler → TransferOperator Handler)
    (interfaces : List (UsbInterface Handler)) : EpOperators Handler :=
  interfaces.foldl (registerInterface transferOp) fun _ => none

/-- A virtual device with the operator of each of its interface handlers. -/
structure RoutedDevice (Handler : Type) extends UsbDevice Handler where
  transferOp : Handler → TransferOperator Handler

namespace RoutedDevice

def epOperators (device : RoutedDevice Handler) : EpOperators Handler :=
  setupInterfaceHandlers device.transferOp device.interfaces

/-- The operator that is registered for an endpoint address, and the device's own generic one
where none is. -/
def operatorFor (device : RoutedDevice Handler) (ep : UInt8) : TransferOperator Handler :=
  (RoutingOperator.virtualDevice device.epOperators).getOperatorForEp ep

/-- What a command finds that arrives for the device. -/
def receiveContext (device : RoutedDevice Handler)
    (storageHandler : Handler → MscBulkOnlyHandler) (memoryLeft : Bool) :
    ReceiveContext Handler where
  routingOp := .virtualDevice device.epOperators
  storageHandler := storageHandler
  memoryLeft := memoryLeft

end RoutedDevice

/-- The endpoint address that the receiver restores: the direction bit is left out for
`UsbIpDirection::Out` only. -/
def receiverEp (header : UsbIpHeaderBasic) : UInt8 :=
  if header.direction == UsbIpDirection.out then header.ep.toUInt8
  else header.ep.toUInt8 ||| 0x80

/-- The endpoint whose handler the receiver passes a command to. -/
def dispatch (device : UsbDevice Handler) (header : UsbIpHeaderBasic) :
    Option (UsbEndpoint × Option (UsbInterface Handler)) :=
  device.findEp (receiverEp header)

section Setup

variable {transferOp : Handler → TransferOperator Handler}
  {interfaces : List (UsbInterface Handler)}
  {ops : EpOperators Handler} {a : UInt8}

theorem foldl_registerInterface_eq_some {op : TransferOperator Handler}
    (h : interfaces.foldl (registerInterface transferOp) ops a = some op) :
    (∃ intf ∈ interfaces, ∃ handler, Registers intf handler a ∧ op = transferOp handler) ∨
      ops a = some op := by
  induction interfaces generalizing ops with
  | nil => exact .inr h
  | cons intf interfaces ih =>
      rcases ih h with ⟨intf', hmem, hregisters⟩ | hops
      · exact .inl ⟨intf', List.mem_cons_of_mem _ hmem, hregisters⟩
      · rcases registerInterface_eq_some hops with hregisters | hops
        · exact .inl ⟨intf, List.mem_cons_self .., hregisters⟩
        · exact .inr hops

theorem foldl_registerInterface_isSome
    (h : (∃ intf ∈ interfaces, ∃ handler, Registers intf handler a) ∨ (ops a).isSome = true) :
    (interfaces.foldl (registerInterface transferOp) ops a).isSome = true := by
  induction interfaces generalizing ops with
  | nil =>
      rcases h with ⟨intf, hmem, -⟩ | h
      · cases hmem
      · exact h
  | cons intf interfaces ih =>
      apply ih
      rcases h with ⟨intf', hmem, hregisters⟩ | h
      · rcases List.mem_cons.mp hmem with rfl | hmem
        · exact .inr (registerInterface_isSome (.inl hregisters))
        · exact .inl ⟨intf', hmem, hregisters⟩
      · exact .inr (registerInterface_isSome (.inr h))

end Setup

namespace RoutedDevice

/-- Where one interface only brings an endpoint address, its handler's operator is the one
registered. -/
theorem operatorFor_of_registers {device : RoutedDevice Handler} {intf : UsbInterface Handler}
    {handler : Handler} {a : UInt8} (hmem : intf ∈ device.interfaces)
    (hregisters : Registers intf handler a)
    (honly : ∀ intf' ∈ device.interfaces, ∀ handler', Registers intf' handler' a →
      handler' = handler) : device.operatorFor a = device.transferOp handler := by
  have hsome : (device.epOperators a).isSome = true :=
    foldl_registerInterface_isSome (.inl ⟨intf, hmem, handler, hregisters⟩)
  obtain ⟨op, hop⟩ := Option.isSome_iff_exists.mp hsome
  rcases foldl_registerInterface_eq_some hop with ⟨intf', hmem', handler', hregisters', rfl⟩ | h
  · rw [operatorFor, RoutingOperator.getOperatorForEp, hop, honly intf' hmem' handler' hregisters']
    rfl
  · cases h

end RoutedDevice

section Agreement

variable {device : RoutedDevice Handler} {storageHandler : Handler → MscBulkOnlyHandler}
  {memoryLeft : Bool} {s rest : List UInt8} {cmd : UsbIpCmdSubmit Handler}

/-- The transfer of an accepted command belongs to the operator at the address that
`from_socket` restores. -/
theorem getOperator_of_accepted
    (h : getCmdFromSocket (device.receiveContext storageHandler memoryLeft) s =
      .ok (.submit cmd, rest)) :
    cmd.transfer.getOperator = device.operatorFor cmd.header.realEp := by
  obtain ⟨behindCommand, -, hcmd⟩ := getCmdFromSocket_submit_iff.mp h
  obtain ⟨mid, handle, -, -, halloc, hrecv⟩ := UsbIpCmdSubmit.fromSocket_eq_ok_iff.mp hcmd
  exact (getOperator_of_recvTransferData hrecv).trans (getOperator_of_allocTransferHandle halloc)

theorem realEp_eq_receiverEp {header : UsbIpHeaderBasic}
    (h : header.direction = UsbIpDirection.out ∨ header.direction = UsbIpDirection.in_) :
    header.realEp = receiverEp header := by
  rcases h with h | h <;> simp [UsbIpHeaderBasic.realEp, receiverEp, h, UsbIpDirection.out,
    UsbIpDirection.in_]

/-- The transfer that a handler is given comes from the operator registered for its endpoint
just where the direction is one of the two the protocol has, or the receiver finds no
endpoint, or the two directions of the endpoint number share an operator. -/
theorem operator_agrees_iff
    (h : getCmdFromSocket (device.receiveContext storageHandler memoryLeft) s =
      .ok (.submit cmd, rest)) :
    (∀ ep intf, dispatch device.toUsbDevice cmd.header = some (ep, intf) →
        cmd.transfer.getOperator = device.operatorFor ep.address) ↔
      cmd.header.direction = UsbIpDirection.out ∨ cmd.header.direction = UsbIpDirection.in_ ∨
        device.findEp (cmd.header.ep.toUInt8 ||| 0x80) = none ∨
        device.operatorFor cmd.header.ep.toUInt8 =
          device.operatorFor (cmd.header.ep.toUInt8 ||| 0x80) := by
  have hoperator := getOperator_of_accepted h
  by_cases hlegal : cmd.header.direction = UsbIpDirection.out ∨
      cmd.header.direction = UsbIpDirection.in_
  · refine iff_of_true (fun ep intf hep => ?_) (hlegal.imp_right .inl)
    rw [hoperator, realEp_eq_receiverEp hlegal, UsbDevice.address_of_findEp hep]
  · -- the receiver takes the direction for In, `from_socket` for Out
    obtain ⟨hout, hin⟩ := not_or.mp hlegal
    have hreal : cmd.header.realEp = cmd.header.ep.toUInt8 := by
      simp [UsbIpHeaderBasic.realEp, hin]
    have hreceiver : receiverEp cmd.header = cmd.header.ep.toUInt8 ||| 0x80 := by
      simp [receiverEp, hout]
    simp only [hout, hin, false_or, dispatch, hoperator, hreal, hreceiver]
    rcases hfound : device.findEp (cmd.header.ep.toUInt8 ||| 0x80) with _ | ⟨ep, intf⟩
    · simp
    · have haddress := UsbDevice.address_of_findEp hfound
      simp only [Option.some.injEq, Prod.mk.injEq, reduceCtorEq, false_or]
      constructor
      · intro hagrees
        rw [← haddress]
        exact haddress ▸ hagrees ep intf ⟨rfl, rfl⟩
      · rintro hagrees ep' intf' ⟨rfl, rfl⟩
        rw [haddress]
        exact hagrees

end Agreement

/-- A mass storage interface with a bulk IN endpoint 1 and a bulk OUT endpoint 2. -/
def massStorageDevice : RoutedDevice Unit where
  ep0In := ⟨0x80, 0⟩
  ep0Out := ⟨0x00, 0⟩
  interfaces := [⟨some (), 0, [[⟨0x81, 2⟩, ⟨0x02, 2⟩]]⟩]
  transferOp := .storage

def massStorageContext : ReceiveContext Unit :=
  massStorageDevice.receiveContext
    (fun _ => { state := .idle, writeMmapBase := none, writeLba := 0, writeAccumulated := 0,
                backend := some .fallback }) true

/-- A command for endpoint 1 with a direction that is neither In nor Out. -/
def foreignDirection : CmdSubmitFields where
  header := ⟨usbipCmdSubmit, 7, 0x10001, 2, 1⟩
  transferFlags := 0
  transferBufferLength := 0
  startFrame := 0
  numberOfPackets := 0
  interval := 0
  setup := ⟨0, 0, 0, 0, 0⟩

/-- The mass storage handler of endpoint 1 is given a transfer of the device's own generic
operator. -/
theorem operator_differs_of_foreign_direction :
    ¬ ∀ (rest : List UInt8) (cmd : UsbIpCmdSubmit Unit),
      getCmdFromSocket massStorageContext
          (u32ToBytes usbipCmdSubmit ++ foreignDirection.toBytes) = .ok (.submit cmd, rest) →
        ∀ ep intf, dispatch massStorageDevice.toUsbDevice cmd.header = some (ep, intf) →
          cmd.transfer.getOperator = massStorageDevice.operatorFor ep.address := by
  intro h
  have hagrees := h [] { foreignDirection with transfer := .generic none ⟨[], [], 0, 0, false⟩ }
    rfl ⟨0x81, 2⟩ (some ⟨some (), 0, [[⟨0x81, 2⟩, ⟨0x02, 2⟩]]⟩) rfl
  exact absurd hagrees (by decide)

/-- The same command with the direction In. -/
def inDirection : CmdSubmitFields :=
  { foreignDirection with header := ⟨usbipCmdSubmit, 7, 0x10001, UsbIpDirection.in_, 1⟩ }

theorem operator_agrees_iff_instance : massStorageDevice.operatorFor 0x81 = .storage () := by
  have haccepted : getCmdFromSocket massStorageContext
      (u32ToBytes usbipCmdSubmit ++ inDirection.toBytes) =
        .ok (.submit { inDirection with
          transfer := .storage () ⟨none, 0, 0, 0, false, true, []⟩ }, []) := rfl
  exact ((operator_agrees_iff haccepted).mpr (.inr (.inl rfl)) ⟨0x81, 2⟩
    (some ⟨some (), 0, [[⟨0x81, 2⟩, ⟨0x02, 2⟩]]⟩) rfl).symm

end Usbipdcpp.VirtualDevice
