import Usbipdcpp.Protocol.LibusbTransferOperator
import Usbipdcpp.Protocol.StorageTransferOperator

namespace Usbipdcpp.Protocol

open Foundation.ByteStream

/-- The operators that do a transfer's input and output, told apart by who owns them: a generic
one belongs to the device or to the handler of an interface, a storage one to a mass storage
handler. -/
inductive TransferOperator (Handler : Type) where
  | generic (owner : Option Handler)
  | libusb
  | storage (handler : Handler)
  deriving DecidableEq, Repr

/-- A transfer together with the operator that allocated it. -/
inductive TransferHandle (Handler : Type) where
  | generic (owner : Option Handler) (trx : GenericTransfer)
  | libusb (trx : LibusbTransfer)
  | storage (handler : Handler) (trx : StorageIoTransfer)
  deriving DecidableEq, Repr

/-- A device's operator: that of a virtual device looks the endpoint up in its
`ep_operators_`, the others answer for every endpoint themselves. -/
inductive RoutingOperator (Handler : Type) where
  | generic
  | libusb
  | virtualDevice (epOperators : UInt8 → Option (TransferOperator Handler))

variable {Handler : Type}

def RoutingOperator.getOperatorForEp (op : RoutingOperator Handler) (ep : UInt8) :
    TransferOperator Handler :=
  match op with
  | .generic => .generic none
  | .libusb => .libusb
  | .virtualDevice epOperators => (epOperators ep).getD (.generic none)

/-- A device's operator with what allocating and receiving find when a command arrives: the
storage handlers, and whether `libusb_alloc_transfer` and `malloc` yield memory. -/
structure ReceiveContext (Handler : Type) where
  routingOp : RoutingOperator Handler
  storageHandler : Handler → MscBulkOnlyHandler
  memoryLeft : Bool

namespace TransferOperator

def allocTransferHandle (ctx : ReceiveContext Handler) (op : TransferOperator Handler)
    (bufferLength numIsoPackets : Nat) (header : UsbIpHeaderBasic) :
    Option (TransferHandle Handler) :=
  match op with
  | .generic owner =>
      some (.generic owner (GenericTransferOperator.allocTransferHandle bufferLength
        numIsoPackets header))
  | .libusb =>
      if ctx.memoryLeft then
        some (.libusb (LibusbTransferOperator.allocTransferHandle bufferLength numIsoPackets
          header))
      else none
  | .storage handler =>
      some (.storage handler (StorageTransferOperator.allocTransferHandle
        (ctx.storageHandler handler) bufferLength header))

end TransferOperator

namespace TransferHandle

def getOperator : TransferHandle Handler → TransferOperator Handler
  | .generic owner _ => .generic owner
  | .libusb _ => .libusb
  | .storage handler _ => .storage handler

def recvTransferData (ctx : ReceiveContext Handler) (handle : TransferHandle Handler)
    (length : Nat) : Reader (TransferHandle Handler) :=
  match handle with
  | .generic owner trx => do
      let trx ← GenericTransferOperator.recvTransferData trx length
      return .generic owner trx
  | .libusb trx => do
      let trx ← LibusbTransferOperator.recvTransferData trx length
      return .libusb trx
  | .storage handler trx => do
      let trx ← StorageTransferOperator.recvTransferData (ctx.storageHandler handler) trx length
      return .storage handler trx

def transferIsIn : TransferHandle Handler → Bool
  | .generic _ trx => trx.isIn
  | .libusb trx => LibusbTransferOperator.transferIsIn trx
  | .storage _ trx => trx.isIn

def sendTransferData (storageHandler : Handler → MscBulkOnlyHandler)
    (handle : TransferHandle Handler) (length : Nat) : List UInt8 :=
  match handle with
  | .generic _ trx => GenericTransferOperator.sendTransferData trx length
  | .libusb trx => LibusbTransferOperator.sendTransferData trx length
  | .storage handler trx =>
      StorageTransferOperator.sendTransferData (storageHandler handler) trx length

/-- What taking a data stage of `length` bytes and `numIsoPackets` descriptors off `s` asks of
the transfer.  The operators that read descriptors take just these bytes. -/
def TakesDataStage (ctx : ReceiveContext Handler) (handle : TransferHandle Handler)
    (length numIsoPackets : Nat) (s : List UInt8) : Prop :=
  match handle with
  | .generic _ _ | .libusb _ => True
  | .storage handler trx =>
      StorageTransferOperator.TakesDataStage (ctx.storageHandler handler) trx length
        numIsoPackets s

/-- The transfer has room for `numIsoPackets` packets, where its operator keeps packets. -/
def HasPackets (handle : TransferHandle Handler) (numIsoPackets : Nat) : Prop :=
  match handle with
  | .generic _ trx => trx.isoDescriptors.length = numIsoPackets
  | .libusb trx => trx.isoPacketDesc.length = numIsoPackets
  | .storage _ _ => True

end TransferHandle

section Alloc

variable {ctx : ReceiveContext Handler} {op : TransferOperator Handler}
  {bufferLength numIsoPackets : Nat} {header : UsbIpHeaderBasic}
  {handle : TransferHandle Handler}

theorem allocTransferHandle_libusb_eq_some_iff :
    TransferOperator.allocTransferHandle ctx .libusb bufferLength numIsoPackets header =
        some handle ↔
      ctx.memoryLeft = true ∧
        handle = .libusb (LibusbTransferOperator.allocTransferHandle bufferLength numIsoPackets
          header) := by
  by_cases hmemory : ctx.memoryLeft = true
  · simp only [TransferOperator.allocTransferHandle, hmemory, if_true, true_and,
      Option.some.injEq]
    exact eq_comm
  · simp [TransferOperator.allocTransferHandle, hmemory]

theorem getOperator_of_allocTransferHandle
    (h : op.allocTransferHandle ctx bufferLength numIsoPackets header = some handle) :
    handle.getOperator = op := by
  cases op with
  | generic owner => cases h; rfl
  | libusb =>
      obtain ⟨-, rfl⟩ := allocTransferHandle_libusb_eq_some_iff.mp h
      rfl
  | storage handler => cases h; rfl

theorem hasPackets_of_allocTransferHandle
    (h : op.allocTransferHandle ctx bufferLength numIsoPackets header = some handle) :
    handle.HasPackets numIsoPackets := by
  cases op with
  | generic owner =>
      cases h
      exact List.length_replicate
  | libusb =>
      obtain ⟨-, rfl⟩ := allocTransferHandle_libusb_eq_some_iff.mp h
      exact List.length_replicate
  | storage handler => cases h; trivial

theorem getOperator_of_recvTransferData {handle' : TransferHandle Handler} {length : Nat}
    {s rest : List UInt8} (h : handle.recvTransferData ctx length s = .ok (handle', rest)) :
    handle'.getOperator = handle.getOperator := by
  cases handle with
  | generic owner trx | libusb trx | storage handler trx =>
      obtain ⟨trx', left, -, hpure⟩ := bind_eq_ok_iff.mp h
      cases hpure
      rfl

theorem hasPackets_of_recvTransferData {handle' : TransferHandle Handler} {length : Nat}
    {s rest : List UInt8} (hpackets : handle.HasPackets numIsoPackets)
    (h : handle.recvTransferData ctx length s = .ok (handle', rest)) :
    handle'.HasPackets numIsoPackets := by
  cases handle with
  | generic owner trx =>
      obtain ⟨trx', left, hrecv, hpure⟩ := bind_eq_ok_iff.mp h
      cases hpure
      exact (GenericTransferOperator.length_of_recvTransferData hrecv).trans hpackets
  | libusb trx =>
      obtain ⟨trx', left, hrecv, hpure⟩ := bind_eq_ok_iff.mp h
      cases hpure
      exact (LibusbTransferOperator.slotBytes_of_recvTransferData hrecv).1.trans hpackets
  | storage handler trx =>
      obtain ⟨trx', left, -, hpure⟩ := bind_eq_ok_iff.mp h
      cases hpure
      trivial

end Alloc

section Receive

variable {ctx : ReceiveContext Handler} {length numIsoPackets : Nat} {s rest : List UInt8}

/-- Receiving a data stage takes the bytes of the stage and of its descriptors off the stream
just where the operator reads descriptors, or there are none to read and nothing but the
payload is taken. -/
theorem recvTransferData_takes_iff {handle handle' : TransferHandle Handler}
    (hpackets : handle.HasPackets numIsoPackets)
    (h : handle.recvTransferData ctx length s = .ok (handle', rest)) :
    rest <:+ s ∧
      (Takes (length + 16 * numIsoPackets) s rest ↔
        handle.TakesDataStage ctx length numIsoPackets s) := by
  cases handle with
  | generic owner trx =>
      obtain ⟨trx', mid, hrecv, hpure⟩ := bind_eq_ok_iff.mp h
      cases hpure
      obtain ⟨taken, rfl, htaken⟩ :=
        GenericTransferOperator.consumes_recvTransferData trx length s trx' rest hrecv
      rw [show trx.isoDescriptors.length = numIsoPackets from hpackets] at htaken
      exact ⟨List.suffix_append taken rest, iff_of_true ⟨taken, rfl, htaken⟩ trivial⟩
  | libusb trx =>
      obtain ⟨trx', mid, hrecv, hpure⟩ := bind_eq_ok_iff.mp h
      cases hpure
      obtain ⟨taken, rfl, htaken⟩ :=
        LibusbTransferOperator.consumes_recvTransferData trx length s trx' rest hrecv
      rw [show trx.isoPacketDesc.length = numIsoPackets from hpackets] at htaken
      exact ⟨List.suffix_append taken rest, iff_of_true ⟨taken, rfl, htaken⟩ trivial⟩
  | storage handler trx =>
      obtain ⟨trx', mid, hrecv, hpure⟩ := bind_eq_ok_iff.mp h
      cases hpure
      exact StorageTransferOperator.recvTransferData_takes_iff hrecv

/-- The transfer holds a data stage and its descriptors; what a storage transfer hands to the
backend goes to the medium instead. -/
def TransferHandle.Carries (handle : TransferHandle Handler) (payload : List UInt8)
    (descs : List UsbIpIsoPacketDescriptor) : Prop :=
  match handle with
  | .generic _ trx => trx.data.take payload.length = payload ∧ trx.isoDescriptors = descs
  | .libusb trx =>
      (trx.buffer.drop
        (if trx.length > payload.length then LibusbTransferOperator.controlSetupSize
          else 0)).take payload.length = payload ∧
        trx.isoPacketDesc = descs.map LibusbTransferOperator.setIsoDescriptor
  | .storage _ trx => trx.directIo = true ∨ trx.buffer.take payload.length = payload

/-- What a transfer's operator expects of the data stage: a libusb transfer has room for the
payload and rejects descriptors that its buffer does not hold. -/
def TransferHandle.Admits (handle : TransferHandle Handler) (payload : List UInt8)
    (descs : List UsbIpIsoPacketDescriptor) : Prop :=
  match handle with
  | .generic _ _ | .storage _ _ => True
  | .libusb trx =>
      LibusbTransferOperator.PacketsFit trx.length 0 descs ∧
        (payload ≠ [] → trx.length > payload.length →
          LibusbTransferOperator.controlSetupSize ≤ trx.buffer.length)

/-- A data stage with all its descriptors is received, and nothing behind it is touched. -/
theorem recvTransferData_received {handle : TransferHandle Handler} {payload : List UInt8}
    {descs : List UsbIpIsoPacketDescriptor} (hpackets : handle.HasPackets descs.length)
    (hadmits : handle.Admits payload descs)
    (hs : s = payload ++ (descs.flatMap UsbIpIsoPacketDescriptor.toBytes ++ rest))
    (htakes : handle.TakesDataStage ctx payload.length descs.length s) :
    ∃ handle', handle.recvTransferData ctx payload.length s = .ok (handle', rest) ∧
      handle'.Carries payload descs := by
  have hdescs := UsbIpIsoPacketDescriptor.length_flatMap_toBytes descs
  have hreceived : ∃ handle' left,
      handle.recvTransferData ctx payload.length s = .ok (handle', left) ∧
        handle'.Carries payload descs := by
    cases handle with
    | generic owner trx =>
        have hrecv := GenericTransferOperator.decodes_recvTransferData trx payload descs
          hpackets.symm rest
        rw [List.append_assoc, ← hs] at hrecv
        exact ⟨_, rest, bind_eq_ok_iff.mpr ⟨_, rest, hrecv, rfl⟩,
          take_drop_storeAt (Nat.zero_le _) payload, rfl⟩
    | libusb trx =>
        have hrecv := LibusbTransferOperator.decodes_recvTransferData payload hpackets.symm
          hadmits.1 rest
        rw [List.append_assoc, ← hs] at hrecv
        refine ⟨_, rest, bind_eq_ok_iff.mpr ⟨_, rest, hrecv, rfl⟩, ?_, rfl⟩
        by_cases hpayload : payload = []
        · subst hpayload
          rfl
        · refine take_drop_storeAt ?_ payload
          split
          next hlength => exact hadmits.2 hpayload hlength
          next => exact Nat.zero_le _
    | storage handler trx =>
        obtain ⟨trx', left, hrecv, hcarries⟩ :=
          StorageTransferOperator.recvTransferData_received (ctx.storageHandler handler) trx hs
            hdescs htakes
        exact ⟨.storage handler trx', left, bind_eq_ok_iff.mpr ⟨trx', left, hrecv, rfl⟩,
          hcarries⟩
  obtain ⟨handle', left, hrecv, hcarries⟩ := hreceived
  have htaken := (recvTransferData_takes_iff hpackets hrecv).2.mpr htakes
  have hleft : left = rest := by
    rw [← drop_eq_of_takes htaken, hs, ← hdescs, ← List.length_append, ← List.append_assoc,
      List.drop_left]
  exact ⟨handle', hleft ▸ hrecv, hcarries⟩

end Receive

end Usbipdcpp.Protocol
