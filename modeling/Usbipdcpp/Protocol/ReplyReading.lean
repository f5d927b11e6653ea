import Usbipdcpp.Foundation.StreamPrefix
import Usbipdcpp.Protocol.ReplyFraming

namespace Usbipdcpp.Protocol

open Foundation.ByteStream

variable {Handler : Type}

theorem extends_readU32 : Extends readU32 :=
  extends_bind (extends_readBytes _ 4) fun _ => extends_pure _

theorem UsbIpHeaderBasic.extends_fromSocket (command : UInt32) : Extends (fromSocket command) :=
  extends_bind extends_readU32 fun _ => extends_bind extends_readU32 fun _ =>
    extends_bind extends_readU32 fun _ => extends_bind extends_readU32 fun _ => extends_pure _

namespace UsbIpIsoPacketDescriptor

theorem extends_fromSocket : Extends fromSocket :=
  extends_bind extends_readU32 fun _ => extends_bind extends_readU32 fun _ =>
    extends_bind extends_readU32 fun _ => extends_bind extends_readU32 fun _ => extends_pure _

/-- Any sixteen bytes are those of a descriptor. -/
theorem exists_toBytes_eq {bytes : List UInt8} (h : bytes.length = 16) :
    ∃ desc : UsbIpIsoPacketDescriptor, desc.toBytes = bytes := by
  have hword : ∀ word : List UInt8, word.length = 4 → ∃ x : UInt32, u32ToBytes x = word := by
    intro word hlength
    have hlt : natOfBytes word < 2 ^ 32 := by
      have := natOfBytes_lt word
      rwa [hlength] at this
    refine ⟨.ofNat (natOfBytes word), ?_⟩
    rw [u32ToBytes, UInt32.toNat_ofNat_of_lt' hlt]
    simpa [hlength] using bytesOfNat_natOfBytes word
  obtain ⟨offset, hoffset⟩ := hword (bytes.take 4) (by simp [h])
  obtain ⟨length, hlen⟩ := hword ((bytes.drop 4).take 4) (by simp [h])
  obtain ⟨actualLength, hactual⟩ := hword ((bytes.drop 8).take 4) (by simp [h])
  obtain ⟨status, hstatus⟩ := hword (bytes.drop 12) (by simp [h])
  refine ⟨⟨offset, length, actualLength, status⟩, ?_⟩
  rw [toBytes, hoffset, hlen, hactual, hstatus]
  have hbehind (m : Nat) : (bytes.drop m).take 4 ++ bytes.drop (m + 4) = bytes.drop m := by
    rw [← List.drop_drop, List.take_append_drop]
  rw [List.append_assoc, List.append_assoc, hbehind 8, hbehind 4, List.take_append_drop]

/-- Where as many bytes follow as `n` descriptors take, they are those of `n` descriptors. -/
theorem exists_flatMap_toBytes_eq {n : Nat} {bytes : List UInt8} (h : bytes.length = 16 * n) :
    ∃ descs : List UsbIpIsoPacketDescriptor, descs.length = n ∧ descs.flatMap toBytes = bytes := by
  induction n generalizing bytes with
  | zero => exact ⟨[], rfl, (List.eq_nil_of_length_eq_zero h).symm⟩
  | succ n ih =>
      have hfirst : (bytes.take 16).length = 16 := List.length_take_of_le (by omega)
      have hothers : (bytes.drop 16).length = 16 * n := by
        rw [List.length_drop]
        omega
      obtain ⟨desc, hdesc⟩ := exists_toBytes_eq hfirst
      obtain ⟨descs, hcount, hdescs⟩ := ih hothers
      refine ⟨desc :: descs, by rw [List.length_cons, hcount], ?_⟩
      rw [List.flatMap_cons, hdesc, hdescs, List.take_append_drop]

end UsbIpIsoPacketDescriptor

namespace UsbIpRetSubmit

/-- The command has been read already.  Whether a data stage follows is not known from the
header of a reply, and it is not read here. -/
def fromSocket : Reader (UsbIpRetSubmit Handler) := do
  let header ← UsbIpHeaderBasic.fromSocket usbipRetSubmit
  let status ← readU32
  let actualLength ← readU32
  let startFrame ← readU32
  let numberOfPackets ← readU32
  let errorCount ← readU32
  let _ ← readBytes .eof 8
  return { header, status, actualLength, startFrame, numberOfPackets, errorCount,
           transfer := none }

theorem extends_fromSocket : Extends (fromSocket : Reader (UsbIpRetSubmit Handler)) :=
  extends_bind (UsbIpHeaderBasic.extends_fromSocket _) fun _ =>
    extends_bind extends_readU32 fun _ => extends_bind extends_readU32 fun _ =>
      extends_bind extends_readU32 fun _ => extends_bind extends_readU32 fun _ =>
        extends_bind extends_readU32 fun _ => extends_bind (extends_readBytes _ 8) fun _ =>
          extends_pure _

theorem decodes_fromSocket {ret : UsbIpRetSubmit Handler}
    (hcommand : ret.header.command = usbipRetSubmit) :
    Decodes fromSocket (ret.headerBytes.drop 4)
      ({ ret with transfer := none } : UsbIpRetSubmit Handler) := by
  have hheader : Decodes (UsbIpHeaderBasic.fromSocket usbipRetSubmit) _ ret.header :=
    hcommand ▸ UsbIpHeaderBasic.decodes_fromSocket ret.header
  refine decodes_of_bytes_eq ?_ <|
    decodes_bind hheader <|
      decodes_bind (decodes_readU32 ret.status) <|
        decodes_bind (decodes_readU32 ret.actualLength) <|
          decodes_bind (decodes_readU32 ret.startFrame) <|
            decodes_bind (decodes_readU32 ret.numberOfPackets) <|
              decodes_bind (decodes_readU32 ret.errorCount) <|
                decodes_bind (decodes_readBytes SocketError.eof (.replicate 8 0)) <|
                  decodes_pure { ret with transfer := none }
  simp [headerBytes, UsbIpHeaderBasic.toBytes]

/-- What is sent behind the header. -/
def payload (storageHandler : Handler → MscBulkOnlyHandler) (ret : UsbIpRetSubmit Handler) :
    List UInt8 :=
  (ret.toSocket storageHandler).drop 48

theorem toSocket_eq (storageHandler : Handler → MscBulkOnlyHandler)
    (ret : UsbIpRetSubmit Handler) :
    ret.toSocket storageHandler =
      u32ToBytes ret.header.command ++ (ret.headerBytes.drop 4 ++ ret.payload storageHandler) := by
  have hcommand : ret.headerBytes = u32ToBytes ret.header.command ++ ret.headerBytes.drop 4 := by
    simp [headerBytes, UsbIpHeaderBasic.toBytes]
  have hsent : ret.toSocket storageHandler = ret.headerBytes ++ ret.payload storageHandler := by
    unfold payload toSocket
    split
    next => simp [List.drop_of_length_le]
    next => split <;> simp [List.drop_of_length_le]
  rw [← List.append_assoc, ← hcommand, hsent]

theorem length_payload {storageHandler : Handler → MscBulkOnlyHandler}
    {ret : UsbIpRetSubmit Handler} (hframed : ret.Framed storageHandler) :
    (ret.payload storageHandler).length = ret.dataLength + 16 * ret.numberOfPackets.toNat := by
  rw [payload, List.length_drop, hframed, wireLength]
  omega

/-- Behind the header of a framed reply lie its data and as many descriptors as it announces. -/
theorem exists_split_of_framed {storageHandler : Handler → MscBulkOnlyHandler}
    (ret : UsbIpRetSubmit Handler) (hframed : ret.Framed storageHandler) :
    ∃ (data : List UInt8) (descs : List UsbIpIsoPacketDescriptor),
      data.length = ret.dataLength ∧ descs.length = ret.numberOfPackets.toNat ∧
        data ++ descs.flatMap UsbIpIsoPacketDescriptor.toBytes = ret.payload storageHandler := by
  have hlength := length_payload hframed
  have hbehind : ((ret.payload storageHandler).drop ret.dataLength).length =
      16 * ret.numberOfPackets.toNat := by
    rw [List.length_drop]
    omega
  obtain ⟨descs, hcount, hdescs⟩ := UsbIpIsoPacketDescriptor.exists_flatMap_toBytes_eq hbehind
  refine ⟨(ret.payload storageHandler).take ret.dataLength, descs,
    List.length_take_of_le (by omega), hcount, ?_⟩
  rw [hdescs, List.take_append_drop]

end UsbIpRetSubmit

namespace UsbIpRetUnlink

def toBytes (ret : UsbIpRetUnlink) : List UInt8 :=
  ret.header.toBytes ++ u32ToBytes ret.status ++ .replicate 24 0

/-- The command has been read already. -/
def fromSocket : Reader UsbIpRetUnlink := do
  let header ← UsbIpHeaderBasic.fromSocket usbipRetUnlink
  let status ← readU32
  let _ ← readBytes .eof 24
  return { header, status }

theorem extends_fromSocket : Extends fromSocket :=
  extends_bind (UsbIpHeaderBasic.extends_fromSocket _) fun _ =>
    extends_bind extends_readU32 fun _ => extends_bind (extends_readBytes _ 24) fun _ =>
      extends_pure _

theorem decodes_fromSocket {ret : UsbIpRetUnlink}
    (hcommand : ret.header.command = usbipRetUnlink) :
    Decodes fromSocket (ret.toBytes.drop 4) ret := by
  have hheader : Decodes (UsbIpHeaderBasic.fromSocket usbipRetUnlink) _ ret.header :=
    hcommand ▸ UsbIpHeaderBasic.decodes_fromSocket ret.header
  refine decodes_of_bytes_eq ?_ <|
    decodes_bind hheader <|
      decodes_bind (decodes_readU32 ret.status) <|
        decodes_bind (decodes_readBytes SocketError.eof (.replicate 24 0)) <| decodes_pure ret
  simp [toBytes, UsbIpHeaderBasic.toBytes]

theorem toBytes_eq (ret : UsbIpRetUnlink) :
    ret.toBytes = u32ToBytes ret.header.command ++ ret.toBytes.drop 4 := by
  simp [toBytes, UsbIpHeaderBasic.toBytes]

end UsbIpRetUnlink

/-- A response in the queue of a session, with the storage handlers that the sender finds when
it writes it. -/
inductive RetVariant (Handler : Type) where
  | retSubmit (ret : UsbIpRetSubmit Handler) (storageHandler : Handler → MscBulkOnlyHandler)
  | retUnlink (ret : UsbIpRetUnlink)

/-- What a client has taken off the socket. -/
inductive ClientReply (Handler : Type) where
  | retSubmit (ret : UsbIpRetSubmit Handler) (data : List UInt8)
      (isoDescriptors : List UsbIpIsoPacketDescriptor)
  | retUnlink (ret : UsbIpRetUnlink)
  deriving DecidableEq, Repr

/-- A reply as a client reads it that knows, by its seqnum, whether the transfer of a command is
one to the host. -/
def ClientReply.fromSocket (isIn : UInt32 → Bool) : Reader (ClientReply Handler) := do
  let command ← readU32
  if command = usbipRetSubmit then do
    let ret ← UsbIpRetSubmit.fromSocket
    let data ← readBytes .eof (if isIn ret.header.seqnum then ret.actualLength.toNat else 0)
    let isoDescriptors ← readMany UsbIpIsoPacketDescriptor.fromSocket ret.numberOfPackets.toNat
    return .retSubmit ret data isoDescriptors
  else if command = usbipRetUnlink then do
    let ret ← UsbIpRetUnlink.fromSocket
    return .retUnlink ret
  else fail .protocolError

namespace RetVariant

def toSocket : RetVariant Handler → List UInt8
  | .retSubmit ret storageHandler => ret.toSocket storageHandler
  | .retUnlink ret => ret.toBytes

theorem toSocket_ne_nil (response : RetVariant Handler) : response.toSocket ≠ [] := by
  have hword (x : UInt32) (bytes : List UInt8) : u32ToBytes x ++ bytes ≠ [] := by
    intro h
    have hlength := congrArg List.length h
    rw [List.length_append, length_u32ToBytes, List.length_nil] at hlength
    omega
  cases response with
  | retSubmit ret storageHandler =>
      rw [toSocket, UsbIpRetSubmit.toSocket_eq]
      exact hword _ _
  | retUnlink ret =>
      rw [toSocket, UsbIpRetUnlink.toBytes_eq]
      exact hword _ _

/-- The response says of itself what it is and how long, and its transfer runs in the direction
in which the client has it run, where that makes a difference. -/
def Readable (isIn : UInt32 → Bool) : RetVariant Handler → Prop
  | .retSubmit ret storageHandler =>
      ret.header.command = usbipRetSubmit ∧ ret.Framed storageHandler ∧
        (ret.actualLength = 0 ∨ isIn ret.header.seqnum = ret.transferIsIn)
  | .retUnlink ret => ret.header.command = usbipRetUnlink

/-- The client has of a response its fields and all that was sent behind them. -/
inductive ReadAs : RetVariant Handler → ClientReply Handler → Prop where
  | retSubmit {ret : UsbIpRetSubmit Handler} {storageHandler : Handler → MscBulkOnlyHandler}
      {data : List UInt8} {isoDescriptors : List UsbIpIsoPacketDescriptor}
      (hdata : data.length = ret.dataLength)
      (hcount : isoDescriptors.length = ret.numberOfPackets.toNat)
      (hpayload : data ++ isoDescriptors.flatMap UsbIpIsoPacketDescriptor.toBytes =
        ret.payload storageHandler) :
      ReadAs (.retSubmit ret storageHandler)
        (.retSubmit { ret with transfer := none } data isoDescriptors)
  | retUnlink {ret : UsbIpRetUnlink} : ReadAs (.retUnlink ret) (.retUnlink ret)

theorem exists_decodes_of_readable {isIn : UInt32 → Bool} {response : RetVariant Handler}
    (h : response.Readable isIn) :
    ∃ reply, Decodes (ClientReply.fromSocket isIn) response.toSocket reply ∧
      response.ReadAs reply := by
  cases response with
  | retSubmit ret storageHandler =>
      obtain ⟨hcommand, hframed, hdirection⟩ := h
      have hexpected : (if isIn ret.header.seqnum then ret.actualLength.toNat else 0) =
          ret.dataLength := by
        rcases hdirection with hzero | hin
        · simp [UsbIpRetSubmit.dataLength, hzero]
        · rw [hin, UsbIpRetSubmit.dataLength]
      obtain ⟨data, descs, hdata, hcount, hpayload⟩ := ret.exists_split_of_framed hframed
      refine ⟨_, ?_, .retSubmit hdata hcount hpayload⟩
      have hreadDescs : Decodes (readMany UsbIpIsoPacketDescriptor.fromSocket
          ret.numberOfPackets.toNat) (descs.flatMap UsbIpIsoPacketDescriptor.toBytes) descs :=
        hcount ▸ decodes_readMany UsbIpIsoPacketDescriptor.decodes_fromSocket descs
      rw [toSocket, UsbIpRetSubmit.toSocket_eq, hcommand, ← hpayload]
      refine decodes_bind (decodes_readU32 usbipRetSubmit) ?_
      rw [if_pos rfl]
      refine decodes_bind (UsbIpRetSubmit.decodes_fromSocket hcommand) ?_
      refine decodes_bind (a := data) ?_ ?_
      · rw [hexpected, ← hdata]
        exact decodes_readBytes SocketError.eof data
      · exact decodes_of_bytes_eq (List.append_nil _) <|
          decodes_bind hreadDescs <| decodes_pure _
  | retUnlink ret =>
      refine ⟨.retUnlink ret, ?_, .retUnlink⟩
      rw [toSocket, UsbIpRetUnlink.toBytes_eq, h]
      refine decodes_bind (decodes_readU32 usbipRetUnlink) ?_
      rw [if_neg (by decide), if_pos rfl]
      exact decodes_of_bytes_eq (List.append_nil _) <|
        decodes_bind (UsbIpRetUnlink.decodes_fromSocket h) <| decodes_pure _

end RetVariant

end Usbipdcpp.Protocol
