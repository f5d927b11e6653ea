import Usbipdcpp.Protocol.DeviceList
import Usbipdcpp.Protocol.ReplyReading

namespace Usbipdcpp.Protocol.OpRequests

open Foundation.ByteStream DeviceList

def opReqDevlist : UInt16 := 0x8005

def opReqImport : UInt16 := 0x8003

/-- The errors with which `get_op_from_socket` fails. -/
inductive OpError where
  | unknownVersion
  | unknownCmd
  | socketEof
  | socketErr
  deriving DecidableEq, Repr

structure OpReqDevlist where
  status : UInt32
  deriving DecidableEq, Repr

namespace OpReqDevlist

def toBytes (req : OpReqDevlist) : List UInt8 :=
  u16ToBytes usbipVersion ++ u16ToBytes opReqDevlist ++ u32ToBytes req.status

/-- The status is read and not looked at. -/
def fromSocket : Reader OpReqDevlist := do
  let status ← readU32
  return { status }

end OpReqDevlist

structure OpReqImport where
  status : UInt32
  busid : List UInt8
  deriving DecidableEq, Repr

namespace OpReqImport

def toBytes (req : OpReqImport) : List UInt8 :=
  u16ToBytes usbipVersion ++ u16ToBytes opReqImport ++ u32ToBytes req.status ++ req.busid

def fromSocket : Reader OpReqImport := do
  let status ← readU32
  let busid ← readBytes .eof 32
  return { status, busid }

/-- The busid is whatever the client sends: its last byte is overwritten, so that the string
ends inside it. -/
def wantedBusid (req : OpReqImport) : List UInt8 :=
  untilNul (req.busid.set 31 0)

theorem wantedBusid_nulPadded {busid : List UInt8} (hlength : busid.length ≤ 31)
    (hnul : 0 ∉ busid) (status : UInt32) :
    wantedBusid ⟨status, nulPadded 32 busid⟩ = busid := by
  have hlast : (nulPadded 32 busid).set 31 0 = nulPadded 32 busid := by
    have hpadding : 32 - busid.length = (31 - busid.length) + 1 := by omega
    rw [nulPadded, List.take_of_length_le hlength,
      List.set_append_right (s := busid) 31 (0 : UInt8) hlength, hpadding,
      List.replicate_succ', List.set_append_right _ _ (by simp), List.length_replicate,
      Nat.sub_self, List.set_cons_zero]
  rw [wantedBusid, hlast]
  exact untilNul_nulPadded hlength hnul

end OpReqImport

inductive OpCmdVariant where
  | opReqDevlist (req : OpReqDevlist)
  | opReqImport (req : OpReqImport)
  deriving DecidableEq, Repr

namespace OpCmdVariant

def toBytes : OpCmdVariant → List UInt8
  | .opReqDevlist req => req.toBytes
  | .opReqImport req => req.toBytes

/-- What the request takes of the stream. -/
def size : OpCmdVariant → Nat
  | .opReqDevlist _ => 8
  | .opReqImport _ => 40

/-- The busid fills its field. -/
def WellFormed : OpCmdVariant → Prop
  | .opReqDevlist _ => True
  | .opReqImport req => req.busid.length = 32

end OpCmdVariant

def readOp : Reader (Except OpError OpCmdVariant) := do
  let version ← readU16
  if version ≠ 0 ∧ version ≠ usbipVersion then return .error .unknownVersion
  else
    let op ← readU16
    if op = opReqDevlist then
      let req ← OpReqDevlist.fromSocket
      return .ok (.opReqDevlist req)
    else if op = opReqImport then
      let req ← OpReqImport.fromSocket
      return .ok (.opReqImport req)
    else return .error .unknownCmd

def getOpFromSocket : ByteReader OpError OpCmdVariant := fun s =>
  match readOp s with
  | .ok (.ok op, rest) => .ok (op, rest)
  | .ok (.error e, _) => .error e
  | .error .eof => .error .socketEof
  | .error _ => .error .socketErr

theorem getOpFromSocket_eq_ok_iff {s rest : List UInt8} {op : OpCmdVariant} :
    getOpFromSocket s = .ok (op, rest) ↔ readOp s = .ok (.ok op, rest) := by
  unfold getOpFromSocket
  split <;> simp_all

theorem decodes_readOp {op : OpCmdVariant} (h : op.WellFormed) :
    Decodes readOp op.toBytes (.ok op) := by
  have hversion (k : Reader (Except OpError OpCmdVariant)) :
      (if usbipVersion ≠ 0 ∧ usbipVersion ≠ usbipVersion then
        pure (.error .unknownVersion) else k) = k := if_neg fun h => h.2 rfl
  cases op with
  | opReqDevlist req =>
      refine decodes_of_bytes_eq (List.append_assoc _ _ _).symm <|
        decodes_bind (decodes_readU16 usbipVersion) ?_
      rw [hversion]
      refine decodes_bind (decodes_readU16 OpRequests.opReqDevlist) ?_
      rw [if_pos rfl]
      exact decodes_of_bytes_eq (by simp) <|
        decodes_bind (decodes_bind (decodes_readU32 req.status) (decodes_pure _)) <|
          decodes_pure _
  | opReqImport req =>
      have hbusid : Decodes (readBytes SocketError.eof 32) req.busid req.busid := by
        have hread := decodes_readBytes SocketError.eof req.busid
        rwa [show req.busid.length = 32 from h] at hread
      have hbytes : u16ToBytes usbipVersion ++ (u16ToBytes OpRequests.opReqImport ++
          (u32ToBytes req.status ++ req.busid)) = (OpCmdVariant.opReqImport req).toBytes := by
        simp [OpCmdVariant.toBytes, OpReqImport.toBytes]
      refine decodes_of_bytes_eq hbytes <| decodes_bind (decodes_readU16 usbipVersion) ?_
      rw [hversion]
      refine decodes_bind (decodes_readU16 OpRequests.opReqImport) ?_
      rw [if_neg (by decide), if_pos rfl]
      exact decodes_of_bytes_eq (by simp) <|
        decodes_bind (decodes_bind (decodes_readU32 req.status) <|
          decodes_bind hbusid <| decodes_pure _) <| decodes_pure _

theorem consumes_readU16 : Consumes readU16 fun _ => 2 :=
  consumes_bind (consumes_readBytes _ 2) fun _ => consumes_pure _

theorem takes_of_getOpFromSocket {s rest : List UInt8} {op : OpCmdVariant}
    (h : getOpFromSocket s = .ok (op, rest)) : Takes op.size s rest := by
  obtain ⟨version, behindVersion, hversion, h⟩ :=
    bind_eq_ok_iff.mp (getOpFromSocket_eq_ok_iff.mp h)
  split at h
  next => cases h
  next =>
    obtain ⟨command, behindCommand, hcommand, h⟩ := bind_eq_ok_iff.mp h
    have hheader {n : Nat} (hbody : Takes n behindCommand rest) : Takes (2 + (2 + n)) s rest := by
      have hrest : Takes (2 + n) behindVersion rest :=
        (takes_add_iff (consumes_readU16 _ _ _ hcommand) (suffix_of_takes hbody)).mpr hbody
      exact (takes_add_iff (consumes_readU16 _ _ _ hversion) (suffix_of_takes hrest)).mpr hrest
    split at h
    next =>
      obtain ⟨req, behind, hreq, h⟩ := bind_eq_ok_iff.mp h
      cases h
      have hconsumes : Consumes OpReqDevlist.fromSocket fun _ => 4 :=
        consumes_bind consumes_readU32 fun _ => consumes_pure _
      exact hheader (hconsumes _ _ _ hreq)
    next =>
      split at h
      next =>
        obtain ⟨req, behind, hreq, h⟩ := bind_eq_ok_iff.mp h
        cases h
        have hconsumes : Consumes OpReqImport.fromSocket fun _ => 36 :=
          consumes_bind consumes_readU32 fun _ =>
            consumes_bind (consumes_readBytes _ 32) fun _ => consumes_pure _
        exact hheader (hconsumes _ _ _ hreq)
      next => cases h

/-- A request is read back from its bytes, and nothing behind them is touched. -/
theorem decodes_getOpFromSocket {op : OpCmdVariant} (h : op.WellFormed) :
    Decodes getOpFromSocket op.toBytes op :=
  fun rest => getOpFromSocket_eq_ok_iff.mpr (decodes_readOp h rest)

/-! A reply that is cut off is not taken for another one. -/

theorem extends_readU16 : Extends readU16 :=
  extends_bind (extends_readBytes _ _) fun _ => extends_pure _

theorem extends_readU8 : Extends readU8 :=
  extends_bind (extends_readBytes _ _) fun _ => extends_pure _

theorem extends_readString (size : Nat) : Extends (readString size) :=
  extends_bind (extends_readBytes _ _) fun _ => extends_pure _

theorem UsbInterface.extends_fromSocket : Extends UsbInterface.fromSocket :=
  extends_bind extends_readU8 fun _ => extends_bind extends_readU8 fun _ =>
    extends_bind extends_readU8 fun _ => extends_bind extends_readU8 fun _ => extends_pure _

theorem UsbDevice.extends_fromSocket : Extends UsbDevice.fromSocket :=
  extends_bind (extends_readString _) fun _ => extends_bind (extends_readString _) fun _ =>
    extends_bind extends_readU32 fun _ => extends_bind extends_readU32 fun _ =>
      extends_bind extends_readU32 fun _ => extends_bind extends_readU16 fun _ =>
        extends_bind extends_readU16 fun _ => extends_bind extends_readU16 fun _ =>
          extends_bind extends_readU8 fun _ => extends_bind extends_readU8 fun _ =>
            extends_bind extends_readU8 fun _ => extends_bind extends_readU8 fun _ =>
              extends_bind extends_readU8 fun _ => extends_bind extends_readU8 fun _ =>
                extends_pure _

theorem OpRepDevlist.extends_fromSocket : Extends OpRepDevlist.fromSocket :=
  extends_bind extends_readU32 fun _ => extends_bind extends_readU32 fun _ =>
    extends_bind (extends_readMany
      (extends_bind UsbDevice.extends_fromSocket fun _ =>
        extends_bind (extends_readMany UsbInterface.extends_fromSocket _) fun _ =>
          extends_pure _) _) fun _ => extends_pure _

theorem OpRepImport.extends_fromSocket (received : OpRepImport) :
    Extends received.fromSocket := by
  refine extends_bind extends_readU32 fun status => ?_
  split
  · exact extends_bind UsbDevice.extends_fromSocket fun _ => extends_pure _
  · exact extends_pure _

theorem extends_readReply {α : Type} {fromSocket : Reader α} (h : Extends fromSocket) :
    Extends (readReply fromSocket) :=
  extends_bind extends_readU16 fun _ => extends_bind extends_readU16 fun _ =>
    extends_bind h fun _ => extends_pure _

theorem not_read_of_nil {α : Type} {fromSocket : Reader α} {received : UInt16 × UInt16 × α}
    {left : List UInt8} : readReply fromSocket [] ≠ .ok (received, left) :=
  needs_bind (needs_bind (needs_readBytes _ (by decide))) received left

theorem read_devlist {devices : List UsbDevice} (hlength : devices.length < 2 ^ 32)
    (hfit : ∀ device ∈ devices, device.Representable) {sent left : List UInt8}
    (hsent : sent <+: (OpRepDevlist.createFromDevices devices).toBytes)
    {received : UInt16 × UInt16 × OpRepDevlist}
    (hread : readReply OpRepDevlist.fromSocket sent = .ok (received, left)) :
    received = (usbipVersion, opRepDevlist, .createFromDevices devices) ∧ left = [] := by
  have hdecodes : Decodes (readReply OpRepDevlist.fromSocket)
      (OpRepDevlist.createFromDevices devices).toBytes
      (usbipVersion, opRepDevlist, .createFromDevices devices) := by
    refine decodes_of_bytes_eq ?_ <| decodes_readReply usbipVersion opRepDevlist <|
      OpRepDevlist.decodes_fromSocket (OpRepDevlist.deviceCount_createFromDevices hlength) hfit
    simp only [OpRepDevlist.toBytes, OpRepDevlist.headerBytes, List.append_assoc]
  obtain ⟨hreceived, hleft, -⟩ :=
    eq_of_prefix (extends_readReply OpRepDevlist.extends_fromSocket) hdecodes hsent hread
  exact ⟨hreceived, hleft⟩

theorem read_import_success {device : UsbDevice} (hfit : device.Representable)
    {sent left : List UInt8} (hsent : sent <+: (OpRepImport.createOnSuccess device).toBytes)
    {received : UInt16 × UInt16 × OpRepImport}
    (hread : readReply (OpRepImport.fromSocket ⟨0, none⟩) sent = .ok (received, left)) :
    received = (usbipVersion, opRepImport, .createOnSuccess device.withoutBodies) ∧
      left = [] := by
  have hdecodes : Decodes (readReply (OpRepImport.fromSocket ⟨0, none⟩))
      (OpRepImport.createOnSuccess device).toBytes
      (usbipVersion, opRepImport, .createOnSuccess device.withoutBodies) := by
    refine decodes_of_bytes_eq ?_ <| decodes_readReply usbipVersion opRepImport <|
      OpRepImport.decodes_success ⟨0, none⟩ hfit
    simp only [OpRepImport.toBytes, OpRepImport.headerBytes, OpRepImport.createOnSuccess,
      if_true, List.append_assoc]
  obtain ⟨hreceived, hleft, -⟩ :=
    eq_of_prefix (extends_readReply (OpRepImport.extends_fromSocket _)) hdecodes hsent hread
  exact ⟨hreceived, hleft⟩

theorem read_import_failure {status : UInt32} (hstatus : status ≠ 0) {sent left : List UInt8}
    (hsent : sent <+: (OpRepImport.createOnFailureWithStatus status).toBytes)
    {received : UInt16 × UInt16 × OpRepImport}
    (hread : readReply (OpRepImport.fromSocket ⟨0, none⟩) sent = .ok (received, left)) :
    received = (usbipVersion, opRepImport, .createOnFailureWithStatus status) ∧ left = [] := by
  have hdecodes : Decodes (readReply (OpRepImport.fromSocket ⟨0, none⟩))
      (OpRepImport.createOnFailureWithStatus status).toBytes
      (usbipVersion, opRepImport, .createOnFailureWithStatus status) := by
    refine decodes_of_bytes_eq ?_ <| decodes_readReply usbipVersion opRepImport <|
      OpRepImport.decodes_failure ⟨0, none⟩ hstatus
    exact (if_neg hstatus).symm
  obtain ⟨hreceived, hleft, -⟩ :=
    eq_of_prefix (extends_readReply (OpRepImport.extends_fromSocket _)) hdecodes hsent hread
  exact ⟨hreceived, hleft⟩

end Usbipdcpp.Protocol.OpRequests
