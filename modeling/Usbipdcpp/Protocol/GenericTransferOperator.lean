import Usbipdcpp.Protocol.Wire

namespace Usbipdcpp.Protocol

open Foundation.ByteStream

/-- The `n` bytes from `offset` on, which are read whether or not the buffer holds them. -/
def bytesAt (buffer : List UInt8) (offset n : Nat) : List UInt8 :=
  (List.range n).map fun i => buffer.getD (offset + i) 0

theorem bytesAt_zero (bytes : List UInt8) : bytesAt bytes 0 bytes.length = bytes := by
  refine List.ext_getElem (by simp [bytesAt]) fun i _ hi => ?_
  simp [bytesAt, hi]

/-- The buffer with `bytes` stored from `offset` on. -/
def storeAt (buffer : List UInt8) (offset : Nat) (bytes : List UInt8) : List UInt8 :=
  buffer.take offset ++ bytes ++ buffer.drop (offset + bytes.length)

@[simp] theorem length_bytesAt (buffer : List UInt8) (offset n : Nat) :
    (bytesAt buffer offset n).length = n := by
  simp [bytesAt]

theorem take_drop_storeAt {buffer : List UInt8} {offset : Nat} (h : offset ≤ buffer.length)
    (bytes : List UInt8) :
    ((storeAt buffer offset bytes).drop offset).take bytes.length = bytes := by
  have htake : (buffer.take offset).length = offset := List.length_take_of_le h
  rw [storeAt, List.append_assoc, List.drop_append_of_le_length (by omega), List.drop_of_length_le
    (by omega), List.nil_append, List.take_left]

theorem length_storeAt {buffer bytes : List UInt8} {offset : Nat}
    (h : offset + bytes.length ≤ buffer.length) :
    (storeAt buffer offset bytes).length = buffer.length := by
  rw [storeAt, List.length_append, List.length_append, List.length_take, List.length_drop]
  omega

theorem length_le_length_storeAt {buffer bytes : List UInt8} {offset : Nat} :
    buffer.length ≤ (storeAt buffer offset bytes).length := by
  rw [storeAt, List.length_append, List.length_append, List.length_take, List.length_drop]
  omega

@[simp] theorem storeAt_nil {buffer : List UInt8} {offset : Nat} :
    storeAt buffer offset [] = buffer := by
  simp [storeAt]

/-- What is stored is found where it has been stored, and all else where it was. -/
theorem getElem?_storeAt {buffer bytes : List UInt8} {offset : Nat}
    (h : offset + bytes.length ≤ buffer.length) (i : Nat) :
    (storeAt buffer offset bytes)[i]? =
      if offset ≤ i ∧ i < offset + bytes.length then bytes[i - offset]? else buffer[i]? := by
  have htake : (buffer.take offset).length = offset := List.length_take_of_le (by omega)
  rw [storeAt, List.append_assoc]
  rcases Nat.lt_or_ge i offset with hi | hi
  · rw [List.getElem?_append_left (htake.symm ▸ hi), if_neg (by omega), List.getElem?_take,
      if_pos hi]
  · rw [List.getElem?_append_right (htake.symm ▸ hi), htake]
    rcases Nat.lt_or_ge i (offset + bytes.length) with hin | hbehind
    · rw [List.getElem?_append_left (by omega), if_pos ⟨hi, hin⟩]
    · rw [List.getElem?_append_right (by omega), if_neg (by omega), List.getElem?_drop]
      congr 1
      omega

/-- Storing goes on where it has stopped. -/
theorem storeAt_storeAt {buffer : List UInt8} {offset : Nat} (bytes more : List UInt8)
    (h : offset + bytes.length ≤ buffer.length) :
    storeAt (storeAt buffer offset bytes) (offset + bytes.length) more =
      storeAt buffer offset (bytes ++ more) := by
  have htake : (buffer.take offset).length = offset := List.length_take_of_le (by omega)
  have hstored : (buffer.take offset ++ bytes).length = offset + bytes.length := by
    rw [List.length_append, htake]
  rw [storeAt, storeAt, storeAt, List.take_left' hstored, List.length_append,
    List.drop_append, hstored, List.drop_drop,
    List.drop_of_length_le (by rw [hstored]; omega), List.nil_append, List.append_assoc _ bytes]
  congr 2
  omega

theorem bytesAt_append (buffer : List UInt8) (offset m n : Nat) :
    bytesAt buffer offset m ++ bytesAt buffer (offset + m) n = bytesAt buffer offset (m + n) := by
  rw [bytesAt, bytesAt, bytesAt, List.range_add, List.map_append, List.map_map]
  simp only [Function.comp_def, Nat.add_assoc]

theorem bytesAt_eq_take_drop {buffer : List UInt8} {offset n : Nat}
    (h : offset + n ≤ buffer.length) : bytesAt buffer offset n = (buffer.drop offset).take n := by
  refine List.ext_getElem (by simp; omega) fun i hi _ => ?_
  rw [length_bytesAt] at hi
  have hbuffer : offset + i < buffer.length := by omega
  simp [bytesAt, hbuffer]

/-- A part of what is read is what is read there. -/
theorem take_drop_bytesAt {buffer : List UInt8} {offset i m n : Nat} (h : i + m ≤ n) :
    ((bytesAt buffer offset n).drop i).take m = bytesAt buffer (offset + i) m := by
  have hsplit : bytesAt buffer offset n = bytesAt buffer offset i ++
      (bytesAt buffer (offset + i) m ++ bytesAt buffer (offset + i + m) (n - (i + m))) := by
    rw [bytesAt_append, bytesAt_append]
    congr 1
    omega
  rw [hsplit, List.drop_left' (length_bytesAt buffer offset i),
    List.take_left' (length_bytesAt buffer (offset + i) m)]

/-- The data stage of a command: `length` bytes, stored from `offset` on. -/
def readPayload (buffer : List UInt8) (offset length : Nat) : Reader (List UInt8) :=
  if 0 < length then do
    let bytes ← readBytes .eof length
    return storeAt buffer offset bytes
  else
    return buffer

theorem consumes_readPayload (buffer : List UInt8) (offset length : Nat) :
    Consumes (readPayload buffer offset length) fun _ => length := by
  unfold readPayload
  split
  next => exact consumes_bind (consumes_readBytes _ length) fun _ => consumes_pure _
  next h =>
    obtain rfl : length = 0 := by omega
    exact consumes_pure buffer

theorem decodes_readPayload (buffer : List UInt8) (offset : Nat) (bytes : List UInt8) :
    Decodes (readPayload buffer offset bytes.length) bytes (storeAt buffer offset bytes) := by
  unfold readPayload
  split
  next =>
    exact decodes_of_bytes_eq (by simp) <|
      decodes_bind (decodes_readBytes _ bytes) (decodes_pure (storeAt buffer offset bytes))
  next h =>
    obtain rfl : bytes = [] := List.eq_nil_of_length_eq_zero (by omega)
    simpa [storeAt] using decodes_pure (ε := SocketError) buffer

theorem length_of_readPayload {buffer data s rest : List UInt8} {offset length : Nat}
    (hroom : offset + length ≤ buffer.length)
    (h : readPayload buffer offset length s = .ok (data, rest)) : data.length = buffer.length := by
  unfold readPayload at h
  split at h
  next =>
    obtain ⟨bytes, mid, hbytes, hpure⟩ := bind_eq_ok_iff.mp h
    cases hpure
    exact length_storeAt (length_eq_of_readBytes hbytes ▸ hroom)
  next =>
    cases h
    rfl

/-- The transfer of the virtual devices' endpoints. -/
structure GenericTransfer where
  data : List UInt8
  isoDescriptors : List UsbIpIsoPacketDescriptor
  actualLength : Nat
  dataOffset : Nat
  isIn : Bool
  deriving DecidableEq, Repr

namespace GenericTransferOperator

def allocTransferHandle (bufferLength numIsoPackets : Nat) (header : UsbIpHeaderBasic) :
    GenericTransfer where
  data := .replicate bufferLength 0
  isoDescriptors := .replicate numIsoPackets .zero
  actualLength := 0
  dataOffset := 0
  isIn := header.direction == UsbIpDirection.in_

def recvTransferData (trx : GenericTransfer) (length : Nat) : Reader GenericTransfer := do
  let data ← readPayload trx.data 0 length
  let isoDescriptors ←
    readMany UsbIpIsoPacketDescriptor.fromSocket trx.isoDescriptors.length
  return { trx with data, isoDescriptors }

def sendTransferData (trx : GenericTransfer) (length : Nat) : List UInt8 :=
  if trx.isoDescriptors = [] then bytesAt trx.data trx.dataOffset length
  else
    (if 0 < length then
      trx.isoDescriptors.flatMap fun iso =>
        bytesAt trx.data iso.offset.toNat iso.actualLength.toNat
    else []) ++
      trx.isoDescriptors.flatMap UsbIpIsoPacketDescriptor.toBytes

/-- The number of bytes stored, and the transfer with them. -/
def setTransferData (trx : GenericTransfer) (data : List UInt8) (maxLength : Nat) :
    Nat × GenericTransfer :=
  let sendLen := min data.length maxLength
  (sendLen, { trx with data := data.take sendLen, actualLength := sendLen })

/-- The size of the received data, what follows `out` with it, and that the operator supports
this. -/
def getTransferData (trx : GenericTransfer) (out : List UInt8) : Nat × List UInt8 × Bool :=
  (trx.data.length, out ++ trx.data, true)

theorem sendTransferData_setTransferData {trx : GenericTransfer} (data : List UInt8)
    (maxLength : Nat) (hiso : trx.isoDescriptors = []) (hoffset : trx.dataOffset = 0) :
    sendTransferData (setTransferData trx data maxLength).2 (setTransferData trx data maxLength).1 =
      data.take maxLength := by
  have hlength : (data.take (min data.length maxLength)).length = min data.length maxLength := by
    rw [List.length_take]
    omega
  have hbytes := bytesAt_zero (data.take (min data.length maxLength))
  rw [hlength] at hbytes
  simp only [sendTransferData, setTransferData, hiso, hoffset, if_true, hbytes,
    List.take_eq_take_iff]
  omega

theorem length_of_recvTransferData {trx trx' : GenericTransfer} {length : Nat}
    {s rest : List UInt8} (h : recvTransferData trx length s = .ok (trx', rest)) :
    trx'.isoDescriptors.length = trx.isoDescriptors.length := by
  obtain ⟨data, mid, -, hdata⟩ := bind_eq_ok_iff.mp h
  obtain ⟨descs, left, hdescs, hpure⟩ := bind_eq_ok_iff.mp hdata
  cases hpure
  exact length_eq_of_readMany hdescs

theorem length_data_of_recvTransferData {trx trx' : GenericTransfer} {length : Nat}
    {s rest : List UInt8} (hroom : length ≤ trx.data.length)
    (h : recvTransferData trx length s = .ok (trx', rest)) :
    trx'.data.length = trx.data.length := by
  obtain ⟨data, mid, hread, hdata⟩ := bind_eq_ok_iff.mp h
  obtain ⟨descs, left, -, hpure⟩ := bind_eq_ok_iff.mp hdata
  cases hpure
  exact length_of_readPayload ((Nat.zero_add length).symm ▸ hroom) hread

theorem consumes_recvTransferData (trx : GenericTransfer) (length : Nat) :
    Consumes (recvTransferData trx length) fun _ => length + 16 * trx.isoDescriptors.length :=
  consumes_of_size_eq
    (consumes_bind (consumes_readPayload _ _ _) fun _ =>
      consumes_bind (consumes_readMany UsbIpIsoPacketDescriptor.consumes_fromSocket _) fun _ =>
        consumes_pure _)
    fun _ => by omega

theorem decodes_recvTransferData (trx : GenericTransfer) (bytes : List UInt8)
    (descs : List UsbIpIsoPacketDescriptor) (hdescs : descs.length = trx.isoDescriptors.length) :
    Decodes (recvTransferData trx bytes.length)
      (bytes ++ descs.flatMap UsbIpIsoPacketDescriptor.toBytes)
      { trx with data := storeAt trx.data 0 bytes, isoDescriptors := descs } := by
  unfold recvTransferData
  rw [← hdescs]
  apply decodes_bind (decodes_readPayload trx.data 0 bytes)
  exact decodes_of_bytes_eq (by simp) <|
    decodes_bind (decodes_readMany UsbIpIsoPacketDescriptor.decodes_fromSocket descs) <|
      decodes_pure _

end GenericTransferOperator

end Usbipdcpp.Protocol
