import Usbipdcpp.Protocol.CmdSubmit
import Usbipdcpp.Protocol.LibusbTransferOperator

namespace Usbipdcpp.Protocol.LibusbTransferOperator

open Foundation.ByteStream

/-- The `int` that `trx->length` is, as the loop compares it. -/
def lengthField (length : Nat) : UInt64 :=
  ⟨(BitVec.ofNat 32 length).signExtend 64⟩

/-- The descriptor loop over the packets of a transfer and what the client has sent for them, with
the sum of the lengths so far: the packets as they are left, and the error. -/
def storeIsoDescriptors (length : UInt64) :
    UInt64 → List LibusbIsoPacket → List UsbIpIsoPacketDescriptor →
      List LibusbIsoPacket × Option SocketError
  | totalLength, pkt :: pkts, desc :: descs =>
      if desc.actualLength > desc.length ∨ totalLength + desc.length.toUInt64 > length then
        (pkt :: pkts, some .invalidArgument)
      else
        let (pkts, ec) :=
          storeIsoDescriptors length (totalLength + desc.length.toUInt64) pkts descs
        (setIsoDescriptor desc :: pkts, ec)
  | _, pkts, _ => (pkts, none)

/-- `recv_transfer_data` with a payload and descriptors that have all arrived: the transfer as it is
left, and the error. -/
def storeTransferData (trx : LibusbTransfer) (payload : List UInt8)
    (descs : List UsbIpIsoPacketDescriptor) : LibusbTransfer × Option SocketError :=
  let offset := if trx.length > payload.length then controlSetupSize else 0
  let buffer := if 0 < payload.length then storeAt trx.buffer offset payload else trx.buffer
  let (isoPacketDesc, ec) := storeIsoDescriptors (lengthField trx.length) 0 trx.isoPacketDesc descs
  ({ trx with buffer, isoPacketDesc }, ec)

/-- The sum of the lengths of the first `i` packets. -/
def lengthsBefore (lengths : List UInt32) (i : Nat) : Nat :=
  ((lengths.take i).map UInt32.toNat).sum

section Store

variable {bufferLength : Nat} {totalLength : UInt64} {pkts : List LibusbIsoPacket}
  {descs : List UsbIpIsoPacketDescriptor}

theorem toNat_lengthField {length : Nat} (h : length < 2 ^ 31) :
    (lengthField length).toNat = length := by
  have hmsb : (BitVec.ofNat 32 length).msb = false := by
    rw [BitVec.msb_eq_false_iff_two_mul_lt, BitVec.toNat_ofNat]
    omega
  change ((BitVec.ofNat 32 length).signExtend 64).toNat = length
  rw [BitVec.signExtend_eq_setWidth_of_msb_false hmsb, BitVec.toNat_setWidth, BitVec.toNat_ofNat]
  omega

/-- The comparison in 64 bits is exact where the lengths so far fit into the buffer. -/
theorem exceeds_iff (hbuffer : bufferLength < 2 ^ 31) (htotal : totalLength.toNat ≤ bufferLength)
    (length : UInt32) :
    totalLength + length.toUInt64 > lengthField bufferLength ↔
      totalLength.toNat + length.toNat > bufferLength := by
  have hlength := length.toNat_lt
  rw [gt_iff_lt, UInt64.lt_iff_toNat_lt, UInt64.toNat_add, toNat_lengthField hbuffer,
    UInt32.toNat_toUInt64]
  omega

theorem toNat_add_length (hbuffer : bufferLength < 2 ^ 31)
    (htotal : totalLength.toNat ≤ bufferLength) (length : UInt32) :
    (totalLength + length.toUInt64).toNat = totalLength.toNat + length.toNat := by
  have hlength := length.toNat_lt
  rw [UInt64.toNat_add, UInt32.toNat_toUInt64]
  omega

/-- What the loop makes of a list of descriptors: all are stored, or those before the first one
that is refused. -/
inductive Stored (bufferLength totalLength : Nat) (pkts : List LibusbIsoPacket)
    (descs : List UsbIpIsoPacketDescriptor) : List LibusbIsoPacket × Option SocketError → Prop
  | accepted (hfit : PacketsFit bufferLength totalLength descs) :
      Stored bufferLength totalLength pkts descs (descs.map setIsoDescriptor, none)
  | refused (k : Nat) (hk : k < descs.length)
      (hbefore : PacketsFit bufferLength totalLength (descs.take k))
      (hfit : ¬PacketsFit bufferLength totalLength (descs.take (k + 1))) :
      Stored bufferLength totalLength pkts descs
        ((descs.take k).map setIsoDescriptor ++ pkts.drop k, some .invalidArgument)

theorem stored_storeIsoDescriptors (hbuffer : bufferLength < 2 ^ 31)
    (htotal : totalLength.toNat ≤ bufferLength) (hcount : descs.length = pkts.length) :
    Stored bufferLength totalLength.toNat pkts descs
      (storeIsoDescriptors (lengthField bufferLength) totalLength pkts descs) := by
  induction descs generalizing totalLength pkts with
  | nil =>
      obtain rfl := List.eq_nil_of_length_eq_zero hcount.symm
      exact .accepted trivial
  | cons desc descs ih =>
      cases pkts with
      | nil => cases hcount
      | cons pkt pkts =>
          rw [storeIsoDescriptors]
          split
          next hbad =>
            rw [exceeds_iff hbuffer htotal] at hbad
            refine .refused 0 (Nat.succ_pos _) trivial fun hfit => ?_
            obtain ⟨hactual, hlength, -⟩ := hfit
            rcases hbad with hbad | hbad
            · exact UInt32.not_lt.mpr hactual hbad
            · omega
          next hgood =>
            rw [exceeds_iff hbuffer htotal, not_or, gt_iff_lt, UInt32.not_lt, Nat.not_lt] at hgood
            have hnext := toNat_add_length hbuffer htotal desc.length
            have hle : (totalLength + desc.length.toUInt64).toNat ≤ bufferLength :=
              hnext ▸ hgood.2
            have hrest := ih hle (Nat.succ.inj hcount)
            rw [hnext] at hrest
            cases hresult : storeIsoDescriptors (lengthField bufferLength)
                (totalLength + desc.length.toUInt64) pkts descs with
            | mk stored ec =>
                rw [hresult] at hrest
                cases hrest with
                | accepted hfit => exact .accepted ⟨hgood.1, hgood.2, hfit⟩
                | refused k hk hbefore hfit =>
                    exact .refused (k + 1) (Nat.succ_lt_succ hk) ⟨hgood.1, hgood.2, hbefore⟩
                      fun h => hfit h.2.2

/-- The loop reads the descriptors off the stream. -/
theorem recvIsoDescriptors_eq (hbuffer : bufferLength < 2 ^ 31)
    (htotal : totalLength.toNat ≤ bufferLength) (hcount : descs.length = pkts.length)
    (rest : List UInt8) :
    recvIsoDescriptors bufferLength pkts.length totalLength.toNat
        (descs.flatMap UsbIpIsoPacketDescriptor.toBytes ++ rest) =
      match storeIsoDescriptors (lengthField bufferLength) totalLength pkts descs with
      | (stored, none) => .ok (stored, rest)
      | (_, some ec) => .error ec := by
  induction descs generalizing totalLength pkts with
  | nil =>
      obtain rfl := List.eq_nil_of_length_eq_zero hcount.symm
      rfl
  | cons desc descs ih =>
      cases pkts with
      | nil => cases hcount
      | cons pkt pkts =>
          have hread := UsbIpIsoPacketDescriptor.decodes_fromSocket desc
            (descs.flatMap UsbIpIsoPacketDescriptor.toBytes ++ rest)
          rw [List.flatMap_cons, List.append_assoc, List.length_cons, recvIsoDescriptors,
            bind_of_ok hread, storeIsoDescriptors]
          by_cases hbad : desc.actualLength > desc.length ∨
              totalLength + desc.length.toUInt64 > lengthField bufferLength
          · rw [if_pos hbad]
            rw [exceeds_iff hbuffer htotal] at hbad
            have hrefused : (decide (desc.actualLength > desc.length) ||
                decide (totalLength.toNat + desc.length.toNat > bufferLength)) = true := by
              simpa using hbad
            rw [hrefused]
            rfl
          · rw [if_neg hbad]
            rw [exceeds_iff hbuffer htotal, not_or] at hbad
            have haccepted : (decide (desc.actualLength > desc.length) ||
                decide (totalLength.toNat + desc.length.toNat > bufferLength)) = false := by
              simpa using hbad
            have hnext := toNat_add_length hbuffer htotal desc.length
            have hle : (totalLength + desc.length.toUInt64).toNat ≤ bufferLength :=
              hnext ▸ Nat.not_lt.mp hbad.2
            have hrest := ih hle (Nat.succ.inj hcount)
            rw [hnext] at hrest
            rw [haccepted]
            change ((recvIsoDescriptors bufferLength pkts.length
              (totalLength.toNat + desc.length.toNat)) >>= fun packets =>
                pure (setIsoDescriptor desc :: packets)) _ = _
            cases hresult : storeIsoDescriptors (lengthField bufferLength)
                (totalLength + desc.length.toUInt64) pkts descs with
            | mk stored ec =>
                rw [hresult] at hrest
                cases ec with
                | none => exact bind_of_ok hrest
                | some ec => exact bind_of_error hrest

/-- What is received off a stream is what is stored of the payload and the descriptors in it. -/
theorem recvTransferData_eq {trx : LibusbTransfer} (hlength : trx.length < 2 ^ 31)
    (hcount : descs.length = trx.isoPacketDesc.length) (payload rest : List UInt8) :
    recvTransferData trx payload.length
        (payload ++ (descs.flatMap UsbIpIsoPacketDescriptor.toBytes ++ rest)) =
      match storeTransferData trx payload descs with
      | (stored, none) => .ok (stored, rest)
      | (_, some ec) => .error ec := by
  have hpayload := decodes_readPayload trx.buffer
    (if trx.length > payload.length then controlSetupSize else 0) payload
    (descs.flatMap UsbIpIsoPacketDescriptor.toBytes ++ rest)
  have hzero : (0 : UInt64).toNat ≤ trx.length := Nat.zero_le _
  have hdescs := recvIsoDescriptors_eq hlength hzero hcount rest
  have hbuffer : (if 0 < payload.length then
      storeAt trx.buffer (if trx.length > payload.length then controlSetupSize else 0) payload
      else trx.buffer) =
        storeAt trx.buffer (if trx.length > payload.length then controlSetupSize else 0)
          payload := by
    split
    next => rfl
    next hempty =>
      obtain rfl := List.eq_nil_of_length_eq_zero (Nat.eq_zero_of_not_pos hempty)
      exact storeAt_nil.symm
  rw [recvTransferData, bind_of_ok hpayload, storeTransferData]
  dsimp only
  rw [hbuffer]
  cases hresult : storeIsoDescriptors (lengthField trx.length) 0 trx.isoPacketDesc descs with
  | mk stored ec =>
      rw [hresult] at hdescs
      cases ec with
      | none => exact bind_of_ok hdescs
      | some ec => exact bind_of_error hdescs

end Store

section Lengths

variable {bufferLength : Nat} {descs : List UsbIpIsoPacketDescriptor}

theorem lengthsBefore_cons_succ (length : UInt32) (lengths : List UInt32) (i : Nat) :
    lengthsBefore (length :: lengths) (i + 1) = length.toNat + lengthsBefore lengths i := by
  rw [lengthsBefore, List.take_succ_cons, List.map_cons, List.sum_cons]
  rfl

/-- Each packet has its data in its slot, and all slots up to its own fit into the buffer. -/
def Acceptable (bufferLength : Nat) (descs : List UsbIpIsoPacketDescriptor) : Prop :=
  ∀ i desc, descs[i]? = some desc → desc.actualLength ≤ desc.length ∧
    lengthsBefore (descs.map fun desc => desc.length) (i + 1) ≤ bufferLength

theorem packetsFit_iff {totalLength : Nat} :
    PacketsFit bufferLength totalLength descs ↔
      ∀ i desc, descs[i]? = some desc → desc.actualLength ≤ desc.length ∧
        totalLength + lengthsBefore (descs.map fun desc => desc.length) (i + 1) ≤
          bufferLength := by
  induction descs generalizing totalLength with
  | nil => exact iff_of_true trivial fun i desc h => by cases h
  | cons desc descs ih =>
      rw [PacketsFit, ih]
      constructor
      · rintro ⟨hactual, hlength, hrest⟩ i found hfound
        rw [List.map_cons, lengthsBefore_cons_succ]
        cases i with
        | zero =>
            obtain rfl := Option.some.inj hfound
            exact ⟨hactual, hlength⟩
        | succ i =>
            have hnext := hrest i found hfound
            exact ⟨hnext.1, by omega⟩
      · intro h
        have hfirst := h 0 desc rfl
        rw [List.map_cons, lengthsBefore_cons_succ] at hfirst
        refine ⟨hfirst.1, hfirst.2, fun i found hfound => ?_⟩
        have hnext := h (i + 1) found hfound
        rw [List.map_cons, lengthsBefore_cons_succ] at hnext
        exact ⟨hnext.1, by omega⟩

theorem slotBytes_of_packetsFit {totalLength : Nat} (htotal : totalLength ≤ bufferLength)
    (h : PacketsFit bufferLength totalLength descs) :
    totalLength + slotBytes (descs.map setIsoDescriptor) ≤ bufferLength := by
  induction descs generalizing totalLength with
  | nil => exact htotal
  | cons desc descs ih =>
      have hsum : slotBytes ((desc :: descs).map setIsoDescriptor) =
          desc.length.toNat + slotBytes (descs.map setIsoDescriptor) := rfl
      have hrest := ih h.2.1 h.2.2
      omega

/-- What is acceptable as a whole is acceptable as far as it has come. -/
theorem Acceptable.take (h : Acceptable bufferLength descs) (k : Nat) :
    Acceptable bufferLength (descs.take k) := by
  intro i desc hdesc
  have hlt : i < k := by
    by_contra hge
    rw [List.getElem?_take_eq_none (Nat.le_of_not_lt hge)] at hdesc
    cases hdesc
  rw [List.getElem?_take_of_lt hlt] at hdesc
  have hlengths : ((descs.take k).map fun desc => desc.length).take (i + 1) =
      (descs.map fun desc => desc.length).take (i + 1) := by
    rw [List.map_take, List.take_take, Nat.min_eq_left hlt]
  rw [lengthsBefore, hlengths]
  exact h i desc hdesc

theorem packetsFit_zero_iff : PacketsFit bufferLength 0 descs ↔ Acceptable bufferLength descs := by
  rw [packetsFit_iff, Acceptable]
  simp only [Nat.zero_add]

end Lengths

section Send

variable {pkts : List LibusbIsoPacket}

/-- The packets, each with the sum of the lengths before it. -/
def slots (start : Nat) : List LibusbIsoPacket → List (Nat × LibusbIsoPacket)
  | [] => []
  | pkt :: pkts => (start, pkt) :: slots (start + pkt.length.toNat) pkts

/-- The descriptor that is sent for a packet. -/
def reportedDescriptor (offset : Nat) (pkt : LibusbIsoPacket) : UsbIpIsoPacketDescriptor :=
  ⟨.ofNat offset, pkt.length, pkt.actualLength, trxstat2error pkt.status⟩

/-- The offsets of the sender do not wrap where all slots lie below 2 ^ 32. -/
theorem sendIsoPackets_eq (trx : LibusbTransfer) (needToSendBuffer : Bool) {start : Nat}
    (h : start + slotBytes pkts < 2 ^ 32) :
    sendIsoPackets trx needToSendBuffer pkts (.ofNat start) =
      (if needToSendBuffer then
          (slots start pkts).flatMap fun (offset, pkt) =>
            bytesAt trx.buffer offset pkt.actualLength.toNat
        else [],
        (slots start pkts).flatMap fun (offset, pkt) =>
          (reportedDescriptor offset pkt).toBytes) := by
  induction pkts generalizing start with
  | nil => cases needToSendBuffer <;> rfl
  | cons pkt pkts ih =>
      have hsum : slotBytes (pkt :: pkts) = pkt.length.toNat + slotBytes pkts := rfl
      have hnext : UInt32.ofNat start + pkt.length = .ofNat (start + pkt.length.toNat) := by
        rw [UInt32.ofNat_add, UInt32.ofNat_toNat]
      have hstart : (UInt32.ofNat start).toNat = start :=
        UInt32.toNat_ofNat_of_lt' (by change start < 2 ^ 32; omega)
      rw [sendIsoPackets, hnext, ih (by omega), hstart]
      cases needToSendBuffer with
      | true => rfl
      | false => rfl

/-- A transfer that has been done on a device: it has kept its slots, with the data in them. -/
structure Completes (trx done : LibusbTransfer) : Prop where
  type : done.type = .isochronous
  buffer : done.buffer.length = trx.buffer.length
  actualLength : done.actualLength ≤ trx.length
  lengths : done.isoPacketDesc.map (fun pkt => pkt.length) =
    trx.isoPacketDesc.map fun pkt => pkt.length
  actual : ∀ pkt ∈ done.isoPacketDesc, pkt.actualLength ≤ pkt.length

/-- What is read of a buffer to be sent lies within it, and the offsets that are reported are the
sums of the lengths.  Without packets it is the data that have come. -/
structure SendsWithin (trx : LibusbTransfer) : Prop where
  within : ∀ offset pkt, (offset, pkt) ∈ slots 0 trx.isoPacketDesc →
    offset + pkt.actualLength.toNat ≤ trx.buffer.length ∧ offset < 2 ^ 32
  sent : trx.isoPacketDesc ≠ [] → ∀ length, sendTransferData trx length =
    (if 0 < length then
        (slots 0 trx.isoPacketDesc).flatMap fun (offset, pkt) =>
          bytesAt trx.buffer offset pkt.actualLength.toNat
      else []) ++
      (slots 0 trx.isoPacketDesc).flatMap fun (offset, pkt) =>
        (reportedDescriptor offset pkt).toBytes
  sentWhole : trx.isoPacketDesc = [] → ∀ length ≤ trx.actualLength,
    length ≤ trx.buffer.length ∧ sendTransferData trx length = bytesAt trx.buffer 0 length

end Send

theorem mem_slots {start offset : Nat} {pkt : LibusbIsoPacket} {pkts : List LibusbIsoPacket}
    (h : (offset, pkt) ∈ slots start pkts) :
    pkt ∈ pkts ∧ offset + pkt.length.toNat ≤ start + slotBytes pkts := by
  induction pkts generalizing start with
  | nil => cases h
  | cons first pkts ih =>
      have hsum : slotBytes (first :: pkts) = first.length.toNat + slotBytes pkts := rfl
      rcases List.mem_cons.mp h with heq | hrest
      · obtain ⟨rfl, rfl⟩ := Prod.mk.inj heq
        exact ⟨List.mem_cons_self, by omega⟩
      · obtain ⟨hmem, hle⟩ := ih hrest
        exact ⟨List.mem_cons_of_mem first hmem, by omega⟩

theorem slotBytes_congr {pkts pkts' : List LibusbIsoPacket}
    (h : (pkts.map fun pkt => pkt.length) = pkts'.map fun pkt => pkt.length) :
    slotBytes pkts = slotBytes pkts' := by
  have hsum (pkts : List LibusbIsoPacket) :
      slotBytes pkts = ((pkts.map fun pkt => pkt.length).map UInt32.toNat).sum := by
    rw [slotBytes, List.map_map]
    rfl
  rw [hsum, hsum, h]

theorem sendsWithin_of_fit {trx : LibusbTransfer} (htype : trx.type = .isochronous)
    (hbuffer : trx.buffer.length < 2 ^ 32)
    (hslots : slotBytes trx.isoPacketDesc ≤ trx.buffer.length)
    (hactual : ∀ pkt ∈ trx.isoPacketDesc, pkt.actualLength ≤ pkt.length)
    (hwhole : trx.actualLength ≤ trx.buffer.length) : SendsWithin trx := by
  refine ⟨fun offset pkt hmem => ?_, fun hsome length => ?_, fun hnone length hlength => ?_⟩
  · obtain ⟨hpkt, hle⟩ := mem_slots hmem
    have hdata : pkt.actualLength.toNat ≤ pkt.length.toNat := hactual pkt hpkt
    omega
  · have hsmall : 0 + slotBytes trx.isoPacketDesc < 2 ^ 32 := by omega
    have hsend : sendIsoPackets trx (0 < length) trx.isoPacketDesc 0 = _ :=
      sendIsoPackets_eq trx _ hsmall
    rw [sendTransferData, if_pos ⟨htype, hsome⟩, hsend]
    simp only [decide_eq_true_eq]
  · refine ⟨hlength.trans hwhole, ?_⟩
    rw [sendTransferData, if_neg fun h => h.2 hnone, htype]
    rfl

/-- A transfer whose packets fit into its buffer is sent within it, once it has been done. -/
theorem sendsWithin_of_packetsFit {stored done : LibusbTransfer}
    {descs : List UsbIpIsoPacketDescriptor} (hdone : Completes stored done)
    (hstored : stored.isoPacketDesc = descs.map setIsoDescriptor)
    (hbuffer : stored.buffer.length = stored.length) (hlength : stored.length < 2 ^ 31)
    (hfit : PacketsFit stored.length 0 descs) : SendsWithin done := by
  have hdoneBuffer : done.buffer.length = stored.length := hdone.buffer.trans hbuffer
  have hslots : slotBytes done.isoPacketDesc ≤ stored.length := by
    rw [slotBytes_congr hdone.lengths, hstored, ← Nat.zero_add (slotBytes _)]
    exact slotBytes_of_packetsFit (Nat.zero_le _) hfit
  have hactual : done.actualLength ≤ stored.length := hdone.actualLength
  exact sendsWithin_of_fit hdone.type (by omega) (by omega) hdone.actual (by omega)

section Allocated

variable {fields : CmdSubmitFields}

theorem length_allocTransferHandle_lt (hfields : fields.Acceptable) :
    (allocTransferHandle fields.transferBufferLength.toNat fields.numIso fields.header).length <
      2 ^ 31 := by
  have htbl : fields.transferBufferLength.toNat ≤ 16 * 1024 * 1024 := hfields.2.1
  rw [allocTransferHandle]
  dsimp only [controlSetupSize]
  split <;> omega

/-- A payload leaves room for the setup packet in a control transfer only. -/
theorem room_of_dataLength {payload : List UInt8} {trx : LibusbTransfer}
    (htrx : trx = allocTransferHandle fields.transferBufferLength.toNat fields.numIso
      fields.header)
    (hpayload : payload.length = fields.dataLength) (hpos : 0 < payload.length) :
    (if trx.length > payload.length then controlSetupSize else 0) + payload.length ≤
      trx.length := by
  have hsize : trx.length = fields.transferBufferLength.toNat ∨
      trx.length = fields.transferBufferLength.toNat + 8 := by
    rw [htrx, allocTransferHandle]
    dsimp only [controlSetupSize]
    split
    next => exact .inr rfl
    next => exact .inl rfl
  have hlen : payload.length = fields.transferBufferLength.toNat := by
    rw [CmdSubmitFields.dataLength] at hpayload
    split at hpayload
    next => omega
    next => exact hpayload
  rw [hlen, controlSetupSize]
  split <;> omega

end Allocated

/-- The transfer that the checks of a command leave room for is filled and sent within its
buffer. -/
theorem iso_receive_validation {fields : CmdSubmitFields} (hfields : fields.Acceptable)
    {payload : List UInt8} (hpayload : payload.length = fields.dataLength)
    {descs : List UsbIpIsoPacketDescriptor} (hdescs : descs.length = fields.numIso)
    {trx stored : LibusbTransfer} {ec : Option SocketError}
    (htrx : trx = allocTransferHandle fields.transferBufferLength.toNat fields.numIso
      fields.header)
    (hstored : storeTransferData trx payload descs = (stored, ec)) :
    (ec = none ↔ Acceptable trx.length descs) ∧
      (ec = none → ∀ done, Completes stored done → SendsWithin done) ∧
      (ec ≠ none → ∃ k < descs.length, Acceptable trx.length (descs.take k) ∧
        ¬Acceptable trx.length (descs.take (k + 1)) ∧
          stored.isoPacketDesc =
            (descs.take k).map setIsoDescriptor ++ trx.isoPacketDesc.drop k) := by
  have hlength : trx.length < 2 ^ 31 := htrx ▸ length_allocTransferHandle_lt hfields
  have hbuffer : trx.buffer.length = trx.length := by
    rw [htrx, allocTransferHandle]
    exact List.length_replicate
  have hcount : descs.length = trx.isoPacketDesc.length := by
    rw [hdescs, htrx, allocTransferHandle]
    exact List.length_replicate.symm
  have hzero : (0 : UInt64).toNat ≤ trx.length := Nat.zero_le _
  have hloop := stored_storeIsoDescriptors hlength hzero hcount
  cases hresult : storeIsoDescriptors (lengthField trx.length) 0 trx.isoPacketDesc descs with
  | mk pkts ec' =>
      rw [storeTransferData, hresult] at hstored
      obtain ⟨rfl, rfl⟩ := Prod.mk.inj hstored
      rw [hresult] at hloop
      cases hloop with
      | accepted hfit =>
          refine ⟨iff_of_true rfl (packetsFit_zero_iff.mp hfit), fun _ done hdone => ?_,
            fun h => absurd rfl h⟩
          refine sendsWithin_of_packetsFit hdone rfl ?_ hlength hfit
          dsimp only
          split
          next hpos =>
            have hroom := (room_of_dataLength htrx hpayload hpos).trans (Nat.le_of_eq hbuffer.symm)
            exact (length_storeAt hroom).trans hbuffer
          next => exact hbuffer
      | refused k hk hbefore hfit =>
          rw [UInt64.toNat_zero, packetsFit_zero_iff] at hbefore hfit
          refine ⟨iff_of_false (by simp) fun h => hfit (h.take _), fun h => ?_,
            fun _ => ⟨k, hk, hbefore, hfit, rfl⟩⟩
          cases h

/-- Two packets of four bytes each, in a buffer of eight. -/
def twoPackets : CmdSubmitFields where
  header := { command := usbipCmdSubmit, seqnum := 1, devid := 0, direction := 0, ep := 1 }
  transferFlags := 0
  transferBufferLength := 8
  startFrame := 0
  numberOfPackets := 2
  interval := 1
  setup := ⟨0, 0, 0, 0, 0⟩

theorem iso_receive_validation_twoPackets :
    ∃ stored, storeTransferData (allocTransferHandle 8 2 twoPackets.header) (.replicate 8 1)
        [⟨0, 4, 4, 0⟩, ⟨4, 4, 3, 0⟩] = (stored, none) ∧
      ∀ done, Completes stored done → SendsWithin done := by
  refine ⟨_, rfl, ?_⟩
  have hfields : twoPackets.Acceptable := by decide
  exact (iso_receive_validation hfields rfl rfl rfl rfl).2.1 rfl

end Usbipdcpp.Protocol.LibusbTransferOperator
