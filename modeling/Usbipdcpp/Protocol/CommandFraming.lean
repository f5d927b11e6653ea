import Usbipdcpp.Protocol.CmdSubmit

namespace Usbipdcpp.Protocol

open Foundation.ByteStream

variable {Handler : Type}

/-- The transfer that the command's endpoint allocates takes the command's data stage and
descriptors, no more and no less, off the stream behind the header. -/
def CmdSubmitFields.TakesDataStage (ctx : ReceiveContext Handler) (fields : CmdSubmitFields)
    (s : List UInt8) : Prop :=
  ∀ handle, fields.allocTransferHandle ctx = some handle →
    handle.TakesDataStage ctx fields.dataLength fields.numIso s

/-- A submit command as the client sends it. -/
structure ClientSubmit extends CmdSubmitFields where
  payload : List UInt8
  isoDescriptors : List UsbIpIsoPacketDescriptor
  deriving DecidableEq, Repr

namespace ClientSubmit

/-- What follows the header on the wire. -/
def dataStage (cmd : ClientSubmit) : List UInt8 :=
  cmd.payload ++ cmd.isoDescriptors.flatMap UsbIpIsoPacketDescriptor.toBytes

def toBytes (cmd : ClientSubmit) : List UInt8 :=
  u32ToBytes usbipCmdSubmit ++ cmd.toCmdSubmitFields.toBytes ++ cmd.dataStage

/-- The command keeps the server's limits, its data stage has the announced size, there is
memory for its transfer, and a libusb transfer admits its descriptors. -/
structure WellFormed (ctx : ReceiveContext Handler) (cmd : ClientSubmit) : Prop where
  command : cmd.header.command = usbipCmdSubmit
  acceptable : cmd.Acceptable
  payload_length : cmd.payload.length = cmd.dataLength
  isoDescriptors_length : cmd.isoDescriptors.length = cmd.numIso
  allocated : (cmd.allocTransferHandle ctx).isSome = true
  packetsFit : ctx.routingOp.getOperatorForEp cmd.header.realEp = .libusb →
    LibusbTransferOperator.PacketsFit (LibusbTransferOperator.allocTransferHandle
      cmd.transferBufferLength.toNat cmd.numIso cmd.header).length 0 cmd.isoDescriptors

end ClientSubmit

theorem length_toBytes (fields : CmdSubmitFields) : fields.toBytes.length = 44 := by
  simp [CmdSubmitFields.toBytes]

theorem admits_of_wellFormed {ctx : ReceiveContext Handler} {cmd : ClientSubmit}
    {handle : TransferHandle Handler} (hwf : cmd.WellFormed ctx)
    (halloc : cmd.allocTransferHandle ctx = some handle) :
    handle.Admits cmd.payload cmd.isoDescriptors := by
  have hfit := hwf.packetsFit
  unfold CmdSubmitFields.allocTransferHandle at halloc
  generalize ctx.routingOp.getOperatorForEp cmd.header.realEp = op at halloc hfit
  cases op with
  | generic owner => cases halloc; trivial
  | storage handler => cases halloc; trivial
  | libusb =>
      obtain ⟨-, rfl⟩ := allocTransferHandle_libusb_eq_some_iff.mp halloc
      refine ⟨hfit rfl, fun hpayload hlength => ?_⟩
      -- only a transfer to the device has a payload, and then the buffer is longer than it
      -- just where it has room for the setup packet
      have hout : cmd.payload.length = cmd.transferBufferLength.toNat := by
        rw [hwf.payload_length, CmdSubmitFields.dataLength]
        split
        next hin =>
          refine absurd (List.eq_nil_of_length_eq_zero ?_) hpayload
          rw [hwf.payload_length, CmdSubmitFields.dataLength, if_pos hin]
        next => rfl
      simp only [LibusbTransferOperator.allocTransferHandle, hout, List.length_replicate]
        at hlength ⊢
      split at hlength
      next hep => rw [if_pos hep]; omega
      next => omega

/-- The header, and then the data stage as far as the transfer takes it. -/
theorem getCmdFromSocket_takes_iff {ctx : ReceiveContext Handler} {s rest : List UInt8}
    {cmd : UsbIpCmdSubmit Handler} (h : getCmdFromSocket ctx s = .ok (.submit cmd, rest)) :
    Takes cmd.wireLength s rest ↔ cmd.TakesDataStage ctx (s.drop 48) := by
  obtain ⟨behindCommand, hcommand, hcmd⟩ := getCmdFromSocket_submit_iff.mp h
  obtain ⟨behindHeader, handle, hfields, -, halloc, hrecv⟩ :=
    UsbIpCmdSubmit.fromSocket_eq_ok_iff.mp hcmd
  have hheader : Takes 48 s behindHeader := by
    have hword := consumes_readU32 s usbipCmdSubmit behindCommand hcommand
    have hrest := CmdSubmitFields.consumes_fromSocket behindCommand _ behindHeader hfields
    exact (takes_add_iff hword (suffix_of_takes hrest)).mpr hrest
  have hstage := recvTransferData_takes_iff (hasPackets_of_allocTransferHandle halloc) hrecv
  calc Takes cmd.wireLength s rest
      ↔ Takes (48 + (cmd.dataLength + 16 * cmd.numIso)) s rest := by
        rw [CmdSubmitFields.wireLength, Nat.add_assoc]
    _ ↔ Takes (cmd.dataLength + 16 * cmd.numIso) behindHeader rest :=
        takes_add_iff hheader hstage.1
    _ ↔ handle.TakesDataStage ctx cmd.dataLength cmd.numIso behindHeader := hstage.2
    _ ↔ cmd.TakesDataStage ctx (s.drop 48) := by
        rw [drop_eq_of_takes hheader]
        constructor
        · intro htakes handle' halloc'
          obtain rfl : handle = handle' := Option.some.inj (halloc.symm.trans halloc')
          exact htakes
        · exact fun htakes => htakes handle halloc

/-- A well-formed command whose data stage its transfer takes is read back. -/
theorem getCmdFromSocket_toBytes {ctx : ReceiveContext Handler} {cmd : ClientSubmit}
    {rest : List UInt8} (hwf : cmd.WellFormed ctx)
    (htakes : cmd.TakesDataStage ctx (cmd.dataStage ++ rest)) :
    ∃ transfer : TransferHandle Handler,
      getCmdFromSocket ctx (cmd.toBytes ++ rest) =
          .ok (.submit { cmd.toCmdSubmitFields with transfer }, rest) ∧
        transfer.Carries cmd.payload cmd.isoDescriptors := by
  obtain ⟨handle, halloc⟩ := Option.isSome_iff_exists.mp hwf.allocated
  have hpackets := hasPackets_of_allocTransferHandle halloc
  have hstage := htakes handle halloc
  rw [← hwf.isoDescriptors_length] at hpackets hstage
  rw [← hwf.payload_length] at hstage
  obtain ⟨transfer, hrecv, hcarries⟩ := recvTransferData_received hpackets
    (admits_of_wellFormed hwf halloc) (by rw [ClientSubmit.dataStage, List.append_assoc]) hstage
  rw [hwf.payload_length] at hrecv
  refine ⟨transfer, getCmdFromSocket_submit_iff.mpr
    ⟨cmd.toCmdSubmitFields.toBytes ++ (cmd.dataStage ++ rest), ?_, ?_⟩, hcarries⟩
  · rw [ClientSubmit.toBytes, List.append_assoc, List.append_assoc]
    exact decodes_readU32 usbipCmdSubmit _
  · exact UsbIpCmdSubmit.fromSocket_eq_ok_iff.mpr ⟨cmd.dataStage ++ rest, handle,
      CmdSubmitFields.decodes_fromSocket hwf.command _, hwf.acceptable, halloc, hrecv⟩

/-- A command as the client sends it. -/
inductive ClientCommand where
  | submit (cmd : ClientSubmit)
  | unlink (cmd : UsbIpCmdUnlink)
  deriving DecidableEq, Repr

namespace ClientCommand

def toBytes : ClientCommand → List UInt8
  | .submit cmd => cmd.toBytes
  | .unlink cmd => u32ToBytes usbipCmdUnlink ++ cmd.toBytes

def WellFormed (ctx : ReceiveContext Handler) : ClientCommand → Prop
  | .submit cmd => cmd.WellFormed ctx
  | .unlink cmd => cmd.header.command = usbipCmdUnlink

/-- A submit's transfer takes its data stage where `rest` follows the command. -/
def TakesDataStage (ctx : ReceiveContext Handler) (rest : List UInt8) : ClientCommand → Prop
  | .submit cmd => cmd.toCmdSubmitFields.TakesDataStage ctx (cmd.dataStage ++ rest)
  | .unlink _ => True

/-- What the server makes of a command is the command. -/
def ReadAs : ClientCommand → CmdVariant Handler → Prop
  | .submit cmd, .submit cmd' =>
      cmd'.toCmdSubmitFields = cmd.toCmdSubmitFields ∧
        cmd'.transfer.Carries cmd.payload cmd.isoDescriptors
  | .unlink cmd, .unlink cmd' => cmd' = cmd
  | _, _ => False

end ClientCommand

/-- The commands that the receiver's loop reads, each with what its pass finds. -/
def getCmdsFromSocket :
    List (ReceiveContext Handler) → ByteReader ErrorType (List (CmdVariant Handler))
  | [] => pure []
  | ctx :: ctxs => do
      let cmd ← getCmdFromSocket ctx
      let cmds ← getCmdsFromSocket ctxs
      return cmd :: cmds

/-- The bytes of several commands, with what the server's passes find. -/
def commandBytes (cmds : List (ReceiveContext Handler × ClientCommand)) : List UInt8 :=
  cmds.flatMap fun c => c.2.toBytes

/-- Each command's transfer takes its data stage off the stream of the commands. -/
def AllTakeDataStage (rest : List UInt8) :
    List (ReceiveContext Handler × ClientCommand) → Prop
  | [] => True
  | c :: cmds => c.2.TakesDataStage c.1 (commandBytes cmds ++ rest) ∧ AllTakeDataStage rest cmds

theorem getCmdFromSocket_readAs {ctx : ReceiveContext Handler} {cmd : ClientCommand}
    {rest : List UInt8} (hwf : cmd.WellFormed ctx) (htakes : cmd.TakesDataStage ctx rest) :
    ∃ cmd', getCmdFromSocket ctx (cmd.toBytes ++ rest) = .ok (cmd', rest) ∧ cmd.ReadAs cmd' := by
  cases cmd with
  | submit cmd =>
      obtain ⟨transfer, hread, hcarries⟩ := getCmdFromSocket_toBytes hwf htakes
      exact ⟨_, hread, rfl, hcarries⟩
  | unlink cmd => exact ⟨.unlink cmd, decodes_getCmdFromSocket_unlink ctx hwf rest, rfl⟩

theorem getCmdsFromSocket_readAs {cmds : List (ReceiveContext Handler × ClientCommand)}
    {rest : List UInt8} (hwf : ∀ c ∈ cmds, c.2.WellFormed c.1)
    (htakes : AllTakeDataStage rest cmds) :
    ∃ cmds', getCmdsFromSocket (cmds.map Prod.fst) (commandBytes cmds ++ rest) =
        .ok (cmds', rest) ∧
      List.Forall₂ ClientCommand.ReadAs (cmds.map Prod.snd) cmds' := by
  induction cmds with
  | nil => exact ⟨[], rfl, .nil⟩
  | cons c cmds ih =>
      obtain ⟨hfirst, hrest⟩ := htakes
      obtain ⟨cmd', hcmd, hreadAs⟩ :=
        getCmdFromSocket_readAs (hwf c (List.mem_cons_self ..)) hfirst
      obtain ⟨cmds', hcmds, hreadsAs⟩ := ih (fun c hc => hwf c (List.mem_cons_of_mem _ hc)) hrest
      refine ⟨cmd' :: cmds', ?_, .cons hreadAs hreadsAs⟩
      rw [commandBytes, List.flatMap_cons, List.append_assoc]
      exact bind_eq_ok_iff.mpr ⟨cmd', _, hcmd, bind_eq_ok_iff.mpr ⟨cmds', rest, hcmds, rfl⟩⟩

/-- An accepted submit command takes exactly its own bytes off the stream just where the
transfer of its endpoint takes the data stage and every descriptor; and commands that all do
are read back one by one. -/
theorem commands_framed_iff :
    (∀ (ctx : ReceiveContext Handler) (s rest : List UInt8) (cmd : UsbIpCmdSubmit Handler),
      getCmdFromSocket ctx s = .ok (.submit cmd, rest) →
        (Takes cmd.wireLength s rest ↔ cmd.TakesDataStage ctx (s.drop 48))) ∧
    ∀ (cmds : List (ReceiveContext Handler × ClientCommand)) (rest : List UInt8),
      (∀ c ∈ cmds, c.2.WellFormed c.1) → AllTakeDataStage rest cmds →
        ∃ cmds', getCmdsFromSocket (cmds.map Prod.fst) (commandBytes cmds ++ rest) =
            .ok (cmds', rest) ∧
          List.Forall₂ ClientCommand.ReadAs (cmds.map Prod.snd) cmds' :=
  ⟨fun _ _ _ _ h => getCmdFromSocket_takes_iff h,
    fun _ _ hwf htakes => getCmdsFromSocket_readAs hwf htakes⟩

/-- Isochronous packets announced for a bulk endpoint's single byte. -/
def oneByteOut : ClientSubmit where
  header := ⟨usbipCmdSubmit, 7, 0x10001, UsbIpDirection.out, 2⟩
  transferFlags := 0
  transferBufferLength := 1
  startFrame := 0
  numberOfPackets := 1
  interval := 0
  setup := ⟨0, 0, 0, 0, 0⟩
  payload := [0x55]
  isoDescriptors := [⟨0, 1, 1, 0⟩]

def unlinkOneByteOut : UsbIpCmdUnlink where
  header := ⟨usbipCmdUnlink, 8, 0x10001, UsbIpDirection.out, 0⟩
  unlinkSeqnum := 7

/-- A device whose bulk OUT endpoint 2 belongs to a mass storage interface at rest. -/
def storageDevice : ReceiveContext Unit where
  routingOp := .virtualDevice fun ep => if ep = 0x02 then some (.storage ()) else none
  storageHandler _ := { state := .idle, writeMmapBase := none, writeLba := 0,
                        writeAccumulated := 0, backend := some .fallback }
  memoryLeft := true

def genericDevice : ReceiveContext Unit :=
  { storageDevice with routingOp := .generic }

/-- A mass storage endpoint leaves the descriptor on the stream, where the next command is
looked for. -/
theorem commands_not_framed_of_storage_packets :
    (¬ ∀ (rest : List UInt8) (cmd : UsbIpCmdSubmit Unit),
      getCmdFromSocket storageDevice oneByteOut.toBytes = .ok (.submit cmd, rest) →
        Takes cmd.wireLength oneByteOut.toBytes rest) ∧
    getCmdsFromSocket [storageDevice, storageDevice]
      (commandBytes [(storageDevice, .submit oneByteOut),
        (storageDevice, .unlink unlinkOneByteOut)]) = .error .unknownCmd := by
  refine ⟨fun h => ?_, rfl⟩
  have htakes := h (UsbIpIsoPacketDescriptor.toBytes ⟨0, 1, 1, 0⟩)
    { oneByteOut.toCmdSubmitFields with
      transfer := .storage () ⟨none, 0, 0, 0, false, false, [0x55]⟩ } rfl
  exact absurd ((takes_iff_of_suffix (suffix_of_takes htakes)).mp htakes) (by decide)

theorem wellFormed_oneByteOut : oneByteOut.WellFormed genericDevice where
  command := rfl
  acceptable := by decide
  payload_length := rfl
  isoDescriptors_length := rfl
  allocated := rfl
  packetsFit h := nomatch h

theorem commands_framed_iff_instance :
    Takes 65 oneByteOut.toBytes [] ∧
      ∃ cmds', getCmdsFromSocket [genericDevice, genericDevice]
          (commandBytes [(genericDevice, .submit oneByteOut),
            (genericDevice, .unlink unlinkOneByteOut)] ++ []) = .ok (cmds', []) ∧
        List.Forall₂ (@ClientCommand.ReadAs Unit)
          [.submit oneByteOut, .unlink unlinkOneByteOut] cmds' := by
  constructor
  · refine (commands_framed_iff.1 genericDevice oneByteOut.toBytes []
      { oneByteOut.toCmdSubmitFields with
        transfer := .generic none ⟨[0x55], [⟨0, 1, 1, 0⟩], 0, 0, false⟩ } rfl).mpr ?_
    intro handle halloc
    cases halloc
    trivial
  · refine commands_framed_iff.2 [(genericDevice, .submit oneByteOut),
      (genericDevice, .unlink unlinkOneByteOut)] [] ?_ ⟨?_, trivial, trivial⟩
    · intro c hc
      simp only [List.mem_cons, List.not_mem_nil, or_false] at hc
      rcases hc with rfl | rfl
      · exact wellFormed_oneByteOut
      · exact (rfl : unlinkOneByteOut.header.command = usbipCmdUnlink)
    · intro handle halloc
      cases halloc
      trivial

end Usbipdcpp.Protocol
