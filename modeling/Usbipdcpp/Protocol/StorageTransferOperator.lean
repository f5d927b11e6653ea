import Usbipdcpp.Protocol.GenericTransferOperator

namespace Usbipdcpp.Protocol

open Foundation.ByteStream

/-- The memory that `external_buf` points into. -/
inductive BufferRegion where
  | mapped
  | staging
  | fallback
  deriving DecidableEq, Repr

/-- What `external_buf` points at, with the bytes found there. -/
structure ExternalBuffer where
  region : BufferRegion
  contents : List UInt8
  deriving DecidableEq, Repr

/-- The transfer of a mass storage interface's endpoints. -/
structure StorageIoTransfer where
  externalBuf : Option ExternalBuffer
  actualLength : Nat
  fileLba : Nat
  fileOffset : Nat
  directIo : Bool
  isIn : Bool
  fallbackData : List UInt8
  deriving DecidableEq, Repr

/-- The memory that a transfer's bytes are read into and written from. -/
def StorageIoTransfer.buffer (trx : StorageIoTransfer) : List UInt8 :=
  match trx.externalBuf with
  | some buf => buf.contents
  | none => trx.fallbackData

/-- What a backend's `recv_direct` returns, and the stream it leaves. -/
structure DirectReceive where
  accepted : Bool
  rest : List UInt8
  deriving DecidableEq, Repr

/-- What a backend's `send_direct` returns, and the bytes it has written. -/
structure DirectSend where
  accepted : Bool
  sent : List UInt8
  deriving DecidableEq, Repr

/-- The zero-copy part of a storage backend, which moves bytes between the socket and the
medium on its own.  It can only take bytes off the front of the stream. -/
structure StorageBackend where
  recvDirect : (lba offset length : Nat) → List UInt8 → DirectReceive
  sendDirect : (lba offset length : Nat) → DirectSend
  recvDirect_suffix : ∀ lba offset length s, (recvDirect lba offset length s).rest <:+ s

/-- The backend takes the bytes it is asked for off the stream, or none at all. -/
def StorageBackend.Exact (backend : StorageBackend) : Prop :=
  ∀ lba offset length s, backend.recvDirect lba offset length s = ⟨true, s.drop length⟩ ∨
    backend.recvDirect lba offset length s = ⟨false, s⟩

/-- A backend that does not override `recv_direct` and `send_direct`. -/
def StorageBackend.fallback : StorageBackend where
  recvDirect _ _ _ s := ⟨false, s⟩
  sendDirect _ _ _ := ⟨false, []⟩
  recvDirect_suffix _ _ _ s := List.suffix_refl s

/-- The kernel's answers in one round of a zero-copy receive, which moves `n` bytes from the
socket to a pipe and `m` of them from the pipe to the file. -/
inductive SpliceRound where
  | closed
  | fileError (n : Nat)
  | moved (n m : Nat)
  deriving DecidableEq, Repr

namespace RawImageBackend

/-- The loop of `recv_direct`; the answers end where the socket fails. -/
def recvDirect : List SpliceRound → (remaining : Nat) → List UInt8 → DirectReceive
  | _, 0, s => ⟨true, s⟩
  | [], _ + 1, s => ⟨false, s⟩
  | .closed :: _, _ + 1, s => ⟨true, s⟩
  | .fileError n :: _, _ + 1, s => ⟨false, s.drop n⟩
  | .moved n m :: rounds, remaining + 1, s => recvDirect rounds (remaining + 1 - m) (s.drop n)

/-- Every round hands the file all that it took off the socket, until nothing remains. -/
def MovesWhole : List SpliceRound → (remaining : Nat) → Prop
  | _, 0 => True
  | .moved n m :: rounds, remaining + 1 =>
      n = m ∧ n ≤ remaining + 1 ∧ MovesWhole rounds (remaining + 1 - m)
  | _, _ + 1 => False

theorem recvDirect_suffix (rounds : List SpliceRound) (remaining : Nat) (s : List UInt8) :
    (recvDirect rounds remaining s).rest <:+ s := by
  fun_induction recvDirect rounds remaining s with
  | case1 rounds s => exact List.suffix_refl s
  | case2 remaining s => exact List.suffix_refl s
  | case3 rounds remaining s => exact List.suffix_refl s
  | case4 n rounds remaining s => exact List.drop_suffix n s
  | case5 n m rounds remaining s ih => exact ih.trans (List.drop_suffix n s)

theorem recvDirect_of_movesWhole {rounds : List SpliceRound} {remaining : Nat}
    (h : MovesWhole rounds remaining) (s : List UInt8) :
    recvDirect rounds remaining s = ⟨true, s.drop remaining⟩ := by
  fun_induction recvDirect rounds remaining s with
  | case1 rounds s => rfl
  | case2 remaining s => exact h.elim
  | case3 rounds remaining s => exact h.elim
  | case4 n rounds remaining s => exact h.elim
  | case5 n m rounds remaining s ih =>
      obtain ⟨rfl, hn, hrest⟩ := h
      rw [ih hrest, List.drop_drop]
      congr
      omega

/-- The backend over a mapped file, with the kernel's answers to its receives; what it sends
on its own is not needed for receiving. -/
def backend (rounds : (lba offset length : Nat) → List SpliceRound)
    (sendDirect : (lba offset length : Nat) → DirectSend) : StorageBackend where
  recvDirect lba offset length s := recvDirect (rounds lba offset length) length s
  sendDirect := sendDirect
  recvDirect_suffix lba offset length s := recvDirect_suffix (rounds lba offset length) length s

theorem exact_backend {rounds : (lba offset length : Nat) → List SpliceRound}
    {sendDirect : (lba offset length : Nat) → DirectSend}
    (h : ∀ lba offset length, MovesWhole (rounds lba offset length) length) :
    (backend rounds sendDirect).Exact :=
  fun lba offset length s => .inl (recvDirect_of_movesWhole (h lba offset length) s)

end RawImageBackend

inductive BotState where
  | idle
  | dataOut
  | dataIn
  | status
  deriving DecidableEq, Repr

/-- The members of a mass storage handler that its transfer operator works with. -/
structure MscBulkOnlyHandler where
  state : BotState
  writeMmapBase : Option (List UInt8)
  writeLba : Nat
  writeAccumulated : Nat
  backend : Option StorageBackend

namespace MscBulkOnlyHandler

/-- Where the data stage of an OUT transfer of `length` bytes goes; a command block, or data
that no command asked for, goes to `fallback_data`. -/
def prepareOutBuffer (handler : MscBulkOnlyHandler) (length : Nat) (trx : StorageIoTransfer) :
    StorageIoTransfer :=
  match handler.state, handler.writeMmapBase with
  | .dataOut, some base =>
      { trx with
        directIo := true
        fileLba := handler.writeLba
        fileOffset := handler.writeAccumulated
        externalBuf := some ⟨.mapped, base.drop handler.writeAccumulated⟩ }
  | .dataOut, none => { trx with externalBuf := some ⟨.staging, .replicate length 0⟩ }
  | _, _ => { trx with externalBuf := none }

end MscBulkOnlyHandler

namespace StorageTransferOperator

def allocTransferHandle (handler : MscBulkOnlyHandler) (bufferLength : Nat)
    (header : UsbIpHeaderBasic) : StorageIoTransfer :=
  let trx : StorageIoTransfer :=
    { externalBuf := none
      actualLength := 0
      fileLba := 0
      fileOffset := 0
      directIo := false
      isIn := header.direction == UsbIpDirection.in_
      fallbackData := [] }
  if header.direction == UsbIpDirection.out then handler.prepareOutBuffer bufferLength trx
  else trx

/-- What the backend makes of the data stage where the transfer is to go past the process's
memory, and `none` where it is not. -/
def directReceive (handler : MscBulkOnlyHandler) (trx : StorageIoTransfer) (length : Nat)
    (s : List UInt8) : Option DirectReceive :=
  match handler.backend with
  | some backend =>
      if trx.directIo && trx.externalBuf.isSome then
        some (backend.recvDirect trx.fileLba trx.fileOffset length s)
      else none
  | none => none

/-- The transfer once the bytes of its data stage have been read into its buffer. -/
def storeFallback (trx : StorageIoTransfer) (bytes : List UInt8) : StorageIoTransfer :=
  match trx.externalBuf with
  | some buf =>
      { trx with externalBuf := some { buf with contents := storeAt buf.contents 0 bytes } }
  | none => { trx with fallbackData := bytes }

def recvFallback (trx : StorageIoTransfer) (length : Nat) : Reader StorageIoTransfer := do
  let bytes ← readBytes .eof length
  return storeFallback trx bytes

/-- The packet count plays no part: no descriptor is read. -/
def recvTransferData (handler : MscBulkOnlyHandler) (trx : StorageIoTransfer) (length : Nat) :
    Reader StorageIoTransfer := fun s =>
  match directReceive handler trx length s with
  | some direct =>
      if direct.accepted then .ok (trx, direct.rest) else recvFallback trx length direct.rest
  | none => recvFallback trx length s

def sendTransferData (handler : MscBulkOnlyHandler) (trx : StorageIoTransfer) (length : Nat) :
    List UInt8 :=
  let buffered := bytesAt trx.buffer 0 length
  match handler.backend with
  | some backend =>
      let direct := backend.sendDirect trx.fileLba trx.fileOffset length
      if trx.directIo && direct.accepted then direct.sent
      else if trx.directIo then direct.sent ++ buffered
      else buffered
  | none => buffered

theorem consumes_recvFallback (trx : StorageIoTransfer) (length : Nat) :
    Consumes (recvFallback trx length) fun _ => length :=
  consumes_bind (consumes_readBytes _ length) fun _ => consumes_pure _

theorem decodes_recvFallback (trx : StorageIoTransfer) (bytes : List UInt8) :
    Decodes (recvFallback trx bytes.length) bytes (storeFallback trx bytes) :=
  decodes_of_bytes_eq (List.append_nil bytes) <|
    decodes_bind (decodes_readBytes _ bytes) (decodes_pure (storeFallback trx bytes))

theorem take_buffer_storeFallback (trx : StorageIoTransfer) (bytes : List UInt8) :
    (storeFallback trx bytes).buffer.take bytes.length = bytes := by
  unfold storeFallback
  rcases trx.externalBuf with _ | buf
  · exact List.take_length
  · exact take_drop_storeAt (Nat.zero_le buf.contents.length) bytes

@[simp] theorem storeFallback_directIo (trx : StorageIoTransfer) (bytes : List UInt8) :
    (storeFallback trx bytes).directIo = trx.directIo := by
  unfold storeFallback
  rcases trx.externalBuf with _ | buf <;> rfl

theorem directIo_of_recvFallback {trx trx' : StorageIoTransfer} {length : Nat}
    {s rest : List UInt8} (h : recvFallback trx length s = .ok (trx', rest)) :
    trx'.directIo = trx.directIo := by
  obtain ⟨bytes, mid, -, hpure⟩ := bind_eq_ok_iff.mp h
  cases hpure
  exact storeFallback_directIo trx bytes

theorem directIo_of_recvTransferData {handler : MscBulkOnlyHandler} {trx trx' : StorageIoTransfer}
    {length : Nat} {s rest : List UInt8}
    (h : recvTransferData handler trx length s = .ok (trx', rest)) :
    trx'.directIo = trx.directIo := by
  unfold recvTransferData at h
  split at h
  next =>
    split at h
    next => cases h; rfl
    next => exact directIo_of_recvFallback h
  next => exact directIo_of_recvFallback h

/-- Only a transfer to the device can bypass the process's memory from the start. -/
theorem directIo_of_allocTransferHandle (handler : MscBulkOnlyHandler) (bufferLength : Nat)
    {header : UsbIpHeaderBasic} (h : (header.direction == UsbIpDirection.out) = false) :
    (allocTransferHandle handler bufferLength header).directIo = false := by
  simp [allocTransferHandle, h]

section Receive

variable {handler : MscBulkOnlyHandler} {trx : StorageIoTransfer} {length numIsoPackets : Nat}
  {s rest : List UInt8}

/-- What taking a data stage of `length` bytes and `numIsoPackets` descriptors off `s` asks of
a storage transfer: there are no descriptors, and a backend that receives on its own takes
just what is left over for it. -/
def TakesDataStage (handler : MscBulkOnlyHandler) (trx : StorageIoTransfer)
    (length numIsoPackets : Nat) (s : List UInt8) : Prop :=
  match directReceive handler trx length s with
  | none => numIsoPackets = 0
  | some direct =>
      s.length = direct.rest.length +
        ((if direct.accepted then length else 0) + 16 * numIsoPackets)

theorem takesDataStage_of_directReceive {direct : DirectReceive}
    (h : directReceive handler trx length s = some direct) :
    TakesDataStage handler trx length numIsoPackets s ↔
      s.length = direct.rest.length +
        ((if direct.accepted then length else 0) + 16 * numIsoPackets) := by
  unfold TakesDataStage
  rw [h]

theorem takesDataStage_of_no_directReceive (h : directReceive handler trx length s = none) :
    TakesDataStage handler trx length numIsoPackets s ↔ numIsoPackets = 0 := by
  unfold TakesDataStage
  rw [h]

theorem directReceive_eq_some {direct : DirectReceive}
    (h : directReceive handler trx length s = some direct) :
    trx.directIo = true ∧ ∃ backend, handler.backend = some backend ∧
      direct = backend.recvDirect trx.fileLba trx.fileOffset length s := by
  unfold directReceive at h
  split at h
  next backend hbackend =>
    split at h
    next hdirectIo =>
      cases h
      exact ⟨(Bool.and_eq_true_iff.mp hdirectIo).1, backend, hbackend, rfl⟩
    next => cases h
  next => cases h

theorem directReceive_suffix {direct : DirectReceive}
    (h : directReceive handler trx length s = some direct) : direct.rest <:+ s := by
  obtain ⟨-, backend, -, rfl⟩ := directReceive_eq_some h
  exact backend.recvDirect_suffix _ _ _ _

/-- With a backend that takes the payload or nothing, a storage transfer takes its data stage
just where no descriptor belongs to it. -/
theorem takesDataStage_iff_of_exact
    (hexact : ∀ backend, handler.backend = some backend → backend.Exact)
    (hlength : length ≤ s.length) :
    TakesDataStage handler trx length numIsoPackets s ↔ numIsoPackets = 0 := by
  rcases hdirect : directReceive handler trx length s with _ | direct
  · exact takesDataStage_of_no_directReceive hdirect
  · rw [takesDataStage_of_directReceive hdirect]
    obtain ⟨-, backend, hbackend, rfl⟩ := directReceive_eq_some hdirect
    rcases hexact backend hbackend trx.fileLba trx.fileOffset length s with h | h
    · rw [h]
      simp only [List.length_drop, if_true]
      omega
    · rw [h]
      simp

theorem recvTransferData_takes_iff {trx' : StorageIoTransfer}
    (h : recvTransferData handler trx length s = .ok (trx', rest)) :
    rest <:+ s ∧
      (Takes (length + 16 * numIsoPackets) s rest ↔
        TakesDataStage handler trx length numIsoPackets s) := by
  unfold recvTransferData at h
  split at h
  next direct hdirect =>
    have hsuffix := directReceive_suffix hdirect
    rw [takesDataStage_of_directReceive hdirect]
    split at h
    next haccepted =>
      cases h
      rw [if_pos haccepted]
      exact ⟨hsuffix, takes_iff_of_suffix hsuffix⟩
    next hrefused =>
      have htaken : Takes length direct.rest rest :=
        consumes_recvFallback trx length direct.rest trx' rest h
      have hleft := (takes_iff_of_suffix (suffix_of_takes htaken)).mp htaken
      have hrest : rest <:+ s := (suffix_of_takes htaken).trans hsuffix
      rw [if_neg hrefused, takes_iff_of_suffix hrest]
      exact ⟨hrest, by omega⟩
  next hnone =>
    have htaken : Takes length s rest := consumes_recvFallback trx length s trx' rest h
    have hrest := suffix_of_takes htaken
    have hleft := (takes_iff_of_suffix hrest).mp htaken
    rw [takesDataStage_of_no_directReceive hnone, takes_iff_of_suffix hrest]
    exact ⟨hrest, by omega⟩

/-- Once the data stage is there, a storage transfer is received. -/
theorem recvTransferData_received (handler : MscBulkOnlyHandler) (trx : StorageIoTransfer)
    {payload descBytes : List UInt8} (hs : s = payload ++ (descBytes ++ rest))
    (hdescs : descBytes.length = 16 * numIsoPackets)
    (htakes : TakesDataStage handler trx payload.length numIsoPackets s) :
    ∃ trx' left, recvTransferData handler trx payload.length s = .ok (trx', left) ∧
      (trx'.directIo = true ∨ trx'.buffer.take payload.length = payload) := by
  unfold recvTransferData
  split
  next direct hdirect =>
    have hdirectIo := (directReceive_eq_some hdirect).1
    rw [takesDataStage_of_directReceive hdirect] at htakes
    split
    next => exact ⟨trx, direct.rest, rfl, .inl hdirectIo⟩
    next hrefused =>
      -- the backend gives up, and the bytes are read behind what it has taken
      rw [if_neg hrefused, hs, List.length_append, List.length_append] at htakes
      have hlength : (direct.rest.take payload.length).length = payload.length :=
        List.length_take_of_le (by omega)
      have hrecv := decodes_recvFallback trx (direct.rest.take payload.length)
        (direct.rest.drop payload.length)
      rw [List.take_append_drop, hlength] at hrecv
      exact ⟨_, _, hrecv, .inl ((storeFallback_directIo trx _).trans hdirectIo)⟩
  next hnone =>
    rw [hs]
    exact ⟨storeFallback trx payload, descBytes ++ rest,
      decodes_recvFallback trx payload (descBytes ++ rest),
      .inr (take_buffer_storeFallback trx payload)⟩

end Receive

end StorageTransferOperator

end Usbipdcpp.Protocol
