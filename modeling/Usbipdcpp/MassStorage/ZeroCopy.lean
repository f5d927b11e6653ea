import Usbipdcpp.Foundation.SplicePump
import Usbipdcpp.Protocol.StorageTransferOperator

namespace Usbipdcpp.MassStorage

open Foundation.SplicePump
open Protocol (bytesAt bytesAt_eq_take_drop length_bytesAt storeAt storeAt_nil storeAt_storeAt)

/-- Where a block's bytes are in the image file. -/
def filePosition (lba : UInt64) (blockSize : UInt32) (offset : Nat) : Nat :=
  lba.toNat * blockSize.toNat + offset

/-- What a receive works on: all that the socket gives before it ends or fails, the splice pipe and
the image file. -/
structure RecvSide where
  stream : List UInt8
  pipe : List UInt8
  medium : List UInt8
  deriving DecidableEq, Repr

/-- What a send works on: the position in the image file, the splice pipe and what has been written
to the socket. -/
structure SendSide where
  position : Nat
  pipe : List UInt8
  sent : List UInt8
  deriving DecidableEq, Repr

namespace RawImageBackend

/-- A `splice` of `n` bytes from the socket into the pipe, of those that it has been asked for and
that are there. -/
def recvFill (asked n : Nat) (s : RecvSide) : Option RecvSide :=
  if 0 < n ∧ n ≤ asked ∧ n ≤ s.stream.length then
    some { s with stream := s.stream.drop n, pipe := s.pipe ++ s.stream.take n }
  else none

def recvDrain (fileOffset length remaining asked m : Nat) (s : RecvSide) : Option RecvSide :=
  if 0 < m ∧ m ≤ asked ∧ m ≤ s.pipe.length then
    some
      { s with
        pipe := s.pipe.drop m
        medium := storeAt s.medium (fileOffset + (length - remaining)) (s.pipe.take m) }
  else none

def sendFill (medium : List UInt8) (asked n : Nat) (s : SendSide) : Option SendSide :=
  if 0 < n ∧ n ≤ asked ∧ n ≤ (medium.drop s.position).length then
    some
      { s with
        position := s.position + n
        pipe := s.pipe ++ (medium.drop s.position).take n }
  else none

def sendDrain (_remaining asked m : Nat) (s : SendSide) : Option SendSide :=
  if 0 < m ∧ m ≤ asked ∧ m ≤ s.pipe.length then
    some { s with pipe := s.pipe.drop m, sent := s.sent ++ s.pipe.take m }
  else none

/-- `recv_direct`, with the results of its calls of `splice`; without a pipe it makes none. -/
def recvDirect (piped : Bool) (fileOffset length : Nat) (results : List SpliceResult)
    (s : RecvSide) : Option (Bool × RecvSide) :=
  if piped then spliceLoop recvFill (recvDrain fileOffset length) results length s
  else if results = [] then some (false, s)
  else none

def sendDirect (piped : Bool) (medium : List UInt8) (length : Nat) (results : List SpliceResult)
    (s : SendSide) : Option (Bool × SendSide) :=
  if piped then spliceLoop (sendFill medium) sendDrain results length s
  else if results = [] then some (false, s)
  else none

end RawImageBackend

/-- The error code and the state behind `recv_transfer_data`, and the length of the data that the
handler is told of. -/
structure Received where
  ec : Bool
  side : RecvSide
  notified : Option Nat
  deriving DecidableEq, Repr

structure Sent where
  ec : Bool
  side : SendSide
  deriving DecidableEq, Repr

namespace StorageTransferOperator

/-- `asio::read` into the mapping. -/
def readFallback (fileOffset length : Nat) (s : RecvSide) : Received :=
  if length ≤ s.stream.length then
    { ec := false
      side :=
        { s with
          stream := s.stream.drop length
          medium := storeAt s.medium fileOffset (s.stream.take length) }
      notified := some length }
  else
    { ec := true
      side := { s with stream := [], medium := storeAt s.medium fileOffset s.stream }
      notified := none }

/-- `asio::write` from the mapping, to a socket that takes so many bytes before it fails. -/
def writeFallback (medium : List UInt8) (fileOffset length room : Nat) (s : SendSide) : Sent where
  ec := decide (room < length)
  side := { s with sent := s.sent ++ (bytesAt medium fileOffset length).take room }

/-- `recv_transfer_data` for a direct transfer.  What `recv_direct` has set `ec` to is cleared
before the bytes are read in the other way. -/
def recvTransferData (piped : Bool) (fileOffset length : Nat) (results : List SpliceResult)
    (s : RecvSide) : Option Received :=
  (RawImageBackend.recvDirect piped fileOffset length results s).map fun p =>
    if p.1 then { ec := false, side := p.2, notified := some length }
    else readFallback fileOffset length p.2

/-- `send_transfer_data` for a direct transfer. -/
def sendTransferData (piped : Bool) (medium : List UInt8) (fileOffset length room : Nat)
    (results : List SpliceResult) : Option Sent :=
  (RawImageBackend.sendDirect piped medium length results ⟨fileOffset, [], []⟩).map fun p =>
    if p.1 then { ec := false, side := p.2 }
    else writeFallback medium fileOffset length room p.2

end StorageTransferOperator

open StorageTransferOperator RawImageBackend

/-- An error is reported, or the next bytes of the stream are where they belong and no others have
been taken. -/
def Received.Exact (fileOffset length : Nat) (stream medium : List UInt8) (r : Received) : Prop :=
  r.ec = true ∨
    (length ≤ stream.length ∧ r.side.stream = stream.drop length ∧ r.side.pipe = [] ∧
      r.side.medium = storeAt medium fileOffset (stream.take length))

/-- An error is reported, or just the bytes of the medium have been written. -/
def Sent.Exact (fileOffset length : Nat) (medium : List UInt8) (r : Sent) : Prop :=
  r.ec = true ∨
    (r.side.sent = (medium.drop fileOffset).take length ∧ r.side.pipe = [])

/-- The calls have moved all of the data in both of their turns.  One that fails must do so before
anything has been moved, or the other way of moving the data must fail behind it. -/
def MovesAll (length : Nat) (results : List SpliceResult) (fallbackFails : Prop) : Prop :=
  if results.getLast? = some .failed then taken results = 0 ∨ fallbackFails
  else taken results = length ∧ delivered results = length

section Receiving

variable {fileOffset length : Nat} {results : List SpliceResult} {s t : RecvSide} {ok : Bool}

/-- The pump that a receive stands for, with what has reached the file as its sink. -/
structure RecvPumps (fileOffset length : Nat) (medium : List UInt8) (remaining : Nat)
    (p : Pump UInt8) (s : RecvSide) : Prop where
  source : p.source = s.stream
  pipe : p.pipe = s.pipe
  stored : s.medium = storeAt medium fileOffset p.sink
  moved : p.sink.length + remaining = length
  room : fileOffset + length ≤ medium.length

theorem pumps_recv {medium : List UInt8} :
    Pumps recvFill (recvDrain fileOffset length) (RecvPumps fileOffset length medium) where
  fill remaining p s n t hs ht := by
    unfold recvFill at ht
    split at ht
    next hn =>
      obtain rfl := Option.some.inj ht
      rw [← hs.source] at hn
      refine ⟨hn.2.1, hn.2.2, ?_, ?_, hs.stored, hs.moved, hs.room⟩
      · rw [Pump.fill, hs.source]
      · rw [Pump.fill, hs.source, hs.pipe]
    next => cases ht
  drain remaining p s n m t hs hn ht := by
    unfold recvDrain at ht
    split at ht
    next hm =>
      obtain rfl := Option.some.inj ht
      rw [← hs.pipe] at hm
      have hmoved := hs.moved
      have hroom := hs.room
      have hposition : fileOffset + (length - remaining) = fileOffset + p.sink.length := by omega
      refine ⟨hm.2.1, hm.2.2, hs.source, ?_, ?_, ?_, hs.room⟩
      · rw [Pump.drain, hs.pipe]
      · dsimp only
        rw [hs.stored, hposition, storeAt_storeAt _ _ (by omega), Pump.drain, hs.pipe]
      · rw [Pump.drain, List.length_append, List.length_take_of_le hm.2.2]
        omega
    next => cases ht

/-- What a run of `recv_direct` leaves, by what its calls have moved. -/
theorem recvDirect_moves (hroom : fileOffset + length ≤ s.medium.length) (hpipe : s.pipe = [])
    (ht : recvDirect true fileOffset length results s = some (ok, t)) :
    ∃ stored, t.stream = s.stream.drop (taken results) ∧ taken results ≤ s.stream.length ∧
      stored ++ t.pipe = s.stream.take (taken results) ∧ stored.length = delivered results ∧
      t.medium = storeAt s.medium fileOffset stored ∧
      (ok = false ↔ results.getLast? = some .failed) := by
  have hs : RecvPumps fileOffset length s.medium length ⟨s.stream, s.pipe, []⟩ s :=
    ⟨rfl, rfl, storeAt_nil.symm, Nat.zero_add length, hroom⟩
  obtain ⟨⟨left, q, hq, hadvanced⟩, hok⟩ := pumps_recv.run hs ht
  refine ⟨q.sink, hq.source.symm.trans hadvanced.source, hadvanced.available, ?_, ?_, hq.stored,
    hok⟩
  · rw [← hq.pipe, hadvanced.order, hpipe]
    rfl
  · rw [hadvanced.sink]
    exact Nat.zero_add _

theorem stream_of_recvFill {asked n : Nat} (ht : recvFill asked n s = some t) :
    t.stream = s.stream.drop n := by
  unfold recvFill at ht
  split at ht
  next =>
    obtain rfl := Option.some.inj ht
    rfl
  next => cases ht

theorem stream_of_recvDrain {remaining asked m : Nat}
    (ht : recvDrain fileOffset length remaining asked m s = some t) : t.stream = s.stream := by
  unfold recvDrain at ht
  split at ht
  next =>
    obtain rfl := Option.some.inj ht
    rfl
  next => cases ht

/-- The rounds of a receive, where the bytes in the pipe are left out. -/
def rounds : List SpliceResult → List Protocol.SpliceRound
  | [] => []
  | [last] => if last = .endOfStream then [.closed] else []
  | first :: second :: results =>
      if second = .failed then [.fileError first.count]
      else .moved first.count second.count :: rounds results

/-- What is left of the stream is what the rounds leave of it. -/
theorem spliceLoop_rounds {remaining : Nat}
    (ht : spliceLoop recvFill (recvDrain fileOffset length) results remaining s = some (ok, t)) :
    Protocol.RawImageBackend.recvDirect (rounds results) remaining s.stream =
      ⟨ok, t.stream⟩ := by
  have hrun := splices_of_spliceLoop ht
  clear ht
  induction hrun with
  | done => rw [rounds, Protocol.RawImageBackend.recvDirect]
  | closed => rfl
  | unfilled => rfl
  | undrained hu =>
      rw [stream_of_recvFill hu]
      rfl
  | filled hu hrest ih =>
      rw [stream_of_recvFill hu] at ih
      exact ih
  | round hu hv hrest ih =>
      rw [stream_of_recvDrain hv, stream_of_recvFill hu] at ih
      exact ih

theorem exact_of_direct {results : List SpliceResult}
    (hroom : fileOffset + length ≤ s.medium.length) (hpipe : s.pipe = [])
    (ht : recvDirect true fileOffset length results s = some (true, t)) :
    Received.Exact fileOffset length s.stream s.medium ⟨false, t, some length⟩ ↔
      taken results = length ∧ delivered results = length := by
  obtain ⟨stored, hstream, havailable, horder, hstored, hmedium, -⟩ :=
    recvDirect_moves hroom hpipe ht
  constructor
  · rintro (hec | ⟨hlength, hrest, hempty, -⟩)
    · cases hec
    · have htaken := congrArg List.length (hstream.symm.trans hrest)
      rw [List.length_drop, List.length_drop] at htaken
      rw [hempty, List.append_nil] at horder
      rw [horder, List.length_take_of_le havailable] at hstored
      omega
  · rintro ⟨htaken, hdelivered⟩
    rw [htaken] at hstream havailable horder
    have hall := congrArg List.length horder
    rw [List.length_append, hstored, hdelivered, List.length_take_of_le havailable] at hall
    have hempty : t.pipe = [] := List.eq_nil_of_length_eq_zero (by omega)
    rw [hempty, List.append_nil] at horder
    exact .inr ⟨havailable, hstream, hempty, hmedium.trans (horder ▸ rfl)⟩

/-- Reading in the other way begins again from the first byte. -/
theorem exact_readFallback_iff {k : Nat} (hstream : t.stream = s.stream.drop k)
    (havailable : k ≤ s.stream.length) (hkept : k = 0 → t.pipe = [] ∧ t.medium = s.medium) :
    (readFallback fileOffset length t).Exact fileOffset length s.stream s.medium ↔
      k = 0 ∨ s.stream.length < k + length := by
  have hleft : t.stream.length = s.stream.length - k := by
    rw [hstream, List.length_drop]
  unfold readFallback
  split
  next hread =>
    constructor
    · rintro (hec | ⟨hlength, hrest, -, -⟩)
      · cases hec
      · have htaken := congrArg List.length hrest
        rw [hstream, List.drop_drop, List.length_drop, List.length_drop] at htaken
        omega
    · rintro (hnone | hshort)
      · obtain ⟨hpipe, hmedium⟩ := hkept hnone
        rw [hnone, List.drop_zero] at hstream
        rw [hstream, hmedium]
        exact .inr ⟨hstream ▸ hread, rfl, hpipe, rfl⟩
      · omega
  next hshort => exact iff_of_true (.inl rfl) (.inr (by omega))

/-- A receive is exact just where its calls of `splice` have moved all of the data. -/
theorem exact_received_iff {piped : Bool} {r : Received}
    (hroom : fileOffset + length ≤ s.medium.length) (hpipe : s.pipe = [])
    (hr : recvTransferData piped fileOffset length results s = some r) :
    r.Exact fileOffset length s.stream s.medium ↔
      piped = false ∨ MovesAll length results (s.stream.length < taken results + length) := by
  obtain ⟨⟨ok, t⟩, ht, rfl⟩ := Option.map_eq_some_iff.mp hr
  cases piped with
  | false =>
      unfold recvDirect at ht
      rw [if_neg Bool.false_ne_true] at ht
      split at ht
      next =>
        cases ht
        refine iff_of_true ?_ (.inl rfl)
        exact (exact_readFallback_iff (k := 0) rfl (Nat.zero_le _)
          fun _ => ⟨hpipe, rfl⟩).mpr (.inl rfl)
      next => cases ht
  | true =>
      obtain ⟨stored, hstream, havailable, horder, -, hmedium, hok⟩ :=
        recvDirect_moves hroom hpipe ht
      cases ok with
      | false =>
          have hkept : taken results = 0 → t.pipe = [] ∧ t.medium = s.medium := by
            intro hnone
            rw [hnone, List.take_zero, List.append_eq_nil_iff] at horder
            exact ⟨horder.2, by rw [hmedium, horder.1, storeAt_nil]⟩
          rw [MovesAll, if_pos (hok.mp rfl), if_neg Bool.false_ne_true,
            exact_readFallback_iff hstream havailable hkept]
          simp
      | true =>
          rw [MovesAll, if_neg (fun hlast => Bool.noConfusion (hok.mpr hlast)), if_pos rfl,
            exact_of_direct hroom hpipe ht]
          simp

end Receiving

section Sending

variable {medium : List UInt8} {fileOffset length room : Nat} {results : List SpliceResult}
  {s t : SendSide} {ok : Bool}

/-- The pump that a send stands for. -/
structure SendPumps (medium : List UInt8) (p : Pump UInt8) (s : SendSide) : Prop where
  source : p.source = medium.drop s.position
  pipe : p.pipe = s.pipe
  sent : p.sink = s.sent

theorem pumps_send : Pumps (sendFill medium) sendDrain fun _ => SendPumps medium where
  fill remaining p s n t hs ht := by
    unfold sendFill at ht
    split at ht
    next hn =>
      obtain rfl := Option.some.inj ht
      rw [← hs.source] at hn
      refine ⟨hn.2.1, hn.2.2, ?_, ?_, hs.sent⟩
      · rw [Pump.fill, hs.source, List.drop_drop]
      · rw [Pump.fill, hs.source, hs.pipe]
    next => cases ht
  drain remaining p s n m t hs _ ht := by
    unfold sendDrain at ht
    split at ht
    next hm =>
      obtain rfl := Option.some.inj ht
      rw [← hs.pipe] at hm
      refine ⟨hm.2.1, hm.2.2, hs.source, ?_, ?_⟩
      · rw [Pump.drain, hs.pipe]
      · rw [Pump.drain, hs.sent, hs.pipe]
    next => cases ht

/-- What a run of `send_direct` has sent, by what its calls have moved. -/
theorem sendDirect_moves
    (ht : sendDirect true medium length results ⟨fileOffset, [], []⟩ = some (ok, t)) :
    taken results ≤ (medium.drop fileOffset).length ∧
      t.sent ++ t.pipe = (medium.drop fileOffset).take (taken results) ∧
      t.sent.length = delivered results ∧ (ok = false ↔ results.getLast? = some .failed) := by
  have hs : SendPumps medium ⟨medium.drop fileOffset, [], []⟩ ⟨fileOffset, [], []⟩ :=
    ⟨rfl, rfl, rfl⟩
  obtain ⟨⟨left, q, hq, hadvanced⟩, hok⟩ := pumps_send.run hs ht
  refine ⟨hadvanced.available, ?_, ?_, hok⟩
  · rw [← hq.pipe, ← hq.sent, hadvanced.order]
    rfl
  · rw [← hq.sent, hadvanced.sink]
    exact Nat.zero_add _

theorem exact_of_sendDirect (hroom : fileOffset + length ≤ medium.length)
    (ht : sendDirect true medium length results ⟨fileOffset, [], []⟩ = some (true, t)) :
    Sent.Exact fileOffset length medium ⟨false, t⟩ ↔
      taken results = length ∧ delivered results = length := by
  obtain ⟨havailable, horder, hsent, -⟩ := sendDirect_moves ht
  have hall := congrArg List.length horder
  rw [List.length_append, hsent, List.length_take_of_le havailable] at hall
  have hwhole : ((medium.drop fileOffset).take length).length = length := by
    rw [List.length_take, List.length_drop]
    omega
  constructor
  · rintro (hec | ⟨hbytes, hempty⟩)
    · cases hec
    · rw [hbytes, hwhole] at hsent
      rw [hempty, List.length_nil] at hall
      omega
  · rintro ⟨htaken, hdelivered⟩
    have hempty : t.pipe = [] := List.eq_nil_of_length_eq_zero (by omega)
    rw [hempty, List.append_nil, htaken] at horder
    exact .inr ⟨horder, hempty⟩

/-- Writing in the other way begins again from the first byte. -/
theorem exact_writeFallback_iff (hroom : fileOffset + length ≤ medium.length) :
    (writeFallback medium fileOffset length room t).Exact fileOffset length medium ↔
      t.sent.length + t.pipe.length = 0 ∨ room < length := by
  have hbytes := bytesAt_eq_take_drop hroom
  have hwhole := length_bytesAt medium fileOffset length
  unfold writeFallback Sent.Exact
  simp only [decide_eq_true_eq]
  rw [← hbytes]
  constructor
  · rintro (hec | ⟨hsent, hempty⟩)
    · exact .inr hec
    · have hlength := congrArg List.length hsent
      rw [List.length_append, List.length_take, hwhole] at hlength
      rw [hempty, List.length_nil]
      omega
  · rintro (hnone | hfails)
    · have hsent : t.sent = [] := List.eq_nil_of_length_eq_zero (by omega)
      have hempty : t.pipe = [] := List.eq_nil_of_length_eq_zero (by omega)
      rcases Nat.lt_or_ge room length with hfails | hwritten
      · exact .inl hfails
      · rw [hsent, List.nil_append, List.take_of_length_le (hwhole.le.trans hwritten)]
        exact .inr ⟨rfl, hempty⟩
    · exact .inl hfails

/-- A send is exact just where its calls of `splice` have moved all of the data. -/
theorem exact_sent_iff {piped : Bool} {r : Sent} (hroom : fileOffset + length ≤ medium.length)
    (hr : sendTransferData piped medium fileOffset length room results = some r) :
    r.Exact fileOffset length medium ↔
      piped = false ∨ MovesAll length results (room < length) := by
  obtain ⟨⟨ok, t⟩, ht, rfl⟩ := Option.map_eq_some_iff.mp hr
  cases piped with
  | false =>
      unfold sendDirect at ht
      rw [if_neg Bool.false_ne_true] at ht
      split at ht
      next =>
        cases ht
        exact iff_of_true ((exact_writeFallback_iff hroom).mpr (.inl rfl)) (.inl rfl)
      next => cases ht
  | true =>
      obtain ⟨havailable, horder, -, hok⟩ := sendDirect_moves ht
      cases ok with
      | false =>
          have hmoved := congrArg List.length horder
          rw [List.length_append, List.length_take_of_le havailable] at hmoved
          rw [MovesAll, if_pos (hok.mp rfl), if_neg Bool.false_ne_true,
            exact_writeFallback_iff hroom, hmoved]
          simp
      | true =>
          rw [MovesAll, if_neg (fun hlast => Bool.noConfusion (hok.mpr hlast)), if_pos rfl,
            exact_of_sendDirect hroom ht]
          simp

end Sending

/-- The data of a direct transfer is moved exactly, or an error reported, just where there is no
pipe or where the calls of `splice` have moved all of it. -/
theorem zero_copy_exact_iff (piped : Bool) (lba : UInt64) (blockSize : UInt32)
    (offset length : Nat) (results : List SpliceResult) (medium : List UInt8)
    (hroom : filePosition lba blockSize offset + length ≤ medium.length) :
    (∀ (stream : List UInt8) (r : Received),
      recvTransferData piped (filePosition lba blockSize offset) length results
          ⟨stream, [], medium⟩ = some r →
        (r.Exact (filePosition lba blockSize offset) length stream medium ↔
          piped = false ∨ MovesAll length results (stream.length < taken results + length))) ∧
    (∀ (room : Nat) (r : Sent),
      sendTransferData piped medium (filePosition lba blockSize offset) length room results =
          some r →
        (r.Exact (filePosition lba blockSize offset) length medium ↔
          piped = false ∨ MovesAll length results (room < length))) := by
  constructor
  · intro stream r hr
    exact exact_received_iff (s := ⟨stream, [], medium⟩) hroom rfl hr
  · intro room r hr
    exact exact_sent_iff hroom hr

/-- Two bytes go to the second block in one piece. -/
theorem zero_copy_exact_instance :
    Received.Exact 2 2 [5, 6, 7] [1, 2, 3, 4] ⟨false, ⟨[7], [], [1, 2, 5, 6]⟩, some 2⟩ := by
  have hroom : filePosition 1 2 0 + 2 ≤ [1, 2, 3, 4].length := by decide
  have hiff := (zero_copy_exact_iff true 1 2 0 2 [.moved 2, .moved 2] [1, 2, 3, 4] hroom).1
    [5, 6, 7] ⟨false, ⟨[7], [], [1, 2, 5, 6]⟩, some 2⟩ (by decide)
  exact hiff.mpr (.inr ⟨rfl, rfl⟩)

/-- A connection that ends in the middle of four bytes has them taken for received. -/
theorem not_zero_copy_exact :
    recvTransferData true (filePosition 0 512 0) 4 [.moved 2, .moved 2, .endOfStream]
        ⟨[5, 6], [], [1, 2, 3, 4]⟩ =
      some ⟨false, ⟨[], [], [5, 6, 3, 4]⟩, some 4⟩ ∧
    ¬Received.Exact (filePosition 0 512 0) 4 [5, 6] [1, 2, 3, 4]
      ⟨false, ⟨[], [], [5, 6, 3, 4]⟩, some 4⟩ := by
  refine ⟨by decide, ?_⟩
  rintro (hec | ⟨hlength, -⟩)
  · cases hec
  · exact absurd hlength (by decide)

end Usbipdcpp.MassStorage
