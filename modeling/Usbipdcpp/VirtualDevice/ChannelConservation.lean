import Usbipdcpp.VirtualDevice.ByteStreamInChannel
import Usbipdcpp.VirtualDevice.MessageInChannel

namespace Usbipdcpp.VirtualDevice.ChannelConservation

open Foundation.KeyedList Foundation.TransitionSystem InEndpointChannelBase Protocol

section Base

variable {Buffer Item Handler : Type} {derived : Derived Buffer Item}
  {channel channel' channel'' : InEndpointChannelBase Buffer Item Handler}

/-- What the replies of the connection have taken out of the buffer, and what is left there. -/
def stock (derived : Derived Buffer Item)
    (channel : InEndpointChannelBase Buffer Item Handler) : List Item :=
  channel.replies.flatMap (·.taken) ++ derived.contents channel.buffer

/-- What has been put into the buffer in the connection, in this order. -/
def placedItems (channel : InEndpointChannelBase Buffer Item Handler) : List Item :=
  channel.placed.flatMap (·.2)

theorem toNat_ofNat_min (n : Nat) (length : UInt32) :
    (UInt32.ofNat (min n length.toNat)).toNat = min n length.toNat := by
  rw [UInt32.toNat_ofNat']
  exact Nat.mod_eq_of_lt (lt_of_le_of_lt (Nat.min_le_right _ _) length.toNat_lt)

/-- The data that a reply is made of is cut to the length of the request. -/
theorem payload_dataReply (ep : UInt8) (number : Nat) (taken : List Item)
    (request : ChannelRequest Handler) (data : List UInt8) :
    ChannelReply.payload { ep, number, taken, ret := dataReply request data } =
      data.take request.length.toNat := by
  change (data.take (min data.length request.length.toNat)).take
    (UInt32.ofNat (min data.length request.length.toNat)).toNat = _
  rw [toNat_ofNat_min, List.take_take, Nat.min_self, List.take_eq_take_iff]
  omega

/-- On the wire the data follows the header, for a transfer that has no packets. -/
theorem toSocket_dataReply (storageHandler : Handler → MscBulkOnlyHandler)
    (request : ChannelRequest Handler) (data : List UInt8) (hin : request.transfer.isIn = true)
    (hiso : request.transfer.isoDescriptors = []) (hoffset : request.transfer.dataOffset = 0) :
    (dataReply request data).toSocket storageHandler =
      (dataReply request data).headerBytes ++ data.take request.length.toNat := by
  obtain ⟨filled, hfilled⟩ : ∃ filled, filled =
      GenericTransferOperator.setTransferData request.transfer data request.length.toNat :=
    ⟨_, rfl⟩
  have hactual : (dataReply request data).actualLength.toNat = filled.1 := by
    rw [hfilled]
    exact toNat_ofNat_min _ _
  have htransfer : (dataReply request data).transfer = some (.generic request.owner filled.2) := by
    rw [hfilled]
    rfl
  have hsent : GenericTransferOperator.sendTransferData filled.2 filled.1 =
      data.take request.length.toNat := by
    rw [hfilled]
    exact GenericTransferOperator.sendTransferData_setTransferData data _ hiso hoffset
  have hisIn : filled.2.isIn = true := by
    rw [hfilled]
    exact hin
  have hpackets : (dataReply request data).numberOfPackets = 0 := rfl
  rw [UsbIpRetSubmit.toSocket, htransfer, ← hsent]
  simp only [TransferHandle.transferIsIn, TransferHandle.sendTransferData, hisIn, if_true, hactual]
  split
  next => rfl
  next hzero =>
    have hnone : filled.1 = 0 := by
      rw [hpackets, or_iff_left (by decide), gt_iff_lt, UInt32.lt_iff_toNat_lt, hactual] at hzero
      exact Nat.eq_zero_of_not_pos hzero
    have htake : min data.length request.length.toNat = 0 := by
      rw [← hnone, hfilled]
      rfl
    have hdata : data.take request.length.toNat = [] := by
      rw [List.take_eq_nil_iff, ← List.length_eq_zero_iff]
      omega
    rw [hsent, hdata, List.append_nil]

/-- What a reply brings is what it took out of the buffer, cut to the length of its request. -/
def FromBuffer (derived : Derived Buffer Item) (reply : ChannelReply Item Handler) : Prop :=
  reply.taken = [] ∧ reply.payload = [] ∨
    ∃ length buffer, reply.taken = (derived.take length buffer).1 ∧
      reply.payload = (derived.payload length reply.taken).take length.toNat

/-- What answering and parking requests does to the items of a channel. -/
structure Answers (derived : Derived Buffer Item)
    (channel channel' : InEndpointChannelBase Buffer Item Handler) : Prop where
  stock_eq : stock derived channel' = stock derived channel
  left : derived.contents channel'.buffer <:+ derived.contents channel.buffer
  replies : ∀ reply ∈ channel'.replies, reply ∈ channel.replies ∨ FromBuffer derived reply
  placed : channel'.placed = channel.placed
  disconnected : channel'.disconnected = channel.disconnected
  connection : channel'.connection = channel.connection

theorem Answers.rfl : Answers derived channel channel :=
  ⟨Eq.refl _, List.suffix_rfl, fun _ hmem => Or.inl hmem, Eq.refl _, Eq.refl _, Eq.refl _⟩

theorem Answers.trans (h : Answers derived channel channel')
    (h' : Answers derived channel' channel'') : Answers derived channel channel'' where
  stock_eq := h'.stock_eq.trans h.stock_eq
  left := h'.left.trans h.left
  replies reply hmem := (h'.replies reply hmem).elim (h.replies reply) Or.inr
  placed := h'.placed.trans h.placed
  disconnected := h'.disconnected.trans h.disconnected
  connection := h'.connection.trans h.connection

/-- Which requests are parked, and which were accepted, does not matter to the items. -/
theorem answers_of_eq (hbuffer : channel'.buffer = channel.buffer)
    (hreplies : channel'.replies = channel.replies) (hplaced : channel'.placed = channel.placed)
    (hdisconnected : channel'.disconnected = channel.disconnected)
    (hconnection : channel'.connection = channel.connection) :
    Answers derived channel channel' where
  stock_eq := by rw [stock, stock, hreplies, hbuffer]
  left := hbuffer ▸ List.suffix_rfl
  replies _ hmem := Or.inl (hreplies ▸ hmem)
  placed := hplaced
  disconnected := hdisconnected
  connection := hconnection

/-- A reply takes its items off the front of the buffer. -/
theorem answers_trySendOne (ep : UInt8) (request : ChannelRequest Handler)
    (channel : InEndpointChannelBase Buffer Item Handler) :
    Answers derived channel (trySendOne derived ep request channel) where
  stock_eq := by
    have htake := derived.contents_take request.length channel.buffer
    simp only [stock, trySendOne, answer, List.flatMap_append, List.flatMap_cons,
      List.flatMap_nil, List.append_nil, List.append_assoc, htake]
  left := ⟨_, derived.contents_take request.length channel.buffer⟩
  replies reply hmem := by
    rcases List.mem_append.mp hmem with hmem | hmem
    · exact Or.inl hmem
    · rw [List.mem_singleton.mp hmem]
      exact Or.inr (Or.inr ⟨request.length, channel.buffer, rfl, payload_dataReply _ _ _ _ _⟩)
  placed := rfl
  disconnected := rfl
  connection := rfl

theorem answers_sendRound (h : sendRound derived channel = some channel') :
    Answers derived channel channel' := by
  obtain ⟨ep, request, rest, -, rfl⟩ := sendRound_cases h
  have hrest : Answers derived channel { channel with endpointRequests := rest } :=
    answers_of_eq rfl rfl rfl rfl rfl
  exact hrest.trans (answers_trySendOne ep request _)

theorem answers_trySendPendingLocked (channel : InEndpointChannelBase Buffer Item Handler) :
    Answers derived channel (trySendPendingLocked derived channel) :=
  sendRounds_invariant (P := Answers derived channel)
    (fun _ _ hc hround => hc.trans (answers_sendRound hround)) _ Answers.rfl

theorem answers_evictOldest (ep : UInt8) (channel : InEndpointChannelBase Buffer Item Handler) :
    Answers derived channel (channel.evictOldest ep) := by
  unfold evictOldest
  split
  next =>
    split
    next evicted rest _ =>
      refine ⟨by simp [stock, answer], List.suffix_rfl, fun reply hmem => ?_, rfl, rfl, rfl⟩
      rcases List.mem_append.mp hmem with hmem | hmem
      · exact Or.inl hmem
      · rw [List.mem_singleton.mp hmem]
        exact Or.inr (Or.inl ⟨rfl, rfl⟩)
    next => exact Answers.rfl
  next => exact Answers.rfl

/-- What pulled data does to the items of a channel. -/
structure Pulls (derived : Derived Buffer Item)
    (channel channel' : InEndpointChannelBase Buffer Item Handler) (items : List Item) : Prop where
  connected : channel.disconnected = false
  stock_sublist : (stock derived channel').Sublist (stock derived channel ++ items)
  placed : channel'.placed = channel.placed ++ [(none, items)]
  disconnected : channel'.disconnected = channel.disconnected
  connection : channel'.connection = channel.connection

theorem Pulls.answers {items : List Item} (h : Pulls derived channel channel' items)
    (h' : Answers derived channel' channel'') : Pulls derived channel channel'' items where
  connected := h.connected
  stock_sublist := h'.stock_eq ▸ h.stock_sublist
  placed := h'.placed.trans h.placed
  disconnected := h'.disconnected.trans h.disconnected
  connection := h'.connection.trans h.connection

theorem Answers.pulls {items : List Item} (h : Answers derived channel channel')
    (h' : Pulls derived channel' channel'' items) : Pulls derived channel channel'' items where
  connected := h.disconnected.symm.trans h'.connected
  stock_sublist := h.stock_eq ▸ h'.stock_sublist
  placed := h'.placed.trans (by rw [h.placed])
  disconnected := h'.disconnected.trans h.disconnected
  connection := h'.connection.trans h.connection

theorem pulls_sendPulledLocked (ep : UInt8) (request : ChannelRequest Handler)
    (pulled : List UInt8) (hconnected : channel.disconnected = false) :
    Pulls derived channel (sendPulledLocked derived ep request pulled channel)
      (derived.sendPulled request.length pulled channel.buffer).put where
  connected := hconnected
  stock_sublist := by
    have hsent := derived.contents_sendPulled request.length pulled channel.buffer
    simp only [stock, sendPulledLocked, answer, List.flatMap_append, List.flatMap_cons,
      List.flatMap_nil, List.append_nil, List.append_assoc]
    exact List.Sublist.append_left hsent _
  placed := rfl
  disconnected := rfl
  connection := rfl

/-- What a step of the base class does to the items of a channel. -/
inductive Moves (derived : Derived Buffer Item)
    (channel : InEndpointChannelBase Buffer Item Handler) :
    ChannelAction Handler → InEndpointChannelBase Buffer Item Handler → Prop
  | answers {a : ChannelAction Handler} {channel' : InEndpointChannelBase Buffer Item Handler}
      (h : Answers derived channel channel') : Moves derived channel a channel'
  | pulls {ep : UInt8} {seqnum length : UInt32} {owner : Option Handler}
      {transfer : GenericTransfer} {pulled : List UInt8} {items : List Item}
      {channel' : InEndpointChannelBase Buffer Item Handler}
      (hpulled : derived.tryPullData pulled ≠ []) (h : Pulls derived channel channel' items) :
      Moves derived channel (.onInRequest ep seqnum length owner transfer pulled) channel'
  | cleared : Moves derived channel .disconnectBuffer (channel.disconnectBuffer derived)
  | connected : Moves derived channel .onNewConnection (channel.onNewConnection derived)

theorem moves_onInRequest (ep : UInt8) (seqnum length : UInt32) (owner : Option Handler)
    (transfer : GenericTransfer) (pulled : List UInt8)
    (channel : InEndpointChannelBase Buffer Item Handler) :
    Moves derived channel (.onInRequest ep seqnum length owner transfer pulled)
      (channel.onInRequest derived ep seqnum length owner transfer pulled) := by
  unfold onInRequest
  split
  next => exact .answers Answers.rfl
  next hconnected =>
    have haccept : Answers derived channel (channel.accept ep seqnum) :=
      answers_of_eq rfl rfl rfl rfl rfl
    dsimp only
    split
    next => exact .answers (haccept.trans (answers_trySendOne ep _ _))
    next =>
      split
      next hpulled =>
        have hpulls := haccept.pulls
          (pulls_sendPulledLocked ep
            { seqnum, length, owner, transfer, number := channel.accepted.length }
            (derived.tryPullData pulled) (by simpa [accept] using hconnected))
        exact .pulls hpulled.2 (hpulls.answers (answers_trySendPendingLocked _))
      next =>
        have hpark : Answers derived (channel.evictOldest ep)
            ((channel.evictOldest ep).park ep
              { seqnum, length, owner, transfer, number := channel.accepted.length }) :=
          answers_of_eq rfl rfl rfl rfl rfl
        exact .answers (((answers_evictOldest ep channel).trans hpark).trans
          (answers_trySendPendingLocked _))

theorem answers_cancelPending (unlinkSeqnum : UInt32)
    (channel : InEndpointChannelBase Buffer Item Handler) :
    Answers derived channel (channel.cancelPending unlinkSeqnum).2 := by
  unfold cancelPending
  split
  next => exact answers_of_eq rfl rfl rfl rfl rfl
  next => exact Answers.rfl

theorem moves_of_step [DecidableEq Handler] {a : ChannelAction Handler}
    (h : channel.step derived a = some channel') : Moves derived channel a channel' := by
  cases a with
  | onInRequest ep seqnum length owner transfer pulled =>
      obtain rfl := by simpa [step] using h
      exact moves_onInRequest ep seqnum length owner transfer pulled channel
  | setMaxPendingRequests maxPending =>
      obtain rfl := by simpa [step] using h
      exact .answers (answers_of_eq rfl rfl rfl rfl rfl)
  | cancelPending unlinkSeqnum =>
      obtain rfl := by simpa [step] using h
      exact .answers (answers_cancelPending unlinkSeqnum channel)
  | disconnectBuffer =>
      obtain rfl := by simpa [step] using h
      exact .cleared
  | disconnectRequests =>
      obtain ⟨-, rfl⟩ := by simpa [step] using h
      exact .answers (answers_of_eq rfl rfl rfl rfl rfl)
  | onNewConnection =>
      obtain rfl := by simpa [step] using h
      exact .connected
  | rehash queues =>
      obtain ⟨-, rfl⟩ := by simpa [step] using h
      exact .answers (answers_of_eq rfl rfl rfl rfl rfl)

theorem placedItems_put (call : Nat) (items : List Item) (buffer : Buffer) :
    placedItems (channel.put call items buffer) = placedItems channel ++ items := by
  simp [placedItems, put]

end Base

section ByteStream

open ByteStreamInChannel

variable {Handler : Type} {s t : ByteStreamInChannel Handler}

theorem payload_eq_taken {reply : ChannelReply UInt8 Handler}
    (h : FromBuffer ByteStreamInChannel.derived reply) : reply.payload = reply.taken := by
  rcases h with ⟨htaken, hpayload⟩ | ⟨length, buffer, htaken, hpayload⟩
  · rw [htaken, hpayload]
  · rw [hpayload]
    refine List.take_of_length_le ?_
    change reply.taken.length ≤ _
    rw [htaken]
    change (takeBytes length buffer).1.length ≤ _
    rw [takeBytes, (buffer.contents_read _).1, List.length_take]
    omega

/-- What a call has put into the buffer in the latest connection is the part of its data that it
has written since then. -/
structure Accounts (channel : InEndpointChannelBase Utils.ByteBuffer UInt8 Handler) (index : Nat)
    (call : WriteCall) : Prop where
  pieces : (ofKey (some index) channel.placed).flatten =
    (call.data.take call.total).drop call.carried
  carried_le : call.carried ≤ call.total
  total_le : call.total ≤ call.data.length
  fresh : call.began = some channel.connection → call.carried = 0
  began_le : ∀ connection, call.began = some connection → connection ≤ channel.connection

/-- In a connection, what the replies have brought and what is left in the buffer is what the
calls have put there. -/
structure Conserved (s : ByteStreamInChannel Handler) : Prop where
  payloads : ∀ reply ∈ s.channel.replies, reply.payload = reply.taken
  stock_eq : s.channel.disconnected = false →
    stock ByteStreamInChannel.derived s.channel = placedItems s.channel
  sources : ∀ piece ∈ s.channel.placed, ∃ index, piece.1 = some index ∧ index < s.calls.length
  calls : ∀ index call, s.calls[index]? = some call → Accounts s.channel index call

theorem conserved_create (capacity : Nat) :
    Conserved (create capacity : ByteStreamInChannel Handler) where
  payloads _ hmem := absurd hmem List.not_mem_nil
  stock_eq h := by cases h
  sources _ hmem := absurd hmem List.not_mem_nil
  calls _ _ hcall := by simp [ByteStreamInChannel.create] at hcall

/-- A step that puts nothing into the buffer, and leaves what the calls have written alone. -/
theorem Conserved.answers (hs : Conserved s)
    (hanswers : Answers ByteStreamInChannel.derived s.channel t.channel)
    (hlength : t.calls.length = s.calls.length)
    (hcalls : ∀ (index : Nat) (call : WriteCall), t.calls[index]? = some call →
      ∃ call', s.calls[index]? = some call' ∧ ∃ pc, call = { call' with pc }) : Conserved t where
  payloads reply hmem := (hanswers.replies reply hmem).elim (hs.payloads reply) payload_eq_taken
  stock_eq hconnected := by
    rw [hanswers.stock_eq, hs.stock_eq (hanswers.disconnected ▸ hconnected), placedItems,
      placedItems, hanswers.placed]
  sources piece hmem := by
    rw [hanswers.placed] at hmem
    rw [hlength]
    exact hs.sources piece hmem
  calls index call hcall := by
    obtain ⟨call', hcall', pc, rfl⟩ := hcalls index call hcall
    have haccounts := hs.calls index call' hcall'
    refine ⟨?_, haccounts.carried_le, haccounts.total_le, ?_, ?_⟩
    · rw [hanswers.placed]
      exact haccounts.pieces
    · rw [hanswers.connection]
      exact haccounts.fresh
    · rw [hanswers.connection]
      exact haccounts.began_le

theorem Conserved.answersSame (hs : Conserved s)
    {channel : InEndpointChannelBase Utils.ByteBuffer UInt8 Handler}
    (hanswers : Answers ByteStreamInChannel.derived s.channel channel) :
    Conserved { s with channel } :=
  hs.answers hanswers rfl fun _ call hcall => ⟨call, hcall, call.pc, rfl⟩

theorem getElem?_setPc {index other : Nat} {pc : WritePc} {call : WriteCall}
    (hcall : (s.setPc index pc).calls[other]? = some call) :
    ∃ call', s.calls[other]? = some call' ∧ ∃ pc, call = { call' with pc } := by
  rw [setPc, List.getElem?_modify] at hcall
  obtain ⟨call', hcall', rfl⟩ := Option.map_eq_some_iff.mp hcall
  refine ⟨call', hcall', ?_⟩
  split
  · exact ⟨pc, rfl⟩
  · exact ⟨call'.pc, rfl⟩

theorem Conserved.setPc (hs : Conserved s) (index : Nat) (pc : WritePc) :
    Conserved (s.setPc index pc) :=
  hs.answers Answers.rfl (by simp [ByteStreamInChannel.setPc]) fun _ _ hcall =>
    getElem?_setPc hcall

theorem stock_put (channel : InEndpointChannelBase Utils.ByteBuffer UInt8 Handler) (index : Nat)
    (data : List UInt8) :
    stock ByteStreamInChannel.derived (channel.put index (data.take (channel.buffer.write data).1)
        (channel.buffer.write data).2) =
      stock ByteStreamInChannel.derived channel ++ data.take (channel.buffer.write data).1 := by
  rw [stock, stock, List.append_assoc]
  exact congrArg _ (channel.buffer.contents_write data)

theorem ofKey_put (channel : InEndpointChannelBase Utils.ByteBuffer UInt8 Handler)
    (index other : Nat) (items : List UInt8) (buffer : Utils.ByteBuffer) :
    (ofKey (some other) (channel.put index items buffer).placed).flatten =
      (ofKey (some other) channel.placed).flatten ++ if index = other then items else [] := by
  rw [put, ofKey_append, ofKey_cons, List.flatten_append]
  rcases eq_or_ne index other with rfl | hne
  · simp
  · simp [hne]

/-- What a call puts into the buffer follows what it has put there before. -/
theorem Accounts.store {channel : InEndpointChannelBase Utils.ByteBuffer UInt8 Handler}
    {index : Nat} {call : WriteCall} (h : Accounts channel index call) (pc : WritePc) :
    Accounts (channel.put index
        ((call.data.drop call.total).take
          (channel.buffer.write (call.data.drop call.total)).1)
        (channel.buffer.write (call.data.drop call.total)).2) index
      { call with
        total := call.total + (channel.buffer.write (call.data.drop call.total)).1, pc } where
  pieces := by
    have hle : call.carried ≤ (call.data.take call.total).length := by
      rw [List.length_take_of_le h.total_le]
      exact h.carried_le
    rw [ofKey_put, if_pos rfl, h.pieces]
    dsimp only
    rw [List.take_add, List.drop_append_of_le_length hle]
  carried_le := Nat.le_add_right_of_le h.carried_le
  total_le := by
    have hle := h.total_le
    dsimp only
    rw [Utils.ByteBuffer.written_write, List.length_drop]
    omega
  fresh := h.fresh
  began_le := h.began_le

/-- What another call puts there is none of a call's data. -/
theorem Accounts.put {channel : InEndpointChannelBase Utils.ByteBuffer UInt8 Handler}
    {index other : Nat} {call : WriteCall} (h : Accounts channel other call) (hne : index ≠ other)
    (items : List UInt8) (buffer : Utils.ByteBuffer) :
    Accounts (channel.put index items buffer) other call where
  pieces := by
    rw [ofKey_put, if_neg hne, List.append_nil]
    exact h.pieces
  carried_le := h.carried_le
  total_le := h.total_le
  fresh := h.fresh
  began_le := h.began_le

theorem Conserved.store {index : Nat} {call : WriteCall} (hs : Conserved s)
    (hcall : s.calls[index]? = some call) : Conserved (s.store index call) where
  payloads := hs.payloads
  stock_eq hconnected := by
    refine (stock_put _ _ _).trans ?_
    rw [hs.stock_eq hconnected]
    exact (placedItems_put _ _ _).symm
  sources piece hmem := by
    have hlength : (s.store index call).calls.length = s.calls.length := by
      simp [ByteStreamInChannel.store]
    rw [hlength]
    rcases List.mem_append.mp hmem with hmem | hmem
    · exact hs.sources piece hmem
    · rw [List.mem_singleton.mp hmem]
      exact ⟨index, rfl, (List.getElem?_eq_some_iff.mp hcall).1⟩
  calls other call' hother := by
    simp only [ByteStreamInChannel.store, List.getElem?_modify] at hother
    obtain ⟨before, hbefore, hafter⟩ := Option.map_eq_some_iff.mp hother
    have haccounts := hs.calls other before hbefore
    rcases eq_or_ne index other with rfl | hne
    · obtain rfl : call = before := Option.some.inj (hcall.symm.trans hbefore)
      rw [if_pos rfl] at hafter
      subst hafter
      exact haccounts.store .filled
    · rw [if_neg hne] at hafter
      subst hafter
      exact haccounts.put hne _ _

/-- A call that has not put anything into the buffer. -/
theorem Conserved.concat {call : WriteCall} (hs : Conserved s)
    (hbegan : call.began = s.channel.current) (htotal : call.total = 0)
    (hcarried : call.carried = 0) : Conserved { s with calls := s.calls ++ [call] } where
  payloads := hs.payloads
  stock_eq := hs.stock_eq
  sources piece hmem := by
    obtain ⟨index, hpiece, hlt⟩ := hs.sources piece hmem
    exact ⟨index, hpiece, by rw [List.length_append]; omega⟩
  calls index call' hcall' := by
    rcases Nat.lt_or_ge index s.calls.length with hlt | hge
    · rw [List.getElem?_append_left hlt] at hcall'
      exact hs.calls index call' hcall'
    · rw [List.getElem?_append_right hge] at hcall'
      obtain ⟨hindex, rfl⟩ := List.getElem?_eq_some_iff.mp hcall'
      rw [List.getElem_singleton]
      refine ⟨?_, by omega, by omega, fun _ => hcarried, fun connection hconnection => ?_⟩
      · have hnone : ofKey (some index) s.channel.placed = [] := by
          refine List.eq_nil_iff_forall_not_mem.mpr fun items hitems => ?_
          obtain ⟨index', hindex', hlt⟩ := hs.sources _ (mem_ofKey_iff.mp hitems)
          obtain rfl := Option.some.inj hindex'
          omega
        rw [hnone, htotal, List.take_zero, List.drop_nil]
        rfl
      · rw [hbegan, current] at hconnection
        split at hconnection
        next => cases hconnection
        next => exact (Option.some.inj hconnection).symm.le

theorem modify_concat {α : Type} (l : List α) (a : α) (f : α → α) :
    (l ++ [a]).modify l.length f = l ++ [f a] := by
  induction l with
  | nil => rfl
  | cons b l ih => simp [ih]

theorem conserved_writeNb {data : List UInt8} (hs : Conserved s) :
    Conserved { 
      channel := trySendPendingLocked ByteStreamInChannel.derived
        (s.channel.put s.calls.length (data.take (s.channel.buffer.write data).1)
          (s.channel.buffer.write data).2)
      calls := s.calls ++
        [{ data, timeoutMs := 0, total := (s.channel.buffer.write data).1, pc := .returned,
           began := s.channel.current, carried := 0 }] } := by
  let call : WriteCall :=
    { data, timeoutMs := 0, total := 0, pc := .filling, began := s.channel.current, carried := 0 }
  have hopened : Conserved { s with calls := s.calls ++ [call] } := hs.concat rfl rfl rfl
  have hcall : (s.calls ++ [call])[s.calls.length]? = some call := by simp
  have hstored := hopened.store hcall
  have hcalls : (store s.calls.length call { s with calls := s.calls ++ [call] }).calls =
      s.calls ++ [{ call with
        total := 0 + (s.channel.buffer.write data).1, pc := .filled }] :=
    modify_concat s.calls call _
  refine hstored.answers (answers_trySendPendingLocked _) (by simp [hcalls])
    fun index call' hcall' => ?_
  rw [hcalls]
  rcases Nat.lt_or_ge index s.calls.length with hlt | hge
  · rw [List.getElem?_append_left hlt] at hcall' ⊢
    exact ⟨call', hcall', call'.pc, rfl⟩
  · rw [List.getElem?_append_right hge] at hcall' ⊢
    obtain ⟨hindex, rfl⟩ := List.getElem?_eq_some_iff.mp hcall'
    refine ⟨_, List.getElem?_eq_some_iff.mpr ⟨by simpa using hindex, rfl⟩, .returned, ?_⟩
    simp [call]

theorem conserved_onNewConnection (hs : Conserved s) :
    Conserved { s.carry with
      channel := s.channel.onNewConnection ByteStreamInChannel.derived } where
  payloads _ hmem := absurd hmem List.not_mem_nil
  stock_eq _ := ByteStreamInChannel.derived.contents_bufferClear s.channel.buffer
  sources _ hmem := absurd hmem List.not_mem_nil
  calls index call hcall := by
    simp only [carry, List.getElem?_map] at hcall
    obtain ⟨call', hcall', rfl⟩ := Option.map_eq_some_iff.mp hcall
    have haccounts := hs.calls index call' hcall'
    refine ⟨?_, Nat.le_refl _, haccounts.total_le, fun hbegan => ?_, fun connection hbegan => ?_⟩
    · dsimp only
      rw [List.drop_of_length_le (List.length_take_le _ _)]
      rfl
    · exact absurd (haccounts.began_le _ hbegan) (by simp [onNewConnection])
    · exact (haccounts.began_le _ hbegan).trans (Nat.le_succ _)

theorem conserved_disconnectBuffer (hs : Conserved s) :
    Conserved { s with channel := s.channel.disconnectBuffer ByteStreamInChannel.derived } where
  payloads := hs.payloads
  stock_eq h := by cases h
  sources := hs.sources
  calls index call hcall := by
    have h := hs.calls index call hcall
    exact ⟨h.pieces, h.carried_le, h.total_le, h.fresh, h.began_le⟩

theorem conserved_setCapacity (hs : Conserved s) (hdisconnected : s.channel.disconnected = true)
    (capacity : Nat) :
    Conserved { s with channel.buffer := s.channel.buffer.resize capacity } where
  payloads := hs.payloads
  stock_eq h := by
    rw [show s.channel.disconnected = false from h] at hdisconnected
    cases hdisconnected
  sources := hs.sources
  calls index call hcall := by
    have h := hs.calls index call hcall
    exact ⟨h.pieces, h.carried_le, h.total_le, h.fresh, h.began_le⟩

theorem answers_same_or_sent
    {channel channel' : InEndpointChannelBase Utils.ByteBuffer UInt8 Handler}
    (hchannel : channel' = channel ∨
      channel' = trySendPendingLocked ByteStreamInChannel.derived channel) :
    Answers ByteStreamInChannel.derived channel channel' := by
  rcases hchannel with rfl | rfl
  · exact Answers.rfl
  · exact answers_trySendPendingLocked channel

variable [DecidableEq Handler]

/-- No pull callback makes data of its own, and the capacity is set before a connection. -/
def Unpulled (s : ByteStreamInChannel Handler) : ByteStreamAction Handler → Prop
  | .base (.onInRequest _ _ _ _ _ pulled) => pulled = []
  | .setCapacity _ => s.channel.disconnected = true
  | _ => True

theorem conserved_step {a : ByteStreamAction Handler} (hs : Conserved s) (hguard : Unpulled s a)
    (h : s.step a = some t) : Conserved t := by
  cases effect_of_step h with
  | base hb hstep =>
      cases moves_of_step hstep with
      | answers hanswers => exact hs.answersSame hanswers
      | pulls hpulled => exact absurd hguard hpulled
      | cleared => exact conserved_disconnectBuffer hs
      | connected => exact absurd rfl hb
  | connected => exact conserved_onNewConnection hs
  | resized capacity => exact conserved_setCapacity hs hguard capacity
  | opened hbegan htotal hcarried => exact hs.concat hbegan htotal hcarried
  | written => exact conserved_writeNb hs
  | moved hcall hopen hpc hchannel =>
      exact (hs.setPc _ _).answersSame (answers_same_or_sent hchannel)
  | stored hcall hopen hconnected hchannel =>
      exact (hs.answersSame (answers_same_or_sent hchannel)).store hcall
  | sent => exact (hs.setPc _ _).answersSame (answers_trySendPendingLocked _)

theorem conserved_of_reachable (h : ReachableUnder system Unpulled s) : Conserved s := by
  refine h.invariant (I := Conserved) ?_ fun _ _ _ hs hguard hstep =>
    conserved_step hs hguard hstep
  rintro s ⟨capacity, rfl⟩
  exact conserved_create capacity

/-- In a connection, the data of the replies followed by what is in the buffer is what the calls
have put there, one critical section after the other, and what a call has put there is the part
of its data that it reports as written, from what it had written before the connection on. -/
theorem bytes_conserved (h : ReachableUnder system Unpulled s)
    (hconnected : s.channel.disconnected = false) :
    s.channel.replies.flatMap (·.payload) ++ s.channel.buffer.contents =
        s.channel.placed.flatMap (·.2) ∧
      (∀ piece ∈ s.channel.placed, ∃ index, piece.1 = some index ∧ index < s.calls.length) ∧
      ∀ (index : Nat) (call : WriteCall), s.calls[index]? = some call →
        (ofKey (some index) s.channel.placed).flatten =
            (call.data.take call.total).drop call.carried ∧
          (call.began = some s.channel.connection → call.carried = 0) := by
  have hs := conserved_of_reachable h
  refine ⟨?_, hs.sources, fun index call hcall =>
    ⟨(hs.calls index call hcall).pieces, (hs.calls index call hcall).fresh⟩⟩
  have hstock := hs.stock_eq hconnected
  rw [stock, ← List.flatMap_congr hs.payloads] at hstock
  exact hstock

end ByteStream

/-- A call blocks on a full buffer, and a request and another call come in between its two
rounds. -/
def blockedWrite : List (ByteStreamAction Unit) :=
  [.base .onNewConnection, .write [1, 2, 3] 0, .fill 0, .sendPending 0, .fill 0,
    .base (.onInRequest 0x81 7 1 none (inTransfer 1) []), .writeNb [9, 8], .wake 0 false,
    .base (.onInRequest 0x82 8 2 none (inTransfer 2) []), .wake 0 false, .sendPending 0]

theorem bytes_conserved_instance :
    ∃ s : ByteStreamInChannel Unit,
      s.channel.replies.flatMap (·.payload) = [1, 2, 9] ∧ s.channel.buffer.contents = [3] ∧
      s.channel.replies.flatMap (·.payload) ++ s.channel.buffer.contents =
        s.channel.placed.flatMap (·.2) := by
  obtain ⟨s, hrun, hpayloads, hcontents, hconnected⟩ :
      ∃ s, ByteStreamInChannel.system.run (.create 2) blockedWrite = some s ∧
        s.channel.replies.flatMap (·.payload) = [1, 2, 9] ∧
        s.channel.buffer.contents = [3] ∧ s.channel.disconnected = false :=
    ⟨_, rfl, rfl, rfl, rfl⟩
  have hreach : ReachableUnder ByteStreamInChannel.system Unpulled s :=
    ReachableUnder.run blockedWrite (by simp [blockedWrite, Unpulled]) (.initial ⟨2, rfl⟩) hrun
  exact ⟨s, hpayloads, hcontents, (bytes_conserved hreach hconnected).1⟩

end Usbipdcpp.VirtualDevice.ChannelConservation
