import Usbipdcpp.VirtualDevice.ByteStreamInChannel
import Usbipdcpp.VirtualDevice.MessageInChannel

namespace Usbipdcpp.VirtualDevice.ChannelProgress

open Foundation.KeyedQueues Foundation.TransitionSystem InEndpointChannelBase Protocol

variable {Buffer Item Handler : Type} {derived : Derived Buffer Item}
  {channel channel' : InEndpointChannelBase Buffer Item Handler}

theorem settled_onInRequest {ep : UInt8} {seqnum length : UInt32} {owner : Option Handler}
    {transfer : GenericTransfer} {pulled : List UInt8} (h : Settled derived channel) :
    Settled derived (channel.onInRequest derived ep seqnum length owner transfer pulled) := by
  unfold onInRequest
  split
  next => exact h
  next =>
    dsimp only
    split
    next hdirect =>
      -- the buffer holds something, so that no other request waits
      rcases h with hempty | hnone
      · exact absurd hdirect.2 (by simp [hempty])
      · exact Or.inr hnone
    next =>
      split
      next => exact settled_trySendPendingLocked
      next => exact settled_trySendPendingLocked

theorem settled_cancelPending {unlinkSeqnum : UInt32} (h : Settled derived channel) :
    Settled derived (channel.cancelPending unlinkSeqnum).2 := by
  unfold cancelPending
  split
  next ep request rest htaken =>
    rcases h with hempty | hnone
    · exact Or.inl hempty
    · rw [Queues.takeFirstOfAny_eq_none_of_size hnone] at htaken
      cases htaken
  next => exact h

theorem settled_of_bufferClear {buffer : Buffer} (h : channel.buffer = derived.bufferClear buffer) :
    Settled derived channel := by
  refine Or.inl ((derived.bufferEmpty_iff _).mpr ?_)
  rw [h, derived.contents_bufferClear]

theorem settled_step [DecidableEq Handler] {a : ChannelAction Handler} (h : Settled derived channel)
    (hstep : channel.step derived a = some channel') : Settled derived channel' := by
  cases a with
  | onInRequest ep seqnum length owner transfer pulled =>
      obtain rfl := by simpa [step] using hstep
      exact settled_onInRequest h
  | setMaxPendingRequests maxPending =>
      obtain rfl := by simpa [step] using hstep
      exact h
  | cancelPending unlinkSeqnum =>
      obtain rfl := by simpa [step] using hstep
      exact settled_cancelPending h
  | disconnectBuffer =>
      obtain rfl := by simpa [step] using hstep
      exact settled_of_bufferClear rfl
  | disconnectRequests =>
      obtain ⟨-, rfl⟩ := by simpa [step] using hstep
      exact Or.inr rfl
  | onNewConnection =>
      obtain rfl := by simpa [step] using hstep
      exact settled_of_bufferClear rfl
  | rehash queues =>
      obtain ⟨hperm, rfl⟩ := by simpa [step] using hstep
      exact h.imp_right fun hnone => (Queues.size_perm hperm).trans hnone

section Message

variable [DecidableEq Handler] {s t : MessageInChannel Handler}

theorem settled_messageStep {a : MessageAction Handler}
    (hs : Settled MessageInChannel.derived s.channel) (h : s.step a = some t) :
    Settled MessageInChannel.derived t.channel := by
  cases MessageInChannel.effect_of_step h with
  | base hstep => exact settled_step hs hstep
  | limited => exact hs
  | opened => exact hs
  | pushed => exact settled_trySendPendingLocked
  | moved => exact hs
  | delivered => exact settled_trySendPendingLocked

theorem settled_of_reachable (h : Reachable MessageInChannel.system s) :
    Settled MessageInChannel.derived s.channel := by
  refine h.invariant (I := fun s => Settled MessageInChannel.derived s.channel) ?_
    fun _ _ _ hs hstep => settled_messageStep hs hstep
  rintro s rfl
  exact Or.inr rfl

end Message

section ByteStream

open ByteStreamInChannel

variable {s t : ByteStreamInChannel Handler}

/-- A call is between filling the buffer and sending what it can. -/
def Between (s : ByteStreamInChannel Handler) : Prop :=
  ∃ call ∈ s.calls, call.pc = .filled

theorem settled_same_or_sent (h : Settled derived channel)
    (hchannel : channel' = channel ∨ channel' = trySendPendingLocked derived channel) :
    Settled derived channel' := by
  rcases hchannel with rfl | rfl
  · exact h
  · exact settled_trySendPendingLocked

theorem between_concat {call : WriteCall} (h : Between s) :
    Between { s with calls := s.calls ++ [call] } := by
  obtain ⟨call', hmem, hpc⟩ := h
  exact ⟨call', List.mem_append_left _ hmem, hpc⟩

/-- A call in its first phase is not the one that is between the phases. -/
theorem between_setPc {index : Nat} {call : WriteCall} {pc : WritePc} (h : Between s)
    (hcall : s.calls[index]? = some call) (hopen : WritePc.Open call.pc) :
    Between (s.setPc index pc) := by
  obtain ⟨call', hmem, hpc⟩ := h
  obtain ⟨other, hother⟩ := List.mem_iff_getElem?.mp hmem
  have hne : index ≠ other := by
    rintro rfl
    obtain rfl : call = call' := Option.some.inj (hcall.symm.trans hother)
    rcases hopen with hopen | hopen <;> rw [hopen] at hpc <;> cases hpc
  refine ⟨call', List.mem_iff_getElem?.mpr ⟨other, ?_⟩, hpc⟩
  simp [setPc, hne, hother]

theorem between_store {index : Nat} {call : WriteCall} (hcall : s.calls[index]? = some call)
    (channel : InEndpointChannelBase Utils.ByteBuffer UInt8 Handler) :
    Between (store index call { s with channel }) := by
  let written := (channel.buffer.write (call.data.drop call.total)).1
  refine ⟨{ call with total := call.total + written, pc := .filled },
    List.mem_iff_getElem?.mpr ⟨index, ?_⟩, rfl⟩
  simp [store, hcall, written]

variable [DecidableEq Handler]

/-- Nothing that could be sent is left, unless a call is between its two phases. -/
theorem between_or_settled_step {a : ByteStreamAction Handler}
    (hs : Between s ∨ Settled ByteStreamInChannel.derived s.channel) (h : s.step a = some t) :
    Between t ∨ Settled ByteStreamInChannel.derived t.channel := by
  cases effect_of_step h with
  | base hb hstep => exact hs.imp_right fun hsettled => settled_step hsettled hstep
  | connected => exact Or.inr (settled_of_bufferClear rfl)
  | resized capacity =>
      refine hs.imp_right fun hsettled => hsettled.imp_left fun hempty => ?_
      have hnone := (derived.bufferEmpty_iff _).mp hempty
      refine (derived.bufferEmpty_iff _).mpr ?_
      change (s.channel.buffer.resize capacity).contents = []
      rw [Utils.ByteBuffer.contents_resize, show s.channel.buffer.contents = [] from hnone,
        List.take_nil]
  | opened => exact hs.imp_left between_concat
  | written => exact Or.inr settled_trySendPendingLocked
  | moved hcall hopen hpc hchannel =>
      exact hs.imp (fun hbetween => between_setPc hbetween hcall hopen)
        fun hsettled => settled_same_or_sent hsettled hchannel
  | stored hcall => exact Or.inl (between_store hcall _)
  | sent => exact Or.inr settled_trySendPendingLocked

theorem between_or_settled (h : Reachable ByteStreamInChannel.system s) :
    Between s ∨ Settled ByteStreamInChannel.derived s.channel := by
  refine h.invariant
    (I := fun s => Between s ∨ Settled ByteStreamInChannel.derived s.channel) ?_
    fun _ _ _ hs hstep => between_or_settled_step hs hstep
  rintro s ⟨capacity, rfl⟩
  exact Or.inr (Or.inr rfl)

/-- A call goes to wait when everything that can be sent has been. -/
theorem settled_of_fill {index : Nat} {call : WriteCall} (h : s.step (.fill index) = some t)
    (hcall : t.calls[index]? = some call) (hpc : call.pc = .waiting) :
    Settled ByteStreamInChannel.derived t.channel := by
  cases hbefore : s.calls[index]? with
  | none => simp [ByteStreamInChannel.step, hbefore] at h
  | some call' =>
      obtain ⟨-, rfl⟩ := by simpa [ByteStreamInChannel.step, hbefore] using h
      unfold fill at hcall ⊢
      split at hcall
      next =>
        obtain rfl := by simpa [setPc, hbefore] using hcall
        cases hpc
      next hconnected =>
        rw [if_neg hconnected]
        split at hcall
        next hfull =>
          rw [if_pos hfull]
          dsimp only at hcall ⊢
          split at hcall
          next hstill =>
            rw [if_pos hstill]
            exact settled_trySendPendingLocked
          next =>
            obtain rfl := by simpa [store, hbefore] using hcall
            cases hpc
        next =>
          obtain rfl := by simpa [store, hbefore] using hcall
          cases hpc

/-- A call that is between its two phases sends what it can with its next step. -/
theorem settles_of_between (h : Between s) :
    ∃ other t, s.step (.sendPending other) = some t ∧
      Settled ByteStreamInChannel.derived t.channel ∧
      ∀ (index : Nat) (call : WriteCall), s.calls[index]? = some call → call.pc = .waiting →
        t.calls[index]? = some call := by
  obtain ⟨call', hmem, hpc'⟩ := h
  obtain ⟨other, hother⟩ := List.mem_iff_getElem?.mp hmem
  refine ⟨other, s.sendPending other call', ?_, settled_trySendPendingLocked, ?_⟩
  · simp [ByteStreamInChannel.step, hother, hpc']
  · intro index call hcall hpc
    have hne : other ≠ index := by
      rintro rfl
      obtain rfl : call = call' := Option.some.inj (hcall.symm.trans hother)
      rw [hpc] at hpc'
      cases hpc'
    simp [sendPending, setPc, hne, hcall]

/-- Unless a call is between its two phases, the buffer is empty or nothing is parked.  A call
that waits for space while a parked request could be answered waits only until another call
takes its next step, which answers it, and it did not go to wait so by itself. -/
theorem never_stalls {s : MessageInChannel Handler} {t : ByteStreamInChannel Handler}
    (hs : Reachable MessageInChannel.system s) (ht : Reachable ByteStreamInChannel.system t) :
    Settled MessageInChannel.derived s.channel ∧
    ((∀ call ∈ t.calls, call.pc ≠ .filled) → Settled ByteStreamInChannel.derived t.channel) ∧
    (∀ (index : Nat) (call : WriteCall), t.calls[index]? = some call → call.pc = .waiting →
      ¬ Settled ByteStreamInChannel.derived t.channel →
      ∃ other t', t.step (.sendPending other) = some t' ∧
        Settled ByteStreamInChannel.derived t'.channel ∧ t'.calls[index]? = some call) ∧
    ∀ (index : Nat) (call : WriteCall) t', t.step (.fill index) = some t' →
      t'.calls[index]? = some call → call.pc = .waiting →
        Settled ByteStreamInChannel.derived t'.channel := by
  refine ⟨settled_of_reachable hs, fun hnone => ?_, fun index call hcall hpc hopen => ?_,
    fun index call t' hfill hcall hpc => settled_of_fill hfill hcall hpc⟩
  · rcases between_or_settled ht with ⟨call, hmem, hpc⟩ | hsettled
    · exact absurd hpc (hnone call hmem)
    · exact hsettled
  · obtain ⟨other, t', hstep, hsettled, hkept⟩ :=
      settles_of_between ((between_or_settled ht).resolve_right hopen)
    exact ⟨other, t', hstep, hsettled, hkept index call hcall hpc⟩

end ByteStream

/-- Two requests empty the buffer that one call waits for and another call fills again; the
first of them is woken in between. -/
def wokenTooLate : List (ByteStreamAction Unit) :=
  [.base .onNewConnection, .write [1] 0, .fill 0, .sendPending 0, .write [2] 0, .fill 1,
    .base (.onInRequest 0x81 7 1 none (inTransfer 1) []),
    .base (.onInRequest 0x81 8 1 none (inTransfer 1) []), .write [3] 0, .fill 2, .wake 1 false]

theorem never_stalls_instance :
    ∃ (s : MessageInChannel Unit) (t t' : ByteStreamInChannel Unit) (other : Nat),
      t.calls.map WriteCall.pc = [.returned, .waiting, .filled] ∧
        Settled MessageInChannel.derived s.channel ∧ t.step (.sendPending other) = some t' ∧
        Settled ByteStreamInChannel.derived t'.channel := by
  obtain ⟨t, hrun, hpcs, hbuffer, hsize⟩ :
      ∃ t, ByteStreamInChannel.system.run (.create 1) wokenTooLate = some t ∧
        t.calls.map WriteCall.pc = [.returned, .waiting, .filled] ∧
        t.channel.buffer.empty = false ∧ t.channel.endpointRequests.size = 1 :=
    ⟨_, rfl, rfl, rfl, rfl⟩
  have hopen : ¬ Settled ByteStreamInChannel.derived t.channel := by
    rintro (hempty | hnone)
    · exact Bool.false_ne_true (hbuffer.symm.trans hempty)
    · rw [hsize] at hnone
      cases hnone
  have hsecond : (t.calls.map WriteCall.pc)[1]? = some .waiting := by rw [hpcs]; rfl
  rw [List.getElem?_map] at hsecond
  obtain ⟨call, hcall, hpc⟩ := Option.map_eq_some_iff.mp hsecond
  obtain ⟨hmessages, -, hanswered, -⟩ :=
    never_stalls (.initial rfl) (Reachable.run wokenTooLate (.initial ⟨1, rfl⟩) hrun)
  obtain ⟨other, t', hstep, hsettled, -⟩ := hanswered 1 call hcall hpc hopen
  exact ⟨.create, t, t', other, hpcs, hmessages, hstep, hsettled⟩

/-- A call waits while a parked request could be answered. -/
theorem waits_while_answerable :
    ∃ t : ByteStreamInChannel Unit, Reachable ByteStreamInChannel.system t ∧
      (∃ call : WriteCall, t.calls[1]? = some call ∧ call.pc = .waiting) ∧
      ¬ Settled ByteStreamInChannel.derived t.channel := by
  obtain ⟨t, hrun, hcall, hbuffer, hsize⟩ :
      ∃ t, ByteStreamInChannel.system.run (.create 1) wokenTooLate = some t ∧
        (t.calls[1]?.map WriteCall.pc) = some .waiting ∧ t.channel.buffer.empty = false ∧
        t.channel.endpointRequests.size = 1 := ⟨_, rfl, rfl, rfl, rfl⟩
  refine ⟨t, Reachable.run _ (.initial ⟨1, rfl⟩) hrun, Option.map_eq_some_iff.mp hcall, ?_⟩
  rintro (hempty | hnone)
  · exact Bool.false_ne_true (hbuffer.symm.trans hempty)
  · rw [hsize] at hnone
    cases hnone

end Usbipdcpp.VirtualDevice.ChannelProgress
