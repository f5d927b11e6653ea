import Usbipdcpp.VirtualDevice.ChannelConservation
import Usbipdcpp.VirtualDevice.ChannelRequests

namespace Usbipdcpp.VirtualDevice.MessageDelivery

open Foundation.KeyedQueues Foundation.TransitionSystem Protocol
open InEndpointChannelBase hiding step create
open MessageInChannel ChannelConservation ChannelRequests

section Kept

variable {α : Type*} {gone : List Nat} {l l' : List α} {a : α}

/-- What is left of a list without the elements at some places. -/
def kept (gone : List Nat) (l : List α) : List α :=
  (l.zipIdx.filter fun entry => entry.2 ∉ gone).map Prod.fst

/-- The elements behind the last place that is gone are all left. -/
theorem kept_append (hgone : ∀ i ∈ gone, i < l.length) :
    kept gone (l ++ l') = kept gone l ++ l' := by
  have hrest : ((l'.zipIdx (0 + l.length)).filter fun entry => entry.2 ∉ gone) =
      l'.zipIdx (0 + l.length) := by
    refine List.filter_eq_self.mpr fun entry hmem => ?_
    have hle := List.le_snd_of_mem_zipIdx hmem
    simp only [decide_eq_true_eq]
    intro hgone'
    have hlt := hgone _ hgone'
    omega
  rw [kept, List.zipIdx_append, List.filter_append, hrest, List.map_append, List.zipIdx_map_fst]
  rfl

theorem kept_concat : kept (gone ++ [l.length]) (l ++ [a]) = kept gone l := by
  have hsame : (l.zipIdx.filter fun entry => entry.2 ∉ gone ++ [l.length]) =
      l.zipIdx.filter fun entry => entry.2 ∉ gone := by
    refine List.filter_congr fun entry hmem => ?_
    have hlt := List.snd_lt_of_mem_zipIdx hmem
    have hne : entry.2 ≠ l.length := by omega
    simp [hne]
  rw [kept, List.zipIdx_append, List.filter_append, hsame]
  simp [kept]

end Kept

variable {Handler : Type} {s t : MessageInChannel Handler}

/-- What an observer notes of a channel: the lengths of the requests that it has accepted, and
which of the messages pushed in the connection have given way to a later one. -/
structure Deliveries where
  lengths : List UInt32
  discarded : List Nat
  deriving DecidableEq, Repr

/-- How many of the messages pushed in the connection are no longer in the buffer. -/
def gone (s : MessageInChannel Handler) : Nat :=
  (placedItems s.channel).length - s.channel.buffer.pending.length

/-- A push with `drop_oldest` finds the buffer at its limit. -/
def discards (s : MessageInChannel Handler) : MessageAction Handler → Bool
  | .push _ dropOldest => dropOldest && !s.channel.disconnected && s.channel.buffer.full
  | _ => false

/-- The length of the request that a step lets the channel accept. -/
def lengthsBy (s : MessageInChannel Handler) : ChannelAction Handler → List UInt32
  | .onInRequest _ _ length _ _ _ => if s.channel.disconnected then [] else [length]
  | _ => []

/-- The message that a push with `drop_oldest` discards is the oldest one in the buffer. -/
def record (d : Deliveries) (s : MessageInChannel Handler) (a : MessageAction Handler)
    (_ : MessageInChannel Handler) : Deliveries :=
  match a with
  | .base .onNewConnection => { d with discarded := [] }
  | .base b => { d with lengths := d.lengths ++ lengthsBy s b }
  | a => { d with discarded := d.discarded ++ if discards s a then [gone s] else [] }

/-- The calls that have pushed their message. -/
def Returned (calls : List PushCall) : Set (Nat × List UInt8) :=
  { entry | ∃ call, calls[entry.1]? = some call ∧ call.pc = .returned true ∧
      call.message = entry.2 }

theorem returned_concat {calls : List PushCall} {call : PushCall} :
    Returned calls ⊆ Returned (calls ++ [call]) := by
  rintro entry ⟨call', hcall', hpushed, hmessage⟩
  exact ⟨call', ChannelLedger.getElem?_concat_of_some hcall', hpushed, hmessage⟩

theorem mem_returned_concat {calls : List PushCall} {call : PushCall}
    (hpushed : call.pc = .returned true) :
    (calls.length, call.message) ∈ Returned (calls ++ [call]) :=
  ⟨call, by simp, hpushed, rfl⟩

theorem notMem_returned_length {calls : List PushCall} (message : List UInt8) :
    (calls.length, message) ∉ Returned calls := by
  rintro ⟨call, hcall, -⟩
  simp at hcall

/-- A call that is open has not pushed its message. -/
theorem notMem_returned {calls : List PushCall} {index : Nat} {call : PushCall}
    (hcall : calls[index]? = some call) (hopen : call.pc.done = false) (message : List UInt8) :
    (index, message) ∉ Returned calls := by
  rintro ⟨call', hcall', hpushed, -⟩
  obtain rfl := Option.some.inj (hcall.symm.trans hcall')
  rw [hpushed] at hopen
  cases hopen

theorem returned_setPc {index : Nat} {call : PushCall} (pc : PushPc)
    (hcall : s.calls[index]? = some call) (hopen : call.pc.done = false) :
    Returned s.calls ⊆ Returned (s.setPc index pc).calls := by
  rintro ⟨other, message⟩ ⟨call', hcall', hpushed, hmessage⟩
  rcases eq_or_ne index other with rfl | hne
  · exact absurd ⟨call', hcall', hpushed, hmessage⟩ (notMem_returned hcall hopen message)
  · refine ⟨call', ?_, hpushed, hmessage⟩
    change (s.calls.modify index _)[other]? = some call'
    rw [List.getElem?_modify_ne _ _ hne]
    exact hcall'

theorem mem_returned_setPc {index : Nat} {call : PushCall} (hcall : s.calls[index]? = some call) :
    (index, call.message) ∈ Returned (s.setPc index (.returned true)).calls := by
  refine ⟨{ call with pc := .returned true }, ?_, rfl, rfl⟩
  change (s.calls.modify index _)[index]? = _
  rw [List.getElem?_modify_eq, hcall]
  rfl

/-- What a step does to the channel and to the calls, and what is noted of it. -/
inductive Delivery [DecidableEq Handler] (s : MessageInChannel Handler) :
    MessageAction Handler → MessageInChannel Handler → Prop
  | base {b : ChannelAction Handler}
      {channel : InEndpointChannelBase MessageBuffer (List UInt8) Handler}
      (hstep : s.channel.step derived b = some channel) : Delivery s (.base b) { s with channel }
  | limited (maxPending : Nat) :
      Delivery s (.setMaxPendingMessages maxPending)
        { s with channel.buffer.maxPending := maxPending }
  | refused {a : MessageAction Handler} {calls : List PushCall}
      (hrecord : ∀ d t, record d s a t = d) (hcalls : Returned s.calls ⊆ Returned calls) :
      Delivery s a { s with calls }
  | placed {a : MessageAction Handler} {calls : List PushCall} {index : Nat}
      {message : List UInt8} (hconnected : s.channel.disconnected = false)
      (hrecord : ∀ d t, record d s a t =
        { d with discarded := d.discarded ++ if s.channel.buffer.full then [gone s] else [] })
      (hcalls : Returned s.calls ⊆ Returned calls) (hindex : (index, message) ∈ Returned calls)
      (hfresh : ∀ message, (index, message) ∉ Returned s.calls) :
      Delivery s a { channel := deliver index message s.channel, calls }

theorem delivery_push [DecidableEq Handler] (data : List UInt8) (dropOldest : Bool)
    (s : MessageInChannel Handler) :
    Delivery s (.push data dropOldest) (s.push data dropOldest) := by
  have hrecord : ∀ d t, record d s (.push data dropOldest) t =
      { d with discarded := d.discarded ++
          if discards s (.push data dropOldest) then [gone s] else [] } := fun _ _ => rfl
  unfold push
  dsimp only
  split
  next hdisconnected =>
    exact .refused (fun d t => by simp [hrecord, discards, hdisconnected]) returned_concat
  next hconnected =>
    split
    next hkeeps =>
      have hnone : discards s (.push data dropOldest) = false := by simp [discards, hkeeps.1]
      exact .refused (fun d t => by simp [hrecord, hnone]) returned_concat
    next hdrops =>
      refine .placed (by simpa using hconnected) (fun d t => ?_) returned_concat
        (mem_returned_concat rfl) notMem_returned_length
      have hfull : discards s (.push data dropOldest) = s.channel.buffer.full := by
        cases dropOldest <;> simp_all [discards]
      rw [hrecord, hfull]

/-- A push that blocks puts its message into a buffer that has room. -/
theorem delivery_locked [DecidableEq Handler] {a : MessageAction Handler} {index : Nat}
    {call : PushCall} (hrecord : ∀ d t, record d s a t = d) (hcall : s.calls[index]? = some call)
    (hopen : call.pc.done = false) (timedOut : Bool) :
    Delivery s a (s.locked index call.message timedOut) := by
  unfold locked
  split
  next => exact .refused hrecord (returned_setPc _ hcall hopen)
  next =>
    split
    next => exact .refused hrecord (returned_setPc _ hcall hopen)
    next hconnected =>
      split
      next => exact .refused hrecord (returned_setPc _ hcall hopen)
      next hroom =>
        refine .placed (by simpa using hconnected) (fun d t => ?_) (returned_setPc _ hcall hopen)
          (mem_returned_setPc hcall) (notMem_returned hcall hopen)
        rw [hrecord, if_neg hroom, List.append_nil]

theorem delivery_of_step [DecidableEq Handler] {a : MessageAction Handler}
    (h : s.step a = some t) : Delivery s a t := by
  cases a with
  | base b =>
      obtain ⟨channel, hchannel, rfl⟩ := Option.map_eq_some_iff.mp h
      exact .base hchannel
  | setMaxPendingMessages maxPending =>
      obtain rfl := by simpa [step] using h
      exact .limited maxPending
  | push data dropOldest =>
      obtain rfl := by simpa [step] using h
      exact delivery_push data dropOldest s
  | pushBlocking data timeoutMs =>
      obtain rfl := by simpa [step] using h
      exact .refused (fun d t => by simp [record, discards]) returned_concat
  | lock index =>
      cases hcall : s.calls[index]? with
      | none => simp [step, hcall] at h
      | some call =>
          obtain ⟨hpc, rfl⟩ := by simpa [step, hcall] using h
          exact delivery_locked (fun d t => by simp [record, discards]) hcall (by rw [hpc]; rfl)
            false
  | wake index timedOut =>
      cases hcall : s.calls[index]? with
      | none => simp [step, hcall] at h
      | some call =>
          obtain ⟨⟨hpc, -⟩, rfl⟩ := by simpa [step, hcall] using h
          exact delivery_locked (fun d t => by simp [record, discards]) hcall (by rw [hpc]; rfl)
            timedOut

section Ordered

variable {channel channel' : InEndpointChannelBase MessageBuffer (List UInt8) Handler}
  {discarded : List Nat} {sent rest : List (List UInt8)}

/-- The messages pushed in a connection are those that have left the buffer, which the replies
have taken but for the discarded ones, and the rest, which is in the buffer until the connection
ends. -/
structure Ordered (discarded : List Nat)
    (channel : InEndpointChannelBase MessageBuffer (List UInt8) Handler)
    (sent rest : List (List UInt8)) : Prop where
  placed : placedItems channel = sent ++ rest
  pending : channel.disconnected = false → channel.buffer.pending = rest
  cleared : channel.disconnected = true → channel.buffer.pending = []
  taken : channel.replies.flatMap (·.taken) = kept discarded sent
  increasing : discarded.Pairwise (· < ·)
  discarded_lt : ∀ i ∈ discarded, i < sent.length

theorem Ordered.answers (h : Ordered discarded channel sent rest)
    (hanswers : Answers MessageInChannel.derived channel channel') :
    ∃ sent' rest', Ordered discarded channel' sent' rest' := by
  obtain ⟨front, hfront⟩ := hanswers.left
  change front ++ channel'.buffer.pending = channel.buffer.pending at hfront
  have htaken : channel'.replies.flatMap (·.taken) =
      channel.replies.flatMap (·.taken) ++ front := by
    have hstock := hanswers.stock_eq
    change _ ++ channel'.buffer.pending = _ ++ channel.buffer.pending at hstock
    rw [← hfront, ← List.append_assoc] at hstock
    exact List.append_cancel_right hstock
  obtain ⟨rest', hrest, hpending⟩ : ∃ rest', rest = front ++ rest' ∧
      (channel.disconnected = false → channel'.buffer.pending = rest') := by
    cases hconnected : channel.disconnected with
    | false =>
        exact ⟨channel'.buffer.pending, by rw [hfront, h.pending hconnected], fun _ => rfl⟩
    | true =>
        rw [h.cleared hconnected] at hfront
        obtain ⟨rfl, -⟩ := List.append_eq_nil_iff.mp hfront
        exact ⟨rest, rfl, fun hfalse => by cases hfalse⟩
  refine ⟨sent ++ front, rest', ?_, ?_, ?_, ?_, h.increasing, fun i hi => ?_⟩
  · rw [placedItems, hanswers.placed, List.append_assoc, ← hrest]
    exact h.placed
  · rw [hanswers.disconnected]
    exact hpending
  · intro hdisconnected
    rw [h.cleared (hanswers.disconnected ▸ hdisconnected)] at hfront
    exact (List.append_eq_nil_iff.mp hfront).2
  · rw [htaken, h.taken, kept_append h.discarded_lt]
  · rw [List.length_append]
    exact Nat.lt_add_right _ (h.discarded_lt i hi)

/-- The oldest message leaves the buffer if that is full. -/
theorem Ordered.put (h : Ordered discarded channel sent rest)
    (hconnected : channel.disconnected = false) (index : Nat) (message : List UInt8) :
    ∃ sent' rest', Ordered
      (discarded ++ if channel.buffer.full then
        [(placedItems channel).length - channel.buffer.pending.length] else [])
      (channel.put index [message] (channel.buffer.pushLocked message)) sent' rest' := by
  have hrest := h.pending hconnected
  have hdisconnected : channel.disconnected ≠ true := by simp [hconnected]
  cases hfull : channel.buffer.full with
  | false =>
      refine ⟨sent, rest ++ [message], ?_, fun _ => ?_, fun hcut => absurd hcut hdisconnected, ?_,
        ?_, ?_⟩
      · rw [placedItems_put, h.placed, List.append_assoc]
      · simp [InEndpointChannelBase.put, MessageBuffer.pushLocked, hfull, hrest]
      · rw [if_neg Bool.false_ne_true, List.append_nil]
        exact h.taken
      · simpa using h.increasing
      · simpa using h.discarded_lt
  | true =>
      have hne : channel.buffer.pending ≠ [] := by
        intro hnil
        simp [MessageBuffer.full, hnil] at hfull
      obtain ⟨front, rest', hcons⟩ := List.exists_cons_of_ne_nil hne
      rw [hcons] at hrest
      subst hrest
      have hgone : (placedItems channel).length - channel.buffer.pending.length = sent.length := by
        rw [h.placed, hcons, List.length_append, Nat.add_sub_cancel]
      rw [hgone]
      refine ⟨sent ++ [front], rest' ++ [message], ?_, fun _ => ?_,
        fun hcut => absurd hcut hdisconnected, ?_, ?_, ?_⟩
      · rw [placedItems_put, h.placed]
        simp
      · simp [InEndpointChannelBase.put, MessageBuffer.pushLocked, hfull, hcons]
      · rw [if_pos rfl, kept_concat]
        exact h.taken
      · rw [if_pos rfl]
        refine List.pairwise_append.mpr ⟨h.increasing, List.pairwise_singleton _ _, ?_⟩
        intro i hi j hj
        rw [List.mem_singleton.mp hj]
        exact h.discarded_lt i hi
      · intro i hi
        rw [if_pos rfl] at hi
        rw [List.length_append]
        rcases List.mem_append.mp hi with hi | hi
        · exact Nat.lt_add_right _ (h.discarded_lt i hi)
        · rw [List.mem_singleton.mp hi]
          exact Nat.lt_succ_self _

end Ordered

/-- A message that has been put into the buffer in the connection is that of a call which has
returned, and no call has put one there twice. -/
structure Sourced (s : MessageInChannel Handler) : Prop where
  nodup : (s.channel.placed.map Prod.fst).Nodup
  pushed : ∀ piece ∈ s.channel.placed, ∃ index message, piece = (some index, [message]) ∧
    (index, message) ∈ Returned s.calls

theorem Sourced.mono (h : Sourced s) (hplaced : t.channel.placed = s.channel.placed)
    (hcalls : Returned s.calls ⊆ Returned t.calls) : Sourced t where
  nodup := hplaced ▸ h.nodup
  pushed piece hmem := by
    rw [hplaced] at hmem
    obtain ⟨index, message, hpiece, hreturned⟩ := h.pushed piece hmem
    exact ⟨index, message, hpiece, hcalls hreturned⟩

variable {d : Deliveries} {p q : MessageInChannel Handler × Deliveries}
  {a : MessageAction Handler}

theorem discarded_record_base {b : ChannelAction Handler} (hb : b ≠ .onNewConnection) :
    (record d s (.base b) t).discarded = d.discarded := by
  cases b with
  | onNewConnection => exact absurd rfl hb
  | _ => rfl

section Steps

variable [DecidableEq Handler]

theorem ordered_base {b : ChannelAction Handler}
    {channel : InEndpointChannelBase MessageBuffer (List UInt8) Handler}
    {sent rest : List (List UInt8)} (hs : Ordered d.discarded s.channel sent rest)
    (hstep : s.channel.step MessageInChannel.derived b = some channel) :
    ∃ sent rest, Ordered (record d s (.base b) t).discarded channel sent rest := by
  by_cases hb : b = .onNewConnection
  · subst hb
    obtain rfl := by simpa [InEndpointChannelBase.step] using hstep
    exact ⟨[], [], rfl, fun _ => rfl, fun hcut => (by cases hcut), rfl, List.Pairwise.nil,
      fun _ hmem => absurd hmem List.not_mem_nil⟩
  · rw [discarded_record_base hb]
    cases moves_of_step hstep with
    | answers hanswers => exact hs.answers hanswers
    | pulls hpulled => exact absurd rfl hpulled
    | cleared =>
        exact ⟨sent, rest, hs.placed, fun hcut => (by cases hcut), fun _ => rfl, hs.taken,
          hs.increasing, hs.discarded_lt⟩
    | connected => exact absurd rfl hb

theorem ordered_step (hs : ∃ sent rest, Ordered d.discarded s.channel sent rest)
    (h : s.step a = some t) :
    ∃ sent rest, Ordered (record d s a t).discarded t.channel sent rest := by
  obtain ⟨sent, rest, hordered⟩ := hs
  cases delivery_of_step h with
  | base hstep => exact ordered_base hordered hstep
  | limited maxPending =>
      refine ⟨sent, rest, ?_⟩
      simp only [record, discards, Bool.false_eq_true, if_false, List.append_nil]
      exact ⟨hordered.placed, hordered.pending, hordered.cleared, hordered.taken,
        hordered.increasing, hordered.discarded_lt⟩
  | refused hrecord hcalls =>
      rw [hrecord]
      exact ⟨sent, rest, hordered⟩
  | @placed _ calls index message hconnected hrecord hcalls hindex hfresh =>
      rw [hrecord]
      obtain ⟨sent', rest', hput⟩ := hordered.put hconnected index message
      exact hput.answers (answers_trySendPendingLocked _)

/-- Nothing is in the buffer of a channel without a connection, and no more than the limit in
that of a connected one. -/
structure Bounded (s : MessageInChannel Handler) : Prop where
  cleared : s.channel.disconnected = true → s.channel.buffer.pending = []
  holds : Holds (fun _ _ => True) (fun _ => True)
    (fun buffer => buffer.maxPending ≠ 0 → buffer.pending.length ≤ buffer.maxPending) s.channel

end Steps

/-- Of three messages that a buffer for two takes, the first gives way, and a request of one byte
gets the front of the second. -/
def overflow : List (MessageAction Unit) :=
  [.base .onNewConnection, .push [1] true, .pushBlocking [2, 3] 0, .lock 1, .push [4] false,
    .push [5] true, .base (.onInRequest 0x81 7 1 none (inTransfer 1) [])]

end Usbipdcpp.VirtualDevice.MessageDelivery
