import Usbipdcpp.VirtualDevice.ChannelConservation

namespace Usbipdcpp.VirtualDevice.ChannelIsolation

open Foundation.TransitionSystem InEndpointChannelBase ChannelConservation

section Base

variable {Buffer Item Handler : Type} {derived : Derived Buffer Item}
  {channel channel' : InEndpointChannelBase Buffer Item Handler} {begins : List (Option Nat)}

/-- Nothing in the buffer or in a reply of the latest connection comes from a call that began in
an earlier one.  `begins` are the connections in which the calls began. -/
structure Isolated (derived : Derived Buffer Item) (begins : List (Option Nat))
    (channel : InEndpointChannelBase Buffer Item Handler) : Prop where
  explained : (stock derived channel).Sublist (placedItems channel)
  owned : ∀ piece ∈ channel.placed, piece.2 ≠ [] → ∀ index, piece.1 = some index →
    begins[index]? = some none ∨ begins[index]? = some (some channel.connection)
  cleared : channel.disconnected = true → derived.contents channel.buffer = []

theorem isolated_create {buffer : Buffer} (hbuffer : derived.contents buffer = []) :
    Isolated derived [] (create buffer : InEndpointChannelBase Buffer Item Handler) where
  explained := by simp [stock, create, hbuffer]
  owned _ hmem := absurd hmem List.not_mem_nil
  cleared _ := hbuffer

theorem Isolated.answers (h : Isolated derived begins channel)
    (hanswers : Answers derived channel channel') : Isolated derived begins channel' where
  explained := by
    rw [hanswers.stock_eq, placedItems, hanswers.placed]
    exact h.explained
  owned := by
    rw [hanswers.placed, hanswers.connection]
    exact h.owned
  cleared hdisconnected := by
    have hnone := h.cleared (hanswers.disconnected ▸ hdisconnected)
    exact List.suffix_nil.mp (hnone ▸ hanswers.left)

theorem Isolated.pulls {items : List Item} (h : Isolated derived begins channel)
    (hpulls : Pulls derived channel channel' items) : Isolated derived begins channel' where
  explained := by
    have hplaced : placedItems channel' = placedItems channel ++ items := by
      rw [placedItems, hpulls.placed, List.flatMap_append]
      simp [placedItems]
    rw [hplaced]
    exact hpulls.stock_sublist.trans (h.explained.append_right items)
  owned piece hmem hitems index hindex := by
    rw [hpulls.placed] at hmem
    rw [hpulls.connection]
    rcases List.mem_append.mp hmem with hmem | hmem
    · exact h.owned piece hmem hitems index hindex
    · rw [List.mem_singleton.mp hmem] at hindex
      cases hindex
  cleared hdisconnected := by
    rw [hpulls.disconnected, hpulls.connected] at hdisconnected
    cases hdisconnected

theorem isolated_disconnectBuffer (h : Isolated derived begins channel) :
    Isolated derived begins (channel.disconnectBuffer derived) where
  explained := by
    have hcontents : derived.contents (derived.bufferClear channel.buffer) = [] :=
      derived.contents_bufferClear channel.buffer
    refine List.Sublist.trans ?_ h.explained
    simp only [stock, disconnectBuffer, hcontents, List.append_nil]
    exact List.sublist_append_left _ _
  owned := h.owned
  cleared _ := derived.contents_bufferClear channel.buffer

theorem isolated_onNewConnection (channel : InEndpointChannelBase Buffer Item Handler) :
    Isolated derived begins (channel.onNewConnection derived) where
  explained := by
    have hcontents : derived.contents (derived.bufferClear channel.buffer) = [] :=
      derived.contents_bufferClear channel.buffer
    simp [stock, onNewConnection, hcontents]
  owned _ hmem := absurd hmem List.not_mem_nil
  cleared h := by cases h

theorem isolated_step [DecidableEq Handler] {a : ChannelAction Handler}
    (h : Isolated derived begins channel) (hstep : channel.step derived a = some channel') :
    Isolated derived begins channel' := by
  cases moves_of_step hstep with
  | answers hanswers => exact h.answers hanswers
  | pulls _ hpulls => exact h.pulls hpulls
  | cleared => exact isolated_disconnectBuffer h
  | connected => exact isolated_onNewConnection channel

/-- The buffer loses some of its items. -/
theorem Isolated.shrink {buffer : Buffer} (h : Isolated derived begins channel)
    (hsub : (derived.contents buffer).Sublist (derived.contents channel.buffer)) :
    Isolated derived begins { channel with buffer } where
  explained := (List.Sublist.append_left hsub _).trans h.explained
  owned := h.owned
  cleared hdisconnected := List.sublist_nil.mp (h.cleared hdisconnected ▸ hsub)

/-- A call of the connection puts items into the buffer. -/
theorem Isolated.put {index : Nat} {items : List Item} {buffer : Buffer}
    (h : Isolated derived begins channel) (hconnected : channel.disconnected = false)
    (hsub : (derived.contents buffer).Sublist (derived.contents channel.buffer ++ items))
    (hindex : begins[index]? = some none ∨ begins[index]? = some (some channel.connection)) :
    Isolated derived begins (channel.put index items buffer) where
  explained := by
    rw [placedItems_put]
    refine List.Sublist.trans ?_ (h.explained.append_right items)
    rw [stock, stock, List.append_assoc]
    exact List.Sublist.append_left hsub _
  owned piece hmem hitems index' hindex' := by
    rcases List.mem_append.mp hmem with hmem | hmem
    · exact h.owned piece hmem hitems index' hindex'
    · rw [List.mem_singleton.mp hmem] at hindex'
      obtain rfl := Option.some.inj hindex'
      exact hindex
  cleared hdisconnected := by
    rw [show channel.disconnected = true from hdisconnected] at hconnected
    cases hconnected

theorem Isolated.concat (h : Isolated derived begins channel) (began : Option Nat) :
    Isolated derived (begins ++ [began]) channel where
  explained := h.explained
  owned piece hmem hitems index hindex := by
    have hkept : ∀ b, begins[index]? = some b → (begins ++ [began])[index]? = some b :=
      fun b hb => by rw [List.getElem?_append_left (List.getElem?_eq_some_iff.mp hb).1, hb]
    exact (h.owned piece hmem hitems index hindex).imp (hkept _) (hkept _)
  cleared := h.cleared

/-- A call that begins puts its items into the buffer at once. -/
theorem Isolated.concatPut {items : List Item} {buffer : Buffer}
    (h : Isolated derived begins channel) (hconnected : channel.disconnected = false)
    (hsub : (derived.contents buffer).Sublist (derived.contents channel.buffer ++ items)) :
    Isolated derived (begins ++ [channel.current]) (channel.put begins.length items buffer) := by
  refine (h.concat channel.current).put hconnected hsub (Or.inr ?_)
  simp [current, hconnected]

/-- A call of an earlier connection has put something into the buffer. -/
theorem not_isolated {index c : Nat} {items : List Item}
    (hmem : (some index, items) ∈ channel.placed) (hitems : items ≠ [])
    (hbegan : begins[index]? = some (some c)) (hlt : c < channel.connection) :
    ¬ Isolated derived begins channel := by
  intro h
  rcases h.owned _ hmem hitems index rfl with hnone | hsame
  · rw [hbegan] at hnone
    cases hnone
  · rw [hbegan] at hsame
    cases hsame
    exact Nat.lt_irrefl _ hlt

theorem connection_of_step [DecidableEq Handler] {a : ChannelAction Handler}
    (ha : a ≠ .onNewConnection) (hstep : channel.step derived a = some channel') :
    channel'.connection = channel.connection := by
  cases moves_of_step hstep with
  | answers hanswers => exact hanswers.connection
  | pulls _ hpulls => exact hpulls.connection
  | cleared => rfl
  | connected => exact absurd rfl ha

end Base

section Calls

variable {Call : Type} {began : Call → Option Nat} {ended : Call → Prop} {calls : List Call}
  {connection : Nat} {index : Nat} {call : Call}

/-- Of the calls that began in a connection, those of earlier ones are over. -/
def Ended (began : Call → Option Nat) (ended : Call → Prop) (connection : Nat)
    (calls : List Call) : Prop :=
  ∀ call ∈ calls, ∀ c, began call = some c → c ≤ connection ∧ (c < connection → ended call)

theorem ended_concat {current : Option Nat} (h : Ended began ended connection calls)
    (hbegan : began call = current) (hcurrent : ∀ c, current = some c → c = connection) :
    Ended began ended connection (calls ++ [call]) := by
  intro call' hmem c hc
  rcases List.mem_append.mp hmem with hmem | hmem
  · exact h call' hmem c hc
  · rw [List.mem_singleton.mp hmem, hbegan] at hc
    obtain rfl := hcurrent c hc
    exact ⟨Nat.le_refl _, fun hlt => absurd hlt (Nat.lt_irrefl _)⟩

/-- A call that is over stays so. -/
theorem ended_modify {f : Call → Call} (h : Ended began ended connection calls)
    (hcall : calls[index]? = some call) (hbegan : began (f call) = began call)
    (hended : ended call → ended (f call)) :
    Ended began ended connection (calls.modify index f) := by
  intro call' hmem c hc
  obtain ⟨other, hother⟩ := List.mem_iff_getElem?.mp hmem
  rw [List.getElem?_modify] at hother
  obtain ⟨before, hbefore, hafter⟩ := Option.map_eq_some_iff.mp hother
  have hkept := h before (List.mem_of_getElem? hbefore) c
  rcases eq_or_ne index other with rfl | hne
  · obtain rfl : call = before := Option.some.inj (hcall.symm.trans hbefore)
    rw [if_pos rfl] at hafter
    subst hafter
    rw [hbegan] at hc
    exact ⟨(hkept hc).1, fun hlt => hended ((hkept hc).2 hlt)⟩
  · rw [if_neg hne] at hafter
    subst hafter
    exact hkept hc

/-- At a new connection all calls that began in a connection have to be over. -/
theorem ended_succ (h : Ended began ended connection calls)
    (hended : ∀ call ∈ calls, began call ≠ none → ended call) :
    Ended began ended (connection + 1) calls := fun call hmem c hc =>
  ⟨Nat.le_succ_of_le (h call hmem c hc).1, fun _ => hended call hmem (by simp [hc])⟩

/-- A call that is not over began in the latest connection, or in none. -/
theorem began_of_open (h : Ended began ended connection calls) (hcall : calls[index]? = some call)
    (hopen : ¬ ended call) :
    (calls.map began)[index]? = some none ∨ (calls.map began)[index]? = some (some connection) := by
  rw [List.getElem?_map, hcall, Option.map_some]
  cases hbegan : began call with
  | none => exact Or.inl rfl
  | some c =>
      obtain ⟨hle, hended⟩ := h call (List.mem_of_getElem? hcall) c hbegan
      rcases Nat.lt_or_eq_of_le hle with hlt | rfl
      · exact absurd (hended hlt) hopen
      · exact Or.inr rfl

theorem map_modify {f : Call → Call} (hbegan : ∀ call, began (f call) = began call) :
    (calls.modify index f).map began = calls.map began := by
  refine List.ext_getElem? fun other => ?_
  rw [List.getElem?_map, List.getElem?_map, List.getElem?_modify]
  cases calls[other]? with
  | none => rfl
  | some call =>
      simp only [Option.map_eq_map, Option.map_some, Option.some.injEq]
      split
      · exact hbegan call
      · rfl

end Calls

section Message

open MessageInChannel

variable {Handler : Type} {s t : MessageInChannel Handler}

/-- Every call that began in a connection has returned when the next connection begins. -/
def PushersReturned (s : MessageInChannel Handler) : MessageAction Handler → Prop
  | .base .onNewConnection => ∀ call ∈ s.calls, call.began ≠ none → call.pc.done = true
  | _ => True

structure MessagesIsolated (s : MessageInChannel Handler) : Prop where
  isolated : Isolated MessageInChannel.derived (s.calls.map PushCall.began) s.channel
  ended : Ended PushCall.began (fun call => call.pc.done = true) s.channel.connection s.calls

theorem began_setPc (s : MessageInChannel Handler) (index : Nat) (pc : PushPc) :
    (s.setPc index pc).calls.map PushCall.began = s.calls.map PushCall.began :=
  map_modify fun _ => rfl

theorem contents_pushLocked (message : List UInt8) (buffer : MessageBuffer) :
    (MessageInChannel.derived.contents (buffer.pushLocked message)).Sublist
      (MessageInChannel.derived.contents buffer ++ [message]) :=
  buffer.sublist_pushLocked message

theorem current_eq {Buffer Item : Type} {channel : InEndpointChannelBase Buffer Item Handler}
    (c : Nat) (h : channel.current = some c) : c = channel.connection := by
  unfold current at h
  split at h
  next => cases h
  next => exact (Option.some.inj h).symm

theorem answers_deliver (index : Nat) (message : List UInt8)
    (channel : InEndpointChannelBase MessageBuffer (List UInt8) Handler) :
    Answers MessageInChannel.derived
      (channel.put index [message] (channel.buffer.pushLocked message))
      (deliver index message channel) :=
  answers_trySendPendingLocked _

theorem connection_deliver (index : Nat) (message : List UInt8)
    (channel : InEndpointChannelBase MessageBuffer (List UInt8) Handler) :
    (deliver index message channel).connection = channel.connection :=
  (answers_deliver index message channel).connection

variable [DecidableEq Handler]

theorem messagesIsolated_step {a : MessageAction Handler} (hs : MessagesIsolated s)
    (hguard : PushersReturned s a) (h : s.step a = some t) : MessagesIsolated t := by
  cases effect_of_step h with
  | @base b channel hstep =>
      refine ⟨isolated_step hs.isolated hstep, ?_⟩
      by_cases hb : b = .onNewConnection
      · subst hb
        obtain rfl := by simpa [InEndpointChannelBase.step] using hstep
        exact ended_succ hs.ended hguard
      · change Ended _ _ channel.connection s.calls
        rw [connection_of_step hb hstep]
        exact hs.ended
  | limited => exact ⟨hs.isolated.shrink (List.Sublist.refl _), hs.ended⟩
  | @opened _ call hbegan =>
      refine ⟨?_, ended_concat hs.ended hbegan current_eq⟩
      rw [List.map_append]
      exact hs.isolated.concat _
  | @pushed _ call hconnected hbegan =>
      constructor
      · have hput := hs.isolated.concatPut hconnected
          (contents_pushLocked call.message s.channel.buffer)
        rw [List.length_map, ← hbegan] at hput
        rw [List.map_append]
        exact hput.answers (answers_deliver _ _ s.channel)
      · rw [connection_deliver]
        exact ended_concat hs.ended hbegan current_eq
  | @moved _ index call pc hcall hopen =>
      refine ⟨?_, ended_modify hs.ended hcall rfl fun hdone => ?_⟩
      · rw [began_setPc]
        exact hs.isolated
      · rw [hopen] at hdone
        cases hdone
  | @delivered _ index call hcall hopen hconnected =>
      constructor
      · have hput := hs.isolated.put hconnected
          (contents_pushLocked call.message s.channel.buffer)
          (began_of_open hs.ended hcall (by simp [hopen]))
        change Isolated _ ((s.setPc index (.returned true)).calls.map PushCall.began) _
        rw [began_setPc]
        exact hput.answers (answers_deliver _ _ s.channel)
      · rw [connection_deliver]
        exact ended_modify hs.ended hcall rfl fun _ => rfl

/-- A call that is blocked when the next connection begins can put its message into the buffer
in that connection. -/
theorem reconnect_breaks_push {index c : Nat} {call : PushCall}
    (hcall : s.calls[index]? = some call) (hbegan : call.began = some c)
    (hle : c ≤ s.channel.connection) (hopen : call.pc.done = false) :
    ∃ a t, MessageInChannel.system.run s [.base .onNewConnection, a] = some t ∧
      ¬ Isolated MessageInChannel.derived (t.calls.map PushCall.began) t.channel := by
  let fresh : MessageInChannel Handler :=
    { s with channel := s.channel.onNewConnection MessageInChannel.derived }
  let t : MessageInChannel Handler :=
    { fresh.setPc index (.returned true) with channel := deliver index call.message fresh.channel }
  have hlocked : fresh.locked index call.message false = t := by
    have hroom : fresh.channel.buffer.full = false := by
      simp [fresh, onNewConnection, MessageInChannel.derived, MessageBuffer.full]
    have hconnected : fresh.channel.disconnected = false := rfl
    simp only [locked, hroom, hconnected, Bool.false_eq_true, false_and, if_false]
    rfl
  have hstep : ∃ a, fresh.step a = some t := by
    cases hpc : call.pc with
    | pushing => exact ⟨.lock index, by simp [MessageInChannel.step, fresh, hcall, hpc, ← hlocked]⟩
    | waiting =>
        exact ⟨.wake index false, by simp [MessageInChannel.step, fresh, hcall, hpc, ← hlocked]⟩
    | returned pushed =>
        rw [hpc] at hopen
        cases hopen
  obtain ⟨a, ha⟩ := hstep
  have hrun : MessageInChannel.system.run s [.base .onNewConnection, a] = some t := by
    have hfresh : s.step (.base .onNewConnection) = some fresh := rfl
    simp [System.run, MessageInChannel.system, hfresh, ha]
  have hanswers := answers_deliver index call.message fresh.channel
  have hplaced : (some index, [call.message]) ∈ t.channel.placed := by
    change _ ∈ (deliver index call.message fresh.channel).placed
    rw [hanswers.placed]
    exact List.mem_append_right _ List.mem_cons_self
  have hbegan' : (t.calls.map PushCall.began)[index]? = some (some c) := by
    change ((fresh.setPc index (.returned true)).calls.map PushCall.began)[index]? = _
    rw [began_setPc]
    simp [fresh, hcall, hbegan]
  have hlt : c < t.channel.connection := by
    change c < (deliver index call.message fresh.channel).connection
    rw [hanswers.connection]
    exact Nat.lt_succ_of_le hle
  exact ⟨a, t, hrun, not_isolated hplaced (by simp) hbegan' hlt⟩

theorem messagesIsolated_of_reachable
    (h : ReachableUnder MessageInChannel.system PushersReturned s) : MessagesIsolated s := by
  refine h.invariant (I := MessagesIsolated) ?_ fun _ _ _ hs hguard hstep =>
    messagesIsolated_step hs hguard hstep
  rintro s rfl
  exact ⟨isolated_create rfl, fun _ hmem => absurd hmem List.not_mem_nil⟩

end Message

section ByteStream

open ByteStreamInChannel Utils

variable {Handler : Type} {s t : ByteStreamInChannel Handler}

/-- A call has returned, or will return with its next step. -/
def WriteEnded (call : WriteCall) : Prop :=
  call.pc = .returned ∨ call.pc = .filled ∧ call.data.length ≤ call.total

/-- Every call that began in a connection has written its data or returned when the next
connection begins. -/
def WritersReturned (s : ByteStreamInChannel Handler) : ByteStreamAction Handler → Prop
  | .base .onNewConnection => ∀ call ∈ s.calls, call.began ≠ none → WriteEnded call
  | _ => True

structure BytesIsolated (s : ByteStreamInChannel Handler) : Prop where
  isolated : Isolated ByteStreamInChannel.derived (s.calls.map WriteCall.began) s.channel
  ended : Ended WriteCall.began WriteEnded s.channel.connection s.calls

theorem not_writeEnded {call : WriteCall} (hopen : WritePc.Open call.pc) : ¬ WriteEnded call := by
  rintro (hpc | ⟨hpc, -⟩) <;> rcases hopen with hopen | hopen <;> rw [hopen] at hpc <;> cases hpc

theorem write_sublist (data : List UInt8) (buffer : ByteBuffer) :
    (ByteStreamInChannel.derived.contents (buffer.write data).2).Sublist
      (ByteStreamInChannel.derived.contents buffer ++ data.take (buffer.write data).1) := by
  change (buffer.write data).2.contents.Sublist (buffer.contents ++ _)
  rw [buffer.contents_write data]

theorem BytesIsolated.answers {channel : InEndpointChannelBase ByteBuffer UInt8 Handler}
    (hs : BytesIsolated s)
    (hanswers : Answers ByteStreamInChannel.derived s.channel channel) :
    BytesIsolated { s with channel } where
  isolated := hs.isolated.answers hanswers
  ended := by
    change Ended _ _ channel.connection s.calls
    rw [hanswers.connection]
    exact hs.ended

theorem BytesIsolated.setPc {index : Nat} {call : WriteCall} {pc : WritePc} (hs : BytesIsolated s)
    (hcall : s.calls[index]? = some call) (hended : WriteEnded call → WriteEnded { call with pc }) :
    BytesIsolated (s.setPc index pc) where
  isolated := by
    rw [ByteStreamInChannel.setPc, map_modify fun _ => by rfl]
    exact hs.isolated
  ended := ended_modify hs.ended hcall rfl hended

theorem began_store (s : ByteStreamInChannel Handler) (index : Nat) (call : WriteCall) :
    (s.store index call).calls.map WriteCall.began = s.calls.map WriteCall.began :=
  map_modify fun _ => rfl

theorem BytesIsolated.store {index : Nat} {call : WriteCall} (hs : BytesIsolated s)
    (hcall : s.calls[index]? = some call) (hopen : WritePc.Open call.pc)
    (hconnected : s.channel.disconnected = false) : BytesIsolated (s.store index call) where
  isolated := by
    have hput := hs.isolated.put hconnected
      (write_sublist (call.data.drop call.total) s.channel.buffer)
      (began_of_open hs.ended hcall (not_writeEnded hopen))
    rw [began_store]
    exact hput
  ended := ended_modify hs.ended hcall rfl fun hended => absurd hended (not_writeEnded hopen)

/-- A call of an earlier connection that finds space breaks the isolation. -/
theorem not_isolated_store {index c : Nat} {call : WriteCall} (hcall : s.calls[index]? = some call)
    (hbegan : call.began = some c) (hlt : c < s.channel.connection)
    (hdata : call.total < call.data.length) (hspace : s.channel.buffer.available ≠ 0) :
    ¬ Isolated ByteStreamInChannel.derived ((s.store index call).calls.map WriteCall.began)
      (s.store index call).channel := by
  refine not_isolated (List.mem_append_right _ List.mem_cons_self) ?_ ?_ hlt
  · intro hnone
    have hlength := congrArg List.length hnone
    rw [ByteBuffer.written_write, List.length_take, List.length_drop, List.length_nil] at hlength
    omega
  · rw [began_store, List.getElem?_map, hcall, Option.map_some, hbegan]

variable [DecidableEq Handler]

theorem bytesIsolated_step {a : ByteStreamAction Handler} (hs : BytesIsolated s)
    (hguard : WritersReturned s a) (h : s.step a = some t) : BytesIsolated t := by
  cases effect_of_step h with
  | @base b channel hb hstep =>
      refine ⟨isolated_step hs.isolated hstep, ?_⟩
      change Ended _ _ channel.connection s.calls
      rw [connection_of_step hb hstep]
      exact hs.ended
  | connected =>
      refine ⟨isolated_onNewConnection s.channel, fun call hmem c hc => ?_⟩
      obtain ⟨before, hbefore, rfl⟩ := List.mem_map.mp hmem
      exact ended_succ hs.ended hguard before hbefore c hc
  | resized capacity =>
      refine ⟨hs.isolated.shrink ?_, hs.ended⟩
      change (s.channel.buffer.resize capacity).contents.Sublist s.channel.buffer.contents
      rw [ByteBuffer.contents_resize]
      exact List.take_sublist _ _
  | @opened _ call hbegan =>
      refine ⟨?_, ended_concat hs.ended hbegan current_eq⟩
      rw [List.map_append]
      exact hs.isolated.concat _
  | written data hconnected =>
      have hput := hs.isolated.concatPut hconnected (write_sublist data s.channel.buffer)
      rw [List.length_map] at hput
      have hanswers := @answers_trySendPendingLocked _ _ _ ByteStreamInChannel.derived
        (s.channel.put s.calls.length (data.take (s.channel.buffer.write data).1)
          (s.channel.buffer.write data).2)
      constructor
      · rw [List.map_append]
        exact hput.answers hanswers
      · dsimp only
        rw [hanswers.connection]
        exact ended_concat hs.ended rfl current_eq
  | moved hcall hopen hpc hchannel =>
      exact (hs.setPc hcall fun hended => absurd hended (not_writeEnded hopen)).answers
        (answers_same_or_sent hchannel)
  | stored hcall hopen hconnected hchannel =>
      have hanswers := answers_same_or_sent hchannel
      exact (hs.answers hanswers).store hcall hopen (hanswers.disconnected.trans hconnected)
  | @sent _ index call hcall hpc =>
      refine (hs.setPc hcall fun hended => ?_).answers (answers_trySendPendingLocked _)
      rcases hended with hended | ⟨-, hended⟩
      · rw [hpc] at hended
        cases hended
      · exact Or.inl (if_neg (Nat.not_lt.mpr hended))

/-- A call in its first phase that finds space puts its data into the buffer. -/
theorem step_store {index : Nat} {call : WriteCall} (hcall : s.calls[index]? = some call)
    (hopen : WritePc.Open call.pc) (hconnected : s.channel.disconnected = false)
    (hspace : s.channel.buffer.available ≠ 0) :
    ∃ a, s.step a = some (s.store index call) := by
  rcases hopen with hpc | hpc
  · exact ⟨.fill index, by simp [ByteStreamInChannel.step, hcall, hpc, fill, hconnected, hspace]⟩
  · exact ⟨.wake index false,
      by simp [ByteStreamInChannel.step, hcall, hpc, woken, hconnected, hspace]⟩

/-- A call that has more to write when the next connection begins can write it in that
connection. -/
theorem reconnect_breaks_write {index c : Nat} {call : WriteCall}
    (hcall : s.calls[index]? = some call) (hbegan : call.began = some c)
    (hle : c ≤ s.channel.connection) (hopen : call.pc ≠ .returned)
    (hdata : call.total < call.data.length) (hcapacity : 0 < s.channel.buffer.ring.capacity) :
    ∃ actions t, ByteStreamInChannel.system.run s (.base .onNewConnection :: actions) = some t ∧
      ¬ Isolated ByteStreamInChannel.derived (t.calls.map WriteCall.began) t.channel := by
  obtain ⟨fresh, hfresh⟩ : ∃ fresh : ByteStreamInChannel Handler,
      fresh = { s.carry with channel := s.channel.onNewConnection ByteStreamInChannel.derived } :=
    ⟨_, rfl⟩
  have hstep : ByteStreamInChannel.system.step s (.base .onNewConnection) = some fresh := by
    rw [hfresh]
    rfl
  have hcall' : fresh.calls[index]? = some { call with carried := call.total } := by
    simp [hfresh, carry, hcall]
  have hconnected : fresh.channel.disconnected = false := by
    rw [hfresh]
    rfl
  have hlt : c < fresh.channel.connection := by
    rw [hfresh]
    exact Nat.lt_succ_of_le hle
  have hempty : fresh.channel.buffer.contents = [] := by
    rw [hfresh]
    rfl
  have hspace : fresh.channel.buffer.available ≠ 0 := by
    rw [hfresh]
    exact Nat.pos_iff_ne_zero.mp hcapacity
  by_cases hfilled : call.pc = .filled
  · -- the call ends its round first, with nothing in the buffer to send
    obtain ⟨next, hnext⟩ : ∃ next, next =
        fresh.sendPending index { call with carried := call.total } := ⟨_, rfl⟩
    have hsame : next.channel = fresh.channel := by
      rw [hnext]
      exact trySendPendingLocked_of_settled (Or.inl ((fresh.channel.buffer.empty_iff).mpr hempty))
    have hcallNext : next.calls[index]? =
        some { call with carried := call.total, pc := .filling } := by
      simp [hnext, sendPending, ByteStreamInChannel.setPc, hcall', hdata]
    have hround : ByteStreamInChannel.system.step fresh (.sendPending index) = some next := by
      simp [ByteStreamInChannel.system, ByteStreamInChannel.step, hcall', hfilled, hnext]
    obtain ⟨a, ha⟩ := step_store hcallNext (Or.inl rfl) (by rw [hsame, hconnected])
      (by rw [hsame]; exact hspace)
    refine ⟨[.sendPending index, a], _, ?_,
      not_isolated_store hcallNext hbegan (by rw [hsame]; exact hlt) hdata
        (by rw [hsame]; exact hspace)⟩
    simp only [System.run, List.foldlM_cons, hstep, hround, Option.bind_eq_bind, Option.bind_some,
      List.foldlM_nil, Option.bind_eq_some_iff]
    exact ⟨_, ha, rfl⟩
  · have hpc : WritePc.Open call.pc := by
      cases hcase : call.pc with
      | filling => exact Or.inl rfl
      | waiting => exact Or.inr rfl
      | filled => exact absurd hcase hfilled
      | returned => exact absurd hcase hopen
    obtain ⟨a, ha⟩ := step_store hcall' hpc hconnected hspace
    refine ⟨[a], _, ?_, not_isolated_store hcall' hbegan hlt hdata hspace⟩
    simp only [System.run, List.foldlM_cons, hstep, Option.bind_eq_bind, Option.bind_some,
      List.foldlM_nil, Option.bind_eq_some_iff]
    exact ⟨_, ha, rfl⟩

theorem bytesIsolated_of_reachable
    (h : ReachableUnder ByteStreamInChannel.system WritersReturned s) : BytesIsolated s := by
  refine h.invariant (I := BytesIsolated) ?_ fun _ _ _ hs hguard hstep =>
    bytesIsolated_step hs hguard hstep
  rintro s ⟨capacity, rfl⟩
  exact ⟨isolated_create rfl, fun _ hmem => absurd hmem List.not_mem_nil⟩

/-- Connections are isolated from the calls of earlier ones in every run in which no call is
still blocked when the next connection begins. -/
theorem isolated_of_returned {s : MessageInChannel Handler} {t : ByteStreamInChannel Handler}
    (hs : ReachableUnder MessageInChannel.system PushersReturned s)
    (ht : ReachableUnder ByteStreamInChannel.system WritersReturned t) :
    Isolated MessageInChannel.derived (s.calls.map PushCall.began) s.channel ∧
      Isolated ByteStreamInChannel.derived (t.calls.map WriteCall.began) t.channel :=
  ⟨(messagesIsolated_of_reachable hs).isolated, (bytesIsolated_of_reachable ht).isolated⟩

end ByteStream

/-- A second connection begins when the call of the first one has returned. -/
theorem isolated_of_returned_instance :
    ∃ (s : MessageInChannel Unit) (t : ByteStreamInChannel Unit),
      s.channel.connection = 2 ∧ t.channel.connection = 2 ∧
        Isolated MessageInChannel.derived (s.calls.map PushCall.began) s.channel ∧
        Isolated ByteStreamInChannel.derived (t.calls.map WriteCall.began) t.channel := by
  obtain ⟨s₀, s₁, s₂, hs₀, hs₁, hs₂, hpushed, hs⟩ : ∃ s₀ s₁ s₂ : MessageInChannel Unit,
      MessageInChannel.system.step .create (.base .onNewConnection) = some s₀ ∧
        MessageInChannel.system.run s₀ [.pushBlocking [1] 0, .lock 0] = some s₁ ∧
          MessageInChannel.system.step s₁ (.base .onNewConnection) = some s₂ ∧
            s₁.calls.map PushCall.pc = [.returned true] ∧ s₂.channel.connection = 2 :=
    ⟨_, _, _, rfl, rfl, rfl, rfl, rfl⟩
  obtain ⟨t₀, t₁, t₂, ht₀, ht₁, ht₂, hwritten, ht⟩ : ∃ t₀ t₁ t₂ : ByteStreamInChannel Unit,
      ByteStreamInChannel.system.step (.create 1) (.base .onNewConnection) = some t₀ ∧
        ByteStreamInChannel.system.run t₀ [.write [1] 0, .fill 0, .sendPending 0] = some t₁ ∧
          ByteStreamInChannel.system.step t₁ (.base .onNewConnection) = some t₂ ∧
            t₁.calls.map WriteCall.pc = [.returned] ∧ t₂.channel.connection = 2 :=
    ⟨_, _, _, rfl, rfl, rfl, rfl, rfl⟩
  have hfirst : PushersReturned (.create : MessageInChannel Unit) (.base .onNewConnection) :=
    fun _ hmem => absurd hmem List.not_mem_nil
  have hfirst' : WritersReturned (.create 1 : ByteStreamInChannel Unit) (.base .onNewConnection) :=
    fun _ hmem => absurd hmem List.not_mem_nil
  have hreach : ReachableUnder MessageInChannel.system PushersReturned s₁ :=
    ReachableUnder.run _ (by simp [PushersReturned])
      (.step (.initial rfl) hfirst hs₀) hs₁
  have hreach' : ReachableUnder ByteStreamInChannel.system WritersReturned t₁ :=
    ReachableUnder.run _ (by simp [WritersReturned])
      (.step (.initial ⟨1, rfl⟩) hfirst' ht₀) ht₁
  have hagain : PushersReturned s₁ (.base .onNewConnection) := fun call hmem _ => by
    have hpc := List.mem_map_of_mem (f := PushCall.pc) hmem
    rw [hpushed, List.mem_singleton] at hpc
    rw [hpc]
    rfl
  have hagain' : WritersReturned t₁ (.base .onNewConnection) := fun call hmem _ => by
    have hpc := List.mem_map_of_mem (f := WriteCall.pc) hmem
    rw [hwritten, List.mem_singleton] at hpc
    exact Or.inl hpc
  exact ⟨s₂, t₂, hs, ht,
    isolated_of_returned (hreach.step hagain hs₂) (hreach'.step hagain' ht₂)⟩

/-- A call to `push_blocking` is blocked when the connection ends, and is woken in the next. -/
def wokenPush : List (MessageAction Unit) :=
  [.setMaxPendingMessages 1, .base .onNewConnection, .push [1] true, .pushBlocking [2] 0, .lock 1,
    .base .disconnectBuffer, .base .disconnectRequests, .base .onNewConnection, .wake 1 false]

/-- The same for a call to `write`. -/
def wokenWrite : List (ByteStreamAction Unit) :=
  [.base .onNewConnection, .write [1, 2] 0, .fill 0, .sendPending 0, .fill 0,
    .base .disconnectBuffer, .base .disconnectRequests, .base .onNewConnection, .wake 0 false]

/-- A call that was blocked when its connection ended puts its data into the buffer in the next
connection. -/
theorem written_in_later_connection :
    (∃ s : MessageInChannel Unit, Reachable MessageInChannel.system s ∧
      ¬ Isolated MessageInChannel.derived (s.calls.map PushCall.began) s.channel) ∧
    ∃ t : ByteStreamInChannel Unit, Reachable ByteStreamInChannel.system t ∧
      ¬ Isolated ByteStreamInChannel.derived (t.calls.map WriteCall.began) t.channel := by
  obtain ⟨s, hs, hbegan, hplaced, hconnection⟩ :
      ∃ s, MessageInChannel.system.run .create wokenPush = some s ∧
        (s.calls.map PushCall.began)[1]? = some (some 1) ∧
        s.channel.placed = [(some 1, [[2]])] ∧ s.channel.connection = 2 :=
    ⟨_, rfl, rfl, rfl, rfl⟩
  obtain ⟨t, ht, hbegan', hplaced', hconnection'⟩ :
      ∃ t, ByteStreamInChannel.system.run (.create 1) wokenWrite = some t ∧
        (t.calls.map WriteCall.began)[0]? = some (some 1) ∧
        t.channel.placed = [(some 0, [2])] ∧ t.channel.connection = 2 :=
    ⟨_, rfl, rfl, rfl, rfl⟩
  refine ⟨⟨s, Reachable.run _ (.initial rfl) hs, ?_⟩,
    t, Reachable.run _ (.initial ⟨1, rfl⟩) ht, ?_⟩
  · exact not_isolated (by rw [hplaced]; exact List.mem_cons_self) (by simp) hbegan
      (by rw [hconnection]; decide)
  · exact not_isolated (by rw [hplaced']; exact List.mem_cons_self) (by simp) hbegan'
      (by rw [hconnection']; decide)

end Usbipdcpp.VirtualDevice.ChannelIsolation
