import Usbipdcpp.VirtualDevice.PipeClosing

namespace Usbipdcpp.VirtualDevice.PipeLifetime

open Foundation.KeyedList Foundation.TransitionSystem Protocol PipeClosing PipeDevice

variable {Handler : Type} {s t : PipeDevice Handler}

/-- A call to the `write` of a channel. -/
def callAt (s : PipeDevice Handler) (id index : Nat) : Option WriteCall :=
  s.channels[id]?.bind fun entry => entry.stream.calls[index]?

/-- A call to the device's `write` is in the `write` of a channel: it has left its own critical
section, and not returned. -/
def Inside (s : PipeDevice Handler) (call : PipeWrite) (id : Nat) : Prop :=
  ∃ index c, call.pc = .inChannel id index ∧ callAt s id index = some c ∧ c.pc ≠ .returned

/-- A channel that a call is in is one that the map holds. -/
def Alive (s : PipeDevice Handler) : Prop :=
  ∀ call ∈ s.writes, ∀ id, Inside s call id → id ∈ s.inChannels.map Prod.snd

/-- Where the map is cleared, all calls that have left their own critical section have returned. -/
def Quiet (s : PipeDevice Handler) : PipeAction Handler → Prop
  | .clear | .onNewConnection => ∀ call ∈ s.writes, ∀ id, ¬ Inside s call id
  | _ => True

/-- No call comes into a channel that the map does not hold, and the map loses none. -/
structure Grows (s t : PipeDevice Handler) : Prop where
  inside : ∀ call ∈ t.writes, ∀ id, Inside t call id →
    (∃ call ∈ s.writes, Inside s call id) ∨ id ∈ t.inChannels.map Prod.snd
  kept : s.inChannels.map Prod.snd ⊆ t.inChannels.map Prod.snd

theorem Grows.alive (h : Grows s t) (hs : Alive s) : Alive t := by
  intro call hmem id hinside
  rcases h.inside call hmem id hinside with ⟨call', hmem', hinside'⟩ | hmem
  · exact h.kept (hs call' hmem' id hinside')
  · exact hmem

/-- No call of a channel's `write` comes to life. -/
def Stays (s t : PipeDevice Handler) : Prop :=
  ∀ id index c, callAt t id index = some c → c.pc ≠ .returned →
    ∃ c', callAt s id index = some c' ∧ c'.pc ≠ .returned

theorem Stays.inside (h : Stays s t) {call : PipeWrite} {id : Nat} (hinside : Inside t call id) :
    Inside s call id := by
  obtain ⟨index, c, hpc, hcall, hopen⟩ := hinside
  obtain ⟨c', hcall', hopen'⟩ := h id index c hcall hopen
  exact ⟨index, c', hpc, hcall', hopen'⟩

theorem grows_of_callAt (hwrites : t.writes = s.writes) (hcalls : Stays s t)
    (hkept : s.inChannels.map Prod.snd ⊆ t.inChannels.map Prod.snd) : Grows s t where
  inside call hmem _ hinside := Or.inl ⟨call, hwrites ▸ hmem, hcalls.inside hinside⟩
  kept := hkept

theorem grows_same (hwrites : t.writes = s.writes) (hchannels : t.channels = s.channels)
    (hkept : s.inChannels.map Prod.snd ⊆ t.inChannels.map Prod.snd) : Grows s t :=
  grows_of_callAt hwrites
    (fun id index c hcall hopen => ⟨c, by rw [← hcall, callAt, callAt, hchannels], hopen⟩) hkept

theorem callAt_modifyStream {f : ByteStreamInChannel Handler → ByteStreamInChannel Handler}
    (hf : ∀ stream, (f stream).calls = stream.calls) (id id' index : Nat) :
    callAt (s.modifyStream id f) id' index = callAt s id' index := by
  unfold callAt modifyStream
  dsimp only
  rw [List.getElem?_modify]
  cases s.channels[id']? with
  | none => rfl
  | some entry =>
      simp only [Option.map_eq_map, Option.map_some, Option.bind_some]
      split
      · rw [hf]
      · rfl

theorem stays_modifyStream {f : ByteStreamInChannel Handler → ByteStreamInChannel Handler}
    (hf : ∀ stream, (f stream).calls = stream.calls) (id : Nat) : Stays s (s.modifyStream id f) :=
  fun id' index c hcall hopen => ⟨c, by rw [← hcall, callAt_modifyStream hf], hopen⟩

theorem grows_modifyStream {f : ByteStreamInChannel Handler → ByteStreamInChannel Handler}
    (hf : ∀ stream, (f stream).calls = stream.calls) (id : Nat) :
    Grows s (s.modifyStream id f) :=
  grows_of_callAt rfl (stays_modifyStream hf id) (List.Subset.refl _)

theorem Grows.trans {u : PipeDevice Handler} (h : Grows s t) (h' : Grows t u) : Grows s u where
  inside call hmem id hinside := by
    rcases h'.inside call hmem id hinside with ⟨call', hmem', hinside'⟩ | hmem
    · exact (h.inside call' hmem' id hinside').imp_right (h'.kept ·)
    · exact Or.inr hmem
  kept := List.Subset.trans h.kept h'.kept

theorem grows_getInChannel (ep : UInt8) (s : PipeDevice Handler) :
    Grows s (s.getInChannel ep).2 ∧
      (s.getInChannel ep).1 ∈ (s.getInChannel ep).2.inChannels.map Prod.snd := by
  rcases getInChannel_cases ep s with ⟨id, hmem, hget⟩ | ⟨-, hget⟩
  · rw [hget]
    exact ⟨grows_same rfl rfl (List.Subset.refl _), List.mem_map.mpr ⟨_, hmem, rfl⟩⟩
  · rw [hget]
    refine ⟨grows_of_callAt rfl (fun id index c hcall hopen => ⟨c, ?_, hopen⟩) ?_, ?_⟩
    · unfold callAt at hcall ⊢
      dsimp only at hcall
      rw [List.getElem?_append] at hcall
      split at hcall
      next => exact hcall
      next =>
        rw [List.getElem?_singleton] at hcall
        split at hcall
        next => simp [freshIn, ByteStreamInChannel.create] at hcall
        next => cases hcall
    · rw [List.map_append]
      exact List.subset_append_left _ _
    · simp

theorem grows_onInRequest (id : Nat) (ep : UInt8) (seqnum length : UInt32)
    (owner : Option Handler) (transfer : GenericTransfer) (s : PipeDevice Handler) :
    Grows s (s.onInRequest id ep seqnum length owner transfer) := by
  apply grows_modifyStream
  intro stream
  rfl

theorem grows_onOutRequest (ep : UInt8) (seqnum : UInt32) (transfer : Option GenericTransfer)
    (setupReq : Option SetupPacket) (inRequest : Option (Nat × Nat)) (s : PipeDevice Handler) :
    Grows s (s.onOutRequest ep seqnum transfer setupReq inRequest) := by
  obtain ⟨outChannels, arrived, replies, hout⟩ :=
    s.onOutRequest_eq ep seqnum transfer setupReq inRequest
  rw [hout]
  exact grows_same rfl rfl (List.Subset.refl _)

theorem grows_forwardTransfer (ep : UInt8) (seqnum length : UInt32) (owner : Option Handler)
    (transfer : GenericTransfer) (s : PipeDevice Handler) :
    Grows s (s.forwardTransfer ep seqnum length owner transfer) := by
  unfold forwardTransfer
  split
  next => exact (grows_getInChannel ep s).1.trans (grows_onInRequest _ ep seqnum length _ _ _)
  next => exact grows_onOutRequest ep seqnum (some transfer) none none s

theorem grows_onPipeControlRequest (setup : SetupPacket) (seqnum length : UInt32)
    (owner : Option Handler) (transfer : GenericTransfer) (s : PipeDevice Handler) :
    Grows s (s.onPipeControlRequest setup seqnum length owner transfer) := by
  unfold onPipeControlRequest
  split
  next => exact grows_onOutRequest 0 seqnum _ _ none s
  next =>
    have hin := (grows_getInChannel 0 s).1.trans
      (grows_onInRequest (s.getInChannel 0).1 0 seqnum length owner transfer _)
    exact hin.trans (grows_onOutRequest 0 seqnum none _ _ _)

theorem grows_onPipeUnlink (unlinkSeqnum cmdSeqnum : UInt32) (s : PipeDevice Handler) :
    Grows s (s.onPipeUnlink unlinkSeqnum cmdSeqnum) := by
  rcases s.onPipeUnlink_eq unlinkSeqnum cmdSeqnum with
    ⟨id, channel, unlinks, hunlink⟩ | ⟨outChannels, unlinks, hunlink⟩
  · rw [hunlink]
    have hmodify : Grows s (s.modifyStream id fun stream => { stream with channel }) := by
      apply grows_modifyStream
      intro stream
      rfl
    exact hmodify.trans (grows_same rfl rfl (List.Subset.refl _))
  · rw [hunlink]
    exact grows_same rfl rfl (List.Subset.refl _)

theorem grows_read (s : PipeDevice Handler) : Grows s s.read := by
  obtain ⟨outChannels, reads, replies, hread⟩ := s.read_eq
  rw [hread]
  exact grows_same rfl rfl (List.Subset.refl _)

/-- A call that comes into a channel comes into one that the map holds. -/
theorem grows_lookUp {index : Nat} {call : PipeWrite} (s : PipeDevice Handler) :
    Grows s (s.lookUp index call) := by
  unfold lookUp
  split
  next =>
    refine ⟨fun call' hmem id hinside => ?_, List.Subset.refl _⟩
    rcases List.mem_or_eq_of_mem_set hmem with hmem | rfl
    · exact Or.inl ⟨call', hmem, hinside⟩
    · obtain ⟨_, _, hpc, -⟩ := hinside
      cases hpc
  next =>
    obtain ⟨hgrows, hheld⟩ := grows_getInChannel call.ep s
    obtain ⟨⟨id, s'⟩, hget⟩ : ∃ found, found = s.getInChannel call.ep := ⟨_, rfl⟩
    rw [← hget] at hgrows hheld ⊢
    dsimp only at hgrows hheld ⊢
    split
    next entry hentry =>
      refine hgrows.trans ⟨fun call' hmem id' hinside => ?_, List.Subset.refl _⟩
      by_cases hid : id' = id
      · exact Or.inr (hid ▸ hheld)
      · rcases List.mem_or_eq_of_mem_set hmem with hmem | rfl
        · obtain ⟨index', c, hpc, hcall, hopen⟩ := hinside
          refine Or.inl ⟨call', hmem, index', c, hpc, ?_, hopen⟩
          unfold callAt at hcall ⊢
          dsimp only at hcall
          rwa [List.getElem?_set_ne (Ne.symm hid)] at hcall
        · obtain ⟨_, _, hpc, -⟩ := hinside
          cases hpc
          exact absurd rfl hid
    next => exact hgrows

section Steps

variable [DecidableEq Handler]

/-- A step of a call in the `write` of a channel concerns that call only, and it is not over
before the step. -/
theorem calls_of_streamStep {stream stream' : ByteStreamInChannel Handler} {index : Nat}
    {a : ByteStreamAction Handler}
    (ha : a = .fill index ∨ (∃ timedOut, a = .wake index timedOut) ∨ a = .sendPending index)
    (h : stream.step a = some stream') :
    ∃ call f, stream.calls[index]? = some call ∧ call.pc ≠ .returned ∧
      stream'.calls = stream.calls.modify index f := by
  cases hcall : stream.calls[index]? with
  | none =>
      rcases ha with rfl | ⟨timedOut, rfl⟩ | rfl
      all_goals simp [ByteStreamInChannel.step, hcall] at h
  | some call =>
      rcases ha with rfl | ⟨timedOut, rfl⟩ | rfl
      · obtain ⟨hpc, rfl⟩ := by simpa [ByteStreamInChannel.step, hcall] using h
        unfold ByteStreamInChannel.fill
        dsimp only
        split_ifs
        all_goals exact ⟨call, _, rfl, by simp [hpc], rfl⟩
      · obtain ⟨⟨hpc, -⟩, rfl⟩ := by simpa [ByteStreamInChannel.step, hcall] using h
        unfold ByteStreamInChannel.woken
        split_ifs
        all_goals exact ⟨call, _, rfl, by simp [hpc], rfl⟩
      · obtain ⟨hpc, rfl⟩ := by simpa [ByteStreamInChannel.step, hcall] using h
        exact ⟨call, _, rfl, by simp [hpc], rfl⟩

theorem stays_streamStep {id index : Nat} {a : ByteStreamAction Handler}
    (ha : a = .fill index ∨ (∃ timedOut, a = .wake index timedOut) ∨ a = .sendPending index)
    (h : s.streamStep id a = some t) :
    Stays s t ∧ t.writes = s.writes ∧ t.inChannels = s.inChannels := by
  unfold streamStep at h
  split at h
  next entry hentry =>
    obtain ⟨stream, hstep, rfl⟩ := Option.map_eq_some_iff.mp h
    obtain ⟨call, f, hcall, hopen, hcalls⟩ := calls_of_streamStep ha hstep
    refine ⟨fun id' index' c hc hopen' => ?_, rfl, rfl⟩
    unfold callAt at hc ⊢
    dsimp only at hc
    rcases eq_or_ne id id' with rfl | hne
    · have hlt := (List.getElem?_eq_some_iff.mp hentry).1
      rw [List.getElem?_set_self hlt, Option.bind_some, hcalls, List.getElem?_modify] at hc
      obtain ⟨c', hc', hafter⟩ := Option.map_eq_some_iff.mp hc
      refine ⟨c', by rw [hentry, Option.bind_some, hc'], ?_⟩
      split at hafter
      next heq =>
        subst heq
        obtain rfl := Option.some.inj (hcall.symm.trans hc')
        exact hopen
      next => exact hafter ▸ hopen'
    · rw [List.getElem?_set_ne hne] at hc
      exact ⟨c, hc, hopen'⟩
  next => cases h

theorem grows_streamStep {id index : Nat} {a : ByteStreamAction Handler}
    (ha : a = .fill index ∨ (∃ timedOut, a = .wake index timedOut) ∨ a = .sendPending index)
    (h : s.streamStep id a = some t) : Grows s t := by
  obtain ⟨hstays, hwrites, hchannels⟩ := stays_streamStep ha h
  exact grows_of_callAt hwrites hstays (by rw [hchannels]; exact List.Subset.refl _)

/-- Every step but one that clears the map lets it grow. -/
theorem grows_of_step {a : PipeAction Handler} (ha : a ≠ .clear ∧ a ≠ .onNewConnection)
    (h : s.step a = some t) : Grows s t := by
  cases a with
  | forwardTransfer ep seqnum length owner transfer =>
      obtain ⟨-, rfl⟩ := locked_eq_some h
      exact grows_forwardTransfer ep seqnum length owner transfer s
  | onPipeControlRequest setup seqnum length owner transfer =>
      obtain ⟨-, rfl⟩ := locked_eq_some h
      exact grows_onPipeControlRequest setup seqnum length owner transfer s
  | onPipeUnlink unlinkSeqnum cmdSeqnum =>
      obtain ⟨-, rfl⟩ := locked_eq_some h
      exact grows_onPipeUnlink unlinkSeqnum cmdSeqnum s
  | read =>
      obtain ⟨-, rfl⟩ := locked_eq_some h
      exact grows_read s
  | write ep data timeoutMs answers =>
      obtain rfl := by simpa [step] using h
      refine ⟨fun call hmem id hinside => ?_, List.Subset.refl _⟩
      rcases List.mem_append.mp hmem with hmem | hmem
      · exact Or.inl ⟨call, hmem, hinside⟩
      · rw [List.mem_singleton.mp hmem] at hinside
        obtain ⟨_, _, hpc, -⟩ := hinside
        cases hpc
  | lookUp index =>
      simp only [step] at h
      split at h
      next call hcall =>
        split at h
        next =>
          obtain ⟨-, rfl⟩ := locked_eq_some h
          exact grows_lookUp s
        next => cases h
      next => cases h
  | fill id call => exact grows_streamStep (Or.inl rfl) h
  | wake id call timedOut => exact grows_streamStep (Or.inr (Or.inl ⟨timedOut, rfl⟩)) h
  | sendPending id call => exact grows_streamStep (Or.inr (Or.inr rfl)) h
  | setInFifoCapacity capacity =>
      obtain ⟨-, rfl⟩ := locked_eq_some h
      exact grows_same rfl rfl (List.Subset.refl _)
  | onDisconnection =>
      obtain ⟨-, rfl⟩ := locked_eq_some h
      exact grows_same rfl rfl (List.Subset.refl _)
  | closeChannel =>
      simp only [step] at h
      split at h
      next id requests rest _ =>
        obtain rfl := Option.some.inj h
        have hmodify : Grows s (s.modifyStream id fun stream =>
            { stream with channel := if requests then stream.channel.disconnectRequests
                else stream.channel.disconnectBuffer ByteStreamInChannel.derived }) := by
          apply grows_modifyStream
          intro stream
          rfl
        exact hmodify.trans (grows_same rfl rfl (List.Subset.refl _))
      next => cases h
  | clear => exact absurd rfl ha.1
  | onNewConnection => exact absurd rfl ha.2
  | rehash inChannels outChannels =>
      simp only [step] at h
      split at h
      next hperm =>
        obtain ⟨-, rfl⟩ := locked_eq_some h
        exact grows_same rfl rfl (hperm.1.map Prod.snd).subset
      next => cases h

/-- Where the map is cleared, the channels that calls are in are gone. -/
theorem cleared_of_step {a : PipeAction Handler} (ha : a = .clear ∨ a = .onNewConnection)
    (h : s.step a = some t) :
    t.inChannels = [] ∧ t.writes = s.writes ∧ t.channels = s.channels := by
  rcases ha with rfl | rfl
  · simp only [step] at h
    split at h
    next =>
      obtain rfl := Option.some.inj h
      exact ⟨rfl, rfl, rfl⟩
    next => cases h
  · obtain ⟨-, rfl⟩ := locked_eq_some h
    exact ⟨rfl, rfl, rfl⟩

theorem alive_step_iff {a : PipeAction Handler} (hs : Alive s) (h : s.step a = some t) :
    Alive t ↔ Quiet s a := by
  by_cases ha : a = .clear ∨ a = .onNewConnection
  · obtain ⟨hnone, hwrites, hchannels⟩ := cleared_of_step ha h
    have hinside : ∀ call id, Inside t call id ↔ Inside s call id := fun call id => by
      unfold Inside callAt
      rw [hchannels]
    have halive : Alive t ↔ ∀ call ∈ s.writes, ∀ id, ¬ Inside s call id := by
      unfold Alive
      simp [hnone, hwrites, hinside]
    rw [halive]
    rcases ha with rfl | rfl
    · exact Iff.rfl
    · exact Iff.rfl
  · obtain ⟨hclear, hconnect⟩ := not_or.mp ha
    have hquiet : Quiet s a := by
      unfold Quiet
      split
      · exact absurd rfl hclear
      · exact absurd rfl hconnect
      · trivial
    exact iff_of_true ((grows_of_step ⟨hclear, hconnect⟩ h).alive hs) hquiet

/-- While a call of `on_disconnection` holds `pipe_mutex` no further call comes into a channel. -/
theorem inside_of_closing {a : PipeAction Handler} (hclosing : s.closing ≠ none)
    (h : s.step a = some t) {call : PipeWrite} (hmem : call ∈ t.writes) {id : Nat}
    (hinside : Inside t call id) : call ∈ s.writes ∧ Inside s call id := by
  have hfree : ∀ {u v : PipeDevice Handler}, s.locked u = some v → False := fun hlocked =>
    hclosing (locked_eq_some hlocked).1
  cases a with
  | write ep data timeoutMs answers =>
      obtain rfl := by simpa [step] using h
      rcases List.mem_append.mp hmem with hmem | hmem
      · exact ⟨hmem, hinside⟩
      · rw [List.mem_singleton.mp hmem] at hinside
        obtain ⟨_, _, hpc, -⟩ := hinside
        cases hpc
  | fill id call =>
      obtain ⟨hstays, hwrites, -⟩ := stays_streamStep (Or.inl rfl) h
      exact ⟨hwrites ▸ hmem, hstays.inside hinside⟩
  | wake id call timedOut =>
      obtain ⟨hstays, hwrites, -⟩ := stays_streamStep (Or.inr (Or.inl ⟨timedOut, rfl⟩)) h
      exact ⟨hwrites ▸ hmem, hstays.inside hinside⟩
  | sendPending id call =>
      obtain ⟨hstays, hwrites, -⟩ := stays_streamStep (Or.inr (Or.inr rfl)) h
      exact ⟨hwrites ▸ hmem, hstays.inside hinside⟩
  | closeChannel =>
      simp only [step] at h
      split at h
      next id' requests rest _ =>
        obtain rfl := Option.some.inj h
        have hstays : Stays s (s.modifyStream id' fun stream =>
            { stream with channel := if requests then stream.channel.disconnectRequests
                else stream.channel.disconnectBuffer ByteStreamInChannel.derived }) := by
          apply stays_modifyStream
          intro stream
          rfl
        exact ⟨hmem, hstays.inside hinside⟩
      next => cases h
  | clear =>
      obtain ⟨-, hwrites, hchannels⟩ := cleared_of_step (Or.inl rfl) h
      refine ⟨hwrites ▸ hmem, ?_⟩
      unfold Inside callAt at hinside ⊢
      rwa [hchannels] at hinside
  | lookUp index =>
      simp only [step] at h
      split at h
      next =>
        split at h
        next => exact (hfree h).elim
        next => cases h
      next => cases h
  | rehash inChannels outChannels =>
      simp only [step] at h
      split at h
      next => exact (hfree h).elim
      next => cases h
  | forwardTransfer | onPipeControlRequest | onPipeUnlink | read | setInFifoCapacity
  | onDisconnection | onNewConnection => exact (hfree h).elim

/-- No call is in a channel when `pipe_mutex` is taken for clearing the map. -/
def QuietAtLock (s : PipeDevice Handler) : PipeAction Handler → Prop
  | .onDisconnection | .onNewConnection => ∀ call ∈ s.writes, ∀ id, ¬ Inside s call id
  | _ => True

/-- Then none is in one when it is cleared. -/
theorem alive_of_quietAtLock (h : ReachableUnder system QuietAtLock s) : Alive s := by
  refine (h.invariant (I := fun s => Alive s ∧
    (s.closing ≠ none → ∀ call ∈ s.writes, ∀ id, ¬ Inside s call id)) ?_ ?_).1
  · rintro s rfl
    exact ⟨fun _ hmem => absurd hmem List.not_mem_nil, fun hclosing => absurd rfl hclosing⟩
  · rintro s a t ⟨halive, hnone⟩ hguard hstep
    have hquiet : Quiet s a := by
      cases a with
      | clear =>
          refine hnone fun hfree => ?_
          simp [system, step, hfree] at hstep
      | onNewConnection => exact hguard
      | _ => trivial
    refine ⟨(alive_step_iff halive hstep).mpr hquiet, fun hclosing call hmem id hinside => ?_⟩
    by_cases hbefore : s.closing = none
    · have ha : a = .onDisconnection := by
        by_contra hne
        exact hclosing (closing_of_step hbefore hne hstep)
      subst ha
      obtain ⟨-, rfl⟩ := locked_eq_some hstep
      exact hguard call hmem id hinside
    · obtain ⟨hmem', hinside'⟩ := inside_of_closing hbefore hstep hmem hinside
      exact hnone hbefore call hmem' id hinside'

/-- No channel goes while a call of `write` is in it, in any run in which every such call has
returned where the map is cleared; the first step at which one has not is the one that takes its
channel away.  A run in which none is in a channel when `on_disconnection` or `on_new_connection`
gets `pipe_mutex` is such a run. -/
theorem channels_alive :
    (∀ s : PipeDevice Handler, ReachableUnder system Quiet s → Alive s) ∧
      (∀ (s : PipeDevice Handler) (a : PipeAction Handler) (t : PipeDevice Handler),
        ReachableUnder system Quiet s → s.step a = some t → (Alive t ↔ Quiet s a)) ∧
      ∀ s : PipeDevice Handler, ReachableUnder system QuietAtLock s → Alive s := by
  have halive : ∀ s : PipeDevice Handler, ReachableUnder system Quiet s → Alive s := by
    intro s h
    refine h.invariant ?_ fun s a t hs hguard hstep => (alive_step_iff hs hstep).mpr hguard
    rintro s rfl
    exact fun _ hmem => absurd hmem List.not_mem_nil
  exact ⟨halive, fun s a t h hstep => alive_step_iff (halive s h) hstep,
    fun s h => alive_of_quietAtLock h⟩

end Steps

/-- A call to `write` stores the first of its two bytes and is blocked. -/
def blockedWriter : List (PipeAction Unit) :=
  [.write 0x81 [1, 2] 0 none, .lookUp 0, .fill 0 0, .sendPending 0 0, .fill 0 0]

/-- The disconnection wakes it, and it returns while `pipe_mutex` is still held. -/
def departedWriter : List (PipeAction Unit) :=
  [.onDisconnection, .closeChannel, .closeChannel, .wake 0 0 false]

theorem channels_alive_instance :
    ∃ s t : PipeDevice Unit, (∃ call ∈ s.writes, Inside s call 0) ∧ Alive s ∧
      system.run s (departedWriter ++ [.clear]) = some t ∧ t.inChannels = [] ∧ Alive t := by
  obtain ⟨s₀, s₁, h₀, h₁, hnone⟩ : ∃ s₀ s₁ : PipeDevice Unit,
      system.step create (.setInFifoCapacity 1) = some s₀ ∧
        system.step s₀ .onNewConnection = some s₁ ∧ s₀.writes = [] :=
    ⟨_, _, rfl, rfl, rfl⟩
  obtain ⟨s₂, s₃, s₄, h₂, h₃, h₄, hpc₂, hpc₃, hcall₂, hcall₃⟩ : ∃ s₂ s₃ s₄ : PipeDevice Unit,
      system.run s₁ blockedWriter = some s₂ ∧ system.run s₂ departedWriter = some s₃ ∧
        system.step s₃ .clear = some s₄ ∧ s₂.writes.map PipeWrite.pc = [.inChannel 0 0] ∧
        s₃.writes.map PipeWrite.pc = [.inChannel 0 0] ∧
        (callAt s₂ 0 0).map WriteCall.pc = some .waiting ∧
        (callAt s₃ 0 0).map WriteCall.pc = some .returned := by
    obtain rfl := Option.some.inj h₀
    obtain rfl := Option.some.inj h₁
    exact ⟨_, _, _, rfl, rfl, rfl, rfl, rfl, rfl, rfl⟩
  have hquiet₀ : Quiet s₀ .onNewConnection := fun call hmem => by
    rw [hnone] at hmem
    exact absurd hmem List.not_mem_nil
  have hreach₀ : ReachableUnder system Quiet s₀ :=
    .step (.initial rfl) (show Quiet create (.setInFifoCapacity 1) from trivial) h₀
  have hreach₁ : ReachableUnder system Quiet s₁ := hreach₀.step hquiet₀ h₁
  have hreach₂ : ReachableUnder system Quiet s₂ :=
    ReachableUnder.run _ (by simp [blockedWriter, Quiet]) hreach₁ h₂
  have hreach₃ : ReachableUnder system Quiet s₃ :=
    ReachableUnder.run _ (by simp [departedWriter, Quiet]) hreach₂ h₃
  have hquiet : Quiet s₃ .clear := by
    rintro call hmem id ⟨index, c, hpc, hcall, hopen⟩
    have hpcs := List.mem_map_of_mem (f := PipeWrite.pc) hmem
    rw [hpc₃, List.mem_singleton, hpc] at hpcs
    obtain ⟨rfl, rfl⟩ := by simpa using hpcs
    rw [hcall, Option.map_some, Option.some.injEq] at hcall₃
    exact hopen hcall₃
  obtain ⟨call, hmem, hpc⟩ : ∃ call ∈ s₂.writes, call.pc = .inChannel 0 0 :=
    List.mem_map.mp (by rw [hpc₂]; exact List.mem_cons_self)
  obtain ⟨c, hcall, hwaiting⟩ := Option.map_eq_some_iff.mp hcall₂
  exact ⟨s₂, s₄, ⟨call, hmem, 0, c, hpc, hcall, by rw [hwaiting]; decide⟩,
    channels_alive.1 s₂ hreach₂, System.run_concat.mpr ⟨s₃, h₃, h₄⟩,
    (cleared_of_step (Or.inl rfl) h₄).1,
    (channels_alive.2.1 s₃ .clear s₄ hreach₃ h₄).mpr hquiet⟩

/-- The disconnection clears the map before the thread has woken. -/
theorem channel_cleared_under_writer :
    ∃ s : PipeDevice Unit, Reachable system s ∧ ¬ Alive s := by
  obtain ⟨s, hrun, hwrites, hcall, hchannels⟩ :
      ∃ s, system.run create ([.setInFifoCapacity 1, .onNewConnection] ++ blockedWriter ++
          [.onDisconnection, .closeChannel, .closeChannel, .clear]) = some s ∧
        s.writes.map PipeWrite.pc = [.inChannel 0 0] ∧
        (callAt s 0 0).map WriteCall.pc = some .waiting ∧ s.inChannels = [] :=
    ⟨_, rfl, rfl, rfl, rfl⟩
  refine ⟨s, Reachable.run _ (.initial rfl) hrun, fun halive => ?_⟩
  obtain ⟨call, hmem, hpc⟩ : ∃ call ∈ s.writes, call.pc = .inChannel 0 0 :=
    List.mem_map.mp (by rw [hwrites]; exact List.mem_cons_self)
  obtain ⟨c, hc, hwaiting⟩ := Option.map_eq_some_iff.mp hcall
  have hheld := halive call hmem 0 ⟨0, c, hpc, hc, by rw [hwaiting]; decide⟩
  rw [hchannels] at hheld
  exact List.not_mem_nil hheld

end Usbipdcpp.VirtualDevice.PipeLifetime
