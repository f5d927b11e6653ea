import Usbipdcpp.VirtualDevice.ChannelRequests
import Usbipdcpp.VirtualDevice.PipeDevice

namespace Usbipdcpp.VirtualDevice.PipeStreams

open ChannelLedger ChannelRequests Foundation.KeyedList Foundation.TransitionSystem PipeDevice
open Protocol
open InEndpointChannelBase (trySendPendingLocked)

variable {Handler : Type} {s t u : PipeDevice Handler}

/-- A request comes to a channel. -/
def requestIn (ep : UInt8) (seqnum length : UInt32) (owner : Option Handler)
    (transfer : GenericTransfer) (stream : ByteStreamInChannel Handler) :
    ByteStreamInChannel Handler :=
  { stream with
    channel := stream.channel.onInRequest ByteStreamInChannel.derived ep seqnum length owner
      transfer [] }

/-- A critical section of a channel's `on_disconnection`. -/
def closed (requests : Bool) (stream : ByteStreamInChannel Handler) :
    ByteStreamInChannel Handler :=
  { stream with
    channel := if requests then stream.channel.disconnectRequests
      else stream.channel.disconnectBuffer ByteStreamInChannel.derived }

/-- The step of a channel that an action is, if it is one of the channel's `write`. -/
def streamAction : PipeAction Handler → Option (Nat × ByteStreamAction Handler)
  | .fill id call => some (id, .fill call)
  | .wake id call timedOut => some (id, .wake call timedOut)
  | .sendPending id call => some (id, .sendPending call)
  | _ => none

/-- The map knows the channels under the endpoints that they were made for. -/
def Keyed (s : PipeDevice Handler) : Prop :=
  ∀ entry ∈ s.inChannels, ∃ channel, s.channels[entry.2]? = some channel ∧ channel.ep = entry.1

/-- A channel as it is before a step, which may be the one that makes it. -/
def Before (s : PipeDevice Handler) (id : Nat) (channel : PipeChannel Handler) : Prop :=
  s.channels[id]? = some channel ∨
    s.channels.length ≤ id ∧ ∃ ep, channel = freshIn ep s.fifoCapacity

/-- An unlink finds a request in a channel, under a number. -/
structure Cancels (s : PipeDevice Handler) (unlinkSeqnum : UInt32) (id number : Nat)
    (channel : PipeChannel Handler)
    (left : InEndpointChannelBase Utils.ByteBuffer UInt8 Handler) : Prop where
  found : s.cancelIn unlinkSeqnum s.inChannels = some (id, number, left)
  held : s.channels[id]? = some channel
  cancel : channel.stream.channel.cancelPending unlinkSeqnum = (true, left)
  number_eq : number = (left.cancelled.getLast?.map (·.2)).getD 0

section Steps

variable [DecidableEq Handler]

/-- What an action does to the channel that has a number. -/
inductive Move (s : PipeDevice Handler) (id : Nat) (channel : PipeChannel Handler) :
    PipeAction Handler → PipeChannel Handler → Prop
  | same {a : PipeAction Handler} : Move s id channel a channel
  | requested {a : PipeAction Handler} (seqnum length : UInt32) (owner : Option Handler)
      (transfer : GenericTransfer) :
      Move s id channel a
        { channel with stream := requestIn channel.ep seqnum length owner transfer channel.stream }
  | cancelled {unlinkSeqnum cmdSeqnum : UInt32} {number : Nat}
      {left : InEndpointChannelBase Utils.ByteBuffer UInt8 Handler}
      (hcancels : Cancels s unlinkSeqnum id number channel left) :
      Move s id channel (.onPipeUnlink unlinkSeqnum cmdSeqnum)
        { channel with stream := { channel.stream with channel := left } }
  | written {index : Nat} {call : PipeWrite} (hcall : s.writes[index]? = some call)
      (hep : channel.ep = call.ep) :
      Move s id channel (.lookUp index)
        { channel with
          stream := channel.stream.write call.data call.timeoutMs
          answers := channel.answers ++ [s.answeredIn id call.answers] }
  | stepped {a : PipeAction Handler} {b : ByteStreamAction Handler}
      {stream : ByteStreamInChannel Handler} (ha : streamAction a = some (id, b))
      (hchannel : s.channels[id]? = some channel) (hstep : channel.stream.step b = some stream) :
      Move s id channel a { channel with stream }
  | closed {requests : Bool} {rest : PipeClosing}
      (hclosing : s.closing = some ((id, requests) :: rest))
      (hchannel : s.channels[id]? = some channel) :
      Move s id channel .closeChannel
        { channel with stream := closed requests channel.stream }

/-- What a step does to the channels. -/
structure Moved (s : PipeDevice Handler) (a : PipeAction Handler) (t : PipeDevice Handler) :
    Prop where
  each : ∀ id channel', t.channels[id]? = some channel' →
    ∃ channel, Before s id channel ∧ Move s id channel a channel'
  length : s.channels.length ≤ t.channels.length
  keyed : Keyed t

/-- A step that leaves the channels alone. -/
theorem moved_of_channels {a : PipeAction Handler} (hchannels : t.channels = s.channels)
    (hkeyed : ∀ entry ∈ t.inChannels, entry ∈ s.inChannels) (hs : Keyed s) : Moved s a t where
  each id channel' h := ⟨channel', Or.inl (hchannels ▸ h), .same⟩
  length := le_of_eq (congrArg _ hchannels.symm)
  keyed entry hmem := by
    rw [hchannels]
    exact hs entry (hkeyed entry hmem)

end Steps

/-- What `get_in_channel` gives: the channel of an endpoint, which may have been made. -/
structure Got (s : PipeDevice Handler) (ep : UInt8) (id : Nat) (u : PipeDevice Handler) :
    Prop where
  keyed : Keyed u
  found : ∃ channel, u.channels[id]? = some channel ∧ channel.ep = ep
  before : ∀ id' channel, u.channels[id']? = some channel → Before s id' channel
  length : s.channels.length ≤ u.channels.length
  writes : u.writes = s.writes
  arrived : u.arrived = s.arrived

theorem got_getInChannel (ep : UInt8) (hs : Keyed s) :
    Got s ep (s.getInChannel ep).1 (s.getInChannel ep).2 := by
  rcases getInChannel_cases ep s with ⟨id, hmem, hget⟩ | ⟨-, hget⟩
  · rw [hget]
    exact ⟨hs, hs (ep, id) hmem, fun _ _ h => Or.inl h, Nat.le_refl _, rfl, rfl⟩
  · rw [hget]
    have hlast : (s.channels ++ [freshIn ep s.fifoCapacity])[s.channels.length]? =
        some (freshIn ep s.fifoCapacity) := List.getElem?_concat_length
    refine ⟨fun entry hmem => ?_, ⟨_, hlast, rfl⟩, fun id channel h => ?_, by simp, rfl, rfl⟩
    · rcases List.mem_append.mp hmem with hmem | hmem
      · obtain ⟨channel, hchannel, hep⟩ := hs entry hmem
        refine ⟨channel, ?_, hep⟩
        dsimp only
        rw [List.getElem?_append_left (List.getElem?_eq_some_iff.mp hchannel).1, hchannel]
      · rw [List.mem_singleton.mp hmem]
        exact ⟨_, hlast, rfl⟩
    · dsimp only at h
      rw [List.getElem?_append] at h
      split at h
      next => exact Or.inl h
      next hge =>
        obtain ⟨-, rfl⟩ := by simpa [List.getElem?_singleton] using h
        exact Or.inr ⟨Nat.le_of_not_lt hge, ep, rfl⟩

theorem getElem?_modifyStream (id id' : Nat)
    (f : ByteStreamInChannel Handler → ByteStreamInChannel Handler) (s : PipeDevice Handler) :
    (s.modifyStream id f).channels[id']? =
      (s.channels[id']?).map fun channel =>
        if id = id' then { channel with stream := f channel.stream } else channel := by
  rw [modifyStream, List.getElem?_modify]
  cases s.channels[id']? with
  | none => rfl
  | some channel => simp only [Option.map_eq_map, Option.map_some]

theorem keyed_modifyStream (id : Nat)
    (f : ByteStreamInChannel Handler → ByteStreamInChannel Handler) (hs : Keyed s) :
    Keyed (s.modifyStream id f) := by
  intro entry hmem
  obtain ⟨channel, hchannel, hep⟩ := hs entry hmem
  rw [getElem?_modifyStream, hchannel]
  refine ⟨_, rfl, ?_⟩
  split
  · exact hep
  · exact hep

/-- The channels of two states are the same, under the same endpoints. -/
theorem Keyed.congr (hs : Keyed s) (hchannels : t.channels = s.channels)
    (hmaps : t.inChannels = s.inChannels) : Keyed t := by
  unfold Keyed
  rw [hchannels, hmaps]
  exact hs

theorem channels_onOutRequest (ep : UInt8) (seqnum : UInt32) (transfer : Option GenericTransfer)
    (setupReq : Option SetupPacket) (inRequest : Option (Nat × Nat)) (s : PipeDevice Handler) :
    (s.onOutRequest ep seqnum transfer setupReq inRequest).channels = s.channels ∧
      (s.onOutRequest ep seqnum transfer setupReq inRequest).inChannels = s.inChannels := by
  obtain ⟨_, _, _, hout⟩ := s.onOutRequest_eq ep seqnum transfer setupReq inRequest
  rw [hout]
  exact ⟨rfl, rfl⟩

section Steps

variable [DecidableEq Handler]

/-- Something happens in one channel, before which it may have been made. -/
theorem moved_modifyStream {a : PipeAction Handler} {ep : UInt8} {id : Nat}
    {f : ByteStreamInChannel Handler → ByteStreamInChannel Handler} (hgot : Got s ep id u)
    (hchannels : t.channels = (u.modifyStream id f).channels)
    (hmaps : t.inChannels = u.inChannels)
    (hmove : ∀ channel, u.channels[id]? = some channel → Before s id channel → channel.ep = ep →
      Move s id channel a { channel with stream := f channel.stream }) : Moved s a t where
  each id' channel' h := by
    rw [hchannels, getElem?_modifyStream] at h
    obtain ⟨channel, hchannel, rfl⟩ := Option.map_eq_some_iff.mp h
    have hbefore := hgot.before id' channel hchannel
    refine ⟨channel, hbefore, ?_⟩
    split
    next heq =>
      subst heq
      obtain ⟨channel', hchannel', hep⟩ := hgot.found
      obtain rfl := Option.some.inj (hchannel.symm.trans hchannel')
      exact hmove channel hchannel hbefore hep
    next => exact .same
  length := by
    rw [hchannels, modifyStream, List.length_modify]
    exact hgot.length
  keyed := (keyed_modifyStream id f hgot.keyed).congr hchannels hmaps

/-- One channel, which may have been made before, gives way to another state of it. -/
theorem moved_set {a : PipeAction Handler} {ep : UInt8} {id : Nat}
    {channel channel' : PipeChannel Handler} (hgot : Got s ep id u)
    (hchannel : u.channels[id]? = some channel)
    (hchannels : t.channels = u.channels.set id channel')
    (hmaps : t.inChannels = u.inChannels) (hep : channel'.ep = channel.ep)
    (hmove : Move s id channel a channel') : Moved s a t := by
  have hset : ∀ id', t.channels[id']? = if id = id' then some channel' else u.channels[id']? :=
    fun id' => by
      rw [hchannels, List.getElem?_set, if_pos (List.getElem?_eq_some_iff.mp hchannel).1]
  refine ⟨fun id' after h => ?_, ?_, fun entry hmem => ?_⟩
  · rw [hset] at h
    split at h
    next heq =>
      subst heq
      obtain rfl := Option.some.inj h
      exact ⟨channel, hgot.before id channel hchannel, hmove⟩
    next => exact ⟨after, hgot.before id' after h, .same⟩
  · rw [hchannels, List.length_set]
    exact hgot.length
  · rw [hmaps] at hmem
    obtain ⟨before, hbefore, hep'⟩ := hgot.keyed entry hmem
    rw [hset]
    split
    next heq =>
      rw [← heq] at hbefore
      obtain rfl := Option.some.inj (hchannel.symm.trans hbefore)
      exact ⟨channel', rfl, hep.trans hep'⟩
    next => exact ⟨before, hbefore, hep'⟩

theorem moved_onOutRequest {a : PipeAction Handler} {ep : UInt8} {seqnum : UInt32}
    {transfer : Option GenericTransfer} {setupReq : Option SetupPacket}
    {inRequest : Option (Nat × Nat)} (hs : Keyed s) :
    Moved s a (s.onOutRequest ep seqnum transfer setupReq inRequest) := by
  obtain ⟨hchannels, hmaps⟩ := channels_onOutRequest ep seqnum transfer setupReq inRequest s
  exact moved_of_channels hchannels (fun entry hmem => hmaps ▸ hmem) hs

theorem moved_forwardTransfer {a : PipeAction Handler} {ep : UInt8} {seqnum length : UInt32}
    {owner : Option Handler} {transfer : GenericTransfer} (hs : Keyed s) :
    Moved s a (s.forwardTransfer ep seqnum length owner transfer) := by
  unfold forwardTransfer
  split
  next =>
    refine moved_modifyStream (got_getInChannel ep hs) rfl rfl fun channel _ _ hep => ?_
    subst hep
    exact .requested seqnum length owner transfer
  next => exact moved_onOutRequest hs

theorem moved_onPipeControlRequest {a : PipeAction Handler} {setup : SetupPacket}
    {seqnum length : UInt32} {owner : Option Handler} {transfer : GenericTransfer} (hs : Keyed s) :
    Moved s a (s.onPipeControlRequest setup seqnum length owner transfer) := by
  unfold onPipeControlRequest
  split
  next => exact moved_onOutRequest hs
  next =>
    refine moved_modifyStream (got_getInChannel 0 hs)
      (f := requestIn 0 seqnum length owner transfer) ?_ ?_ fun channel _ _ hep => ?_
    · exact (channels_onOutRequest 0 seqnum none _ _ _).1
    · exact (channels_onOutRequest 0 seqnum none _ _ _).2
    · rw [← hep]
      exact .requested seqnum length owner transfer

omit [DecidableEq Handler] in
theorem cancelIn_eq_some {unlinkSeqnum : UInt32} {id number : Nat}
    {left : InEndpointChannelBase Utils.ByteBuffer UInt8 Handler} {entries : List (UInt8 × Nat)}
    (h : s.cancelIn unlinkSeqnum entries = some (id, number, left)) :
    (∃ ep, (ep, id) ∈ entries) ∧ ∃ channel, s.channels[id]? = some channel ∧
      channel.stream.channel.cancelPending unlinkSeqnum = (true, left) ∧
      number = (left.cancelled.getLast?.map (·.2)).getD 0 := by
  induction entries with
  | nil => cases h
  | cons entry entries ih =>
      obtain ⟨ep, id'⟩ := entry
      have hrest : s.cancelIn unlinkSeqnum entries = some (id, number, left) →
          (∃ ep', (ep', id) ∈ (ep, id') :: entries) ∧ _ := fun hrest =>
        ⟨(ih hrest).1.imp fun _ hmem => List.mem_cons_of_mem _ hmem, (ih hrest).2⟩
      unfold cancelIn at h
      split at h
      next channel hchannel =>
        split at h
        next left' hcancel =>
          obtain ⟨rfl, rfl, rfl⟩ := by simpa using h
          exact ⟨⟨ep, List.mem_cons_self⟩, channel, hchannel, hcancel, rfl⟩
        next => exact hrest h
      next => exact hrest h

theorem moved_onPipeUnlink {unlinkSeqnum cmdSeqnum : UInt32} (hs : Keyed s) :
    Moved s (.onPipeUnlink unlinkSeqnum cmdSeqnum) (s.onPipeUnlink unlinkSeqnum cmdSeqnum) := by
  unfold onPipeUnlink
  split
  next id number left hfound =>
    obtain ⟨⟨ep, hmem⟩, channel, hchannel, hcancel, hnumber⟩ := cancelIn_eq_some hfound
    have hgot : Got s ep id s :=
      ⟨hs, hs _ hmem, fun _ _ h => Or.inl h, Nat.le_refl _, rfl, rfl⟩
    refine moved_modifyStream hgot (f := fun stream => { stream with channel := left }) rfl rfl
      fun channel' hchannel' _ _ => ?_
    obtain rfl := Option.some.inj (hchannel.symm.trans hchannel')
    exact .cancelled ⟨hfound, hchannel, hcancel, hnumber⟩
  next =>
    split
    · exact moved_of_channels rfl (fun _ hmem => hmem) hs
    · exact moved_of_channels rfl (fun _ hmem => hmem) hs

theorem moved_lookUp {index : Nat} {call : PipeWrite} (hs : Keyed s)
    (hcall : s.writes[index]? = some call) : Moved s (.lookUp index) (s.lookUp index call) := by
  unfold lookUp
  split
  next => exact moved_of_channels rfl (fun _ hmem => hmem) hs
  next =>
    have hgot := got_getInChannel call.ep hs
    obtain ⟨⟨id, u⟩, hget⟩ : ∃ found, found = s.getInChannel call.ep := ⟨_, rfl⟩
    rw [← hget] at hgot ⊢
    dsimp only at hgot ⊢
    obtain ⟨channel, hchannel, hep⟩ := hgot.found
    have hanswered : u.answeredIn id call.answers = s.answeredIn id call.answers := by
      unfold answeredIn
      rw [hgot.arrived]
    rw [hchannel]
    dsimp only
    rw [hanswered]
    exact moved_set hgot hchannel rfl rfl rfl (.written hcall hep)

theorem moved_streamStep {a : PipeAction Handler} {id : Nat} {b : ByteStreamAction Handler}
    (hs : Keyed s) (ha : streamAction a = some (id, b)) (h : s.streamStep id b = some t) :
    Moved s a t := by
  unfold streamStep at h
  split at h
  next channel hchannel =>
    obtain ⟨stream, hstep, rfl⟩ := Option.map_eq_some_iff.mp h
    have hgot : Got s channel.ep id s :=
      ⟨hs, ⟨channel, hchannel, rfl⟩, fun _ _ h => Or.inl h, Nat.le_refl _, rfl, rfl⟩
    exact moved_set hgot hchannel rfl rfl rfl (.stepped ha hchannel hstep)
  next => cases h

theorem moved_closeChannel {id : Nat} {requests : Bool} {rest : PipeClosing} (hs : Keyed s)
    (hclosing : s.closing = some ((id, requests) :: rest)) :
    Moved s .closeChannel (s.closeChannel id requests rest) where
  each id' channel' h := by
    change (s.modifyStream id (closed requests)).channels[id']? = some channel' at h
    rw [getElem?_modifyStream] at h
    obtain ⟨channel, hchannel, rfl⟩ := Option.map_eq_some_iff.mp h
    refine ⟨channel, Or.inl hchannel, ?_⟩
    split
    next heq =>
      subst heq
      exact .closed hclosing hchannel
    next => exact .same
  length := by
    rw [closeChannel, modifyStream, List.length_modify]
  keyed := (keyed_modifyStream id (closed requests) hs).congr rfl rfl

theorem moved_of_step {a : PipeAction Handler} (hs : Keyed s) (h : s.step a = some t) :
    Moved s a t := by
  cases a with
  | forwardTransfer ep seqnum length owner transfer =>
      obtain ⟨-, rfl⟩ := locked_eq_some h
      exact moved_forwardTransfer hs
  | onPipeControlRequest setup seqnum length owner transfer =>
      obtain ⟨-, rfl⟩ := locked_eq_some h
      exact moved_onPipeControlRequest hs
  | onPipeUnlink unlinkSeqnum cmdSeqnum =>
      obtain ⟨-, rfl⟩ := locked_eq_some h
      exact moved_onPipeUnlink hs
  | read =>
      obtain ⟨-, rfl⟩ := locked_eq_some h
      obtain ⟨_, _, _, hread⟩ := s.read_eq
      rw [hread]
      exact moved_of_channels rfl (fun _ hmem => hmem) hs
  | write ep data timeoutMs answers =>
      obtain rfl := by simpa [step] using h
      exact moved_of_channels rfl (fun _ hmem => hmem) hs
  | lookUp index =>
      simp only [step] at h
      split at h
      next call hcall =>
        split at h
        next =>
          obtain ⟨-, rfl⟩ := locked_eq_some h
          exact moved_lookUp hs hcall
        next => cases h
      next => cases h
  | fill id call => exact moved_streamStep hs rfl h
  | wake id call timedOut => exact moved_streamStep hs rfl h
  | sendPending id call => exact moved_streamStep hs rfl h
  | setInFifoCapacity capacity =>
      obtain ⟨-, rfl⟩ := locked_eq_some h
      exact moved_of_channels rfl (fun _ hmem => hmem) hs
  | onDisconnection =>
      obtain ⟨-, rfl⟩ := locked_eq_some h
      exact moved_of_channels rfl (fun _ hmem => hmem) hs
  | closeChannel =>
      simp only [step] at h
      split at h
      next id requests rest hclosing =>
        obtain rfl := Option.some.inj h
        exact moved_closeChannel hs hclosing
      next => cases h
  | clear =>
      simp only [step] at h
      split at h
      next =>
        obtain rfl := Option.some.inj h
        exact moved_of_channels rfl (fun _ hmem => absurd hmem List.not_mem_nil) hs
      next => cases h
  | onNewConnection =>
      obtain ⟨-, rfl⟩ := locked_eq_some h
      exact moved_of_channels rfl (fun _ hmem => absurd hmem List.not_mem_nil) hs
  | rehash inChannels outChannels =>
      simp only [step] at h
      split at h
      next hperm =>
        obtain ⟨-, rfl⟩ := locked_eq_some h
        exact moved_of_channels rfl (fun _ hmem => hperm.1.mem_iff.mpr hmem) hs
      next => cases h

theorem keyed_of_reachable {G : PipeDevice Handler → PipeAction Handler → Prop}
    (h : ReachableUnder system G s) : Keyed s := by
  refine h.invariant ?_ ?_
  · rintro s rfl
    exact fun _ hmem => absurd hmem List.not_mem_nil
  · intro s a t hs _ hstep
    exact (moved_of_step hs hstep).keyed

/-- What holds of a channel when it is made and what every move of it keeps holds of all
channels. -/
theorem channels_invariant {G : PipeDevice Handler → PipeAction Handler → Prop}
    {P : Nat → PipeChannel Handler → Prop}
    (hfresh : ∀ id ep capacity, P id (freshIn ep capacity))
    (hmove : ∀ s a id channel channel', ReachableUnder system G s → G s a → P id channel →
      Move s id channel a channel' → P id channel')
    (h : ReachableUnder system G s) {id : Nat} {channel : PipeChannel Handler}
    (hchannel : s.channels[id]? = some channel) : P id channel := by
  suffices hall : ∀ id channel, s.channels[id]? = some channel → P id channel from
    hall id channel hchannel
  clear hchannel
  induction h with
  | initial hinit =>
      subst hinit
      intro id channel hchannel
      simp [create] at hchannel
  | step hreach hguard hstep ih =>
      intro id channel' hchannel'
      obtain ⟨channel, hbefore, hmoved⟩ :=
        (moved_of_step (keyed_of_reachable hreach) hstep).each id channel' hchannel'
      refine hmove _ _ id channel channel' hreach hguard ?_ hmoved
      rcases hbefore with hchannel | ⟨-, ep, rfl⟩
      · exact ih id channel hchannel
      · exact hfresh id ep _

/-- The books of every channel are in order. -/
theorem booked_of_move {a : PipeAction Handler} {id : Nat} {channel channel' : PipeChannel Handler}
    (hchannel : Booked channel.stream.channel) (hmove : Move s id channel a channel') :
    Booked channel'.stream.channel := by
  cases hmove with
  | same => exact hchannel
  | requested seqnum length owner transfer => exact booked_onInRequest hchannel
  | @cancelled unlinkSeqnum _ _ left hcancels =>
      have hleft := @booked_cancelPending _ _ _ _ unlinkSeqnum hchannel
      rwa [hcancels.cancel] at hleft
  | written => exact hchannel
  | stepped _ _ hstep => exact booked_byteStreamStep hchannel hstep
  | @closed requests _ _ _ =>
      cases requests with
      | false => exact ⟨hchannel.distinct, hchannel.accounted, hchannel.parked, hchannel.answered⟩
      | true => exact booked_disconnectRequests hchannel

theorem booked_of_reachable {G : PipeDevice Handler → PipeAction Handler → Prop}
    (h : ReachableUnder system G s) {id : Nat} {channel : PipeChannel Handler}
    (hchannel : s.channels[id]? = some channel) : Booked channel.stream.channel := by
  refine channels_invariant (P := fun _ channel => Booked channel.stream.channel) ?_ ?_ h hchannel
  · intro id ep capacity
    exact booked_onNewConnection (booked_create _)
  · intro s a id channel channel' _ _ hbooked hmove
    exact booked_of_move hbooked hmove

/-- What a step of a `write` does to its channel: requests may be answered, and then bytes put
behind the others. -/
theorem channel_of_streamStep {stream stream' : ByteStreamInChannel Handler} {id : Nat}
    {a : PipeAction Handler} {b : ByteStreamAction Handler} (ha : streamAction a = some (id, b))
    (hstep : stream.step b = some stream') :
    ∃ channel, (channel = stream.channel ∨
        channel = trySendPendingLocked ByteStreamInChannel.derived stream.channel) ∧
      (stream'.channel = channel ∨
        ∃ index bytes buffer, stream'.channel = channel.put index bytes buffer) := by
  have hpipe : b ≠ .base .onNewConnection ∧ (∀ c, b ≠ .base c) ∧ (∀ n, b ≠ .setCapacity n) ∧
      ∀ data, b ≠ .writeNb data := by
    cases a <;> simp [streamAction] at ha
    all_goals
      obtain ⟨-, rfl⟩ := ha
      simp
  cases ByteStreamInChannel.effect_of_step hstep with
  | base => exact absurd rfl (hpipe.2.1 _)
  | connected => exact absurd rfl hpipe.1
  | resized => exact absurd rfl (hpipe.2.2.1 _)
  | written => exact absurd rfl (hpipe.2.2.2 _)
  | opened => exact ⟨_, Or.inl rfl, Or.inl rfl⟩
  | moved hcall hopen hpc hchannel => exact ⟨_, hchannel, Or.inl rfl⟩
  | stored hcall hopen hconnected hchannel => exact ⟨_, hchannel, Or.inr ⟨_, _, _, rfl⟩⟩
  | sent => exact ⟨_, Or.inr rfl, Or.inl rfl⟩

theorem accepted_of_streamStep {stream stream' : ByteStreamInChannel Handler} {id : Nat}
    {a : PipeAction Handler} {b : ByteStreamAction Handler} (ha : streamAction a = some (id, b))
    (hstep : stream.step b = some stream') :
    stream'.channel.accepted = stream.channel.accepted := by
  obtain ⟨channel, hchannel, hafter⟩ := channel_of_streamStep ha hstep
  have hsame : channel.accepted = stream.channel.accepted := by
    rcases hchannel with rfl | rfl
    · rfl
    · exact accepted_trySendPendingLocked _
  rcases hafter with hafter | ⟨_, _, _, hafter⟩
  · rw [hafter, hsame]
  · rw [hafter]
    exact hsame

/-- A channel keeps the numbers of its requests. -/
theorem accepted_of_move {a : PipeAction Handler} {id : Nat}
    {channel channel' : PipeChannel Handler} (hmove : Move s id channel a channel') :
    channel.stream.channel.accepted <+: channel'.stream.channel.accepted := by
  cases hmove with
  | same => exact List.prefix_rfl
  | requested seqnum length owner transfer =>
      rw [requestIn, accepted_onInRequest]
      exact List.prefix_append _ _
  | @cancelled unlinkSeqnum _ _ left hcancels =>
      have hleft : (channel.stream.channel.cancelPending unlinkSeqnum).2.accepted =
          channel.stream.channel.accepted := by
        rw [InEndpointChannelBase.cancelPending]
        split
        · rfl
        · rfl
      rw [hcancels.cancel] at hleft
      exact hleft ▸ List.prefix_rfl
  | written => exact List.prefix_rfl
  | stepped ha _ hstep =>
      have hsame := accepted_of_streamStep ha hstep
      exact hsame ▸ List.prefix_rfl
  | @closed requests _ _ _ =>
      cases requests with
      | false => exact List.prefix_rfl
      | true => exact List.prefix_rfl

theorem nextNumber_of_step {a : PipeAction Handler} (hs : Keyed s) (h : s.step a = some t)
    (id : Nat) : s.nextNumber id ≤ t.nextNumber id := by
  obtain ⟨heach, hlength, -⟩ := moved_of_step hs h
  cases hchannel : s.channels[id]? with
  | none => simp [nextNumber, hchannel]
  | some channel =>
      have hlt := (List.getElem?_eq_some_iff.mp hchannel).1
      obtain ⟨channel', hchannel'⟩ : ∃ channel', t.channels[id]? = some channel' :=
        ⟨_, List.getElem?_eq_getElem (hlt.trans_le hlength)⟩
      obtain ⟨before, hbefore, hmove⟩ := heach id channel' hchannel'
      rcases hbefore with hbefore | ⟨hge, -⟩
      · obtain rfl := Option.some.inj (hchannel.symm.trans hbefore)
        simp only [nextNumber, hchannel, hchannel']
        exact (accepted_of_move hmove).length_le
      · exact absurd hlt (Nat.not_lt_of_le hge)

omit [DecidableEq Handler] in
/-- What an unlink finds in a channel is a request that the channel has accepted. -/
theorem lt_nextNumber_of_cancelIn {unlinkSeqnum : UInt32} {id number : Nat}
    {left : InEndpointChannelBase Utils.ByteBuffer UInt8 Handler}
    (hbooked : ∀ (id : Nat) (channel : PipeChannel Handler), s.channels[id]? = some channel →
      Booked channel.stream.channel)
    (h : s.cancelIn unlinkSeqnum s.inChannels = some (id, number, left)) :
    number < s.nextNumber id := by
  obtain ⟨-, channel, hchannel, hcancel, hnumber⟩ := cancelIn_eq_some h
  have hs := hbooked id channel hchannel
  rcases @cancelPending_cases _ _ _ channel.stream.channel unlinkSeqnum hs.distinct with
    ⟨ep, request, rest, before, after, heq, -, hwithout⟩ | ⟨heq, -⟩
  · rw [hcancel] at heq
    obtain ⟨-, rfl⟩ := Prod.mk.inj heq
    obtain rfl : number = request.number := by simpa using hnumber
    simp only [nextNumber, hchannel]
    exact (List.getElem?_eq_some_iff.mp (hs.parked ep request hwithout.mem)).1
  · rw [hcancel] at heq
    cases heq

end Steps

end Usbipdcpp.VirtualDevice.PipeStreams
