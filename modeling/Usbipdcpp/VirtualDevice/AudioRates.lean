import Mathlib.Data.List.Pairwise
import Usbipdcpp.Foundation.Latch
import Usbipdcpp.VirtualDevice.AudioControl

namespace Usbipdcpp.VirtualDevice.Uac

open Foundation.ByteStream Foundation.Latch Protocol

variable {Handler Stream : Type}

namespace SampleRates

theorem eraseDups_sublist (rates : List UInt32) : rates.eraseDups.Sublist rates := by
  induction hn : rates.length using Nat.strong_induction_on generalizing rates with
  | _ n ih =>
      cases rates with
      | nil => exact .slnil
      | cons rate rates =>
          rw [List.eraseDups_cons]
          have hshort : (rates.filter fun other => !other == rate).length < n :=
            lt_of_le_of_lt (List.length_filter_le _ _) (by simp [← hn])
          exact ((ih _ hshort _ rfl).trans List.filter_sublist).cons_cons rate

variable (rates : SampleRates)

theorem nearest_spec (rate : UInt32) :
    rates.nearest rate ∈ rates.val ∧ ∀ other ∈ rates.val,
      (((rates.nearest rate).toNat : Int) - rate.toNat).natAbs ≤
        ((other.toNat : Int) - rate.toNat).natAbs := by
  have hnearest : rates.nearest rate ∈
      rates.val.argmin fun a => ((a.toNat : Int) - rate.toNat).natAbs :=
    Option.get_mem _
  refine ⟨List.argmin_mem hnearest, fun other hother => ?_⟩
  exact List.le_of_mem_argmin (f := fun a : UInt32 => ((a.toNat : Int) - rate.toNat).natAbs) hother
    hnearest

/-- Of rates in order the first is the least and the last the greatest. -/
theorem bounds_of_sorted (hsorted : rates.val.Pairwise (· ≤ ·)) {rate : UInt32}
    (hrate : rate ∈ rates.val) : rates.first ≤ rate ∧ rate ≤ rates.last := by
  refine ⟨?_, hsorted.rel_getLast hrate⟩
  obtain ⟨rates, hne⟩ := rates
  cases rates with
  | nil => exact absurd rfl hne
  | cons first rest =>
      rcases List.mem_cons.mp hrate with rfl | hrest
      · exact UInt32.le_refl _
      · exact (List.pairwise_cons.mp hsorted).1 rate hrest

end SampleRates

namespace AudioStream

theorem sorted_sortedRates (stream : AudioStream) : stream.sortedRates.Pairwise (· ≤ ·) := by
  have htrans (a b c : UInt32) (hab : decide (a ≤ b)) (hbc : decide (b ≤ c)) :
      decide (a ≤ c) :=
    decide_eq_true (UInt32.le_trans (of_decide_eq_true hab) (of_decide_eq_true hbc))
  have htotal (a b : UInt32) : decide (a ≤ b) || decide (b ≤ a) := by
    simpa using UInt32.le_total a b
  exact (List.pairwise_mergeSort htrans htotal _).imp of_decide_eq_true

end AudioStream

/-- The functions that every audio source and every audio sink has. -/
structure AudioStreamApi (Stream : Type) where
  supportedFormats : Stream → List AudioFormatInfo
  currentFormat : Stream → AudioFormatInfo
  setFormat : UInt16 → UInt8 → UInt32 → Stream → Option Stream

/-- A stream is always set to a format of its list, and takes each one of them. -/
structure AudioStreamApi.Lawful (api : AudioStreamApi Stream) : Prop where
  current_mem : ∀ stream, api.currentFormat stream ∈ api.supportedFormats stream
  setFormat : ∀ stream rate,
    { api.currentFormat stream with sampleRate := rate } ∈ api.supportedFormats stream →
      ∃ stream', api.setFormat (api.currentFormat stream).channels
          (api.currentFormat stream).bitsPerSample rate stream = some stream' ∧
        api.currentFormat stream' = { api.currentFormat stream with sampleRate := rate } ∧
        api.supportedFormats stream' = api.supportedFormats stream

/-- A microphone or a loudspeaker. -/
inductive AudioDirection where
  | source
  | sink
  deriving DecidableEq, Repr

/-- The streaming interface of a stream in one of the directions. -/
def AudioDirection.handler (direction : AudioDirection) (classDesc : List UInt8)
    (stream : AudioStream) : UacAudioStreamingHandler :=
  match direction with
  | .source => uacAudioStreamingSourceHandler classDesc stream
  | .sink => uacAudioStreamingSinkHandler classDesc stream

/-- A request about the sampling rate, to the interface or to its endpoint. -/
inductive RateRequest (Handler : Type) where
  | interface (urb : ControlUrb Handler)
  | endpoint (urb : ControlUrb Handler)
  deriving DecidableEq, Repr

namespace RateRequest

def urb : RateRequest Handler → ControlUrb Handler
  | .interface urb | .endpoint urb => urb

/-- The request gets to `handle_sampling_freq_control`. -/
def Addressed : RateRequest Handler → Prop
  | .interface urb => urb.IsClass ∧ urb.entity = 0 ∧ urb.controlSelector = asSamplingFreqControl
  | .endpoint urb => urb.controlSelector = asSamplingFreqControl

instance (request : RateRequest Handler) : Decidable request.Addressed := by
  cases request <;> unfold Addressed <;> infer_instance

/-- The rate that a request asks for. -/
def asked (request : RateRequest Handler) : Option UInt32 :=
  if request.Addressed ∧ request.urb.setup.request = ClassRequest.setCur ∧
      3 ≤ request.urb.trx.data.length then
    some (.ofNat (leField 3 0 request.urb.trx.data))
  else none

def reply (h : UacAudioStreamingHandler) : RateRequest Handler → UsbIpRetSubmit Handler
  | .interface urb => h.handleNonStandardRequestTypeControlUrb urb
  | .endpoint urb => h.handleNonStandardRequestTypeControlUrbToEndpoint urb

theorem reply_of_addressed (h : UacAudioStreamingHandler) {request : RateRequest Handler}
    (haddressed : request.Addressed)
    (hrequest : request.urb.setup.request ≠ StandardRequest.getDescriptor) :
    request.reply h =
      (h.handleSamplingFreqControl request.urb).getD request.urb.stall := by
  cases request with
  | interface urb =>
      obtain ⟨hclass, hentity, hselector⟩ := haddressed
      have hdescriptor : urb.setup.request ≠ StandardRequest.getDescriptor := hrequest
      have hself : ¬ (urb.entity ≠ 0 ∨ urb.controlSelector ≠ asSamplingFreqControl) := by
        simp [hentity, hselector]
      rw [reply, UacAudioStreamingHandler.handleNonStandardRequestTypeControlUrb,
        ControlUrb.classRequest, if_neg (not_not_intro hclass), if_neg hdescriptor, if_neg hself]
      rfl
  | endpoint urb =>
      have hselector : urb.controlSelector = asSamplingFreqControl := haddressed
      rw [reply, UacAudioStreamingHandler.handleNonStandardRequestTypeControlUrbToEndpoint,
        if_neg (not_not_intro hselector)]
      rfl

end RateRequest

namespace AudioStreamApi

variable {api : AudioStreamApi Stream}

/-- The stream as one request finds it. -/
def Lawful.view (hapi : api.Lawful) (stream : Stream) : AudioStream where
  supportedFormats := api.supportedFormats stream
  currentFormat := api.currentFormat stream
  setFormat channels bitsPerSample rate :=
    (api.setFormat channels bitsPerSample rate stream).isSome
  current_mem := hapi.current_mem stream

variable (hapi : api.Lawful) (direction : AudioDirection) (classDesc : List UInt8)

/-- The stream behind a request: it takes the rate that is nearest to the one asked for. -/
def Lawful.step (stream : Stream) (request : RateRequest Handler) : Stream :=
  let fmt := api.currentFormat stream
  request.asked.elim stream fun rate =>
    (api.setFormat fmt.channels fmt.bitsPerSample
      ((direction.handler classDesc (hapi.view stream)).rates.nearest rate) stream).getD stream

def Lawful.run (stream : Stream) (requests : List (RateRequest Handler)) : Stream :=
  requests.foldl (hapi.step direction classDesc) stream

/-- The rates that the interface of a stream offers. -/
def Lawful.rates (stream : Stream) : SampleRates :=
  (direction.handler classDesc (hapi.view stream)).rates

theorem Lawful.sorted_rates (stream : Stream) :
    (hapi.rates direction classDesc stream).val.Pairwise (· ≤ ·) := by
  cases direction with
  | source => exact (hapi.view stream).sorted_sortedRates.sublist (SampleRates.eraseDups_sublist _)
  | sink => exact (hapi.view stream).sorted_sortedRates

/-- The rates are those of the formats that the stream could be set to. -/
theorem Lawful.mem_rates_iff (stream : Stream) (rate : UInt32) :
    rate ∈ (hapi.rates direction classDesc stream).val ↔
      { api.currentFormat stream with sampleRate := rate } ∈ api.supportedFormats stream := by
  have hsorted : rate ∈ (hapi.view stream).sortedRates ↔
      { api.currentFormat stream with sampleRate := rate } ∈ api.supportedFormats stream := by
    unfold AudioStream.sortedRates
    rw [List.mem_mergeSort, List.mem_map]
    constructor
    · rintro ⟨fmt, hfmt, rfl⟩
      obtain ⟨hmem, hsame⟩ := List.mem_filter.mp hfmt
      obtain ⟨hchannels, hbits⟩ := of_decide_eq_true hsame
      have heq : { api.currentFormat stream with sampleRate := fmt.sampleRate } = fmt := by
        cases fmt
        exact AudioFormatInfo.mk.injEq .. |>.mpr ⟨hchannels.symm, hbits.symm, rfl⟩
      exact heq ▸ hmem
    · intro hmem
      exact ⟨_, List.mem_filter.mpr ⟨hmem, decide_eq_true ⟨rfl, rfl⟩⟩, rfl⟩
  cases direction with
  | source => exact List.mem_eraseDups.trans hsorted
  | sink => exact hsorted

/-- Streams of the same formats, which are set to the same channels and bits, offer the same. -/
theorem Lawful.rates_congr {stream stream' : Stream} {rate : UInt32}
    (hformats : api.supportedFormats stream' = api.supportedFormats stream)
    (hcurrent : api.currentFormat stream' =
      { api.currentFormat stream with sampleRate := rate }) :
    hapi.rates direction classDesc stream' = hapi.rates direction classDesc stream := by
  have hsorted : (hapi.view stream').sortedRates = (hapi.view stream).sortedRates := by
    unfold AudioStream.sortedRates Lawful.view
    dsimp only
    rw [hformats, hcurrent]
  refine Subtype.ext ?_
  cases direction with
  | source => exact congrArg List.eraseDups hsorted
  | sink => exact hsorted

/-- A request changes the rate alone, to the nearest one of those that are offered. -/
theorem Lawful.step_spec (stream : Stream) (request : RateRequest Handler) :
    let stream' := hapi.step direction classDesc stream request
    api.supportedFormats stream' = api.supportedFormats stream ∧
      api.currentFormat stream' =
        { api.currentFormat stream with
          sampleRate := (request.asked.map (hapi.rates direction classDesc stream).nearest).getD
            (api.currentFormat stream).sampleRate } := by
  intro stream'
  cases hasked : request.asked with
  | none =>
      have hsame : stream' = stream := by
        change request.asked.elim stream _ = stream
        rw [hasked]
        rfl
      rw [hsame]
      exact ⟨rfl, rfl⟩
  | some rate =>
      have hoffered := ((hapi.rates direction classDesc stream).nearest_spec rate).1
      obtain ⟨taken, htaken, hcurrent, hformats⟩ :=
        hapi.setFormat stream _ ((hapi.mem_rates_iff direction classDesc stream _).mp hoffered)
      have htakes : stream' = taken := by
        change request.asked.elim stream _ = taken
        rw [hasked]
        exact congrArg (Option.getD · stream) htaken
      rw [htakes]
      exact ⟨hformats, hcurrent⟩

theorem Lawful.run_concat (stream : Stream) (requests : List (RateRequest Handler))
    (request : RateRequest Handler) :
    hapi.run direction classDesc stream (requests ++ [request]) =
      hapi.step direction classDesc (hapi.run direction classDesc stream requests) request := by
  rw [Lawful.run, List.foldl_append]
  rfl

theorem Lawful.run_spec (stream : Stream) (requests : List (RateRequest Handler)) :
    let stream' := hapi.run direction classDesc stream requests
    api.supportedFormats stream' = api.supportedFormats stream ∧
      api.currentFormat stream' =
        { api.currentFormat stream with
          sampleRate := ((lastOf RateRequest.asked requests).map
            (hapi.rates direction classDesc stream).nearest).getD
              (api.currentFormat stream).sampleRate } := by
  induction requests using List.reverseRecOn with
  | nil => exact ⟨rfl, rfl⟩
  | append_singleton requests request ih =>
      obtain ⟨hformats, hcurrent⟩ := ih
      obtain ⟨hformats', hcurrent'⟩ := hapi.step_spec direction classDesc
        (hapi.run direction classDesc stream requests) request
      rw [hapi.rates_congr direction classDesc hformats hcurrent] at hcurrent'
      dsimp only
      rw [hapi.run_concat, lastOf_concat]
      refine ⟨hformats'.trans hformats, hcurrent'.trans ?_⟩
      rw [hcurrent]
      cases request.asked <;> rfl

/-- After any requests the host reads the offered rate that is nearest to the one that it asked for
last, which lies between the least and the greatest one that it can read. -/
theorem sampling_rate_settled (stream : Stream) (requests : List (RateRequest Handler))
    {request : RateRequest Handler} (haddressed : request.Addressed) :
    let rates := hapi.rates direction classDesc stream
    let handler := direction.handler classDesc
      (hapi.view (hapi.run direction classDesc stream requests))
    ∃ rate ∈ rates.val,
      (request.urb.setup.request = ClassRequest.getCur →
        request.reply handler = request.urb.replyData (rateBytes rate)) ∧
      (request.urb.setup.request = ClassRequest.getMin →
        request.reply handler = request.urb.replyData (rateBytes rates.first)) ∧
      (request.urb.setup.request = ClassRequest.getMax →
        request.reply handler = request.urb.replyData (rateBytes rates.last)) ∧
      rates.first ≤ rate ∧ rate ≤ rates.last ∧
      (lastOf RateRequest.asked requests = none → rate = (api.currentFormat stream).sampleRate) ∧
      ∀ asked, lastOf RateRequest.asked requests = some asked → ∀ other ∈ rates.val,
        ((rate.toNat : Int) - asked.toNat).natAbs ≤ ((other.toNat : Int) - asked.toNat).natAbs := by
  intro rates handler
  obtain ⟨hformats, hcurrent⟩ := hapi.run_spec direction classDesc stream requests
  have hrates : handler.rates = rates := hapi.rates_congr direction classDesc hformats hcurrent
  have hmem : (api.currentFormat (hapi.run direction classDesc stream requests)).sampleRate ∈
      rates.val := by
    rw [hapi.mem_rates_iff, ← hformats]
    have hsame : { api.currentFormat stream with
        sampleRate := (api.currentFormat
          (hapi.run direction classDesc stream requests)).sampleRate } =
        api.currentFormat (hapi.run direction classDesc stream requests) := by
      rw [hcurrent]
    rw [hsame]
    exact hapi.current_mem _
  have hstream : handler.stream = hapi.view (hapi.run direction classDesc stream requests) := by
    cases direction <;> rfl
  have hreply (code : UInt8) (hcode : code ≠ StandardRequest.getDescriptor)
      (hrequest : request.urb.setup.request = code) :
      request.reply handler =
        (handler.handleSamplingFreqControl request.urb).getD request.urb.stall :=
    RateRequest.reply_of_addressed handler haddressed (hrequest ▸ hcode)
  obtain ⟨hfirst, hlast⟩ :=
    rates.bounds_of_sorted (hapi.sorted_rates direction classDesc stream) hmem
  refine ⟨_, hmem, fun hcur => ?_, fun hmin => ?_, fun hmax => ?_, hfirst, hlast, fun hnone => ?_,
    fun asked hasked other hother => ?_⟩
  · rw [hreply _ (by decide) hcur, UacAudioStreamingHandler.handleSamplingFreqControl,
      if_pos hcur, hstream]
    rfl
  · rw [hreply _ (by decide) hmin, UacAudioStreamingHandler.handleSamplingFreqControl, hmin,
      if_neg (by decide), if_pos rfl, hrates]
    rfl
  · rw [hreply _ (by decide) hmax, UacAudioStreamingHandler.handleSamplingFreqControl, hmax,
      if_neg (by decide), if_neg (by decide), if_pos rfl, hrates]
    rfl
  · rw [hcurrent, hnone]
    rfl
  · rw [hcurrent, hasked]
    exact (rates.nearest_spec asked).2 other hother

end AudioStreamApi

/-- A sine wave of one or two channels of 16 bits. -/
structure SineWaveSource where
  sampleRates : List UInt32
  channels : UInt16
  sampleRate : UInt32
  listed : sampleRate ∈ sampleRates
  hearable : channels = 1 ∨ channels = 2

namespace SineWaveSource

def setFormat (newChannels : UInt16) (bitsPerSample : UInt8) (newSampleRate : UInt32)
    (source : SineWaveSource) : Option SineWaveSource :=
  if hformat : bitsPerSample = 16 ∧ (newChannels = 1 ∨ newChannels = 2) ∧
      newSampleRate ∈ source.sampleRates then
    some ⟨source.sampleRates, newChannels, newSampleRate, hformat.2.2, hformat.2.1⟩
  else none

def api : AudioStreamApi SineWaveSource where
  supportedFormats source := source.sampleRates.map fun rate => ⟨source.channels, 16, rate⟩
  currentFormat source := ⟨source.channels, 16, source.sampleRate⟩
  setFormat := setFormat

theorem lawful_api : api.Lawful where
  current_mem source := List.mem_map_of_mem source.listed
  setFormat source rate hlisted := by
    obtain ⟨rate', hrate, heq⟩ := List.mem_map.mp hlisted
    obtain rfl : rate' = rate := congrArg AudioFormatInfo.sampleRate heq
    refine ⟨⟨source.sampleRates, source.channels, rate', hrate, source.hearable⟩, ?_, rfl, rfl⟩
    exact dif_pos ⟨rfl, source.hearable, hrate⟩

/-- A source of two rates. -/
def twoRates : SineWaveSource where
  sampleRates := [48000, 44100]
  channels := 2
  sampleRate := 48000
  listed := by decide
  hearable := .inr rfl

end SineWaveSource

def rateUrb (requestType request : UInt8) (data : List UInt8) : ControlUrb Nat where
  seqnum := 9
  transferBufferLength := 3
  setup := ⟨requestType, request, 0x0100, 0x81, 3⟩
  owner := none
  trx := ⟨data, [], 0, 0, requestType &&& 0x80 ≠ 0⟩

theorem sampling_rate_settled_instance :
    ∃ rate ∈ (SineWaveSource.lawful_api.rates .source [] SineWaveSource.twoRates).val,
      ((rate.toNat : Int) - 44000).natAbs ≤ ((44100 : Int) - 44000).natAbs := by
  obtain ⟨rate, hrate, -, -, -, -, -, -, hnearest⟩ :=
    AudioStreamApi.sampling_rate_settled SineWaveSource.lawful_api .source []
      SineWaveSource.twoRates
      [.endpoint (rateUrb 0x22 ClassRequest.setCur (leBytesOfNat 3 44000))]
      (show (RateRequest.endpoint (rateUrb 0xA2 ClassRequest.getCur (List.replicate 3 0))).Addressed
        from rfl)
  have hoffered := (SineWaveSource.lawful_api.mem_rates_iff .source [] SineWaveSource.twoRates
    44100).mpr (by decide)
  exact ⟨rate, hrate, hnearest 44000 rfl 44100 hoffered⟩

end Usbipdcpp.VirtualDevice.Uac
