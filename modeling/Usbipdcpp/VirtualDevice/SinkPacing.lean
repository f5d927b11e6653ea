import Mathlib.Tactic.Linarith
import Mathlib.Tactic.Ring
import Usbipdcpp.Foundation.TransitionSystem
import Usbipdcpp.VirtualDevice.AudioControl

namespace Usbipdcpp.VirtualDevice

open Foundation.TransitionSystem Uac

/-- A division as the program does it: towards zero, and none at all by zero. -/
def quotient (dividend divisor : Int) : Option Int :=
  if divisor = 0 then none else some (dividend.tdiv divisor)

/-- The bytes of a frame: a sample for each channel. -/
def frameBytes (fmt : AudioFormatInfo) : Int :=
  ((fmt.bitsPerSample.toNat / 8 : Nat) : Int) * fmt.channels.toNat

/-- What a speaker keeps to follow the rate of its host.  Bytes and microseconds are counted in 64
bits, which they do not exhaust. -/
structure SinkPacing where
  pacingDeltaUs : Int
  urbStatCount : Nat
  urbStatBytes : Nat
  urbStatLastBytes : Int
  urbStatLastTimeUs : Int
  deriving DecidableEq, Repr

namespace SinkPacing

def onNewConnection (_ : SinkPacing) : SinkPacing where
  pacingDeltaUs := 0
  urbStatCount := 0
  urbStatBytes := 0
  urbStatLastBytes := 0
  urbStatLastTimeUs := 0

/-- The correction that a window leads to. -/
def correctDelta (fmt : AudioFormatInfo) (bytesDelta timeDelta pacingDeltaUs : Int) : Option Int :=
  if timeDelta > 0 ∧ frameBytes fmt > 0 then do
    let bytesPerSecond ← quotient (bytesDelta * 1000000) timeDelta
    let rHz ← quotient bytesPerSecond (frameBytes fmt)
    let correction ← quotient ((rHz - fmt.sampleRate.toNat) * 50) 1000
    pure (max (-600) (min (pacingDeltaUs + correction) 600))
  else pure pacingDeltaUs

/-- What `process_iso_out` does behind its loop over the packets; `none` is a division by zero. -/
def updatePacing (fmt : AudioFormatInfo) (totalReceived : UInt32) (nowUs : Int)
    (s : SinkPacing) : Option SinkPacing :=
  let s := { s with
    urbStatCount := s.urbStatCount + 1
    urbStatBytes := s.urbStatBytes + totalReceived.toNat }
  if s.urbStatCount ≥ 100 then do
    let pacingDeltaUs ← correctDelta fmt (s.urbStatBytes - s.urbStatLastBytes)
      (nowUs - s.urbStatLastTimeUs) s.pacingDeltaUs
    pure { s with
      pacingDeltaUs
      urbStatCount := 0
      urbStatLastBytes := s.urbStatBytes
      urbStatLastTimeUs := nowUs }
  else pure s

/-- The correction, which comes out whatever the window holds. -/
def deltaAfter (fmt : AudioFormatInfo) (bytesDelta timeDelta pacingDeltaUs : Int) : Int :=
  if timeDelta > 0 ∧ frameBytes fmt > 0 then
    let rHz := ((bytesDelta * 1000000).tdiv timeDelta).tdiv (frameBytes fmt)
    max (-600) (min (pacingDeltaUs + ((rHz - fmt.sampleRate.toNat) * 50).tdiv 1000) 600)
  else pacingDeltaUs

theorem correctDelta_eq (fmt : AudioFormatInfo) (bytesDelta timeDelta pacingDeltaUs : Int) :
    correctDelta fmt bytesDelta timeDelta pacingDeltaUs =
      some (deltaAfter fmt bytesDelta timeDelta pacingDeltaUs) := by
  unfold correctDelta deltaAfter
  by_cases hmeasured : timeDelta > 0 ∧ frameBytes fmt > 0
  · have hdivisors : timeDelta ≠ 0 ∧ frameBytes fmt ≠ 0 :=
      ⟨hmeasured.1.ne', hmeasured.2.ne'⟩
    rw [if_pos hmeasured, if_pos hmeasured]
    simp only [quotient, hdivisors.1, hdivisors.2, if_false]
    rfl
  · rw [if_neg hmeasured, if_neg hmeasured]
    rfl

theorem updatePacing_counting {fmt : AudioFormatInfo} {totalReceived : UInt32} {nowUs : Int}
    {s : SinkPacing} (hcount : s.urbStatCount < 99) :
    s.updatePacing fmt totalReceived nowUs =
      some { s with
        urbStatCount := s.urbStatCount + 1
        urbStatBytes := s.urbStatBytes + totalReceived.toNat } := by
  have hopen : ¬s.urbStatCount + 1 ≥ 100 := by omega
  unfold updatePacing
  exact if_neg hopen

theorem updatePacing_window {fmt : AudioFormatInfo} {totalReceived : UInt32} {nowUs : Int}
    {s : SinkPacing} (hcount : ¬s.urbStatCount < 99) :
    s.updatePacing fmt totalReceived nowUs =
      some
        { pacingDeltaUs := deltaAfter fmt
            ((s.urbStatBytes + totalReceived.toNat : Nat) - s.urbStatLastBytes)
            (nowUs - s.urbStatLastTimeUs) s.pacingDeltaUs
          urbStatCount := 0
          urbStatBytes := s.urbStatBytes + totalReceived.toNat
          urbStatLastBytes := (s.urbStatBytes + totalReceived.toNat : Nat)
          urbStatLastTimeUs := nowUs } := by
  have hfull : s.urbStatCount + 1 ≥ 100 := by omega
  unfold updatePacing
  dsimp only
  rw [if_pos hfull, correctDelta_eq]
  rfl

theorem deltaAfter_mem {fmt : AudioFormatInfo} {bytesDelta timeDelta pacingDeltaUs : Int}
    (h : -600 ≤ pacingDeltaUs ∧ pacingDeltaUs ≤ 600) :
    -600 ≤ deltaAfter fmt bytesDelta timeDelta pacingDeltaUs ∧
      deltaAfter fmt bytesDelta timeDelta pacingDeltaUs ≤ 600 := by
  unfold deltaAfter
  split
  · exact ⟨le_max_left _ _, max_le (by decide) (min_le_right _ _)⟩
  · exact h

/-- A correction is none where the rates are less than 20 samples a second apart. -/
theorem clamp_eq_zero_iff (difference : Int) :
    max (-600) (min (0 + (difference * 50).tdiv 1000) 600) = 0 ↔
      -20 < difference ∧ difference < 20 := by
  rw [Int.tdiv_eq_ediv]
  split
  · omega
  · have hsign : (1000 : Int).sign = 1 := rfl
    rw [hsign]
    omega

/-- What the quotients make of a window at the nominal rate whose start is taken to be
`startError` microseconds before the real one. -/
theorem measuredRate_eq {rate frame bytesDelta startError timeDelta : Int}
    (hbytes : 0 ≤ bytesDelta) (htime : 0 < timeDelta) (hframe : 0 < frame)
    (hnominal : bytesDelta * 1000000 = rate * frame * (timeDelta - startError)) :
    ((bytesDelta * 1000000).tdiv timeDelta).tdiv frame =
      rate + -(rate * startError) / timeDelta := by
  have hproduct : 0 ≤ bytesDelta * 1000000 := by omega
  have hfactor : rate * frame * (timeDelta - startError) =
      (-(rate * startError) + rate * timeDelta) * frame := by
    ring
  rw [Int.tdiv_eq_ediv_of_nonneg hproduct,
    Int.tdiv_eq_ediv_of_nonneg (Int.ediv_nonneg hproduct htime.le),
    Int.ediv_ediv_of_nonneg htime.le, hnominal, hfactor, Int.mul_ediv_mul_of_pos_left _ _ hframe,
    Int.add_mul_ediv_right _ _ htime.ne', Int.add_comm]

/-- At the nominal rate there is nothing to correct as long as the window is measured from near
its start. -/
theorem deltaAfter_eq_zero_iff {fmt : AudioFormatInfo} {bytesDelta startError timeDelta : Int}
    (hbytes : 0 ≤ bytesDelta)
    (hnominal : bytesDelta * 1000000 =
      fmt.sampleRate.toNat * frameBytes fmt * (timeDelta - startError)) :
    deltaAfter fmt bytesDelta timeDelta 0 = 0 ↔
      (0 < timeDelta → 0 < frameBytes fmt →
        -(20 * timeDelta) < fmt.sampleRate.toNat * startError ∧
          fmt.sampleRate.toNat * startError ≤ 19 * timeDelta) := by
  unfold deltaAfter
  by_cases hmeasured : timeDelta > 0 ∧ frameBytes fmt > 0
  · obtain ⟨htime, hframe⟩ := hmeasured
    rw [if_pos ⟨htime, hframe⟩, measuredRate_eq hbytes htime hframe hnominal]
    dsimp only
    rw [clamp_eq_zero_iff, forall_prop_of_true htime, forall_prop_of_true hframe,
      add_sub_cancel_left]
    have hlow : -20 < -((fmt.sampleRate.toNat : Int) * startError) / timeDelta ↔
        -19 * timeDelta ≤ -((fmt.sampleRate.toNat : Int) * startError) :=
      Int.le_ediv_iff_mul_le htime
    have hhigh : -((fmt.sampleRate.toNat : Int) * startError) / timeDelta < 20 ↔
        -((fmt.sampleRate.toNat : Int) * startError) < 20 * timeDelta :=
      Int.ediv_lt_iff_lt_mul htime
    rw [hlow, hhigh]
    constructor
    · rintro ⟨hbelow, habove⟩
      constructor <;> linarith
    · rintro ⟨hbelow, habove⟩
      constructor <;> linarith
  · rw [if_neg hmeasured]
    exact iff_of_true rfl fun htime hframe => absurd ⟨htime, hframe⟩ hmeasured

end SinkPacing

/-- What concerns the pacing of a speaker: a connection, and a transfer that is served; the times
are points on the steady clock. -/
inductive SinkEvent where
  | newConnection (nowUs : Int)
  | processIsoOut (fmt : AudioFormatInfo) (totalReceived : UInt32) (nowUs : Int)
  deriving DecidableEq, Repr

/-- The pacing in a connection, with the windows that have ended, and when the current one began
and how many bytes have come in it. -/
structure SinkRun where
  pacing : SinkPacing
  windows : Nat
  windowStart : Int
  windowBytes : Nat
  deriving DecidableEq, Repr

namespace SinkRun

def connected (pacing : SinkPacing) (nowUs : Int) : SinkRun where
  pacing := pacing.onNewConnection
  windows := 0
  windowStart := nowUs
  windowBytes := 0

def step (s : SinkRun) : SinkEvent → Option SinkRun
  | .newConnection nowUs => some (connected s.pacing nowUs)
  | .processIsoOut fmt totalReceived nowUs =>
      (s.pacing.updatePacing fmt totalReceived nowUs).map fun pacing =>
        if s.pacing.urbStatCount < 99 then
          { s with pacing, windowBytes := s.windowBytes + totalReceived.toNat }
        else ⟨pacing, s.windows + 1, nowUs, 0⟩

def system : System SinkRun SinkEvent where
  initial s := ∃ pacing nowUs, s = connected pacing nowUs
  step := step

/-- The transfer that ends a window brings it to as many bytes as its format has in its time. -/
def Nominal (s : SinkRun) : SinkEvent → Prop
  | .processIsoOut fmt totalReceived nowUs =>
      s.pacing.urbStatCount < 99 ∨
        ((s.windowBytes + totalReceived.toNat : Nat) : Int) * 1000000 =
          fmt.sampleRate.toNat * frameBytes fmt * (nowUs - s.windowStart)
  | .newConnection _ => True

instance (s : SinkRun) (event : SinkEvent) : Decidable (s.Nominal event) :=
  match event with
  | .processIsoOut _ _ _ => inferInstanceAs (Decidable (_ ∨ _))
  | .newConnection _ => inferInstanceAs (Decidable True)

/-- The runs in which the host keeps to the nominal rate. -/
def nominalSystem : System SinkRun SinkEvent where
  initial := system.initial
  step s event := if s.Nominal event then s.step event else none

/-- The first window of a connection ends so late, against the clock reading at which it began,
that it may as well have begun with the clock. -/
def FirstWindowExact (s : SinkRun) : SinkEvent → Prop
  | .processIsoOut fmt _ nowUs =>
      s.windows = 0 → ¬s.pacing.urbStatCount < 99 → 0 < nowUs → 0 < frameBytes fmt →
        -(20 * nowUs) < fmt.sampleRate.toNat * s.windowStart ∧
          fmt.sampleRate.toNat * s.windowStart ≤ 19 * nowUs
  | .newConnection _ => True

/-- The counters tell the bytes of the window, and the last reading its start from the second
window on. -/
structure Tracks (s : SinkRun) : Prop where
  bytes : (s.pacing.urbStatBytes : Int) - s.pacing.urbStatLastBytes = s.windowBytes
  first : s.windows = 0 → s.pacing.urbStatLastTimeUs = 0
  later : s.windows ≠ 0 → s.pacing.urbStatLastTimeUs = s.windowStart

theorem tracks_connected (pacing : SinkPacing) (nowUs : Int) : (connected pacing nowUs).Tracks where
  bytes := rfl
  first _ := rfl
  later h := absurd rfl h

theorem step_counting {s : SinkRun} {fmt : AudioFormatInfo} {totalReceived : UInt32} {nowUs : Int}
    (hcount : s.pacing.urbStatCount < 99) :
    s.step (.processIsoOut fmt totalReceived nowUs) =
      some { s with
        pacing := { s.pacing with
          urbStatCount := s.pacing.urbStatCount + 1
          urbStatBytes := s.pacing.urbStatBytes + totalReceived.toNat }
        windowBytes := s.windowBytes + totalReceived.toNat } := by
  rw [step, SinkPacing.updatePacing_counting hcount, Option.map_some, if_pos hcount]

theorem step_window {s : SinkRun} {fmt : AudioFormatInfo} {totalReceived : UInt32} {nowUs : Int}
    (htracks : s.Tracks) (hcount : ¬s.pacing.urbStatCount < 99) :
    s.step (.processIsoOut fmt totalReceived nowUs) =
      some
        { pacing :=
            { pacingDeltaUs := SinkPacing.deltaAfter fmt
                (s.windowBytes + totalReceived.toNat : Nat)
                (nowUs - s.pacing.urbStatLastTimeUs) s.pacing.pacingDeltaUs
              urbStatCount := 0
              urbStatBytes := s.pacing.urbStatBytes + totalReceived.toNat
              urbStatLastBytes := (s.pacing.urbStatBytes + totalReceived.toNat : Nat)
              urbStatLastTimeUs := nowUs }
          windows := s.windows + 1
          windowStart := nowUs
          windowBytes := 0 } := by
  have hbytes : ((s.pacing.urbStatBytes + totalReceived.toNat : Nat) : Int) -
      s.pacing.urbStatLastBytes = (s.windowBytes + totalReceived.toNat : Nat) := by
    have := htracks.bytes
    omega
  rw [step, SinkPacing.updatePacing_window hcount, Option.map_some, if_neg hcount, hbytes]

theorem Tracks.step {s t : SinkRun} {event : SinkEvent} (h : s.Tracks)
    (hstep : s.step event = some t) : t.Tracks := by
  cases event with
  | newConnection nowUs =>
      cases hstep
      exact tracks_connected _ _
  | processIsoOut fmt totalReceived nowUs =>
      by_cases hcount : s.pacing.urbStatCount < 99
      · rw [step_counting hcount] at hstep
        cases hstep
        refine ⟨?_, h.first, h.later⟩
        have hbytes := h.bytes
        dsimp only
        omega
      · rw [step_window h hcount] at hstep
        cases hstep
        exact ⟨Int.sub_self _, fun hnone => absurd hnone (Nat.succ_ne_zero _), fun _ => rfl⟩

theorem nominalSystem_step {s t : SinkRun} {event : SinkEvent}
    (hstep : nominalSystem.step s event = some t) : s.Nominal event ∧ s.step event = some t := by
  simp only [nominalSystem] at hstep
  split at hstep
  next hnominal => exact ⟨hnominal, hstep⟩
  next => cases hstep

/-- At the nominal rate a step leaves no correction if and only if it does not end a first window
that is measured from the beginning of the clock. -/
theorem uncorrected_iff {s t : SinkRun} {event : SinkEvent} (htracks : s.Tracks)
    (huncorrected : s.pacing.pacingDeltaUs = 0) (hstep : nominalSystem.step s event = some t) :
    t.pacing.pacingDeltaUs = 0 ↔ s.FirstWindowExact event := by
  obtain ⟨hnominal, hstep⟩ := nominalSystem_step hstep
  cases event with
  | newConnection nowUs =>
      cases hstep
      exact iff_of_true rfl trivial
  | processIsoOut fmt totalReceived nowUs =>
      by_cases hcount : s.pacing.urbStatCount < 99
      · rw [step_counting hcount] at hstep
        cases hstep
        exact iff_of_true huncorrected fun _ hended => absurd hcount hended
      · rw [step_window htracks hcount] at hstep
        cases hstep
        have hrate := hnominal.resolve_left hcount
        have herror : nowUs - s.windowStart = nowUs - s.pacing.urbStatLastTimeUs -
            (s.windowStart - s.pacing.urbStatLastTimeUs) := by
          omega
        rw [herror] at hrate
        dsimp only
        rw [huncorrected, SinkPacing.deltaAfter_eq_zero_iff (Int.natCast_nonneg _) hrate]
        by_cases hfirst : s.windows = 0
        · rw [htracks.first hfirst, Int.sub_zero, Int.sub_zero]
          exact ⟨fun hsettled _ _ => hsettled, fun hsettled => hsettled hfirst hcount⟩
        · refine iff_of_true (fun htime _ => ?_) fun hnone => absurd hnone hfirst
          rw [← htracks.later hfirst, Int.sub_self, Int.mul_zero]
          omega

theorem pacing_mem_reachable {s : SinkRun} (h : Reachable system s) :
    s.Tracks ∧ -600 ≤ s.pacing.pacingDeltaUs ∧ s.pacing.pacingDeltaUs ≤ 600 := by
  have hlow : (-600 : Int) ≤ 0 := by decide
  have hhigh : (0 : Int) ≤ 600 := by decide
  refine Reachable.invariant (I := fun s => s.Tracks ∧ -600 ≤ s.pacing.pacingDeltaUs ∧
    s.pacing.pacingDeltaUs ≤ 600) ?_ ?_ h
  · rintro s ⟨pacing, nowUs, rfl⟩
    exact ⟨tracks_connected _ _, hlow, hhigh⟩
  · rintro s event t ⟨htracks, hrange⟩ hstep
    refine ⟨htracks.step hstep, ?_⟩
    cases event with
    | newConnection nowUs =>
        cases hstep
        exact ⟨hlow, hhigh⟩
    | processIsoOut fmt totalReceived nowUs =>
        by_cases hcount : s.pacing.urbStatCount < 99
        · have hstep := (step_counting hcount).symm.trans hstep
          cases hstep
          exact hrange
        · have hstep := (step_window htracks hcount).symm.trans hstep
          cases hstep
          exact SinkPacing.deltaAfter_mem hrange

/-- A speaker does not correct the pace of a host that keeps to the nominal rate if and only if
the first window of every connection is as good as measured from the beginning of the clock; and
whatever the host does, the correction keeps to its bounds and nothing is divided by zero. -/
theorem pacing_settled_iff {pacing : SinkPacing} {nowUs : Int} {events : List SinkEvent}
    {t : SinkRun} (hrun : nominalSystem.run (connected pacing nowUs) events = some t) :
    ((∀ before after s, events = before ++ after →
        nominalSystem.run (connected pacing nowUs) before = some s →
          s.pacing.pacingDeltaUs = 0) ↔
      nominalSystem.Meets FirstWindowExact (connected pacing nowUs) events) ∧
    ∀ s, Reachable system s → -600 ≤ s.pacing.pacingDeltaUs ∧ s.pacing.pacingDeltaUs ≤ 600 ∧
      ∀ event, (system.step s event).isSome := by
  constructor
  · exact System.forall_prefix_iff_meets (I := Tracks) (P := fun s => s.pacing.pacingDeltaUs = 0)
      (fun s event t hs hstep => hs.step (nominalSystem_step hstep).2)
      (fun s event t hs huncorrected hstep => uncorrected_iff hs huncorrected hstep)
      (tracks_connected pacing nowUs) rfl hrun
  · intro s hreached
    obtain ⟨htracks, hlow, hhigh⟩ := pacing_mem_reachable hreached
    refine ⟨hlow, hhigh, fun event => ?_⟩
    cases event with
    | newConnection nowUs => rfl
    | processIsoOut fmt totalReceived nowUs =>
        by_cases hcount : s.pacing.urbStatCount < 99
        · exact Option.isSome_iff_exists.mpr ⟨_, step_counting hcount⟩
        · exact Option.isSome_iff_exists.mpr ⟨_, step_window htracks hcount⟩

/-- Ten milliseconds of audio with two channels of 16 bits at 48000 samples a second. -/
def tenMilliseconds (nowUs : Int) : SinkEvent :=
  .processIsoOut ⟨2, 16, 48000⟩ 1920 nowUs

def fresh : SinkPacing := ⟨0, 0, 0, 0, 0⟩

theorem pacing_settled_iff_counting :
    let run := nominalSystem.run (connected fresh 5000000)
    ((∀ before after s, [tenMilliseconds 5010000, tenMilliseconds 5020000] = before ++ after →
        run before = some s → s.pacing.pacingDeltaUs = 0) ↔
      nominalSystem.Meets FirstWindowExact (connected fresh 5000000)
        [tenMilliseconds 5010000, tenMilliseconds 5020000]) :=
  (pacing_settled_iff (t := ⟨⟨0, 2, 3840, 0, 0⟩, 0, 5000000, 3840⟩) rfl).1

/-- A second of audio that comes in a second, a second after the clock has begun. -/
theorem not_pacing_settled :
    ¬ ∀ (pacing : SinkPacing) (nowUs : Int) (events : List SinkEvent) (t : SinkRun),
      nominalSystem.run (connected pacing nowUs) events = some t → t.pacing.pacingDeltaUs = 0 := by
  intro hsettled
  exact absurd (hsettled fresh 1000000 (.replicate 100 (tenMilliseconds 2000000))
    ⟨⟨-600, 0, 192000, 192000, 2000000⟩, 1, 2000000, 0⟩ (by decide +kernel)) (by decide)

end SinkRun

end Usbipdcpp.VirtualDevice
