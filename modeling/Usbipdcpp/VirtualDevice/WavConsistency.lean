import Mathlib.Tactic.Ring
import Usbipdcpp.Foundation.TransitionSystem
import Usbipdcpp.VirtualDevice.WavFileSink

namespace Usbipdcpp.VirtualDevice

open Foundation.ByteStream Foundation.FileStream Foundation.TransitionSystem Uac

namespace WavFileSink

def u32le (n : Nat) : List UInt8 := leBytesOfNat 4 n

def u16le (n : Nat) : List UInt8 := leBytesOfNat 2 n

/-- What stands between the two lengths of a header. -/
def formatChunk (fmt : AudioFormatInfo) : List UInt8 :=
  ascii "WAVE" ++ ascii "fmt " ++ u32le 16 ++ u16le 1 ++ u16le fmt.channels.toNat ++
    u32le fmt.sampleRate.toNat ++ u32le (fmt.sampleRate * fmt.channels.toUInt32 * 2).toNat ++
    u16le (fmt.channels * 2).toNat ++ u16le fmt.bitsPerSample.toNat ++ ascii "data"

/-- The header of a PCM file. -/
def wavHeader (fmt : AudioFormatInfo) (riffSize dataSize : Nat) : List UInt8 :=
  ascii "RIFF" ++ (u32le riffSize ++ (formatChunk fmt ++ u32le dataSize))

@[simp] theorem length_u32le (n : Nat) : (u32le n).length = 4 := length_leBytesOfNat 4 n

@[simp] theorem length_u16le (n : Nat) : (u16le n).length = 2 := length_leBytesOfNat 2 n

theorem length_wavHeader (fmt : AudioFormatInfo) (riffSize dataSize : Nat) :
    (wavHeader fmt riffSize dataSize).length = 44 := rfl

theorem u32le_inj {m n : Nat} (hm : m < 4294967296) (hn : n < 4294967296) (h : u32le m = u32le n) :
    m = n := by
  have hfield := congrArg (leField 4 0) h
  have hread {k : Nat} (hk : k < 4294967296) : leField 4 0 (u32le k) = k := by
    have hk := @leField_leBytesOfNat 4 k hk []
    rwa [List.append_nil] at hk
  rwa [hread hm, hread hn] at hfield

theorem writeU32le_eq (file : OutStream UInt8) (value : UInt32) :
    writeU32le file value = file.write (u32le value.toNat) := by
  rw [writeU32le, shifts_eq_leBytesOfNat_four, u32le]

theorem writeU16le_eq (file : OutStream UInt8) (value : UInt16) :
    writeU16le file value = file.write (u16le value.toNat) := by
  rw [writeU16le, shifts_eq_leBytesOfNat_two, u16le]

/-- The file as it stands while it is recorded to. -/
def recordingFile (fmt : AudioFormatInfo) (dataSize : UInt32) (pcm : List UInt8) :
    OutStream UInt8 :=
  .standingAt (wavHeader fmt (36 + dataSize).toNat dataSize.toNat ++ pcm) (44 + pcm.length)

theorem updateHeader_standing {sink : WavFileSink} {fmt : AudioFormatInfo}
    {riffSize dataSize : Nat} {pcm : List UInt8}
    (h : sink.file = .standingAt (wavHeader fmt riffSize dataSize ++ pcm) (44 + pcm.length)) :
    sink.updateHeader = { sink with file := recordingFile fmt sink.dataSize pcm } := by
  have hriff := OutStream.write_standingAt_middle (ascii "RIFF") (u32le riffSize)
    (u32le (36 + sink.dataSize).toNat) (formatChunk fmt ++ (u32le dataSize ++ pcm)) rfl
  have hdata := OutStream.write_standingAt_middle
    (ascii "RIFF" ++ (u32le (36 + sink.dataSize).toNat ++ formatChunk fmt)) (u32le dataSize)
    (u32le sink.dataSize.toNat) pcm rfl
  have hbefore : wavHeader fmt riffSize dataSize ++ pcm =
      ascii "RIFF" ++ (u32le riffSize ++ (formatChunk fmt ++ (u32le dataSize ++ pcm))) := by
    simp only [wavHeader, List.append_assoc]
  have hbetween : ascii "RIFF" ++ (u32le (36 + sink.dataSize).toNat ++
      (formatChunk fmt ++ (u32le dataSize ++ pcm))) =
      (ascii "RIFF" ++ (u32le (36 + sink.dataSize).toNat ++ formatChunk fmt)) ++
        (u32le dataSize ++ pcm) := by
    simp only [List.append_assoc]
  have hafter : (ascii "RIFF" ++ (u32le (36 + sink.dataSize).toNat ++ formatChunk fmt)) ++
      (u32le sink.dataSize.toNat ++ pcm) =
      wavHeader fmt (36 + sink.dataSize).toNat sink.dataSize.toNat ++ pcm := by
    simp only [wavHeader, List.append_assoc]
  have hfour : (ascii "RIFF").length = 4 := rfl
  have hforty : (ascii "RIFF" ++ (u32le (36 + sink.dataSize).toNat ++
    formatChunk fmt)).length = 40 := rfl
  rw [hfour] at hriff
  rw [hforty] at hdata
  unfold updateHeader
  dsimp only
  rw [h, writeU32le_eq, writeU32le_eq, OutStream.tellp_standingAt, OutStream.seekp_standingAt,
    hbefore, hriff, OutStream.seekp_standingAt, hbetween, hdata, OutStream.seekp_standingAt, hafter]
  rfl

theorem openFile_succeeds {sink : WavFileSink} (h : sink.file.isOpen = false) :
    sink.openFile true = { sink with
      file := .standingAt (wavHeader sink.format 0 0) 44
      fileOpen := true } := by
  have hopened : sink.file.openTrunc true = .standingAt [] ([] : List UInt8).length :=
    if_pos ⟨h, rfl⟩
  have hgood : ¬(OutStream.standingAt ([] : List UInt8) ([] : List UInt8).length).fail = true :=
    Bool.false_ne_true
  have hbits : sink.format.bitsPerSample.toUInt16.toNat = sink.format.bitsPerSample.toNat :=
    UInt8.toNat_toUInt16 _
  unfold openFile
  dsimp only
  rw [hopened, if_neg hgood]
  simp only [writeU32le_eq, writeU16le_eq, OutStream.write_standingAt_end, hbits]
  have hcontent : wavHeader sink.format 0 0 = [] ++ ascii "RIFF" ++ u32le (0 : UInt32).toNat ++
      ascii "WAVE" ++ ascii "fmt " ++ u32le (16 : UInt32).toNat ++ u16le (1 : UInt16).toNat ++
      u16le sink.format.channels.toNat ++ u32le sink.format.sampleRate.toNat ++
      u32le (sink.format.sampleRate * sink.format.channels.toUInt32 * 2).toNat ++
      u16le (sink.format.channels * 2).toNat ++ u16le sink.format.bitsPerSample.toNat ++
      ascii "data" ++ u32le (0 : UInt32).toNat := by
    simp only [wavHeader, formatChunk, List.append_assoc, List.nil_append]
    rfl
  rw [← hcontent, length_wavHeader]

theorem openFile_fails (sink : WavFileSink) :
    sink.openFile false = { sink with file := { sink.file with fail := true } } := by
  have hopened : sink.file.openTrunc false = { sink.file with fail := true } :=
    if_neg fun h => Bool.false_ne_true h.2
  unfold openFile
  rw [hopened]
  exact if_pos rfl

/-- A sink without a file writes nothing. -/
theorem updateHeader_of_not_good {sink : WavFileSink} (h : ¬sink.file.Good)
    (hfail : sink.file.fail = true) : sink.updateHeader = sink := by
  have hsame : { sink.file with fail := true } = sink.file := by
    rw [← hfail]
  unfold updateHeader
  simp only [OutStream.seekp_of_not_good h, hsame, writeU32le, OutStream.write_of_not_good h]

/-- A write to the file that is being recorded. -/
theorem writePcm_recording {sink : WavFileSink} {fmt : AudioFormatInfo} {pcm : List UInt8}
    (opens : Bool) (data : List UInt8) (hopen : sink.fileOpen = true)
    (hfile : sink.file = recordingFile fmt sink.dataSize pcm) :
    sink.writePcm opens data = { sink with
      file := recordingFile fmt (sink.dataSize + UInt32.ofNat data.length) (pcm ++ data)
      dataSize := sink.dataSize + UInt32.ofNat data.length } := by
  have hclosed : ¬sink.fileOpen = false := by rw [hopen]; decide
  have hend : 44 + pcm.length =
      (wavHeader fmt (36 + sink.dataSize).toNat sink.dataSize.toNat ++ pcm).length := by
    rw [List.length_append, length_wavHeader]
  have hwrite : sink.file.write data = .standingAt
      (wavHeader fmt (36 + sink.dataSize).toNat sink.dataSize.toNat ++ (pcm ++ data))
      (44 + (pcm ++ data).length) := by
    rw [hfile, recordingFile, hend, OutStream.write_standingAt_end, List.append_assoc,
      List.length_append, length_wavHeader]
  unfold writePcm
  rw [if_neg hclosed]
  exact updateHeader_standing hwrite

theorem writePcm_opens {sink : WavFileSink} (data : List UInt8) (hclosed : sink.fileOpen = false)
    (hfile : sink.file.isOpen = false) :
    sink.writePcm true data = { sink with
      file := recordingFile sink.format (sink.dataSize + UInt32.ofNat data.length) data
      dataSize := sink.dataSize + UInt32.ofNat data.length
      fileOpen := true } := by
  have hend : 44 = (wavHeader sink.format 0 0).length := rfl
  have hwrite : (OutStream.standingAt (wavHeader sink.format 0 0) 44).write data =
      .standingAt (wavHeader sink.format 0 0 ++ data) (44 + data.length) := by
    rw [hend, OutStream.write_standingAt_end, List.length_append]
  unfold writePcm
  rw [if_pos hclosed, openFile_succeeds hfile]
  exact updateHeader_standing hwrite

/-- The bytes are counted, though there is no file to write them to. -/
theorem writePcm_fails {sink : WavFileSink} (data : List UInt8)
    (hclosed : sink.fileOpen = false) :
    sink.writePcm false data = { sink with
      file := { sink.file with fail := true }
      dataSize := sink.dataSize + UInt32.ofNat data.length } := by
  have hgood : ¬({ sink.file with fail := true } : OutStream UInt8).Good :=
    fun h => Bool.false_ne_true h.2.symm
  unfold writePcm
  rw [if_pos hclosed, openFile_fails]
  dsimp only
  rw [OutStream.write_of_not_good hgood]
  exact updateHeader_of_not_good hgood rfl

theorem finalizeLocked_recording {sink : WavFileSink} {fmt : AudioFormatInfo} {pcm : List UInt8}
    (hopen : sink.fileOpen = true) (hfile : sink.file = recordingFile fmt sink.dataSize pcm) :
    sink.finalizeLocked = { sink with
      file := sink.file.close
      dataSize := 0
      fileOpen := false } := by
  have hclosed : ¬sink.fileOpen = false := by rw [hopen]; decide
  have hheader := updateHeader_standing hfile
  rw [← hfile] at hheader
  unfold finalizeLocked
  rw [if_neg hclosed, hheader]

end WavFileSink

/-- A call of the sink; `opens` tells of a write whether the file can be opened. -/
inductive WavCall where
  | setFormat (channels : UInt16) (bitsPerSample : UInt8) (sampleRate : UInt32)
  | writePcm (opens : Bool) (data : List UInt8)
  | reset
  | finalize
  deriving DecidableEq, Repr

/-- The sink with what has been recorded: of the last file that was opened, the format then in force
and the bytes since; and the count of those that came while no file could be opened, since one was
last closed. -/
structure WavRun where
  sink : WavFileSink
  recording : Option (AudioFormatInfo × List UInt8)
  lost : Nat
  deriving DecidableEq, Repr

namespace WavRun

open WavFileSink

/-- A call that leaves the recorded bytes as they are, but may close the file. -/
def afterCall (s : WavRun) (sink : WavFileSink) : WavRun :=
  { s with
    sink
    lost := if s.sink.fileOpen = true ∧ sink.fileOpen = false then 0 else s.lost }

def afterWrite (s : WavRun) (opens : Bool) (data : List UInt8) : WavRun where
  sink := s.sink.writePcm opens data
  recording :=
    if s.sink.fileOpen = true then s.recording.map fun (fmt, pcm) => (fmt, pcm ++ data)
    else if opens = true then some (s.sink.format, data)
    else s.recording
  lost := if s.sink.fileOpen = true ∨ opens = true then s.lost else s.lost + data.length

/-- The size of the file can be told in its header. -/
def Sizable (s : WavRun) : Prop :=
  ∀ file ∈ s.recording, file.2.length < 4294967296 - 36

instance (s : WavRun) : Decidable s.Sizable :=
  inferInstanceAs (Decidable (∀ file ∈ s.recording, file.2.length < 4294967296 - 36))

def step (s : WavRun) : WavCall → Option WavRun
  | .setFormat channels bitsPerSample sampleRate =>
      some (s.afterCall (s.sink.setFormat channels bitsPerSample sampleRate).2)
  | .writePcm opens data =>
      if (s.afterWrite opens data).Sizable then some (s.afterWrite opens data) else none
  | .reset => some (s.afterCall s.sink.reset)
  | .finalize => some (s.afterCall s.sink.finalize)

/-- A sink that has been made for a path, where a file may be already. -/
def start (content : List UInt8) : WavRun :=
  ⟨{ file := ⟨false, false, 0, content⟩ }, none, 0⟩

def system : System WavRun WavCall where
  initial s := ∃ content, s = start content
  step := step

/-- The file holds a header with its format and its lengths, and the recorded bytes. -/
def Consistent (s : WavRun) : Prop :=
  ∀ file ∈ s.recording, s.sink.file.content =
    wavHeader file.1 (36 + file.2.length) file.2.length ++ file.2

instance (s : WavRun) : Decidable s.Consistent :=
  inferInstanceAs (Decidable (∀ file ∈ s.recording, _))

/-- No bytes are counted for a file that came before it was opened; the counter is one of 32
bits. -/
def NothingLost (s : WavRun) : WavCall → Prop
  | .writePcm opens _ => s.sink.fileOpen = false → opens = true → 4294967296 ∣ s.lost
  | _ => True

/-- How the sink stands to what has been recorded. -/
inductive Tracks (s : WavRun) : Prop
  | recording {fmt : AudioFormatInfo} {pcm : List UInt8} (hopen : s.sink.fileOpen = true)
      (hrecording : s.recording = some (fmt, pcm))
      (hsize : pcm.length < 4294967296 - 36)
      (hfile : s.sink.file = recordingFile fmt s.sink.dataSize pcm)
      (hdataSize : s.sink.dataSize = .ofNat (s.lost + pcm.length))
  | idle (hclosed : s.sink.fileOpen = false) (hfile : s.sink.file.isOpen = false)
      (hdataSize : s.sink.dataSize = .ofNat s.lost)

/-- While a file is recorded, its lengths are right just when nothing else has been counted. -/
theorem consistent_iff {s : WavRun} {fmt : AudioFormatInfo} {pcm : List UInt8}
    (hrecording : s.recording = some (fmt, pcm)) (hsize : pcm.length < 4294967296 - 36)
    (hfile : s.sink.file = recordingFile fmt s.sink.dataSize pcm)
    (hdataSize : s.sink.dataSize = .ofNat (s.lost + pcm.length)) :
    s.Consistent ↔ 4294967296 ∣ s.lost := by
  have hcount : s.sink.dataSize.toNat = (s.lost + pcm.length) % 4294967296 := by
    rw [hdataSize]
    exact UInt32.toNat_ofNat'
  have hriff : (36 + s.sink.dataSize).toNat = (36 + s.sink.dataSize.toNat) % 4294967296 :=
    UInt32.toNat_add 36 s.sink.dataSize
  have hcontent : s.sink.file.content =
      wavHeader fmt (36 + s.sink.dataSize).toNat s.sink.dataSize.toNat ++ pcm := by
    rw [hfile]
    rfl
  have hall : s.Consistent ↔ s.sink.file.content =
      wavHeader fmt (36 + pcm.length) pcm.length ++ pcm := by
    rw [Consistent, hrecording]
    exact ⟨fun h => h (fmt, pcm) rfl, fun h file hfile => Option.some.inj hfile ▸ h⟩
  rw [hall, hcontent]
  constructor
  · intro h
    have hheader := List.append_cancel_right h
    have hsame := u32le_inj (s.sink.dataSize.toNat_lt) (by omega)
      (congrArg (List.drop 40) hheader)
    rw [hcount] at hsame
    omega
  · rintro ⟨rounds, hlost⟩
    have hsame : s.sink.dataSize.toNat = pcm.length := by
      rw [hcount]
      omega
    rw [hriff, hsame, Nat.mod_eq_of_lt (by omega)]

theorem Tracks.of_recording {s : WavRun} {fmt : AudioFormatInfo} {pcm : List UInt8}
    (hsizable : s.Sizable) (hopen : s.sink.fileOpen = true)
    (hrecording : s.recording = some (fmt, pcm))
    (hfile : s.sink.file = recordingFile fmt s.sink.dataSize pcm)
    (hdataSize : s.sink.dataSize = .ofNat (s.lost + pcm.length)) :
    s.Tracks ∧ (s.Consistent ↔ 4294967296 ∣ s.lost) := by
  have hsize := hsizable _ hrecording
  exact ⟨.recording hopen hrecording hsize hfile hdataSize,
    consistent_iff hrecording hsize hfile hdataSize⟩

theorem tracks_start (content : List UInt8) : (start content).Tracks :=
  .idle rfl rfl rfl

/-- What a call makes that closes the file, if one is open, as its last step. -/
theorem Tracks.finalizeLocked {s : WavRun} (h : s.Tracks) :
    (s.afterCall s.sink.finalizeLocked).Tracks ∧
      s.sink.finalizeLocked.file.content = s.sink.file.content := by
  cases h with
  | recording hopen hrecording hsize hfile hdataSize =>
      have hsink := finalizeLocked_recording hopen hfile
      refine ⟨.idle (congrArg WavFileSink.fileOpen hsink)
        (congrArg (fun sink => sink.file.isOpen) hsink) ?_,
        congrArg (fun sink => sink.file.content) hsink⟩
      rw [afterCall, hsink]
      dsimp only
      rw [if_pos ⟨hopen, rfl⟩]
      rfl
  | idle hclosed hfile hdataSize =>
      have hsink : s.sink.finalizeLocked = s.sink := if_pos hclosed
      have hkept : s.afterCall s.sink.finalizeLocked = s := by
        rw [hsink, afterCall, if_neg fun h => Bool.false_ne_true (hclosed.symm.trans h.1)]
      rw [hkept, hsink]
      exact ⟨.idle hclosed hfile hdataSize, rfl⟩

theorem Tracks.withFormat {s : WavRun} {sink : WavFileSink} (format : AudioFormatInfo)
    (h : (s.afterCall sink).Tracks) : (s.afterCall { sink with format }).Tracks := by
  cases h with
  | recording hopen hrecording hsize hfile hdataSize =>
      exact .recording hopen hrecording hsize hfile hdataSize
  | idle hclosed hfile hdataSize => exact .idle hclosed hfile hdataSize

theorem afterCall_self (s : WavRun) : s.afterCall s.sink = s := by
  have hopen : ¬(s.sink.fileOpen = true ∧ s.sink.fileOpen = false) :=
    fun h => Bool.false_ne_true (h.2.symm.trans h.1)
  rw [afterCall, if_neg hopen]

theorem Tracks.setFormat {s : WavRun} (h : s.Tracks) (channels : UInt16) (bitsPerSample : UInt8)
    (sampleRate : UInt32) :
    (s.afterCall (s.sink.setFormat channels bitsPerSample sampleRate).2).Tracks ∧
      (s.sink.setFormat channels bitsPerSample sampleRate).2.file.content =
        s.sink.file.content := by
  have hself : (s.afterCall s.sink).Tracks := by rwa [afterCall_self]
  unfold WavFileSink.setFormat
  split
  next => exact ⟨hself, rfl⟩
  next =>
    split
    next => exact ⟨h.finalizeLocked.1.withFormat _, h.finalizeLocked.2⟩
    next => exact ⟨hself, rfl⟩

/-- A call that leaves the content of the file leaves it consistent or not. -/
theorem consistent_afterCall {s : WavRun} {sink : WavFileSink}
    (h : sink.file.content = s.sink.file.content) :
    (s.afterCall sink).Consistent ↔ s.Consistent := by
  unfold Consistent afterCall
  rw [h]

/-- What a write to the open file leaves. -/
theorem Tracks.afterWrite_recording {s : WavRun} {fmt : AudioFormatInfo} {pcm : List UInt8}
    {opens : Bool} {data : List UInt8} (hopen : s.sink.fileOpen = true)
    (hrecording : s.recording = some (fmt, pcm))
    (hfile : s.sink.file = recordingFile fmt s.sink.dataSize pcm)
    (hdataSize : s.sink.dataSize = .ofNat (s.lost + pcm.length))
    (hsizable : (s.afterWrite opens data).Sizable) :
    (s.afterWrite opens data).Tracks ∧
      ((s.afterWrite opens data).Consistent ↔ 4294967296 ∣ s.lost) := by
  have hsink := writePcm_recording opens data hopen hfile
  have hrecording' : (s.afterWrite opens data).recording = some (fmt, pcm ++ data) := by
    simp only [afterWrite, if_pos hopen, hrecording, Option.map_some]
  have hlost' : (s.afterWrite opens data).lost = s.lost := if_pos (.inl hopen)
  have hopen' : (s.afterWrite opens data).sink.fileOpen = true :=
    (congrArg WavFileSink.fileOpen hsink).trans hopen
  have hdataSize' : (s.afterWrite opens data).sink.dataSize =
      .ofNat ((s.afterWrite opens data).lost + (pcm ++ data).length) := by
    rw [hlost', List.length_append, ← Nat.add_assoc, UInt32.ofNat_add, ← hdataSize]
    exact congrArg WavFileSink.dataSize hsink
  have hfile' : (s.afterWrite opens data).sink.file =
      recordingFile fmt (s.afterWrite opens data).sink.dataSize (pcm ++ data) := by
    change (s.sink.writePcm opens data).file =
      recordingFile fmt (s.sink.writePcm opens data).dataSize (pcm ++ data)
    rw [hsink]
  have htracks := Tracks.of_recording hsizable hopen' hrecording' hfile' hdataSize'
  rwa [hlost'] at htracks

theorem Tracks.afterWrite_opens {s : WavRun} {data : List UInt8}
    (hclosed : s.sink.fileOpen = false) (hfile : s.sink.file.isOpen = false)
    (hdataSize : s.sink.dataSize = .ofNat s.lost)
    (hsizable : (s.afterWrite true data).Sizable) :
    (s.afterWrite true data).Tracks ∧
      ((s.afterWrite true data).Consistent ↔ 4294967296 ∣ s.lost) := by
  have hsink := writePcm_opens data hclosed hfile
  have hnotOpen : ¬s.sink.fileOpen = true := by rw [hclosed]; decide
  have hrecording' : (s.afterWrite true data).recording = some (s.sink.format, data) := by
    simp only [afterWrite, if_neg hnotOpen, if_true]
  have hlost' : (s.afterWrite true data).lost = s.lost := if_pos (.inr rfl)
  have hopen' : (s.afterWrite true data).sink.fileOpen = true :=
    congrArg WavFileSink.fileOpen hsink
  have hdataSize' : (s.afterWrite true data).sink.dataSize =
      .ofNat ((s.afterWrite true data).lost + data.length) := by
    rw [hlost', UInt32.ofNat_add, ← hdataSize]
    exact congrArg WavFileSink.dataSize hsink
  have hfile' : (s.afterWrite true data).sink.file =
      recordingFile s.sink.format (s.afterWrite true data).sink.dataSize data := by
    change (s.sink.writePcm true data).file =
      recordingFile s.sink.format (s.sink.writePcm true data).dataSize data
    rw [hsink]
  have htracks := Tracks.of_recording hsizable hopen' hrecording' hfile' hdataSize'
  rwa [hlost'] at htracks

theorem Tracks.afterWrite_fails {s : WavRun} (data : List UInt8)
    (hclosed : s.sink.fileOpen = false) (hfile : s.sink.file.isOpen = false)
    (hdataSize : s.sink.dataSize = .ofNat s.lost) :
    (s.afterWrite false data).Tracks ∧ ((s.afterWrite false data).Consistent ↔ s.Consistent) := by
  have hsink := writePcm_fails data hclosed
  have hnotOpen : ¬(s.sink.fileOpen = true ∨ false = true) := by rw [hclosed]; decide
  have hlost' : (s.afterWrite false data).lost = s.lost + data.length := if_neg hnotOpen
  have hrecording' : (s.afterWrite false data).recording = s.recording := by
    simp only [afterWrite, if_neg (not_or.mp hnotOpen).1, Bool.false_eq_true, if_false]
  refine ⟨.idle ((congrArg WavFileSink.fileOpen hsink).trans hclosed)
    ((congrArg (fun sink => sink.file.isOpen) hsink).trans hfile) ?_, ?_⟩
  · rw [hlost', UInt32.ofNat_add, ← hdataSize]
    exact congrArg WavFileSink.dataSize hsink
  · have hcontent : (s.afterWrite false data).sink.file.content = s.sink.file.content :=
      congrArg (fun sink => sink.file.content) hsink
    unfold Consistent
    rw [hrecording', hcontent]

theorem Tracks.step {s t : WavRun} {call : WavCall} (h : s.Tracks) (hstep : s.step call = some t) :
    t.Tracks ∧ (s.Consistent → (t.Consistent ↔ s.NothingLost call)) := by
  have hcall {sink : WavFileSink} (htracks : (s.afterCall sink).Tracks ∧
      sink.file.content = s.sink.file.content) (hstep : some (s.afterCall sink) = some t) :
      t.Tracks ∧ (s.Consistent → (t.Consistent ↔ True)) := by
    obtain rfl := Option.some.inj hstep
    exact ⟨htracks.1, fun hs => iff_true_intro ((consistent_afterCall htracks.2).mpr hs)⟩
  cases call with
  | setFormat channels bitsPerSample sampleRate =>
      exact hcall (h.setFormat channels bitsPerSample sampleRate) hstep
  | reset => exact hcall h.finalizeLocked hstep
  | finalize => exact hcall h.finalizeLocked hstep
  | writePcm opens data =>
      simp only [WavRun.step] at hstep
      split at hstep
      next hsizable =>
        obtain rfl := Option.some.inj hstep
        cases h with
        | recording hopen hrecording hsize hfile hdataSize =>
            obtain ⟨htracks, hright⟩ :=
              Tracks.afterWrite_recording hopen hrecording hfile hdataSize hsizable
            refine ⟨htracks, fun hs => iff_of_true (hright.mpr ?_) fun hclosed => ?_⟩
            · exact (consistent_iff hrecording hsize hfile hdataSize).mp hs
            · exact absurd (hclosed.symm.trans hopen) Bool.false_ne_true
        | idle hclosed hfile hdataSize =>
            cases opens with
            | true =>
                obtain ⟨htracks, hright⟩ :=
                  Tracks.afterWrite_opens hclosed hfile hdataSize hsizable
                exact ⟨htracks, fun _ => hright.trans
                  ⟨fun h _ _ => h, fun h => h hclosed rfl⟩⟩
            | false =>
                obtain ⟨htracks, hright⟩ := Tracks.afterWrite_fails data hclosed hfile hdataSize
                exact ⟨htracks, fun hs => iff_of_true (hright.mpr hs)
                  fun _ hopens => absurd hopens Bool.false_ne_true⟩
      next => exact nomatch hstep

/-- After every call the file is consistent with what has been recorded, if and only if no file is
opened while bytes are counted that came when none could be. -/
theorem wavConsistent_iff {content : List UInt8} {calls : List WavCall} {t : WavRun}
    (hrun : system.run (start content) calls = some t) :
    (∀ before after s, calls = before ++ after → system.run (start content) before = some s →
        s.Consistent) ↔ system.Meets NothingLost (start content) calls :=
  System.forall_prefix_iff_meets (I := Tracks) (P := Consistent)
    (fun _ _ _ hs hstep => (hs.step hstep).1)
    (fun _ _ _ hs hconsistent hstep => (hs.step hstep).2 hconsistent)
    (tracks_start content) nofun hrun

theorem wavConsistent_iff_twoWrites :
    let run := system.run (start [])
    let calls : List WavCall := [.writePcm true [1, 2], .writePcm true [3, 4]]
    (∀ before after s, calls = before ++ after → run before = some s → s.Consistent) ↔
      system.Meets NothingLost (start []) calls :=
  @wavConsistent_iff [] [.writePcm true [1, 2], .writePcm true [3, 4]]
    (((start []).afterWrite true [1, 2]).afterWrite true [3, 4]) (by decide +kernel)

/-- The first write finds no way to open the file, and the second one does. -/
theorem not_wavConsistent : ¬∀ (content : List UInt8) (calls : List WavCall) (t : WavRun),
    system.run (start content) calls = some t → t.Consistent := by
  intro h
  exact absurd (h [] [.writePcm false [1, 2], .writePcm true [3, 4]]
    (((start []).afterWrite false [1, 2]).afterWrite true [3, 4]) (by decide +kernel))
    (by decide +kernel)

end WavRun

end Usbipdcpp.VirtualDevice
