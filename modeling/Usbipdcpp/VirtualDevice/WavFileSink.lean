import Usbipdcpp.Foundation.FileStream
import Usbipdcpp.VirtualDevice.AudioControl

namespace Usbipdcpp.VirtualDevice

open Foundation.FileStream Uac

/-- Writes what it gets to a file; `file` stands for the one at its path. -/
structure WavFileSink where
  file : OutStream UInt8
  format : AudioFormatInfo := ⟨1, 16, 48000⟩
  dataSize : UInt32 := 0
  fileOpen : Bool := false
  deriving DecidableEq, Repr

namespace WavFileSink

def ascii (text : String) : List UInt8 := text.toList.map fun c => .ofNat c.toNat

def writeU32le (file : OutStream UInt8) (value : UInt32) : OutStream UInt8 :=
  file.write [(value &&& 0xFF).toUInt8, ((value >>> 8) &&& 0xFF).toUInt8,
    ((value >>> 16) &&& 0xFF).toUInt8, ((value >>> 24) &&& 0xFF).toUInt8]

def writeU16le (file : OutStream UInt8) (value : UInt16) : OutStream UInt8 :=
  file.write [(value &&& 0xFF).toUInt8, ((value >>> 8) &&& 0xFF).toUInt8]

/-- Writes the two lengths to their places in the header. -/
def updateHeader (sink : WavFileSink) : WavFileSink :=
  let position := sink.file.tellp
  let file := sink.file.seekp (some 4)
  let file := writeU32le file (36 + sink.dataSize)
  let file := file.seekp (some 40)
  let file := writeU32le file sink.dataSize
  { sink with file := file.seekp position }

def finalizeLocked (sink : WavFileSink) : WavFileSink :=
  if sink.fileOpen = false then
    sink
  else
    let sink := sink.updateHeader
    { sink with file := sink.file.close, fileOpen := false, dataSize := 0 }

/-- Begins a file with a header whose lengths are to be written later. -/
def openFile (sink : WavFileSink) (succeeds : Bool) : WavFileSink :=
  let file := sink.file.openTrunc succeeds
  if file.fail = true then
    { sink with file }
  else
    let channels := sink.format.channels
    let sampleRate := sink.format.sampleRate
    let file := file.write (ascii "RIFF")
    let file := writeU32le file 0
    let file := file.write (ascii "WAVE")
    let file := file.write (ascii "fmt ")
    let file := writeU32le file 16
    let file := writeU16le file 1
    let file := writeU16le file channels
    let file := writeU32le file sampleRate
    let file := writeU32le file (sampleRate * channels.toUInt32 * 2)
    let file := writeU16le file (channels * 2)
    let file := writeU16le file sink.format.bitsPerSample.toUInt16
    let file := file.write (ascii "data")
    let file := writeU32le file 0
    { sink with file, fileOpen := true }

/-- Whether the format has been taken, and the sink after that. -/
def setFormat (sink : WavFileSink) (channels : UInt16) (bitsPerSample : UInt8)
    (sampleRate : UInt32) : Bool × WavFileSink :=
  if bitsPerSample ≠ 16 ∨ (channels ≠ 1 ∧ channels ≠ 2) then
    (false, sink)
  else if channels ≠ sink.format.channels ∨ sampleRate ≠ sink.format.sampleRate then
    (true, { sink.finalizeLocked with format := ⟨channels, bitsPerSample, sampleRate⟩ })
  else
    (true, sink)

/-- `opens` tells whether the file can be opened, should this be needed. -/
def writePcm (sink : WavFileSink) (opens : Bool) (data : List UInt8) : WavFileSink :=
  let sink := if sink.fileOpen = false then sink.openFile opens else sink
  let sink := { sink with
    file := sink.file.write data
    dataSize := sink.dataSize + UInt32.ofNat data.length }
  sink.updateHeader

def reset (sink : WavFileSink) : WavFileSink := sink.finalizeLocked

def finalize (sink : WavFileSink) : WavFileSink := sink.finalizeLocked

end WavFileSink

end Usbipdcpp.VirtualDevice
