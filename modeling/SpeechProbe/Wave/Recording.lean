import SpeechProbe.Control.Call
import SpeechProbe.Sample.Framing
import SpeechProbe.Wave.Reader

/-!
# Recordings

A WAVE file reduced to mono: 16-bit integers are scaled by their full range, 32-bit
floats are kept as they are, and of several channels only the first is used.  There
is no resampling: a file of another rate than expected is sent as it is.
-/

namespace SpeechProbe

/-- The audio of a file. -/
structure Recording where
  rate : UInt32
  /-- Channels in the file; only the first is kept. -/
  channels : Nat
  /-- Bits per sample in the file. -/
  bits : Nat
  samples : List Sample
  deriving DecidableEq, Repr, Inhabited

namespace Recording

/-- Length in seconds; a rate of zero counts as one. -/
def seconds (recording : Recording) : Double :=
  Double.ofRat ((recording.samples.length : Rat) / (max recording.rate.toNat 1 : Nat))

/-- A failure to read a file, as an error of the library. -/
def failure (e : Wave.WaveError) : Error := .audioFile e.message

/-- The interleaved samples of a file whose encoding is in use. -/
def interleaved (format : Wave.Format) (count : Nat) (data : List UInt8) :
    Except Error (List Sample) :=
  match format.encoding, format.bits with
  | .integer, 16 => (Wave.samples format 2 count Wave.integerSample data).mapError failure
  | .float, 32 => (Wave.samples format 4 count Wave.floatSample data).mapError failure
  | encoding, bits => .error (.unsupportedFormat bits encoding.name)

/-- The line for a file of another rate than expected. -/
def rateNote (expected rate : UInt32) : Note :=
  .warn ("Expected " ++ expected.toNat.repr ++ "Hz but file is " ++ rate.toNat.repr ++
    "Hz; sending without resampling")

/-- Read a file: the log, and the recording. -/
def ofBytes (bytes : List UInt8) (expected : UInt32) : List Note × Except Error Recording :=
  match Wave.open? bytes with
  | .error e => ([], .error (failure e))
  | .ok (format, count, data) =>
    let notes := if format.rate = expected then [] else [rateNote expected format.rate]
    (notes, do
      let samples ← interleaved format count data
      return ⟨format.rate, format.channels, format.bits, firstChannel format.channels samples⟩)

/-- The recording read from its beginning. -/
def cursor (recording : Recording) : Cursor :=
  Cursor.ofSamples recording.samples recording.rate

/-- The error for a path without a file. -/
def notFound (path : String) : Error := .audioFile ("file not found: " ++ path)

end Recording
end SpeechProbe
