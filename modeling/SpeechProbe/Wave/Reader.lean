import SpeechProbe.Sample.Payload
import SpeechProbe.Wave.Format

/-!
# WAVE files

A file is a sequence of chunks.  The format chunk has to come before the data chunk;
other chunks are skipped by their length, and nothing after the data matters.
-/

namespace SpeechProbe.Wave

/-- Skip chunks up to the data: its format, its declared length, and what follows
the chunk's head.  Each chunk has a head of eight bytes, so the file's length is
steps enough. -/
def findData :
    Nat → Option Format → List UInt8 → Except WaveError (Format × Nat × List UInt8)
  | 0, _, _ => .error .tooShort
  | fuel + 1, format?, bytes => do
    let (name, bytes) ← takeBytes 4 bytes
    let (size, bytes) ← takeNumber 4 bytes
    if name = tag 'f' 'm' 't' ' ' then
      let (format, bytes) ← takeFormat size bytes
      findData fuel (some format) bytes
    else if name = tag 'f' 'a' 'c' 't' then
      findData fuel format? (bytes.drop 4)
    else if name = tag 'd' 'a' 't' 'a' then
      match format? with
      | some format => return (format, size, bytes)
      | none => .error .illFormed
    else
      let (_, bytes) ← takeBytes size bytes
      findData fuel format? bytes

/-- The format of a file, the number of its samples, and the data.  The data has to
be made of whole samples and whole frames. -/
def open? (bytes : List UInt8) : Except WaveError (Format × Nat × List UInt8) := do
  let (riff, rest) ← takeBytes 4 bytes
  if riff ≠ tag 'R' 'I' 'F' 'F' then .error .illFormed
  else
    let (_, rest) ← takeNumber 4 rest
    let (wave, rest) ← takeBytes 4 rest
    if wave ≠ tag 'W' 'A' 'V' 'E' then .error .illFormed
    else
      let (format, size, data) ← findData bytes.length none rest
      let count := size / format.sampleBytes
      if size % format.sampleBytes ≠ 0 ∨ count % format.channels ≠ 0 then .error .illFormed
      else return (format, count, data)

/-- The number that a 16-bit word stands for in two's complement. -/
def signed16 (word : Nat) : Int :=
  if word < 32768 then word else (word : Int) - 65536

/-- A 16-bit integer sample as a fraction of full scale. -/
def integerSample (word : Nat) : Sample :=
  Single.ofRat ((signed16 word : Rat) / 32768)

/-- A 32-bit float sample, bit for bit. -/
def floatSample (word : Nat) : Sample := ⟨UInt32.ofNat word⟩

/-- `count` samples of `width` bytes each. -/
def takeSamples (width : Nat) (sample : Nat → Sample) :
    Nat → List UInt8 → Except WaveError (List Sample)
  | 0, _ => .ok []
  | count + 1, bytes => do
    let (word, rest) ← takeNumber width bytes
    return sample word :: (← takeSamples width sample count rest)

/-- Samples whose number type has `width` bytes, one after the other.  A container
of another width is refused when there is a sample to read. -/
def samples (format : Format) (width count : Nat) (sample : Nat → Sample)
    (data : List UInt8) : Except WaveError (List Sample) :=
  if count = 0 then .ok []
  else if width < format.sampleBytes then .error .tooWide
  else if format.sampleBytes < width then .error .unsupported
  else takeSamples width sample count data

end SpeechProbe.Wave
