import SpeechProbe.Sample.Cursor

/-!
# Chunks of a fixed duration

How many samples a chunk of some milliseconds holds, how samples are cut into
payloads of that many, and how interleaved audio is reduced to one channel.
-/

namespace SpeechProbe

/-- How audio is cut for sending: the duration of a chunk and the sample rate. -/
structure Framing where
  /-- Milliseconds per chunk. -/
  chunkMs : UInt64
  /-- Samples per second. -/
  rate : UInt32
  deriving DecidableEq, Repr, Inhabited

namespace Framing

/-- The chunk's samples before the last rounding: rate times milliseconds over a
thousand, each step rounded to 53 significant binary digits. -/
def samplesPerChunk (framing : Framing) : Rat :=
  let duration := Rounding.significant 53 framing.chunkMs.toNat
  Rounding.significant 53
    (Rounding.significant 53 (framing.rate.toNat * duration) / 1000)

/-- Samples in a full chunk, half a sample counting as one, and at most the
largest 64-bit number. -/
def chunkLength (framing : Framing) : Nat :=
  min (Rounding.halfUp framing.samplesPerChunk).toNat (UInt64.size - 1)

/-- The payloads of samples cut into chunks.  The last one may be shorter, and
none is empty. -/
def payloads (framing : Framing) (samples : List Sample) :
    Except Halt (List Payload) :=
  (·.map Chunk.payload) <$>
    (Cursor.ofSamples samples framing.rate).chunks framing.chunkLength

end Framing

/-- Every `stride`-th element, starting with the one after `skip` others. -/
def everyNth {α : Type} (stride : Nat) : Nat → List α → List α
  | _, [] => []
  | 0, x :: xs => x :: everyNth stride (stride - 1) xs
  | skip + 1, _ :: xs => everyNth stride skip xs

/-- Channel 0 of interleaved audio.  Other channels are dropped, not mixed. -/
def firstChannel (channels : Nat) (interleaved : List Sample) : List Sample :=
  if channels ≤ 1 then interleaved else everyNth channels 0 interleaved

end SpeechProbe
