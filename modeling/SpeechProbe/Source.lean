import SpeechProbe.Live.Source
import SpeechProbe.Sample.Framing

/-!
# Audio sources

Where the streamed audio comes from.  A recording and a synthetic signal are samples
in memory, read on request; live audio comes when it comes.
-/

namespace SpeechProbe

/-- A source of mono audio. -/
inductive Source where
  /-- The samples of an audio file. -/
  | recording (cursor : Cursor)
  /-- The samples of a generated signal. -/
  | synthetic (cursor : Cursor)
  /-- Blocks from a capture callback. -/
  | live (source : LiveSource)
  deriving DecidableEq, Repr, Inhabited

namespace Source

def name : Source → String
  | recording _ => "file"
  | synthetic _ => "synthetic"
  | live _ => "live"

/-- Samples per second. -/
def rate : Source → UInt32
  | recording cursor => cursor.rate
  | synthetic cursor => cursor.rate
  | live source => source.rate

/-- Whether the source delivers in real time by itself. -/
def isSelfPaced : Source → Bool
  | live _ => true
  | recording _ | synthetic _ => false

/-- Apply a change to a live source; nothing else changes. -/
def mapLive (f : LiveSource → LiveSource) : Source → Source
  | live source => live (f source)
  | other => other

/-- Up to `n` samples of a source in memory, or the oldest block of a live one. -/
def fetch (n : Nat) : Source → Except Halt (Fetched × Source)
  | recording cursor => do
    let (chunk, cursor) ← cursor.next n
    return (chunk.elim .ended .chunk, recording cursor)
  | synthetic cursor => do
    let (chunk, cursor) ← cursor.next n
    return (chunk.elim .ended .chunk, synthetic cursor)
  | live source =>
    let (fetched, source) := source.pop
    .ok (fetched, live source)

end Source
end SpeechProbe
