import SpeechProbe.Error
import SpeechProbe.Live.Queue

/-!
# Live audio

A live source is the consuming end of a handoff queue.  It may own the capture that
fills the queue, and then shutting the source down stops the capture.
-/

namespace SpeechProbe

/-- A running audio capture. -/
structure Capture where
  /-- Its name in the log. -/
  name : String
  /-- Whether it is capturing. -/
  capturing : Bool
  /-- What goes wrong when it is stopped, if anything does. -/
  stopFailure : Option Error
  deriving DecidableEq, Repr, Inhabited

/-- The error where no audio device can be opened. -/
def Capture.unavailable : Error :=
  .capture "live capture requires building with the `live-capture` feature"

/-- The consuming end of a handoff queue. -/
structure LiveSource where
  queue : HandoffQueue
  /-- Samples per second of the blocks pushed by a callback. -/
  rate : UInt32
  capture : Option Capture
  deriving DecidableEq, Repr, Inhabited

namespace LiveSource

/-- A source whose producer is not tied to a capture. -/
def ofQueue (capacity : Nat) (rate : UInt32) : LiveSource :=
  ⟨HandoffQueue.ofCapacity capacity, rate, none⟩

/-- A source that owns a capture which has delivered `blocks` so far. -/
def ofCapture (capture : Capture) (rate : UInt32) (blocks : List Chunk)
    (producers : Nat) : LiveSource :=
  ⟨⟨max blocks.length 1, blocks, producers, false⟩, rate, some capture⟩

/-- Offer a block to the queue. -/
def push (source : LiveSource) (samples : List Sample) : PushOutcome × LiveSource :=
  let (outcome, queue) := source.queue.push ⟨samples, source.rate⟩
  (outcome, { source with queue := queue })

/-- Take the oldest block. -/
def pop (source : LiveSource) : Fetched × LiveSource :=
  let (fetched, queue) := source.queue.pop
  (fetched, { source with queue := queue })

/-- Close the queue and stop the capture if it is capturing: what stopping it led
to, and the source without it. -/
def shutdown (source : LiveSource) : Option (Capture × Except Error Unit) × LiveSource :=
  let closed : LiveSource := { source with queue := source.queue.close, capture := none }
  match source.capture with
  | none => (none, closed)
  | some capture =>
    if capture.capturing then
      let result : Except Error Unit := match capture.stopFailure with
        | some failure => .error failure
        | none => .ok ()
      (some (capture, result), closed)
    else (none, closed)

end LiveSource
end SpeechProbe
