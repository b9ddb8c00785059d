import SpeechProbe.Sample.Cursor

/-!
# The handoff queue of live audio

A capture callback pushes blocks and must never wait; the session pops them and may.
The queue is bounded and first in, first out.  A block that does not fit is refused,
so what was accepted is delivered in order, once, and unchanged.
-/

namespace SpeechProbe

/-- Blocks on their way from a capture callback to the session. -/
structure HandoffQueue where
  /-- How many blocks fit. -/
  capacity : Nat
  /-- The accepted blocks that were not popped yet, oldest first. -/
  waiting : List Chunk
  /-- How many producers are left. -/
  producers : Nat
  /-- Whether the consumer accepts no more blocks. -/
  closed : Bool
  deriving DecidableEq, Repr, Inhabited

/-- What became of a pushed block. -/
inductive PushOutcome where
  | accepted
  /-- Refused for want of room. -/
  | full
  /-- Refused because the consumer is gone. -/
  | closed
  deriving DecidableEq, Repr, Inhabited

/-- What a request for audio led to. -/
inductive Fetched where
  | chunk (chunk : Chunk)
  /-- No more audio will come. -/
  | ended
  /-- Nothing is there yet. -/
  | waiting
  deriving DecidableEq, Repr, Inhabited

namespace HandoffQueue

/-- An empty queue with one producer.  It holds at least one block. -/
def ofCapacity (capacity : Nat) : HandoffQueue :=
  ⟨max capacity 1, [], 1, false⟩

/-- Offer a block.  An empty block counts as accepted and is not queued; a closed
queue refuses whether or not it has room. -/
def push (queue : HandoffQueue) (block : Chunk) : PushOutcome × HandoffQueue :=
  if block.isEmpty then (.accepted, queue)
  else if queue.closed then (.closed, queue)
  else if queue.capacity ≤ queue.waiting.length then (.full, queue)
  else (.accepted, { queue with waiting := queue.waiting ++ [block] })

/-- Take the oldest block.  Without one, the audio has ended if nobody can push any
more. -/
def pop (queue : HandoffQueue) : Fetched × HandoffQueue :=
  match queue.waiting with
  | block :: rest => (.chunk block, { queue with waiting := rest })
  | [] =>
    if queue.closed ∨ queue.producers = 0 then (.ended, queue) else (.waiting, queue)

/-- One producer more. -/
def addProducer (queue : HandoffQueue) : HandoffQueue :=
  { queue with producers := queue.producers + 1 }

/-- One producer less. -/
def dropProducer (queue : HandoffQueue) : HandoffQueue :=
  { queue with producers := queue.producers - 1 }

/-- Accept no more blocks.  What is queued can still be popped. -/
def close (queue : HandoffQueue) : HandoffQueue :=
  { queue with closed := true }

end HandoffQueue
end SpeechProbe
