import SpeechProbe.Halt
import SpeechProbe.Sample.Payload

/-!
# Reading samples front to back

A `Chunk` is one slice of audio ready to be sent.  A `Cursor` holds samples in
memory and hands them out in chunks; what it has handed out followed by what is
left is always the list it was made from.
-/

namespace SpeechProbe

/-- A slice of mono audio. -/
structure Chunk where
  samples : List Sample
  /-- Samples per second. -/
  rate : UInt32
  deriving DecidableEq, Repr, Inhabited

namespace Chunk

def size (chunk : Chunk) : Nat := chunk.samples.length
def isEmpty (chunk : Chunk) : Bool := chunk.samples.isEmpty

/-- The bytes sent for the chunk. -/
def payload (chunk : Chunk) : Payload := Payload.encode chunk.samples

/-- Seconds of audio in the chunk; none when its rate is zero. -/
def seconds (chunk : Chunk) : Double :=
  if chunk.rate = 0 then Double.zero
  else Double.ofRat ((chunk.size : Rat) / (chunk.rate.toNat : Rat))

end Chunk

/-- Samples in memory, read in chunks. -/
structure Cursor where
  rate : UInt32
  /-- How many samples have been handed out. -/
  served : Nat
  /-- What is left. -/
  rest : List Sample
  deriving DecidableEq, Repr, Inhabited

namespace Cursor

/-- A cursor at the first of the given samples. -/
def ofSamples (samples : List Sample) (rate : UInt32) : Cursor :=
  ⟨rate, 0, samples⟩

def remaining (cursor : Cursor) : Nat := cursor.rest.length

/-- The next `n` samples, or as many as are left.  Nothing when `n` is zero or
the cursor is exhausted.  The position after `n` samples has to be a 64-bit
number even when fewer are left. -/
def next (cursor : Cursor) (n : Nat) : Except Halt (Option Chunk × Cursor) :=
  if n = 0 ∨ cursor.rest = [] then .ok (none, cursor)
  else if UInt64.size ≤ cursor.served + n then .error .positionOverflow
  else
    let samples := cursor.rest.take n
    .ok (some ⟨samples, cursor.rate⟩,
      { cursor with
        served := cursor.served + samples.length
        rest := cursor.rest.drop n })

/-- A chunk that was handed out makes the rest shorter. -/
theorem remaining_lt_of_next {cursor after : Cursor} {n : Nat} {chunk : Chunk}
    (h : cursor.next n = .ok (some chunk, after)) :
    after.remaining < cursor.remaining := by
  unfold next at h
  split at h
  · simp at h
  · split at h
    · simp at h
    · rename_i hn _
      simp only [not_or] at hn
      obtain ⟨hn, hrest⟩ := hn
      simp only [Except.ok.injEq, Prod.mk.injEq] at h
      obtain ⟨_, rfl⟩ := h
      have := List.length_pos_iff.2 hrest
      simp only [remaining, List.length_drop]
      omega

/-- Every chunk of at most `n` samples up to the end of the cursor. -/
def chunks (cursor : Cursor) (n : Nat) : Except Halt (List Chunk) :=
  match _h : cursor.next n with
  | .error halt => .error halt
  | .ok (none, _) => .ok []
  | .ok (some chunk, after) => (chunk :: ·) <$> after.chunks n
termination_by cursor.remaining
decreasing_by exact remaining_lt_of_next _h

end Cursor
end SpeechProbe
