import SpeechProbe.Sample.Framing

/-!
# Reading samples to their end

A cursor that is read in chunks gives its samples in order, each once, and no chunk is
empty.  `Cursor.Reads` is a run of reads; one that leaves nothing is `Cursor.chunks`, which
is what framing makes payloads of.  Samples that fit into memory are read
without the position ever leaving the range of a 64-bit number (`Cursor.Fits`).
-/

namespace SpeechProbe

namespace Cursor

/-- Reading chunks of at most `n` samples takes one cursor to another. -/
inductive Reads (n : Nat) : Cursor → List Chunk → Cursor → Prop where
  | nil (cursor : Cursor) : Reads n cursor [] cursor
  | cons {cursor next after : Cursor} {chunk : Chunk} {chunks : List Chunk}
      (read : cursor.next n = .ok (some chunk, next)) (rest : Reads n next chunks after) :
      Reads n cursor (chunk :: chunks) after

/-- What a cursor answers, and what it leaves. -/
theorem next_eq_ok {n : Nat} {cursor after : Cursor} {answer : Option Chunk}
    (h : cursor.next n = .ok (answer, after)) :
    answer = (if n = 0 ∨ cursor.rest = [] then none
      else some ⟨cursor.rest.take n, cursor.rate⟩) ∧
    after = ⟨cursor.rate, cursor.served + min cursor.remaining n, cursor.rest.drop n⟩ := by
  unfold next at h
  split at h
  · rename_i hnone
    simp only [Except.ok.injEq, Prod.mk.injEq] at h
    obtain ⟨rfl, rfl⟩ := h
    rw [if_pos hnone]
    refine ⟨rfl, ?_⟩
    rcases hnone with rfl | hrest
    · simp
    · cases cursor
      simp_all [remaining]
  · rename_i hsome
    split at h
    · simp at h
    · simp only [Except.ok.injEq, Prod.mk.injEq] at h
      obtain ⟨rfl, rfl⟩ := h
      rw [if_neg hsome, List.length_take, Nat.min_comm]
      exact ⟨rfl, rfl⟩

/-- What a read gives is the beginning of what was left. -/
theorem next_some {cursor next : Cursor} {n : Nat} {chunk : Chunk}
    (h : cursor.next n = .ok (some chunk, next)) :
    0 < n ∧ cursor.rest ≠ [] ∧ chunk.samples = cursor.rest.take n ∧
      next.rest = cursor.rest.drop n ∧ next.served = cursor.served + chunk.samples.length := by
  obtain ⟨hchunk, rfl⟩ := next_eq_ok h
  split at hchunk
  · simp at hchunk
  · rename_i hmore
    rw [not_or] at hmore
    rw [Option.some.injEq] at hchunk
    subst hchunk
    rw [List.length_take, Nat.min_comm]
    exact ⟨Nat.pos_of_ne_zero hmore.1, hmore.2, rfl, rfl, rfl⟩

theorem isEmpty_of_next {cursor next : Cursor} {n : Nat} {chunk : Chunk}
    (h : cursor.next n = .ok (some chunk, next)) : chunk.isEmpty = false := by
  obtain ⟨hn, hrest, hsamples, _⟩ := next_some h
  rw [Chunk.isEmpty, hsamples, List.isEmpty_eq_false_iff, ne_eq, List.take_eq_nil_iff, not_or]
  exact ⟨Nat.ne_of_gt hn, hrest⟩

/-- A cursor that gives nothing has nothing left. -/
theorem rest_eq_nil_of_next {cursor after : Cursor} {n : Nat} (hn : 0 < n)
    (h : cursor.next n = .ok (none, after)) : cursor.rest = [] := by
  unfold Cursor.next at h
  split at h
  · rename_i hdone
    exact hdone.resolve_left (Nat.ne_of_gt hn)
  · split at h <;> simp at h

namespace Reads

variable {n : Nat} {cursor after : Cursor} {chunks : List Chunk}

theorem trans {last : Cursor} {chunks' : List Chunk} (h : Reads n cursor chunks after)
    (h' : Reads n after chunks' last) : Reads n cursor (chunks ++ chunks') last := by
  induction h with
  | nil cursor => exact h'
  | cons read _ ih => exact .cons read (ih h')

theorem rate_eq (h : Reads n cursor chunks after) : after.rate = cursor.rate := by
  induction h with
  | nil cursor => rfl
  | cons read _ ih => rw [ih, (next_eq_ok read).2]

/-- What was read followed by what is left is what there was. -/
theorem samples_eq (h : Reads n cursor chunks after) :
    cursor.rest = chunks.flatMap Chunk.samples ++ after.rest := by
  induction h with
  | nil cursor => rfl
  | cons read _ ih =>
    obtain ⟨_, _, hsamples, hrest, _⟩ := next_some read
    rw [List.flatMap_cons, List.append_assoc, ← ih, hsamples, hrest, List.take_append_drop]

theorem isEmpty_eq_false (h : Reads n cursor chunks after) :
    ∀ chunk ∈ chunks, chunk.isEmpty = false := by
  induction h with
  | nil cursor => simp
  | cons read _ ih =>
    intro chunk hchunk
    rcases List.mem_cons.mp hchunk with rfl | hchunk
    · exact isEmpty_of_next read
    · exact ih chunk hchunk

/-- No more chunks are read than there are samples. -/
theorem length_le (h : Reads n cursor chunks after) : chunks.length ≤ cursor.rest.length := by
  induction h with
  | nil cursor => exact Nat.zero_le _
  | cons read _ ih =>
    have hlt := remaining_lt_of_next read
    simp only [remaining] at hlt
    simp only [List.length_cons]
    omega

end Reads

/-! ## Everything there is to read -/

theorem chunks_of_next_some {cursor next : Cursor} {n : Nat} {chunk : Chunk}
    (h : cursor.next n = .ok (some chunk, next)) :
    cursor.chunks n = (chunk :: ·) <$> next.chunks n := by
  rw [chunks]
  split <;> simp_all

theorem chunks_of_rest_nil {cursor : Cursor} (n : Nat) (h : cursor.rest = []) :
    cursor.chunks n = .ok [] := by
  have hnext : cursor.next n = .ok (none, cursor) := by simp [next, h]
  rw [chunks]
  split <;> simp_all

/-- What is read up to the end is all there is to read. -/
theorem Reads.chunks_eq {n : Nat} {cursor after : Cursor} {read : List Chunk}
    (h : Reads n cursor read after) (hrest : after.rest = []) :
    cursor.chunks n = .ok read := by
  induction h with
  | nil cursor => exact chunks_of_rest_nil n hrest
  | cons read _ ih =>
    rw [chunks_of_next_some read, ih hrest]
    rfl

/-- More samples than any memory holds; a position among fewer is a 64-bit number. -/
def capacity : Nat := 9223372036854775808

/-- The position is at the start or at least one chunk in, and the samples fit into
memory, so that the position of the next chunk is a 64-bit number. -/
structure Fits (n : Nat) (cursor : Cursor) : Prop where
  length_lt : n < UInt64.size
  served : cursor.rest = [] ∨ cursor.served = 0 ∨ n ≤ cursor.served
  total : cursor.served + cursor.rest.length ≤ capacity

namespace Fits

variable {n : Nat} {cursor : Cursor}

theorem ofSamples (samples : List Sample) (rate : UInt32) (hn : n < UInt64.size)
    (hsamples : samples.length ≤ capacity) : Fits n (.ofSamples samples rate) where
  length_lt := hn
  served := .inr (.inl rfl)
  total := by
    simp only [Cursor.ofSamples, Nat.zero_add]
    exact hsamples

/-- While something is left, the position after the next chunk is in range. -/
theorem served_add_lt (h : Fits n cursor) (hrest : cursor.rest ≠ []) :
    cursor.served + n < UInt64.size := by
  have hpos := List.length_pos_iff.mpr hrest
  have hlt := h.length_lt
  have htotal := h.total
  rcases h.served with hnone | hstart | hserved
  · exact absurd hnone hrest
  · omega
  · simp only [UInt64.size]
    simp only [capacity] at htotal
    omega

/-- A cursor that fits can be read. -/
theorem next_ne_error (h : Fits n cursor) (halt : Halt) : cursor.next n ≠ .error halt := by
  intro herror
  unfold Cursor.next at herror
  split at herror
  · simp at herror
  · rename_i hmore
    rw [not_or] at hmore
    rw [if_neg (Nat.not_le.mpr (h.served_add_lt hmore.2))] at herror
    simp at herror

theorem next {after : Cursor} {chunk : Chunk} (h : Fits n cursor)
    (read : cursor.next n = .ok (some chunk, after)) : Fits n after := by
  obtain ⟨_, _, hsamples, hrest, hserved⟩ := next_some read
  have htotal := h.total
  refine ⟨h.length_lt, ?_, ?_⟩
  · by_cases hshort : cursor.rest.length ≤ n
    · left
      rw [hrest, List.drop_eq_nil_iff]
      exact hshort
    · right; right
      rw [hserved, hsamples, List.length_take]
      omega
  · rw [hserved, hrest, hsamples, List.length_take, List.length_drop]
    omega

theorem of_reads {after : Cursor} {chunks : List Chunk} (h : Fits n cursor)
    (hreads : Reads n cursor chunks after) : Fits n after := by
  induction hreads with
  | nil cursor => exact h
  | cons read _ ih => exact ih (h.next read)

/-- A cursor that fits can be read to its end. -/
theorem reads_all (hn : 0 < n) (h : Fits n cursor) :
    ∃ chunks after, Reads n cursor chunks after ∧ after.rest = [] := by
  induction hlen : cursor.remaining using Nat.strongRecOn generalizing cursor with
  | ind length ih =>
    rcases hnext : cursor.next n with halt | ⟨_ | chunk, after⟩
    · exact absurd hnext (h.next_ne_error halt)
    · exact ⟨[], cursor, .nil cursor, rest_eq_nil_of_next hn hnext⟩
    · have hlt := remaining_lt_of_next hnext
      obtain ⟨chunks, last, hreads, hrest⟩ := ih _ (hlen ▸ hlt) (h.next hnext) rfl
      exact ⟨chunk :: chunks, last, .cons hnext hreads, hrest⟩

end Fits
end Cursor

/-! ## Payloads -/

namespace Framing

/-- What is read to the end of a cursor are the payloads of its samples. -/
theorem payloads_of_reads {framing : Framing} {samples : List Sample} {read : List Chunk}
    {after : Cursor}
    (h : (Cursor.ofSamples samples framing.rate).Reads framing.chunkLength read after)
    (hrest : after.rest = []) :
    framing.payloads samples = .ok (read.map Chunk.payload) := by
  rw [payloads, h.chunks_eq hrest]
  rfl

theorem chunkLength_lt (framing : Framing) : framing.chunkLength < UInt64.size := by
  unfold chunkLength
  simp only [UInt64.size]
  omega

end Framing

namespace Payload

theorem encode_ne_nil {chunk : Chunk} (h : chunk.isEmpty = false) : chunk.payload ≠ [] := by
  intro hnil
  have hlength := congrArg List.length hnil
  rw [Chunk.payload, length_encode, List.length_nil] at hlength
  rw [Chunk.isEmpty, List.isEmpty_eq_false_iff, ← List.length_pos_iff] at h
  omega

end Payload
end SpeechProbe
