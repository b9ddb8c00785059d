import Mathlib.Algebra.Ring.Nat
import SpeechProbe.Proofs.Sample.Payload
import SpeechProbe.Proofs.Sample.Reading

/-!
# A cursor partitions its samples

A cursor may be asked for any number of samples at a time, for none, and for more than it
has left.  Whatever the sequence of requests (`Cursor.serve`), the chunks that were given and
what is left make up the samples (`Cursor.Serves`), as long as no request takes the
position out of the range of a 64-bit number.

Framing is the sequence of equal requests.  It gives as many payloads as there are
begun multiples of the chunk length, each but the last of full length, and a payload holds
its samples bit for bit (`Payload.decode_encode`), so that the payloads together are the
samples.
-/

namespace SpeechProbe

/-! ## Any sequence of requests -/

namespace Cursor

/-- Answer requests for so many samples each, one after the other. -/
def serve : List Nat → Cursor → Except Halt (List (Option Chunk) × Cursor)
  | [], cursor => .ok ([], cursor)
  | n :: requests, cursor =>
    match cursor.next n with
    | .error halt => .error halt
    | .ok (answer, cursor) =>
      match cursor.serve requests with
      | .error halt => .error halt
      | .ok (answers, cursor) => .ok (answer :: answers, cursor)

/-- The samples of the chunks among answers. -/
def given (answers : List (Option Chunk)) : List Sample :=
  (answers.filterMap id).flatMap Chunk.samples

/-- Answers to requests for `asked` samples in all: they begin with what was left, and what
is left after them is the rest of it. -/
structure Serves (asked : Nat) (cursor : Cursor) (answers : List (Option Chunk))
    (after : Cursor) : Prop where
  given_eq : given answers = cursor.rest.take asked
  rest_eq : after.rest = cursor.rest.drop asked
  served_eq : after.served = cursor.served + min cursor.remaining asked
  rate_eq : after.rate = cursor.rate
  chunks : ∀ chunk, some chunk ∈ answers → chunk.isEmpty = false ∧ chunk.rate = cursor.rate

/-- Nothing is given if nothing was asked for or nothing is left. -/
theorem eq_none_iff_of_next {n : Nat} {cursor after : Cursor} {answer : Option Chunk}
    (h : cursor.next n = .ok (answer, after)) :
    answer = none ↔ n = 0 ∨ cursor.remaining = 0 := by
  rw [(next_eq_ok h).1, remaining, List.length_eq_zero_iff]
  split <;> simp_all

/-- A request that leaves the position in range is answered. -/
theorem next_of_lt {n : Nat} {cursor : Cursor} (h : cursor.served + n < UInt64.size) :
    ∃ answer after, cursor.next n = .ok (answer, after) := by
  unfold next
  split
  · exact ⟨_, _, rfl⟩
  · rw [if_neg (Nat.not_le.mpr h)]
    exact ⟨_, _, rfl⟩

theorem next_of_rest_nil {cursor : Cursor} (n : Nat) (h : cursor.rest = []) :
    cursor.next n = .ok (none, cursor) := by
  rw [next, if_pos (.inr h)]

theorem serve_nil_eq_ok {cursor after : Cursor} {answers : List (Option Chunk)}
    (h : cursor.serve [] = .ok (answers, after)) : answers = [] ∧ after = cursor := by
  simp only [serve, Except.ok.injEq, Prod.mk.injEq] at h
  exact ⟨h.1.symm, h.2.symm⟩

/-- Requests are answered if the first one is and then the others are. -/
theorem serve_cons_eq_ok {n : Nat} {requests : List Nat} {cursor after : Cursor}
    {answers : List (Option Chunk)} (h : cursor.serve (n :: requests) = .ok (answers, after)) :
    ∃ answer between later, cursor.next n = .ok (answer, between) ∧
      between.serve requests = .ok (later, after) ∧ answers = answer :: later := by
  rcases hnext : cursor.next n with halt | ⟨answer, between⟩
  · simp [serve, hnext] at h
  · rcases hrest : between.serve requests with halt | ⟨later, last⟩
    · simp [serve, hnext, hrest] at h
    · simp only [serve, hnext, hrest, Except.ok.injEq, Prod.mk.injEq] at h
      obtain ⟨rfl, rfl⟩ := h
      exact ⟨answer, between, later, rfl, hrest, rfl⟩

namespace Serves

variable {asked : Nat} {cursor after : Cursor} {answers : List (Option Chunk)}

theorem refl (cursor : Cursor) : Serves 0 cursor [] cursor where
  given_eq := rfl
  rest_eq := rfl
  served_eq := by simp
  rate_eq := rfl
  chunks := by simp

theorem trans {asked' : Nat} {last : Cursor} {answers' : List (Option Chunk)}
    (h : Serves asked cursor answers after) (h' : Serves asked' after answers' last) :
    Serves (asked + asked') cursor (answers ++ answers') last where
  given_eq := by
    rw [given, List.filterMap_append, List.flatMap_append, ← given, ← given, h.given_eq,
      h'.given_eq, h.rest_eq, List.take_add]
  rest_eq := by rw [h'.rest_eq, h.rest_eq, List.drop_drop]
  served_eq := by
    rw [h'.served_eq, h.served_eq, remaining, remaining, h.rest_eq, List.length_drop]
    omega
  rate_eq := h'.rate_eq.trans h.rate_eq
  chunks := by
    intro chunk hchunk
    rcases List.mem_append.mp hchunk with hchunk | hchunk
    · exact h.chunks chunk hchunk
    · exact h.rate_eq ▸ h'.chunks chunk hchunk

theorem of_next {n : Nat} {answer : Option Chunk} (h : cursor.next n = .ok (answer, after)) :
    Serves n cursor [answer] after := by
  obtain ⟨rfl, rfl⟩ := next_eq_ok h
  by_cases hnone : n = 0 ∨ cursor.rest = []
  · rw [if_pos hnone]
    refine ⟨?_, rfl, rfl, rfl, by simp⟩
    exact (List.take_eq_nil_iff.mpr hnone).symm
  · rw [if_neg hnone]
    refine ⟨List.append_nil _, rfl, rfl, rfl, ?_⟩
    intro chunk hchunk
    rw [List.mem_singleton, Option.some.injEq] at hchunk
    subst hchunk
    rw [Chunk.isEmpty, List.isEmpty_eq_false_iff, ne_eq, List.take_eq_nil_iff]
    exact ⟨hnone, rfl⟩

theorem of_serve {requests : List Nat} (h : cursor.serve requests = .ok (answers, after)) :
    Serves requests.sum cursor answers after := by
  induction requests generalizing cursor answers with
  | nil =>
    obtain ⟨rfl, rfl⟩ := serve_nil_eq_ok h
    exact .refl _
  | cons n requests ih =>
    obtain ⟨answer, between, later, hnext, hrest, rfl⟩ := serve_cons_eq_ok h
    rw [List.sum_cons]
    exact (of_next hnext).trans (ih hrest)

theorem remaining_eq (h : Serves asked cursor answers after) :
    after.remaining = cursor.remaining - asked := by
  rw [remaining, h.rest_eq, List.length_drop, remaining]

/-- What was given is all there was up to what is left. -/
theorem given_eq_take (h : Serves asked cursor answers after) :
    given answers = cursor.rest.take (cursor.remaining - after.remaining) := by
  rw [h.given_eq, List.take_eq_take_iff, h.remaining_eq, remaining]
  omega

theorem rest_eq_drop (h : Serves asked cursor answers after) :
    after.rest = cursor.rest.drop (cursor.remaining - after.remaining) := by
  rw [h.rest_eq, List.drop_eq_drop_iff, h.remaining_eq, remaining]
  omega

end Serves

/-- Requests that leave the position in range are answered. -/
theorem serve_of_lt {requests : List Nat} {cursor : Cursor}
    (h : ∀ earlier n later, requests = earlier ++ n :: later →
      cursor.served + min cursor.remaining earlier.sum + n < UInt64.size) :
    ∃ answers after, cursor.serve requests = .ok (answers, after) := by
  induction requests generalizing cursor with
  | nil => exact ⟨_, _, rfl⟩
  | cons n requests ih =>
    have hfirst := h [] n requests rfl
    rw [List.sum_nil, Nat.min_zero, Nat.add_zero] at hfirst
    obtain ⟨answer, between, hnext⟩ := next_of_lt hfirst
    have hstep := Serves.of_next hnext
    have hrooms : ∀ earlier m later, requests = earlier ++ m :: later →
        between.served + min between.remaining earlier.sum + m < UInt64.size := by
      intro earlier m later hsplit
      have hroom := h (n :: earlier) m later (by rw [hsplit]; rfl)
      rw [List.sum_cons] at hroom
      rw [hstep.served_eq, hstep.remaining_eq]
      omega
    obtain ⟨answers, after, hrest⟩ := ih hrooms
    exact ⟨answer :: answers, after, by simp only [serve, hnext, hrest]⟩

/-- Requests that are small enough leave the position in range wherever it is. -/
theorem room_of_le {requests : List Nat} {length bound : Nat} (hle : ∀ n ∈ requests, n ≤ bound)
    (hbound : length + bound < UInt64.size) (earlier : List Nat) (n : Nat) (later : List Nat)
    (hsplit : requests = earlier ++ n :: later) : min length earlier.sum + n < UInt64.size := by
  have hn := hle n (hsplit ▸ List.mem_append_right _ List.mem_cons_self)
  omega

/-- Once nothing is left, nothing is given any more. -/
theorem serve_of_rest_nil {cursor : Cursor} (requests : List Nat) (h : cursor.rest = []) :
    cursor.serve requests = .ok (List.replicate requests.length none, cursor) := by
  induction requests with
  | nil => rfl
  | cons n requests ih =>
    simp only [serve, next_of_rest_nil n h, ih]
    rfl

/-- Where all requests are for something, an answer of nothing means that nothing is left. -/
theorem rest_eq_nil_of_none_mem {requests : List Nat} {cursor after : Cursor}
    {answers : List (Option Chunk)} (hpos : ∀ n ∈ requests, 0 < n)
    (h : cursor.serve requests = .ok (answers, after)) (hnone : none ∈ answers) :
    after.rest = [] := by
  induction requests generalizing cursor answers with
  | nil =>
    obtain ⟨rfl, _⟩ := serve_nil_eq_ok h
    simp at hnone
  | cons n requests ih =>
    obtain ⟨answer, between, later, hnext, hrest, rfl⟩ := serve_cons_eq_ok h
    rcases List.mem_cons.mp hnone with hanswer | hlater
    · have hn := hpos n List.mem_cons_self
      have hend : cursor.remaining = 0 :=
        ((eq_none_iff_of_next hnext).mp hanswer.symm).resolve_left (Nat.ne_of_gt hn)
      have hserves := (Serves.of_next hnext).trans (Serves.of_serve hrest)
      rw [hserves.rest_eq, List.length_eq_zero_iff.mp hend, List.drop_nil]
    · exact ih (fun m hm => hpos m (List.mem_cons_of_mem _ hm)) hrest hlater

/-- As long as every request is answered with samples, there are no more requests than samples. -/
theorem length_le_of_none_notMem {requests : List Nat} {cursor after : Cursor}
    {answers : List (Option Chunk)} (h : cursor.serve requests = .ok (answers, after))
    (hnone : none ∉ answers) : after.remaining + requests.length ≤ cursor.remaining := by
  induction requests generalizing cursor answers with
  | nil =>
    obtain ⟨_, rfl⟩ := serve_nil_eq_ok h
    exact Nat.le_refl _
  | cons n requests ih =>
    obtain ⟨answer, between, later, hnext, hrest, rfl⟩ := serve_cons_eq_ok h
    rw [List.mem_cons, not_or] at hnone
    obtain ⟨chunk, rfl⟩ := Option.ne_none_iff_exists'.mp (Ne.symm hnone.1)
    have hless := remaining_lt_of_next hnext
    have hlater := ih hrest hnone.2
    rw [List.length_cons]
    omega

/-! ## Equal requests -/

/-- Of a length that is cut into pieces of `n`, the first piece is one of those begun. -/
theorem begun_eq {n length : Nat} (hn : 0 < n) (hlength : 0 < length) :
    (length + n - 1) / n = (length - n + n - 1) / n + 1 := by
  rcases Nat.le_total length n with hle | hle
  · have hnone : (length - n + n - 1) / n = 0 := Nat.div_eq_of_lt (by omega)
    rw [hnone]
    exact Nat.div_eq_of_lt_le (by omega) (by omega)
  · have hpiece : length + n - 1 = length - n + n - 1 + n := by omega
    rw [hpiece, Nat.add_div_right _ hn]

namespace Reads

variable {n : Nat} {cursor after : Cursor} {chunks : List Chunk}

theorem eq_nil_of_rest_nil (h : Reads n cursor chunks after) (hrest : cursor.rest = []) :
    chunks = [] := by
  have hle := h.length_le
  rw [hrest, List.length_nil] at hle
  exact List.length_eq_zero_iff.mp (Nat.le_zero.mp hle)

/-- No more chunks are read than pieces of `n` are begun. -/
theorem length_le_begun (h : Reads n cursor chunks after) :
    chunks.length ≤ (cursor.rest.length + n - 1) / n := by
  induction h with
  | nil cursor => exact Nat.zero_le _
  | cons read _ ih =>
    obtain ⟨hn, hrest, _, hdrop, _⟩ := next_some read
    rw [hdrop, List.length_drop] at ih
    rw [begun_eq hn (List.length_pos_iff.mpr hrest), List.length_cons]
    exact Nat.succ_le_succ ih

/-- Where nothing is left, a chunk was read for each piece that is begun. -/
theorem length_eq_begun (h : Reads n cursor chunks after) (hafter : after.rest = []) :
    chunks.length = (cursor.rest.length + n - 1) / n := by
  induction h with
  | nil cursor =>
    rw [hafter, List.length_nil, List.length_nil, Nat.zero_add]
    rcases Nat.eq_zero_or_pos n with rfl | hn
    · rfl
    · exact (Nat.div_eq_of_lt (Nat.sub_lt hn Nat.one_pos)).symm
  | cons read _ ih =>
    obtain ⟨hn, hrest, _, hdrop, _⟩ := next_some read
    rw [begun_eq hn (List.length_pos_iff.mpr hrest), List.length_cons, ih hafter, hdrop,
      List.length_drop]

theorem size_le (h : Reads n cursor chunks after) :
    ∀ chunk ∈ chunks, 1 ≤ chunk.size ∧ chunk.size ≤ n := by
  induction h with
  | nil cursor => simp
  | cons read _ ih =>
    intro chunk hchunk
    rcases List.mem_cons.mp hchunk with rfl | hchunk
    · obtain ⟨hn, hrest, hsamples, _⟩ := next_some read
      have hpos := List.length_pos_iff.mpr hrest
      rw [Chunk.size, hsamples, List.length_take]
      omega
    · exact ih chunk hchunk

/-- A chunk after which another one was read is full. -/
theorem size_of_mem_dropLast (h : Reads n cursor chunks after) :
    ∀ chunk ∈ chunks.dropLast, chunk.size = n := by
  induction h with
  | nil cursor => simp
  | @cons cursor next after chunk chunks read rest ih =>
    intro other hother
    rcases chunks with _ | ⟨following, chunks⟩
    · simp at hother
    rw [List.dropLast_cons_cons] at hother
    rcases List.mem_cons.mp hother with rfl | hother
    · obtain ⟨_, _, hsamples, hdrop, _⟩ := next_some read
      have hmore : cursor.rest.drop n ≠ [] := by
        intro hnil
        exact List.cons_ne_nil _ _ (rest.eq_nil_of_rest_nil (hdrop.trans hnil))
      rw [ne_eq, List.drop_eq_nil_iff, Nat.not_le] at hmore
      rw [Chunk.size, hsamples, List.length_take, Nat.min_eq_left (Nat.le_of_lt hmore)]
    · exact ih other hother

end Reads

/-- Samples that were all read are in the payloads of what was read. -/
theorem Reads.decode_payloads {n : Nat} {cursor after : Cursor} {chunks : List Chunk}
    (h : Reads n cursor chunks after) (hafter : after.rest = []) :
    (chunks.map Chunk.payload).flatMap Payload.decode = cursor.rest := by
  have hsamples := h.samples_eq
  rw [hafter, List.append_nil] at hsamples
  rw [hsamples, List.flatMap_map]
  simp only [Chunk.payload, Payload.decode_encode]

end Cursor

/-- The payloads of samples that a memory holds: one for each chunk that is begun, all but the
last one of full length, and each sample in one of them, bit for bit. -/
theorem Framing.payloads_spec (framing : Framing) (samples : List Sample)
    (hn : 1 ≤ framing.chunkLength) (hsamples : samples.length ≤ Cursor.capacity) :
    ∃ payloads, framing.payloads samples = .ok payloads ∧
      payloads.length = (samples.length + framing.chunkLength - 1) / framing.chunkLength ∧
      (∀ payload ∈ payloads.dropLast, payload.length = 4 * framing.chunkLength) ∧
      (∀ payload ∈ payloads.getLast?,
        4 ≤ payload.length ∧ payload.length ≤ 4 * framing.chunkLength) ∧
      payloads.flatMap Payload.decode = samples := by
  have hfits := Cursor.Fits.ofSamples samples framing.rate framing.chunkLength_lt hsamples
  obtain ⟨read, after, hreads, hafter⟩ := hfits.reads_all hn
  refine ⟨_, payloads_of_reads hreads hafter, ?_, ?_, ?_, hreads.decode_payloads hafter⟩
  · rw [List.length_map]
    exact hreads.length_eq_begun hafter
  · rw [← List.map_dropLast]
    intro payload hpayload
    obtain ⟨chunk, hchunk, rfl⟩ := List.mem_map.mp hpayload
    rw [Chunk.payload, Payload.length_encode, ← Chunk.size,
      hreads.size_of_mem_dropLast chunk hchunk]
  · rw [List.getLast?_map]
    intro payload hpayload
    obtain ⟨chunk, hchunk, rfl⟩ := Option.map_eq_some_iff.mp hpayload
    have hsize := hreads.size_le chunk (List.mem_of_getLast? hchunk)
    rw [Chunk.payload, Payload.length_encode, ← Chunk.size]
    omega

/-- Samples are partitioned by whatever is asked for.

A sequence of requests is answered if none of them takes the position, which is the number
of samples asked for before or that of all samples, out of the range of a 64-bit number.

After any requests that were answered, what was given is the samples up to what is left, no
chunk of it is empty, and a further request in range is answered with nothing exactly if it
is for nothing or nothing is left, and otherwise with the samples that come next, as many as
were asked for or are left.  What is left does not grow, and once that is nothing, all
further requests are answered with nothing, in range or not.

Samples that a memory holds are framed into a payload for each chunk that is begun, all but
the last one of full length, and decoding them one by one gives the samples, bit for bit. -/
theorem samples_partitioned (samples : List Sample) (rate : UInt32) :
    (∀ requests, (∀ earlier n later, requests = earlier ++ n :: later →
        min samples.length earlier.sum + n < UInt64.size) →
      ∃ answers cursor,
        (Cursor.ofSamples samples rate).serve requests = .ok (answers, cursor)) ∧
    (∀ requests answers cursor,
      (Cursor.ofSamples samples rate).serve requests = .ok (answers, cursor) →
      cursor.served + cursor.remaining = samples.length ∧
      cursor.served = min samples.length requests.sum ∧
      Cursor.given answers = samples.take (samples.length - cursor.remaining) ∧
      (∀ chunk, some chunk ∈ answers → chunk.isEmpty = false ∧ chunk.rate = rate) ∧
      (∀ n, cursor.served + n < UInt64.size →
        ∃ answer after, cursor.next n = .ok (answer, after) ∧
          (answer = none ↔ n = 0 ∨ cursor.remaining = 0) ∧
          ∀ chunk, answer = some chunk →
            chunk.samples = (samples.drop cursor.served).take n ∧
              chunk.size = min n cursor.remaining) ∧
      (∀ later answers' after, cursor.serve later = .ok (answers', after) →
        after.remaining ≤ cursor.remaining) ∧
      (cursor.remaining = 0 → ∀ later,
        cursor.serve later = .ok (List.replicate later.length none, cursor))) ∧
    ∀ chunkMs, 1 ≤ (Framing.mk chunkMs rate).chunkLength →
      samples.length ≤ Cursor.capacity →
      ∃ payloads, (Framing.mk chunkMs rate).payloads samples = .ok payloads ∧
        payloads.length = (samples.length + (Framing.mk chunkMs rate).chunkLength - 1) /
          (Framing.mk chunkMs rate).chunkLength ∧
        (∀ payload ∈ payloads.dropLast,
          payload.length = 4 * (Framing.mk chunkMs rate).chunkLength) ∧
        (∀ payload ∈ payloads.getLast?,
          4 ≤ payload.length ∧ payload.length ≤ 4 * (Framing.mk chunkMs rate).chunkLength) ∧
        payloads.flatMap Payload.decode = samples := by
  refine ⟨fun requests hroom => ?_, fun requests answers cursor hserve => ?_,
    fun chunkMs hn hsamples => Framing.payloads_spec ⟨chunkMs, rate⟩ samples hn hsamples⟩
  · apply Cursor.serve_of_lt
    intro earlier n later hsplit
    have hlt := hroom earlier n later hsplit
    simp only [Cursor.ofSamples, Cursor.remaining, Nat.zero_add]
    exact hlt
  · have hserves := Cursor.Serves.of_serve hserve
    have hgiven := hserves.given_eq_take
    have hrest := hserves.rest_eq_drop
    have hremaining := hserves.remaining_eq
    have hserved := hserves.served_eq
    simp only [Cursor.ofSamples, Cursor.remaining, Nat.zero_add] at hgiven hrest hremaining hserved
    have hposition : cursor.served = samples.length - cursor.remaining := by
      rw [hserved, Cursor.remaining, hremaining]
      omega
    refine ⟨by rw [hserved, Cursor.remaining, hremaining]; omega, hserved, hgiven, hserves.chunks,
      fun n hn => ?_, fun later answers' after hlater => ?_, fun hnone later => ?_⟩
    · obtain ⟨answer, after, hnext⟩ := Cursor.next_of_lt hn
      refine ⟨answer, after, hnext, Cursor.eq_none_iff_of_next hnext, ?_⟩
      rintro chunk rfl
      obtain ⟨_, _, hsamples, _⟩ := Cursor.next_some hnext
      refine ⟨?_, by rw [Chunk.size, hsamples, List.length_take, Cursor.remaining]⟩
      rw [hsamples, hposition, Cursor.remaining, ← hrest]
    · rw [(Cursor.Serves.of_serve hlater).remaining_eq]
      exact Nat.sub_le _ _
    · exact Cursor.serve_of_rest_nil later (List.length_eq_zero_iff.mp hnone)

/-- Three samples, one of them not a number, asked for one, none, five and one at a time, and
framed by two. -/
theorem samples_partitioned_three :
    (∃ answers cursor, (Cursor.ofSamples [⟨1⟩, ⟨0x7fc00001⟩, ⟨2⟩] 20).serve [1, 0, 5, 1] =
        .ok (answers, cursor) ∧
      Cursor.given answers = [⟨1⟩, ⟨0x7fc00001⟩, ⟨2⟩] ∧ cursor.remaining = 0) ∧
    ∃ payloads, (Framing.mk 100 20).payloads [⟨1⟩, ⟨0x7fc00001⟩, ⟨2⟩] = .ok payloads ∧
      payloads.length = 2 ∧ payloads.flatMap Payload.decode = [⟨1⟩, ⟨0x7fc00001⟩, ⟨2⟩] := by
  obtain ⟨hanswered, hserved, hframed⟩ :=
    samples_partitioned [⟨1⟩, ⟨0x7fc00001⟩, ⟨2⟩] 20
  constructor
  · obtain ⟨answers, cursor, hserve⟩ := hanswered [1, 0, 5, 1]
      (Cursor.room_of_le (show ∀ n ∈ [1, 0, 5, 1], n ≤ 5 by decide) (by decide))
    obtain ⟨htotal, hposition, hgiven, _⟩ := hserved _ answers cursor hserve
    have hnone : cursor.remaining = 0 := by
      have hall : cursor.served = 3 := hposition
      have hlength : cursor.served + cursor.remaining = 3 := htotal
      omega
    refine ⟨answers, cursor, hserve, ?_, hnone⟩
    rw [hgiven, hnone]
    rfl
  · have hlength : (Framing.mk 100 20).chunkLength = 2 := by decide +kernel
    obtain ⟨payloads, hpayloads, hcount, _, _, hdecoded⟩ :=
      hframed 100 (by rw [hlength]; decide) (by decide)
    refine ⟨payloads, hpayloads, ?_, hdecoded⟩
    rw [hcount, hlength]
    rfl

end SpeechProbe
