import SpeechProbe.Proofs.Session.Allowance
import SpeechProbe.Proofs.Session.Lifecycle

/-!
# Positions stay in range

The position that a read asks for is the sum of two numbers, and is made up before it is known
how many samples are left.  A caller of a cursor can drive it out of the range of a 64-bit number
with three samples.  Framing and streaming cannot, however long their chunks are: they ask for
the same number of samples each time, so that a cursor with something left is at its start or
at least one chunk in, and in the second case the chunk is no longer than the samples
(`Cursor.Fits`).

A session keeps its source where reads of one length took it (`Placed`): only streaming reads,
and the length follows from the plan and the rate, which never change.  This is shown for each
part of a session first, then for any sequence of parts.
-/

namespace SpeechProbe

/-- Samples in memory are framed, whatever the length of a chunk. -/
theorem Framing.exists_payloads (framing : Framing) {samples : List Sample}
    (hsamples : samples.length ≤ Cursor.capacity) :
    ∃ payloads, framing.payloads samples = .ok payloads := by
  rcases Nat.eq_zero_or_pos framing.chunkLength with hnone | hn
  · have hnext : (Cursor.ofSamples samples framing.rate).next 0 =
        .ok (none, .ofSamples samples framing.rate) := by simp [Cursor.next]
    refine ⟨[], ?_⟩
    rw [payloads, hnone, Cursor.chunks]
    split <;> simp_all [Functor.map, Except.map]
  · have hfits := Cursor.Fits.ofSamples samples framing.rate framing.chunkLength_lt hsamples
    obtain ⟨read, after, hreads, hafter⟩ := hfits.reads_all hn
    exact ⟨_, payloads_of_reads hreads hafter⟩

namespace Session

variable {σ : Type} {transport : Transport σ} {before after session : Session σ}

/-! ## What leaves the source alone -/

/-- Neither the plan nor the place in the source has changed. -/
structure Rests (before after : Session σ) : Prop where
  plan_eq : after.plan = before.plan
  cursor_eq : after.scene.source.cursor? = before.scene.source.cursor?

/-- Nothing but fetching moves a session on in its source. -/
theorem steady_rests : Steady (Rests (σ := σ)) where
  refl := fun _ => ⟨rfl, rfl⟩
  trans := fun h h' => ⟨h'.plan_eq.trans h.plan_eq, h'.cursor_eq.trans h.cursor_eq⟩
  waited := fun h => ⟨h.plan_eq, h.cursor_eq⟩
  note := fun _ _ => ⟨rfl, rfl⟩
  count := fun _ _ => ⟨rfl, rfl⟩
  tell := fun _ _ => ⟨rfl, rfl⟩
  received := fun h => ⟨h.plan_eq, h.cursor_eq⟩
  moveTo := fun session next =>
    ⟨plan_moveTo session next, congrArg Source.cursor? (source_moveTo session next)⟩
  announced := fun h => ⟨h.plan_eq, h.cursor_eq⟩
  ended := fun h => ⟨h.plan_eq, h.cursor_eq⟩
  closed := fun h => ⟨h.plan_eq, h.cursor_eq⟩

theorem rests_endStreaming (session : Session σ) (result : Except Error Unit) :
    Rests session (session.endStreaming result) :=
  ⟨(stays_endStreaming session result).plan_eq, (mute_endStreaming session result).cursor_eq⟩

/-! ## The place in the source -/

/-- The length of the chunks in which a session reads samples of a rate. -/
def chunkLength (session : Session σ) (rate : UInt32) : Nat :=
  (session.plan.framing rate).chunkLength

/-- The source is where reads of the session's chunk length take it from its first sample. -/
def Placed (samples : List Sample) (rate : UInt32) (session : Session σ) : Prop :=
  ∃ read cursor, session.scene.source.cursor? = some cursor ∧
    (Cursor.ofSamples samples rate).Reads (session.chunkLength rate) read cursor

/-- A part of a session that leaves the source at such a place and asks for no position out of
range. -/
def StaysPlaced (samples : List Sample) (rate : UInt32) {α : Type} (course : Course σ α) : Prop :=
  course.outcome ≠ .error .positionOverflow ∧ Placed samples rate course.session

variable {samples : List Sample} {rate : UInt32}

theorem Placed.of_rests (h : Placed samples rate before) (hrests : Rests before after) :
    Placed samples rate after := by
  obtain ⟨read, cursor, hcursor, hreads⟩ := h
  refine ⟨read, cursor, hrests.cursor_eq.trans hcursor, ?_⟩
  rw [chunkLength, hrests.plan_eq]
  exact hreads

theorem placed_of_cursor? (h : session.scene.source.cursor? = some (.ofSamples samples rate)) :
    Placed samples rate session :=
  ⟨[], _, h, .nil _⟩

/-- Streaming reads on in chunks of that length. -/
theorem staysPlaced_streamCourse (transport : Transport σ) (fuel : Nat)
    (hsamples : samples.length ≤ Cursor.capacity) (h : Placed samples rate session) :
    StaysPlaced samples rate (session.streamCourse transport fuel) := by
  have hstreams := streamsSource_streamCourse transport fuel session
  obtain ⟨read, cursor, hcursor, hreads⟩ := h
  have hlength : (session.plan.framing cursor.rate).chunkLength = session.chunkLength rate := by
    rw [hreads.rate_eq]
    rfl
  rcases Nat.eq_zero_or_pos (session.chunkLength rate) with hnone | hn
  · have hempty : (session.plan.framing session.scene.source.rate).chunkLength = 0 := by
      rw [chunkLength_eq hcursor, hlength, hnone]
    have hplaced : Placed samples rate session := ⟨read, cursor, hcursor, hreads⟩
    simp only [streamCourse, plan_moveTo, source_moveTo, hempty, if_true]
    exact ⟨by simp [Course.done], hplaced.of_rests (steady_rests.moveTo session .streaming)⟩
  · have hfits := (Cursor.Fits.ofSamples samples rate
      (session.plan.framing rate).chunkLength_lt hsamples).of_reads hreads
    obtain ⟨hhalt, read', cursor', hprogress, -⟩ :=
      hstreams.progress hcursor (hlength ▸ hn) (hlength ▸ hfits)
    constructor
    · intro hoverflow
      simpa using hhalt _ hoverflow
    · refine ⟨read ++ read', cursor', hprogress.finish, ?_⟩
      rw [chunkLength, hstreams.plan_eq]
      exact hreads.trans (hlength ▸ hprogress.reads)

theorem staysPlaced_finishCourse (transport : Transport σ) (fuel : Nat)
    (h : Placed samples rate session) :
    StaysPlaced samples rate (session.finishCourse transport fuel) := by
  cases hfinal : session.phase.isFinal with
  | true =>
    simp only [finishCourse, hfinal, if_true]
    exact ⟨by simp [Course.done], h⟩
  | false =>
    have hfinishes := finishes_finishCourse transport fuel hfinal
    refine ⟨fun hoverflow => ?_, h.of_rests (steady_rests.finishes hfinishes)⟩
    rw [hoverflow] at hfinishes
    simpa using hfinishes.halt_cases

/-! ## Any sequence of parts -/

/-- What follows a part that stays in place stays in place. -/
theorem StaysPlaced.andThen {α β : Type} {course : Course σ α}
    {next : α → Session σ → Course σ β} (h : StaysPlaced samples rate course)
    (hnext : ∀ outcome session, Placed samples rate session →
      StaysPlaced samples rate (next outcome session)) :
    StaysPlaced samples rate (course.andThen next) := by
  rcases course with ⟨halt | outcome, session⟩
  · exact ⟨fun hoverflow => h.1 (by simpa [Course.andThen, Course.halted] using hoverflow), h.2⟩
  · exact hnext outcome session h.2

theorem staysPlaced_done {α : Type} (outcome : α) (h : Placed samples rate session) :
    StaysPlaced samples rate (.done outcome session) :=
  ⟨by simp [Course.done], h⟩

theorem staysPlaced_fulfil (transport : Transport σ) (fuel : Nat) (request : Request)
    (hsamples : samples.length ≤ Cursor.capacity) (h : Placed samples rate session) :
    StaysPlaced samples rate (session.fulfil transport fuel request) := by
  cases request with
  | configure =>
    exact staysPlaced_done _ (h.of_rests (steady_rests.opens (opens_configure transport session)))
  | stream =>
    exact (staysPlaced_streamCourse transport fuel hsamples h).andThen fun _ _ hnext =>
      staysPlaced_done _ hnext
  | drain =>
    have hdrains := drains_drainCourse transport fuel session
    have hdrained : StaysPlaced samples rate (session.drainCourse transport fuel) :=
      ⟨fun hoverflow => by simpa using hdrains.halt_eq _ hoverflow,
        h.of_rests (steady_rests.drains hdrains)⟩
    exact hdrained.andThen fun _ _ hnext => staysPlaced_done _ hnext
  | finish => exact staysPlaced_finishCourse transport fuel h
  | close => exact staysPlaced_done _ (h.of_rests (steady_rests.close transport session))

theorem staysPlaced_fulfilAll (transport : Transport σ) (requests : List (Request × Nat))
    (hsamples : samples.length ≤ Cursor.capacity) (h : Placed samples rate session) :
    StaysPlaced samples rate (session.fulfilAll transport requests) := by
  induction requests generalizing session with
  | nil => exact staysPlaced_done () h
  | cons asked rest ih =>
    exact (staysPlaced_fulfil transport asked.2 asked.1 hsamples h).andThen fun _ _ hnext =>
      ih hnext

theorem staysPlaced_runCourse (transport : Transport σ) (fuel : Nat)
    (hsamples : samples.length ≤ Cursor.capacity) (h : Placed samples rate session) :
    StaysPlaced samples rate (session.runCourse transport fuel) := by
  have hopened := h.of_rests (steady_rests.opens (opens_configure transport session))
  unfold runCourse
  split
  · exact staysPlaced_done _ ((h.of_rests (steady_rests.note session _)).of_rests
      (steady_rests.close transport _))
  · split
    · rename_i hconfigure
      rw [hconfigure] at hopened
      exact staysPlaced_done _ ((hopened.of_rests (steady_rests.note _ _)).of_rests
        (steady_rests.close transport _))
    · rename_i hconfigure
      rw [hconfigure] at hopened
      refine (staysPlaced_streamCourse transport fuel hsamples hopened).andThen
        fun result streamed hstreamed => ?_
      exact (staysPlaced_finishCourse transport fuel
        (hstreamed.of_rests (rests_endStreaming streamed result))).andThen
          fun _ _ hfinished => staysPlaced_done _ hfinished

end Session

/-- Nobody but the caller of a cursor makes a position leave the range of a 64-bit number.

Of samples that fit into memory, of any rate and for chunks of any duration, framing makes
payloads; and wherever reads of that chunk length have taken a cursor, the position after the
next chunk is in range as long as something is left.

In a session whose source holds these samples, freshly opened, no part asks for a position out of
range, over any transport, in any order of parts, and however far the session comes: it leaves
the source where such reads have taken it. -/
theorem positions_in_range (samples : List Sample) (rate : UInt32)
    (hsamples : samples.length ≤ Cursor.capacity) :
    (∀ chunkMs,
      (∃ payloads, (Framing.mk chunkMs rate).payloads samples = .ok payloads) ∧
      ∀ read cursor,
        (Cursor.ofSamples samples rate).Reads (Framing.mk chunkMs rate).chunkLength read cursor →
        cursor.rest ≠ [] →
        cursor.served + (Framing.mk chunkMs rate).chunkLength < UInt64.size) ∧
    ∀ {σ : Type} (transport : Transport σ) (session : Session σ),
      session.scene.source.cursor? = some (.ofSamples samples rate) →
      (∀ fuel, Session.StaysPlaced samples rate (session.streamCourse transport fuel)) ∧
      (∀ requests, Session.StaysPlaced samples rate (session.fulfilAll transport requests)) ∧
      ∀ fuel, Session.StaysPlaced samples rate (session.runCourse transport fuel) := by
  refine ⟨fun chunkMs => ⟨Framing.exists_payloads _ hsamples, fun read cursor hreads hrest => ?_⟩,
    fun transport session hcursor => ?_⟩
  · have hfits := Cursor.Fits.ofSamples samples rate (Framing.chunkLength_lt ⟨chunkMs, rate⟩)
      hsamples
    exact (hfits.of_reads hreads).served_add_lt hrest
  · have hplaced := Session.placed_of_cursor? hcursor
    exact ⟨fun fuel => Session.staysPlaced_streamCourse transport fuel hsamples hplaced,
      fun requests => Session.staysPlaced_fulfilAll transport requests hsamples hplaced,
      fun fuel => Session.staysPlaced_runCourse transport fuel hsamples hplaced⟩

/-- A session over two samples, whose chunks are longer than a 64-bit number tells. -/
def Session.saturated : Session Rehearsal :=
  .start { SessionPlan.brief with chunkMs := 18446744073709551615 }
    (.ofSource (.recording (.ofSamples [⟨0⟩, ⟨1⟩] 4294967295))) (.ofScript .talkative)

/-- It asks for one chunk, and then for one more. -/
theorem positions_in_range_saturated :
    (Framing.mk 18446744073709551615 4294967295).chunkLength = UInt64.size - 1 ∧
      ∀ fuel, (Session.saturated.runCourse Rehearsal.transport fuel).outcome ≠
        .error .positionOverflow := by
  obtain ⟨-, hsessions⟩ := positions_in_range [⟨0⟩, ⟨1⟩] 4294967295 (by decide)
  obtain ⟨-, -, hrun⟩ := hsessions Rehearsal.transport Session.saturated rfl
  exact ⟨by decide +kernel, fun fuel => (hrun fuel).1⟩

/-- A cursor from which one sample was read, and then all the rest are asked for. -/
example : (Cursor.mk 10 1 [⟨1⟩]).next (UInt64.size - 1) = .error .positionOverflow := rfl

end SpeechProbe
