import SpeechProbe.Proofs.Session.Courses

/-!
# What holds across every part of a session

A relation between two moments of a session that holds across each single step of a part
holds across the part.  `Local`, `Passive`, `Steady`, `Audible` and `Lively` say which
steps: a theorem about a part asks for the smallest of them that covers it, and a relation
shows its steps once.

The journal grows across every part, and the plan and the phase change only where a part
begins or the session is closed.  That much is needed to see that what a session computes
is a course.
-/

namespace SpeechProbe.Session

variable {σ : Type}

/-! ## Relations across steps -/

/-- A relation between two moments of a session that holds across receives and across
whatever calls no transport and begins no phase. -/
structure Local (R : Session σ → Session σ → Prop) : Prop where
  refl : ∀ session, R session session
  trans : ∀ {first second third}, R first second → R second third → R first third
  waited : ∀ {before after}, Waited before after → R before after
  note : ∀ session note, R session (session.note note)
  count : ∀ session g, R session (session.count g)
  tell : ∀ session call, R session (session.tell call)
  received : ∀ {before after time timeout elapsed result},
    Exchanged before (.received time timeout elapsed result) elapsed after → R before after

/-- A relation that also holds across the announcement and from phase to phase. -/
structure Passive (R : Session σ → Session σ → Prop) : Prop extends Local R where
  moveTo : ∀ session next, R session (session.moveTo next)
  announced : ∀ {before after time announcement elapsed result},
    Exchanged before (.sentMessage time (.config announcement) elapsed result) elapsed after →
      R before after

/-- A relation that also holds across the end mark and across `close`. -/
structure Steady (R : Session σ → Session σ → Prop) : Prop extends Passive R where
  ended : ∀ {before after time elapsed result},
    Exchanged before (.sentMessage time .finished elapsed result) elapsed after → R before after
  closed : ∀ {before after time elapsed result},
    Exchanged before (.closed time elapsed result) elapsed after → R before after

/-- A relation that holds where audio is taken and sent. -/
structure Audible (R : Session σ → Session σ → Prop) : Prop extends Local R where
  fetched : ∀ {before after fetched}, Keeps before after →
    Scene.Fetches before.scene fetched after.scene → R before after
  sent : ∀ {before after time payload elapsed result},
    Exchanged before (.sentAudio time payload elapsed result) elapsed after → R before after

/-- A relation that holds up to the end mark. -/
structure Lively (R : Session σ → Session σ → Prop) : Prop extends Passive R, Audible R

section Relations

variable {transport : Transport σ} {R : Session σ → Session σ → Prop}
  {before after : Session σ}

namespace Local

theorem accept (hR : Local R) (session : Session σ) (text : String) :
    R session (session.accept text) := by
  have hcounted := hR.count session Stats.countReceived
  unfold Session.accept
  split
  · exact hR.trans (hR.trans hcounted (hR.tell _ _)) (hR.count _ _)
  · exact hR.trans (hR.trans hcounted (hR.note _ _)) (hR.count _ _)

theorem receive (hR : Local R) {timeout : Nanos} {result : Except Error Received}
    (h : before.receive transport timeout = (result, after)) : R before after := by
  obtain ⟨_, hexchanged⟩ := exchanged_receive h
  exact hR.received hexchanged

theorem drains (hR : Local R) {out : Except Halt (Except Error Drained)}
    (h : Drains transport before out after) : R before after := by
  induction h with
  | outOfSteps session => exact hR.refl session
  | failed receive => exact hR.receive receive
  | dry frames receive => exact hR.receive receive
  | closed frames receive => exact hR.trans (hR.receive receive) (hR.count _ _)
  | text receive rest ih => exact hR.trans (hR.trans (hR.receive receive) (hR.accept _ _)) ih

theorem answers (hR : Local R) {received : Received} {result : Except Error Handshake}
    (h : Answers before received result after) : R before after := by
  have hcounted := hR.count before Stats.countReceived
  cases h with
  | ready decode => exact hR.trans (hR.trans hcounted (hR.count _ _)) (hR.tell _ _)
  | other decode kind lenient note =>
    have hnoted := hR.trans hcounted (hR.note _ note)
    exact hR.trans (hR.trans hnoted (hR.count _ _)) (hR.tell _ _)
  | undecodable decode lenient note =>
    exact hR.trans (hR.trans hcounted (hR.note _ note)) (hR.count _ _)
  | refused decode strict e => exact hcounted
  | silence lenient note => exact hR.note _ note
  | impatient strict e => exact hR.refl before
  | closed => exact hR.count before _

theorem collects (hR : Local R) {deadline : Nanos} {out : Except Halt Unit}
    (h : Collects transport deadline before out after) : R before after := by
  induction h with
  | outOfSteps session => exact hR.refl session
  | past due => exact hR.refl _
  | broke early drain => exact hR.drains drain
  | failed early drain => exact hR.trans (hR.drains drain) (hR.note _ _)
  | closed early drain => exact hR.drains drain
  | again early drain rest ih =>
    exact hR.trans (hR.trans (hR.drains drain) (hR.waited (waited_rest _ _))) ih

end Local

namespace Passive

theorem announce (hR : Passive R) {announcement : Announcement} {result : Except Error Unit}
    (h : (before.moveTo .configuring).sendMessage transport (.config announcement) =
      (result, after)) : R before after := by
  obtain ⟨_, hexchanged⟩ := exchanged_sendMessage h
  exact hR.trans (hR.moveTo before _) (hR.announced hexchanged)

theorem opens (hR : Passive R) {result : Except Error Handshake}
    (h : Opens transport before result after) : R before after := by
  cases h with
  | unsent send => exact hR.announce send
  | unanswered send receive => exact hR.trans (hR.announce send) (hR.receive receive)
  | rejected send receive answer =>
    have hreceived := hR.trans (hR.announce send) (hR.receive receive)
    exact hR.trans hreceived (hR.answers answer)
  | accepted send receive answer =>
    have hreceived := hR.trans (hR.announce send) (hR.receive receive)
    exact hR.trans (hR.trans hreceived (hR.answers answer)) (hR.count _ _)

end Passive

namespace Steady

theorem sendEnd (hR : Steady R) (transport : Transport σ) (session : Session σ) :
    R session (session.sendEnd transport) := by
  obtain ⟨sent, result, elapsed, hexchanged, hsend⟩ := sendEnd_spec transport session
  have hsent := hR.ended hexchanged
  rcases hsend with ⟨_, hsend⟩ | ⟨note, hsend⟩
  · rw [hsend]
    exact hR.trans hsent (hR.count _ _)
  · rw [hsend]
    exact hR.trans hsent (hR.note _ note)

theorem close (hR : Steady R) (transport : Transport σ) (session : Session σ) :
    R session (session.close transport) := by
  cases hphase : session.phase.isFinal with
  | true =>
    simp only [Session.close, hphase, if_true]
    exact hR.refl session
  | false =>
    obtain ⟨closed, result, elapsed, hexchanged, hclose⟩ := close_spec transport hphase
    have hclosed := hR.closed hexchanged
    rcases hclose with hclose | ⟨note, hclose⟩
    · rw [hclose]
      exact hR.trans hclosed (hR.moveTo _ _)
    · rw [hclose]
      exact hR.trans (hR.trans hclosed (hR.note _ note)) (hR.moveTo _ _)

theorem finishes (hR : Steady R) {out : Except Halt Unit}
    (h : Finishes transport before out after) : R before after := by
  have hmoved := hR.moveTo before .draining
  have hsent := hR.trans hmoved (hR.sendEnd transport _)
  cases h with
  | cut closed => exact hR.trans hmoved (hR.close transport _)
  | overflow open' deadline => exact hsent
  | broke open' window collect => exact hR.trans hsent (hR.collects collect)
  | collected open' window collect =>
    exact hR.trans (hR.trans hsent (hR.collects collect)) (hR.close transport _)

end Steady

namespace Audible

theorem sendChunk (hR : Audible R) {chunk : Chunk} {result : Except Error Unit}
    (h : before.sendChunk transport chunk = (result, after)) : R before after := by
  cases result with
  | error e =>
    obtain ⟨_, hexchanged⟩ := exchanged_sendChunk_error h
    exact hR.sent hexchanged
  | ok _ =>
    obtain ⟨_, _, hexchanged, rfl⟩ := exchanged_sendChunk_ok h
    exact hR.trans (hR.sent hexchanged) (hR.count _ _)

theorem delivers (hR : Audible R) {chunk : Chunk}
    {out : Except Halt (Option (Except Error Unit))}
    (h : Delivers transport chunk before out after) : R before after := by
  cases h with
  | refused send => exact hR.sendChunk send
  | broke send drain => exact hR.trans (hR.sendChunk send) (hR.drains drain)
  | failed send drain => exact hR.trans (hR.sendChunk send) (hR.drains drain)
  | closed send drain => exact hR.trans (hR.sendChunk send) (hR.drains drain)
  | stopped send drain pace =>
    have hdrained := hR.trans (hR.sendChunk send) (hR.drains drain)
    exact hR.trans hdrained (hR.waited (waited_pace pace))
  | paced send drain pace =>
    have hdrained := hR.trans (hR.sendChunk send) (hR.drains drain)
    exact hR.trans hdrained (hR.waited (waited_pace pace))

theorem round (hR : Audible R) {n : Nat} {out : Except Halt (Option (Except Error Unit))}
    (h : Round transport n before out after) : R before after := by
  cases h with
  | stopped stop => exact hR.refl before
  | broke running next =>
    obtain ⟨hkeeps, ⟨_, rfl⟩ | ⟨_, _, hfetches⟩⟩ := nextAudio_halted running next
    · exact hR.refl after
    · exact hR.fetched hkeeps hfetches
  | ended running next =>
    obtain ⟨hkeeps, _, _, hfetches⟩ := nextAudio_none running next
    exact hR.fetched hkeeps hfetches
  | skipped running next empty =>
    obtain ⟨hkeeps, _, _, hfetches⟩ := nextAudio_some running next
    exact hR.fetched hkeeps hfetches
  | held running next audio stop =>
    obtain ⟨hkeeps, _, _, hfetches⟩ := nextAudio_some running next
    exact hR.fetched hkeeps hfetches
  | delivered running next audio running' deliver =>
    obtain ⟨hkeeps, _, _, hfetches⟩ := nextAudio_some running next
    exact hR.trans (hR.fetched hkeeps hfetches) (hR.delivers deliver)

theorem streams (hR : Audible R) {n : Nat} {out : Except Halt (Except Error Unit)}
    (h : Streams transport n before out after) : R before after := by
  induction h with
  | outOfSteps session => exact hR.refl session
  | broke round => exact hR.round round
  | last round => exact hR.round round
  | more round rest ih => exact hR.trans (hR.round round) ih

end Audible

namespace Lively

theorem streamsSource (hR : Lively R) {out : Except Halt (Except Error Unit)}
    (h : StreamsSource transport before out after) : R before after := by
  have hmoved := hR.moveTo before .streaming
  cases h with
  | unstreamable key reason empty => exact hmoved
  | rounds audio streams => exact hR.trans hmoved (hR.streams streams)

end Lively

end Relations

/-- A view that no passive step adds to stays as it is across all of them. -/
theorem passive_view_eq {α : Type} (f : Entry → Option α) [Entry.Blind f]
    (hcalled : ∀ call, f (.called call) = none)
    (hannounced : ∀ time announcement elapsed result,
      f (.sentMessage time (.config announcement) elapsed result) = none)
    (hreceived : ∀ time timeout elapsed result, f (.received time timeout elapsed result) = none) :
    Passive fun before after : Session σ => after.view f = before.view f where
  refl := fun _ => rfl
  trans := fun h h' => h'.trans h
  waited := fun h => h.view_eq f
  note := fun session note => view_note session f note
  count := fun _ _ => rfl
  tell := by
    intro session call
    rw [view_tell, hcalled call]
    exact List.append_nil _
  moveTo := fun session next => view_moveTo session f next
  announced := by
    intro before after time announcement elapsed result h
    exact h.view_eq_of_none f (hannounced time announcement elapsed result)
  received := by
    intro before after time timeout elapsed result h
    exact h.view_eq_of_none f (hreceived time timeout elapsed result)

/-! ## Plan and phase

The plan never changes, and the phase only where a part begins or the session is closed. -/

section Stays

variable {transport : Transport σ} {before after : Session σ}

theorem local_stays : Local (Stays (σ := σ)) where
  refl := .refl
  trans := .trans
  waited := fun h => h.toStays
  note := fun session note => (keeps_note session note).toStays
  count := stays_count
  tell := fun session call => (keeps_tell session call).toStays
  received := fun h => h.toStays

theorem audible_stays : Audible (Stays (σ := σ)) :=
  ⟨local_stays, fun h _ => h.toStays, fun h => h.toStays⟩

theorem Drains.stays {outcome : Except Halt (Except Error Drained)}
    (h : Drains transport before outcome after) : Stays before after :=
  local_stays.drains h

theorem Round.stays {n : Nat} {outcome : Except Halt (Option (Except Error Unit))}
    (h : Round transport n before outcome after) : Stays before after :=
  audible_stays.round h

theorem Collects.stays {deadline : Nanos} {outcome : Except Halt Unit}
    (h : Collects transport deadline before outcome after) : Stays before after :=
  local_stays.collects h

/-- However the exchange before the audio ends, the session is still in that phase. -/
theorem Opens.stays {result : Except Error Handshake} (h : Opens transport before result after) :
    Stays (before.moveTo .configuring) after := by
  cases h with
  | unsent send =>
    obtain ⟨_, hsent⟩ := exchanged_sendMessage send
    exact hsent.toStays
  | unanswered send receive =>
    obtain ⟨_, hsent⟩ := exchanged_sendMessage send
    exact hsent.toStays.trans (local_stays.receive receive)
  | rejected send receive answer =>
    obtain ⟨_, hsent⟩ := exchanged_sendMessage send
    exact (hsent.toStays.trans (local_stays.receive receive)).trans (local_stays.answers answer)
  | accepted send receive answer =>
    obtain ⟨_, hsent⟩ := exchanged_sendMessage send
    have hanswered := (local_stays.receive receive).trans (local_stays.answers answer)
    exact (hsent.toStays.trans hanswered).trans (stays_count _ _)

theorem Opens.phase_eq {result : Except Error Handshake}
    (h : Opens transport before result after) : after.phase = .configuring :=
  h.stays.phase_eq

theorem Opens.plan_eq {result : Except Error Handshake}
    (h : Opens transport before result after) : after.plan = before.plan :=
  h.stays.plan_eq.trans (plan_moveTo before _)

/-- Streaming leaves a session in its streaming phase. -/
theorem StreamsSource.stays {outcome : Except Halt (Except Error Unit)}
    (h : StreamsSource transport before outcome after) :
    Stays (before.moveTo .streaming) after := by
  cases h with
  | unstreamable key reason empty => exact .refl _
  | rounds audio streams => exact audible_stays.streams streams

theorem StreamsSource.plan_eq {outcome : Except Halt (Except Error Unit)}
    (h : StreamsSource transport before outcome after) : after.plan = before.plan :=
  h.stays.plan_eq.trans (plan_moveTo before _)

/-- A session whose streaming has ended is not closed yet. -/
theorem StreamsSource.not_final {outcome : Except Halt (Except Error Unit)}
    (h : StreamsSource transport before outcome after) (result : Except Error Unit) :
    (after.endStreaming result).phase.isFinal = false := by
  rw [(stays_endStreaming after result).phase_eq, h.stays.phase_eq]
  rfl

end Stays

/-! ## Growth of the journal -/

section Growth

variable {transport : Transport σ} {before after : Session σ}

theorem passive_grows : Passive (Grows (σ := σ)) where
  refl := .refl
  trans := .trans
  waited := fun h => h.grows
  note := fun session note => (keeps_note session note).grows
  count := fun session g => (stays_count session g).grows
  tell := fun session call => (keeps_tell session call).grows
  moveTo := grows_moveTo
  announced := fun h => h.grows
  received := fun h => h.grows

theorem steady_grows : Steady (Grows (σ := σ)) :=
  ⟨passive_grows, fun h => h.grows, fun h => h.grows⟩

theorem lively_grows : Lively (Grows (σ := σ)) :=
  ⟨passive_grows, fun h _ => h.grows, fun h => h.grows⟩

/-- Whatever a session does, it only adds to its journal. -/
theorem Runs.grows {outcome : Except Halt (Except Error Stats)}
    (h : Runs transport before outcome after) : Grows before after := by
  cases h with
  | invalid check note =>
    exact (keeps_note before note).grows.trans (steady_grows.close transport _)
  | refused check opens note =>
    have hopened := steady_grows.opens opens
    exact (hopened.trans (keeps_note _ note).grows).trans (steady_grows.close transport _)
  | broke check opens streams =>
    exact (steady_grows.opens opens).trans (lively_grows.streamsSource streams)
  | unfinished check opens streams finishes =>
    have hstreamed := (steady_grows.opens opens).trans (lively_grows.streamsSource streams)
    have hfinished := steady_grows.finishes finishes
    exact (hstreamed.trans (stays_endStreaming _ _).grows).trans hfinished
  | finished check opens streams finishes =>
    have hstreamed := (steady_grows.opens opens).trans (lively_grows.streamsSource streams)
    have hfinished := steady_grows.finishes finishes
    exact (hstreamed.trans (stays_endStreaming _ _).grows).trans hfinished

end Growth

/-! ## Courses -/

variable (transport : Transport σ)

/-- What a session computes is a course. -/
theorem runs_runCourse (fuel : Nat) (session : Session σ) :
    Runs transport session (session.runCourse transport fuel).outcome
      (session.runCourse transport fuel).session := by
  cases hcheck : session.plan.check with
  | error e =>
    simp only [runCourse, hcheck, abandon]
    exact .invalid hcheck _
  | ok _ =>
    have hopens := opens_configure transport session
    rcases hconfigure : session.configure transport with ⟨e | handshake, opened⟩
    · rw [hconfigure] at hopens
      simp only [runCourse, hcheck, hconfigure, abandon]
      exact .refused hcheck hopens _
    · rw [hconfigure] at hopens
      have hstreams := streamsSource_streamCourse transport fuel opened
      rcases hstream : opened.streamCourse transport fuel with ⟨halt | result, streamed⟩
      · rw [hstream] at hstreams
        simp only [runCourse, hcheck, hconfigure, hstream, Course.andThen]
        exact .broke hcheck hopens hstreams
      · rw [hstream] at hstreams
        have hfinishes := finishes_finishCourse transport fuel (hstreams.not_final result)
        rcases hfinish : (streamed.endStreaming result).finishCourse transport fuel with
          ⟨halt | _, after⟩
        · rw [hfinish] at hfinishes
          simp only [runCourse, hcheck, hconfigure, hstream, hfinish, Course.andThen]
          exact .unfinished hcheck hopens hstreams hfinishes
        · rw [hfinish] at hfinishes
          simp only [runCourse, hcheck, hconfigure, hstream, hfinish, Course.andThen]
          exact .finished hcheck hopens hstreams hfinishes

/-- A session that returns is left as its course left it. -/
theorem runCourse_of_run {fuel : Nat} {session after : Session σ} {result : Except Error Stats}
    (h : session.run transport fuel = .ok (result, after)) :
    session.runCourse transport fuel = .done result after := by
  rcases hcourse : session.runCourse transport fuel with ⟨halt | result', after'⟩
  · simp [run, hcourse, Course.returned] at h
  · simp only [run, hcourse, Course.returned, Except.ok.injEq, Prod.mk.injEq] at h
    obtain ⟨rfl, rfl⟩ := h
    rfl

/-- A session that returns took a course that ended. -/
theorem runs_of_run {fuel : Nat} {session after : Session σ} {result : Except Error Stats}
    (h : session.run transport fuel = .ok (result, after)) :
    Runs transport session (.ok result) after := by
  have hruns := runs_runCourse transport fuel session
  rw [runCourse_of_run transport h] at hruns
  exact hruns

end SpeechProbe.Session
