import SpeechProbe.Proofs.Frames
import SpeechProbe.Proofs.Session.Passage
import SpeechProbe.Session.Run

/-!
# What single steps of a session do

One lemma for each step says which entries it makes, which counters it touches and what
it leaves alone.  Later modules cite these lemmas and do not open the steps.
-/

namespace SpeechProbe.Session

variable {σ α : Type}

/-- The entries on which `f` is defined. -/
def view (f : Entry → Option α) (session : Session σ) : List α := session.scene.view f

/-- The journal grew. -/
def Grows (before after : Session σ) : Prop :=
  ∃ entries, Scene.Grows before.scene after.scene entries

theorem Grows.refl (session : Session σ) : Grows session session := ⟨[], .refl _⟩

theorem Grows.trans {first second third : Session σ} (h : Grows first second)
    (h' : Grows second third) : Grows first third := by
  obtain ⟨entries, hgrows⟩ := h
  obtain ⟨entries', hgrows'⟩ := h'
  exact ⟨_, hgrows.trans hgrows'⟩

/-- Views never shrink. -/
theorem Grows.length_view_le {before after : Session σ} (h : Grows before after)
    (f : Entry → Option α) : (before.view f).length ≤ (after.view f).length := by
  obtain ⟨entries, hgrows⟩ := h
  rw [view, view, Scene.view_of_entries hgrows.entries_eq, List.length_append]
  exact Nat.le_add_right _ _

/-- The session has the same plan and is in the same phase, and its journal grew. -/
structure Stays (before after : Session σ) : Prop where
  plan_eq : after.plan = before.plan
  phase_eq : after.phase = before.phase
  grows : Grows before after

theorem Stays.refl (session : Session σ) : Stays session session := ⟨rfl, rfl, .refl session⟩

theorem Stays.trans {first second third : Session σ} (h : Stays first second)
    (h' : Stays second third) : Stays first third where
  plan_eq := h'.plan_eq.trans h.plan_eq
  phase_eq := h'.phase_eq.trans h.phase_eq
  grows := h.grows.trans h'.grows

/-- Nothing but the scene and the state of the transport differs. -/
structure Keeps (before after : Session σ) : Prop extends Stays before after where
  stats_eq : after.stats = before.stats

/-! ## Bookkeeping -/

section Bookkeeping

variable (session : Session σ)

@[simp] theorem plan_count (g : Stats → Stats) : (session.count g).plan = session.plan := rfl

@[simp] theorem phase_count (g : Stats → Stats) : (session.count g).phase = session.phase := rfl

@[simp] theorem stats_count (g : Stats → Stats) :
    (session.count g).stats = g session.stats := rfl

@[simp] theorem scene_count (g : Stats → Stats) : (session.count g).scene = session.scene := rfl

@[simp] theorem view_count (f : Entry → Option α) (g : Stats → Stats) :
    (session.count g).view f = session.view f := rfl

theorem stays_count (g : Stats → Stats) : Stays session (session.count g) :=
  ⟨rfl, rfl, [], .refl _⟩

theorem keeps_note (note : Note) : Keeps session (session.note note) :=
  ⟨⟨rfl, rfl, _, Scene.grows_record _ rfl⟩, rfl⟩

theorem keeps_tell (call : Call) : Keeps session (session.tell call) :=
  ⟨⟨rfl, rfl, _, Scene.grows_record _ rfl⟩, rfl⟩

@[simp] theorem view_note (f : Entry → Option α) [Entry.Blind f] (note : Note) :
    (session.note note).view f = session.view f :=
  Scene.view_record_background f _ rfl

@[simp] theorem view_tell (f : Entry → Option α) (call : Call) :
    (session.tell call).view f = session.view f ++ (f (.called call)).toList :=
  Scene.view_record f _ _

@[simp] theorem plan_moveTo (next : Phase) : (session.moveTo next).plan = session.plan := by
  unfold moveTo
  split <;> rfl

@[simp] theorem phase_moveTo (next : Phase) : (session.moveTo next).phase = next := rfl

@[simp] theorem stats_moveTo (next : Phase) :
    (session.moveTo next).stats = { session.stats with finalPhase := next } := by
  unfold moveTo
  split <;> rfl

@[simp] theorem clock_moveTo (next : Phase) :
    (session.moveTo next).clock = session.clock := by
  unfold moveTo
  split <;> rfl

@[simp] theorem source_moveTo (next : Phase) :
    (session.moveTo next).scene.source = session.scene.source := by
  unfold moveTo
  split <;> rfl

@[simp] theorem peer_moveTo (next : Phase) : (session.moveTo next).peer = session.peer := by
  unfold moveTo
  split <;> rfl

theorem grows_moveTo (next : Phase) : Grows session (session.moveTo next) := by
  unfold moveTo
  split
  · exact ⟨_, Scene.grows_record _ rfl⟩
  · exact (keeps_note session _).grows.trans ⟨_, Scene.grows_record _ rfl⟩

@[simp] theorem view_moveTo (f : Entry → Option α) [Entry.Blind f] (next : Phase) :
    (session.moveTo next).view f = session.view f := by
  unfold moveTo
  split
  · exact Scene.view_record_background f _ rfl
  · exact (Scene.view_record_background f _ rfl).trans (view_note session f _)

end Bookkeeping

/-! ## Waiting -/

/-- The session waited: time passed, and nothing else. -/
structure Waited (before after : Session σ) : Prop extends Keeps before after where
  passage : ∃ entries, Scene.Passage before.scene after.scene entries
  peer_eq : after.peer = before.peer

theorem Waited.view_eq {before after : Session σ} (h : Waited before after)
    (f : Entry → Option α) [Entry.Blind f] : after.view f = before.view f := by
  obtain ⟨entries, hpassage⟩ := h.passage
  exact hpassage.view_eq f

theorem Waited.cursor_eq {before after : Session σ} (h : Waited before after) :
    after.scene.source.cursor? = before.scene.source.cursor? := by
  obtain ⟨entries, hpassage⟩ := h.passage
  exact hpassage.cursor_eq

theorem waited_pace {session after : Session σ} {sentAt : Nanos} {goesOn : Bool}
    (h : session.pace sentAt = (goesOn, after)) : Waited session after := by
  have hafter := congrArg Prod.snd h
  subst hafter
  obtain ⟨entries, hpassage⟩ := (Scene.pace_spec session.scene session.interval sentAt).2
  exact ⟨⟨⟨rfl, rfl, entries, hpassage.toGrows⟩, rfl⟩, ⟨entries, hpassage⟩, rfl⟩

/-- Streaming goes on after a wait exactly when no stop was requested by its end. -/
theorem running_pace {session after : Session σ} {sentAt : Nanos} {goesOn : Bool}
    (h : session.pace sentAt = (goesOn, after)) : after.running = goesOn := by
  have hafter := congrArg Prod.snd h
  have hgoesOn := congrArg Prod.fst h
  subst hafter
  exact (Scene.pace_spec _ _ _).1.symm.trans hgoesOn

theorem waited_rest (session : Session σ) (deadline : Nanos) :
    Waited session (session.rest deadline) := by
  obtain ⟨entries, hpassage⟩ :=
    Scene.passage_advance session.scene (min (deadline - session.clock) session.plan.pollInterval)
  exact ⟨⟨⟨rfl, rfl, entries, hpassage.toGrows⟩, rfl⟩, ⟨entries, hpassage⟩, rfl⟩

@[simp] theorem clock_rest (session : Session σ) (deadline : Nanos) :
    (session.rest deadline).clock =
      session.clock + min (deadline - session.clock) session.plan.pollInterval :=
  Scene.clock_advance _ _

/-! ## Calls of the transport -/

/-- The session made one call of the transport, which is `entry` in the journal. -/
structure Exchanged (before : Session σ) (entry : Entry) (elapsed : Nanos)
    (after : Session σ) : Prop extends Keeps before after where
  passage : ∃ entries, Scene.Passage (before.scene.record entry) after.scene entries
  clock_eq : after.clock = before.clock + elapsed

namespace Exchanged

variable {before after : Session σ} {entry : Entry} {elapsed : Nanos}

theorem view_eq (h : Exchanged before entry elapsed after) (f : Entry → Option α)
    [Entry.Blind f] : after.view f = before.view f ++ (f entry).toList := by
  obtain ⟨entries, hpassage⟩ := h.passage
  exact (hpassage.view_eq f).trans (Scene.view_record f _ _)

/-- A view that is not defined on the call does not see it. -/
theorem view_eq_of_none (h : Exchanged before entry elapsed after) (f : Entry → Option α)
    [Entry.Blind f] (hnone : f entry = none) : after.view f = before.view f := by
  rw [h.view_eq f, hnone]
  exact List.append_nil _

theorem cursor_eq (h : Exchanged before entry elapsed after) :
    after.scene.source.cursor? = before.scene.source.cursor? := by
  obtain ⟨entries, hpassage⟩ := h.passage
  exact hpassage.cursor_eq

end Exchanged

theorem exchanged_of_exchange {ρ : Type} {session after : Session σ}
    {entry : Nanos → Except Error ρ → Entry} {reply : Reply σ ρ} {result : Except Error ρ}
    (h : session.exchange entry reply = (result, after))
    (hentry : (entry reply.elapsed result).isStop = false) :
    Exchanged session (entry reply.elapsed result) reply.elapsed after := by
  have hresult : reply.result = result := congrArg Prod.fst h
  have hafter := congrArg Prod.snd h
  subst hresult hafter
  let recorded := session.scene.record (entry reply.elapsed reply.result)
  have hrecorded := Scene.grows_record session.scene hentry
  obtain ⟨entries, hpassage⟩ := Scene.passage_advance recorded reply.elapsed
  have hclock : (recorded.advance reply.elapsed).clock = session.clock + reply.elapsed :=
    Scene.clock_advance recorded reply.elapsed
  cases hstop : reply.stop with
  | false =>
    simp only [exchange, hstop, Bool.false_eq_true, if_false]
    exact ⟨⟨⟨rfl, rfl, _, hrecorded.trans hpassage.toGrows⟩, rfl⟩, ⟨entries, hpassage⟩, hclock⟩
  | true =>
    have hstopped := hpassage.trans (Scene.passage_requestStop (recorded.advance reply.elapsed))
    simp only [exchange, hstop, if_true]
    exact ⟨⟨⟨rfl, rfl, _, hrecorded.trans hstopped.toGrows⟩, rfl⟩, ⟨_, hstopped⟩, hclock⟩

/-- After a call of the transport its result is known, and its state is the new one. -/
theorem exchange_eq {ρ : Type} (session : Session σ) (entry : Nanos → Except Error ρ → Entry)
    (reply : Reply σ ρ) (hentry : (entry reply.elapsed reply.result).isStop = false) :
    ∃ after, session.exchange entry reply = (reply.result, after) ∧ after.peer = reply.state ∧
      Exchanged session (entry reply.elapsed reply.result) reply.elapsed after :=
  ⟨_, rfl, rfl, exchanged_of_exchange rfl hentry⟩

variable {transport : Transport σ} {session after : Session σ}

theorem exchanged_sendMessage {message : Outbound} {result : Except Error Unit}
    (h : session.sendMessage transport message = (result, after)) :
    ∃ elapsed, Exchanged session (.sentMessage session.clock message elapsed result) elapsed
      after :=
  ⟨_, exchanged_of_exchange h rfl⟩

theorem exchanged_sendAudio {payload : Payload} {result : Except Error Unit}
    (h : session.sendAudio transport payload = (result, after)) :
    ∃ elapsed, Exchanged session (.sentAudio session.clock payload elapsed result) elapsed
      after :=
  ⟨_, exchanged_of_exchange h rfl⟩

theorem exchanged_receive {timeout : Nanos} {result : Except Error Received}
    (h : session.receive transport timeout = (result, after)) :
    ∃ elapsed, Exchanged session (.received session.clock timeout elapsed result) elapsed
      after :=
  ⟨_, exchanged_of_exchange h rfl⟩

theorem exchanged_closeTransport {result : Except Error Unit}
    (h : session.closeTransport transport = (result, after)) :
    ∃ elapsed, Exchanged session (.closed session.clock elapsed result) elapsed after :=
  ⟨_, exchanged_of_exchange h rfl⟩

/-- A chunk that was not taken is not counted. -/
theorem exchanged_sendChunk_error {chunk : Chunk} {e : Error}
    (h : session.sendChunk transport chunk = (.error e, after)) :
    ∃ elapsed, Exchanged session (.sentAudio session.clock chunk.payload elapsed (.error e))
      elapsed after := by
  rcases hsend : session.sendAudio transport chunk.payload with ⟨_ | _, sent⟩
  · simp only [sendChunk, hsend, Prod.mk.injEq, Except.error.injEq] at h
    obtain ⟨rfl, rfl⟩ := h
    exact exchanged_sendAudio hsend
  · simp [sendChunk, hsend] at h

/-- A chunk that was taken is counted. -/
theorem exchanged_sendChunk_ok {chunk : Chunk}
    (h : session.sendChunk transport chunk = (.ok (), after)) :
    ∃ sent elapsed, Exchanged session (.sentAudio session.clock chunk.payload elapsed (.ok ()))
      elapsed sent ∧
        after = sent.count (·.countSent chunk.payload.length chunk.seconds) := by
  rcases hsend : session.sendAudio transport chunk.payload with ⟨_ | _, sent⟩
  · simp [sendChunk, hsend] at h
  · simp only [sendChunk, hsend, Prod.mk.injEq, true_and] at h
    obtain ⟨elapsed, hexchanged⟩ := exchanged_sendAudio hsend
    exact ⟨sent, elapsed, hexchanged, h.symm⟩

theorem stats_sendChunk_ok {chunk : Chunk}
    (h : session.sendChunk transport chunk = (.ok (), after)) :
    after.stats = session.stats.countSent chunk.payload.length chunk.seconds := by
  obtain ⟨sent, _, hexchanged, rfl⟩ := exchanged_sendChunk_ok h
  rw [stats_count, hexchanged.stats_eq]

theorem stays_sendChunk_ok {chunk : Chunk}
    (h : session.sendChunk transport chunk = (.ok (), after)) : Stays session after := by
  obtain ⟨_, _, hexchanged, rfl⟩ := exchanged_sendChunk_ok h
  exact hexchanged.toStays.trans (stays_count _ _)

theorem view_sendChunk_ok {chunk : Chunk}
    (h : session.sendChunk transport chunk = (.ok (), after)) (f : Entry → Option α)
    [Entry.Blind f] : ∃ elapsed, after.view f = session.view f ++
      (f (.sentAudio session.clock chunk.payload elapsed (.ok ()))).toList := by
  obtain ⟨_, elapsed, hexchanged, rfl⟩ := exchanged_sendChunk_ok h
  exact ⟨elapsed, hexchanged.view_eq f⟩

/-- Closing is one call of the transport, whatever it answers. -/
theorem close_spec (transport : Transport σ) (h : session.phase.isFinal = false) :
    ∃ (closed : Session σ) (result : Except Error Unit) (elapsed : Nanos),
      Exchanged session (.closed session.clock elapsed result) elapsed closed ∧
        (session.close transport = closed.moveTo .closed ∨
          ∃ note, session.close transport = (closed.note note).moveTo .closed) := by
  unfold close
  rw [h]
  simp only [Bool.false_eq_true, if_false]
  split
  · rename_i hclose
    obtain ⟨elapsed, hexchanged⟩ := exchanged_closeTransport hclose
    exact ⟨_, _, elapsed, hexchanged, .inl rfl⟩
  · rename_i hclose
    obtain ⟨elapsed, hexchanged⟩ := exchanged_closeTransport hclose
    exact ⟨_, _, elapsed, hexchanged, .inr ⟨_, rfl⟩⟩

/-- Sending the end mark is one call of the transport, whatever it answers. -/
theorem sendEnd_spec (transport : Transport σ) (session : Session σ) :
    ∃ (sent : Session σ) (result : Except Error Unit) (elapsed : Nanos),
      Exchanged session (.sentMessage session.clock .finished elapsed result) elapsed sent ∧
        (result = .ok () ∧
            session.sendEnd transport = sent.count (fun stats => { stats with endSent := true }) ∨
          ∃ note, session.sendEnd transport = sent.note note) := by
  unfold sendEnd
  split
  · rename_i hsend
    obtain ⟨elapsed, hexchanged⟩ := exchanged_sendMessage hsend
    exact ⟨_, _, elapsed, hexchanged, .inl ⟨rfl, rfl⟩⟩
  · rename_i hsend
    obtain ⟨elapsed, hexchanged⟩ := exchanged_sendMessage hsend
    exact ⟨_, _, elapsed, hexchanged, .inr ⟨_, rfl⟩⟩

/-- A blind view of `close` sees that one call. -/
theorem view_close (transport : Transport σ) (h : session.phase.isFinal = false)
    (f : Entry → Option α) [Entry.Blind f] : ∃ elapsed result,
      (session.close transport).view f =
        session.view f ++ (f (.closed session.clock elapsed result)).toList := by
  obtain ⟨closed, result, elapsed, hexchanged, hclose⟩ := close_spec transport h
  have hclosed := hexchanged.view_eq f
  refine ⟨elapsed, result, ?_⟩
  rcases hclose with hclose | ⟨note, hclose⟩
  · rw [hclose, view_moveTo, hclosed]
  · rw [hclose, view_moveTo, view_note, hclosed]

/-- A view that is not defined on it does not see that the transport is closed. -/
theorem view_close_of_none (transport : Transport σ) (f : Entry → Option α) [Entry.Blind f]
    (hnone : ∀ time elapsed result, f (.closed time elapsed result) = none)
    (session : Session σ) : (session.close transport).view f = session.view f := by
  cases hfinal : session.phase.isFinal with
  | true => simp only [close, hfinal, if_true]
  | false =>
    obtain ⟨elapsed, result, hclose⟩ := view_close transport hfinal f
    rw [hclose, hnone]
    exact List.append_nil _

/-- A blind view of the end mark sees that one call. -/
theorem view_sendEnd (transport : Transport σ) (session : Session σ) (f : Entry → Option α)
    [Entry.Blind f] : ∃ elapsed result, (session.sendEnd transport).view f =
      session.view f ++ (f (.sentMessage session.clock .finished elapsed result)).toList := by
  obtain ⟨sent, result, elapsed, hexchanged, hsend⟩ := sendEnd_spec transport session
  have hsent := hexchanged.view_eq f
  refine ⟨elapsed, result, ?_⟩
  rcases hsend with ⟨_, hsend⟩ | ⟨note, hsend⟩
  · rw [hsend, view_count, hsent]
  · rw [hsend, view_note, hsent]

theorem stays_sendEnd (transport : Transport σ) (session : Session σ) :
    Stays session (session.sendEnd transport) := by
  obtain ⟨sent, result, elapsed, hexchanged, hsend⟩ := sendEnd_spec transport session
  rcases hsend with ⟨_, hsend⟩ | ⟨note, hsend⟩
  · rw [hsend]
    exact hexchanged.toStays.trans (stays_count sent _)
  · rw [hsend]
    exact hexchanged.toStays.trans (keeps_note sent note).toStays

/-! ## Audio -/

/-- Audio that was found was fetched from the source. -/
theorem nextAudio_some {n : Nat} {chunk : Chunk} (hrunning : session.running = true)
    (h : session.nextAudio n = .done (some chunk) after) :
    Keeps session after ∧ after.peer = session.peer ∧
      session.scene.fetch n none = .ok (.chunk chunk, after.scene) ∧
      Scene.Fetches session.scene (.chunk chunk) after.scene := by
  unfold nextAudio at h
  split at h <;> simp only [Course.done, Course.halted, Course.mk.injEq, Except.ok.injEq,
    reduceCtorEq, Option.some.injEq, false_and] at h
  rename_i hfetch
  obtain ⟨rfl, rfl⟩ := h
  have hfetches := Scene.fetch_fetches hrunning hfetch
  exact ⟨⟨⟨rfl, rfl, hfetches.grows⟩, rfl⟩, rfl, hfetch, hfetches⟩

/-- Where no audio was found, the source has ended or a stop was requested. -/
theorem nextAudio_none {n : Nat} (hrunning : session.running = true)
    (h : session.nextAudio n = .done none after) :
    Keeps session after ∧ after.peer = session.peer ∧
      session.scene.fetch n none = .ok (.ended, after.scene) ∧
      Scene.Fetches session.scene .ended after.scene := by
  unfold nextAudio at h
  split at h <;> simp only [Course.done, Course.halted, Course.mk.injEq, Except.ok.injEq,
    reduceCtorEq, false_and, true_and] at h
  rename_i hfetch
  subst h
  have hfetches := Scene.fetch_fetches hrunning hfetch
  exact ⟨⟨⟨rfl, rfl, hfetches.grows⟩, rfl⟩, rfl, hfetch, hfetches⟩

/-- A fetch that breaks off leaves no audio behind. -/
theorem nextAudio_halted {n : Nat} {halt : Halt} (hrunning : session.running = true)
    (h : session.nextAudio n = .halted halt after) :
    Keeps session after ∧
      (session.scene.fetch n none = .error halt ∧ after = session ∨
        halt = .blocked ∧ session.scene.fetch n none = .ok (.waiting, after.scene) ∧
          Scene.Fetches session.scene .waiting after.scene) := by
  unfold nextAudio at h
  split at h <;> simp only [Course.done, Course.halted, Course.mk.injEq, Except.error.injEq,
    reduceCtorEq, false_and] at h
  · rename_i hfetch
    obtain ⟨rfl, rfl⟩ := h
    exact ⟨⟨.refl _, rfl⟩, .inl ⟨hfetch, rfl⟩⟩
  · rename_i hfetch
    obtain ⟨rfl, rfl⟩ := h
    have hfetches := Scene.fetch_fetches hrunning hfetch
    exact ⟨⟨⟨rfl, rfl, hfetches.grows⟩, rfl⟩, .inr ⟨rfl, hfetch, hfetches⟩⟩

/-! ## Release of the source -/

theorem keeps_releaseSource (session : Session σ) : Keeps session session.releaseSource := by
  obtain ⟨entries, hgrows, _⟩ := Scene.release_spec session.scene
  exact ⟨⟨rfl, rfl, entries, hgrows⟩, rfl⟩

@[simp] theorem view_releaseSource (f : Entry → Option α) [Entry.Blind f]
    (session : Session σ) : session.releaseSource.view f = session.view f :=
  Scene.view_release f session.scene

theorem stays_endStreaming (session : Session σ) (streamed : Except Error Unit) :
    Stays session (session.endStreaming streamed) := by
  have hreleased := (keeps_releaseSource session).toStays
  cases streamed with
  | ok _ => exact hreleased
  | error e =>
    simp only [endStreaming, keepFailure]
    exact (hreleased.trans (keeps_note _ _).toStays).trans (stays_count _ _)

@[simp] theorem view_endStreaming (f : Entry → Option α) [Entry.Blind f]
    (streamed : Except Error Unit) :
    (session.endStreaming streamed).view f = session.view f := by
  cases streamed with
  | ok _ => exact view_releaseSource f session
  | error e =>
    rw [endStreaming, keepFailure, view_count, view_note, view_releaseSource]

/-! ## Text frames -/

theorem stays_accept (text : String) : Stays session (session.accept text) := by
  have hcounted := stays_count session Stats.countReceived
  unfold accept
  split
  · exact (hcounted.trans (keeps_tell _ _).toStays).trans (stays_count _ _)
  · exact (hcounted.trans (keeps_note _ _).toStays).trans (stays_count _ _)

@[simp] theorem clock_accept (text : String) : (session.accept text).clock = session.clock := by
  unfold accept
  split <;> rfl

@[simp] theorem peer_accept (text : String) : (session.accept text).peer = session.peer := by
  unfold accept
  split <;> rfl

/-- A text frame reaches the listener as the call of its message, if it has one. -/
theorem view_accept (f : Entry → Option α) [Entry.Blind f] (text : String) :
    (session.accept text).view f =
      session.view f ++ ((Call.ofText? text).bind fun call => f (.called call)).toList := by
  unfold accept Call.ofText?
  cases Inbound.decode text with
  | ok message => exact view_tell _ f message.call
  | error reason =>
    rw [view_count, view_note, view_count]
    exact (List.append_nil _).symm

/-- A text frame adds nothing to a view that does not see the listener. -/
theorem view_accept_of_none (f : Entry → Option α) [Entry.Blind f]
    (hcalled : ∀ call, f (.called call) = none) (text : String) :
    (session.accept text).view f = session.view f := by
  rw [view_accept]
  cases Call.ofText? text <;> simp [hcalled]

end SpeechProbe.Session
