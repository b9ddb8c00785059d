import SpeechProbe.Proofs.Except
import SpeechProbe.Proofs.Session.Audio

/-!
# Samples in memory on their way

Samples in memory are there at once, so that a session reads them chunk by chunk as far
as it comes, and hands over each chunk that it reads (`Progress`).  How far does it come?
To the end, unless the transport fails, the connection closes, a stop is requested or the
step allowance runs out; and the allowance lasts for a step for each sample and for each
text frame that is drained.
-/

namespace SpeechProbe

theorem Source.rate_of_cursor? {source : Source} {cursor : Cursor}
    (h : source.cursor? = some cursor) : source.rate = cursor.rate := by
  cases source <;> simp_all [cursor?, rate]

/-! ## What may go wrong -/

namespace Journal

/-- No stop is requested before the chunks that were taken make up the samples. -/
def StopsAfter (samples : List Sample) (entries : List Entry) : Prop :=
  ∀ taken time rest, entries = taken ++ .stopRequested time :: rest →
    (chunks taken).flatMap Chunk.samples = samples

/-- Until the end mark every payload is taken, and every receive brings a text frame or
nothing. -/
def Calm (entries : List Entry) : Prop :=
  ∀ entry ∈ beforeEnd entries, entry.fault? = none

instance (entries : List Entry) : Decidable (Calm entries) :=
  inferInstanceAs (Decidable (∀ entry ∈ beforeEnd entries, entry.fault? = none))

/-- Without a stop, none comes early. -/
theorem stopsAfter_of_any {entries : List Entry} (h : entries.any Entry.isStop = false)
    (samples : List Sample) : StopsAfter samples entries := by
  intro taken time rest hsplit
  simp [hsplit, Entry.isStop] at h

end Journal

namespace Session

variable {σ : Type} {transport : Transport σ} {before after : Session σ}

/-! ## Reading on -/

/-- A session has read on in memory, and handed over what it has read. -/
structure Progress (n : Nat) (before : Session σ) (cursor : Cursor) (read : List Chunk)
    (after : Session σ) (cursor' : Cursor) : Prop where
  finish : after.scene.source.cursor? = some cursor'
  reads : cursor.Reads n read cursor'
  chunks_eq : after.view Entry.chunk? = before.view Entry.chunk? ++ read
  payloads_eq : after.view Entry.payload? =
    before.view Entry.payload? ++ read.map Chunk.payload

namespace Progress

variable {n : Nat} {cursor cursor' : Cursor} {read : List Chunk}

theorem trans {last : Session σ} {cursor'' : Cursor} {read' : List Chunk}
    (h : Progress n before cursor read after cursor')
    (h' : Progress n after cursor' read' last cursor'') :
    Progress n before cursor (read ++ read') last cursor'' where
  finish := h'.finish
  reads := h.reads.trans h'.reads
  chunks_eq := by rw [h'.chunks_eq, h.chunks_eq, List.append_assoc]
  payloads_eq := by rw [h'.payloads_eq, h.payloads_eq, List.map_append, List.append_assoc]

theorem of_mute (hcursor : before.scene.source.cursor? = some cursor) (h : Mute before after) :
    Progress n before cursor [] after cursor where
  finish := h.cursor_eq.trans hcursor
  reads := .nil cursor
  chunks_eq := (h.view_eq _).trans (List.append_nil _).symm
  payloads_eq := (h.view_eq _).trans (List.append_nil _).symm

theorem then_mute {last : Session σ} (h : Progress n before cursor read after cursor')
    (hmute : Mute after last) : Progress n before cursor read last cursor' where
  finish := hmute.cursor_eq.trans h.finish
  reads := h.reads
  chunks_eq := (hmute.view_eq _).trans h.chunks_eq
  payloads_eq := (hmute.view_eq _).trans h.payloads_eq

end Progress

/-- Audio in memory that was found was the next to be read, and no time passed. -/
theorem nextAudio_memory {n : Nat} {cursor : Cursor} {chunk : Chunk}
    (hrunning : before.running = true)
    (hcursor : before.scene.source.cursor? = some cursor)
    (h : before.nextAudio n = .done (some chunk) after) :
    ∃ next, cursor.next n = .ok (some chunk, next) ∧
      after.scene.source.cursor? = some next ∧ after.running = true ∧
      after.view Entry.chunk? = before.view Entry.chunk? ++ [chunk] ∧
      after.view Entry.payload? = before.view Entry.payload? := by
  obtain ⟨_, _, hfetch, _⟩ := nextAudio_some hrunning h
  rcases Scene.fetch_memory_cases hcursor hfetch with
    ⟨_, hended, _⟩ | ⟨found, next, source, hnext, hfound, hscene, hsource⟩
  · simp at hended
  · rw [Fetched.chunk.injEq] at hfound
    subst hfound
    refine ⟨next, hnext, ?_, ?_, ?_, ?_⟩
    · rw [hscene]
      exact hsource
    · rw [running, hscene]
      exact hrunning
    · rw [view, hscene]
      exact Scene.view_took _ _ _ _
    · rw [view, hscene, Scene.view_took]
      exact List.append_nil _

theorem Drains.halt_eq {out : Except Halt (Except Error Drained)}
    (h : Drains transport before out after) : ∀ halt, out = .error halt → halt = .outOfSteps := by
  induction h with
  | outOfSteps session =>
    intro halt hout
    exact (Except.error.inj hout).symm
  | failed receive => simp
  | dry frames receive => simp
  | closed frames receive => simp
  | text receive rest ih => exact ih

theorem Delivers.halt_eq {chunk : Chunk} {halt : Halt}
    (h : Delivers transport chunk before (.error halt) after) : halt = .outOfSteps := by
  cases h with
  | broke send drain => exact drain.halt_eq halt rfl

/-- A delivery that ends streaming well was cut short by a stop. -/
theorem Delivers.stopped_of_ok {chunk : Chunk}
    (h : Delivers transport chunk before (.ok (some (.ok ()))) after) :
    after.running = false := by
  cases h with
  | stopped send drain pace => exact running_pace pace

/-- A round in memory reads a chunk and hands it over, or nothing is left to do. -/
theorem Round.progress {n : Nat} {cursor : Cursor}
    {out : Except Halt (Option (Except Error Unit))} (h : Round transport n before out after)
    (hn : 0 < n) (hfits : cursor.Fits n)
    (hcursor : before.scene.source.cursor? = some cursor) :
    (∀ halt, out = .error halt → halt = .outOfSteps) ∧
      ∃ read cursor', Progress n before cursor read after cursor' ∧
        (out = .ok (some (.ok ())) → cursor'.rest = [] ∨ after.running = false) := by
  cases h with
  | stopped stop =>
    exact ⟨by simp, [], cursor, .of_mute hcursor (.refl before), fun _ => .inr stop⟩
  | broke running next =>
    obtain ⟨_, ⟨hfetch, _⟩ | ⟨_, hfetch, _⟩⟩ := nextAudio_halted running next
    · exact absurd (Scene.fetch_memory_error hcursor hfetch) (hfits.next_ne_error _)
    · rcases Scene.fetch_memory_cases hcursor hfetch with ⟨_, hended, _⟩ | ⟨_, _, _, _, hfound, _⟩
      · simp at hended
      · simp at hfound
  | ended running next =>
    obtain ⟨hkeeps, _, hfetch, hfetches⟩ := nextAudio_none running next
    have hmute := mute_fetch hkeeps hfetches (by simp)
    refine ⟨by simp, [], cursor, .of_mute hcursor hmute, fun _ => .inl ?_⟩
    rcases Scene.fetch_memory_cases hcursor hfetch with ⟨hnext, _⟩ | ⟨_, _, _, _, hfound, _⟩
    · exact Cursor.rest_eq_nil_of_next hn hnext
    · simp at hfound
  | skipped running next empty =>
    obtain ⟨_, hread, _⟩ := nextAudio_memory running hcursor next
    rw [Cursor.isEmpty_of_next hread] at empty
    simp at empty
  | held running next audio stop =>
    obtain ⟨_, _, _, hrunning, _⟩ := nextAudio_memory running hcursor next
    rw [stop] at hrunning
    simp at hrunning
  | delivered running next audio running' deliver =>
    obtain ⟨rest, hread, hrest, _, hchunks, hpayloads⟩ := nextAudio_memory running hcursor next
    have hhanded := deliver.handedOver
    refine ⟨?_, [_], rest, ⟨?_, .cons hread (.nil rest), ?_, ?_⟩, ?_⟩
    · rintro halt rfl
      exact deliver.halt_eq
    · rw [hhanded.cursor_eq, hrest]
    · rw [hhanded.chunks_eq, hchunks]
    · rw [hhanded.payloads_eq, hpayloads]
      rfl
    · rintro rfl
      exact .inr deliver.stopped_of_ok

theorem Streams.progress {n : Nat} {out : Except Halt (Except Error Unit)}
    (h : Streams transport n before out after) (hn : 0 < n) :
    ∀ cursor : Cursor, cursor.Fits n → before.scene.source.cursor? = some cursor →
      (∀ halt, out = .error halt → halt = .outOfSteps) ∧
        ∃ read cursor', Progress n before cursor read after cursor' ∧
          (out = .ok (.ok ()) → cursor'.rest = [] ∨ after.running = false) := by
  induction h with
  | outOfSteps session =>
    intro cursor _ hcursor
    refine ⟨fun halt hout => (Except.error.inj hout).symm, [], cursor, ?_, by simp⟩
    exact .of_mute hcursor (.refl session)
  | broke round =>
    intro cursor hfits hcursor
    obtain ⟨hhalt, read, cursor', hprogress, _⟩ := round.progress hn hfits hcursor
    refine ⟨?_, read, cursor', hprogress, by simp⟩
    rintro halt ⟨⟩
    exact hhalt _ rfl
  | last round =>
    intro cursor hfits hcursor
    obtain ⟨_, read, cursor', hprogress, hended⟩ := round.progress hn hfits hcursor
    refine ⟨by simp, read, cursor', hprogress, ?_⟩
    rintro ⟨⟩
    exact hended rfl
  | more round rest ih =>
    intro cursor hfits hcursor
    obtain ⟨_, read, cursor', hprogress, _⟩ := round.progress hn hfits hcursor
    obtain ⟨hhalt, read', cursor'', hrest, hended⟩ :=
      ih cursor' (hfits.of_reads hprogress.reads) hprogress.finish
    exact ⟨hhalt, _, cursor'', hprogress.trans hrest, hended⟩

/-- The length of the chunks in which a session reads samples in memory. -/
theorem chunkLength_eq {cursor : Cursor} (hcursor : before.scene.source.cursor? = some cursor) :
    (before.plan.framing before.scene.source.rate).chunkLength =
      (before.plan.framing cursor.rate).chunkLength := by
  rw [Source.rate_of_cursor? hcursor]

theorem StreamsSource.progress {cursor : Cursor} {out : Except Halt (Except Error Unit)}
    (h : StreamsSource transport before out after)
    (hcursor : before.scene.source.cursor? = some cursor)
    (hn : 0 < (before.plan.framing cursor.rate).chunkLength)
    (hfits : cursor.Fits (before.plan.framing cursor.rate).chunkLength) :
    (∀ halt, out = .error halt → halt = .outOfSteps) ∧
      ∃ read cursor',
        Progress (before.plan.framing cursor.rate).chunkLength before cursor read after cursor' ∧
          (out = .ok (.ok ()) → cursor'.rest = [] ∨ after.running = false) := by
  have hmoved := steady_mute.moveTo before .streaming
  have hlength := chunkLength_eq hcursor
  cases h with
  | unstreamable key reason empty =>
    rw [hlength] at empty
    exact absurd empty (Nat.ne_of_gt hn)
  | rounds audio streams =>
    rw [hlength] at streams
    obtain ⟨hhalt, read, cursor', hprogress, hended⟩ :=
      streams.progress hn cursor hfits (hmoved.cursor_eq.trans hcursor)
    exact ⟨hhalt, read, cursor', (Progress.of_mute hcursor hmoved).trans hprogress, hended⟩

/-- However a session ends or breaks off, it has read on and handed over what it has read. -/
theorem Runs.progress {cursor : Cursor} {out : Except Halt (Except Error Stats)}
    (h : Runs transport before out after)
    (hcursor : before.scene.source.cursor? = some cursor)
    (hn : 0 < (before.plan.framing cursor.rate).chunkLength)
    (hfits : cursor.Fits (before.plan.framing cursor.rate).chunkLength) :
    ∃ read cursor',
      Progress (before.plan.framing cursor.rate).chunkLength before cursor read after cursor' := by
  rcases h.audio_cases with hmute | ⟨_, _, _, _, opens, streams, hmute⟩
  · exact ⟨[], cursor, .of_mute hcursor hmute⟩
  · have hopened := steady_mute.opens opens
    rw [← opens.plan_eq] at hn hfits ⊢
    obtain ⟨_, read, cursor', hprogress, _⟩ :=
      streams.progress (hopened.cursor_eq.trans hcursor) hn hfits
    exact ⟨_, cursor', ((Progress.of_mute hcursor hopened).trans hprogress).then_mute hmute⟩

/-! ## Faults -/

/-- The transport failed, or the connection was found closed. -/
def Faulty (before after : Session σ) : Prop :=
  (before.view Entry.fault?).length < (after.view Entry.fault?).length

theorem Faulty.of_grows {first second third : Session σ} (h : Grows first second)
    (hfaulty : Faulty second third) : Faulty first third :=
  Nat.lt_of_le_of_lt (h.length_view_le _) hfaulty

theorem Faulty.grows {first second third : Session σ} (hfaulty : Faulty first second)
    (h : Grows second third) : Faulty first third :=
  Nat.lt_of_lt_of_le hfaulty (h.length_view_le _)

theorem Faulty.exists_mem {entries : List Entry} (h : Faulty before after)
    (hgrows : Scene.Grows before.scene after.scene entries) :
    ∃ entry ∈ entries, entry.fault? = some () := by
  have hlength := congrArg List.length
    (Scene.view_of_entries (f := Entry.fault?) hgrows.entries_eq)
  have hpos : 0 < (entries.filterMap Entry.fault?).length := by
    rw [List.length_append] at hlength
    simp only [Faulty, view] at h
    omega
  obtain ⟨found, hfound⟩ := List.exists_mem_of_length_pos hpos
  obtain ⟨entry, hentry, hfault⟩ := List.mem_filterMap.mp hfound
  exact ⟨entry, hentry, hfault⟩

theorem Exchanged.faulty {entry : Entry} {elapsed : Nanos}
    (h : Exchanged before entry elapsed after) (hfault : entry.fault? = some ()) :
    Faulty before after := by
  rw [Faulty, h.view_eq, hfault, List.length_append]
  exact Nat.lt_succ_self _

/-- A drain that fails or finds the connection closed shows a fault. -/
theorem Drains.faulty {out : Except Halt (Except Error Drained)}
    (h : Drains transport before out after) :
    ∀ outcome, out = .ok outcome → Drained.lastReceive outcome ≠ .ok .timeout →
      Faulty before after := by
  induction h with
  | outOfSteps session => simp
  | failed receive =>
    intro outcome _ _
    obtain ⟨_, hexchanged⟩ := exchanged_receive receive
    exact hexchanged.faulty rfl
  | dry frames receive =>
    rintro outcome ⟨⟩ hloud
    exact absurd rfl hloud
  | closed frames receive =>
    intro outcome _ _
    obtain ⟨_, hexchanged⟩ := exchanged_receive receive
    exact (hexchanged.faulty rfl).grows (stays_count _ _).grows
  | text receive rest ih =>
    intro outcome hout hloud
    have hreceived := passive_grows.receive receive
    exact .of_grows (hreceived.trans (stays_accept _).grows) (ih outcome hout hloud)

/-- Streaming fails by a fault of the transport only. -/
theorem Delivers.faulty {chunk : Chunk} {e : Error}
    (h : Delivers transport chunk before (.ok (some (.error e))) after) :
    Faulty before after := by
  cases h with
  | refused send =>
    obtain ⟨_, hexchanged⟩ := exchanged_sendChunk_error send
    exact hexchanged.faulty rfl
  | failed send drain =>
    exact .of_grows (stays_sendChunk_ok send).grows
      (drain.faulty _ rfl (by simp [Drained.lastReceive]))
  | closed send drain =>
    exact .of_grows (stays_sendChunk_ok send).grows
      (drain.faulty _ rfl (by simp [Drained.lastReceive]))

theorem Round.faulty {n : Nat} {e : Error}
    (h : Round transport n before (.ok (some (.error e))) after) : Faulty before after := by
  cases h with
  | delivered running next audio running' deliver =>
    exact .of_grows (nextAudio_some running next).1.grows deliver.faulty

theorem Streams.faulty {n : Nat} {out : Except Halt (Except Error Unit)}
    (h : Streams transport n before out after) :
    ∀ e, out = .ok (.error e) → Faulty before after := by
  induction h with
  | outOfSteps session => simp
  | broke round => simp
  | last round =>
    rintro e ⟨⟩
    exact round.faulty
  | more round rest ih =>
    intro e hout
    exact .of_grows (lively_grows.round round) (ih e hout)

theorem StreamsSource.faulty {e : Error}
    (h : StreamsSource transport before (.ok (.error e)) after)
    (hn : 0 < (before.plan.framing before.scene.source.rate).chunkLength) :
    Faulty before after := by
  cases h with
  | unstreamable key reason empty => exact absurd empty (Nat.ne_of_gt hn)
  | rounds audio streams => exact .of_grows (grows_moveTo _ _) (streams.faulty e rfl)

/-! ## Steps -/

/-- What a session used up of its source and of the transport's text frames. -/
def spent (session : Session σ) : Nat :=
  (session.view Entry.chunk?).length + (session.view Entry.text?).length

theorem Grows.spent_le (h : Grows before after) : before.spent ≤ after.spent :=
  Nat.add_le_add (h.length_view_le _) (h.length_view_le _)

/-- A drain that runs out of steps has taken a text frame in each. -/
theorem spent_drainAfter (transport : Transport σ) (fuel frames : Nat) (session : Session σ) :
    ∀ halt, (drainAfter transport fuel frames session).outcome = .error halt →
      session.spent + fuel ≤ (drainAfter transport fuel frames session).session.spent := by
  fun_induction drainAfter transport fuel frames session with
  | case1 frames session => exact fun _ _ => Nat.le_refl _
  | case2 fuel frames session e after receive => simp [Course.done]
  | case3 fuel frames session after receive => simp [Course.done]
  | case4 fuel frames session after receive => simp [Course.done]
  | case5 fuel frames session text received receive ih =>
    intro halt hhalt
    have hbooks := books_text receive (fun f _ => view_accept f text) (gains_accept _ text)
    have htexts := congrArg List.length hbooks.texts_eq
    have hchunks := (steady_mute.receive receive).trans (steady_mute.accept received text)
    have hrest := ih halt hhalt
    rw [List.length_append, List.length_singleton] at htexts
    rw [spent, hchunks.view_eq, htexts] at hrest
    rw [spent]
    omega

theorem spent_deliver (transport : Transport σ) (fuel : Nat) (chunk : Chunk)
    (session : Session σ) :
    ∀ halt, (session.deliver transport fuel chunk).outcome = .error halt →
      session.spent + fuel ≤ (session.deliver transport fuel chunk).session.spent := by
  intro halt hhalt
  unfold deliver at hhalt ⊢
  rcases hsend : session.sendChunk transport chunk with ⟨e | _, sent⟩
  · simp [hsend, Course.done] at hhalt
  · have hsent := (stays_sendChunk_ok hsend).grows.spent_le
    have hdrain := spent_drainAfter transport fuel 0 sent
    simp only [hsend] at hhalt ⊢
    rcases hcourse : sent.drainCourse transport fuel with ⟨halt' | e | frames | frames, drained⟩
    all_goals
      rw [drainCourse] at hcourse
      simp only [drainCourse, hcourse, Course.andThen] at hhalt ⊢
    · rw [hcourse] at hdrain
      have hspent := hdrain halt' rfl
      exact Nat.le_trans (Nat.add_le_add_right hsent _) hspent
    · simp [Course.done] at hhalt
    · split at hhalt <;> simp [Course.done] at hhalt
    · simp [Course.done] at hhalt

theorem spent_nextAudio {n : Nat} {chunk : Chunk} (hrunning : before.running = true)
    (h : before.nextAudio n = .done (some chunk) after) : before.spent + 1 ≤ after.spent := by
  obtain ⟨hkeeps, _, _, hfetches⟩ := nextAudio_some hrunning h
  obtain ⟨time, hview⟩ := hfetches.view_chunk Entry.chunk?
  have hchunks : after.view Entry.chunk? = before.view Entry.chunk? ++ [chunk] := hview
  have htexts := hkeeps.grows.length_view_le Entry.text?
  rw [spent, spent, hchunks, List.length_append, List.length_singleton]
  omega

/-- A round after which streaming goes on has taken a chunk. -/
theorem Round.spent_lt {n : Nat} (h : Round transport n before (.ok none) after) :
    before.spent + 1 ≤ after.spent := by
  cases h with
  | skipped running next empty => exact spent_nextAudio running next
  | delivered running next audio running' deliver =>
    have hfetched := spent_nextAudio running next
    exact Nat.le_trans hfetched (lively_grows.delivers deliver).spent_le

theorem spent_round (transport : Transport σ) (n fuel : Nat) (session : Session σ)
    (h : (session.round transport n fuel).outcome = .error .outOfSteps) :
    session.spent + (fuel + 1) ≤ (session.round transport n fuel).session.spent := by
  cases hrunning : session.running with
  | false => simp [round, hrunning, Course.done] at h
  | true =>
    rcases hnext : session.nextAudio n with ⟨halt | _ | chunk, fetched⟩
    · simp only [round, hrunning, hnext, Course.andThen, Course.halted, Bool.not_true,
        Bool.false_eq_true, if_false, Except.error.injEq] at h
      obtain ⟨_, ⟨hfetch, _⟩ | ⟨hblocked, _⟩⟩ := nextAudio_halted hrunning hnext
      · have hoverflow := Scene.fetch_error hfetch
        simp [h] at hoverflow
      · simp [h] at hblocked
    · simp [round, hrunning, hnext, Course.andThen, Course.done] at h
    · have hfetched := spent_nextAudio hrunning hnext
      simp only [round, hrunning, hnext, Course.andThen, Bool.not_true, Bool.false_eq_true,
        if_false] at h ⊢
      split at h
      · simp [Course.done] at h
      · split at h
        · simp [Course.done] at h
        · rename_i hempty hstopped
          have hdelivered := spent_deliver transport fuel chunk fetched _ h
          rw [if_neg hempty, if_neg hstopped]
          omega

/-- Streaming that runs out of steps has used each on a chunk or on a text frame. -/
theorem spent_sendChunks (transport : Transport σ) (n fuel : Nat) (session : Session σ)
    (h : (sendChunks transport n fuel session).outcome = .error .outOfSteps) :
    session.spent + fuel ≤ (sendChunks transport n fuel session).session.spent := by
  induction fuel generalizing session with
  | zero => exact Nat.le_refl _
  | succ fuel ih =>
    have hround := round_round transport n fuel session
    have hspent := spent_round transport n fuel session
    rw [sendChunks] at h ⊢
    rcases hcourse : session.round transport n fuel with ⟨halt | _ | result, next⟩
    all_goals
      rw [hcourse] at hround hspent
      simp only [hcourse, Course.andThen, Course.halted, Course.done] at h ⊢
    · have hhalt : halt = .outOfSteps := Except.error.inj h
      subst hhalt
      exact hspent rfl
    · have hrest := ih next h
      have hnext : session.spent + 1 ≤ next.spent := hround.spent_lt
      omega
    · simp at h

/-! ## To the end of the samples -/

/-- Neither the exchange before the audio nor streaming sends the end mark. -/
theorem lively_unended :
    Lively fun before after : Session σ =>
      after.view Entry.endMark? = before.view Entry.endMark? where
  toPassive := passive_view_eq Entry.endMark? (fun _ => rfl) (fun _ _ _ _ => rfl)
    (fun _ _ _ _ => rfl)
  fetched := fun _ h => h.view_eq Entry.endMark? fun _ _ => rfl
  sent := fun h => h.view_eq_of_none _ rfl

/-- A session that has begun breaks off in streaming, or it comes to its finish. -/
theorem runCourse_cases (fuel : Nat) {opened : Session σ} {handshake : Handshake}
    (hcheck : before.plan.check = .ok ())
    (hconfigure : before.configure transport = (.ok handshake, opened)) :
    (∃ halt, (opened.streamCourse transport fuel).outcome = .error halt ∧
        before.runCourse transport fuel =
          .halted halt (opened.streamCourse transport fuel).session) ∨
      ∃ result out, (opened.streamCourse transport fuel).outcome = .ok result ∧
        Finishes transport
          ((opened.streamCourse transport fuel).session.endStreaming result) out
          (before.runCourse transport fuel).session ∧
        (before.runCourse transport fuel).outcome =
          out.map fun _ => .ok (before.runCourse transport fuel).session.stats := by
  have hstreams := streamsSource_streamCourse transport fuel opened
  simp only [runCourse, hcheck, hconfigure]
  rcases hstream : opened.streamCourse transport fuel with ⟨halt | result, streamed⟩
  · exact .inl ⟨halt, rfl, rfl⟩
  · rw [hstream] at hstreams
    have hfinishes := finishes_finishCourse transport fuel (hstreams.not_final result)
    simp only [Course.andThen]
    rcases hcourse : (streamed.endStreaming result).finishCourse transport fuel with
      ⟨halt | _, finished⟩
    all_goals
      rw [hcourse] at hfinishes
      exact .inr ⟨result, _, rfl, hfinishes, rfl⟩

theorem runCourse_outOfSteps (fuel : Nat) {opened : Session σ} {handshake : Handshake}
    (hcheck : before.plan.check = .ok ())
    (hconfigure : before.configure transport = (.ok handshake, opened))
    (hsteps : (opened.streamCourse transport fuel).outcome = .error .outOfSteps) :
    (before.runCourse transport fuel).outcome = .error .outOfSteps := by
  rcases runCourse_cases fuel hcheck hconfigure with ⟨halt, hhalt, hrun⟩ | ⟨_, _, hresult, _⟩
  · rw [hsteps, Except.error.injEq] at hhalt
    rw [hrun, hhalt]
    rfl
  · simp [hsteps] at hresult

/-- Once the first answer was accepted, a session does not fail any more. -/
theorem runCourse_ne_error (fuel : Nat) {opened : Session σ} {handshake : Handshake}
    (hcheck : before.plan.check = .ok ())
    (hconfigure : before.configure transport = (.ok handshake, opened)) (e : Error) :
    (before.runCourse transport fuel).outcome ≠ .ok (.error e) := by
  rcases runCourse_cases fuel hcheck hconfigure with ⟨halt, _, hrun⟩ | ⟨_, out, _, _, hout⟩
  · rw [hrun]
    simp [Course.halted]
  · rw [hout]
    cases out <;> simp [Except.map]

/-- After streaming a session takes no audio and hands none over. -/
theorem mute_runCourse (fuel : Nat) {opened : Session σ} {handshake : Handshake}
    (hcheck : before.plan.check = .ok ())
    (hconfigure : before.configure transport = (.ok handshake, opened)) :
    Mute (opened.streamCourse transport fuel).session
      (before.runCourse transport fuel).session := by
  rcases runCourse_cases fuel hcheck hconfigure with ⟨_, _, hrun⟩ | ⟨_, _, _, hfinishes, _⟩
  · rw [hrun]
    exact .refl _
  · exact mute_finish hfinishes

/-- Where a stop ended streaming, but only after the samples were used up. -/
theorem rest_eq_nil_of_stop {n : Nat} {cursor cursor' : Cursor} {read : List Chunk}
    {entries entries' : List Entry} (hprogress : Progress n before cursor read after cursor')
    (hgrows : Scene.Grows before.scene after.scene entries) (hrunning : before.running = true)
    (hstopped : after.running = false)
    (hstops : Journal.StopsAfter cursor.rest (entries ++ entries')) : cursor'.rest = [] := by
  obtain ⟨time, hstop⟩ := hgrows.stop_mem hrunning hstopped
  obtain ⟨taken, rest, rfl⟩ := List.append_of_mem hstop
  have htaken := hstops taken time (rest ++ entries') (by simp)
  have hread : Journal.chunks (taken ++ .stopRequested time :: rest) = read :=
    Scene.filterMap_eq_of_view hgrows.entries_eq hprogress.chunks_eq
  have hsamples := hprogress.reads.samples_eq
  rw [← hread, Journal.chunks_append, List.flatMap_append, htaken] at hsamples
  have hlength := congrArg List.length hsamples
  simp only [List.length_append] at hlength
  exact List.length_eq_zero_iff.mp (by omega)

/-- Streaming that ran out of steps has read a sample or drained a text frame in each. -/
theorem fuel_le_of_outOfSteps {n : Nat} {cursor cursor' : Cursor} {read : List Chunk} {fuel : Nat}
    {opened : Session σ} {handshake : Handshake} {entries : List Entry}
    (hopens : Opens transport before (.ok handshake) opened)
    (hn : 0 < (opened.plan.framing opened.scene.source.rate).chunkLength)
    (hgrows : Scene.Grows before.scene (opened.streamCourse transport fuel).session.scene entries)
    (hprogress : Progress n before cursor read (opened.streamCourse transport fuel).session cursor')
    (hsteps : (opened.streamCourse transport fuel).outcome = .error .outOfSteps) :
    fuel ≤ cursor.rest.length + (Journal.texts entries).length := by
  have hspent : (opened.moveTo .streaming).spent + fuel ≤
      (opened.streamCourse transport fuel).session.spent := by
    rw [streamCourse_eq_sendChunks transport fuel opened hn] at hsteps
    rw [streamCourse_eq_sendChunks transport fuel opened hn]
    exact spent_sendChunks transport _ fuel _ hsteps
  have hstart := ((passive_grows.opens hopens).trans (grows_moveTo opened .streaming)).spent_le
  have hchunks := congrArg List.length hprogress.chunks_eq
  have htexts := congrArg List.length (Scene.view_of_entries (f := Entry.text?) hgrows.entries_eq)
  have hread := hprogress.reads.length_le
  rw [List.length_append] at hchunks htexts
  simp only [spent, view] at hspent hstart hchunks
  rw [Journal.texts]
  omega

/-- Where nothing goes wrong with the transport, streaming ends well, unless the allowance runs
out; it does not if it has a step for each sample and each text frame. -/
theorem outcome_of_calm {cursor : Cursor} {fuel : Nat} {opened : Session σ}
    {handshake : Handshake} {entries entries' : List Entry}
    (hopens : Opens transport before (.ok handshake) opened)
    (hcursor : before.scene.source.cursor? = some cursor)
    (hn : 0 < (before.plan.framing cursor.rate).chunkLength)
    (hfits : cursor.Fits (before.plan.framing cursor.rate).chunkLength)
    (hgrows : Scene.Grows before.scene (opened.streamCourse transport fuel).session.scene entries)
    (hcalm : Journal.Calm (entries ++ entries'))
    (hfuel : (opened.streamCourse transport fuel).outcome ≠ .error .outOfSteps ∨
      cursor.rest.length +
        (Journal.texts (Journal.beforeEnd (entries ++ entries'))).length < fuel) :
    (opened.streamCourse transport fuel).outcome = .ok (.ok ()) := by
  have hopened := steady_mute.opens hopens
  have hcursor' := hopened.cursor_eq.trans hcursor
  have hstreams := streamsSource_streamCourse transport fuel opened
  rw [← hopens.plan_eq] at hn hfits
  obtain ⟨hhalt, read, cursor', hprogress, -⟩ := hstreams.progress hcursor' hn hfits
  have hwhole := (Progress.of_mute hcursor hopened).trans hprogress
  have hlength := chunkLength_eq hcursor'
  have hnoEnd := lively_unended.trans (lively_unended.opens hopens)
    (lively_unended.streamsSource hstreams)
  have hbeforeEnd := Journal.beforeEnd_append entries'
    (Scene.filterMap_eq_nil_of_view hgrows.entries_eq hnoEnd)
  rcases hcourse : (opened.streamCourse transport fuel).outcome with halt | e | _
  · rw [hhalt halt hcourse] at hcourse
    have hroom := hfuel.resolve_left (not_not_intro hcourse)
    have hlow := fuel_le_of_outOfSteps hopens (hlength.symm ▸ hn) hgrows hwhole hcourse
    rw [hbeforeEnd, Journal.texts, List.filterMap_append, List.length_append] at hroom
    rw [Journal.texts] at hlow
    omega
  · rw [hcourse] at hstreams
    have hfaulty := (hstreams.faulty (hlength ▸ hn)).of_grows (passive_grows.opens hopens)
    obtain ⟨entry, hentry, hfault⟩ := hfaulty.exists_mem hgrows
    have hfaultless := hcalm entry (hbeforeEnd ▸ List.mem_append_left _ hentry)
    simp [hfault] at hfaultless
  · rfl

/-- If no stop comes early either, the session reads its samples to the end. -/
theorem rest_eq_nil_of_calm {cursor : Cursor} {fuel : Nat} {opened : Session σ}
    {handshake : Handshake} {entries entries' : List Entry}
    (hopens : Opens transport before (.ok handshake) opened)
    (hcursor : before.scene.source.cursor? = some cursor)
    (hn : 0 < (before.plan.framing cursor.rate).chunkLength)
    (hfits : cursor.Fits (before.plan.framing cursor.rate).chunkLength)
    (hgrows : Scene.Grows before.scene (opened.streamCourse transport fuel).session.scene entries)
    (hrunning : before.running = true)
    (hstops : Journal.StopsAfter cursor.rest (entries ++ entries'))
    (houtcome : (opened.streamCourse transport fuel).outcome = .ok (.ok ())) :
    ∃ read cursor', Progress (before.plan.framing cursor.rate).chunkLength before cursor read
      (opened.streamCourse transport fuel).session cursor' ∧ cursor'.rest = [] := by
  have hopened := steady_mute.opens hopens
  have hstreams := streamsSource_streamCourse transport fuel opened
  rw [← hopens.plan_eq] at hn hfits ⊢
  obtain ⟨-, read, cursor', hprogress, hended⟩ :=
    hstreams.progress (hopened.cursor_eq.trans hcursor) hn hfits
  have hwhole := (Progress.of_mute hcursor hopened).trans hprogress
  refine ⟨_, cursor', hwhole, ?_⟩
  rcases hended houtcome with hrest | hstopped
  · exact hrest
  · exact rest_eq_nil_of_stop hwhole hgrows hrunning hstopped hstops

/-- The payloads of such a session are all that framing makes of its samples. -/
theorem streamed_of_calm {samples : List Sample} {rate : UInt32} {fuel : Nat}
    {opened : Session σ} {handshake : Handshake} {entries : List Entry}
    (hgrows : Scene.Grows before.scene (before.runCourse transport fuel).session.scene entries)
    (hcursor : before.scene.source.cursor? = some (.ofSamples samples rate))
    (hn : 0 < (before.plan.framing rate).chunkLength) (hsamples : samples.length ≤ Cursor.capacity)
    (hcheck : before.plan.check = .ok ())
    (hconfigure : before.configure transport = (.ok handshake, opened))
    (hrunning : before.running = true) (hstops : Journal.StopsAfter samples entries)
    (hcalm : Journal.Calm entries)
    (hsteps : (before.runCourse transport fuel).outcome ≠ .error .outOfSteps ∨
      samples.length + (Journal.texts (Journal.beforeEnd entries)).length < fuel) :
    (opened.streamCourse transport fuel).outcome = .ok (.ok ()) ∧
      (before.plan.framing rate).payloads samples = .ok (Journal.payloads entries) := by
  have hopens := opens_configure transport before
  rw [hconfigure] at hopens
  have hstreams := streamsSource_streamCourse transport fuel opened
  have hmute := mute_runCourse fuel hcheck hconfigure
  obtain ⟨streamed, hstreamed⟩ :=
    (passive_grows.opens hopens).trans (lively_grows.streamsSource hstreams)
  obtain ⟨finished, hfinished⟩ := hmute.grows
  have hsplit : entries = streamed ++ finished := hgrows.unique (hstreamed.trans hfinished)
  rw [hsplit] at hstops hcalm hsteps
  have hfits := Cursor.Fits.ofSamples samples rate
    (before.plan.framing rate).chunkLength_lt hsamples
  have hroom := hsteps.imp_left (mt (runCourse_outOfSteps fuel hcheck hconfigure))
  have houtcome := outcome_of_calm hopens hcursor hn hfits hstreamed hcalm hroom
  obtain ⟨read, cursor', hprogress, hrest⟩ :=
    rest_eq_nil_of_calm hopens hcursor hn hfits hstreamed hrunning hstops houtcome
  have hpayloads :=
    Scene.filterMap_eq_of_view hgrows.entries_eq (hprogress.then_mute hmute).payloads_eq
  rw [Journal.payloads, hpayloads]
  exact ⟨houtcome, Framing.payloads_of_reads hprogress.reads hrest⟩

/-- The payloads of a session, whatever its transport does, whenever a stop is requested,
and however far it comes.

Of any source, live ones included, the payloads are those of the chunks that were taken and
hold a sample, in order; at most one such chunk is held back, the one that was taken at the
very time of a stop.

Samples in memory are handed over as framing cuts them, from the first and without a gap,
and all of them are if the session is accepted, no stop is requested before the samples are
used up, nothing goes wrong with the transport before the end mark, and the allowance lasts
for the samples and the text frames that are drained.

In a session that ends well, the counters of chunks and bytes are those of the payloads
that the transport took. -/
theorem run_audio (transport : Transport σ) (plan : SessionPlan) (scene : Scene) (peer : σ)
    (fuel : Nat) :
    ∃ entries,
      ((start plan scene peer).runCourse transport fuel).session.scene.entries =
        scene.entries ++ entries ∧
      (Journal.HandsOver entries ∨ Journal.HoldsBack entries) ∧
      (∀ (samples : List Sample) (rate : UInt32),
        scene.source.cursor? = some (.ofSamples samples rate) →
        1 ≤ (plan.framing rate).chunkLength → samples.length ≤ Cursor.capacity →
        ∃ payloads, (plan.framing rate).payloads samples = .ok payloads ∧
          Journal.payloads entries <+: payloads ∧
          (∀ payload ∈ payloads, payload ≠ []) ∧
          (plan.check = .ok () →
            (∃ handshake opened,
              (start plan scene peer).configure transport = (.ok handshake, opened)) →
            scene.running = true → Journal.StopsAfter samples entries →
            Journal.Calm entries →
            (((start plan scene peer).runCourse transport fuel).outcome ≠ .error .outOfSteps ∨
              samples.length + (Journal.texts (Journal.beforeEnd entries)).length < fuel) →
            Journal.payloads entries = payloads)) ∧
      ∀ stats, ((start plan scene peer).runCourse transport fuel).outcome = .ok (.ok stats) →
        stats.chunksSent = (Journal.delivered entries).length ∧
        stats.bytesSent = (Journal.delivered entries).flatten.length := by
  have hruns := runs_runCourse transport fuel (start plan scene peer)
  obtain ⟨entries, hgrows⟩ := hruns.grows
  refine ⟨entries, hgrows.entries_eq, ?_, fun samples rate hcursor hn hsamples => ?_,
    fun stats hstats => ?_⟩
  · rcases hruns.audio with ⟨entries', hgrows', haudio⟩ | ⟨entries', hgrows', haudio⟩
    · exact .inl (hgrows.unique hgrows' ▸ haudio)
    · exact .inr (hgrows.unique hgrows' ▸ haudio)
  · have hfits := Cursor.Fits.ofSamples samples rate (plan.framing rate).chunkLength_lt hsamples
    obtain ⟨read, cursor', hprogress⟩ := hruns.progress hcursor hn hfits
    obtain ⟨rest, last, hreads, hrest⟩ := (hfits.of_reads hprogress.reads).reads_all hn
    have hwhole := hprogress.reads.trans hreads
    have hpayloads := Scene.filterMap_eq_of_view hgrows.entries_eq hprogress.payloads_eq
    refine ⟨_, Framing.payloads_of_reads hwhole hrest, ?_, ?_, ?_⟩
    · rw [Journal.payloads, hpayloads, List.map_append]
      exact List.prefix_append _ _
    · intro payload hpayload
      obtain ⟨chunk, hchunk, rfl⟩ := List.mem_map.mp hpayload
      exact Payload.encode_ne_nil (hwhole.isEmpty_eq_false chunk hchunk)
    · rintro hcheck ⟨handshake, opened, hconfigure⟩ hrunning hstops hcalm hsteps
      have hcomplete := (streamed_of_calm hgrows hcursor hn hsamples hcheck hconfigure hrunning
        hstops hcalm hsteps).2
      have hframed := Framing.payloads_of_reads hwhole hrest
      exact Except.ok.inj (hcomplete.symm.trans hframed)
  · rw [hstats] at hruns
    obtain ⟨rfl, sent, texts, hbooks⟩ := hruns.books
    have hsent := Scene.filterMap_eq_of_view hgrows.entries_eq hbooks.delivered_eq
    rw [Journal.delivered, hsent]
    exact ⟨hbooks.gains.chunksSent.trans (Nat.zero_add _),
      hbooks.gains.bytesSent.trans (Nat.zero_add _)⟩

end Session

/-- The audio of a session with a talkative peer: both samples are handed over. -/
theorem run_audio_talkative :
    ∃ entries payloads,
      ((Session.start .brief .twoChunks (.ofScript .talkative)).runCourse
        Rehearsal.transport 20).session.scene.entries = Scene.twoChunks.entries ++ entries ∧
      (SessionPlan.brief.framing 10).payloads [⟨0⟩, ⟨1⟩] = .ok payloads ∧
      Journal.payloads entries = payloads := by
  obtain ⟨entries, hentries, _, hmemory, _⟩ :=
    Session.run_audio Rehearsal.transport .brief .twoChunks (.ofScript .talkative) 20
  obtain ⟨payloads, hpayloads, _, _, hcomplete⟩ :=
    hmemory [⟨0⟩, ⟨1⟩] 10 rfl (by decide +kernel) (by decide)
  have hjournal : entries = ((Session.start .brief .twoChunks (.ofScript .talkative)).runCourse
      Rehearsal.transport 20).session.scene.entries := hentries.symm
  refine ⟨entries, payloads, hentries, hpayloads, hcomplete rfl ?_ rfl ?_ ?_ (.inl ?_)⟩
  · have haccepts : ((Session.start .brief .twoChunks (.ofScript .talkative)).configure
        Rehearsal.transport).1.toBool = true := by decide +kernel
    rcases hconfigure : (Session.start .brief .twoChunks (.ofScript .talkative)).configure
        Rehearsal.transport with ⟨e | handshake, opened⟩
    · rw [hconfigure] at haccepts
      simp [Except.toBool] at haccepts
    · exact ⟨handshake, opened, hconfigure⟩
  · apply Journal.stopsAfter_of_any
    rw [hjournal]
    decide +kernel
  · rw [hjournal]
    decide +kernel
  · exact Except.ne_error_of_toBool (by decide +kernel) _

end SpeechProbe
