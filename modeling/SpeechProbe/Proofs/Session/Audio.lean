import SpeechProbe.Proofs.Sample.Reading
import SpeechProbe.Proofs.Session.Accounting

/-!
# Audio on its way to the transport

What a session hands to the transport is what it takes from the source: chunk by chunk,
in order, each once, the empty ones left out.  Only a chunk that was taken when a stop
came is held back, and audio in memory never waits, so that none of it is.

Everything but streaming is `Mute`.  Of audio in memory, the payloads handed over are at
any time the beginning of what framing the samples gives, and all of it when nothing went
wrong before the samples were used up.
-/

namespace SpeechProbe

/-! ## Audio in the journal -/

namespace Journal

/-- Every chunk that was taken and holds a sample was handed over, in order. -/
def HandsOver (entries : List Entry) : Prop :=
  payloads entries = ((chunks entries).filter fun chunk => !chunk.isEmpty).map Chunk.payload

/-- Every chunk that was taken and holds a sample was handed over, but the last one was not:
a stop was requested at the very time at which it was taken. -/
def HoldsBack (entries : List Entry) : Prop :=
  ∃ handed time chunk rest, entries = handed ++ .fetched time chunk :: rest ∧
    HandsOver handed ∧ chunk.isEmpty = false ∧ .stopRequested time ∈ rest ∧
    chunks rest = [] ∧ payloads rest = []

theorem chunks_append (entries entries' : List Entry) :
    chunks (entries ++ entries') = chunks entries ++ chunks entries' :=
  List.filterMap_append

theorem payloads_append (entries entries' : List Entry) :
    payloads (entries ++ entries') = payloads entries ++ payloads entries' :=
  List.filterMap_append

theorem HandsOver.append {entries entries' : List Entry} (h : HandsOver entries)
    (h' : HandsOver entries') : HandsOver (entries ++ entries') := by
  unfold HandsOver at *
  rw [payloads_append, h, h', chunks_append, List.filter_append, List.map_append]

theorem handsOver_of_mute {entries : List Entry} (hchunks : chunks entries = [])
    (hpayloads : payloads entries = []) : HandsOver entries := by
  rw [HandsOver, hchunks, hpayloads]
  rfl

theorem HandsOver.append_holdsBack {entries entries' : List Entry} (h : HandsOver entries)
    (h' : HoldsBack entries') : HoldsBack (entries ++ entries') := by
  obtain ⟨handed, time, chunk, rest, rfl, hhanded, hheld⟩ := h'
  refine ⟨entries ++ handed, time, chunk, rest, ?_, h.append hhanded, hheld⟩
  rw [List.append_assoc]

theorem HoldsBack.append_mute {entries entries' : List Entry} (h : HoldsBack entries)
    (hchunks : chunks entries' = []) (hpayloads : payloads entries' = []) :
    HoldsBack (entries ++ entries') := by
  obtain ⟨handed, time, chunk, rest, rfl, hhanded, haudio, hstop, hnone, hnone'⟩ := h
  refine ⟨handed, time, chunk, rest ++ entries', ?_, hhanded, haudio, ?_, ?_, ?_⟩
  · rw [List.append_assoc, List.cons_append]
  · exact List.mem_append_left _ hstop
  · rw [chunks_append, hnone, hchunks]
    rfl
  · rw [payloads_append, hnone', hpayloads]
    rfl

end Journal

namespace Session

variable {σ : Type} {transport : Transport σ} {before after : Session σ}

/-! ## Mute parts -/

/-- No audio was taken and none handed over. -/
structure Mute (before after : Session σ) : Prop where
  grows : Grows before after
  view_eq : ∀ {α : Type} (f : Entry → Option α) [Entry.OfAudio f], after.view f = before.view f
  cursor_eq : after.scene.source.cursor? = before.scene.source.cursor?

theorem Mute.refl (session : Session σ) : Mute session session :=
  ⟨.refl _, fun _ => rfl, rfl⟩

theorem Mute.trans {first second third : Session σ} (h : Mute first second)
    (h' : Mute second third) : Mute first third where
  grows := h.grows.trans h'.grows
  view_eq := fun f => (h'.view_eq f).trans (h.view_eq f)
  cursor_eq := h'.cursor_eq.trans h.cursor_eq

theorem Exchanged.mute {entry : Entry} {elapsed : Nanos}
    (h : Exchanged before entry elapsed after) (hentry : entry.isAudio = false) :
    Mute before after := by
  refine ⟨h.grows, fun f _ => ?_, h.cursor_eq⟩
  exact h.view_eq_of_none f (Entry.OfAudio.eq_none entry hentry)

theorem mute_tell (session : Session σ) (call : Call) : Mute session (session.tell call) := by
  refine ⟨(keeps_tell session call).grows, fun f _ => ?_, rfl⟩
  have hnone : f (.called call) = none := Entry.OfAudio.eq_none _ rfl
  rw [view_tell, hnone]
  exact List.append_nil _

/-- Every step that makes no entry of audio is mute. -/
theorem steady_mute : Steady (Mute (σ := σ)) where
  refl := .refl
  trans := .trans
  waited := fun h => ⟨h.grows, fun f => h.view_eq f, h.cursor_eq⟩
  note := fun session note =>
    ⟨(keeps_note session note).grows, fun f => view_note session f note, rfl⟩
  count := fun session g => ⟨(stays_count session g).grows, fun _ => rfl, rfl⟩
  tell := mute_tell
  moveTo := fun session next =>
    ⟨grows_moveTo session next, fun f => view_moveTo session f next,
      congrArg Source.cursor? (source_moveTo session next)⟩
  announced := fun h => h.mute rfl
  received := fun h => h.mute rfl
  ended := fun h => h.mute rfl
  closed := fun h => h.mute rfl

/-- Releasing the source takes nothing from it. -/
theorem mute_endStreaming (session : Session σ) (result : Except Error Unit) :
    Mute session (session.endStreaming result) where
  grows := (stays_endStreaming session result).grows
  view_eq := fun f => view_endStreaming f result
  cursor_eq := by
    have hreleased := Scene.cursor_release session.scene
    cases result <;> exact hreleased

/-- Whatever follows streaming is mute. -/
theorem mute_finish {streamed : Session σ} {result : Except Error Unit}
    {out : Except Halt Unit}
    (h : Finishes transport (streamed.endStreaming result) out after) : Mute streamed after :=
  (mute_endStreaming streamed result).trans (steady_mute.finishes h)

/-- The entries of a mute part. -/
theorem Mute.entries (h : Mute before after) : ∃ entries,
    Scene.Grows before.scene after.scene entries ∧ Journal.chunks entries = [] ∧
      Journal.payloads entries = [] := by
  obtain ⟨entries, hgrows⟩ := h.grows
  refine ⟨entries, hgrows, ?_, ?_⟩
  · exact Scene.filterMap_eq_nil_of_view hgrows.entries_eq (h.view_eq Entry.chunk?)
  · exact Scene.filterMap_eq_nil_of_view hgrows.entries_eq (h.view_eq Entry.payload?)

/-! ## Delivering a chunk -/

/-- One payload was handed over and nothing was taken. -/
structure HandedOver (payload : Payload) (before after : Session σ) : Prop where
  grows : Grows before after
  chunks_eq : after.view Entry.chunk? = before.view Entry.chunk?
  payloads_eq : after.view Entry.payload? = before.view Entry.payload? ++ [payload]
  cursor_eq : after.scene.source.cursor? = before.scene.source.cursor?

theorem HandedOver.then {payload : Payload} {last : Session σ}
    (h : HandedOver payload before after) (hmute : Mute after last) :
    HandedOver payload before last where
  grows := h.grows.trans hmute.grows
  chunks_eq := (hmute.view_eq _).trans h.chunks_eq
  payloads_eq := (hmute.view_eq _).trans h.payloads_eq
  cursor_eq := hmute.cursor_eq.trans h.cursor_eq

theorem handedOver_of_exchanged {time elapsed elapsed' : Nanos} {payload : Payload}
    {result : Except Error Unit}
    (h : Exchanged before (.sentAudio time payload elapsed result) elapsed' after) :
    HandedOver payload before after :=
  ⟨h.grows, h.view_eq_of_none _ rfl, h.view_eq _, h.cursor_eq⟩

theorem handedOver_sendChunk {chunk : Chunk} {result : Except Error Unit}
    (h : before.sendChunk transport chunk = (result, after)) :
    HandedOver chunk.payload before after := by
  cases result with
  | error e =>
    obtain ⟨_, hexchanged⟩ := exchanged_sendChunk_error h
    exact handedOver_of_exchanged hexchanged
  | ok _ =>
    obtain ⟨_, _, hexchanged, rfl⟩ := exchanged_sendChunk_ok h
    exact (handedOver_of_exchanged hexchanged).then (steady_mute.count _ _)

/-- However the delivery of a chunk goes, it is handed over once. -/
theorem Delivers.handedOver {chunk : Chunk} {out : Except Halt (Option (Except Error Unit))}
    (h : Delivers transport chunk before out after) : HandedOver chunk.payload before after := by
  cases h with
  | refused send => exact handedOver_sendChunk send
  | broke send drain => exact (handedOver_sendChunk send).then (steady_mute.drains drain)
  | failed send drain => exact (handedOver_sendChunk send).then (steady_mute.drains drain)
  | closed send drain => exact (handedOver_sendChunk send).then (steady_mute.drains drain)
  | stopped send drain pace =>
    have hdrained := (handedOver_sendChunk send).then (steady_mute.drains drain)
    exact hdrained.then (steady_mute.waited (waited_pace pace))
  | paced send drain pace =>
    have hdrained := (handedOver_sendChunk send).then (steady_mute.drains drain)
    exact hdrained.then (steady_mute.waited (waited_pace pace))

/-! ## Any source -/

/-- Everything taken between two moments was handed over. -/
def HandsOver (before after : Session σ) : Prop :=
  ∃ entries, Scene.Grows before.scene after.scene entries ∧ Journal.HandsOver entries

/-- Everything taken between two moments was handed over, but for the last chunk. -/
def HoldsBack (before after : Session σ) : Prop :=
  ∃ entries, Scene.Grows before.scene after.scene entries ∧ Journal.HoldsBack entries

theorem HandsOver.trans {first second third : Session σ} (h : HandsOver first second)
    (h' : HandsOver second third) : HandsOver first third := by
  obtain ⟨entries, hgrows, hhands⟩ := h
  obtain ⟨entries', hgrows', hhands'⟩ := h'
  exact ⟨_, hgrows.trans hgrows', hhands.append hhands'⟩

theorem Mute.handsOver (h : Mute before after) : HandsOver before after := by
  obtain ⟨entries, hgrows, hchunks, hpayloads⟩ := h.entries
  exact ⟨entries, hgrows, Journal.handsOver_of_mute hchunks hpayloads⟩

theorem HandsOver.holdsBack {first second third : Session σ} (h : HandsOver first second)
    (h' : HoldsBack second third) : HoldsBack first third := by
  obtain ⟨entries, hgrows, hhands⟩ := h
  obtain ⟨entries', hgrows', hholds⟩ := h'
  exact ⟨_, hgrows.trans hgrows', hhands.append_holdsBack hholds⟩

theorem HoldsBack.then {first second third : Session σ} (h : HoldsBack first second)
    (hmute : Mute second third) : HoldsBack first third := by
  obtain ⟨entries, hgrows, hholds⟩ := h
  obtain ⟨entries', hgrows', hchunks, hpayloads⟩ := hmute.entries
  exact ⟨_, hgrows.trans hgrows', hholds.append_mute hchunks hpayloads⟩

theorem mute_fetch {fetched : Fetched} (hkeeps : Keeps before after)
    (h : Scene.Fetches before.scene fetched after.scene)
    (hnone : ∀ chunk, fetched ≠ .chunk chunk) : Mute before after := by
  cases h with
  | chunk wait running settle clock => exact absurd rfl (hnone _)
  | ended wait => exact ⟨hkeeps.grows, fun f => wait.view_eq f, wait.cursor_eq⟩
  | waiting wait => exact ⟨hkeeps.grows, fun f => wait.view_eq f, wait.cursor_eq⟩

/-- A chunk that is found and then handed over. -/
theorem handsOver_fetch {fetched : Session σ} {chunk : Chunk} (hchunk : chunk.isEmpty = false)
    (h : Scene.Fetches before.scene (.chunk chunk) fetched.scene)
    (hhanded : HandedOver chunk.payload fetched after) : HandsOver before after := by
  obtain ⟨waited, time, settled, hgrows, hwaited, hsettled, _⟩ := h.entries_chunk
  obtain ⟨entries, hgrows'⟩ := hhanded.grows
  have hchunks := Scene.filterMap_eq_nil_of_view hgrows'.entries_eq hhanded.chunks_eq
  have hpayloads := Scene.filterMap_eq_of_view hgrows'.entries_eq hhanded.payloads_eq
  refine ⟨_, hgrows.trans hgrows', ?_⟩
  simp only [Journal.HandsOver, Journal.payloads, Journal.chunks, List.filterMap_append,
    List.filterMap_cons, Entry.filterMap_eq_nil_of_ambient _ hwaited,
    Entry.filterMap_eq_nil_of_ambient _ hsettled, hchunks, hpayloads]
  simp [Entry.payload?, Entry.chunk?, hchunk]

/-- A chunk without samples is not handed over. -/
theorem handsOver_fetch_empty {chunk : Chunk} (hchunk : chunk.isEmpty = true)
    (h : Scene.Fetches before.scene (.chunk chunk) after.scene) : HandsOver before after := by
  obtain ⟨waited, time, settled, hgrows, hwaited, hsettled, _⟩ := h.entries_chunk
  refine ⟨_, hgrows, ?_⟩
  simp only [Journal.HandsOver, Journal.payloads, Journal.chunks, List.filterMap_append,
    List.filterMap_cons, Entry.filterMap_eq_nil_of_ambient _ hwaited,
    Entry.filterMap_eq_nil_of_ambient _ hsettled]
  simp [Entry.payload?, Entry.chunk?, hchunk]

/-- A chunk that was found when a stop came is held back. -/
theorem holdsBack_fetch {chunk : Chunk} (hchunk : chunk.isEmpty = false)
    (h : Scene.Fetches before.scene (.chunk chunk) after.scene)
    (hstopped : after.running = false) : HoldsBack before after := by
  obtain ⟨waited, time, settled, hgrows, hwaited, hsettled, hstop⟩ := h.entries_chunk
  refine ⟨_, hgrows, waited, time, chunk, settled, rfl, ?_, hchunk, hstop hstopped, ?_, ?_⟩
  · exact Journal.handsOver_of_mute (Entry.filterMap_eq_nil_of_ambient _ hwaited)
      (Entry.filterMap_eq_nil_of_ambient _ hwaited)
  · exact Entry.filterMap_eq_nil_of_ambient _ hsettled
  · exact Entry.filterMap_eq_nil_of_ambient _ hsettled

/-- A round hands over what it takes, or it holds back a chunk and is the last. -/
theorem Round.audio {n : Nat} {out : Except Halt (Option (Except Error Unit))}
    (h : Round transport n before out after) :
    HandsOver before after ∨ HoldsBack before after ∧ out ≠ .ok none := by
  cases h with
  | stopped stop => exact .inl (Mute.refl before).handsOver
  | broke running next =>
    obtain ⟨hkeeps, ⟨_, rfl⟩ | ⟨_, _, hfetches⟩⟩ := nextAudio_halted running next
    · exact .inl (Mute.refl after).handsOver
    · exact .inl (mute_fetch hkeeps hfetches (by simp)).handsOver
  | ended running next =>
    obtain ⟨hkeeps, _, _, hfetches⟩ := nextAudio_none running next
    exact .inl (mute_fetch hkeeps hfetches (by simp)).handsOver
  | skipped running next empty =>
    obtain ⟨_, _, _, hfetches⟩ := nextAudio_some running next
    exact .inl (handsOver_fetch_empty empty hfetches)
  | held running next audio stop =>
    obtain ⟨_, _, _, hfetches⟩ := nextAudio_some running next
    exact .inr ⟨holdsBack_fetch audio hfetches stop, by simp⟩
  | delivered running next audio running' deliver =>
    obtain ⟨_, _, _, hfetches⟩ := nextAudio_some running next
    exact .inl (handsOver_fetch audio hfetches deliver.handedOver)

theorem Streams.audio {n : Nat} {out : Except Halt (Except Error Unit)}
    (h : Streams transport n before out after) :
    HandsOver before after ∨ HoldsBack before after := by
  induction h with
  | outOfSteps session => exact .inl (Mute.refl session).handsOver
  | broke round => exact round.audio.imp_right And.left
  | last round => exact round.audio.imp_right And.left
  | more round rest ih =>
    rcases round.audio with hround | ⟨_, hlast⟩
    · exact ih.imp hround.trans hround.holdsBack
    · exact absurd rfl hlast

theorem StreamsSource.audio {out : Except Halt (Except Error Unit)}
    (h : StreamsSource transport before out after) :
    HandsOver before after ∨ HoldsBack before after := by
  have hmoved := (steady_mute.moveTo before .streaming).handsOver
  cases h with
  | unstreamable key reason empty => exact .inl hmoved
  | rounds audio streams => exact streams.audio.imp hmoved.trans hmoved.holdsBack

/-- A session takes audio and hands it over in its streaming only, if it comes to that. -/
theorem Runs.audio_cases {out : Except Halt (Except Error Stats)}
    (h : Runs transport before out after) : Mute before after ∨
      ∃ handshake opened streaming streamed, Opens transport before (.ok handshake) opened ∧
        StreamsSource transport opened streaming streamed ∧ Mute streamed after := by
  cases h with
  | invalid check note =>
    exact .inl ((steady_mute.note _ note).trans (steady_mute.close transport _))
  | refused check opens note =>
    have hopened := (steady_mute.opens opens).trans (steady_mute.note _ note)
    exact .inl (hopened.trans (steady_mute.close transport _))
  | broke check opens streams => exact .inr ⟨_, _, _, _, opens, streams, .refl _⟩
  | unfinished check opens streams finishes =>
    exact .inr ⟨_, _, _, _, opens, streams, mute_finish finishes⟩
  | finished check opens streams finishes =>
    exact .inr ⟨_, _, _, _, opens, streams, mute_finish finishes⟩

/-- Whatever the source, and however a session ends or breaks off, the payloads are those of
the chunks that were taken, but for at most one chunk that was taken as a stop came. -/
theorem Runs.audio {out : Except Halt (Except Error Stats)}
    (h : Runs transport before out after) : HandsOver before after ∨ HoldsBack before after := by
  rcases h.audio_cases with hmute | ⟨_, _, _, _, opens, streams, hmute⟩
  · exact .inl hmute.handsOver
  · have hopened := (steady_mute.opens opens).handsOver
    have hstreamed := streams.audio.imp hopened.trans hopened.holdsBack
    exact hstreamed.imp (·.trans hmute.handsOver) (·.then hmute)

/-! ## The kind of the source -/

theorem isSelfPaced_eq_of_cursor_eq
    (h : after.scene.source.cursor? = before.scene.source.cursor?) :
    after.scene.source.isSelfPaced = before.scene.source.isSelfPaced := by
  rw [Source.isSelfPaced_eq, h, ← Source.isSelfPaced_eq]

/-- A source is live before a round exactly when it is after it. -/
theorem Round.isSelfPaced_eq {n : Nat} {out : Except Halt (Option (Except Error Unit))}
    (h : Round transport n before out after) :
    after.scene.source.isSelfPaced = before.scene.source.isSelfPaced := by
  cases h with
  | stopped stop => rfl
  | broke running next =>
    obtain ⟨_, ⟨_, rfl⟩ | ⟨_, hfetch, _⟩⟩ := nextAudio_halted running next
    · rfl
    · exact Scene.isSelfPaced_fetch hfetch
  | ended running next => exact Scene.isSelfPaced_fetch (nextAudio_none running next).2.2.1
  | skipped running next empty =>
    exact Scene.isSelfPaced_fetch (nextAudio_some running next).2.2.1
  | held running next audio stop =>
    exact Scene.isSelfPaced_fetch (nextAudio_some running next).2.2.1
  | delivered running next audio running' deliver =>
    have hfetched := Scene.isSelfPaced_fetch (nextAudio_some running next).2.2.1
    exact (isSelfPaced_eq_of_cursor_eq deliver.handedOver.cursor_eq).trans hfetched

end Session
end SpeechProbe
