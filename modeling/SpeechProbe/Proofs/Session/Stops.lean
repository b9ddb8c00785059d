import SpeechProbe.Proofs.Session.Samples

/-!
# Stopping a session

A stop may be requested before a session or at any moment of it: while a call of the transport
lasts, while live audio is awaited, in a pacing wait, or at the very time at which one of these
ends.  Wherever it falls, no payload is handed over after it, and it is not a failure: streaming
comes to an end as it does when the source runs dry, and the end mark, the trailing results and
`close` follow.
-/

namespace SpeechProbe

/-! ## Silence after a stop -/

/-- No payload is handed over after a stop request. -/
def Journal.QuietAfterStop (entries : List Entry) : Prop :=
  ∀ before time after, entries = before ++ .stopRequested time :: after → payloads after = []

namespace Journal.QuietAfterStop

variable {entries entries' : List Entry}

theorem of_silent (h : payloads entries = []) : QuietAfterStop entries := by
  rintro before time after rfl
  rw [payloads_append, List.append_eq_nil_iff] at h
  exact h.2

/-- What comes before the first stop may be loud. -/
theorem cons {entry : Entry} (hentry : entry.isStop = false) (h : QuietAfterStop entries) :
    QuietAfterStop (entry :: entries) := by
  intro before time after hsplit
  cases before with
  | nil =>
    obtain ⟨rfl, rfl⟩ := List.cons.inj hsplit
    simp [Entry.isStop] at hentry
  | cons first before => exact h before time after (List.cons.inj hsplit).2

/-- The silence after a stop extends over what follows. -/
theorem append (h : QuietAfterStop entries) (h' : QuietAfterStop entries')
    (hstopped : entries.any Entry.isStop → payloads entries' = []) :
    QuietAfterStop (entries ++ entries') := by
  intro before time after hsplit
  rcases List.append_eq_append_iff.mp hsplit with ⟨gap, rfl, hafter⟩ | ⟨gap, rfl, hgap⟩
  · exact h' gap time after hafter
  · cases gap with
    | nil => exact h' [] time after hgap.symm
    | cons first gap =>
      rw [List.cons_append, List.cons.injEq] at hgap
      obtain ⟨rfl, rfl⟩ := hgap
      rw [payloads_append, h before time gap rfl, hstopped (by simp [Entry.isStop])]
      rfl

end Journal.QuietAfterStop

namespace Session

variable {σ : Type} {transport : Transport σ} {before after : Session σ}

/-- Between two moments no payload is handed over after a stop, one before the first of them
included. -/
def Obeys (before after : Session σ) : Prop :=
  ∃ entries, Scene.Grows before.scene after.scene entries ∧
    (before.running = false → Journal.payloads entries = []) ∧ Journal.QuietAfterStop entries

theorem Obeys.trans {first second third : Session σ} (h : Obeys first second)
    (h' : Obeys second third) : Obeys first third := by
  obtain ⟨entries, hgrows, hstopped, hquiet⟩ := h
  obtain ⟨entries', hgrows', hstopped', hquiet'⟩ := h'
  have hrunning : second.running = (first.running && !entries.any Entry.isStop) :=
    hgrows.running_eq
  refine ⟨_, hgrows.trans hgrows', fun hfirst => ?_, hquiet.append hquiet' fun hany => ?_⟩
  · rw [Journal.payloads_append, hstopped hfirst, hstopped' (by rw [hrunning, hfirst]; rfl)]
    rfl
  · exact hstopped' (by rw [hrunning, hany]; exact Bool.and_false _)

/-- Where no payload is handed over, none is after a stop. -/
theorem obeys_of_view_eq (hgrows : Grows before after)
    (h : after.view Entry.payload? = before.view Entry.payload?) : Obeys before after := by
  obtain ⟨entries, hentries⟩ := hgrows
  have hsilent : Journal.payloads entries = [] :=
    Scene.filterMap_eq_nil_of_view hentries.entries_eq h
  exact ⟨entries, hentries, fun _ => hsilent, .of_silent hsilent⟩

theorem Mute.obeys (h : Mute before after) : Obeys before after :=
  obeys_of_view_eq h.grows (h.view_eq Entry.payload?)

/-- A payload that is handed over while no stop was requested.  A stop that falls into the call
comes after it. -/
theorem Exchanged.obeys {entry : Entry} {elapsed : Nanos}
    (h : Exchanged before entry elapsed after) (hentry : entry.isStop = false)
    (hrunning : before.running = true) : Obeys before after := by
  obtain ⟨rest, hpassage⟩ := h.passage
  have hsilent : Journal.payloads rest = [] :=
    Entry.filterMap_eq_nil_of_ambient _ hpassage.ambient
  refine ⟨_, (Scene.grows_record before.scene hentry).trans hpassage.toGrows, ?_,
    (Journal.QuietAfterStop.of_silent hsilent).cons hentry⟩
  simp [hrunning]

theorem obeys_sendChunk {chunk : Chunk} {result : Except Error Unit}
    (h : before.sendChunk transport chunk = (result, after)) (hrunning : before.running = true) :
    Obeys before after := by
  cases result with
  | error e =>
    obtain ⟨_, hexchanged⟩ := exchanged_sendChunk_error h
    exact hexchanged.obeys rfl hrunning
  | ok _ =>
    obtain ⟨_, _, hexchanged, rfl⟩ := exchanged_sendChunk_ok h
    exact (hexchanged.obeys rfl hrunning).trans (steady_mute.count _ _).obeys

theorem Delivers.obeys {chunk : Chunk} {out : Except Halt (Option (Except Error Unit))}
    (h : Delivers transport chunk before out after) (hrunning : before.running = true) :
    Obeys before after := by
  cases h with
  | refused send => exact obeys_sendChunk send hrunning
  | broke send drain => exact (obeys_sendChunk send hrunning).trans (steady_mute.drains drain).obeys
  | failed send drain =>
    exact (obeys_sendChunk send hrunning).trans (steady_mute.drains drain).obeys
  | closed send drain =>
    exact (obeys_sendChunk send hrunning).trans (steady_mute.drains drain).obeys
  | stopped send drain pace =>
    have hpaced := (steady_mute.drains drain).trans (steady_mute.waited (waited_pace pace))
    exact (obeys_sendChunk send hrunning).trans hpaced.obeys
  | paced send drain pace =>
    have hpaced := (steady_mute.drains drain).trans (steady_mute.waited (waited_pace pace))
    exact (obeys_sendChunk send hrunning).trans hpaced.obeys

/-- Audio is taken without a word to the transport. -/
theorem obeys_fetch {fetched : Fetched} (hkeeps : Keeps before after)
    (h : Scene.Fetches before.scene fetched after.scene) : Obeys before after :=
  obeys_of_view_eq hkeeps.grows (h.view_eq Entry.payload? fun _ _ => rfl)

/-- A round looks for a stop after it has taken a chunk, and hands it over only without one. -/
theorem Round.obeys {n : Nat} {out : Except Halt (Option (Except Error Unit))}
    (h : Round transport n before out after) : Obeys before after := by
  cases h with
  | stopped stop => exact (Mute.refl before).obeys
  | broke running next =>
    obtain ⟨hkeeps, ⟨_, rfl⟩ | ⟨_, _, hfetches⟩⟩ := nextAudio_halted running next
    · exact (Mute.refl after).obeys
    · exact obeys_fetch hkeeps hfetches
  | ended running next =>
    obtain ⟨hkeeps, _, _, hfetches⟩ := nextAudio_none running next
    exact obeys_fetch hkeeps hfetches
  | skipped running next empty =>
    obtain ⟨hkeeps, _, _, hfetches⟩ := nextAudio_some running next
    exact obeys_fetch hkeeps hfetches
  | held running next audio stop =>
    obtain ⟨hkeeps, _, _, hfetches⟩ := nextAudio_some running next
    exact obeys_fetch hkeeps hfetches
  | delivered running next audio running' deliver =>
    obtain ⟨hkeeps, _, _, hfetches⟩ := nextAudio_some running next
    exact (obeys_fetch hkeeps hfetches).trans (deliver.obeys running')

theorem Streams.obeys {n : Nat} {out : Except Halt (Except Error Unit)}
    (h : Streams transport n before out after) : Obeys before after := by
  induction h with
  | outOfSteps session => exact (Mute.refl session).obeys
  | broke round => exact round.obeys
  | last round => exact round.obeys
  | more round rest ih => exact round.obeys.trans ih

theorem StreamsSource.obeys {out : Except Halt (Except Error Unit)}
    (h : StreamsSource transport before out after) : Obeys before after := by
  have hmoved := (steady_mute.moveTo before .streaming).obeys
  cases h with
  | unstreamable key reason empty => exact hmoved
  | rounds audio streams => exact hmoved.trans streams.obeys

/-- However a session ends or breaks off, no payload is handed over after a stop. -/
theorem Runs.obeys {out : Except Halt (Except Error Stats)}
    (h : Runs transport before out after) : Obeys before after := by
  rcases h.audio_cases with hmute | ⟨_, _, _, _, opens, streams, hmute⟩
  · exact hmute.obeys
  · exact ((steady_mute.opens opens).obeys.trans streams.obeys).trans hmute.obeys

/-! ## How streaming ends -/

/-- Why streaming breaks off: the allowance was spent on chunks and text frames, nobody is left
to push a block or to request a stop, or samples in memory do not fit a position. -/
inductive BreaksOff (n fuel : Nat) (source : Source) (after : Session σ)
    (streaming : List Entry) : Halt → Prop where
  | outOfSteps
      (spent : fuel ≤ (Journal.chunks streaming).length + (Journal.texts streaming).length) :
      BreaksOff n fuel source after streaming .outOfSteps
  | blocked (running : after.running = true) :
      BreaksOff n fuel source after streaming .blocked
  | positionOverflow {cursor : Cursor} (memory : source.cursor? = some cursor)
      (long : ¬ cursor.Fits n) : BreaksOff n fuel source after streaming .positionOverflow

/-- A wait for live audio that cannot end was not stopped, and a position is out of range in
memory only. -/
theorem Round.halt_cases {n : Nat} {halt : Halt}
    (h : Round transport n before (.error halt) after) :
    halt = .outOfSteps ∨ halt = .blocked ∧ after.running = true ∨
      halt = .positionOverflow ∧ before.scene.source.isSelfPaced = false := by
  cases h with
  | broke running next =>
    obtain ⟨_, ⟨hfetch, _⟩ | ⟨hblocked, hfetch, _⟩⟩ := nextAudio_halted running next
    · obtain ⟨cursor, hcursor, _⟩ := Scene.exists_cursor_of_fetch_error hfetch
      refine .inr (.inr ⟨Scene.fetch_error hfetch, ?_⟩)
      rw [Source.isSelfPaced_eq, hcursor]
      rfl
    · exact .inr (.inl ⟨hblocked, Scene.running_of_fetch_waiting hfetch⟩)
  | delivered running next audio running' deliver => exact .inl deliver.halt_eq

theorem Streams.halt_cases {n : Nat} {out : Except Halt (Except Error Unit)}
    (h : Streams transport n before out after) :
    ∀ halt, out = .error halt → halt = .outOfSteps ∨ halt = .blocked ∧ after.running = true ∨
      halt = .positionOverflow ∧ before.scene.source.isSelfPaced = false := by
  induction h with
  | outOfSteps session =>
    rintro halt ⟨⟩
    exact .inl rfl
  | broke round =>
    rintro halt ⟨⟩
    exact round.halt_cases
  | last round => simp
  | more round rest ih =>
    rw [round.isSelfPaced_eq] at ih
    exact ih

/-- Why streaming broke off, if it did. -/
theorem breaksOff_streamCourse (transport : Transport σ) (fuel : Nat) (session : Session σ)
    (hn : 0 < (session.plan.framing session.scene.source.rate).chunkLength) {halt : Halt}
    {streaming : List Entry}
    (hgrows : Scene.Grows session.scene (session.streamCourse transport fuel).session.scene
      streaming)
    (h : (session.streamCourse transport fuel).outcome = .error halt) :
    BreaksOff (session.plan.framing session.scene.source.rate).chunkLength fuel
      session.scene.source (session.streamCourse transport fuel).session streaming halt := by
  have heq := streamCourse_eq_sendChunks transport fuel session hn
  have hstreams := streams_sendChunks transport
    (session.plan.framing session.scene.source.rate).chunkLength fuel (session.moveTo .streaming)
  have hsource := streamsSource_streamCourse transport fuel session
  rw [h] at hsource
  rw [← heq, h] at hstreams
  rcases hstreams.halt_cases halt rfl with rfl | ⟨rfl, hrunning⟩ | ⟨rfl, hmemory⟩
  · refine .outOfSteps ?_
    have hspent := spent_sendChunks transport _ fuel (session.moveTo .streaming) (heq ▸ h)
    rw [← heq] at hspent
    have hchunks := congrArg List.length
      (Scene.view_of_entries (f := Entry.chunk?) hgrows.entries_eq)
    have htexts := congrArg List.length
      (Scene.view_of_entries (f := Entry.text?) hgrows.entries_eq)
    simp only [spent, view_moveTo] at hspent
    simp only [List.length_append] at hchunks htexts
    simp only [view, Journal.chunks, Journal.texts] at hspent ⊢
    omega
  · exact .blocked hrunning
  · rw [source_moveTo, Source.isSelfPaced_eq, Option.isNone_eq_false_iff,
      Option.isSome_iff_exists] at hmemory
    obtain ⟨cursor, hcursor⟩ := hmemory
    refine .positionOverflow hcursor fun hfits => ?_
    have hlength := chunkLength_eq hcursor
    have hhalt := (hsource.progress hcursor (hlength ▸ hn) (hlength ▸ hfits)).1 _ rfl
    simp at hhalt

/-! ## What follows -/

/-- Streaming that ends well leaves the connection open. -/
theorem Round.peerClosed_eq {n : Nat}
    (h : Round transport n before (.ok (some (.ok ()))) after) :
    after.stats.peerClosed = before.stats.peerClosed := by
  cases h with
  | stopped stop => rfl
  | ended running next => rw [(nextAudio_none running next).1.stats_eq]
  | held running next audio stop => rw [(nextAudio_some running next).1.stats_eq]
  | delivered running next audio running' deliver =>
    cases deliver with
    | stopped send drain pace =>
      rw [(waited_pace pace).stats_eq, peerClosed_send_drain send drain,
        (nextAudio_some running next).1.stats_eq]
      exact Bool.or_false _

theorem Streams.still_open {n : Nat} {out : Except Halt (Except Error Unit)}
    (h : Streams transport n before out after) :
    out = .ok (.ok ()) → before.stats.peerClosed = false → after.stats.peerClosed = false := by
  induction h with
  | outOfSteps session => simp
  | broke round => simp
  | last round =>
    rintro ⟨⟩ hopen
    exact round.peerClosed_eq.trans hopen
  | more round rest ih =>
    intro hout hopen
    exact ih hout ((round.conversation hopen).1 rfl).still_open

/-- Calls that only listen to the peer. -/
def Listens (timeout : Nanos) (calls : List Exchange) : Prop :=
  ∀ call ∈ calls, ∃ result, call = .receive timeout result

/-- However a drain ends or breaks off, it only listens. -/
theorem Drains.listens {out : Except Halt (Except Error Drained)}
    (h : Drains transport before out after) : ∃ calls,
      after.exchanges = before.exchanges ++ calls ∧ Listens before.plan.pollTimeout calls := by
  have honce : ∀ {session last : Session σ} {result : Except Error Received},
      session.receive transport session.plan.pollTimeout = (result, last) → ∃ calls,
        last.exchanges = session.exchanges ++ calls ∧ Listens session.plan.pollTimeout calls := by
    intro session last result receive
    exact ⟨_, exchanges_receive receive, by simp [Listens]⟩
  induction h with
  | outOfSteps session => exact ⟨[], (List.append_nil _).symm, by simp [Listens]⟩
  | failed receive => exact honce receive
  | dry frames receive => exact honce receive
  | closed frames receive =>
    have hcalls := honce receive
    exact hcalls
  | @text session received after text out receive rest ih =>
    obtain ⟨calls, hcalls, hlistens⟩ := ih
    obtain ⟨_, hexchanged⟩ := exchanged_receive receive
    rw [(stays_accept text).plan_eq, hexchanged.plan_eq] at hlistens
    refine ⟨.receive session.plan.pollTimeout (.ok (.text text)) :: calls, ?_, ?_⟩
    · rw [hcalls, exchanges_accept, exchanges_receive receive, List.append_assoc]
      rfl
    · rintro call (_ | ⟨_, hcall⟩)
      · exact ⟨_, rfl⟩
      · exact hlistens call hcall

/-- Collecting that breaks off has only listened, and has run out of steps. -/
theorem Collects.listens {deadline : Nanos} {out : Except Halt Unit}
    (h : Collects transport deadline before out after) : ∀ halt, out = .error halt →
      halt = .outOfSteps ∧ ∃ calls, after.exchanges = before.exchanges ++ calls ∧
        Listens before.plan.pollTimeout calls := by
  induction h with
  | outOfSteps session =>
    rintro halt ⟨⟩
    exact ⟨rfl, [], (List.append_nil _).symm, by simp [Listens]⟩
  | past due => simp
  | broke early drain =>
    rintro halt ⟨⟩
    exact ⟨drain.halt_eq _ rfl, drain.listens⟩
  | failed early drain => simp
  | closed early drain => simp
  | again early drain rest ih =>
    intro halt hout
    obtain ⟨hhalt, more, hmore, hlistens'⟩ := ih halt hout
    obtain ⟨calls, hcalls, hlistens⟩ := drain.listens
    rw [(waited_rest _ _).plan_eq, drain.stays.plan_eq] at hlistens'
    refine ⟨hhalt, calls ++ more, ?_, fun call hcall => ?_⟩
    · rw [hmore, exchanges_waited (waited_rest _ _), hcalls, List.append_assoc]
    · rcases List.mem_append.mp hcall with hcall | hcall
      · exact hlistens call hcall
      · exact hlistens' call hcall

/-- The calls that bring a session to its end while the connection is open, and what becomes of
the session with them. -/
inductive IsEnding (plan : SessionPlan) :
    Except Halt (Except Error Stats) → List Exchange → Prop where
  | closed (stats : Stats) (sent : Except Error Unit) {trailing : List Exchange}
      (collecting : IsCollecting plan.pollTimeout trailing) (closing : Except Error Unit) :
      IsEnding plan (.ok (.ok stats)) (.message .finished sent :: trailing ++ [.close closing])
  /-- The window cannot be measured, or the allowance ran out in it. -/
  | broke {halt : Halt} (why : halt = .clockOverflow ∨ halt = .outOfSteps)
      (sent : Except Error Unit) {trailing : List Exchange}
      (listens : Listens plan.pollTimeout trailing) :
      IsEnding plan (.error halt) (.message .finished sent :: trailing)

theorem drainDeadline_error {session : Session σ} {halt : Halt}
    (h : session.drainDeadline = .error halt) : halt = .clockOverflow := by
  unfold drainDeadline at h
  dsimp only at h
  split at h
  · exact (Except.error.inj h).symm
  · simp at h

/-- The end of a session whose connection is open. -/
theorem Finishes.isEnding {out : Except Halt Unit} (h : Finishes transport before out after)
    (hopen : before.stats.peerClosed = false) : ∃ calls,
      after.exchanges = before.exchanges ++ calls ∧
        IsEnding before.plan (out.map fun _ => .ok after.stats) calls := by
  have hmoved : (before.moveTo .draining).exchanges = before.exchanges :=
    view_moveTo before Entry.exchange? .draining
  obtain ⟨sent, hsent⟩ := exchanges_sendEnd transport (before.moveTo .draining)
  have hplan := (stays_sendEnd transport (before.moveTo .draining)).plan_eq
  rw [hmoved] at hsent
  rw [plan_moveTo] at hplan
  cases h with
  | cut closed => simp [hopen] at closed
  | overflow open' deadline =>
    exact ⟨_, hsent, .broke (.inl (drainDeadline_error deadline)) sent (by simp [Listens])⟩
  | broke open' window collect =>
    obtain ⟨hhalt, calls, hcalls, hlistens⟩ := collect.listens _ rfl
    rw [hplan] at hlistens
    refine ⟨_, ?_, .broke (.inr hhalt) sent hlistens⟩
    rw [hcalls, hsent, List.append_assoc]
    rfl
  | collected open' window collect =>
    have hfinishes := Finishes.collected open' window collect
    obtain ⟨closing, ⟨hclosed, _⟩ | ⟨sent', trailing, _, hcollecting, hcalls⟩⟩ :=
      hfinishes.conversation
    · simp [hopen] at hclosed
    · refine ⟨_, ?_, .closed _ sent' hcollecting closing⟩
      rw [hcalls]
      simp only [List.append_assoc, List.cons_append]

/-! ## Whole sessions -/

/-- What comes after streaming that ended well. -/
theorem isEnding_runCourse (fuel : Nat) {opened : Session σ} {handshake : Handshake}
    (hcheck : before.plan.check = .ok ())
    (hconfigure : before.configure transport = (.ok handshake, opened))
    (hn : 0 < (opened.plan.framing opened.scene.source.rate).chunkLength)
    (hopen : before.stats.peerClosed = false)
    (h : (opened.streamCourse transport fuel).outcome = .ok (.ok ())) : ∃ calls,
      (before.runCourse transport fuel).session.exchanges =
        (opened.streamCourse transport fuel).session.exchanges ++ calls ∧
      IsEnding before.plan (before.runCourse transport fuel).outcome calls := by
  have hopens := opens_configure transport before
  rw [hconfigure] at hopens
  rcases runCourse_cases fuel hcheck hconfigure with
    ⟨_, hhalt, _⟩ | ⟨result, out, hresult, hfinishes, hout⟩
  · simp [h] at hhalt
  rw [h, Except.ok.injEq] at hresult
  subst hresult
  have hstreams := streamsSource_streamCourse transport fuel opened
  have hrounds := streams_sendChunks transport
    (opened.plan.framing opened.scene.source.rate).chunkLength fuel (opened.moveTo .streaming)
  rw [← streamCourse_eq_sendChunks transport fuel opened hn] at hrounds
  have hstill := hrounds.still_open h (by
    rw [stats_moveTo]
    exact hopens.peerClosed_eq.trans hopen)
  obtain ⟨calls, hcalls, hending⟩ := hfinishes.isEnding (by
    rw [peerClosed_endStreaming, hstill]
    rfl)
  rw [exchanges_endStreaming] at hcalls
  rw [(stays_endStreaming _ _).plan_eq, hstreams.plan_eq, hopens.plan_eq, ← hout] at hending
  exact ⟨calls, hcalls, hending⟩

/-- What a stop does to a session, whatever its source and its transport, and wherever the stop
falls: before the session, into a call of the transport, or into a wait.

After it no payload is handed over.  Nor does it make a session fail whose first answer was
accepted and whose chunks hold a sample: there, streaming ends well unless a fault of the
transport shows in its entries, and after streaming that ended well the next calls are the end
mark, the looks for trailing results, and `close`.

Streaming that comes to no end at all is not kept from it by a stop: it takes a transport that
always has one more text frame, a live source that is silent for good and was not stopped, or
more samples in memory than a position can count. -/
theorem run_stop (transport : Transport σ) (plan : SessionPlan) (scene : Scene) (peer : σ)
    (fuel : Nat) :
    ∃ entries,
      ((start plan scene peer).runCourse transport fuel).session.scene.entries =
        scene.entries ++ entries ∧
      (scene.running = false → Journal.payloads entries = []) ∧
      Journal.QuietAfterStop entries ∧
      ∀ handshake opened, plan.check = .ok () →
        (start plan scene peer).configure transport = (.ok handshake, opened) →
        1 ≤ (plan.framing opened.scene.source.rate).chunkLength →
        (∀ e, ((start plan scene peer).runCourse transport fuel).outcome ≠ .ok (.error e)) ∧
        ∃ opening streaming closing, entries = opening ++ streaming ++ closing ∧
          opened.scene.entries = scene.entries ++ opening ∧
          (opened.streamCourse transport fuel).session.scene.entries =
            opened.scene.entries ++ streaming ∧
          match (opened.streamCourse transport fuel).outcome with
          | .ok (.ok ()) =>
            IsEnding plan ((start plan scene peer).runCourse transport fuel).outcome
              (Journal.exchanges closing)
          | .ok (.error _) => ∃ entry ∈ streaming, entry.fault? = some ()
          | .error halt =>
            BreaksOff (plan.framing opened.scene.source.rate).chunkLength fuel
              opened.scene.source (opened.streamCourse transport fuel).session streaming halt := by
  obtain ⟨entries, hgrows, hstopped, hquiet⟩ :=
    (runs_runCourse transport fuel (start plan scene peer)).obeys
  refine ⟨entries, hgrows.entries_eq, hstopped, hquiet,
    fun handshake opened hcheck hconfigure hn => ?_⟩
  refine ⟨runCourse_ne_error fuel hcheck hconfigure, ?_⟩
  have hopens := opens_configure transport (start plan scene peer)
  rw [hconfigure] at hopens
  have hstreams := streamsSource_streamCourse transport fuel opened
  obtain ⟨opening, hopening⟩ := passive_grows.opens hopens
  obtain ⟨streaming, hstreaming⟩ := lively_grows.streamsSource hstreams
  obtain ⟨closing, hclosing⟩ := (mute_runCourse fuel hcheck hconfigure).grows
  have hsplit := hgrows.unique ((hopening.trans hstreaming).trans hclosing)
  refine ⟨opening, streaming, closing, hsplit, hopening.entries_eq, hstreaming.entries_eq, ?_⟩
  have hplan : opened.plan = plan := hopens.plan_eq
  rw [← hplan] at hn ⊢
  split
  · rename_i hout
    obtain ⟨calls, hcalls, hending⟩ := isEnding_runCourse fuel hcheck hconfigure hn rfl hout
    rw [Journal.exchanges, Scene.filterMap_eq_of_view hclosing.entries_eq hcalls, hplan]
    exact hending
  · rename_i e hout
    rw [hout] at hstreams
    exact (hstreams.faulty hn).exists_mem hstreaming
  · rename_i halt hout
    exact breaksOff_streamCourse transport fuel opened hn hstreaming hout

end Session

/-- Two chunks for the talkative peer, where a stop falls into the handover of the first. -/
def Session.interrupted : Session Rehearsal :=
  .start .brief .twoChunks (.ofScript { Script.talkative with stopOnChunk := some 1 })

/-- Only the first of the two chunks is handed over, and the session ends well. -/
theorem run_stop_interrupted :
    ∃ handshake opened before time after closing,
      Session.interrupted.configure Rehearsal.transport = (.ok handshake, opened) ∧
      (Session.interrupted.runCourse Rehearsal.transport 20).session.scene.entries =
        opened.scene.entries ++ (before ++ .stopRequested time :: after) ++ closing ∧
      (Journal.payloads before).length = 1 ∧ Journal.payloads after = [] ∧
      Session.IsEnding .brief (Session.interrupted.runCourse Rehearsal.transport 20).outcome
        (Journal.exchanges closing) := by
  obtain ⟨entries, hentries, _, hquiet, hopened⟩ := Session.run_stop Rehearsal.transport .brief
    .twoChunks (.ofScript { Script.talkative with stopOnChunk := some 1 }) 20
  have haccepts : (Session.interrupted.configure Rehearsal.transport).1.toBool = true := by
    decide +kernel
  rcases hconfigure : Session.interrupted.configure Rehearsal.transport with ⟨e | handshake, opened⟩
  · rw [hconfigure] at haccepts
    simp [Except.toBool] at haccepts
  have hopen : (Session.interrupted.configure Rehearsal.transport).2 = opened := by
    rw [hconfigure]
  obtain ⟨_, opening, streaming, closing, rfl, hopening, hstreaming, hending⟩ :=
    hopened handshake opened rfl hconfigure (by rw [← hopen]; decide +kernel)
  have hdrop := congrArg (List.drop opened.scene.entries.length) hstreaming
  rw [List.drop_left, ← hopen] at hdrop
  have hfaultless : (streaming.all fun entry => entry.fault?.isNone) = true := by
    rw [← hdrop]
    decide +kernel
  have hreturns : (opened.streamCourse Rehearsal.transport 20).outcome.toBool = true := by
    rw [← hopen]
    decide +kernel
  have hone : (Journal.payloads (streaming.takeWhile fun entry => !entry.isStop)).length = 1 := by
    rw [← hdrop]
    decide +kernel
  have hstop : (streaming.dropWhile fun entry => !entry.isStop).head?.any Entry.isStop = true := by
    rw [← hdrop]
    decide +kernel
  have hsplit := List.takeWhile_append_dropWhile (p := fun entry => !entry.isStop) (l := streaming)
  generalize streaming.takeWhile (fun entry => !entry.isStop) = before at hone hsplit
  generalize streaming.dropWhile (fun entry => !entry.isStop) = rest at hstop hsplit
  subst hsplit
  rcases rest with _ | ⟨entry, after⟩
  · simp at hstop
  cases entry with
  | stopRequested time =>
    have hsilent := hquiet (opening ++ before) time (after ++ closing) (by simp)
    rw [Journal.payloads_append, List.append_eq_nil_iff] at hsilent
    refine ⟨handshake, opened, before, time, after, closing, rfl, ?_, hone, hsilent.1, ?_⟩
    · rw [hopening, List.append_assoc, List.append_assoc, ← List.append_assoc opening]
      exact hentries
    · rcases hout : (opened.streamCourse Rehearsal.transport 20).outcome with halt | e | _
      · simp [hout, Except.toBool] at hreturns
      · rw [hout] at hending
        obtain ⟨entry, hentry, hfault⟩ := hending
        have hnone := List.all_eq_true.mp hfaultless entry hentry
        simp [hfault] at hnone
      · rw [hout] at hending
        exact hending
  | _ => simp [Entry.isStop] at hstop

end SpeechProbe
