import SpeechProbe.Proofs.Frames
import SpeechProbe.Proofs.Session.Conversation

/-!
# Accounting

Text frames are taken at three places: as the first answer, between two chunks, and in
the drain window.  `Books` relates what happened between two moments of a session to
what the counters and the listener gained: every text frame is counted once, as a frame
and as a frame of its kind, and the listener is called once for each frame that decodes,
in order.  Each step of a session keeps its books, and so does each part.
-/

namespace SpeechProbe

/-! ## Gains of the counters -/

/-- The counter of a kind of text frames. -/
def Stats.counter (stats : Stats) : FrameKind → Nat
  | .partialResult => stats.partialResults
  | .finalResult => stats.finalResults
  | .vadUpdate => stats.vadUpdates
  | .serverError => stats.serverErrors
  | .unknown => stats.unknownMessages
  | .undecodable => stats.decodeErrors
  | .ready => 0

/-- A message raises the counter of its kind. -/
theorem Stats.counter_account (stats : Stats) (message : Inbound) {kind : FrameKind}
    (hkind : kind ≠ .ready) : (stats.account message).counter kind =
      stats.counter kind + if message.frameKind = kind then 1 else 0 := by
  cases message with
  | transcription t =>
    cases hfinal : t.isFinal <;> cases kind <;>
      simp [account, Inbound.frameKind, counter, hfinal]
  | ready _ => cases kind <;> simp_all [account, Inbound.frameKind, counter]
  | _ => cases kind <;> simp [account, Inbound.frameKind, counter]

/-- A message raises no other counter than that of its kind. -/
theorem Stats.account_others (stats : Stats) (message : Inbound) :
    (stats.account message).chunksSent = stats.chunksSent ∧
      (stats.account message).bytesSent = stats.bytesSent ∧
      (stats.account message).messagesReceived = stats.messagesReceived := by
  cases message with
  | transcription t => cases hfinal : t.isFinal <;> simp [account, hfinal]
  | _ => exact ⟨rfl, rfl, rfl⟩

/-- The counters gained what was sent and received. -/
structure Stats.Gains (before after : Stats) (sent : List Payload) (texts : List String) :
    Prop where
  chunksSent : after.chunksSent = before.chunksSent + sent.length
  bytesSent : after.bytesSent = before.bytesSent + sent.flatten.length
  messagesReceived : after.messagesReceived = before.messagesReceived + texts.length
  counter : ∀ kind, kind ≠ .ready →
    after.counter kind = before.counter kind + kind.occurrences texts

namespace Stats.Gains

theorem refl (stats : Stats) : Gains stats stats [] [] where
  chunksSent := rfl
  bytesSent := rfl
  messagesReceived := rfl
  counter := fun _ _ => rfl

/-- A change to other counters is no gain. -/
theorem of_eq {before after : Stats} (hchunks : after.chunksSent = before.chunksSent)
    (hbytes : after.bytesSent = before.bytesSent)
    (hmessages : after.messagesReceived = before.messagesReceived)
    (hcounter : after.counter = before.counter) : Gains before after [] [] where
  chunksSent := hchunks
  bytesSent := hbytes
  messagesReceived := hmessages
  counter := fun kind _ => congrFun hcounter kind

theorem trans {first second third : Stats} {sent sent' : List Payload}
    {texts texts' : List String} (h : Gains first second sent texts)
    (h' : Gains second third sent' texts') :
    Gains first third (sent ++ sent') (texts ++ texts') where
  chunksSent := by
    rw [h'.chunksSent, h.chunksSent, List.length_append, Nat.add_assoc]
  bytesSent := by
    rw [h'.bytesSent, h.bytesSent, List.flatten_append, List.length_append,
      Nat.add_assoc]
  messagesReceived := by
    rw [h'.messagesReceived, h.messagesReceived, List.length_append, Nat.add_assoc]
  counter := by
    intro kind hkind
    rw [h'.counter kind hkind, h.counter kind hkind, FrameKind.occurrences_append,
      Nat.add_assoc]

/-- A message that decodes is counted by its kind. -/
theorem account {text : String} {message : Inbound} (stats : Stats)
    (h : Inbound.decode text = .ok message) :
    Gains stats (stats.countReceived.account message) [] [text] where
  chunksSent := (account_others _ _).1
  bytesSent := (account_others _ _).2.1
  messagesReceived := (account_others _ _).2.2
  counter := by
    intro kind hkind
    have htext : FrameKind.ofText text = message.frameKind := by
      simp only [FrameKind.ofText, h]
    rw [counter_account _ _ hkind, FrameKind.occurrences_cons, htext,
      FrameKind.occurrences_nil, Nat.zero_add]
    cases kind <;> rfl

/-- A frame that does not decode is counted as such. -/
theorem undecodable {text : String} {reason : Error} (stats : Stats)
    (h : Inbound.decode text = .error reason) :
    Gains stats stats.countReceived.countUndecodable [] [text] where
  chunksSent := rfl
  bytesSent := rfl
  messagesReceived := rfl
  counter := by
    intro kind _
    have hkind : FrameKind.ofText text = .undecodable := by
      simp only [FrameKind.ofText, h]
    rw [FrameKind.occurrences_cons, hkind]
    cases kind <;> rfl

/-- A payload that was taken is counted, with its length. -/
theorem sent (stats : Stats) (payload : Payload) (seconds : Double) :
    Gains stats (stats.countSent payload.length seconds) [payload] [] where
  chunksSent := rfl
  bytesSent := by
    rw [List.flatten_cons, List.flatten_nil, List.append_nil]
    rfl
  messagesReceived := rfl
  counter := by
    intro kind _
    cases kind <;> rfl

end Stats.Gains

/-! ## Books -/

namespace Session

variable {σ : Type}

/-- Between two moments of a session these payloads were taken and these text frames came
in; the counters gained them, and the listener was called for each frame that decodes. -/
structure Books (before after : Session σ) (sent : List Payload) (texts : List String) :
    Prop where
  delivered_eq : after.view Entry.delivered? = before.view Entry.delivered? ++ sent
  texts_eq : after.view Entry.text? = before.view Entry.text? ++ texts
  calls_eq : after.view Entry.call? = before.view Entry.call? ++ texts.filterMap Call.ofText?
  gains : Stats.Gains before.stats after.stats sent texts

namespace Books

theorem trans {first second third : Session σ} {sent sent' : List Payload}
    {texts texts' : List String} (h : Books first second sent texts)
    (h' : Books second third sent' texts') :
    Books first third (sent ++ sent') (texts ++ texts') where
  delivered_eq := by rw [h'.delivered_eq, h.delivered_eq, List.append_assoc]
  texts_eq := by rw [h'.texts_eq, h.texts_eq, List.append_assoc]
  calls_eq := by rw [h'.calls_eq, h.calls_eq, List.filterMap_append, List.append_assoc]
  gains := h.gains.trans h'.gains

/-- A step that neither a blind view nor a counter sees leaves the books as they are. -/
theorem of_view_eq {before after : Session σ}
    (hview : ∀ {α : Type} (f : Entry → Option α) [Entry.Blind f], after.view f = before.view f)
    (hgains : Stats.Gains before.stats after.stats [] []) : Books before after [] [] where
  delivered_eq := (hview _).trans (List.append_nil _).symm
  texts_eq := (hview _).trans (List.append_nil _).symm
  calls_eq := (hview _).trans (List.append_nil _).symm
  gains := hgains

theorem refl (session : Session σ) : Books session session [] [] :=
  of_view_eq (fun _ _ => rfl) (.refl _)

end Books

/-! ## Steps -/

variable {transport : Transport σ} {before after : Session σ}

theorem Waited.books (h : Waited before after) : Books before after [] [] :=
  .of_view_eq (fun f _ => h.view_eq f) (h.stats_eq ▸ .refl _)

theorem books_note (session : Session σ) (note : Note) :
    Books session (session.note note) [] [] :=
  .of_view_eq (fun f _ => view_note session f note) (.refl _)

theorem books_moveTo (session : Session σ) (next : Phase) :
    Books session (session.moveTo next) [] [] := by
  refine .of_view_eq (fun f _ => view_moveTo session f next) ?_
  rw [stats_moveTo]
  exact .of_eq rfl rfl rfl rfl

/-- A change to the counters that is none to the books. -/
theorem books_count (session : Session σ) (g : Stats → Stats)
    (h : Stats.Gains session.stats (g session.stats) [] []) :
    Books session (session.count g) [] [] :=
  .of_view_eq (fun f _ => view_count session f g) h

theorem books_fetch {fetched : Fetched} (hkeeps : Keeps before after)
    (h : Scene.Fetches before.scene fetched after.scene) : Books before after [] [] where
  delivered_eq := (h.view_eq _ fun _ _ => rfl).trans (List.append_nil _).symm
  texts_eq := (h.view_eq _ fun _ _ => rfl).trans (List.append_nil _).symm
  calls_eq := (h.view_eq _ fun _ _ => rfl).trans (List.append_nil _).symm
  gains := hkeeps.stats_eq ▸ .refl _

/-- A call of the transport that brings no text and takes no payload. -/
theorem Exchanged.books {entry : Entry} {elapsed : Nanos}
    (h : Exchanged before entry elapsed after) (hdelivered : entry.delivered? = none)
    (htext : entry.text? = none) (hcall : entry.call? = none) : Books before after [] [] where
  delivered_eq := by rw [h.view_eq, hdelivered]; rfl
  texts_eq := by rw [h.view_eq, htext]; rfl
  calls_eq := by rw [h.view_eq, hcall]; rfl
  gains := h.stats_eq ▸ .refl _

theorem books_receive {timeout : Nanos} {result : Except Error Received}
    (h : before.receive transport timeout = (result, after))
    (hquiet : ∀ text, result ≠ .ok (.text text)) : Books before after [] [] := by
  obtain ⟨_, hexchanged⟩ := exchanged_receive h
  refine hexchanged.books rfl ?_ rfl
  match result with
  | .ok (.text text) => exact absurd rfl (hquiet text)
  | .ok .timeout | .ok .closed | .error _ => rfl

theorem gains_accept (session : Session σ) (text : String) :
    Stats.Gains session.stats (session.accept text).stats [] [text] := by
  unfold accept
  split
  · rename_i message hdecode
    exact .account session.stats hdecode
  · rename_i reason hdecode
    exact .undecodable session.stats hdecode

/-- A text frame that is counted, and heard if it decodes, goes into the books once. -/
theorem books_text {received : Session σ} {timeout : Nanos} {text : String}
    (h : before.receive transport timeout = (.ok (.text text), received))
    (hview : ∀ {α : Type} (f : Entry → Option α) [Entry.Blind f], after.view f =
      received.view f ++ ((Call.ofText? text).bind fun call => f (.called call)).toList)
    (hgains : Stats.Gains received.stats after.stats [] [text]) :
    Books before after [] [text] := by
  obtain ⟨_, hexchanged⟩ := exchanged_receive h
  refine ⟨?_, ?_, ?_, ?_⟩
  · rw [hview, hexchanged.view_eq]
    cases Call.ofText? text <;> simp [Entry.delivered?]
  · rw [hview, hexchanged.view_eq]
    cases Call.ofText? text <;> simp [Entry.text?]
  · rw [hview, hexchanged.view_eq]
    cases hcall : Call.ofText? text <;> simp [Entry.call?, hcall]
  · rw [← hexchanged.stats_eq]
    exact hgains

theorem books_sendChunk_ok {chunk : Chunk}
    (h : before.sendChunk transport chunk = (.ok (), after)) :
    Books before after [chunk.payload] [] := by
  refine ⟨?_, ?_, ?_, ?_⟩
  · obtain ⟨_, hview⟩ := view_sendChunk_ok h Entry.delivered?
    exact hview
  · obtain ⟨_, hview⟩ := view_sendChunk_ok h Entry.text?
    exact hview
  · obtain ⟨_, hview⟩ := view_sendChunk_ok h Entry.call?
    exact hview
  · rw [stats_sendChunk_ok h]
    exact .sent _ _ _

/-! ## Drains and streaming -/

/-- A drain keeps the books, also one that breaks off or fails half way. -/
theorem Drains.books {out : Except Halt (Except Error Drained)}
    (h : Drains transport before out after) : ∃ texts, Books before after [] texts := by
  induction h with
  | outOfSteps session => exact ⟨[], .refl session⟩
  | failed receive => exact ⟨[], books_receive receive (by simp)⟩
  | dry frames receive => exact ⟨[], books_receive receive (by simp)⟩
  | closed frames receive =>
    have hreceived := books_receive receive (by simp)
    exact ⟨[], hreceived.trans (books_count _ _ (.of_eq rfl rfl rfl rfl))⟩
  | @text _ _ _ text _ receive rest ih =>
    obtain ⟨texts, hrest⟩ := ih
    have htext := books_text receive (fun f _ => view_accept f text) (gains_accept _ text)
    exact ⟨_, htext.trans hrest⟩

theorem Delivers.books {chunk : Chunk} {out : Except Halt (Option (Except Error Unit))}
    (h : Delivers transport chunk before out after) :
    ∃ sent texts, Books before after sent texts := by
  cases h with
  | refused send =>
    obtain ⟨_, hexchanged⟩ := exchanged_sendChunk_error send
    exact ⟨_, _, hexchanged.books rfl rfl rfl⟩
  | broke send drain =>
    obtain ⟨texts, hdrain⟩ := drain.books
    exact ⟨_, _, (books_sendChunk_ok send).trans hdrain⟩
  | failed send drain =>
    obtain ⟨texts, hdrain⟩ := drain.books
    exact ⟨_, _, (books_sendChunk_ok send).trans hdrain⟩
  | closed send drain =>
    obtain ⟨texts, hdrain⟩ := drain.books
    exact ⟨_, _, (books_sendChunk_ok send).trans hdrain⟩
  | stopped send drain pace =>
    obtain ⟨texts, hdrain⟩ := drain.books
    exact ⟨_, _, ((books_sendChunk_ok send).trans hdrain).trans (waited_pace pace).books⟩
  | paced send drain pace =>
    obtain ⟨texts, hdrain⟩ := drain.books
    exact ⟨_, _, ((books_sendChunk_ok send).trans hdrain).trans (waited_pace pace).books⟩

theorem Round.books {n : Nat} {out : Except Halt (Option (Except Error Unit))}
    (h : Round transport n before out after) : ∃ sent texts, Books before after sent texts := by
  cases h with
  | stopped stop => exact ⟨_, _, .refl before⟩
  | broke running next =>
    obtain ⟨hkeeps, ⟨_, rfl⟩ | ⟨_, _, hfetches⟩⟩ := nextAudio_halted running next
    · exact ⟨_, _, .refl after⟩
    · exact ⟨_, _, books_fetch hkeeps hfetches⟩
  | ended running next =>
    obtain ⟨hkeeps, _, _, hfetches⟩ := nextAudio_none running next
    exact ⟨_, _, books_fetch hkeeps hfetches⟩
  | skipped running next empty =>
    obtain ⟨hkeeps, _, _, hfetches⟩ := nextAudio_some running next
    exact ⟨_, _, books_fetch hkeeps hfetches⟩
  | held running next audio stop =>
    obtain ⟨hkeeps, _, _, hfetches⟩ := nextAudio_some running next
    exact ⟨_, _, books_fetch hkeeps hfetches⟩
  | delivered running next audio running' deliver =>
    obtain ⟨hkeeps, _, _, hfetches⟩ := nextAudio_some running next
    obtain ⟨sent, texts, hdeliver⟩ := deliver.books
    exact ⟨_, _, (books_fetch hkeeps hfetches).trans hdeliver⟩

theorem Streams.books {n : Nat} {out : Except Halt (Except Error Unit)}
    (h : Streams transport n before out after) :
    ∃ sent texts, Books before after sent texts := by
  induction h with
  | outOfSteps session => exact ⟨_, _, .refl session⟩
  | broke round => exact round.books
  | last round => exact round.books
  | more round rest ih =>
    obtain ⟨_, _, hround⟩ := round.books
    obtain ⟨_, _, hrest⟩ := ih
    exact ⟨_, _, hround.trans hrest⟩

theorem StreamsSource.books {out : Except Halt (Except Error Unit)}
    (h : StreamsSource transport before out after) :
    ∃ sent texts, Books before after sent texts := by
  have hmoved := books_moveTo before .streaming
  cases h with
  | unstreamable key reason empty => exact ⟨_, _, hmoved⟩
  | rounds audio streams =>
    obtain ⟨_, _, hstreams⟩ := streams.books
    exact ⟨_, _, hmoved.trans hstreams⟩

theorem books_endStreaming (session : Session σ) (result : Except Error Unit) :
    Books session (session.endStreaming result) [] [] := by
  refine .of_view_eq (fun f _ => view_endStreaming f result) ?_
  cases result with
  | ok _ => exact .refl _
  | error e => exact .of_eq rfl rfl rfl rfl

/-! ## Opening and finishing -/

theorem Answers.view_text {text : String} {outcome : Handshake}
    (h : Answers before (.text text) (.ok outcome) after) {α : Type} (f : Entry → Option α)
    [Entry.Blind f] : after.view f =
      before.view f ++ ((Call.ofText? text).bind fun call => f (.called call)).toList := by
  cases h with
  | ready decode =>
    simp only [Call.ofText?, decode]
    exact view_tell _ f _
  | other decode kind lenient note =>
    simp only [Call.ofText?, decode]
    have hnoted := view_note (before.count Stats.countReceived) f note
    exact (view_tell _ f _).trans (congrArg (· ++ _) hnoted)
  | undecodable decode lenient note =>
    simp only [Call.ofText?, decode]
    exact (view_note _ f note).trans (List.append_nil _).symm

theorem Answers.gains_text {text : String} {outcome : Handshake}
    (h : Answers before (.text text) (.ok outcome) after) :
    Stats.Gains before.stats after.stats [] [text] := by
  cases h with
  | ready decode =>
    have hready := Stats.Gains.account before.stats decode
    exact ⟨hready.chunksSent, hready.bytesSent, hready.messagesReceived, hready.counter⟩
  | other decode kind lenient note => exact .account before.stats decode
  | undecodable decode lenient note => exact .undecodable before.stats decode

/-- The first answer, once it is taken, goes into the books like any other frame. -/
theorem Answers.books {received : Received} {timeout : Nanos} {outcome : Handshake}
    {answered : Session σ}
    (hreceive : before.receive transport timeout = (.ok received, answered))
    (h : Answers answered received (.ok outcome) after) :
    ∃ texts, Books before after [] texts := by
  cases received with
  | text text => exact ⟨_, books_text hreceive (fun f _ => h.view_text f) h.gains_text⟩
  | timeout =>
    cases h with
    | silence lenient note =>
      exact ⟨_, (books_receive hreceive (by simp)).trans (books_note _ note)⟩
  | closed => cases h

theorem Opens.books {outcome : Handshake} (h : Opens transport before (.ok outcome) after) :
    ∃ texts, Books before after [] texts := by
  cases h with
  | accepted send receive answer =>
    obtain ⟨_, hsent⟩ := exchanged_sendMessage send
    obtain ⟨texts, hanswered⟩ := answer.books receive
    have hannounced := (books_moveTo before .configuring).trans (hsent.books rfl rfl rfl)
    exact ⟨_, (hannounced.trans hanswered).trans (books_count _ _ (.of_eq rfl rfl rfl rfl))⟩

theorem Collects.books {deadline : Nanos} {out : Except Halt Unit}
    (h : Collects transport deadline before out after) : ∃ texts, Books before after [] texts := by
  induction h with
  | outOfSteps session => exact ⟨_, .refl session⟩
  | past due => exact ⟨_, .refl _⟩
  | broke early drain => exact drain.books
  | failed early drain =>
    obtain ⟨_, hdrain⟩ := drain.books
    exact ⟨_, hdrain.trans (books_note _ _)⟩
  | closed early drain => exact drain.books
  | again early drain rest ih =>
    obtain ⟨_, hdrain⟩ := drain.books
    obtain ⟨_, hrest⟩ := ih
    exact ⟨_, (hdrain.trans (waited_rest _ _).books).trans hrest⟩

theorem books_close (transport : Transport σ) {session : Session σ}
    (h : session.phase.isFinal = false) : Books session (session.close transport) [] [] := by
  obtain ⟨closed, result, elapsed, hexchanged, hclose⟩ := close_spec transport h
  have hclosed := hexchanged.books rfl rfl rfl
  rcases hclose with hclose | ⟨note, hclose⟩
  · rw [hclose]
    exact hclosed.trans (books_moveTo _ _)
  · rw [hclose]
    exact (hclosed.trans (books_note _ note)).trans (books_moveTo _ _)

theorem books_sendEnd (transport : Transport σ) (session : Session σ) :
    Books session (session.sendEnd transport) [] [] := by
  obtain ⟨sent, result, elapsed, hexchanged, hsend⟩ := sendEnd_spec transport session
  have hsent := hexchanged.books rfl rfl rfl
  rcases hsend with ⟨_, hsend⟩ | ⟨note, hsend⟩
  · rw [hsend]
    exact hsent.trans (books_count _ _ (.of_eq rfl rfl rfl rfl))
  · rw [hsend]
    exact hsent.trans (books_note _ note)

theorem Finishes.books (h : Finishes transport before (.ok ()) after) :
    ∃ texts, Books before after [] texts := by
  have hmoved := books_moveTo before .draining
  cases h with
  | cut closed => exact ⟨_, hmoved.trans (books_close transport rfl)⟩
  | collected open' window collect =>
    have hsent := hmoved.trans (books_sendEnd transport _)
    have hphase := collect.stays.phase_eq.trans (stays_sendEnd transport _).phase_eq
    obtain ⟨_, hcollect⟩ := collect.books
    have hclose := books_close transport (congrArg Phase.isFinal hphase)
    exact ⟨_, (hsent.trans hcollect).trans hclose⟩

/-! ## Whole sessions -/

/-- A session that ends well has kept its books throughout. -/
theorem Runs.books {stats : Stats} (h : Runs transport before (.ok (.ok stats)) after) :
    stats = after.stats ∧ ∃ sent texts, Books before after sent texts := by
  cases h with
  | finished check opens streams finishes =>
    obtain ⟨_, hopens⟩ := opens.books
    obtain ⟨_, _, hstreams⟩ := streams.books
    obtain ⟨_, hfinishes⟩ := finishes.books
    have hstreamed := hopens.trans hstreams
    exact ⟨rfl, _, _, (hstreamed.trans (books_endStreaming _ _)).trans hfinishes⟩

/-- The counters of a session that ends well, against what its journal says was sent and
received. -/
theorem gains_of_run {plan : SessionPlan} {scene : Scene} {peer : σ} {fuel : Nat}
    {stats : Stats}
    (h : (start plan scene peer).run transport fuel = .ok (.ok stats, after)) :
    ∃ entries, after.scene.entries = scene.entries ++ entries ∧
      Stats.Gains (.start plan.sessionId) stats (Journal.delivered entries)
        (Journal.texts entries) ∧
      Journal.calls entries = (Journal.texts entries).filterMap Call.ofText? := by
  have hruns := runs_of_run transport h
  obtain ⟨entries, hgrows⟩ := hruns.grows
  obtain ⟨rfl, sent, texts, hbooks⟩ := hruns.books
  have hsent := Scene.filterMap_eq_of_view hgrows.entries_eq hbooks.delivered_eq
  have htexts := Scene.filterMap_eq_of_view hgrows.entries_eq hbooks.texts_eq
  have hcalls := Scene.filterMap_eq_of_view hgrows.entries_eq hbooks.calls_eq
  refine ⟨entries, hgrows.entries_eq, ?_, ?_⟩
  · rw [Journal.delivered, Journal.texts, hsent, htexts]
    exact hbooks.gains
  · rw [Journal.calls, Journal.texts, hcalls, htexts]

/-- Every text frame in a stretch of the journal is accounted for exactly once: by the
count of frames and by the counter of its kind, and, if it decodes, by one call of the
listener, in order of arrival. -/
structure Accounts (stats : Stats) (entries : List Entry) : Prop where
  messagesReceived : stats.messagesReceived = (Journal.texts entries).length
  /-- A `ready` is received without a counter of its own. -/
  sum : stats.messagesReceived = stats.partialResults + stats.finalResults +
    stats.vadUpdates + stats.serverErrors + stats.unknownMessages + stats.decodeErrors +
      FrameKind.ready.occurrences (Journal.texts entries)
  counter : ∀ kind, kind ≠ .ready →
    stats.counter kind = kind.occurrences (Journal.texts entries)
  calls : Journal.calls entries = (Journal.texts entries).filterMap Call.ofText?
  /-- A transcript holds the recognition results, in order. -/
  segments : (Transcript.ofCalls (Journal.calls entries)).segments =
    (Journal.texts entries).filterMap Segment.ofText?
  length_segments : (Transcript.ofCalls (Journal.calls entries)).segments.length =
    stats.partialResults + stats.finalResults
  length_errors : (Transcript.ofCalls (Journal.calls entries)).errors.length =
    stats.serverErrors
  /-- A frame that does not decode changes nothing in a transcript. -/
  transcript : Transcript.ofCalls (Journal.calls entries) =
    Transcript.ofTexts ((Journal.texts entries).filter Inbound.decodes)

/-- A session that ends well accounts for every text frame that any of its receives
brought. -/
theorem run_accounts {plan : SessionPlan} {scene : Scene} {peer : σ} {fuel : Nat}
    {stats : Stats}
    (h : (start plan scene peer).run transport fuel = .ok (.ok stats, after)) :
    ∃ entries, after.scene.entries = scene.entries ++ entries ∧ Accounts stats entries := by
  obtain ⟨entries, hentries, hgains, hcalls⟩ := gains_of_run h
  have hmessages : stats.messagesReceived = (Journal.texts entries).length :=
    hgains.messagesReceived.trans (Nat.zero_add _)
  have hcounter : ∀ kind, kind ≠ .ready →
      stats.counter kind = kind.occurrences (Journal.texts entries) := by
    intro kind hkind
    rw [hgains.counter kind hkind]
    cases kind <;> exact Nat.zero_add _
  have hpartial : stats.partialResults = _ := hcounter .partialResult (by decide)
  have hfinal : stats.finalResults = _ := hcounter .finalResult (by decide)
  have hvad : stats.vadUpdates = _ := hcounter .vadUpdate (by decide)
  have herrors : stats.serverErrors = _ := hcounter .serverError (by decide)
  have hunknown : stats.unknownMessages = _ := hcounter .unknown (by decide)
  have hundecodable : stats.decodeErrors = _ := hcounter .undecodable (by decide)
  refine ⟨entries, hentries, hmessages, ?_, hcounter, hcalls, ?_, ?_, ?_, ?_⟩
  · rw [hmessages, hpartial, hfinal, hvad, herrors, hunknown, hundecodable]
    exact FrameKind.length_eq_occurrences _
  · rw [hcalls, Transcript.segments_ofCalls]
  · rw [hcalls, Transcript.segments_ofCalls, Transcript.length_segments, hpartial, hfinal]
  · rw [hcalls, Transcript.length_errors, herrors]
  · rw [hcalls, Transcript.ofCalls_eq_ofTexts]

end Session

/-- The accounts of a session with a talkative peer. -/
theorem run_accounts_talkative :
    ∃ stats after,
      (Session.start .brief .twoChunks (.ofScript .talkative)).run Rehearsal.transport 20 =
        .ok (.ok stats, after) ∧
      ∃ entries, after.scene.entries = Scene.twoChunks.entries ++ entries ∧
        Session.Accounts stats entries := by
  have hreturns : ((Session.start .brief .twoChunks (.ofScript .talkative)).run
      Rehearsal.transport 20).toOption.any (fun returned => returned.1.toBool) = true := by
    decide +kernel
  rcases hrun : (Session.start .brief .twoChunks (.ofScript .talkative)).run
      Rehearsal.transport 20 with halt | ⟨e | stats, after⟩
  · rw [hrun] at hreturns
    simp [Except.toOption] at hreturns
  · rw [hrun] at hreturns
    simp [Except.toOption, Except.toBool] at hreturns
  · exact ⟨stats, after, hrun, Session.run_accounts hrun⟩

end SpeechProbe
