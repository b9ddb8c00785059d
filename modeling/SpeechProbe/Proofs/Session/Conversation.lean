import SpeechProbe.Proofs.Session.Invariance
import SpeechProbe.Rehearsal

/-!
# The conversation with the transport

A session calls its transport in a fixed order, however the transport answers, how long
it takes, and whenever a stop is requested.  `IsConversation` is the language of these
calls: the session parameters, one receive, rounds of one payload and a drain, the end
mark, drains, and one `close` that is always the last call.

`run_isConversation` says that the calls of every session that returns are in this
language.
-/

namespace SpeechProbe

/-! ## The language -/

/-- The calls of a drain: receives that each bring a text, and one that does not, which
is the result of the drain. -/
inductive IsDrain (timeout : Nanos) : Except Error Received → List Exchange → Prop where
  | last {result : Except Error Received} (h : ∀ text, result ≠ .ok (.text text)) :
      IsDrain timeout result [.receive timeout result]
  | text (text : String) {result : Except Error Received} {calls : List Exchange}
      (rest : IsDrain timeout result calls) :
      IsDrain timeout result (.receive timeout (.ok (.text text)) :: calls)

/-- The calls while audio is streamed, and the result that put an end to it, if the
transport did.  Another round starts only after a drain that found nothing more. -/
inductive IsStreaming (timeout : Nanos) :
    Option (Except Error Received) → List Exchange → Prop where
  | none : IsStreaming timeout none []
  | refused (payload : Payload) (e : Error) :
      IsStreaming timeout (some (.error e)) [.audio payload (.error e)]
  | broken (payload : Payload) {result : Except Error Received} {calls : List Exchange}
      (drain : IsDrain timeout result calls) (h : result ≠ .ok .timeout) :
      IsStreaming timeout (some result) (.audio payload (.ok ()) :: calls)
  | round (payload : Payload) {calls rest : List Exchange}
      {ending : Option (Except Error Received)}
      (drain : IsDrain timeout (.ok .timeout) calls)
      (more : IsStreaming timeout ending rest) :
      IsStreaming timeout ending (.audio payload (.ok ()) :: calls ++ rest)

/-- Whether the peer is known to have closed the connection by the time streaming ends. -/
def reportsClosure : Option (Except Error Received) → Bool
  | some (.ok .closed) | some (.error .closedByPeer) => true
  | _ => false

/-- The calls inside the drain window: drains, of which only the last may end in anything
but silence. -/
inductive IsCollecting (timeout : Nanos) : List Exchange → Prop where
  | none : IsCollecting timeout []
  | last {result : Except Error Received} {calls : List Exchange}
      (drain : IsDrain timeout result calls) (h : result ≠ .ok .timeout) :
      IsCollecting timeout calls
  | more {calls rest : List Exchange} (drain : IsDrain timeout (.ok .timeout) calls)
      (more : IsCollecting timeout rest) : IsCollecting timeout (calls ++ rest)

/-- Whether the first receive lets a session begin: any answer or none, and if the plan is
strict only `ready`. -/
def SessionPlan.accepts (plan : SessionPlan) : Except Error Received → Bool
  | .ok (.text text) =>
    match Inbound.decode text with
    | .ok (.ready _) => true
    | _ => !plan.strict
  | .ok .timeout => !plan.strict
  | .ok .closed | .error _ => false

/-- The calls of a whole session. -/
inductive IsConversation (plan : SessionPlan) : List Exchange → Prop where
  /-- A plan that cannot be carried out is not announced. -/
  | invalid {e : Error} (check : plan.check = .error e) (closing : Except Error Unit) :
      IsConversation plan [.close closing]
  | unannounced (check : plan.check = .ok ()) (e : Error) (closing : Except Error Unit) :
      IsConversation plan [.message (.config plan.announcement) (.error e), .close closing]
  | rejected (check : plan.check = .ok ()) {answer : Except Error Received}
      (answer_no : plan.accepts answer = false) (closing : Except Error Unit) :
      IsConversation plan
        [ .message (.config plan.announcement) (.ok ())
        , .receive plan.handshakeTimeout answer
        , .close closing ]
  /-- After the peer has closed, no end mark is sent. -/
  | cut (check : plan.check = .ok ()) {answer : Except Error Received}
      (answer_yes : plan.accepts answer = true) {ending : Option (Except Error Received)}
      {audio : List Exchange} (streaming : IsStreaming plan.pollTimeout ending audio)
      (closure : reportsClosure ending = true) (closing : Except Error Unit) :
      IsConversation plan
        (.message (.config plan.announcement) (.ok ()) ::
          .receive plan.handshakeTimeout answer :: audio ++ [.close closing])
  | full (check : plan.check = .ok ()) {answer : Except Error Received}
      (answer_yes : plan.accepts answer = true) {ending : Option (Except Error Received)}
      {audio : List Exchange} (streaming : IsStreaming plan.pollTimeout ending audio)
      (closure : reportsClosure ending = false) (sent : Except Error Unit)
      {trailing : List Exchange} (collecting : IsCollecting plan.pollTimeout trailing)
      (closing : Except Error Unit) :
      IsConversation plan
        (.message (.config plan.announcement) (.ok ()) ::
          .receive plan.handshakeTimeout answer :: audio ++
          .message .finished sent :: trailing ++ [.close closing])

/-- What the last receive of a drain gave. -/
def Drained.lastReceive : Except Error Drained → Except Error Received
  | .error e => .error e
  | .ok (.dry _) => .ok .timeout
  | .ok (.closed _) => .ok .closed

/-- Whether a drain ended because the peer has closed the connection. -/
def Drained.byClosure : Except Error Drained → Bool
  | .ok (.closed _) => true
  | _ => false

namespace Session

variable {σ : Type} {transport : Transport σ}

/-- The calls of the transport so far. -/
abbrev exchanges (session : Session σ) : List Exchange := session.view Entry.exchange?

/-! ## Drains -/

theorem exchanges_receive {session after : Session σ} {timeout : Nanos}
    {result : Except Error Received}
    (h : session.receive transport timeout = (result, after)) :
    after.exchanges = session.exchanges ++ [.receive timeout result] := by
  obtain ⟨_, hexchanged⟩ := exchanged_receive h
  exact hexchanged.view_eq Entry.exchange?

theorem exchanges_waited {before after : Session σ} (h : Waited before after) :
    after.exchanges = before.exchanges :=
  h.view_eq Entry.exchange?

theorem exchanges_accept (session : Session σ) (text : String) :
    (session.accept text).exchanges = session.exchanges :=
  view_accept_of_none Entry.exchange? (fun _ => rfl) text

theorem peerClosed_accept (session : Session σ) (text : String) :
    (session.accept text).stats.peerClosed = session.stats.peerClosed := by
  unfold accept
  split
  · rename_i message _
    cases message with
    | transcription t => simp only [account, Stats.account]; split <;> rfl
    | _ => rfl
  · rfl

theorem exchanges_drain_last {before after : Session σ} {timeout : Nanos}
    {result : Except Error Received} (h : before.receive transport timeout = (result, after))
    (hlast : ∀ text, result ≠ .ok (.text text)) :
    ∃ calls, after.exchanges = before.exchanges ++ calls ∧ IsDrain timeout result calls :=
  ⟨_, exchanges_receive h, .last hlast⟩

/-- A drain that ends is a drain in the language. -/
theorem Drains.isDrain {before after : Session σ} {out : Except Halt (Except Error Drained)}
    (h : Drains transport before out after) :
    ∀ outcome, out = .ok outcome → ∃ calls, after.exchanges = before.exchanges ++ calls ∧
      IsDrain before.plan.pollTimeout (Drained.lastReceive outcome) calls := by
  induction h with
  | outOfSteps session =>
    intro outcome hout
    simp at hout
  | failed receive =>
    intro outcome hout
    cases hout
    have hcalls := exchanges_drain_last receive (by simp)
    exact hcalls
  | dry frames receive =>
    intro outcome hout
    cases hout
    have hcalls := exchanges_drain_last receive (by simp)
    exact hcalls
  | closed frames receive =>
    intro outcome hout
    cases hout
    have hcalls := exchanges_drain_last receive (by simp)
    exact hcalls
  | @text session received after text out receive rest ih =>
    intro outcome hout
    obtain ⟨_, hexchanged⟩ := exchanged_receive receive
    obtain ⟨calls, hcalls, hdrain⟩ := ih outcome hout
    rw [(stays_accept text).plan_eq, hexchanged.plan_eq] at hdrain
    refine ⟨.receive session.plan.pollTimeout (.ok (.text text)) :: calls, ?_, .text text hdrain⟩
    rw [hcalls, exchanges_accept, exchanges_receive receive, List.append_assoc]
    rfl

/-- A drain marks the connection closed exactly when the peer has closed it. -/
theorem Drains.peerClosed_eq {before after : Session σ}
    {out : Except Halt (Except Error Drained)} (h : Drains transport before out after) :
    ∀ outcome, out = .ok outcome →
      after.stats.peerClosed = (before.stats.peerClosed || Drained.byClosure outcome) := by
  induction h with
  | outOfSteps session =>
    intro outcome hout
    simp at hout
  | failed receive =>
    intro outcome hout
    cases hout
    obtain ⟨_, hexchanged⟩ := exchanged_receive receive
    rw [hexchanged.stats_eq]
    exact (Bool.or_false _).symm
  | dry frames receive =>
    intro outcome hout
    cases hout
    obtain ⟨_, hexchanged⟩ := exchanged_receive receive
    rw [hexchanged.stats_eq]
    exact (Bool.or_false _).symm
  | closed frames receive =>
    intro outcome hout
    cases hout
    exact (Bool.or_true _).symm
  | text receive rest ih =>
    intro outcome hout
    obtain ⟨_, hexchanged⟩ := exchanged_receive receive
    rw [ih outcome hout, peerClosed_accept, hexchanged.stats_eq]

/-! ## Streaming -/

theorem exchanges_sendChunk_ok {session after : Session σ} {chunk : Chunk}
    (h : session.sendChunk transport chunk = (.ok (), after)) :
    after.exchanges = session.exchanges ++ [.audio chunk.payload (.ok ())] := by
  obtain ⟨_, hview⟩ := view_sendChunk_ok h Entry.exchange?
  exact hview

/-- A payload that was taken, and the drain after it. -/
theorem exchanges_send_drain {before sent after : Session σ} {chunk : Chunk}
    {outcome : Except Error Drained}
    (hsend : before.sendChunk transport chunk = (.ok (), sent))
    (hdrain : Drains transport sent (.ok outcome) after) :
    ∃ calls, after.exchanges =
        before.exchanges ++ .audio chunk.payload (.ok ()) :: calls ∧
      IsDrain before.plan.pollTimeout (Drained.lastReceive outcome) calls := by
  obtain ⟨calls, hcalls, hdrain⟩ := hdrain.isDrain _ rfl
  rw [(stays_sendChunk_ok hsend).plan_eq] at hdrain
  refine ⟨calls, ?_, hdrain⟩
  rw [hcalls, exchanges_sendChunk_ok hsend, List.append_assoc]
  rfl

theorem peerClosed_send_drain {before sent after : Session σ} {chunk : Chunk}
    {outcome : Except Error Drained}
    (hsend : before.sendChunk transport chunk = (.ok (), sent))
    (hdrain : Drains transport sent (.ok outcome) after) :
    after.stats.peerClosed = (before.stats.peerClosed || Drained.byClosure outcome) := by
  rw [hdrain.peerClosed_eq _ rfl, stats_sendChunk_ok hsend]
  rfl

/-- How a session stands when streaming ended with `result`: the calls made, what put an
end to them, and whether the connection counts as closed. -/
def EndsStreaming (before : Session σ) (result : Except Error Unit) (after : Session σ) : Prop :=
  ∃ ending calls, after.exchanges = before.exchanges ++ calls ∧
    IsStreaming before.plan.pollTimeout ending calls ∧
    (after.endStreaming result).stats.peerClosed = reportsClosure ending

/-- Whether streaming failed because the peer has closed the connection. -/
def failedByClosure : Except Error Unit → Bool
  | .ok () => false
  | .error e => decide (e = .closedByPeer)

/-- The connection counts as closed after streaming if it did before, or if streaming
failed because of it. -/
theorem peerClosed_endStreaming (session : Session σ) (result : Except Error Unit) :
    (session.endStreaming result).stats.peerClosed =
      (session.stats.peerClosed || failedByClosure result) := by
  cases result with
  | ok _ => exact (Bool.or_false _).symm
  | error e => rfl

theorem reportsClosure_error (e : Error) :
    reportsClosure (some (.error e)) = decide (e = .closedByPeer) := by
  cases e <;> rfl

/-- A drain that was not dry ends streaming. -/
theorem endsStreaming_drain {before sent after : Session σ} {chunk : Chunk}
    {outcome : Except Error Drained} {result : Except Error Unit}
    (hopen : before.stats.peerClosed = false)
    (hsend : before.sendChunk transport chunk = (.ok (), sent))
    (hdrain : Drains transport sent (.ok outcome) after)
    (hloud : Drained.lastReceive outcome ≠ .ok .timeout)
    (hresult : (Drained.byClosure outcome || failedByClosure result) =
      reportsClosure (some (Drained.lastReceive outcome))) :
    EndsStreaming before result after := by
  obtain ⟨calls, hcalls, hshape⟩ := exchanges_send_drain hsend hdrain
  refine ⟨_, _, hcalls, .broken chunk.payload hshape hloud, ?_⟩
  rw [peerClosed_endStreaming, peerClosed_send_drain hsend hdrain, hopen, Bool.false_or]
  exact hresult

/-- How a session stands after a round that was not the last: the connection is open, and
the round was silent or a payload and a dry drain. -/
structure GoesOn (before after : Session σ) : Prop where
  still_open : after.stats.peerClosed = false
  calls : after.exchanges = before.exchanges ∨
    ∃ payload calls, after.exchanges = before.exchanges ++ .audio payload (.ok ()) :: calls ∧
      IsDrain before.plan.pollTimeout (.ok .timeout) calls

/-- Delivering a chunk is a round of the language, or it ends streaming. -/
theorem Delivers.conversation {chunk : Chunk} {before after : Session σ}
    {out : Except Halt (Option (Except Error Unit))}
    (h : Delivers transport chunk before out after)
    (hopen : before.stats.peerClosed = false) :
    (out = .ok none → GoesOn before after) ∧
      ∀ result, out = .ok (some result) → EndsStreaming before result after := by
  cases h with
  | refused send =>
    refine ⟨by simp, ?_⟩
    rintro result ⟨⟩
    obtain ⟨_, hexchanged⟩ := exchanged_sendChunk_error send
    refine ⟨_, _, hexchanged.view_eq Entry.exchange?, .refused chunk.payload _, ?_⟩
    rw [peerClosed_endStreaming, hexchanged.stats_eq, hopen, reportsClosure_error]
    rfl
  | broke send drain => exact ⟨by simp, by simp⟩
  | failed send drain =>
    refine ⟨by simp, ?_⟩
    rintro result ⟨⟩
    refine endsStreaming_drain hopen send drain (by simp [Drained.lastReceive]) ?_
    exact (reportsClosure_error _).symm
  | closed send drain =>
    refine ⟨by simp, ?_⟩
    rintro result ⟨⟩
    exact endsStreaming_drain hopen send drain (by simp [Drained.lastReceive]) rfl
  | stopped send drain pace =>
    refine ⟨by simp, ?_⟩
    rintro result ⟨⟩
    obtain ⟨calls, hcalls, hshape⟩ := exchanges_send_drain send drain
    have hclosed := peerClosed_send_drain send drain
    have hwaited := waited_pace pace
    refine ⟨none, .audio chunk.payload (.ok ()) :: calls ++ [], ?_,
      .round chunk.payload hshape .none, ?_⟩
    · rw [exchanges_waited hwaited, hcalls, List.append_nil]
    · rw [peerClosed_endStreaming, hwaited.stats_eq, hclosed, hopen]
      rfl
  | paced send drain pace =>
    refine ⟨fun _ => ?_, by simp⟩
    obtain ⟨calls, hcalls, hshape⟩ := exchanges_send_drain send drain
    have hclosed := peerClosed_send_drain send drain
    have hwaited := waited_pace pace
    refine ⟨?_, .inr ⟨chunk.payload, calls, ?_, hshape⟩⟩
    · rw [hwaited.stats_eq, hclosed, hopen]
      rfl
    · rw [exchanges_waited hwaited, hcalls]

theorem EndsStreaming.of_exchanges_eq {first before after : Session σ}
    {result : Except Error Unit} (h : EndsStreaming before result after)
    (hplan : before.plan = first.plan) (hexchanges : before.exchanges = first.exchanges) :
    EndsStreaming first result after := by
  obtain ⟨ending, calls, hcalls, hshape, hclosed⟩ := h
  rw [hexchanges] at hcalls
  rw [hplan] at hshape
  exact ⟨ending, calls, hcalls, hshape, hclosed⟩

/-- What ends streaming after a round ends it with that round before it. -/
theorem EndsStreaming.after_round {before next after : Session σ}
    {result : Except Error Unit} (hround : GoesOn before next) (hplan : next.plan = before.plan)
    (h : EndsStreaming next result after) : EndsStreaming before result after := by
  rcases hround.calls with hsilent | ⟨payload, drained, hdrained, hdrain⟩
  · exact h.of_exchanges_eq hplan hsilent
  · obtain ⟨ending, calls, hcalls, hshape, hclosed⟩ := h
    rw [hplan] at hshape
    refine ⟨ending, _, ?_, .round payload hdrain hshape, hclosed⟩
    rw [hcalls, hdrained, List.append_assoc]

theorem endsStreaming_silent {before after : Session σ}
    (hopen : after.stats.peerClosed = false) (hexchanges : after.exchanges = before.exchanges) :
    EndsStreaming before (.ok ()) after := by
  refine ⟨none, [], ?_, .none, ?_⟩
  · rw [hexchanges, List.append_nil]
  · rw [peerClosed_endStreaming, hopen]
    rfl

theorem exchanges_fetch {before after : Session σ} {fetched : Fetched}
    (h : Scene.Fetches before.scene fetched after.scene) :
    after.exchanges = before.exchanges :=
  h.view_eq Entry.exchange? fun _ _ => rfl

theorem Round.conversation {n : Nat} {before after : Session σ}
    {out : Except Halt (Option (Except Error Unit))} (h : Round transport n before out after)
    (hopen : before.stats.peerClosed = false) :
    (out = .ok none → GoesOn before after) ∧
      ∀ result, out = .ok (some result) → EndsStreaming before result after := by
  cases h with
  | stopped stop =>
    refine ⟨by simp, ?_⟩
    rintro result ⟨⟩
    exact endsStreaming_silent hopen rfl
  | broke running next => exact ⟨by simp, by simp⟩
  | ended running next =>
    obtain ⟨hkeeps, _, _, hfetches⟩ := nextAudio_none running next
    refine ⟨by simp, ?_⟩
    rintro result ⟨⟩
    exact endsStreaming_silent (hkeeps.stats_eq ▸ hopen) (exchanges_fetch hfetches)
  | skipped running next empty =>
    obtain ⟨hkeeps, _, _, hfetches⟩ := nextAudio_some running next
    exact ⟨fun _ => ⟨hkeeps.stats_eq ▸ hopen, .inl (exchanges_fetch hfetches)⟩, by simp⟩
  | held running next audio stop =>
    obtain ⟨hkeeps, _, _, hfetches⟩ := nextAudio_some running next
    refine ⟨by simp, ?_⟩
    rintro result ⟨⟩
    exact endsStreaming_silent (hkeeps.stats_eq ▸ hopen) (exchanges_fetch hfetches)
  | delivered running next audio running' deliver =>
    obtain ⟨hkeeps, _, _, hfetches⟩ := nextAudio_some running next
    have hsilent := exchanges_fetch hfetches
    obtain ⟨hgoesOn, hends⟩ := deliver.conversation (hkeeps.stats_eq ▸ hopen)
    refine ⟨fun hout => ?_, fun result hout => ?_⟩
    · obtain ⟨hstill, hcalls⟩ := hgoesOn hout
      rw [hsilent, hkeeps.plan_eq] at hcalls
      exact ⟨hstill, hcalls⟩
    · exact (hends result hout).of_exchanges_eq hkeeps.plan_eq hsilent

/-- Rounds of streaming that come to an end are in the language. -/
theorem Streams.conversation {n : Nat} {before after : Session σ}
    {out : Except Halt (Except Error Unit)} (h : Streams transport n before out after) :
    before.stats.peerClosed = false →
      ∀ result, out = .ok result → EndsStreaming before result after := by
  induction h with
  | outOfSteps session =>
    intro _ result hout
    simp at hout
  | broke round =>
    intro _ result hout
    simp at hout
  | last round =>
    intro hopen result hout
    cases hout
    exact (round.conversation hopen).2 _ rfl
  | more round _ ih =>
    intro hopen result hout
    have hround := (round.conversation hopen).1 rfl
    exact .after_round hround round.stays.plan_eq (ih hround.still_open result hout)

theorem StreamsSource.conversation {before after : Session σ} {result : Except Error Unit}
    (h : StreamsSource transport before (.ok result) after)
    (hopen : before.stats.peerClosed = false) : EndsStreaming before result after := by
  have hmoved : (before.moveTo .streaming).exchanges = before.exchanges :=
    view_moveTo before Entry.exchange? .streaming
  cases h with
  | unstreamable key reason empty =>
    refine ⟨none, [], ?_, .none, ?_⟩
    · rw [hmoved, List.append_nil]
    · rw [peerClosed_endStreaming, stats_moveTo, hopen]
      rfl
  | rounds audio streams =>
    have hopen' : (before.moveTo .streaming).stats.peerClosed = false := by
      rw [stats_moveTo]
      exact hopen
    exact (streams.conversation hopen' result rfl).of_exchanges_eq (plan_moveTo _ _) hmoved

/-! ## Collecting and closing -/

/-- What is collected in the drain window is in the language. -/
theorem Collects.conversation {deadline : Nanos} {before after : Session σ}
    {out : Except Halt Unit} (h : Collects transport deadline before out after) :
    out = .ok () → ∃ calls, after.exchanges = before.exchanges ++ calls ∧
      IsCollecting before.plan.pollTimeout calls := by
  induction h with
  | outOfSteps session =>
    intro hout
    simp at hout
  | past due =>
    intro _
    exact ⟨[], (List.append_nil _).symm, .none⟩
  | broke early drain =>
    intro hout
    simp at hout
  | failed early drain =>
    intro _
    obtain ⟨calls, hcalls, hshape⟩ := drain.isDrain _ rfl
    refine ⟨calls, ?_, .last hshape (by simp [Drained.lastReceive])⟩
    rw [← hcalls]
    exact view_note _ Entry.exchange? _
  | closed early drain =>
    intro _
    obtain ⟨calls, hcalls, hshape⟩ := drain.isDrain _ rfl
    exact ⟨calls, hcalls, .last hshape (by simp [Drained.lastReceive])⟩
  | again early drain rest ih =>
    intro hout
    obtain ⟨calls, hcalls, hshape⟩ := drain.isDrain _ rfl
    obtain ⟨more, hmore, hrest⟩ := ih hout
    rw [(waited_rest _ _).plan_eq, drain.stays.plan_eq] at hrest
    refine ⟨calls ++ more, ?_, .more hshape hrest⟩
    rw [hmore, exchanges_waited (waited_rest _ _), hcalls, List.append_assoc]

theorem exchanges_close (transport : Transport σ) {session : Session σ}
    (h : session.phase.isFinal = false) :
    ∃ result, (session.close transport).exchanges = session.exchanges ++ [.close result] := by
  obtain ⟨_, result, hview⟩ := view_close transport h Entry.exchange?
  exact ⟨result, hview⟩

theorem exchanges_sendEnd (transport : Transport σ) (session : Session σ) :
    ∃ result, (session.sendEnd transport).exchanges =
      session.exchanges ++ [.message .finished result] := by
  obtain ⟨_, result, hview⟩ := view_sendEnd transport session Entry.exchange?
  exact ⟨result, hview⟩

/-! ## Opening -/

/-- What the first answer leads to is no call of the transport. -/
theorem Answers.view_eq {α : Type} {before after : Session σ} {received : Received}
    {result : Except Error Handshake} (h : Answers before received result after)
    (f : Entry → Option α) [Entry.Blind f] (hcalled : ∀ call, f (.called call) = none) :
    after.view f = before.view f := by
  have htold : ∀ (session : Session σ) (call : Call),
      (session.tell call).view f = session.view f := by
    intro session call
    rw [view_tell, hcalled]
    exact List.append_nil _
  cases h with
  | ready decode => exact htold _ _
  | other decode kind lenient note =>
    have hnoted : ((before.count Stats.countReceived).note note).view f = before.view f :=
      view_note _ _ _
    exact (htold _ _).trans hnoted
  | undecodable decode lenient note => exact view_note _ _ _
  | refused decode strict e => rfl
  | silence lenient note => exact view_note _ _ _
  | impatient strict e => rfl
  | closed => rfl

theorem Answers.exchanges_eq {before after : Session σ} {received : Received}
    {result : Except Error Handshake} (h : Answers before received result after) :
    after.exchanges = before.exchanges :=
  h.view_eq Entry.exchange? fun _ => rfl

theorem Answers.accepts_eq {before after : Session σ} {received : Received}
    {result : Except Error Handshake} (h : Answers before received result after) :
    before.plan.accepts (.ok received) = result.toBool := by
  cases h with
  | ready decode => simp [SessionPlan.accepts, decode, Except.toBool]
  | @other text message decode kind lenient note =>
    cases message with
    | ready ready => exact absurd rfl (kind ready)
    | _ => simp [SessionPlan.accepts, decode, lenient, Except.toBool]
  | undecodable decode lenient note =>
    simp [SessionPlan.accepts, decode, lenient, Except.toBool]
  | @refused text decode strict e =>
    unfold SessionPlan.accepts
    split
    · rename_i heq
      simp only [Except.ok.injEq, Received.text.injEq] at heq
      subst heq
      split
      · rename_i ready hdecode
        exact absurd hdecode (decode ready)
      · rw [strict]
        rfl
    all_goals simp_all
  | silence lenient note => simp [SessionPlan.accepts, lenient, Except.toBool]
  | impatient strict e => simp [SessionPlan.accepts, strict, Except.toBool]
  | closed => rfl

theorem peerClosed_account (stats : Stats) (message : Inbound) :
    (stats.account message).peerClosed = stats.peerClosed := by
  cases message with
  | transcription t => simp only [Stats.account]; split <;> rfl
  | _ => rfl

theorem Answers.peerClosed_eq {before after : Session σ} {received : Received}
    {outcome : Handshake} (h : Answers before received (.ok outcome) after) :
    after.stats.peerClosed = before.stats.peerClosed := by
  cases h with
  | ready decode => rfl
  | other decode kind lenient note => exact peerClosed_account _ _
  | undecodable decode lenient note => rfl
  | silence lenient note => rfl

/-- The calls before the audio, and whether the session begins. -/
theorem Opens.conversation {before after : Session σ} {result : Except Error Handshake}
    (h : Opens transport before result after) :
    (∃ e, result = .error e ∧ after.exchanges =
        before.exchanges ++ [.message (.config before.plan.announcement) (.error e)]) ∨
      ∃ answer, before.plan.accepts answer = result.toBool ∧
        after.exchanges = before.exchanges ++
          [ .message (.config before.plan.announcement) (.ok ())
          , .receive before.plan.handshakeTimeout answer ] := by
  have hmoved : (before.moveTo .configuring).exchanges = before.exchanges :=
    view_moveTo before Entry.exchange? .configuring
  have hsent : ∀ {sent : Session σ} {result : Except Error Unit},
      (before.moveTo .configuring).sendMessage transport
          (.config before.plan.announcement) = (result, sent) →
        sent.plan = before.plan ∧ sent.exchanges = before.exchanges ++
          [.message (.config before.plan.announcement) result] := by
    intro sent result send
    obtain ⟨_, hexchanged⟩ := exchanged_sendMessage send
    have hview := hexchanged.view_eq Entry.exchange?
    rw [← hmoved]
    exact ⟨hexchanged.plan_eq.trans (plan_moveTo _ _), hview⟩
  cases h with
  | unsent send => exact .inl ⟨_, rfl, (hsent send).2⟩
  | unanswered send receive =>
    rename_i _ e
    obtain ⟨hplan, hcalls⟩ := hsent send
    have hreceived := exchanges_receive receive
    rw [hcalls, hplan, List.append_assoc] at hreceived
    exact .inr ⟨.error e, rfl, hreceived⟩
  | rejected send receive answer =>
    obtain ⟨hplan, hcalls⟩ := hsent send
    obtain ⟨_, hexchanged⟩ := exchanged_receive receive
    have haccepts := answer.accepts_eq
    have hreceived := answer.exchanges_eq
    rw [hexchanged.plan_eq, hplan] at haccepts
    rw [exchanges_receive receive, hcalls, hplan, List.append_assoc] at hreceived
    exact .inr ⟨_, haccepts, hreceived⟩
  | accepted send receive answer =>
    obtain ⟨hplan, hcalls⟩ := hsent send
    obtain ⟨_, hexchanged⟩ := exchanged_receive receive
    have haccepts := answer.accepts_eq
    have hreceived := answer.exchanges_eq
    rw [hexchanged.plan_eq, hplan] at haccepts
    rw [exchanges_receive receive, hcalls, hplan, List.append_assoc] at hreceived
    exact .inr ⟨_, haccepts, hreceived⟩

theorem Opens.peerClosed_eq {before after : Session σ} {outcome : Handshake}
    (h : Opens transport before (.ok outcome) after) :
    after.stats.peerClosed = before.stats.peerClosed := by
  cases h with
  | accepted send receive answer =>
    obtain ⟨_, hsent⟩ := exchanged_sendMessage send
    obtain ⟨_, hreceived⟩ := exchanged_receive receive
    rw [stats_count, answer.peerClosed_eq, hreceived.stats_eq, hsent.stats_eq, stats_moveTo]

/-! ## Whole sessions -/

/-- The calls of a session's end: the end mark, unless the peer has closed, what is
collected, and `close`. -/
theorem Finishes.conversation {before after : Session σ}
    (h : Finishes transport before (.ok ()) after) :
    ∃ closing, (before.stats.peerClosed = true ∧
        after.exchanges = before.exchanges ++ [.close closing]) ∨
      ∃ sent trailing, before.stats.peerClosed = false ∧
        IsCollecting before.plan.pollTimeout trailing ∧
        after.exchanges =
          before.exchanges ++ .message .finished sent :: trailing ++ [.close closing] := by
  have hmoved : (before.moveTo .draining).exchanges = before.exchanges :=
    view_moveTo before Entry.exchange? .draining
  have hphase : (before.moveTo .draining).phase.isFinal = false := rfl
  cases h with
  | cut closed =>
    obtain ⟨closing, hclose⟩ := exchanges_close transport hphase
    rw [hmoved] at hclose
    exact ⟨closing, .inl ⟨closed, hclose⟩⟩
  | collected open' window collect =>
    obtain ⟨sent, hsent⟩ := exchanges_sendEnd transport (before.moveTo .draining)
    have hstays := stays_sendEnd transport (before.moveTo .draining)
    obtain ⟨trailing, htrailing, hshape⟩ := collect.conversation rfl
    rw [hstays.plan_eq, plan_moveTo] at hshape
    have hphase' := congrArg Phase.isFinal (collect.stays.phase_eq.trans hstays.phase_eq)
    obtain ⟨closing, hclose⟩ := exchanges_close transport hphase'
    refine ⟨closing, .inr ⟨sent, trailing, open', hshape, ?_⟩⟩
    rw [hclose, htrailing, hsent, hmoved]
    simp only [List.append_assoc, List.cons_append, List.nil_append]

/-- Giving up makes one more call, which is `close`. -/
theorem exchanges_abandoned (transport : Transport σ) {session : Session σ}
    (hphase : session.phase.isFinal = false) (note : Note) :
    ∃ closing, ((session.note note).close transport).exchanges =
      session.exchanges ++ [.close closing] := by
  have hphase' : (session.note note).phase.isFinal = false := hphase
  obtain ⟨closing, hclose⟩ := exchanges_close transport hphase'
  refine ⟨closing, ?_⟩
  rw [hclose, exchanges, view_note]

theorem exchanges_endStreaming (session : Session σ) (result : Except Error Unit) :
    (session.endStreaming result).exchanges = session.exchanges :=
  view_endStreaming Entry.exchange? result

/-- A session that comes to its end has made the calls of a conversation. -/
theorem Runs.conversation {before after : Session σ} {result : Except Error Stats}
    (h : Runs transport before (.ok result) after)
    (hphase : before.phase.isFinal = false) (hopen : before.stats.peerClosed = false) :
    ∃ calls, after.exchanges = before.exchanges ++ calls ∧
      IsConversation before.plan calls := by
  cases h with
  | invalid check note =>
    obtain ⟨closing, hcalls⟩ := exchanges_abandoned transport hphase note
    exact ⟨_, hcalls, .invalid check closing⟩
  | refused check opens note =>
    have hphase' := congrArg Phase.isFinal opens.phase_eq
    obtain ⟨closing, hcalls⟩ := exchanges_abandoned transport hphase' note
    rcases opens.conversation with ⟨e, _, hopened⟩ | ⟨answer, haccepts, hopened⟩
    · rw [hopened, List.append_assoc] at hcalls
      exact ⟨_, hcalls, .unannounced check e closing⟩
    · rw [hopened, List.append_assoc] at hcalls
      exact ⟨_, hcalls, .rejected check haccepts closing⟩
  | finished check opens streams finishes =>
    rcases opens.conversation with ⟨e, hfailed, _⟩ | ⟨answer, haccepts, hopened⟩
    · simp at hfailed
    · obtain ⟨ending, audio, haudio, hstreaming, hclosure⟩ :=
        streams.conversation (opens.peerClosed_eq.trans hopen)
      rw [opens.plan_eq] at hstreaming
      obtain ⟨closing, hfinish⟩ := finishes.conversation
      rw [hclosure, (stays_endStreaming _ _).plan_eq, streams.plan_eq, opens.plan_eq,
        exchanges_endStreaming] at hfinish
      rcases hfinish with ⟨hcut, hcalls⟩ | ⟨sent, trailing, hfull, htrailing, hcalls⟩
      · refine ⟨_, ?_, .cut check haccepts hstreaming hcut closing⟩
        rw [hcalls, haudio, hopened]
        simp only [List.append_assoc, List.cons_append, List.nil_append]
      · refine ⟨_, ?_, .full check haccepts hstreaming hfull sent htrailing closing⟩
        rw [hcalls, haudio, hopened]
        simp only [List.append_assoc, List.cons_append, List.nil_append]

/-- Every session that returns has made the calls of a conversation, and `close` was the
last of them. -/
theorem run_isConversation {plan : SessionPlan} {scene : Scene} {peer : σ} {fuel : Nat}
    {result : Except Error Stats} {after : Session σ}
    (h : (start plan scene peer).run transport fuel = .ok (result, after)) :
    ∃ entries, after.scene.entries = scene.entries ++ entries ∧
      IsConversation plan (Journal.exchanges entries) := by
  have hruns := runs_of_run transport h
  obtain ⟨entries, hgrows⟩ := hruns.grows
  obtain ⟨calls, hcalls, hconversation⟩ := hruns.conversation rfl rfl
  refine ⟨entries, hgrows.entries_eq, ?_⟩
  rw [Journal.exchanges, Scene.filterMap_eq_of_view hgrows.entries_eq hcalls]
  exact hconversation

end Session

/-! ## A rehearsed session -/

/-- Whether a run ended with statistics that, with the session after it, pass a test. -/
def Session.endsWith {σ : Type} (test : Stats → Session σ → Bool) :
    Except Halt (Except Error Stats × Session σ) → Bool
  | .ok (.ok stats, after) => test stats after
  | .ok (.error _, _) => false
  | .error _ => false

theorem Session.exists_of_endsWith {σ : Type} {test : Stats → Session σ → Bool}
    {result : Except Halt (Except Error Stats × Session σ)} (h : endsWith test result = true) :
    ∃ stats after, result = .ok (.ok stats, after) ∧ test stats after = true := by
  rcases result with halt | ⟨error | stats, after⟩
  · simp [endsWith] at h
  · simp [endsWith] at h
  · exact ⟨stats, after, rfl, h⟩

/-- A peer that is ready, talks after the first payload, and reports an error late. -/
def Script.talkative : Script where
  onConfig := [⟨0, .text "\x7b\"type\":\"ready\"\x7d"⟩]
  onEnd := [⟨Nanos.ofMillis 20, .text "\x7b\"type\":\"error\",\"message\":\"late\"\x7d"⟩]
  afterChunk :=
    [ (1, [⟨0, .text "\x7b\"type\":\"transcription\",\"text\":\"hello\"\x7d"⟩, ⟨0, .text "?"⟩]) ]
  failConfig := none
  failEnd := none
  failChunk := []
  failClose := none
  sendDelay := 0
  stopOnChunk := none

/-- A short drain window, for rehearsals. -/
def SessionPlan.brief : SessionPlan :=
  { SessionPlan.standard "brief" with drainWindow := Nanos.ofMillis 100 }

/-- Two chunks of one sample each. -/
def Scene.twoChunks : Scene := .ofSource (.recording (.ofSamples [⟨0⟩, ⟨1⟩] 10))

/-- The calls of a session with a talkative peer. -/
theorem run_isConversation_talkative :
    ∃ result after,
      (Session.start .brief .twoChunks (.ofScript .talkative)).run Rehearsal.transport 20 =
        .ok (result, after) ∧
      ∃ entries, after.scene.entries = Scene.twoChunks.entries ++ entries ∧
        IsConversation .brief (Journal.exchanges entries) := by
  have hreturns : ((Session.start .brief .twoChunks (.ofScript .talkative)).run
      Rehearsal.transport 20).toBool = true := by decide +kernel
  rcases hrun : (Session.start .brief .twoChunks (.ofScript .talkative)).run
      Rehearsal.transport 20 with halt | ⟨result, after⟩
  · rw [hrun] at hreturns
    simp [Except.toBool] at hreturns
  · exact ⟨result, after, hrun, Session.run_isConversation hrun⟩

end SpeechProbe
