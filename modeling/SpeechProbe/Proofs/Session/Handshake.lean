import SpeechProbe.Proofs.Session.Samples

/-!
# The handshake

Before any audio a session announces itself and receives once.  That one receive decides whether
the session begins (`SessionPlan.accepts`), with what error it fails if it does not
(`SessionPlan.complaint`), and what its counters say of the handshake from then on
(`Received.handshake`, `Received.sessionId?`): nothing that comes later changes that, a late
`ready` included.
-/

namespace SpeechProbe

/-! ## What the first receive decides -/

/-- What becomes of the handshake by a first receive.  A session whose peer has closed the
connection never gets past it. -/
def Received.handshake : Received → Handshake
  | .text frame =>
    match Inbound.decode frame with
    | .ok (.ready _) => .ready
    | .ok message => .unexpected message.kind
    | .error _ => .unexpected "invalid"
  | .timeout => .timedOut
  | .closed => .pending

/-- The name the peer gives the session as it becomes ready. -/
def Received.sessionId? : Received → Option String
  | .text frame =>
    match Inbound.decode frame with
    | .ok (.ready ready) => ready.sessionId
    | _ => none
  | .timeout | .closed => none

/-- Why a session does not begin after its first receive, if it does not. -/
def SessionPlan.complaint (plan : SessionPlan) : Except Error Received → Error
  | .ok (.text text) =>
    match Inbound.decode text with
    | .ok message => .protocolViolation ("expected 'ready', got '" ++ message.kind ++ "'")
    | .error reason => .protocolViolation ("undecodable handshake response: " ++ reason.message)
  | .ok .timeout =>
    .protocolViolation ("no 'ready' within " ++ Nanos.text plan.handshakeTimeout)
  | .ok .closed => .closedByPeer
  | .error e => e

/-- A strict session begins after `ready` only. -/
theorem SessionPlan.exists_ready_of_accepts {plan : SessionPlan} {answer : Except Error Received}
    (hstrict : plan.strict = true) (h : plan.accepts answer = true) :
    ∃ text ready, answer = .ok (.text text) ∧ Inbound.decode text = .ok (.ready ready) := by
  unfold accepts at h
  split at h
  · rename_i text
    split at h
    · rename_i ready hdecode
      exact ⟨text, ready, rfl, hdecode⟩
    · simp [hstrict] at h
  · simp [hstrict] at h
  all_goals simp at h

/-- A lenient session does not begin only after a failure or where the connection is closed. -/
theorem SessionPlan.lost_of_not_accepts {plan : SessionPlan} {answer : Except Error Received}
    (hlenient : plan.strict = false) (h : plan.accepts answer = false) :
    answer = .ok .closed ∨ ∃ e, answer = .error e := by
  unfold accepts at h
  split at h
  · split at h <;> simp [hlenient] at h
  · simp [hlenient] at h
  · exact .inl rfl
  · exact .inr ⟨_, rfl⟩

theorem Received.handshake_ne_pending {plan : SessionPlan} {received : Received}
    (h : plan.accepts (.ok received) = true) : received.handshake ≠ .pending := by
  cases received with
  | text frame =>
    dsimp only [handshake]
    split <;> simp
  | timeout => simp [handshake]
  | closed => simp [SessionPlan.accepts] at h

namespace Session

variable {σ : Type} {transport : Transport σ} {before after : Session σ}

theorem acceptFirst_eq (session : Session σ) (received : Received) :
    (session.acceptFirst received).1 =
      if session.plan.accepts (.ok received) then .ok received.handshake
      else .error (session.plan.complaint (.ok received)) := by
  cases received with
  | closed => rfl
  | timeout =>
    cases hstrict : session.plan.strict <;>
      simp [acceptFirst, acceptSilence, SessionPlan.accepts, Received.handshake,
        SessionPlan.complaint, hstrict]
  | text text =>
    rcases hdecode : Inbound.decode text with reason | message
    · cases hstrict : session.plan.strict <;>
        simp [acceptFirst, acceptUndecodable, SessionPlan.accepts, Received.handshake,
          SessionPlan.complaint, hdecode, hstrict]
    · cases message <;> cases hstrict : session.plan.strict <;>
        simp [acceptFirst, acceptReady, acceptOther, SessionPlan.accepts, Received.handshake,
          SessionPlan.complaint, hdecode, hstrict]

/-- The session is named by the first receive, if it brings `ready`. -/
theorem peerSessionId_acceptFirst {session : Session σ} {received : Received}
    (h : session.plan.accepts (.ok received) = true) (hnone : session.stats.peerSessionId = none) :
    (session.acceptFirst received).2.stats.peerSessionId = received.sessionId? := by
  have haccount : ∀ (stats : Stats) (message : Inbound),
      (stats.account message).peerSessionId = stats.peerSessionId := by
    intro stats message
    cases message with
    | transcription t => simp only [Stats.account]; split <;> rfl
    | _ => rfl
  cases received with
  | closed => simp [SessionPlan.accepts] at h
  | timeout =>
    cases hstrict : session.plan.strict with
    | true => simp [SessionPlan.accepts, hstrict] at h
    | false =>
      simp only [acceptFirst, acceptSilence, hstrict, Bool.false_eq_true, if_false]
      exact hnone
  | text text =>
    rcases hdecode : Inbound.decode text with reason | message
    · cases hstrict : session.plan.strict with
      | true => simp [SessionPlan.accepts, hdecode, hstrict] at h
      | false =>
        simp only [acceptFirst, acceptUndecodable, Received.sessionId?, hdecode, plan_count,
          hstrict, Bool.false_eq_true, if_false]
        exact hnone
    · cases message with
      | ready ready =>
        simp only [acceptFirst, acceptReady, Received.sessionId?, hdecode]
        rfl
      | _ =>
        cases hstrict : session.plan.strict with
        | true => simp [SessionPlan.accepts, hdecode, hstrict] at h
        | false =>
          simp only [acceptFirst, acceptOther, Received.sessionId?, hdecode, plan_count, hstrict,
            Bool.false_eq_true, if_false]
          exact (haccount _ _).trans hnone

/-- The listener is not called for a first receive with which the session does not begin. -/
theorem Answers.calls_eq {received : Received} {e : Error}
    (h : Answers before received (.error e) after) :
    after.view Entry.call? = before.view Entry.call? := by
  cases h with
  | refused decode strict e => rfl
  | impatient strict e => rfl
  | closed => rfl

/-- The exchange before the audio: the announcement does not go out, or one receive decides. -/
inductive Configures (session : Session σ) : Except Error Handshake → Session σ → Prop where
  | unannounced {after : Session σ} {e : Error}
      (exchanges : after.exchanges =
        session.exchanges ++ [.message (.config session.plan.announcement) (.error e)])
      (calls : after.view Entry.call? = session.view Entry.call?) :
      Configures session (.error e) after
  | rejected {after : Session σ} {answer : Except Error Received}
      (no : session.plan.accepts answer = false)
      (exchanges : after.exchanges = session.exchanges ++
        [ .message (.config session.plan.announcement) (.ok ())
        , .receive session.plan.handshakeTimeout answer ])
      (calls : after.view Entry.call? = session.view Entry.call?) :
      Configures session (.error (session.plan.complaint answer)) after
  | accepted {after : Session σ} {received : Received}
      (yes : session.plan.accepts (.ok received) = true)
      (exchanges : after.exchanges = session.exchanges ++
        [ .message (.config session.plan.announcement) (.ok ())
        , .receive session.plan.handshakeTimeout (.ok received) ])
      (handshake : after.stats.handshake = received.handshake)
      (named : session.stats.peerSessionId = none →
        after.stats.peerSessionId = received.sessionId?) :
      Configures session (.ok received.handshake) after

theorem configures_configure (transport : Transport σ) (session : Session σ) :
    Configures session (session.configure transport).1 (session.configure transport).2 := by
  have hmoved : ∀ {α : Type} (f : Entry → Option α) [Entry.Blind f],
      (session.moveTo .configuring).view f = session.view f :=
    fun f => view_moveTo session f .configuring
  rcases hsend : (session.moveTo .configuring).sendMessage transport
    (.config session.plan.announcement) with ⟨e | _, sent⟩
  all_goals
    obtain ⟨_, hsent⟩ := exchanged_sendMessage hsend
    have hannounced := hsent.view_eq Entry.exchange?
    have hsilent := (hsent.view_eq_of_none Entry.call? rfl).trans (hmoved _)
    rw [hmoved] at hannounced
  · simp only [configure, plan_moveTo, hsend]
    exact .unannounced hannounced hsilent
  have hplan : sent.plan = session.plan := hsent.plan_eq.trans (plan_moveTo _ _)
  rcases hreceive : sent.receive transport sent.plan.handshakeTimeout with
    ⟨e | received, answered⟩
  all_goals
    have hcalled := exchanges_receive hreceive
    obtain ⟨_, hreceived⟩ := exchanged_receive hreceive
    have hsilent' := (hreceived.view_eq_of_none Entry.call? rfl).trans hsilent
    rw [hplan, exchanges, exchanges, hannounced, List.append_assoc] at hcalled
    simp only [configure, plan_moveTo, hsend, hreceive]
  · exact .rejected rfl hcalled hsilent'
  have hplan' : answered.plan = session.plan := hreceived.plan_eq.trans hplan
  have hstats : answered.stats.peerSessionId = session.stats.peerSessionId := by
    rw [hreceived.stats_eq, hsent.stats_eq, stats_moveTo]
  have hanswer := answers_acceptFirst answered received
  have hfirst := acceptFirst_eq answered received
  have hcalls := hanswer.exchanges_eq.trans hcalled
  rw [hplan'] at hfirst
  cases haccepts : session.plan.accepts (.ok received) with
  | false =>
    rw [haccepts] at hfirst
    rcases haccept : answered.acceptFirst received with ⟨result, after⟩
    rw [haccept] at hfirst hanswer hcalls
    obtain rfl : result = _ := hfirst
    exact .rejected haccepts hcalls (hanswer.calls_eq.trans hsilent')
  | true =>
    have hnamed := peerSessionId_acceptFirst (hplan' ▸ haccepts)
    rw [haccepts] at hfirst
    rcases haccept : answered.acceptFirst received with ⟨result, after⟩
    rw [haccept] at hfirst hcalls hnamed
    obtain rfl : result = _ := hfirst
    exact .accepted haccepts hcalls rfl fun hnone => hnamed (hstats.trans hnone)

end Session

/-! ## Nothing later changes it -/

/-- What the counters say of the handshake. -/
def Stats.greeting (stats : Stats) : Handshake × Option String :=
  (stats.handshake, stats.peerSessionId)

/-- Counting a message does not touch the handshake, not even if it is a `ready`. -/
@[simp] theorem Stats.greeting_account (stats : Stats) (message : Inbound) :
    (stats.account message).greeting = stats.greeting := by
  cases message with
  | transcription t => simp only [account]; split <;> rfl
  | _ => rfl

namespace Session

variable {σ : Type} {transport : Transport σ} {before after : Session σ}

/-- Between two moments the counters say the same of the handshake. -/
def Remembers (before after : Session σ) : Prop :=
  after.stats.greeting = before.stats.greeting

theorem Remembers.trans {first second third : Session σ} (h : Remembers first second)
    (h' : Remembers second third) : Remembers first third :=
  Eq.trans h' h

theorem Keeps.remembers (h : Keeps before after) : Remembers before after :=
  congrArg Stats.greeting h.stats_eq

theorem remembers_accept (session : Session σ) (text : String) :
    Remembers session (session.accept text) := by
  unfold Remembers accept
  split
  · exact Stats.greeting_account _ _
  · rfl

theorem remembers_sendChunk {chunk : Chunk} {result : Except Error Unit}
    (h : before.sendChunk transport chunk = (result, after)) : Remembers before after := by
  cases result with
  | error e =>
    obtain ⟨_, hexchanged⟩ := exchanged_sendChunk_error h
    exact hexchanged.toKeeps.remembers
  | ok _ => rw [Remembers, stats_sendChunk_ok h]; rfl

theorem remembers_close (transport : Transport σ) (session : Session σ) :
    Remembers session (session.close transport) := by
  cases hphase : session.phase.isFinal with
  | true =>
    simp only [close, hphase, if_true]
    rfl
  | false =>
    obtain ⟨closed, _, _, hexchanged, hclose⟩ := close_spec transport hphase
    have hclosed := hexchanged.toKeeps.remembers
    rcases hclose with hclose | ⟨note, hclose⟩
    all_goals
      rw [hclose, Remembers, stats_moveTo]
      exact hclosed

theorem remembers_sendEnd (transport : Transport σ) (session : Session σ) :
    Remembers session (session.sendEnd transport) := by
  obtain ⟨sent, _, _, hexchanged, hsend⟩ := sendEnd_spec transport session
  have hsent := hexchanged.toKeeps.remembers
  rcases hsend with ⟨_, hsend⟩ | ⟨note, hsend⟩
  all_goals
    rw [hsend]
    exact hsent

theorem remembers_moveTo (session : Session σ) (next : Phase) :
    Remembers session (session.moveTo next) := by
  rw [Remembers, stats_moveTo]
  rfl

theorem Drains.remembers {out : Except Halt (Except Error Drained)}
    (h : Drains transport before out after) : Remembers before after := by
  have hreceived : ∀ {first second : Session σ} {timeout : Nanos}
      {result : Except Error Received},
      first.receive transport timeout = (result, second) → Remembers first second := by
    intro first second timeout result receive
    obtain ⟨_, hexchanged⟩ := exchanged_receive receive
    exact hexchanged.toKeeps.remembers
  induction h with
  | outOfSteps session => rfl
  | failed receive => exact hreceived receive
  | dry frames receive => exact hreceived receive
  | closed frames receive =>
    have hclosed := hreceived receive
    exact hclosed
  | text receive rest ih => exact ((hreceived receive).trans (remembers_accept _ _)).trans ih

theorem Delivers.remembers {chunk : Chunk} {out : Except Halt (Option (Except Error Unit))}
    (h : Delivers transport chunk before out after) : Remembers before after := by
  cases h with
  | refused send => exact remembers_sendChunk send
  | broke send drain => exact (remembers_sendChunk send).trans drain.remembers
  | failed send drain => exact (remembers_sendChunk send).trans drain.remembers
  | closed send drain => exact (remembers_sendChunk send).trans drain.remembers
  | stopped send drain pace =>
    have hdrained := (remembers_sendChunk send).trans drain.remembers
    exact hdrained.trans (waited_pace pace).toKeeps.remembers
  | paced send drain pace =>
    have hdrained := (remembers_sendChunk send).trans drain.remembers
    exact hdrained.trans (waited_pace pace).toKeeps.remembers

theorem Round.remembers {n : Nat} {out : Except Halt (Option (Except Error Unit))}
    (h : Round transport n before out after) : Remembers before after := by
  cases h with
  | stopped stop => rfl
  | broke running next => exact (nextAudio_halted running next).1.remembers
  | ended running next => exact (nextAudio_none running next).1.remembers
  | skipped running next empty => exact (nextAudio_some running next).1.remembers
  | held running next audio stop => exact (nextAudio_some running next).1.remembers
  | delivered running next audio running' deliver =>
    exact (nextAudio_some running next).1.remembers.trans deliver.remembers

theorem Streams.remembers {n : Nat} {out : Except Halt (Except Error Unit)}
    (h : Streams transport n before out after) : Remembers before after := by
  induction h with
  | outOfSteps session => rfl
  | broke round => exact round.remembers
  | last round => exact round.remembers
  | more round rest ih => exact round.remembers.trans ih

theorem StreamsSource.remembers {out : Except Halt (Except Error Unit)}
    (h : StreamsSource transport before out after) : Remembers before after := by
  have hmoved := remembers_moveTo before .streaming
  cases h with
  | unstreamable key reason empty => exact hmoved
  | rounds audio streams => exact hmoved.trans streams.remembers

theorem Collects.remembers {deadline : Nanos} {out : Except Halt Unit}
    (h : Collects transport deadline before out after) : Remembers before after := by
  induction h with
  | outOfSteps session => rfl
  | past due => rfl
  | broke early drain => exact drain.remembers
  | failed early drain => exact drain.remembers.trans (keeps_note _ _).remembers
  | closed early drain => exact drain.remembers
  | again early drain rest ih =>
    exact (drain.remembers.trans (waited_rest _ _).toKeeps.remembers).trans ih

theorem Finishes.remembers {out : Except Halt Unit} (h : Finishes transport before out after) :
    Remembers before after := by
  have hmoved := remembers_moveTo before .draining
  have hsent := hmoved.trans (remembers_sendEnd transport _)
  cases h with
  | cut closed => exact hmoved.trans (remembers_close transport _)
  | overflow open' deadline => exact hsent
  | broke open' window collect => exact hsent.trans collect.remembers
  | collected open' window collect =>
    exact (hsent.trans collect.remembers).trans (remembers_close transport _)

theorem remembers_endStreaming (session : Session σ) (result : Except Error Unit) :
    Remembers session (session.endStreaming result) := by
  have hreleased := (keeps_releaseSource session).remembers
  cases result <;> exact hreleased

/-! ## Whole sessions -/

/-- Once a session has begun, its counters say of the handshake what they said then. -/
theorem remembers_runCourse (fuel : Nat) {opened : Session σ} {handshake : Handshake}
    (hcheck : before.plan.check = .ok ())
    (hconfigure : before.configure transport = (.ok handshake, opened)) :
    Remembers opened (before.runCourse transport fuel).session := by
  have hstreamed := (streamsSource_streamCourse transport fuel opened).remembers
  rcases runCourse_cases fuel hcheck hconfigure with ⟨_, _, hrun⟩ | ⟨result, _, _, hfinishes, _⟩
  · rw [hrun]
    exact hstreamed
  · exact (hstreamed.trans (remembers_endStreaming _ result)).trans hfinishes.remembers

/-- A session that begins moves on to its audio. -/
theorem StreamsSource.moved_mem {out : Except Halt (Except Error Unit)} {entries : List Entry}
    (h : StreamsSource transport before out after) (hphase : before.phase = .configuring)
    (hgrows : Scene.Grows before.scene after.scene entries) :
    .moved .configuring .streaming ∈ entries := by
  have hmoved : Scene.Grows before.scene (before.moveTo .streaming).scene
      [.moved .configuring .streaming] := by
    have hlegal : before.phase.canMoveTo .streaming = true := by rw [hphase]; rfl
    unfold moveTo
    rw [if_pos hlegal, hphase]
    exact Scene.grows_record _ rfl
  have hrest : Grows (before.moveTo .streaming) after := by
    cases h with
    | unstreamable key reason empty => exact .refl _
    | rounds audio streams => exact lively_grows.streams streams
  obtain ⟨rest, hrest⟩ := hrest
  rw [hgrows.unique (hmoved.trans hrest)]
  exact List.mem_cons_self

/-- How a session begins or fails to, and what becomes of it: the calls of the transport, those
of the listener, and the outcome. -/
inductive Greets (plan : SessionPlan) (entries : List Entry)
    (outcome : Except Halt (Except Error Stats)) : Prop where
  | unannounced {e : Error} {closing : Except Error Unit}
      (exchanges : Journal.exchanges entries =
        [.message (.config plan.announcement) (.error e), .close closing])
      (calls : Journal.calls entries = []) (fails : outcome = .ok (.error e))
  | rejected {answer : Except Error Received} {closing : Except Error Unit}
      (no : plan.accepts answer = false)
      (exchanges : Journal.exchanges entries =
        [ .message (.config plan.announcement) (.ok ())
        , .receive plan.handshakeTimeout answer
        , .close closing ])
      (calls : Journal.calls entries = []) (fails : outcome = .ok (.error (plan.complaint answer)))
  | accepted {received : Received} {rest : List Exchange}
      (yes : plan.accepts (.ok received) = true)
      (exchanges : Journal.exchanges entries =
        .message (.config plan.announcement) (.ok ()) ::
          .receive plan.handshakeTimeout (.ok received) :: rest)
      (begins : .moved .configuring .streaming ∈ entries)
      (lasts : ∀ e, outcome ≠ .ok (.error e))
      (remembers : ∀ stats, outcome = .ok (.ok stats) →
        stats.handshake = received.handshake ∧ stats.peerSessionId = received.sessionId?)

/-- A session that fails before its audio is closed, and the listener is not called. -/
theorem abandon_spec (transport : Transport σ) {session : Session σ}
    (hphase : session.phase.isFinal = false) (what : String) (e : Error) :
    (session.abandon transport what e).outcome = .ok (.error e) ∧
      (∃ closing, (session.abandon transport what e).session.exchanges =
        session.exchanges ++ [.close closing]) ∧
      (session.abandon transport what e).session.view Entry.call? = session.view Entry.call? := by
  have hphase' : (session.note (.error (what ++ ": " ++ e.message))).phase.isFinal = false := hphase
  obtain ⟨_, _, hcalls⟩ := view_close transport hphase' Entry.call?
  refine ⟨rfl, exchanges_abandoned transport hphase _, ?_⟩
  rw [view_note] at hcalls
  exact hcalls.trans (List.append_nil _)

theorem greets_runCourse (fuel : Nat) {entries : List Entry}
    (hcheck : before.plan.check = .ok ()) (hnone : before.stats.peerSessionId = none)
    (hgrows : Scene.Grows before.scene (before.runCourse transport fuel).session.scene entries) :
    Greets before.plan entries (before.runCourse transport fuel).outcome := by
  have hexchanges : ∀ {calls}, (before.runCourse transport fuel).session.exchanges =
      before.exchanges ++ calls → Journal.exchanges entries = calls :=
    fun h => Scene.filterMap_eq_of_view hgrows.entries_eq h
  have hcalls : (before.runCourse transport fuel).session.view Entry.call? =
      before.view Entry.call? → Journal.calls entries = [] :=
    fun h => Scene.filterMap_eq_nil_of_view hgrows.entries_eq h
  have hopens := opens_configure transport before
  have hconfigures := configures_configure transport before
  rcases hconfigure : before.configure transport with ⟨e | handshake, opened⟩
  · rw [hconfigure] at hopens hconfigures
    obtain ⟨hout, ⟨closing, hclosed⟩, hsilent⟩ :=
      abandon_spec transport (congrArg Phase.isFinal hopens.phase_eq) "Handshake failed" e
    have hrun : before.runCourse transport fuel =
        opened.abandon transport "Handshake failed" e := by
      simp only [runCourse, hcheck, hconfigure]
    rw [← hrun] at hout hclosed hsilent
    cases hconfigures with
    | unannounced exchanges calls =>
      rw [exchanges, List.append_assoc] at hclosed
      exact .unannounced (hexchanges hclosed) (hcalls (hsilent.trans calls)) hout
    | rejected no exchanges calls =>
      rw [exchanges, List.append_assoc] at hclosed
      exact .rejected no (hexchanges hclosed) (hcalls (hsilent.trans calls)) hout
  · rw [hconfigure] at hopens hconfigures
    cases hconfigures with
    | @accepted _ received yes exchanges handshake named =>
      have hstreams := streamsSource_streamCourse transport fuel opened
      obtain ⟨opening, hopening⟩ := passive_grows.opens hopens
      obtain ⟨streaming, hstreaming⟩ := lively_grows.streamsSource hstreams
      obtain ⟨closing, hclosing⟩ := (mute_runCourse fuel hcheck hconfigure).grows
      have hsplit := hgrows.unique ((hopening.trans hstreaming).trans hclosing)
      have hbegins := hstreams.moved_mem hopens.phase_eq hstreaming
      have hannounced := Scene.filterMap_eq_of_view hopening.entries_eq exchanges
      have hcalled : Journal.exchanges entries =
          .message (.config before.plan.announcement) (.ok ()) ::
            .receive before.plan.handshakeTimeout (.ok received) ::
              Journal.exchanges (streaming ++ closing) := by
        rw [hsplit, List.append_assoc, Journal.exchanges, List.filterMap_append, hannounced]
        rfl
      refine .accepted yes hcalled ?_ (runCourse_ne_error fuel hcheck hconfigure)
        fun stats hstats => ?_
      · rw [hsplit]
        exact List.mem_append_left _ (List.mem_append_right _ hbegins)
      · have hruns := runs_runCourse transport fuel before
        rw [hstats] at hruns
        have hremembers := remembers_runCourse fuel hcheck hconfigure
        cases hruns with
        | finished check opens streams finishes =>
          obtain ⟨hsame, hname⟩ := Prod.mk.inj hremembers
          exact ⟨hsame.trans handshake, hname.trans (named hnone)⟩

/-- What the first receive makes of a session whose plan can be carried out, whatever its
source and its transport, and however far it comes.

`Greets` says it in full.  In particular, a strict session hands audio over, sends the end mark
or calls the listener only after a first receive that brought `ready`; a lenient one fails only
if the announcement did, or the first receive, or if that found the connection closed; and the
counters of a session that ends never say that the handshake is still pending. -/
theorem run_handshake (transport : Transport σ) (plan : SessionPlan) (scene : Scene) (peer : σ)
    (fuel : Nat) (hcheck : plan.check = .ok ()) :
    ∃ entries,
      ((start plan scene peer).runCourse transport fuel).session.scene.entries =
        scene.entries ++ entries ∧
      Greets plan entries ((start plan scene peer).runCourse transport fuel).outcome ∧
      (plan.strict = true →
        ((∃ payload result, .audio payload result ∈ Journal.exchanges entries) ∨
          (∃ result, .message .finished result ∈ Journal.exchanges entries) ∨
          Journal.calls entries ≠ []) →
        ∃ text ready rest, Inbound.decode text = .ok (.ready ready) ∧
          Journal.exchanges entries = .message (.config plan.announcement) (.ok ()) ::
            .receive plan.handshakeTimeout (.ok (.text text)) :: rest) ∧
      (plan.strict = false → ∀ e,
        ((start plan scene peer).runCourse transport fuel).outcome = .ok (.error e) →
        ∃ rest, Journal.exchanges entries =
            .message (.config plan.announcement) (.error e) :: rest ∨
          Journal.exchanges entries = .message (.config plan.announcement) (.ok ()) ::
            .receive plan.handshakeTimeout (.ok .closed) :: rest ∧ e = .closedByPeer ∨
          Journal.exchanges entries = .message (.config plan.announcement) (.ok ()) ::
            .receive plan.handshakeTimeout (.error e) :: rest) ∧
      ∀ stats, ((start plan scene peer).runCourse transport fuel).outcome = .ok (.ok stats) →
        stats.handshake ≠ .pending := by
  obtain ⟨entries, hgrows⟩ := (runs_runCourse transport fuel (start plan scene peer)).grows
  have hgreets : Greets plan entries _ := greets_runCourse fuel hcheck rfl hgrows
  refine ⟨entries, hgrows.entries_eq, hgreets, ?_⟩
  cases hgreets with
  | unannounced exchanges calls fails =>
    refine ⟨fun _ h => ?_, fun _ e he => ?_, fun stats hstats => ?_⟩
    · simp [exchanges, calls] at h
    · rw [fails, Except.ok.injEq, Except.error.injEq] at he
      exact ⟨_, .inl (he ▸ exchanges)⟩
    · simp [fails] at hstats
  | rejected no exchanges calls fails =>
    refine ⟨fun _ h => ?_, fun hlenient e he => ?_, fun stats hstats => ?_⟩
    · simp [exchanges, calls] at h
    · rw [fails, Except.ok.injEq, Except.error.injEq] at he
      rcases SessionPlan.lost_of_not_accepts hlenient no with rfl | ⟨e', rfl⟩
      · exact ⟨_, .inr (.inl ⟨exchanges, he.symm⟩)⟩
      · obtain rfl : e' = e := he
        exact ⟨_, .inr (.inr exchanges)⟩
    · simp [fails] at hstats
  | accepted yes exchanges begins lasts remembers =>
    refine ⟨fun hstrict _ => ?_, fun _ e he => absurd he (lasts e), fun stats hstats => ?_⟩
    · obtain ⟨text, ready, hanswer, hdecode⟩ := SessionPlan.exists_ready_of_accepts hstrict yes
      obtain rfl := Except.ok.inj hanswer
      exact ⟨text, ready, _, hdecode, exchanges⟩
    · rw [(remembers stats hstats).1]
      exact Received.handshake_ne_pending yes

end Session

/-! ## A rehearsed handshake -/

/-- A text that came in is the result of a receive. -/
theorem Journal.exists_receive_of_mem_texts {entries : List Entry} {text : String}
    (h : text ∈ texts entries) :
    ∃ timeout, .receive timeout (.ok (.text text)) ∈ exchanges entries := by
  obtain ⟨entry, hentry, htext⟩ := List.mem_filterMap.mp h
  unfold Entry.text? at htext
  split at htext
  · rename_i time timeout elapsed found
    obtain rfl := Option.some.inj htext
    exact ⟨timeout, List.mem_filterMap.mpr ⟨_, hentry, rfl⟩⟩
  · simp at htext

/-- A result that comes before the session was accepted. -/
def hastyResult : String := "\x7b\"type\":\"transcription\",\"text\":\"hello\"\x7d"

/-- A strict session, and a peer that sends a result first. -/
def Session.mismatched : Session Rehearsal :=
  .start { SessionPlan.brief with strict := true } .twoChunks
    (.ofScript { Script.talkative with onConfig := [⟨0, .text hastyResult⟩] })

/-- The session fails with the kind of the message, and the listener does not hear of it. -/
theorem run_handshake_mismatched :
    Session.mismatched.plan.check = .ok () ∧
      (Session.mismatched.runCourse Rehearsal.transport 20).outcome =
        .ok (.error (.protocolViolation "expected 'ready', got 'transcription'")) ∧
      Journal.calls (Session.mismatched.runCourse Rehearsal.transport 20).session.scene.entries =
        [] := by
  obtain ⟨entries, hentries, hgreets, _⟩ := Session.run_handshake Rehearsal.transport
    { SessionPlan.brief with strict := true } .twoChunks
    (.ofScript { Script.talkative with onConfig := [⟨0, .text hastyResult⟩] }) 20 rfl
  have hjournal : (Session.mismatched.runCourse Rehearsal.transport 20).session.scene.entries =
      entries := hentries
  have htexts : Journal.texts entries = [hastyResult] := by
    rw [← hjournal]
    decide +kernel
  obtain ⟨timeout, hreceive⟩ :=
    Journal.exists_receive_of_mem_texts (htexts ▸ List.mem_singleton_self hastyResult)
  refine ⟨rfl, ?_⟩
  rw [hjournal]
  cases hgreets with
  | unannounced exchanges calls fails => simp [exchanges] at hreceive
  | rejected no exchanges calls fails =>
    simp only [exchanges, List.mem_cons, reduceCtorEq, Exchange.receive.injEq, List.not_mem_nil,
      or_false, false_or] at hreceive
    obtain ⟨_, rfl⟩ := hreceive
    refine ⟨?_, calls⟩
    refine fails.trans (congrArg (fun e => Except.ok (Except.error e)) ?_)
    decide +kernel
  | accepted yes exchanges begins lasts remembers =>
    have hfails : (Session.mismatched.runCourse Rehearsal.transport 20).outcome.toOption.map
        Except.toBool = some false := by decide +kernel
    rcases hout : (Session.mismatched.runCourse Rehearsal.transport 20).outcome with _ | e | _
    · simp [hout, Except.toOption] at hfails
    · exact absurd hout (lasts e)
    · simp [hout, Except.toOption, Except.toBool] at hfails

end SpeechProbe
