import SpeechProbe.Proofs.Session.Steps

/-!
# The courses a session can take

The loops of a session run on an allowance of steps.  Here they are again as relations
without one: `Drains`, `Delivers`, `Round`, `Streams`, `Collects`, `Finishes` and `Runs`
have one constructor for each way a part can go, the ways it can break off included.
What the functions compute is always such a course, and everything that is proved of a
whole session is proved by induction on its course.
-/

namespace SpeechProbe.Session

variable {σ : Type} (transport : Transport σ)

/-! ## Draining -/

/-- A drain from one session to another, and how it ends. -/
inductive Drains : Session σ → Except Halt (Except Error Drained) → Session σ → Prop where
  | outOfSteps (session : Session σ) : Drains session (.error .outOfSteps) session
  | failed {session after : Session σ} {e : Error}
      (receive : session.receive transport session.plan.pollTimeout = (.error e, after)) :
      Drains session (.ok (.error e)) after
  | dry {session after : Session σ} (frames : Nat)
      (receive : session.receive transport session.plan.pollTimeout =
        (.ok .timeout, after)) : Drains session (.ok (.ok (.dry frames))) after
  | closed {session after : Session σ} (frames : Nat)
      (receive : session.receive transport session.plan.pollTimeout = (.ok .closed, after)) :
      Drains session (.ok (.ok (.closed frames))) after.notePeerClosed
  | text {session received after : Session σ} {text : String}
      {outcome : Except Halt (Except Error Drained)}
      (receive : session.receive transport session.plan.pollTimeout =
        (.ok (.text text), received))
      (rest : Drains (received.accept text) outcome after) : Drains session outcome after

theorem drains_drainAfter (fuel frames : Nat) (session : Session σ) :
    Drains transport session (drainAfter transport fuel frames session).outcome
      (drainAfter transport fuel frames session).session := by
  fun_induction drainAfter transport fuel frames session with
  | case1 frames session => exact .outOfSteps session
  | case2 fuel frames session e after receive => exact .failed receive
  | case3 fuel frames session after receive => exact .dry frames receive
  | case4 fuel frames session after receive => exact .closed frames receive
  | case5 fuel frames session text received receive ih => exact .text receive ih

/-- A drain is a course. -/
theorem drains_drainCourse (fuel : Nat) (session : Session σ) :
    Drains transport session (session.drainCourse transport fuel).outcome
      (session.drainCourse transport fuel).session :=
  drains_drainAfter transport fuel 0 session

/-! ## Streaming -/

/-- The delivery of a chunk, and how streaming ends by it, if it does. -/
inductive Delivers (chunk : Chunk) :
    Session σ → Except Halt (Option (Except Error Unit)) → Session σ → Prop where
  | refused {session after : Session σ} {e : Error}
      (send : session.sendChunk transport chunk = (.error e, after)) :
      Delivers chunk session (.ok (some (.error e))) after
  | broke {session sent after : Session σ} {halt : Halt}
      (send : session.sendChunk transport chunk = (.ok (), sent))
      (drain : Drains transport sent (.error halt) after) :
      Delivers chunk session (.error halt) after
  | failed {session sent after : Session σ} {e : Error}
      (send : session.sendChunk transport chunk = (.ok (), sent))
      (drain : Drains transport sent (.ok (.error e)) after) :
      Delivers chunk session (.ok (some (.error e))) after
  | closed {session sent after : Session σ} {frames : Nat}
      (send : session.sendChunk transport chunk = (.ok (), sent))
      (drain : Drains transport sent (.ok (.ok (.closed frames))) after) :
      Delivers chunk session (.ok (some (.error .closedByPeer))) after
  | stopped {session sent drained after : Session σ} {frames : Nat}
      (send : session.sendChunk transport chunk = (.ok (), sent))
      (drain : Drains transport sent (.ok (.ok (.dry frames))) drained)
      (pace : drained.pace session.clock = (false, after)) :
      Delivers chunk session (.ok (some (.ok ()))) after
  | paced {session sent drained after : Session σ} {frames : Nat}
      (send : session.sendChunk transport chunk = (.ok (), sent))
      (drain : Drains transport sent (.ok (.ok (.dry frames))) drained)
      (pace : drained.pace session.clock = (true, after)) :
      Delivers chunk session (.ok none) after

theorem delivers_deliver (fuel : Nat) (chunk : Chunk) (session : Session σ) :
    Delivers transport chunk session (session.deliver transport fuel chunk).outcome
      (session.deliver transport fuel chunk).session := by
  rcases hsend : session.sendChunk transport chunk with ⟨e | _, sent⟩
  · simp only [deliver, hsend]
    exact .refused hsend
  · have hdrain := drains_drainCourse transport fuel sent
    rcases hcourse : sent.drainCourse transport fuel with ⟨halt | e | frames | frames, drained⟩
    all_goals
      rw [hcourse] at hdrain
      simp only [deliver, hsend, hcourse, Course.andThen]
    · exact .broke hsend hdrain
    · exact .failed hsend hdrain
    · rcases hpace : drained.pace session.clock with ⟨_ | _, after⟩
      · exact .stopped hsend hdrain hpace
      · exact .paced hsend hdrain hpace
    · exact .closed hsend hdrain

/-- One round of streaming, and how streaming ends by it, if it does. -/
inductive Round (n : Nat) :
    Session σ → Except Halt (Option (Except Error Unit)) → Session σ → Prop where
  | stopped {session : Session σ} (stop : session.running = false) :
      Round n session (.ok (some (.ok ()))) session
  | broke {session after : Session σ} {halt : Halt} (running : session.running = true)
      (next : session.nextAudio n = .halted halt after) : Round n session (.error halt) after
  | ended {session after : Session σ} (running : session.running = true)
      (next : session.nextAudio n = .done none after) :
      Round n session (.ok (some (.ok ()))) after
  | skipped {session after : Session σ} {chunk : Chunk} (running : session.running = true)
      (next : session.nextAudio n = .done (some chunk) after)
      (empty : chunk.isEmpty = true) : Round n session (.ok none) after
  | held {session after : Session σ} {chunk : Chunk} (running : session.running = true)
      (next : session.nextAudio n = .done (some chunk) after)
      (audio : chunk.isEmpty = false) (stop : after.running = false) :
      Round n session (.ok (some (.ok ()))) after
  | delivered {session fetched after : Session σ} {chunk : Chunk}
      {outcome : Except Halt (Option (Except Error Unit))}
      (running : session.running = true)
      (next : session.nextAudio n = .done (some chunk) fetched)
      (audio : chunk.isEmpty = false) (running' : fetched.running = true)
      (deliver : Delivers transport chunk fetched outcome after) :
      Round n session outcome after

theorem round_round (n fuel : Nat) (session : Session σ) :
    Round transport n session (session.round transport n fuel).outcome
      (session.round transport n fuel).session := by
  cases hrunning : session.running with
  | false =>
    simp only [round, hrunning, Bool.not_false, if_true]
    exact .stopped hrunning
  | true =>
    rcases hnext : session.nextAudio n with ⟨halt | _ | chunk, fetched⟩
    · simp only [round, hrunning, hnext, Course.andThen]
      exact .broke hrunning hnext
    · simp only [round, hrunning, hnext, Course.andThen]
      exact .ended hrunning hnext
    · cases hempty : chunk.isEmpty with
      | true =>
        simp only [round, hrunning, hnext, hempty, Course.andThen]
        exact .skipped hrunning hnext hempty
      | false =>
        cases hstop : fetched.running with
        | false =>
          simp only [round, hrunning, hnext, hempty, hstop, Course.andThen]
          exact .held hrunning hnext hempty hstop
        | true =>
          simp only [round, hrunning, hnext, hempty, hstop, Course.andThen]
          exact .delivered hrunning hnext hempty hstop
            (delivers_deliver transport fuel chunk fetched)

/-- Rounds of streaming until one is the last. -/
inductive Streams (n : Nat) :
    Session σ → Except Halt (Except Error Unit) → Session σ → Prop where
  | outOfSteps (session : Session σ) : Streams n session (.error .outOfSteps) session
  | broke {session after : Session σ} {halt : Halt}
      (round : Round transport n session (.error halt) after) :
      Streams n session (.error halt) after
  | last {session after : Session σ} {result : Except Error Unit}
      (round : Round transport n session (.ok (some result)) after) :
      Streams n session (.ok result) after
  | more {session next after : Session σ} {outcome : Except Halt (Except Error Unit)}
      (round : Round transport n session (.ok none) next)
      (rest : Streams n next outcome after) : Streams n session outcome after

theorem streams_sendChunks (n fuel : Nat) (session : Session σ) :
    Streams transport n session (sendChunks transport n fuel session).outcome
      (sendChunks transport n fuel session).session := by
  induction fuel generalizing session with
  | zero => exact .outOfSteps session
  | succ fuel ih =>
    have hround := round_round transport n fuel session
    rcases hcourse : session.round transport n fuel with ⟨halt | _ | result, next⟩
    all_goals
      rw [hcourse] at hround
      simp only [sendChunks, hcourse, Course.andThen]
    · exact .broke hround
    · exact .more hround (ih next)
    · exact .last hround

/-- Streaming as a whole: nothing where chunks would be empty, else rounds. -/
inductive StreamsSource (session : Session σ) :
    Except Halt (Except Error Unit) → Session σ → Prop where
  | unstreamable (key reason : String)
      (empty : (session.plan.framing session.scene.source.rate).chunkLength = 0) :
      StreamsSource session (.ok (.error (.setting key reason))) (session.moveTo .streaming)
  | rounds {outcome : Except Halt (Except Error Unit)} {after : Session σ}
      (audio : 0 < (session.plan.framing session.scene.source.rate).chunkLength)
      (streams : Streams transport (session.plan.framing session.scene.source.rate).chunkLength
        (session.moveTo .streaming) outcome after) : StreamsSource session outcome after

theorem streamCourse_eq_sendChunks (fuel : Nat) (session : Session σ)
    (h : 0 < (session.plan.framing session.scene.source.rate).chunkLength) :
    session.streamCourse transport fuel =
      sendChunks transport (session.plan.framing session.scene.source.rate).chunkLength fuel
        (session.moveTo .streaming) := by
  simp only [streamCourse, plan_moveTo, source_moveTo]
  rw [if_neg (Nat.ne_of_gt h)]

theorem streamsSource_streamCourse (fuel : Nat) (session : Session σ) :
    StreamsSource transport session (session.streamCourse transport fuel).outcome
      (session.streamCourse transport fuel).session := by
  by_cases hn : (session.plan.framing session.scene.source.rate).chunkLength = 0
  · simp only [streamCourse, plan_moveTo, source_moveTo, hn, if_true]
    exact .unstreamable _ _ hn
  · have hpos := Nat.pos_of_ne_zero hn
    rw [streamCourse_eq_sendChunks transport fuel session hpos]
    exact .rounds hpos (streams_sendChunks transport _ fuel _)

/-! ## Collecting -/

/-- Looks for messages until the deadline. -/
inductive Collects (deadline : Nanos) : Session σ → Except Halt Unit → Session σ → Prop where
  | outOfSteps (session : Session σ) : Collects deadline session (.error .outOfSteps) session
  | past {session : Session σ} (due : deadline ≤ session.clock) :
      Collects deadline session (.ok ()) session
  | broke {session after : Session σ} {halt : Halt} (early : session.clock < deadline)
      (drain : Drains transport session (.error halt) after) :
      Collects deadline session (.error halt) after
  | failed {session after : Session σ} {e : Error} (early : session.clock < deadline)
      (drain : Drains transport session (.ok (.error e)) after) :
      Collects deadline session (.ok ()) (after.note (.warn ("Drain failed: " ++ e.message)))
  | closed {session after : Session σ} {frames : Nat} (early : session.clock < deadline)
      (drain : Drains transport session (.ok (.ok (.closed frames))) after) :
      Collects deadline session (.ok ()) after
  | again {session drained after : Session σ} {frames : Nat} {outcome : Except Halt Unit}
      (early : session.clock < deadline)
      (drain : Drains transport session (.ok (.ok (.dry frames))) drained)
      (rest : Collects deadline (drained.rest deadline) outcome after) :
      Collects deadline session outcome after

theorem collects_collectUntil (deadline : Nanos) (fuel : Nat) (session : Session σ) :
    Collects transport deadline session (collectUntil transport deadline fuel session).outcome
      (collectUntil transport deadline fuel session).session := by
  induction fuel generalizing session with
  | zero => exact .outOfSteps session
  | succ fuel ih =>
    by_cases hdue : deadline ≤ session.clock
    · simp only [collectUntil, hdue, if_true]
      exact .past hdue
    · have hearly : session.clock < deadline := Nat.lt_of_not_le hdue
      have hdrain := drains_drainCourse transport fuel session
      rcases hcourse : session.drainCourse transport fuel with
        ⟨halt | e | frames | frames, drained⟩
      all_goals
        rw [hcourse] at hdrain
        simp only [collectUntil, hdue, if_false, look, hcourse, Course.andThen, Course.halted,
          Course.done, if_true, Bool.false_eq_true]
      · exact .broke hearly hdrain
      · exact .failed hearly hdrain
      · exact .again hearly hdrain (ih _)
      · exact .closed hearly hdrain

/-! ## Opening -/

/-- What the first answer leads to. -/
inductive Answers (session : Session σ) :
    Received → Except Error Handshake → Session σ → Prop where
  | ready {text : String} {ready : Ready} (decode : Inbound.decode text = .ok (.ready ready)) :
      Answers session (.text text) (.ok .ready)
        (((session.count Stats.countReceived).count fun stats =>
          { stats with peerSessionId := ready.sessionId }).tell (.ready ready))
  | other {text : String} {message : Inbound} (decode : Inbound.decode text = .ok message)
      (kind : ∀ ready, message ≠ .ready ready) (lenient : session.plan.strict = false)
      (note : Note) :
      Answers session (.text text) (.ok (.unexpected message.kind))
        ((((session.count Stats.countReceived).note note).account message).tell message.call)
  | undecodable {text : String} {reason : Error}
      (decode : Inbound.decode text = .error reason) (lenient : session.plan.strict = false)
      (note : Note) :
      Answers session (.text text) (.ok (.unexpected "invalid"))
        (((session.count Stats.countReceived).note note).count Stats.countUndecodable)
  | refused {text : String} (decode : ∀ ready, Inbound.decode text ≠ .ok (.ready ready))
      (strict : session.plan.strict = true) (e : Error) :
      Answers session (.text text) (.error e) (session.count Stats.countReceived)
  | silence (lenient : session.plan.strict = false) (note : Note) :
      Answers session .timeout (.ok .timedOut) (session.note note)
  | impatient (strict : session.plan.strict = true) (e : Error) :
      Answers session .timeout (.error e) session
  | closed : Answers session .closed (.error .closedByPeer) session.notePeerClosed

theorem answers_acceptFirst (session : Session σ) (received : Received) :
    Answers session received (session.acceptFirst received).1
      (session.acceptFirst received).2 := by
  cases received with
  | timeout =>
    cases hstrict : session.plan.strict with
    | true =>
      simp only [acceptFirst, acceptSilence, hstrict, if_true]
      exact .impatient hstrict _
    | false =>
      simp only [acceptFirst, acceptSilence, hstrict, Bool.false_eq_true, if_false]
      exact .silence hstrict _
  | closed => exact .closed
  | text text =>
    unfold acceptFirst
    dsimp only
    split
    · rename_i ready hdecode
      exact .ready hdecode
    · rename_i message hkind hdecode
      cases hstrict : session.plan.strict with
      | true =>
        simp only [acceptOther, plan_count, hstrict, if_true]
        refine .refused (fun ready hready => ?_) hstrict _
        rw [hdecode, Except.ok.injEq] at hready
        exact hkind ready hready
      | false =>
        simp only [acceptOther, plan_count, hstrict, Bool.false_eq_true, if_false]
        exact .other hdecode hkind hstrict _
    · rename_i reason hdecode
      cases hstrict : session.plan.strict with
      | true =>
        simp only [acceptUndecodable, plan_count, hstrict, if_true]
        refine .refused (fun ready hready => ?_) hstrict _
        rw [hdecode] at hready
        simp at hready
      | false =>
        simp only [acceptUndecodable, plan_count, hstrict, Bool.false_eq_true, if_false]
        exact .undecodable hdecode hstrict _

/-- The exchange before the audio. -/
inductive Opens (session : Session σ) : Except Error Handshake → Session σ → Prop where
  | unsent {after : Session σ} {e : Error}
      (send : (session.moveTo .configuring).sendMessage transport
        (.config session.plan.announcement) = (.error e, after)) :
      Opens session (.error e) after
  | unanswered {sent after : Session σ} {e : Error}
      (send : (session.moveTo .configuring).sendMessage transport
        (.config session.plan.announcement) = (.ok (), sent))
      (receive : sent.receive transport sent.plan.handshakeTimeout = (.error e, after)) :
      Opens session (.error e) after
  | rejected {sent answered after : Session σ} {received : Received} {e : Error}
      (send : (session.moveTo .configuring).sendMessage transport
        (.config session.plan.announcement) = (.ok (), sent))
      (receive : sent.receive transport sent.plan.handshakeTimeout = (.ok received, answered))
      (answer : Answers answered received (.error e) after) :
      Opens session (.error e) after
  | accepted {sent answered after : Session σ} {received : Received} {outcome : Handshake}
      (send : (session.moveTo .configuring).sendMessage transport
        (.config session.plan.announcement) = (.ok (), sent))
      (receive : sent.receive transport sent.plan.handshakeTimeout = (.ok received, answered))
      (answer : Answers answered received (.ok outcome) after) :
      Opens session (.ok outcome) (after.count fun stats => { stats with handshake := outcome })

theorem opens_configure (session : Session σ) :
    Opens transport session (session.configure transport).1 (session.configure transport).2 := by
  rcases hsend : (session.moveTo .configuring).sendMessage transport
    (.config session.plan.announcement) with ⟨e | _, sent⟩
  · simp only [configure, plan_moveTo, hsend]
    exact .unsent hsend
  · rcases hreceive : sent.receive transport sent.plan.handshakeTimeout with
      ⟨e | received, answered⟩
    · simp only [configure, plan_moveTo, hsend, hreceive]
      exact .unanswered hsend hreceive
    · have hanswer := answers_acceptFirst answered received
      rcases haccept : answered.acceptFirst received with ⟨e | outcome, after⟩
      all_goals
        rw [haccept] at hanswer
        simp only [configure, plan_moveTo, hsend, hreceive, haccept]
      · exact .rejected hsend hreceive hanswer
      · exact .accepted hsend hreceive hanswer

/-! ## Finishing -/

/-- The end of a session that was not closed before. -/
inductive Finishes (session : Session σ) : Except Halt Unit → Session σ → Prop where
  | cut (closed : session.stats.peerClosed = true) :
      Finishes session (.ok ()) ((session.moveTo .draining).close transport)
  | overflow (open' : session.stats.peerClosed = false) {halt : Halt}
      (deadline : ((session.moveTo .draining).sendEnd transport).drainDeadline = .error halt) :
      Finishes session (.error halt) ((session.moveTo .draining).sendEnd transport)
  | broke (open' : session.stats.peerClosed = false) {deadline : Nanos} {halt : Halt}
      {after : Session σ}
      (window : ((session.moveTo .draining).sendEnd transport).drainDeadline = .ok deadline)
      (collect : Collects transport deadline ((session.moveTo .draining).sendEnd transport)
        (.error halt) after) : Finishes session (.error halt) after
  | collected (open' : session.stats.peerClosed = false) {deadline : Nanos}
      {after : Session σ}
      (window : ((session.moveTo .draining).sendEnd transport).drainDeadline = .ok deadline)
      (collect : Collects transport deadline ((session.moveTo .draining).sendEnd transport)
        (.ok ()) after) : Finishes session (.ok ()) (after.close transport)

theorem finishes_finishCourse (fuel : Nat) {session : Session σ}
    (hphase : session.phase.isFinal = false) :
    Finishes transport session (session.finishCourse transport fuel).outcome
      (session.finishCourse transport fuel).session := by
  cases hclosed : session.stats.peerClosed with
  | true =>
    simp only [finishCourse, hphase, stats_moveTo, hclosed, Bool.false_eq_true, if_false, if_true]
    exact .cut hclosed
  | false =>
    cases hdeadline : ((session.moveTo .draining).sendEnd transport).drainDeadline with
    | error halt =>
      simp only [finishCourse, hphase, stats_moveTo, hclosed, Bool.false_eq_true, if_false,
        hdeadline]
      exact .overflow hclosed hdeadline
    | ok deadline =>
      have hcollect := collects_collectUntil transport deadline fuel
        ((session.moveTo .draining).sendEnd transport)
      simp only [finishCourse, hphase, stats_moveTo, hclosed, Bool.false_eq_true, if_false,
        hdeadline]
      rcases hcourse : collectUntil transport deadline fuel
        ((session.moveTo .draining).sendEnd transport) with ⟨halt | _, after⟩
      · rw [hcourse] at hcollect
        exact .broke hclosed hdeadline hcollect
      · rw [hcourse] at hcollect
        exact .collected hclosed hdeadline hcollect

/-! ## Running -/

/-- A whole session. -/
inductive Runs (session : Session σ) : Except Halt (Except Error Stats) → Session σ → Prop where
  | invalid {e : Error} (check : session.plan.check = .error e) (note : Note) :
      Runs session (.ok (.error e)) ((session.note note).close transport)
  | refused {opened : Session σ} {e : Error} (check : session.plan.check = .ok ())
      (opens : Opens transport session (.error e) opened) (note : Note) :
      Runs session (.ok (.error e)) ((opened.note note).close transport)
  | broke {opened after : Session σ} {handshake : Handshake} {halt : Halt}
      (check : session.plan.check = .ok ())
      (opens : Opens transport session (.ok handshake) opened)
      (streams : StreamsSource transport opened (.error halt) after) :
      Runs session (.error halt) after
  | unfinished {opened streamed after : Session σ} {handshake : Handshake}
      {result : Except Error Unit} {halt : Halt} (check : session.plan.check = .ok ())
      (opens : Opens transport session (.ok handshake) opened)
      (streams : StreamsSource transport opened (.ok result) streamed)
      (finishes : Finishes transport (streamed.endStreaming result) (.error halt) after) :
      Runs session (.error halt) after
  | finished {opened streamed after : Session σ} {handshake : Handshake}
      {result : Except Error Unit} (check : session.plan.check = .ok ())
      (opens : Opens transport session (.ok handshake) opened)
      (streams : StreamsSource transport opened (.ok result) streamed)
      (finishes : Finishes transport (streamed.endStreaming result) (.ok ()) after) :
      Runs session (.ok (.ok after.stats)) after

end SpeechProbe.Session
