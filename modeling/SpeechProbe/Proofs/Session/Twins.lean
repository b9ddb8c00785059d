import SpeechProbe.Session.Run

/-!
# Two sessions side by side

What a session does never depends on the capture that fills its queue, or on its own journal.
Two sessions that differ in nothing else are `Twins`, and this module goes through every part of
a session to show that twins stay twins and meet the same outcomes.

A capture is stopped by `Scene.release` alone.  Twins also say how often each capture was stopped
so far and whether the queue is closed, so a session that is its own twin shows that no other
part touches its capture.
-/

namespace SpeechProbe

/-- Whether the entry says that a capture was stopped. -/
def Entry.isCaptureStop : Entry → Bool
  | captureStopped => true
  | _ => false

/-- How often a capture was stopped. -/
def Journal.captureStops (entries : List Entry) : Nat := entries.countP Entry.isCaptureStop

/-- What twins need not share: the capture, and how often it was stopped. -/
structure Custody where
  capture : Option Capture
  stops : Nat

/-- The capture was handed out and stopped. -/
def Custody.relinquished (custody : Custody) : Custody := ⟨none, custody.stops + 1⟩

/-- The capture is there and running. -/
def Custody.Running (custody : Custody) : Prop :=
  ∃ capture, custody.capture = some capture ∧ capture.capturing = true

/-- A push leaves the queue open or closed as it was. -/
theorem HandoffQueue.closed_push (queue : HandoffQueue) (block : Chunk) :
    (queue.push block).2.closed = queue.closed := by
  unfold push
  split
  · rfl
  · split
    · rfl
    · split <;> rfl

namespace Scene

/-- Two scenes with live sources that differ in their captures and journals at most. -/
inductive Twins (closed : Bool) (left right : Custody) : Scene → Scene → Prop where
  | intro {clock : Nanos} {running : Bool} {coming : Schedule} {queue : HandoffQueue}
      {rate : UInt32} {journal journal' : Journal} (queue_closed : queue.closed = closed)
      (stops : Journal.captureStops journal.toList = left.stops)
      (stops' : Journal.captureStops journal'.toList = right.stops) :
      Twins closed left right
        ⟨clock, running, coming, .live ⟨queue, rate, left.capture⟩, journal⟩
        ⟨clock, running, coming, .live ⟨queue, rate, right.capture⟩, journal'⟩

namespace Twins

variable {closed : Bool} {left right : Custody} {scene scene' : Scene}

theorem clock_eq (h : Twins closed left right scene scene') : scene.clock = scene'.clock := by
  cases h
  rfl

theorem running_eq (h : Twins closed left right scene scene') :
    scene.running = scene'.running := by
  cases h
  rfl

theorem coming_eq (h : Twins closed left right scene scene') :
    scene.coming = scene'.coming := by
  cases h
  rfl

theorem rate_eq (h : Twins closed left right scene scene') :
    scene.source.rate = scene'.source.rate := by
  cases h
  rfl

theorem isSelfPaced_eq (h : Twins closed left right scene scene') :
    scene.source.isSelfPaced = scene'.source.isSelfPaced := by
  cases h
  rfl

theorem symm (h : Twins closed left right scene scene') :
    Twins closed right left scene' scene := by
  cases h with
  | intro queue_closed stops stops' => exact .intro queue_closed stops' stops

/-- The journals may grow apart. -/
theorem recordLeft (h : Twins closed left right scene scene') {entry : Entry}
    (hentry : entry.isCaptureStop = false) :
    Twins closed left right (scene.record entry) scene' := by
  cases h with
  | intro queue_closed stops stops' =>
    refine .intro queue_closed ?_ stops'
    simpa [Journal.captureStops, hentry] using stops

theorem record (h : Twins closed left right scene scene') {entry entry' : Entry}
    (hentry : entry.isCaptureStop = false) (hentry' : entry'.isCaptureStop = false) :
    Twins closed left right (scene.record entry) (scene'.record entry') :=
  ((h.recordLeft hentry).symm.recordLeft hentry').symm

/-! ## Waiting -/

theorem requestStop (h : Twins closed left right scene scene') :
    Twins closed left right scene.requestStop scene'.requestStop := by
  cases h with
  | intro queue_closed stops stops' => exact (intro queue_closed stops stops').record rfl rfl

theorem moveTo (h : Twins closed left right scene scene') (time : Nanos) :
    Twins closed left right (scene.moveTo time) (scene'.moveTo time) := by
  cases h with
  | intro queue_closed stops stops' => exact .intro queue_closed stops stops'

theorem happen (h : Twins closed left right scene scene') (happening : Happening) :
    Twins closed left right (scene.happen happening) (scene'.happen happening) := by
  cases happening with
  | push due samples =>
    cases h with
    | @intro _ _ _ queue rate _ _ queue_closed stops stops' =>
      have hclosed := (queue.closed_push ⟨samples, rate⟩).trans queue_closed
      exact (intro hclosed stops stops').record rfl rfl
  | dropProducer =>
    cases h with
    | intro queue_closed stops stops' => exact .intro queue_closed stops stops'
  | stop => exact h.requestStop

theorem step (h : Twins closed left right scene scene') (time : Nanos) (happening : Happening)
    (rest : Schedule) :
    Twins closed left right (scene.step time happening rest)
      (scene'.step time happening rest) := by
  cases h with
  | intro queue_closed stops stops' =>
    exact ((intro queue_closed stops stops').moveTo time).happen happening

theorem settleUntil (h : Twins closed left right scene scene') (time : Nanos)
    (coming : Schedule) :
    Twins closed left right (settleUntil time coming scene)
      (Scene.settleUntil time coming scene') := by
  induction coming generalizing scene scene' with
  | nil => exact h
  | cons next rest ih =>
    rw [Scene.settleUntil, Scene.settleUntil]
    split
    · exact ih (h.step next.1 next.2 rest)
    · exact h

theorem advanceTo (h : Twins closed left right scene scene') (time : Nanos) :
    Twins closed left right (scene.advanceTo time) (scene'.advanceTo time) := by
  rw [Scene.advanceTo, Scene.advanceTo, h.coming_eq]
  exact (h.settleUntil time _).moveTo time

theorem advance (h : Twins closed left right scene scene') (elapsed : Nanos) :
    Twins closed left right (scene.advance elapsed) (scene'.advance elapsed) := by
  rw [Scene.advance, Scene.advance, h.clock_eq]
  exact h.advanceTo _

theorem settle (h : Twins closed left right scene scene') :
    Twins closed left right scene.settle scene'.settle := by
  rw [Scene.settle, Scene.settle, h.clock_eq]
  exact h.advanceTo _

theorem untilStopped (h : Twins closed left right scene scene') (time : Nanos)
    (coming : Schedule) :
    Twins closed left right (untilStopped time coming scene)
      (Scene.untilStopped time coming scene') := by
  induction coming generalizing scene scene' with
  | nil =>
    rw [Scene.untilStopped, Scene.untilStopped, h.running_eq]
    split
    · exact h.moveTo time
    · exact h
  | cons next rest ih =>
    rw [Scene.untilStopped, Scene.untilStopped, h.running_eq]
    split
    · exact ih (h.step next.1 next.2 rest)
    · split
      · exact h.moveTo time
      · exact h.settle

theorem pace (h : Twins closed left right scene scene') (interval : Option Nanos)
    (sentAt : Nanos) :
    (scene.pace interval sentAt).1 = (scene'.pace interval sentAt).1 ∧
      Twins closed left right (scene.pace interval sentAt).2
        (scene'.pace interval sentAt).2 := by
  cases interval with
  | none => exact ⟨h.running_eq, h⟩
  | some interval =>
    have hwaited := h.untilStopped (sentAt + interval) scene.coming
    simp only [Scene.pace, waitUntil, ← h.running_eq, ← h.coming_eq]
    split
    · exact ⟨hwaited.running_eq, hwaited⟩
    · exact ⟨rfl, h⟩

/-! ## Fetching -/

theorem pop (h : Twins closed left right scene scene') :
    ∃ fetched popped popped', scene.pop = (fetched, popped) ∧ scene'.pop = (fetched, popped') ∧
      Twins closed left right popped popped' := by
  cases h with
  | @intro _ _ _ queue rate _ _ queue_closed stops stops' =>
    cases hwaiting : queue.waiting with
    | nil =>
      simp only [Scene.pop, LiveSource.pop, HandoffQueue.pop, hwaiting]
      split <;> exact ⟨_, _, _, rfl, rfl, .intro queue_closed stops stops'⟩
    | cons block rest =>
      simp only [Scene.pop, LiveSource.pop, HandoffQueue.pop, hwaiting, took]
      refine ⟨_, _, _, rfl, rfl, record ?_ rfl rfl⟩
      exact .intro queue_closed stops stops'

theorem giveUp (h : Twins closed left right scene scene') (limit : Option Nanos) :
    Twins closed left right (scene.giveUp limit) (scene'.giveUp limit) := by
  cases limit with
  | none => exact h
  | some time => exact h.moveTo time

theorem await (h : Twins closed left right scene scene') (limit : Option Nanos)
    (coming : Schedule) :
    (scene.await limit coming).1 = (scene'.await limit coming).1 ∧
      Twins closed left right (scene.await limit coming).2 (scene'.await limit coming).2 := by
  induction coming generalizing scene scene' with
  | nil =>
    obtain ⟨fetched, popped, popped', hpop, hpop', hpopped⟩ := h.pop
    rw [Scene.await, Scene.await, ← h.running_eq, hpop, hpop']
    split
    · exact ⟨rfl, h.settle⟩
    · cases fetched with
      | waiting => exact ⟨rfl, hpopped.giveUp limit⟩
      | chunk chunk => exact ⟨rfl, hpopped.settle⟩
      | ended => exact ⟨rfl, hpopped.settle⟩
  | cons next rest ih =>
    obtain ⟨fetched, popped, popped', hpop, hpop', hpopped⟩ := h.pop
    rw [Scene.await, Scene.await, ← h.running_eq, hpop, hpop']
    split
    · exact ⟨rfl, h.settle⟩
    · cases fetched with
      | waiting =>
        dsimp only
        split
        · exact ih (hpopped.step next.1 next.2 rest)
        · exact ⟨rfl, hpopped.giveUp limit⟩
      | chunk chunk => exact ⟨rfl, hpopped.settle⟩
      | ended => exact ⟨rfl, hpopped.settle⟩

/-- Both sources are live, so fetching from them is waiting for a block. -/
theorem fetch (h : Twins closed left right scene scene') (n : Nat) (limit : Option Nanos) :
    scene.fetch n limit = .ok (scene.await limit scene.coming) ∧
      scene'.fetch n limit = .ok (scene'.await limit scene.coming) := by
  cases h
  exact ⟨rfl, rfl⟩

/-! ## Releasing -/

/-- Releasing a running capture stops it, whatever it answers. -/
theorem release (h : Twins closed left right scene scene') (hleft : left.Running)
    (hright : right.Running) :
    Twins true left.relinquished right.relinquished scene.release scene'.release := by
  obtain ⟨capture, hcapture, hcapturing⟩ := hleft
  obtain ⟨capture', hcapture', hcapturing'⟩ := hright
  cases h with
  | @intro clock running coming queue rate journal journal' queue_closed stops stops' =>
    simp only [Scene.release, LiveSource.shutdown, hcapture, hcapture', hcapturing, hcapturing',
      if_true]
    have hreleased : Twins true left.relinquished right.relinquished
        (Scene.record ⟨clock, running, coming,
          .live ⟨queue.close, rate, left.relinquished.capture⟩, journal⟩ .captureStopped)
        (Scene.record ⟨clock, running, coming,
          .live ⟨queue.close, rate, right.relinquished.capture⟩, journal'⟩ .captureStopped) := by
      refine .intro rfl ?_ ?_
      · simpa [Journal.captureStops, Entry.isCaptureStop, Custody.relinquished] using stops
      · simpa [Journal.captureStops, Entry.isCaptureStop, Custody.relinquished] using stops'
    cases capture.stopFailure <;> cases capture'.stopFailure
    · exact hreleased
    · exact (hreleased.symm.recordLeft rfl).symm
    · exact hreleased.recordLeft rfl
    · exact hreleased.record rfl rfl

end Twins
end Scene

/-! ## Sessions -/

namespace Session

variable {σ : Type}

/-- Two sessions whose scenes are twins and which do not differ in anything else. -/
structure Twins (closed : Bool) (left right : Custody) (session session' : Session σ) : Prop where
  plan_eq : session.plan = session'.plan
  phase_eq : session.phase = session'.phase
  stats_eq : session.stats = session'.stats
  peer_eq : session.peer = session'.peer
  scene : Scene.Twins closed left right session.scene session'.scene

/-- Two steps with the same result that leave twins behind. -/
def TwinSteps {α : Type} (closed : Bool) (left right : Custody)
    (step step' : α × Session σ) : Prop :=
  step.1 = step'.1 ∧ Twins closed left right step.2 step'.2

theorem TwinSteps.exists {α : Type} {closed : Bool} {left right : Custody}
    {step step' : α × Session σ} (h : TwinSteps closed left right step step') :
    ∃ result session session', step = (result, session) ∧ step' = (result, session') ∧
      Twins closed left right session session' := by
  obtain ⟨hresult, htwins⟩ := h
  exact ⟨step.1, step.2, step'.2, rfl, Prod.ext hresult.symm rfl, htwins⟩

/-- Two parts with the same outcome that leave twins behind. -/
def TwinCourses {α : Type} (closed : Bool) (left right : Custody)
    (course course' : Course σ α) : Prop :=
  course.outcome = course'.outcome ∧ Twins closed left right course.session course'.session

section Parts

variable {closed : Bool} {left right : Custody} {session session' : Session σ}

/-- The next part of twins begins with twins. -/
theorem TwinCourses.andThen {α β : Type} {course course' : Course σ α}
    {next next' : α → Session σ → Course σ β} (h : TwinCourses closed left right course course')
    (hnext : ∀ outcome {session session'}, Twins closed left right session session' →
      TwinCourses closed left right (next outcome session) (next' outcome session')) :
    TwinCourses closed left right (course.andThen next) (course'.andThen next') := by
  rcases course with ⟨halt | outcome, session⟩ <;> rcases course' with ⟨halt' | outcome', session'⟩
  · obtain ⟨houtcome, htwins⟩ := h
    obtain rfl : halt = halt' := Except.error.inj houtcome
    exact ⟨rfl, htwins⟩
  · obtain ⟨houtcome, -⟩ := h
    simp at houtcome
  · obtain ⟨houtcome, -⟩ := h
    simp at houtcome
  · obtain ⟨houtcome, htwins⟩ := h
    obtain rfl : outcome = outcome' := Except.ok.inj houtcome
    exact hnext outcome htwins

namespace Twins

theorem clock_eq (h : Twins closed left right session session') :
    session.clock = session'.clock := h.scene.clock_eq

theorem running_eq (h : Twins closed left right session session') :
    session.running = session'.running := h.scene.running_eq

theorem record (h : Twins closed left right session session') {entry entry' : Entry}
    (hentry : entry.isCaptureStop = false) (hentry' : entry'.isCaptureStop = false) :
    Twins closed left right { session with scene := session.scene.record entry }
      { session' with scene := session'.scene.record entry' } :=
  ⟨h.plan_eq, h.phase_eq, h.stats_eq, h.peer_eq, h.scene.record hentry hentry'⟩

theorem note (h : Twins closed left right session session') (note note' : Note) :
    Twins closed left right (session.note note) (session'.note note') :=
  h.record rfl rfl

theorem tell (h : Twins closed left right session session') (call : Call) :
    Twins closed left right (session.tell call) (session'.tell call) :=
  h.record rfl rfl

theorem count (h : Twins closed left right session session') (f : Stats → Stats) :
    Twins closed left right (session.count f) (session'.count f) :=
  ⟨h.plan_eq, h.phase_eq, congrArg f h.stats_eq, h.peer_eq, h.scene⟩

theorem notePeerClosed (h : Twins closed left right session session') :
    Twins closed left right session.notePeerClosed session'.notePeerClosed :=
  h.count fun stats => { stats with peerClosed := true }

theorem moveTo (h : Twins closed left right session session') (next : Phase) :
    Twins closed left right (session.moveTo next) (session'.moveTo next) := by
  have hstats := congrArg (fun stats : Stats => { stats with finalPhase := next }) h.stats_eq
  unfold Session.moveTo
  rw [h.phase_eq]
  split
  · exact ⟨h.plan_eq, rfl, hstats, h.peer_eq, h.scene.record rfl rfl⟩
  · exact ⟨h.plan_eq, rfl, hstats, h.peer_eq, (h.scene.record rfl rfl).record rfl rfl⟩

theorem accept (h : Twins closed left right session session') (text : String) :
    Twins closed left right (session.accept text) (session'.accept text) := by
  unfold Session.accept
  split
  · exact ((h.count _).tell _).count _
  · exact ((h.count _).note _ _).count _

/-! ## Calls of the transport -/

theorem exchange {α : Type} (h : Twins closed left right session session')
    {entry : Nanos → Except Error α → Entry} (reply : Reply σ α)
    (hentry : ∀ elapsed result, (entry elapsed result).isCaptureStop = false) :
    TwinSteps closed left right (session.exchange entry reply)
      (session'.exchange entry reply) := by
  refine ⟨rfl, h.plan_eq, h.phase_eq, h.stats_eq, rfl, ?_⟩
  have hcalled := (h.scene.record (hentry reply.elapsed reply.result)
    (hentry reply.elapsed reply.result)).advance reply.elapsed
  unfold Session.exchange
  dsimp only
  split
  · exact hcalled.requestStop
  · exact hcalled

variable (transport : Transport σ)

theorem sendMessage (h : Twins closed left right session session') (message : Outbound) :
    TwinSteps closed left right (session.sendMessage transport message)
      (session'.sendMessage transport message) := by
  unfold Session.sendMessage
  rw [h.clock_eq, h.peer_eq]
  exact h.exchange _ fun _ _ => rfl

theorem sendAudio (h : Twins closed left right session session') (payload : Payload) :
    TwinSteps closed left right (session.sendAudio transport payload)
      (session'.sendAudio transport payload) := by
  unfold Session.sendAudio
  rw [h.clock_eq, h.peer_eq]
  exact h.exchange _ fun _ _ => rfl

theorem receive (h : Twins closed left right session session') (timeout : Nanos) :
    TwinSteps closed left right (session.receive transport timeout)
      (session'.receive transport timeout) := by
  unfold Session.receive
  rw [h.clock_eq, h.peer_eq]
  exact h.exchange _ fun _ _ => rfl

theorem closeTransport (h : Twins closed left right session session') :
    TwinSteps closed left right (session.closeTransport transport)
      (session'.closeTransport transport) := by
  unfold Session.closeTransport
  rw [h.clock_eq, h.peer_eq]
  exact h.exchange _ fun _ _ => rfl

/-! ## Draining and streaming -/

theorem drainAfter (h : Twins closed left right session session') (fuel frames : Nat) :
    TwinCourses closed left right (drainAfter transport fuel frames session)
      (Session.drainAfter transport fuel frames session') := by
  induction fuel generalizing frames session session' with
  | zero => exact ⟨rfl, h⟩
  | succ fuel ih =>
    obtain ⟨result, received, received', hreceive, hreceive', hreceived⟩ :=
      (h.receive transport session.plan.pollTimeout).exists
    rw [Session.drainAfter, Session.drainAfter, ← h.plan_eq, hreceive, hreceive']
    rcases result with e | text | _ | _
    · exact ⟨rfl, hreceived⟩
    · exact ih (hreceived.accept text) (frames + 1)
    · exact ⟨rfl, hreceived⟩
    · exact ⟨rfl, hreceived.notePeerClosed⟩

theorem drainCourse (h : Twins closed left right session session') (fuel : Nat) :
    TwinCourses closed left right (session.drainCourse transport fuel)
      (session'.drainCourse transport fuel) :=
  h.drainAfter transport fuel 0

theorem sendChunk (h : Twins closed left right session session') (chunk : Chunk) :
    TwinSteps closed left right (session.sendChunk transport chunk)
      (session'.sendChunk transport chunk) := by
  obtain ⟨result, sent, sent', hsend, hsend', hsent⟩ :=
    (h.sendAudio transport chunk.payload).exists
  rw [Session.sendChunk, Session.sendChunk, hsend, hsend']
  cases result with
  | error e => exact ⟨rfl, hsent⟩
  | ok _ => exact ⟨rfl, hsent.count (·.countSent chunk.payload.length chunk.seconds)⟩

theorem pace (h : Twins closed left right session session') (sentAt : Nanos) :
    TwinSteps closed left right (session.pace sentAt) (session'.pace sentAt) := by
  have hinterval : session.interval = session'.interval := by
    rw [interval, interval, h.scene.isSelfPaced_eq, h.plan_eq]
  obtain ⟨hgoesOn, hpaced⟩ := h.scene.pace session.interval sentAt
  rw [Session.pace, Session.pace, ← hinterval]
  exact ⟨hgoesOn, h.plan_eq, h.phase_eq, h.stats_eq, h.peer_eq, hpaced⟩

theorem nextAudio (h : Twins closed left right session session') (n : Nat) :
    TwinCourses closed left right (session.nextAudio n) (session'.nextAudio n) := by
  obtain ⟨hfetch, hfetch'⟩ := h.scene.fetch n none
  obtain ⟨hfetched, hawaited⟩ := h.scene.await none session.scene.coming
  rw [Session.nextAudio, Session.nextAudio, hfetch, hfetch']
  rcases hawait : session.scene.await none session.scene.coming with ⟨fetched, awaited⟩
  rcases hawait' : session'.scene.await none session.scene.coming with ⟨fetched', awaited'⟩
  rw [hawait, hawait'] at hfetched hawaited
  obtain rfl : fetched = fetched' := hfetched
  have htwins : Twins closed left right { session with scene := awaited }
      { session' with scene := awaited' } :=
    ⟨h.plan_eq, h.phase_eq, h.stats_eq, h.peer_eq, hawaited⟩
  cases fetched <;> exact ⟨rfl, htwins⟩

theorem deliver (h : Twins closed left right session session') (fuel : Nat) (chunk : Chunk) :
    TwinCourses closed left right (session.deliver transport fuel chunk)
      (session'.deliver transport fuel chunk) := by
  obtain ⟨result, sent, sent', hsend, hsend', hsent⟩ := (h.sendChunk transport chunk).exists
  rw [Session.deliver, Session.deliver, ← h.clock_eq, hsend, hsend']
  cases result with
  | error e => exact ⟨rfl, hsent⟩
  | ok _ =>
    refine (hsent.drainCourse transport fuel).andThen ?_
    intro drained drainedSession drainedSession' hdrained
    rcases drained with e | frames | frames
    · exact ⟨rfl, hdrained⟩
    · obtain ⟨goesOn, paced, paced', hpace, hpace', hpaced⟩ :=
        (hdrained.pace session.clock).exists
      dsimp only
      rw [hpace, hpace']
      cases goesOn <;> exact ⟨rfl, hpaced⟩
    · exact ⟨rfl, hdrained⟩

theorem round (h : Twins closed left right session session') (n fuel : Nat) :
    TwinCourses closed left right (session.round transport n fuel)
      (session'.round transport n fuel) := by
  rw [Session.round, Session.round, ← h.running_eq]
  split
  · exact ⟨rfl, h⟩
  · refine (h.nextAudio n).andThen ?_
    intro next fetched fetched' hfetched
    cases next with
    | none => exact ⟨rfl, hfetched⟩
    | some chunk =>
      dsimp only
      rw [← hfetched.running_eq]
      split
      · exact ⟨rfl, hfetched⟩
      · split
        · exact ⟨rfl, hfetched⟩
        · exact hfetched.deliver transport fuel chunk

theorem sendChunks (h : Twins closed left right session session') (n fuel : Nat) :
    TwinCourses closed left right (sendChunks transport n fuel session)
      (Session.sendChunks transport n fuel session') := by
  induction fuel generalizing session session' with
  | zero => exact ⟨rfl, h⟩
  | succ fuel ih =>
    rw [Session.sendChunks, Session.sendChunks]
    refine (h.round transport n fuel).andThen ?_
    intro ending next next' hnext
    cases ending with
    | none => exact ih hnext
    | some result => exact ⟨rfl, hnext⟩

theorem streamCourse (h : Twins closed left right session session') (fuel : Nat) :
    TwinCourses closed left right (session.streamCourse transport fuel)
      (session'.streamCourse transport fuel) := by
  have hmoved := h.moveTo .streaming
  simp only [Session.streamCourse, hmoved.plan_eq, hmoved.scene.rate_eq]
  split
  · exact ⟨rfl, hmoved⟩
  · exact hmoved.sendChunks transport _ fuel

/-! ## Opening and closing -/

theorem acceptFirst (h : Twins closed left right session session') (received : Received) :
    TwinSteps closed left right (session.acceptFirst received)
      (session'.acceptFirst received) := by
  cases received with
  | text text =>
    unfold Session.acceptFirst
    dsimp only
    split
    · exact ⟨rfl, ((h.count _).count _).tell _⟩
    · rw [acceptOther, acceptOther, ← (h.count Stats.countReceived).plan_eq]
      split
      · exact ⟨rfl, h.count _⟩
      · exact ⟨rfl, (((h.count _).note _ _).count _).tell _⟩
    · rw [acceptUndecodable, acceptUndecodable, ← (h.count Stats.countReceived).plan_eq]
      split
      · exact ⟨rfl, h.count _⟩
      · exact ⟨rfl, ((h.count _).note _ _).count _⟩
  | timeout =>
    unfold Session.acceptFirst acceptSilence
    dsimp only
    rw [← h.plan_eq]
    split
    · exact ⟨rfl, h⟩
    · exact ⟨rfl, h.note _ _⟩
  | closed => exact ⟨rfl, h.notePeerClosed⟩

theorem configure (h : Twins closed left right session session') :
    TwinSteps closed left right (session.configure transport)
      (session'.configure transport) := by
  have hmoved := h.moveTo .configuring
  unfold Session.configure
  dsimp only
  rw [← hmoved.plan_eq]
  obtain ⟨result, sent, sent', hsend, hsend', hsent⟩ := (hmoved.sendMessage transport
    (.config (session.moveTo .configuring).plan.announcement)).exists
  rw [hsend, hsend']
  cases result with
  | error e => exact ⟨rfl, hsent⟩
  | ok _ =>
    obtain ⟨result, answered, answered', hreceive, hreceive', hanswered⟩ :=
      (hsent.receive transport sent.plan.handshakeTimeout).exists
    dsimp only
    rw [← hsent.plan_eq, hreceive, hreceive']
    cases result with
    | error e => exact ⟨rfl, hanswered⟩
    | ok received =>
      obtain ⟨result, accepted, accepted', haccept, haccept', haccepted⟩ :=
        (hanswered.acceptFirst received).exists
      dsimp only
      rw [haccept, haccept']
      cases result with
      | error e => exact ⟨rfl, haccepted⟩
      | ok handshake =>
        exact ⟨rfl, haccepted.count fun stats => { stats with handshake := handshake }⟩

theorem close (h : Twins closed left right session session') :
    Twins closed left right (session.close transport) (session'.close transport) := by
  unfold Session.close
  rw [h.phase_eq]
  split
  · exact h
  · obtain ⟨result, closing, closing', hclose, hclose', hclosed⟩ :=
      (h.closeTransport transport).exists
    rw [hclose, hclose']
    cases result with
    | error e => exact (hclosed.note _ _).moveTo .closed
    | ok _ => exact hclosed.moveTo .closed

theorem sendEnd (h : Twins closed left right session session') :
    Twins closed left right (session.sendEnd transport) (session'.sendEnd transport) := by
  obtain ⟨result, sent, sent', hsend, hsend', hsent⟩ :=
    (h.sendMessage transport .finished).exists
  rw [Session.sendEnd, Session.sendEnd, hsend, hsend']
  cases result with
  | error e => exact hsent.note _ _
  | ok _ => exact hsent.count _

theorem rest (h : Twins closed left right session session') (deadline : Nanos) :
    Twins closed left right (session.rest deadline) (session'.rest deadline) := by
  unfold Session.rest
  rw [h.clock_eq, h.plan_eq]
  exact ⟨rfl, h.phase_eq, h.stats_eq, h.peer_eq, h.scene.advance _⟩

theorem collectUntil (h : Twins closed left right session session') (deadline : Nanos)
    (fuel : Nat) :
    TwinCourses closed left right (collectUntil transport deadline fuel session)
      (Session.collectUntil transport deadline fuel session') := by
  induction fuel generalizing session session' with
  | zero => exact ⟨rfl, h⟩
  | succ fuel ih =>
    rw [Session.collectUntil, Session.collectUntil, ← h.clock_eq]
    split
    · exact ⟨rfl, h⟩
    · have hlooked : TwinCourses closed left right (session.look transport deadline fuel)
          (session'.look transport deadline fuel) := by
        refine (h.drainCourse transport fuel).andThen ?_
        intro drained drainedSession drainedSession' hdrained
        rcases drained with e | frames | frames
        · exact ⟨rfl, hdrained.note _ _⟩
        · exact ⟨rfl, hdrained.rest deadline⟩
        · exact ⟨rfl, hdrained⟩
      refine hlooked.andThen ?_
      intro again next next' hnext
      cases again with
      | false => exact ⟨rfl, hnext⟩
      | true => exact ih hnext

theorem finishCourse (h : Twins closed left right session session') (fuel : Nat) :
    TwinCourses closed left right (session.finishCourse transport fuel)
      (session'.finishCourse transport fuel) := by
  have hmoved := h.moveTo .draining
  have hsent := hmoved.sendEnd transport
  have hdeadline : ((session.moveTo .draining).sendEnd transport).drainDeadline =
      ((session'.moveTo .draining).sendEnd transport).drainDeadline := by
    rw [drainDeadline, drainDeadline, hsent.clock_eq, hsent.plan_eq]
  unfold Session.finishCourse
  dsimp only
  rw [h.phase_eq, hmoved.stats_eq, hdeadline]
  split
  · exact ⟨rfl, h⟩
  · split
    · exact ⟨rfl, hmoved.close transport⟩
    · split
      · exact ⟨rfl, hsent⟩
      · refine (hsent.collectUntil transport _ fuel).andThen ?_
        intro _ collected collected' hcollected
        exact ⟨rfl, hcollected.close transport⟩

/-! ## The whole session -/

/-- Once audio was streamed, a running capture is stopped. -/
theorem endStreaming (h : Twins closed left right session session') (hleft : left.Running)
    (hright : right.Running) (streamed : Except Error Unit) :
    Twins true left.relinquished right.relinquished (session.endStreaming streamed)
      (session'.endStreaming streamed) := by
  have hreleased : Twins true left.relinquished right.relinquished session.releaseSource
      session'.releaseSource :=
    ⟨h.plan_eq, h.phase_eq, h.stats_eq, h.peer_eq, h.scene.release hleft hright⟩
  cases streamed with
  | ok _ => exact hreleased
  | error e =>
    have hnoted := hreleased.note (.error ("Streaming aborted: " ++ e.message))
      (.error ("Streaming aborted: " ++ e.message))
    exact hnoted.count fun stats =>
      { stats with
        peerClosed := stats.peerClosed || decide (e = .closedByPeer)
        streamError := some e.message }

end Twins
end Parts
end Session
end SpeechProbe
