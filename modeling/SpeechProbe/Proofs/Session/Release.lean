import SpeechProbe.Proofs.Session.Conversation
import SpeechProbe.Proofs.Session.Twins

/-!
# Release of the capture

A session over live audio owns the capture that fills its queue.  `run_release` says what is left
of the capture when the session returns: once audio was to be streamed, the capture was stopped
once and for all and the queue is closed, whatever went wrong on the way.  A session that could
not be opened returns before that, and its capture is still running.  What stopping leads to is
logged and does not show in the result.
-/

namespace SpeechProbe

/-- The scene, but with a capture that answers as given when it is stopped. -/
def Scene.withStopFailure (scene : Scene) (failure : Option Error) : Scene :=
  { scene with
    source := scene.source.mapLive fun live =>
      { live with capture := live.capture.map fun capture =>
          { capture with stopFailure := failure } } }

namespace Session

variable {σ : Type} (transport : Transport σ)

/-! ## What becomes of twins -/

section Twins

variable {closed : Bool} {left right : Custody} {session session' : Session σ}

/-- The ends of two sessions with the same outcome: their captures were stopped, unless they could
not be opened. -/
structure TwinRuns (closed : Bool) (left right : Custody)
    (course course' : Course σ (Except Error Stats)) : Prop where
  outcome_eq : course.outcome = course'.outcome
  unopened : ∀ e, course.outcome = .ok (.error e) →
    Twins closed left right course.session course'.session
  opened : ∀ stats, course.outcome = .ok (.ok stats) →
    Twins true left.relinquished right.relinquished course.session course'.session

/-- A session that only has its report left to give does not fail. -/
theorem report_ne_error (session : Session σ) (fuel : Nat) (e : Error) :
    ((session.finishCourse transport fuel).andThen fun _ session =>
      .done (.ok session.stats : Except Error Stats) session).outcome ≠ .ok (.error e) := by
  rcases session.finishCourse transport fuel with ⟨halt | _, finished⟩ <;>
    simp [Course.andThen, Course.done, Course.halted]

/-- A session that breaks off is not looked at any more. -/
theorem twinRuns_halted (halt : Halt) (session session' : Session σ) :
    TwinRuns closed left right (.halted halt session) (.halted halt session') where
  outcome_eq := rfl
  unopened := by simp [Course.halted]
  opened := by simp [Course.halted]

namespace Twins

theorem abandon (h : Twins closed left right session session') (what : String) (e : Error) :
    TwinRuns closed left right (session.abandon transport what e)
      (session'.abandon transport what e) where
  outcome_eq := rfl
  unopened := fun _ _ => (h.note _ _).close transport
  opened := by simp [Session.abandon, Course.done]

/-- A session whose capture is gone is finished like its twin, and its report is the same. -/
theorem report (h : Twins closed left right session session') (fuel : Nat) :
    TwinCourses closed left right
      ((session.finishCourse transport fuel).andThen fun _ session =>
        .done (.ok session.stats : Except Error Stats) session)
      ((session'.finishCourse transport fuel).andThen fun _ session =>
        .done (.ok session.stats : Except Error Stats) session) := by
  refine (h.finishCourse transport fuel).andThen ?_
  intro _ finished finished' hfinished
  exact ⟨congrArg (fun stats => Except.ok (Except.ok stats)) hfinished.stats_eq, hfinished⟩

/-- Sessions with running captures have the same outcome, whatever their captures are. -/
theorem runCourse (h : Twins closed left right session session') (hleft : left.Running)
    (hright : right.Running) (fuel : Nat) :
    TwinRuns closed left right (session.runCourse transport fuel)
      (session'.runCourse transport fuel) := by
  rw [Session.runCourse, Session.runCourse, ← h.plan_eq]
  cases session.plan.check with
  | error e => exact h.abandon transport _ e
  | ok _ =>
    obtain ⟨result, opened, opened', hconfigure, hconfigure', hopened⟩ :=
      (h.configure transport).exists
    dsimp only
    rw [hconfigure, hconfigure']
    cases result with
    | error e => exact hopened.abandon transport _ e
    | ok handshake =>
      obtain ⟨houtcome, hstreamed⟩ := hopened.streamCourse transport fuel
      dsimp only
      rcases hstream : opened.streamCourse transport fuel with ⟨halt | streamed, after⟩
      all_goals
        rcases hstream' : opened'.streamCourse transport fuel with ⟨outcome', after'⟩
        rw [hstream, hstream'] at houtcome hstreamed
        obtain rfl := houtcome
      · exact twinRuns_halted halt after after'
      · obtain ⟨hreport, htwins⟩ :=
          (hstreamed.endStreaming hleft hright streamed).report transport fuel
        refine ⟨hreport, fun e he => ?_, fun _ _ => htwins⟩
        exact absurd he (report_ne_error transport _ fuel e)

end Twins
end Twins

end Session

/-! ## What is left of the capture -/

/-- A closed queue refuses every block with samples. -/
theorem LiveSource.push_closed {source : LiveSource} (hclosed : source.queue.closed = true)
    {samples : List Sample} (hsamples : samples ≠ []) :
    source.push samples = (.closed, source) := by
  have hempty : Chunk.isEmpty ⟨samples, source.rate⟩ = false := by
    cases samples with
    | nil => exact absurd rfl hsamples
    | cons sample rest => rfl
  simp [push, HandoffQueue.push, hempty, hclosed]

namespace Scene

/-- Between two moments the capture was stopped, once and for all: no block is taken any more, and
releasing the source again any number of times changes nothing. -/
structure Released (before after : Scene) (entries : List Entry) (left : LiveSource) : Prop where
  entries_eq : after.entries = before.entries ++ entries
  source_eq : after.source = .live left
  stopped_once : Journal.captureStops entries = 1
  capture_eq : left.capture = none
  push_eq : ∀ samples, samples ≠ [] → left.push samples = (.closed, left)
  release_eq : ∀ times, Nat.repeat release times after = after

/-- Between two moments the capture went on: the source still holds it, and it is stopped only
when the source is released. -/
structure KeepsCapture (capture : Capture) (before after : Scene) (entries : List Entry)
    (left : LiveSource) : Prop where
  entries_eq : after.entries = before.entries ++ entries
  source_eq : after.source = .live left
  not_stopped : Journal.captureStops entries = 0
  capture_eq : left.capture = some capture
  closed_eq : ∀ source, before.source = .live source → left.queue.closed = source.queue.closed
  stops_release : Journal.captureStops after.release.entries =
    Journal.captureStops after.entries + 1

/-- What twins say of one of them. -/
theorem Twins.spec {closed : Bool} {left right : Custody} {scene scene' : Scene}
    (h : Twins closed left right scene scene') :
    ∃ live, scene.source = .live live ∧ live.capture = left.capture ∧
      live.queue.closed = closed ∧ Journal.captureStops scene.entries = left.stops := by
  cases h with
  | intro queue_closed stops stops' => exact ⟨_, rfl, rfl, queue_closed, stops⟩

/-- A source without a capture and with a closed queue has nothing to release. -/
theorem release_eq_self {scene : Scene} {left : LiveSource} (hsource : scene.source = .live left)
    (hcapture : left.capture = none) (hclosed : left.queue.closed = true) :
    scene.release = scene := by
  obtain ⟨clock, running, coming, held, journal⟩ := scene
  obtain ⟨⟨capacity, waiting, producers, closed⟩, rate, capture⟩ := left
  obtain rfl := hsource
  obtain rfl := hcapture
  obtain rfl := hclosed
  rfl

theorem captureStops_of_append {before after : Scene} {entries : List Entry}
    (h : after.entries = before.entries ++ entries) :
    Journal.captureStops after.entries =
      Journal.captureStops before.entries + Journal.captureStops entries := by
  rw [h]
  exact List.countP_append

/-- A scene whose capture was stopped since the beginning has nothing left to release. -/
theorem Twins.released {before after after' : Scene} {entries : List Entry} {right : Custody}
    {capture : Option Capture}
    (h : Twins true (Custody.relinquished ⟨capture, Journal.captureStops before.entries⟩) right
      after after') (hentries : after.entries = before.entries ++ entries) :
    ∃ left, Released before after entries left := by
  obtain ⟨left, hleft, hnone, hclosed, hcount⟩ := h.spec
  have honce : Journal.captureStops entries = 1 :=
    Nat.add_left_cancel ((captureStops_of_append hentries).symm.trans hcount)
  refine ⟨left, hentries, hleft, honce, hnone, ?_, fun times => ?_⟩
  · exact fun samples hsamples => left.push_closed hclosed hsamples
  · induction times with
    | zero => rfl
    | succ times ih => rw [Nat.repeat, ih, release_eq_self hleft hnone hclosed]

/-- A scene whose running capture was not stopped still has to release it. -/
theorem Twins.keepsCapture {before after after' : Scene} {entries : List Entry} {right : Custody}
    {source : LiveSource} {capture : Capture} (hsource : before.source = .live source)
    (h : Twins source.queue.closed ⟨some capture, Journal.captureStops before.entries⟩ right
      after after') (hcapturing : capture.capturing = true) (hright : right.Running)
    (hentries : after.entries = before.entries ++ entries) :
    ∃ left, KeepsCapture capture before after entries left := by
  obtain ⟨left, hleft, hkept, hclosed, hcount⟩ := h.spec
  obtain ⟨-, -, -, -, hreleased⟩ := (h.release ⟨capture, rfl, hcapturing⟩ hright).spec
  have hnone : Journal.captureStops entries = 0 :=
    Nat.add_left_cancel ((captureStops_of_append hentries).symm.trans hcount)
  refine ⟨left, hentries, hleft, hnone, hkept, fun source' hsource' => ?_, ?_⟩
  · obtain rfl : source = source' := Source.live.inj (hsource.symm.trans hsource')
    exact hclosed
  · rw [hreleased, hcount]
    rfl

end Scene

namespace Session

variable {σ : Type} {transport : Transport σ}

/-- A session over live audio is its own twin, whatever its capture answers when it is stopped. -/
theorem twins_withStopFailure (plan : SessionPlan) {scene : Scene} (peer : σ)
    {source : LiveSource} {capture : Capture} (hsource : scene.source = .live source)
    (hcapture : source.capture = some capture) (failure : Option Error) :
    Twins source.queue.closed ⟨some capture, Journal.captureStops scene.entries⟩
      ⟨some { capture with stopFailure := failure }, Journal.captureStops scene.entries⟩
      (start plan scene peer) (start plan (scene.withStopFailure failure) peer) := by
  refine ⟨rfl, rfl, rfl, rfl, ?_⟩
  obtain ⟨clock, running, coming, held, journal⟩ := scene
  obtain ⟨queue, rate, held⟩ := source
  obtain rfl := hsource
  obtain rfl := hcapture
  exact .intro rfl rfl rfl

/-- What is left of a running capture when a session over it returns.

If streaming began, the capture was stopped once and for all, whatever the session met with.  If
the session could not be opened, the capture goes on.  What the capture answers when it is
stopped changes nothing in the result. -/
theorem run_release {plan : SessionPlan} {scene : Scene} {peer : σ} {fuel : Nat}
    {result : Except Error Stats} {after : Session σ} {source : LiveSource} {capture : Capture}
    (hsource : scene.source = .live source) (hcapture : source.capture = some capture)
    (hcapturing : capture.capturing = true)
    (h : (start plan scene peer).run transport fuel = .ok (result, after)) :
    (∃ entries left, match result with
      | .ok _ => Scene.Released scene after.scene entries left
      | .error _ => Scene.KeepsCapture capture scene after.scene entries left) ∧
    ∀ failure, ((start plan (scene.withStopFailure failure) peer).run transport fuel).map Prod.fst =
      .ok result := by
  have hrunning : ∀ failure, Custody.Running
      ⟨some { capture with stopFailure := failure }, Journal.captureStops scene.entries⟩ :=
    fun failure => ⟨_, rfl, hcapturing⟩
  have hruns := fun failure =>
    (twins_withStopFailure plan peer hsource hcapture failure).runCourse transport
      ⟨capture, rfl, hcapturing⟩ (hrunning failure) fuel
  have hcourse := runCourse_of_run transport h
  rw [hcourse] at hruns
  refine ⟨?_, fun failure => ?_⟩
  · obtain ⟨entries, hgrows⟩ := (runs_of_run transport h).grows
    refine ⟨entries, ?_⟩
    cases result with
    | ok stats =>
      exact ((hruns capture.stopFailure).opened stats rfl).scene.released hgrows.entries_eq
    | error e =>
      exact ((hruns capture.stopFailure).unopened e rfl).scene.keepsCapture hsource hcapturing
        (hrunning _) hgrows.entries_eq
  · have houtcome : .ok result = ((start plan (scene.withStopFailure failure) peer).runCourse
        transport fuel).outcome := (hruns failure).outcome_eq
    unfold run
    rcases hcourse' : (start plan (scene.withStopFailure failure) peer).runCourse transport fuel
      with ⟨outcome, after'⟩
    rw [hcourse'] at houtcome
    subst houtcome
    rfl

end Session

/-- A capture that delivered one block and fails when it is stopped. -/
def Capture.unruly : Capture := ⟨"microphone", true, some (.capture "gone")⟩

/-- Audio from the unruly capture. -/
def Scene.microphone : Scene := .ofCapture .unruly 16000 [⟨[⟨0⟩], 16000⟩] 0

/-- What is left of the unruly capture after a session with a talkative peer. -/
theorem run_release_microphone :
    Scene.microphone.source = .live (.ofCapture .unruly 16000 [⟨[⟨0⟩], 16000⟩] 0) ∧
      Capture.unruly.capturing = true ∧
      ∃ stats after, (Session.start .brief .microphone (.ofScript .talkative)).run
          Rehearsal.transport 20 = .ok (.ok stats, after) ∧
        (∃ entries left, Scene.Released .microphone after.scene entries left) ∧
        ∀ failure, ((Session.start .brief (Scene.microphone.withStopFailure failure)
          (.ofScript .talkative)).run Rehearsal.transport 20).map Prod.fst = .ok (.ok stats) := by
  have hreturns : Session.endsWith (fun _ _ => true)
      ((Session.start .brief .microphone (.ofScript .talkative)).run Rehearsal.transport 20) =
        true := by
    decide +kernel
  obtain ⟨stats, after, hrun, -⟩ := Session.exists_of_endsWith hreturns
  exact ⟨rfl, rfl, stats, after, hrun, Session.run_release rfl rfl rfl hrun⟩

/-- A plan whose chunks have no duration. -/
def SessionPlan.unstreamable : SessionPlan := { SessionPlan.brief with chunkMs := 0 }

/-- A session that cannot be opened returns and leaves its capture running and its queue open. -/
theorem unopened_microphone :
    ∃ e after left, (Session.start .unstreamable .microphone (.ofScript .talkative)).run
        Rehearsal.transport 20 = .ok (.error e, after) ∧
      Journal.captureStops after.scene.entries = 0 ∧ after.scene.source = .live left ∧
      left.capture = some .unruly ∧ left.queue.closed = false :=
  ⟨_, _, _, rfl, by decide +kernel, rfl, rfl, rfl⟩

end SpeechProbe
