import SpeechProbe.Session.Closing
import SpeechProbe.Session.Opening
import SpeechProbe.Session.Streaming

/-!
# Running a session

Open, stream, close.  A session that cannot be opened is closed and fails; once audio
is streamed, whatever goes wrong is kept in the counters and the session is brought
to its end in good order.
-/

namespace SpeechProbe.Session

variable {σ : Type}

/-- Close and fail. -/
def abandon (transport : Transport σ) (session : Session σ) (what : String) (e : Error) :
    Course σ (Except Error Stats) :=
  .done (.error e) ((session.note (.error (what ++ ": " ++ e.message))).close transport)

/-- Keep why streaming stopped early. -/
def keepFailure (session : Session σ) (e : Error) : Session σ :=
  (session.note (.error ("Streaming aborted: " ++ e.message))).count fun stats =>
    { stats with
      peerClosed := stats.peerClosed || decide (e = .closedByPeer)
      streamError := some e.message }

/-- Release the source. -/
def releaseSource (session : Session σ) : Session σ :=
  { session with scene := session.scene.release }

/-- Streaming is over: the source is released, and a failure kept. -/
def endStreaming (session : Session σ) (streamed : Except Error Unit) : Session σ :=
  match streamed with
  | .ok () => session.releaseSource
  | .error e => session.releaseSource.keepFailure e

/-- Carry out the whole session. -/
def runCourse (transport : Transport σ) (fuel : Nat) (session : Session σ) :
    Course σ (Except Error Stats) :=
  match session.plan.check with
  | .error e => session.abandon transport "Invalid session config" e
  | .ok () =>
    match session.configure transport with
    | (.error e, session) => session.abandon transport "Handshake failed" e
    | (.ok _, session) =>
      (session.streamCourse transport fuel).andThen fun streamed session =>
        ((session.endStreaming streamed).finishCourse transport fuel).andThen fun _ session =>
          .done (.ok session.stats) session

/-- Carry out the whole session, as a caller sees it. -/
def run (transport : Transport σ) (fuel : Nat) (session : Session σ) :
    Except Halt (Except Error Stats × Session σ) :=
  (session.runCourse transport fuel).returned

end SpeechProbe.Session
