import SpeechProbe.Session.Draining

/-!
# Closing a session

The end mark goes out, trailing results are collected for the drain window, and the
connection is closed whatever went wrong before.
-/

namespace SpeechProbe.Session

variable {σ : Type}

/-- Close the transport, unless that was done before. -/
def close (transport : Transport σ) (session : Session σ) : Session σ :=
  if session.phase.isFinal then session
  else
    match session.closeTransport transport with
    | (.ok (), session) => session.moveTo .closed
    | (.error e, session) =>
      (session.note (.warn ("Error while closing connection: " ++ e.message))).moveTo .closed

/-- Send the end mark.  A failure is logged. -/
def sendEnd (transport : Transport σ) (session : Session σ) : Session σ :=
  match session.sendMessage transport .finished with
  | (.ok (), session) => session.count fun stats => { stats with endSent := true }
  | (.error e, session) => session.note (.warn ("Failed to send end: " ++ e.message))

/-- Pause after a look, but not beyond the deadline. -/
def rest (session : Session σ) (deadline : Nanos) : Session σ :=
  { session with
    scene := session.scene.advance (min (deadline - session.clock) session.plan.pollInterval) }

/-- One look for messages, and the pause after it.  Whether another look may follow. -/
def look (transport : Transport σ) (deadline : Nanos) (fuel : Nat) (session : Session σ) :
    Course σ Bool :=
  (session.drainCourse transport fuel).andThen fun drained session =>
    match drained with
    | .error e => .done false (session.note (.warn ("Drain failed: " ++ e.message)))
    | .ok (.closed _) => .done false session
    | .ok (.dry _) => .done true (session.rest deadline)

/-- Collect messages until the deadline, with a pause after each look. -/
def collectUntil (transport : Transport σ) (deadline : Nanos) :
    Nat → Session σ → Course σ Unit
  | 0, session => .halted .outOfSteps session
  | fuel + 1, session =>
    if deadline ≤ session.clock then .done () session
    else
      (session.look transport deadline fuel).andThen fun again session =>
        if again then collectUntil transport deadline fuel session else .done () session

/-- The largest count of whole seconds a clock can hold, plus one. -/
def clockSeconds : Nat := 9223372036854775808

/-- When the drain window ends, if a clock can hold that time. -/
def drainDeadline (session : Session σ) : Except Halt Nanos :=
  let deadline := session.clock + session.plan.drainWindow
  if clockSeconds ≤ deadline / Nanos.perSecond then .error .clockOverflow else .ok deadline

/-- Send the end mark, collect trailing results, close.  After the peer has closed
there is nothing to send or collect. -/
def finishCourse (transport : Transport σ) (fuel : Nat) (session : Session σ) :
    Course σ Unit :=
  if session.phase.isFinal then .done () session
  else
    let session := session.moveTo .draining
    if session.stats.peerClosed then .done () (session.close transport)
    else
      let session := session.sendEnd transport
      match session.drainDeadline with
      | .error halt => .halted halt session
      | .ok deadline =>
        (collectUntil transport deadline fuel session).andThen fun _ session =>
          .done () (session.close transport)

/-- Bring the session to its end, as a caller sees it. -/
def finish (transport : Transport σ) (fuel : Nat) (session : Session σ) :
    Except Halt (Session σ) :=
  (session.finishCourse transport fuel).returned.map Prod.snd

end SpeechProbe.Session
