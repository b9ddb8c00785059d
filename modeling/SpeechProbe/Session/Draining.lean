import SpeechProbe.Halt
import SpeechProbe.Session.Basic

/-!
# Collecting waiting messages

A drain takes text frames until none is waiting.  It ends only when the transport
says so, therefore it is given a step allowance.
-/

namespace SpeechProbe

/-- How a drain ended, and after how many text frames. -/
inductive Drained where
  /-- Nothing more was waiting. -/
  | dry (frames : Nat)
  /-- The peer closed the connection. -/
  | closed (frames : Nat)
  deriving DecidableEq, Repr, Inhabited

namespace Session

variable {σ : Type}

/-- The peer has closed the connection. -/
def notePeerClosed (session : Session σ) : Session σ :=
  session.count fun stats => { stats with peerClosed := true }

/-- Take text frames until a receive gives none; `frames` were taken before. -/
def drainAfter (transport : Transport σ) :
    Nat → Nat → Session σ → Course σ (Except Error Drained)
  | 0, _, session => .halted .outOfSteps session
  | fuel + 1, frames, session =>
    match session.receive transport session.plan.pollTimeout with
    | (.error e, session) => .done (.error e) session
    | (.ok .timeout, session) => .done (.ok (.dry frames)) session
    | (.ok .closed, session) => .done (.ok (.closed frames)) session.notePeerClosed
    | (.ok (.text text), session) =>
      drainAfter transport fuel (frames + 1) (session.accept text)

/-- Take every text frame that is waiting. -/
def drainCourse (transport : Transport σ) (fuel : Nat) (session : Session σ) :
    Course σ (Except Error Drained) :=
  drainAfter transport fuel 0 session

/-- Take every text frame that is waiting, as a caller sees it. -/
def drain (transport : Transport σ) (fuel : Nat) (session : Session σ) :
    Except Halt (Except Error Drained × Session σ) :=
  (session.drainCourse transport fuel).returned

end Session
end SpeechProbe
