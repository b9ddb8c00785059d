/-!
# Phases of a session

The life of a session, and which phase may follow which.
-/

namespace SpeechProbe

/-- Where a session is in its life. -/
inductive Phase where
  | disconnected
  | connected
  /-- The session parameters are on their way. -/
  | configuring
  | streaming
  /-- The audio has ended; trailing results may still come. -/
  | draining
  | closed
  deriving DecidableEq, Repr, Inhabited

namespace Phase

def name : Phase → String
  | disconnected => "disconnected"
  | connected => "connected"
  | configuring => "configuring"
  | streaming => "streaming"
  | draining => "draining"
  | closed => "closed"

/-- Every phase, in the order of a session's life. -/
def all : List Phase :=
  [disconnected, connected, configuring, streaming, draining, closed]

/-- The phase of a name. -/
def ofName? (text : String) : Option Phase :=
  all.find? fun phase => phase.name == text

/-- Whether nothing follows the phase. -/
def isFinal (phase : Phase) : Bool := phase = closed

/-- Whether `next` may follow `phase`.  Every phase but the last may be cut short by
closing, and a session may end before any audio was sent. -/
def canMoveTo (phase next : Phase) : Bool :=
  match phase, next with
  | closed, _ => false
  | _, closed => true
  | disconnected, connected => true
  | connected, configuring => true
  | configuring, streaming => true
  | streaming, draining => true
  | configuring, draining => true
  | _, _ => false

end Phase
end SpeechProbe
