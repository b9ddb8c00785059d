import SpeechProbe.Control.Inbound

/-!
# What a listener is told

Each message that decodes is handed to the listener once, by the method of its kind.
A frame that does not decode is dropped with a warning and reaches no listener.
-/

namespace SpeechProbe

/-- One call of a listener. -/
inductive Call where
  | ready (ready : Ready)
  | transcription (transcription : Transcription)
  | vadState (state : VadState)
  /-- The peer reported an error. -/
  | serverError (error : Error)
  /-- A message of an unknown kind. -/
  | unknown (kind : String)
  deriving DecidableEq, Repr, Inhabited

/-- The call a message causes. -/
def Inbound.call : Inbound → Call
  | ready r => .ready r
  | transcription t => .transcription t
  | vadState v => .vadState v
  | error e => .serverError (.reportedByPeer e.reason e.code)
  | unknown kind => .unknown kind

/-- How urgent a log line is. -/
inductive Level where
  | warning
  | error
  deriving DecidableEq, Repr, Inhabited

/-- A log line. -/
structure Note where
  level : Level
  text : String
  deriving DecidableEq, Repr, Inhabited

namespace Note

def warn (text : String) : Note := ⟨.warning, text⟩
def error (text : String) : Note := ⟨.error, text⟩

/-- How much of a dropped frame the log shows, in characters. -/
def excerptLength : Nat := 120

/-- The line for a frame that does not decode. -/
def dropped (reason : Error) (text : String) : Note :=
  warn ("Dropping inbound message: " ++ reason.message ++ " (" ++
    String.ofList (text.toList.take excerptLength) ++ ")")

end Note
end SpeechProbe
