import SpeechProbe.Control.Inbound
import SpeechProbe.Session.Phase

/-!
# Counters of a session
-/

namespace SpeechProbe

/-- How the exchange before the audio ended. -/
inductive Handshake where
  /-- Not attempted, or not finished. -/
  | pending
  | ready
  /-- The peer answered something else first. -/
  | unexpected (kind : String)
  /-- The peer did not answer in time. -/
  | timedOut
  deriving DecidableEq, Repr, Inhabited

/-- What a session counts. -/
structure Stats where
  sessionId : String
  /-- The name the peer gave the session when it was ready. -/
  peerSessionId : Option String
  /-- The last phase reached. -/
  finalPhase : Phase
  handshake : Handshake
  /-- Audio messages sent. -/
  chunksSent : Nat
  bytesSent : Nat
  secondsSent : Double
  /-- Text frames received, the undecodable ones included. -/
  messagesReceived : Nat
  partialResults : Nat
  finalResults : Nat
  vadUpdates : Nat
  serverErrors : Nat
  /-- Text frames dropped because they did not decode. -/
  decodeErrors : Nat
  unknownMessages : Nat
  /-- Whether the end mark was sent. -/
  endSent : Bool
  /-- Whether the peer closed the connection first. -/
  peerClosed : Bool
  /-- Why the audio stopped early, if it did. -/
  streamError : Option String
  deriving DecidableEq, Repr, Inhabited

namespace Stats

/-- The counters of a session that has just begun. -/
def start (sessionId : String) : Stats where
  sessionId := sessionId
  peerSessionId := none
  finalPhase := .connected
  handshake := .pending
  chunksSent := 0
  bytesSent := 0
  secondsSent := Double.zero
  messagesReceived := 0
  partialResults := 0
  finalResults := 0
  vadUpdates := 0
  serverErrors := 0
  decodeErrors := 0
  unknownMessages := 0
  endSent := false
  peerClosed := false
  streamError := none

/-- One more message by its kind.  A `ready` has no counter. -/
def account (stats : Stats) : Inbound → Stats
  | .transcription t =>
    if t.isFinal then { stats with finalResults := stats.finalResults + 1 }
    else { stats with partialResults := stats.partialResults + 1 }
  | .vadState _ => { stats with vadUpdates := stats.vadUpdates + 1 }
  | .error _ => { stats with serverErrors := stats.serverErrors + 1 }
  | .unknown _ => { stats with unknownMessages := stats.unknownMessages + 1 }
  | .ready _ => stats

/-- One more text frame received. -/
def countReceived (stats : Stats) : Stats :=
  { stats with messagesReceived := stats.messagesReceived + 1 }

/-- One more frame that did not decode. -/
def countUndecodable (stats : Stats) : Stats :=
  { stats with decodeErrors := stats.decodeErrors + 1 }

/-- One more chunk sent. -/
def countSent (stats : Stats) (bytes : Nat) (seconds : Double) : Stats :=
  { stats with
    chunksSent := stats.chunksSent + 1
    bytesSent := stats.bytesSent + bytes
    secondsSent := stats.secondsSent.add seconds }

end Stats
end SpeechProbe
