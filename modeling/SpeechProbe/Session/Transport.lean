import SpeechProbe.Control.Outbound
import SpeechProbe.Error
import SpeechProbe.Sample.Payload
import SpeechProbe.Time.Duration

/-!
# Transports

A transport carries messages to one peer and back.  Nothing is assumed of it: every
call may succeed or fail, take any time, and see a stop request arrive meanwhile.
-/

namespace SpeechProbe

/-- The outcome of a receive that waits for a bounded time. -/
inductive Received where
  | text (text : String)
  /-- Nothing came in time. -/
  | timeout
  /-- The peer has closed the connection. -/
  | closed
  deriving DecidableEq, Repr, Inhabited

/-- What a call of a transport leads to. -/
structure Reply (σ α : Type) where
  result : Except Error α
  /-- The transport afterwards. -/
  state : σ
  /-- How long the call took. -/
  elapsed : Nanos
  /-- Whether a stop was requested during the call. -/
  stop : Bool

/-- The calls of a transport with states `σ`.  Each is given the time at which it is
made. -/
structure Transport (σ : Type) where
  sendMessage : σ → Nanos → Outbound → Reply σ Unit
  sendAudio : σ → Nanos → Payload → Reply σ Unit
  /-- Wait at most the given time for the next text frame. -/
  receive : σ → Nanos → Nanos → Reply σ Received
  close : σ → Nanos → Reply σ Unit

end SpeechProbe
