import SpeechProbe.Control.Call
import SpeechProbe.Live.Queue
import SpeechProbe.Session.Phase
import SpeechProbe.Session.Transport

/-!
# The journal of a session

Everything a session does and everything that happens to it, in order.  What an
observer sees (the calls of the transport, the calls of the listener, the log, the
log of the capture) are views of the journal.
-/

namespace SpeechProbe

/-- One thing that was done or happened. -/
inductive Entry where
  /-- A message was handed to the transport at the given time, and the call took
  `elapsed`. -/
  | sentMessage (time : Nanos) (message : Outbound) (elapsed : Nanos)
      (result : Except Error Unit)
  /-- A payload was handed to the transport. -/
  | sentAudio (time : Nanos) (payload : Payload) (elapsed : Nanos)
      (result : Except Error Unit)
  /-- The transport was asked for a text frame. -/
  | received (time timeout elapsed : Nanos) (result : Except Error Received)
  /-- The transport was closed. -/
  | closed (time elapsed : Nanos) (result : Except Error Unit)
  /-- Audio was taken from the source. -/
  | fetched (time : Nanos) (chunk : Chunk)
  /-- The listener was called. -/
  | called (call : Call)
  | noted (note : Note)
  | moved (before after : Phase)
  /-- A block that was due at the given time was offered to the handoff queue. -/
  | pushed (due : Nanos) (samples : Nat) (outcome : PushOutcome)
  | stopRequested (time : Nanos)
  | captureStarted
  | captureStopped
  deriving Inhabited

namespace Entry

/-- The listener's call in an entry. -/
def call? : Entry → Option Call
  | called call => some call
  | _ => none

/-- What an entry adds to the log.  A listener logs each error the peer reports, and
a capture callback each block for which there was no room; the stamp is of the
callback's own clock, which stands still while the session's clock is simulated. -/
def note? : Entry → Option Note
  | noted note => some note
  | called (.serverError e) => some (.error e.message)
  | pushed _ samples .full =>
    some (.warn ("Capture queue full, dropping " ++ samples.repr ++ " samples at 0ms"))
  | _ => none

end Entry

/-- The entries so far, oldest first. -/
abbrev Journal := Array Entry

namespace Journal

/-- The listener's calls, in order. -/
def calls (entries : List Entry) : List Call := entries.filterMap Entry.call?

/-- The log, in order. -/
def notes (entries : List Entry) : List Note := entries.filterMap Entry.note?

end Journal
end SpeechProbe
