import SpeechProbe.Halt
import SpeechProbe.Session.Plan
import SpeechProbe.Session.Scene
import SpeechProbe.Session.Stats

/-!
# Sessions

A session holds the plan, the phase, the counters, the surroundings and the state of
the transport.  Here are its single steps: one call of the transport, one phase, one
message accounted for.  A `Course` is how far a longer part of a session came.
-/

namespace SpeechProbe

/-- One conversation with a peer over a transport with states `σ`. -/
structure Session (σ : Type) where
  plan : SessionPlan
  phase : Phase
  stats : Stats
  scene : Scene
  /-- The state of the transport. -/
  peer : σ

namespace Session

variable {σ α : Type}

/-- A session over a transport that is connected. -/
def start (plan : SessionPlan) (scene : Scene) (peer : σ) : Session σ :=
  ⟨plan, .connected, Stats.start plan.sessionId, scene, peer⟩

def clock (session : Session σ) : Nanos := session.scene.clock

/-- Whether no stop was requested yet. -/
def running (session : Session σ) : Bool := session.scene.running

def note (session : Session σ) (note : Note) : Session σ :=
  { session with scene := session.scene.note note }

def count (session : Session σ) (f : Stats → Stats) : Session σ :=
  { session with stats := f session.stats }

/-- Request a stop. -/
def requestStop (session : Session σ) : Session σ :=
  { session with scene := session.scene.requestStop }

/-- Hand a call to the listener. -/
def tell (session : Session σ) (call : Call) : Session σ :=
  { session with scene := session.scene.record (.called call) }

/-! ## Calls of the transport -/

/-- A call of the transport: it is entered in the journal, time passes, and its
result is known. -/
def exchange (session : Session σ) (entry : Nanos → Except Error α → Entry)
    (reply : Reply σ α) : Except Error α × Session σ :=
  let scene := (session.scene.record (entry reply.elapsed reply.result)).advance reply.elapsed
  let scene := if reply.stop then scene.requestStop else scene
  (reply.result, { session with scene := scene, peer := reply.state })

variable (transport : Transport σ)

def sendMessage (session : Session σ) (message : Outbound) : Except Error Unit × Session σ :=
  session.exchange (.sentMessage session.clock message)
    (transport.sendMessage session.peer session.clock message)

def sendAudio (session : Session σ) (payload : Payload) : Except Error Unit × Session σ :=
  session.exchange (.sentAudio session.clock payload)
    (transport.sendAudio session.peer session.clock payload)

def receive (session : Session σ) (timeout : Nanos) : Except Error Received × Session σ :=
  session.exchange (.received session.clock timeout)
    (transport.receive session.peer session.clock timeout)

def closeTransport (session : Session σ) : Except Error Unit × Session σ :=
  session.exchange (.closed session.clock) (transport.close session.peer session.clock)

/-! ## Phases and messages -/

/-- Enter a phase.  A move out of turn is logged and made all the same. -/
def moveTo (session : Session σ) (next : Phase) : Session σ :=
  let noted :=
    if session.phase.canMoveTo next then session
    else session.note (.warn ("Unexpected state transition " ++ session.phase.name ++
      " -> " ++ next.name))
  { noted with
    phase := next
    stats := { noted.stats with finalPhase := next }
    scene := noted.scene.record (.moved session.phase next) }

/-- A message is counted by its kind. -/
def account (session : Session σ) (message : Inbound) : Session σ :=
  session.count (·.account message)

/-- A text frame: it is counted, and its message handed to the listener.  A frame
that does not decode is dropped. -/
def accept (session : Session σ) (text : String) : Session σ :=
  let session := session.count Stats.countReceived
  match Inbound.decode text with
  | .ok message => (session.tell message.call).account message
  | .error reason => (session.note (.dropped reason text)).count Stats.countUndecodable

end Session

/-! ## Parts of a session -/

/-- How far a part of a session came: its outcome, or why it broke off, and the session
as it was left. -/
structure Course (σ α : Type) where
  outcome : Except Halt α
  session : Session σ

namespace Course

variable {σ α β : Type}

/-- A part that came to its end. -/
def done (outcome : α) (session : Session σ) : Course σ α := ⟨.ok outcome, session⟩

/-- A part that broke off. -/
def halted (halt : Halt) (session : Session σ) : Course σ α := ⟨.error halt, session⟩

/-- Go on with the next part.  After a part that broke off nothing more happens. -/
def andThen (course : Course σ α) (next : α → Session σ → Course σ β) : Course σ β :=
  match course with
  | ⟨.ok outcome, session⟩ => next outcome session
  | ⟨.error halt, session⟩ => halted halt session

/-- What a caller gets: of a part that broke off, only why. -/
def returned (course : Course σ α) : Except Halt (α × Session σ) :=
  match course with
  | ⟨.ok outcome, session⟩ => .ok (outcome, session)
  | ⟨.error halt, _⟩ => .error halt

end Course
end SpeechProbe
