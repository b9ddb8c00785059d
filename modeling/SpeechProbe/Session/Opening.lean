import SpeechProbe.Session.Basic

/-!
# Opening a session

The session parameters go out and one answer is awaited.  A lenient session takes
any answer, or none, and goes on; a strict one wants `ready`.
-/

namespace SpeechProbe.Session

variable {σ : Type}

/-- The first answer is `ready`. -/
def acceptReady (session : Session σ) (ready : Ready) : Except Error Handshake × Session σ :=
  let session := session.count fun stats => { stats with peerSessionId := ready.sessionId }
  (.ok .ready, session.tell (.ready ready))

/-- The first answer is some other message. -/
def acceptOther (session : Session σ) (text : String) (message : Inbound) :
    Except Error Handshake × Session σ :=
  if session.plan.strict then
    (.error (.protocolViolation ("expected 'ready', got '" ++ message.kind ++ "'")), session)
  else
    let session := session.note (.warn ("Unexpected handshake response: " ++ text))
    (.ok (.unexpected message.kind), (session.account message).tell message.call)

/-- The first answer does not decode. -/
def acceptUndecodable (session : Session σ) (text : String) (reason : Error) :
    Except Error Handshake × Session σ :=
  if session.plan.strict then
    (.error (.protocolViolation ("undecodable handshake response: " ++ reason.message)), session)
  else
    let session := session.note
      (.warn ("Unexpected handshake response (" ++ reason.message ++ "): " ++ text))
    (.ok (.unexpected "invalid"), session.count Stats.countUndecodable)

/-- There is no first answer. -/
def acceptSilence (session : Session σ) : Except Error Handshake × Session σ :=
  let wait := Nanos.text session.plan.handshakeTimeout
  if session.plan.strict then
    (.error (.protocolViolation ("no 'ready' within " ++ wait)), session)
  else
    (.ok .timedOut,
      session.note (.warn ("No handshake response within " ++ wait ++ ", streaming anyway")))

/-- What the first receive means. -/
def acceptFirst (session : Session σ) : Received → Except Error Handshake × Session σ
  | .text text =>
    let session := session.count Stats.countReceived
    match Inbound.decode text with
    | .ok (.ready ready) => session.acceptReady ready
    | .ok message => session.acceptOther text message
    | .error reason => session.acceptUndecodable text reason
  | .timeout => session.acceptSilence
  | .closed =>
    (.error .closedByPeer, session.count fun stats => { stats with peerClosed := true })

/-- Announce the session and wait for the first answer. -/
def configure (transport : Transport σ) (session : Session σ) :
    Except Error Handshake × Session σ :=
  let session := session.moveTo .configuring
  match session.sendMessage transport (.config session.plan.announcement) with
  | (.error e, session) => (.error e, session)
  | (.ok (), session) =>
    match session.receive transport session.plan.handshakeTimeout with
    | (.error e, session) => (.error e, session)
    | (.ok received, session) =>
      match session.acceptFirst received with
      | (.error e, session) => (.error e, session)
      | (.ok outcome, session) =>
        (.ok outcome, session.count fun stats => { stats with handshake := outcome })

end SpeechProbe.Session
