import SpeechProbe.Session.Draining

/-!
# Streaming audio

Send a chunk, collect what the peer has to say, wait out the chunk's duration.  The
wait is measured from when the chunk was sent, so the time spent on sending and
collecting does not stretch the cadence.  Live audio comes at its own pace.
-/

namespace SpeechProbe.Session

variable {σ : Type}

/-- The least time between two sends; live audio has none. -/
def interval (session : Session σ) : Option Nanos :=
  if session.scene.source.isSelfPaced then none
  else some (Nanos.ofMillis session.plan.chunkMs.toNat)

/-- Wait until one interval after `sentAt`.  Whether streaming goes on. -/
def pace (session : Session σ) (sentAt : Nanos) : Bool × Session σ :=
  let (goesOn, scene) := session.scene.pace session.interval sentAt
  (goesOn, { session with scene := scene })

/-- The next audio of the source, however long it takes. -/
def nextAudio (session : Session σ) (n : Nat) : Course σ (Option Chunk) :=
  match session.scene.fetch n none with
  | .error halt => .halted halt session
  | .ok (.waiting, scene) => .halted .blocked { session with scene := scene }
  | .ok (.ended, scene) => .done none { session with scene := scene }
  | .ok (.chunk chunk, scene) => .done (some chunk) { session with scene := scene }

/-- Send one chunk and count it. -/
def sendChunk (transport : Transport σ) (session : Session σ) (chunk : Chunk) :
    Except Error Unit × Session σ :=
  let payload := chunk.payload
  match session.sendAudio transport payload with
  | (.error e, session) => (.error e, session)
  | (.ok (), session) =>
    (.ok (), session.count (·.countSent payload.length chunk.seconds))

/-- Send a chunk, collect what is waiting, and wait out the interval.  How streaming
ends by that, or `none` when it goes on. -/
def deliver (transport : Transport σ) (fuel : Nat) (chunk : Chunk) (session : Session σ) :
    Course σ (Option (Except Error Unit)) :=
  let sentAt := session.clock
  match session.sendChunk transport chunk with
  | (.error e, session) => .done (some (.error e)) session
  | (.ok (), session) =>
    (session.drainCourse transport fuel).andThen fun drained session =>
      match drained with
      | .error e => .done (some (.error e)) session
      | .ok (.closed _) => .done (some (.error .closedByPeer)) session
      | .ok (.dry _) =>
        match session.pace sentAt with
        | (true, session) => .done none session
        | (false, session) => .done (some (.ok ())) session

/-- One round: fetch audio and deliver it.  How streaming ends by that, or `none` when
it goes on. -/
def round (transport : Transport σ) (n fuel : Nat) (session : Session σ) :
    Course σ (Option (Except Error Unit)) :=
  if !session.running then .done (some (.ok ())) session
  else
    (session.nextAudio n).andThen fun next session =>
      match next with
      | none => .done (some (.ok ())) session
      | some chunk =>
        if chunk.isEmpty then .done none session
        else if !session.running then .done (some (.ok ())) session
        else session.deliver transport fuel chunk

/-- Chunks of `n` samples until the source runs dry, a stop is requested, or the
transport fails. -/
def sendChunks (transport : Transport σ) (n : Nat) :
    Nat → Session σ → Course σ (Except Error Unit)
  | 0, session => .halted .outOfSteps session
  | fuel + 1, session =>
    (session.round transport n fuel).andThen fun ending session =>
      match ending with
      | some result => .done result session
      | none => sendChunks transport n fuel session

/-- Stream the source.  Chunks too short to hold a sample cannot be streamed. -/
def streamCourse (transport : Transport σ) (fuel : Nat) (session : Session σ) :
    Course σ (Except Error Unit) :=
  let session := session.moveTo .streaming
  let framing := session.plan.framing session.scene.source.rate
  let n := framing.chunkLength
  if n = 0 then
    .done (.error (.setting "chunk_duration_ms"
      (framing.chunkMs.toNat.repr ++ "ms at " ++ framing.rate.toNat.repr ++
        "Hz yields empty chunks"))) session
  else sendChunks transport n fuel session

/-- Stream the source, as a caller sees it. -/
def stream (transport : Transport σ) (fuel : Nat) (session : Session σ) :
    Except Halt (Except Error Unit × Session σ) :=
  (session.streamCourse transport fuel).returned

end SpeechProbe.Session
