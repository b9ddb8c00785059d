import SpeechProbe.Session.Run

/-!
# Rehearsals

A rehearsal is a transport without a network: a scripted peer that answers each
message with prepared items, in simulated time.
-/

namespace SpeechProbe

/-- What a scripted peer does when its turn comes. -/
inductive Action where
  | text (text : String)
  | fail (error : Error)
  /-- The peer closes the connection, for good. -/
  | close
  /-- The receive in progress ends without a message. -/
  | timeOut
  /-- A stop is requested; the receive goes on. -/
  | stop
  deriving DecidableEq, Repr, Inhabited

/-- An action and how long the peer takes before it. -/
structure Cue where
  after : Nanos
  action : Action
  deriving DecidableEq, Repr, Inhabited

/-- How a scripted peer answers. -/
structure Script where
  /-- What follows the session parameters. -/
  onConfig : List Cue
  /-- What follows the end mark. -/
  onEnd : List Cue
  /-- What follows the audio message of a given number, counted from one. -/
  afterChunk : List (Nat × List Cue)
  failConfig : Option Error
  failEnd : Option Error
  /-- The audio messages that fail, by number. -/
  failChunk : List (Nat × Error)
  failClose : Option Error
  /-- How long sending an audio message takes. -/
  sendDelay : Nanos
  /-- The audio message after which a stop is requested. -/
  stopOnChunk : Option Nat

namespace Script

/-- Every cue of the script. -/
def cueCount (script : Script) : Nat :=
  script.onConfig.length + script.onEnd.length +
    script.afterChunk.foldl (fun n entry => n + entry.2.length) 0

end Script

/-- A scripted peer in the middle of its script. -/
structure Rehearsal where
  script : Script
  /-- What the peer is still going to do. -/
  queue : List Cue
  /-- Audio messages taken so far. -/
  chunks : Nat
  /-- Whether the peer has closed the connection. -/
  closed : Bool

namespace Rehearsal

/-- A peer at the beginning of its script. -/
def ofScript (script : Script) : Rehearsal := ⟨script, [], 0, false⟩

/-- An outcome that takes no time. -/
def atOnce {α : Type} (peer : Rehearsal) (result : Except Error α) : Reply Rehearsal α :=
  ⟨result, peer, 0, false⟩

/-- A message is answered with more cues, unless it fails. -/
def answer (peer : Rehearsal) (failure : Option Error) (cues : List Cue) :
    Reply Rehearsal Unit :=
  match failure with
  | some e => peer.atOnce (.error e)
  | none => { peer with queue := peer.queue ++ cues }.atOnce (.ok ())

def sendMessage (peer : Rehearsal) (message : Outbound) : Reply Rehearsal Unit :=
  if peer.closed then peer.atOnce (.error .closedByPeer)
  else
    match message with
    | .config _ => peer.answer peer.script.failConfig peer.script.onConfig
    | .finished => peer.answer peer.script.failEnd peer.script.onEnd

def sendAudio (peer : Rehearsal) : Reply Rehearsal Unit :=
  if peer.closed then peer.atOnce (.error .closedByPeer)
  else
    let n := peer.chunks + 1
    match peer.script.failChunk.lookup n with
    | some e => peer.atOnce (.error e)
    | none =>
      let cues := (peer.script.afterChunk.lookup n).getD []
      ⟨.ok (), { peer with queue := peer.queue ++ cues, chunks := n },
        peer.script.sendDelay, peer.script.stopOnChunk == some n⟩

/-- A receive takes the next cue that comes in the time left. -/
def take (script : Script) (chunks : Nat) (timeout left : Nanos) (stopped : Bool) :
    List Cue → Reply Rehearsal Received
  | [] => ⟨.ok .timeout, ⟨script, [], chunks, false⟩, timeout, stopped⟩
  | cue :: rest =>
    if left < cue.after then
      let later : Cue := { cue with after := cue.after - left }
      ⟨.ok .timeout, ⟨script, later :: rest, chunks, false⟩, timeout, stopped⟩
    else
      let left := left - cue.after
      let peer : Rehearsal := ⟨script, rest, chunks, false⟩
      match cue.action with
      | .text text => ⟨.ok (.text text), peer, timeout - left, stopped⟩
      | .fail e => ⟨.error e, peer, timeout - left, stopped⟩
      | .close => ⟨.ok .closed, { peer with closed := true }, timeout - left, stopped⟩
      | .timeOut => ⟨.ok .timeout, peer, timeout, stopped⟩
      | .stop => take script chunks timeout left true rest

def receive (peer : Rehearsal) (timeout : Nanos) : Reply Rehearsal Received :=
  if peer.closed then peer.atOnce (.ok .closed)
  else take peer.script peer.chunks timeout timeout false peer.queue

def close (peer : Rehearsal) : Reply Rehearsal Unit :=
  match peer.script.failClose with
  | some e => peer.atOnce (.error e)
  | none => peer.atOnce (.ok ())

/-- The scripted peer as a transport.  It does not look at the clock. -/
def transport : Transport Rehearsal where
  sendMessage := fun peer _ message => peer.sendMessage message
  sendAudio := fun peer _ _ => peer.sendAudio
  receive := fun peer _ timeout => peer.receive timeout
  close := fun peer _ => peer.close

/-- How much audio is still to come: samples in memory, or blocks queued and blocks
going to be pushed. -/
def audioLeft (scene : Scene) : Nat :=
  match scene.source with
  | .recording cursor | .synthetic cursor => cursor.remaining
  | .live source => source.queue.waiting.length + scene.coming.length

/-- Steps enough for any part of a session with a scripted peer: every drain step
takes a cue, every chunk takes audio, and every look in the drain window lets time
pass. -/
def allowance (session : Session Rehearsal) : Nat :=
  session.peer.script.cueCount + session.peer.queue.length + audioLeft session.scene +
    session.plan.drainWindow + 4

end Rehearsal

namespace Scene

/-! ## Rehearsed live audio -/

/-- Blocks become due in their order, none before the one in front of it; with the
last one the callback goes away, unless it is kept. -/
def pushSchedule (keep : Bool) : Nanos → List (Nanos × List Sample) → Schedule
  | now, [] => if keep then [] else [(now, .dropProducer)]
  | now, (due, samples) :: rest =>
    (max now due, .push due samples) :: pushSchedule keep (max now due) rest

/-- A scene whose live source is filled by a callback.  Blocks due at time zero are
there from the start. -/
def ofPushes (capacity : Nat) (rate : UInt32) (pushes : List (Nanos × List Sample))
    (keep : Bool) : Scene :=
  let (first, later) := pushes.partition fun push => push.1 == 0
  { ofSource (.live (LiveSource.ofQueue capacity rate)) with
    coming := pushSchedule keep 0 (first ++ later) }.settle

/-- A scene whose live source owns a capture that was just started. -/
def ofCapture (capture : Capture) (rate : UInt32) (blocks : List Chunk) (producers : Nat) :
    Scene :=
  (ofSource (.live (LiveSource.ofCapture capture rate blocks producers))).record .captureStarted

end Scene
end SpeechProbe
