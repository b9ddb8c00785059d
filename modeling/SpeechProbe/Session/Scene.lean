import SpeechProbe.Session.Journal
import SpeechProbe.Source

/-!
# The surroundings of a session

A scene holds the clock, the stop flag, the audio source, and what is still going to
happen by itself: blocks pushed by a capture callback, the end of that callback, a
stop request.  Time moves only when something waits.  Whatever becomes due while the
clock moves happens in order, each at its own time.
-/

namespace SpeechProbe

/-- Something that happens by itself. -/
inductive Happening where
  /-- A block that was due at the given time is offered to the handoff queue. -/
  | push (due : Nanos) (samples : List Sample)
  /-- The callback that pushes blocks goes away. -/
  | dropProducer
  | stop
  deriving DecidableEq, Repr, Inhabited

/-- What is still going to happen, and when, in order. -/
abbrev Schedule := List (Nanos × Happening)

/-- The surroundings of a session. -/
structure Scene where
  clock : Nanos
  /-- Whether no stop was requested yet. -/
  running : Bool
  coming : Schedule
  source : Source
  journal : Journal

namespace Scene

/-- A scene at time zero. -/
def ofSource (source : Source) : Scene := ⟨0, true, [], source, #[]⟩

def record (scene : Scene) (entry : Entry) : Scene :=
  { scene with journal := scene.journal.push entry }

/-- Write a line to the log. -/
def note (scene : Scene) (note : Note) : Scene := scene.record (.noted note)

/-- Request a stop.  A second request changes nothing. -/
def requestStop (scene : Scene) : Scene :=
  { scene with running := false }.record (.stopRequested scene.clock)

/-- One happening happens now. -/
def happen (scene : Scene) : Happening → Scene
  | .push due samples =>
    match scene.source with
    | .live source =>
      let (outcome, source) := source.push samples
      { scene with source := .live source }.record (.pushed due samples.length outcome)
    | _ => scene
  | .dropProducer =>
    { scene with
      source := scene.source.mapLive fun live => { live with queue := live.queue.dropProducer } }
  | .stop => scene.requestStop

/-- The clock moves to a time, unless it is already later. -/
def moveTo (scene : Scene) (time : Nanos) : Scene :=
  { scene with clock := max scene.clock time }

/-- The next happening happens at its time; `rest` is what is left. -/
def step (scene : Scene) (time : Nanos) (happening : Happening) (rest : Schedule) : Scene :=
  ({ scene with coming := rest }.moveTo time).happen happening

/-- Add a happening to a schedule, after what is due no later. -/
def insert (time : Nanos) (happening : Happening) : Schedule → Schedule
  | [] => [(time, happening)]
  | (due, next) :: rest =>
    if due ≤ time then (due, next) :: insert time happening rest
    else (time, happening) :: (due, next) :: rest

/-- Something is going to happen at a time. -/
def expect (scene : Scene) (time : Nanos) (happening : Happening) : Scene :=
  { scene with coming := insert time happening scene.coming }

/-- Everything due by a time happens, up to the first that is not. -/
def settleUntil (time : Nanos) : Schedule → Scene → Scene
  | (due, happening) :: rest, scene =>
    if due ≤ time then settleUntil time rest (scene.step due happening rest) else scene
  | [], scene => scene

/-- Wait until a time. -/
def advanceTo (scene : Scene) (time : Nanos) : Scene :=
  (settleUntil time scene.coming scene).moveTo time

/-- Wait for a duration. -/
def advance (scene : Scene) (elapsed : Nanos) : Scene :=
  scene.advanceTo (scene.clock + elapsed)

/-- Everything due now happens. -/
def settle (scene : Scene) : Scene := scene.advanceTo scene.clock

/-- The first moment up to `time` at which a stop was requested, or `time`. -/
def untilStopped (time : Nanos) : Schedule → Scene → Scene
  | (due, happening) :: rest, scene =>
    if scene.running && due ≤ time then untilStopped time rest (scene.step due happening rest)
    else if scene.running then scene.moveTo time
    else scene.settle
  | [], scene => if scene.running then scene.moveTo time else scene

/-- Wait until a time, but no longer than until a stop is requested. -/
def waitUntil (scene : Scene) (time : Nanos) : Scene :=
  untilStopped time scene.coming scene

/-- Wait until one interval after `sentAt`.  Whether things go on: not when a stop was
requested before the wait or during it.  Without an interval there is no wait. -/
def pace (scene : Scene) (interval : Option Nanos) (sentAt : Nanos) : Bool × Scene :=
  match interval with
  | none => (scene.running, scene)
  | some interval =>
    if scene.running then
      let after := scene.waitUntil (sentAt + interval)
      (after.running, after)
    else (false, scene)

/-- The scene with a source from which something was fetched; audio is entered in the
journal. -/
def took (scene : Scene) (fetched : Fetched) (source : Source) : Scene :=
  let scene := { scene with source := source }
  match fetched with
  | .chunk chunk => scene.record (.fetched scene.clock chunk)
  | .ended | .waiting => scene

/-- Take the oldest block of a live source. -/
def pop (scene : Scene) : Fetched × Scene :=
  match scene.source with
  | .live source =>
    let (fetched, source) := source.pop
    (fetched, scene.took fetched (.live source))
  | _ => (.ended, scene)

/-- The moment a wait gives up, if it ever does. -/
def giveUp (scene : Scene) : Option Nanos → Scene
  | some time => scene.moveTo time
  | none => scene

/-- Whether a wait goes on until the given moment. -/
def within (due : Nanos) : Option Nanos → Bool
  | some time => due ≤ time
  | none => true

/-- The next block of a live source, waiting for it happening by happening.  A stop
ends the wait, and a block that is there by then stays in the queue. -/
def await (limit : Option Nanos) : Schedule → Scene → Fetched × Scene
  | coming, scene =>
    if !scene.running then (.ended, scene.settle)
    else
      match scene.pop with
      | (.waiting, scene) =>
        match coming with
        | (due, happening) :: rest =>
          if within due limit then await limit rest (scene.step due happening rest)
          else (.waiting, scene.giveUp limit)
        | [] => (.waiting, scene.giveUp limit)
      | (fetched, scene) => (fetched, scene.settle)

/-- Up to `n` samples, or the next block of a live source.  A wait for a block ends
at `limit`, if one is given. -/
def fetch (scene : Scene) (n : Nat) (limit : Option Nanos) : Except Halt (Fetched × Scene) :=
  match scene.source with
  | .live _ => .ok (scene.await limit scene.coming)
  | source => do
    let (fetched, source) ← source.fetch n
    return (fetched, scene.took fetched source)

/-- Release what the source holds.  A capture that cannot be stopped is logged. -/
def release (scene : Scene) : Scene :=
  match scene.source with
  | .live source =>
    let (stopped, source) := source.shutdown
    let scene := { scene with source := .live source }
    match stopped with
    | none => scene
    | some (capture, result) =>
      let scene := scene.record .captureStopped
      match result with
      | .ok () => scene
      | .error e =>
        scene.note (.error ("Failed to stop " ++ capture.name ++ ": " ++ e.message))
  | _ => scene

/-- What happened so far, oldest first. -/
def entries (scene : Scene) : List Entry := scene.journal.toList

end Scene
end SpeechProbe
