import SpeechProbe.Endpoint
import SpeechProbe.Live.Source
import SpeechProbe.Settings.Effective
import SpeechProbe.Source
import SpeechProbe.Usage
import SpeechProbe.Wave.Recording

/-!
# The program

Reads the command line, the settings file and the environment, opens the source and
connects to the peer.  Everything is decided elsewhere; here files are read and lines
are written.
-/

namespace SpeechProbe.Program

/-- The variables that are looked at. -/
def variableNames : List String :=
  [ "SERVER__URL", "SERVER__TOKEN", "SESSION__LANGUAGE", "SESSION__ENERGY_THRESHOLD"
  , "SESSION__MIN_SILENCE_FRAMES", "SESSION__HANDSHAKE_TIMEOUT_SECS"
  , "SESSION__DRAIN_WINDOW_SECS", "SESSION__DRAIN_POLL_INTERVAL_MS"
  , "SESSION__STRICT_HANDSHAKE", "AUDIO__SAMPLE_RATE", "AUDIO__FILE_CHUNK_MS"
  , "AUDIO__STREAM_CHUNK_MS", "AUDIO__LIVE_QUEUE_CAPACITY" ].map ("HARNESS__" ++ ·)

/-- The variables that are set. -/
def environment : IO (List (String × String)) :=
  variableNames.filterMapM fun name => do
    return (← IO.getEnv name).map (name, ·)

/-- The content of a file, if it can be read. -/
def content? (path : String) : IO (Option String) := do
  try return some (← IO.FS.readFile path)
  catch _ => return none

/-- The first candidate that can be read. -/
def firstFile : List (String × Option FileFormat) → IO (Option (Option FileFormat × String))
  | [] => return none
  | (path, format) :: rest => do
    match ← content? path with
    | some content => return some (format, content)
    | none => firstFile rest

/-- The settings of the file, the environment and the command line. -/
def settings (line : CommandLine) : IO (Except Halt (Except SettingsError Settings)) := do
  let file ← firstFile (FileFormat.candidates (line.config.getD Settings.usualFile))
  return line.settle file (← environment)

/-- A 64-bit number nobody can foretell. -/
def entropy : IO UInt64 := do
  return UInt64.ofNat (← IO.rand 0 (UInt64.size - 1))

/-- Open what was selected: the log, and the source. -/
def openSource (choice : AudioChoice) (rate : UInt32) : IO (List Note × Except Error Source) := do
  match choice with
  | .file path =>
    try
      let bytes ← IO.FS.readBinFile path
      let (notes, recording) := Recording.ofBytes bytes.toList rate
      return (notes, recording.map fun r => .recording r.cursor)
    catch _ => return ([], .error (Recording.notFound path))
  | .live => return ([], .error Capture.unavailable)
  | .synthetic spec =>
    match spec.render rate (← entropy) with
    | .ok samples => return ([], .ok (.synthetic (Cursor.ofSamples samples rate)))
    | .error _ => return ([], .error (.audioFile "the signal cannot be rendered"))

def printNote (note : Note) : IO Unit :=
  IO.eprintln <| (match note.level with
    | .warning => "WARN "
    | .error => "ERROR ") ++ note.text

/-- Report why the program ends, and its exit status. -/
def fail (message : String) : IO UInt32 := do
  IO.eprintln ("Error: " ++ message)
  return 1

/-- Report a cause beneath what was attempted. -/
def failAt (attempt : String) (cause : Error) : IO UInt32 :=
  fail (attempt ++ "\n\nCaused by:\n    " ++ cause.message)

/-- Open the source and connect. -/
def start (settings : Settings) (choice : AudioChoice) : IO UInt32 := do
  let (notes, source) ← openSource choice settings.audio.sampleRate
  notes.forM printNote
  match source with
  | .error e => failAt "Failed to open audio source" e
  | .ok _ =>
    let (notes, e) := Endpoint.connect settings.server.url
    notes.forM printNote
    failAt "Failed to connect" e

/-- Carry out a command line. -/
def carryOut (line : CommandLine) : IO UInt32 := do
  match ← settings line with
  | .error _ => fail "the settings name an item that cannot be there"
  | .ok (.error e) => fail e.message
  | .ok (.ok settings) =>
    match line.audio with
    | .error e => fail e.message
    | .ok choice => start settings choice

end SpeechProbe.Program

open SpeechProbe in
/-- The program. -/
def main (words : List String) : IO UInt32 := do
  match CommandLine.parse words with
  | .ok line => Program.carryOut line
  | .error e =>
    if e.exitStatus = 0 then IO.println e.message else IO.eprintln e.message
    return UInt32.ofNat e.exitStatus
