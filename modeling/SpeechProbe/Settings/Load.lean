import SpeechProbe.Json.Reader
import SpeechProbe.Settings.Basic
import SpeechProbe.Settings.Environment
import SpeechProbe.Settings.Typed
import SpeechProbe.Toml.Reader

/-!
# Loading settings

The environment goes over the file, and the file over the defaults.  The result is
checked as a whole.

A file is in one of several formats, and each format brings its own reader.  TOML and JSON are
read here; nothing in the way settings are put together depends on which formats there are.
-/

namespace SpeechProbe

/-- A format of settings files.  What is read of a file is left to the format, and what is proved of
settings is proved for every format: it rests on no grammar. -/
structure FileFormat where
  /-- What follows the last point in the names of its files. -/
  extensions : List String
  /-- The entries of a file, if it can be read. -/
  read? : String → Option (List (String × Tree))

namespace FileFormat

/-- The entries of a whole file.  One that is no table has none. -/
def topEntries : Tree → List (String × Tree)
  | .table entries => entries
  | _ => []

def toml : FileFormat where
  extensions := ["toml"]
  read? content := topEntries <$> Toml.read? content

def json : FileFormat where
  extensions := ["json"]
  read? content := (topEntries ∘ Tree.ofJson) <$> Json.parse? content

/-- The formats for which there is no reader here.  A file of one is not overlooked: it is found,
and refused. -/
def unread : FileFormat where
  extensions := ["yaml", "yml", "ini", "ron", "json5"]
  read? _ := none

/-- The formats of the files that are looked for, in this order. -/
def usual : List FileFormat := [toml, json, unread]

/-- What follows the last point of a file's name, where something stands before it. -/
def extension (name : String) : String :=
  let file := (name.toList.reverse.takeWhile (· ≠ '/'))
  match file.dropWhile (· ≠ '.') with
  | _ :: _ :: _ => String.ofList (file.takeWhile (· ≠ '.')).reverse
  | _ => ""

/-- The format of a file by its name. -/
def ofName? (formats : List FileFormat) (name : String) : Option FileFormat :=
  formats.find? fun format => format.extensions.contains (extension name)

/-- A path from its end on, without the slashes and the points for "here" it ends
in. -/
def trimmed : List Char → List Char
  | '/' :: rest => trimmed rest
  | '.' :: '/' :: rest => trimmed rest
  | rest => rest

/-- A path as far as its last name.  The points for "here" and "above" are no names. -/
def upToName? (path : String) : Option String :=
  let backwards := trimmed path.toList.reverse
  match backwards.takeWhile (· ≠ '/') with
  | [] | ['.'] | ['.', '.'] => none
  | _ => some (String.ofList backwards.reverse)

/-- The paths under which a settings file may be found, best first, and the format of
each.  A file of exactly the given name that is in none of the formats is of no use. -/
def candidatesAmong (formats : List FileFormat) (path : String) :
    List (String × Option FileFormat) :=
  let extended := match upToName? path with
    | some base => formats.flatMap fun format =>
      format.extensions.map fun extension => (base ++ "." ++ extension, some format)
    | none => []
  (path, ofName? formats path) :: extended

/-- The candidates in the formats that are looked for. -/
def candidates : String → List (String × Option FileFormat) := candidatesAmong usual

end FileFormat

namespace Settings

/-- The entries of a file as one tree.  Its top keys are paths. -/
def ofEntries? (entries : List (String × Tree)) : Option Tree :=
  entries.foldlM (fun tree (key, value) => (Path.ofKey key).set? value tree) (.table [])

def server? (tree : Tree) : Option ServerSettings := do
  let get ← tree.section?
  let base := standard.server
  return {
    url := ← Tree.orDefault (get "url" 0) Tree.asText? base.url
    token := ← Tree.orDefault (get "token" 1) (Tree.orNull? Tree.asText?) base.token }

def session? (tree : Tree) : Option SessionSettings := do
  let get ← tree.section?
  let base := standard.session
  return {
    language := ← Tree.orDefault (get "language" 0) Tree.asText? base.language
    energyThreshold :=
      ← Tree.orDefault (get "energy_threshold" 1) Tree.asSingle? base.energyThreshold
    minSilenceFrames :=
      ← Tree.orDefault (get "min_silence_frames" 2) Tree.asUInt32? base.minSilenceFrames
    handshakeTimeoutSecs :=
      ← Tree.orDefault (get "handshake_timeout_secs" 3) Tree.asUInt64? base.handshakeTimeoutSecs
    drainWindowSecs :=
      ← Tree.orDefault (get "drain_window_secs" 4) Tree.asUInt64? base.drainWindowSecs
    drainPollIntervalMs :=
      ← Tree.orDefault (get "drain_poll_interval_ms" 5) Tree.asUInt64? base.drainPollIntervalMs
    strictHandshake :=
      ← Tree.orDefault (get "strict_handshake" 6) Tree.asFlag? base.strictHandshake }

def audio? (tree : Tree) : Option AudioSettings := do
  let get ← tree.section?
  let base := standard.audio
  return {
    sampleRate := ← Tree.orDefault (get "sample_rate" 0) Tree.asUInt32? base.sampleRate
    fileChunkMs := ← Tree.orDefault (get "file_chunk_ms" 1) Tree.asUInt64? base.fileChunkMs
    streamChunkMs := ← Tree.orDefault (get "stream_chunk_ms" 2) Tree.asUInt64? base.streamChunkMs
    liveQueueCapacity :=
      ← Tree.orDefault (get "live_queue_capacity" 3) Tree.asUInt64? base.liveQueueCapacity }

/-- The settings of a tree, with the defaults for what it leaves out. -/
def ofTree? (tree : Tree) : Option Settings := do
  return {
    server := ← Tree.orDefault (tree.entry? "server") server? standard.server
    session := ← Tree.orDefault (tree.entry? "session") session? standard.session
    audio := ← Tree.orDefault (tree.entry? "audio") audio? standard.audio }

/-- The variables over a file's entries; nothing when a path has no place. -/
def merged? (entries : List (String × Tree)) (environment : List (String × String)) :
    Option Tree := do
  Environment.overlay? (← ofEntries? entries) environment

/-- The settings file that is read when none is named. -/
def usualFile : String := "config/stream-harness"

/-- The entries of the first candidate file that exists, whatever its format.  A named file has to
exist, and to be in some format; without a name there may be none.  What is in a format has to be
readable. -/
def fileEntries (name : Option String) (file : Option (Option FileFormat × String)) :
    Except SettingsError (List (String × Tree)) :=
  match file, name with
  | some (some format, content), _ =>
    match format.read? content with
    | some entries => .ok entries
    | none => .error (.unreadable (name.getD usualFile))
  | _, some name => .error (.unreadable name)
  | _, none => .ok []

/-- The settings of a tree, if they can be used. -/
def checked (tree : Tree) : Except SettingsError Settings := do
  match ofTree? tree with
  | none => .error .illTyped
  | some settings =>
    settings.check
    return settings

/-- The settings of the first candidate file that exists, in whatever format, and of variables. -/
def load (name : Option String) (file : Option (Option FileFormat × String))
    (environment : List (String × String)) : Except Halt (Except SettingsError Settings) :=
  match fileEntries name file with
  | .error e => .ok (.error e)
  | .ok entries =>
    match merged? entries environment with
    | none => .error .noSuchItem
    | some tree => .ok (checked tree)

end Settings
end SpeechProbe
