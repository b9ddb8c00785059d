import SpeechProbe.Settings.Basic
import SpeechProbe.Settings.Environment
import SpeechProbe.Settings.Typed
import SpeechProbe.Signal.Spec

/-!
# The command line

Options are `--name value` or `--name=value`.  A value is only looked at when the
next option comes or the line ends, so of two mistakes the one that stops the reading
first is reported.  A value that begins with a dash has to be attached.
-/

namespace SpeechProbe

/-- Why a command line is not carried out. -/
inductive UsageError where
  | helpRequested
  | versionRequested
  | unknownArgument
  /-- An option lacks its value, or has an empty one where there has to be a path. -/
  | missingValue
  /-- A value is not of the option's type. -/
  | badValue
  /-- An option is given twice, or there are two sources. -/
  | conflict
  /-- A switch is given a value. -/
  | unwantedValue
  /-- No source is given. -/
  | missingSource
  deriving DecidableEq, Repr, Inhabited

/-- The status a program ends with: asking for help is no failure. -/
def UsageError.exitStatus : UsageError → Nat
  | helpRequested | versionRequested => 0
  | _ => 2

/-- The options that take a value. -/
inductive ValueOption where
  | file
  | generate
  | duration
  | frequency
  | seed
  | url
  | token
  | language
  | energyThreshold
  | minSilenceFrames
  | chunkMs
  | config
  deriving DecidableEq, Repr, Inhabited

/-- An option by its name. -/
inductive NamedOption where
  | value (option : ValueOption)
  | mic
  | strict
  | help
  | version
  deriving DecidableEq, Repr, Inhabited

/-- The option of a long name. -/
def NamedOption.ofName? : String → Option NamedOption
  | "file" => some (.value .file)
  | "mic" => some .mic
  | "generate" => some (.value .generate)
  | "duration" => some (.value .duration)
  | "freq" => some (.value .frequency)
  | "seed" => some (.value .seed)
  | "url" => some (.value .url)
  | "token" => some (.value .token)
  | "language" => some (.value .language)
  | "energy-threshold" => some (.value .energyThreshold)
  | "min-silence-frames" => some (.value .minSilenceFrames)
  | "chunk-ms" => some (.value .chunkMs)
  | "strict-handshake" => some .strict
  | "config" => some (.value .config)
  | "help" => some .help
  | "version" => some .version
  | _ => none

/-- What a command line says. -/
structure CommandLine where
  /-- A WAVE file to stream. -/
  file : Option String
  /-- Whether to stream a microphone. -/
  mic : Bool
  /-- The name of a synthetic signal to stream. -/
  generate : Option String
  duration : Option Double
  frequency : Option Double
  seed : Option UInt64
  url : Option String
  token : Option String
  language : Option String
  energyThreshold : Option Single
  minSilenceFrames : Option UInt32
  chunkMs : Option UInt64
  strict : Bool
  /-- The settings file. -/
  config : Option String
  deriving DecidableEq, Repr, Inhabited

/-- Where the audio of a run comes from. -/
inductive AudioChoice where
  | file (path : String)
  | live
  | synthetic (spec : SignalSpec)
  deriving DecidableEq, Repr, Inhabited

namespace CommandLine

def empty : CommandLine where
  file := none
  mic := false
  generate := none
  duration := none
  frequency := none
  seed := none
  url := none
  token := none
  language := none
  energyThreshold := none
  minSilenceFrames := none
  chunkMs := none
  strict := false
  config := none

/-! ## Values -/

/-- A setting that was not given before. -/
def once {α : Type} (earlier : Option α) (value : Except UsageError α) :
    Except UsageError (Option α) :=
  match earlier with
  | some _ => .error .conflict
  | none => some <$> value

def orBad {α : Type} : Option α → Except UsageError α
  | some value => .ok value
  | none => .error .badValue

/-- A path may not be empty. -/
def readPath (text : String) : Except UsageError String :=
  if text = "" then .error .missingValue else .ok text

def readDouble (text : String) : Except UsageError Double :=
  orBad ((·.toDouble) <$> Decimal.read? text)

def readSingle (text : String) : Except UsageError Single :=
  orBad ((·.toSingle) <$> Decimal.read? text)

def readUInt64 (text : String) : Except UsageError UInt64 :=
  orBad (Tree.readUnsigned? text)

def readUInt32 (text : String) : Except UsageError UInt32 :=
  orBad ((Environment.readInt? text).bind fun i =>
    if 0 ≤ i ∧ i < 4294967296 then some (UInt32.ofNat i.toNat) else none)

/-- An option with its value. -/
def put (line : CommandLine) (option : ValueOption) (text : String) :
    Except UsageError CommandLine :=
  match option with
  | .file => do return { line with file := ← once line.file (readPath text) }
  | .generate => do return { line with generate := ← once line.generate (.ok text) }
  | .duration => do return { line with duration := ← once line.duration (readDouble text) }
  | .frequency => do return { line with frequency := ← once line.frequency (readDouble text) }
  | .seed => do return { line with seed := ← once line.seed (readUInt64 text) }
  | .url => do return { line with url := ← once line.url (.ok text) }
  | .token => do return { line with token := ← once line.token (.ok text) }
  | .language => do return { line with language := ← once line.language (.ok text) }
  | .energyThreshold => do
    return { line with energyThreshold := ← once line.energyThreshold (readSingle text) }
  | .minSilenceFrames => do
    return { line with minSilenceFrames := ← once line.minSilenceFrames (readUInt32 text) }
  | .chunkMs => do return { line with chunkMs := ← once line.chunkMs (readUInt64 text) }
  | .config => do return { line with config := ← once line.config (.ok text) }

/-! ## Reading -/

/-- An option that was named, and the value that followed it, if one did. -/
abbrev Pending := Option (ValueOption × Option String)

/-- Look at what is pending. -/
def resolve (line : CommandLine) : Pending → Except UsageError CommandLine
  | none => .ok line
  | some (_, none) => .error .missingValue
  | some (option, some text) => line.put option text

/-- A switch that was not given before. -/
def switchOn (earlier : Bool) : Except UsageError Bool :=
  if earlier then .error .conflict else .ok true

/-- The name of a long option and the value attached to it. -/
def splitLong (chars : List Char) : String × Option String :=
  let name := String.ofList (chars.takeWhile (· ≠ '='))
  match chars.dropWhile (· ≠ '=') with
  | _ :: value => (name, some (String.ofList value))
  | [] => (name, none)

/-- A long option: the line so far, and what is pending now. -/
def takeLong (line : CommandLine) (pending : Pending) (chars : List Char) :
    Except UsageError (CommandLine × Pending) :=
  let (name, attached) := splitLong chars
  match NamedOption.ofName? name, attached with
  | none, _ => .error .unknownArgument
  | some (.value option), none => do
    return (← line.resolve pending, some (option, none))
  | some (.value option), some text => do
    return (← (← line.resolve pending).put option text, none)
  | some _, some _ => .error .unwantedValue
  | some .mic, none => do
    let line ← line.resolve pending
    return ({ line with mic := ← switchOn line.mic }, none)
  | some .strict, none => do
    let line ← line.resolve pending
    return ({ line with strict := ← switchOn line.strict }, none)
  | some .help, none => do
    let _ ← line.resolve pending
    .error .helpRequested
  | some .version, none => do
    let _ ← line.resolve pending
    .error .versionRequested

/-- A short option; only help and version have one. -/
def takeShort (line : CommandLine) (pending : Pending) (letter : Char) :
    Except UsageError (CommandLine × Pending) :=
  if letter = 'h' then do
    let _ ← line.resolve pending
    .error .helpRequested
  else if letter = 'V' then do
    let _ ← line.resolve pending
    .error .versionRequested
  else .error .unknownArgument

/-- A word that is no option: it can only be the value of the option before it. -/
def takeWord (line : CommandLine) (pending : Pending) (text : String) :
    Except UsageError (CommandLine × Pending) :=
  match pending with
  | some (option, none) => .ok (line, some (option, some text))
  | _ => .error .unknownArgument

/-- The words of a line, after those already read.  Two dashes end the options, and
nothing may follow them. -/
def readWords (line : CommandLine) (pending : Pending) :
    List String → Except UsageError CommandLine
  | [] => line.resolve pending
  | word :: rest =>
    match word.toList with
    | ['-', '-'] => if rest.isEmpty then line.resolve pending else .error .unknownArgument
    | '-' :: '-' :: chars =>
      match line.takeLong pending chars with
      | .error e => .error e
      | .ok (line, pending) => readWords line pending rest
    | '-' :: letter :: _ =>
      match line.takeShort pending letter with
      | .error e => .error e
      | .ok (line, pending) => readWords line pending rest
    | _ =>
      match line.takeWord pending word with
      | .error e => .error e
      | .ok (line, pending) => readWords line pending rest

/-- How many sources a line names. -/
def sourceCount (line : CommandLine) : Nat :=
  (if line.file.isSome then 1 else 0) + (if line.mic then 1 else 0) +
    (if line.generate.isSome then 1 else 0)

/-- The words of a line, which has to name exactly one source. -/
def parse (words : List String) : Except UsageError CommandLine := do
  let line ← readWords empty none words
  if 1 < line.sourceCount then .error .conflict
  else if line.sourceCount = 0 then .error .missingSource
  else return line

/-! ## Use -/

/-- The source a line selects.  A synthetic signal lasts five seconds and a tone has
440 Hz unless the line says otherwise. -/
def audio (line : CommandLine) : Except Error AudioChoice :=
  match line.file with
  | some path => .ok (.file path)
  | none =>
    if line.mic then .ok .live
    else do
      let kind ← SignalKind.ofName (line.generate.getD "silence")
      let spec := SignalSpec.ofKind kind (line.duration.getD (Double.ofRat 5))
      return .synthetic { spec with
        frequency := line.frequency.getD (Double.ofRat 440)
        seed := line.seed }

/-- The settings with what the line says put over them.  A chunk duration counts for
files and for everything else; the strict handshake can only be switched on. -/
def apply (line : CommandLine) (settings : Settings) : Settings where
  server :=
    { url := line.url.getD settings.server.url
      token := line.token.or settings.server.token }
  session :=
    { settings.session with
      language := line.language.getD settings.session.language
      energyThreshold := line.energyThreshold.getD settings.session.energyThreshold
      minSilenceFrames := line.minSilenceFrames.getD settings.session.minSilenceFrames
      strictHandshake := line.strict || settings.session.strictHandshake }
  audio :=
    { settings.audio with
      fileChunkMs := line.chunkMs.getD settings.audio.fileChunkMs
      streamChunkMs := line.chunkMs.getD settings.audio.streamChunkMs }

end CommandLine

/-- Milliseconds per chunk for a source. -/
def Settings.chunkMs (settings : Settings) : AudioChoice → UInt64
  | .file _ => settings.audio.fileChunkMs
  | .live | .synthetic _ => settings.audio.streamChunkMs

end SpeechProbe
