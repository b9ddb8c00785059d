import SpeechProbe.CommandLine

/-!
# Help

What a user reads who asks for help, or whose command line cannot be carried out.
-/

namespace SpeechProbe

/-- The name of the program. -/
def programName : String := "stream-harness"

/-- The version of the program. -/
def programVersion : String := "0.1.0"

/-- The form of a command line. -/
def usageLine : String :=
  "Usage: " ++ programName ++ " [OPTIONS] <--file <PATH>|--mic|--generate <TYPE>>"

/-- The options, each with what it is for. -/
def optionHelp : List (String × String) :=
  [ ("    --file <PATH>", "Stream a WAV file (16-bit PCM or 32-bit float)")
  , ("    --mic", "Stream live microphone audio until interrupted")
  , ("    --generate <TYPE>", "Stream a synthetic signal: silence, noise, tone or sweep")
  , ("    --duration <DURATION>", "Length of the synthetic signal in seconds [default: 5]")
  , ("    --freq <FREQ>", "Tone frequency in Hz [default: 440]")
  , ("    --seed <SEED>", "Seed for the noise generator")
  , ("    --url <URL>", "Peer URL (ws:// or wss://)")
  , ("    --token <TOKEN>", "Auth token sent in the config message")
  , ("    --language <LANG>", "Language code sent in the config message")
  , ("    --energy-threshold <ENERGY_THRESHOLD>",
      "Energy threshold for the peer's voice activity detector")
  , ("    --min-silence-frames <MIN_SILENCE_FRAMES>",
      "Silent frames before the peer ends an utterance")
  , ("    --chunk-ms <MS>",
      "Chunk duration in milliseconds (default: 500 for files, 100 otherwise)")
  , ("    --strict-handshake", "Fail unless the first reply to config is ready")
  , ("    --config <PATH>", "Path to configuration file")
  , ("-h, --help", "Print help")
  , ("-V, --version", "Print version") ]

/-- The column in which the explanation of an option begins. -/
def helpColumn : Nat :=
  optionHelp.foldl (fun width entry => max width entry.1.length) 0 + 2

/-- The line of one option. -/
def optionLine (entry : String × String) : String :=
  "  " ++ entry.1 ++ String.ofList (List.replicate (helpColumn - entry.1.length) ' ') ++ entry.2

/-- The text shown to one who asks for help. -/
def helpText : String :=
  String.intercalate "\n" <|
    [ "Conformance and load-test client for streaming speech recognition peers", "", usageLine
    , "", "Options:" ] ++ optionHelp.map optionLine

namespace UsageError

/-- What is wrong with a command line. -/
def reason : UsageError → String
  | helpRequested => "help was asked for"
  | versionRequested => "the version was asked for"
  | unknownArgument => "unexpected argument found"
  | missingValue => "a value is required for an option but none was supplied"
  | badValue => "invalid value for an option"
  | conflict => "an option cannot be used with another or more than once"
  | unwantedValue => "unexpected value for a switch"
  | missingSource =>
    "the following required arguments were not provided: --file, --mic or --generate"

/-- The text shown to a user. -/
def message : UsageError → String
  | helpRequested => helpText
  | versionRequested => programName ++ " " ++ programVersion
  | e => "error: " ++ e.reason ++ "\n\n" ++ usageLine ++ "\n\nFor more information, try '--help'."

end UsageError
end SpeechProbe
