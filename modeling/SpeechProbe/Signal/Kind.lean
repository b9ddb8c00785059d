import SpeechProbe.Error
import SpeechProbe.Text.Blank

/-!
# Kinds of synthetic signal
-/

namespace SpeechProbe

/-- The signals that can be sent without a recording or a microphone. -/
inductive SignalKind where
  | silence
  /-- Uniform white noise. -/
  | noise
  /-- A sine of one frequency. -/
  | tone
  /-- A sine whose frequency ramps linearly. -/
  | sweep
  deriving DecidableEq, Repr, Inhabited

namespace SignalKind

/-- The name a user writes. -/
def name : SignalKind → String
  | silence => "silence"
  | noise => "noise"
  | tone => "tone"
  | sweep => "sweep"

/-- The kind of a given name; blanks around it and ASCII case do not matter. -/
def ofName (text : String) : Except Error SignalKind :=
  match Text.lowerAscii (Text.trim text) with
  | "silence" => .ok silence
  | "noise" => .ok noise
  | "tone" => .ok tone
  | "sweep" => .ok sweep
  | _ => .error (.unknownSignal text)

end SignalKind
end SpeechProbe
