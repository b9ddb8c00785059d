import SpeechProbe.Control.Inbound
import SpeechProbe.Control.Outbound
import SpeechProbe.Json.Record

/-!
# Control messages as records

Both kinds of message can be read from a record with their kind in it and written as
one.  Unlike a frame from the peer, a record has to be of a known kind and may not
repeat a field.
-/

namespace SpeechProbe

/-! ## To the peer -/

namespace Announcement

def ofRecord? (value : Json) : Option Announcement := do
  let slot ← Json.slots? ["language", "energy_threshold", "min_silence_frames", "token"] value
  return {
    language := ← (slot "language").required (Json.asText · |>.toOption)
    energyThreshold := ← (slot "energy_threshold").required (Json.asSingle · |>.toOption)
    minSilenceFrames := ← (slot "min_silence_frames").required (Json.asUInt32 · |>.toOption)
    token := ← (slot "token").optional (Json.asText · |>.toOption) }

end Announcement

namespace Outbound

/-- The message of a record.  The end mark carries nothing: an array may hold no item
after it, while members beside it do not count. -/
def ofRecord? (value : Json) : Option Outbound := do
  match ← Json.tagged? value with
  | ("config", rest) => config <$> Announcement.ofRecord? rest
  | ("end", .arr (_ :: _)) => none
  | ("end", _) => some finished
  | _ => none

/-- The message of a text. -/
def read? (text : String) : Option Outbound := Json.parse? text >>= ofRecord?

end Outbound

/-! ## From the peer -/

namespace PeerSettings

def ofRecord? (value : Json) : Option PeerSettings := do
  let slot ← Json.slots? ["language", "sample_rate"] value
  return {
    language := ← (slot "language").optional (Json.asText · |>.toOption)
    sampleRate := ← (slot "sample_rate").optional (Json.asUInt32 · |>.toOption) }

def toJson (settings : PeerSettings) : Json :=
  .obj [ ("language", Json.ofOption .str settings.language)
       , ("sample_rate", Json.ofOption (fun rate => .int rate.toNat) settings.sampleRate) ]

end PeerSettings

namespace Inbound

/-- The message of a record of a known kind. -/
def ofKnown? (rest : Json) : String → Option Inbound
  | "ready" => do
    let slot ← Json.slots? ["session_id", "config"] rest
    return .ready {
      sessionId := ← (slot "session_id").optional (Json.asText · |>.toOption)
      settings := ← (slot "config").optional PeerSettings.ofRecord? }
  | "transcription" => do
    let slot ← Json.slots? ["text", "is_final", "timestamp"] rest
    return .transcription {
      text := ← (slot "text").required (Json.asText · |>.toOption)
      isFinal := ← (slot "is_final").orElse false (Json.asFlag · |>.toOption)
      timestamp := ← (slot "timestamp").optional (Json.asInt64 · |>.toOption) }
  | "vad_state" => do
    let slot ← Json.slots? ["is_speech", "energy"] rest
    return .vadState {
      isSpeech := ← (slot "is_speech").required (Json.asFlag · |>.toOption)
      energy := ← (slot "energy").orElse Single.zero (Json.asSingle · |>.toOption) }
  | "error" => do
    let slot ← Json.slots? ["message", "code"] rest
    return .error {
      reason := ← (slot "message").required (Json.asText · |>.toOption)
      code := ← (slot "code").optional (Json.asText · |>.toOption) }
  | _ => none

/-- The message of a record. -/
def ofRecord? (value : Json) : Option Inbound := do
  let (kind, rest) ← Json.tagged? value
  ofKnown? rest kind

/-- The message of a text. -/
def read? (text : String) : Option Inbound := Json.parse? text >>= ofRecord?

/-- The record of a message, every field written.  A message of an unknown kind has
none. -/
def toRecord? : Inbound → Option Json
  | ready r => some <| .obj
    [ ("type", .str "ready")
    , ("session_id", Json.ofOption .str r.sessionId)
    , ("config", Json.ofOption PeerSettings.toJson r.settings) ]
  | transcription t => some <| .obj
    [ ("type", .str "transcription")
    , ("text", .str t.text)
    , ("is_final", .bool t.isFinal)
    , ("timestamp", Json.ofOption .int t.timestamp) ]
  | vadState v => some <| .obj
    [ ("type", .str "vad_state")
    , ("is_speech", .bool v.isSpeech)
    , ("energy", .single v.energy) ]
  | error e => some <| .obj
    [ ("type", .str "error")
    , ("message", .str e.reason)
    , ("code", Json.ofOption .str e.code) ]
  | unknown _ => none

end Inbound
end SpeechProbe
