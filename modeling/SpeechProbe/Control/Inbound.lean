import SpeechProbe.Error
import SpeechProbe.Json.Reader
import SpeechProbe.Json.Typed

/-!
# Messages from the peer

A text frame is a JSON object whose `type` names its kind.  Four kinds are known;
their members are checked in the order of their names, and what is required and
absent is found last.  Any other kind is kept by its name.
-/

namespace SpeechProbe

/-- The settings a peer echoes when it is ready. -/
structure PeerSettings where
  language : Option String
  sampleRate : Option UInt32
  deriving DecidableEq, Repr, Inhabited

/-- The peer accepts the session. -/
structure Ready where
  sessionId : Option String
  settings : Option PeerSettings
  deriving DecidableEq, Repr, Inhabited

/-- A recognition result. -/
structure Transcription where
  text : String
  /-- Whether the peer will not revise the text. -/
  isFinal : Bool
  /-- The peer's clock, in milliseconds; a signed 64-bit number. -/
  timestamp : Option Int
  deriving DecidableEq, Repr, Inhabited

/-- A voice activity report. -/
structure VadState where
  isSpeech : Bool
  energy : Single
  deriving DecidableEq, Repr, Inhabited

/-- An error the peer reports; the session goes on. -/
structure PeerError where
  reason : String
  code : Option String
  deriving DecidableEq, Repr, Inhabited

/-- A message from the peer. -/
inductive Inbound where
  | ready (ready : Ready)
  | transcription (transcription : Transcription)
  | vadState (state : VadState)
  | error (error : PeerError)
  /-- A message of a kind this library does not know. -/
  | unknown (kind : String)
  deriving DecidableEq, Repr, Inhabited

namespace PeerSettings

/-- From an object, or from an array of the same two values; what is left out is not
set. -/
def ofJson : Json → Except Mismatch PeerSettings
  | .obj members => do
    let language ← Json.optional members "language" Json.asText
    let sampleRate ← Json.optional members "sample_rate" Json.asUInt32
    return ⟨language, sampleRate⟩
  | .arr [] => .ok ⟨none, none⟩
  | .arr [language] => do
    return ⟨← Json.orNull Json.asText language, none⟩
  | .arr (language :: sampleRate :: more) => do
    let settings : PeerSettings :=
      ⟨← Json.orNull Json.asText language, ← Json.orNull Json.asUInt32 sampleRate⟩
    if more.isEmpty then return settings else .error (.tooLong (more.length + 2) 2)
  | found => .error (.wrongType found "struct ReadyConfig")

end PeerSettings

namespace Inbound

/-- The name of the message's kind on the wire. -/
def kind : Inbound → String
  | ready _ => "ready"
  | transcription _ => "transcription"
  | vadState _ => "vad_state"
  | error _ => "error"
  | unknown kind => kind

/-- The message of a known kind; nothing when the kind is not known. -/
def ofMembers? (members : List (String × Json)) : String → Option (Except Mismatch Inbound)
  | "ready" => some do
    let settings ← Json.optional members "config" PeerSettings.ofJson
    let sessionId ← Json.optional members "session_id" Json.asText
    return .ready ⟨sessionId, settings⟩
  | "transcription" => some do
    let isFinal ← Json.field? members "is_final" Json.asFlag
    let text ← Json.field? members "text" Json.asText
    let timestamp ← Json.optional members "timestamp" Json.asInt64
    return .transcription ⟨← Json.present "text" text, isFinal.getD false, timestamp⟩
  | "vad_state" => some do
    let energy ← Json.field? members "energy" Json.asSingle
    let isSpeech ← Json.field? members "is_speech" Json.asFlag
    return .vadState ⟨← Json.present "is_speech" isSpeech, energy.getD Single.zero⟩
  | "error" => some do
    let code ← Json.optional members "code" Json.asText
    let reason ← Json.field? members "message" Json.asText
    return .error ⟨← Json.present "message" reason, code⟩
  | _ => none

/-- The message of a JSON value. -/
def ofJson (value : Json) : Except Error Inbound :=
  let members := value.members?.getD []
  match Json.last? "type" members with
  | some (.str kind) =>
    match ofMembers? members kind with
    | none => .ok (.unknown kind)
    | some (.ok message) => .ok message
    | some (.error mismatch) =>
      .error (.undecodable ("invalid '" ++ kind ++ "' message: " ++ mismatch.message))
  | _ => .error (.undecodable "missing 'type' field")

/-- The message of a text frame.  Of a text that is no JSON the error does not say where and why
the reader gave up on it. -/
def decode (text : String) : Except Error Inbound :=
  match Json.parse? text with
  | none => .error (.undecodable "invalid JSON")
  | some value => ofJson value

end Inbound
end SpeechProbe
