import SpeechProbe.Json.Record
import SpeechProbe.Session.Plan
import SpeechProbe.Session.Stats
import SpeechProbe.Time.Moment
import SpeechProbe.Transcript

/-!
# What is kept of a session, as records

Plans, phases, reports and transcripts can be stored as JSON and read back.  Members
that are no field are passed over without looking at what they stand for.  A duration
is a record of whole seconds and billionths and of nothing else; billionths beyond a
second are carried.
-/

namespace SpeechProbe

/-- The number of values of a 64-bit counter. -/
def counterLimit : Nat := 18446744073709551616

namespace Nanos

def ofRecord? (value : Json) : Option Nanos := do
  let slot ← Json.exactSlots? ["secs", "nanos"] value
  let seconds ← (slot "secs").required (Json.asNatBelow? counterLimit)
  let rest ← (slot "nanos").required (Json.asNatBelow? 4294967296)
  if seconds + rest / perSecond < counterLimit then some (seconds * perSecond + rest) else none

def toJson (t : Nanos) : Json :=
  .obj [("secs", .int (t / perSecond : Nat)), ("nanos", .int (t % perSecond : Nat))]

end Nanos

namespace Phase

def ofRecord? (value : Json) : Option Phase := Json.plainChoice? value >>= ofName?

/-- The phase of a text. -/
def read? (text : String) : Option Phase := Json.parseLoosely? text >>= ofRecord?

def toJson (phase : Phase) : Json := .str phase.name

end Phase

namespace Handshake

def ofRecord? (value : Json) : Option Handshake := do
  match ← Json.choice? value with
  | ("unexpected", some inner) =>
    let slot ← Json.slots? ["kind"] inner
    unexpected <$> (slot "kind").required (Json.asText · |>.toOption)
  | _ =>
    match ← Json.plainChoice? value with
    | "pending" => some pending
    | "ready" => some ready
    | "timed_out" => some timedOut
    | _ => none

/-- The outcome of a text. -/
def read? (text : String) : Option Handshake := Json.parseLoosely? text >>= ofRecord?

def toJson : Handshake → Json
  | pending => .str "pending"
  | ready => .str "ready"
  | unexpected kind => .obj [("unexpected", .obj [("kind", .str kind)])]
  | timedOut => .str "timed_out"

end Handshake

namespace SessionPlan

/-- The names of a plan's fields. -/
def fieldNames : List String :=
  [ "session_id", "url", "language", "energy_threshold", "min_silence_frames", "token"
  , "chunk_duration_ms", "handshake_timeout", "drain_poll_timeout", "drain_window"
  , "drain_poll_interval", "strict_handshake" ]

def ofRecord? (value : Json) : Option SessionPlan := do
  let slot ← Json.slots? fieldNames value
  let text (name : String) := (slot name).required (Json.asText · |>.toOption)
  let duration (name : String) := (slot name).required Nanos.ofRecord?
  return {
    sessionId := ← text "session_id"
    url := ← text "url"
    language := ← text "language"
    energyThreshold := ← (slot "energy_threshold").required (Json.asSingle · |>.toOption)
    minSilenceFrames := ← (slot "min_silence_frames").required (Json.asUInt32 · |>.toOption)
    token := ← (slot "token").nullable (Json.asText · |>.toOption)
    chunkMs := UInt64.ofNat
      (← (slot "chunk_duration_ms").required (Json.asNatBelow? counterLimit))
    handshakeTimeout := ← duration "handshake_timeout"
    pollTimeout := ← duration "drain_poll_timeout"
    drainWindow := ← duration "drain_window"
    pollInterval := ← duration "drain_poll_interval"
    strict := ← (slot "strict_handshake").required (Json.asFlag · |>.toOption) }

/-- The plan of a text. -/
def read? (text : String) : Option SessionPlan := Json.parseLoosely? text >>= ofRecord?

def toJson (plan : SessionPlan) : Json :=
  .obj
    [ ("session_id", .str plan.sessionId)
    , ("url", .str plan.url)
    , ("language", .str plan.language)
    , ("energy_threshold", .single plan.energyThreshold)
    , ("min_silence_frames", .int plan.minSilenceFrames.toNat)
    , ("token", Json.ofOption .str plan.token)
    , ("chunk_duration_ms", .int plan.chunkMs.toNat)
    , ("handshake_timeout", plan.handshakeTimeout.toJson)
    , ("drain_poll_timeout", plan.pollTimeout.toJson)
    , ("drain_window", plan.drainWindow.toJson)
    , ("drain_poll_interval", plan.pollInterval.toJson)
    , ("strict_handshake", .bool plan.strict) ]

end SessionPlan

/-- The counters of a session with when it began and how long it took. -/
structure SessionReport where
  stats : Stats
  startedAt : Moment
  seconds : Double
  deriving DecidableEq, Repr, Inhabited

namespace SessionReport

/-- The names of a report's fields. -/
def fieldNames : List String :=
  [ "session_id", "peer_session_id", "started_at", "duration_secs", "final_state", "handshake"
  , "chunks_sent", "bytes_sent", "audio_secs_sent", "messages_received", "partial_transcripts"
  , "final_transcripts", "vad_updates", "server_errors", "decode_errors", "unknown_messages"
  , "end_sent", "peer_closed", "stream_error" ]

def ofRecord? (value : Json) : Option SessionReport := do
  let slot ← Json.slots? fieldNames value
  let text (value : Json) := (Json.asText value).toOption
  let count (name : String) := (slot name).required (Json.asNatBelow? counterLimit)
  let flag (name : String) := (slot name).required (Json.asFlag · |>.toOption)
  return {
    startedAt := ← (slot "started_at").required (text · >>= Moment.read?)
    seconds := ← (slot "duration_secs").required Json.asDouble?
    stats := {
      sessionId := ← (slot "session_id").required text
      peerSessionId := ← (slot "peer_session_id").nullable text
      finalPhase := ← (slot "final_state").required Phase.ofRecord?
      handshake := ← (slot "handshake").required Handshake.ofRecord?
      chunksSent := ← count "chunks_sent"
      bytesSent := ← count "bytes_sent"
      secondsSent := ← (slot "audio_secs_sent").required Json.asDouble?
      messagesReceived := ← count "messages_received"
      partialResults := ← count "partial_transcripts"
      finalResults := ← count "final_transcripts"
      vadUpdates := ← count "vad_updates"
      serverErrors := ← count "server_errors"
      decodeErrors := ← count "decode_errors"
      unknownMessages := ← count "unknown_messages"
      endSent := ← flag "end_sent"
      peerClosed := ← flag "peer_closed"
      streamError := ← (slot "stream_error").nullable text } }

/-- The report of a text. -/
def read? (text : String) : Option SessionReport := Json.parseLoosely? text >>= ofRecord?

def toJson (report : SessionReport) : Json :=
  let stats := report.stats
  .obj
    [ ("session_id", .str stats.sessionId)
    , ("peer_session_id", Json.ofOption .str stats.peerSessionId)
    , ("started_at", .str report.startedAt.text)
    , ("duration_secs", .real report.seconds)
    , ("final_state", stats.finalPhase.toJson)
    , ("handshake", stats.handshake.toJson)
    , ("chunks_sent", .int stats.chunksSent)
    , ("bytes_sent", .int stats.bytesSent)
    , ("audio_secs_sent", .real stats.secondsSent)
    , ("messages_received", .int stats.messagesReceived)
    , ("partial_transcripts", .int stats.partialResults)
    , ("final_transcripts", .int stats.finalResults)
    , ("vad_updates", .int stats.vadUpdates)
    , ("server_errors", .int stats.serverErrors)
    , ("decode_errors", .int stats.decodeErrors)
    , ("unknown_messages", .int stats.unknownMessages)
    , ("end_sent", .bool stats.endSent)
    , ("peer_closed", .bool stats.peerClosed)
    , ("stream_error", Json.ofOption .str stats.streamError) ]

end SessionReport

/-- A recognition result with when it arrived. -/
structure DatedSegment where
  segment : Segment
  receivedAt : Moment
  deriving DecidableEq, Repr, Inhabited

namespace DatedSegment

def ofRecord? (value : Json) : Option DatedSegment := do
  let slot ← Json.slots? ["text", "received_at", "peer_timestamp_ms", "partial"] value
  let text (value : Json) := (Json.asText value).toOption
  return {
    receivedAt := ← (slot "received_at").required (text · >>= Moment.read?)
    segment := {
      text := ← (slot "text").required text
      timestamp := ← (slot "peer_timestamp_ms").nullable (Json.asInt64 · |>.toOption)
      isPartial := ← (slot "partial").required (Json.asFlag · |>.toOption) } }

/-- The result of a text. -/
def read? (text : String) : Option DatedSegment := Json.parseLoosely? text >>= ofRecord?

def toJson (dated : DatedSegment) : Json :=
  .obj
    [ ("text", .str dated.segment.text)
    , ("received_at", .str dated.receivedAt.text)
    , ("peer_timestamp_ms", Json.ofOption .int dated.segment.timestamp)
    , ("partial", .bool dated.segment.isPartial) ]

end DatedSegment
end SpeechProbe
