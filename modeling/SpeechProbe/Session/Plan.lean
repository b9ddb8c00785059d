import SpeechProbe.Control.Outbound
import SpeechProbe.Error
import SpeechProbe.Sample.Framing
import SpeechProbe.Time.Duration

/-!
# What one session is to do

The parameters of a single session: what the peer is told, how audio is cut, and how
long each part of the conversation may take.
-/

namespace SpeechProbe

/-- The parameters of one session. -/
structure SessionPlan where
  /-- The name of the run in the log. -/
  sessionId : String
  url : String
  language : String
  energyThreshold : Single
  minSilenceFrames : UInt32
  token : Option String
  /-- Milliseconds of audio per chunk. -/
  chunkMs : UInt64
  /-- How long to wait for the peer to be ready. -/
  handshakeTimeout : Nanos
  /-- How long one look for waiting messages may take. -/
  pollTimeout : Nanos
  /-- How long trailing results are collected after the end mark. -/
  drainWindow : Nanos
  /-- The pause between two looks inside the window. -/
  pollInterval : Nanos
  /-- Whether a first answer other than `ready` ends the session. -/
  strict : Bool
  deriving DecidableEq, Repr, Inhabited

namespace SessionPlan

/-- Two hundredths, the usual energy threshold. -/
def usualThreshold : Single := ⟨0x3ca3d70a⟩

/-- The usual parameters of a session. -/
def standard (sessionId : String) : SessionPlan where
  sessionId := sessionId
  url := "ws://localhost:9001"
  language := "es"
  energyThreshold := usualThreshold
  minSilenceFrames := 20
  token := none
  chunkMs := 100
  handshakeTimeout := Nanos.ofSeconds 10
  pollTimeout := Nanos.ofMillis 1
  drainWindow := Nanos.ofSeconds 3
  pollInterval := Nanos.ofMillis 100
  strict := false

/-- A plan whose chunks have no duration cannot be carried out. -/
def check (plan : SessionPlan) : Except Error Unit :=
  if plan.chunkMs = 0 then .error (.setting "chunk_duration_ms" "must be positive")
  else .ok ()

/-- What the peer is told before the audio. -/
def announcement (plan : SessionPlan) : Announcement where
  language := plan.language
  energyThreshold := plan.energyThreshold
  minSilenceFrames := plan.minSilenceFrames
  token := plan.token

/-- How audio of a rate is cut. -/
def framing (plan : SessionPlan) (rate : UInt32) : Framing := ⟨plan.chunkMs, rate⟩

end SessionPlan
end SpeechProbe
