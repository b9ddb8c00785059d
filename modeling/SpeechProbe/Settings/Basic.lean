import SpeechProbe.Session.Plan

/-!
# Settings

Everything a user can set, in three sections, with the values used where nothing is
set.
-/

namespace SpeechProbe

/-- Where the peer is and how to be let in. -/
structure ServerSettings where
  url : String
  token : Option String
  deriving DecidableEq, Repr, Inhabited

/-- What the peer is told and how long things may take. -/
structure SessionSettings where
  language : String
  energyThreshold : Single
  minSilenceFrames : UInt32
  handshakeTimeoutSecs : UInt64
  drainWindowSecs : UInt64
  drainPollIntervalMs : UInt64
  strictHandshake : Bool
  deriving DecidableEq, Repr, Inhabited

/-- How audio is produced and cut. -/
structure AudioSettings where
  sampleRate : UInt32
  fileChunkMs : UInt64
  streamChunkMs : UInt64
  liveQueueCapacity : UInt64
  deriving DecidableEq, Repr, Inhabited

/-- Everything a user can set. -/
structure Settings where
  server : ServerSettings
  session : SessionSettings
  audio : AudioSettings
  deriving DecidableEq, Repr, Inhabited

/-- Why settings cannot be used. -/
inductive SettingsError where
  /-- The file of the given name cannot be found or read. -/
  | unreadable (name : String)
  /-- A setting has a value of the wrong type. -/
  | illTyped
  /-- The peer's address is no WebSocket address. -/
  | badUrl (url : String)
  | noSampleRate
  | noChunkDuration
  | noQueueCapacity
  deriving DecidableEq, Repr, Inhabited

def SettingsError.message : SettingsError → String
  | unreadable name => "Failed to load config from " ++ name
  | illTyped => "Invalid configuration"
  | badUrl url => "server.url must start with ws:// or wss:// (got " ++ url ++ ")"
  | noSampleRate => "audio.sample_rate must be positive"
  | noChunkDuration => "audio chunk durations must be positive"
  | noQueueCapacity => "audio.live_queue_capacity must be positive"

/-- How a live capture is to deliver its blocks. -/
structure CaptureSettings where
  rate : UInt32
  /-- Milliseconds per block. -/
  blockMs : UInt64
  queueCapacity : UInt64
  deriving DecidableEq, Repr, Inhabited

namespace CaptureSettings

/-- Samples per block. -/
def blockLength (capture : CaptureSettings) : Nat :=
  (Framing.mk capture.blockMs capture.rate).chunkLength

/-- Blocks of a tenth of a second at the rate peers expect. -/
def standard : CaptureSettings := ⟨16000, 100, 100⟩

end CaptureSettings

namespace Settings

/-- The settings where nothing is set. -/
def standard : Settings where
  server := ⟨"ws://localhost:9001", none⟩
  session := ⟨"es", SessionPlan.usualThreshold, 20, 10, 3, 100, false⟩
  audio := ⟨16000, 500, 100, 100⟩

/-- Whether an address names a WebSocket peer. -/
def isWebSocketUrl (url : String) : Bool :=
  "ws://".toList.isPrefixOf url.toList || "wss://".toList.isPrefixOf url.toList

/-- The first thing that makes settings unusable. -/
def check (settings : Settings) : Except SettingsError Unit :=
  if !isWebSocketUrl settings.server.url then .error (.badUrl settings.server.url)
  else if settings.audio.sampleRate = 0 then .error .noSampleRate
  else if settings.audio.fileChunkMs = 0 ∨ settings.audio.streamChunkMs = 0 then
    .error .noChunkDuration
  else if settings.audio.liveQueueCapacity = 0 then .error .noQueueCapacity
  else .ok ()

/-- The plan of one session with chunks of a given duration. -/
def plan (settings : Settings) (sessionId : String) (chunkMs : UInt64) : SessionPlan :=
  { SessionPlan.standard sessionId with
    url := settings.server.url
    token := settings.server.token
    language := settings.session.language
    energyThreshold := settings.session.energyThreshold
    minSilenceFrames := settings.session.minSilenceFrames
    chunkMs := chunkMs
    handshakeTimeout := Nanos.ofSeconds settings.session.handshakeTimeoutSecs.toNat
    drainWindow := Nanos.ofSeconds settings.session.drainWindowSecs.toNat
    pollInterval := Nanos.ofMillis settings.session.drainPollIntervalMs.toNat
    strict := settings.session.strictHandshake }

/-- How a live capture is to deliver its blocks. -/
def capture (settings : Settings) : CaptureSettings :=
  ⟨settings.audio.sampleRate, settings.audio.streamChunkMs, settings.audio.liveQueueCapacity⟩

end Settings
end SpeechProbe
