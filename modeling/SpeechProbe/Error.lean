/-!
# Errors

One constructor per cause.  `Error.message` holds the only wording of each, and
`Error.isFatal` says which causes end a run before any audio is sent.
-/

namespace SpeechProbe

/-- What can go wrong between reading a command line and closing a session. -/
inductive Error where
  /-- The peer at `url` could not be reached. -/
  | connection (url reason : String)
  /-- The peer has closed the connection. -/
  | closedByPeer
  /-- The connection failed while in use. -/
  | transport (reason : String)
  /-- Audio in an encoding that is not streamed. -/
  | unsupportedFormat (bits : Nat) (encoding : String)
  /-- No synthetic signal has this name. -/
  | unknownSignal (name : String)
  /-- An audio file could not be read. -/
  | audioFile (reason : String)
  /-- Live capture could not be started or stopped. -/
  | capture (reason : String)
  /-- A text frame from the peer is no control message. -/
  | undecodable (reason : String)
  /-- A control message has no text form. -/
  | unencodable (reason : String)
  /-- The peer broke the rules of the handshake. -/
  | protocolViolation (reason : String)
  /-- The peer reported an error of its own. -/
  | reportedByPeer (reason : String) (code : Option String)
  /-- A setting has an unusable value. -/
  | setting (key reason : String)
  /-- Input or output failed. -/
  | io (reason : String)
  deriving DecidableEq, Repr, Inhabited

namespace Error

/-- The text shown to a user. -/
def message : Error → String
  | connection url reason => "Failed to connect to " ++ url ++ ": " ++ reason
  | closedByPeer => "Connection closed by peer"
  | transport reason => "Transport error: " ++ reason
  | unsupportedFormat bits encoding =>
    "Unsupported audio format: " ++ bits.repr ++ "-bit " ++ encoding
  | unknownSignal name =>
    "Unknown generator type: " ++ name ++ " (expected silence, noise, tone or sweep)"
  | audioFile reason => "Audio file error: " ++ reason
  | capture reason => "Audio capture failed: " ++ reason
  | undecodable reason => "Failed to decode control message: " ++ reason
  | unencodable reason => "Failed to encode control message: " ++ reason
  | protocolViolation reason => "Protocol violation: " ++ reason
  | reportedByPeer reason _ => "Server reported error: " ++ reason
  | setting key reason => "Invalid configuration value for " ++ key ++ ": " ++ reason
  | io reason => "I/O error: " ++ reason

/-- Whether the error ends a run before any audio is sent. -/
def isFatal : Error → Bool
  | connection .. | unsupportedFormat .. | unknownSignal .. | audioFile ..
  | capture .. | protocolViolation .. | setting .. => true
  | closedByPeer | transport .. | undecodable .. | unencodable ..
  | reportedByPeer .. | io .. => false

end Error
end SpeechProbe
