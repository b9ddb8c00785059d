import SpeechProbe.Control.Call
import SpeechProbe.Text.Blank

/-!
# Peer addresses
-/

namespace SpeechProbe.Endpoint

/-- Whether an address asks for an encrypted connection; blanks before it and ASCII
case do not matter. -/
def isSecure (url : String) : Bool :=
  "wss://".toList.isPrefixOf (Text.lowerAscii (Text.trimStart url)).toList

/-- What is logged before an encrypted connection is made. -/
def securityNotes (url : String) : List Note :=
  if isSecure url then
    [.warn ("TLS certificate verification is disabled for " ++ url)]
  else []

/-- Connect to a peer.  This library brings no network of its own, so every attempt
ends here; a transport is handed to a session by whoever has one. -/
def connect (url : String) : List Note × Error :=
  (securityNotes url, .connection url "no network transport is available")

end SpeechProbe.Endpoint
