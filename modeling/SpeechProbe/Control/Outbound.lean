import SpeechProbe.Json.Writer

/-!
# Messages to the peer

Two text frames are ever sent: the session parameters before the audio, and the end
mark after it.
-/

namespace SpeechProbe

/-- The session parameters a peer is told before the audio. -/
structure Announcement where
  language : String
  /-- Energy threshold of the peer's voice activity detector. -/
  energyThreshold : Single
  /-- Silent frames before the peer ends an utterance. -/
  minSilenceFrames : UInt32
  token : Option String
  deriving DecidableEq, Repr, Inhabited

namespace Announcement

/-- The members of the message; a token that is not set is left out. -/
def members (a : Announcement) : List (String × Json) :=
  [ ("language", .str a.language)
  , ("energy_threshold", .single a.energyThreshold)
  , ("min_silence_frames", .int a.minSilenceFrames.toNat) ] ++
    (match a.token with
      | some token => [("token", .str token)]
      | none => [])

end Announcement

/-- A message to the peer. -/
inductive Outbound where
  | config (announcement : Announcement)
  /-- No more audio follows. -/
  | finished
  deriving DecidableEq, Repr, Inhabited

namespace Outbound

/-- The name of the message on the wire. -/
def kind : Outbound → String
  | config _ => "config"
  | finished => "end"

def toJson : Outbound → Json
  | config a => .obj (("type", .str "config") :: a.members)
  | finished => .obj [("type", .str "end")]

/-- The text frame that carries the message. -/
def text (message : Outbound) : String := message.toJson.render

end Outbound
end SpeechProbe
