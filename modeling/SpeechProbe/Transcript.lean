import SpeechProbe.Control.Call
import SpeechProbe.Text.Blank

/-!
# Transcripts

What a listener keeps of a session: every recognition result in order of arrival,
the peer's errors, and how often speech set in.
-/

namespace SpeechProbe

/-- A recognition result as it was delivered. -/
structure Segment where
  text : String
  /-- Whether the peer may still revise the text. -/
  isPartial : Bool
  /-- The peer's clock, in milliseconds. -/
  timestamp : Option Int
  deriving DecidableEq, Repr, Inhabited

/-- The results of a session so far. -/
structure Transcript where
  segments : List Segment
  /-- The texts of the errors the peer reported. -/
  errors : List String
  /-- How often a report of speech followed silence. -/
  onsets : Nat
  /-- Whether the last report was of speech. -/
  speaking : Bool
  deriving DecidableEq, Repr, Inhabited

namespace Transcript

def empty : Transcript := ⟨[], [], 0, false⟩

/-- The transcript after one more call. -/
def record (transcript : Transcript) : Call → Transcript
  | .transcription t =>
    { transcript with
      segments := transcript.segments ++ [⟨t.text, !t.isFinal, t.timestamp⟩] }
  | .vadState v =>
    { transcript with
      onsets := if v.isSpeech && !transcript.speaking then transcript.onsets + 1
        else transcript.onsets
      speaking := v.isSpeech }
  | .serverError e => { transcript with errors := transcript.errors ++ [e.message] }
  | .ready _ | .unknown _ => transcript

/-- The transcript of a run of calls. -/
def ofCalls (calls : List Call) : Transcript := calls.foldl record empty

/-- The transcript after one more text frame.  A frame that does not decode changes
nothing. -/
def hear (transcript : Transcript) (text : String) : Transcript :=
  match Inbound.decode text with
  | .ok message => transcript.record message.call
  | .error _ => transcript

/-- The transcript of a run of text frames. -/
def ofTexts (texts : List String) : Transcript := texts.foldl hear empty

/-- The words of the final results: trimmed, the empty ones left out. -/
def finalTexts (transcript : Transcript) : List String :=
  (transcript.segments.filterMap fun segment =>
    if segment.isPartial then none else some (Text.trim segment.text)).filter (· ≠ "")

/-- The final results, joined by single spaces. -/
def finalText (transcript : Transcript) : String :=
  String.intercalate " " transcript.finalTexts

end Transcript
end SpeechProbe
