import SpeechProbe.Session.Stats
import SpeechProbe.Transcript

/-!
# Text frames

Every text frame is of one of seven kinds, and a frame that decodes causes one call of
the listener.  What a transcript keeps of a run of calls is kept here of the frames that
caused them: its segments are the recognition results among them, in order, and its errors
are the errors the peer reported.
-/

namespace SpeechProbe

/-! ## Kinds of text frames -/

/-- What a text frame is to the counters. -/
inductive FrameKind where
  | partialResult
  | finalResult
  | vadUpdate
  | serverError
  | unknown
  | undecodable
  /-- The peer is ready; no counter of its own. -/
  | ready
  deriving DecidableEq, Repr, Inhabited

def Inbound.frameKind : Inbound → FrameKind
  | transcription t => if t.isFinal then .finalResult else .partialResult
  | vadState _ => .vadUpdate
  | error _ => .serverError
  | unknown _ => .unknown
  | ready _ => .ready

namespace FrameKind

/-- The kind of a text frame. -/
def ofText (text : String) : FrameKind :=
  match Inbound.decode text with
  | .ok message => message.frameKind
  | .error _ => .undecodable

/-- How many of the given text frames are of a kind. -/
def occurrences (kind : FrameKind) (texts : List String) : Nat :=
  texts.countP fun text => decide (ofText text = kind)

@[simp] theorem occurrences_nil (kind : FrameKind) : kind.occurrences [] = 0 := rfl

theorem occurrences_append (kind : FrameKind) (texts texts' : List String) :
    kind.occurrences (texts ++ texts') = kind.occurrences texts + kind.occurrences texts' :=
  List.countP_append

theorem occurrences_cons (kind : FrameKind) (text : String) (texts : List String) :
    kind.occurrences (text :: texts) =
      kind.occurrences texts + if ofText text = kind then 1 else 0 := by
  simp [occurrences, List.countP_cons]

/-- Every text frame is of exactly one kind. -/
theorem length_eq_occurrences (texts : List String) :
    texts.length = partialResult.occurrences texts + finalResult.occurrences texts +
      vadUpdate.occurrences texts + serverError.occurrences texts +
      unknown.occurrences texts + undecodable.occurrences texts + ready.occurrences texts := by
  induction texts with
  | nil => rfl
  | cons text texts ih =>
    simp only [occurrences_cons, List.length_cons]
    cases ofText text <;> simp <;> omega

end FrameKind

/-! ## Calls of the listener -/

/-- The call that a text frame causes, if it decodes. -/
def Call.ofText? (text : String) : Option Call := (Inbound.decode text).toOption.map Inbound.call

/-- Whether a text frame decodes. -/
def Inbound.decodes (text : String) : Bool := (Inbound.decode text).toBool

/-- What a call adds to the segments of a transcript. -/
def Call.segment? : Call → Option Segment
  | transcription t => some ⟨t.text, !t.isFinal, t.timestamp⟩
  | _ => none

/-- What a call adds to the errors of a transcript. -/
def Call.error? : Call → Option String
  | serverError e => some e.message
  | _ => none

/-- The recognition result in a text frame. -/
def Segment.ofText? (text : String) : Option Segment :=
  (Call.ofText? text).bind Call.segment?

/-- A text frame holds a recognition result if it is of one of the two kinds of results. -/
theorem Segment.isSome_ofText? (text : String) : (Segment.ofText? text).isSome =
    (decide (FrameKind.ofText text = .partialResult) ||
      decide (FrameKind.ofText text = .finalResult)) := by
  unfold ofText? Call.ofText? FrameKind.ofText
  cases Inbound.decode text with
  | error reason => rfl
  | ok message =>
    cases message with
    | transcription t => cases hfinal : t.isFinal <;>
        simp [Except.toOption, Inbound.call, Call.segment?, Inbound.frameKind, hfinal]
    | _ => rfl

/-- A text frame holds an error of the peer if it is of that kind. -/
theorem Call.isSome_error? (text : String) :
    ((Call.ofText? text).bind Call.error?).isSome =
      decide (FrameKind.ofText text = .serverError) := by
  unfold ofText? FrameKind.ofText
  cases Inbound.decode text with
  | error reason => rfl
  | ok message =>
    cases message with
    | transcription t => cases hfinal : t.isFinal <;>
        simp [Except.toOption, Inbound.call, Call.error?, Inbound.frameKind, hfinal]
    | _ => rfl

namespace Transcript

theorem segments_foldl (calls : List Call) (transcript : Transcript) :
    (calls.foldl record transcript).segments =
      transcript.segments ++ calls.filterMap Call.segment? := by
  induction calls generalizing transcript with
  | nil => simp
  | cons call calls ih =>
    rw [List.foldl_cons, ih, List.filterMap_cons]
    cases call <;> simp [record, Call.segment?]

theorem errors_foldl (calls : List Call) (transcript : Transcript) :
    (calls.foldl record transcript).errors =
      transcript.errors ++ calls.filterMap Call.error? := by
  induction calls generalizing transcript with
  | nil => simp
  | cons call calls ih =>
    rw [List.foldl_cons, ih, List.filterMap_cons]
    cases call <;> simp [record, Call.error?]

/-- The segments are the recognition results among the frames, in order. -/
theorem segments_ofCalls (texts : List String) :
    (ofCalls (texts.filterMap Call.ofText?)).segments = texts.filterMap Segment.ofText? := by
  rw [ofCalls, segments_foldl, List.filterMap_filterMap]
  rfl

/-- There is a segment for each partial and for each final result. -/
theorem length_segments (texts : List String) :
    (texts.filterMap Segment.ofText?).length =
      FrameKind.partialResult.occurrences texts + FrameKind.finalResult.occurrences texts := by
  simp only [List.length_filterMap_eq_countP, Segment.isSome_ofText?]
  induction texts with
  | nil => rfl
  | cons text texts ih =>
    simp only [List.countP_cons, FrameKind.occurrences_cons, ih]
    cases FrameKind.ofText text <;> simp <;> omega

/-- There is an error for each error the peer reported. -/
theorem length_errors (texts : List String) :
    (ofCalls (texts.filterMap Call.ofText?)).errors.length =
      FrameKind.serverError.occurrences texts := by
  rw [ofCalls, errors_foldl, List.filterMap_filterMap]
  simp only [empty, List.nil_append, List.length_filterMap_eq_countP, FrameKind.occurrences,
    Call.isSome_error?]

/-- A transcript hears the frames that decode, and no others. -/
theorem ofCalls_eq_ofTexts (texts : List String) :
    ofCalls (texts.filterMap Call.ofText?) = ofTexts (texts.filter Inbound.decodes) := by
  rw [ofCalls, ofTexts]
  generalize empty = transcript
  induction texts generalizing transcript with
  | nil => rfl
  | cons text texts ih =>
    cases hdecode : Inbound.decode text with
    | ok message =>
      have hcall : Call.ofText? text = some message.call := by
        simp [Call.ofText?, hdecode, Except.toOption]
      have hdecodes : Inbound.decodes text = true := by
        simp [Inbound.decodes, hdecode, Except.toBool]
      rw [List.filterMap_cons_some hcall, List.filter_cons_of_pos hdecodes, List.foldl_cons,
        List.foldl_cons, ih, hear, hdecode]
    | error reason =>
      have hcall : Call.ofText? text = none := by
        simp [Call.ofText?, hdecode, Except.toOption]
      have hdecodes : ¬Inbound.decodes text = true := by
        simp [Inbound.decodes, hdecode, Except.toBool]
      rw [List.filterMap_cons_none hcall, List.filter_cons_of_neg hdecodes, ih]

end Transcript
end SpeechProbe
