import SpeechProbe.Proofs.Frames

/-!
# Strands of what is heard

A peer mixes messages of many kinds, and some frames do not decode.  The final text of a
transcript hangs on one strand of them alone, the final results, and the number of onsets on
another, the voice activity reports (`ofTexts_strands`).  Frames fall into their strands one by
one, so both can be put together from two parts of what was heard: final texts are joined by a
space, and onsets add up, but for speech that goes on from the first part into the second.
-/

namespace SpeechProbe

/-! ## Strands -/

/-- The final result that a call hands over. -/
def Call.final? : Call → Option Transcription
  | transcription t => if t.isFinal then some t else none
  | _ => none

/-- The voice activity report that a call hands over. -/
def Call.report? : Call → Option VadState
  | vadState v => some v
  | _ => none

namespace Transcript

/-- The final results among text frames, in order. -/
def finals (texts : List String) : List Transcription :=
  (texts.filterMap Call.ofText?).filterMap Call.final?

/-- The voice activity reports among text frames, in order. -/
def reports (texts : List String) : List VadState :=
  (texts.filterMap Call.ofText?).filterMap Call.report?

theorem finals_append (texts texts' : List String) :
    finals (texts ++ texts') = finals texts ++ finals texts' := by
  rw [finals, List.filterMap_append, List.filterMap_append]
  rfl

theorem reports_append (texts texts' : List String) :
    reports (texts ++ texts') = reports texts ++ reports texts' := by
  rw [reports, List.filterMap_append, List.filterMap_append]
  rfl

/-- A transcript hears the calls that its frames cause. -/
theorem ofTexts_eq_ofCalls (texts : List String) :
    ofTexts texts = ofCalls (texts.filterMap Call.ofText?) := by
  rw [ofCalls, ofTexts]
  generalize empty = transcript
  induction texts generalizing transcript with
  | nil => rfl
  | cons text texts ih =>
    rw [List.foldl_cons, ih, hear, List.filterMap_cons, Call.ofText?]
    cases Inbound.decode text <;> rfl

/-! ## The final text -/

/-- The words of final results; a result without words adds nothing. -/
def spoken (results : List Transcription) : List String :=
  (results.map fun result => Text.trim result.text).filter (· ≠ "")

/-- Two texts with a space between them, if there is something on both sides of it. -/
def spaced (first second : String) : String :=
  if first = "" then second else if second = "" then first else first ++ " " ++ second

theorem spoken_append (results results' : List Transcription) :
    spoken (results ++ results') = spoken results ++ spoken results' := by
  rw [spoken, List.map_append, List.filter_append]
  rfl

/-- Segments that are not partial are final results. -/
theorem final?_eq_bind_segment? (call : Call) :
    (call.segment?.bind fun segment =>
        if segment.isPartial then none else some (Text.trim segment.text)) =
      call.final?.map fun result => Text.trim result.text := by
  cases call with
  | transcription t => cases hfinal : t.isFinal <;> simp [Call.segment?, Call.final?, hfinal]
  | _ => rfl

theorem finalText_ofTexts (texts : List String) :
    (ofTexts texts).finalText = String.intercalate " " (spoken (finals texts)) := by
  rw [finalText, finalTexts, ofTexts_eq_ofCalls, ofCalls, segments_foldl, empty, List.nil_append,
    List.filterMap_filterMap, spoken, finals, List.map_filterMap]
  simp only [final?_eq_bind_segment?]

/-- The final text is empty exactly if nothing was said. -/
theorem intercalate_spoken_eq_empty {results : List Transcription} :
    String.intercalate " " (spoken results) = "" ↔ spoken results = [] := by
  constructor
  · intro h
    cases hspoken : spoken results with
    | nil => rfl
    | cons word rest =>
      have hmem : word ∈ spoken results := by simp [hspoken]
      have hword : word ≠ "" := by simpa using (List.mem_filter.mp hmem).2
      rw [hspoken] at h
      cases rest with
      | nil => exact absurd (by simpa using h) hword
      | cons next rest => simp [hword] at h
  · intro h
    rw [h, String.intercalate_nil]

theorem finalText_append (texts texts' : List String) :
    (ofTexts (texts ++ texts')).finalText =
      spaced (ofTexts texts).finalText (ofTexts texts').finalText := by
  simp only [finalText_ofTexts, finals_append, spoken_append, spaced,
    intercalate_spoken_eq_empty]
  split
  · rename_i hnothing
    rw [hnothing, List.nil_append]
  · split
    · rename_i hnothing
      rw [hnothing, List.append_nil]
    · exact String.intercalate_append_of_ne_nil ‹_› ‹_›

/-! ## Onsets -/

/-- How often speech sets in, where it went on before or did not. -/
def onsetsAfter : Bool → List VadState → Nat
  | _, [] => 0
  | speaking, report :: rest =>
    (if report.isSpeech && !speaking then 1 else 0) + onsetsAfter report.isSpeech rest

/-- Whether speech goes on after some reports, where it went on before or did not. -/
def speaksAfter : Bool → List VadState → Bool
  | speaking, [] => speaking
  | _, report :: rest => speaksAfter report.isSpeech rest

theorem speaksAfter_eq (speaking : Bool) (reports : List VadState) :
    speaksAfter speaking reports = (reports.getLast?.map VadState.isSpeech).getD speaking := by
  induction reports generalizing speaking with
  | nil => rfl
  | cons report rest ih =>
    rw [speaksAfter, ih]
    cases rest <;> simp [List.getLast?_cons]

theorem onsetsAfter_append (speaking : Bool) (before after : List VadState) :
    onsetsAfter speaking (before ++ after) =
      onsetsAfter speaking before + onsetsAfter (speaksAfter speaking before) after := by
  induction before generalizing speaking with
  | nil => simp [onsetsAfter, speaksAfter]
  | cons report rest ih =>
    rw [List.cons_append, onsetsAfter, onsetsAfter, ih, speaksAfter, Nat.add_assoc]

theorem onsets_foldl (calls : List Call) (transcript : Transcript) :
    (calls.foldl record transcript).onsets =
      transcript.onsets + onsetsAfter transcript.speaking (calls.filterMap Call.report?) := by
  induction calls generalizing transcript with
  | nil => rfl
  | cons call calls ih =>
    rw [List.foldl_cons, ih, List.filterMap_cons]
    cases call with
    | vadState v =>
      simp only [record, Call.report?, onsetsAfter, ← Nat.add_assoc]
      split <;> rfl
    | _ => rfl

theorem onsets_ofTexts (texts : List String) :
    (ofTexts texts).onsets = onsetsAfter false (reports texts) := by
  rw [ofTexts_eq_ofCalls, ofCalls, onsets_foldl, empty, reports, Nat.zero_add]

/-- The last of some reports and the first of others are both of speech. -/
def SpeaksAcross (before after : List VadState) : Prop :=
  before.getLast?.map VadState.isSpeech = some true ∧
    after.head?.map VadState.isSpeech = some true

instance (before after : List VadState) : Decidable (SpeaksAcross before after) :=
  inferInstanceAs (Decidable (_ ∧ _))

/-- An onset is missed where speech went on before it. -/
theorem onsetsAfter_add (speaking : Bool) (reports : List VadState) :
    onsetsAfter speaking reports +
        (if speaking = true ∧ reports.head?.map VadState.isSpeech = some true then 1 else 0) =
      onsetsAfter false reports := by
  cases reports with
  | nil => simp [onsetsAfter]
  | cons report rest =>
    cases speaking <;> cases hspeech : report.isSpeech <;>
      simp [onsetsAfter, hspeech, Nat.add_comm]

theorem onsets_append (texts texts' : List String) :
    (ofTexts (texts ++ texts')).onsets +
        (if SpeaksAcross (reports texts) (reports texts') then 1 else 0) =
      (ofTexts texts).onsets + (ofTexts texts').onsets := by
  have hacross : speaksAfter false (reports texts) = true ∧
      (reports texts').head?.map VadState.isSpeech = some true ↔
        SpeaksAcross (reports texts) (reports texts') := by
    rw [speaksAfter_eq, SpeaksAcross]
    cases (reports texts).getLast? <;> simp
  rw [onsets_ofTexts, onsets_ofTexts, onsets_ofTexts, reports_append, onsetsAfter_append,
    Nat.add_assoc, ← onsetsAfter_add (speaksAfter false (reports texts)) (reports texts'),
    ite_cond_congr (propext hacross)]

/-! ## Any interleaving -/

/-- The final text is made of the final results alone, and the number of onsets of the voice
activity reports alone, whatever else is heard between them.  Of two parts of what was heard,
the final texts are joined by a space, and the onsets add up but for one, where speech goes on
from the first part into the second. -/
theorem ofTexts_strands :
    (∀ texts, (ofTexts texts).finalText = String.intercalate " " (spoken (finals texts)) ∧
      (ofTexts texts).onsets = onsetsAfter false (reports texts)) ∧
    (∀ texts texts',
      (finals texts = finals texts' → (ofTexts texts).finalText = (ofTexts texts').finalText) ∧
      (reports texts = reports texts' → (ofTexts texts).onsets = (ofTexts texts').onsets)) ∧
    (∀ texts texts', (ofTexts (texts ++ texts')).finalText =
        spaced (ofTexts texts).finalText (ofTexts texts').finalText ∧
      (ofTexts (texts ++ texts')).onsets +
          (if SpeaksAcross (reports texts) (reports texts') then 1 else 0) =
        (ofTexts texts).onsets + (ofTexts texts').onsets) := by
  refine ⟨fun texts => ⟨finalText_ofTexts texts, onsets_ofTexts texts⟩, ?_,
    fun texts texts' => ⟨finalText_append texts texts', onsets_append texts texts'⟩⟩
  intro texts texts'
  constructor
  · intro hfinals
    rw [finalText_ofTexts, finalText_ofTexts, hfinals]
  · intro hreports
    rw [onsets_ofTexts, onsets_ofTexts, hreports]

/-- Two final results and two reports of speech. -/
def terse : List String :=
  [ "\x7b\"type\":\"transcription\",\"text\":\" uno \",\"is_final\":true\x7d"
  , "\x7b\"type\":\"vad_state\",\"is_speech\":true,\"energy\":0.5\x7d"
  , "\x7b\"type\":\"transcription\",\"text\":\"dos\",\"is_final\":true\x7d"
  , "\x7b\"type\":\"vad_state\",\"is_speech\":true\x7d" ]

/-- The same among messages of every other kind, in another order. -/
def garrulous : List String :=
  [ "\x7b\"type\":\"ready\"\x7d"
  , "\x7b\"type\":\"vad_state\",\"energy\":0.5,\"is_speech\":true\x7d"
  , "\x7b\"type\":\"transcription\",\"text\":\"un\"\x7d"
  , "\x7b\"type\":\"transcription\",\"text\":\" uno \",\"is_final\":true\x7d"
  , "\x7b\"type\":\"vad_state\"\x7d"
  , "\x7b\"type\":\"vad_state\",\"is_speech\":true\x7d"
  , "\x7b\"type\":\"error\",\"message\":\"busy\"\x7d"
  , "\x7b\"type\":\"pong\"\x7d"
  , "\x7b\"type\":\"transcription\",\"text\":\"dos\",\"is_final\":true\x7d" ]

theorem ofTexts_strands_garrulous :
    finals terse = finals garrulous ∧ reports terse = reports garrulous ∧
      (ofTexts terse).finalText = (ofTexts garrulous).finalText ∧
      (ofTexts terse).onsets = (ofTexts garrulous).onsets ∧
      SpeaksAcross (reports terse) (reports garrulous) := by
  have hfinals : finals terse = finals garrulous := by decide +kernel
  have hreports : reports terse = reports garrulous := by decide +kernel
  exact ⟨hfinals, hreports, (ofTexts_strands.2.1 _ _).1 hfinals,
    (ofTexts_strands.2.1 _ _).2 hreports, by decide +kernel⟩

end Transcript
end SpeechProbe
