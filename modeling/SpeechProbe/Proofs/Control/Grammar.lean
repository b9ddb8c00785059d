import SpeechProbe.Control.Inbound
import SpeechProbe.Proofs.Json.Members
import SpeechProbe.Proofs.Json.RoundTrip

/-!
# The grammar of messages from the peer

`Inbound.Conforms` says of each kind which members its objects have and what message they are,
without an order in which members are looked at and without complaints.  A text frame decodes
exactly if it is an object of this grammar, and then as the message the grammar names
(`decode_grammar`); the message bears the name of its kind, and every other frame is refused
as undecodable.  Neither the order of the members nor members that no kind asks for matter.
-/

namespace SpeechProbe

/-! ## Settings a peer echoes -/

/-- An object, or a list of at most two values; what is left out is not set. -/
inductive PeerSettings.IsSettings : Json → PeerSettings → Prop where
  | obj {members : List (String × Json)} {settings : PeerSettings}
      (language : Json.Nullable Json.IsText (Json.last? "language" members) settings.language)
      (sampleRate :
        Json.Nullable Json.IsUInt32 (Json.last? "sample_rate" members) settings.sampleRate) :
      IsSettings (.obj members) settings
  | arr {items : List Json} {settings : PeerSettings} (short : items.length ≤ 2)
      (language : Json.Nullable Json.IsText items[0]? settings.language)
      (sampleRate : Json.Nullable Json.IsUInt32 items[1]? settings.sampleRate) :
      IsSettings (.arr items) settings

namespace PeerSettings

open Json

theorem ofJson_obj_eq_ok {members : List (String × Json)} {settings : PeerSettings} :
    ofJson (.obj members) = .ok settings ↔ IsSettings (.obj members) settings := by
  simp only [ofJson, Except.bind_eq_ok, optional_eq_ok readBy_text, optional_eq_ok readBy_uint32,
    pure, Except.pure, Except.ok.injEq]
  constructor
  · rintro ⟨language, hlanguage, sampleRate, hrate, rfl⟩
    exact .obj hlanguage hrate
  · rintro (⟨hlanguage, hrate⟩ | _)
    exact ⟨_, hlanguage, _, hrate, rfl⟩

theorem ofJson_arr_eq_ok {items : List Json} {settings : PeerSettings} :
    ofJson (.arr items) = .ok settings ↔ IsSettings (.arr items) settings := by
  constructor
  · intro h
    rcases items with _ | ⟨language, _ | ⟨sampleRate, more⟩⟩
    · cases h
      exact .arr (by simp) .absent .absent
    · simp only [ofJson, Except.bind_eq_ok, orNull_eq_ok readBy_text, pure, Except.pure,
        Except.ok.injEq] at h
      obtain ⟨found, hfound, rfl⟩ := h
      exact .arr (by simp) hfound .absent
    · simp only [ofJson, Except.bind_eq_ok, orNull_eq_ok readBy_text,
        orNull_eq_ok readBy_uint32, pure, Except.pure] at h
      obtain ⟨found, hfound, rate, hrate, h⟩ := h
      rcases more with _ | ⟨third, more⟩
      · cases h
        exact .arr (by simp) hfound hrate
      · simp at h
  · rintro (_ | ⟨hshort, hlanguage, hrate⟩)
    rcases items with _ | ⟨language, _ | ⟨sampleRate, _ | ⟨third, more⟩⟩⟩
    · rcases settings with ⟨_, _⟩
      cases hlanguage
      cases hrate
      rfl
    · rcases settings with ⟨_, _⟩
      cases hrate
      simp only [ofJson, Except.bind_eq_ok, orNull_eq_ok readBy_text]
      exact ⟨_, hlanguage, rfl⟩
    · simp only [ofJson, Except.bind_eq_ok, orNull_eq_ok readBy_text, orNull_eq_ok readBy_uint32]
      exact ⟨_, hlanguage, _, hrate, rfl⟩
    · simp at hshort

theorem readBy_ofJson : ReadBy IsSettings ofJson where
  eq_ok value settings := by
    cases value with
    | obj members => exact ofJson_obj_eq_ok
    | arr items => exact ofJson_arr_eq_ok
    | _ =>
      constructor
      · intro h
        simp [ofJson] at h
      · rintro ⟨⟩
  null := nofun

end PeerSettings

/-! ## Messages -/

namespace Inbound

open Json

/-- The kinds that have members of their own. -/
def knownKinds : List String := ["ready", "transcription", "vad_state", "error"]

/-- The names of the members that a message of a kind may have besides its kind. -/
def memberNames : String → List String
  | "ready" => ["session_id", "config"]
  | "transcription" => ["text", "is_final", "timestamp"]
  | "vad_state" => ["is_speech", "energy"]
  | "error" => ["message", "code"]
  | _ => []

/-- Members of a kind that are a message. -/
inductive Conforms (members : List (String × Json)) : String → Inbound → Prop where
  | ready {message : Ready}
      (sessionId : Nullable IsText (last? "session_id" members) message.sessionId)
      (settings : Nullable PeerSettings.IsSettings (last? "config" members) message.settings) :
      Conforms members "ready" (.ready message)
  | transcription {message : Transcription}
      (text : Required IsText (last? "text" members) message.text)
      (isFinal : Defaulted false IsFlag (last? "is_final" members) message.isFinal)
      (timestamp : Nullable IsInt64 (last? "timestamp" members) message.timestamp) :
      Conforms members "transcription" (.transcription message)
  | vadState {message : VadState}
      (isSpeech : Required IsFlag (last? "is_speech" members) message.isSpeech)
      (energy : Defaulted Single.zero IsNumber (last? "energy" members) message.energy) :
      Conforms members "vad_state" (.vadState message)
  | error {message : PeerError}
      (reason : Required IsText (last? "message" members) message.reason)
      (code : Nullable IsText (last? "code" members) message.code) :
      Conforms members "error" (.error message)
  | unknown {kind : String} (unknown : kind ∉ knownKinds) :
      Conforms members kind (.unknown kind)

namespace Conforms

variable {members : List (String × Json)} {kind : String} {message : Inbound}

theorem kind_eq (h : Conforms members kind message) : message.kind = kind := by
  cases h <;> rfl

/-- Only the members that the kind asks for count. -/
theorem of_last?_eq {members' : List (String × Json)} (h : Conforms members kind message)
    (heq : ∀ name ∈ memberNames kind, last? name members = last? name members') :
    Conforms members' kind message := by
  cases h with
  | ready sessionId settings =>
    rw [heq "session_id" (by decide)] at sessionId
    rw [heq "config" (by decide)] at settings
    exact .ready sessionId settings
  | transcription text isFinal timestamp =>
    rw [heq "text" (by decide)] at text
    rw [heq "is_final" (by decide)] at isFinal
    rw [heq "timestamp" (by decide)] at timestamp
    exact .transcription text isFinal timestamp
  | vadState isSpeech energy =>
    rw [heq "is_speech" (by decide)] at isSpeech
    rw [heq "energy" (by decide)] at energy
    exact .vadState isSpeech energy
  | error reason code =>
    rw [heq "message" (by decide)] at reason
    rw [heq "code" (by decide)] at code
    exact .error reason code
  | unknown hunknown => exact .unknown hunknown

end Conforms

/-! ## Reading a message -/

section Reading

variable {members : List (String × Json)} {kind : String} {message : Inbound}

theorem ofMembers?_ready : ofMembers? members "ready" = some (.ok message) ↔
    Conforms members "ready" message := by
  simp only [ofMembers?, Option.some.injEq, Except.bind_eq_ok,
    optional_eq_ok PeerSettings.readBy_ofJson, optional_eq_ok readBy_text, pure, Except.pure,
    Except.ok.injEq]
  constructor
  · rintro ⟨settings, hsettings, sessionId, hid, rfl⟩
    exact .ready hid hsettings
  · intro h
    generalize hkind : "ready" = kind at h
    cases h with
    | ready sessionId settings => exact ⟨_, settings, _, sessionId, rfl⟩
    | unknown hunknown => exact absurd (hkind ▸ by decide) hunknown
    | _ => simp at hkind

theorem ofMembers?_transcription : ofMembers? members "transcription" = some (.ok message) ↔
    Conforms members "transcription" message := by
  simp only [ofMembers?, Option.some.injEq, Except.bind_eq_ok, field?_eq_ok readBy_flag,
    field?_eq_ok readBy_text, optional_eq_ok readBy_int64, present_eq_ok, pure, Except.pure,
    Except.ok.injEq]
  constructor
  · rintro ⟨isFinal, hfinal, _, htext, timestamp, htime, text, rfl, rfl⟩
    refine .transcription (given_some_iff.mp htext) ?_ htime
    exact defaulted_iff.mpr ⟨isFinal, hfinal, rfl⟩
  · intro h
    generalize hkind : "transcription" = kind at h
    cases h with
    | @transcription transcription text isFinal timestamp =>
      obtain ⟨found, hfound, hdefault⟩ := defaulted_iff.mp isFinal
      exact ⟨found, hfound, _, given_some_iff.mpr text, _, timestamp, _, rfl, by rw [hdefault]⟩
    | unknown hunknown => exact absurd (hkind ▸ by decide) hunknown
    | _ => simp at hkind

theorem ofMembers?_vadState : ofMembers? members "vad_state" = some (.ok message) ↔
    Conforms members "vad_state" message := by
  simp only [ofMembers?, Option.some.injEq, Except.bind_eq_ok, field?_eq_ok readBy_flag,
    field?_eq_ok readBy_number, present_eq_ok, pure, Except.pure, Except.ok.injEq]
  constructor
  · rintro ⟨energy, henergy, _, hspeech, isSpeech, rfl, rfl⟩
    exact .vadState (given_some_iff.mp hspeech) (defaulted_iff.mpr ⟨energy, henergy, rfl⟩)
  · intro h
    generalize hkind : "vad_state" = kind at h
    cases h with
    | @vadState state isSpeech energy =>
      obtain ⟨found, hfound, hdefault⟩ := defaulted_iff.mp energy
      exact ⟨found, hfound, _, given_some_iff.mpr isSpeech, _, rfl, by rw [hdefault]⟩
    | unknown hunknown => exact absurd (hkind ▸ by decide) hunknown
    | _ => simp at hkind

theorem ofMembers?_error : ofMembers? members "error" = some (.ok message) ↔
    Conforms members "error" message := by
  simp only [ofMembers?, Option.some.injEq, Except.bind_eq_ok, field?_eq_ok readBy_text,
    optional_eq_ok readBy_text, present_eq_ok, pure, Except.pure, Except.ok.injEq]
  constructor
  · rintro ⟨code, hcode, _, hreason, reason, rfl, rfl⟩
    exact .error (given_some_iff.mp hreason) hcode
  · intro h
    generalize hkind : "error" = kind at h
    cases h with
    | error reason code => exact ⟨_, code, _, given_some_iff.mpr reason, _, rfl, rfl⟩
    | unknown hunknown => exact absurd (hkind ▸ by decide) hunknown
    | _ => simp at hkind

/-- Members are read as a message of a known kind, or their kind is kept, exactly as the
grammar has it. -/
theorem ofMembers?_iff :
    (ofMembers? members kind = some (.ok message) ∨
        ofMembers? members kind = none ∧ message = .unknown kind) ↔
      Conforms members kind message := by
  by_cases hknown : kind ∈ knownKinds
  · have hsome : ofMembers? members kind ≠ none := by
      simp only [knownKinds, List.mem_cons, List.not_mem_nil, or_false] at hknown
      rcases hknown with rfl | rfl | rfl | rfl <;> simp [ofMembers?]
    simp only [hsome, false_and, or_false]
    simp only [knownKinds, List.mem_cons, List.not_mem_nil, or_false] at hknown
    rcases hknown with rfl | rfl | rfl | rfl
    · exact ofMembers?_ready
    · exact ofMembers?_transcription
    · exact ofMembers?_vadState
    · exact ofMembers?_error
  · have hnone : ofMembers? members kind = none := by
      unfold ofMembers?
      split <;> first | rfl | exact absurd (by decide) hknown
    rw [hnone]
    constructor
    · rintro (h | ⟨_, rfl⟩)
      · simp at h
      · exact .unknown hknown
    · intro h
      cases h with
      | unknown hunknown => exact .inr ⟨rfl, rfl⟩
      | _ => exact absurd (by decide) hknown

/-! ## Reading a text frame -/

/-- What the members of an object with a kind are read as. -/
theorem ofJson_obj (htype : last? "type" members = some (.str kind)) :
    ofJson (.obj members) = .ok message ↔ Conforms members kind message := by
  rw [← ofMembers?_iff]
  simp only [ofJson, members?, Option.getD_some, htype]
  rcases ofMembers? members kind with _ | mismatch | found
  · simp [eq_comm]
  · simp
  · simp

theorem ofJson_eq_ok {value : Json} :
    ofJson value = .ok message ↔ ∃ members kind, value = .obj members ∧
      last? "type" members = some (.str kind) ∧ Conforms members kind message := by
  constructor
  · intro h
    cases value with
    | obj members =>
      rcases htype : last? "type" members with _ | found
      · simp [ofJson, members?, htype] at h
      · cases found with
        | str kind => exact ⟨members, kind, rfl, htype, (ofJson_obj htype).mp h⟩
        | _ => simp [ofJson, members?, htype] at h
    | _ => simp [ofJson, members?, last?] at h
  · rintro ⟨members, kind, rfl, htype, hconforms⟩
    exact (ofJson_obj htype).mpr hconforms

theorem exists_reason_of_ofJson {value : Json} {e : Error} (h : ofJson value = .error e) :
    ∃ reason, e = .undecodable reason := by
  unfold ofJson at h
  dsimp only at h
  split at h
  · split at h
    · simp at h
    · simp at h
    · exact ⟨_, (Except.error.inj h).symm⟩
  · exact ⟨_, (Except.error.inj h).symm⟩

variable {text : String}

theorem decode_eq_ok :
    decode text = .ok message ↔ ∃ members kind, parse? text = some (.obj members) ∧
      last? "type" members = some (.str kind) ∧ Conforms members kind message := by
  rw [decode]
  cases hparse : parse? text with
  | none => simp
  | some value => simp only [ofJson_eq_ok, Option.some.injEq]

/-- A frame that is refused is refused as undecodable. -/
theorem exists_reason_of_decode {e : Error} (h : decode text = .error e) :
    ∃ reason, e = .undecodable reason := by
  rw [decode] at h
  cases hparse : parse? text with
  | none => rw [hparse] at h; exact ⟨_, (Except.error.inj h).symm⟩
  | some value => rw [hparse] at h; exact exists_reason_of_ofJson h

/-- A frame that means a message means it whatever the order of its members, and whatever
other members it has. -/
theorem decode_rearranged {later : String} {added members' : List (String × Json)}
    (h : decode text = .ok message) (hmembers : parse? text = some (.obj members))
    (hlater : parse? later = some (.obj members'))
    (hrearranges : Rearranges ("type" :: memberNames message.kind) members added members') :
    decode later = .ok message := by
  obtain ⟨found, kind, hfound, htype, hconforms⟩ := decode_eq_ok.mp h
  obtain rfl : found = members := by
    rw [hmembers] at hfound
    exact (Json.obj.inj (Option.some.inj hfound)).symm
  rw [hconforms.kind_eq] at hrearranges
  refine decode_eq_ok.mpr ⟨members', kind, hlater, ?_, ?_⟩
  · rw [← hrearranges.last?_eq List.mem_cons_self]
    exact htype
  · exact hconforms.of_last?_eq fun name hname =>
      hrearranges.last?_eq (List.mem_cons_of_mem _ hname)

end Reading

/-- A text frame decodes exactly if it is an object of the grammar, as the message of the
grammar, which bears the name of its kind.  Every other frame is undecodable.  The order of the
members does not matter, and neither do members that the kind does not ask for. -/
theorem decode_grammar (text : String) :
    (∀ message, decode text = .ok message ↔ ∃ members kind,
      parse? text = some (.obj members) ∧ last? "type" members = some (.str kind) ∧
        Conforms members kind message) ∧
    (∀ message, decode text = .ok message → ∃ members, parse? text = some (.obj members) ∧
      last? "type" members = some (.str message.kind)) ∧
    (∀ kind, decode text = .ok (.unknown kind) → kind ∉ knownKinds) ∧
    ((∃ message, decode text = .ok message) ∨
      ∃ reason, decode text = .error (.undecodable reason)) ∧
    (∀ message members added members' later, decode text = .ok message →
      parse? text = some (.obj members) → parse? later = some (.obj members') →
      Rearranges ("type" :: memberNames message.kind) members added members' →
      decode later = .ok message) := by
  refine ⟨fun message => decode_eq_ok, ?_, ?_, ?_, ?_⟩
  · intro message h
    obtain ⟨members, kind, hmembers, htype, hconforms⟩ := decode_eq_ok.mp h
    rw [← hconforms.kind_eq] at htype
    exact ⟨members, hmembers, htype⟩
  · intro kind h
    obtain ⟨members, kind', hmembers, htype, hconforms⟩ := decode_eq_ok.mp h
    cases hconforms with
    | unknown hunknown => exact hunknown
  · rcases hdecode : decode text with e | message
    · obtain ⟨reason, rfl⟩ := exists_reason_of_decode hdecode
      exact .inr ⟨reason, rfl⟩
    · exact .inl ⟨message, rfl⟩
  · intro message members added members' later h hmembers hlater hrearranges
    exact decode_rearranged h hmembers hlater hrearranges

/-- A final result whose text is given twice. -/
def correctedFrame : String :=
  "\x7b\"type\":\"transcription\",\"text\":\"ola\",\"is_final\":true,\"text\":\"hola\"\x7d"

def correctedMembers : List (String × Json) :=
  [ ("type", .str "transcription"), ("text", .str "ola"), ("is_final", .bool true)
  , ("text", .str "hola") ]

/-- The same members after their kind was moved to the end, and a number before it. -/
def shuffledFrame : String :=
  "\x7b\"text\":\"ola\",\"is_final\":true,\"text\":\"hola\",\"seq\":1," ++
    "\"type\":\"transcription\"\x7d"

def shuffledMembers : List (String × Json) :=
  [ ("text", .str "ola"), ("is_final", .bool true), ("text", .str "hola"), ("seq", .int 1)
  , ("type", .str "transcription") ]

/-- The last text counts in both. -/
theorem decode_grammar_shuffled :
    decode correctedFrame = .ok (.transcription ⟨"hola", true, none⟩) ∧
      decode shuffledFrame = .ok (.transcription ⟨"hola", true, none⟩) := by
  have hmembers : parse? correctedFrame = some (.obj correctedMembers) := by
    rw [show correctedFrame = (Json.obj correctedMembers).render by decide +kernel]
    refine parse?_render (.obj fun member hmem => ?_)
    simp only [correctedMembers, List.mem_cons, List.not_mem_nil, or_false] at hmem
    rcases hmem with rfl | rfl | rfl | rfl
    exacts [.str _, .str _, .bool _, .str _]
  have hlater : parse? shuffledFrame = some (.obj shuffledMembers) := by
    rw [show shuffledFrame = (Json.obj shuffledMembers).render by decide +kernel]
    refine parse?_render (.obj fun member hmem => ?_)
    simp only [shuffledMembers, List.mem_cons, List.not_mem_nil, or_false] at hmem
    rcases hmem with rfl | rfl | rfl | rfl | rfl
    exacts [.str _, .bool _, .str _, .int (by decide) (by decide), .str _]
  have hdecode : decode correctedFrame = .ok (.transcription ⟨"hola", true, none⟩) := by
    rw [decode, hmembers]
    decide
  refine ⟨hdecode, ?_⟩
  obtain ⟨_, _, _, _, hkept⟩ := decode_grammar correctedFrame
  refine hkept _ _ [("seq", .int 1)] _ _ hdecode hmembers hlater ⟨?_, ?_, .inr ?_⟩
  · show ([_] ++ [_, _, _, _]).Perm ([_, _, _, _] ++ [_])
    exact List.perm_append_comm
  · simp [memberNames, kind]
  · simp [memberNames, kind, correctedMembers, shuffledMembers]

end Inbound
end SpeechProbe
