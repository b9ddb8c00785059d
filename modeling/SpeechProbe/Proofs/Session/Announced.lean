import SpeechProbe.Control.Record
import SpeechProbe.Proofs.Control.Announcing
import SpeechProbe.Proofs.Letters
import SpeechProbe.Proofs.Session.Conversation
import SpeechProbe.Settings.Effective

/-!
# Announcements read back

A session begins with its announcement, and what the announcement says is taken from the settings
as it is.  Its text is read as that announcement again if the threshold is finite, but for what
the writing of a number rounds.  Any other threshold is written as `null`, and then the text is
no announcement at all (`read?_text_config`).  Whether settings are accepted does not depend on
the threshold, so there are settings of both kinds.
-/

namespace SpeechProbe

namespace Json

theorem asUInt32_toNat (n : UInt32) : (asUInt32 (.int n.toNat)).toOption = some n := by
  have hlt := n.toNat_lt
  rw [asUInt32, if_pos (by omega)]
  simp [Except.toOption]

/-- Of a number, a reader of 32-bit numbers gets one exactly if it is finite. -/
theorem asSingle_reread (x : Single) : (asSingle (reread (.single x))).toOption =
    if x.isFinite then some (rereadSingle x).toSingle else none := by
  rw [reread]
  split <;> rfl

end Json

namespace Announcement

/-- An announcement as it is read back, if it is. -/
def received? (a : Announcement) : Option Announcement :=
  if a.energyThreshold.isFinite then
    some { a with energyThreshold := (Json.rereadSingle a.energyThreshold).toSingle }
  else none

/-- The fields of an announcement, by their names, as they are read. -/
theorem slots?_received (a : Announcement) :
    ∃ slot, Json.slots? ["language", "energy_threshold", "min_silence_frames", "token"]
        (.obj a.receivedMembers.tail) = some slot ∧
      slot "language" = .given (.str a.language) ∧
      slot "energy_threshold" = .given (Json.reread (.single a.energyThreshold)) ∧
      slot "min_silence_frames" = .given (.int a.minSilenceFrames.toNat) ∧
      slot "token" = (a.token.map fun token => .given (.str token)).getD .omitted := by
  rw [receivedMembers, tokenMember]
  generalize Json.reread (.single a.energyThreshold) = threshold
  cases a.token <;> exact ⟨_, rfl, rfl, rfl, rfl, rfl⟩

theorem last?_threshold (a : Announcement) : Json.last? "energy_threshold" a.receivedMembers =
    some (Json.reread (.single a.energyThreshold)) := by
  rw [receivedMembers, tokenMember]
  generalize Json.reread (.single a.energyThreshold) = threshold
  cases a.token <;> rfl

theorem ofRecord?_received (a : Announcement) :
    ofRecord? (.obj a.receivedMembers.tail) = a.received? := by
  obtain ⟨slot, hslots, hlanguage, hthreshold, hframes, htoken⟩ := a.slots?_received
  have hlanguage' : (slot "language").required (Json.asText · |>.toOption) =
      some a.language := by
    rw [hlanguage]
    rfl
  have hthreshold' : (slot "energy_threshold").required (Json.asSingle · |>.toOption) =
      if a.energyThreshold.isFinite then some (Json.rereadSingle a.energyThreshold).toSingle
      else none := by
    rw [hthreshold, Json.Slot.required, Json.asSingle_reread]
  have hframes' : (slot "min_silence_frames").required (Json.asUInt32 · |>.toOption) =
      some a.minSilenceFrames := by
    rw [hframes, Json.Slot.required, Json.asUInt32_toNat]
  have htoken' : (slot "token").optional (Json.asText · |>.toOption) = some a.token := by
    rw [htoken]
    cases a.token <;> rfl
  simp only [ofRecord?, hslots, hlanguage', hthreshold', hframes', htoken', Option.bind_eq_bind,
    Option.bind_some, Option.pure_def]
  rw [received?]
  split <;> rfl

end Announcement

namespace Outbound

theorem read?_text_config (a : Announcement) :
    read? (config a).text = config <$> a.received? := by
  have htagged : Json.tagged? (.obj a.receivedMembers) =
      some ("config", .obj a.receivedMembers.tail) := by
    rw [Announcement.receivedMembers, Announcement.tokenMember]
    generalize Json.reread (.single a.energyThreshold) = threshold
    cases a.token <;> rfl
  rw [read?, parse?_text_config, ← a.ofRecord?_received]
  simp only [ofRecord?, htagged, Option.bind_eq_bind, Option.bind_some]

end Outbound

namespace Session

variable {σ : Type}

/-- The first thing a session does is to hand its announcement to the transport. -/
theorem exchanges_configure (transport : Transport σ) (session : Session σ) :
    ∃ result rest, (session.configure transport).2.exchanges = session.exchanges ++
      .message (.config session.plan.announcement) result :: rest := by
  rcases (opens_configure transport session).conversation with ⟨e, -, hcalls⟩ | ⟨answer, -, hcalls⟩
  · exact ⟨_, _, hcalls⟩
  · exact ⟨_, _, hcalls⟩

end Session

namespace Settings

/-- What a peer is told of settings. -/
def announcement (settings : Settings) : Announcement where
  language := settings.session.language
  energyThreshold := settings.session.energyThreshold
  minSilenceFrames := settings.session.minSilenceFrames
  token := settings.server.token

/-- The threshold has no part in whether settings are accepted.  The first text that a session of
them sends is an object.  If the threshold is finite, its member is a number, and the text is read
back as what was announced; otherwise it is `null`, and the text is read back as nothing. -/
theorem announcement_read_back (settings : Settings) (id : String) (chunkMs : UInt64) {σ : Type}
    (transport : Transport σ) (session : Session σ)
    (hplan : session.plan = settings.plan id chunkMs) :
    (∀ threshold : Single,
      check { settings with session := { settings.session with energyThreshold := threshold } } =
        settings.check) ∧
    (∃ result rest, (session.configure transport).2.exchanges = session.exchanges ++
      .message (.config settings.announcement) result :: rest) ∧
    ∃ members, Json.parse? (Outbound.config settings.announcement).text = some (.obj members) ∧
      (settings.session.energyThreshold.isFinite = true →
        (∃ x, Json.last? "energy_threshold" members = some (.real x)) ∧
        Outbound.read? (Outbound.config settings.announcement).text =
          some (.config { settings.announcement with
            energyThreshold := (Json.rereadSingle settings.session.energyThreshold).toSingle })) ∧
      (settings.session.energyThreshold.isFinite = false →
        Json.last? "energy_threshold" members = some .null ∧
        Outbound.read? (Outbound.config settings.announcement).text = none) := by
  have hcalls := Session.exchanges_configure transport session
  rw [hplan] at hcalls
  refine ⟨fun threshold => rfl, hcalls, _, Outbound.parse?_text_config _, ?_, ?_⟩
  all_goals
    intro hfinite
    change settings.announcement.energyThreshold.isFinite = _ at hfinite
    rw [Outbound.read?_text_config, Announcement.received?, Announcement.last?_threshold,
      Json.reread, hfinite]
  · exact ⟨⟨_, rfl⟩, rfl⟩
  · exact ⟨rfl, rfl⟩

theorem announcement_read_back_standard :
    (Session.start (standard.plan "usual" 100) .twoChunks ([] : List Letter)).plan =
        standard.plan "usual" 100 ∧
      standard.session.energyThreshold.isFinite = true ∧
      (∃ result rest, ((Session.start (standard.plan "usual" 100) .twoChunks []).configure
          Letter.post).2.exchanges = .message (.config standard.announcement) result :: rest) ∧
      (Outbound.read? (Outbound.config standard.announcement).text).isSome := by
  have hplan : (Session.start (standard.plan "usual" 100) .twoChunks ([] : List Letter)).plan =
      standard.plan "usual" 100 := rfl
  have hfinite : standard.session.energyThreshold.isFinite = true := by decide
  obtain ⟨-, hcalls, members, -, hnumber, -⟩ :=
    announcement_read_back standard "usual" 100 Letter.post _ hplan
  refine ⟨hplan, hfinite, hcalls, ?_⟩
  rw [(hnumber hfinite).2]
  rfl

/-- The usual settings with a threshold that is no number. -/
def unsure : Settings :=
  { standard with session := { standard.session with energyThreshold := Single.nan } }

/-- Such settings are read from one variable and accepted, and are what a run is given; nobody
reads an announcement in what is sent of them. -/
theorem unreadable_unsure : ¬ ∀ (arguments : List String) (line : CommandLine)
    (file : Option (Option FileFormat × String)) (environment : List (String × String))
    (settings : Settings), CommandLine.parse arguments = .ok line →
    line.settle file environment = .ok (.ok settings) → settings.check = .ok () →
    ∃ received, Outbound.read? (Outbound.config settings.announcement).text =
      some (.config received) := by
  intro h
  have hparse : CommandLine.parse ["--mic"] = .ok { CommandLine.empty with mic := true } := by
    decide +kernel
  have hsettle : CommandLine.settle { CommandLine.empty with mic := true } none
      [("HARNESS__SESSION__ENERGY_THRESHOLD", "nan")] = .ok (.ok unsure) := by
    decide +kernel
  obtain ⟨received, hread⟩ := h _ _ _ _ _ hparse hsettle (by decide +kernel)
  have hnone : unsure.announcement.received? = none := by decide +kernel
  rw [Outbound.read?_text_config, hnone] at hread
  simp at hread

end Settings
end SpeechProbe
