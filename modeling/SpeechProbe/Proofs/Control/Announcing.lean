import SpeechProbe.Control.Inbound
import SpeechProbe.Control.Outbound
import SpeechProbe.Proofs.Json.RoundTrip

/-!
# What the peer reads

The text of an announcement is read as one object of its own members, whatever their text is
made of: nothing in a language or a token can end its string early.  So the parts of an
announcement can be told from its text, but for the threshold, of which a reader gets a 64-bit
number or, if it is not finite, nothing (`parse?_text_config`).  Read as an answer, what is sent
is of no kind that a peer sends (`decode_text`).
-/

namespace SpeechProbe

open Json (Fits)

namespace Announcement

variable (a : Announcement)

/-- The member for a token, if one is set. -/
def tokenMember : List (String × Json) :=
  (a.token.map fun token => ("token", Json.str token)).toList

/-- The members of an announcement as they are read. -/
def receivedMembers : List (String × Json) :=
  [ ("type", .str "config")
  , ("language", .str a.language)
  , ("energy_threshold", Json.reread (.single a.energyThreshold))
  , ("min_silence_frames", .int a.minSilenceFrames.toNat) ] ++ a.tokenMember

theorem rereadMembers_members :
    Json.rereadMembers (("type", .str "config") :: a.members) = a.receivedMembers := by
  rw [members, receivedMembers, tokenMember]
  cases a.token <;> rfl

end Announcement

namespace Outbound

theorem fits_toJson (message : Outbound) : Fits Json.depthLimit message.toJson := by
  cases message with
  | finished =>
    refine .obj fun member hmem => ?_
    obtain rfl := List.mem_singleton.mp hmem
    exact .str _
  | config a =>
    have hframes := a.minSilenceFrames.toNat_lt
    refine .obj fun member hmem => ?_
    rw [Announcement.members] at hmem
    simp only [List.cons_append, List.nil_append, List.mem_cons] at hmem
    rcases hmem with rfl | rfl | rfl | rfl | htoken
    · exact .str _
    · exact .str _
    · exact .single _
    · exact .int (by omega) (by omega)
    · cases htoken' : a.token with
      | none => simp [htoken'] at htoken
      | some token =>
        rw [htoken'] at htoken
        obtain rfl := List.mem_singleton.mp htoken
        exact .str _

/-- The text of an announcement is one object of its members and no others. -/
theorem parse?_text_config (a : Announcement) :
    Json.parse? (config a).text = some (.obj a.receivedMembers) := by
  rw [text, Json.parse?_render (fits_toJson _), toJson, Json.reread, a.rereadMembers_members]

theorem ofJson_of_kind {members : List (String × Json)} {kind : String}
    (htype : Json.last? "type" members = some (.str kind))
    (hunknown : Inbound.ofMembers? members kind = none) :
    Inbound.ofJson (.obj members) = .ok (.unknown kind) := by
  simp only [Inbound.ofJson, Json.members?, Option.getD_some, htype, hunknown]

/-- What is sent to the peer is of no kind that the peer sends. -/
theorem decode_text (message : Outbound) :
    Inbound.decode message.text = .ok (.unknown message.kind) := by
  cases message with
  | finished =>
    rw [Inbound.decode, text, Json.parse?_render (fits_toJson _)]
    rfl
  | config a =>
    have htype : Json.last? "type" a.receivedMembers = some (.str "config") := by
      rw [Announcement.receivedMembers, Announcement.tokenMember]
      cases a.token <;> simp [Json.last?]
    rw [Inbound.decode, parse?_text_config]
    exact ofJson_of_kind htype rfl

theorem tokenMember_inj {a b : Announcement} (h : a.tokenMember = b.tokenMember) :
    a.token = b.token := by
  rw [Announcement.tokenMember, Announcement.tokenMember] at h
  cases ha : a.token <;> cases hb : b.token <;> simp_all

/-- Announcements of one text differ in nothing but the threshold. -/
theorem eq_of_text_eq {a b : Announcement} (h : (config a).text = (config b).text) :
    a.language = b.language ∧ a.token = b.token ∧ a.minSilenceFrames = b.minSilenceFrames := by
  have hmembers : a.receivedMembers = b.receivedMembers := by
    have hparse := parse?_text_config a
    rw [h, parse?_text_config b] at hparse
    exact (Json.obj.inj (Option.some.inj hparse)).symm
  simp only [Announcement.receivedMembers, List.cons_append, List.nil_append, List.cons.injEq,
    Prod.mk.injEq, true_and, Json.str.injEq, Json.int.injEq, Int.natCast_inj] at hmembers
  obtain ⟨hlanguage, -, hframes, htoken⟩ := hmembers
  exact ⟨hlanguage, tokenMember_inj htoken, UInt32.toNat_inj.mp hframes⟩

/-- Every message to the peer is read as what it says.  The text of an announcement is one
object of exactly its members: the type, the language, the threshold, the silent frames and the
token if one is set; a threshold that is finite is some number, and any other `null`. -/
theorem text_read_back :
    (∀ a : Announcement, ∃ threshold,
      ((∃ x, threshold = Json.real x) ∧ a.energyThreshold.isFinite = true ∨
        threshold = Json.null ∧ a.energyThreshold.isFinite = false) ∧
      Json.parse? (config a).text = some (.obj
        ([ ("type", .str "config")
         , ("language", .str a.language)
         , ("energy_threshold", threshold)
         , ("min_silence_frames", .int a.minSilenceFrames.toNat) ] ++
          (a.token.map fun token => ("token", Json.str token)).toList))) ∧
    (∀ message : Outbound, Inbound.decode message.text = .ok (.unknown message.kind)) ∧
    (∀ a b : Announcement, (config a).text = (config b).text →
      a.language = b.language ∧ a.token = b.token ∧ a.minSilenceFrames = b.minSilenceFrames) := by
  refine ⟨fun a => ⟨Json.reread (.single a.energyThreshold), ?_, parse?_text_config a⟩,
    decode_text, fun a b => eq_of_text_eq⟩
  rw [Json.reread]
  by_cases hfinite : a.energyThreshold.isFinite = true
  · rw [if_pos hfinite]
    exact .inl ⟨⟨_, rfl⟩, hfinite⟩
  · rw [if_neg hfinite]
    exact .inr ⟨rfl, Bool.eq_false_iff.mpr hfinite⟩

/-- A token that looks like the end of one member and another one. -/
def sneaky (threshold : Single) : Announcement :=
  ⟨"es", threshold, 20, some "\",\"type\":\"ready\n"⟩

theorem text_read_back_sneaky :
    (config (sneaky Single.infinity)).text = (config (sneaky Single.nan)).text ∧
      sneaky Single.infinity ≠ sneaky Single.nan ∧
      (sneaky Single.infinity).token = (sneaky Single.nan).token ∧
      Inbound.decode (config (sneaky Single.infinity)).text = .ok (.unknown "config") := by
  have htext : (config (sneaky Single.infinity)).text = (config (sneaky Single.nan)).text := by
    decide +kernel
  exact ⟨htext, by decide, (text_read_back.2.2 _ _ htext).2.1, text_read_back.2.1 _⟩

end Outbound
end SpeechProbe
