import SpeechProbe.Proofs.Settings.Acceptance
import SpeechProbe.Proofs.Settings.Overlay
import SpeechProbe.Proofs.Settings.Values

/-!
# Variables for a text

A variable for the token or the language sets that text and leaves the other settings alone,
whatever else is set (`load_insert_token`, `load_insert_language`).  What it sets is not the text
of the variable but the text of its value, so it arrives as it was written exactly if it is
written the way its own value is.  One character that no number and no word for a value has is
enough for that (`arrives_of_mem`).
-/

namespace SpeechProbe.Settings

open Environment (printed Spares Canonical)

/-- The name of the variable for the token. -/
def tokenVariable : String := "HARNESS__SERVER__TOKEN"

/-- The name of the variable for the language. -/
def languageVariable : String := "HARNESS__SESSION__LANGUAGE"

theorem path?_tokenVariable :
    Environment.path? tokenVariable = some ⟨"server", [.entry "token"]⟩ := by
  decide +kernel

theorem path?_languageVariable :
    Environment.path? languageVariable = some ⟨"session", [.entry "language"]⟩ := by
  decide +kernel

theorem isWebSocketUrl_standard : isWebSocketUrl standard.server.url = true := by
  decide +kernel

variable {name : Option String} {file : Option (Option FileFormat × String)}
  {before after : List (String × String)} {settings : Settings}

/-- What is loaded was well typed, and can be used. -/
theorem load_eq_ok {environment : List (String × String)} :
    load name file environment = .ok (.ok settings) ↔
      ∃ entries tree, fileEntries name file = .ok entries ∧
        merged? entries environment = some tree ∧ ofTree? tree = some settings ∧
          settings.Usable := by
  constructor
  · intro h
    rw [load] at h
    split at h
    · simp at h
    · rename_i entries hentries
      split at h
      · simp at h
      · rename_i tree htree
        have hchecked : checked tree = .ok settings := Except.ok.inj h
        rw [checked] at hchecked
        split at hchecked
        · simp at hchecked
        · rename_i found hfound
          obtain ⟨husable, rfl⟩ := admitted_eq_ok.mp hchecked
          exact ⟨entries, tree, hentries, htree, hfound, husable⟩
  · rintro ⟨entries, tree, hentries, htree, hsettings, husable⟩
    simp only [load, hentries, htree, checked, hsettings]
    exact congrArg Except.ok (admitted_eq_ok.mpr ⟨husable, rfl⟩)

/-- A variable more makes a tree that differs in one entry, if later variables leave it alone. -/
theorem merged?_insert {group key variable_ : String} {entries : List (String × Tree)}
    {plain : Tree} (hname : Environment.path? variable_ = some ⟨group, [.entry key]⟩)
    (hspares : Spares group key after) (hplain : merged? entries (before ++ after) = some plain)
    (text : String) :
    ∃ tree, merged? entries (before ++ (variable_, text) :: after) = some tree ∧
      Tree.SetOver group key (Environment.readValue text) plain tree := by
  simp only [merged?, Option.bind_eq_bind, Option.bind_eq_some_iff] at hplain
  obtain ⟨base, hbase, hplain⟩ := hplain
  simp only [merged?, Option.bind_eq_bind, hbase, Option.bind_some]
  exact Environment.setOver_insert hname (Environment.readValue_ne_table text) hspares hplain

/-- Settings that can be loaded can be loaded with a token, which is the text of the variable's
value.  The address stays, unless the section was a list before. -/
theorem load_insert_token (h : load name file (before ++ after) = .ok (.ok settings))
    (hspares : Spares "server" "token" after) (text : String) :
    ∃ url, (url = settings.server.url ∨ url = standard.server.url) ∧
      load name file (before ++ (tokenVariable, text) :: after) =
        .ok (.ok { settings with server := ⟨url, some (printed text)⟩ }) := by
  obtain ⟨entries, plain, hentries, hplain, hsettings, husable⟩ := load_eq_ok.mp h
  obtain ⟨tree, htree, hover⟩ := merged?_insert path?_tokenVariable hspares hplain text
  obtain ⟨url, hurl, hloaded⟩ :=
    ofTree?_setOver_token hover (Environment.orNull?_readValue text) hsettings
  have husable' : Usable { settings with server := ⟨url, some (printed text)⟩ } := by
    refine ⟨?_, husable.sampleRate, husable.fileChunkMs, husable.streamChunkMs,
      husable.liveQueueCapacity⟩
    rcases hurl with rfl | rfl
    · exact husable.url
    · exact isWebSocketUrl_standard
  exact ⟨url, hurl, load_eq_ok.mpr ⟨entries, tree, hentries, htree, hloaded, husable'⟩⟩

/-- Settings that can be loaded can be loaded with a language, which is the text of the
variable's value.  The section stays, unless it was a list before. -/
theorem load_insert_language (h : load name file (before ++ after) = .ok (.ok settings))
    (hspares : Spares "session" "language" after) (text : String) :
    ∃ base, (base = settings.session ∨ base = standard.session) ∧
      load name file (before ++ (languageVariable, text) :: after) =
        .ok (.ok { settings with session := { base with language := printed text } }) := by
  obtain ⟨entries, plain, hentries, hplain, hsettings, husable⟩ := load_eq_ok.mp h
  obtain ⟨tree, htree, hover⟩ := merged?_insert path?_languageVariable hspares hplain text
  obtain ⟨base, hbase, hloaded⟩ :=
    ofTree?_setOver_language hover (Environment.asText?_readValue text) hsettings
  exact ⟨base, hbase, load_eq_ok.mpr ⟨entries, tree, hentries, htree, hloaded, husable.url,
    husable.sampleRate, husable.fileChunkMs, husable.streamChunkMs, husable.liveQueueCapacity⟩⟩

/-! ## What arrives -/

/-- Wherever the variable for the token stands among settings that can be loaded and variables
of which no later one touches the token, these are loaded with `token` for the token, and it is
what the peer is told. -/
def TokenArrives (text token : String) : Prop :=
  ∀ name file before after settings,
    load name file (before ++ after) = .ok (.ok settings) → Spares "server" "token" after →
    ∃ loaded, load name file (before ++ (tokenVariable, text) :: after) = .ok (.ok loaded) ∧
      loaded.server.token = some token ∧
      ∀ id chunkMs, (loaded.plan id chunkMs).announcement.token = some token

/-- Wherever the variable for the language stands among settings that can be loaded and
variables of which no later one touches the language, these are loaded with `language` for the
language, and it is what the peer is told. -/
def LanguageArrives (text language : String) : Prop :=
  ∀ name file before after settings,
    load name file (before ++ after) = .ok (.ok settings) →
    Spares "session" "language" after →
    ∃ loaded, load name file (before ++ (languageVariable, text) :: after) = .ok (.ok loaded) ∧
      loaded.session.language = language ∧
      ∀ id chunkMs, (loaded.plan id chunkMs).announcement.language = language

theorem tokenArrives_printed (text : String) : TokenArrives text (printed text) := by
  intro name file before after settings h hspares
  obtain ⟨url, -, hload⟩ := load_insert_token h hspares text
  exact ⟨_, hload, rfl, fun _ _ => rfl⟩

theorem languageArrives_printed (text : String) : LanguageArrives text (printed text) := by
  intro name file before after settings h hspares
  obtain ⟨base, -, hload⟩ := load_insert_language h hspares text
  exact ⟨_, hload, rfl, fun _ _ => rfl⟩

/-- Nothing that is set can be loaded. -/
theorem load_nothing : load none none [] = .ok (.ok standard) := by
  rfl

theorem spares_nil (group key : String) : Spares group key [] := by
  intro name text hmem
  simp at hmem

/-- No text arrives as two tokens. -/
theorem TokenArrives.unique {text token token' : String} (h : TokenArrives text token)
    (h' : TokenArrives text token') : token = token' := by
  obtain ⟨loaded, hload, htoken, -⟩ := h none none [] [] standard load_nothing (spares_nil _ _)
  obtain ⟨loaded', hload', htoken', -⟩ :=
    h' none none [] [] standard load_nothing (spares_nil _ _)
  obtain rfl : loaded = loaded' := Except.ok.inj (Except.ok.inj (hload.symm.trans hload'))
  exact Option.some.inj (htoken.symm.trans htoken')

theorem LanguageArrives.unique {text language language' : String}
    (h : LanguageArrives text language) (h' : LanguageArrives text language') :
    language = language' := by
  obtain ⟨loaded, hload, hlanguage, -⟩ :=
    h none none [] [] standard load_nothing (spares_nil _ _)
  obtain ⟨loaded', hload', hlanguage', -⟩ :=
    h' none none [] [] standard load_nothing (spares_nil _ _)
  obtain rfl : loaded = loaded' := Except.ok.inj (Except.ok.inj (hload.symm.trans hload'))
  exact hlanguage.symm.trans hlanguage'

/-- A text with a character that no number and no word for a value has arrives as it is. -/
theorem arrives_of_mem {text : String} {c : Char} (hc : c ∈ text.toList)
    (hother : ¬ Decimal.InNumeral c)
    (hword : ∀ word ∈ ["true", "false", "inf", "infinity", "nan"], c.toLower ∉ word.toList) :
    TokenArrives text text ∧ LanguageArrives text text := by
  have htoken := tokenArrives_printed text
  have hlanguage := languageArrives_printed text
  rw [Environment.printed_eq_iff.mpr (Environment.canonical_of_mem hc hother hword)]
    at htoken hlanguage
  exact ⟨htoken, hlanguage⟩

/-- What arrives is always the text of the variable's value, and so it is the text of the
variable exactly if that is canonical. -/
theorem variable_arrives_verbatim_iff (text : String) :
    TokenArrives text (printed text) ∧ LanguageArrives text (printed text) ∧
      (TokenArrives text text ↔ Canonical text) ∧ (LanguageArrives text text ↔ Canonical text) := by
  have htoken := tokenArrives_printed text
  have hlanguage := languageArrives_printed text
  refine ⟨htoken, hlanguage, ⟨?_, ?_⟩, ⟨?_, ?_⟩⟩
  · intro h
    exact Environment.printed_eq_iff.mp (htoken.unique h)
  · intro h
    rwa [Environment.printed_eq_iff.mpr h] at htoken
  · intro h
    exact Environment.printed_eq_iff.mp (hlanguage.unique h)
  · intro h
    rwa [Environment.printed_eq_iff.mpr h] at hlanguage

/-- A token of digits that begins with zeros arrives without them. -/
theorem tokenArrives_padded : TokenArrives "007" "7" ∧ ¬ TokenArrives "007" "007" := by
  have hreads : Environment.Reads "007" (.int 7) :=
    .int (by rintro (_ | _) <;> decide +kernel) (by decide +kernel)
  have hprinted : printed "007" = "7" := by
    rw [printed, hreads.eq_readValue]
    decide +kernel
  have harrives := tokenArrives_printed "007"
  rw [hprinted] at harrives
  refine ⟨harrives, fun h => ?_⟩
  exact absurd (harrives.unique h) (by decide)

end SpeechProbe.Settings
