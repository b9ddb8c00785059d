import SpeechProbe.Proofs.Json.Members
import SpeechProbe.Proofs.Settings.Values
import SpeechProbe.Settings.Effective

/-!
# Which settings are accepted

Settings that can be read, from a file of any format, are looked at twice on their way to a run:
as they are loaded, and after the command line was laid over them.  So a run is accepted exactly if both can be used
(`settle_accepts_iff`), and it is refused for settings it would not have run with exactly where
the line replaces an address or a chunk duration that could not be used.  Between the file and
the variables there is no such look: what a variable replaces does not count.
-/

namespace SpeechProbe

namespace Settings

/-- Settings a session can be run with. -/
structure Usable (settings : Settings) : Prop where
  url : isWebSocketUrl settings.server.url = true
  sampleRate : settings.audio.sampleRate ≠ 0
  fileChunkMs : settings.audio.fileChunkMs ≠ 0
  streamChunkMs : settings.audio.streamChunkMs ≠ 0
  liveQueueCapacity : settings.audio.liveQueueCapacity ≠ 0

variable {settings layered : Settings}

theorem check_eq_ok : settings.check = .ok () ↔ settings.Usable := by
  constructor
  · intro h
    simp only [check, Bool.not_eq_eq_eq_not, Bool.not_true] at h
    split at h
    · simp at h
    · split at h
      · simp at h
      · split at h
        · simp at h
        · split at h
          · simp at h
          · rename_i hurl hrate hchunk hcapacity
            rw [not_or] at hchunk
            exact ⟨by simpa using hurl, hrate, hchunk.1, hchunk.2, hcapacity⟩
  · intro h
    simp [check, h.url, h.sampleRate, h.fileChunkMs, h.streamChunkMs, h.liveQueueCapacity]

theorem admitted_eq_ok {found : Settings} :
    settings.admitted = .ok found ↔ settings.Usable ∧ settings = found := by
  rw [← check_eq_ok, admitted]
  cases settings.check <;> simp [bind, Except.bind, pure, Except.pure]

/-- What a file of any format and variables, if they can be read and are well typed, say over the
defaults. -/
def layered? (name : Option String) (file : Option (Option FileFormat × String))
    (environment : List (String × String)) : Option Settings := do
  let entries ← (fileEntries name file).toOption
  ofTree? (← merged? entries environment)

theorem load_of_layered {name : Option String} {file : Option (Option FileFormat × String)}
    {environment : List (String × String)} (h : layered? name file environment = some layered) :
    load name file environment = .ok layered.admitted := by
  simp only [layered?, Option.bind_eq_bind, Option.bind_eq_some_iff] at h
  obtain ⟨entries, hentries, tree, htree, hsettings⟩ := h
  cases hfile : fileEntries name file with
  | error e => simp [hfile, Except.toOption] at hentries
  | ok found =>
    obtain rfl : found = entries := by simpa [hfile, Except.toOption] using hentries
    simp only [load, hfile, htree, checked, hsettings]
    rfl

end Settings

namespace CommandLine

open Settings

variable {line : CommandLine} {file : Option (Option FileFormat × String)}
  {environment : List (String × String)} {layered : Settings}

theorem settle_of_layered (h : layered? line.config file environment = some layered) :
    line.settle file environment =
      .ok (layered.admitted >>= fun loaded => (line.apply loaded).admitted) := by
  rw [settle, load_of_layered h]
  cases layered.admitted <;> rfl

theorem settle_eq_ok {settings : Settings}
    (h : layered? line.config file environment = some layered) :
    line.settle file environment = .ok (.ok settings) ↔
      layered.Usable ∧ (line.apply layered).Usable ∧ line.apply layered = settings := by
  rw [settle_of_layered h, Except.ok.injEq, Except.bind_eq_ok]
  simp only [admitted_eq_ok]
  constructor
  · rintro ⟨loaded, ⟨hlayered, rfl⟩, heffective⟩
    exact ⟨hlayered, heffective⟩
  · rintro ⟨hlayered, heffective⟩
    exact ⟨layered, ⟨hlayered, rfl⟩, heffective⟩

/-- A line replaces a value that is of no use: an address or a chunk duration. -/
def Overrules (line : CommandLine) (layered : Settings) : Prop :=
  line.url.isSome ∧ isWebSocketUrl layered.server.url = false ∨
    line.chunkMs.isSome ∧ (layered.audio.fileChunkMs = 0 ∨ layered.audio.streamChunkMs = 0)

theorem Overrules.not_usable (h : line.Overrules layered) : ¬ layered.Usable := by
  intro husable
  rcases h with ⟨_, hurl⟩ | ⟨_, hfile | hstream⟩
  · simp [husable.url] at hurl
  · exact husable.fileChunkMs hfile
  · exact husable.streamChunkMs hstream

/-- Where a line makes settings usable, it replaces what was of no use in them. -/
theorem overrules_of_usable_apply (h : (line.apply layered).Usable) (hnot : ¬ layered.Usable) :
    line.Overrules layered := by
  by_cases hurl : isWebSocketUrl layered.server.url = true
  · right
    have hchunk : layered.audio.fileChunkMs = 0 ∨ layered.audio.streamChunkMs = 0 := by
      by_contra hboth
      rw [not_or] at hboth
      exact hnot ⟨hurl, h.sampleRate, hboth.1, hboth.2, h.liveQueueCapacity⟩
    refine ⟨?_, hchunk⟩
    by_contra hnone
    rw [Option.not_isSome_iff_eq_none] at hnone
    rcases hchunk with hzero | hzero
    · exact h.fileChunkMs (by simp [apply, hnone, hzero])
    · exact h.streamChunkMs (by simp [apply, hnone, hzero])
  · left
    refine ⟨?_, by simpa using hurl⟩
    by_contra hnone
    rw [Option.not_isSome_iff_eq_none] at hnone
    refine hurl ?_
    have hsame := h.url
    simp only [apply, hnone, Option.getD_none] at hsame
    exact hsame

/-- Of an address and a chunk duration, the complaint is about the address. -/
theorem check_of_overrules (h : (line.apply layered).Usable) (hover : line.Overrules layered) :
    layered.check = .error (if isWebSocketUrl layered.server.url then .noChunkDuration
      else .badUrl layered.server.url) := by
  have hrate : layered.audio.sampleRate ≠ 0 := h.sampleRate
  by_cases hurl : isWebSocketUrl layered.server.url = true
  · have hchunk : layered.audio.fileChunkMs = 0 ∨ layered.audio.streamChunkMs = 0 := by
      rcases hover with ⟨_, hbad⟩ | ⟨_, hchunk⟩
      · simp [hurl] at hbad
      · exact hchunk
    simp [check, hurl, hrate, hchunk]
  · simp [check, hurl]

/-- A run is accepted exactly if the settings below the line and those the line makes of them
can both be used.  It is refused although its own settings could be used exactly where the line
replaces a value that could not, and then for that value. -/
theorem settle_accepts_iff (h : layered? line.config file environment = some layered) :
    (∀ settings, line.settle file environment = .ok (.ok settings) ↔
      layered.Usable ∧ (line.apply layered).Usable ∧ line.apply layered = settings) ∧
    ((line.apply layered).Usable →
      ((∀ settings, line.settle file environment ≠ .ok (.ok settings)) ↔
        line.Overrules layered) ∧
      (line.Overrules layered → line.settle file environment =
        .ok (.error (if isWebSocketUrl layered.server.url then .noChunkDuration
          else .badUrl layered.server.url)))) := by
  refine ⟨fun settings => settle_eq_ok h, fun heffective => ⟨⟨?_, ?_⟩, ?_⟩⟩
  · intro hrefused
    apply overrules_of_usable_apply heffective
    intro husable
    exact hrefused _ ((settle_eq_ok h).mpr ⟨husable, heffective, rfl⟩)
  · intro hover settings hsettle
    exact hover.not_usable ((settle_eq_ok h).mp hsettle).1
  · intro hover
    rw [settle_of_layered h, admitted, check_of_overrules heffective hover]
    rfl

end CommandLine

/-! ## An address that the line replaces -/

/-- A tone for a peer that the line names. -/
def CommandLine.tone : CommandLine :=
  { CommandLine.empty with generate := some "tone", url := some "ws://localhost:9001" }

theorem CommandLine.parse_tone :
    parse ["--generate", "tone", "--url", "ws://localhost:9001"] = .ok tone := by
  decide +kernel

/-- The variables name a peer that is no WebSocket peer. -/
def Environment.webAddress : List (String × String) :=
  [("HARNESS__SERVER__URL", "http://localhost:9001")]

/-- The standard settings for that peer. -/
def Settings.webAddressed : Settings :=
  { Settings.standard with server := ⟨"http://localhost:9001", none⟩ }

namespace CommandLine

open Settings

theorem layered?_webAddress :
    layered? tone.config none Environment.webAddress = some webAddressed := by
  have hpath : Environment.path? "HARNESS__SERVER__URL" = some ⟨"server", [.entry "url"]⟩ := by
    decide +kernel
  have hreads : Environment.Reads "http://localhost:9001" (.text "http://localhost:9001") :=
    .text (by rintro (_ | _) <;> decide +kernel) (by decide +kernel) (by decide +kernel)
  have htree : merged? [] Environment.webAddress =
      some (.table [("server", .table [("url", .text "http://localhost:9001")])]) := by
    simp only [merged?, ofEntries?, Environment.webAddress, Environment.overlay?, List.foldlM,
      hpath, hreads.eq_readValue]
    rfl
  have htyped : ofTree? (.table [("server", .table [("url", .text "http://localhost:9001")])]) =
      some webAddressed := by
    decide +kernel
  have hfile : fileEntries tone.config none = .ok [] := rfl
  simp only [layered?, hfile, Except.toOption, Option.bind_eq_bind, Option.bind_some, htree,
    htyped]

theorem settle_accepts_iff_tone :
    layered? tone.config none Environment.webAddress = some webAddressed ∧
      (tone.apply webAddressed).Usable ∧ tone.Overrules webAddressed ∧
        tone.settle none Environment.webAddress =
          .ok (.error (.badUrl "http://localhost:9001")) := by
  have heffective : (tone.apply webAddressed).Usable :=
    check_eq_ok.mp (by decide +kernel)
  have hover : tone.Overrules webAddressed := .inl ⟨rfl, by decide +kernel⟩
  exact ⟨layered?_webAddress, heffective, hover,
    ((settle_accepts_iff layered?_webAddress).2 heffective).2 hover⟩

/-- Settings that could be used are refused for an address that the line replaces. -/
theorem refused_tone : ¬ ∀ (line : CommandLine) (arguments : List String)
    (file : Option (Option FileFormat × String)) (environment : List (String × String))
    (layered : Settings), parse arguments = .ok line →
    layered? line.config file environment = some layered → (line.apply layered).check = .ok () →
    ∃ settings, line.settle file environment = .ok (.ok settings) := by
  intro h
  have heffective : (tone.apply webAddressed).check = .ok () := by decide +kernel
  obtain ⟨settings, hsettle⟩ := h tone _ none Environment.webAddress webAddressed parse_tone
    layered?_webAddress heffective
  have husable := ((settle_eq_ok layered?_webAddress).mp hsettle).1.url
  exact absurd husable (by decide +kernel)

end CommandLine
end SpeechProbe
