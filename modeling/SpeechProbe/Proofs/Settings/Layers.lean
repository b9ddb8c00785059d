import Mathlib.Data.List.Induction
import SpeechProbe.Proofs.Settings.Verbatim

/-!
# Settings layer by layer

A setting can stand in the file, be set by a variable, and have an option on the command line;
where none of them sets it, it keeps its default.  `Setting` lists the settings with what each
layer says of them, and `value?` is what the highest layer that says something makes of one.

Variables are laid over the file one after the other, and `Overlaid` says what they have made of
one entry of the tree: what the last variable for it says, and else what the file says.  The one
way in which a setting depends on others is a section that the file gives as a list: it sets its
settings by their numbers, and the first variable for any key of the section puts a table in its
place.

A file counts here by its entries alone.  Its format is any `FileFormat`, whatever reader that has.
-/

namespace SpeechProbe

open SpeechProbe.Tree

/-- A setting: one key of one section. -/
inductive Setting where
  | url
  | token
  | language
  | energyThreshold
  | minSilenceFrames
  | handshakeTimeoutSecs
  | drainWindowSecs
  | drainPollIntervalMs
  | strictHandshake
  | sampleRate
  | fileChunkMs
  | streamChunkMs
  | liveQueueCapacity
  deriving DecidableEq, Repr

namespace Setting

/-- The values a setting can have. -/
abbrev Value : Setting → Type
  | url | language => String
  | token => Option String
  | energyThreshold => Single
  | minSilenceFrames | sampleRate => UInt32
  | strictHandshake => Bool
  | handshakeTimeoutSecs | drainWindowSecs | drainPollIntervalMs => UInt64
  | fileChunkMs | streamChunkMs | liveQueueCapacity => UInt64

/-- The section of a setting. -/
def group : Setting → String
  | url | token => "server"
  | language | energyThreshold | minSilenceFrames => "session"
  | handshakeTimeoutSecs | drainWindowSecs | drainPollIntervalMs | strictHandshake => "session"
  | sampleRate | fileChunkMs | streamChunkMs | liveQueueCapacity => "audio"

/-- The key of a setting in its section. -/
def key : Setting → String
  | url => "url"
  | token => "token"
  | language => "language"
  | energyThreshold => "energy_threshold"
  | minSilenceFrames => "min_silence_frames"
  | handshakeTimeoutSecs => "handshake_timeout_secs"
  | drainWindowSecs => "drain_window_secs"
  | drainPollIntervalMs => "drain_poll_interval_ms"
  | strictHandshake => "strict_handshake"
  | sampleRate => "sample_rate"
  | fileChunkMs => "file_chunk_ms"
  | streamChunkMs => "stream_chunk_ms"
  | liveQueueCapacity => "live_queue_capacity"

/-- The number of a setting in its section. -/
def index : Setting → Nat
  | url | language | sampleRate => 0
  | token | energyThreshold | fileChunkMs => 1
  | minSilenceFrames | streamChunkMs => 2
  | handshakeTimeoutSecs | liveQueueCapacity => 3
  | drainWindowSecs => 4
  | drainPollIntervalMs => 5
  | strictHandshake => 6

/-- The path of a setting. -/
def path (s : Setting) : Path := ⟨s.group, [.entry s.key]⟩

/-- What the value of a setting in a tree is read as. -/
def read? : (s : Setting) → Tree → Option s.Value
  | url | language => asText?
  | token => orNull? asText?
  | energyThreshold => asSingle?
  | minSilenceFrames | sampleRate => asUInt32?
  | strictHandshake => asFlag?
  | handshakeTimeoutSecs | drainWindowSecs | drainPollIntervalMs => asUInt64?
  | fileChunkMs | streamChunkMs | liveQueueCapacity => asUInt64?

/-- The value of a setting. -/
def get : (s : Setting) → Settings → s.Value
  | url, settings => settings.server.url
  | token, settings => settings.server.token
  | language, settings => settings.session.language
  | energyThreshold, settings => settings.session.energyThreshold
  | minSilenceFrames, settings => settings.session.minSilenceFrames
  | handshakeTimeoutSecs, settings => settings.session.handshakeTimeoutSecs
  | drainWindowSecs, settings => settings.session.drainWindowSecs
  | drainPollIntervalMs, settings => settings.session.drainPollIntervalMs
  | strictHandshake, settings => settings.session.strictHandshake
  | sampleRate, settings => settings.audio.sampleRate
  | fileChunkMs, settings => settings.audio.fileChunkMs
  | streamChunkMs, settings => settings.audio.streamChunkMs
  | liveQueueCapacity, settings => settings.audio.liveQueueCapacity

/-- What the command line makes of a setting. -/
def flag? : (s : Setting) → CommandLine → Option s.Value
  | url, line => line.url
  | token, line => line.token.map some
  | language, line => line.language
  | energyThreshold, line => line.energyThreshold
  | minSilenceFrames, line => line.minSilenceFrames
  | strictHandshake, line => if line.strict then some true else none
  | fileChunkMs, line | streamChunkMs, line => line.chunkMs
  | handshakeTimeoutSecs, _ | drainWindowSecs, _ | drainPollIntervalMs, _ => none
  | sampleRate, _ | liveQueueCapacity, _ => none

/-- The option of a setting that has a value. -/
def option? : Setting → Option ValueOption
  | url => some .url
  | token => some .token
  | language => some .language
  | energyThreshold => some .energyThreshold
  | minSilenceFrames => some .minSilenceFrames
  | fileChunkMs | streamChunkMs => some .chunkMs
  | handshakeTimeoutSecs | drainWindowSecs | drainPollIntervalMs | strictHandshake => none
  | sampleRate | liveQueueCapacity => none

/-- What a tree has for a setting: a table by its key, and a list by its number. -/
def found? (s : Setting) (tree : Tree) : Option Tree :=
  (tree.entry? s.group).bind fun section_ =>
    section_.section?.bind fun get => get s.key s.index

/-- What a tree has under the key of a setting. -/
def keyed? (s : Setting) (tree : Tree) : Option Tree :=
  (tree.entry? s.group).bind (Tree.entry? s.key)

/-! ## One tree -/

variable {s : Setting} {tree : Tree} {settings : Settings}

/-- Only what is left out has its default. -/
theorem orDefault_cases {α : Type} {entry : Option Tree} {read : Tree → Option α}
    {default found : α} (h : orDefault entry read default = some found) :
    entry = none ∧ default = found ∨ ∃ tree, entry = some tree ∧ read tree = some found := by
  cases entry with
  | none => exact .inl ⟨rfl, Option.some.inj h⟩
  | some tree => exact .inr ⟨tree, rfl, h⟩

/-- Settings are read one by one. -/
theorem read_of_ofTree? (h : Settings.ofTree? tree = some settings) (s : Setting) :
    orDefault (s.found? tree) s.read? (s.get Settings.standard) = some (s.get settings) := by
  obtain ⟨hserver, hsession, haudio⟩ := Settings.ofTree?_eq_some.mp h
  cases s
  case url | token =>
    rcases orDefault_cases hserver with ⟨hnone, hdefault⟩ | ⟨section_, hsome, hread⟩
    · simp [found?, group, hnone, orDefault, get, ← hdefault]
    · obtain ⟨found, hfound, hurl, htoken⟩ := Settings.server?_eq_some.mp hread
      simpa [found?, group, hsome, hfound]
  case sampleRate | fileChunkMs | streamChunkMs | liveQueueCapacity =>
    rcases orDefault_cases haudio with ⟨hnone, hdefault⟩ | ⟨section_, hsome, hread⟩
    · simp [found?, group, hnone, orDefault, get, ← hdefault]
    · obtain ⟨found, hfound, h1, h2, h3, h4⟩ := Settings.audio?_eq_some.mp hread
      simpa [found?, group, hsome, hfound]
  all_goals
    rcases orDefault_cases hsession with ⟨hnone, hdefault⟩ | ⟨section_, hsome, hread⟩
    · simp [found?, group, hnone, orDefault, get, ← hdefault]
    · obtain ⟨found, hfound, h1, h2, h3, h4, h5, h6, h7⟩ := Settings.session?_eq_some.mp hread
      simpa [found?, group, hsome, hfound]

/-- What a list has for a setting, it does not have under a key. -/
theorem keyed?_eq (s : Setting) (tree : Tree) : s.keyed? tree = s.found? tree ∨
    s.keyed? tree = none ∧ ∃ items, tree.entry? s.group = some (.list items) := by
  rw [keyed?, found?]
  cases tree.entry? s.group with
  | none => exact .inl rfl
  | some section_ =>
    cases section_ with
    | list items => exact .inr ⟨rfl, items, rfl⟩
    | _ => exact .inl rfl

/-- No setting is a table or a list. -/
theorem section?_eq_none (h : (s.read? tree).isSome) : tree.section? = none := by
  cases tree with
  | table _ | list _ =>
    cases s <;> simp [read?, asText?, orNull?, asSingle?, asDouble?, asUInt32?, asUInt64?,
      asFlag?] at h
  | _ => rfl

end Setting

/-! ## Variables over a tree -/

namespace Environment

/-- Some variable is for the section of a name, or for something in it. -/
def reaches (group : String) (environment : List (String × String)) : Bool :=
  environment.any fun variable_ => (path? variable_.1).any (·.top == group)

/-- What the last variable for exactly a path says. -/
def last? (path : Path) (environment : List (String × String)) : Option Tree :=
  (environment.filterMap fun variable_ =>
    if path? variable_.1 = some path then some (readValue variable_.2) else none).getLast?

/-- No variable is for the section of a name as a whole or for an item of it. -/
def SetsKeys (group : String) (environment : List (String × String)) : Prop :=
  ∀ name text, (name, text) ∈ environment → ∀ path, path? name = some path → path.top = group →
    ∃ key steps, path.steps = .entry key :: steps

variable {group key name text : String} {before after : List (String × String)} {path : Path}

theorem last?_append :
    last? path (before ++ after) = (last? path after).or (last? path before) := by
  simp [last?]

theorem last?_singleton :
    last? path [(name, text)] = if path? name = some path then some (readValue text) else none := by
  by_cases h : path? name = some path <;> simp [last?, h]

/-- A variable for something else says nothing. -/
theorem last?_insert (hne : path? name ≠ some path) :
    last? path (before ++ (name, text) :: after) = last? path (before ++ after) := by
  rw [List.append_cons, last?_append, last?_append, last?_singleton, if_neg hne, last?_append,
    Option.none_or]

/-- What is said for a path is said by a variable that reaches its section. -/
theorem reaches_of_last? {value : Tree} (h : last? path before = some value) :
    reaches path.top before = true := by
  obtain ⟨variable_, hmem, hsays⟩ := List.mem_filterMap.mp (List.mem_of_getLast? h)
  refine List.any_eq_true.mpr ⟨variable_, hmem, ?_⟩
  split at hsays
  · rename_i hpath
    simp [hpath]
  · simp at hsays

end Environment

namespace Path

/-- Something put further inside makes a table or a list. -/
theorem isSome_section?_put? {value tree : Tree} {step : PathStep} {steps : List PathStep}
    {earlier : Option Tree} (h : put? value (step :: steps) earlier = some tree) :
    tree.section?.isSome := by
  cases step with
  | entry name =>
    rw [put?_entry, Option.map_eq_some_iff] at h
    obtain ⟨inner, -, rfl⟩ := h
    obtain ⟨entries, hentries⟩ := exists_alter_eq name (fun _ => inner) (earlier.getD .null)
    rw [hentries]
    rfl
  | item index =>
    cases steps with
    | nil =>
      simp only [put?, Option.bind_eq_bind, Option.bind_eq_some_iff, Option.pure_def,
        Option.some.injEq] at h
      obtain ⟨place, -, inner, -, rfl⟩ := h
      rfl
    | cons next rest =>
      simp only [put?, Option.bind_eq_bind, Option.bind_eq_some_iff, Option.pure_def,
        Option.some.injEq] at h
      obtain ⟨place, -, inner, -, rfl⟩ := h
      rfl

end Path

open Environment (reaches last? SetsKeys)

/-- What variables have made of the section `group` of a tree and of the entry `key` in it.  An
entry that a variable has reached further into is a table or a list, and no setting. -/
structure Overlaid (group key : String) (environment : List (String × String))
    (base tree : Tree) : Prop where
  spared : reaches group environment = false → tree.entry? group = base.entry? group
  reached : reaches group environment = true → ∃ entries, tree.entry? group = some (.table entries)
  entry : (tree.entry? group).bind (Tree.entry? key) =
      (last? ⟨group, [.entry key]⟩ environment).or ((base.entry? group).bind (Tree.entry? key)) ∨
    ∃ inner, (tree.entry? group).bind (Tree.entry? key) = some inner ∧ inner.section?.isSome

namespace Overlaid

variable {group key name text : String} {environment : List (String × String)}
  {base tree tree' : Tree} {path : Path}

theorem nil (group key : String) (base : Tree) : Overlaid group key [] base base where
  spared := fun _ => rfl
  reached := by simp [reaches]
  entry := .inl (by simp [last?])

/-- A variable for another section, or for none. -/
theorem spare (h : Overlaid group key environment base tree)
    (hother : ∀ path, Environment.path? name = some path → path.top ≠ group)
    (hsame : tree'.entry? group = tree.entry? group) :
    Overlaid group key (environment ++ [(name, text)]) base tree' := by
  have hreaches : reaches group (environment ++ [(name, text)]) = reaches group environment := by
    cases hpath : Environment.path? name with
    | none => simp [reaches, hpath]
    | some path => simp [reaches, hpath, hother path hpath]
  have hlast : last? ⟨group, [.entry key]⟩ (environment ++ [(name, text)]) =
      last? ⟨group, [.entry key]⟩ environment := by
    rw [Environment.last?_append, Environment.last?_singleton,
      if_neg fun hpath => hother _ hpath rfl, Option.none_or]
  obtain ⟨hspared, hreached, hentry⟩ := h
  rw [← hsame] at hspared hreached hentry
  rw [← hreaches] at hspared hreached
  rw [← hlast] at hentry
  exact ⟨hspared, hreached, hentry⟩

/-- A variable for something in the section. -/
theorem reach (h : Overlaid group key environment base tree) {other : String}
    {steps : List PathStep} (hpath : Environment.path? name = some ⟨group, .entry other :: steps⟩)
    (hset : Path.set? ⟨group, .entry other :: steps⟩ (Environment.readValue text) tree =
      some tree') :
    Overlaid group key (environment ++ [(name, text)]) base tree' := by
  rw [Path.set?_eq, Path.put?_entry, Option.map_map, Option.map_eq_some_iff] at hset
  obtain ⟨inner, hinner, rfl⟩ := hset
  have hgroup : Tree.entry? group (tree.alter group fun _ =>
      ((tree.entry? group).getD .null).alter other fun _ => inner) =
        some (((tree.entry? group).getD .null).alter other fun _ => inner) :=
    entry?_alter_self tree
  have hreaches : reaches group (environment ++ [(name, text)]) = true := by
    simp [reaches, hpath]
  refine ⟨by simp [hreaches], fun _ => ?_, ?_⟩
  · obtain ⟨entries, hentries⟩ :=
      exists_alter_eq other (fun _ => inner) ((tree.entry? group).getD .null)
    exact ⟨entries, by rw [← hentries]; exact hgroup⟩
  · rw [Function.comp_apply, hgroup, Option.bind_some, Environment.last?_append,
      Environment.last?_singleton, hpath]
    by_cases hother : other = key
    · rw [hother, entry?_alter_self]
      cases steps with
      | nil =>
        left
        rw [Path.put?, laidOver_eq (Environment.readValue_ne_table text),
          Option.some.injEq] at hinner
        simp [hinner]
      | cons step steps => exact .inr ⟨inner, rfl, Path.isSome_section?_put? hinner⟩
    · rw [entry?_alter_of_ne (Ne.symm hother), entry?_getD, if_neg (by simp [hother]),
        Option.none_or]
      exact h.entry

end Overlaid

/-- Variables that set keys of a section alone. -/
theorem overlaid_overlay? {group : String} {environment : List (String × String)}
    (hkeys : SetsKeys group environment) (key : String) {base tree : Tree}
    (h : Environment.overlay? base environment = some tree) :
    Overlaid group key environment base tree := by
  induction environment using List.reverseRecOn generalizing tree with
  | nil =>
    cases h
    exact .nil group key base
  | append_singleton earlier variable_ ih =>
    obtain ⟨name, text⟩ := variable_
    rw [Environment.overlay?_append, Option.bind_eq_some_iff] at h
    obtain ⟨before, hbefore, hlast⟩ := h
    have hover := ih (fun name text hmem => hkeys name text (List.mem_append_left _ hmem)) hbefore
    rw [Environment.overlay?_cons] at hlast
    cases hpath : Environment.path? name with
    | none =>
      rw [hpath] at hlast
      cases hlast
      exact hover.spare (by simp [hpath]) rfl
    | some path =>
      rw [hpath, Option.bind_eq_some_iff] at hlast
      obtain ⟨after, hafter, hlast⟩ := hlast
      dsimp only at hafter
      cases hlast
      by_cases htop : path.top = group
      · obtain ⟨other, steps, hsteps⟩ := hkeys name text (by simp) path hpath htop
        obtain rfl : path = ⟨group, .entry other :: steps⟩ := by
          rw [← htop, ← hsteps]
        exact hover.reach hpath hafter
      · refine hover.spare (by simpa [hpath]) ?_
        rw [Path.set?_eq, Option.map_eq_some_iff] at hafter
        obtain ⟨inner, -, rfl⟩ := hafter
        exact entry?_alter_of_ne (Ne.symm htop) before

/-! ## Layers -/

/-- What the settings of a run are made from. -/
structure Layers where
  line : CommandLine
  environment : List (String × String)
  /-- The first candidate file that exists, in a format of any kind. -/
  file : Option (Option FileFormat × String)

namespace Layers

/-- What the line makes of the settings that can be loaded. -/
def effective? (layers : Layers) : Option Settings :=
  match Settings.load layers.line.config layers.file layers.environment with
  | .ok (.ok loaded) => some (layers.line.apply loaded)
  | _ => none

/-- What the file says, and nothing where there is none. -/
def tree (layers : Layers) : Tree :=
  match Settings.fileEntries layers.line.config layers.file with
  | .ok entries => (Settings.ofEntries? entries).getD (.table [])
  | .error _ => .table []

/-- What the file says of a setting.  A section that is a list gives way to the first variable for
a key of it. -/
def filed? (layers : Layers) (s : Setting) : Option Tree :=
  if reaches s.group layers.environment then s.keyed? layers.tree else s.found? layers.tree

/-- What the highest layer that sets a setting makes of it. -/
def value? (layers : Layers) (s : Setting) : Option s.Value :=
  match s.flag? layers.line, last? s.path layers.environment, layers.filed? s with
  | some value, _, _ => some value
  | none, some tree, _ => s.read? tree
  | none, none, some tree => s.read? tree
  | none, none, none => some (s.get Settings.standard)

/-- No variable is for a section as a whole or for an item of one. -/
def SetsKeys (layers : Layers) : Prop :=
  ∀ s : Setting, Environment.SetsKeys s.group layers.environment

variable {layers : Layers} {effective loaded : Settings}

theorem effective?_eq_some : layers.effective? = some effective ↔
    ∃ loaded, Settings.load layers.line.config layers.file layers.environment = .ok (.ok loaded) ∧
      layers.line.apply loaded = effective := by
  rw [effective?]
  cases Settings.load layers.line.config layers.file layers.environment with
  | error halt => simp
  | ok outcome => cases outcome <;> simp

/-- What is loaded is read from the variables over the file. -/
theorem exists_tree_of_load
    (h : Settings.load layers.line.config layers.file layers.environment = .ok (.ok loaded)) :
    ∃ tree, Environment.overlay? layers.tree layers.environment = some tree ∧
      Settings.ofTree? tree = some loaded := by
  obtain ⟨entries, tree, hentries, hmerged, hloaded, -⟩ := Settings.load_eq_ok.mp h
  simp only [Settings.merged?, Option.bind_eq_bind, Option.bind_eq_some_iff] at hmerged
  obtain ⟨base, hbase, hover⟩ := hmerged
  refine ⟨tree, ?_, hloaded⟩
  simpa [Layers.tree, hentries, hbase] using hover

/-- Below the line, a variable counts more than the file. -/
theorem read_of_load (hkeys : layers.SetsKeys)
    (h : Settings.load layers.line.config layers.file layers.environment = .ok (.ok loaded))
    (s : Setting) :
    orDefault ((last? s.path layers.environment).or (layers.filed? s)) s.read?
      (s.get Settings.standard) = some (s.get loaded) := by
  obtain ⟨tree, hover, htyped⟩ := exists_tree_of_load h
  have hread := Setting.read_of_ofTree? htyped s
  obtain ⟨hspared, hreached, hentry⟩ := overlaid_overlay? (hkeys s) s.key hover
  cases hreaches : reaches s.group layers.environment with
  | false =>
    have hlast : last? s.path layers.environment = none := by
      by_contra hsome
      obtain ⟨value, hvalue⟩ := Option.ne_none_iff_exists'.mp hsome
      have := Environment.reaches_of_last? hvalue
      simp [Setting.path, hreaches] at this
    rw [hlast, Option.none_or, filed?, hreaches, ← hread]
    simp only [Bool.false_eq_true, if_false, Setting.found?, hspared hreaches]
  | true =>
    obtain ⟨entries, hgroup⟩ := hreached hreaches
    have hfound : s.found? tree = (tree.entry? s.group).bind (Tree.entry? s.key) := by
      rw [Setting.found?, hgroup]
      rfl
    rw [hfound] at hread
    rcases hentry with hsame | ⟨inner, hinner, hdeep⟩
    · rw [hsame] at hread
      rw [filed?, hreaches]
      exact hread
    · rw [hinner] at hread
      have hnone : inner.section? = none := by
        apply Setting.section?_eq_none (s := s)
        rw [show s.read? inner = _ from hread]
        rfl
      simp [hnone] at hdeep

end Layers

namespace Setting

/-- Settings that agree on each of the list are the same. -/
theorem eq_of_get_eq {settings settings' : Settings}
    (h : ∀ s : Setting, s.get settings = s.get settings') : settings = settings' := by
  obtain ⟨⟨_, _⟩, ⟨_, _, _, _, _, _, _⟩, ⟨_, _, _, _⟩⟩ := settings
  obtain ⟨⟨_, _⟩, ⟨_, _, _, _, _, _, _⟩, ⟨_, _, _, _⟩⟩ := settings'
  obtain rfl := h url
  obtain rfl := h token
  obtain rfl := h language
  obtain rfl := h energyThreshold
  obtain rfl := h minSilenceFrames
  obtain rfl := h handshakeTimeoutSecs
  obtain rfl := h drainWindowSecs
  obtain rfl := h drainPollIntervalMs
  obtain rfl := h strictHandshake
  obtain rfl := h sampleRate
  obtain rfl := h fileChunkMs
  obtain rfl := h streamChunkMs
  obtain rfl := h liveQueueCapacity
  rfl

/-- A line changes the settings it has options for. -/
theorem get_apply (s : Setting) (line : CommandLine) (settings : Settings) :
    s.get (line.apply settings) = (s.flag? line).getD (s.get settings) := by
  cases s
  case token =>
    cases htoken : line.token <;> simp [get, flag?, CommandLine.apply, htoken]
  case strictHandshake =>
    cases hstrict : line.strict <;> simp [get, flag?, CommandLine.apply, hstrict]
  all_goals rfl

end Setting

theorem CommandLine.apply_apply (line : CommandLine) (settings : Settings) :
    line.apply (line.apply settings) = line.apply settings := by
  refine Setting.eq_of_get_eq fun s => ?_
  rw [s.get_apply, s.get_apply]
  cases s.flag? line <;> rfl

/-- An option that is given in addition counts for its own settings alone. -/
theorem CommandLine.flag?_put {line line' : CommandLine} {option : ValueOption} {text : String}
    (h : line.put option text = .ok line') :
    (∀ s : Setting, s.option? ≠ some option → s.flag? line' = s.flag? line) ∧
      (option ≠ .config → line'.config = line.config) := by
  cases option
  case config =>
    obtain ⟨value, -, hline⟩ := Except.bind_eq_ok.mp h
    cases hline
    exact ⟨fun s _ => by cases s <;> rfl, fun hother => absurd rfl hother⟩
  all_goals
    obtain ⟨value, -, hline⟩ := Except.bind_eq_ok.mp h
    cases hline
    refine ⟨fun s hother => ?_, fun _ => rfl⟩
    cases s <;> first | rfl | exact absurd rfl hother

namespace Layers

variable {layers layers' : Layers} {effective effective' : Settings} {s : Setting}

theorem value?_eq (hkeys : layers.SetsKeys) (h : layers.effective? = some effective)
    (s : Setting) : layers.value? s = some (s.get effective) := by
  obtain ⟨loaded, hload, rfl⟩ := effective?_eq_some.mp h
  have hread := read_of_load hkeys hload s
  rw [s.get_apply, value?]
  cases s.flag? layers.line with
  | some value => rfl
  | none =>
    cases hlast : last? s.path layers.environment with
    | some tree => simpa [hlast, orDefault] using hread
    | none =>
      cases hfiled : layers.filed? s with
      | some tree => simpa [hlast, hfiled, orDefault] using hread
      | none => simpa [hlast, hfiled, orDefault] using hread

/-- Every layer says the same of a setting. -/
structure AgreeOn (s : Setting) (layers layers' : Layers) : Prop where
  flag : s.flag? layers.line = s.flag? layers'.line
  last : last? s.path layers.environment = last? s.path layers'.environment
  filed : layers.filed? s = layers'.filed? s

theorem AgreeOn.get_eq (hagree : AgreeOn s layers layers') (hkeys : layers.SetsKeys)
    (hkeys' : layers'.SetsKeys) (h : layers.effective? = some effective)
    (h' : layers'.effective? = some effective') : s.get effective' = s.get effective := by
  have hvalue : layers.value? s = layers'.value? s := by
    rw [value?, value?, hagree.flag, hagree.last, hagree.filed]
  rw [value?_eq hkeys h s, value?_eq hkeys' h' s] at hvalue
  exact (Option.some.inj hvalue).symm

/-- The layers with one option more. -/
theorem agreeOn_put {line : CommandLine} {option : ValueOption} {text : String}
    (hput : layers.line.put option text = .ok line) (hconfig : option ≠ .config)
    (hother : s.option? ≠ some option) : AgreeOn s layers { layers with line := line } := by
  obtain ⟨hflag, hname⟩ := CommandLine.flag?_put hput
  refine ⟨(hflag s hother).symm, rfl, ?_⟩
  simp only [filed?, Layers.tree, hname hconfig]

/-- The layers with one variable less. -/
theorem agreeOn_erase {before after : List (String × String)} {name text : String}
    (henvironment : layers.environment = before ++ (name, text) :: after)
    (hother : Environment.path? name ≠ some s.path)
    (htable : ∀ items, layers.tree.entry? s.group ≠ some (.list items)) :
    AgreeOn s layers { layers with environment := before ++ after } := by
  refine ⟨rfl, by rw [henvironment]; exact Environment.last?_insert hother, ?_⟩
  have hkeyed : s.keyed? layers.tree = s.found? layers.tree := by
    rcases s.keyed?_eq layers.tree with hsame | ⟨-, items, hlist⟩
    · exact hsame
    · exact absurd hlist (htable items)
  have htree : { layers with environment := before ++ after }.tree = layers.tree := rfl
  simp only [filed?, htree, hkeyed, ite_self]

/-- What the file leaves out is not taken from it. -/
theorem filed?_eq_none (h : s.found? layers.tree = none) : layers.filed? s = none := by
  rw [filed?]
  split
  · rcases s.keyed?_eq layers.tree with hsame | ⟨hnone, -⟩
    · rw [hsame, h]
    · exact hnone
  · exact h

/-- The switch for the strict handshake changes one setting, and only switches it on. -/
theorem get_strict {plain : Settings} (h : layers.effective? = some effective)
    (hplain : { layers with line := { layers.line with strict := false } }.effective? =
      some plain) :
    (plain.session.strictHandshake = true → effective.session.strictHandshake = true) ∧
      ∀ s : Setting, s ≠ .strictHandshake → s.get plain = s.get effective := by
  obtain ⟨loaded, hload, rfl⟩ := effective?_eq_some.mp h
  obtain ⟨loaded', hload', rfl⟩ := effective?_eq_some.mp hplain
  obtain rfl : loaded = loaded' := Except.ok.inj (Except.ok.inj (hload.symm.trans hload'))
  refine ⟨fun hstrict => ?_, fun s hother => ?_⟩
  · simp only [CommandLine.apply, Bool.false_or] at hstrict
    simp only [CommandLine.apply, hstrict, Bool.or_true]
  · rw [s.get_apply, s.get_apply]
    cases s <;> first | rfl | exact absurd rfl hother

/-- Each setting of a run, over a file of any format, is what the highest layer that sets it makes
of it, and depends on nothing else that is set: not on an option or a variable for another setting,
and not on the rest of the file.  What no layer sets has its default.  A switch is only switched on, a chunk duration
counts for every source, and a line changes nothing in what it made itself. -/
theorem effective_by_layer (hkeys : layers.SetsKeys) (h : layers.effective? = some effective) :
    layers.line.settle layers.file layers.environment = .ok effective.admitted ∧
    (∀ s : Setting, layers.value? s = some (s.get effective)) ∧
    (∀ (layers' : Layers) (effective' : Settings), layers'.SetsKeys →
      layers'.effective? = some effective' → ∀ s : Setting, AgreeOn s layers layers' →
        s.get effective' = s.get effective) ∧
    (∀ option text line effective', layers.line.put option text = .ok line → option ≠ .config →
      { layers with line := line }.effective? = some effective' →
        ∀ s : Setting, s.option? ≠ some option → s.get effective' = s.get effective) ∧
    (∀ before after name text effective', layers.environment = before ++ (name, text) :: after →
      { layers with environment := before ++ after }.effective? = some effective' →
        ∀ s : Setting, Environment.path? name ≠ some s.path →
          (∀ items, layers.tree.entry? s.group ≠ some (.list items)) →
            s.get effective' = s.get effective) ∧
    (∀ s : Setting, s.flag? layers.line = none → last? s.path layers.environment = none →
      s.found? layers.tree = none → s.get effective = s.get Settings.standard) ∧
    (layers.line.strict = true → effective.session.strictHandshake = true) ∧
    (∀ plain, { layers with line := { layers.line with strict := false } }.effective? = some plain →
      (plain.session.strictHandshake = true → effective.session.strictHandshake = true) ∧
        ∀ s : Setting, s ≠ .strictHandshake → s.get plain = s.get effective) ∧
    (∀ ms, layers.line.chunkMs = some ms →
      effective.audio.fileChunkMs = ms ∧ effective.audio.streamChunkMs = ms ∧
        ∀ id audio, (effective.plan id (effective.chunkMs audio)).chunkMs = ms) ∧
    layers.line.apply effective = effective := by
  have hvalue := value?_eq hkeys h
  refine ⟨?_, hvalue, fun layers' effective' hkeys' h' s hagree => hagree.get_eq hkeys hkeys' h h',
    ?_, ?_, ?_, ?_, fun plain => get_strict h, ?_, ?_⟩
  · obtain ⟨loaded, hload, rfl⟩ := effective?_eq_some.mp h
    rw [CommandLine.settle, hload]
  · intro option text line effective' hput hconfig h' s hother
    exact (agreeOn_put hput hconfig hother).get_eq hkeys hkeys h h'
  · intro before after name text effective' henvironment h' s hother htable
    refine (agreeOn_erase henvironment hother htable).get_eq hkeys (fun s name text hmem => ?_) h h'
    have hsub : (before ++ after).Sublist layers.environment := by
      rw [henvironment]
      exact (List.Sublist.refl before).append (List.sublist_cons_self _ _)
    exact hkeys s name text (hsub.mem hmem)
  · intro s hflag hlast hfound
    have hdefault := hvalue s
    rw [value?, hflag, hlast, filed?_eq_none hfound] at hdefault
    exact (Option.some.inj hdefault).symm
  · intro hstrict
    obtain ⟨loaded, hload, rfl⟩ := effective?_eq_some.mp h
    simp only [CommandLine.apply, hstrict, Bool.true_or]
  · intro ms hms
    obtain ⟨loaded, hload, rfl⟩ := effective?_eq_some.mp h
    have hfile : (layers.line.apply loaded).audio.fileChunkMs = ms := by
      simp only [CommandLine.apply, hms, Option.getD_some]
    have hstream : (layers.line.apply loaded).audio.streamChunkMs = ms := by
      simp only [CommandLine.apply, hms, Option.getD_some]
    refine ⟨hfile, hstream, fun id audio => ?_⟩
    cases audio with
    | file path => exact hfile
    | live => exact hstream
    | synthetic spec => exact hstream
  · obtain ⟨loaded, hload, rfl⟩ := effective?_eq_some.mp h
    exact layers.line.apply_apply loaded

/-- A microphone with a chunk duration, over a variable, over a JSON file that sets what the
variable and the line set as well. -/
def mixed : Layers where
  line := { CommandLine.empty with mic := true, chunkMs := some 40 }
  environment := [("HARNESS__SESSION__MIN_SILENCE_FRAMES", "5")]
  file := some (some .json,
    "\x7b\"session\":\x7b\"language\":\"en\",\"min_silence_frames\":7\x7d," ++
      "\"audio\":\x7b\"file_chunk_ms\":250\x7d\x7d")

/-- What each layer has a part in. -/
def mixedSettings : Settings :=
  { Settings.standard with
    session := { Settings.standard.session with language := "en", minSilenceFrames := 5 }
    audio := { Settings.standard.audio with fileChunkMs := 40, streamChunkMs := 40 } }

theorem effective_by_layer_mixed :
    CommandLine.parse ["--mic", "--chunk-ms", "40"] = .ok mixed.line ∧
      mixed.SetsKeys ∧ mixed.effective? = some mixedSettings ∧
      (∀ s : Setting, mixed.value? s = some (s.get mixedSettings)) ∧
      ∀ id audio, (mixedSettings.plan id (mixedSettings.chunkMs audio)).chunkMs = 40 := by
  have hparse : CommandLine.parse ["--mic", "--chunk-ms", "40"] = .ok mixed.line := by
    decide +kernel
  have hpath : Environment.path? "HARNESS__SESSION__MIN_SILENCE_FRAMES" =
      some ⟨"session", [.entry "min_silence_frames"]⟩ := by
    decide +kernel
  have hkeys : mixed.SetsKeys := by
    intro s name text hmem path hname htop
    obtain ⟨rfl, rfl⟩ : name = "HARNESS__SESSION__MIN_SILENCE_FRAMES" ∧ text = "5" := by
      simpa [mixed] using hmem
    obtain rfl := Option.some.inj (hpath.symm.trans hname)
    exact ⟨_, _, rfl⟩
  have heffective : mixed.effective? = some mixedSettings := by decide +kernel
  obtain ⟨-, hvalue, -, -, -, -, -, -, hchunk, -⟩ := effective_by_layer hkeys heffective
  exact ⟨hparse, hkeys, heffective, hvalue, (hchunk 40 rfl).2.2⟩

/-- A microphone, over variables, over a JSON file. -/
def recorded (environment : List (String × String)) (content : String) : Layers where
  line := { CommandLine.empty with mic := true }
  environment := environment
  file := some (some .json, content)

/-- The file gives the settings of the session as a list, and a variable sets another one. -/
def listed : Layers :=
  recorded [("HARNESS__SESSION__MIN_SILENCE_FRAMES", "5")] "\x7b\"session\":[\"en\"]\x7d"

/-- A variable for the session as a whole, and one for a setting of it. -/
def swept : Layers :=
  recorded [("HARNESS__SESSION", "0"), ("HARNESS__SESSION__MIN_SILENCE_FRAMES", "5")]
    "\x7b\"session\":\x7b\"language\":\"en\"\x7d\x7d"

/-- The settings where the variable counts alone. -/
def patient : Settings :=
  { Settings.standard with session := { Settings.standard.session with minSilenceFrames := 5 } }

/-- The settings where the file counts alone. -/
def english : Settings :=
  { Settings.standard with session := { Settings.standard.session with language := "en" } }

/-- A variable for one setting takes away what a list in the file says of another, and a variable
for a section as a whole takes away what the file says in it. -/
theorem discarded_section :
    (¬ ∀ (arguments : List String) (layers : Layers) (before after : List (String × String))
      (name text : String) (effective effective' : Settings),
      CommandLine.parse arguments = .ok layers.line →
      layers.environment = before ++ (name, text) :: after →
      layers.effective? = some effective →
      { layers with environment := before ++ after }.effective? = some effective' →
      ∀ s : Setting, Environment.path? name ≠ some s.path → s.get effective' = s.get effective) ∧
    ¬ ∀ (arguments : List String) (layers : Layers) (effective : Settings),
      CommandLine.parse arguments = .ok layers.line → layers.effective? = some effective →
      ∀ s : Setting, layers.value? s = some (s.get effective) := by
  have hparse : CommandLine.parse ["--mic"] = .ok { CommandLine.empty with mic := true } := by
    decide +kernel
  constructor
  · intro h
    have hpatient : listed.effective? = some patient := by decide +kernel
    have henglish : { listed with environment := [] }.effective? = some english := by
      decide +kernel
    have hsame := h _ listed [] [] _ _ patient english hparse rfl hpatient henglish .language
      (by decide +kernel)
    exact absurd hsame (by decide)
  · intro h
    have hpatient : swept.effective? = some patient := by decide +kernel
    have hsame := h _ swept patient hparse hpatient .language
    exact absurd hsame (by decide +kernel)

end Layers
end SpeechProbe
