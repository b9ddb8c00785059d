import SpeechProbe.Settings.Load

/-!
# One variable over the rest

A variable for `group.key` sets one entry of one table of the settings tree.  `SetOver` says of
two trees that one is the other with such an entry set: everything outside the table is the
same, and so is every other entry of the table.  Setting the entry makes such a pair
(`setOver_set?`), variables that come later and leave the entry alone keep it
(`SetOver.overlay?`), and so two environments that differ in one variable make trees that
differ in one entry (`setOver_insert`).
-/

namespace SpeechProbe

namespace Tree

/-! ## Entries -/

variable {name other : String} {f : Option Tree → Tree}

theorem lookup_alterEntry_self (entries : List (String × Tree)) :
    (alterEntry name f entries).lookup name = some (f (entries.lookup name)) := by
  induction entries with
  | nil => simp [alterEntry]
  | cons entry rest ih =>
    obtain ⟨key, value⟩ := entry
    by_cases hkey : key = name
    · simp [alterEntry, hkey]
    · have hne : (name == key) = false := by simpa using Ne.symm hkey
      simp [alterEntry, hkey, List.lookup_cons, hne, ih]

theorem lookup_alterEntry_of_ne (hne : other ≠ name) (entries : List (String × Tree)) :
    (alterEntry name f entries).lookup other = entries.lookup other := by
  have hbeq : (other == name) = false := by simpa using hne
  induction entries with
  | nil => simp [alterEntry, List.lookup_cons, hbeq]
  | cons entry rest ih =>
    obtain ⟨key, value⟩ := entry
    by_cases hkey : key = name
    · simp [alterEntry, hkey, List.lookup_cons, hbeq]
    · simp [alterEntry, hkey, List.lookup_cons, ih]

theorem entry?_alter_self (tree : Tree) :
    Tree.entry? name (tree.alter name f) = some (f (tree.entry? name)) := by
  cases tree with
  | table entries => exact lookup_alterEntry_self entries
  | _ => simp [alter, entry?]

theorem entry?_alter_of_ne (hne : other ≠ name) (tree : Tree) :
    Tree.entry? other (tree.alter name f) = tree.entry? other := by
  have hbeq : (other == name) = false := by simpa using hne
  cases tree with
  | table entries => exact lookup_alterEntry_of_ne hne entries
  | _ => simp [alter, entry?, List.lookup_cons, hbeq]

theorem exists_alter_eq (name : String) (f : Option Tree → Tree) (tree : Tree) :
    ∃ entries, tree.alter name f = .table entries := by
  cases tree <;> exact ⟨_, rfl⟩

/-- A missing table has no entries. -/
theorem entry?_getD (tree : Option Tree) :
    Tree.entry? name (tree.getD .null) = tree.bind (Tree.entry? name) := by
  cases tree <;> rfl

/-- Only tables change what is laid over something else. -/
theorem laidOver_eq {value : Tree} (h : ∀ entries, value ≠ .table entries)
    (earlier : Option Tree) : laidOver earlier value = value := by
  cases value with
  | table entries => exact absurd rfl (h entries)
  | _ => rfl

/-! ## One entry set -/

/-- A tree is another one with the entry `key` of its table `group` set. -/
structure SetOver (group key : String) (value : Tree) (plain tree : Tree) : Prop where
  elsewhere : ∀ top, top ≠ group → tree.entry? top = plain.entry? top
  grouped : ∃ entries, tree.entry? group = some (.table entries) ∧
    entries.lookup key = some value ∧
      ∀ other, other ≠ key → entries.lookup other = (plain.entry? group).bind (Tree.entry? other)

end Tree

namespace Path

open SpeechProbe.Tree

/-! ## Setting the entry -/

section

variable {group key : String} {value : Tree}

theorem put?_entry (name : String) (steps : List PathStep) (earlier : Option Tree) :
    put? value (.entry name :: steps) earlier =
      (put? value steps (earlier.bind (Tree.entry? name))).map fun inner =>
        (earlier.getD .null).alter name fun _ => inner := by
  rw [put?]
  cases put? value steps (earlier.bind (Tree.entry? name)) <;> rfl

theorem set?_eq (path : Path) (tree : Tree) :
    path.set? value tree =
      (put? value path.steps (tree.entry? path.top)).map fun inner =>
        tree.alter path.top fun _ => inner := by
  rw [set?]
  cases put? value path.steps (tree.entry? path.top) <;> rfl

theorem setOver_set? (hvalue : ∀ entries, value ≠ .table entries) (plain : Tree) :
    ∃ tree, Path.set? ⟨group, [.entry key]⟩ value plain = some tree ∧
      SetOver group key value plain tree := by
  rw [set?_eq, put?_entry, put?, Option.map_some, Option.map_some, laidOver_eq hvalue]
  refine ⟨_, rfl, ?_, ?_⟩
  · intro top htop
    exact entry?_alter_of_ne htop plain
  · obtain ⟨entries, hentries⟩ :=
      exists_alter_eq key (fun _ => value) ((plain.entry? group).getD .null)
    refine ⟨entries, ?_, ?_, ?_⟩
    · rw [entry?_alter_self, hentries]
    · show Tree.entry? key (.table entries) = some value
      rw [← hentries, entry?_alter_self]
    · intro other hother
      show Tree.entry? other (.table entries) = _
      rw [← hentries, entry?_alter_of_ne hother, entry?_getD]

end

/-- A path that does not touch the entry `key` of the table `group`. -/
def Spares (group key : String) (path : Path) : Prop :=
  path.top ≠ group ∨ ∃ other steps, path.steps = .entry other :: steps ∧ other ≠ key

end Path

/-! ## Variables -/

namespace Environment

/-- No variable of a list touches the entry `key` of the table `group`. -/
def Spares (group key : String) (environment : List (String × String)) : Prop :=
  ∀ name text, (name, text) ∈ environment → ∀ path, path? name = some path →
    path.Spares group key

theorem overlay?_cons (name text : String) (rest : List (String × String)) (tree : Tree) :
    overlay? tree ((name, text) :: rest) =
      (match path? name with
        | some path => path.set? (readValue text) tree
        | none => some tree).bind fun tree => overlay? tree rest := by
  rfl

theorem overlay?_append (before after : List (String × String)) (tree : Tree) :
    overlay? tree (before ++ after) =
      (overlay? tree before).bind fun tree => overlay? tree after := by
  simp only [overlay?, List.foldlM_append]
  rfl

end Environment

namespace Tree.SetOver

open SpeechProbe.Path

variable {group key : String} {value plain plain' tree : Tree}

/-- A value put elsewhere can be put there in both trees. -/
theorem set? (h : SetOver group key value plain tree) {path : Path}
    (hspares : path.Spares group key) {put : Tree} (hput : path.set? put plain = some plain') :
    ∃ tree', path.set? put tree = some tree' ∧ SetOver group key value plain' tree' := by
  obtain ⟨entries, hgroup, hkey, hothers⟩ := h.grouped
  rw [set?_eq, Option.map_eq_some_iff] at hput
  obtain ⟨inner, hinner, rfl⟩ := hput
  by_cases htop : path.top = group
  · rcases hspares with hne | ⟨other, steps, hsteps, hother⟩
    · exact absurd htop hne
    rw [hsteps, htop, put?_entry, Option.map_eq_some_iff] at hinner
    obtain ⟨deep, hdeep, rfl⟩ := hinner
    have hsame : Tree.entry? other (.table entries) =
        (plain.entry? group).bind (Tree.entry? other) := hothers other hother
    rw [set?_eq, hsteps, htop, hgroup, put?_entry, Option.bind_some, hsame, hdeep,
      Option.map_some, Option.map_some, Option.getD_some]
    refine ⟨_, rfl, ?_, ?_⟩
    · intro top hne
      rw [entry?_alter_of_ne hne, entry?_alter_of_ne hne, h.elsewhere top hne]
    · refine ⟨alterEntry other (fun _ => deep) entries, ?_, ?_, ?_⟩
      · rw [entry?_alter_self]
        rfl
      · rw [lookup_alterEntry_of_ne (Ne.symm hother), hkey]
      · intro name hname
        rw [entry?_alter_self, Option.bind_some]
        by_cases hnew : name = other
        · rw [hnew, lookup_alterEntry_self, entry?_alter_self]
        · rw [lookup_alterEntry_of_ne hnew, entry?_alter_of_ne hnew, hothers name hname,
            entry?_getD]
  · rw [set?_eq, h.elsewhere path.top htop, hinner]
    refine ⟨_, rfl, ?_, ?_⟩
    · intro top hne
      by_cases hnew : top = path.top
      · rw [hnew, entry?_alter_self, entry?_alter_self]
      · rw [entry?_alter_of_ne hnew, entry?_alter_of_ne hnew, h.elsewhere top hne]
    · refine ⟨entries, ?_, hkey, ?_⟩
      · rw [entry?_alter_of_ne (Ne.symm htop), hgroup]
      · intro name hname
        rw [entry?_alter_of_ne (Ne.symm htop), hothers name hname]

theorem overlay? {later : List (String × String)} (hspares : Environment.Spares group key later)
    (h : SetOver group key value plain tree)
    (hplain : Environment.overlay? plain later = some plain') :
    ∃ tree', Environment.overlay? tree later = some tree' ∧
      SetOver group key value plain' tree' := by
  induction later generalizing plain tree with
  | nil =>
    cases hplain
    exact ⟨tree, rfl, h⟩
  | cons variable_ rest ih =>
    obtain ⟨name, text⟩ := variable_
    have hrest : Environment.Spares group key rest := fun name text hmem =>
      hspares name text (List.mem_cons_of_mem _ hmem)
    rw [Environment.overlay?_cons] at hplain
    rw [Environment.overlay?_cons]
    cases hpath : Environment.path? name with
    | none =>
      rw [hpath] at hplain
      exact ih hrest h hplain
    | some path =>
      rw [hpath] at hplain
      obtain ⟨next, hnext, hplain⟩ := Option.bind_eq_some_iff.mp hplain
      obtain ⟨tree', htree', h'⟩ :=
        h.set? (hspares name text List.mem_cons_self path hpath) hnext
      dsimp only
      rw [htree', Option.bind_some]
      exact ih hrest h' hplain

end Tree.SetOver

/-- Environments that differ in one variable make trees that differ in one entry. -/
theorem Environment.setOver_insert {group key name text : String} {base plain : Tree}
    {before after : List (String × String)} (hname : path? name = some ⟨group, [.entry key]⟩)
    (hvalue : ∀ entries, readValue text ≠ .table entries) (hspares : Spares group key after)
    (hplain : overlay? base (before ++ after) = some plain) :
    ∃ tree, overlay? base (before ++ (name, text) :: after) = some tree ∧
      Tree.SetOver group key (readValue text) plain tree := by
  rw [overlay?_append, Option.bind_eq_some_iff] at hplain
  obtain ⟨first, hfirst, hplain⟩ := hplain
  obtain ⟨set, hset, hover⟩ := Path.setOver_set? hvalue first
  obtain ⟨tree, htree, hover⟩ := hover.overlay? hspares hplain
  refine ⟨tree, ?_, hover⟩
  rw [overlay?_append, hfirst, Option.bind_some, overlay?_cons, hname]
  dsimp only
  rw [hset, Option.bind_some, htree]

/-! ## Settings -/

namespace Settings

open SpeechProbe.Tree

variable {value plain tree : Tree} {settings : Settings}

theorem ofTree?_eq_some : ofTree? tree = some settings ↔
    orDefault (tree.entry? "server") server? standard.server = some settings.server ∧
    orDefault (tree.entry? "session") session? standard.session = some settings.session ∧
    orDefault (tree.entry? "audio") audio? standard.audio = some settings.audio := by
  simp only [ofTree?, Option.bind_eq_bind, Option.bind_eq_some_iff, Option.pure_def,
    Option.some.injEq]
  constructor
  · rintro ⟨server, hserver, session, hsession, audio, haudio, rfl⟩
    exact ⟨hserver, hsession, haudio⟩
  · rintro ⟨hserver, hsession, haudio⟩
    exact ⟨_, hserver, _, hsession, _, haudio, rfl⟩

theorem server?_eq_some {server : ServerSettings} : server? tree = some server ↔
    ∃ get, tree.section? = some get ∧
      orDefault (get "url" 0) asText? standard.server.url = some server.url ∧
      orDefault (get "token" 1) (orNull? asText?) standard.server.token = some server.token := by
  simp only [server?, Option.bind_eq_bind, Option.bind_eq_some_iff, Option.pure_def,
    Option.some.injEq]
  constructor
  · rintro ⟨get, hget, url, hurl, token, htoken, rfl⟩
    exact ⟨get, hget, hurl, htoken⟩
  · rintro ⟨get, hget, hurl, htoken⟩
    exact ⟨get, hget, _, hurl, _, htoken, rfl⟩

theorem session?_eq_some {session : SessionSettings} : session? tree = some session ↔
    ∃ get, tree.section? = some get ∧
      orDefault (get "language" 0) asText? standard.session.language = some session.language ∧
      orDefault (get "energy_threshold" 1) asSingle? standard.session.energyThreshold =
        some session.energyThreshold ∧
      orDefault (get "min_silence_frames" 2) asUInt32? standard.session.minSilenceFrames =
        some session.minSilenceFrames ∧
      orDefault (get "handshake_timeout_secs" 3) asUInt64?
        standard.session.handshakeTimeoutSecs = some session.handshakeTimeoutSecs ∧
      orDefault (get "drain_window_secs" 4) asUInt64? standard.session.drainWindowSecs =
        some session.drainWindowSecs ∧
      orDefault (get "drain_poll_interval_ms" 5) asUInt64?
        standard.session.drainPollIntervalMs = some session.drainPollIntervalMs ∧
      orDefault (get "strict_handshake" 6) asFlag? standard.session.strictHandshake =
        some session.strictHandshake := by
  simp only [session?, Option.bind_eq_bind, Option.bind_eq_some_iff, Option.pure_def,
    Option.some.injEq]
  constructor
  · rintro ⟨get, hget, language, h1, threshold, h2, frames, h3, timeout, h4, window, h5,
      interval, h6, strict, h7, rfl⟩
    exact ⟨get, hget, h1, h2, h3, h4, h5, h6, h7⟩
  · rintro ⟨get, hget, h1, h2, h3, h4, h5, h6, h7⟩
    exact ⟨get, hget, _, h1, _, h2, _, h3, _, h4, _, h5, _, h6, _, h7, rfl⟩

theorem audio?_eq_some {audio : AudioSettings} : audio? tree = some audio ↔
    ∃ get, tree.section? = some get ∧
      orDefault (get "sample_rate" 0) asUInt32? standard.audio.sampleRate =
        some audio.sampleRate ∧
      orDefault (get "file_chunk_ms" 1) asUInt64? standard.audio.fileChunkMs =
        some audio.fileChunkMs ∧
      orDefault (get "stream_chunk_ms" 2) asUInt64? standard.audio.streamChunkMs =
        some audio.streamChunkMs ∧
      orDefault (get "live_queue_capacity" 3) asUInt64? standard.audio.liveQueueCapacity =
        some audio.liveQueueCapacity := by
  simp only [audio?, Option.bind_eq_bind, Option.bind_eq_some_iff, Option.pure_def,
    Option.some.injEq]
  constructor
  · rintro ⟨get, hget, rate, h1, file, h2, stream, h3, capacity, h4, rfl⟩
    exact ⟨get, hget, h1, h2, h3, h4⟩
  · rintro ⟨get, hget, h1, h2, h3, h4⟩
    exact ⟨get, hget, _, h1, _, h2, _, h3, _, h4, rfl⟩

theorem server?_table {entries : List (String × Tree)} {server : ServerSettings} :
    server? (.table entries) = some server ↔
      orDefault (entries.lookup "url") asText? standard.server.url = some server.url ∧
      orDefault (entries.lookup "token") (orNull? asText?) standard.server.token =
        some server.token := by
  simp [server?_eq_some, section?]

theorem session?_table {entries : List (String × Tree)} {session : SessionSettings} :
    session? (.table entries) = some session ↔
      orDefault (entries.lookup "language") asText? standard.session.language =
        some session.language ∧
      orDefault (entries.lookup "energy_threshold") asSingle? standard.session.energyThreshold =
        some session.energyThreshold ∧
      orDefault (entries.lookup "min_silence_frames") asUInt32?
        standard.session.minSilenceFrames = some session.minSilenceFrames ∧
      orDefault (entries.lookup "handshake_timeout_secs") asUInt64?
        standard.session.handshakeTimeoutSecs = some session.handshakeTimeoutSecs ∧
      orDefault (entries.lookup "drain_window_secs") asUInt64?
        standard.session.drainWindowSecs = some session.drainWindowSecs ∧
      orDefault (entries.lookup "drain_poll_interval_ms") asUInt64?
        standard.session.drainPollIntervalMs = some session.drainPollIntervalMs ∧
      orDefault (entries.lookup "strict_handshake") asFlag? standard.session.strictHandshake =
        some session.strictHandshake := by
  simp [session?_eq_some, section?]

/-- The table of which the entries are those a section has by name: none, if it was a list. -/
theorem exists_entries {α : Type} {section_ : Option Tree} {read : Tree → Option α}
    {default found : α} (hread : orDefault section_ read default = some found)
    (hsection : ∀ tree, (read tree).isSome → tree.section?.isSome)
    (hempty : read (.table []) = some default) :
    ∃ entries base, (base = found ∨ base = default) ∧ read (.table entries) = some base ∧
      ∀ name, section_.bind (Tree.entry? name) = entries.lookup name := by
  rcases section_ with _ | tree
  · exact ⟨[], default, .inr rfl, hempty, fun _ => rfl⟩
  · have hsome : (read tree).isSome := by
      rw [show read tree = some found from hread]
      rfl
    cases tree with
    | table entries => exact ⟨entries, found, .inl rfl, hread, fun _ => rfl⟩
    | list items => exact ⟨[], default, .inr rfl, hempty, fun _ => rfl⟩
    | _ => exact absurd (hsection _ hsome) (by simp [section?])

/-- A token set over settings.  The address stays, unless the section was a list before. -/
theorem ofTree?_setOver_token (h : SetOver "server" "token" value plain tree)
    {token : Option String} (hvalue : orNull? asText? value = some token)
    (hplain : ofTree? plain = some settings) :
    ∃ url, (url = settings.server.url ∨ url = standard.server.url) ∧
      ofTree? tree = some { settings with server := ⟨url, token⟩ } := by
  obtain ⟨hserver, hsession, haudio⟩ := ofTree?_eq_some.mp hplain
  obtain ⟨entries, hgroup, hkey, hothers⟩ := h.grouped
  obtain ⟨earlier, base, hbase, hearlier, hnames⟩ := exists_entries hserver
    (by intro tree; cases tree <;> simp [server?, section?]) (server?_table.mpr ⟨rfl, rfl⟩)
  refine ⟨base.url, hbase.imp (congrArg _) (congrArg _), ofTree?_eq_some.mpr ⟨?_, ?_, ?_⟩⟩
  · rw [hgroup, orDefault, server?_table, hkey, hothers "url" (by decide), hnames]
    exact ⟨(server?_table.mp hearlier).1, hvalue⟩
  · rw [h.elsewhere "session" (by decide), hsession]
  · rw [h.elsewhere "audio" (by decide), haudio]

/-- A language set over settings.  The section stays, unless it was a list before. -/
theorem ofTree?_setOver_language (h : SetOver "session" "language" value plain tree)
    {language : String} (hvalue : asText? value = some language)
    (hplain : ofTree? plain = some settings) :
    ∃ base, (base = settings.session ∨ base = standard.session) ∧
      ofTree? tree = some { settings with session := { base with language := language } } := by
  obtain ⟨hserver, hsession, haudio⟩ := ofTree?_eq_some.mp hplain
  obtain ⟨entries, hgroup, hkey, hothers⟩ := h.grouped
  obtain ⟨earlier, base, hbase, hearlier, hnames⟩ := exists_entries hsession
    (by intro tree; cases tree <;> simp [session?, section?])
    (session?_table.mpr ⟨rfl, rfl, rfl, rfl, rfl, rfl, rfl⟩)
  refine ⟨base, hbase, ofTree?_eq_some.mpr ⟨?_, ?_, ?_⟩⟩
  · rw [h.elsewhere "server" (by decide), hserver]
  · rw [hgroup, orDefault, session?_table, hkey]
    rw [hothers "energy_threshold" (by decide), hothers "min_silence_frames" (by decide),
      hothers "handshake_timeout_secs" (by decide), hothers "drain_window_secs" (by decide),
      hothers "drain_poll_interval_ms" (by decide), hothers "strict_handshake" (by decide)]
    simp only [hnames]
    exact ⟨hvalue, (session?_table.mp hearlier).2⟩
  · rw [h.elsewhere "audio" (by decide), haudio]

end Settings
end SpeechProbe
