import SpeechProbe.Proofs.Session.Views

/-!
# How time passes

While a session waits, the clock moves and what is due happens: blocks are pushed,
producers go away, a stop is requested.  A `Passage` says what such a stretch can do
to a scene, and every wait of a scene is one.  Fetching live audio is a wait, a pop
and a passage at the same moment; audio in memory is there at once.
-/

namespace SpeechProbe

/-- The samples of a source in memory. -/
def Source.cursor? : Source → Option Cursor
  | .recording cursor | .synthetic cursor => some cursor
  | .live _ => none

theorem Source.isSelfPaced_eq (source : Source) :
    source.isSelfPaced = source.cursor?.isNone := by
  cases source <;> rfl

/-- A cursor that gives nothing stays where it is. -/
theorem Cursor.eq_of_next_none {cursor after : Cursor} {n : Nat}
    (h : cursor.next n = .ok (none, after)) : after = cursor := by
  unfold next at h
  split at h
  · simp only [Except.ok.injEq, Prod.mk.injEq, true_and] at h
    exact h.symm
  · split at h <;> simp at h

theorem Cursor.eq_of_next_error {cursor : Cursor} {n : Nat} {halt : Halt}
    (h : cursor.next n = .error halt) : halt = .positionOverflow := by
  unfold next at h
  split at h
  · simp at h
  · split at h
    · exact (Except.error.inj h).symm
    · simp at h

namespace Scene

/-- Time passed between two scenes, and `entries` are what happened meanwhile. -/
structure Passage (before after : Scene) (entries : List Entry) : Prop
    extends Grows before after entries where
  ambient : ∀ entry ∈ entries, entry.isAmbient
  clock_le : before.clock ≤ after.clock
  /-- A stop is requested within the time that passed. -/
  stop_time : ∀ time, .stopRequested time ∈ entries →
    before.clock ≤ time ∧ time ≤ after.clock
  cursor_eq : after.source.cursor? = before.source.cursor?

namespace Passage

theorem refl (scene : Scene) : Passage scene scene [] where
  toGrows := .refl scene
  ambient := by simp
  clock_le := Nat.le_refl _
  stop_time := by simp
  cursor_eq := rfl

theorem trans {first second third : Scene} {entries entries' : List Entry}
    (h : Passage first second entries) (h' : Passage second third entries') :
    Passage first third (entries ++ entries') where
  toGrows := h.toGrows.trans h'.toGrows
  ambient := by
    intro entry hentry
    rcases List.mem_append.mp hentry with hentry | hentry
    · exact h.ambient entry hentry
    · exact h'.ambient entry hentry
  clock_le := Nat.le_trans h.clock_le h'.clock_le
  stop_time := by
    intro time htime
    have hle := h.clock_le
    have hle' := h'.clock_le
    rcases List.mem_append.mp htime with htime | htime
    · have hbounds := h.stop_time time htime
      exact ⟨hbounds.1, Nat.le_trans hbounds.2 hle'⟩
    · have hbounds := h'.stop_time time htime
      exact ⟨Nat.le_trans hle hbounds.1, hbounds.2⟩
  cursor_eq := h'.cursor_eq.trans h.cursor_eq

/-- Nothing that a blind view sees happens while time passes. -/
theorem view_eq {α : Type} {before after : Scene} {entries : List Entry}
    (h : Passage before after entries) (f : Entry → Option α) [Entry.Blind f] :
    after.view f = before.view f := by
  rw [view_of_entries h.entries_eq, Entry.filterMap_eq_nil_of_ambient f h.ambient,
    List.append_nil]

theorem isSelfPaced_eq {before after : Scene} {entries : List Entry}
    (h : Passage before after entries) :
    after.source.isSelfPaced = before.source.isSelfPaced := by
  rw [Source.isSelfPaced_eq, h.cursor_eq, ← Source.isSelfPaced_eq]

end Passage

/-! ## Single happenings -/

theorem passage_moveTo (scene : Scene) (time : Nanos) :
    Passage scene (scene.moveTo time) [] where
  entries_eq := (List.append_nil _).symm
  ambient := by simp
  clock_le := Nat.le_max_left _ _
  stop_time := by simp
  running_eq := by simp [moveTo]
  cursor_eq := rfl

theorem passage_requestStop (scene : Scene) :
    Passage scene scene.requestStop [.stopRequested scene.clock] where
  entries_eq := entries_record _ _
  ambient := by simp [Entry.isAmbient]
  clock_le := Nat.le_refl _
  stop_time := by
    intro time htime
    have heq : time = scene.clock := by simpa using htime
    rw [heq]
    exact ⟨Nat.le_refl _, Nat.le_refl _⟩
  running_eq := by simp [requestStop, record, Entry.isStop]
  cursor_eq := rfl

theorem cursor?_mapLive (f : LiveSource → LiveSource) (source : Source) :
    (source.mapLive f).cursor? = source.cursor? := by
  cases source <;> rfl

theorem passage_happen (scene : Scene) (happening : Happening) :
    ∃ entries, Passage scene (scene.happen happening) entries := by
  cases happening with
  | push due samples =>
    cases hsource : scene.source with
    | live live =>
      refine ⟨[.pushed due samples.length (live.push samples).1], ?_⟩
      have heq : scene.happen (.push due samples) =
          { scene with source := .live (live.push samples).2 }.record
            (.pushed due samples.length (live.push samples).1) := by
        simp only [happen, hsource]
      rw [heq]
      exact
        { entries_eq := entries_record _ _
          ambient := by simp [Entry.isAmbient]
          clock_le := Nat.le_refl _
          stop_time := by simp
          running_eq := by simp [record, Entry.isStop]
          cursor_eq := by rw [hsource]; rfl }
    | recording cursor =>
      have heq : scene.happen (.push due samples) = scene := by simp only [happen, hsource]
      rw [heq]
      exact ⟨[], Passage.refl scene⟩
    | synthetic cursor =>
      have heq : scene.happen (.push due samples) = scene := by simp only [happen, hsource]
      rw [heq]
      exact ⟨[], Passage.refl scene⟩
  | dropProducer =>
    exact ⟨[],
      { entries_eq := (List.append_nil _).symm
        ambient := by simp
        clock_le := Nat.le_refl _
        stop_time := by simp
        running_eq := by simp [happen]
        cursor_eq := cursor?_mapLive _ _ }⟩
  | stop => exact ⟨_, passage_requestStop scene⟩

@[simp] theorem clock_happen (scene : Scene) (happening : Happening) :
    (scene.happen happening).clock = scene.clock := by
  cases happening with
  | push due samples =>
    simp only [happen]
    split <;> rfl
  | dropProducer => rfl
  | stop => rfl

theorem passage_coming (scene : Scene) (coming : Schedule) :
    Passage scene { scene with coming := coming } [] where
  entries_eq := (List.append_nil _).symm
  ambient := by simp
  clock_le := Nat.le_refl _
  stop_time := by simp
  running_eq := by simp
  cursor_eq := rfl

theorem passage_step (scene : Scene) (time : Nanos) (happening : Happening)
    (rest : Schedule) : ∃ entries, Passage scene (scene.step time happening rest) entries := by
  obtain ⟨entries, h⟩ := passage_happen ({ scene with coming := rest }.moveTo time) happening
  exact ⟨_, ((passage_coming scene rest).trans (passage_moveTo _ time)).trans h⟩

@[simp] theorem clock_step (scene : Scene) (time : Nanos) (happening : Happening)
    (rest : Schedule) : (scene.step time happening rest).clock = max scene.clock time := by
  rw [step, clock_happen]
  rfl

/-! ## Waits -/

theorem passage_settleUntil (time : Nanos) (coming : Schedule) (scene : Scene) :
    ∃ entries, Passage scene (settleUntil time coming scene) entries := by
  induction coming generalizing scene with
  | nil => exact ⟨[], Passage.refl scene⟩
  | cons next rest ih =>
    rw [settleUntil]
    split
    · obtain ⟨entries, hstep⟩ := passage_step scene next.1 next.2 rest
      obtain ⟨entries', hrest⟩ := ih (scene.step next.1 next.2 rest)
      exact ⟨_, hstep.trans hrest⟩
    · exact ⟨[], Passage.refl scene⟩

theorem clock_settleUntil_le (time : Nanos) (coming : Schedule) (scene : Scene) :
    (settleUntil time coming scene).clock ≤ max scene.clock time := by
  induction coming generalizing scene with
  | nil => exact Nat.le_max_left _ _
  | cons next rest ih =>
    rw [settleUntil]
    split
    · have hle := ih (scene.step next.1 next.2 rest)
      rw [clock_step] at hle
      lia
    · exact Nat.le_max_left _ _

theorem passage_advanceTo (scene : Scene) (time : Nanos) :
    ∃ entries, Passage scene (scene.advanceTo time) entries := by
  obtain ⟨entries, h⟩ := passage_settleUntil time scene.coming scene
  exact ⟨_, h.trans (passage_moveTo _ time)⟩

@[simp] theorem clock_advanceTo (scene : Scene) (time : Nanos) :
    (scene.advanceTo time).clock = max scene.clock time := by
  obtain ⟨_, h⟩ := passage_settleUntil time scene.coming scene
  have hle := h.clock_le
  have hge := clock_settleUntil_le time scene.coming scene
  show max (settleUntil time scene.coming scene).clock time = max scene.clock time
  lia

theorem passage_advance (scene : Scene) (elapsed : Nanos) :
    ∃ entries, Passage scene (scene.advance elapsed) entries :=
  passage_advanceTo scene _

@[simp] theorem clock_advance (scene : Scene) (elapsed : Nanos) :
    (scene.advance elapsed).clock = scene.clock + elapsed := by
  rw [advance, clock_advanceTo]
  lia

theorem passage_settle (scene : Scene) :
    ∃ entries, Passage scene scene.settle entries :=
  passage_advanceTo scene _

@[simp] theorem clock_settle (scene : Scene) : scene.settle.clock = scene.clock := by
  rw [settle, clock_advanceTo, Nat.max_self]

theorem passage_untilStopped (time : Nanos) (coming : Schedule) (scene : Scene) :
    ∃ entries, Passage scene (untilStopped time coming scene) entries := by
  induction coming generalizing scene with
  | nil =>
    rw [untilStopped]
    split
    · exact ⟨[], passage_moveTo scene time⟩
    · exact ⟨[], Passage.refl scene⟩
  | cons next rest ih =>
    rw [untilStopped]
    split
    · obtain ⟨entries, hstep⟩ := passage_step scene next.1 next.2 rest
      obtain ⟨entries', hrest⟩ := ih (scene.step next.1 next.2 rest)
      exact ⟨_, hstep.trans hrest⟩
    · split
      · exact ⟨[], passage_moveTo scene time⟩
      · exact passage_settle scene

/-- A pacing wait goes on exactly when no stop was requested by its end. -/
theorem pace_spec (scene : Scene) (interval : Option Nanos) (sentAt : Nanos) :
    (scene.pace interval sentAt).1 = (scene.pace interval sentAt).2.running ∧
      ∃ entries, Passage scene (scene.pace interval sentAt).2 entries := by
  cases interval with
  | none => exact ⟨rfl, [], Passage.refl scene⟩
  | some interval =>
    by_cases hrunning : scene.running = true
    · have hpace : scene.pace (some interval) sentAt =
          ((scene.waitUntil (sentAt + interval)).running, scene.waitUntil (sentAt + interval)) := by
        simp [pace, hrunning]
      rw [hpace]
      exact ⟨rfl, passage_untilStopped _ _ _⟩
    · simp only [pace, hrunning]
      exact ⟨by simpa using hrunning, [], Passage.refl scene⟩

/-! ## Fetching audio -/

@[simp] theorem view_took {α : Type} (f : Entry → Option α) (scene : Scene) (chunk : Chunk)
    (source : Source) : (scene.took (.chunk chunk) source).view f =
      scene.view f ++ (f (.fetched scene.clock chunk)).toList := by
  rw [took, view_record]
  rfl

/-- What it takes to fetch audio.  A block is taken while no stop was requested, and what
is due at that moment happens before anything else. -/
inductive Fetches (before : Scene) : Fetched → Scene → Prop where
  | chunk {found after : Scene} {entries entries' : List Entry} {chunk : Chunk} {source : Source}
      (wait : Passage before found entries)
      (running : found.running = true)
      (settle : Passage (found.took (.chunk chunk) source) after entries')
      (clock : after.clock = found.clock) : Fetches before (.chunk chunk) after
  | ended {after : Scene} {entries : List Entry} (wait : Passage before after entries) :
      Fetches before .ended after
  | waiting {after : Scene} {entries : List Entry} (wait : Passage before after entries) :
      Fetches before .waiting after

/-- Waiting before a fetch is part of it. -/
theorem Fetches.after_passage {first second third : Scene} {entries : List Entry}
    {fetched : Fetched} (hwait : Passage first second entries)
    (h : Fetches second fetched third) : Fetches first fetched third := by
  cases h with
  | chunk wait running settle clock =>
    exact .chunk (hwait.trans wait) running settle clock
  | ended wait => exact .ended (hwait.trans wait)
  | waiting wait => exact .waiting (hwait.trans wait)

/-- A pop finds a block of a live source and takes it, or it changes nothing. -/
theorem pop_cases (scene : Scene) :
    (∃ chunk source, scene.pop = (.chunk chunk, scene.took (.chunk chunk) source)) ∨
      scene.pop = (.ended, scene) ∨ scene.pop = (.waiting, scene) := by
  cases hsource : scene.source with
  | live live =>
    cases hwaiting : live.queue.waiting with
    | nil =>
      right
      simp only [pop, hsource, LiveSource.pop, HandoffQueue.pop, hwaiting]
      split
      · left
        simp only [took, ← hsource]
      · right
        simp only [took, ← hsource]
    | cons block rest =>
      left
      refine ⟨block, .live (live.pop).2, ?_⟩
      simp only [pop, hsource, LiveSource.pop, HandoffQueue.pop, hwaiting]
  | recording cursor =>
    right; left
    simp only [pop, hsource]
  | synthetic cursor =>
    right; left
    simp only [pop, hsource]

theorem passage_giveUp (scene : Scene) (limit : Option Nanos) :
    ∃ entries, Passage scene (scene.giveUp limit) entries := by
  cases limit with
  | none => exact ⟨[], Passage.refl scene⟩
  | some time => exact ⟨[], passage_moveTo scene time⟩

/-- A pop that finds nothing yet changes nothing. -/
theorem eq_of_pop_waiting {scene after : Scene} (h : scene.pop = (.waiting, after)) :
    after = scene := by
  rcases pop_cases scene with ⟨_, _, hpop⟩ | hpop | hpop <;> rw [hpop] at h <;> cases h
  rfl

/-- Waiting for a block, happening by happening. -/
theorem await_fetches (limit : Option Nanos) (coming : Schedule) (scene : Scene) :
    Fetches scene (scene.await limit coming).1 (scene.await limit coming).2 := by
  fun_induction await limit coming scene with
  | case1 coming scene hstopped =>
    obtain ⟨entries, hsettle⟩ := passage_settle scene
    exact .ended hsettle
  | case2 scene hrunning scene' hpop due happening rest hdue ih =>
    have heq := eq_of_pop_waiting hpop
    subst heq
    obtain ⟨entries, hstep⟩ := passage_step scene' due happening rest
    exact ih.after_passage hstep
  | case3 scene hrunning scene' hpop due happening rest hdue =>
    have heq := eq_of_pop_waiting hpop
    subst heq
    obtain ⟨entries, hgiveUp⟩ := passage_giveUp scene' limit
    exact .waiting hgiveUp
  | case4 scene hrunning scene' hpop =>
    have heq := eq_of_pop_waiting hpop
    subst heq
    obtain ⟨entries, hgiveUp⟩ := passage_giveUp scene' limit
    exact .waiting hgiveUp
  | case5 coming scene hrunning fetched scene' hnot hpop =>
    obtain ⟨entries, hsettle⟩ := passage_settle scene'
    rcases pop_cases scene with ⟨chunk, source, hcase⟩ | hcase | hcase <;>
      rw [hcase, Prod.mk.injEq] at hpop <;> obtain ⟨rfl, rfl⟩ := hpop
    · exact .chunk (Passage.refl scene) (by simpa using hrunning) hsettle (clock_settle _)
    · exact .ended hsettle
    · exact absurd rfl hnot

theorem Fetches.view_chunk {α : Type} {before after : Scene} {chunk : Chunk}
    (h : Fetches before (.chunk chunk) after) (f : Entry → Option α) [Entry.Blind f] :
    ∃ time, after.view f = before.view f ++ (f (.fetched time chunk)).toList := by
  cases h with
  | chunk wait running settle clock =>
    rw [settle.view_eq f, view_took, wait.view_eq f]
    exact ⟨_, rfl⟩

theorem Fetches.view_ended {α : Type} {before after : Scene}
    (h : Fetches before .ended after) (f : Entry → Option α) [Entry.Blind f] :
    after.view f = before.view f := by
  cases h with
  | ended wait => exact wait.view_eq f

theorem Fetches.view_waiting {α : Type} {before after : Scene}
    (h : Fetches before .waiting after) (f : Entry → Option α) [Entry.Blind f] :
    after.view f = before.view f := by
  cases h with
  | waiting wait => exact wait.view_eq f

/-- What is not defined on audio does not see a fetch. -/
theorem Fetches.view_eq {α : Type} {before after : Scene} {fetched : Fetched}
    (h : Fetches before fetched after) (f : Entry → Option α) [Entry.Blind f]
    (hf : ∀ time chunk, f (.fetched time chunk) = none) : after.view f = before.view f := by
  cases fetched with
  | chunk chunk =>
    obtain ⟨time, hview⟩ := h.view_chunk f
    rw [hview, hf, Option.toList_none, List.append_nil]
  | ended => exact h.view_ended f
  | waiting => exact h.view_waiting f

theorem grows_took (scene : Scene) (chunk : Chunk) (source : Source) :
    Grows scene (scene.took (.chunk chunk) source)
      [.fetched scene.clock chunk] where
  entries_eq := entries_record _ _
  running_eq := by simp [took, record, Entry.isStop]

/-- Audio is entered in the journal when it is found, and a stop that is seen after it was
found was requested at that very time. -/
theorem Fetches.entries_chunk {before after : Scene} {chunk : Chunk}
    (h : Fetches before (.chunk chunk) after) : ∃ waited time settled,
      Grows before after (waited ++ .fetched time chunk :: settled) ∧
      (∀ entry ∈ waited, entry.isAmbient) ∧ (∀ entry ∈ settled, entry.isAmbient) ∧
      (after.running = false → .stopRequested time ∈ settled) := by
  cases h with
  | @chunk found _ waited settled _ source wait running settle clock =>
    refine ⟨waited, found.clock, settled, ?_, wait.ambient, settle.ambient, fun hstopped => ?_⟩
    · exact wait.toGrows.trans ((grows_took found chunk source).trans settle.toGrows)
    · obtain ⟨time, htime⟩ := settle.stop_mem running hstopped
      obtain ⟨hle, hge⟩ := settle.stop_time time htime
      rw [clock] at hge
      rwa [Nat.le_antisymm hge hle] at htime

theorem Fetches.grows {before after : Scene} {fetched : Fetched}
    (h : Fetches before fetched after) : ∃ entries, Grows before after entries := by
  cases fetched with
  | chunk chunk =>
    obtain ⟨waited, time, settled, hgrows, _⟩ := h.entries_chunk
    exact ⟨_, hgrows⟩
  | ended => cases h with | ended wait => exact ⟨_, wait.toGrows⟩
  | waiting => cases h with | waiting wait => exact ⟨_, wait.toGrows⟩

/-! ## Release of the source -/

theorem grows_withSource (scene : Scene) (source : Source) :
    Grows scene { scene with source := source } [] where
  entries_eq := (List.append_nil _).symm
  running_eq := by simp

/-- Releasing a source makes entries in the background only. -/
theorem release_spec (scene : Scene) : ∃ entries, Grows scene scene.release entries ∧
    ∀ entry ∈ entries, entry.isBackground := by
  unfold release
  split
  · rename_i source hsource
    rcases hshutdown : source.shutdown with ⟨_ | ⟨capture, result⟩, stopped⟩
    · exact ⟨[], grows_withSource scene _, by simp⟩
    · let released : Scene := { scene with source := .live stopped }
      have hreleased := grows_withSource scene (.live stopped)
      have hstopped : Grows released (released.record .captureStopped) _ := grows_record _ rfl
      cases result with
      | ok _ => exact ⟨_, hreleased.trans hstopped, by simp [Entry.isBackground]⟩
      | error e =>
        let failure := Note.error ("Failed to stop " ++ capture.name ++ ": " ++ e.message)
        have hnoted : Grows (released.record .captureStopped)
            ((released.record .captureStopped).note failure) _ := grows_record _ rfl
        exact ⟨_, (hreleased.trans hstopped).trans hnoted, by simp [Entry.isBackground]⟩
  · exact ⟨[], .refl scene, by simp⟩

@[simp] theorem cursor_release (scene : Scene) :
    scene.release.source.cursor? = scene.source.cursor? := by
  unfold release
  split
  · rename_i source hsource
    rcases hshutdown : source.shutdown with ⟨_ | ⟨capture, _ | e⟩, stopped⟩ <;>
      simp [record, note, hsource, Source.cursor?]
  · rfl

theorem view_release {α : Type} (f : Entry → Option α) [Entry.Blind f] (scene : Scene) :
    scene.release.view f = scene.view f := by
  obtain ⟨entries, hgrows, hbackground⟩ := release_spec scene
  rw [view_of_entries hgrows.entries_eq, Entry.filterMap_eq_nil_of_background f hbackground,
    List.append_nil]

/-! ## Audio in memory -/

/-- Fetching from samples in memory is a step of their cursor. -/
theorem fetch_memory {scene : Scene} {cursor : Cursor} (n : Nat) (limit : Option Nanos)
    (h : scene.source.cursor? = some cursor) :
    ∃ hold : Cursor → Source, hold cursor = scene.source ∧
      (∀ next, (hold next).cursor? = some next) ∧
      scene.fetch n limit = (cursor.next n).map fun next =>
        (next.1.elim .ended .chunk, scene.took (next.1.elim .ended .chunk) (hold next.2)) := by
  cases hsource : scene.source with
  | recording held =>
    have heq : held = cursor := by simpa [hsource, Source.cursor?] using h
    subst heq
    refine ⟨.recording, rfl, fun _ => rfl, ?_⟩
    simp only [fetch, hsource, Source.fetch]
    cases held.next n <;> rfl
  | synthetic held =>
    have heq : held = cursor := by simpa [hsource, Source.cursor?] using h
    subst heq
    refine ⟨.synthetic, rfl, fun _ => rfl, ?_⟩
    simp only [fetch, hsource, Source.fetch]
    cases held.next n <;> rfl
  | live live => simp [hsource, Source.cursor?] at h

/-- Audio in memory is over, or its next chunk is there at once. -/
theorem fetch_memory_cases {scene after : Scene} {cursor : Cursor} {n : Nat}
    {limit : Option Nanos} {fetched : Fetched} (h : scene.source.cursor? = some cursor)
    (hfetch : scene.fetch n limit = .ok (fetched, after)) :
    cursor.next n = .ok (none, cursor) ∧ fetched = .ended ∧ after = scene ∨
      ∃ chunk next source, cursor.next n = .ok (some chunk, next) ∧ fetched = .chunk chunk ∧
        after = scene.took (.chunk chunk) source ∧ source.cursor? = some next := by
  obtain ⟨hold, hheld, hcursor, heq⟩ := fetch_memory n limit h
  rw [heq] at hfetch
  cases hnext : cursor.next n with
  | error halt => simp [hnext, Except.map] at hfetch
  | ok result =>
    obtain ⟨chunk, next⟩ := result
    simp only [hnext, Except.map, Except.ok.injEq, Prod.mk.injEq] at hfetch
    obtain ⟨rfl, rfl⟩ := hfetch
    cases chunk with
    | none =>
      have hsame : next = cursor := Cursor.eq_of_next_none hnext
      subst hsame
      exact .inl ⟨rfl, rfl, by rw [hheld]; rfl⟩
    | some chunk => exact .inr ⟨chunk, next, hold next, rfl, rfl, rfl, hcursor next⟩

/-- Only a position out of range keeps audio in memory from being fetched. -/
theorem fetch_memory_error {scene : Scene} {cursor : Cursor} {n : Nat}
    {limit : Option Nanos} {halt : Halt} (h : scene.source.cursor? = some cursor)
    (hfetch : scene.fetch n limit = .error halt) : cursor.next n = .error halt := by
  obtain ⟨hold, -, -, heq⟩ := fetch_memory n limit h
  rw [heq] at hfetch
  cases hnext : cursor.next n with
  | error halt' => simpa [hnext, Except.map] using hfetch
  | ok result => simp [hnext, Except.map] at hfetch

/-- Fetching from any other source is a wait for its next block. -/
theorem fetch_live {scene : Scene} (n : Nat) (limit : Option Nanos)
    (h : scene.source.cursor? = none) :
    scene.fetch n limit = .ok (scene.await limit scene.coming) := by
  cases hsource : scene.source with
  | live live => simp only [fetch, hsource]
  | recording cursor => simp [hsource, Source.cursor?] at h
  | synthetic cursor => simp [hsource, Source.cursor?] at h

/-- A fetch fails where the cursor of samples in memory does. -/
theorem exists_cursor_of_fetch_error {scene : Scene} {n : Nat} {limit : Option Nanos}
    {halt : Halt} (h : scene.fetch n limit = .error halt) :
    ∃ cursor, scene.source.cursor? = some cursor ∧ cursor.next n = .error halt := by
  cases hcursor : scene.source.cursor? with
  | some cursor => exact ⟨cursor, rfl, fetch_memory_error hcursor h⟩
  | none =>
    rw [fetch_live n limit hcursor] at h
    simp at h

/-- A fetch fails for a position out of range only. -/
theorem fetch_error {scene : Scene} {n : Nat} {limit : Option Nanos} {halt : Halt}
    (h : scene.fetch n limit = .error halt) : halt = .positionOverflow := by
  obtain ⟨cursor, -, hnext⟩ := exists_cursor_of_fetch_error h
  exact Cursor.eq_of_next_error hnext

/-- Fetching from any source, while no stop was requested. -/
theorem fetch_fetches {scene after : Scene} {n : Nat} {limit : Option Nanos}
    {fetched : Fetched} (hrunning : scene.running = true)
    (h : scene.fetch n limit = .ok (fetched, after)) : Fetches scene fetched after := by
  cases hcursor : scene.source.cursor? with
  | some cursor =>
    rcases fetch_memory_cases hcursor h with ⟨-, rfl, rfl⟩ | ⟨chunk, next, source, -, rfl, rfl, -⟩
    · exact .ended (Passage.refl _)
    · exact .chunk (Passage.refl _) hrunning (Passage.refl _) rfl
  | none =>
    rw [fetch_live n limit hcursor, Except.ok.injEq] at h
    have hawait := await_fetches limit scene.coming scene
    rwa [h] at hawait

/-! ## The kind of a source -/

theorem isSelfPaced_pop (scene : Scene) :
    scene.pop.2.source.isSelfPaced = scene.source.isSelfPaced := by
  unfold pop
  split
  · rename_i live hsource
    rw [hsource]
    cases hpop : live.pop with
    | mk fetched popped => cases fetched <;> rfl
  · rfl

/-- A live source stays one while a block is awaited. -/
theorem isSelfPaced_await (limit : Option Nanos) (coming : Schedule) (scene : Scene) :
    (scene.await limit coming).2.source.isSelfPaced = scene.source.isSelfPaced := by
  fun_induction await limit coming scene with
  | case1 coming scene hstopped =>
    obtain ⟨entries, hsettle⟩ := passage_settle scene
    exact hsettle.isSelfPaced_eq
  | case2 scene hrunning scene' hpop due happening rest hdue ih =>
    have heq := eq_of_pop_waiting hpop
    subst heq
    obtain ⟨entries, hstep⟩ := passage_step scene' due happening rest
    exact ih.trans hstep.isSelfPaced_eq
  | case3 scene hrunning scene' hpop due happening rest hdue =>
    have heq := eq_of_pop_waiting hpop
    subst heq
    obtain ⟨entries, hgiveUp⟩ := passage_giveUp scene' limit
    exact hgiveUp.isSelfPaced_eq
  | case4 scene hrunning scene' hpop =>
    have heq := eq_of_pop_waiting hpop
    subst heq
    obtain ⟨entries, hgiveUp⟩ := passage_giveUp scene' limit
    exact hgiveUp.isSelfPaced_eq
  | case5 coming scene hrunning fetched scene' hnot hpop =>
    obtain ⟨entries, hsettle⟩ := passage_settle scene'
    have hpopped := isSelfPaced_pop scene
    rw [hpop] at hpopped
    exact hsettle.isSelfPaced_eq.trans hpopped

/-- Fetching does not change the kind of a source. -/
theorem isSelfPaced_fetch {scene after : Scene} {n : Nat} {limit : Option Nanos}
    {fetched : Fetched} (h : scene.fetch n limit = .ok (fetched, after)) :
    after.source.isSelfPaced = scene.source.isSelfPaced := by
  cases hcursor : scene.source.cursor? with
  | some cursor =>
    rcases fetch_memory_cases hcursor h with ⟨-, -, rfl⟩ | ⟨chunk, next, source, -, -, rfl, hsource⟩
    · rfl
    · show source.isSelfPaced = scene.source.isSelfPaced
      rw [Source.isSelfPaced_eq, Source.isSelfPaced_eq, hcursor, hsource]
      rfl
  | none =>
    rw [fetch_live n limit hcursor, Except.ok.injEq] at h
    have hawait := isSelfPaced_await limit scene.coming scene
    rwa [h] at hawait

/-- A wait that finds nothing was not ended by a stop. -/
theorem running_of_await_waiting (limit : Option Nanos) (coming : Schedule) (scene : Scene) :
    (scene.await limit coming).1 = .waiting →
      (scene.await limit coming).2.running = true := by
  fun_induction await limit coming scene with
  | case1 coming scene hstopped => simp
  | case2 scene hrunning scene' hpop due happening rest hdue ih => exact ih
  | case3 scene hrunning scene' hpop due happening rest hdue =>
    intro _
    have heq := eq_of_pop_waiting hpop
    subst heq
    cases limit <;> simpa [giveUp, moveTo] using hrunning
  | case4 scene hrunning scene' hpop =>
    intro _
    have heq := eq_of_pop_waiting hpop
    subst heq
    cases limit <;> simpa [giveUp, moveTo] using hrunning
  | case5 coming scene hrunning fetched scene' hnot hpop =>
    intro hwaiting
    exact absurd hwaiting hnot

/-- A fetch that finds nothing yet, of a source that may still give something, was not ended
by a stop. -/
theorem running_of_fetch_waiting {scene after : Scene} {n : Nat} {limit : Option Nanos}
    (h : scene.fetch n limit = .ok (.waiting, after)) : after.running = true := by
  cases hcursor : scene.source.cursor? with
  | some cursor =>
    rcases fetch_memory_cases hcursor h with ⟨-, hended, -⟩ | ⟨_, _, _, -, hchunk, -, -⟩
    · simp at hended
    · simp at hchunk
  | none =>
    rw [fetch_live n limit hcursor, Except.ok.injEq] at h
    have hawait := running_of_await_waiting limit scene.coming scene
    rw [h] at hawait
    exact hawait rfl

end Scene
end SpeechProbe
