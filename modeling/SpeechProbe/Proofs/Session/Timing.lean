import SpeechProbe.Proofs.Session.Conversation

/-!
# When a session does what

The clock moves while the transport is called and while the session waits, and at no other
time.  A call is entered in the journal with the time at which it is made and with how long it
takes, so that the times of a session can be read off its journal: a drain is over when its
last receive is, and a pacing wait is over one interval after the send, or at once if that is
past.
-/

namespace SpeechProbe

/-! ## Pacing waits -/

/-- When a chunk is due after one that was sent at `sentAt` and whose drain returned at
`drained`. -/
def dueAfter (interval : Option Nanos) (sentAt drained : Nanos) : Nanos :=
  match interval with
  | none => drained
  | some interval => max (sentAt + interval) drained

namespace Scene

/-- A wait that no stop cut short ends at its time, or at once if that is past. -/
theorem clock_untilStopped (time : Nanos) (coming : Schedule) (scene : Scene) :
    (untilStopped time coming scene).running = true →
      (untilStopped time coming scene).clock = max scene.clock time := by
  induction coming generalizing scene with
  | nil =>
    rw [untilStopped]
    split
    · exact fun _ => rfl
    · rename_i hstopped
      exact fun hrunning => absurd hrunning hstopped
  | cons next rest ih =>
    rw [untilStopped]
    split
    · rename_i hdue
      intro hrunning
      obtain ⟨_, hle⟩ : scene.running = true ∧ next.1 ≤ time := by simpa using hdue
      rw [ih _ hrunning, clock_step]
      lia
    · split
      · exact fun _ => rfl
      · rename_i hstopped
        intro hrunning
        obtain ⟨entries, hsettle⟩ := passage_settle scene
        simp [hsettle.running_eq, hstopped] at hrunning

/-- A pacing wait after which streaming goes on. -/
theorem clock_pace {scene : Scene} {interval : Option Nanos} {sentAt : Nanos}
    (h : (scene.pace interval sentAt).1 = true) :
    (scene.pace interval sentAt).2.clock = dueAfter interval sentAt scene.clock := by
  cases interval with
  | none => rfl
  | some interval =>
    unfold pace at h ⊢
    dsimp only at h ⊢
    split at h
    · rename_i hrunning
      rw [if_pos hrunning]
      exact (clock_untilStopped _ _ _ h).trans (Nat.max_comm _ _)
    · simp at h

/-! ## Audio that is awaited -/

theorem source_of_pop_waiting {scene after : Scene} (h : scene.pop = (.waiting, after)) :
    ∃ live, scene.source = .live live ∧ live.queue.waiting = [] := by
  cases hsource : scene.source with
  | live live =>
    refine ⟨live, rfl, ?_⟩
    cases hwaiting : live.queue.waiting with
    | nil => rfl
    | cons block rest =>
      simp [pop, hsource, LiveSource.pop, HandoffQueue.pop, hwaiting] at h
  | recording cursor => simp [pop, hsource] at h
  | synthetic cursor => simp [pop, hsource] at h

theorem source_of_pop_chunk {scene after : Scene} {chunk : Chunk}
    (h : scene.pop = (.chunk chunk, after)) :
    ∃ live rest, scene.source = .live live ∧ live.queue.waiting = chunk :: rest := by
  cases hsource : scene.source with
  | live live =>
    cases hwaiting : live.queue.waiting with
    | nil =>
      simp only [pop, hsource, LiveSource.pop, HandoffQueue.pop, hwaiting] at h
      split at h <;> simp at h
    | cons block rest =>
      simp only [pop, hsource, LiveSource.pop, HandoffQueue.pop, hwaiting, Prod.mk.injEq,
        Fetched.chunk.injEq] at h
      exact ⟨live, rest, rfl, by rw [← h.1]; exact hwaiting⟩
  | recording cursor => simp [pop, hsource] at h
  | synthetic cursor => simp [pop, hsource] at h

end Scene

/-- What a push adds to an empty queue is the block that was pushed. -/
theorem LiveSource.waiting_push {live : LiveSource} {samples : List Sample} {chunk : Chunk}
    {rest : List Chunk} (hempty : live.queue.waiting = [])
    (h : (live.push samples).2.queue.waiting = chunk :: rest) :
    (live.push samples).1 = .accepted ∧ chunk.samples = samples := by
  unfold push HandoffQueue.push at h ⊢
  dsimp only at h ⊢
  split at h
  · simp [hempty] at h
  split at h
  · simp [hempty] at h
  split at h
  · simp [hempty] at h
  · rename_i haudio hopen hroom
    simp only [hempty, List.nil_append, List.cons.injEq] at h
    simp [haudio, hopen, hroom, ← h.1]

namespace Scene

/-- A block that is found by what happened was pushed by it. -/
theorem pushed_of_pop {scene after : Scene} {due : Nanos} {happening : Happening}
    {rest : Schedule} {chunk : Chunk} {entries : List Entry}
    (hwaiting : scene.pop = (.waiting, scene))
    (hpop : (scene.step due happening rest).pop = (.chunk chunk, after))
    (hgrows : Grows scene (scene.step due happening rest) entries) :
    ∃ due, entries = [.pushed due chunk.samples.length .accepted] := by
  obtain ⟨live, hsource, hempty⟩ := source_of_pop_waiting hwaiting
  obtain ⟨live', others, hsource', hblock⟩ := source_of_pop_chunk hpop
  cases happening with
  | push due' samples =>
    simp only [step, happen, moveTo, hsource] at hsource'
    obtain rfl := Source.live.inj hsource'
    obtain ⟨haccepted, hsamples⟩ := LiveSource.waiting_push hempty hblock
    have hentries := hgrows.entries_eq
    simp only [step, happen, moveTo, hsource, entries_record, haccepted] at hentries
    refine ⟨due', ?_⟩
    rw [hsamples]
    exact (List.append_cancel_left hentries).symm
  | dropProducer =>
    simp only [step, happen, moveTo, hsource, Source.mapLive] at hsource'
    obtain rfl := Source.live.inj hsource'
    simp [HandoffQueue.dropProducer, hempty] at hblock
  | stop =>
    simp only [step, happen, moveTo, requestStop, record, hsource] at hsource'
    obtain rfl := Source.live.inj hsource'
    simp [hempty] at hblock

end Scene

/-- The entries made while audio is fetched, which is asked for at `start` and taken at `time`:
it is there at once, or, if it is live, the last thing that happened was that it was pushed. -/
def Journal.Fetching (live : Bool) (start : Nanos) (chunk : Chunk) (time : Nanos)
    (entries : List Entry) : Prop :=
  ∃ waited settled, entries = waited ++ .fetched time chunk :: settled ∧
    (∀ entry ∈ waited, entry.isAmbient) ∧ (∀ entry ∈ settled, entry.isAmbient) ∧
    (waited = [] ∧ time = start ∨
      live = true ∧ ∃ earlier due, waited = earlier ++ [.pushed due chunk.samples.length .accepted])

namespace Scene

/-- A block that is awaited is popped at once, or as soon as it is pushed. -/
theorem await_chunk (limit : Option Nanos) (coming : Schedule) (scene : Scene) {chunk : Chunk} :
    (scene.await limit coming).1 = .chunk chunk → ∃ waited settled,
      Grows scene (scene.await limit coming).2
          (waited ++ .fetched (scene.await limit coming).2.clock chunk :: settled) ∧
        (∀ entry ∈ waited, entry.isAmbient) ∧ (∀ entry ∈ settled, entry.isAmbient) ∧
        ((∃ after, scene.pop = (.chunk chunk, after)) ∧ waited = [] ∧
            (scene.await limit coming).2.clock = scene.clock ∨
          ∃ earlier due, waited = earlier ++ [.pushed due chunk.samples.length .accepted]) := by
  fun_induction await limit coming scene with
  | case1 coming scene hstopped => simp
  | case2 scene hrunning scene' hpop due happening rest hdue ih =>
    have heq := eq_of_pop_waiting hpop
    subst heq
    intro hchunk
    obtain ⟨waited, settled, hgrows, hwaited, hsettled, hfound⟩ := ih hchunk
    obtain ⟨entries, hstep⟩ := passage_step scene' due happening rest
    have hwhole := hstep.toGrows.trans hgrows
    rw [← List.append_assoc] at hwhole
    refine ⟨entries ++ waited, settled, hwhole, ?_, hsettled, .inr ?_⟩
    · intro entry hentry
      rcases List.mem_append.mp hentry with hentry | hentry
      · exact hstep.ambient entry hentry
      · exact hwaited entry hentry
    · rcases hfound with ⟨⟨_, hthere⟩, rfl, _⟩ | ⟨earlier, due', rfl⟩
      · obtain ⟨due', rfl⟩ := pushed_of_pop hpop hthere hstep.toGrows
        exact ⟨[], due', rfl⟩
      · exact ⟨entries ++ earlier, due', (List.append_assoc _ _ _).symm⟩
  | case3 scene hrunning scene' hpop due happening rest hdue => simp
  | case4 scene hrunning scene' hpop => simp
  | case5 coming scene hrunning fetched scene' hnot hpop =>
    rintro rfl
    obtain ⟨settled, hsettle⟩ := passage_settle scene'
    rcases pop_cases scene with ⟨found, source, hcase⟩ | hcase | hcase <;>
      rw [hcase, Prod.mk.injEq] at hpop <;> obtain ⟨hfound, rfl⟩ := hpop
    · obtain rfl := Fetched.chunk.inj hfound
      refine ⟨[], settled, ?_, by simp, hsettle.ambient, .inl ⟨⟨_, hcase⟩, rfl, clock_settle _⟩⟩
      rw [clock_settle]
      exact (grows_took scene found source).trans hsettle.toGrows
    · simp at hfound
    · simp at hfound

/-- What fetching enters in the journal, and when it ends. -/
theorem fetching_of_fetch {scene after : Scene} {n : Nat} {limit : Option Nanos} {chunk : Chunk}
    (h : scene.fetch n limit = .ok (.chunk chunk, after)) : ∃ entries,
      Grows scene after entries ∧
        Journal.Fetching scene.source.isSelfPaced scene.clock chunk after.clock entries := by
  cases hcursor : scene.source.cursor? with
  | some cursor =>
    rcases fetch_memory_cases hcursor h with
      ⟨-, hended, -⟩ | ⟨found, next, source, -, hfound, rfl, -⟩
    · simp at hended
    · obtain rfl := Fetched.chunk.inj hfound
      exact ⟨_, grows_took scene chunk source, [], [], rfl, by simp, by simp, .inl ⟨rfl, rfl⟩⟩
  | none =>
    rw [fetch_live n limit hcursor, Except.ok.injEq] at h
    have hawait := await_chunk limit scene.coming scene (congrArg Prod.fst h)
    rw [h] at hawait
    obtain ⟨waited, settled, hgrows, hwaited, hsettled, hfound⟩ := hawait
    refine ⟨_, hgrows, waited, settled, rfl, hwaited, hsettled, ?_⟩
    rcases hfound with ⟨_, hnone, hclock⟩ | hpushed
    · exact .inl ⟨hnone, hclock⟩
    · refine .inr ⟨?_, hpushed⟩
      rw [Source.isSelfPaced_eq, hcursor]
      rfl

end Scene

namespace Session

variable {σ : Type} {transport : Transport σ} {before after : Session σ}

/-! ## Pacing -/

theorem isNone_interval (session : Session σ) :
    session.interval.isNone = session.scene.source.isSelfPaced := by
  unfold interval
  split
  · rename_i hlive
    exact hlive.symm
  · rename_i hmemory
    exact (Bool.eq_false_iff.mpr hmemory).symm

/-- Live audio is not paced. -/
theorem pace_live {session : Session σ} (h : session.scene.source.isSelfPaced = true)
    (sentAt : Nanos) : session.pace sentAt = (session.running, session) := by
  unfold pace interval
  rw [if_pos h]
  rfl

theorem clock_pace {sentAt : Nanos} (h : before.pace sentAt = (true, after)) :
    after.clock = dueAfter before.interval sentAt before.clock := by
  have hafter := congrArg Prod.snd h
  have hgoesOn := congrArg Prod.fst h
  subst hafter
  exact Scene.clock_pace hgoesOn

/-! ## Calls -/

/-- A call is entered in the journal before anything that happens while it lasts. -/
theorem Exchanged.grows_entry {entry : Entry} {elapsed : Nanos}
    (h : Exchanged before entry elapsed after) (hentry : entry.isStop = false) :
    ∃ rest, Scene.Grows before.scene after.scene (entry :: rest) ∧
      ∀ entry ∈ rest, entry.isAmbient := by
  obtain ⟨rest, hpassage⟩ := h.passage
  exact ⟨rest, (Scene.grows_record before.scene hentry).trans hpassage.toGrows, hpassage.ambient⟩

/-- A receive that puts an end to a drain. -/
theorem last_receive {timeout : Nanos} {result : Except Error Received}
    (h : before.receive transport timeout = (result, after)) :
    ∃ heard time elapsed rest, Scene.Grows before.scene after.scene
        (heard ++ .received time timeout elapsed result :: rest) ∧
      (∀ entry ∈ rest, entry.isAmbient) ∧ after.clock = time + elapsed := by
  obtain ⟨elapsed, hexchanged⟩ := exchanged_receive h
  obtain ⟨rest, hgrows, hambient⟩ := hexchanged.grows_entry rfl
  exact ⟨[], before.clock, elapsed, rest, hgrows, hambient, hexchanged.clock_eq⟩

/-- A drain is over when its last receive is. -/
theorem Drains.last_receive {out : Except Halt (Except Error Drained)}
    (h : Drains transport before out after) : ∀ outcome, out = .ok outcome →
      ∃ heard time elapsed rest, Scene.Grows before.scene after.scene
          (heard ++ .received time before.plan.pollTimeout elapsed
            (Drained.lastReceive outcome) :: rest) ∧
        (∀ entry ∈ rest, entry.isAmbient) ∧ after.clock = time + elapsed := by
  induction h with
  | outOfSteps session => simp
  | failed receive =>
    rintro outcome ⟨⟩
    exact Session.last_receive receive
  | dry frames receive =>
    rintro outcome ⟨⟩
    exact Session.last_receive receive
  | closed frames receive =>
    rintro outcome ⟨⟩
    have hlast := Session.last_receive receive
    exact hlast
  | @text session received _ text _ receive rest ih =>
    intro outcome hout
    obtain ⟨_, hexchanged⟩ := exchanged_receive receive
    obtain ⟨entries, hgrows⟩ := hexchanged.grows.trans (stays_accept text).grows
    obtain ⟨heard, time, elapsed, settled, hrest, hambient, hclock⟩ := ih outcome hout
    rw [(stays_accept text).plan_eq, hexchanged.plan_eq] at hrest
    have hwhole := hgrows.trans hrest
    rw [← List.append_assoc] at hwhole
    exact ⟨entries ++ heard, time, elapsed, settled, hwhole, hambient, hclock⟩

end Session
end SpeechProbe
