import SpeechProbe.Proofs.Session.Samples
import SpeechProbe.Proofs.Session.Timing

/-!
# The cadence of the payloads

Audio in memory is sent in step: a payload goes out one interval after the one before it, or, if
that is later, as soon as the drain between them is over.  Sending and draining within the
interval do not stretch it, and a late payload is not followed by a burst.  Live audio is not
paced: a block goes out at the very time at which it is taken from the queue.

`InStep` is the language of the entries of streaming with their times.  What streaming enters in
the journal is in it, and in each of its words two payloads that follow one another keep the law.
-/

namespace SpeechProbe

/-! ## Entries with their times -/

namespace Journal

/-- The entries of a drain that finds nothing more and returns at `returned`, and what happens by
itself after that. -/
def DrainsUntil (timeout returned : Nanos) (entries : List Entry) : Prop :=
  IsDrain timeout (.ok .timeout) (exchanges entries) ∧
    ∃ heard time elapsed settled, entries =
        heard ++ .received time timeout elapsed (.ok .timeout) :: settled ∧
      (∀ entry ∈ settled, entry.isAmbient) ∧ returned = time + elapsed

/-- The entries until a chunk with samples is found.  It is asked for at `start`, taken at `time`,
and what is taken before it holds no sample. -/
inductive Finds (live : Bool) : Nanos → List Entry → Chunk → Nanos → Prop where
  | found {start time : Nanos} {chunk : Chunk} {entries : List Entry}
      (audio : chunk.isEmpty = false) (fetch : Fetching live start chunk time entries) :
      Finds live start entries chunk time
  | skipped {start time time' : Nanos} {empty chunk : Chunk} {entries entries' : List Entry}
      (silent : empty.isEmpty = true) (fetch : Fetching live start empty time entries)
      (rest : Finds live time entries' chunk time') :
      Finds live start (entries ++ entries') chunk time'

/-- The entries of streaming from the moment `start` on: chunks are found, each is sent when it
is, drained after, and the next is asked for when it is due. -/
inductive InStep (timeout : Nanos) (interval : Option Nanos) : Nanos → List Entry → Prop where
  | silent {start : Nanos} {entries : List Entry} (none : payloads entries = []) :
      InStep timeout interval start entries
  | last {start time elapsed : Nanos} {chunk : Chunk} {result : Except Error Unit}
      {lead tail : List Entry} (find : Finds interval.isNone start lead chunk time)
      (none : payloads tail = []) :
      InStep timeout interval start (lead ++ .sentAudio time chunk.payload elapsed result :: tail)
  | more {start time elapsed returned : Nanos} {chunk : Chunk} {lead heard rest : List Entry}
      (find : Finds interval.isNone start lead chunk time) (none : payloads heard = [])
      (drain : DrainsUntil timeout returned heard)
      (next : InStep timeout interval (dueAfter interval time returned) rest) :
      InStep timeout interval start
        (lead ++ .sentAudio time chunk.payload elapsed (.ok ()) :: (heard ++ rest))

/-- Audio in memory is there when it is asked for. -/
theorem Finds.time_eq {start time : Nanos} {entries : List Entry} {chunk : Chunk}
    (h : Finds false start entries chunk time) : time = start := by
  have honce : ∀ {start time : Nanos} {chunk : Chunk} {entries : List Entry},
      Fetching false start chunk time entries → time = start := by
    rintro start time chunk entries ⟨_, _, _, _, _, ⟨_, htime⟩ | ⟨hlive, _⟩⟩
    · exact htime
    · simp at hlive
  induction h with
  | found audio fetch => exact honce fetch
  | skipped silent fetch rest ih => exact ih.trans (honce fetch)

theorem Fetching.payloads_eq {live : Bool} {start time : Nanos} {chunk : Chunk}
    {entries : List Entry} (h : Fetching live start chunk time entries) :
    payloads entries = [] := by
  obtain ⟨waited, settled, rfl, hwaited, hsettled, _⟩ := h
  simp only [payloads, List.filterMap_append, List.filterMap_cons,
    Entry.filterMap_eq_nil_of_ambient _ hwaited, Entry.filterMap_eq_nil_of_ambient _ hsettled]
  rfl

theorem Finds.payloads_eq {live : Bool} {start time : Nanos} {entries : List Entry}
    {chunk : Chunk} (h : Finds live start entries chunk time) : payloads entries = [] := by
  induction h with
  | found audio fetch => exact fetch.payloads_eq
  | skipped silent fetch rest ih =>
    rw [payloads_append, fetch.payloads_eq, ih]
    rfl

/-! ## Payloads that follow one another -/

variable {timeout : Nanos} {interval : Option Nanos} {start : Nanos}
  {entries lead before rest : List Entry} {sentAt elapsed : Nanos} {payload : Payload}
  {result : Except Error Unit}

theorem payloads_sent : payloads (.sentAudio sentAt payload elapsed result :: entries) =
    payload :: payloads entries :=
  rfl

/-- Where no payload is handed over, none is found. -/
theorem split_of_silent (hlead : payloads lead = [])
    (h : lead ++ entries = before ++ .sentAudio sentAt payload elapsed result :: rest) :
    ∃ gap, before = lead ++ gap ∧
      entries = gap ++ .sentAudio sentAt payload elapsed result :: rest := by
  rcases List.append_eq_append_iff.mp h with ⟨gap, hbefore, hentries⟩ | ⟨gap, rfl, hgap⟩
  · exact ⟨gap, hbefore, hentries⟩
  · cases gap with
    | nil => exact ⟨[], by simp, hgap.symm⟩
    | cons first gap =>
      obtain ⟨rfl, _⟩ := List.cons.inj hgap
      simp [payloads, Entry.payload?] at hlead

/-- The first payload goes out when its chunk is found. -/
theorem InStep.finds (h : InStep timeout interval start
      (before ++ .sentAudio sentAt payload elapsed result :: rest))
    (hsilent : payloads before = []) :
    ∃ chunk, payload = chunk.payload ∧ Finds interval.isNone start before chunk sentAt := by
  generalize hentries : before ++ .sentAudio sentAt payload elapsed result :: rest = entries at h
  have hfirst : ∀ {lead tail : List Entry} {time elapsed' : Nanos} {chunk : Chunk}
      {result' : Except Error Unit}, Finds interval.isNone start lead chunk time →
        lead ++ .sentAudio time chunk.payload elapsed' result' :: tail =
          before ++ .sentAudio sentAt payload elapsed result :: rest →
        ∃ chunk, payload = chunk.payload ∧ Finds interval.isNone start before chunk sentAt := by
    intro lead tail time elapsed' chunk result' find heq
    obtain ⟨gap, rfl, hgap⟩ := split_of_silent find.payloads_eq heq
    cases gap with
    | nil =>
      simp only [List.nil_append, List.cons.injEq, Entry.sentAudio.injEq] at hgap
      obtain ⟨⟨rfl, rfl, _⟩, _⟩ := hgap
      exact ⟨chunk, rfl, by rwa [List.append_nil]⟩
    | cons first gap =>
      obtain ⟨rfl, _⟩ := List.cons.inj hgap
      simp [payloads, Entry.payload?] at hsilent
  cases h with
  | silent none =>
    rw [← hentries] at none
    simp [payloads, Entry.payload?] at none
  | last find none => exact hfirst find hentries.symm
  | more find none drain next => exact hfirst find hentries.symm

/-- Two payloads that follow one another, the times at which they are handed over, what is between
them, and the second of them. -/
def Consecutive (entries : List Entry) (sentAt : Nanos) (middle : List Entry) (nextAt : Nanos)
    (payload : Payload) : Prop :=
  payloads middle = [] ∧ ∃ before first elapsed result elapsed' result' after,
    entries = before ++ .sentAudio sentAt first elapsed result ::
      (middle ++ .sentAudio nextAt payload elapsed' result' :: after)

/-- The law of the cadence: after a payload there is a drain, and when the next chunk is due it is
asked for, found and sent. -/
def Follows (timeout : Nanos) (interval : Option Nanos) (sentAt : Nanos) (middle : List Entry)
    (nextAt : Nanos) (payload : Payload) : Prop :=
  ∃ heard waited returned chunk, middle = heard ++ waited ∧
    DrainsUntil timeout returned heard ∧ payload = chunk.payload ∧
    Finds interval.isNone (dueAfter interval sentAt returned) waited chunk nextAt

/-- Entries that hold at most one payload hold no two that follow one another. -/
theorem not_two_payloads {middle : List Entry} {nextAt elapsed' : Nanos} {payload' : Payload}
    {result' : Except Error Unit}
    (hone : (payloads (before ++ .sentAudio sentAt payload elapsed result ::
      (middle ++ .sentAudio nextAt payload' elapsed' result' :: rest))).length ≤ 1) : False := by
  simp only [payloads, List.filterMap_append, List.filterMap_cons, Entry.payload?,
    List.length_append, List.length_cons] at hone
  omega

/-- In step, payloads that follow one another keep the law. -/
theorem InStep.follows {middle : List Entry} {nextAt : Nanos}
    (h : InStep timeout interval start entries) :
    Consecutive entries sentAt middle nextAt payload →
      Follows timeout interval sentAt middle nextAt payload := by
  rintro ⟨hmiddle, before, first, elapsed, result, elapsed', result', after, hentries⟩
  induction h generalizing before with
  | silent none =>
    subst hentries
    exact (not_two_payloads (by rw [none]; exact Nat.zero_le 1)).elim
  | @last _ time elapsed'' chunk result'' lead tail find none =>
    have hone : (payloads
        (lead ++ .sentAudio time chunk.payload elapsed'' result'' :: tail)).length = 1 := by
      rw [payloads_append, find.payloads_eq, payloads_sent, none]
      rfl
    rw [hentries] at hone
    exact (not_two_payloads (Nat.le_of_eq hone)).elim
  | @more start time elapsed'' returned chunk lead heard rest find none drain next ih =>
    obtain ⟨gap, rfl, hgap⟩ := split_of_silent find.payloads_eq hentries
    cases gap with
    | nil =>
      -- The first of the two is the payload of this round, the second the first of the rest.
      simp only [List.nil_append, List.cons.injEq, Entry.sentAudio.injEq] at hgap
      obtain ⟨⟨rfl, -, -, -⟩, hrest⟩ := hgap
      obtain ⟨waited, rfl, rfl⟩ := split_of_silent none hrest
      rw [payloads_append, List.append_eq_nil_iff] at hmiddle
      obtain ⟨chunk', hpayload, hfinds⟩ := next.finds hmiddle.2
      exact ⟨heard, waited, returned, chunk', rfl, drain, hpayload, hfinds⟩
    | cons entry gap =>
      obtain ⟨rfl, hrest⟩ := List.cons.inj hgap
      obtain ⟨gap', rfl, hnext⟩ := split_of_silent none hrest
      exact ih gap' hnext

/-- What comes before the first payload does not matter. -/
theorem Consecutive.of_silent {middle : List Entry} {nextAt : Nanos}
    (hlead : payloads lead = []) (h : Consecutive (lead ++ entries) sentAt middle nextAt payload) :
    Consecutive entries sentAt middle nextAt payload := by
  obtain ⟨hmiddle, before, first, elapsed, result, elapsed', result', after, hsplit⟩ := h
  obtain ⟨gap, rfl, hentries⟩ := split_of_silent hlead hsplit
  exact ⟨hmiddle, gap, first, elapsed, result, elapsed', result', after, hentries⟩

/-- Streaming that is over stays in step. -/
theorem InStep.append_silent {entries' : List Entry} (hnone : payloads entries' = [])
    (h : InStep timeout interval start entries) :
    InStep timeout interval start (entries ++ entries') := by
  induction h with
  | silent none =>
    refine .silent ?_
    rw [payloads_append, none, hnone]
    rfl
  | last find none =>
    rw [List.append_assoc, List.cons_append]
    refine .last find ?_
    rw [payloads_append, none, hnone]
    rfl
  | more find none drain next ih =>
    rw [List.append_assoc, List.cons_append, List.append_assoc]
    exact .more find none drain ih

/-- A chunk without samples does not put streaming out of step. -/
theorem InStep.skip {time : Nanos} {chunk : Chunk} {entries' : List Entry}
    (hempty : chunk.isEmpty = true) (hfetch : Fetching interval.isNone start chunk time entries)
    (h : InStep timeout interval time entries') :
    InStep timeout interval start (entries ++ entries') := by
  cases h with
  | silent none =>
    refine .silent ?_
    rw [payloads_append, hfetch.payloads_eq, none]
    rfl
  | last find none =>
    rw [← List.append_assoc]
    exact .last (.skipped hempty hfetch find) none
  | more find none drain next =>
    rw [← List.append_assoc]
    exact .more (.skipped hempty hfetch find) none drain next

end Journal

namespace Session

variable {σ : Type} {transport : Transport σ} {before after : Session σ}

/-! ## Streaming is in step -/

theorem interval_eq (hplan : after.plan = before.plan)
    (hkind : after.scene.source.isSelfPaced = before.scene.source.isSelfPaced) :
    after.interval = before.interval := by
  unfold interval
  rw [hplan, hkind]

/-- A payload is entered at the time of the call. -/
theorem grows_sendChunk {chunk : Chunk} {result : Except Error Unit}
    (h : before.sendChunk transport chunk = (result, after)) : ∃ elapsed settled,
      Scene.Grows before.scene after.scene
          (.sentAudio before.clock chunk.payload elapsed result :: settled) ∧
        ∀ entry ∈ settled, entry.isAmbient := by
  cases result with
  | error e =>
    obtain ⟨elapsed, hexchanged⟩ := exchanged_sendChunk_error h
    obtain ⟨settled, hgrows, hambient⟩ := hexchanged.grows_entry rfl
    exact ⟨elapsed, settled, hgrows, hambient⟩
  | ok _ =>
    obtain ⟨_, elapsed, hexchanged, rfl⟩ := exchanged_sendChunk_ok h
    obtain ⟨settled, hgrows, hambient⟩ := hexchanged.grows_entry rfl
    exact ⟨elapsed, settled, hgrows, hambient⟩

theorem Delivers.sends {chunk : Chunk} {out : Except Halt (Option (Except Error Unit))}
    (h : Delivers transport chunk before out after) : ∃ result sent,
      before.sendChunk transport chunk = (result, sent) ∧ Grows sent after := by
  cases h with
  | refused send => exact ⟨_, _, send, .refl _⟩
  | broke send drain => exact ⟨_, _, send, drain.stays.grows⟩
  | failed send drain => exact ⟨_, _, send, drain.stays.grows⟩
  | closed send drain => exact ⟨_, _, send, drain.stays.grows⟩
  | stopped send drain pace => exact ⟨_, _, send, drain.stays.grows.trans (waited_pace pace).grows⟩
  | paced send drain pace => exact ⟨_, _, send, drain.stays.grows.trans (waited_pace pace).grows⟩

/-- However a delivery goes, it begins with its payload, and no other follows. -/
theorem Delivers.entries {chunk : Chunk} {out : Except Halt (Option (Except Error Unit))}
    (h : Delivers transport chunk before out after) : ∃ elapsed result tail,
      Scene.Grows before.scene after.scene
          (.sentAudio before.clock chunk.payload elapsed result :: tail) ∧
        Journal.payloads tail = [] := by
  obtain ⟨result, sent, hsend, rest, hrest⟩ := h.sends
  obtain ⟨elapsed, settled, hsent, _⟩ := grows_sendChunk hsend
  have hgrows := hsent.trans hrest
  have hpayloads := Scene.filterMap_eq_of_view hgrows.entries_eq h.handedOver.payloads_eq
  exact ⟨elapsed, result, settled ++ rest, hgrows, (List.cons.inj hpayloads).2⟩

/-- A delivery after which streaming goes on: the drain, and the wait for the next chunk. -/
theorem Delivers.paced_entries {chunk : Chunk}
    (h : Delivers transport chunk before (.ok none) after) : ∃ elapsed heard returned,
      Scene.Grows before.scene after.scene
          (.sentAudio before.clock chunk.payload elapsed (.ok ()) :: heard) ∧
        Journal.payloads heard = [] ∧
        Journal.DrainsUntil before.plan.pollTimeout returned heard ∧
        after.clock = dueAfter before.interval before.clock returned := by
  have hpayloads := h.handedOver.payloads_eq
  cases h with
  | paced send drain pace =>
    obtain ⟨elapsed, settled, hsent, _⟩ := grows_sendChunk send
    obtain ⟨texts, time, took, rest, hdrained, hambient, hclock⟩ := drain.last_receive _ rfl
    obtain ⟨waited, hwaited⟩ := (waited_pace pace).passage
    have hgrows := (hsent.trans hdrained).trans hwaited.toGrows
    simp only [List.cons_append, List.append_assoc] at hgrows
    have hplan := (stays_sendChunk_ok send).plan_eq
    obtain ⟨calls, hcalls, hdrain⟩ := exchanges_send_drain send drain
    rw [← exchanges_waited (waited_pace pace)] at hcalls
    have hexchanges := Scene.filterMap_eq_of_view hgrows.entries_eq hcalls
    have hsilent := Scene.filterMap_eq_of_view hgrows.entries_eq hpayloads
    rw [hplan] at hgrows hexchanges hsilent
    have hinterval := interval_eq (drain.stays.plan_eq.trans hplan) (isSelfPaced_eq_of_cursor_eq
      ((steady_mute.drains drain).cursor_eq.trans (handedOver_sendChunk send).cursor_eq))
    refine ⟨elapsed, _, time + took, hgrows, (List.cons.inj hsilent).2, ⟨?_, ?_⟩, ?_⟩
    · rw [Journal.exchanges, (List.cons.inj hexchanges).2]
      exact hdrain
    · refine ⟨settled ++ texts, time, took, rest ++ waited, (List.append_assoc _ _ _).symm, ?_, rfl⟩
      intro entry hentry
      rcases List.mem_append.mp hentry with hentry | hentry
      · exact hambient entry hentry
      · exact hwaited.ambient entry hentry
    · rw [clock_pace pace, hinterval, hclock]

theorem fetching_of_nextAudio {n : Nat} {chunk : Chunk} (hrunning : before.running = true)
    (h : before.nextAudio n = .done (some chunk) after) : ∃ entries,
      Scene.Grows before.scene after.scene entries ∧
        Journal.Fetching before.interval.isNone before.clock chunk after.clock entries := by
  obtain ⟨_, _, hfetch, _⟩ := nextAudio_some hrunning h
  rw [isNone_interval]
  exact Scene.fetching_of_fetch hfetch

/-- A round is in step, however it ends. -/
theorem Round.inStep {n : Nat} {out : Except Halt (Option (Except Error Unit))}
    (h : Round transport n before out after) : ∃ entries,
      Scene.Grows before.scene after.scene entries ∧
        Journal.InStep before.plan.pollTimeout before.interval before.clock entries := by
  have hsilent : Grows before after → after.view Entry.payload? = before.view Entry.payload? →
      ∃ entries, Scene.Grows before.scene after.scene entries ∧
        Journal.InStep before.plan.pollTimeout before.interval before.clock entries := by
    rintro ⟨entries, hgrows⟩ hview
    exact ⟨entries, hgrows, .silent (Scene.filterMap_eq_nil_of_view hgrows.entries_eq hview)⟩
  cases h with
  | stopped stop => exact hsilent (.refl before) rfl
  | broke running next =>
    obtain ⟨hkeeps, ⟨_, rfl⟩ | ⟨_, _, hfetches⟩⟩ := nextAudio_halted running next
    · exact hsilent (.refl after) rfl
    · exact hsilent hkeeps.grows (hfetches.view_eq _ fun _ _ => rfl)
  | ended running next =>
    obtain ⟨hkeeps, _, _, hfetches⟩ := nextAudio_none running next
    exact hsilent hkeeps.grows (hfetches.view_eq _ fun _ _ => rfl)
  | skipped running next empty =>
    obtain ⟨hkeeps, _, _, hfetches⟩ := nextAudio_some running next
    exact hsilent hkeeps.grows (hfetches.view_eq _ fun _ _ => rfl)
  | held running next audio stop =>
    obtain ⟨hkeeps, _, _, hfetches⟩ := nextAudio_some running next
    exact hsilent hkeeps.grows (hfetches.view_eq _ fun _ _ => rfl)
  | delivered running next audio running' deliver =>
    obtain ⟨lead, hlead, hfetch⟩ := fetching_of_nextAudio running next
    obtain ⟨elapsed, result, tail, htail, hnone⟩ := deliver.entries
    exact ⟨_, hlead.trans htail, .last (.found audio hfetch) hnone⟩

/-- A round after which streaming goes on, and the rounds that follow it in step. -/
theorem Round.inStep_more {n : Nat} {last : Session σ} {rest : List Entry}
    (h : Round transport n before (.ok none) after)
    (hgrows : Scene.Grows after.scene last.scene rest)
    (hrest : Journal.InStep after.plan.pollTimeout after.interval after.clock rest) : ∃ entries,
      Scene.Grows before.scene last.scene entries ∧
        Journal.InStep before.plan.pollTimeout before.interval before.clock entries := by
  rw [h.stays.plan_eq, interval_eq h.stays.plan_eq h.isSelfPaced_eq] at hrest
  cases h with
  | skipped running next empty =>
    obtain ⟨lead, hlead, hfetch⟩ := fetching_of_nextAudio running next
    exact ⟨_, hlead.trans hgrows, hrest.skip empty hfetch⟩
  | delivered running next audio running' deliver =>
    obtain ⟨hkeeps, _, hfetch', _⟩ := nextAudio_some running next
    obtain ⟨lead, hlead, hfetch⟩ := fetching_of_nextAudio running next
    obtain ⟨elapsed, heard, returned, hheard, hnone, hdrain, hclock⟩ := deliver.paced_entries
    rw [interval_eq hkeeps.plan_eq (Scene.isSelfPaced_fetch hfetch')] at hclock
    rw [hkeeps.plan_eq] at hdrain
    rw [hclock] at hrest
    have hwhole := hlead.trans (hheard.trans hgrows)
    exact ⟨_, hwhole, .more (.found audio hfetch) hnone hdrain hrest⟩

/-- Streaming is in step from the moment it begins. -/
theorem Streams.inStep {n : Nat} {out : Except Halt (Except Error Unit)}
    (h : Streams transport n before out after) : ∃ entries,
      Scene.Grows before.scene after.scene entries ∧
        Journal.InStep before.plan.pollTimeout before.interval before.clock entries := by
  induction h with
  | outOfSteps session => exact ⟨[], .refl _, .silent rfl⟩
  | broke round => exact round.inStep
  | last round => exact round.inStep
  | more round rest ih =>
    obtain ⟨entries, hgrows, hrest⟩ := ih
    exact round.inStep_more hgrows hrest

/-! ## Whole sessions -/

/-- From one moment to another all payloads are in step. -/
def Paced (timeout : Nanos) (interval : Option Nanos) (before after : Session σ) : Prop :=
  ∃ lead entries start, Scene.Grows before.scene after.scene (lead ++ entries) ∧
    Journal.payloads lead = [] ∧ Journal.InStep timeout interval start entries

section Paced

variable {timeout : Nanos} {interval : Option Nanos} {first second third : Session σ}

theorem Mute.paced (h : Mute first second) : Paced timeout interval first second := by
  obtain ⟨entries, hgrows, _, hnone⟩ := h.entries
  exact ⟨entries, [], first.clock, by rwa [List.append_nil], hnone, .silent rfl⟩

theorem Paced.after_mute (hmute : Mute first second) (h : Paced timeout interval second third) :
    Paced timeout interval first third := by
  obtain ⟨silent, hsilent, _, hnone⟩ := hmute.entries
  obtain ⟨lead, entries, start, hgrows, hlead, hstep⟩ := h
  refine ⟨silent ++ lead, entries, start, ?_, ?_, hstep⟩
  · rw [List.append_assoc]
    exact hsilent.trans hgrows
  · rw [Journal.payloads_append, hnone, hlead]
    rfl

theorem Paced.then_mute (h : Paced timeout interval first second) (hmute : Mute second third) :
    Paced timeout interval first third := by
  obtain ⟨silent, hsilent, _, hnone⟩ := hmute.entries
  obtain ⟨lead, entries, start, hgrows, hlead, hstep⟩ := h
  refine ⟨lead, entries ++ silent, start, ?_, hlead, hstep.append_silent hnone⟩
  rw [← List.append_assoc]
  exact hgrows.trans hsilent

end Paced

theorem StreamsSource.paced {out : Except Halt (Except Error Unit)}
    (h : StreamsSource transport before out after) :
    Paced before.plan.pollTimeout before.interval before after := by
  have hmoved := steady_mute.moveTo before .streaming
  cases h with
  | unstreamable key reason empty => exact hmoved.paced
  | rounds audio streams =>
    obtain ⟨entries, hgrows, hstep⟩ := streams.inStep
    rw [plan_moveTo, interval_eq (plan_moveTo _ _) (isSelfPaced_eq_of_cursor_eq hmoved.cursor_eq)]
      at hstep
    exact Paced.after_mute hmoved ⟨[], entries, _, hgrows, rfl, hstep⟩

/-- However a session ends or breaks off, its payloads are in step. -/
theorem Runs.paced {out : Except Halt (Except Error Stats)}
    (h : Runs transport before out after) :
    Paced before.plan.pollTimeout before.interval before after := by
  rcases h.audio_cases with hmute | ⟨_, _, _, _, opens, streams, hmute⟩
  · exact hmute.paced
  · have hopened := steady_mute.opens opens
    have hpaced := streams.paced
    rw [opens.plan_eq, interval_eq opens.plan_eq (isSelfPaced_eq_of_cursor_eq hopened.cursor_eq)]
      at hpaced
    exact (hpaced.after_mute hopened).then_mute hmute

/-- The times at which a session hands over its payloads, whatever its transport does and however
long that takes, and however far the session comes.

Between two payloads that follow one another there is the drain after the first.  Audio in memory
goes out one interval after the payload before it, or as that drain returns, if this is later.
Live audio is asked for as the drain returns, since it is not paced, and goes out as it is taken
from the queue, where it is already or comes in last of all that happens meanwhile; blocks without
samples are passed over. -/
theorem run_cadence (transport : Transport σ) (plan : SessionPlan) (scene : Scene) (peer : σ)
    (fuel : Nat) :
    ∃ entries,
      ((start plan scene peer).runCourse transport fuel).session.scene.entries =
        scene.entries ++ entries ∧
      (∀ sentAt middle nextAt payload,
        Journal.Consecutive entries sentAt middle nextAt payload →
        ∃ heard waited returned, middle = heard ++ waited ∧
          Journal.DrainsUntil plan.pollTimeout returned heard ∧
          (scene.source.isSelfPaced = false →
            nextAt = max (sentAt + Nanos.ofMillis plan.chunkMs.toNat) returned) ∧
          (scene.source.isSelfPaced = true → ∃ chunk, payload = chunk.payload ∧
            Journal.Finds true returned waited chunk nextAt)) ∧
      ∀ (session : Session σ) sentAt, session.scene.source.isSelfPaced = true →
        session.pace sentAt = (session.running, session) := by
  obtain ⟨lead, entries, begun, hgrows, hlead, hstep⟩ :=
    (runs_runCourse transport fuel (start plan scene peer)).paced
  refine ⟨lead ++ entries, hgrows.entries_eq, fun sentAt middle nextAt payload hpair => ?_,
    fun session sentAt hlive => pace_live hlive sentAt⟩
  obtain ⟨heard, waited, returned, chunk, hmiddle, hdrain, hpayload, hfinds⟩ :=
    hstep.follows (hpair.of_silent hlead)
  rw [isNone_interval] at hfinds
  refine ⟨heard, waited, returned, hmiddle, hdrain, fun hmemory => ?_, fun hlive => ?_⟩
  · have hinterval : (start plan scene peer).interval =
        some (Nanos.ofMillis plan.chunkMs.toNat) := if_neg (Bool.eq_false_iff.mp hmemory)
    rw [show (start plan scene peer).scene.source.isSelfPaced = false from hmemory] at hfinds
    rw [hfinds.time_eq, hinterval]
    rfl
  · have hinterval : (start plan scene peer).interval = none := if_pos hlive
    rw [show (start plan scene peer).scene.source.isSelfPaced = true from hlive, hinterval]
      at hfinds
    exact ⟨chunk, hpayload, hfinds⟩

end Session

/-! ## A rehearsed cadence -/

/-- The first of some payloads, and what is handed over after it. -/
theorem Journal.exists_first_payload {entries : List Entry} {payload : Payload}
    {others : List Payload} (h : payloads entries = payload :: others) :
    ∃ before time elapsed result rest,
      entries = before ++ .sentAudio time payload elapsed result :: rest ∧
      payloads before = [] ∧ payloads rest = others := by
  obtain ⟨before, entry, rest, rfl, hbefore, hentry, hrest⟩ := List.filterMap_eq_cons_iff.mp h
  refine ⟨before, ?_⟩
  cases entry with
  | sentAudio time sent elapsed result =>
    obtain rfl := Option.some.inj hentry
    exact ⟨time, elapsed, result, rest, rfl, List.filterMap_eq_nil_iff.mpr hbefore, hrest⟩
  | _ => simp [Entry.payload?] at hentry

/-- Where there are two payloads, two follow one another. -/
theorem Journal.exists_consecutive {entries : List Entry} {first second : Payload}
    {others : List Payload} (h : payloads entries = first :: second :: others) :
    ∃ sentAt middle nextAt, Consecutive entries sentAt middle nextAt second := by
  obtain ⟨before, sentAt, elapsed, result, rest, rfl, -, hrest⟩ := exists_first_payload h
  obtain ⟨middle, nextAt, elapsed', result', after, rfl, hmiddle, -⟩ := exists_first_payload hrest
  exact ⟨sentAt, middle, nextAt, hmiddle, before, first, elapsed, result, elapsed', result', after,
    rfl⟩

/-- Two chunks for the talkative peer, over a transport that takes long to send. -/
def Session.sluggish : Session Rehearsal :=
  .start .brief .twoChunks
    (.ofScript { Script.talkative with sendDelay := Nanos.ofMillis 250 })

/-- The second of the two payloads goes out as the drain returns, or after a tenth of a second. -/
theorem run_cadence_sluggish :
    ∃ sentAt middle nextAt payload,
      Journal.Consecutive (Session.sluggish.runCourse Rehearsal.transport 20).session.scene.entries
        sentAt middle nextAt payload ∧
      ∃ heard waited returned, middle = heard ++ waited ∧
        Journal.DrainsUntil SessionPlan.brief.pollTimeout returned heard ∧
        nextAt = max (sentAt + Nanos.ofMillis 100) returned := by
  obtain ⟨entries, hentries, hcadence, _⟩ := Session.run_cadence Rehearsal.transport .brief
    .twoChunks (.ofScript { Script.talkative with sendDelay := Nanos.ofMillis 250 }) 20
  have hjournal : (Session.sluggish.runCourse Rehearsal.transport 20).session.scene.entries =
      entries := hentries
  have hpayloads : Journal.payloads entries = [[0, 0, 0, 0], [1, 0, 0, 0]] := by
    rw [← hjournal]
    decide +kernel
  obtain ⟨sentAt, middle, nextAt, hpair⟩ := Journal.exists_consecutive hpayloads
  obtain ⟨heard, waited, returned, hmiddle, hdrain, hmemory, _⟩ := hcadence _ _ _ _ hpair
  rw [hjournal]
  exact ⟨sentAt, middle, nextAt, _, hpair, heard, waited, returned, hmiddle, hdrain,
    hmemory rfl⟩

end SpeechProbe
