import SpeechProbe.Proofs.Session.Passage

/-!
# The handoff of live audio

Any number of producers push blocks, a consumer asks for them one by one, somebody may request a
stop, and the source is shut down.  None of them waits for the others, so whatever they do may
interleave in any order.  `Handoff.Step` says what each can do by itself, in terms of the live
source that a session runs on, and `Handoff.Runs` is any interleaving of such steps.

A step moves blocks as `Step.blocks` says: what was queued and what is accepted is what is
delivered and what is queued then.  Along a run this adds up, and `runs_handoff` reads off it that
the queue loses and repeats nothing, when it refuses a block, and why a call comes back without one.
The last part shows that a scene, as a session uses it, only ever makes such runs.
-/

namespace SpeechProbe

/-- Where the consumer's call for the next block is. -/
inductive Consumer where
  | idle
  /-- The call was made; the stop flag was not read yet. -/
  | called
  /-- No stop was requested when the flag was read.  The call waits for a block or a stop. -/
  | waiting
  deriving DecidableEq, Repr

/-- A live source between its producers and its consumer. -/
structure Handoff where
  source : LiveSource
  /-- Whether no stop was requested yet. -/
  running : Bool
  consumer : Consumer
  /-- What stands in the buffers of the producers, by address. -/
  memory : Nat → List Sample

namespace Handoff

/-- An empty queue with one producer. -/
def start (capacity : Nat) (rate : UInt32) : Handoff :=
  ⟨.ofQueue capacity rate, true, .idle, fun _ => []⟩

/-- The blocks in the queue, oldest first. -/
def waiting (handoff : Handoff) : List Chunk := handoff.source.queue.waiting

/-- What happens, one thing at a time. -/
inductive Event where
  /-- A producer fills a buffer. -/
  | wrote (address : Nat) (samples : List Sample)
  /-- A producer pushes what stands in a buffer. -/
  | pushed (address : Nat) (samples : List Sample) (outcome : PushOutcome)
  | cloned
  | dropped
  | stopped
  | shutDown
  /-- The consumer asks for the next block. -/
  | called
  /-- The call found that no stop was requested. -/
  | entered
  /-- The call returns. -/
  | answered (block : Option Chunk)
  /-- The call is given up before it returns. -/
  | abandoned
  deriving DecidableEq, Repr

/-- What each party can do.  The queue does not look at who pushes.  A call that waits may be
answered in more than one way: when a block is there and a stop was requested, either can come
first. -/
inductive Step : Handoff → Event → Handoff → Prop where
  | wrote (before : Handoff) (address : Nat) (samples : List Sample) :
      Step before (.wrote address samples)
        { before with
          memory := fun place => if place = address then samples else before.memory place }
  | pushed (before : Handoff) (address : Nat) :
      Step before
        (.pushed address (before.memory address)
          (before.source.push (before.memory address)).1)
        { before with source := (before.source.push (before.memory address)).2 }
  | cloned (before : Handoff) (left : 0 < before.source.queue.producers) :
      Step before .cloned
        { before with
          source := { before.source with queue := before.source.queue.addProducer } }
  | dropped (before : Handoff) (left : 0 < before.source.queue.producers) :
      Step before .dropped
        { before with
          source := { before.source with queue := before.source.queue.dropProducer } }
  | stopped (before : Handoff) : Step before .stopped { before with running := false }
  /-- The consumer shuts the source down, so it has no call open then. -/
  | shutDown (before : Handoff) (idle : before.consumer = .idle) :
      Step before .shutDown { before with source := before.source.shutdown.2 }
  | called (before : Handoff) (idle : before.consumer = .idle) :
      Step before .called { before with consumer := .called }
  | turnedAway (before : Handoff) (called : before.consumer = .called)
      (stop : before.running = false) :
      Step before (.answered none) { before with consumer := .idle }
  | entered (before : Handoff) (called : before.consumer = .called)
      (running : before.running = true) :
      Step before .entered { before with consumer := .waiting }
  | found (before : Handoff) {block : Chunk} {source : LiveSource}
      (waits : before.consumer = .waiting) (pop : before.source.pop = (.chunk block, source)) :
      Step before (.answered (some block)) { before with source := source, consumer := .idle }
  | ended (before : Handoff) {source : LiveSource} (waits : before.consumer = .waiting)
      (pop : before.source.pop = (.ended, source)) :
      Step before (.answered none) { before with source := source, consumer := .idle }
  | interrupted (before : Handoff) (waits : before.consumer = .waiting)
      (stop : before.running = false) :
      Step before (.answered none) { before with consumer := .idle }
  | abandoned (before : Handoff) (busy : before.consumer ≠ .idle) :
      Step before .abandoned { before with consumer := .idle }

/-- Any interleaving of steps, and what happened in it. -/
inductive Runs : Handoff → List Event → Handoff → Prop where
  | nil (handoff : Handoff) : Runs handoff [] handoff
  | cons {first second third : Handoff} {event : Event} {events : List Event}
      (step : Step first event second) (rest : Runs second events third) :
      Runs first (event :: events) third

theorem Step.runs {before after : Handoff} {event : Event} (h : Step before event after) :
    Runs before [event] after :=
  .cons h (.nil after)

theorem Runs.append {first second third : Handoff} {events events' : List Event}
    (h : Runs first events second) (h' : Runs second events' third) :
    Runs first (events ++ events') third := by
  induction h with
  | nil handoff => exact h'
  | cons step rest ih => exact .cons step (ih h')

/-- A run can be looked at in the middle. -/
theorem Runs.split {first third : Handoff} {events events' : List Event}
    (h : Runs first (events ++ events') third) :
    ∃ second, Runs first events second ∧ Runs second events' third := by
  induction events generalizing first with
  | nil => exact ⟨first, .nil first, h⟩
  | cons event events ih =>
    cases h with
    | cons step rest =>
      obtain ⟨second, hrun, hrest⟩ := ih rest
      exact ⟨second, .cons step hrun, hrest⟩

/-! ## What the events tell -/

namespace Event

/-- The block that was accepted.  An empty block counts as accepted and is not queued. -/
def accepted? (rate : UInt32) : Event → Option Chunk
  | pushed _ samples .accepted => if samples.isEmpty then none else some ⟨samples, rate⟩
  | _ => none

/-- The block that was delivered. -/
def delivered? : Event → Option Chunk
  | answered block => block
  | _ => none

end Event

/-- The blocks that were accepted, as they stood in their buffers when they were pushed. -/
def accepted (rate : UInt32) (events : List Event) : List Chunk :=
  events.filterMap (Event.accepted? rate)

/-- The blocks that were delivered. -/
def delivered (events : List Event) : List Chunk := events.filterMap Event.delivered?

/-- The accepted blocks that were not delivered yet. -/
def queued (rate : UInt32) (events : List Event) : List Chunk :=
  (accepted rate events).drop (delivered events).length

theorem accepted_concat (rate : UInt32) (events : List Event) (event : Event) :
    accepted rate (events ++ [event]) =
      accepted rate events ++ (event.accepted? rate).toList := by
  rw [accepted, accepted, List.filterMap_append]
  cases h : event.accepted? rate <;> simp [h]

theorem delivered_concat (events : List Event) (event : Event) :
    delivered (events ++ [event]) = delivered events ++ event.delivered?.toList := by
  rw [delivered, delivered, List.filterMap_append]
  cases h : event.delivered? <;> simp [h]

/-- No producer is left: as many went away as there were. -/
def Orphaned (events : List Event) : Prop := events.count .dropped = 1 + events.count .cloned

/-! ## Steps -/

/-- What becomes of a pushed block, and what it changes. -/
theorem push_eq (source : LiveSource) (samples : List Sample) :
    source.push samples =
      if samples.isEmpty then (.accepted, source)
      else if source.queue.closed then (.closed, source)
      else if source.queue.capacity ≤ source.queue.waiting.length then (.full, source)
      else (.accepted, { source with queue := { source.queue with
        waiting := source.queue.waiting ++ [⟨samples, source.rate⟩] } }) := by
  unfold LiveSource.push HandoffQueue.push Chunk.isEmpty
  dsimp only
  split
  · rfl
  · split
    · rfl
    · split <;> rfl

/-- What a pop finds, and what it changes. -/
theorem pop_eq (source : LiveSource) :
    source.pop = match source.queue.waiting with
      | block :: rest =>
        (.chunk block, { source with queue := { source.queue with waiting := rest } })
      | [] =>
        if source.queue.closed ∨ source.queue.producers = 0 then (.ended, source)
        else (.waiting, source) := by
  unfold LiveSource.pop HandoffQueue.pop
  cases source.queue.waiting with
  | nil => dsimp only; split <;> rfl
  | cons block rest => rfl

/-- A pop that finds a block takes the oldest one and changes nothing else. -/
theorem pop_chunk {source popped : LiveSource} {block : Chunk}
    (h : source.pop = (.chunk block, popped)) :
    ∃ rest, source.queue.waiting = block :: rest ∧
      popped = { source with queue := { source.queue with waiting := rest } } := by
  rw [pop_eq] at h
  split at h
  · rename_i first rest hwaiting
    simp only [Prod.mk.injEq, Fetched.chunk.injEq] at h
    obtain ⟨rfl, rfl⟩ := h
    exact ⟨rest, hwaiting, rfl⟩
  · split at h <;> simp at h

/-- A pop ends the audio where no block is left and none can come, and changes nothing. -/
theorem pop_ended {source popped : LiveSource} (h : source.pop = (.ended, popped)) :
    source.queue.waiting = [] ∧ (source.queue.closed = true ∨ source.queue.producers = 0) ∧
      popped = source := by
  rw [pop_eq] at h
  split at h
  · simp at h
  · rename_i hwaiting
    split at h
    · rename_i hover
      simp only [Prod.mk.injEq, true_and] at h
      exact ⟨hwaiting, hover, h.symm⟩
    · simp at h

/-- A pop that finds nothing yet changes nothing. -/
theorem pop_waiting {source popped : LiveSource} (h : source.pop = (.waiting, popped)) :
    popped = source := by
  rw [pop_eq] at h
  split at h
  · simp at h
  · split at h
    · simp at h
    · simp only [Prod.mk.injEq, true_and] at h
      exact h.symm

/-- Shutting down closes the queue and leaves its blocks in it. -/
theorem shutdown_snd (source : LiveSource) :
    source.shutdown.2 = { source with queue := source.queue.close, capture := none } := by
  unfold LiveSource.shutdown
  split
  · rfl
  · split <;> rfl

/-- No block gets lost in a step and none is made up: the blocks in the queue and the one that is
accepted are the one that is delivered and the blocks in the queue then, in this order. -/
theorem Step.blocks {before after : Handoff} {event : Event} (h : Step before event after) :
    before.waiting ++ (event.accepted? before.source.rate).toList =
      event.delivered?.toList ++ after.waiting := by
  cases h with
  | pushed address =>
    simp only [waiting, Event.delivered?, Option.toList_none, List.nil_append]
    rw [push_eq]
    split
    · simp [Event.accepted?, *]
    · split
      · simp [Event.accepted?]
      · split <;> simp [Event.accepted?, *]
  | found waits pop =>
    obtain ⟨rest, hwaiting, rfl⟩ := pop_chunk pop
    simpa [waiting, Event.accepted?, Event.delivered?] using hwaiting
  | ended waits pop =>
    obtain ⟨-, -, rfl⟩ := pop_ended pop
    exact List.append_nil _
  | shutDown idle =>
    rw [shutdown_snd]
    exact List.append_nil _
  | _ => exact List.append_nil _

/-- What else a step changes. -/
structure Follows (before : Handoff) (event : Event) (after : Handoff) : Prop where
  rate_eq : after.source.rate = before.source.rate
  capacity_eq : after.source.queue.capacity = before.source.queue.capacity
  closed_eq : after.source.queue.closed = (before.source.queue.closed || event == .shutDown)
  running_eq : after.running = (before.running && event != .stopped)
  producers_eq : after.source.queue.producers + [event].count .dropped =
    before.source.queue.producers + [event].count .cloned

theorem Step.follows {before after : Handoff} {event : Event} (h : Step before event after) :
    Follows before event after := by
  cases h with
  | pushed address =>
    rw [push_eq]
    split
    · exact ⟨rfl, rfl, by simp, by simp, by simp⟩
    · split
      · exact ⟨rfl, rfl, by simp, by simp, by simp⟩
      · split <;> exact ⟨rfl, rfl, by simp, by simp, by simp⟩
  | found waits pop =>
    obtain ⟨rest, -, rfl⟩ := pop_chunk pop
    exact ⟨rfl, rfl, by simp, by simp, by simp⟩
  | ended waits pop =>
    obtain ⟨-, -, rfl⟩ := pop_ended pop
    exact ⟨rfl, rfl, by simp, by simp, by simp⟩
  | shutDown idle =>
    rw [shutdown_snd]
    exact ⟨rfl, rfl, by simp [HandoffQueue.close], by simp, by simp [HandoffQueue.close]⟩
  | stopped => exact ⟨rfl, rfl, by simp, by simp, by simp⟩
  | cloned left => exact ⟨rfl, rfl, by simp [HandoffQueue.addProducer], by simp,
      by simp [HandoffQueue.addProducer]⟩
  | dropped left =>
    refine ⟨rfl, rfl, by simp [HandoffQueue.dropProducer], by simp, ?_⟩
    simp only [HandoffQueue.dropProducer]
    exact Nat.sub_add_cancel left
  | _ => exact ⟨rfl, rfl, by simp, by simp, by simp⟩

/-! ## Runs -/

/-- What the state shows of all that happened since the start. -/
structure Shows (capacity : Nat) (rate : UInt32) (events : List Event) (handoff : Handoff) :
    Prop where
  rate_eq : handoff.source.rate = rate
  capacity_eq : handoff.source.queue.capacity = max capacity 1
  blocks_eq : accepted rate events = delivered events ++ handoff.waiting
  length_le : handoff.waiting.length ≤ max capacity 1
  closed_iff : handoff.source.queue.closed = true ↔ .shutDown ∈ events
  stopped_iff : handoff.running = false ↔ .stopped ∈ events
  producers_eq : handoff.source.queue.producers + events.count .dropped =
    1 + events.count .cloned

theorem shows_start (capacity : Nat) (rate : UInt32) :
    Shows capacity rate [] (start capacity rate) where
  rate_eq := rfl
  capacity_eq := rfl
  blocks_eq := rfl
  length_le := Nat.zero_le _
  closed_iff := by simp [start, LiveSource.ofQueue, HandoffQueue.ofCapacity]
  stopped_iff := by simp [start]
  producers_eq := rfl

section Run

variable {capacity : Nat} {rate : UInt32} {events : List Event} {before after : Handoff}

/-- A block is accepted only while there is room for it. -/
theorem Step.length_le {event : Event} (h : Step before event after) :
    after.waiting.length ≤ max before.waiting.length before.source.queue.capacity := by
  cases h with
  | pushed address =>
    simp only [waiting]
    rw [push_eq]
    split
    · exact Nat.le_max_left _ _
    · split
      · exact Nat.le_max_left _ _
      · split
        · exact Nat.le_max_left _ _
        · rename_i hroom
          simp only [List.length_append, List.length_singleton]
          exact Nat.le_trans (Nat.not_le.mp hroom) (Nat.le_max_right _ _)
  | found waits pop =>
    obtain ⟨rest, hwaiting, rfl⟩ := pop_chunk pop
    have hle := Nat.le_max_left before.waiting.length before.source.queue.capacity
    rw [show before.waiting.length = rest.length + 1 from congrArg List.length hwaiting] at hle ⊢
    exact Nat.le_of_succ_le hle
  | ended waits pop =>
    obtain ⟨-, -, rfl⟩ := pop_ended pop
    exact Nat.le_max_left _ _
  | shutDown idle =>
    simp only [waiting]
    rw [shutdown_snd]
    exact Nat.le_max_left _ _
  | _ => exact Nat.le_max_left _ _

/-- A step keeps what the state shows. -/
theorem Shows.step (hshows : Shows capacity rate events before) {event : Event}
    (h : Step before event after) : Shows capacity rate (events ++ [event]) after := by
  have hfollows := h.follows
  have hblocks := h.blocks
  have hlength := h.length_le
  refine ⟨?_, ?_, ?_, ?_, ?_, ?_, ?_⟩
  · rw [hfollows.rate_eq, hshows.rate_eq]
  · rw [hfollows.capacity_eq, hshows.capacity_eq]
  · rw [hshows.rate_eq] at hblocks
    rw [accepted_concat, delivered_concat, hshows.blocks_eq, List.append_assoc, hblocks,
      List.append_assoc]
  · rw [hshows.capacity_eq] at hlength
    exact Nat.le_trans hlength (Nat.max_le.mpr ⟨hshows.length_le, Nat.le_refl _⟩)
  · rw [hfollows.closed_eq, Bool.or_eq_true, hshows.closed_iff, beq_iff_eq, List.mem_append,
      List.mem_singleton, eq_comm (a := event)]
  · rw [hfollows.running_eq, Bool.and_eq_false_iff, hshows.stopped_iff, bne_eq_false_iff_eq,
      List.mem_append, List.mem_singleton, eq_comm (a := event)]
  · have hproducers := hfollows.producers_eq
    have hshown := hshows.producers_eq
    rw [List.count_append, List.count_append]
    lia

theorem Shows.runs {events' : List Event} (hshows : Shows capacity rate events before)
    (h : Runs before events' after) : Shows capacity rate (events ++ events') after := by
  induction h generalizing events with
  | nil handoff =>
    rw [List.append_nil]
    exact hshows
  | @cons first second third event events' step rest ih =>
    have hrest := ih (hshows.step step)
    rw [List.append_assoc] at hrest
    exact hrest

theorem Runs.shows (h : Runs (start capacity rate) events after) :
    Shows capacity rate events after := (shows_start capacity rate).runs h

/-! ## What a caller can rely on -/

namespace Shows

theorem queued_eq (hshows : Shows capacity rate events before) :
    queued rate events = before.waiting := by
  rw [queued, hshows.blocks_eq, List.drop_left]

/-- A block is refused for want of room or because the source was shut down, and for no other
reason. -/
theorem refused_iff (hshows : Shows capacity rate events before) {address : Nat}
    {samples : List Sample} {outcome : PushOutcome}
    (h : Step before (.pushed address samples outcome) after) :
    (samples = [] → outcome = .accepted) ∧
      (samples ≠ [] → (outcome ≠ .accepted ↔
        (queued rate events).length = max capacity 1 ∨ .shutDown ∈ events)) := by
  rw [hshows.queued_eq, ← hshows.closed_iff]
  have hle := hshows.length_le
  have hcapacity := hshows.capacity_eq
  cases h
  rw [push_eq]
  generalize before.memory address = samples
  refine ⟨fun hempty => by simp [hempty], fun hsamples => ?_⟩
  have hfull : before.source.queue.capacity ≤ before.source.queue.waiting.length ↔
      before.waiting.length = max capacity 1 := by
    rw [hcapacity]
    exact ⟨Nat.le_antisymm hle, fun heq => Nat.le_of_eq heq.symm⟩
  rw [if_neg (by simpa using hsamples), ← hfull]
  split
  · rename_i hclosed
    simp [hclosed]
  · rename_i hopen
    split <;> rename_i hroom <;> simp [hopen, hroom]

/-- A call comes back without a block after a stop, or when the audio is over. -/
theorem answered_none (hshows : Shows capacity rate events before)
    (h : Step before (.answered none) after) :
    .stopped ∈ events ∨ queued rate events = [] ∧ (.shutDown ∈ events ∨ Orphaned events) := by
  rw [← hshows.stopped_iff, hshows.queued_eq, ← hshows.closed_iff]
  cases h with
  | turnedAway called stop => exact .inl stop
  | interrupted waits stop => exact .inl stop
  | ended waits pop =>
    obtain ⟨hempty, hover, -⟩ := pop_ended pop
    refine .inr ⟨hempty, hover.imp_right fun hnone => ?_⟩
    have hproducers := hshows.producers_eq
    rw [hnone, Nat.zero_add] at hproducers
    exact hproducers

end Shows

/-- A call that comes back without a block has taken none. -/
theorem Step.source_eq (h : Step before (.answered none) after) :
    after.source = before.source := by
  cases h with
  | turnedAway called stop => rfl
  | interrupted waits stop => rfl
  | ended waits pop => exact (pop_ended pop).2.2

/-- Once a stop was requested a call can always come back. -/
theorem exists_answered_none (hstop : before.running = false) (hbusy : before.consumer ≠ .idle) :
    ∃ after, Step before (.answered none) after := by
  cases hconsumer : before.consumer with
  | idle => exact absurd hconsumer hbusy
  | called => exact ⟨_, .turnedAway before hconsumer hstop⟩
  | waiting => exact ⟨_, .interrupted before hconsumer hstop⟩

/-- After a stop no call gets as far as to wait for a block. -/
theorem Step.still_stopped {event : Event} (h : Step before event after)
    (hstop : before.running = false) (hconsumer : before.consumer ≠ .waiting) :
    event.delivered? = none ∧ after.running = false ∧ after.consumer ≠ .waiting := by
  have hafter : after.running = false := by rw [h.follows.running_eq, hstop, Bool.false_and]
  cases h with
  | entered called running => simp [hstop] at running
  | found waits pop => exact absurd waits hconsumer
  | ended waits pop => exact absurd waits hconsumer
  | called idle => exact ⟨rfl, hafter, by simp⟩
  | turnedAway called stop => exact ⟨rfl, hafter, by simp⟩
  | interrupted waits stop => exact ⟨rfl, hafter, by simp⟩
  | abandoned busy => exact ⟨rfl, hafter, by simp⟩
  | _ => exact ⟨rfl, hafter, hconsumer⟩

theorem Runs.delivered_eq_nil (h : Runs before events after) (hstop : before.running = false)
    (hconsumer : before.consumer ≠ .waiting) : delivered events = [] := by
  induction h with
  | nil handoff => rfl
  | cons step rest ih =>
    obtain ⟨hnone, hstopped, hidle⟩ := step.still_stopped hstop hconsumer
    rw [delivered, List.filterMap_cons_none hnone]
    exact ih hstopped hidle

end Run

/-- What holds of the handoff queue at every moment of every interleaving.

The accepted blocks are the delivered ones followed by those in the queue, and there is never more
than fits.  A block with samples is refused if there is no room for it or the source was shut down,
and only then; a block without is accepted.  A call comes back without a block only if a stop was
requested by then, or if the queue is empty and nobody can fill it, and it takes no block then.  A
call that was made after the stop delivers nothing, and whatever call is open by then can come back
at once. -/
theorem runs_handoff {capacity : Nat} {rate : UInt32} {events : List Event} {handoff : Handoff}
    (h : Runs (start capacity rate) events handoff) :
    accepted rate events = delivered events ++ handoff.waiting ∧
    handoff.waiting.length ≤ max capacity 1 ∧
    (∀ earlier address samples outcome later,
      events = earlier ++ .pushed address samples outcome :: later →
        (samples = [] → outcome = .accepted) ∧
        (samples ≠ [] → (outcome ≠ .accepted ↔
          (queued rate earlier).length = max capacity 1 ∨ .shutDown ∈ earlier))) ∧
    (∀ earlier later, events = earlier ++ .answered none :: later →
      (.stopped ∈ earlier ∨
        queued rate earlier = [] ∧ (.shutDown ∈ earlier ∨ Orphaned earlier)) ∧
      ∃ before after, Runs (start capacity rate) earlier before ∧
        Step before (.answered none) after ∧ after.source = before.source ∧
        Runs after later handoff) ∧
    (∀ earlier later, events = earlier ++ .called :: later → .stopped ∈ earlier →
      delivered later = []) ∧
    (.stopped ∈ events → handoff.consumer ≠ .idle →
      ∃ after, Step handoff (.answered none) after) := by
  refine ⟨h.shows.blocks_eq, h.shows.length_le, ?_, ?_, ?_, fun hstop => ?_⟩
  · rintro earlier address samples outcome later rfl
    obtain ⟨before, hbefore, hrest⟩ := h.split
    cases hrest with
    | cons step rest => exact hbefore.shows.refused_iff step
  · rintro earlier later rfl
    obtain ⟨before, hbefore, hrest⟩ := h.split
    cases hrest with
    | cons step rest =>
      exact ⟨hbefore.shows.answered_none step, _, _, hbefore, step, step.source_eq, rest⟩
  · rintro earlier later rfl hstop
    obtain ⟨before, hbefore, hrest⟩ := h.split
    cases hrest with
    | cons step rest =>
      cases step with
      | called idle =>
        exact rest.delivered_eq_nil (hbefore.shows.stopped_iff.mpr hstop) (by simp)
  · exact exists_answered_none (h.shows.stopped_iff.mpr hstop)

/-- A block that is delivered and one for which there is no room; then a stop, a call after it, a
shutdown, and a block that comes too late. -/
def crowded : List Event :=
  [ .wrote 0 [⟨1⟩], .pushed 0 [⟨1⟩] .accepted, .wrote 0 [⟨2⟩], .pushed 0 [⟨2⟩] .full
  , .called, .entered, .answered (some ⟨[⟨1⟩], 16000⟩), .stopped
  , .called, .answered none, .shutDown, .pushed 0 [⟨2⟩] .closed, .dropped ]

/-- What holds at the end of the crowded run. -/
theorem runs_handoff_crowded :
    ∃ handoff, Runs (start 0 16000) crowded handoff ∧
      accepted 16000 crowded = delivered crowded ++ handoff.waiting ∧
      handoff.waiting.length ≤ 1 := by
  have hruns : ∃ handoff, Runs (start 0 16000) crowded handoff :=
    ⟨_, .cons (.wrote _ 0 [⟨1⟩]) <| .cons (.pushed _ 0) <| .cons (.wrote _ 0 [⟨2⟩]) <|
      .cons (.pushed _ 0) <| .cons (.called _ rfl) <| .cons (.entered _ rfl rfl) <|
      .cons (.found _ rfl rfl) <| .cons (.stopped _) <| .cons (.called _ rfl) <|
      .cons (.turnedAway _ rfl rfl) <| .cons (.shutDown _ rfl) <| .cons (.pushed _ 0) <|
      .cons (.dropped _ (by decide)) <| .nil _⟩
  obtain ⟨handoff, hrun⟩ := hruns
  obtain ⟨hblocks, hlength, -⟩ := runs_handoff hrun
  exact ⟨handoff, hrun, hblocks, hlength⟩

/-! ## Scenes -/

/-- A scene's live source between its producers and a call. -/
structure Holds (handoff : Handoff) (scene : Scene) : Prop where
  source_eq : scene.source = .live handoff.source
  running_eq : scene.running = handoff.running

/-- How a call for the next block stands after a fetch. -/
def Answers (events : List Event) (handoff : Handoff) : Fetched → Prop
  | .chunk block => delivered events = [block] ∧ handoff.consumer = .idle
  | .ended => delivered events = [] ∧ handoff.consumer = .idle
  | .waiting => delivered events = [] ∧ handoff.consumer = .waiting

/-- Between two scenes the parties only did what they can, and no call was made or answered. -/
def Leads (before after : Scene) : Prop :=
  ∀ handoff, Holds handoff before → ∃ events next, Runs handoff events next ∧ Holds next after ∧
    delivered events = [] ∧ next.consumer = handoff.consumer

theorem Leads.refl (scene : Scene) : Leads scene scene :=
  fun handoff h => ⟨[], handoff, .nil handoff, h, rfl, rfl⟩

theorem Leads.trans {first second third : Scene} (h : Leads first second)
    (h' : Leads second third) : Leads first third := by
  intro handoff hholds
  obtain ⟨events, next, hruns, hnext, hdelivered, hconsumer⟩ := h handoff hholds
  obtain ⟨events', last, hruns', hlast, hdelivered', hconsumer'⟩ := h' next hnext
  refine ⟨events ++ events', last, hruns.append hruns', hlast, ?_, hconsumer'.trans hconsumer⟩
  rw [delivered, List.filterMap_append]
  exact List.append_eq_nil_iff.mpr ⟨hdelivered, hdelivered'⟩

/-- Where the source and the stop flag stay, nothing happened. -/
theorem leads_of_eq {before after : Scene} (hsource : after.source = before.source)
    (hrunning : after.running = before.running) : Leads before after := by
  intro handoff h
  exact ⟨[], handoff, .nil handoff, ⟨hsource.trans h.source_eq, hrunning.trans h.running_eq⟩,
    rfl, rfl⟩

theorem leads_happen (scene : Scene) (happening : Happening) :
    Leads scene (scene.happen happening) := by
  rintro handoff ⟨hsource, hrunning⟩
  cases happening with
  | push due samples =>
    -- the callback fills its buffer first, at whatever address
    have hwrote := Step.wrote handoff 0 samples
    refine ⟨_, _, .cons hwrote (Step.pushed _ 0).runs, ⟨?_, ?_⟩, rfl, rfl⟩
    · simp only [Scene.happen, hsource]
      rfl
    · simp only [Scene.happen, hsource]
      exact hrunning
  | dropProducer =>
    by_cases hleft : 0 < handoff.source.queue.producers
    · refine ⟨_, _, (Step.dropped handoff hleft).runs, ⟨?_, hrunning⟩, rfl, rfl⟩
      simp only [Scene.happen, hsource, Source.mapLive]
    · have hsame : handoff.source.queue.dropProducer = handoff.source.queue := by
        rw [HandoffQueue.dropProducer, Nat.sub_eq_zero_of_le (by lia),
          ← Nat.eq_zero_of_not_pos hleft]
      refine ⟨[], handoff, .nil handoff, ⟨?_, hrunning⟩, rfl, rfl⟩
      simp only [Scene.happen, hsource, Source.mapLive, hsame]
  | stop => exact ⟨_, _, (Step.stopped handoff).runs, ⟨hsource, rfl⟩, rfl, rfl⟩

theorem leads_step (scene : Scene) (time : Nanos) (happening : Happening) (rest : Schedule) :
    Leads scene (scene.step time happening rest) := by
  have hmoved : Leads scene ({ scene with coming := rest }.moveTo time) := leads_of_eq rfl rfl
  exact hmoved.trans (leads_happen _ happening)

theorem leads_settleUntil (time : Nanos) (coming : Schedule) (scene : Scene) :
    Leads scene (Scene.settleUntil time coming scene) := by
  induction coming generalizing scene with
  | nil => exact .refl scene
  | cons next rest ih =>
    rw [Scene.settleUntil]
    split
    · exact (leads_step scene next.1 next.2 rest).trans (ih _)
    · exact .refl scene

/-- Time that passes. -/
theorem leads_advanceTo (scene : Scene) (time : Nanos) : Leads scene (scene.advanceTo time) :=
  (leads_settleUntil time scene.coming scene).trans (leads_of_eq rfl rfl)

/-- What was not delivered before does not count. -/
theorem Answers.after {events events' : List Event} {handoff : Handoff} {fetched : Fetched}
    (hsilent : delivered events = []) (h : Answers events' handoff fetched) :
    Answers (events ++ events') handoff fetched := by
  have heq : delivered (events ++ events') = delivered events' := by
    rw [delivered, List.filterMap_append]
    exact (congrArg (· ++ delivered events') hsilent).trans (List.nil_append _)
  cases fetched <;> exact ⟨heq.trans h.1, h.2⟩

/-- The outcome of a fetch whose call was answered. -/
theorem Answers.of_answered {handoff answered : Handoff} {found : Scene} {block : Option Chunk}
    (hstep : Step handoff (.answered block) answered) (hidle : answered.consumer = .idle)
    (hholds : Holds answered found) :
    ∃ events next, Runs handoff events next ∧ Holds next found.settle ∧
      Answers events next (block.elim .ended .chunk) := by
  obtain ⟨events, next, hruns, hnext, hdelivered, hconsumer⟩ :=
    leads_advanceTo found found.clock answered hholds
  refine ⟨_, next, .cons hstep hruns, hnext, ?_⟩
  rw [hidle] at hconsumer
  cases block with
  | none => exact ⟨hdelivered, hconsumer⟩
  | some block => exact ⟨congrArg (block :: ·) hdelivered, hconsumer⟩

theorem scene_pop_eq {scene : Scene} {source : LiveSource} (h : scene.source = .live source) :
    scene.pop = (source.pop.1, scene.took source.pop.1 (.live source.pop.2)) := by
  simp only [Scene.pop, h]

theorem Holds.took {handoff : Handoff} {scene : Scene} (h : Holds handoff scene)
    (source : LiveSource) (consumer : Consumer) (fetched : Fetched) :
    Holds { handoff with source := source, consumer := consumer }
      (scene.took fetched (.live source)) := by
  cases fetched <;> exact ⟨rfl, h.running_eq⟩

/-- A pop of a scene answers a call that waits, unless nothing is there yet. -/
theorem scene_pop_cases {scene : Scene} {handoff : Handoff} (hholds : Holds handoff scene)
    (hwaits : handoff.consumer = .waiting) :
    (∃ block answered, Step handoff (.answered block) answered ∧ answered.consumer = .idle ∧
      Holds answered scene.pop.2 ∧ scene.pop.1 = block.elim .ended .chunk) ∨
    scene.pop.1 = .waiting ∧ Holds handoff scene.pop.2 := by
  rw [scene_pop_eq hholds.source_eq]
  rcases hpop : handoff.source.pop with ⟨block | _ | _, source⟩
  · exact .inl ⟨some block, _, .found handoff hwaits hpop, rfl,
      hholds.took source .idle (.chunk block), rfl⟩
  · exact .inl ⟨none, _, .ended handoff hwaits hpop, rfl, hholds.took source .idle .ended, rfl⟩
  · obtain rfl := pop_waiting hpop
    exact .inr ⟨rfl, rfl, hholds.running_eq⟩

theorem leads_giveUp (scene : Scene) (limit : Option Nanos) : Leads scene (scene.giveUp limit) := by
  cases limit with
  | none => exact .refl scene
  | some time => exact leads_of_eq rfl rfl

/-- What a session does to get a block is a call that waits: things happen one by one until the
call is answered, or given up for now. -/
theorem await_runs (limit : Option Nanos) (coming : Schedule) (scene : Scene) :
    ∀ handoff, Holds handoff scene → handoff.consumer = .waiting →
      ∃ events next, Runs handoff events next ∧ Holds next (scene.await limit coming).2 ∧
        Answers events next (scene.await limit coming).1 := by
  -- a pop that finds nothing leaves the call waiting
  have still_waiting {scene popped : Scene} (hpop : scene.pop = (.waiting, popped))
      {handoff : Handoff} (hholds : Holds handoff scene) : Holds handoff popped := by
    rw [Scene.eq_of_pop_waiting hpop]
    exact hholds
  have given_up {scene popped : Scene} (hpop : scene.pop = (.waiting, popped)) (handoff : Handoff)
      (hholds : Holds handoff scene) (hwaits : handoff.consumer = .waiting) :
      ∃ events next, Runs handoff events next ∧ Holds next (popped.giveUp limit) ∧
        Answers events next .waiting := by
    obtain ⟨events, next, hruns, hnext, hdelivered, hconsumer⟩ :=
      leads_giveUp popped limit handoff (still_waiting hpop hholds)
    exact ⟨events, next, hruns, hnext, hdelivered, hconsumer.trans hwaits⟩
  fun_induction Scene.await limit coming scene with
  | case1 coming scene hstopped =>
    intro handoff hholds hwaits
    have hstop : handoff.running = false := by
      rw [← hholds.running_eq]
      simpa using hstopped
    exact Answers.of_answered (.interrupted handoff hwaits hstop) rfl
      ⟨hholds.source_eq, hholds.running_eq⟩
  | case2 scene hrunning popped hpop due happening rest hdue ih =>
    intro handoff hholds hwaits
    obtain ⟨events, next, hruns, hnext, hdelivered, hconsumer⟩ :=
      leads_step popped due happening rest handoff (still_waiting hpop hholds)
    obtain ⟨events', last, hruns', hlast, hanswers⟩ := ih next hnext (hconsumer.trans hwaits)
    exact ⟨_, last, hruns.append hruns', hlast, hanswers.after hdelivered⟩
  | case3 scene hrunning popped hpop due happening rest hdue => exact given_up hpop
  | case4 scene hrunning popped hpop => exact given_up hpop
  | case5 coming scene hrunning fetched popped hnot hpop =>
    intro handoff hholds hwaits
    have hcases := scene_pop_cases hholds hwaits
    rw [hpop] at hcases
    rcases hcases with ⟨block, answered, hstep, hidle, hpopped, rfl⟩ | ⟨rfl, -⟩
    · exact Answers.of_answered hstep hidle hpopped
    · exact absurd rfl hnot

/-- Fetching from a live source is a call for the next block. -/
theorem fetch_runs {scene after : Scene} {n : Nat} {limit : Option Nanos} {fetched : Fetched}
    {handoff : Handoff} (hholds : Holds handoff scene) (hidle : handoff.consumer = .idle)
    (h : scene.fetch n limit = .ok (fetched, after)) :
    ∃ events next, Runs handoff (.called :: events) next ∧ Holds next after ∧
      Answers events next fetched := by
  have hfetch : scene.fetch n limit = .ok (scene.await limit scene.coming) := by
    simp only [Scene.fetch, hholds.source_eq]
  rw [hfetch, Except.ok.injEq] at h
  cases hrunning : handoff.running with
  | true =>
    have hentered := Step.entered { handoff with consumer := .called } rfl hrunning
    obtain ⟨events, next, hruns, hnext, hanswers⟩ :=
      await_runs limit scene.coming scene { handoff with consumer := .waiting }
        ⟨hholds.source_eq, hholds.running_eq⟩ rfl
    rw [h] at hnext hanswers
    have hanswered : Answers ([.entered] ++ events) next fetched := hanswers.after rfl
    exact ⟨_, next, .cons (.called handoff hidle) (.cons hentered hruns), hnext, hanswered⟩
  | false =>
    have hturned := Step.turnedAway { handoff with consumer := .called } rfl hrunning
    have hholds' : Holds { handoff with consumer := .idle } scene :=
      ⟨hholds.source_eq, hholds.running_eq⟩
    have hsettled : scene.await limit scene.coming = (.ended, scene.settle) := by
      have hstopped := hholds.running_eq.trans hrunning
      unfold Scene.await
      simp [hstopped]
    rw [hsettled] at h
    obtain ⟨events, next, hruns, hnext, hanswers⟩ := Answers.of_answered hturned rfl hholds'
    cases h
    exact ⟨_, next, .cons (.called handoff hidle) hruns, hnext, hanswers⟩

/-- Releasing a live source shuts it down. -/
theorem release_runs {scene : Scene} {handoff : Handoff} (hholds : Holds handoff scene)
    (hidle : handoff.consumer = .idle) :
    ∃ next, Runs handoff [.shutDown] next ∧ Holds next scene.release := by
  refine ⟨_, (Step.shutDown handoff hidle).runs, ?_, ?_⟩
  · simp only [Scene.release, hholds.source_eq]
    rcases handoff.source.shutdown with ⟨_ | ⟨capture, _ | e⟩, source⟩ <;> rfl
  · simp only [Scene.release, hholds.source_eq]
    rcases handoff.source.shutdown with ⟨_ | ⟨capture, _ | e⟩, source⟩ <;> exact hholds.running_eq

end Handoff
end SpeechProbe
