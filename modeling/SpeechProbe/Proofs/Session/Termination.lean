import SpeechProbe.Proofs.Sample.Partition
import SpeechProbe.Proofs.Session.Listening

/-!
# Sessions over samples in memory return

Four loops are one inside the other, and each is driven by something else: streaming by the
samples that are left, a drain by the text frames that come, the drain window by the clock, and
each look in it by text frames again.  No transport that delivers a bounded number of text frames
keeps a session for longer than an allowance that is known beforehand, if each look in the window
lets some time pass (`run_terminates`).

The measure is shared by all loops: of an allowance, each step is spent on a sample, on a text
frame or on a nanosecond of the window (`fuel_le_of_runCourse`).  What else a session could break
off for is a position or a deadline out of range (`Runs.halt_eq`).
-/

namespace SpeechProbe

/-- The deadline of the drain window is one that a clock can hold. -/
def SessionPlan.DeadlineFits (plan : SessionPlan) (entries : List Entry) : Prop :=
  ∀ ended ∈ entries.filterMap Entry.endTime?,
    (ended + plan.drainWindow) / Nanos.perSecond < Session.clockSeconds

instance (plan : SessionPlan) (entries : List Entry) : Decidable (plan.DeadlineFits entries) :=
  inferInstanceAs (Decidable (∀ ended ∈ entries.filterMap Entry.endTime?,
    (ended + plan.drainWindow) / Nanos.perSecond < Session.clockSeconds))

namespace Session

variable {σ : Type} {transport : Transport σ} {before after session : Session σ}

/-! ## The allowance -/

/-- Looks that run out of steps have spent each on a text frame or on some time. -/
theorem spent_collectUntil (transport : Transport σ) (deadline : Nanos) (fuel : Nat)
    (session : Session σ) (hgoes : TimePasses transport session.plan)
    (h : (collectUntil transport deadline fuel session).outcome = .error .outOfSteps) :
    (session.view Entry.text?).length + fuel ≤
      ((collectUntil transport deadline fuel session).session.view Entry.text?).length +
        (deadline - session.clock) := by
  induction fuel generalizing session with
  | zero => exact Nat.le_add_right _ _
  | succ fuel ih =>
    by_cases hdue : deadline ≤ session.clock
    · rw [collectUntil, if_pos hdue] at h
      simp [Course.done] at h
    have hearly : session.clock < deadline := Nat.lt_of_not_le hdue
    rcases collectUntil_early transport fuel hearly with
      ⟨halt, drained, hdrains, hdrain, hcourse⟩ | ⟨frames, drained, hdrains, -, hcourse⟩ |
        ⟨last, hcourse⟩
    all_goals rw [hcourse] at h ⊢
    · have hspent := spent_drainAfter transport fuel 0 session
      rw [← drainCourse, hdrain] at hspent
      have hframes := hspent halt rfl
      rw [Course.halted, spent, spent, (steady_mute.drains hdrains).view_eq Entry.chunk?] at hframes
      rw [Course.halted]
      lia
    · have hwaited := waited_rest drained deadline
      have hplan : (drained.rest deadline).plan = session.plan :=
        hwaited.plan_eq.trans hdrains.stays.plan_eq
      have hlater := clock_lt_rest hgoes hearly hdrains
      have htexts := (hdrains.stays.grows.trans hwaited.grows).length_view_le Entry.text?
      have hrest := ih _ (hplan ▸ hgoes) h
      lia
    · simp [Course.done] at h

/-- Of an allowance that the end of a session used up, each step was spent on a text frame or on
a nanosecond of the window. -/
theorem fuel_le_of_finishCourse (fuel : Nat) (hphase : session.phase.isFinal = false)
    (hgoes : TimePasses transport session.plan)
    (h : (session.finishCourse transport fuel).outcome = .error .outOfSteps) :
    (session.view Entry.text?).length + fuel ≤
      ((session.finishCourse transport fuel).session.view Entry.text?).length +
        session.plan.drainWindow := by
  cases hclosed : session.stats.peerClosed with
  | true =>
    rw [finishCourse_of_closed hphase hclosed] at h
    simp [Course.done] at h
  | false =>
    by_cases hlong : session.Overruns transport
    · rw [finishCourse_of_overruns hphase hlong] at h
      simp [Course.halted] at h
    rw [finishCourse_of_open hphase hclosed hlong] at h ⊢
    have hsent : Grows session (session.afterEndMark transport) :=
      (grows_moveTo session .draining).trans (steady_grows.sendEnd transport _)
    have htexts := hsent.length_view_le Entry.text?
    rcases Course.andThen_eq_error h with ⟨hsteps, hsession⟩ | ⟨_, _, hdone, _⟩
    · have hspent := spent_collectUntil transport _ fuel (session.afterEndMark transport)
        ((plan_afterEndMark transport session).symm ▸ hgoes) hsteps
      rw [hsession]
      lia
    · simp [Course.done] at hdone

section InMemory

variable {samples : List Sample} {rate : UInt32} {fuel : Nat} {entries : List Entry}

/-- Nothing but the allowance breaks streaming off, and only where there are chunks. -/
theorem StreamsSource.halt_eq {halt : Halt} (h : StreamsSource transport before (.error halt) after)
    (hcursor : before.scene.source.cursor? = some (.ofSamples samples rate))
    (hsamples : samples.length ≤ Cursor.capacity) :
    halt = .outOfSteps ∧ 0 < (before.plan.framing rate).chunkLength := by
  have hlength := chunkLength_eq hcursor
  cases h with
  | rounds audio streams =>
    have hn : 0 < (before.plan.framing rate).chunkLength := hlength ▸ audio
    have hfits := Cursor.Fits.ofSamples samples rate
      (before.plan.framing rate).chunkLength_lt hsamples
    obtain ⟨hhalt, -⟩ := (StreamsSource.rounds audio streams).progress hcursor hn hfits
    exact ⟨hhalt halt rfl, hn⟩

/-- Of an allowance that streaming used up, each step was spent on a sample or on a text frame. -/
theorem fuel_le_of_streamCourse {opened : Session σ} {handshake : Handshake}
    (hopens : Opens transport before (.ok handshake) opened)
    (hcursor : before.scene.source.cursor? = some (.ofSamples samples rate))
    (hsamples : samples.length ≤ Cursor.capacity)
    (hgrows : Scene.Grows before.scene (opened.streamCourse transport fuel).session.scene entries)
    (h : (opened.streamCourse transport fuel).outcome = .error .outOfSteps) :
    fuel ≤ samples.length + (Journal.texts entries).length := by
  have hopened := steady_mute.opens hopens
  have hcursor' := hopened.cursor_eq.trans hcursor
  have hstreams := streamsSource_streamCourse transport fuel opened
  have hhalted := hstreams
  rw [h] at hhalted
  have hn := (hhalted.halt_eq hcursor' hsamples).2
  have hfits := Cursor.Fits.ofSamples samples rate
    (opened.plan.framing rate).chunkLength_lt hsamples
  obtain ⟨-, read, cursor, hprogress, -⟩ := hstreams.progress hcursor' hn hfits
  exact fuel_le_of_outOfSteps hopens (chunkLength_eq hcursor' ▸ hn) hgrows
    ((Progress.of_mute hcursor hopened).trans hprogress) h

/-- Before its end a session keeps the plan, and adds to its journal. -/
theorem Opens.before_end {handshake : Handshake} {opened streamed : Session σ}
    {streaming : Except Halt (Except Error Unit)}
    (h : Opens transport before (.ok handshake) opened)
    (hstreams : StreamsSource transport opened streaming streamed)
    (result : Except Error Unit) :
    (streamed.endStreaming result).plan = before.plan ∧
      Grows before (streamed.endStreaming result) := by
  have hturns := h.turns hstreams
  have hended := stays_endStreaming streamed result
  exact ⟨hended.plan_eq.trans hturns.plan_eq, hturns.grows.trans hended.grows⟩

/-- A session that has begun consists of streaming and of its end. -/
theorem runCourse_eq_andThen (fuel : Nat) {opened : Session σ} {handshake : Handshake}
    (hcheck : before.plan.check = .ok ())
    (hconfigure : before.configure transport = (.ok handshake, opened)) :
    before.runCourse transport fuel =
      (opened.streamCourse transport fuel).andThen fun result streamed =>
        ((streamed.endStreaming result).finishCourse transport fuel).andThen fun _ session =>
          .done (.ok session.stats) session := by
  simp only [runCourse, hcheck, hconfigure]

/-- Of an allowance that a session used up, each step was spent in one of these ways. -/
theorem fuel_le_of_runCourse
    (hcursor : before.scene.source.cursor? = some (.ofSamples samples rate))
    (hsamples : samples.length ≤ Cursor.capacity) (hgoes : TimePasses transport before.plan)
    (hgrows : Scene.Grows before.scene (before.runCourse transport fuel).session.scene entries)
    (h : (before.runCourse transport fuel).outcome = .error .outOfSteps) :
    fuel ≤ samples.length + (Journal.texts entries).length + before.plan.drainWindow := by
  cases hcheck : before.plan.check with
  | error e => simp [runCourse, hcheck, abandon, Course.done] at h
  | ok _ =>
  rcases hconfigure : before.configure transport with ⟨e | handshake, opened⟩
  · simp [runCourse, hcheck, hconfigure, abandon, Course.done] at h
  have hopens := opens_configure transport before
  have hstreams := streamsSource_streamCourse transport fuel opened
  rw [hconfigure] at hopens
  rw [runCourse_eq_andThen fuel hcheck hconfigure] at h hgrows
  rcases Course.andThen_eq_error h with ⟨hsteps, hsession⟩ | ⟨result, _, hrest, hsession⟩
  · rw [hsession] at hgrows
    have hle := fuel_le_of_streamCourse hopens hcursor hsamples hgrows hsteps
    lia
  rw [hsession] at hgrows
  rcases Course.andThen_eq_error hrest with ⟨hsteps, hsession'⟩ | ⟨_, _, hdone, _⟩
  · rw [hsession'] at hgrows
    obtain ⟨hplan, hbegun⟩ := hopens.before_end hstreams result
    have hspent := fuel_le_of_finishCourse fuel (hstreams.not_final result) (hplan ▸ hgoes) hsteps
    have htexts := congrArg List.length
      (Scene.view_of_entries (f := Entry.text?) hgrows.entries_eq)
    have hearlier := hbegun.length_view_le Entry.text?
    rw [List.length_append] at htexts
    rw [hplan] at hspent
    simp only [view, Journal.texts] at htexts hspent hearlier ⊢
    lia
  · simp [Course.done] at hdone

/-! ## The payloads -/

/-- A session without chunks takes no audio. -/
theorem Runs.mute_of_unstreamable {out : Except Halt (Except Error Stats)}
    (h : Runs transport before out after)
    (hcursor : before.scene.source.cursor? = some (.ofSamples samples rate))
    (hn : (before.plan.framing rate).chunkLength = 0) : Mute before after := by
  rcases h.audio_cases with hmute | ⟨_, opened, _, streamed, opens, streams, hmute⟩
  · exact hmute
  · have hopened := steady_mute.opens opens
    have hlength := chunkLength_eq (hopened.cursor_eq.trans hcursor)
    rw [opens.plan_eq] at hlength
    cases streams with
    | unstreamable key reason empty =>
      exact (hopened.trans (steady_mute.moveTo opened .streaming)).trans hmute
    | rounds audio streams =>
      rw [opens.plan_eq, hlength] at audio
      exact absurd hn (Nat.ne_of_gt audio)

/-- There is one payload at most for each chunk that is begun, and none where chunks are empty. -/
theorem Runs.length_payloads_le {out : Except Halt (Except Error Stats)}
    (h : Runs transport before out after)
    (hgrows : Scene.Grows before.scene after.scene entries)
    (hcursor : before.scene.source.cursor? = some (.ofSamples samples rate))
    (hsamples : samples.length ≤ Cursor.capacity) :
    (Journal.payloads entries).length ≤
      (samples.length + (before.plan.framing rate).chunkLength - 1) /
        (before.plan.framing rate).chunkLength := by
  rcases Nat.eq_zero_or_pos (before.plan.framing rate).chunkLength with hnone | hn
  · have hmute := (h.mute_of_unstreamable hcursor hnone).view_eq Entry.payload?
    have hpayloads : Journal.payloads entries = [] :=
      Scene.filterMap_eq_nil_of_view hgrows.entries_eq hmute
    rw [hpayloads]
    exact Nat.zero_le _
  · have hfits := Cursor.Fits.ofSamples samples rate
      (before.plan.framing rate).chunkLength_lt hsamples
    obtain ⟨read, cursor, hprogress⟩ := h.progress hcursor hn hfits
    have hpayloads : Journal.payloads entries = read.map Chunk.payload :=
      Scene.filterMap_eq_of_view hgrows.entries_eq hprogress.payloads_eq
    rw [hpayloads, List.length_map]
    exact hprogress.reads.length_le_begun

/-! ## Ways to break off -/

/-- Where the deadline fits, the end of a session breaks off on a short allowance only. -/
theorem Finishes.halt_eq {halt : Halt} (h : Finishes transport before (.error halt) after)
    (hgrows : Scene.Grows before.scene after.scene entries)
    (hfits : before.plan.DeadlineFits entries) : halt = .outOfSteps := by
  cases h with
  | broke open' window collect => exact collect.halt_eq
  | overflow open' deadline =>
    have htimes := (heard_afterEndMark transport before).2
    have hended : entries.filterMap Entry.endTime? = [(before.afterEndMark transport).clock] :=
      Scene.filterMap_eq_of_view hgrows.entries_eq htimes
    have hroom := hfits (before.afterEndMark transport).clock
      (by rw [hended]; exact List.mem_singleton_self _)
    have hfine := drainDeadline_afterEndMark hroom
    rw [afterEndMark] at hfine
    simp [hfine] at deadline

/-- Nothing but the allowance breaks such a session off. -/
theorem Runs.halt_eq {halt : Halt} (h : Runs transport before (.error halt) after)
    (hgrows : Scene.Grows before.scene after.scene entries)
    (hcursor : before.scene.source.cursor? = some (.ofSamples samples rate))
    (hsamples : samples.length ≤ Cursor.capacity) (hfits : before.plan.DeadlineFits entries) :
    halt = .outOfSteps := by
  cases h with
  | broke check opens streams =>
    exact (streams.halt_eq ((steady_mute.opens opens).cursor_eq.trans hcursor) hsamples).1
  | @unfinished opened streamed _ _ result _ check opens streams finishes =>
    obtain ⟨hplan, early, hearly⟩ := opens.before_end streams result
    obtain ⟨late, hlate⟩ := steady_grows.finishes finishes
    obtain rfl : entries = early ++ late := hgrows.unique (hearly.trans hlate)
    refine finishes.halt_eq hlate (hplan.symm ▸ fun ended hmem => hfits ended ?_)
    rw [List.filterMap_append]
    exact List.mem_append_right _ hmem

end InMemory

/-! ## Sessions return -/

/-- A look after which another may follow ran dry, and a pause came after it. -/
theorem drains_of_look {deadline : Nanos} {fuel : Nat}
    (h : before.look transport deadline fuel = .done true after) :
    ∃ frames drained, Drains transport before (.ok (.ok (.dry frames))) drained ∧
      after = drained.rest deadline := by
  have hdrains := drains_drainCourse transport fuel before
  unfold look at h
  rcases hdrain : before.drainCourse transport fuel with ⟨halt | e | frames | frames, drained⟩
  all_goals
    rw [hdrain] at h hdrains
    simp only [Course.andThen, Course.done, Course.halted, Course.mk.injEq, Except.ok.injEq,
      reduceCtorEq, Bool.false_eq_true, false_and, true_and] at h
  exact ⟨frames, drained, hdrains, h.symm⟩

end Session

/-- What a session with a plan asks of its transport, over `length` samples of a rate.  Nothing
is handed over where chunks are empty. -/
structure Journal.Demands (plan : SessionPlan) (rate : UInt32) (length : Nat)
    (entries : List Entry) : Prop where
  payloads_eq_nil : (plan.framing rate).chunkLength = 0 → payloads entries = []
  payloads_le : 1 ≤ (plan.framing rate).chunkLength → (payloads entries).length ≤
    (length + (plan.framing rate).chunkLength - 1) / (plan.framing rate).chunkLength
  receives_le : (receiveTimes entries).length ≤
    1 + (texts entries).length + (payloads entries).length + (lookTimes entries).length
  looks_le : (lookTimes entries).length ≤
    (plan.drainWindow + (plan.pollTimeout + plan.pollInterval) - 1) /
      (plan.pollTimeout + plan.pollInterval)
  /-- Where the end mark was answered, the looks begin from then on. -/
  looks : entries.filterMap Entry.endTime? = [] ∧ lookTimes entries = [] ∨
    ∃ ended, entries.filterMap Entry.endTime? = [ended] ∧
      Heard.Spread (plan.pollTimeout + plan.pollInterval) ended (ended + plan.drainWindow)
        (lookTimes entries)

namespace Session

variable {σ : Type}

/-- However far a session comes, its demands are bounded. -/
theorem demands_runCourse {transport : Transport σ} {session : Session σ} {samples : List Sample}
    {rate : UInt32} {fuel : Nat} {entries : List Entry}
    (hgrows : Scene.Grows session.scene (session.runCourse transport fuel).session.scene entries)
    (hcursor : session.scene.source.cursor? = some (.ofSamples samples rate))
    (hsamples : samples.length ≤ Cursor.capacity)
    (hpass : 0 < session.plan.pollTimeout + session.plan.pollInterval)
    (hwaits : transport.WaitsOut) : Journal.Demands session.plan rate samples.length entries := by
  have hruns := runs_runCourse transport fuel session
  have hlooks := hruns.spread_lookTimes hgrows hwaits
  have hcount : (Journal.lookTimes entries).length ≤
      (session.plan.drainWindow + (session.plan.pollTimeout + session.plan.pollInterval) - 1) /
        (session.plan.pollTimeout + session.plan.pollInterval) := by
    rcases hlooks with ⟨-, hnone⟩ | ⟨ended, -, hspread⟩
    · rw [hnone]
      exact Nat.zero_le _
    · have hle := hspread.length_le hpass
      rw [Nat.add_sub_cancel_left] at hle
      exact hle
  exact
    { payloads_eq_nil := fun hnone => Scene.filterMap_eq_nil_of_view hgrows.entries_eq
        ((hruns.mute_of_unstreamable hcursor hnone).view_eq Entry.payload?)
      payloads_le := fun _ => hruns.length_payloads_le hgrows hcursor hsamples
      receives_le := hruns.length_receives_le hgrows
      looks_le := hcount
      looks := hlooks }

/-- Every session over samples in memory returns, whatever was done with it before, and whenever
a stop is requested.  Of the transport it is asked that it delivers no more than `bound` text
frames, and that a receive which reports a timeout has lasted that long; of the plan, that a look
and the pause after it are not both without any time, and that a clock can hold the deadline of
the drain window.  The result does not depend on the allowance.

On the way, there is one payload at most for each chunk that is begun, and the receives are
counted by the text frames, the payloads and the looks in the drain window, and one more.  Each
look moves the clock on until the deadline. -/
theorem run_terminates (transport : Transport σ) (session : Session σ) (samples : List Sample)
    (rate : UInt32) (bound : Nat)
    (hcursor : session.scene.source.cursor? = some (.ofSamples samples rate))
    (hsamples : samples.length ≤ Cursor.capacity)
    (hpass : 0 < session.plan.pollTimeout + session.plan.pollInterval)
    (hwaits : transport.WaitsOut)
    (htexts : ∀ fuel entries, (session.runCourse transport fuel).session.scene.entries =
      session.scene.entries ++ entries → (Journal.texts entries).length ≤ bound)
    (hdeadline : ∀ fuel entries, (session.runCourse transport fuel).session.scene.entries =
      session.scene.entries ++ entries → session.plan.DeadlineFits entries) :
    (∃ result after, ∀ fuel, samples.length + bound + session.plan.drainWindow < fuel →
      session.run transport fuel = .ok (result, after)) ∧
    (∀ fuel, ∃ entries, (session.runCourse transport fuel).session.scene.entries =
      session.scene.entries ++ entries ∧
        Journal.Demands session.plan rate samples.length entries) ∧
    ∀ (deadline : Nanos) (fuel : Nat) (before next : Session σ), before.plan = session.plan →
      before.clock < deadline → before.look transport deadline fuel = .done true next →
      before.clock < next.clock ∧
        min deadline (before.clock + (session.plan.pollTimeout + session.plan.pollInterval)) ≤
          next.clock := by
  have hgoes : TimePasses transport session.plan := by
    rcases Nat.eq_zero_or_pos session.plan.pollInterval with hnone | hinterval
    · exact .inr ⟨by lia, hwaits⟩
    · exact .inl hinterval
  have hreturns : ∀ fuel, samples.length + bound + session.plan.drainWindow < fuel →
      ∀ halt, (session.runCourse transport fuel).outcome ≠ .error halt := by
    intro fuel hfuel halt hhalt
    have hruns := runs_runCourse transport fuel session
    obtain ⟨entries, hgrows⟩ := hruns.grows
    rw [hhalt] at hruns
    have hsteps := hruns.halt_eq hgrows hcursor hsamples (hdeadline fuel entries hgrows.entries_eq)
    rw [hsteps] at hhalt
    have hle := fuel_le_of_runCourse hcursor hsamples hgoes hgrows hhalt
    have hframes := htexts fuel entries hgrows.entries_eq
    lia
  refine ⟨?_, fun fuel => ?_, fun deadline fuel before next hplan hearly hlook => ?_⟩
  · have henough := hreturns _ (Nat.lt_succ_self _)
    rcases hcourse : session.runCourse transport
      (samples.length + bound + session.plan.drainWindow + 1) with ⟨halt | result, after⟩
    · rw [hcourse] at henough
      exact absurd rfl (henough halt)
    · refine ⟨result, after, fun fuel hfuel => ?_⟩
      have hsame := runCourse_prolongs transport (Nat.succ_le_of_lt hfuel) session
        (by rw [hcourse]; simp)
      rw [run, hsame, hcourse]
      rfl
  · obtain ⟨entries, hgrows⟩ := (runs_runCourse transport fuel session).grows
    exact ⟨entries, hgrows.entries_eq, demands_runCourse hgrows hcursor hsamples hpass hwaits⟩
  · obtain ⟨frames, drained, hdrains, rfl⟩ := drains_of_look hlook
    have hpassed := hdrains.le_clock_rest hwaits deadline
    rw [hplan] at hpassed
    exact ⟨clock_lt_rest (hplan ▸ hgoes) hearly hdrains, hpassed⟩

end Session

/-! ## Over a rehearsal -/

namespace Rehearsal

/-- A scripted peer that reports a timeout has let all the time pass. -/
theorem elapsed_take (script : Script) (chunks : Nat) (timeout left : Nanos) (stopped : Bool)
    (cues : List Cue) : (take script chunks timeout left stopped cues).result = .ok .timeout →
      (take script chunks timeout left stopped cues).elapsed = timeout := by
  fun_induction take script chunks timeout left stopped cues with
  | case1 => exact fun _ => rfl
  | case2 => exact fun _ => rfl
  | case3 => simp
  | case4 => simp
  | case5 => simp
  | case6 => exact fun _ => rfl
  | case7 _ _ _ _ _ _ _ ih => exact ih

theorem waitsOut_transport : transport.WaitsOut := by
  intro peer now timeout htimeout
  simp only [transport, receive] at htimeout ⊢
  split at htimeout
  · simp [atOnce] at htimeout
  · rename_i hopen
    rw [if_neg hopen, elapsed_take _ _ _ _ _ _ htimeout]

end Rehearsal

/-- The session with a talkative peer returns, on every allowance that is large enough, and hands
over two payloads at most. -/
theorem run_terminates_fresh :
    (∃ result after, ∀ fuel, 2 + 4 + SessionPlan.brief.drainWindow < fuel →
      Session.fresh.run Rehearsal.transport fuel = .ok (result, after)) ∧
    ∀ fuel, ∃ entries, (Session.fresh.runCourse Rehearsal.transport fuel).session.scene.entries =
      Session.fresh.scene.entries ++ entries ∧ (Journal.payloads entries).length ≤ 2 := by
  have henough : (Session.fresh.runCourse Rehearsal.transport 20).outcome ≠
      .error .outOfSteps := Except.ne_error_of_toBool (by decide +kernel) _
  have htexts : ∀ fuel, (Journal.texts
      (Session.fresh.runCourse Rehearsal.transport fuel).session.scene.entries).length ≤ 4 :=
    Session.forall_runCourse _ henough
      (P := fun course => (Journal.texts course.session.scene.entries).length ≤ 4)
      (by decide +kernel)
  have hfits : ∀ fuel, SessionPlan.brief.DeadlineFits
      (Session.fresh.runCourse Rehearsal.transport fuel).session.scene.entries :=
    Session.forall_runCourse _ henough
      (P := fun course => SessionPlan.brief.DeadlineFits course.session.scene.entries)
      (by decide +kernel)
  -- The journal of the scene is empty, so that the entries of a run are all there are.
  obtain ⟨hreturns, hdemands, -⟩ := Session.run_terminates Rehearsal.transport Session.fresh
    [⟨0⟩, ⟨1⟩] 10 4 rfl (by decide) (by decide) Rehearsal.waitsOut_transport
    (fun fuel entries hentries => by
      obtain rfl : _ = entries := hentries
      exact htexts fuel)
    (fun fuel entries hentries => by
      obtain rfl : _ = entries := hentries
      exact hfits fuel)
  have hchunk : (Session.fresh.plan.framing 10).chunkLength = 1 := by decide +kernel
  refine ⟨hreturns, fun fuel => ?_⟩
  obtain ⟨entries, hentries, hdemand⟩ := hdemands fuel
  have hpayloads := hdemand.payloads_le (Nat.le_of_eq hchunk.symm)
  rw [hchunk] at hpayloads
  exact ⟨entries, hentries, hpayloads⟩

end SpeechProbe
