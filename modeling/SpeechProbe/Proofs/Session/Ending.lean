import SpeechProbe.Proofs.Session.Allowance
import SpeechProbe.Proofs.Session.Lifecycle
import SpeechProbe.Proofs.Session.Window
import SpeechProbe.Settings.Load

/-!
# How a session comes to its end

Whatever goes wrong at the end of a session is logged, and the connection is closed.  One thing
is not: the deadline of the drain window is the sum of the clock and a setting, and a clock holds
only so many seconds.  Settings are accepted with a window of any length, so that the end of a
session can break off between the end mark and the closing of the transport
(`Settings.unclosed_endless`).

Otherwise the transport is closed exactly once, and the end is reached if each drain in the
window ends and each pass through the window lets some time pass (`TimePasses`).  The measure is the
time left until the deadline, and the allowance is put together from those of the drains, for
which no common bound is asked.
-/

namespace SpeechProbe

/-- A receive that reports a timeout has lasted as long as it was given. -/
def Transport.WaitsOut {σ : Type} (transport : Transport σ) : Prop :=
  ∀ peer now timeout, (transport.receive peer now timeout).result = .ok .timeout →
    timeout ≤ (transport.receive peer now timeout).elapsed

namespace Session

variable {σ : Type} {transport : Transport σ} {before after session : Session σ}

/-! ## Time passes -/

/-- The clock of a session is not set back. -/
theorem steady_later : Steady fun before after : Session σ => before.clock ≤ after.clock where
  refl := fun _ => Nat.le_refl _
  trans := Nat.le_trans
  waited := by
    intro before after h
    obtain ⟨entries, hpassage⟩ := h.passage
    exact hpassage.clock_le
  note := fun _ _ => Nat.le_refl _
  count := fun _ _ => Nat.le_refl _
  tell := fun _ _ => Nat.le_refl _
  received := fun h => h.clock_eq ▸ Nat.le_add_right _ _
  moveTo := fun session next => Nat.le_of_eq (clock_moveTo session next).symm
  announced := fun h => h.clock_eq ▸ Nat.le_add_right _ _
  ended := fun h => h.clock_eq ▸ Nat.le_add_right _ _
  closed := fun h => h.clock_eq ▸ Nat.le_add_right _ _

theorem clock_receive_timeout (hwaits : transport.WaitsOut) {timeout : Nanos}
    (h : before.receive transport timeout = (.ok .timeout, after)) :
    before.clock + timeout ≤ after.clock := by
  have hresult : (transport.receive before.peer before.clock timeout).result = .ok .timeout :=
    congrArg Prod.fst h
  rw [(exchanged_of_exchange h rfl).clock_eq]
  exact Nat.add_le_add_left (hwaits _ _ _ hresult) _

/-- A drain that runs dry has waited for its poll timeout. -/
theorem Drains.clock_dry_le (hwaits : transport.WaitsOut)
    {out : Except Halt (Except Error Drained)} (h : Drains transport before out after) :
    ∀ frames, out = .ok (.ok (.dry frames)) →
      before.clock + before.plan.pollTimeout ≤ after.clock := by
  induction h with
  | outOfSteps session => simp
  | failed receive => simp
  | dry frames receive => exact fun _ _ => clock_receive_timeout hwaits receive
  | closed frames receive => simp
  | @text session received after text out receive rest ih =>
    intro frames hout
    obtain ⟨_, hexchanged⟩ := exchanged_receive receive
    have hrest := ih frames hout
    rw [clock_accept, hexchanged.clock_eq, (stays_accept text).plan_eq, hexchanged.plan_eq] at hrest
    lia

/-- A plan that lets time pass in every pass through the drain window. -/
def TimePasses (transport : Transport σ) (plan : SessionPlan) : Prop :=
  0 < plan.pollInterval ∨ 0 < plan.pollTimeout ∧ transport.WaitsOut

/-- A pass through the window that is not the last one moves the clock. -/
theorem clock_lt_rest {deadline : Nanos} {frames : Nat} (hgoes : TimePasses transport session.plan)
    (hearly : session.clock < deadline)
    (h : Drains transport session (.ok (.ok (.dry frames))) after) :
    session.clock < (after.rest deadline).clock := by
  have hlater : session.clock ≤ after.clock := steady_later.drains h
  rw [clock_rest, h.stays.plan_eq]
  rcases hgoes with hinterval | ⟨hpoll, hwaits⟩
  · lia
  · have hdry := h.clock_dry_le hwaits frames rfl
    lia

/-! ## The drain window is left -/

/-- The sessions at which a pass through a drain window may begin. -/
inductive Passes (transport : Transport σ) (deadline : Nanos) (start : Session σ) :
    Session σ → Prop where
  | first : Passes transport deadline start start
  | next {session drained : Session σ} {fuel frames : Nat}
      (pass : Passes transport deadline start session) (early : session.clock < deadline)
      (drain : session.drainCourse transport fuel = .done (.ok (.dry frames)) drained) :
      Passes transport deadline start (drained.rest deadline)

/-- Each drain of the window ends, if it is given enough steps. -/
def DrainsEnd (transport : Transport σ) (deadline : Nanos) (start : Session σ) : Prop :=
  ∀ session, Passes transport deadline start session → session.clock < deadline →
    ∃ fuel, (session.drainCourse transport fuel).outcome ≠ .error .outOfSteps

theorem Passes.plan_eq {deadline : Nanos} {start : Session σ}
    (h : Passes transport deadline start session) : session.plan = start.plan := by
  induction h with
  | first => rfl
  | @next session drained fuel frames pass early drain ih =>
    have hdrains := drains_drainCourse transport fuel session
    rw [drain] at hdrains
    exact ((waited_rest drained deadline).plan_eq.trans hdrains.stays.plan_eq).trans ih

/-- What one pass through the window comes to: its drain breaks off, or another pass follows, or
the window is left. -/
theorem collectUntil_early (transport : Transport σ) {deadline : Nanos} (fuel : Nat)
    (hearly : session.clock < deadline) :
    (∃ halt drained, Drains transport session (.error halt) drained ∧
      session.drainCourse transport fuel = .halted halt drained ∧
      collectUntil transport deadline (fuel + 1) session = .halted halt drained) ∨
    (∃ frames drained, Drains transport session (.ok (.ok (.dry frames))) drained ∧
      session.drainCourse transport fuel = .done (.ok (.dry frames)) drained ∧
      collectUntil transport deadline (fuel + 1) session =
        collectUntil transport deadline fuel (drained.rest deadline)) ∨
    ∃ last, collectUntil transport deadline (fuel + 1) session = .done () last := by
  have hdrains := drains_drainCourse transport fuel session
  rw [collectUntil, if_neg (Nat.not_le_of_lt hearly), look]
  rcases hdrain : session.drainCourse transport fuel with ⟨halt | e | frames | frames, drained⟩
  all_goals rw [hdrain] at hdrains
  · exact .inl ⟨halt, drained, hdrains, rfl, rfl⟩
  · exact .inr (.inr ⟨_, rfl⟩)
  · exact .inr (.inl ⟨frames, drained, hdrains, rfl, rfl⟩)
  · exact .inr (.inr ⟨_, rfl⟩)

/-- The window is left: the time to the deadline gets shorter with each pass. -/
theorem Passes.exists_done {deadline : Nanos} {start : Session σ}
    (h : Passes transport deadline start session) (hgoes : TimePasses transport start.plan)
    (hdrains : DrainsEnd transport deadline start) :
    ∃ fuel after, collectUntil transport deadline fuel session = .done () after := by
  induction hleft : deadline - session.clock using Nat.strongRecOn generalizing session with
  | ind left ih =>
  by_cases hdue : deadline ≤ session.clock
  · exact ⟨1, session, by rw [collectUntil, if_pos hdue]⟩
  have hearly : session.clock < deadline := Nat.lt_of_not_le hdue
  obtain ⟨fuel, hfuel⟩ := hdrains session h hearly
  rcases collectUntil_early transport fuel hearly with
    ⟨halt, drained, hdrains', hdrain, -⟩ | ⟨frames, drained, hdrains', hdrain, -⟩ | ⟨last, hlast⟩
  · rw [hdrain] at hfuel
    exact absurd (congrArg _ (hdrains'.halt_eq halt rfl)) hfuel
  · have hlater := clock_lt_rest (h.plan_eq ▸ hgoes) hearly hdrains'
    have hless : deadline - (drained.rest deadline).clock < left := by lia
    obtain ⟨fuel', after, hafter⟩ := ih _ hless (.next h hearly hdrain) rfl
    -- An allowance for this pass and for those after it is one for both.
    have hdrain' := drainCourse_prolongs transport (Nat.le_max_left fuel fuel') session hfuel
    have hafter' := collectUntil_prolongs transport deadline (Nat.le_max_right fuel fuel')
      (drained.rest deadline) (by rw [hafter]; simp [Course.done])
    refine ⟨max fuel fuel' + 1, after, ?_⟩
    rw [collectUntil, if_neg hdue, look, hdrain', hdrain]
    exact hafter'.trans hafter
  · exact ⟨fuel + 1, last, hlast⟩

/-! ## The end -/

/-- The deadline of the drain window, which is looked at only while the connection is open, is
later than a clock can hold. -/
def Overruns (transport : Transport σ) (session : Session σ) : Prop :=
  session.stats.peerClosed = false ∧
    clockSeconds ≤ ((session.afterEndMark transport).clock + session.plan.drainWindow) /
      Nanos.perSecond

theorem finishCourse_of_overruns (hphase : session.phase.isFinal = false)
    (h : session.Overruns transport) (fuel : Nat) :
    session.finishCourse transport fuel =
      .halted .clockOverflow (session.afterEndMark transport) := by
  have hdeadline : (session.afterEndMark transport).drainDeadline = .error .clockOverflow := by
    rw [drainDeadline, plan_afterEndMark]
    exact if_pos h.2
  rw [afterEndMark] at hdeadline
  simp only [finishCourse, hphase, stats_moveTo, h.1, hdeadline, Bool.false_eq_true, if_false]
  rfl

theorem drainDeadline_afterEndMark
    (h : ((session.afterEndMark transport).clock + session.plan.drainWindow) / Nanos.perSecond <
      clockSeconds) :
    (session.afterEndMark transport).drainDeadline =
      .ok ((session.afterEndMark transport).clock + session.plan.drainWindow) := by
  rw [drainDeadline, plan_afterEndMark]
  exact if_neg (Nat.not_le_of_lt h)

theorem finishCourse_of_open (hphase : session.phase.isFinal = false)
    (hopen : session.stats.peerClosed = false) (h : ¬ session.Overruns transport) (fuel : Nat) :
    session.finishCourse transport fuel =
      (collectUntil transport ((session.afterEndMark transport).clock + session.plan.drainWindow)
        fuel (session.afterEndMark transport)).andThen fun _ session =>
          .done () (session.close transport) := by
  have hdeadline := drainDeadline_afterEndMark
    (Nat.lt_of_not_le fun hlong => h ⟨hopen, hlong⟩)
  rw [afterEndMark] at hdeadline ⊢
  simp only [finishCourse, hphase, stats_moveTo, hopen, hdeadline, Bool.false_eq_true, if_false]

theorem finishCourse_of_closed (hphase : session.phase.isFinal = false)
    (hclosed : session.stats.peerClosed = true) (fuel : Nat) :
    session.finishCourse transport fuel =
      .done () ((session.moveTo .draining).close transport) := by
  simp only [finishCourse, hphase, stats_moveTo, hclosed, Bool.false_eq_true, if_false, if_true]

/-- The clock is what breaks the end off, apart from a short allowance. -/
theorem finishCourse_overflow_iff (hphase : session.phase.isFinal = false) (fuel : Nat) :
    (session.finishCourse transport fuel).outcome = .error .clockOverflow ↔
      session.Overruns transport := by
  constructor
  · intro hoverflow
    by_contra h
    cases hclosed : session.stats.peerClosed with
    | true =>
      rw [finishCourse_of_closed hphase hclosed] at hoverflow
      simp [Course.done] at hoverflow
    | false =>
      rw [finishCourse_of_open hphase hclosed h] at hoverflow
      have hcollects := collects_collectUntil transport
        ((session.afterEndMark transport).clock + session.plan.drainWindow) fuel
        (session.afterEndMark transport)
      rcases hcourse : collectUntil transport
        ((session.afterEndMark transport).clock + session.plan.drainWindow) fuel
        (session.afterEndMark transport) with ⟨halt | _, last⟩
      · rw [hcourse] at hcollects hoverflow
        have hhalt : halt = .outOfSteps := hcollects.halt_eq
        rw [hhalt] at hoverflow
        simp [Course.andThen, Course.halted] at hoverflow
      · rw [hcourse] at hoverflow
        simp [Course.andThen, Course.done] at hoverflow
  · intro h
    rw [finishCourse_of_overruns hphase h]
    rfl

/-- With enough steps the end is reached. -/
theorem exists_finishCourse_done (hphase : session.phase.isFinal = false)
    (h : ¬ session.Overruns transport) (hgoes : TimePasses transport session.plan)
    (hdrains : DrainsEnd transport
      ((session.afterEndMark transport).clock + session.plan.drainWindow)
      (session.afterEndMark transport)) :
    ∃ allowance after, ∀ fuel, allowance ≤ fuel →
      session.finishCourse transport fuel = .done () after := by
  cases hclosed : session.stats.peerClosed with
  | true => exact ⟨0, _, fun fuel _ => finishCourse_of_closed hphase hclosed fuel⟩
  | false =>
    rw [← plan_afterEndMark transport session] at hgoes
    obtain ⟨allowance, last, hlast⟩ := Passes.first.exists_done hgoes hdrains
    refine ⟨allowance, last.close transport, fun fuel hfuel => ?_⟩
    have hdone : session.finishCourse transport allowance = .done () (last.close transport) := by
      rw [finishCourse_of_open hphase hclosed h, hlast]
      rfl
    rw [finishCourse_prolongs transport hfuel session (by rw [hdone]; simp [Course.done]), hdone]

/-- A session with a plan of some settings overruns the clock by the seconds of its window. -/
theorem overruns_iff {settings : Settings} {sessionId : String} {chunkMs : UInt64}
    (hplan : session.plan = settings.plan sessionId chunkMs) :
    session.Overruns transport ↔ session.stats.peerClosed = false ∧
      clockSeconds ≤ (session.afterEndMark transport).clock / Nanos.perSecond +
        settings.session.drainWindowSecs.toNat := by
  have hwindow : session.plan.drainWindow =
      settings.session.drainWindowSecs.toNat * Nanos.perSecond := by
    rw [hplan]
    rfl
  rw [Overruns, hwindow, Nat.add_mul_div_right _ _ (by decide)]

/-- What the end of a session comes to, from every phase but the last one, with the plan of any
settings, over any transport.

It closes the transport, once, or it breaks off; and it breaks off on a short allowance, or
because the deadline of the drain window is later than a clock can hold.  The second is the
case exactly if the connection is open and the seconds of the window are too many, whatever the
allowance: the end mark was sent then, and the transport is not closed.  Whether settings are
accepted does not depend on the window.

In all other cases the transport is closed, if the allowance is large enough.  For that, each
drain has to end, and time has to pass: in the pauses between two looks, or in the receives. -/
theorem finish_closes (settings : Settings) (sessionId : String) (chunkMs : UInt64)
    (transport : Transport σ) (session : Session σ)
    (hplan : session.plan = settings.plan sessionId chunkMs)
    (hphase : session.phase.isFinal = false) :
    (∀ fuel, (session.finishCourse transport fuel).outcome = .ok () →
      Lived session [.draining, .closed] 1 (session.finishCourse transport fuel).session) ∧
    (∀ fuel halt, (session.finishCourse transport fuel).outcome = .error halt →
      Lived session [.draining] 0 (session.finishCourse transport fuel).session ∧
        (halt = .outOfSteps ∨ halt = .clockOverflow)) ∧
    (∀ fuel, (session.finishCourse transport fuel).outcome = .error .clockOverflow ↔
      session.stats.peerClosed = false ∧
        clockSeconds ≤ (session.afterEndMark transport).clock / Nanos.perSecond +
          settings.session.drainWindowSecs.toNat) ∧
    (∀ seconds, { settings with
        session := { settings.session with drainWindowSecs := seconds } }.check =
      settings.check) ∧
    (¬ (session.stats.peerClosed = false ∧
        clockSeconds ≤ (session.afterEndMark transport).clock / Nanos.perSecond +
          settings.session.drainWindowSecs.toNat) →
      0 < settings.session.drainPollIntervalMs.toNat ∨ transport.WaitsOut →
      DrainsEnd transport ((session.afterEndMark transport).clock + session.plan.drainWindow)
        (session.afterEndMark transport) →
      ∃ allowance after, ∀ fuel, allowance ≤ fuel →
        session.finishCourse transport fuel = .done () after) := by
  have hoverruns : session.Overruns transport ↔ session.stats.peerClosed = false ∧
      clockSeconds ≤ (session.afterEndMark transport).clock / Nanos.perSecond +
        settings.session.drainWindowSecs.toNat := overruns_iff hplan
  refine ⟨fun fuel hdone => ?_, fun fuel halt hhalt => ?_, fun fuel => ?_, fun _ => rfl,
    fun hfits htime hdrains => ?_⟩
  · rcases (finishes_finishCourse transport fuel hphase).lived with
      ⟨hlived, -⟩ | ⟨-, halt, hhalt⟩
    · exact hlived
    · simp [hdone] at hhalt
  · have hfinishes := finishes_finishCourse transport fuel hphase
    rcases hfinishes.lived with ⟨-, hdone⟩ | ⟨hlived, -⟩
    · simp [hhalt] at hdone
    · rw [hhalt] at hfinishes
      exact ⟨hlived, hfinishes.halt_cases⟩
  · exact (finishCourse_overflow_iff hphase fuel).trans hoverruns
  · refine exists_finishCourse_done hphase (mt hoverruns.mp hfits) ?_ hdrains
    rw [hplan]
    have hpoll : 0 < (SessionPlan.standard sessionId).pollTimeout :=
      Nat.mul_pos (by decide) (by decide)
    rcases htime with hinterval | hwaits
    · exact .inl (Nat.mul_pos hinterval (by decide))
    · exact .inr ⟨hpoll, hwaits⟩

end Session

/-! ## Over the post -/

theorem Letter.drainsEnd_post (deadline : Nanos) (start : Session (List Letter)) :
    Session.DrainsEnd Letter.post deadline start := by
  intro session _ _
  obtain ⟨frames, taken, drained, hdrain, -⟩ := Session.drainAfter_look Letter.punctual_post
    (session.peer.length + 1) 0 session (Nat.lt_succ_self _)
  refine ⟨session.peer.length + 1, ?_⟩
  rw [Session.drainCourse, hdrain]
  simp [Course.done]

namespace Settings

/-- A session of the usual settings that is finished over the post, with one letter to come. -/
theorem finish_closes_standard :
    ∃ allowance after, ∀ fuel, allowance ≤ fuel →
      (Session.start (standard.plan "usual" 100) .twoChunks
        [⟨Nanos.ofMillis 1500, SessionPlan.lateResult⟩]).finishCourse Letter.post fuel =
          .done () after ∧
      Session.Lived (Session.start (standard.plan "usual" 100) .twoChunks
        [⟨Nanos.ofMillis 1500, SessionPlan.lateResult⟩]) [.draining, .closed] 1 after := by
  obtain ⟨hcloses, -, -, -, hends⟩ := Session.finish_closes standard "usual" 100 Letter.post
    (Session.start (standard.plan "usual" 100) .twoChunks
      [⟨Nanos.ofMillis 1500, SessionPlan.lateResult⟩]) rfl rfl
  obtain ⟨allowance, after, hdone⟩ :=
    hends (by decide) (.inl (by decide)) (Letter.drainsEnd_post _ _)
  refine ⟨allowance, after, fun fuel hfuel => ⟨hdone fuel hfuel, ?_⟩⟩
  have hlived := hcloses allowance (by rw [hdone allowance (Nat.le_refl _)]; rfl)
  rw [hdone allowance (Nat.le_refl _)] at hlived
  exact hlived

/-- The usual settings with the longest drain window that can be asked for. -/
def endless : Settings :=
  { standard with session := { standard.session with drainWindowSecs := 18446744073709551615 } }

/-- Such settings are read from one variable and accepted.  The end of a session with them
breaks off after the end mark, on every allowance, and the transport is not closed. -/
theorem unclosed_endless :
    load none none [("HARNESS__SESSION__DRAIN_WINDOW_SECS", "18446744073709551615")] =
        .ok (.ok endless) ∧
      endless.check = .ok () ∧
      ∀ fuel, ((Session.start (endless.plan "endless" 100) .twoChunks []).finishCourse
          Letter.post fuel).outcome = .error .clockOverflow ∧
        (((Session.start (endless.plan "endless" 100) .twoChunks []).finishCourse
          Letter.post fuel).session.view Entry.endMark?).length = 1 ∧
        Journal.closings ((Session.start (endless.plan "endless" 100) .twoChunks []).finishCourse
          Letter.post fuel).session.scene.entries = 0 := by
  refine ⟨?_, by decide, fun fuel => ⟨rfl, rfl, rfl⟩⟩
  decide +kernel

end Settings
end SpeechProbe
