import SpeechProbe.Proofs.Session.Timing
import SpeechProbe.Proofs.Session.Trailing

/-!
# How long the drain window keeps a session

The deadline of the drain window is looked at between two drains, and never inside one.  A
drain ends only when a receive brings no text frame, so that a peer who always has another
text frame in time keeps one drain going for as long as it likes.

What holds is that a receive after the deadline is the work of the peer: each text frame
prolongs the window by one poll timeout at most (`Finishes.receivesBefore`).  Hence the window
bounds the receives of every session exactly for plans that do not look at all, or whose looks
take no time.
-/

namespace SpeechProbe

/-- A transport whose receives never last longer than they may. -/
def Transport.Prompt {σ : Type} (transport : Transport σ) : Prop :=
  ∀ peer now timeout, (transport.receive peer now timeout).elapsed ≤ timeout

theorem Letter.prompt_post : Letter.post.Prompt := by
  intro letters now timeout
  cases letters with
  | nil => exact Nat.le_refl timeout
  | cons letter rest =>
    by_cases hdue : letter.due ≤ now + timeout
    · simp only [post, hdue, if_true]
      lia
    · simp only [post, hdue, if_false]
      exact Nat.le_refl timeout

/-- The time at which a receive was issued. -/
def Entry.receiveTime? : Entry → Option Nanos
  | received time _ _ _ => some time
  | _ => none

instance : Entry.Blind Entry.receiveTime? where
  eq_none := by intro entry h; cases entry <;> simp_all [Entry.isBackground, Entry.receiveTime?]

/-- The times at which receives were issued, in order. -/
def Journal.receiveTimes (entries : List Entry) : List Nanos :=
  entries.filterMap Entry.receiveTime?

namespace Session

variable {σ : Type} {transport : Transport σ} {before after : Session σ}

/-! ## Text frames prolong a drain -/

/-- Between two moments every receive was issued before `limit`, prolonged by one poll timeout
for each text frame that came. -/
def ReceivesBefore (poll limit : Nanos) (before after : Session σ) : Prop :=
  ∃ entries, Scene.Grows before.scene after.scene entries ∧
    ∀ time ∈ Journal.receiveTimes entries,
      time < limit + (Journal.texts entries).length * poll

namespace ReceivesBefore

variable {poll limit : Nanos}

theorem trans {first second third : Session σ} (h : ReceivesBefore poll limit first second)
    (h' : ReceivesBefore poll limit second third) : ReceivesBefore poll limit first third := by
  obtain ⟨entries, hgrows, htimes⟩ := h
  obtain ⟨entries', hgrows', htimes'⟩ := h'
  refine ⟨_, hgrows.trans hgrows', fun time htime => ?_⟩
  have hlength : (Journal.texts (entries ++ entries')).length =
      (Journal.texts entries).length + (Journal.texts entries').length := by
    rw [Journal.texts, List.filterMap_append, List.length_append]
    rfl
  rw [Journal.receiveTimes, List.filterMap_append, List.mem_append] at htime
  rw [hlength, Nat.add_mul]
  rcases htime with htime | htime
  · have hlt := htimes time htime
    lia
  · have hlt := htimes' time htime
    lia

/-- Without a receive there is nothing to bound. -/
theorem of_view_eq (hgrows : Grows before after)
    (hview : after.view Entry.receiveTime? = before.view Entry.receiveTime?) :
    ReceivesBefore poll limit before after := by
  obtain ⟨entries, hgrows⟩ := hgrows
  have hnone : Journal.receiveTimes entries = [] :=
    Scene.filterMap_eq_nil_of_view hgrows.entries_eq hview
  refine ⟨entries, hgrows, fun time htime => ?_⟩
  rw [hnone] at htime
  exact absurd htime List.not_mem_nil

theorem refl (session : Session σ) : ReceivesBefore poll limit session session :=
  of_view_eq (.refl session) rfl

end ReceivesBefore

/-- A receive is over before its timeout is. -/
theorem clock_receive_le (hprompt : transport.Prompt) {timeout : Nanos}
    {result : Except Error Received}
    (h : before.receive transport timeout = (result, after)) :
    after.clock ≤ before.clock + timeout := by
  have hexchanged := exchanged_of_exchange h rfl
  rw [hexchanged.clock_eq]
  exact Nat.add_le_add_left (hprompt _ _ _) _

/-- A receive is issued at the time it is made. -/
theorem receivesBefore_receive {poll limit timeout : Nanos} {result : Except Error Received}
    (hearly : before.clock < limit) (h : before.receive transport timeout = (result, after)) :
    ReceivesBefore poll limit before after := by
  obtain ⟨_, hexchanged⟩ := exchanged_receive h
  obtain ⟨entries, hgrows⟩ := hexchanged.grows
  have htimes : Journal.receiveTimes entries = [before.clock] :=
    Scene.filterMap_eq_of_view hgrows.entries_eq (hexchanged.view_eq Entry.receiveTime?)
  refine ⟨entries, hgrows, fun time htime => ?_⟩
  rw [htimes, List.mem_singleton] at htime
  lia

/-- A text frame that came prolongs what follows it by one poll timeout. -/
theorem ReceivesBefore.of_text {poll limit timeout : Nanos} {received : Session σ} {text : String}
    (hearly : before.clock < limit)
    (h : before.receive transport timeout = (.ok (.text text), received))
    (hrest : ReceivesBefore poll (limit + poll) (received.accept text) after) :
    ReceivesBefore poll limit before after := by
  obtain ⟨_, hexchanged⟩ := exchanged_receive h
  obtain ⟨entries, hgrows⟩ := hexchanged.grows.trans (stays_accept text).grows
  obtain ⟨entries', hgrows', htimes'⟩ := hrest
  have htimes : Journal.receiveTimes entries = [before.clock] := by
    refine Scene.filterMap_eq_of_view hgrows.entries_eq ?_
    refine (view_accept_of_none Entry.receiveTime? (fun _ => rfl) text).trans ?_
    exact hexchanged.view_eq Entry.receiveTime?
  have htexts : Journal.texts entries = [text] :=
    Scene.filterMap_eq_of_view hgrows.entries_eq
      (books_text h (fun f _ => view_accept f text) (gains_accept _ text)).texts_eq
  refine ⟨_, hgrows.trans hgrows', fun time htime => ?_⟩
  have hlength : (Journal.texts (entries ++ entries')).length =
      (Journal.texts entries').length + 1 := by
    rw [Journal.texts, List.filterMap_append, List.length_append, Nat.add_comm]
    exact congrArg _ (congrArg List.length htexts)
  rw [Journal.receiveTimes, List.filterMap_append, List.mem_append] at htime
  rw [hlength, Nat.add_mul, Nat.one_mul]
  rcases htime with htime | htime
  · rw [← Journal.receiveTimes, htimes, List.mem_singleton] at htime
    lia
  · have hlt := htimes' time htime
    lia

/-- The receives of a drain go on for one poll timeout after each text frame. -/
theorem Drains.receivesBefore {out : Except Halt (Except Error Drained)}
    (hprompt : transport.Prompt) (h : Drains transport before out after) :
    ∀ limit, before.clock < limit → ReceivesBefore before.plan.pollTimeout limit before after := by
  induction h with
  | outOfSteps session => exact fun _ _ => .refl session
  | failed receive => exact fun limit hearly => receivesBefore_receive hearly receive
  | dry frames receive => exact fun limit hearly => receivesBefore_receive hearly receive
  | closed frames receive =>
    intro limit hearly
    refine .trans (receivesBefore_receive hearly receive) ?_
    exact .of_view_eq (stays_count _ _).grows rfl
  | @text session received after text _ receive rest ih =>
    intro limit hearly
    obtain ⟨_, hexchanged⟩ := exchanged_receive receive
    have hplan : (received.accept text).plan = session.plan :=
      (stays_accept text).plan_eq.trans hexchanged.plan_eq
    have hclock := clock_receive_le hprompt receive
    rw [clock_accept, hplan] at ih
    exact .of_text hearly receive (ih _ (Nat.lt_of_le_of_lt hclock (Nat.add_lt_add_right hearly _)))

/-- Every drain of the window begins before the deadline. -/
theorem Collects.receivesBefore {deadline : Nanos} {out : Except Halt Unit}
    (hprompt : transport.Prompt) (h : Collects transport deadline before out after) :
    ReceivesBefore before.plan.pollTimeout deadline before after := by
  induction h with
  | outOfSteps session => exact .refl session
  | past due => exact .refl _
  | broke early drain => exact drain.receivesBefore hprompt deadline early
  | failed early drain =>
    have hdrained := drain.receivesBefore hprompt deadline early
    exact hdrained.trans (.of_view_eq (keeps_note _ _).grows (view_note _ _ _))
  | closed early drain => exact drain.receivesBefore hprompt deadline early
  | @again _ drained _ _ _ early drain rest ih =>
    have hdrained := drain.receivesBefore hprompt deadline early
    have hwaited := waited_rest drained deadline
    rw [hwaited.plan_eq, drain.stays.plan_eq] at ih
    exact (hdrained.trans (.of_view_eq hwaited.grows (hwaited.view_eq _))).trans ih

/-- No drain begins when the window is over. -/
theorem Collects.view_eq_of_due {α : Type} {deadline : Nanos} {out : Except Halt Unit}
    (h : Collects transport deadline before out after) (hdue : deadline ≤ before.clock)
    (f : Entry → Option α) : after.view f = before.view f := by
  cases h with
  | outOfSteps session => rfl
  | past due => rfl
  | broke early drain => exact absurd hdue (Nat.not_le_of_lt early)
  | failed early drain => exact absurd hdue (Nat.not_le_of_lt early)
  | closed early drain => exact absurd hdue (Nat.not_le_of_lt early)
  | again early drain rest => exact absurd hdue (Nat.not_le_of_lt early)

/-! ## The end of a session -/

/-- The session once the end mark was sent, or failed to be. -/
def afterEndMark (transport : Transport σ) (session : Session σ) : Session σ :=
  (session.moveTo .draining).sendEnd transport

theorem plan_afterEndMark (transport : Transport σ) (session : Session σ) :
    (session.afterEndMark transport).plan = session.plan :=
  (stays_sendEnd transport _).plan_eq.trans (plan_moveTo session _)

theorem drainDeadline_eq {session : Session σ} {deadline : Nanos}
    (h : session.drainDeadline = .ok deadline) :
    deadline = session.clock + session.plan.drainWindow := by
  unfold drainDeadline at h
  dsimp only at h
  split at h
  · simp at h
  · exact (Except.ok.inj h).symm

section Unheard

variable {poll limit : Nanos} (transport : Transport σ) (session : Session σ)

theorem receivesBefore_moveTo (next : Phase) :
    ReceivesBefore poll limit session (session.moveTo next) :=
  .of_view_eq (grows_moveTo _ _) (view_moveTo _ _ _)

theorem receivesBefore_afterEndMark :
    ReceivesBefore poll limit session (session.afterEndMark transport) := by
  refine (receivesBefore_moveTo session .draining).trans ?_
  obtain ⟨_, _, hsent⟩ := view_sendEnd transport (session.moveTo .draining) Entry.receiveTime?
  exact .of_view_eq (stays_sendEnd _ _).grows (hsent.trans (List.append_nil _))

theorem receivesBefore_close :
    ReceivesBefore poll limit session (session.close transport) :=
  .of_view_eq (steady_grows.close transport session)
    (view_close_of_none transport _ (fun _ _ _ => rfl) session)

end Unheard

/-- Nothing is received at the end of a session but in its drain window. -/
theorem Finishes.receivesBefore_of_collects {poll limit : Nanos} {out : Except Halt Unit}
    (h : Finishes transport before out after)
    (hcollects : ∀ {deadline : Nanos} {out : Except Halt Unit} {last : Session σ},
      (before.afterEndMark transport).drainDeadline = .ok deadline →
        Collects transport deadline (before.afterEndMark transport) out last →
          ReceivesBefore poll limit (before.afterEndMark transport) last) :
    ReceivesBefore poll limit before after := by
  have hended : ReceivesBefore poll limit before (before.afterEndMark transport) :=
    receivesBefore_afterEndMark transport before
  cases h with
  | cut closed => exact (receivesBefore_moveTo before _).trans (receivesBefore_close transport _)
  | overflow open' deadline => exact hended
  | broke open' window collect => exact hended.trans (hcollects window collect)
  | collected open' window collect =>
    exact (hended.trans (hcollects window collect)).trans (receivesBefore_close transport _)

/-- The window, prolonged by one poll timeout for each text frame in it, bounds the receives at
the end of every session whose transport is prompt. -/
theorem Finishes.receivesBefore {out : Except Halt Unit} (hprompt : transport.Prompt)
    (h : Finishes transport before out after) :
    ReceivesBefore before.plan.pollTimeout
      ((before.afterEndMark transport).clock + before.plan.drainWindow) before after := by
  refine h.receivesBefore_of_collects fun hdeadline hcollect => ?_
  have hwindow := hcollect.receivesBefore hprompt
  rw [drainDeadline_eq hdeadline, plan_afterEndMark] at hwindow
  exact hwindow

/-- Without a window there is no receive at all. -/
theorem Finishes.receivesBefore_of_closed {poll limit : Nanos} {out : Except Halt Unit}
    (h : Finishes transport before out after) (hclosed : before.plan.drainWindow = 0) :
    ReceivesBefore poll limit before after := by
  refine h.receivesBefore_of_collects fun {deadline} _ _ hdeadline hcollect => ?_
  have hdue : deadline ≤ (before.afterEndMark transport).clock := by
    rw [drainDeadline_eq hdeadline, plan_afterEndMark, hclosed]
    exact Nat.le_refl _
  exact .of_view_eq hcollect.stays.grows (hcollect.view_eq_of_due hdue _)

/-- Without a window, or with looks that take no time, the window bounds every receive. -/
theorem receivesBefore_finishCourse (session : Session σ) (hprompt : transport.Prompt)
    (fuel : Nat) (htight : session.plan.drainWindow = 0 ∨ session.plan.pollTimeout = 0) :
    ReceivesBefore 0 ((session.afterEndMark transport).clock + session.plan.drainWindow) session
      (session.finishCourse transport fuel).session := by
  cases hphase : session.phase.isFinal with
  | true =>
    simp only [finishCourse, hphase, if_true]
    exact .refl session
  | false =>
    have hfinishes := finishes_finishCourse transport fuel hphase
    rcases htight with hclosed | hinstant
    · exact hfinishes.receivesBefore_of_closed hclosed
    · have hwindow := hfinishes.receivesBefore hprompt
      rw [hinstant] at hwindow
      exact hwindow

/-! ## A peer that keeps talking -/

/-- A drain goes on until shortly after its last receive was issued. -/
theorem Drains.exists_receive {out : Except Halt (Except Error Drained)}
    (hprompt : transport.Prompt) (h : Drains transport before out after) :
    ∀ outcome, out = .ok outcome → ∃ time ∈ after.view Entry.receiveTime?,
      after.clock ≤ time + before.plan.pollTimeout := by
  have hlast : ∀ {before after : Session σ} {result : Except Error Received},
      before.receive transport before.plan.pollTimeout = (result, after) →
        ∃ time ∈ after.view Entry.receiveTime?,
          after.clock ≤ time + before.plan.pollTimeout := by
    intro before after result receive
    obtain ⟨_, hexchanged⟩ := exchanged_receive receive
    refine ⟨before.clock, ?_, clock_receive_le hprompt receive⟩
    rw [hexchanged.view_eq]
    exact List.mem_append_right _ (List.mem_singleton_self _)
  induction h with
  | outOfSteps session => simp
  | failed receive => exact fun _ _ => hlast receive
  | dry frames receive => exact fun _ _ => hlast receive
  | closed frames receive =>
    intro _ _
    have hreceived := hlast receive
    exact hreceived
  | @text session received _ text _ receive rest ih =>
    intro outcome hout
    obtain ⟨_, hexchanged⟩ := exchanged_receive receive
    rw [(stays_accept text).plan_eq, hexchanged.plan_eq] at ih
    exact ih outcome hout

theorem Grows.mem_view {α : Type} {f : Entry → Option α} {seen : α} (h : Grows before after)
    (hseen : seen ∈ before.view f) : seen ∈ after.view f := by
  obtain ⟨entries, hgrows⟩ := h
  rw [view, Scene.view_of_entries hgrows.entries_eq]
  exact List.mem_append_left _ hseen

/-- Collecting goes on from where its first drain ran dry. -/
theorem grows_collectUntil {deadline : Nanos} {fuel frames : Nat} {session drained : Session σ}
    (hearly : session.clock < deadline)
    (hdrain : session.drainCourse transport fuel = .done (.ok (.dry frames)) drained) :
    Grows drained (collectUntil transport deadline (fuel + 1) session).session := by
  have hstep : collectUntil transport deadline (fuel + 1) session =
      collectUntil transport deadline fuel (drained.rest deadline) := by
    rw [collectUntil, if_neg (Nat.not_le_of_lt hearly), look, hdrain]
    rfl
  have hcollects := collects_collectUntil transport deadline fuel (drained.rest deadline)
  rw [hstep]
  exact (waited_rest drained deadline).grows.trans hcollects.stays.grows

theorem grows_andThen_close (transport : Transport σ) (course : Course σ Unit) :
    Grows course.session
      (course.andThen fun _ session => .done () (session.close transport)).session := by
  rcases course with ⟨halt | _, last⟩
  · exact .refl last
  · exact steady_grows.close transport last

/-- A session over a prompt and punctual transport issues a receive shortly before its first
look for trailing results is over, however late that is. -/
theorem Ended.exists_receive {mail : σ → List Letter} {session ended : Session σ}
    {taken left : List Letter} {heard : Nanos} (h : Ended transport mail session ended)
    (hprompt : transport.Prompt) (hopen : 0 < session.plan.drainWindow)
    (hlook : Look session.plan.pollTimeout ended.clock (mail ended.peer) taken heard left) :
    ∃ fuel, ∃ time ∈ (session.finishCourse transport fuel).session.view Entry.receiveTime?,
      heard ≤ time + session.plan.pollTimeout := by
  obtain ⟨frames, taken', drained, hdrain, hlook', _⟩ := drainAfter_look h.punctual
    ((mail ended.peer).length + 1) 0 ended.marked (Nat.lt_succ_self _)
  rw [plan_marked, h.plan_eq] at hlook'
  have hdrains := drains_drainAfter transport ((mail ended.peer).length + 1) 0 ended.marked
  rw [hdrain] at hdrains
  obtain ⟨time, htime, hlast⟩ := hdrains.exists_receive hprompt _ rfl
  have hearly : ended.marked.clock < ended.clock + session.plan.drainWindow :=
    Nat.lt_add_of_pos_right hopen
  have hcollects := (grows_collectUntil hearly hdrain).trans (grows_andThen_close transport _)
  refine ⟨(mail ended.peer).length + 2, time, ?_, ?_⟩
  · rw [h.finishCourse_eq]
    exact hcollects.mem_view htime
  · rw [plan_marked, h.plan_eq] at hlast
    rw [hlook.unique hlook' |>.2.1]
    exact hlast

end Session

/-- At the end of every session with this plan, whatever its transport does as long as it is
prompt, no receive is issued later than `slack` after the end mark. -/
def SessionPlan.FallsSilentWithin (plan : SessionPlan) (slack : Nanos) : Prop :=
  ∀ (σ : Type) (transport : Transport σ) (session : Session σ), session.plan = plan →
    transport.Prompt → ∀ fuel, ∃ entries,
      (session.finishCourse transport fuel).session.scene.entries =
        session.scene.entries ++ entries ∧
      ∀ time ∈ Journal.receiveTimes entries, time ≤ (session.afterEndMark transport).clock + slack

namespace SessionPlan

variable {plan : SessionPlan} {slack : Nanos}

/-- Letters one poll timeout apart prolong the first drain beyond any slack. -/
theorem not_fallsSilentWithin (hopen : 0 < plan.drainWindow) (hpoll : 0 < plan.pollTimeout)
    (hclock : plan.drainWindow / Nanos.perSecond < Session.clockSeconds) :
    ¬ plan.FallsSilentWithin slack := by
  intro hsilent
  -- The first drain is to end more than one poll timeout after the slack is used up.
  obtain ⟨time, htime⟩ : ∃ time, time = slack + plan.pollTimeout + 1 := ⟨_, rfl⟩
  obtain ⟨last, hlast⟩ : ∃ last : Letter, last = ⟨time + 1, lateResult⟩ := ⟨_, rfl⟩
  have hpollTime : plan.pollTimeout ≤ time := by lia
  have hlate : time < last.due := by
    rw [hlast]
    exact Nat.lt_succ_self time
  have hwindow : (Scene.twoChunks.clock + plan.drainWindow) / Nanos.perSecond <
      Session.clockSeconds := by
    rw [show Scene.twoChunks.clock + plan.drainWindow = plan.drainWindow from Nat.zero_add _]
    exact hclock
  have horder := Letter.inOrder_prolonging lateResult hpollTime hlate
  have hlook := Letter.look_prolonging lateResult hpoll hpollTime hlate
  obtain ⟨letters, hletters⟩ : ∃ letters, letters =
    Letter.prolonging plan.pollTimeout time lateResult ++ [last] := ⟨_, rfl⟩
  rw [← hletters] at horder hlook
  obtain ⟨ended, hended, hpeer, hstart⟩ := Session.ended_post plan Scene.twoChunks horder hwindow
  have hzero : ended.clock = 0 := hstart
  rw [← hpeer, ← hzero] at hlook
  obtain ⟨fuel, issued, hissued, hlong⟩ := hended.exists_receive Letter.prompt_post hopen hlook
  obtain ⟨entries, hentries, htimes⟩ :=
    hsilent _ Letter.post (Session.start plan Scene.twoChunks letters) rfl Letter.prompt_post fuel
  rw [Session.view, Scene.view, hentries] at hissued
  have hbound := htimes issued hissued
  rw [Session.afterEndMark, hended.sendEnd_eq, Session.clock_marked, hzero] at hbound
  have hheard : time ≤ issued + plan.pollTimeout := hlong
  lia

/-- A plan bounds the time for which a session listens after the end mark exactly if the session
does not listen at all, or without waiting: then the window itself is the bound.  Otherwise no
slack is enough, since a peer that always has another text frame in time keeps the session in
its first drain. -/
theorem fallsSilentWithin_iff (plan : SessionPlan) (slack : Nanos)
    (hslack : plan.drainWindow ≤ slack)
    (hclock : plan.drainWindow / Nanos.perSecond < Session.clockSeconds) :
    plan.FallsSilentWithin slack ↔ plan.drainWindow = 0 ∨ plan.pollTimeout = 0 := by
  constructor
  · intro hsilent
    by_cases hopen : plan.drainWindow = 0
    · exact .inl hopen
    · refine .inr (Nat.eq_zero_of_not_pos fun hpoll => ?_)
      exact not_fallsSilentWithin (Nat.pos_of_ne_zero hopen) hpoll hclock hsilent
  · rintro htight σ transport session rfl hprompt fuel
    obtain ⟨entries, hgrows, htimes⟩ :=
      session.receivesBefore_finishCourse hprompt fuel htight
    refine ⟨entries, hgrows.entries_eq, fun time htime => ?_⟩
    have hlt := htimes time htime
    lia

/-- The usual parameters bound nothing, also if the pause between two looks is allowed for;
looks without a timeout would be over when the window is. -/
theorem fallsSilentWithin_standard :
    ((standard "usual").pollTimeout ≤ (standard "usual").pollInterval ∧
        ¬ (standard "usual").FallsSilentWithin
          ((standard "usual").drainWindow + (standard "usual").pollInterval)) ∧
      { standard "usual" with pollTimeout := 0 }.FallsSilentWithin
        (standard "usual").drainWindow := by
  refine ⟨⟨by decide, ?_⟩, ?_⟩
  · intro hsilent
    have htight := (fallsSilentWithin_iff (standard "usual")
      ((standard "usual").drainWindow + (standard "usual").pollInterval) (by decide)
      (by decide)).mp hsilent
    exact absurd htight (by decide)
  · exact (fallsSilentWithin_iff { standard "usual" with pollTimeout := 0 }
      (standard "usual").drainWindow (by decide) (by decide)).mpr (by decide)

end SessionPlan

/-- The time at which the end mark was answered. -/
def Entry.endTime? : Entry → Option Nanos
  | sentMessage time .finished elapsed _ => some (time + elapsed)
  | _ => none

/-- A peer that has ten results to report after the end mark, one every 40 ms. -/
def Script.chatty : Script :=
  { Script.talkative with
    onEnd := List.replicate 10 ⟨Nanos.ofMillis 40, .text SessionPlan.lateResult⟩
    afterChunk := [] }

/-- A short drain window, with looks that may last as long as the pauses between them. -/
def SessionPlan.patient : SessionPlan :=
  { SessionPlan.standard "patient" with
    pollTimeout := Nanos.ofMillis 50
    drainWindow := Nanos.ofMillis 100
    pollInterval := Nanos.ofMillis 50 }

/-- The end mark is answered at 100 ms, and the window with one pause is over at 250 ms.  All ten
results are waited for, with one receive after the other until 500 ms. -/
theorem overrun_chatty :
    let entries := ((Session.start .patient (.ofSource (.recording (.ofSamples [⟨0⟩] 10)))
      (.ofScript .chatty)).runCourse Rehearsal.transport 20).session.scene.entries
    SessionPlan.patient.pollTimeout ≤ SessionPlan.patient.pollInterval ∧
      entries.filterMap Entry.endTime? = [Nanos.ofMillis 100] ∧
      (Journal.receiveTimes entries).map Nanos.toMillis =
        [0, 0, 100, 140, 180, 220, 260, 300, 340, 380, 420, 460, 500] ∧
      ∃ time ∈ Journal.receiveTimes entries, Nanos.ofMillis 100 +
        SessionPlan.patient.drainWindow + SessionPlan.patient.pollInterval < time := by
  decide +kernel

end SpeechProbe
