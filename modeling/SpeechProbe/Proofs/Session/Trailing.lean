import Mathlib.Data.List.Basic
import SpeechProbe.Proofs.Letters
import SpeechProbe.Proofs.Session.Accounting

/-!
# Trailing results

After the end mark a session looks for results until its drain window is over.  Over a
punctual transport the looks are those of `Looks`: a result is taken exactly when it arrives
by the end of the last look.  The pause after that look lasts until the window is over, and
no look follows it, so that results which arrive during the pause are lost although the
window is still open.

A plan keeps all trailing results, whenever they arrive, only if there is no time to lose
any: no pause of more than one nanosecond, or no window beyond the first look.  What arrives one
pause before the end of the window or earlier is taken with every plan (`Takes.mem_of_early`).
-/

namespace SpeechProbe
namespace Session

variable {σ : Type} {transport : Transport σ} {mail : σ → List Letter} {session : Session σ}

/-! ## Receives -/

/-- A receive takes a letter that comes in time, and is over when it is there. -/
theorem receive_letter (hpunctual : transport.Punctual mail) {letter : Letter}
    {rest : List Letter} {timeout : Nanos} (hmail : mail session.peer = letter :: rest)
    (hdue : letter.due ≤ session.clock + timeout) :
    ∃ received, session.receive transport timeout = (.ok (.text letter.text), received) ∧
      mail received.peer = rest ∧ received.clock = max session.clock letter.due := by
  obtain ⟨hresult, helapsed, hstate⟩ := hpunctual.delivers session.clock timeout hmail hdue
  obtain ⟨received, hreceive, hpeer, hexchanged⟩ := exchange_eq session
    (.received session.clock timeout) (transport.receive session.peer session.clock timeout) rfl
  refine ⟨received, ?_, ?_, ?_⟩
  · rw [← hresult]
    exact hreceive
  · rw [hpeer]
    exact hstate
  · rw [hexchanged.clock_eq, helapsed]
    lia

/-- A receive to which nothing comes lasts for its whole timeout. -/
theorem receive_silence (hpunctual : transport.Punctual mail) {timeout : Nanos}
    (hlate : ∀ letter ∈ (mail session.peer).head?, session.clock + timeout < letter.due) :
    ∃ after, session.receive transport timeout = (.ok .timeout, after) ∧
      mail after.peer = mail session.peer ∧ after.clock = session.clock + timeout := by
  obtain ⟨hresult, helapsed, hstate⟩ := hpunctual.waits session.clock timeout hlate
  obtain ⟨after, hreceive, hpeer, hexchanged⟩ := exchange_eq session
    (.received session.clock timeout) (transport.receive session.peer session.clock timeout) rfl
  refine ⟨after, ?_, ?_, ?_⟩
  · rw [← hresult]
    exact hreceive
  · rw [hpeer]
    exact hstate
  · rw [hexchanged.clock_eq, helapsed]

/-! ## Looks -/

/-- A drain over a punctual transport is a look, and runs dry. -/
theorem drainAfter_look (hpunctual : transport.Punctual mail) (fuel frames : Nat)
    (session : Session σ) (hfuel : (mail session.peer).length < fuel) :
    ∃ frames' taken drained,
      drainAfter transport fuel frames session = .done (.ok (.dry frames')) drained ∧
      Look session.plan.pollTimeout session.clock (mail session.peer) taken drained.clock
        (mail drained.peer) ∧
      drained.view Entry.text? = session.view Entry.text? ++ taken.map Letter.text := by
  induction fuel generalizing frames session with
  | zero => exact absurd hfuel (Nat.not_lt_zero _)
  | succ fuel ih =>
    by_cases hnext : ∃ letter ∈ (mail session.peer).head?,
        letter.due ≤ session.clock + session.plan.pollTimeout
    · obtain ⟨letter, hhead, hdue⟩ := hnext
      obtain ⟨rest, hletters⟩ := List.head?_eq_some_iff.mp hhead
      obtain ⟨received, hreceive, hmail, hclock⟩ := receive_letter hpunctual hletters hdue
      obtain ⟨_, hexchanged⟩ := exchanged_receive hreceive
      have hplan : (received.accept letter.text).plan = session.plan :=
        (stays_accept letter.text).plan_eq.trans hexchanged.plan_eq
      have hshort : (mail (received.accept letter.text).peer).length < fuel := by
        rw [peer_accept, hmail]
        rw [hletters, List.length_cons] at hfuel
        omega
      obtain ⟨frames', taken, drained, hdrain, hlook, htexts⟩ :=
        ih (frames + 1) (received.accept letter.text) hshort
      rw [hplan, clock_accept, hclock, peer_accept, hmail] at hlook
      refine ⟨frames', letter :: taken, drained, ?_, ?_, ?_⟩
      · simp only [drainAfter, hreceive, hdrain]
      · rw [hletters]
        exact .letter hdue hlook
      · have htext := books_text hreceive (fun f _ => view_accept f letter.text)
          (gains_accept _ letter.text)
        rw [htexts, htext.texts_eq, List.append_assoc]
        rfl
    · have hlate : ∀ letter ∈ (mail session.peer).head?,
          session.clock + session.plan.pollTimeout < letter.due := by
        intro letter hhead
        exact Nat.lt_of_not_le fun hdue => hnext ⟨letter, hhead, hdue⟩
      obtain ⟨drained, hreceive, hmail, hclock⟩ := receive_silence hpunctual hlate
      refine ⟨frames, [], drained, ?_, ?_, ?_⟩
      · simp only [drainAfter, hreceive]
      · rw [hmail, hclock]
        exact .silence hlate
      · exact (books_receive hreceive (by simp)).texts_eq

/-- Collecting over a punctual transport consists of looks, and comes to its end. -/
theorem collectUntil_looks (hpunctual : transport.Punctual mail) (deadline : Nanos) (fuel : Nat)
    (session : Session σ) (hpoll : 0 < session.plan.pollTimeout)
    (hearly : session.clock < deadline)
    (hfuel : (mail session.peer).length + (deadline - session.clock) < fuel) :
    ∃ taken heard after, collectUntil transport deadline fuel session = .done () after ∧
      Looks session.plan.pollTimeout session.plan.pollInterval deadline session.clock
        (mail session.peer) taken heard (mail after.peer) ∧
      after.view Entry.text? = session.view Entry.text? ++ taken.map Letter.text := by
  induction fuel generalizing session with
  | zero => exact absurd hfuel (Nat.not_lt_zero _)
  | succ fuel ih =>
    have hroom : (mail session.peer).length < fuel := by lia
    obtain ⟨frames, taken, drained, hdrain, hlook, htexts⟩ :=
      drainAfter_look hpunctual fuel 0 session hroom
    have hdrains := drains_drainAfter transport fuel 0 session
    rw [hdrain] at hdrains
    have hplan : drained.plan = session.plan := hdrains.stays.plan_eq
    have hheard := hlook.le_heard
    have hstep : collectUntil transport deadline (fuel + 1) session =
        collectUntil transport deadline fuel (drained.rest deadline) := by
      rw [collectUntil, if_neg (Nat.not_le_of_lt hearly), look, drainCourse, hdrain]
      rfl
    have hrested := (waited_rest drained deadline).view_eq Entry.text?
    have hclock := clock_rest drained deadline
    rw [hplan] at hclock
    by_cases hover : deadline ≤ drained.clock + session.plan.pollInterval
    · refine ⟨taken, drained.clock, drained.rest deadline, ?_, .last hlook hover, ?_⟩
      · have hdue : deadline ≤ (drained.rest deadline).clock := by lia
        obtain ⟨fuel, rfl⟩ : ∃ n, fuel = n + 1 := ⟨fuel - 1, by omega⟩
        rw [hstep, collectUntil, if_pos hdue]
      · rw [hrested, htexts]
    · have hagain : (drained.rest deadline).clock =
          drained.clock + session.plan.pollInterval := by lia
      have hletters := congrArg List.length hlook.letters_eq
      rw [List.length_append] at hletters
      have hpoll' : 0 < (drained.rest deadline).plan.pollTimeout := by
        show 0 < drained.plan.pollTimeout
        rw [hplan]
        exact hpoll
      have hearly' : (drained.rest deadline).clock < deadline := by lia
      have hfuel' : (mail drained.peer).length + (deadline - (drained.rest deadline).clock) <
          fuel := by lia
      obtain ⟨taken', heard, after, hcollect, hlooks, htexts'⟩ :=
        ih (drained.rest deadline) hpoll' hearly' hfuel'
      rw [hagain] at hlooks
      refine ⟨taken ++ taken', heard, after, hstep.trans hcollect, ?_, ?_⟩
      · refine .more hlook (Nat.lt_of_not_le hover) ?_
        rw [← hplan] at hlooks ⊢
        exact hlooks
      · rw [htexts', hrested, htexts, List.map_append, List.append_assoc]

end Session

/-! ## The drain window -/

/-- What is taken in the drain window of a plan, if the end mark was sent at `sentAt` with
these letters on their way. -/
inductive SessionPlan.Takes (plan : SessionPlan) (sentAt : Nanos) (letters : List Letter) :
    List Letter → Prop where
  | nothing (window : plan.drainWindow = 0) : plan.Takes sentAt letters []
  | looks {taken left : List Letter} {heard : Nanos} (window : 0 < plan.drainWindow)
      (looks : Looks plan.pollTimeout plan.pollInterval (sentAt + plan.drainWindow) sentAt
        letters taken heard left) : plan.Takes sentAt letters taken

namespace Session

variable {σ : Type} {transport : Transport σ} {mail : σ → List Letter}
  {session ended : Session σ}

/-- A session that was neither cut off nor closed has sent the end mark over a punctual
transport, at a time from which a clock can hold the end of the drain window. -/
structure Ended (transport : Transport σ) (mail : σ → List Letter) (session ended : Session σ) :
    Prop where
  punctual : transport.Punctual mail
  phase : session.phase.isFinal = false
  uncut : session.stats.peerClosed = false
  send : (session.moveTo .draining).sendMessage transport .finished = (.ok (), ended)
  inOrder : Letter.InOrder (mail ended.peer)
  window : (ended.clock + session.plan.drainWindow) / Nanos.perSecond < clockSeconds

/-- The session once the end mark is counted as sent. -/
def marked (session : Session σ) : Session σ :=
  session.count fun stats => { stats with endSent := true }

@[simp] theorem plan_marked (session : Session σ) : session.marked.plan = session.plan := rfl

@[simp] theorem clock_marked (session : Session σ) : session.marked.clock = session.clock := rfl

@[simp] theorem peer_marked (session : Session σ) : session.marked.peer = session.peer := rfl

namespace Ended

theorem sendEnd_eq (h : Ended transport mail session ended) :
    (session.moveTo .draining).sendEnd transport = ended.marked := by
  rw [sendEnd, h.send, marked]

theorem plan_eq (h : Ended transport mail session ended) : ended.plan = session.plan := by
  obtain ⟨_, hexchanged⟩ := exchanged_sendMessage h.send
  rw [hexchanged.plan_eq, plan_moveTo]

theorem phase_eq (h : Ended transport mail session ended) : ended.phase = .draining := by
  obtain ⟨_, hexchanged⟩ := exchanged_sendMessage h.send
  exact hexchanged.phase_eq

theorem finishCourse_eq (h : Ended transport mail session ended) (fuel : Nat) :
    session.finishCourse transport fuel =
      (collectUntil transport (ended.clock + session.plan.drainWindow) fuel
        ended.marked).andThen fun _ session => .done () (session.close transport) := by
  have hdeadline : ended.marked.drainDeadline =
      .ok (ended.clock + session.plan.drainWindow) := by
    rw [drainDeadline, plan_marked, h.plan_eq]
    exact if_neg (Nat.not_le_of_lt h.window)
  simp only [finishCourse, h.phase, stats_moveTo, h.uncut, h.sendEnd_eq, hdeadline,
    Bool.false_eq_true, if_false]

/-- With a step for each letter and each nanosecond of the window, collecting ends. -/
theorem collects (h : Ended transport mail session ended) (hpoll : 0 < session.plan.pollTimeout)
    {fuel : Nat} (hfuel : (mail ended.peer).length + session.plan.drainWindow < fuel) :
    ∃ taken after,
      collectUntil transport (ended.clock + session.plan.drainWindow) fuel ended.marked =
        .done () after ∧
      session.plan.Takes ended.clock (mail ended.peer) taken ∧
      after.view Entry.text? = ended.view Entry.text? ++ taken.map Letter.text := by
  by_cases hwindow : session.plan.drainWindow = 0
  · refine ⟨[], ended.marked, ?_, .nothing hwindow, (List.append_nil _).symm⟩
    have hdue : ended.clock + session.plan.drainWindow ≤ ended.marked.clock := by
      rw [hwindow, clock_marked]
      exact Nat.le_refl _
    obtain ⟨fuel, rfl⟩ : ∃ n, fuel = n + 1 := ⟨fuel - 1, by lia⟩
    rw [collectUntil, if_pos hdue]
  · have hopen := Nat.pos_of_ne_zero hwindow
    have hpoll' : 0 < ended.marked.plan.pollTimeout := by
      rw [plan_marked, h.plan_eq]
      exact hpoll
    have hearly : ended.marked.clock < ended.clock + session.plan.drainWindow := by
      rw [clock_marked]
      exact Nat.lt_add_of_pos_right hopen
    have hfuel' : (mail ended.marked.peer).length +
        (ended.clock + session.plan.drainWindow - ended.marked.clock) < fuel := by
      rw [peer_marked, clock_marked, Nat.add_sub_cancel_left]
      exact hfuel
    obtain ⟨taken, heard, after, hcollect, hlooks, htexts⟩ :=
      collectUntil_looks h.punctual _ fuel ended.marked hpoll' hearly hfuel'
    rw [plan_marked, h.plan_eq] at hlooks
    exact ⟨taken, after, hcollect, .looks hopen hlooks, htexts⟩

end Ended

/-- Collecting does not close the transport. -/
theorem Collects.unclosed {deadline : Nanos} {before after : Session σ}
    {outcome : Except Halt Unit} (h : Collects transport deadline before outcome after) :
    after.view Entry.closing? = before.view Entry.closing? := by
  have hpassive := passive_view_eq (σ := σ) Entry.closing? (fun _ => rfl) (fun _ _ _ _ => rfl)
    (fun _ _ _ _ => rfl)
  exact hpassive.collects h

theorem entries_close (transport : Transport σ) (h : session.phase.isFinal = false) :
    ∃ elapsed result rest, (session.close transport).scene.entries =
      session.scene.entries ++ .closed session.clock elapsed result :: rest := by
  obtain ⟨closed, result, elapsed, hexchanged, hclose⟩ := close_spec transport h
  obtain ⟨entries, hpassage⟩ := hexchanged.passage
  have hgrows : Grows closed (session.close transport) := by
    rcases hclose with hclose | ⟨note, hclose⟩
    · rw [hclose]
      exact grows_moveTo closed _
    · rw [hclose]
      exact (keeps_note closed note).grows.trans (grows_moveTo _ _)
  obtain ⟨entries', hentries'⟩ := hgrows
  refine ⟨elapsed, result, entries ++ entries', ?_⟩
  rw [hentries'.entries_eq, hpassage.entries_eq, Scene.entries_record]
  simp only [List.append_assoc, List.cons_append, List.nil_append]

/-- Finishing over a punctual transport returns, and before the transport is closed the
listener was called for exactly the letters that the looks took. -/
theorem Ended.finish (h : Ended transport mail session ended)
    (hpoll : 0 < session.plan.pollTimeout) {fuel : Nat}
    (hfuel : (mail ended.peer).length + session.plan.drainWindow < fuel) :
    ∃ after entries taken, session.finish transport fuel = .ok after ∧
      after.scene.entries = ended.scene.entries ++ entries ∧
      session.plan.Takes ended.clock (mail ended.peer) taken ∧
      Journal.texts (Journal.beforeClose entries) = taken.map Letter.text ∧
      Journal.calls (Journal.beforeClose entries) =
        (taken.map Letter.text).filterMap Call.ofText? := by
  obtain ⟨taken, collected, hcollect, htakes, htexts⟩ := h.collects hpoll hfuel
  have hcollects : Collects transport (ended.clock + session.plan.drainWindow) ended.marked
      (.ok ()) collected := by
    have hcourse := collects_collectUntil transport (ended.clock + session.plan.drainWindow) fuel
      ended.marked
    rw [hcollect] at hcourse
    exact hcourse
  have hphase : collected.phase.isFinal = false := by
    rw [hcollects.stays.phase_eq]
    exact congrArg Phase.isFinal h.phase_eq
  obtain ⟨entries, hgrows⟩ := hcollects.stays.grows
  obtain ⟨elapsed, result, rest, hclose⟩ := entries_close transport hphase
  have hclosing : entries.filterMap Entry.closing? = [] :=
    Scene.filterMap_eq_nil_of_view hgrows.entries_eq hcollects.unclosed
  obtain ⟨texts, hbooks⟩ := hcollects.books
  have htaken : texts = taken.map Letter.text :=
    List.append_cancel_left (hbooks.texts_eq.symm.trans htexts)
  rw [htaken] at hbooks
  refine ⟨collected.close transport, entries ++ .closed collected.clock elapsed result :: rest,
    taken, ?_, ?_, htakes, ?_, ?_⟩
  · rw [Session.finish, h.finishCourse_eq, hcollect]
    rfl
  · rw [hclose, hgrows.entries_eq, List.append_assoc]
    rfl
  · rw [Journal.beforeClose_eq rest hclosing]
    exact Scene.filterMap_eq_of_view hgrows.entries_eq hbooks.texts_eq
  · rw [Journal.beforeClose_eq rest hclosing]
    exact Scene.filterMap_eq_of_view hgrows.entries_eq hbooks.calls_eq

/-! ## Plans that keep trailing results -/

/-- Before the transport was closed, the listener was called for every letter that arrived
while the window was open, in order.  A letter that does not decode calls for nothing. -/
def Heeds (ended after : Session σ) (letters : List Letter) : Prop :=
  ∃ entries, after.scene.entries = ended.scene.entries ++ entries ∧
    (((letters.filter fun letter => letter.due < ended.clock + ended.plan.drainWindow).map
      Letter.text).filterMap Call.ofText?).Sublist (Journal.calls (Journal.beforeClose entries))

end Session

/-- Whatever arrives in the drain window reaches the listener: over every punctual transport,
with every schedule of letters, from every session that has sent the end mark. -/
def SessionPlan.KeepsTrailing (plan : SessionPlan) : Prop :=
  ∀ (σ : Type) (transport : Transport σ) (mail : σ → List Letter) (session ended : Session σ),
    session.plan = plan → session.Ended transport mail ended →
      ∀ fuel, (mail ended.peer).length + plan.drainWindow < fuel →
        ∃ after, session.finish transport fuel = .ok after ∧ ended.Heeds after (mail ended.peer)

namespace SessionPlan

variable {plan : SessionPlan} {sentAt : Nanos} {letters taken : List Letter}

/-- In an open window exactly those letters are taken that arrive by the end of the last look.
That look ends after one timeout at least, and at most one pause before the window does. -/
theorem Takes.exists_heard (h : plan.Takes sentAt letters taken)
    (horder : Letter.InOrder letters) (hopen : 0 < plan.drainWindow) :
    ∃ heard, taken = letters.filter (fun letter => letter.due ≤ heard) ∧
      sentAt + plan.pollTimeout ≤ heard ∧
      sentAt + plan.drainWindow ≤ heard + plan.pollInterval := by
  cases h with
  | nothing window => exact absurd window (Nat.ne_of_gt hopen)
  | @looks _ left heard window looks =>
    exact ⟨heard, looks.taken_eq horder, looks.le_heard, looks.deadline_le⟩

/-- Whatever the plan, a letter is taken that arrives one pause before the end of the window or
earlier. -/
theorem Takes.mem_of_early (h : plan.Takes sentAt letters taken)
    (horder : Letter.InOrder letters) (hopen : 0 < plan.drainWindow) {letter : Letter}
    (hletter : letter ∈ letters)
    (hearly : letter.due + plan.pollInterval ≤ sentAt + plan.drainWindow) : letter ∈ taken := by
  obtain ⟨heard, rfl, _, hlast⟩ := h.exists_heard horder hopen
  have hheard : letter.due ≤ heard := by lia
  exact List.mem_filter.mpr ⟨hletter, decide_eq_true hheard⟩

/-- With no pause to speak of, or no time after the first look, every letter of the window is
taken. -/
theorem Takes.filter_sublist (h : plan.Takes sentAt letters taken)
    (horder : Letter.InOrder letters) (hopen : 0 < plan.drainWindow)
    (htight : plan.pollInterval ≤ 1 ∨ plan.drainWindow ≤ plan.pollTimeout + 1) :
    (letters.filter fun letter => letter.due < sentAt + plan.drainWindow).Sublist taken := by
  obtain ⟨heard, rfl, hfirst, hlast⟩ := h.exists_heard horder hopen
  apply List.monotone_filter_right
  intro letter hletter
  have hdue : letter.due < sentAt + plan.drainWindow := of_decide_eq_true hletter
  have hheard : letter.due ≤ heard := by
    rcases htight with hpause | hwindow <;> lia
  exact decide_eq_true hheard

end SessionPlan

namespace Session

variable {σ : Type} {transport : Transport σ} {mail : σ → List Letter}
  {session ended : Session σ}

/-- A listener that is called for the letters of the window is called for no fewer letters
than the looks take. -/
theorem Ended.heeds_of_sublist (h : Ended transport mail session ended) {after : Session σ}
    {entries : List Entry} {taken : List Letter}
    (hentries : after.scene.entries = ended.scene.entries ++ entries)
    (hcalls : Journal.calls (Journal.beforeClose entries) =
      (taken.map Letter.text).filterMap Call.ofText?)
    (hsublist : ((mail ended.peer).filter fun letter =>
      letter.due < ended.clock + session.plan.drainWindow).Sublist taken) :
    ended.Heeds after (mail ended.peer) := by
  refine ⟨entries, hentries, ?_⟩
  rw [hcalls, h.plan_eq]
  exact (hsublist.map Letter.text).filterMap Call.ofText?

/-- A plan with which the looks leave out a letter of the window does not keep trailing
results. -/
theorem Ended.not_keepsTrailing (h : Ended transport mail session ended)
    (hpoll : 0 < session.plan.pollTimeout) {heard : List Letter} {lost : Letter} {call : Call}
    (hletters : mail ended.peer = heard ++ [lost]) (hcall : Call.ofText? lost.text = some call)
    (hwindow : ∀ letter ∈ mail ended.peer, letter.due < ended.clock + session.plan.drainWindow)
    (htakes : ∀ taken, session.plan.Takes ended.clock (mail ended.peer) taken → taken = heard) :
    ¬ session.plan.KeepsTrailing := by
  intro hkeeps
  have hfuel := Nat.lt_succ_self ((mail ended.peer).length + session.plan.drainWindow)
  obtain ⟨after, entries, taken, hfinish, hentries, htaken, _, hcalls⟩ := h.finish hpoll hfuel
  obtain ⟨after', hfinish', entries', hentries', hheeds⟩ :=
    hkeeps σ transport mail session ended rfl h _ hfuel
  rw [hfinish, Except.ok.injEq] at hfinish'
  subst hfinish'
  rw [hentries] at hentries'
  have heq := List.append_cancel_left hentries'
  subst heq
  have hall : ((mail ended.peer).filter fun letter =>
      letter.due < ended.clock + ended.plan.drainWindow) = heard ++ [lost] := by
    rw [← hletters, List.filter_eq_self, h.plan_eq]
    intro letter hletter
    exact decide_eq_true (hwindow letter hletter)
  have hlost : ([lost].map Letter.text).filterMap Call.ofText? = [call] := by simp [hcall]
  have hlength := hheeds.length_le
  rw [hall, hcalls, htakes taken htaken, List.map_append, List.filterMap_append, hlost,
    List.length_append, List.length_singleton] at hlength
  exact Nat.not_succ_le_self _ hlength

/-- A session over the post that sends the end mark at a chosen time, with a chosen schedule of
letters. -/
theorem ended_post (plan : SessionPlan) (scene : Scene) {letters : List Letter}
    (horder : Letter.InOrder letters)
    (hwindow : (scene.clock + plan.drainWindow) / Nanos.perSecond < clockSeconds) :
    ∃ ended, Ended Letter.post id (start plan scene letters) ended ∧ ended.peer = letters ∧
      ended.clock = scene.clock := by
  let session := (start plan scene letters).moveTo .draining
  obtain ⟨ended, hsend, hpeer, hexchanged⟩ := exchange_eq session
    (.sentMessage session.clock .finished)
    (Letter.post.sendMessage session.peer session.clock .finished) rfl
  have hclock : ended.clock = scene.clock := by
    rw [hexchanged.clock_eq, clock_moveTo]
    rfl
  have hletters : ended.peer = letters := by
    rw [hpeer]
    exact peer_moveTo _ _
  refine ⟨ended, ?_, hletters, hclock⟩
  exact
    { punctual := Letter.punctual_post
      phase := rfl
      uncut := rfl
      send := hsend
      inOrder := by
        rw [hletters]
        exact horder
      window := by
        rw [hclock]
        exact hwindow }

end Session

namespace SessionPlan

/-- A recognition result. -/
def lateResult : String := "\x7b\"type\":\"transcription\",\"text\":\"late\"\x7d"

theorem exists_call_lateResult : ∃ call, Call.ofText? lateResult = some call :=
  Option.isSome_iff_exists.mp (by decide +kernel)

/-- Without a window there is no look, so that even a letter which is there already is lost. -/
theorem not_keepsTrailing_of_closed {plan : SessionPlan} (hpoll : 0 < plan.pollTimeout)
    (hclosed : plan.drainWindow = 0) : ¬ plan.KeepsTrailing := by
  let scene : Scene := { Scene.twoChunks with clock := 1 }
  let lost : Letter := ⟨0, lateResult⟩
  have hwindow : (scene.clock + plan.drainWindow) / Nanos.perSecond < Session.clockSeconds := by
    rw [hclosed]
    decide
  obtain ⟨ended, hended, hpeer, hclock⟩ :=
    Session.ended_post plan scene (List.pairwise_singleton _ lost) hwindow
  obtain ⟨call, hcall⟩ := exists_call_lateResult
  have hletters : id ended.peer = [] ++ [lost] := hpeer
  refine hended.not_keepsTrailing hpoll hletters hcall ?_ ?_
  · intro letter hletter
    rw [hletters] at hletter
    rw [List.mem_singleton.mp hletter, hclock]
    exact Nat.lt_of_lt_of_le Nat.zero_lt_one (Nat.le_add_right 1 plan.drainWindow)
  · intro taken htaken
    cases htaken with
    | nothing window => rfl
    | looks window looks => exact absurd hclosed (Nat.ne_of_gt window)

/-- Where a look and a pause fit into the window, letters can prolong the first look until the
pause after it is the rest of the window: what comes during that pause is lost. -/
theorem not_keepsTrailing_of_slack {plan : SessionPlan} (hpoll : 0 < plan.pollTimeout)
    (hclock : plan.drainWindow / Nanos.perSecond < Session.clockSeconds)
    (hpause : 1 < plan.pollInterval) (hslack : plan.pollTimeout + 1 < plan.drainWindow) :
    ¬ plan.KeepsTrailing := by
  -- The first look is to end after one timeout at least, and one pause before the deadline.
  obtain ⟨time, htime⟩ : ∃ time, time =
    max plan.pollTimeout (plan.drainWindow - plan.pollInterval) := ⟨_, rfl⟩
  obtain ⟨lost, hlost⟩ : ∃ lost : Letter, lost = ⟨time + 1, lateResult⟩ := ⟨_, rfl⟩
  have hpollTime : plan.pollTimeout ≤ time := by lia
  have hlast : time < lost.due := by
    rw [hlost]
    exact Nat.lt_succ_self time
  have hwindow : (Scene.twoChunks.clock + plan.drainWindow) / Nanos.perSecond <
      Session.clockSeconds := by
    rw [show Scene.twoChunks.clock + plan.drainWindow = plan.drainWindow from Nat.zero_add _]
    exact hclock
  obtain ⟨ended, hended, hletters, hstart⟩ := Session.ended_post plan Scene.twoChunks
    (Letter.inOrder_prolonging lateResult hpollTime hlast) hwindow
  obtain ⟨call, hcall⟩ := exists_call_lateResult
  have hcall' : Call.ofText? lost.text = some call := by
    rw [hlost]
    exact hcall
  have hzero : ended.clock = 0 := hstart
  have hearly : ∀ letter ∈ id ended.peer, letter.due < ended.clock + plan.drainWindow := by
    intro letter hletter
    rw [id, hletters] at hletter
    have hdue := Letter.due_le_of_mem_prolonging hpollTime hlast hletter
    rw [hlost] at hdue
    have hnanosecond : letter.due ≤ time + 1 := hdue
    lia
  have htakes : ∀ taken, plan.Takes ended.clock (id ended.peer) taken →
      taken = Letter.prolonging plan.pollTimeout time lateResult := by
    intro taken htaken
    cases htaken with
    | nothing window => lia
    | looks window looks =>
      rw [id, hletters, hzero] at looks
      have hlook := Letter.look_prolonging lateResult hpoll hpollTime hlast
      have hover : 0 + plan.drainWindow ≤ time + plan.pollInterval := by lia
      exact (looks.eq_of_look hlook hover).1
  exact hended.not_keepsTrailing hpoll hletters hcall' hearly htakes

/-- A plan keeps all trailing results exactly if it leaves no time to lose any: its window is
open, and either it does not pause for more than a nanosecond or its window is hardly longer
than its first look. -/
theorem keepsTrailing_iff (plan : SessionPlan) (hpoll : 0 < plan.pollTimeout)
    (hclock : plan.drainWindow / Nanos.perSecond < Session.clockSeconds) :
    plan.KeepsTrailing ↔ 0 < plan.drainWindow ∧
      (plan.pollInterval ≤ 1 ∨ plan.drainWindow ≤ plan.pollTimeout + 1) := by
  constructor
  · intro hkeeps
    refine ⟨?_, ?_⟩
    · exact Nat.pos_of_ne_zero fun hclosed =>
        not_keepsTrailing_of_closed hpoll hclosed hkeeps
    · by_cases hpause : plan.pollInterval ≤ 1
      · exact .inl hpause
      · refine .inr (Nat.le_of_not_lt fun hslack => ?_)
        exact not_keepsTrailing_of_slack hpoll hclock (Nat.lt_of_not_le hpause) hslack hkeeps
  · rintro ⟨hopen, htight⟩ σ transport mail session ended rfl hended fuel hfuel
    obtain ⟨after, entries, taken, hfinish, hentries, htakes, _, hcalls⟩ :=
      hended.finish hpoll hfuel
    have hsublist := htakes.filter_sublist hended.inOrder hopen htight
    exact ⟨after, hfinish, hended.heeds_of_sublist hentries hcalls hsublist⟩

/-- The usual parameters lose results; without the pause they would keep them. -/
theorem keepsTrailing_standard :
    (0 < (standard "usual").pollTimeout ∧
        (standard "usual").drainWindow / Nanos.perSecond < Session.clockSeconds ∧
        ¬ (standard "usual").KeepsTrailing) ∧
      { standard "usual" with pollInterval := 0 }.KeepsTrailing := by
  refine ⟨⟨by decide, by decide, ?_⟩, ?_⟩
  · intro hkeeps
    have htight := (keepsTrailing_iff (standard "usual") (by decide) (by decide)).mp hkeeps
    exact absurd htight (by decide)
  · exact (keepsTrailing_iff { standard "usual" with pollInterval := 0 } (by decide)
      (by decide)).mpr (by decide)

/-- With the usual parameters the last look ends 2930 ms after the end mark: a result that
arrives by then is heard, and one that arrives 20 ms later is not, within a window of 3 s. -/
theorem lost_standard :
    (Nanos.ofMillis 2950 < (standard "usual").drainWindow) ∧
      [2930, 2950].map (fun due =>
        ((Session.start (standard "usual") Scene.twoChunks
            [⟨Nanos.ofMillis due, lateResult⟩]).finish Letter.post 40).toOption.map
          fun after => (Journal.calls after.scene.entries).length) = [some 1, some 0] := by
  decide +kernel

end SessionPlan
end SpeechProbe
