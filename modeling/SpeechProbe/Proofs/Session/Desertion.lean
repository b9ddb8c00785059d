import SpeechProbe.Proofs.Session.Conversation

/-!
# When the peer closes the connection

A transport shows in two ways that the peer has closed the connection: a receive finds it
closed, or a call fails because of it.  A session that ends well reports whether the peer
closed first, and `run_peerClosed` says which of these calls its report rests on: every
call up to the end mark, and after it the receives that found the connection closed.

Two calls are left out: the end mark itself, and a last receive that fails.
`unnoticed_deserted` is about a session with such a peer.
-/

namespace SpeechProbe

namespace Exchange

/-- Whether the call showed that the peer has closed the connection, in either way. -/
def showsClosure : Exchange → Bool
  | message _ (.error .closedByPeer) | audio _ (.error .closedByPeer) => true
  | receive _ (.error .closedByPeer) | receive _ (.ok .closed) => true
  | _ => false

/-- Whether the call is a receive that found the connection closed. -/
def findsClosure : Exchange → Bool
  | receive _ (.ok .closed) => true
  | _ => false

/-- Whether the call hands over the end mark. -/
def isEndMark : Exchange → Bool
  | message .finished _ => true
  | _ => false

theorem showsClosure_of_findsClosure {call : Exchange} (h : call.findsClosure = true) :
    call.showsClosure = true := by
  unfold findsClosure at h
  split at h
  · rfl
  · simp at h

/-- A receive shows closure if its result, as what ends streaming, does. -/
theorem showsClosure_receive (timeout : Nanos) (result : Except Error Received) :
    (receive timeout result).showsClosure = reportsClosure (some result) := by
  rcases result with e | _ | _ | _
  · cases e <;> rfl
  all_goals rfl

end Exchange

/-- The calls before the end mark are those of the entries before it. -/
theorem Journal.exchanges_beforeEnd (entries : List Entry) :
    exchanges (beforeEnd entries) = (exchanges entries).takeWhile fun call => !call.isEndMark := by
  induction entries with
  | nil => rfl
  | cons entry entries ih =>
    have hcons : ∀ entry : Entry, entry.endMark? = none →
        beforeEnd (entry :: entries) = entry :: beforeEnd entries := by
      intro entry hnone
      simp [beforeEnd, hnone]
    cases entry with
    | sentMessage time message elapsed result =>
      cases message with
      | finished => rfl
      | config announcement =>
        rw [hcons _ rfl]
        exact congrArg (Exchange.message (.config announcement) result :: ·) ih
    | sentAudio time payload elapsed result =>
      rw [hcons _ rfl]
      exact congrArg (Exchange.audio payload result :: ·) ih
    | received time timeout elapsed result =>
      rw [hcons _ rfl]
      exact congrArg (Exchange.receive timeout result :: ·) ih
    | closed time elapsed result =>
      rw [hcons _ rfl]
      exact congrArg (Exchange.close result :: ·) ih
    | _ =>
      rw [hcons _ rfl]
      exact ih

/-! ## Closure in the language of calls -/

section Language

variable {timeout : Nanos} {result : Except Error Received} {calls : List Exchange}

/-- A drain shows closure by its last receive. -/
theorem IsDrain.any_showsClosure (h : IsDrain timeout result calls) :
    calls.any Exchange.showsClosure = reportsClosure (some result) := by
  induction h with
  | last hlast => rw [List.any_cons, Exchange.showsClosure_receive, List.any_nil, Bool.or_false]
  | text text rest ih => rw [List.any_cons, ih]; rfl

/-- A drain finds the connection closed by its last receive. -/
theorem IsDrain.any_findsClosure (h : IsDrain timeout result calls) :
    calls.any Exchange.findsClosure = (Exchange.receive timeout result).findsClosure := by
  induction h with
  | last hlast => rw [List.any_cons, List.any_nil, Bool.or_false]
  | text text rest ih => rw [List.any_cons, ih]; rfl

/-- A drain hands over no end mark. -/
theorem IsDrain.not_isEndMark (h : IsDrain timeout result calls) :
    ∀ call ∈ calls, call.isEndMark = false := by
  induction h with
  | last hlast => simp [Exchange.isEndMark]
  | text text rest ih =>
    rintro call (_ | ⟨_, hcall⟩)
    · rfl
    · exact ih call hcall

/-- The calls of a drain end with a receive of its result. -/
theorem IsDrain.exists_last (h : IsDrain timeout result calls) :
    ∃ texts, calls = texts ++ [.receive timeout result] ∧
      ∀ call ∈ texts, call.showsClosure = false := by
  induction h with
  | last hlast => exact ⟨[], rfl, by simp⟩
  | text text rest ih =>
    obtain ⟨texts, rfl, htexts⟩ := ih
    refine ⟨.receive timeout (.ok (.text text)) :: texts, rfl, ?_⟩
    rintro call (_ | ⟨_, hcall⟩)
    · rfl
    · exact htexts call hcall

/-- Streaming shows closure by what put an end to it. -/
theorem IsStreaming.any_showsClosure {ending : Option (Except Error Received)}
    (h : IsStreaming timeout ending calls) :
    calls.any Exchange.showsClosure = reportsClosure ending := by
  induction h with
  | none => rfl
  | refused payload e => cases e <;> rfl
  | broken payload drain _ => rw [List.any_cons, drain.any_showsClosure]; rfl
  | round payload drain more ih =>
    rw [List.any_append, List.any_cons, drain.any_showsClosure, ih]
    rfl

theorem IsStreaming.not_isEndMark {ending : Option (Except Error Received)}
    (h : IsStreaming timeout ending calls) : ∀ call ∈ calls, call.isEndMark = false := by
  induction h with
  | none => simp
  | refused payload e => simp [Exchange.isEndMark]
  | broken payload drain _ =>
    rintro call (_ | ⟨_, hcall⟩)
    · rfl
    · exact drain.not_isEndMark call hcall
  | round payload drain more ih =>
    intro call hcall
    rcases List.mem_append.mp hcall with (_ | ⟨_, hcall⟩) | hcall
    · rfl
    · exact drain.not_isEndMark call hcall
    · exact ih call hcall

/-- Of the calls in the drain window only the last can show closure, and if it does not find
the connection closed it fails because of it. -/
theorem IsCollecting.eq_last (h : IsCollecting timeout calls) {call : Exchange}
    (hcall : call ∈ calls) (hshows : call.showsClosure = true) :
    ∃ earlier, calls = earlier ++ [call] ∧
      (call.findsClosure = true ∨ call = .receive timeout (.error .closedByPeer)) := by
  induction h with
  | none => simp at hcall
  | @last result calls drain hloud =>
    obtain ⟨texts, rfl, htexts⟩ := drain.exists_last
    rcases List.mem_append.mp hcall with hcall | hcall
    · simp [htexts call hcall] at hshows
    · obtain rfl := List.mem_singleton.mp hcall
      refine ⟨texts, rfl, ?_⟩
      unfold Exchange.showsClosure at hshows
      split at hshows <;> simp_all [Exchange.findsClosure]
  | more drain rest ih =>
    rcases List.mem_append.mp hcall with hcall | hcall
    · have hany := drain.any_showsClosure
      have hquiet : ¬ call.showsClosure = true := by
        have := List.any_eq_false.mp hany call hcall
        exact this
      exact absurd hshows hquiet
    · obtain ⟨earlier, rfl, hlast⟩ := ih hcall
      exact ⟨_, (List.append_assoc _ _ _).symm, hlast⟩

/-- An answer that lets a session begin does not show closure. -/
theorem SessionPlan.showsClosure_of_accepts {plan : SessionPlan} (timeout : Nanos)
    {answer : Except Error Received} (h : plan.accepts answer = true) :
    (Exchange.receive timeout answer).showsClosure = false := by
  rcases answer with e | _ | _ | _
  · simp [accepts] at h
  · rfl
  · rfl
  · simp [accepts] at h

end Language

namespace Session

variable {σ : Type} {transport : Transport σ} {before after : Session σ}

/-! ## The flag after streaming -/

/-- Between two moments after streaming, the connection comes to count as closed exactly by
the receives that found it closed. -/
def Marks (before after : Session σ) : Prop :=
  ∃ calls, after.exchanges = before.exchanges ++ calls ∧
    after.stats.peerClosed = (before.stats.peerClosed || calls.any Exchange.findsClosure)

theorem Marks.trans {first second third : Session σ} (h : Marks first second)
    (h' : Marks second third) : Marks first third := by
  obtain ⟨calls, hcalls, hclosed⟩ := h
  obtain ⟨calls', hcalls', hclosed'⟩ := h'
  refine ⟨calls ++ calls', ?_, ?_⟩
  · rw [hcalls', hcalls, List.append_assoc]
  · rw [hclosed', hclosed, List.any_append, Bool.or_assoc]

/-- A step that makes no call and leaves the counters alone. -/
theorem marks_of_eq (hcalls : after.exchanges = before.exchanges)
    (hstats : after.stats.peerClosed = before.stats.peerClosed) : Marks before after := by
  refine ⟨[], ?_, ?_⟩
  · rw [hcalls, List.append_nil]
  · rw [hstats, List.any_nil, Bool.or_false]

/-- A call that finds nothing and leaves the counters alone. -/
theorem marks_of_call {call : Exchange} (hcalls : after.exchanges = before.exchanges ++ [call])
    (hfinds : call.findsClosure = false)
    (hstats : after.stats.peerClosed = before.stats.peerClosed) : Marks before after := by
  refine ⟨[call], hcalls, ?_⟩
  rw [hstats, List.any_cons, hfinds, List.any_nil, Bool.or_false, Bool.or_false]

theorem marks_note (session : Session σ) (note : Note) : Marks session (session.note note) :=
  marks_of_eq (view_note session _ note) rfl

/-- A drain that ends counts the connection closed if its last receive found it closed. -/
theorem Drains.marks {outcome : Except Error Drained}
    (h : Drains transport before (.ok outcome) after) : Marks before after := by
  obtain ⟨calls, hcalls, hdrain⟩ := h.isDrain outcome rfl
  refine ⟨calls, hcalls, ?_⟩
  rw [h.peerClosed_eq outcome rfl, hdrain.any_findsClosure]
  rcases outcome with e | _ | _ <;> rfl

theorem Collects.marks {deadline : Nanos} {out : Except Halt Unit}
    (h : Collects transport deadline before out after) : out = .ok () → Marks before after := by
  induction h with
  | outOfSteps session =>
    intro hout
    simp at hout
  | past due =>
    intro _
    exact marks_of_eq rfl rfl
  | broke early drain =>
    intro hout
    simp at hout
  | failed early drain =>
    intro _
    exact drain.marks.trans (marks_note _ _)
  | closed early drain =>
    intro _
    exact drain.marks
  | @again session drained after frames out early drain rest ih =>
    intro hout
    have hrested := waited_rest drained deadline
    have hmarks := marks_of_eq (exchanges_waited hrested)
      (congrArg Stats.peerClosed hrested.stats_eq)
    exact (drain.marks.trans hmarks).trans (ih hout)

/-- Closing the transport counts for nothing. -/
theorem marks_close (transport : Transport σ) {session : Session σ}
    (h : session.phase.isFinal = false) : Marks session (session.close transport) := by
  obtain ⟨result, hcalls⟩ := exchanges_close transport h
  obtain ⟨closed, _, _, hexchanged, hclose⟩ := close_spec transport h
  refine marks_of_call hcalls rfl ?_
  rcases hclose with hclose | ⟨note, hclose⟩
  · rw [hclose, stats_moveTo, hexchanged.stats_eq]
  · rw [hclose, stats_moveTo, (keeps_note closed note).stats_eq, hexchanged.stats_eq]

/-- Nor does sending the end mark, whatever the transport answers. -/
theorem marks_sendEnd (transport : Transport σ) (session : Session σ) :
    Marks session (session.sendEnd transport) := by
  obtain ⟨result, hcalls⟩ := exchanges_sendEnd transport session
  obtain ⟨sent, _, _, hexchanged, hsend⟩ := sendEnd_spec transport session
  refine marks_of_call hcalls rfl ?_
  rcases hsend with ⟨_, hsend⟩ | ⟨note, hsend⟩
  · rw [hsend, stats_count, hexchanged.stats_eq]
  · rw [hsend, (keeps_note sent note).stats_eq, hexchanged.stats_eq]

/-- From the end of streaming on, only receives that find the connection closed count. -/
theorem Finishes.marks (h : Finishes transport before (.ok ()) after) : Marks before after := by
  have hmoved : Marks before (before.moveTo .draining) :=
    marks_of_eq (view_moveTo before _ _) (by rw [stats_moveTo])
  cases h with
  | cut closed => exact hmoved.trans (marks_close transport rfl)
  | collected open' window collect =>
    have hphase := congrArg Phase.isFinal
      (collect.stays.phase_eq.trans (stays_sendEnd transport (before.moveTo .draining)).phase_eq)
    have hsent := hmoved.trans (marks_sendEnd transport _)
    exact (hsent.trans (collect.marks rfl)).trans (marks_close transport hphase)

/-! ## Whole sessions -/

/-- The calls of a session that ends well, cut where streaming ends, and what its report says
of the connection. -/
theorem Runs.report {stats : Stats} (h : Runs transport before (.ok (.ok stats)) after)
    (hopen : before.stats.peerClosed = false) :
    ∃ opening trail, after.exchanges = before.exchanges ++ (opening ++ trail) ∧
      (∀ call ∈ opening, call.isEndMark = false) ∧
      stats.peerClosed = (opening.any Exchange.showsClosure || trail.any Exchange.findsClosure) ∧
      ∃ closing, (opening.any Exchange.showsClosure = true ∧ trail = [.close closing]) ∨
        ∃ sent trailing, opening.any Exchange.showsClosure = false ∧
          IsCollecting before.plan.pollTimeout trailing ∧
          trail = .message .finished sent :: trailing ++ [.close closing] := by
  cases h with
  | finished check opens streams finishes =>
    rcases opens.conversation with ⟨e, hfailed, _⟩ | ⟨answer, haccepts, hopened⟩
    · simp at hfailed
    obtain ⟨ending, audio, haudio, hstreaming, hclosure⟩ :=
      streams.conversation (opens.peerClosed_eq.trans hopen)
    obtain ⟨trail, htrail, hmarks⟩ := finishes.marks
    obtain ⟨closing, hfinish⟩ := finishes.conversation
    rw [opens.plan_eq] at hstreaming
    rw [exchanges_endStreaming] at htrail
    rw [hclosure, (stays_endStreaming _ _).plan_eq, streams.plan_eq, opens.plan_eq,
      exchanges_endStreaming, htrail] at hfinish
    let opening := Exchange.message (.config before.plan.announcement) (.ok ()) ::
      .receive before.plan.handshakeTimeout answer :: audio
    have hshown : opening.any Exchange.showsClosure = reportsClosure ending := by
      have hanswer := SessionPlan.showsClosure_of_accepts before.plan.handshakeTimeout haccepts
      rw [List.any_cons, List.any_cons, hanswer, hstreaming.any_showsClosure]
      rfl
    refine ⟨opening, trail, ?_, ?_, ?_, closing, ?_⟩
    · rw [htrail, haudio, hopened]
      simp only [opening, List.append_assoc, List.cons_append, List.nil_append]
    · intro call hcall
      simp only [opening, List.mem_cons] at hcall
      rcases hcall with rfl | rfl | hcall
      · rfl
      · rfl
      · exact hstreaming.not_isEndMark call hcall
    · rw [hmarks, hclosure, hshown]
    · rw [hshown]
      rcases hfinish with ⟨hcut, hcalls⟩ | ⟨sent, trailing, hfull, htrailing, hcalls⟩
      · exact .inl ⟨hcut, List.append_cancel_left hcalls⟩
      · rw [List.append_assoc] at hcalls
        exact .inr ⟨sent, trailing, hfull, htrailing, List.append_cancel_left hcalls⟩

/-- Which calls the report of a session rests on, and which it leaves out.

Of every session that ends well, the report says that the peer closed the connection exactly if
a call before the end mark showed it, or a receive at any time found the connection closed.  A
call that showed it and is not reported is the end mark, or a last receive that failed. -/
theorem run_peerClosed {plan : SessionPlan} {scene : Scene} {peer : σ} {fuel : Nat}
    {stats : Stats} {after : Session σ}
    (h : (start plan scene peer).run transport fuel = .ok (.ok stats, after)) :
    ∃ entries, after.scene.entries = scene.entries ++ entries ∧
      (stats.peerClosed = true ↔
        (∃ call ∈ Journal.exchanges (Journal.beforeEnd entries), call.showsClosure = true) ∨
          ∃ call ∈ Journal.exchanges entries, call.findsClosure = true) ∧
      (stats.peerClosed = false →
        ∀ call ∈ Journal.exchanges entries, call.showsClosure = true →
          call = .message .finished (.error .closedByPeer) ∨
            call = .receive plan.pollTimeout (.error .closedByPeer) ∧
              ∃ earlier closing,
                Journal.exchanges entries = earlier ++ [call, .close closing]) := by
  have hruns := runs_of_run transport h
  obtain ⟨entries, hgrows⟩ := hruns.grows
  obtain ⟨opening, trail, hcalls, hunended, hclosed, closing, htrail⟩ := hruns.report rfl
  have hexchanges : Journal.exchanges entries = opening ++ trail :=
    Scene.filterMap_eq_of_view hgrows.entries_eq hcalls
  refine ⟨entries, hgrows.entries_eq, ?_, fun hopen call hcall hshows => ?_⟩
  · have hbefore : (Journal.exchanges (Journal.beforeEnd entries)).any Exchange.showsClosure =
        opening.any Exchange.showsClosure := by
      rw [Journal.exchanges_beforeEnd, hexchanges,
        List.takeWhile_append_of_pos fun call hcall => by simp [hunended call hcall],
        List.any_append]
      rcases htrail with ⟨_, rfl⟩ | ⟨sent, trailing, _, _, rfl⟩ <;> exact Bool.or_false _
    have hfinds : opening.any Exchange.findsClosure = true →
        opening.any Exchange.showsClosure = true := by
      simp only [List.any_eq_true]
      rintro ⟨call, hcall, hfinds⟩
      exact ⟨call, hcall, Exchange.showsClosure_of_findsClosure hfinds⟩
    rw [← List.any_eq_true, ← List.any_eq_true, hbefore, hexchanges, List.any_append, hclosed,
      Bool.or_eq_true, Bool.or_eq_true]
    constructor
    · rintro (hshown | hfound)
      · exact .inl hshown
      · exact .inr (.inr hfound)
    · rintro (hshown | hfound | hfound)
      · exact .inl hshown
      · exact .inl (hfinds hfound)
      · exact .inr hfound
  · rw [hclosed, Bool.or_eq_false_iff] at hopen
    obtain ⟨hquiet, hunfound⟩ := hopen
    rcases htrail with ⟨hshown, _⟩ | ⟨sent, trailing, _, hcollecting, rfl⟩
    · simp [hquiet] at hshown
    rw [hexchanges] at hcall ⊢
    rw [List.any_eq_false] at hquiet hunfound
    simp only [List.cons_append, List.mem_append, List.mem_cons, List.not_mem_nil,
      or_false] at hcall
    rcases hcall with hcall | rfl | hcall | rfl
    · exact absurd hshows (hquiet call hcall)
    · left
      unfold Exchange.showsClosure at hshows
      split at hshows <;> simp_all
    · right
      obtain ⟨earlier, rfl, hfinds | rfl⟩ := hcollecting.eq_last hcall hshows
      · exact absurd hfinds (hunfound call (by simp))
      · exact ⟨rfl, opening ++ .message .finished sent :: earlier, closing, by simp⟩
    · simp [Exchange.showsClosure] at hshows

end Session

/-- A session whose peer closes the connection once it was sent the end mark, so that the next
receive fails. -/
def Session.deserted : Session Rehearsal :=
  .start .brief .twoChunks
    (.ofScript { Script.talkative with onEnd := [⟨0, .fail .closedByPeer⟩] })

/-- The deserted session ends well, some call shows that the peer closed the connection, and the
report does not say so. -/
theorem Session.run_deserted :
    ∃ stats after, Session.deserted.run Rehearsal.transport 20 = .ok (.ok stats, after) ∧
      stats.peerClosed = false ∧
      ∃ call ∈ Journal.exchanges after.scene.entries, call.showsClosure = true := by
  have hrun : endsWith (fun stats after =>
      !stats.peerClosed && (Journal.exchanges after.scene.entries).any Exchange.showsClosure)
      (Session.deserted.run Rehearsal.transport 20) = true := by
    decide +kernel
  obtain ⟨stats, after, heq, hrun⟩ := exists_of_endsWith hrun
  rw [Bool.and_eq_true, Bool.not_eq_true', List.any_eq_true] at hrun
  exact ⟨stats, after, heq, hrun⟩

/-- What the report of the deserted session leaves out. -/
theorem run_peerClosed_deserted :
    ∃ stats after, Session.deserted.run Rehearsal.transport 20 = .ok (.ok stats, after) ∧
      stats.peerClosed = false ∧
      ¬ (∃ call ∈ Journal.exchanges after.scene.entries, call.findsClosure = true) ∧
      ∃ call ∈ Journal.exchanges after.scene.entries, call.showsClosure = true ∧
        (call = .message .finished (.error .closedByPeer) ∨
          call = .receive SessionPlan.brief.pollTimeout (.error .closedByPeer) ∧
            ∃ earlier closing,
              Journal.exchanges after.scene.entries = earlier ++ [call, .close closing]) := by
  obtain ⟨stats, after, hrun, hopen, call, hcall, hshows⟩ := Session.run_deserted
  obtain ⟨entries, hentries, hreport, hmissed⟩ := Session.run_peerClosed hrun
  have hsame : after.scene.entries = entries := hentries
  subst hsame
  refine ⟨stats, after, hrun, hopen, fun hfinds => ?_, call, hcall, hshows,
    hmissed hopen call hcall hshows⟩
  simp [hreport.mpr (.inr hfinds)] at hopen

/-- A report that does not say that the peer closed the connection is no proof that no call
showed it. -/
theorem unnoticed_deserted :
    ∃ stats after entries,
      Session.deserted.run Rehearsal.transport 20 = .ok (.ok stats, after) ∧
      after.scene.entries = Session.deserted.scene.entries ++ entries ∧
      ¬ (stats.peerClosed = true ↔
        ∃ call ∈ Journal.exchanges entries, call.showsClosure = true) := by
  obtain ⟨stats, after, hrun, hopen, hshown⟩ := Session.run_deserted
  refine ⟨stats, after, after.scene.entries, hrun, rfl, fun hreport => ?_⟩
  simp [hreport.mpr hshown] at hopen

end SpeechProbe
