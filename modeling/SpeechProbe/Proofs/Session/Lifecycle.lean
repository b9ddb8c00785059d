import SpeechProbe.Proofs.Session.Conversation

/-!
# The life of a session

A session is opened, streams, is finished and closed.  `run` does this in order, but the parts
of a session can also be asked for one by one, by any caller and in any order.  `Request` names
the parts, and `fulfilAll` carries out a list of them.

Which phases a session enters follows from the requests alone (`fulfils_fulfilAll`): a part that
begins a phase enters it whatever the phase before, and a move out of turn is logged and made.
`fulfilAll_phases` says what this comes to.  Finishing and closing leave a closed session alone,
configuring and streaming do not, so it is for the caller to keep to the order `InOrder`:
`reviving_reopens` shows what happens otherwise.
-/

namespace SpeechProbe

/-! ## Requests -/

/-- A part of a session that a caller can ask for. -/
inductive Request where
  | configure
  | stream
  | drain
  | finish
  | close
  deriving DecidableEq, Repr

namespace Phase

/-- The phases that a request makes a session enter. -/
def entered (phase : Phase) : Request → List Phase
  | .configure => [configuring]
  | .stream => [streaming]
  | .drain => []
  | .finish => if phase.isFinal then [] else [draining, closed]
  | .close => if phase.isFinal then [] else [closed]

/-- The moves through phases, each from the one before. -/
def moves (phase : Phase) : List Phase → List (Phase × Phase)
  | [] => []
  | next :: rest => (phase, next) :: moves next rest

/-- The phases that a list of requests makes a session enter. -/
def path (phase : Phase) : List Request → List Phase
  | [] => []
  | request :: rest =>
    phase.entered request ++ path ((phase.entered request).getLastD phase) rest

/-- Every change of the phase is allowed. -/
def Legal (phase : Phase) (phases : List Phase) : Prop :=
  ∀ move ∈ phase.moves phases, move.1 ≠ move.2 → move.1.canMoveTo move.2 = true

/-- The line in the log for a move out of turn. -/
def outOfTurn (phase next : Phase) : Note :=
  .warn ("Unexpected state transition " ++ phase.name ++ " -> " ++ next.name)

theorem moves_append (phase : Phase) (phases phases' : List Phase) :
    phase.moves (phases ++ phases') =
      phase.moves phases ++ (phases.getLastD phase).moves phases' := by
  induction phases generalizing phase with
  | nil => rfl
  | cons next rest ih =>
    rw [List.cons_append, moves, moves, ih, List.cons_append, List.getLastD_cons]

theorem getLastD_append (phase : Phase) (phases phases' : List Phase) :
    (phases ++ phases').getLastD phase = phases'.getLastD (phases.getLastD phase) := by
  induction phases generalizing phase with
  | nil => rfl
  | cons next rest ih => rw [List.cons_append, List.getLastD_cons, List.getLastD_cons, ih]

theorem legal_nil (phase : Phase) : phase.Legal [] := by simp [Legal, moves]

theorem legal_cons (phase next : Phase) (phases : List Phase) :
    phase.Legal (next :: phases) ↔
      (phase ≠ next → phase.canMoveTo next = true) ∧ next.Legal phases := by
  simp [Legal, moves]

theorem legal_append (phase : Phase) (phases phases' : List Phase) :
    phase.Legal (phases ++ phases') ↔
      phase.Legal phases ∧ (phases.getLastD phase).Legal phases' := by
  simp only [Legal, moves_append, List.mem_append, or_imp, forall_and]

end Phase

/-! ## The order of requests -/

namespace Request

/-- Whether the request brings a session to its end. -/
def Ends (request : Request) : Prop := request = finish ∨ request = close

/-- Nothing is asked for but the end. -/
def OnlyEnds (requests : List Request) : Prop := ∀ request ∈ requests, request.Ends

/-- The order in which the parts of a session follow one another: it is configured first, and
then audio is streamed; after that it is only finished and closed.  It may be closed earlier, but
neither streamed nor finished before it was configured.  Messages may be drained at any time. -/
def InOrder (requests : List Request) : Prop :=
  let asked := requests.filter (· ≠ drain)
  asked.head? ≠ some stream ∧ asked.head? ≠ some finish ∧
    OnlyEnds ((asked.dropWhile (· = configure)).dropWhile (· = stream))

theorem onlyEnds_cons (request : Request) (rest : List Request) :
    OnlyEnds (request :: rest) ↔ request.Ends ∧ OnlyEnds rest :=
  List.forall_mem_cons

end Request

namespace Phase

open Request

/-- Draining enters no phase. -/
theorem path_filter (phase : Phase) (requests : List Request) :
    phase.path (requests.filter (· ≠ drain)) = phase.path requests := by
  induction requests generalizing phase with
  | nil => rfl
  | cons request rest ih =>
    cases request with
    | drain =>
      simp only [path, entered, List.nil_append, List.getLastD_nil]
      exact ih phase
    | _ =>
      rw [List.filter_cons_of_pos (by decide), path, path, ih]

/-- From the closed phase on, a session may only be finished and closed. -/
theorem legal_path_closed {requests : List Request} (h : drain ∉ requests) :
    closed.Legal (closed.path requests) ↔ OnlyEnds requests := by
  induction requests with
  | nil => simp [path, legal_nil, OnlyEnds]
  | cons request rest ih =>
    simp only [List.mem_cons, not_or] at h
    rw [onlyEnds_cons, ← ih h.2]
    cases request with
    | drain => exact absurd rfl h.1
    | configure | stream => simp [path, entered, legal_cons, canMoveTo, Ends]
    | finish | close => simp [path, entered, isFinal, Ends]

/-- From the streaming phase on, audio may be streamed again first. -/
theorem legal_path_streaming {requests : List Request} (h : drain ∉ requests) :
    streaming.Legal (streaming.path requests) ↔
      OnlyEnds (requests.dropWhile (· = stream)) := by
  induction requests with
  | nil => simp [path, legal_nil, OnlyEnds]
  | cons request rest ih =>
    simp only [List.mem_cons, not_or] at h
    have hclosed := legal_path_closed h.2
    have hstreaming := ih h.2
    cases request with
    | drain => exact absurd rfl h.1
    | configure => simp [path, entered, legal_cons, canMoveTo, onlyEnds_cons, Ends]
    | stream => simpa [path, entered, legal_cons] using hstreaming
    | finish | close =>
      simpa [path, entered, isFinal, legal_cons, canMoveTo, onlyEnds_cons, Ends] using hclosed

/-- From the configuring phase on, a session may be configured again before that. -/
theorem legal_path_configuring {requests : List Request} (h : drain ∉ requests) :
    configuring.Legal (configuring.path requests) ↔
      OnlyEnds ((requests.dropWhile (· = configure)).dropWhile (· = stream)) := by
  induction requests with
  | nil => simp [path, legal_nil, OnlyEnds]
  | cons request rest ih =>
    simp only [List.mem_cons, not_or] at h
    have hclosed := legal_path_closed h.2
    have hstreaming := legal_path_streaming h.2
    have hconfiguring := ih h.2
    cases request with
    | drain => exact absurd rfl h.1
    | configure => simpa [path, entered, legal_cons] using hconfiguring
    | stream => simpa [path, entered, legal_cons, canMoveTo] using hstreaming
    | finish | close =>
      simpa [path, entered, isFinal, legal_cons, canMoveTo, onlyEnds_cons, Ends] using hclosed

/-- From the connected phase on, a session follows the table of moves if its caller keeps to
the order of requests, and only then. -/
theorem legal_path_connected (requests : List Request) :
    connected.Legal (connected.path requests) ↔ InOrder requests := by
  have h : drain ∉ requests.filter (· ≠ drain) := by simp
  rw [← path_filter, InOrder]
  generalize requests.filter (· ≠ drain) = asked at h ⊢
  cases asked with
  | nil => simp [path, legal_nil, OnlyEnds]
  | cons request rest =>
    simp only [List.mem_cons, not_or] at h
    have hclosed := legal_path_closed h.2
    have hconfiguring := legal_path_configuring h.2
    cases request with
    | drain => exact absurd rfl h.1
    | configure => simpa [path, entered, legal_cons, canMoveTo] using hconfiguring
    | stream | finish => simp [path, entered, isFinal, legal_cons, canMoveTo]
    | close =>
      simpa [path, entered, isFinal, legal_cons, canMoveTo, onlyEnds_cons, Ends] using hclosed

/-- From the closed phase on, a path that is allowed enters no phase at all. -/
theorem legal_path_closed_iff (requests : List Request) :
    closed.Legal (closed.path requests) ↔ closed.path requests = [] := by
  induction requests with
  | nil => simp [path, legal_nil]
  | cons request rest ih =>
    cases request with
    | configure | stream => simp [path, entered, legal_cons, canMoveTo]
    | drain | finish | close => simpa [path, entered, isFinal] using ih

/-- On a path that is allowed the closed phase is entered at most once. -/
theorem count_closed_le_one {phase : Phase} {requests : List Request}
    (h : phase.Legal (phase.path requests)) : (phase.path requests).count closed ≤ 1 := by
  induction requests generalizing phase with
  | nil => simp [path]
  | cons request rest ih =>
    rw [path, legal_append] at h
    have hrest := ih h.2
    cases hfinal : phase.isFinal with
    | true => cases request <;> simpa [path, entered, hfinal] using hrest
    | false =>
      cases request with
      | configure | stream | drain => simpa [path, entered] using hrest
      | finish | close =>
        -- nothing follows, for the closed phase is the last one
        have hnil : closed.path rest = [] := by
          rw [← legal_path_closed_iff]
          simpa [entered, hfinal] using h.2
        simp [path, entered, hfinal, hnil]

/-- What was entered before a path breaks off is allowed if the whole path is. -/
theorem Legal.of_prefix {phase : Phase} {phases phases' : List Phase} (h : phase.Legal phases')
    (hbegins : phases <+: phases') : phase.Legal phases := by
  obtain ⟨rest, rfl⟩ := hbegins
  exact ((legal_append phase phases rest).mp h).1

end Phase

/-! ## The life of a session in its journal -/

namespace Entry

/-- The move from phase to phase in an entry. -/
def move? : Entry → Option (Phase × Phase)
  | moved before after => some (before, after)
  | _ => none

/-- Whether the entry is of a phase or of the end of the connection. -/
def isMilestone (entry : Entry) : Bool := entry.move?.isSome || entry.closing?.isSome

theorem isMilestone_of_isAmbient {entry : Entry} (h : entry.isAmbient) :
    entry.isMilestone = false := by
  cases entry <;> simp_all [isAmbient, isMilestone, move?, closing?]

end Entry

namespace Journal

/-- The moves from phase to phase, in order. -/
def moves (entries : List Entry) : List (Phase × Phase) := entries.filterMap Entry.move?

/-- How often the transport was closed. -/
def closings (entries : List Entry) : Nat := (entries.filterMap Entry.closing?).length

/-- Each move out of turn comes right after a line in the log that says so. -/
def Warns (entries : List Entry) : Prop :=
  ∀ earlier later before after, entries = earlier ++ .moved before after :: later →
    before.canMoveTo after = false →
      earlier.getLast? = some (.noted (Phase.outOfTurn before after))

theorem moves_append (entries entries' : List Entry) :
    moves (entries ++ entries') = moves entries ++ moves entries' :=
  List.filterMap_append

theorem closings_append (entries entries' : List Entry) :
    closings (entries ++ entries') = closings entries + closings entries' := by
  rw [closings, List.filterMap_append, List.length_append]
  rfl

theorem Warns.append {entries entries' : List Entry} (h : Warns entries) (h' : Warns entries') :
    Warns (entries ++ entries') := by
  intro earlier later before after heq hillegal
  rcases List.append_eq_append_iff.mp heq with ⟨middle, rfl, hmiddle⟩ | ⟨middle, rfl, hmiddle⟩
  · rw [List.getLast?_append, h' middle later before after hmiddle hillegal]
    rfl
  · cases middle with
    | nil =>
      have hlast := h' [] later before after hmiddle.symm hillegal
      simp at hlast
    | cons entry middle =>
      rw [List.cons_append, List.cons.injEq] at hmiddle
      obtain ⟨rfl, -⟩ := hmiddle
      exact h earlier middle before after rfl hillegal

theorem warns_of_moves {entries : List Entry} (h : moves entries = []) : Warns entries := by
  rintro earlier later before after rfl -
  simp [moves, Entry.move?] at h

/-- Where there is no milestone, there is no move and no closing. -/
theorem milestones_eq {entries : List Entry} (h : ∀ entry ∈ entries, entry.isMilestone = false) :
    moves entries = [] ∧ closings entries = 0 := by
  rw [closings, List.length_eq_zero_iff, moves, List.filterMap_eq_nil_iff,
    List.filterMap_eq_nil_iff]
  constructor <;> intro entry hentry
  · have hquiet := h entry hentry
    simp_all [Entry.isMilestone]
  · have hquiet := h entry hentry
    simp_all [Entry.isMilestone]

end Journal

/-- A part whose outcome is not looked at leaves the same session behind. -/
theorem Course.session_ignored {σ α : Type} (course : Course σ α) :
    (course.andThen fun _ session => .done () session).session = course.session := by
  rcases course with ⟨halt | outcome, session⟩ <;> rfl

namespace Session

variable {σ : Type} {transport : Transport σ} {before after : Session σ}

/-- The session lived on: it entered `phases`, its transport was closed `closings` times, and
each move out of turn was logged. -/
structure Lives (before : Session σ) (phases : List Phase) (closings : Nat) (after : Session σ)
    (entries : List Entry) : Prop extends Scene.Grows before.scene after.scene entries where
  phase_eq : after.phase = phases.getLastD before.phase
  moves_eq : Journal.moves entries = before.phase.moves phases
  closings_eq : Journal.closings entries = closings
  warns : Journal.Warns entries

/-- There are such entries. -/
def Lived (before : Session σ) (phases : List Phase) (closings : Nat) (after : Session σ) : Prop :=
  ∃ entries, Lives before phases closings after entries

theorem Lived.trans {first second third : Session σ} {phases phases' : List Phase}
    {closings closings' : Nat} (h : Lived first phases closings second)
    (h' : Lived second phases' closings' third) :
    Lived first (phases ++ phases') (closings + closings') third := by
  obtain ⟨entries, h⟩ := h
  obtain ⟨entries', h'⟩ := h'
  refine ⟨entries ++ entries', h.toGrows.trans h'.toGrows, ?_, ?_, ?_, h.warns.append h'.warns⟩
  · rw [h'.phase_eq, h.phase_eq, Phase.getLastD_append]
  · rw [Journal.moves_append, h.moves_eq, h'.moves_eq, h.phase_eq, Phase.moves_append]
  · rw [Journal.closings_append, h.closings_eq, h'.closings_eq]

/-- Without a milestone no phase is entered. -/
theorem lived_of_grows {entries : List Entry}
    (hgrows : Scene.Grows before.scene after.scene entries) (hphase : after.phase = before.phase)
    (hquiet : ∀ entry ∈ entries, entry.isMilestone = false) : Lived before [] 0 after := by
  obtain ⟨hmoves, hclosings⟩ := Journal.milestones_eq hquiet
  exact ⟨entries, hgrows, hphase, hmoves, hclosings, Journal.warns_of_moves hmoves⟩

/-- Time that passes begins no phase. -/
theorem lived_of_passage {entries : List Entry}
    (h : Scene.Passage before.scene after.scene entries) (hphase : after.phase = before.phase) :
    Lived before [] 0 after :=
  lived_of_grows h.toGrows hphase fun entry hentry =>
    Entry.isMilestone_of_isAmbient (h.ambient entry hentry)

theorem lived_fetched {fetched : Fetched} (h : Keeps before after)
    (hfetches : Scene.Fetches before.scene fetched after.scene) : Lived before [] 0 after := by
  cases fetched with
  | chunk chunk =>
    obtain ⟨waited, time, settled, hgrows, hwaited, hsettled, -⟩ := hfetches.entries_chunk
    refine lived_of_grows hgrows h.phase_eq fun entry hentry => ?_
    rcases List.mem_append.mp hentry with hentry | hentry
    · exact Entry.isMilestone_of_isAmbient (hwaited entry hentry)
    · rcases List.mem_cons.mp hentry with rfl | hentry
      · rfl
      · exact Entry.isMilestone_of_isAmbient (hsettled entry hentry)
  | ended => cases hfetches with | ended wait => exact lived_of_passage wait h.phase_eq
  | waiting => cases hfetches with | waiting wait => exact lived_of_passage wait h.phase_eq

/-- A call of the transport begins no phase. -/
theorem lived_exchanged {entry : Entry} {elapsed : Nanos}
    (h : Exchanged before entry elapsed after) (hstop : entry.isStop = false)
    (hmove : entry.move? = none) :
    Lived before [] (Journal.closings [entry]) after := by
  obtain ⟨entries, hpassage⟩ := h.passage
  obtain ⟨hmoves, hclosings⟩ := Journal.milestones_eq fun entry hentry =>
    Entry.isMilestone_of_isAmbient (hpassage.ambient entry hentry)
  have hnone : Journal.moves (entry :: entries) = [] := by
    rw [Journal.moves, List.filterMap_cons_none hmove]
    exact hmoves
  refine ⟨entry :: entries, (Scene.grows_record _ hstop).trans hpassage.toGrows, h.phase_eq,
    hnone, ?_, Journal.warns_of_moves hnone⟩
  rw [← List.singleton_append, Journal.closings_append, hclosings, Nat.add_zero]

/-- What neither begins a phase nor closes the transport. -/
theorem audible_lived : Audible fun before after : Session σ => Lived before [] 0 after where
  refl := fun session => lived_of_grows (.refl session.scene) rfl (List.forall_mem_nil _)
  trans := Lived.trans
  waited := by
    intro before after h
    obtain ⟨entries, hpassage⟩ := h.passage
    exact lived_of_passage hpassage h.phase_eq
  note := fun session note =>
    lived_of_grows (Scene.grows_record _ rfl) rfl (List.forall_mem_singleton.mpr rfl)
  count := fun session g => lived_of_grows (.refl session.scene) rfl (List.forall_mem_nil _)
  tell := fun session call =>
    lived_of_grows (Scene.grows_record _ rfl) rfl (List.forall_mem_singleton.mpr rfl)
  received := fun h => lived_exchanged h rfl rfl
  fetched := lived_fetched
  sent := fun h => lived_exchanged h rfl rfl

/-- A phase is entered whatever the phase before; out of turn, this is logged. -/
theorem lived_moveTo (session : Session σ) (next : Phase) :
    Lived session [next] 0 (session.moveTo next) := by
  cases hmove : session.phase.canMoveTo next with
  | true =>
    refine ⟨[.moved session.phase next], ?_, rfl, rfl, rfl, ?_⟩
    · simp only [moveTo, hmove, if_true]
      exact Scene.grows_record _ rfl
    · intro earlier later before after heq hillegal
      cases earlier with
      | nil => simp_all
      | cons entry earlier => simp at heq
  | false =>
    refine ⟨[.noted (session.phase.outOfTurn next), .moved session.phase next], ?_, rfl, rfl,
      rfl, ?_⟩
    · simp only [moveTo, hmove, Bool.false_eq_true, if_false]
      exact (Scene.grows_record _ rfl).trans (Scene.grows_record _ rfl)
    · intro earlier later before after heq hillegal
      cases earlier with
      | nil => simp at heq
      | cons entry earlier =>
        cases earlier with
        | nil =>
          obtain ⟨rfl, ⟨rfl, rfl⟩, -⟩ : _ ∧ (_ ∧ _) ∧ _ := by simpa using heq
          rfl
        | cons entry earlier => simp at heq

theorem lived_close (transport : Transport σ) {session : Session σ}
    (h : session.phase.isFinal = false) : Lived session [.closed] 1 (session.close transport) := by
  obtain ⟨closed, result, elapsed, hexchanged, hclose⟩ := close_spec transport h
  have hclosed : Lived session [] 1 closed := lived_exchanged hexchanged rfl rfl
  rcases hclose with hclose | ⟨note, hclose⟩
  · rw [hclose]
    exact hclosed.trans (lived_moveTo closed .closed)
  · rw [hclose]
    exact (hclosed.trans (audible_lived.note closed note)).trans (lived_moveTo _ .closed)

theorem lived_sendEnd (transport : Transport σ) (session : Session σ) :
    Lived session [] 0 (session.sendEnd transport) := by
  obtain ⟨sent, result, elapsed, hexchanged, hsend⟩ := sendEnd_spec transport session
  have hsent : Lived session [] 0 sent := lived_exchanged hexchanged rfl rfl
  rcases hsend with ⟨-, hsend⟩ | ⟨note, hsend⟩
  · rw [hsend]
    exact hsent.trans (audible_lived.count sent _)
  · rw [hsend]
    exact hsent.trans (audible_lived.note sent note)

/-! ## The parts of a session -/

theorem Opens.lived {result : Except Error Handshake} (h : Opens transport before result after) :
    Lived before [.configuring] 0 after := by
  have hmoved := lived_moveTo before .configuring
  have hannounced {message result sent}
      (send : (before.moveTo .configuring).sendMessage transport message = (result, sent)) :
      Lived (before.moveTo .configuring) [] 0 sent := by
    obtain ⟨_, hsent⟩ := exchanged_sendMessage send
    exact lived_exchanged hsent rfl rfl
  cases h with
  | unsent send => exact hmoved.trans (hannounced send)
  | unanswered send receive =>
    exact (hmoved.trans (hannounced send)).trans (audible_lived.receive receive)
  | rejected send receive answer =>
    have hanswered := (audible_lived.receive receive).trans (audible_lived.answers answer)
    exact (hmoved.trans (hannounced send)).trans hanswered
  | accepted send receive answer =>
    have hanswered := (audible_lived.receive receive).trans (audible_lived.answers answer)
    exact ((hmoved.trans (hannounced send)).trans hanswered).trans (audible_lived.count _ _)

theorem StreamsSource.lived {outcome : Except Halt (Except Error Unit)}
    (h : StreamsSource transport before outcome after) : Lived before [.streaming] 0 after := by
  have hmoved := lived_moveTo before .streaming
  cases h with
  | unstreamable key reason empty => exact hmoved
  | rounds audio streams => exact hmoved.trans (audible_lived.streams streams)

/-- A session that is finished is drained and closed, if it gets as far as that. -/
theorem Finishes.lived {outcome : Except Halt Unit}
    (h : Finishes transport before outcome after) :
    Lived before [.draining, .closed] 1 after ∧ outcome = .ok () ∨
      Lived before [.draining] 0 after ∧ ∃ halt, outcome = .error halt := by
  have hmoved := lived_moveTo before .draining
  have hsent := hmoved.trans (lived_sendEnd transport (before.moveTo .draining))
  cases h with
  | cut closed => exact .inl ⟨hmoved.trans (lived_close transport rfl), rfl⟩
  | overflow open' deadline => exact .inr ⟨hsent, _, rfl⟩
  | broke open' window collect =>
    exact .inr ⟨hsent.trans (audible_lived.collects collect), _, rfl⟩
  | collected open' window collect =>
    have hphase := congrArg Phase.isFinal
      (collect.stays.phase_eq.trans (stays_sendEnd transport (before.moveTo .draining)).phase_eq)
    have hcollected := hsent.trans (audible_lived.collects collect)
    exact .inl ⟨hcollected.trans (lived_close transport hphase), rfl⟩

/-! ## Whole lives -/

/-- Carry out a request.  How it ends is for the caller to see; what happens next does not
depend on it, as long as it ends. -/
def fulfil (transport : Transport σ) (fuel : Nat) (session : Session σ) :
    Request → Course σ Unit
  | .configure => .done () (session.configure transport).2
  | .stream => (session.streamCourse transport fuel).andThen fun _ session => .done () session
  | .drain => (session.drainCourse transport fuel).andThen fun _ session => .done () session
  | .finish => session.finishCourse transport fuel
  | .close => .done () (session.close transport)

/-- Carry out requests one after the other, each on an allowance of its own. -/
def fulfilAll (transport : Transport σ) : List (Request × Nat) → Session σ → Course σ Unit
  | [], session => .done () session
  | (request, fuel) :: rest, session =>
    (session.fulfil transport fuel request).andThen fun _ session =>
      fulfilAll transport rest session

/-- What came of requests: `entered` are the phases they make a session enter, and the session
got as far as the requests did.  The transport is closed as often as the closed phase is
entered. -/
def Fulfils (entered : List Phase) (before : Session σ) (course : Course σ Unit) : Prop :=
  ∃ phases, Lived before phases (phases.count .closed) course.session ∧ phases <+: entered ∧
    (course.outcome = .ok () → phases = entered)

/-- Each request makes a session enter the phases it is said to. -/
theorem fulfils_fulfil (transport : Transport σ) (fuel : Nat) (session : Session σ)
    (request : Request) :
    Fulfils (session.phase.entered request) session (session.fulfil transport fuel request) := by
  cases request with
  | configure =>
    have hopens := opens_configure transport session
    exact ⟨_, hopens.lived, List.prefix_rfl, fun _ => rfl⟩
  | stream =>
    have hstreams := (streamsSource_streamCourse transport fuel session).lived
    rw [← Course.session_ignored] at hstreams
    exact ⟨_, hstreams, List.prefix_rfl, fun _ => rfl⟩
  | drain =>
    have hdrains := audible_lived.drains (drains_drainCourse transport fuel session)
    rw [← Course.session_ignored] at hdrains
    exact ⟨_, hdrains, List.prefix_rfl, fun _ => rfl⟩
  | finish =>
    cases hfinal : session.phase.isFinal with
    | true =>
      simp only [fulfil, finishCourse, Phase.entered, hfinal, if_true]
      exact ⟨[], audible_lived.refl session, List.prefix_rfl, fun _ => rfl⟩
    | false =>
      simp only [fulfil, Phase.entered, hfinal, Bool.false_eq_true, if_false]
      rcases (finishes_finishCourse transport fuel hfinal).lived with
        ⟨hlived, hdone⟩ | ⟨hlived, halt, hhalted⟩
      · exact ⟨_, hlived, List.prefix_rfl, fun _ => rfl⟩
      · refine ⟨_, hlived, ⟨[.closed], rfl⟩, fun hdone => ?_⟩
        simp [hhalted] at hdone
  | close =>
    cases hfinal : session.phase.isFinal with
    | true =>
      simp only [fulfil, close, Phase.entered, hfinal, if_true]
      exact ⟨[], audible_lived.refl session, List.prefix_rfl, fun _ => rfl⟩
    | false =>
      simp only [fulfil, Phase.entered, hfinal, Bool.false_eq_true, if_false]
      exact ⟨_, lived_close transport hfinal, List.prefix_rfl, fun _ => rfl⟩

/-- So does a list of requests. -/
theorem fulfils_fulfilAll (transport : Transport σ) (requests : List (Request × Nat))
    (session : Session σ) :
    Fulfils (session.phase.path (requests.map Prod.fst)) session
      (session.fulfilAll transport requests) := by
  induction requests generalizing session with
  | nil => exact ⟨[], audible_lived.refl session, List.prefix_rfl, fun _ => rfl⟩
  | cons asked rest ih =>
    obtain ⟨request, fuel⟩ := asked
    obtain ⟨phases, hlived, hbegins, hall⟩ := fulfils_fulfil transport fuel session request
    rcases hcourse : session.fulfil transport fuel request with ⟨halt | _, next⟩
    · rw [hcourse] at hlived
      simp only [fulfilAll, hcourse, Course.andThen]
      refine ⟨phases, hlived, hbegins.trans (List.prefix_append _ _), fun hdone => ?_⟩
      simp [Course.halted] at hdone
    · rw [hcourse] at hlived hall
      obtain rfl : phases = session.phase.entered request := hall rfl
      have hphase : next.phase = (session.phase.entered request).getLastD session.phase := by
        obtain ⟨_, hlives⟩ := hlived
        exact hlives.phase_eq
      obtain ⟨phases', hlived', hbegins', hall'⟩ := ih next
      rw [hphase] at hbegins' hall'
      simp only [fulfilAll, hcourse, Course.andThen]
      refine ⟨_, ?_, (List.prefix_append_right_inj _).mpr hbegins', fun hdone => ?_⟩
      · rw [List.count_append]
        exact hlived.trans hlived'
      · rw [hall' hdone]
        rfl

/-- What becomes of the phase, whatever is asked of a session, over any transport.

A session that is connected makes only moves that are allowed, and its transport is closed at
most once, if its caller keeps to the order of requests.  It is the caller who has to: a session
of which everything is carried out and that made no other move was asked in that order.  A
closed session stays closed if it is only finished and closed, and only then. -/
theorem fulfilAll_phases (transport : Transport σ) (requests : List (Request × Nat))
    (session : Session σ) :
    ∃ phases, Lived session phases (phases.count .closed)
        (session.fulfilAll transport requests).session ∧
      (session.phase = .connected → Request.InOrder (requests.map Prod.fst) →
        session.phase.Legal phases ∧ phases.count .closed ≤ 1) ∧
      (session.phase = .connected → (session.fulfilAll transport requests).outcome = .ok () →
        session.phase.Legal phases → Request.InOrder (requests.map Prod.fst)) ∧
      (session.phase = .closed →
        Request.OnlyEnds ((requests.map Prod.fst).filter (· ≠ .drain)) → phases = []) ∧
      (session.phase = .closed → (session.fulfilAll transport requests).outcome = .ok () →
        phases = [] → Request.OnlyEnds ((requests.map Prod.fst).filter (· ≠ .drain))) := by
  have hclosed : Phase.closed.path (requests.map Prod.fst) = [] ↔
      Request.OnlyEnds ((requests.map Prod.fst).filter (· ≠ .drain)) := by
    rw [← Phase.legal_path_closed (by simp), Phase.path_filter, Phase.legal_path_closed_iff]
  obtain ⟨phases, hlived, hbegins, hall⟩ := fulfils_fulfilAll transport requests session
  refine ⟨phases, hlived, fun hphase horder => ?_, fun hphase hdone hlegal => ?_,
    fun hphase hends => ?_, fun hphase hdone hnil => ?_⟩
  · rw [hphase] at hbegins ⊢
    have hlegal := (Phase.legal_path_connected _).mpr horder
    exact ⟨hlegal.of_prefix hbegins,
      Nat.le_trans (hbegins.sublist.count_le _) (Phase.count_closed_le_one hlegal)⟩
  · rw [hall hdone, hphase] at hlegal
    exact (Phase.legal_path_connected _).mp hlegal
  · rw [hphase, hclosed.mpr hends] at hbegins
    exact List.prefix_nil.mp hbegins
  · rw [hall hdone, hphase] at hnil
    exact hclosed.mp hnil

end Session

/-- The requests of a caller who keeps to the order. -/
def Request.orderly : List (Request × Nat) :=
  [(.configure, 0), (.drain, 20), (.stream, 20), (.finish, 20), (.close, 0)]

/-- The requests of a caller who streams once more after closing. -/
def Request.reviving : List (Request × Nat) := [(.close, 0), (.stream, 20), (.close, 0)]

/-- A session that is about to begin. -/
def Session.fresh : Session Rehearsal := .start .brief .twoChunks (.ofScript .talkative)

/-- The life of a session whose caller keeps to the order. -/
theorem fulfilAll_phases_orderly :
    Session.fresh.phase = .connected ∧ Request.InOrder (Request.orderly.map Prod.fst) ∧
      ∃ phases, Session.Lived Session.fresh phases (phases.count .closed)
          (Session.fresh.fulfilAll Rehearsal.transport Request.orderly).session ∧
        Session.fresh.phase.Legal phases ∧ phases.count .closed ≤ 1 := by
  have horder : Request.InOrder (Request.orderly.map Prod.fst) := by
    refine ⟨by decide, by decide, ?_⟩
    simp [Request.orderly, Request.OnlyEnds, Request.Ends]
  obtain ⟨phases, hlived, horderly, -⟩ :=
    Session.fulfilAll_phases Rehearsal.transport Request.orderly Session.fresh
  exact ⟨rfl, horder, phases, hlived, horderly rfl horder⟩

/-- A session can leave the closed phase, and its transport is then closed twice. -/
theorem reviving_reopens :
    (Session.fresh.fulfilAll Rehearsal.transport Request.reviving).outcome = .ok () ∧
      ∃ entries, (Session.fresh.fulfilAll Rehearsal.transport
          Request.reviving).session.scene.entries = Session.fresh.scene.entries ++ entries ∧
        Journal.moves entries =
          [(.connected, .closed), (.closed, .streaming), (.streaming, .closed)] ∧
        Phase.closed.canMoveTo .streaming = false ∧ Journal.closings entries = 2 := by
  have hreturns : (Session.fresh.fulfilAll Rehearsal.transport
      Request.reviving).outcome.toBool = true := by decide +kernel
  refine ⟨?_, _, (List.nil_append _).symm, by decide +kernel, rfl, by decide +kernel⟩
  rcases houtcome : (Session.fresh.fulfilAll Rehearsal.transport
      Request.reviving).outcome with halt | _
  · rw [houtcome] at hreturns
    simp [Except.toBool] at hreturns
  · rfl

end SpeechProbe
