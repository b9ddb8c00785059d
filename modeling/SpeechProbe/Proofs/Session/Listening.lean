import SpeechProbe.Proofs.Session.Ending

/-!
# How often a session listens

A session listens once before the audio, once after each payload and once in each look of the
drain window, and once more for each text frame that it gets: every time, it goes on until a
receive brings none.  So the receives are counted by the text frames, the payloads and the looks
(`Runs.length_receives_le`).

What is heard is kept as a list of marks, in which the looks can be told apart: after the end
mark a look begins with the first receive, and with each one that follows a receive without a
text frame (`Journal.lookTimes`).  The looks lie in the drain window, and a pass or more apart
(`Runs.spread_lookTimes`).

Each part of a session up to the end mark is `Answered`: no silence comes but for a payload, or
for the exchange before the audio.  From the end mark on there are looks alone (`Trails`), and a
session turns once from the one to the other (`Turns`).
-/

namespace SpeechProbe

/-- What a session hears, and when it began to listen. -/
inductive Heard where
  /-- The end mark goes out. -/
  | ended
  | text (time : Nanos)
  /-- A receive brings no text frame, for whatever reason. -/
  | silence (time : Nanos)
  deriving DecidableEq, Repr

namespace Heard

def isSilence : Heard → Bool
  | silence _ => true
  | _ => false

/-- How often no text frame came. -/
def silences (marks : List Heard) : Nat := marks.countP isSilence

/-- The times at which looks begin, where one may be under way.  A look goes on as long as
receives bring text frames. -/
def lookTimes : Bool → List Heard → List Nanos
  | _, [] => []
  | _, ended :: rest => lookTimes false rest
  | inLook, text time :: rest => (if inLook then [] else [time]) ++ lookTimes true rest
  | inLook, silence time :: rest => (if inLook then [] else [time]) ++ lookTimes false rest

@[simp] theorem silences_ended (rest : List Heard) : silences (ended :: rest) = silences rest :=
  List.countP_cons_of_neg (by decide)

@[simp] theorem silences_text (time : Nanos) (rest : List Heard) :
    silences (text time :: rest) = silences rest :=
  List.countP_cons_of_neg (by simp [isSilence])

@[simp] theorem silences_silence (time : Nanos) (rest : List Heard) :
    silences (silence time :: rest) = silences rest + 1 :=
  List.countP_cons_of_pos rfl

theorem silences_append (marks marks' : List Heard) :
    silences (marks ++ marks') = silences marks + silences marks' :=
  List.countP_append

/-- Each silence ends a look, which is the one under way or has its own beginning. -/
theorem silences_le (inLook : Bool) (marks : List Heard) :
    silences marks ≤ (lookTimes inLook marks).length + inLook.toNat := by
  induction marks generalizing inLook with
  | nil => exact Nat.zero_le _
  | cons mark rest ih =>
    have hin := ih true
    have hout := ih false
    rw [Bool.toNat_true] at hin
    rw [Bool.toNat_false] at hout
    cases mark with
    | ended =>
      rw [silences_ended, lookTimes]
      omega
    | text time =>
      rw [silences_text, lookTimes]
      cases inLook <;> simp <;> omega
    | silence time =>
      rw [silences_silence, lookTimes]
      cases inLook <;> simp <;> omega

/-- The receives of one look, or of the part of it that was made: text frames, and no more than
one silence, which is the last mark. -/
structure IsLook (start : Nanos) (whole : Bool) (marks : List Heard) : Prop where
  silences_le : silences marks ≤ 1
  /-- A look under way has begun before. -/
  underWay : lookTimes true marks = []
  begins : lookTimes false marks = [] ∨ lookTimes false marks = [start]
  /-- What comes after a look that has ended is not part of it. -/
  ends : whole = true → ∀ inLook rest,
    lookTimes inLook (marks ++ rest) = lookTimes inLook marks ++ lookTimes false rest

theorem IsLook.none (start : Nanos) : IsLook start false [] where
  silences_le := Nat.zero_le _
  underWay := rfl
  begins := .inl rfl
  ends := by simp

theorem IsLook.last (time : Nanos) : IsLook time true [silence time] where
  silences_le := Nat.le_refl _
  underWay := rfl
  begins := .inr rfl
  ends := by
    intro _ inLook rest
    simp [lookTimes]

theorem IsLook.text {start : Nanos} {whole : Bool} {marks : List Heard} (time : Nanos)
    (h : IsLook start whole marks) : IsLook time whole (.text time :: marks) where
  silences_le := by
    rw [silences_text]
    exact h.silences_le
  underWay := by
    rw [lookTimes, h.underWay]
    rfl
  begins := by
    rw [lookTimes, h.underWay]
    exact .inr rfl
  ends := by
    intro hwhole inLook rest
    rw [List.cons_append, lookTimes, lookTimes, h.ends hwhole, List.append_assoc]

/-- Times from `start` on and before `stop`, with a distance of `step` or more. -/
structure Spread (step start stop : Nanos) (times : List Nanos) : Prop where
  apart : times.Pairwise fun time later => time + step ≤ later
  within : ∀ time ∈ times, start ≤ time ∧ time < stop

theorem Spread.nil (step start stop : Nanos) : Spread step start stop [] where
  apart := .nil
  within := by simp

/-- A look that begins at the start comes before what begins when it is over. -/
theorem Spread.look {step start stop next : Nanos} {begun times : List Nanos}
    (hbegun : begun = [] ∨ begun = [start]) (hstart : start < stop)
    (h : Spread step next stop times) (hnext : min stop (start + step) ≤ next) :
    Spread step start stop (begun ++ times) := by
  have hlater : ∀ time ∈ times, start + step ≤ time ∧ time < stop := by
    intro time htime
    have hwithin := h.within time htime
    lia
  have hrest : ∀ time ∈ times, start ≤ time ∧ time < stop := fun time htime =>
    ⟨Nat.le_of_add_right_le (hlater time htime).1, (hlater time htime).2⟩
  rcases hbegun with rfl | rfl
  · exact ⟨h.apart, hrest⟩
  · refine ⟨.cons (fun time htime => (hlater time htime).1) h.apart, ?_⟩
    intro time htime
    rcases List.mem_cons.mp htime with rfl | htime
    · exact ⟨Nat.le_refl _, hstart⟩
    · exact hrest time htime

/-- Only so many times have room in between. -/
theorem Spread.length_le {step start stop : Nanos} {times : List Nanos} (hstep : 0 < step)
    (h : Spread step start stop times) : times.length ≤ (stop - start + step - 1) / step := by
  rw [Nat.le_div_iff_mul_le hstep]
  induction times generalizing start with
  | nil => simp
  | cons time rest ih =>
    obtain ⟨hfirst, hrest⟩ := List.pairwise_cons.mp h.apart
    have hwithin := h.within time List.mem_cons_self
    have hlater : Spread step (time + step) stop rest :=
      ⟨hrest, fun later hmem => ⟨hfirst later hmem, (h.within later (.tail _ hmem)).2⟩⟩
    cases rest with
    | nil =>
      rw [List.length_singleton, Nat.one_mul]
      lia
    | cons next rest =>
      have hroom := hlater.within next List.mem_cons_self
      have hle := ih hlater
      rw [List.length_cons, Nat.add_mul, Nat.one_mul]
      lia

end Heard

namespace Entry

/-- What a session hears by what it does. -/
def heard? : Entry → Option Heard
  | sentMessage _ .finished _ _ => some .ended
  | received time _ _ (.ok (.text _)) => some (.text time)
  | received time _ _ _ => some (.silence time)
  | _ => none

instance : Blind heard? where
  eq_none := by intro entry h; cases entry <;> simp_all [isBackground, heard?]

instance : Blind endTime? where
  eq_none := by intro entry h; cases entry <;> simp_all [isBackground, endTime?]

/-- Where the end mark is not sent, it is not heard. -/
theorem heard?_ne_ended {entry : Entry} (h : entry.endMark? = none) :
    entry.heard? ≠ some .ended := by
  cases entry with
  | sentMessage time message elapsed result => cases message <;> simp_all [heard?, endMark?]
  | received time timeout elapsed result =>
    rcases result with e | text | _ | _ <;> simp [heard?]
  | _ => simp [heard?]

theorem endTime?_eq_none {entry : Entry} (h : entry.endMark? = none) : entry.endTime? = none := by
  cases entry with
  | sentMessage time message elapsed result => cases message <;> simp_all [endTime?, endMark?]
  | _ => rfl

end Entry

namespace Journal

/-- What was heard, in order. -/
def heard (entries : List Entry) : List Heard := entries.filterMap Entry.heard?

/-- The times at which the looks after the end mark begin. -/
def lookTimes (entries : List Entry) : List Nanos :=
  Heard.lookTimes false ((heard entries).dropWhile (· ≠ .ended))

theorem ended_not_mem_heard {entries : List Entry} (h : entries.filterMap Entry.endMark? = []) :
    .ended ∉ heard entries := by
  intro hmem
  obtain ⟨entry, hentry, hheard⟩ := List.mem_filterMap.mp hmem
  exact Entry.heard?_ne_ended (List.filterMap_eq_nil_iff.mp h entry hentry) hheard

/-- Looks begin after the end mark only. -/
theorem lookTimes_append {entries entries' : List Entry} (h : .ended ∉ heard entries) :
    lookTimes (entries ++ entries') = lookTimes entries' := by
  rw [lookTimes, heard, List.filterMap_append, List.dropWhile_append_of_pos, lookTimes, heard]
  intro mark hmark
  simp only [ne_eq, decide_not, Bool.not_eq_eq_eq_not, Bool.not_true, decide_eq_false_iff_not]
  rintro rfl
  exact h hmark

end Journal

/-- A receive brings a text frame or none, and nothing else does. -/
theorem Entry.length_receiveTime? (entry : Entry) :
    entry.receiveTime?.toList.length =
      entry.text?.toList.length + Heard.silences entry.heard?.toList := by
  cases entry with
  | received time timeout elapsed result => rcases result with e | text | _ | _ <;> rfl
  | sentMessage time message elapsed result => cases message <;> rfl
  | _ => rfl

theorem Journal.length_receiveTimes (entries : List Entry) :
    (receiveTimes entries).length = (texts entries).length + Heard.silences (heard entries) := by
  induction entries with
  | nil => rfl
  | cons entry rest ih =>
    have hentry := entry.length_receiveTime?
    have hcons : ∀ {α : Type} (f : Entry → Option α),
        (entry :: rest).filterMap f = (f entry).toList ++ rest.filterMap f := by
      intro α f
      cases h : f entry <;> simp [h]
    simp only [receiveTimes, texts, heard] at ih ⊢
    rw [hcons, hcons, hcons, List.length_append, List.length_append, Heard.silences_append]
    omega

namespace Session

variable {σ : Type} {transport : Transport σ} {before after : Session σ}

/-- What a session has heard. -/
abbrev heard (session : Session σ) : List Heard := session.view Entry.heard?

/-! ## Drains -/

theorem heard_text {timeout : Nanos} {text : String}
    (h : before.receive transport timeout = (.ok (.text text), after)) :
    after.heard = before.heard ++ [.text before.clock] := by
  obtain ⟨_, hexchanged⟩ := exchanged_receive h
  exact hexchanged.view_eq Entry.heard?

theorem heard_silence {timeout : Nanos} {result : Except Error Received}
    (h : before.receive transport timeout = (result, after))
    (hsilent : ∀ text, result ≠ .ok (.text text)) :
    after.heard = before.heard ++ [.silence before.clock] := by
  obtain ⟨_, hexchanged⟩ := exchanged_receive h
  rw [heard, hexchanged.view_eq Entry.heard?]
  rcases result with e | text | _ | _
  · rfl
  · exact absurd rfl (hsilent text)
  · rfl
  · rfl

/-- A drain is a look, as far as it comes. -/
theorem Drains.isLook {out : Except Halt (Except Error Drained)}
    (h : Drains transport before out after) :
    ∃ marks, after.heard = before.heard ++ marks ∧ Heard.IsLook before.clock out.toBool marks := by
  have hlast : ∀ {session last : Session σ} {result : Except Error Received},
      session.receive transport session.plan.pollTimeout = (result, last) →
      (∀ text, result ≠ .ok (.text text)) →
      ∃ marks, last.heard = session.heard ++ marks ∧ Heard.IsLook session.clock true marks :=
    fun receive hsilent => ⟨_, heard_silence receive hsilent, .last _⟩
  induction h with
  | outOfSteps session => exact ⟨[], (List.append_nil _).symm, .none _⟩
  | failed receive => exact hlast receive (by simp)
  | dry frames receive => exact hlast receive (by simp)
  | closed frames receive =>
    have hclosed := hlast receive (by simp)
    exact hclosed
  | @text session received after text out receive rest ih =>
    obtain ⟨marks, hmarks, hlook⟩ := ih
    refine ⟨.text session.clock :: marks, ?_, hlook.text session.clock⟩
    rw [hmarks, heard, view_accept_of_none Entry.heard? (fun _ => rfl), ← heard,
      heard_text receive, List.append_assoc]
    rfl

/-! ## Before the end mark -/

/-- Since `before`, a silence came for each payload that was handed over at most, and `extra`
more. -/
def Answered (extra : Nat) (before after : Session σ) : Prop :=
  Heard.silences after.heard + (before.view Entry.payload?).length ≤
    Heard.silences before.heard + (after.view Entry.payload?).length + extra

theorem Answered.trans {extra extra' : Nat} {first second third : Session σ}
    (h : Answered extra first second) (h' : Answered extra' second third) :
    Answered (extra + extra') first third := by
  unfold Answered at *
  omega

theorem Answered.of_view_eq (hheard : after.heard = before.heard)
    (hpayloads : after.view Entry.payload? = before.view Entry.payload?) :
    Answered 0 before after := by
  rw [Answered, hheard, hpayloads]
  exact Nat.le_refl _

theorem Answered.moveTo (session : Session σ) (next : Phase) :
    Answered 0 session (session.moveTo next) :=
  .of_view_eq (view_moveTo _ _ _) (view_moveTo _ _ _)

/-- A receive is followed by one silence at most. -/
theorem answered_receive {timeout : Nanos} {result : Except Error Received}
    (h : before.receive transport timeout = (result, after)) : Answered 1 before after := by
  have hpayloads : after.view Entry.payload? = before.view Entry.payload? :=
    (steady_mute.receive h).view_eq _
  have hmark : ∃ mark, after.heard = before.heard ++ [mark] := by
    by_cases htext : ∃ text, result = .ok (.text text)
    · obtain ⟨text, rfl⟩ := htext
      exact ⟨_, heard_text h⟩
    · exact ⟨_, heard_silence h fun text heq => htext ⟨text, heq⟩⟩
  obtain ⟨mark, hmark⟩ := hmark
  have hone : Heard.silences [mark] ≤ 1 := List.countP_le_length
  rw [Answered, hmark, hpayloads, Heard.silences_append]
  omega

theorem Drains.answered {out : Except Halt (Except Error Drained)}
    (h : Drains transport before out after) : Answered 1 before after := by
  have hpayloads : after.view Entry.payload? = before.view Entry.payload? :=
    (steady_mute.drains h).view_eq _
  obtain ⟨marks, hmarks, hlook⟩ := h.isLook
  have hone := hlook.silences_le
  rw [Answered, hmarks, hpayloads, Heard.silences_append]
  omega

/-- The exchange before the audio listens once. -/
theorem Opens.answered {result : Except Error Handshake}
    (h : Opens transport before result after) : Answered 1 before after := by
  have hannounced : ∀ {result : Except Error Unit} {sent : Session σ},
      (before.moveTo .configuring).sendMessage transport (.config before.plan.announcement) =
        (result, sent) → Answered 0 before sent := by
    intro result sent send
    obtain ⟨_, hexchanged⟩ := exchanged_sendMessage send
    exact .of_view_eq ((hexchanged.view_eq_of_none _ rfl).trans (view_moveTo _ _ _))
      ((hexchanged.view_eq_of_none _ rfl).trans (view_moveTo _ _ _))
  have hanswered : ∀ {first last : Session σ} {received : Received}
      {result : Except Error Handshake}, Answers first received result last →
        Answered 0 first last :=
    fun answer => .of_view_eq (answer.view_eq _ fun _ => rfl) (answer.view_eq _ fun _ => rfl)
  cases h with
  | unsent send =>
    have hsent := hannounced send
    unfold Answered at *
    omega
  | unanswered send receive => exact (hannounced send).trans (answered_receive receive)
  | rejected send receive answer =>
    exact ((hannounced send).trans (answered_receive receive)).trans (hanswered answer)
  | accepted send receive answer =>
    exact ((hannounced send).trans (answered_receive receive)).trans (hanswered answer)

/-- The silence that ends a drain answers the payload before it. -/
theorem Delivers.answered {chunk : Chunk} {out : Except Halt (Option (Except Error Unit))}
    (h : Delivers transport chunk before out after) : Answered 0 before after := by
  have hsent : ∀ {sent : Session σ}, before.sendChunk transport chunk = (.ok (), sent) →
      sent.heard = before.heard ∧
        (sent.view Entry.payload?).length = (before.view Entry.payload?).length + 1 := by
    intro sent send
    obtain ⟨_, hheard⟩ := view_sendChunk_ok send Entry.heard?
    obtain ⟨_, hpayloads⟩ := view_sendChunk_ok send Entry.payload?
    exact ⟨hheard.trans (List.append_nil _), by rw [hpayloads]; exact List.length_append⟩
  have hdrained : ∀ {sent drained : Session σ} {out : Except Halt (Except Error Drained)},
      before.sendChunk transport chunk = (.ok (), sent) → Drains transport sent out drained →
        Answered 0 before drained := by
    intro sent drained out send drain
    obtain ⟨hheard, hpayloads⟩ := hsent send
    have hanswered := drain.answered
    rw [Answered, hheard, hpayloads] at hanswered
    rw [Answered]
    omega
  cases h with
  | refused send =>
    obtain ⟨_, hexchanged⟩ := exchanged_sendChunk_error send
    have hheard : after.heard = before.heard := hexchanged.view_eq_of_none _ rfl
    have hgrows := hexchanged.grows.length_view_le Entry.payload?
    rw [Answered, hheard]
    omega
  | broke send drain => exact hdrained send drain
  | failed send drain => exact hdrained send drain
  | closed send drain => exact hdrained send drain
  | stopped send drain pace =>
    have hwaited := waited_pace pace
    exact (hdrained send drain).trans (.of_view_eq (hwaited.view_eq _) (hwaited.view_eq _))
  | paced send drain pace =>
    have hwaited := waited_pace pace
    exact (hdrained send drain).trans (.of_view_eq (hwaited.view_eq _) (hwaited.view_eq _))

theorem Round.answered {n : Nat} {out : Except Halt (Option (Except Error Unit))}
    (h : Round transport n before out after) : Answered 0 before after := by
  have hfetched : ∀ {fetched : Fetched} {last : Session σ},
      Scene.Fetches before.scene fetched last.scene → Answered 0 before last :=
    fun hfetches => .of_view_eq (hfetches.view_eq _ fun _ _ => rfl)
      (hfetches.view_eq _ fun _ _ => rfl)
  cases h with
  | stopped stop => exact .of_view_eq rfl rfl
  | broke running next =>
    obtain ⟨_, ⟨_, rfl⟩ | ⟨_, _, hfetches⟩⟩ := nextAudio_halted running next
    · exact .of_view_eq rfl rfl
    · exact hfetched hfetches
  | ended running next =>
    obtain ⟨_, _, _, hfetches⟩ := nextAudio_none running next
    exact hfetched hfetches
  | skipped running next empty =>
    obtain ⟨_, _, _, hfetches⟩ := nextAudio_some running next
    exact hfetched hfetches
  | held running next audio stop =>
    obtain ⟨_, _, _, hfetches⟩ := nextAudio_some running next
    exact hfetched hfetches
  | delivered running next audio running' deliver =>
    obtain ⟨_, _, _, hfetches⟩ := nextAudio_some running next
    exact (hfetched hfetches).trans deliver.answered

theorem Streams.answered {n : Nat} {out : Except Halt (Except Error Unit)}
    (h : Streams transport n before out after) : Answered 0 before after := by
  induction h with
  | outOfSteps session => exact .of_view_eq rfl rfl
  | broke round => exact round.answered
  | last round => exact round.answered
  | more round rest ih => exact round.answered.trans ih

theorem StreamsSource.answered {out : Except Halt (Except Error Unit)}
    (h : StreamsSource transport before out after) : Answered 0 before after := by
  have hmoved := Answered.moveTo before .streaming
  cases h with
  | unstreamable key reason empty => exact hmoved
  | rounds audio streams => exact hmoved.trans streams.answered

/-! ## After the end mark -/

/-- A look after which another may follow lasts for its poll timeout and the pause, or until the
window is over. -/
theorem Drains.le_clock_rest (hwaits : transport.WaitsOut) {frames : Nat} (deadline : Nanos)
    (h : Drains transport before (.ok (.ok (.dry frames))) after) :
    min deadline (before.clock + (before.plan.pollTimeout + before.plan.pollInterval)) ≤
      (after.rest deadline).clock := by
  have hdry := h.clock_dry_le hwaits frames rfl
  rw [clock_rest, h.stays.plan_eq]
  lia

/-- What is heard are looks that begin before the deadline, and one pass or more apart. -/
def LooksUntil (transport : Transport σ) (deadline : Nanos) (before after : Session σ) : Prop :=
  ∃ marks, after.heard = before.heard ++ marks ∧
    (transport.WaitsOut →
      Heard.Spread (before.plan.pollTimeout + before.plan.pollInterval) before.clock deadline
        (Heard.lookTimes false marks))

theorem LooksUntil.of_heard_eq {deadline : Nanos} (h : after.heard = before.heard) :
    LooksUntil transport deadline before after :=
  ⟨[], h.trans (List.append_nil _).symm, fun _ => .nil _ _ _⟩

theorem Drains.looksUntil {deadline : Nanos} {out : Except Halt (Except Error Drained)}
    (h : Drains transport before out after) (hearly : before.clock < deadline) :
    LooksUntil transport deadline before after := by
  obtain ⟨marks, hmarks, hlook⟩ := h.isLook
  refine ⟨marks, hmarks, fun _ => ?_⟩
  rw [← List.append_nil (Heard.lookTimes false marks)]
  exact .look hlook.begins hearly (.nil _ deadline _) (Nat.min_le_left _ _)

/-- The looks of a window begin in it: each lasts until the next may begin. -/
theorem Collects.looksUntil {deadline : Nanos} {out : Except Halt Unit}
    (h : Collects transport deadline before out after) :
    LooksUntil transport deadline before after := by
  induction h with
  | outOfSteps session => exact .of_heard_eq rfl
  | past due => exact .of_heard_eq rfl
  | broke early drain => exact drain.looksUntil early
  | failed early drain =>
    obtain ⟨marks, hmarks, hlook⟩ := drain.looksUntil early
    exact ⟨marks, (view_note _ _ _).trans hmarks, hlook⟩
  | closed early drain => exact drain.looksUntil early
  | @again session drained _ _ _ early drain rest ih =>
    obtain ⟨marks, hmarks, hlook⟩ := drain.isLook
    obtain ⟨later, hlater, hspread⟩ := ih
    have hwaited := waited_rest drained deadline
    refine ⟨marks ++ later, ?_, fun hwaits => ?_⟩
    · have hrested : (drained.rest deadline).heard = drained.heard := hwaited.view_eq _
      rw [hlater, hrested, hmarks, List.append_assoc]
    · have hrest := hspread hwaits
      rw [hwaited.plan_eq, drain.stays.plan_eq] at hrest
      rw [hlook.ends rfl]
      exact .look hlook.begins early hrest (drain.le_clock_rest hwaits deadline)

/-- The end mark is heard, and its time is known. -/
theorem heard_afterEndMark (transport : Transport σ) (session : Session σ) :
    (session.afterEndMark transport).heard = session.heard ++ [.ended] ∧
      (session.afterEndMark transport).view Entry.endTime? =
        session.view Entry.endTime? ++ [(session.afterEndMark transport).clock] := by
  obtain ⟨sent, result, elapsed, hexchanged, hsend⟩ :=
    sendEnd_spec transport (session.moveTo .draining)
  have hheard := hexchanged.view_eq Entry.heard?
  have htimes := hexchanged.view_eq Entry.endTime?
  have hclock := hexchanged.clock_eq
  rw [view_moveTo] at hheard htimes
  rw [afterEndMark]
  rcases hsend with ⟨-, hsend⟩ | ⟨note, hsend⟩
  all_goals rw [hsend]
  · refine ⟨hheard, htimes.trans ?_⟩
    exact congrArg (session.view Entry.endTime? ++ [·]) hclock.symm
  · refine ⟨(view_note _ _ _).trans hheard, (view_note _ _ _).trans (htimes.trans ?_)⟩
    exact congrArg (session.view Entry.endTime? ++ [·]) hclock.symm

/-- From `before` on there is no end mark, and no receive; or there is one, and after it only the
looks of the drain window. -/
def Trails (transport : Transport σ) (before after : Session σ) : Prop :=
  after.heard = before.heard ∧ after.view Entry.endTime? = before.view Entry.endTime? ∨
    ∃ ended marks, after.heard = before.heard ++ .ended :: marks ∧
      after.view Entry.endTime? = before.view Entry.endTime? ++ [ended] ∧
      (transport.WaitsOut →
        Heard.Spread (before.plan.pollTimeout + before.plan.pollInterval) ended
          (ended + before.plan.drainWindow) (Heard.lookTimes false marks))

/-- Closing is not heard. -/
theorem Trails.close (h : Trails transport before after) :
    Trails transport before (after.close transport) := by
  unfold Trails heard at *
  rw [view_close_of_none transport Entry.heard? (fun _ _ _ => rfl),
    view_close_of_none transport Entry.endTime? (fun _ _ _ => rfl)]
  exact h

theorem Finishes.trails {out : Except Halt Unit} (h : Finishes transport before out after) :
    Trails transport before after := by
  obtain ⟨hheard, htimes⟩ := heard_afterEndMark transport before
  have hcollected : ∀ {deadline : Nanos} {out : Except Halt Unit} {last : Session σ},
      (before.afterEndMark transport).drainDeadline = .ok deadline →
      Collects transport deadline (before.afterEndMark transport) out last →
      Trails transport before last := by
    intro deadline out last hdeadline hcollects
    obtain ⟨marks, hmarks, hspread⟩ := hcollects.looksUntil
    have hlast : last.view Entry.endTime? =
        (before.afterEndMark transport).view Entry.endTime? :=
      (passive_view_eq Entry.endTime? (fun _ => rfl) (fun _ _ _ _ => rfl)
        (fun _ _ _ _ => rfl)).collects hcollects
    rw [drainDeadline_eq hdeadline, plan_afterEndMark] at hspread
    refine .inr ⟨_, marks, ?_, hlast.trans htimes, hspread⟩
    rw [hmarks, hheard, List.append_assoc]
    rfl
  cases h with
  | cut closed =>
    exact Trails.close (.inl ⟨view_moveTo _ _ _, view_moveTo _ _ _⟩)
  | overflow open' deadline =>
    exact .inr ⟨_, [], hheard, htimes, fun _ => .nil _ _ _⟩
  | broke open' window collect => exact hcollected window collect
  | collected open' window collect => exact (hcollected window collect).close

/-! ## Whole sessions -/

/-- Up to `middle` a session listens once for each payload, and once more; from there on it hands
over no payload, and may send the end mark. -/
structure Turns (transport : Transport σ) (before middle after : Session σ) : Prop where
  plan_eq : middle.plan = before.plan
  answered : Answered 1 before middle
  unended : middle.view Entry.endMark? = before.view Entry.endMark?
  grows : Grows before middle
  mute : Mute middle after
  trails : Trails transport middle after

/-- A session that has been opened comes to its turn when streaming is over. -/
theorem Opens.turns {handshake : Handshake} {opened streamed : Session σ}
    {streaming : Except Halt (Except Error Unit)}
    (h : Opens transport before (.ok handshake) opened)
    (hstreams : StreamsSource transport opened streaming streamed) :
    Turns transport before streamed streamed where
  plan_eq := hstreams.plan_eq.trans h.plan_eq
  answered := h.answered.trans hstreams.answered
  unended := lively_unended.trans (lively_unended.opens h) (lively_unended.streamsSource hstreams)
  grows := lively_grows.trans (lively_grows.opens h) (lively_grows.streamsSource hstreams)
  mute := .refl streamed
  trails := .inl ⟨rfl, rfl⟩

/-- The source is released before the turn. -/
theorem Turns.finish {streamed : Session σ} (h : Turns transport before streamed streamed)
    {result : Except Error Unit} {out : Except Halt Unit}
    (hfinishes : Finishes transport (streamed.endStreaming result) out after) :
    Turns transport before (streamed.endStreaming result) after := by
  have hstays := stays_endStreaming streamed result
  have hreleased : Answered 0 streamed (streamed.endStreaming result) :=
    .of_view_eq (view_endStreaming _ result) (view_endStreaming _ result)
  exact
    { plan_eq := hstays.plan_eq.trans h.plan_eq
      answered := h.answered.trans hreleased
      unended := (view_endStreaming _ result).trans h.unended
      grows := h.grows.trans hstays.grows
      mute := steady_mute.finishes hfinishes
      trails := hfinishes.trails }

/-- A session that is given up is closed at once. -/
theorem turns_abandoned {opened : Session σ} (hplan : opened.plan = before.plan)
    (hanswered : Answered 1 before opened)
    (hunended : opened.view Entry.endMark? = before.view Entry.endMark?)
    (hgrows : Grows before opened) (note : Note) :
    Turns transport before (opened.note note) ((opened.note note).close transport) := by
  have hnoted : Answered 0 opened (opened.note note) :=
    .of_view_eq (view_note _ _ _) (view_note _ _ _)
  exact
    { plan_eq := hplan
      answered := hanswered.trans hnoted
      unended := (view_note _ _ _).trans hunended
      grows := hgrows.trans (keeps_note opened note).grows
      mute := steady_mute.close transport _
      trails := Trails.close (.inl ⟨rfl, rfl⟩) }

theorem Runs.exists_turns {out : Except Halt (Except Error Stats)}
    (h : Runs transport before out after) : ∃ middle, Turns transport before middle after := by
  cases h with
  | invalid check note =>
    exact ⟨_, turns_abandoned rfl (Nat.le_succ _) rfl (.refl before) note⟩
  | refused check opens note =>
    exact ⟨_, turns_abandoned opens.plan_eq opens.answered (lively_unended.opens opens)
      (lively_grows.opens opens) note⟩
  | broke check opens streams => exact ⟨_, opens.turns streams⟩
  | unfinished check opens streams finishes => exact ⟨_, (opens.turns streams).finish finishes⟩
  | finished check opens streams finishes => exact ⟨_, (opens.turns streams).finish finishes⟩

/-! ## In the journal -/

theorem Answered.silences_le {extra : Nat} {entries : List Entry} (h : Answered extra before after)
    (hgrows : Scene.Grows before.scene after.scene entries) :
    Heard.silences (Journal.heard entries) ≤ (Journal.payloads entries).length + extra := by
  have hheard : after.heard = before.heard ++ Journal.heard entries :=
    Scene.view_of_entries hgrows.entries_eq
  have hpayloads : after.view Entry.payload? = before.view Entry.payload? ++
      Journal.payloads entries := Scene.view_of_entries hgrows.entries_eq
  rw [Answered, hheard, hpayloads, Heard.silences_append, List.length_append] at h
  omega

/-- The looks of a stretch that begins before the end mark. -/
theorem Trails.journal {entries : List Entry} (h : Trails transport before after)
    (hgrows : Scene.Grows before.scene after.scene entries) :
    Heard.silences (Journal.heard entries) ≤ (Journal.lookTimes entries).length ∧
      (entries.filterMap Entry.endTime? = [] ∧ Journal.lookTimes entries = [] ∨
        ∃ ended, entries.filterMap Entry.endTime? = [ended] ∧
          (transport.WaitsOut →
            Heard.Spread (before.plan.pollTimeout + before.plan.pollInterval) ended
              (ended + before.plan.drainWindow) (Journal.lookTimes entries))) := by
  rcases h with ⟨hheard, htimes⟩ | ⟨ended, marks, hheard, htimes, hspread⟩
  · have hsilent : Journal.heard entries = [] :=
      Scene.filterMap_eq_nil_of_view hgrows.entries_eq hheard
    have hlooks : Journal.lookTimes entries = [] := by
      rw [Journal.lookTimes, hsilent]
      rfl
    refine ⟨?_, .inl ⟨Scene.filterMap_eq_nil_of_view hgrows.entries_eq htimes, hlooks⟩⟩
    rw [hsilent]
    exact Nat.zero_le _
  · have hmarks : Journal.heard entries = .ended :: marks :=
      Scene.filterMap_eq_of_view hgrows.entries_eq hheard
    have hlooks : Journal.lookTimes entries = Heard.lookTimes false marks := by
      rw [Journal.lookTimes, hmarks]
      rfl
    rw [hlooks]
    refine ⟨?_, .inr ⟨ended, Scene.filterMap_eq_of_view hgrows.entries_eq htimes, hspread⟩⟩
    rw [hmarks, Heard.silences_ended]
    exact Heard.silences_le false marks

/-- Up to the end mark no look begins, and there is no time at which it was answered. -/
theorem Turns.journal {middle : Session σ} {entries : List Entry}
    (h : Turns transport before middle after)
    (hgrows : Scene.Grows before.scene after.scene entries) :
    ∃ late, Scene.Grows middle.scene after.scene late ∧
      Journal.lookTimes entries = Journal.lookTimes late ∧
      entries.filterMap Entry.endTime? = late.filterMap Entry.endTime? ∧
      Heard.silences (Journal.heard entries) ≤
        1 + (Journal.payloads entries).length + Heard.silences (Journal.heard late) := by
  obtain ⟨early, hearly⟩ := h.grows
  obtain ⟨late, hlate⟩ := h.mute.grows
  obtain rfl : entries = early ++ late := hgrows.unique (hearly.trans hlate)
  have hunended : early.filterMap Entry.endMark? = [] :=
    Scene.filterMap_eq_nil_of_view hearly.entries_eq h.unended
  have htimes : early.filterMap Entry.endTime? = [] :=
    List.filterMap_eq_nil_iff.mpr fun entry hentry =>
      Entry.endTime?_eq_none (List.filterMap_eq_nil_iff.mp hunended entry hentry)
  have hanswered := h.answered.silences_le hearly
  refine ⟨late, hlate, Journal.lookTimes_append (Journal.ended_not_mem_heard hunended), ?_, ?_⟩
  · rw [List.filterMap_append, htimes]
    rfl
  · rw [Journal.payloads_append, List.length_append, Journal.heard, List.filterMap_append,
      Heard.silences_append]
    simp only [Journal.heard] at hanswered ⊢
    omega

/-- A session listens once for each text frame, for each payload and for each look, and once more;
this holds of any transport, and however far the session comes. -/
theorem Runs.length_receives_le {out : Except Halt (Except Error Stats)} {entries : List Entry}
    (h : Runs transport before out after)
    (hgrows : Scene.Grows before.scene after.scene entries) :
    (Journal.receiveTimes entries).length ≤ 1 + (Journal.texts entries).length +
      (Journal.payloads entries).length + (Journal.lookTimes entries).length := by
  obtain ⟨middle, hturns⟩ := h.exists_turns
  obtain ⟨late, hlate, hlooks, -, hsilences⟩ := hturns.journal hgrows
  have htrail := (hturns.trails.journal hlate).1
  rw [Journal.length_receiveTimes, hlooks]
  omega

/-- The looks begin in the drain window, and one pass or more apart. -/
theorem Runs.spread_lookTimes {out : Except Halt (Except Error Stats)} {entries : List Entry}
    (h : Runs transport before out after)
    (hgrows : Scene.Grows before.scene after.scene entries) (hwaits : transport.WaitsOut) :
    entries.filterMap Entry.endTime? = [] ∧ Journal.lookTimes entries = [] ∨
      ∃ ended, entries.filterMap Entry.endTime? = [ended] ∧
        Heard.Spread (before.plan.pollTimeout + before.plan.pollInterval) ended
          (ended + before.plan.drainWindow) (Journal.lookTimes entries) := by
  obtain ⟨middle, hturns⟩ := h.exists_turns
  obtain ⟨late, hlate, hlooks, htimes, -⟩ := hturns.journal hgrows
  rw [hlooks, htimes, ← hturns.plan_eq]
  rcases (hturns.trails.journal hlate).2 with hnone | ⟨ended, hended, hspread⟩
  · exact .inl hnone
  · exact .inr ⟨ended, hended, hspread hwaits⟩

end Session
end SpeechProbe
