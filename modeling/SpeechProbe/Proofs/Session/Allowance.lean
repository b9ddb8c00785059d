import SpeechProbe.Proofs.Session.Stops

/-!
# What a step allowance decides

The loops of a session run on an allowance of steps, so that a theorem about all allowances
speaks of a run of any length, also of one that never ends.  An allowance decides how far a
session comes and nothing else: what did not run out of steps goes the same way on every larger
allowance (`runCourse_prolongs`), and apart from the allowance the end of a session breaks off
only where a clock cannot hold its deadline (`Finishes.halt_cases`).
-/

namespace SpeechProbe

namespace Course

variable {σ α β : Type}

/-- `longer` goes the way of `course`, unless `course` ran out of steps. -/
def Prolongs (longer course : Course σ α) : Prop :=
  course.outcome ≠ .error .outOfSteps → longer = course

theorem Prolongs.refl (course : Course σ α) : course.Prolongs course := fun _ => rfl

/-- Whatever ran out of steps may go on in any way. -/
theorem Prolongs.of_outOfSteps (longer : Course σ α) (session : Session σ) :
    longer.Prolongs (.halted .outOfSteps session) := fun h => absurd rfl h

/-- Parts that are prolonged make up a whole that is. -/
theorem Prolongs.andThen {longer course : Course σ α} {next next' : α → Session σ → Course σ β}
    (h : longer.Prolongs course)
    (hnext : ∀ outcome session, (next' outcome session).Prolongs (next outcome session)) :
    (longer.andThen next').Prolongs (course.andThen next) := by
  rcases course with ⟨halt | outcome, session⟩
  · intro hsteps
    have hhalt : halt ≠ .outOfSteps := fun heq => hsteps (by rw [heq]; rfl)
    rw [h (by simpa using hhalt)]
    rfl
  · rw [h (by simp)]
    exact hnext outcome session

/-- A whole that breaks off does so in its first part or in its second. -/
theorem andThen_eq_error {course : Course σ α}
    {next : α → Session σ → Course σ β} {halt : Halt}
    (h : (course.andThen next).outcome = .error halt) :
    course.outcome = .error halt ∧ (course.andThen next).session = course.session ∨
      ∃ outcome, course.outcome = .ok outcome ∧
        (next outcome course.session).outcome = .error halt ∧
        (course.andThen next).session = (next outcome course.session).session := by
  rcases course with ⟨halt' | outcome, session⟩
  · exact .inl ⟨congrArg Except.error (Except.error.inj h), rfl⟩
  · exact .inr ⟨outcome, rfl, h, rfl⟩

end Course

namespace Session

open Course (Prolongs)

variable {σ : Type} (transport : Transport σ) {fuel fuel' : Nat}

/-! ## Larger allowances -/

theorem drainAfter_prolongs (hfuel : fuel ≤ fuel') (frames : Nat) (session : Session σ) :
    (drainAfter transport fuel' frames session).Prolongs
      (drainAfter transport fuel frames session) := by
  induction fuel generalizing fuel' frames session with
  | zero => exact .of_outOfSteps _ _
  | succ fuel ih =>
    obtain ⟨fuel', rfl⟩ : ∃ n, fuel' = n + 1 := ⟨fuel' - 1, by omega⟩
    rw [drainAfter, drainAfter]
    split
    · exact .refl _
    · exact .refl _
    · exact .refl _
    · exact ih (Nat.le_of_succ_le_succ hfuel) _ _

theorem drainCourse_prolongs (hfuel : fuel ≤ fuel') (session : Session σ) :
    (session.drainCourse transport fuel').Prolongs (session.drainCourse transport fuel) :=
  drainAfter_prolongs transport hfuel 0 session

theorem deliver_prolongs (hfuel : fuel ≤ fuel') (chunk : Chunk) (session : Session σ) :
    (session.deliver transport fuel' chunk).Prolongs (session.deliver transport fuel chunk) := by
  unfold deliver
  dsimp only
  split
  · exact .refl _
  · exact (drainCourse_prolongs transport hfuel _).andThen fun _ _ => .refl _

theorem round_prolongs (n : Nat) (hfuel : fuel ≤ fuel') (session : Session σ) :
    (session.round transport n fuel').Prolongs (session.round transport n fuel) := by
  unfold round
  split
  · exact .refl _
  · refine (Prolongs.refl _).andThen fun next fetched => ?_
    split
    · exact .refl _
    · split
      · exact .refl _
      · split
        · exact .refl _
        · exact deliver_prolongs transport hfuel _ fetched

theorem sendChunks_prolongs (n : Nat) (hfuel : fuel ≤ fuel') (session : Session σ) :
    (sendChunks transport n fuel' session).Prolongs (sendChunks transport n fuel session) := by
  induction fuel generalizing fuel' session with
  | zero => exact .of_outOfSteps _ _
  | succ fuel ih =>
    obtain ⟨fuel', rfl⟩ : ∃ n, fuel' = n + 1 := ⟨fuel' - 1, by omega⟩
    have hle := Nat.le_of_succ_le_succ hfuel
    rw [sendChunks, sendChunks]
    refine (round_prolongs transport n hle session).andThen fun ending next => ?_
    cases ending with
    | some result => exact .refl _
    | none => exact ih hle next

theorem streamCourse_prolongs (hfuel : fuel ≤ fuel') (session : Session σ) :
    (session.streamCourse transport fuel').Prolongs (session.streamCourse transport fuel) := by
  unfold streamCourse
  dsimp only
  split
  · exact .refl _
  · exact sendChunks_prolongs transport _ hfuel _

theorem collectUntil_prolongs (deadline : Nanos) (hfuel : fuel ≤ fuel') (session : Session σ) :
    (collectUntil transport deadline fuel' session).Prolongs
      (collectUntil transport deadline fuel session) := by
  induction fuel generalizing fuel' session with
  | zero => exact .of_outOfSteps _ _
  | succ fuel ih =>
    obtain ⟨fuel', rfl⟩ : ∃ n, fuel' = n + 1 := ⟨fuel' - 1, by omega⟩
    have hle := Nat.le_of_succ_le_succ hfuel
    rw [collectUntil, collectUntil]
    split
    · exact .refl _
    · have hlook : (session.look transport deadline fuel').Prolongs
          (session.look transport deadline fuel) :=
        (drainCourse_prolongs transport hle session).andThen fun _ _ => .refl _
      refine hlook.andThen fun again next => ?_
      cases again with
      | true => exact ih hle next
      | false => exact .refl _

theorem finishCourse_prolongs (hfuel : fuel ≤ fuel') (session : Session σ) :
    (session.finishCourse transport fuel').Prolongs (session.finishCourse transport fuel) := by
  unfold finishCourse
  dsimp only
  split
  · exact .refl _
  · split
    · exact .refl _
    · split
      · exact .refl _
      · exact (collectUntil_prolongs transport _ hfuel _).andThen fun _ _ => .refl _

/-- A session that did not run out of steps goes the same way on every larger allowance. -/
theorem runCourse_prolongs (hfuel : fuel ≤ fuel') (session : Session σ) :
    (session.runCourse transport fuel').Prolongs (session.runCourse transport fuel) := by
  unfold runCourse
  split
  · exact .refl _
  · split
    · exact .refl _
    · refine (streamCourse_prolongs transport hfuel _).andThen fun streamed next => ?_
      exact (finishCourse_prolongs transport hfuel _).andThen fun _ _ => .refl _

/-- What holds on every allowance up to one that is enough holds on every allowance. -/
theorem forall_runCourse {allowance : Nat} {session : Session σ}
    (henough : (session.runCourse transport allowance).outcome ≠ .error .outOfSteps)
    {P : Course σ (Except Error Stats) → Prop}
    (h : ∀ fuel ≤ allowance, P (session.runCourse transport fuel)) (fuel : Nat) :
    P (session.runCourse transport fuel) := by
  rcases Nat.le_total fuel allowance with hle | hle
  · exact h fuel hle
  · rw [runCourse_prolongs transport hle session henough]
    exact h allowance (Nat.le_refl _)

/-! ## Ways to break off -/

variable {transport} {before after : Session σ}

theorem Collects.halt_eq {deadline : Nanos} {halt : Halt}
    (h : Collects transport deadline before (.error halt) after) : halt = .outOfSteps :=
  (h.listens halt rfl).1

/-- The end of a session breaks off on a short allowance, or at a deadline that a clock cannot
hold. -/
theorem Finishes.halt_cases {halt : Halt} (h : Finishes transport before (.error halt) after) :
    halt = .outOfSteps ∨ halt = .clockOverflow := by
  cases h with
  | overflow open' deadline => exact .inr (drainDeadline_error deadline)
  | broke open' window collect => exact .inl collect.halt_eq

end Session
end SpeechProbe
