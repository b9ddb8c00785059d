import Mathlib.Logic.Function.Basic
import SpeechProbe.Proofs.Session.Passage

/-!
# Waiting for a stop

A stop is a flag and a notifier.  Whoever requests it clears the flag and then notifies everybody
who is registered; whoever waits for it registers first and looks at the flag then, and parks only
if no stop was requested.  Any number of tasks wait and any number of them stop, none waits for the
others, and `StopSignal.Runs` is any interleaving of what each does at once.

Nothing is known of the notifier but what its users are promised (`Notifier`): who is registered
when everybody is notified has a notification then.  The order of the two sides does the rest
(`Guards`): a task that found the flag set was registered before the flag was cleared, and so
before anybody was notified of that.  `runs_wakeups` reads off it that no wake-up is lost.  The
last part shows that a scene that waits for a stop, as a session does between two chunks, only ever
makes such runs.
-/

namespace SpeechProbe

/-! ## Notifiers -/

/-- A ticket loses neither its registration nor its notification. -/
def Notifier.Spares {σ : Type} (registered pending : σ → Nat → Prop) (before after : σ)
    (ticket : Nat) : Prop :=
  (registered before ticket → registered after ticket) ∧
    (pending before ticket → pending after ticket)

/-- A notifier as its users see it.  They register under tickets, and a ticket is released when its
notification was taken or is not waited for any more. -/
structure Notifier where
  State : Type
  /-- Nobody is registered. -/
  idle : State
  register : State → Nat → State
  release : State → Nat → State
  notifyAll : State → State
  /-- A notification of one ticket that comes from nobody. -/
  nudge : State → Nat → State
  /-- The ticket was registered and not released yet. -/
  registered : State → Nat → Prop
  /-- The ticket has a notification that was not taken yet. -/
  pending : State → Nat → Prop
  registered_register : ∀ state ticket, registered (register state ticket) ticket
  registered_notifyAll : ∀ state ticket,
    registered state ticket → registered (notifyAll state) ticket
  pending_notifyAll : ∀ state ticket, registered state ticket → pending (notifyAll state) ticket
  spares_register : ∀ state other ticket, other ≠ ticket →
    Notifier.Spares registered pending state (register state other) ticket
  spares_release : ∀ state other ticket, other ≠ ticket →
    Notifier.Spares registered pending state (release state other) ticket
  spares_nudge : ∀ state other ticket,
    Notifier.Spares registered pending state (nudge state other) ticket

/-- A ticket that is registered is there, and marked if it was notified. -/
def Notifier.tickets : Notifier where
  State := Nat → Option Bool
  idle := fun _ => none
  register := fun state ticket => Function.update state ticket (some false)
  release := fun state ticket => Function.update state ticket none
  notifyAll := fun state ticket => (state ticket).map fun _ => true
  nudge := fun state ticket => Function.update state ticket ((state ticket).map fun _ => true)
  registered := fun state ticket => (state ticket).isSome
  pending := fun state ticket => state ticket = some true
  registered_register := by simp
  registered_notifyAll := by simp
  pending_notifyAll := by
    intro state ticket h
    obtain ⟨mark, hmark⟩ := Option.isSome_iff_exists.mp h
    simp [hmark]
  spares_register := by
    intro state other ticket hne
    simp only [Notifier.Spares, Function.update_of_ne hne.symm]
    exact ⟨id, id⟩
  spares_release := by
    intro state other ticket hne
    simp only [Notifier.Spares, Function.update_of_ne hne.symm]
    exact ⟨id, id⟩
  spares_nudge := by
    intro state other ticket
    by_cases heq : ticket = other
    · subst heq
      simp only [Notifier.Spares, Function.update_self]
      exact ⟨by simp, fun h => by simp [h]⟩
    · simp only [Notifier.Spares, Function.update_of_ne heq]
      exact ⟨id, id⟩

/-- Where a task is in its wait for a stop. -/
inductive Waiter where
  /-- It does not wait. -/
  | away
  /-- It is about to register. -/
  | looping
  /-- It is registered and did not look at the flag yet. -/
  | registered
  /-- It is registered and found the flag set. -/
  | passed
  /-- It sleeps until it is notified. -/
  | parked
  deriving DecidableEq, Repr

namespace Waiter

/-- The places at which a task is registered. -/
def isRegistered : Waiter → Bool
  | .registered | .passed | .parked => true
  | .away | .looping => false

/-- The places at which a task relies on being notified: it found the flag set. -/
def isTrusting : Waiter → Bool
  | .passed | .parked => true
  | .away | .looping | .registered => false

theorem isRegistered_of_isTrusting {place : Waiter} (h : place.isTrusting = true) :
    place.isRegistered = true := by
  cases place <;> simp_all [isTrusting, isRegistered]

/-- How many things a task has left to do until its wait is over, once a stop was requested. -/
def left : Waiter → Nat
  | .away => 0
  | .registered => 1
  | .looping => 2
  | .parked => 3
  | .passed => 4

theorem left_le_four (place : Waiter) : place.left ≤ 4 := by
  cases place <;> decide

end Waiter

/-- Where a request for a stop is. -/
inductive Stopper where
  | idle
  /-- The flag is cleared, and nobody was notified of it yet. -/
  | cleared
  deriving DecidableEq, Repr

/-- A stop flag with its notifier, the tasks that wait for a stop, and those that request one. -/
structure StopSignal (N : Notifier) where
  /-- Whether no stop was requested yet. -/
  running : Bool
  notifier : N.State
  waiter : Nat → Waiter
  stopper : Nat → Stopper

namespace StopSignal

variable {N : Notifier}

/-- Nobody waits and nobody stops. -/
def start (N : Notifier) : StopSignal N := ⟨true, N.idle, fun _ => .away, fun _ => .idle⟩

/-- A task goes to a place. -/
def move (signal : StopSignal N) (task : Nat) (place : Waiter) : StopSignal N :=
  { signal with waiter := Function.update signal.waiter task place }

/-- What happens, one thing at a time. -/
inductive Event where
  /-- A task begins to wait for a stop. -/
  | entered (task : Nat)
  | registered (task : Nat)
  /-- A task looked at the flag and found it set. -/
  | passed (task : Nat)
  | parked (task : Nat)
  /-- A task took its notification. -/
  | woken (task : Nat)
  /-- A task looked at the flag and found it cleared: its wait is over. -/
  | returned (task : Nat)
  /-- A wait is given up, because something else was waited for as well. -/
  | abandoned (task : Nat)
  /-- A request for a stop clears the flag. -/
  | cleared (caller : Nat)
  /-- A request for a stop notifies everybody; with that it is complete. -/
  | notified (caller : Nat)
  /-- A task is notified although nobody stops. -/
  | nudged (task : Nat)
  deriving DecidableEq, Repr

/-- What each party can do. -/
inductive Step : StopSignal N → Event → StopSignal N → Prop where
  | entered (before : StopSignal N) (task : Nat) (away : before.waiter task = .away) :
      Step before (.entered task) (before.move task .looping)
  | registered (before : StopSignal N) (task : Nat) (loops : before.waiter task = .looping) :
      Step before (.registered task)
        { before.move task .registered with notifier := N.register before.notifier task }
  | passed (before : StopSignal N) (task : Nat) (ready : before.waiter task = .registered)
      (running : before.running = true) : Step before (.passed task) (before.move task .passed)
  | parked (before : StopSignal N) (task : Nat) (passed : before.waiter task = .passed) :
      Step before (.parked task) (before.move task .parked)
  | woken (before : StopSignal N) (task : Nat) (sleeps : before.waiter task = .parked)
      (pending : N.pending before.notifier task) :
      Step before (.woken task)
        { before.move task .looping with notifier := N.release before.notifier task }
  | returned (before : StopSignal N) (task : Nat) (ready : before.waiter task = .registered)
      (stop : before.running = false) :
      Step before (.returned task)
        { before.move task .away with notifier := N.release before.notifier task }
  | abandoned (before : StopSignal N) (task : Nat) (sleeps : before.waiter task = .parked) :
      Step before (.abandoned task)
        { before.move task .away with notifier := N.release before.notifier task }
  | cleared (before : StopSignal N) (caller : Nat) (idle : before.stopper caller = .idle) :
      Step before (.cleared caller)
        { before with
          running := false, stopper := Function.update before.stopper caller .cleared }
  | notified (before : StopSignal N) (caller : Nat) (cleared : before.stopper caller = .cleared) :
      Step before (.notified caller)
        { before with
          notifier := N.notifyAll before.notifier
          stopper := Function.update before.stopper caller .idle }
  | nudged (before : StopSignal N) (task : Nat) :
      Step before (.nudged task) { before with notifier := N.nudge before.notifier task }

/-- Any interleaving of steps, and what happened in it. -/
inductive Runs : StopSignal N → List Event → StopSignal N → Prop where
  | nil (signal : StopSignal N) : Runs signal [] signal
  | cons {first second third : StopSignal N} {event : Event} {events : List Event}
      (step : Step first event second) (rest : Runs second events third) :
      Runs first (event :: events) third

theorem Step.runs {before after : StopSignal N} {event : Event} (h : Step before event after) :
    Runs before [event] after :=
  .cons h (.nil after)

theorem Runs.append {first second third : StopSignal N} {events events' : List Event}
    (h : Runs first events second) (h' : Runs second events' third) :
    Runs first (events ++ events') third := by
  induction h with
  | nil signal => exact h'
  | cons step rest ih => exact .cons step (ih h')

/-- A run can be looked at in the middle. -/
theorem Runs.split {first third : StopSignal N} {events events' : List Event}
    (h : Runs first (events ++ events') third) :
    ∃ second, Runs first events second ∧ Runs second events' third := by
  induction events generalizing first with
  | nil => exact ⟨first, .nil first, h⟩
  | cons event events ih =>
    cases h with
    | cons step rest =>
      obtain ⟨second, hrun, hrest⟩ := ih rest
      exact ⟨second, .cons step hrun, hrest⟩

/-! ## Steps -/

namespace Event

/-- The task of an event in its wait. -/
def task? : Event → Option Nat
  | entered task | registered task | passed task | parked task | woken task | returned task
  | abandoned task => some task
  | cleared _ | notified _ | nudged _ => none

/-- A task does the next thing in its wait; it neither begins the wait nor gives it up. -/
def movesOn (task : Nat) : Event → Bool
  | registered mover | passed mover | parked mover | woken mover | returned mover => mover == task
  | entered _ | abandoned _ | cleared _ | notified _ | nudged _ => false

/-- A request for a stop clears the flag. -/
def clears : Event → Bool
  | cleared _ => true
  | _ => false

end Event

@[simp] theorem move_waiter_self (signal : StopSignal N) (task : Nat) (place : Waiter) :
    (signal.move task place).waiter task = place :=
  Function.update_self ..

theorem move_waiter_of_ne {task other : Nat} (hne : other ≠ task) (signal : StopSignal N)
    (place : Waiter) : (signal.move task place).waiter other = signal.waiter other :=
  Function.update_of_ne hne ..

@[simp] theorem move_running (signal : StopSignal N) (task : Nat) (place : Waiter) :
    (signal.move task place).running = signal.running := rfl

@[simp] theorem move_notifier (signal : StopSignal N) (task : Nat) (place : Waiter) :
    (signal.move task place).notifier = signal.notifier := rfl

@[simp] theorem move_stopper (signal : StopSignal N) (task : Nat) (place : Waiter) :
    (signal.move task place).stopper = signal.stopper := rfl

section Step

variable {before after : StopSignal N} {event : Event} {task : Nat}

/-- What others do takes nothing from a task. -/
theorem Step.spares (h : Step before event after) (hother : event.task? ≠ some task) :
    after.waiter task = before.waiter task ∧
      (N.registered before.notifier task → N.registered after.notifier task ∧
        (N.pending before.notifier task → N.pending after.notifier task)) := by
  have hne {mover : Nat} (hmover : some mover ≠ some task) : task ≠ mover :=
    fun heq => hmover (congrArg some heq.symm)
  cases h with
  | entered mover | passed mover | parked mover =>
    exact ⟨move_waiter_of_ne (hne hother) .., fun h => ⟨h, id⟩⟩
  | registered mover =>
    obtain ⟨hregistered, hpending⟩ := N.spares_register before.notifier mover task (hne hother).symm
    exact ⟨move_waiter_of_ne (hne hother) .., fun h => ⟨hregistered h, hpending⟩⟩
  | woken mover | returned mover | abandoned mover =>
    obtain ⟨hregistered, hpending⟩ := N.spares_release before.notifier mover task (hne hother).symm
    exact ⟨move_waiter_of_ne (hne hother) .., fun h => ⟨hregistered h, hpending⟩⟩
  | cleared caller => exact ⟨rfl, fun h => ⟨h, id⟩⟩
  | notified caller =>
    exact ⟨rfl, fun h => ⟨N.registered_notifyAll _ _ h, fun _ => N.pending_notifyAll _ _ h⟩⟩
  | nudged other =>
    obtain ⟨hregistered, hpending⟩ := N.spares_nudge before.notifier other task
    exact ⟨rfl, fun h => ⟨hregistered h, hpending⟩⟩

/-- Where a task gets by itself: it is registered where it relies on that, and it only begins to
rely on being notified while the flag is set. -/
theorem Step.own (h : Step before event after) (hown : event.task? = some task) :
    ((after.waiter task).isRegistered = true →
      N.registered after.notifier task ∨
        (before.waiter task).isRegistered = true ∧ after.notifier = before.notifier) ∧
    ((after.waiter task).isTrusting = true → before.running = true ∨
      (before.waiter task).isTrusting = true ∧ after.notifier = before.notifier) := by
  cases h <;> cases hown
  case registered loops => simp [Waiter.isTrusting, N.registered_register]
  case passed running ready => simp [ready, running, Waiter.isRegistered]
  case parked passed => simp [passed, Waiter.isRegistered, Waiter.isTrusting]
  all_goals simp [Waiter.isRegistered, Waiter.isTrusting]

/-- Whether a request clears the flag. -/
theorem Step.running_eq (h : Step before event after) :
    after.running = (before.running && !event.clears) := by
  cases h <;> simp [Event.clears]

/-- A request is half done from the event that clears the flag to the one that notifies. -/
theorem Step.stopper_eq (h : Step before event after) {caller : Nat}
    (hcleared : after.stopper caller = .cleared) :
    event = .cleared caller ∨ before.stopper caller = .cleared := by
  cases h with
  | cleared other idle =>
    by_cases heq : caller = other
    · exact .inl (by rw [heq])
    · simp only [Function.update_of_ne heq] at hcleared
      exact .inr hcleared
  | notified other cleared =>
    by_cases heq : caller = other
    · simp [heq] at hcleared
    · simp only [Function.update_of_ne heq] at hcleared
      exact .inr hcleared
  | _ => exact .inr hcleared

end Step

/-! ## Runs -/

/-- A stop was requested: somebody cleared the flag. -/
def Requested (events : List Event) : Prop := ∃ caller, .cleared caller ∈ events

/-- A request for a stop is complete: somebody notified everybody. -/
def Completed (events : List Event) : Prop := ∃ caller, .notified caller ∈ events

/-- What holds of a stop signal after all that happened to it since the start.  The flag is cleared
by requests alone, and each of them clears it before it notifies anybody.  A task at a place at
which it relies on being registered is registered, and one that found the flag set has its
notification as soon as anybody was notified. -/
structure Guards (events : List Event) (signal : StopSignal N) : Prop where
  running_iff : signal.running = false ↔ Requested events
  cleared : ∀ caller, signal.stopper caller = .cleared → Requested events
  completed : Completed events → Requested events
  registered : ∀ task, (signal.waiter task).isRegistered = true →
    N.registered signal.notifier task
  pending : ∀ task, (signal.waiter task).isTrusting = true → Completed events →
    N.pending signal.notifier task

theorem guards_start (N : Notifier) : Guards [] (start N) where
  running_iff := by simp [start, Requested]
  cleared := by simp [start]
  completed := by simp [Completed]
  registered := by simp [start, Waiter.isRegistered]
  pending := by simp [Completed]

section Run

variable {events : List Event} {before after : StopSignal N} {event : Event}

theorem requested_concat :
    Requested (events ++ [event]) ↔ Requested events ∨ event.clears = true := by
  cases event <;> simp [Requested, Event.clears]

theorem completed_concat :
    Completed (events ++ [event]) ↔ Completed events ∨ ∃ caller, event = .notified caller := by
  simp only [Completed, List.mem_append, List.mem_singleton, exists_or, eq_comm]

/-- Whoever notifies has cleared the flag. -/
theorem Guards.requested_of_completed (hguards : Guards events before)
    (h : Step before event after) (hcompleted : Completed (events ++ [event])) :
    Requested events := by
  rcases completed_concat.mp hcompleted with hearlier | ⟨caller, rfl⟩
  · exact hguards.completed hearlier
  · cases h with
    | notified caller cleared => exact hguards.cleared caller cleared

theorem Guards.step (hguards : Guards events before) (h : Step before event after) :
    Guards (events ++ [event]) after where
  running_iff := by
    rw [h.running_eq, Bool.and_eq_false_iff, hguards.running_iff, requested_concat]
    simp
  cleared caller hcleared := by
    rw [requested_concat]
    rcases h.stopper_eq hcleared with rfl | hearlier
    · exact .inr rfl
    · exact .inl (hguards.cleared caller hearlier)
  completed hcompleted :=
    requested_concat.mpr (.inl (hguards.requested_of_completed h hcompleted))
  registered task hplace := by
    by_cases hown : event.task? = some task
    · rcases (h.own hown).1 hplace with hregistered | ⟨hearlier, hsame⟩
      · exact hregistered
      · rw [hsame]
        exact hguards.registered task hearlier
    · obtain ⟨hsame, hspares⟩ := h.spares hown
      rw [hsame] at hplace
      exact (hspares (hguards.registered task hplace)).1
  pending task hplace hcompleted := by
    have hrequested := hguards.requested_of_completed h hcompleted
    by_cases hown : event.task? = some task
    · -- it found the flag set just now, or it relied on its notification before
      rcases (h.own hown).2 hplace with hrunning | ⟨hearlier, hsame⟩
      · rw [hguards.running_iff.mpr hrequested] at hrunning
        cases hrunning
      · rw [hsame]
        refine hguards.pending task hearlier ?_
        rcases completed_concat.mp hcompleted with hbefore | ⟨caller, rfl⟩
        · exact hbefore
        · cases hown
    · obtain ⟨hsame, hspares⟩ := h.spares hown
      rw [hsame] at hplace
      have hregistered := hguards.registered task (Waiter.isRegistered_of_isTrusting hplace)
      rcases completed_concat.mp hcompleted with hbefore | ⟨caller, rfl⟩
      · exact (hspares hregistered).2 (hguards.pending task hplace hbefore)
      · cases h with
        | notified caller cleared => exact N.pending_notifyAll _ _ hregistered

theorem Guards.runs {events' : List Event} (hguards : Guards events before)
    (h : Runs before events' after) : Guards (events ++ events') after := by
  induction h generalizing events with
  | nil signal =>
    rw [List.append_nil]
    exact hguards
  | @cons first second third event events' step rest ih =>
    have hrest := ih (hguards.step step)
    rw [List.append_assoc] at hrest
    exact hrest

theorem Runs.guards (h : Runs (start N) events after) : Guards events after :=
  (guards_start N).runs h

/-! ## What a task can rely on -/

/-- A task returns only when it finds that a stop was requested. -/
theorem Guards.requested_of_returned (hguards : Guards events before) {task : Nat}
    (h : Step before (.returned task) after) : Requested events := by
  cases h with
  | returned task ready stop => exact hguards.running_iff.mp stop

/-- Once a request is complete, every task that waits can do the next thing. -/
theorem Guards.exists_step (hguards : Guards events before) (hcompleted : Completed events)
    {task : Nat} (hwaits : before.waiter task ≠ .away) :
    ∃ event after, event.movesOn task = true ∧ Step before event after := by
  have hstop : before.running = false := hguards.running_iff.mpr (hguards.completed hcompleted)
  cases hplace : before.waiter task with
  | away => exact absurd hplace hwaits
  | looping => exact ⟨_, _, by simp [Event.movesOn], .registered before task hplace⟩
  | registered => exact ⟨_, _, by simp [Event.movesOn], .returned before task hplace hstop⟩
  | passed => exact ⟨_, _, by simp [Event.movesOn], .parked before task hplace⟩
  | parked =>
    have hpending := hguards.pending task (by rw [hplace]; rfl) hcompleted
    exact ⟨_, _, by simp [Event.movesOn], .woken before task hplace hpending⟩

/-- After a request every thing a task does in its wait brings it nearer to the end. -/
theorem Step.left_own (h : Step before event after) (hstop : before.running = false) {task : Nat}
    (hown : event.task? = some task) (hentered : event ≠ .entered task) :
    (after.waiter task).left + (if event.movesOn task then 1 else 0) ≤
      (before.waiter task).left := by
  cases h <;> cases hown
  case entered away => exact absurd rfl hentered
  all_goals simp_all [Event.movesOn, Waiter.left]

/-- What others do does not take it back. -/
theorem Step.left_le (h : Step before event after) (hstop : before.running = false) {task : Nat}
    (hentered : event ≠ .entered task) :
    (after.waiter task).left + (if event.movesOn task then 1 else 0) ≤
      (before.waiter task).left := by
  by_cases hown : event.task? = some task
  · exact h.left_own hstop hown hentered
  · have hidle : event.movesOn task = false := by
      cases event <;> simp_all [Event.movesOn, Event.task?]
    rw [(h.spares hown).1, hidle]
    exact Nat.le_refl _

theorem Runs.left_le (h : Runs before events after) (hstop : before.running = false) {task : Nat}
    (hentered : .entered task ∉ events) :
    (after.waiter task).left + events.countP (·.movesOn task) ≤ (before.waiter task).left := by
  induction h with
  | nil signal => exact Nat.le_refl _
  | @cons first second third event events step rest ih =>
    rw [List.mem_cons, not_or] at hentered
    have hfirst := step.left_le hstop (Ne.symm hentered.1)
    have hrest := ih (by rw [step.running_eq, hstop, Bool.false_and]) hentered.2
    rw [List.countP_cons]
    lia

end Run

/-- What holds of waiting for a stop at every moment of every interleaving.

Once a request is complete, no task sleeps without a notification that it has yet to take.  A wait
is over only after somebody cleared the flag; a task that is notified goes to where it began and
has to look at the flag again.  And once a request is complete, whoever still waits can always do
the next thing, and has at most four of them to do until its wait is over, whatever others do
between them. -/
theorem runs_wakeups {N : Notifier} {events : List Event} {signal : StopSignal N}
    (h : Runs (start N) events signal) :
    (Completed events → ∀ task, signal.waiter task = .parked →
      N.pending signal.notifier task) ∧
    (∀ task earlier later, events = earlier ++ .returned task :: later → Requested earlier) ∧
    (∀ task earlier later, events = earlier ++ .woken task :: later →
      ∃ woken, Runs (start N) (earlier ++ [.woken task]) woken ∧ woken.waiter task = .looping ∧
        Runs woken later signal) ∧
    (Completed events → ∀ task, signal.waiter task ≠ .away →
      ∃ event after, event.movesOn task = true ∧ Step signal event after) ∧
    (Completed events → ∀ task later last, Runs signal later last → .entered task ∉ later →
      later.countP (·.movesOn task) ≤ 4) := by
  refine ⟨fun hcompleted task hparked => ?_, ?_, ?_, fun hcompleted task => ?_, ?_⟩
  · exact h.guards.pending task (by rw [hparked]; rfl) hcompleted
  · rintro task earlier later rfl
    obtain ⟨before, hbefore, hrest⟩ := h.split
    cases hrest with
    | cons step rest => exact hbefore.guards.requested_of_returned step
  · rintro task earlier later rfl
    obtain ⟨before, hbefore, hrest⟩ := h.split
    cases hrest with
    | cons step rest =>
      refine ⟨_, hbefore.append step.runs, ?_, rest⟩
      cases step with
      | woken task sleeps pending => exact move_waiter_self ..
  · exact h.guards.exists_step hcompleted
  · intro hcompleted task later last hlater hentered
    have hstop := h.guards.running_iff.mpr (h.guards.completed hcompleted)
    have hle := hlater.left_le hstop hentered
    have hfour := (signal.waiter task).left_le_four
    lia

/-- Two tasks and two requests.  The first task is notified out of turn and goes round; the second
registers between the two halves of the first request, looks at the flag before anybody cleared
it, and parks after the other one was complete. -/
def contended : List Event :=
  [ .entered 0, .registered 0, .passed 0, .parked 0, .nudged 0, .woken 0, .registered 0
  , .entered 1, .registered 1, .passed 0, .passed 1, .cleared 0, .cleared 1, .parked 0
  , .notified 1, .parked 1, .woken 0, .registered 0, .returned 0 ]

/-- What holds at the end of the contended run. -/
theorem runs_wakeups_contended :
    ∃ signal, Runs (start Notifier.tickets) contended signal ∧ signal.waiter 1 = .parked ∧
      Notifier.tickets.pending signal.notifier 1 ∧
      ∃ event after, event.movesOn 1 = true ∧ Step signal event after := by
  have hruns : ∃ signal, Runs (start Notifier.tickets) contended signal ∧
      signal.waiter 1 = .parked :=
    ⟨_, .cons (.entered _ 0 rfl) <| .cons (.registered _ 0 rfl) <| .cons (.passed _ 0 rfl rfl) <|
      .cons (.parked _ 0 rfl) <| .cons (.nudged _ 0) <| .cons (.woken _ 0 rfl rfl) <|
      .cons (.registered _ 0 rfl) <| .cons (.entered _ 1 rfl) <| .cons (.registered _ 1 rfl) <|
      .cons (.passed _ 0 rfl rfl) <| .cons (.passed _ 1 rfl rfl) <| .cons (.cleared _ 0 rfl) <|
      .cons (.cleared _ 1 rfl) <| .cons (.parked _ 0 rfl) <| .cons (.notified _ 1 rfl) <|
      .cons (.parked _ 1 rfl) <| .cons (.woken _ 0 rfl rfl) <| .cons (.registered _ 0 rfl) <|
      .cons (.returned _ 0 rfl rfl) <| .nil _, rfl⟩
  obtain ⟨signal, hrun, hparked⟩ := hruns
  have hcompleted : Completed contended := ⟨1, by decide⟩
  obtain ⟨hpending, -, -, hmoves, -⟩ := runs_wakeups hrun
  exact ⟨signal, hrun, hparked, hpending hcompleted 1 hparked,
    hmoves hcompleted 1 (by rw [hparked]; decide)⟩

/-! ## Scenes -/

/-- A scene's stop flag, with all that happened to it.  A scene requests a stop at one moment, so
that no request is half done between two of its steps. -/
structure Mirrors (events : List Event) (signal : StopSignal N) (scene : Scene) : Prop where
  runs : Runs (start N) events signal
  running_eq : scene.running = signal.running
  idle : ∀ caller, signal.stopper caller = .idle
  completed : Requested events → Completed events

/-- The requests for a stop among what happened to a scene. -/
def requests (entries : List Entry) : List Event :=
  entries.flatMap fun entry => if entry.isStop then [.cleared 0, .notified 0] else []

theorem returned_not_mem_requests (task : Nat) (entries : List Entry) :
    .returned task ∉ requests entries := by
  intro hmem
  obtain ⟨entry, -, hevent⟩ := List.mem_flatMap.mp hmem
  split at hevent <;> simp at hevent

theorem completed_of_requested {entries : List Entry} (h : Requested (requests entries)) :
    Completed (requests entries) := by
  obtain ⟨caller, hmem⟩ := h
  obtain ⟨entry, hentry, hevent⟩ := List.mem_flatMap.mp hmem
  refine ⟨0, List.mem_flatMap.mpr ⟨entry, hentry, ?_⟩⟩
  split at hevent
  · rename_i hstop
    simp [hstop]
  · simp at hevent

/-- A request that nobody else gets into. -/
theorem exists_requested {signal : StopSignal N} (hidle : ∀ caller, signal.stopper caller = .idle) :
    ∃ next, Runs signal [.cleared 0, .notified 0] next ∧ next.running = false ∧
      next.waiter = signal.waiter ∧ ∀ caller, next.stopper caller = .idle := by
  refine ⟨_, .cons (.cleared signal 0 (hidle 0)) (Step.notified _ 0 (by simp)).runs, rfl, rfl,
    fun caller => ?_⟩
  by_cases heq : caller = 0
  · simp [heq]
  · simp [Function.update_of_ne heq, hidle caller]

theorem exists_requests (entries : List Entry) {signal : StopSignal N}
    (hidle : ∀ caller, signal.stopper caller = .idle) :
    ∃ next, Runs signal (requests entries) next ∧
      next.running = (signal.running && !entries.any Entry.isStop) ∧
      next.waiter = signal.waiter ∧ ∀ caller, next.stopper caller = .idle := by
  induction entries generalizing signal with
  | nil => exact ⟨signal, .nil signal, by simp, rfl, hidle⟩
  | cons entry rest ih =>
    rw [requests, List.flatMap_cons, ← requests, List.any_cons]
    cases hstop : entry.isStop with
    | false => simpa using ih hidle
    | true =>
      obtain ⟨stopped, hfirst, hrunning, hwaiter, hidle'⟩ := exists_requested hidle
      obtain ⟨next, hrest, hrunning', hwaiter', hnext⟩ := ih hidle'
      exact ⟨next, hfirst.append hrest, by simp [hrunning', hrunning], hwaiter'.trans hwaiter,
        hnext⟩

/-- Of all that happens while time passes, only requests are about the stop flag. -/
theorem Mirrors.passage {events : List Event} {signal : StopSignal N} {before after : Scene}
    {entries : List Entry} (hmirrors : Mirrors events signal before)
    (h : Scene.Passage before after entries) :
    ∃ next, Runs signal (requests entries) next ∧
      Mirrors (events ++ requests entries) next after ∧ next.waiter = signal.waiter := by
  obtain ⟨next, hruns, hrunning, hwaiter, hidle⟩ := exists_requests entries hmirrors.idle
  refine ⟨next, hruns, ⟨hmirrors.runs.append hruns, ?_, hidle, ?_⟩, hwaiter⟩
  · rw [h.running_eq, hmirrors.running_eq, hrunning]
  · rintro ⟨caller, hmem⟩
    rcases List.mem_append.mp hmem with hearlier | hlater
    · obtain ⟨other, hnotified⟩ := hmirrors.completed ⟨caller, hearlier⟩
      exact ⟨other, List.mem_append_left _ hnotified⟩
    · obtain ⟨other, hnotified⟩ := completed_of_requested ⟨caller, hlater⟩
      exact ⟨other, List.mem_append_right _ hnotified⟩

/-- What tasks do by themselves changes neither the flag nor a request. -/
theorem Mirrors.append {events later : List Event} {signal next : StopSignal N} {scene : Scene}
    (hmirrors : Mirrors events signal scene) (h : Runs signal later next)
    (hrunning : next.running = signal.running) (hstopper : next.stopper = signal.stopper)
    (hcleared : ¬ Requested later) : Mirrors (events ++ later) next scene where
  runs := hmirrors.runs.append h
  running_eq := hmirrors.running_eq.trans hrunning.symm
  idle := fun caller => (congrFun hstopper caller).trans (hmirrors.idle caller)
  completed := by
    rintro ⟨caller, hmem⟩
    rcases List.mem_append.mp hmem with hearlier | hlater
    · obtain ⟨other, hnotified⟩ := hmirrors.completed ⟨caller, hearlier⟩
      exact ⟨other, List.mem_append_left _ hnotified⟩
    · exact absurd ⟨caller, hlater⟩ hcleared

section Wait

variable {signal : StopSignal N} {task : Nat}

/-- While no stop was requested, a task that begins to wait gets to sleep. -/
theorem exists_parked (haway : signal.waiter task = .away) (hrunning : signal.running = true) :
    ∃ next, Runs signal [.entered task, .registered task, .passed task, .parked task] next ∧
      next.waiter task = .parked ∧ next.running = signal.running ∧
      next.stopper = signal.stopper :=
  ⟨_, .cons (.entered signal task haway) <| .cons (.registered _ task (by simp)) <|
    .cons (.passed _ task (by simp) hrunning) <| (Step.parked _ task (by simp)).runs,
    by simp, rfl, rfl⟩

/-- After a stop was requested, a task that was notified gets to the end of its wait. -/
theorem exists_returned (hparked : signal.waiter task = .parked)
    (hpending : N.pending signal.notifier task) (hstop : signal.running = false) :
    ∃ next, Runs signal [.woken task, .registered task, .returned task] next ∧
      next.waiter task = .away ∧ next.running = signal.running ∧
      next.stopper = signal.stopper :=
  ⟨_, .cons (.woken signal task hparked hpending) <| .cons (.registered _ task (by simp)) <|
    (Step.returned _ task (by simp) (by simpa using hstop)).runs, by simp, rfl, rfl⟩

/-- A task whose wait is given up. -/
theorem exists_abandoned (hparked : signal.waiter task = .parked) :
    ∃ next, Runs signal [.abandoned task] next ∧ next.waiter task = .away ∧
      next.running = signal.running ∧ next.stopper = signal.stopper :=
  ⟨_, (Step.abandoned signal task hparked).runs, by simp, rfl, rfl⟩

end Wait

/-- A scene that waits for one interval has a task wait for a stop meanwhile.  It does not go on
exactly if a stop was requested before or that wait came to its end. -/
theorem pace_runs {events : List Event} {signal : StopSignal N} {scene : Scene}
    (hmirrors : Mirrors events signal scene) {task : Nat} (haway : signal.waiter task = .away)
    (interval sentAt : Nanos) :
    ∃ later next, Runs signal later next ∧
      Mirrors (events ++ later) next (scene.pace (some interval) sentAt).2 ∧
      next.waiter task = .away ∧
      ((scene.pace (some interval) sentAt).1 = false ↔
        Requested events ∨ .returned task ∈ later) := by
  have hflag := hmirrors.runs.guards.running_iff
  rw [← hmirrors.running_eq] at hflag
  cases hrunning : scene.running with
  | false =>
    refine ⟨[], signal, .nil signal, ?_, haway, ?_⟩
    · rw [List.append_nil]
      simpa [Scene.pace, hrunning] using hmirrors
    · simp [Scene.pace, hrunning, ← hflag]
  | true =>
    obtain ⟨sleeping, hsleeps, hparked, hrunning', hstopper⟩ :=
      exists_parked haway (hmirrors.running_eq.symm.trans hrunning)
    have hsleeping := hmirrors.append hsleeps hrunning' hstopper (by simp [Requested])
    obtain ⟨entries, hpassage⟩ : ∃ entries,
        Scene.Passage scene (scene.waitUntil (sentAt + interval)) entries :=
      Scene.passage_untilStopped (sentAt + interval) scene.coming scene
    obtain ⟨waited, hwaits, hwaited, hwaiter⟩ := hsleeping.passage hpassage
    have hsilent := returned_not_mem_requests task entries
    rw [← hwaiter] at hparked
    have hpace : scene.pace (some interval) sentAt =
        ((scene.waitUntil (sentAt + interval)).running, scene.waitUntil (sentAt + interval)) := by
      simp [Scene.pace, hrunning]
    have hbefore : ¬ Requested events := by simp [← hflag, hrunning]
    rw [hpace]
    cases hafter : (scene.waitUntil (sentAt + interval)).running with
    | true =>
      obtain ⟨next, hruns, haway', hrunning', hstopper⟩ := exists_abandoned hparked
      have hnext := hwaited.append hruns hrunning' hstopper (by simp [Requested])
      refine ⟨_, next, hsleeps.append (hwaits.append hruns), ?_, haway', ?_⟩
      · simpa [List.append_assoc] using hnext
      · simp [hbefore, hsilent]
    | false =>
      have hstop : waited.running = false := hwaited.running_eq.symm.trans hafter
      have hpending := hwaited.runs.guards.pending task (by rw [hparked]; rfl)
        (hwaited.completed (hwaited.runs.guards.running_iff.mp hstop))
      obtain ⟨next, hruns, haway', hrunning', hstopper⟩ := exists_returned hparked hpending hstop
      have hnext := hwaited.append hruns hrunning' hstopper (by simp [Requested])
      refine ⟨_, next, hsleeps.append (hwaits.append hruns), ?_, haway', ?_⟩
      · simpa [List.append_assoc] using hnext
      · simp

end StopSignal
end SpeechProbe
