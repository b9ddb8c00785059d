import SpeechProbe.Session.Transport

/-!
# Letters and the looks that take them

A peer that answers on its own schedule is a list of letters, each with the time at which
it arrives.  A `Punctual` transport hands each letter to the first receive that waits at
that time or later, and never fails to wait.

`Look` and `Looks` are declarative traces of what a session takes from such a transport.  A
look goes on until nothing came for the poll timeout; looks follow one another, one pause
apart, until the deadline.  Neither mentions a session: they are about times alone.
-/

namespace SpeechProbe

/-- A text frame, and when it arrives. -/
structure Letter where
  due : Nanos
  text : String
  deriving DecidableEq, Repr, Inhabited

/-- The letters of a schedule are listed in the order in which they arrive. -/
def Letter.InOrder (letters : List Letter) : Prop := letters.Pairwise (·.due ≤ ·.due)

/-- A transport whose state holds the letters that were not handed over yet.  A receive
takes the next letter as soon as it is there, and otherwise waits for its whole timeout. -/
structure Transport.Punctual {σ : Type} (transport : Transport σ) (mail : σ → List Letter) :
    Prop where
  delivers : ∀ {peer : σ} {letter : Letter} {rest : List Letter} (now timeout : Nanos),
    mail peer = letter :: rest → letter.due ≤ now + timeout →
      (transport.receive peer now timeout).result = .ok (.text letter.text) ∧
        (transport.receive peer now timeout).elapsed = letter.due - now ∧
        mail (transport.receive peer now timeout).state = rest
  waits : ∀ {peer : σ} (now timeout : Nanos),
    (∀ letter ∈ (mail peer).head?, now + timeout < letter.due) →
      (transport.receive peer now timeout).result = .ok .timeout ∧
        (transport.receive peer now timeout).elapsed = timeout ∧
        mail (transport.receive peer now timeout).state = mail peer

/-- The transport that carries letters and nothing else. -/
def Letter.post : Transport (List Letter) where
  sendMessage letters _ _ := ⟨.ok (), letters, 0, false⟩
  sendAudio letters _ _ := ⟨.ok (), letters, 0, false⟩
  receive letters now timeout :=
    match letters with
    | [] => ⟨.ok .timeout, [], timeout, false⟩
    | letter :: rest =>
      if letter.due ≤ now + timeout then
        ⟨.ok (.text letter.text), rest, letter.due - now, false⟩
      else ⟨.ok .timeout, letter :: rest, timeout, false⟩
  close letters _ := ⟨.ok (), letters, 0, false⟩

theorem Letter.punctual_post : Letter.post.Punctual id where
  delivers := by
    intro peer letter rest now timeout hmail hdue
    have hpeer : peer = letter :: rest := hmail
    rw [hpeer]
    simp [post, hdue]
  waits := by
    intro peer now timeout hlate
    cases peer with
    | nil => simp [post]
    | cons letter rest =>
      have hdue : ¬ letter.due ≤ now + timeout := by
        have hlt := hlate letter (by simp)
        exact Nat.not_le_of_lt hlt
      simp [post, hdue]

/-! ## One look -/

/-- A look that starts at a time with these letters on their way takes some of them, lasts
until another time and leaves the others. -/
inductive Look (poll : Nanos) :
    Nanos → List Letter → List Letter → Nanos → List Letter → Prop where
  | silence {now : Nanos} {letters : List Letter}
      (late : ∀ letter ∈ letters.head?, now + poll < letter.due) :
      Look poll now letters [] (now + poll) letters
  | letter {now heard : Nanos} {letter : Letter} {rest taken left : List Letter}
      (due : letter.due ≤ now + poll)
      (more : Look poll (max now letter.due) rest taken heard left) :
      Look poll now (letter :: rest) (letter :: taken) heard left

namespace Look

variable {poll now heard : Nanos} {letters taken left : List Letter}

theorem letters_eq (h : Look poll now letters taken heard left) : letters = taken ++ left := by
  induction h with
  | silence late => rfl
  | letter due more ih => rw [ih, List.cons_append]

/-- A look ends with a receive in which nothing came. -/
theorem le_heard (h : Look poll now letters taken heard left) : now + poll ≤ heard := by
  induction h with
  | silence late => exact Nat.le_refl _
  | @letter now heard letter rest taken left due more ih =>
    have hmax : now ≤ max now letter.due := Nat.le_max_left _ _
    lia

theorem due_le (h : Look poll now letters taken heard left) :
    ∀ letter ∈ taken, letter.due ≤ heard := by
  induction h with
  | silence late => simp
  | @letter now heard head rest taken left due more ih =>
    intro letter hletter
    rcases List.mem_cons.mp hletter with rfl | hletter
    · have hmax : letter.due ≤ max now letter.due := Nat.le_max_right _ _
      have hle := more.le_heard
      lia
    · exact ih letter hletter

theorem lt_due (h : Look poll now letters taken heard left) (horder : Letter.InOrder letters) :
    ∀ letter ∈ left, heard < letter.due := by
  induction h with
  | @silence now letters late =>
    intro letter hletter
    cases letters with
    | nil => simp at hletter
    | cons head rest =>
      have hhead := late head (by simp)
      rcases List.mem_cons.mp hletter with rfl | hletter
      · exact hhead
      · exact Nat.lt_of_lt_of_le hhead (List.rel_of_pairwise_cons horder hletter)
  | letter due more ih => exact ih (List.Pairwise.of_cons horder)

/-- Times alone decide what a look takes and when it ends. -/
theorem unique {heard' : Nanos} {taken' left' : List Letter}
    (h : Look poll now letters taken heard left)
    (h' : Look poll now letters taken' heard' left') :
    taken = taken' ∧ heard = heard' ∧ left = left' := by
  induction h generalizing taken' heard' left' with
  | silence late =>
    cases h' with
    | silence late' => exact ⟨rfl, rfl, rfl⟩
    | letter due more => exact absurd (late _ rfl) (Nat.not_lt_of_le due)
  | letter due more ih =>
    cases h' with
    | silence late => exact absurd (late _ rfl) (Nat.not_lt_of_le due)
    | letter due' more' =>
      obtain ⟨rfl, rfl, rfl⟩ := ih more'
      exact ⟨rfl, rfl, rfl⟩

end Look

/-! ## Looks until a deadline -/

/-- Looks with a pause after each.  No look follows one whose pause reaches the deadline:
the time that `heard` names is the end of the last look, not the deadline. -/
inductive Looks (poll interval deadline : Nanos) :
    Nanos → List Letter → List Letter → Nanos → List Letter → Prop where
  | last {now heard : Nanos} {letters taken left : List Letter}
      (look : Look poll now letters taken heard left) (late : deadline ≤ heard + interval) :
      Looks poll interval deadline now letters taken heard left
  | more {now paused heard : Nanos} {letters taken taken' rest left : List Letter}
      (look : Look poll now letters taken paused rest) (early : paused + interval < deadline)
      (looks : Looks poll interval deadline (paused + interval) rest taken' heard left) :
      Looks poll interval deadline now letters (taken ++ taken') heard left

namespace Looks

variable {poll interval deadline now heard : Nanos} {letters taken left : List Letter}

theorem letters_eq (h : Looks poll interval deadline now letters taken heard left) :
    letters = taken ++ left := by
  induction h with
  | last look late => exact look.letters_eq
  | more look early looks ih => rw [look.letters_eq, ih, List.append_assoc]

theorem le_heard (h : Looks poll interval deadline now letters taken heard left) :
    now + poll ≤ heard := by
  induction h with
  | last look late => exact look.le_heard
  | more look early looks ih =>
    have hle := look.le_heard
    lia

/-- The last look ends at most one pause before the deadline. -/
theorem deadline_le (h : Looks poll interval deadline now letters taken heard left) :
    deadline ≤ heard + interval := by
  induction h with
  | last look late => exact late
  | more look early looks ih => exact ih

theorem due_le (h : Looks poll interval deadline now letters taken heard left) :
    ∀ letter ∈ taken, letter.due ≤ heard := by
  induction h with
  | last look late => exact look.due_le
  | more look early looks ih =>
    intro letter hletter
    rcases List.mem_append.mp hletter with hletter | hletter
    · have hdue := look.due_le letter hletter
      have hle := looks.le_heard
      lia
    · exact ih letter hletter

theorem lt_due (h : Looks poll interval deadline now letters taken heard left)
    (horder : Letter.InOrder letters) : ∀ letter ∈ left, heard < letter.due := by
  induction h with
  | last look late => exact look.lt_due horder
  | more look early looks ih =>
    rw [look.letters_eq] at horder
    exact ih (List.pairwise_append.mp horder).2.1

/-- Of letters in order, exactly those are taken that arrive until the end of the last
look. -/
theorem taken_eq (h : Looks poll interval deadline now letters taken heard left)
    (horder : Letter.InOrder letters) :
    taken = letters.filter fun letter => letter.due ≤ heard := by
  have htaken : taken.filter (fun letter => letter.due ≤ heard) = taken := by
    rw [List.filter_eq_self]
    intro letter hletter
    exact decide_eq_true (h.due_le letter hletter)
  have hleft : left.filter (fun letter => letter.due ≤ heard) = [] := by
    rw [List.filter_eq_nil_iff]
    intro letter hletter
    have hlt := h.lt_due horder letter hletter
    simpa using hlt
  rw [h.letters_eq, List.filter_append, htaken, hleft, List.append_nil]

/-- Where the first look ends so late that its pause reaches the deadline, it is the last. -/
theorem eq_of_look {paused : Nanos} {first rest : List Letter}
    (h : Looks poll interval deadline now letters taken heard left)
    (hlook : Look poll now letters first paused rest) (hover : deadline ≤ paused + interval) :
    taken = first ∧ heard = paused ∧ left = rest := by
  cases h with
  | last look late => exact look.unique hlook
  | more look early looks =>
    obtain ⟨_, rfl, _⟩ := look.unique hlook
    exact absurd early (Nat.not_lt_of_le hover)

end Looks

/-! ## A schedule that prolongs a look

Letters one poll timeout apart keep a look going for as long as they come. -/

/-- Letters of one text, one poll timeout apart. -/
def Letter.chain (poll first : Nanos) (count : Nat) (text : String) : List Letter :=
  (List.range' first count poll).map fun due => ⟨due, text⟩

namespace Letter

variable {poll first now : Nanos} {last : Letter} {text : String}

theorem chain_succ (count : Nat) : chain poll first (count + 1) text =
    ⟨first, text⟩ :: chain poll (first + poll) count text := by
  rw [chain, List.range'_succ, List.map_cons]
  rfl

/-- A look takes a chain whose first letter is in time, and ends before a letter that does
not come in time after it. -/
theorem look_chain (text : String) (count : Nat) (hnow : now ≤ first) (hfirst : first ≤ now + poll)
    (hlast : first + count * poll + poll < last.due) :
    Look poll now (chain poll first (count + 1) text ++ [last])
      (chain poll first (count + 1) text) (first + count * poll + poll) [last] := by
  induction count generalizing now first with
  | zero =>
    have hlate : ∀ letter ∈ [last].head?, max now first + poll < letter.due := by
      intro letter hletter
      have heq : last = letter := by simpa using hletter
      rw [← heq, Nat.max_eq_right hnow]
      lia
    have hsilence := Look.silence hlate
    rw [Nat.max_eq_right hnow] at hsilence
    rw [chain_succ, Nat.zero_mul, Nat.add_zero]
    refine .letter hfirst ?_
    rw [Nat.max_eq_right hnow]
    exact hsilence
  | succ count ih =>
    have hend : first + (count + 1) * poll = first + poll + count * poll := by
      rw [Nat.add_mul, Nat.one_mul]
      lia
    rw [chain_succ, hend]
    rw [hend] at hlast
    refine .letter hfirst ?_
    rw [Nat.max_eq_right hnow]
    exact ih (Nat.le_add_right _ _) (Nat.le_refl _) hlast

theorem due_of_mem_chain {count : Nat} {letter : Letter}
    (h : letter ∈ chain poll first (count + 1) text) : letter.due ≤ first + count * poll := by
  obtain ⟨due, hdue, rfl⟩ := List.mem_map.mp h
  obtain ⟨i, hi, rfl⟩ := List.mem_range'.mp hdue
  have hmul : poll * i ≤ poll * count := Nat.mul_le_mul_left poll (Nat.le_of_lt_succ hi)
  rw [Nat.mul_comm count poll]
  show first + poll * i ≤ first + poll * count
  exact Nat.add_le_add_left hmul first

theorem inOrder_chain (count : Nat) (hlast : first + count * poll ≤ last.due) :
    InOrder (chain poll first (count + 1) text ++ [last]) := by
  refine List.pairwise_append.mpr ⟨?_, List.pairwise_singleton _ _, ?_⟩
  · refine List.pairwise_map.mpr ?_
    exact List.pairwise_le_range' poll
  · intro letter hletter letter' hletter'
    rw [List.mem_singleton.mp hletter']
    exact Nat.le_trans (due_of_mem_chain hletter) hlast

/-- Letters that keep a look from time zero going until the given time. -/
def prolonging (poll time : Nanos) (text : String) : List Letter :=
  chain poll ((time - poll) % poll) ((time - poll) / poll + 1) text

variable {time : Nanos}

theorem prolonging_end (htime : poll ≤ time) :
    (time - poll) % poll + (time - poll) / poll * poll + poll = time := by
  have hdivision := Nat.mod_add_div (time - poll) poll
  rw [Nat.mul_comm] at hdivision
  rw [hdivision]
  exact Nat.sub_add_cancel htime

theorem look_prolonging (text : String) (hpoll : 0 < poll) (htime : poll ≤ time)
    (hlast : time < last.due) :
    Look poll 0 (prolonging poll time text ++ [last]) (prolonging poll time text) time [last] := by
  have hfirst : (time - poll) % poll ≤ 0 + poll := by
    rw [Nat.zero_add]
    exact Nat.le_of_lt (Nat.mod_lt _ hpoll)
  rw [← prolonging_end htime] at hlast
  have hlook := look_chain text ((time - poll) / poll) (Nat.zero_le _) hfirst hlast
  rw [prolonging_end htime] at hlook
  exact hlook

/-- No letter of such a schedule arrives after the last one. -/
theorem due_le_of_mem_prolonging (htime : poll ≤ time) (hlast : time < last.due) {letter : Letter}
    (h : letter ∈ prolonging poll time text ++ [last]) : letter.due ≤ last.due := by
  rcases List.mem_append.mp h with hletter | hletter
  · have hdue := due_of_mem_chain hletter
    have hend := prolonging_end htime
    lia
  · exact Nat.le_of_eq (congrArg due (List.mem_singleton.mp hletter))

theorem inOrder_prolonging (text : String) (htime : poll ≤ time) (hlast : time < last.due) :
    InOrder (prolonging poll time text ++ [last]) := by
  apply inOrder_chain
  have hend := prolonging_end htime
  lia

end Letter
end SpeechProbe
