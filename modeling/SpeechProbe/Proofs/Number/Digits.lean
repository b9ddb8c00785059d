import SpeechProbe.Number.Decimal

/-!
# Decimal digits

The digits of a number and the number of some digits: each gives the other back, the first
digit of a number that is not zero is not zero, and a run of digits ends where anything else
begins.
-/

namespace SpeechProbe.Decimal

/-! ## One digit -/

theorem isDigit_digitChar {d : Nat} (h : d < 10) : (digitChar d).isDigit = true := by
  revert d
  decide

theorem digitValue_digitChar {d : Nat} (h : d < 10) : digitValue (digitChar d) = d := by
  revert d
  decide

theorem digitChar_ne_zero {d : Nat} (h : d < 10) (hpos : 0 < d) : digitChar d ≠ '0' := by
  revert d
  decide

/-! ## The digits of a number -/

theorem digits_of_lt {n : Nat} (h : n < 10) : digits n = [digitChar n] := by
  rw [digits, if_pos h]

theorem digits_of_le {n : Nat} (h : 10 ≤ n) :
    digits n = digits (n / 10) ++ [digitChar (n % 10)] := by
  rw [digits, if_neg (by omega)]

/-- What holds of a number of one digit and is handed on to one more digit holds of every
number. -/
theorem digits_induction {motive : Nat → Prop} (one : ∀ n, n < 10 → motive n)
    (more : ∀ n, 10 ≤ n → motive (n / 10) → motive n) (n : Nat) : motive n := by
  induction n using Nat.strongRecOn with
  | ind n ih =>
    by_cases h : n < 10
    · exact one n h
    · exact more n (by omega) (ih (n / 10) (by omega))

theorem digits_ne_nil (n : Nat) : digits n ≠ [] := by
  by_cases h : n < 10
  · simp [digits_of_lt h]
  · simp [digits_of_le (Nat.le_of_not_lt h)]

theorem isDigit_of_mem_digits (n : Nat) : ∀ c ∈ digits n, c.isDigit = true := by
  induction n using digits_induction with
  | one n h =>
    rw [digits_of_lt h]
    intro c hc
    rw [List.mem_singleton.mp hc]
    exact isDigit_digitChar h
  | more n h ih =>
    rw [digits_of_le h]
    intro c hc
    rcases List.mem_append.mp hc with hc | hc
    · exact ih c hc
    · rw [List.mem_singleton.mp hc]
      exact isDigit_digitChar (Nat.mod_lt n (by decide))

theorem ofDigits_append_singleton (chars : List Char) (c : Char) :
    ofDigits (chars ++ [c]) = 10 * ofDigits chars + digitValue c := by
  simp [ofDigits]

theorem ofDigits_digits (n : Nat) : ofDigits (digits n) = n := by
  induction n using digits_induction with
  | one n h => simp [digits_of_lt h, ofDigits, digitValue_digitChar h]
  | more n h ih =>
    rw [digits_of_le h, ofDigits_append_singleton, ih,
      digitValue_digitChar (Nat.mod_lt n (by decide))]
    omega

/-- No number but zero begins with a zero. -/
theorem head?_digits_ne_zero {n : Nat} (h : 0 < n) : (digits n).head? ≠ some '0' := by
  induction n using digits_induction with
  | one n hlt =>
    rw [digits_of_lt hlt]
    simpa using digitChar_ne_zero hlt h
  | more n hle ih =>
    have hpos : 0 < n / 10 := Nat.div_pos hle (by decide)
    rw [digits_of_le hle, List.head?_append,
      Option.or_of_isSome (List.isSome_head?.mpr (digits_ne_nil _))]
    exact ih hpos

/-- A zero stands at the front only as the one digit of zero. -/
theorem digits_noZero (n : Nat) (h : (digits n).head? = some '0') : digits n = ['0'] := by
  rcases Nat.eq_zero_or_pos n with rfl | hpos
  · exact digits_of_lt (by decide)
  · exact absurd h (head?_digits_ne_zero hpos)

/-- An integer begins with a minus or a digit. -/
theorem exists_ofInt_eq_cons (i : Int) :
    ∃ c rest, ofInt i = c :: rest ∧ (c = '-' ∨ c.isDigit = true) := by
  rw [ofInt]
  split
  · exact ⟨'-', _, rfl, .inl rfl⟩
  · obtain ⟨c, rest, hc⟩ := List.exists_cons_of_ne_nil (digits_ne_nil i.natAbs)
    exact ⟨c, rest, hc, .inr (isDigit_of_mem_digits i.natAbs c (by simp [hc]))⟩

/-! ## Runs of digits -/

/-- At least one character, and only digits. -/
structure IsRun (chars : List Char) : Prop where
  ne_nil : chars ≠ []
  isDigit : ∀ c ∈ chars, c.isDigit = true

theorem isRun_digits (n : Nat) : IsRun (digits n) := ⟨digits_ne_nil n, isDigit_of_mem_digits n⟩

theorem isRun_zero : IsRun ['0'] := ⟨by simp, by simp⟩

theorem IsRun.append {run more : List Char} (hrun : IsRun run)
    (hmore : ∀ c ∈ more, c.isDigit = true) : IsRun (run ++ more) := by
  refine ⟨by simp [hrun.ne_nil], fun c hc => ?_⟩
  rcases List.mem_append.mp hc with hc | hc
  · exact hrun.isDigit c hc
  · exact hmore c hc

/-- Nothing that continues a run of digits. -/
def EndsDigits (rest : List Char) : Prop := ∀ c ∈ rest.head?, c.isDigit = false

theorem spanDigits_append {run rest : List Char} (hrun : ∀ c ∈ run, c.isDigit = true)
    (hrest : EndsDigits rest) : spanDigits (run ++ rest) = (run, rest) := by
  induction run with
  | nil =>
    cases rest with
    | nil => rfl
    | cons c rest =>
      have hc : c.isDigit = false := hrest c rfl
      simp [spanDigits, hc]
  | cons c run ih =>
    have hc := hrun c List.mem_cons_self
    have htail := ih fun d hd => hrun d (List.mem_cons_of_mem c hd)
    simp [spanDigits, hc, htail]

theorem spanDigits_fst_append_snd (chars : List Char) :
    (spanDigits chars).1 ++ (spanDigits chars).2 = chars := by
  induction chars with
  | nil => rfl
  | cons c chars ih =>
    rw [spanDigits]
    split
    · simpa using ih
    · rfl

theorem isDigit_of_mem_spanDigits (chars : List Char) :
    ∀ c ∈ (spanDigits chars).1, c.isDigit = true := by
  induction chars with
  | nil => simp [spanDigits]
  | cons c chars ih =>
    rw [spanDigits]
    split
    · rename_i hc
      intro d hd
      rcases List.mem_cons.mp hd with rfl | hd
      · exact hc
      · exact ih d hd
    · simp

theorem isDigit_of_spanDigits_eq {chars run : List Char} (h : spanDigits chars = (run, [])) :
    ∀ c ∈ chars, c.isDigit = true := by
  have hsplit := spanDigits_fst_append_snd chars
  have hdigits := isDigit_of_mem_spanDigits chars
  rw [h, List.append_nil] at hsplit
  rw [h] at hdigits
  rwa [← hsplit]

end SpeechProbe.Decimal
