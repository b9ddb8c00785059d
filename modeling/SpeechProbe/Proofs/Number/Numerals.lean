import SpeechProbe.Proofs.Number.Digits

/-!
# What a numeral is made of

A text is read as a number only if all of its characters can stand in a numeral, or if it is one
of three words.  So one other character is enough to tell that a text is none (`read?_eq_none`).
-/

namespace SpeechProbe.Decimal

/-- The characters of a numeral. -/
def InNumeral (c : Char) : Prop := c.isDigit = true ∨ c ∈ ['.', 'e', 'E', '+', '-']

/-- Nothing but a sign is taken off the front. -/
theorem mem_afterSign {chars : List Char} {c : Char} (h : c ∈ chars) :
    c = '-' ∨ c = '+' ∨ c ∈ (match chars with
      | '-' :: rest => (true, rest)
      | '+' :: rest => (false, rest)
      | rest => (false, rest)).2 := by
  split
  · exact (List.mem_cons.mp h).imp_right .inr
  · exact .inr (List.mem_cons.mp h)
  · exact .inr (.inr h)

theorem inNumeral_of_readExponent? {chars run : List Char} {negative : Bool}
    (h : readExponent? chars = some (negative, run, [])) : ∀ c ∈ chars, InNumeral c := by
  cases chars with
  | nil => simp
  | cons e rest =>
    simp only [readExponent?, Option.ite_none_right_eq_some] at h
    obtain ⟨he, h⟩ := h
    intro c hc
    rcases List.mem_cons.mp hc with rfl | hc
    · rcases he with rfl | rfl <;> exact .inr (by simp)
    split at h
    · simp at h
    · rename_i hspan
      simp only [Option.some.injEq, Prod.mk.injEq] at h
      rw [h.2.2] at hspan
      rcases mem_afterSign hc with rfl | rfl | hc
      · exact .inr (by simp)
      · exact .inr (by simp)
      · exact .inl (isDigit_of_spanDigits_eq hspan c hc)

/-- Nothing but a point and digits are taken off the front. -/
theorem mem_afterFraction {chars : List Char} {c : Char} (h : c ∈ chars) :
    c = '.' ∨ c.isDigit = true ∨ c ∈ (match chars with
      | '.' :: rest => spanDigits rest
      | rest => ([], rest)).2 := by
  split
  · rename_i rest
    rcases List.mem_cons.mp h with rfl | hc
    · exact .inl rfl
    · rw [← spanDigits_fst_append_snd rest] at hc
      exact .inr ((List.mem_append.mp hc).imp_left (isDigit_of_mem_spanDigits rest c))
  · exact .inr (.inr h)

theorem inNumeral_of_readNumeral? {chars : List Char} {numeral : Numeral}
    (h : readNumeral? chars = some numeral) : ∀ c ∈ chars, InNumeral c := by
  have hsplit := spanDigits_fst_append_snd chars
  have hwhole := isDigit_of_mem_spanDigits chars
  simp only [readNumeral?, Option.ite_none_left_eq_some] at h
  intro c hc
  rw [← hsplit] at hc
  rcases List.mem_append.mp hc with hc | hc
  · exact .inl (hwhole c hc)
  rcases mem_afterFraction hc with rfl | hdigit | hc
  · exact .inr (by simp)
  · exact .inl hdigit
  obtain ⟨-, h⟩ := h
  split at h
  · rename_i hnil
    exact absurd hc (List.eq_nil_iff_forall_not_mem.mp hnil c)
  · split at h
    · rename_i hexponent
      exact inNumeral_of_readExponent? hexponent c hc
    · simp at h

/-- What is not a number because of one of its characters. -/
theorem read?_eq_none {text : String} {c : Char} (hc : c ∈ text.toList) (hother : ¬ InNumeral c)
    (hword : ∀ word ∈ ["inf", "infinity", "nan"], c.toLower ∉ word.toList) :
    read? text = none := by
  have hsigns : c ≠ '-' ∧ c ≠ '+' := by
    constructor <;> rintro rfl <;> exact hother (.inr (by simp))
  have hrest := ((mem_afterSign hc).resolve_left hsigns.1).resolve_left hsigns.2
  have hnumeral (rest : List Char) (hmem : c ∈ rest) (negative : Bool) :
      (readNumeral? rest).map (Reading.finite negative) = none := by
    rw [Option.map_eq_none_iff, Option.eq_none_iff_forall_not_mem]
    exact fun numeral h => hother (inNumeral_of_readNumeral? h c hmem)
  have hlower (rest : List Char) (hmem : c ∈ rest) :
      ∀ word ∈ ["inf", "infinity", "nan"], String.ofList (rest.map Char.toLower) ≠ word := by
    rintro word hw rfl
    exact hword _ hw (by simpa using ⟨c, hmem, rfl⟩)
  simp only [read?]
  split
  · rename_i h
    exact absurd h (hlower _ hrest _ (by simp))
  · rename_i h
    exact absurd h (hlower _ hrest _ (by simp))
  · rename_i h
    exact absurd h (hlower _ hrest _ (by simp))
  · exact hnumeral _ hrest _

end SpeechProbe.Decimal
