import SpeechProbe.Proofs.Number.Numerals
import SpeechProbe.Settings.Environment
import SpeechProbe.Settings.Typed

/-!
# What a variable is read as

A variable is read as a flag, an integer or a float if it looks like one (`Reads`), and a setting
that wants text has the value written out again (`Environment.printed`).  That gives the text
back exactly if the text is the way its own value is written (`printed_eq_iff`).  `007`, `1e3`,
`+5`, `TRUE` and `nan` are not.
-/

namespace SpeechProbe

namespace Environment

/-! ## What a variable is read as -/

/-- The word a flag is written as. -/
def flagWord (b : Bool) : String := if b then "true" else "false"

/-- A text that is no word for a flag, in any case. -/
def NoFlag (text : String) : Prop := ∀ b, Text.lowerAscii text ≠ flagWord b

/-- What the text of a variable is read as: the first of a flag, an integer and a float that it
can be, and otherwise itself. -/
inductive Reads (text : String) : Tree → Prop where
  | flag (b : Bool) (word : Text.lowerAscii text = flagWord b) : Reads text (.flag b)
  | int {i : Int} (noFlag : NoFlag text) (reads : readInt? text = some i) : Reads text (.int i)
  | real {reading : Decimal.Reading} (noFlag : NoFlag text) (noInt : readInt? text = none)
      (reads : Decimal.read? text = some reading) : Reads text (.real reading.toDouble)
  | text (noFlag : NoFlag text) (noInt : readInt? text = none)
      (noReal : Decimal.read? text = none) : Reads text (.text text)

variable {text : String}

theorem reads_readValue (text : String) : Reads text (readValue text) := by
  unfold readValue
  split
  · rename_i hword
    exact .flag true hword
  · rename_i hword
    exact .flag false hword
  · rename_i hyes hno
    have hnoFlag : NoFlag text := by
      rintro (_ | _)
      · exact hno
      · exact hyes
    split
    · exact .int hnoFlag ‹_›
    · split
      · exact .real hnoFlag ‹_› ‹_›
      · exact .text hnoFlag ‹_› ‹_›

theorem Reads.eq_readValue {tree : Tree} (h : Reads text tree) : readValue text = tree := by
  have hyes (hnoFlag : NoFlag text) : Text.lowerAscii text ≠ "true" := hnoFlag true
  have hno (hnoFlag : NoFlag text) : Text.lowerAscii text ≠ "false" := hnoFlag false
  cases h with
  | flag b word => cases b <;> simp [readValue, word, flagWord]
  | int noFlag reads => simp [readValue, hyes noFlag, hno noFlag, reads]
  | real noFlag noInt reads => simp [readValue, hyes noFlag, hno noFlag, noInt, reads]
  | text noFlag noInt noReal => simp [readValue, hyes noFlag, hno noFlag, noInt, noReal]

theorem readValue_ne_table (text : String) (entries : List (String × Tree)) :
    readValue text ≠ .table entries := by
  intro h
  have hreads := reads_readValue text
  rw [h] at hreads
  cases hreads

/-! ## What a text setting gets -/

/-- What a setting that wants text gets from a variable. -/
def printed (text : String) : String := ((readValue text).asText?).getD text

theorem asText?_readValue (text : String) : (readValue text).asText? = some (printed text) := by
  have hreads := reads_readValue text
  rw [printed]
  generalize readValue text = tree at hreads ⊢
  cases hreads <;> rfl

theorem orNull?_readValue (text : String) :
    Tree.orNull? Tree.asText? (readValue text) = some (some (printed text)) := by
  have hreads := reads_readValue text
  have htext := asText?_readValue text
  generalize readValue text = tree at hreads htext ⊢
  cases hreads <;> exact congrArg (some <$> ·) htext

/-- A text is the way its own value is written. -/
inductive Canonical (text : String) : Prop where
  | flag (b : Bool) (eq : text = flagWord b)
  | int (i : Int) (low : -9223372036854775808 ≤ i) (high : i < 9223372036854775808)
      (eq : text = String.ofList (Decimal.ofInt i))
  | real (reading : Decimal.Reading) (noFlag : NoFlag text) (noInt : readInt? text = none)
      (reads : Decimal.read? text = some reading) (eq : text = Tree.realText reading.toDouble)
  | text (noFlag : NoFlag text) (noInt : readInt? text = none)
      (noReal : Decimal.read? text = none)

/-! ## Integers -/

theorem readInt?_range {i : Int} (h : readInt? text = some i) :
    -9223372036854775808 ≤ i ∧ i < 9223372036854775808 := by
  simp only [readInt?, Option.ite_none_left_eq_some, Option.ite_none_right_eq_some,
    Option.some.injEq] at h
  obtain ⟨-, hrange, rfl⟩ := h
  omega

/-- The digits of a number with a minus before them if it is negative are read back. -/
theorem readInt?_ofInt {i : Int} (low : -9223372036854775808 ≤ i) (high : i < 9223372036854775808) :
    readInt? (String.ofList (Decimal.ofInt i)) = some i := by
  have hdigits : ¬ ((Decimal.digits i.natAbs).isEmpty = true ∨
      (Decimal.digits i.natAbs).any (!·.isDigit) = true) := by
    rintro (hempty | hany)
    · exact Decimal.digits_ne_nil _ (List.isEmpty_iff.mp hempty)
    · obtain ⟨c, hc, hnot⟩ := List.any_eq_true.mp hany
      simp [Decimal.isDigit_of_mem_digits _ c hc] at hnot
  simp only [readInt?, String.toList_ofList, Decimal.ofInt]
  by_cases hneg : i < 0
  · simp only [if_pos hneg, if_neg hdigits, Decimal.ofDigits_digits, if_true]
    rw [if_pos (by omega)]
    congr 1
    omega
  · simp only [if_neg hneg]
    split
    · rename_i rest hdash
      have := Decimal.isDigit_of_mem_digits i.natAbs '-' (by simp [hdash])
      simp at this
    · rename_i rest hplus
      have := Decimal.isDigit_of_mem_digits i.natAbs '+' (by simp [hplus])
      simp at this
    · simp only [if_neg hdigits, Decimal.ofDigits_digits, Bool.false_eq_true, if_false]
      rw [if_pos (by omega)]
      congr 1
      omega

theorem toLower_of_isDigit {c : Char} (h : c.isDigit = true) : c.toLower = c := by
  simp only [Char.isDigit, Bool.and_eq_true, decide_eq_true_eq, ge_iff_le] at h
  unfold Char.toLower
  rw [dif_neg]
  intro hupper
  exact absurd (UInt32.le_trans hupper.1 h.2) (by decide)

/-- A word for a flag begins with a letter, and a number does not. -/
theorem noFlag_ofInt (i : Int) : NoFlag (String.ofList (Decimal.ofInt i)) := by
  intro b hword
  obtain ⟨c, rest, hc, hfirst⟩ := Decimal.exists_ofInt_eq_cons i
  have hlower : c.toLower = c := by
    rcases hfirst with rfl | hdigit
    · decide
    · exact toLower_of_isDigit hdigit
  have hhead := congrArg (·.toList.head?) hword
  simp only [Text.lowerAscii, String.toList_ofList, hc, List.map_cons, List.head?_cons,
    hlower] at hhead
  cases b
  · simp [flagWord] at hhead
    subst hhead
    simp at hfirst
  · simp [flagWord] at hhead
    subst hhead
    simp at hfirst

theorem printed_eq_iff : printed text = text ↔ Canonical text := by
  constructor
  · intro h
    have hreads := reads_readValue text
    have htext := asText?_readValue text
    rw [h] at htext
    generalize readValue text = tree at hreads htext
    cases hreads with
    | flag b word => exact .flag b (Option.some.inj htext).symm
    | int noFlag reads =>
      obtain ⟨low, high⟩ := readInt?_range reads
      exact .int _ low high (Option.some.inj htext).symm
    | real noFlag noInt reads => exact .real _ noFlag noInt reads (Option.some.inj htext).symm
    | text noFlag noInt noReal => exact .text noFlag noInt noReal
  · intro h
    have hreads : ∃ tree, Reads text tree ∧ tree.asText? = some text := by
      cases h with
      | flag b eq =>
        subst eq
        exact ⟨.flag b, .flag b (by cases b <;> decide), rfl⟩
      | int i low high eq =>
        subst eq
        exact ⟨.int i, .int (noFlag_ofInt i) (readInt?_ofInt low high), rfl⟩
      | real reading noFlag noInt reads eq =>
        exact ⟨_, .real noFlag noInt reads, congrArg some eq.symm⟩
      | text noFlag noInt noReal => exact ⟨_, .text noFlag noInt noReal, rfl⟩
    obtain ⟨tree, hreads, htext⟩ := hreads
    rw [printed, hreads.eq_readValue, htext, Option.getD_some]

/-- A text with a character that no number and no word for a value has is its own value. -/
theorem canonical_of_mem {c : Char} (hc : c ∈ text.toList) (hother : ¬ Decimal.InNumeral c)
    (hword : ∀ word ∈ ["true", "false", "inf", "infinity", "nan"], c.toLower ∉ word.toList) :
    Canonical text := by
  refine .text ?_ ?_ ?_
  · intro b hflag
    have hmem : c.toLower ∈ (flagWord b).toList := by
      rw [← hflag, Text.lowerAscii, String.toList_ofList]
      exact List.mem_map_of_mem hc
    cases b
    · exact hword "false" (by simp) hmem
    · exact hword "true" (by simp) hmem
  · have hsigns : c ≠ '-' ∧ c ≠ '+' := by
      constructor <;> rintro rfl <;> exact hother (.inr (by simp))
    have hdigits := ((Decimal.mem_afterSign hc).resolve_left hsigns.1).resolve_left hsigns.2
    simp only [readInt?]
    rw [if_pos]
    refine .inr (List.any_eq_true.mpr ⟨c, hdigits, ?_⟩)
    simpa using fun hdigit => hother (.inl hdigit)
  · exact Decimal.read?_eq_none hc hother fun word hmem => hword word (by simp_all)

end Environment
end SpeechProbe
