import SpeechProbe.Json.Reader
import SpeechProbe.Json.Writer
import SpeechProbe.Proofs.Number.Digits
import SpeechProbe.Proofs.Number.Shortest

/-!
# Numbers there and back

A number that is written properly is read part by part as it is written (`written_append`).
Integers and 32-bit numbers are written so.  An integer is read as itself; of a 32-bit number a
64-bit number is read, and not nothing, because its leading digit lies far below the largest
64-bit number (`number_singleChars`).
-/

namespace SpeechProbe.Json

open Decimal (IsRun EndsDigits spanDigits digits ofDigits)

/-! ## Reading what is written -/

/-- Nothing that continues a number. -/
def EndsNumber (rest : List Char) : Prop :=
  ∀ c ∈ rest.head?, c.isDigit = false ∧ c ≠ '.' ∧ c ≠ 'e' ∧ c ≠ 'E'

theorem endsNumber_nil : EndsNumber [] := by
  intro c hc
  simp at hc

namespace Written

/-- A point and the digits after it. -/
def fractionChars : Option (List Char) → List Char
  | none => []
  | some digits => '.' :: digits

/-- An exponent with its sign. -/
def exponentChars : Option (Bool × List Char) → List Char
  | none => []
  | some (negative, digits) => 'e' :: (if negative then '-' else '+') :: digits

/-- The text of a number. -/
def chars (written : Written) : List Char :=
  (if written.negative then ['-'] else []) ++ written.whole ++
    (fractionChars written.fraction ++ exponentChars written.exponent)

/-- A number that is written the way JSON has it. -/
structure Proper (written : Written) : Prop where
  whole : IsRun written.whole
  noZero : written.whole.head? = some '0' → written.whole = ['0']
  fraction : ∀ digits ∈ written.fraction, IsRun digits
  exponent : ∀ power ∈ written.exponent, IsRun power.2

end Written

variable {rest : List Char}

theorem EndsNumber.endsDigits (h : EndsNumber rest) : EndsDigits rest :=
  fun c hc => (h c hc).1

theorem exponent_append {power : Option (Bool × List Char)} (hpower : ∀ p ∈ power, IsRun p.2)
    (hrest : EndsNumber rest) :
    exponent (Written.exponentChars power ++ rest) = some (power, rest) := by
  cases power with
  | none =>
    show exponent rest = _
    unfold exponent
    split
    · exact absurd rfl (hrest 'e' rfl).2.2.1
    · exact absurd rfl (hrest 'E' rfl).2.2.2
    · rfl
  | some power =>
    obtain ⟨negative, digits⟩ := power
    obtain ⟨hne, hdigits⟩ := hpower _ rfl
    have hspan := Decimal.spanDigits_append hdigits hrest.endsDigits
    obtain ⟨d, more, rfl⟩ := List.exists_cons_of_ne_nil hne
    rw [List.cons_append] at hspan
    cases negative <;> simp [exponent, Written.exponentChars, Decimal.readExponent?, hspan]

theorem fraction_append {afterPoint : Option (List Char)}
    (hafter : ∀ digits ∈ afterPoint, IsRun digits)
    (hrest : ∀ c ∈ rest.head?, c.isDigit = false ∧ c ≠ '.') :
    fraction (Written.fractionChars afterPoint ++ rest) = some (afterPoint, rest) := by
  cases afterPoint with
  | none =>
    show fraction rest = _
    unfold fraction
    split
    · exact absurd rfl (hrest '.' rfl).2
    · rfl
  | some digits =>
    obtain ⟨hne, hdigits⟩ := hafter _ rfl
    have hspan := Decimal.spanDigits_append hdigits fun c hc => (hrest c hc).1
    obtain ⟨d, more, rfl⟩ := List.exists_cons_of_ne_nil hne
    rw [List.cons_append] at hspan
    simp [fraction, Written.fractionChars, hspan]

/-- An exponent begins with its letter, which ends a run of digits. -/
theorem head?_exponentChars_append (power : Option (Bool × List Char)) (hrest : EndsNumber rest) :
    ∀ c ∈ (Written.exponentChars power ++ rest).head?, c.isDigit = false ∧ c ≠ '.' := by
  cases power with
  | none => exact fun c hc => ⟨(hrest c hc).1, (hrest c hc).2.1⟩
  | some power =>
    intro c hc
    obtain rfl : 'e' = c := by simpa [Written.exponentChars] using hc
    decide

theorem unsigned_append {found : Written} (h : found.Proper) (hrest : EndsNumber rest) :
    unsigned found.negative
      (found.whole ++ (Written.fractionChars found.fraction ++
        (Written.exponentChars found.exponent ++ rest))) = some (found, rest) := by
  have hexponent := exponent_append h.exponent hrest
  have hfraction := fraction_append h.fraction (head?_exponentChars_append found.exponent hrest)
  have hends : EndsDigits (Written.fractionChars found.fraction ++
      (Written.exponentChars found.exponent ++ rest)) := by
    cases hpoint : found.fraction with
    | none => exact fun c hc => (head?_exponentChars_append found.exponent hrest c hc).1
    | some digits =>
      intro c hc
      obtain rfl : '.' = c := by simpa [Written.fractionChars] using hc
      decide
  have hspan := Decimal.spanDigits_append h.whole.isDigit hends
  unfold unsigned
  split
  · rename_i hnil
    rw [hspan, Prod.mk.injEq] at hnil
    exact absurd hnil.1 h.whole.ne_nil
  · rename_i d more _ hzero
    rw [hspan, Prod.mk.injEq] at hzero
    have := h.noZero (by rw [hzero.1]; rfl)
    simp [this] at hzero
  · rename_i whole after _ _ hwhole
    rw [hspan, Prod.mk.injEq] at hwhole
    obtain ⟨rfl, rfl⟩ := hwhole
    simp only [hfraction, hexponent, Option.map_some]

theorem written_append {found : Written} (h : found.Proper) (hrest : EndsNumber rest) :
    written (found.chars ++ rest) = some (found, rest) := by
  have hunsigned := unsigned_append h hrest
  rw [Written.chars, List.append_assoc, List.append_assoc, List.append_assoc]
  cases hnegative : found.negative with
  | true =>
    rw [hnegative] at hunsigned
    exact hunsigned
  | false =>
    rw [hnegative] at hunsigned
    simp only [Bool.false_eq_true, if_false, List.nil_append]
    unfold written
    split
    · rename_i after hminus
      obtain ⟨d, more, hwhole⟩ := List.exists_cons_of_ne_nil h.whole.ne_nil
      have hdigit := h.whole.isDigit d (by simp [hwhole])
      simp only [hwhole, List.cons_append, List.cons.injEq] at hminus
      rw [hminus.1] at hdigit
      simp at hdigit
    · exact hunsigned

theorem number_append {found : Written} (h : found.Proper) (hrest : EndsNumber rest) :
    number (found.chars ++ rest) = some (found.value?.getD .unread, rest) := by
  rw [number, written_append h hrest]
  rfl

/-! ## Integers -/

namespace Written

/-- An integer as it is written. -/
def ofInt (i : Int) : Written := ⟨decide (i < 0), digits i.natAbs, none, none⟩

theorem chars_ofInt (i : Int) : (ofInt i).chars = Decimal.ofInt i := by
  by_cases hneg : i < 0 <;> simp [chars, ofInt, Decimal.ofInt, hneg, fractionChars, exponentChars]

theorem proper_ofInt (i : Int) : (ofInt i).Proper :=
  ⟨Decimal.isRun_digits _, Decimal.digits_noZero _, by simp [ofInt], by simp [ofInt]⟩

theorem value?_ofInt {i : Int} (low : -2 ^ 63 ≤ i) (high : i < 2 ^ 64) :
    (ofInt i).value? = some (.int i) := by
  have hsize : UInt64.size = 2 ^ 64 := rfl
  simp only [value?, ofInt, Option.isNone_none, Bool.and_self, if_true, Option.getD_none, intValue?,
    Decimal.ofDigits_digits]
  by_cases hneg : i < 0
  · rw [decide_eq_true hneg, if_neg (by simp), if_pos (by simp; omega)]
    congr 2
    omega
  · rw [decide_eq_false hneg, if_pos (by simp; omega)]
    congr 2
    omega

end Written

theorem number_ofInt {i : Int} (low : -2 ^ 63 ≤ i) (high : i < 2 ^ 64) (hrest : EndsNumber rest) :
    number (Decimal.ofInt i ++ rest) = some (.int i, rest) := by
  rw [← Written.chars_ofInt, number_append (Written.proper_ofInt i) hrest,
    Written.value?_ofInt low high, Option.getD_some]

/-! ## The value of a real -/

theorem gather_fst_lt {significand : Nat} (h : significand < UInt64.size) (chars : List Char) :
    (gather significand chars).1 < UInt64.size := by
  induction chars generalizing significand with
  | nil => exact h
  | cons c chars ih =>
    simp only [gather]
    split
    · exact ih ‹_›
    · exact h

theorem gather_snd_le (significand : Nat) (chars : List Char) :
    (gather significand chars).2 ≤ chars.length := by
  induction chars generalizing significand with
  | nil => exact Nat.le_refl 0
  | cons c chars ih =>
    simp only [gather]
    split
    · exact (ih _).trans (Nat.le_succ _)
    · exact Nat.le_refl _

/-- What is scaled down is never too large. -/
theorem isSome_scale_of_neg (fuel : Nat) (x : Double) {e : Int} (h : e < 0) :
    (scale fuel x e).isSome = true := by
  induction fuel generalizing x e with
  | zero => rfl
  | succ fuel ih =>
    rw [scale, if_neg (by omega : ¬ 308 < e), if_neg (by omega : ¬ 0 ≤ e)]
    split
    · rfl
    · split
      · rfl
      · exact ih _ (by omega)

/-- A significand of 64 bits scaled up by no more than `10 ^ 64` is far from too large. -/
theorem isSome_scale (fuel : Nat) {n : Nat} (hn : n < UInt64.size) {e : Int} (h : e ≤ 64) :
    (scale fuel (Double.ofRat n) e).isSome = true := by
  by_cases hneg : e < 0
  · exact isSome_scale_of_neg fuel _ hneg
  cases fuel with
  | zero => rfl
  | succ fuel =>
    rw [scale, if_neg (by omega : ¬ 308 < e), if_pos (by omega : 0 ≤ e)]
    split
    · rfl
    have hsignificand : (n : Rat) < (2 : Rat) ^ 64 := by exact_mod_cast hn
    have hpower : Decimal.tenTo e < (2 : Rat) ^ 213 :=
      (Shortest.tenTo_le_tenTo h).trans_lt (by decide +kernel)
    obtain ⟨-, hx, hx'⟩ := Double.ofRat_bounds (Nat.cast_nonneg n) (by omega) hsignificand
    obtain ⟨-, hy, hy'⟩ :=
      Double.ofRat_bounds (Shortest.tenTo_pos e).le (by omega) hpower
    have hproduct : (Double.ofRat n).toRat * (Double.ofRat (Decimal.tenTo e)).toRat <
        (2 : Rat) ^ 281 := by
      calc (Double.ofRat n).toRat * (Double.ofRat (Decimal.tenTo e)).toRat
          < (2 : Rat) ^ (64 + 2) * (2 : Rat) ^ (213 + 2) :=
            mul_lt_mul'' hx' hy' hx hy
        _ = (2 : Rat) ^ 281 := (pow_add _ _ _).symm
    rw [if_pos (Double.ofRat_bounds (mul_nonneg hx hy) (by omega) hproduct).1]
    rfl

/-- A numeral whose leading digit is not too far before the point has a value. -/
theorem isSome_realValue? {numeral : Decimal.Numeral}
    (h : (numeral.whole.length : Int) + numeral.writtenExponent ≤ 64) :
    (realValue? numeral).isSome = true := by
  simp only [realValue?]
  have hsignificand : (gather (gather 0 numeral.whole).1 numeral.fraction).1 < UInt64.size :=
    gather_fst_lt (gather_fst_lt (by decide) _) _
  have hdropped := gather_snd_le 0 numeral.whole
  have hignored := gather_snd_le (gather 0 numeral.whole).1 numeral.fraction
  split
  · rename_i hsize
    have hnegative : numeral.exponentNegative = true := by
      by_contra hpositive
      rw [Decimal.Numeral.writtenExponent, if_neg hpositive] at h
      omega
    simp [hnegative]
  · exact isSome_scale 4 hsignificand (by omega)

/-! ## 32-bit numbers -/

namespace Written

/-- The parts of a number without its sign. -/
def numeral (written : Written) : Decimal.Numeral :=
  ⟨written.whole, written.fraction.getD [], (written.exponent.getD (false, [])).1,
    (written.exponent.getD (false, [])).2⟩

/-- How a text writes a number that is read as a real and does not get too large. -/
structure IsReal (text : List Char) (written : Written) : Prop where
  proper : written.Proper
  chars : written.chars = text
  isReal : (written.fraction.isNone && written.exponent.isNone) = false
  reach : (written.numeral.whole.length : Int) + written.numeral.writtenExponent ≤ 64

theorem IsReal.exists_value? {text : List Char} {written : Written} (h : IsReal text written) :
    ∃ x, written.value? = some (.real x) := by
  obtain ⟨x, hx⟩ := Option.isSome_iff_exists.mp (isSome_realValue? h.reach)
  refine ⟨signed written.negative x, ?_⟩
  rw [value?]
  simp only [h.isReal, Bool.false_eq_true, if_false]
  show (realValue? written.numeral).map _ = _
  rw [hx, Option.map_some]

/-- A sign does not change how a number is read on. -/
theorem IsReal.negate {text : List Char} {written : Written} (h : IsReal text written)
    (hpositive : written.negative = false) :
    IsReal ('-' :: text) { written with negative := true } := by
  refine ⟨⟨h.proper.whole, h.proper.noZero, h.proper.fraction, h.proper.exponent⟩, ?_, h.isReal,
    h.reach⟩
  rw [← h.chars, Written.chars, Written.chars, hpositive]
  rfl

end Written

open Written (IsReal)

/-- Digits with a point after them all, between them or before them. -/
theorem isReal_pointed {whole after : List Char} (hwhole : IsRun whole)
    (hnoZero : whole.head? = some '0' → whole = ['0']) (hafter : IsRun after)
    (hreach : whole.length ≤ 64) :
    IsReal (whole ++ '.' :: after) ⟨false, whole, some after, none⟩ := by
  refine ⟨⟨hwhole, hnoZero, ?_, ?_⟩, ?_, rfl, ?_⟩
  · rintro _ ⟨⟩
    exact hafter
  · rintro _ ⟨⟩
  · simp [Written.chars, Written.fractionChars, Written.exponentChars]
  · simpa [Written.numeral, Decimal.Numeral.writtenExponent, ofDigits] using hreach

theorem isDigit_of_mem_replicate {k : Nat} : ∀ c ∈ List.replicate k '0', c.isDigit = true := by
  intro c hc
  rw [List.eq_of_mem_replicate hc]
  decide

/-- In decimals without an exponent. -/
theorem exists_isReal_positional {layout : NumberLayout} (hpoint : layout.pointZero = true)
    {n : Nat} {place : Int} (hn : 0 < n ∨ place = 0)
    (hreach : ((digits n).length : Int) + place ≤ 64) :
    ∃ found, found.negative = false ∧ IsReal (layout.positional (digits n) place) found := by
  have hrun := Decimal.isRun_digits n
  have hnoZero (hhead : (digits n).head? = some '0') : digits n = ['0'] ∧ place = 0 := by
    rcases hn with hpos | hplace
    · exact absurd hhead (Decimal.head?_digits_ne_zero hpos)
    · exact ⟨Decimal.digits_noZero n hhead, hplace⟩
  simp only [NumberLayout.positional, hpoint, if_true]
  by_cases hplace : 0 ≤ place
  · rw [if_pos hplace]
    refine ⟨_, rfl, isReal_pointed (hrun.append isDigit_of_mem_replicate) ?_ ?_ ?_⟩
    · intro hhead
      rw [List.head?_append, Option.or_of_isSome (List.isSome_head?.mpr hrun.ne_nil)] at hhead
      obtain ⟨hzero, rfl⟩ := hnoZero hhead
      simpa using hzero
    · exact Decimal.isRun_zero
    · simp only [List.length_append, List.length_replicate]
      omega
  rw [if_neg hplace]
  by_cases hwhole : 0 < ((digits n).length : Int) + place
  · rw [if_pos hwhole]
    generalize hk : (((digits n).length : Int) + place).toNat = k
    refine ⟨_, rfl, isReal_pointed ⟨?_, ?_⟩ ?_ ⟨?_, ?_⟩ ?_⟩
    · rw [Ne, List.take_eq_nil_iff]
      exact not_or.mpr ⟨by omega, hrun.ne_nil⟩
    · exact fun c hc => hrun.isDigit c (List.mem_of_mem_take hc)
    · intro hhead
      rw [List.head?_take, if_neg (by omega)] at hhead
      exact absurd (hnoZero hhead).2 (by omega)
    · rw [Ne, List.drop_eq_nil_iff]
      omega
    · exact fun c hc => hrun.isDigit c (List.mem_of_mem_drop hc)
    · rw [List.length_take]
      omega
  · rw [if_neg hwhole]
    refine ⟨_, rfl, isReal_pointed Decimal.isRun_zero (fun _ => rfl) ⟨?_, ?_⟩ (by simp)⟩
    · simp [hrun.ne_nil]
    · intro c hc
      rcases List.mem_append.mp hc with hc | hc
      · exact isDigit_of_mem_replicate c hc
      · exact hrun.isDigit c hc

/-- An exponent as it is written. -/
theorem exponentChars_natAbs (leading : Int) :
    Written.exponentChars (some (decide (leading < 0), digits leading.natAbs)) =
      'e' :: (if 0 ≤ leading then '+' else '-') :: digits leading.natAbs := by
  by_cases hneg : leading < 0
  · simp [Written.exponentChars, hneg, not_le.mpr hneg]
  · simp [Written.exponentChars, hneg, not_lt.mp hneg]

/-- One digit, with others after a point or without, and an exponent. -/
theorem isReal_scaled {d : Char} {leading : Int} (after : Option (List Char))
    (hdigit : d.isDigit = true) (hafter : ∀ digits ∈ after, IsRun digits)
    (hreach : leading ≤ 63) :
    IsReal ([d] ++ (Written.fractionChars after ++
      'e' :: (if 0 ≤ leading then '+' else '-') :: digits leading.natAbs))
      ⟨false, [d], after, some (decide (leading < 0), digits leading.natAbs)⟩ := by
  refine ⟨⟨⟨by simp, by simpa using hdigit⟩, ?_, hafter, ?_⟩, ?_, by simp, ?_⟩
  · intro hzero
    rw [Option.some.inj hzero]
  · rintro _ ⟨⟩
    exact Decimal.isRun_digits _
  · rw [Written.chars, exponentChars_natAbs]
    rfl
  · simp only [Written.numeral, Decimal.Numeral.writtenExponent, Option.getD_some,
      Decimal.ofDigits_digits, List.length_singleton, decide_eq_true_eq]
    split <;> omega

/-- With an exponent. -/
theorem exists_isReal_scientific {n : Nat} {leading : Int} (hreach : leading ≤ 63) :
    ∃ found, found.negative = false ∧
      IsReal (NumberLayout.scientific (digits n) leading) found := by
  have hrun := Decimal.isRun_digits n
  generalize digits n = run at hrun
  match run, hrun with
  | [], hrun => exact absurd rfl hrun.ne_nil
  | [d], hrun =>
    have hd := hrun.isDigit d List.mem_cons_self
    exact ⟨_, rfl, isReal_scaled none hd (by simp) hreach⟩
  | d :: e :: more, hrun =>
    have hd := hrun.isDigit d List.mem_cons_self
    refine ⟨_, rfl, isReal_scaled (some (e :: more)) hd ?_ hreach⟩
    rintro _ ⟨⟩
    exact ⟨List.cons_ne_nil _ _, fun c hc => hrun.isDigit c (List.mem_cons_of_mem d hc)⟩

theorem exists_isReal_single {x : Single} (h : x.isFinite = true) :
    ∃ found, IsReal (singleChars x) found := by
  have hfinite : BinaryFormat.single.unsigned x.bits.toNat < BinaryFormat.single.infinity :=
    of_decide_eq_true h
  have hpoint : singleLayout.pointZero = true := rfl
  have hplain : singleLayout.plain = some (-6, 13) := rfl
  rw [singleChars, if_pos h]
  simp only [NumberLayout.chars, hplain]
  generalize BinaryFormat.single.unsigned x.bits.toNat = bits at hfinite
  generalize hsize : (if bits = 0 then _ else _) = size
  have hreal : ∃ found, found.negative = false ∧ IsReal size found := by
    rw [← hsize]
    by_cases hzero : bits = 0
    · rw [if_pos hzero]
      have hdigits : digits 0 = ['0'] := Decimal.digits_of_lt (by decide)
      rw [← hdigits]
      exact exists_isReal_positional hpoint (.inr rfl) (by rw [hdigits]; decide)
    · rw [if_neg hzero]
      have hpos := Nat.pos_of_ne_zero hzero
      have hdigits := (Shortest.shortest_single_bounds singleLayout.tie hpos hfinite).1
      have hleading := Shortest.leading_shortest_single_lt singleLayout.tie hpos hfinite
      split
      · refine exists_isReal_positional hpoint (.inl hdigits) ?_
        omega
      · refine exists_isReal_scientific ?_
        omega
  obtain ⟨found, hpositive, hfound⟩ := hreal
  split
  · exact ⟨_, hfound.negate hpositive⟩
  · exact ⟨found, hfound⟩

/-- The 64-bit number that is read of what is written of a 32-bit number. -/
def rereadSingle (x : Single) : Double :=
  match number (singleChars x) with
  | some (.real y, _) => y
  | _ => Double.zero

theorem number_singleChars {x : Single} (h : x.isFinite = true) (hrest : EndsNumber rest) :
    number (singleChars x ++ rest) = some (.real (rereadSingle x), rest) := by
  obtain ⟨found, hfound⟩ := exists_isReal_single h
  obtain ⟨y, hy⟩ := hfound.exists_value?
  have hnumber {left : List Char} (hleft : EndsNumber left) :
      number (singleChars x ++ left) = some (.real y, left) := by
    rw [← hfound.chars, number_append hfound.proper hleft, hy, Option.getD_some]
  have halone := hnumber endsNumber_nil
  rw [List.append_nil] at halone
  rw [hnumber hrest, rereadSingle, halone]

/-! ## How numbers begin -/

/-- A character that a number can begin with. -/
def StartsNumber (c : Char) : Prop := c = '-' ∨ c.isDigit = true

theorem Written.Proper.exists_chars_eq_cons {found : Written} (h : found.Proper) :
    ∃ c more, found.chars = c :: more ∧ StartsNumber c := by
  rw [Written.chars]
  cases found.negative with
  | true => exact ⟨'-', _, rfl, .inl rfl⟩
  | false =>
    obtain ⟨d, more, hwhole⟩ := List.exists_cons_of_ne_nil h.whole.ne_nil
    have hdigit := h.whole.isDigit d (by simp [hwhole])
    rw [hwhole]
    exact ⟨d, _, rfl, .inr hdigit⟩

theorem exists_singleChars_eq_cons {x : Single} (h : x.isFinite = true) :
    ∃ c more, singleChars x = c :: more ∧ StartsNumber c := by
  obtain ⟨found, hfound⟩ := exists_isReal_single h
  rw [← hfound.chars]
  exact hfound.proper.exists_chars_eq_cons

end SpeechProbe.Json
