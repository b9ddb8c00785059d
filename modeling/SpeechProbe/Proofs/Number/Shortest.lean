import SpeechProbe.Number.Shortest
import SpeechProbe.Proofs.Number.Binary
import SpeechProbe.Proofs.Number.Digits

/-!
# The size of the shortest decimal

The search for the shortest digits goes from coarse grids to fine ones and stops at a hit inside
the interval, or after twenty tries at the digits cut off there.  Either way it finds a positive
number of digits that stand for no more than the interval's upper end (`search_bounds`), and
cutting zeros at the end changes nothing (`dropZeros_value`).  For 32-bit numbers the leading digit
lies below `10 ^ 40` (`leading_shortest_single_lt`).
-/

namespace SpeechProbe.Shortest

open Decimal (tenTo)

variable {x : Rat} {i : Interval} {tie : Tie}

theorem tenTo_pos (e : Int) : 0 < tenTo e := by
  show (0 : Rat) < 10 ^ e
  positivity

theorem tenTo_add (e f : Int) : tenTo (e + f) = tenTo e * tenTo f :=
  zpow_add₀ (by norm_num) e f

theorem tenTo_one : tenTo 1 = 10 :=
  zpow_one 10

theorem tenTo_le_tenTo {e f : Int} (h : e ≤ f) : tenTo e ≤ tenTo f :=
  zpow_le_zpow_right₀ (by norm_num) h

/-! ## The search -/

theorem Interval.bounds_of_holds (h : i.holds x = true) : i.lower ≤ x ∧ x ≤ i.upper := by
  rw [holds] at h
  split at h <;> simp only [Bool.and_eq_true, decide_eq_true_eq] at h
  · exact h
  · exact ⟨h.1.le, h.2.le⟩

/-- A hit on a grid lies in the interval. -/
theorem holds_of_onGrid {place : Int} {n : Nat} (h : onGrid tie i place = some n) :
    i.holds ((n : Rat) * tenTo place) = true := by
  simp only [onGrid] at h
  -- both neighbours, then only the one below, then only the one above
  split at h
  · rename_i hboth
    obtain ⟨hbelow, habove⟩ := Bool.and_eq_true_iff.mp hboth
    have hn : n = (i.value / tenTo place).floor.toNat ∨
        n = (i.value / tenTo place).floor.toNat + 1 := by
      grind
    rcases hn with rfl | rfl
    · exact hbelow
    · exact habove
  · split at h
    · rename_i hbelow
      rwa [← Option.some.inj h]
    · split at h
      · rename_i habove
        rwa [← Option.some.inj h]
      · simp at h

theorem search_bounds (tie : Tie) (hlower : 0 < i.lower) (hupper : i.value ≤ i.upper) {tries : Nat}
    {place : Int} (hplace : tenTo (place - tries) ≤ i.value) :
    0 < (search tie i tries place).1 ∧
      ((search tie i tries place).1 : Rat) * tenTo (search tie i tries place).2 ≤ i.upper := by
  induction tries generalizing place with
  | zero =>
    have hunit := tenTo_pos place
    have hquotient : 1 ≤ i.value / tenTo place := by
      rw [le_div_iff₀ hunit, one_mul]
      simpa using hplace
    have hfloor : 1 ≤ (i.value / tenTo place).floor :=
      Rat.le_floor_iff.mpr (by exact_mod_cast hquotient)
    have hcast : (((i.value / tenTo place).floor.toNat : Nat) : Rat) =
        ((i.value / tenTo place).floor : Rat) := by
      exact_mod_cast congrArg (Int.cast (R := Rat)) (Int.toNat_of_nonneg (by omega))
    rw [search]
    refine ⟨by omega, ?_⟩
    rw [hcast]
    calc ((i.value / tenTo place).floor : Rat) * tenTo place
        ≤ i.value / tenTo place * tenTo place := by
          gcongr
          exact Rat.floor_le _
      _ = i.value := div_mul_cancel₀ _ hunit.ne'
      _ ≤ i.upper := hupper
  | succ tries ih =>
    rw [search]
    split
    · rename_i n hn
      obtain ⟨hlow, hhigh⟩ := Interval.bounds_of_holds (holds_of_onGrid hn)
      refine ⟨?_, hhigh⟩
      by_contra hzero
      obtain rfl : n = 0 := by omega
      simp only [Nat.cast_zero, zero_mul] at hlow
      exact absurd hlow (not_le.mpr hlower)
    · apply ih
      rwa [show place - 1 - (tries : Int) = place - ((tries + 1 : Nat) : Int) by omega]

/-! ## Zeros at the end -/

theorem dropZeros_pos {n : Nat} (h : 0 < n) (fuel : Nat) (place : Int) :
    0 < (dropZeros fuel n place).1 := by
  induction fuel generalizing n place with
  | zero => exact h
  | succ fuel ih =>
    rw [dropZeros]
    split
    · apply ih
      omega
    · exact h

theorem dropZeros_value (fuel n : Nat) (place : Int) :
    ((dropZeros fuel n place).1 : Rat) * tenTo (dropZeros fuel n place).2 =
      (n : Rat) * tenTo place := by
  induction fuel generalizing n place with
  | zero => rfl
  | succ fuel ih =>
    rw [dropZeros]
    split
    · rename_i hzero
      rw [ih]
      have hn : (n : Rat) = (n / 10 : Nat) * 10 := by
        exact_mod_cast (show n = n / 10 * 10 by omega)
      rw [hn, tenTo_add, tenTo_one]
      ring
    · rfl

/-! ## 32-bit numbers -/

/-- The guess at the leading decimal digit is near enough for every exponent that a 32-bit number
can have. -/
theorem tenTo_guess_le : ∀ k : Nat, k < 280 →
    tenTo ((((k : Int) - 150) * 30103).fdiv 100000 - 21) ≤ (2 : Rat) ^ ((k : Int) - 150) := by
  decide +kernel

theorem tenTo_leadingTen_le (hlow : (2 : Rat) ^ (-149 : Int) ≤ x)
    (hhigh : x < (2 : Rat) ^ (129 : Int)) : tenTo (leadingTen x - 20) ≤ x := by
  have hx : 0 < x := lt_of_lt_of_le (by positivity) hlow
  simp only [leadingTen]
  split_ifs with hless hmore
  · have hleast := Rounding.le_leading hx hlow
    have hmost := Rounding.leading_lt hx hhigh
    have htable := tenTo_guess_le (Rounding.leading x + 150).toNat (by omega)
    rw [Int.toNat_of_nonneg (by omega), Int.add_sub_cancel] at htable
    rw [Int.sub_sub]
    exact htable.trans (Rounding.two_zpow_leading_le hx)
  · exact (tenTo_le_tenTo (by omega)).trans hmore
  · exact (tenTo_le_tenTo (by omega)).trans (not_lt.mp hless)

variable {format : BinaryFormat} {bits : Nat}

theorem interval_bounds (h : 0 < (format.parts bits).1) :
    0 < (interval format bits).lower ∧ (interval format bits).value ≤ (interval format bits).upper ∧
      (interval format bits).upper ≤ 2 * (interval format bits).value := by
  have hunit : (0 : Rat) < 2 ^ (format.parts bits).2 := by positivity
  have hmantissa : (1 : Rat) ≤ (format.parts bits).1 := by exact_mod_cast h
  have hvalue : (2 : Rat) ^ (format.parts bits).2 ≤
      (format.parts bits).1 * 2 ^ (format.parts bits).2 := le_mul_of_one_le_left hunit.le hmantissa
  simp only [interval]
  refine ⟨?_, by linarith, by linarith⟩
  split_ifs <;> linarith

/-- The digits of a 32-bit number are not zero, and stand for less than `2 ^ 130`. -/
theorem shortest_single_bounds (tie : Tie) (hpos : 0 < bits)
    (hfinite : bits < BinaryFormat.single.infinity) :
    0 < (shortest .single tie bits).1 ∧
      ((shortest .single tie bits).1 : Rat) * tenTo (shortest .single tie bits).2 <
        (2 : Rat) ^ (130 : Int) := by
  have hunsigned : BinaryFormat.single.unsigned bits = bits :=
    BinaryFormat.unsigned_of_lt (hfinite.trans (by decide))
  have hparts : 0 < (BinaryFormat.single.parts bits).1 :=
    BinaryFormat.parts_mantissa_pos (by rwa [hunsigned])
  obtain ⟨hlower, hupper, htwice⟩ := interval_bounds hparts
  have hlow : (2 : Rat) ^ (-149 : Int) ≤ (interval .single bits).value := by
    calc (2 : Rat) ^ (-149 : Int) ≤ 2 ^ (BinaryFormat.single.parts bits).2 :=
          zpow_le_zpow_right₀ (by norm_num) BinaryFormat.leastExponent_le_parts
      _ ≤ (BinaryFormat.single.parts bits).1 * 2 ^ (BinaryFormat.single.parts bits).2 :=
          le_mul_of_one_le_left (by positivity) (by exact_mod_cast hparts)
  have hfield : BinaryFormat.single.unsigned bits <
      (254 + 1) * BinaryFormat.single.fractionUnit := by
    rw [hunsigned]
    exact hfinite
  have hhigh : (interval .single bits).value < (2 : Rat) ^ (129 : Int) :=
    BinaryFormat.size_lt (by decide) hfield
  have hsearch := search_bounds tie hlower hupper (tenTo_leadingTen_le hlow hhigh)
  refine ⟨dropZeros_pos hsearch.1 20 _, ?_⟩
  calc ((shortest .single tie bits).1 : Rat) * tenTo (shortest .single tie bits).2
      = _ := dropZeros_value 20 _ _
    _ ≤ (interval .single bits).upper := hsearch.2
    _ ≤ 2 * (interval .single bits).value := htwice
    _ < 2 * 2 ^ (129 : Int) := by gcongr
    _ = (2 : Rat) ^ (130 : Int) := by norm_num

/-- A number has as many digits as its size asks for. -/
theorem pow_length_le {n : Nat} (h : 0 < n) : 10 ^ ((Decimal.digits n).length - 1) ≤ n := by
  induction n using Decimal.digits_induction with
  | one n hlt =>
    rw [Decimal.digits_of_lt hlt]
    exact h
  | more n hle ih =>
    have hpos : 0 < n / 10 := Nat.div_pos hle (by decide)
    have hlength := List.length_pos_iff.mpr (Decimal.digits_ne_nil (n / 10))
    have hsplit : (Decimal.digits n).length - 1 = (Decimal.digits (n / 10)).length - 1 + 1 := by
      rw [Decimal.digits_of_le hle, List.length_append, List.length_singleton]
      omega
    rw [hsplit, Nat.pow_succ]
    have := ih hpos
    omega

/-- A number below a power of ten has its leading digit below it. -/
theorem leading_lt {n : Nat} {place e : Int} (hn : 0 < n) (h : (n : Rat) * tenTo place < tenTo e) :
    place + (Decimal.digits n).length - 1 < e := by
  have hlength := List.length_pos_iff.mpr (Decimal.digits_ne_nil n)
  have hsize : tenTo (((Decimal.digits n).length - 1 : Nat) : Int) ≤ n := by
    rw [tenTo, zpow_natCast]
    exact_mod_cast pow_length_le hn
  have hleading : tenTo ((((Decimal.digits n).length - 1 : Nat) : Int) + place) < tenTo e := by
    rw [tenTo_add]
    exact (mul_le_mul_of_nonneg_right hsize (tenTo_pos place).le).trans_lt h
  have := (zpow_lt_zpow_iff_right₀ (by norm_num)).mp hleading
  omega

/-- The leading digit of a 32-bit number lies far below the largest 64-bit number. -/
theorem leading_shortest_single_lt (tie : Tie) (hpos : 0 < bits)
    (hfinite : bits < BinaryFormat.single.infinity) :
    (shortest .single tie bits).2 + (Decimal.digits (shortest .single tie bits).1).length - 1 <
      40 := by
  obtain ⟨hdigits, hvalue⟩ := shortest_single_bounds tie hpos hfinite
  exact leading_lt hdigits (hvalue.trans (by decide +kernel))

end SpeechProbe.Shortest
