import SpeechProbe.Number.Binary
import SpeechProbe.Proofs.Number.Rounding

/-!
# The sizes and values of binary numbers

A number below a power of two has a pattern whose exponent field is bounded (`magnitude_le`), and
the number of a pattern is bounded by its exponent field (`size_lt`).  So a rational below a power
of two is rounded to a 64-bit number that is not much larger, and that is finite if the power is
one of those the format has (`Double.ofRat_bounds`).

A number that has no more digits than the format keeps is not rounded at all.  Scaled to its last
place it is a whole significand, and this and the exponent are read from its pattern as they were
put in (`parts_mul_add`), so that the number is got back (`toRat_magnitude`).
-/

namespace SpeechProbe

namespace BinaryFormat

variable {format : BinaryFormat} {bits : Nat} {x : Rat}

theorem fractionUnit_pos (format : BinaryFormat) : 0 < format.fractionUnit :=
  Nat.pow_pos (by decide)

theorem two_mul_fractionUnit (h : 0 < format.precision) :
    2 * format.fractionUnit = 2 ^ format.precision := by
  show 2 * 2 ^ (format.precision - 1) = 2 ^ format.precision
  rw [← Nat.pow_succ', Nat.succ_eq_add_one, Nat.sub_add_cancel h]

/-! ## The pattern of a number -/

theorem magnitude_le_infinity (format : BinaryFormat) (x : Rat) :
    format.magnitude x ≤ format.infinity := by
  rw [magnitude]
  split_ifs
  · exact Nat.zero_le _
  · exact Nat.min_le_left _ _

/-- Scaled to the last place it keeps, a number has no more than the significant digits. -/
theorem scaled_lt (hprecision : 0 < format.precision) (hx : 0 < x) {exponent : Int}
    (hexponent : Rounding.leading x - ((format.precision : Int) - 1) ≤ exponent) :
    x / (2 : Rat) ^ exponent < (2 * format.fractionUnit : Nat) := by
  rw [div_lt_iff₀ (by positivity), two_mul_fractionUnit hprecision]
  calc x < (2 : Rat) ^ (Rounding.leading x + 1) := Rounding.lt_two_zpow_leading hx
    _ ≤ (2 : Rat) ^ ((format.precision : Int) + exponent) :=
        zpow_le_zpow_right₀ (by norm_num) (by omega)
    _ = _ := by
        rw [zpow_add₀ (by norm_num)]
        norm_cast

theorem halfEven_scaled_le (hprecision : 0 < format.precision) (hx : 0 < x) {exponent : Int}
    (hexponent : Rounding.leading x - ((format.precision : Int) - 1) ≤ exponent) :
    Rounding.halfEven (x / (2 : Rat) ^ exponent) ≤ (2 * format.fractionUnit : Nat) :=
  Rounding.halfEven_le (scaled_lt hprecision hx hexponent)

/-- Scaled to the last of the significant digits, a number has all of them. -/
theorem le_scaled (hprecision : 0 < format.precision) (hx : 0 < x) :
    (format.fractionUnit : Rat) ≤
      x / (2 : Rat) ^ (Rounding.leading x - ((format.precision : Int) - 1)) := by
  obtain ⟨digits, hdigits⟩ := Nat.exists_eq_add_of_lt hprecision
  have hunit : (format.fractionUnit : Rat) = (2 : Rat) ^ (digits : Int) := by
    rw [fractionUnit, hdigits, Nat.zero_add, Nat.add_sub_cancel, zpow_natCast]
    exact Nat.cast_pow 2 digits
  rw [le_div_iff₀ (by positivity), hunit, ← zpow_add₀ (by norm_num), hdigits]
  push_cast
  rw [show (digits : Int) + (Rounding.leading x - (0 + digits + 1 - 1)) = Rounding.leading x by
    ring]
  exact Rounding.two_zpow_leading_le hx

theorem magnitude_le (format : BinaryFormat) (hprecision : 0 < format.precision) {k : Int}
    (h : x < (2 : Rat) ^ k) :
    format.magnitude x ≤
      ((k - format.precision - format.leastExponent).toNat + 2) * format.fractionUnit := by
  rw [magnitude]
  split_ifs with hx
  · exact Nat.zero_le _
  rw [not_le] at hx
  have hleading := Rounding.leading_lt hx h
  have hscaled := halfEven_scaled_le hprecision hx (le_max_right format.leastExponent _)
  refine (Nat.min_le_right _ _).trans ?_
  rw [Nat.add_mul]
  gcongr
  · omega
  · omega

/-! ## The number of a pattern -/

theorem unsigned_of_lt (h : bits < format.signBit) : format.unsigned bits = bits := by
  rw [unsigned, if_neg (by omega)]

theorem isNegative_of_lt (h : bits < format.signBit) : format.isNegative bits = false :=
  decide_eq_false (by omega)

/-- The significand has no more digits than the format keeps. -/
theorem parts_mantissa_lt (hprecision : 0 < format.precision) :
    (format.parts bits).1 < 2 ^ format.precision := by
  have hfraction := Nat.mod_lt (format.unsigned bits) (fractionUnit_pos format)
  have hmantissa := two_mul_fractionUnit hprecision
  simp only [parts]
  split_ifs <;> omega

theorem parts_mantissa_pos (h : 0 < format.unsigned bits) : 0 < (format.parts bits).1 := by
  have hunit := fractionUnit_pos format
  simp only [parts]
  split_ifs with hzero
  · rw [Nat.mod_eq_of_lt ((Nat.div_eq_zero_iff_lt hunit).mp hzero)]
    exact h
  · exact Nat.add_pos_right _ hunit

theorem leastExponent_le_parts : format.leastExponent ≤ (format.parts bits).2 := by
  simp only [parts]
  generalize format.unsigned bits / format.fractionUnit = field
  split_ifs <;> omega

theorem size_lt (hprecision : 0 < format.precision) {field : Nat}
    (h : format.unsigned bits < (field + 1) * format.fractionUnit) :
    ((format.parts bits).1 : Rat) * (2 : Rat) ^ (format.parts bits).2 <
      (2 : Rat) ^ (format.leastExponent + field + format.precision) := by
  have hunit := fractionUnit_pos format
  have hfield : format.unsigned bits / format.fractionUnit ≤ field :=
    Nat.lt_succ_iff.mp ((Nat.div_lt_iff_lt_mul hunit).mpr h)
  have hexponent : (format.parts bits).2 ≤ format.leastExponent + field := by
    simp only [parts]
    split_ifs <;> omega
  have hmantissa : ((format.parts bits).1 : Rat) < (2 : Rat) ^ (format.precision : Int) := by
    exact_mod_cast parts_mantissa_lt hprecision
  calc ((format.parts bits).1 : Rat) * (2 : Rat) ^ (format.parts bits).2
      < (2 : Rat) ^ (format.precision : Int) * (2 : Rat) ^ (format.parts bits).2 := by gcongr
    _ = (2 : Rat) ^ ((format.precision : Int) + (format.parts bits).2) :=
        (zpow_add₀ (by norm_num) _ _).symm
    _ ≤ _ := zpow_le_zpow_right₀ (by norm_num) (by omega)

/-! ## Numbers that are kept -/

theorem unsigned_signBit_add (bits : Nat) : format.unsigned (format.signBit + bits) = bits := by
  rw [unsigned, if_pos (Nat.le_add_right _ _), Nat.add_sub_cancel_left]

theorem toRat_of_lt (h : bits < format.signBit) :
    format.toRat bits = (format.parts bits).1 * (2 : Rat) ^ (format.parts bits).2 := by
  rw [toRat, isNegative_of_lt h]
  simp only [Bool.false_eq_true, if_false]

/-- The sign bit turns a number around. -/
theorem toRat_signBit_add (h : bits < format.signBit) :
    format.toRat (format.signBit + bits) = -format.toRat bits := by
  have hparts : format.parts (format.signBit + bits) = format.parts bits := by
    rw [parts, parts, unsigned_signBit_add, unsigned_of_lt h]
  have hnegative : format.isNegative (format.signBit + bits) = true :=
    decide_eq_true (Nat.le_add_right _ _)
  rw [toRat_of_lt h, toRat, hparts, hnegative]
  simp only [if_true]

/-- A significand keeps all its digits: the first one is in the exponent field, unless that is
the least one. -/
theorem parts_mul_add {place mantissa : Nat}
    (hsign : place * format.fractionUnit + mantissa < format.signBit)
    (hmantissa : mantissa < 2 * format.fractionUnit)
    (hnormal : format.fractionUnit ≤ mantissa ∨ place = 0) :
    format.parts (place * format.fractionUnit + mantissa) =
      (mantissa, format.leastExponent + place) := by
  have hunit := fractionUnit_pos format
  simp only [parts, unsigned_of_lt hsign]
  rcases Nat.lt_or_ge mantissa format.fractionUnit with hlt | hge
  · obtain rfl : place = 0 := by omega
    rw [Nat.zero_mul, Nat.zero_add, Nat.div_eq_of_lt hlt, Nat.mod_eq_of_lt hlt, if_pos rfl]
    simp
  · obtain ⟨fraction, rfl⟩ := Nat.exists_eq_add_of_le hge
    have hsum : place * format.fractionUnit + (format.fractionUnit + fraction) =
        fraction + format.fractionUnit * (place + 1) := by ring
    have hfraction : fraction < format.fractionUnit := by omega
    rw [hsum, Nat.add_mul_div_left _ _ hunit, Nat.add_mul_mod_self_left,
      Nat.div_eq_of_lt hfraction, Nat.mod_eq_of_lt hfraction, if_neg (by omega)]
    push_cast
    congr 1 <;> ring

theorem magnitude_zero : format.magnitude 0 = 0 := by
  rw [magnitude, if_pos le_rfl]

/-- A number of no more digits than the format keeps, whose last one is not too small for it and
which is not too large, is the number of its pattern. -/
theorem toRat_magnitude (hprecision : 0 < format.precision)
    (hsign : format.infinity ≤ format.signBit) {m : Nat} {e k : Int}
    (hm : m < 2 ^ format.precision) (he : format.leastExponent ≤ e)
    (hx : x = m * (2 : Rat) ^ e) (hbound : x < (2 : Rat) ^ k)
    (hroom : ((k - format.precision - format.leastExponent).toNat + 2) * format.fractionUnit ≤
      format.infinity) :
    format.magnitude x < format.infinity ∧ format.toRat (format.magnitude x) = x := by
  have hunit := fractionUnit_pos format
  have hfinite : 0 < format.infinity := by
    refine lt_of_lt_of_le ?_ hroom
    positivity
  rcases Nat.eq_zero_or_pos m with rfl | hpos
  · rw [hx, Nat.cast_zero, zero_mul, magnitude_zero, toRat_of_lt (hfinite.trans_le hsign)]
    have hzero : format.parts 0 = (0, format.leastExponent) := by
      rw [parts, unsigned_of_lt (hfinite.trans_le hsign), Nat.zero_div, Nat.zero_mod]
      rfl
    rw [hzero, Nat.cast_zero, zero_mul]
    exact ⟨hfinite, rfl⟩
  have hxpos : 0 < x := by
    rw [hx]
    positivity
  obtain ⟨exponent, hexponent⟩ : ∃ exponent, exponent =
      max format.leastExponent (Rounding.leading x - ((format.precision : Int) - 1)) := ⟨_, rfl⟩
  have hlast := Rounding.leading_sub_le hm hxpos hx
  have hleading := Rounding.leading_lt hxpos hbound
  obtain ⟨place, hplace⟩ := Int.le.dest (show format.leastExponent ≤ exponent by omega)
  obtain ⟨n, hn⟩ := Rounding.exists_natCast_eq_div (show exponent ≤ e by omega) hx
  have hscaled : n < 2 * format.fractionUnit := by
    have hlast : Rounding.leading x - ((format.precision : Int) - 1) ≤ exponent := by omega
    have hlt := scaled_lt hprecision hxpos hlast
    rw [hn] at hlt
    exact_mod_cast hlt
  -- All digits are there, unless the exponent is the least one.
  have hnormal : format.fractionUnit ≤ n ∨ place = 0 := by
    by_cases hleast : exponent = format.leastExponent
    · exact .inr (by omega)
    · have hle := le_scaled hprecision hxpos
      rw [show Rounding.leading x - ((format.precision : Int) - 1) = exponent by omega, hn] at hle
      exact .inl (by exact_mod_cast hle)
  have hpattern : place * format.fractionUnit + n < format.infinity := by
    refine lt_of_lt_of_le ?_ hroom
    rw [Nat.add_mul]
    exact Nat.add_lt_add_of_le_of_lt (Nat.mul_le_mul_right _ (by omega)) hscaled
  have hmagnitude : format.magnitude x = place * format.fractionUnit + n := by
    simp only [magnitude, if_neg (not_le.mpr hxpos), ← hexponent, hn]
    rw [← Int.cast_natCast, Rounding.halfEven_intCast, Int.toNat_natCast, ← hplace,
      add_sub_cancel_left, Int.toNat_natCast, Nat.min_eq_right hpattern.le]
  have hsigned := hpattern.trans_le hsign
  rw [hmagnitude, toRat_of_lt hsigned, parts_mul_add hsigned hscaled hnormal, hplace, ← hn,
    div_mul_cancel₀ _ (by positivity)]
  exact ⟨hpattern, rfl⟩

end BinaryFormat

namespace Double

open BinaryFormat

variable {x : Rat}

theorem toNat_bits_ofRat (h : 0 ≤ x) : (ofRat x).bits.toNat = BinaryFormat.double.magnitude x := by
  have hle := magnitude_le_infinity BinaryFormat.double x
  have hinfinity : BinaryFormat.double.infinity < 2 ^ 64 := by decide
  rw [ofRat, UInt64.toNat_ofNat_of_lt', BinaryFormat.ofRat, if_neg (not_lt.mpr h)]
  rw [BinaryFormat.ofRat, if_neg (not_lt.mpr h)]
  exact hle.trans_lt hinfinity

/-- What is far enough below the largest number stays finite, and not much above a bound. -/
theorem ofRat_bounds (h : 0 ≤ x) {k : Nat} (hk : k < 1024) (hx : x < (2 : Rat) ^ k) :
    (ofRat x).isFinite = true ∧ 0 ≤ (ofRat x).toRat ∧ (ofRat x).toRat < (2 : Rat) ^ (k + 2) := by
  have hmagnitude : BinaryFormat.double.magnitude x ≤ (k + 1023) * 2 ^ 52 := by
    have hle := magnitude_le BinaryFormat.double (by decide) (k := k) (by exact_mod_cast hx)
    have hfield : (((k : Int) - (BinaryFormat.double.precision : Int) -
        BinaryFormat.double.leastExponent).toNat + 2) = k + 1023 := by
      show ((k : Int) - 53 - (-1074)).toNat + 2 = k + 1023
      omega
    rwa [hfield] at hle
  have hbits := toNat_bits_ofRat h
  have hsign : BinaryFormat.double.magnitude x < BinaryFormat.double.signBit :=
    (magnitude_le_infinity BinaryFormat.double x).trans_lt (by decide)
  refine ⟨?_, ?_, ?_⟩
  · rw [isFinite, BinaryFormat.isFinite, hbits, unsigned_of_lt hsign]
    apply decide_eq_true
    show _ < 0x7ff0000000000000
    omega
  · rw [toRat, hbits, toRat_of_lt hsign]
    positivity
  · have hbound : BinaryFormat.double.unsigned (BinaryFormat.double.magnitude x) <
        (k + 1023 + 1) * BinaryFormat.double.fractionUnit := by
      rw [unsigned_of_lt hsign]
      show _ < (k + 1023 + 1) * 2 ^ 52
      omega
    have hsize := size_lt (by decide) hbound
    have hexponent : BinaryFormat.double.leastExponent + ((k + 1023 : Nat) : Int) +
        BinaryFormat.double.precision = ((k + 2 : Nat) : Int) := by
      show (-1074 : Int) + ((k + 1023 : Nat) : Int) + 53 = _
      omega
    rw [hexponent, zpow_natCast] at hsize
    rw [toRat, hbits, toRat_of_lt hsign]
    exact hsize

end Double

namespace Single

open BinaryFormat

variable {x : Rat}

/-- A number of 24 digits is kept, if the last one is not too small and it is not too large. -/
theorem toRat_ofRat {m : Nat} {e : Int} (hm : m < 2 ^ 24) (he : -149 ≤ e)
    (hx : |x| = m * (2 : Rat) ^ e) (hbound : |x| < (2 : Rat) ^ (128 : Int)) :
    (ofRat x).isFinite = true ∧ (ofRat x).toRat = x := by
  obtain ⟨hfinite, hkept⟩ : BinaryFormat.single.magnitude |x| < BinaryFormat.single.infinity ∧
      BinaryFormat.single.toRat (BinaryFormat.single.magnitude |x|) = |x| :=
    toRat_magnitude (by decide) (by decide) hm he hx hbound (by decide)
  have hsign : BinaryFormat.single.magnitude |x| < BinaryFormat.single.signBit :=
    hfinite.trans (by decide)
  rcases lt_or_ge x 0 with hneg | hpos
  · rw [abs_of_neg hneg] at hfinite hkept hsign
    have hbits : (ofRat x).bits.toNat =
        BinaryFormat.single.signBit + BinaryFormat.single.magnitude (-x) := by
      have hrange : BinaryFormat.single.signBit + BinaryFormat.single.magnitude (-x) < 2 ^ 32 := by
        have hinfinity : BinaryFormat.single.signBit + BinaryFormat.single.infinity < 2 ^ 32 := by
          decide
        omega
      rw [ofRat, BinaryFormat.ofRat, if_pos hneg, UInt32.toNat_ofNat_of_lt' hrange]
    rw [isFinite, toRat, BinaryFormat.isFinite, hbits, unsigned_signBit_add,
      toRat_signBit_add hsign, hkept, neg_neg]
    exact ⟨decide_eq_true hfinite, rfl⟩
  · rw [abs_of_nonneg hpos] at hfinite hkept hsign
    have hbits : (ofRat x).bits.toNat = BinaryFormat.single.magnitude x := by
      have hinfinity : BinaryFormat.single.infinity < 2 ^ 32 := by decide
      rw [ofRat, BinaryFormat.ofRat, if_neg (not_lt.mpr hpos),
        UInt32.toNat_ofNat_of_lt' (hfinite.trans hinfinity)]
    rw [isFinite, toRat, BinaryFormat.isFinite, hbits, unsigned_of_lt hsign, hkept]
    exact ⟨decide_eq_true hfinite, rfl⟩

end Single
end SpeechProbe
