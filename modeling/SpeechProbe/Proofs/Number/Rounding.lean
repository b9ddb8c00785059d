import Mathlib.Algebra.Order.Field.Power
import Mathlib.Data.Rat.Floor
import Mathlib.Tactic.FieldSimp
import Mathlib.Tactic.Linarith
import Mathlib.Tactic.Positivity
import Mathlib.Tactic.Ring
import SpeechProbe.Number.Rounding

/-!
# Bounds on rounding

The leading exponent of a positive rational is that of the power of two below it, and the integer
nearest to a rational is half a unit away at most.  So rounding to significant digits moves a
number by half a unit in its last place at most, and a number of so few digits not at all.

Two roundings in a row are no rounding in general.  But a fraction cannot be rounded onto a half,
or over it, if the last place that is kept is finer than the denominator: then the second rounding,
to an integer, sees what it would have seen without the first (`halfUp_significant`).
-/

namespace SpeechProbe.Rounding

variable {x : Rat}

/-! ## The nearest integer -/

theorem halfEven_le_floor_add_one (x : Rat) : halfEven x ≤ x.floor + 1 := by
  simp only [halfEven]
  split_ifs <;> omega

theorem floor_le_halfEven (x : Rat) : x.floor ≤ halfEven x := by
  simp only [halfEven]
  split_ifs <;> omega

/-- An integer above a rational is not below the integer nearest to it. -/
theorem halfEven_le {n : Int} (h : x < n) : halfEven x ≤ n := by
  have hfloor : x.floor < n := Rat.floor_lt_iff.mpr h
  have := halfEven_le_floor_add_one x
  omega

/-- An integer up to a rational is not above the integer nearest to it. -/
theorem le_halfEven {n : Int} (h : n ≤ x) : n ≤ halfEven x :=
  (Rat.le_floor_iff.mpr h).trans (floor_le_halfEven x)

theorem halfEven_intCast (n : Int) : halfEven n = n := by
  simp [halfEven, Rat.floor_intCast]

/-- The nearest integer is half a unit away at most. -/
theorem abs_halfEven_sub_le (x : Rat) : |(halfEven x : Rat) - x| ≤ 1 / 2 := by
  have hfloor := Rat.floor_le x
  have hnext := Rat.lt_floor_add_one x
  simp only [halfEven]
  rw [abs_le]
  push_cast at hnext
  split_ifs with hbelow habove heven
  all_goals
    push_cast
    constructor <;> linarith

/-! ## The leading exponent -/

theorem natAbs_num_div_den (h : 0 < x) : x = (x.num.natAbs : Rat) / x.den := by
  have hnum : ((x.num.natAbs : Int) : Rat) = x.num := by
    rw [Int.natAbs_of_nonneg (Rat.num_nonneg.mpr h.le)]
  rw [← Int.cast_natCast, hnum, Rat.num_div_den]

/-- The guess at the leading exponent is that exponent or the one above it. -/
theorem zpow_log2_bounds (h : 0 < x) :
    (2 : Rat) ^ ((x.num.natAbs.log2 : Int) - x.den.log2 - 1) ≤ x ∧
      x < (2 : Rat) ^ ((x.num.natAbs.log2 : Int) - x.den.log2 + 1) := by
  have hnum : x.num.natAbs ≠ 0 := by
    have := Rat.num_pos.mpr h
    omega
  have hden : (0 : Rat) < x.den := by exact_mod_cast x.den_pos
  have hnumLow : (2 : Rat) ^ x.num.natAbs.log2 ≤ x.num.natAbs := by
    exact_mod_cast Nat.log2_self_le hnum
  have hnumHigh : (x.num.natAbs : Rat) < (2 : Rat) ^ (x.num.natAbs.log2 + 1) := by
    exact_mod_cast Nat.lt_log2_self
  have hdenLow : (2 : Rat) ^ x.den.log2 ≤ x.den := by
    exact_mod_cast Nat.log2_self_le x.den_nz
  have hdenHigh : (x.den : Rat) ≤ (2 : Rat) ^ (x.den.log2 + 1) := by
    exact_mod_cast Nat.lt_log2_self.le
  have htwo : (2 : Rat) ≠ 0 := by norm_num
  constructor
  · calc (2 : Rat) ^ ((x.num.natAbs.log2 : Int) - x.den.log2 - 1)
        = 2 ^ x.num.natAbs.log2 / 2 ^ (x.den.log2 + 1) := by
          rw [sub_sub, zpow_sub₀ htwo]
          norm_cast
      _ ≤ (x.num.natAbs : Rat) / x.den := by gcongr
      _ = x := (natAbs_num_div_den h).symm
  · calc x = (x.num.natAbs : Rat) / x.den := natAbs_num_div_den h
      _ < 2 ^ (x.num.natAbs.log2 + 1) / x.den := by gcongr
      _ ≤ 2 ^ (x.num.natAbs.log2 + 1) / 2 ^ x.den.log2 := by gcongr
      _ = (2 : Rat) ^ ((x.num.natAbs.log2 : Int) - x.den.log2 + 1) := by
          rw [sub_add_eq_add_sub, zpow_sub₀ htwo]
          norm_cast

theorem two_zpow_leading_le (h : 0 < x) : (2 : Rat) ^ leading x ≤ x := by
  simp only [leading]
  split_ifs with hguess
  · exact hguess
  · exact (zpow_log2_bounds h).1

theorem lt_two_zpow_leading (h : 0 < x) : x < (2 : Rat) ^ (leading x + 1) := by
  simp only [leading]
  split_ifs with hguess
  · exact (zpow_log2_bounds h).2
  · rw [Int.sub_add_cancel]
    exact not_le.mp hguess

theorem leading_lt (h : 0 < x) {e : Int} (hx : x < (2 : Rat) ^ e) : leading x < e :=
  (zpow_lt_zpow_iff_right₀ (by norm_num)).mp (lt_of_le_of_lt (two_zpow_leading_le h) hx)

theorem le_leading (h : 0 < x) {e : Int} (hx : (2 : Rat) ^ e ≤ x) : e ≤ leading x := by
  have := (zpow_lt_zpow_iff_right₀ (by norm_num)).mp (lt_of_le_of_lt hx (lt_two_zpow_leading h))
  omega

/-! ## Significant digits -/

variable {digits : Nat}

theorem significant_of_pos (h : 0 < x) : significant digits x =
    halfEven (x / (2 : Rat) ^ (leading x - ((digits : Int) - 1))) *
      (2 : Rat) ^ (leading x - ((digits : Int) - 1)) := by
  rw [significant, if_neg (not_le.mpr h)]

/-- Rounding moves a number by half a unit in its last place at most. -/
theorem abs_significant_sub_le (digits : Nat) (h : 0 < x) :
    |significant digits x - x| ≤ (2 : Rat) ^ (leading x - digits) := by
  have hunit : (0 : Rat) < (2 : Rat) ^ (leading x - ((digits : Int) - 1)) := by positivity
  have hnearest := abs_halfEven_sub_le (x / (2 : Rat) ^ (leading x - ((digits : Int) - 1)))
  rw [significant_of_pos h]
  calc |(halfEven (x / (2 : Rat) ^ (leading x - ((digits : Int) - 1))) : Rat) *
        (2 : Rat) ^ (leading x - ((digits : Int) - 1)) - x|
      = |(halfEven (x / (2 : Rat) ^ (leading x - ((digits : Int) - 1))) : Rat) -
          x / (2 : Rat) ^ (leading x - ((digits : Int) - 1))| *
            (2 : Rat) ^ (leading x - ((digits : Int) - 1)) := by
        rw [← abs_of_pos hunit, ← abs_mul, abs_of_pos hunit, sub_mul,
          div_mul_cancel₀ _ hunit.ne']
    _ ≤ 1 / 2 * (2 : Rat) ^ (leading x - ((digits : Int) - 1)) := by gcongr
    _ = (2 : Rat) ^ (leading x - digits) := by
        rw [show leading x - ((digits : Int) - 1) = leading x - digits + 1 by ring,
          zpow_add_one₀ (by norm_num)]
        ring

/-- The last of so many digits is not above the last place of a number that has no more. -/
theorem leading_sub_le {m : Nat} {e : Int} (hm : m < 2 ^ digits) (hx : 0 < x)
    (heq : x = m * (2 : Rat) ^ e) : leading x - ((digits : Int) - 1) ≤ e := by
  have hlt : x < (2 : Rat) ^ ((digits : Int) + e) := by
    rw [heq, zpow_add₀ (by norm_num), zpow_natCast]
    gcongr
    exact_mod_cast hm
  have hleading := leading_lt hx hlt
  omega

/-- In units that are not above its last place a number is a whole one. -/
theorem exists_natCast_eq_div {m : Nat} {e unit : Int} (h : unit ≤ e)
    (heq : x = m * (2 : Rat) ^ e) : ∃ n : Nat, x / (2 : Rat) ^ unit = n := by
  obtain ⟨k, rfl⟩ := Int.le.dest h
  refine ⟨m * 2 ^ k, ?_⟩
  rw [div_eq_iff (by positivity), heq, zpow_add₀ (by norm_num), zpow_natCast]
  push_cast
  ring

/-- A number of so many digits is kept as it is. -/
theorem significant_eq_self {m : Nat} {e : Int} (hm : m < 2 ^ digits)
    (hx : x = m * (2 : Rat) ^ e) : significant digits x = x := by
  rcases Nat.eq_zero_or_pos m with rfl | hpos
  · rw [hx]
    simp
  have hxpos : 0 < x := by
    rw [hx]
    positivity
  obtain ⟨n, hn⟩ := exists_natCast_eq_div (leading_sub_le hm hxpos hx) hx
  rw [significant_of_pos hxpos, hn, ← Int.cast_natCast, halfEven_intCast, Int.cast_natCast, ← hn,
    div_mul_cancel₀ _ (by positivity)]

theorem significant_natCast {n : Nat} (hdigits : 0 < digits) (h : n ≤ 2 ^ digits) :
    significant digits n = n := by
  rcases Nat.lt_or_eq_of_le h with hlt | rfl
  · exact significant_eq_self (e := 0) hlt (by simp)
  · exact significant_eq_self (m := 1) (e := digits) (Nat.one_lt_two_pow hdigits.ne') (by simp)

/-- Rounding does not take a number below the power of two that it begins with. -/
theorem two_zpow_leading_le_significant (hdigits : 0 < digits) (h : 0 < x) :
    (2 : Rat) ^ leading x ≤ significant digits x := by
  obtain ⟨places, rfl⟩ := Nat.exists_eq_add_of_lt hdigits
  have hlast : leading x = places + (leading x - (((0 + places + 1 : Nat) : Int) - 1)) := by
    push_cast
    ring
  have hlow := two_zpow_leading_le h
  rw [significant_of_pos h]
  generalize leading x - (((0 + places + 1 : Nat) : Int) - 1) = unit at hlast
  rw [hlast, zpow_add₀ (by norm_num), zpow_natCast] at hlow ⊢
  have hscaled : ((2 ^ places : Nat) : Int) ≤ halfEven (x / (2 : Rat) ^ unit) := by
    apply le_halfEven
    rw [le_div_iff₀ (by positivity)]
    exact_mod_cast hlow
  gcongr
  exact_mod_cast hscaled

/-- More than half of a number is left of it. -/
theorem half_lt_significant (hdigits : 0 < digits) (h : 0 < x) : x / 2 < significant digits x := by
  have hbelow := lt_two_zpow_leading h
  have habove := two_zpow_leading_le_significant hdigits h
  rw [zpow_add_one₀ (by norm_num)] at hbelow
  linarith

theorem significant_pos (hdigits : 0 < digits) (h : 0 < x) : 0 < significant digits x :=
  (half_pos h).trans (half_lt_significant hdigits h)

/-! ## Halves -/

theorem halfUp_eq_iff {n : Int} : halfUp x = n ↔ (n : Rat) ≤ x + 1 / 2 ∧ x + 1 / 2 < n + 1 := by
  rw [halfUp, Int.eq_iff_le_and_ge, ← Int.lt_add_one_iff, Rat.floor_lt_iff, Rat.le_floor_iff]
  push_cast
  exact and_comm

/-- A number of halves is kept if it has a place for them. -/
theorem significant_half {n e : Nat} (h : (n : Rat) / 2 < 2 ^ e) (he : e < digits) :
    significant digits ((n : Rat) / 2) = n / 2 := by
  apply significant_eq_self (m := n) (e := -1)
  · have hpow : (2 : Rat) ^ e * 2 ≤ 2 ^ digits := by
      rw [← pow_succ]
      exact pow_le_pow_right₀ (by norm_num) he
    rw [div_lt_iff₀ (by norm_num)] at h
    exact_mod_cast h.trans_le hpow
  · rw [zpow_neg_one, div_eq_mul_inv]

/-- A number is moved by less than a fraction with a denominator for which it has places. -/
theorem abs_significant_sub_lt {d e : Nat} (h : 0 < x) (hbound : x < 2 ^ e) (hd : 0 < d)
    (hfine : d < 2 ^ (digits + 1 - e)) (he : e < digits) :
    |significant digits x - x| < 1 / d := by
  have hleading := leading_lt h (e := e) (by exact_mod_cast hbound)
  have hplaces : (0 : Rat) < d := by exact_mod_cast hd
  calc |significant digits x - x| ≤ (2 : Rat) ^ (leading x - digits) :=
        abs_significant_sub_le digits h
    _ ≤ (2 : Rat) ^ (-((digits + 1 - e : Nat) : Int)) :=
        zpow_le_zpow_right₀ (by norm_num) (by omega)
    _ = 1 / (2 : Rat) ^ (digits + 1 - e) := by rw [zpow_neg, zpow_natCast, one_div]
    _ < 1 / d := by
        gcongr
        exact_mod_cast hfine

/-- A fraction with an even denominator rounds half up to the same integer before and after its
last place is rounded, if that place is finer than the denominator. -/
theorem halfUp_significant {n k e : Nat} (hk : 0 < k) (hbound : (n : Rat) / (2 * k : Nat) < 2 ^ e)
    (hfine : 2 * k < 2 ^ (digits + 1 - e)) (he : e < digits) :
    halfUp (significant digits ((n : Rat) / (2 * k : Nat))) = ((n + k) / (2 * k) : Nat) := by
  rcases Nat.eq_zero_or_pos n with rfl | hn
  · rw [Nat.div_eq_of_lt (by omega), Nat.cast_zero, zero_div, significant_zero, halfUp_eq_iff]
    norm_num
  have hd : 0 < 2 * k := by omega
  have hd' : (0 : Rat) < (2 * k : Nat) := by exact_mod_cast hd
  have hx : 0 < (n : Rat) / (2 * k : Nat) := div_pos (by exact_mod_cast hn) hd'
  have hlow : 2 * k * ((n + k) / (2 * k)) ≤ n + k := Nat.mul_div_le _ _
  have hhigh : n + k < 2 * k * ((n + k) / (2 * k) + 1) := Nat.lt_mul_div_succ _ hd
  have hwhole : (n : Rat) / (2 * k : Nat) + 1 / 2 = (n + k : Nat) / (2 * k : Nat) := by
    push_cast
    field_simp
  generalize (n + k) / (2 * k) = whole at hlow hhigh ⊢
  rw [halfUp_eq_iff, Int.cast_natCast]
  rcases Nat.lt_or_eq_of_le hlow with hinside | hedge
  · -- The nearest halves are further off than the fraction is moved.
    have hmoved := abs_lt.mp (abs_significant_sub_lt hx hbound hd hfine he)
    have hafter : (whole : Rat) + 1 / (2 * k : Nat) ≤ (n : Rat) / (2 * k : Nat) + 1 / 2 := by
      rw [hwhole, le_div_iff₀ hd', add_mul, one_div_mul_cancel hd'.ne', mul_comm]
      exact_mod_cast hinside
    have hbefore : (n : Rat) / (2 * k : Nat) + 1 / 2 + 1 / (2 * k : Nat) ≤ whole + 1 := by
      rw [hwhole, ← add_div, div_le_iff₀ hd', mul_comm]
      exact_mod_cast hhigh
    constructor <;> linarith
  · -- The fraction is a half itself.
    have hhalf : (n : Rat) / (2 * k : Nat) = ((2 * whole - 1 : Nat) : Rat) / 2 := by
      have hodd : n * 2 = (2 * whole - 1) * (2 * k) := by
        have hdouble : 2 * whole * (2 * k) = 2 * (n + k) := by
          rw [← hedge]
          ring
        rw [Nat.sub_mul, hdouble]
        omega
      rw [div_eq_div_iff hd'.ne' (by norm_num)]
      exact_mod_cast hodd
    rw [hhalf, significant_half (hhalf ▸ hbound) he, ← hhalf, hwhole, ← hedge, Nat.cast_mul,
      mul_div_cancel_left₀ _ hd'.ne']
    exact ⟨le_rfl, lt_add_one _⟩

end SpeechProbe.Rounding
