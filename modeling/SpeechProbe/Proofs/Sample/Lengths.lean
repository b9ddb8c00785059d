import SpeechProbe.Proofs.Number.Rounding
import SpeechProbe.Sample.Framing
import SpeechProbe.Settings.Basic

/-!
# The length of a chunk

A chunk holds rate times milliseconds over a thousand samples, and this quotient is rounded twice:
its last binary place first, and then to an integer.  Up to `2 ^ 53` the product is a number of 53
digits, and the quotient is below `2 ^ 44`, so that its last place is finer than a thousandth.
Therefore the first rounding does not show (`chunkLength_exact`).

Beyond that bound a chunk is not always of the exact length, but it always holds a sample
(`one_le_chunkLength_iff`): what is rounded stays above half of itself.
-/

namespace SpeechProbe.Framing

open Rounding

variable {framing : Framing}

/-- The thousandfold of the samples in a chunk: samples per second times milliseconds. -/
def product (framing : Framing) : Nat := framing.rate.toNat * framing.chunkMs.toNat

/-- Nothing but the quotient is rounded where the product has no more than 53 digits. -/
theorem samplesPerChunk_eq (h : framing.product ≤ 2 ^ 53) :
    framing.samplesPerChunk = significant 53 ((framing.product : Rat) / 1000) := by
  rcases Nat.eq_zero_or_pos framing.rate.toNat with hrate | hrate
  · simp [samplesPerChunk, product, hrate]
  · have hduration : framing.chunkMs.toNat ≤ 2 ^ 53 := (Nat.le_mul_of_pos_left _ hrate).trans h
    simp only [samplesPerChunk]
    rw [significant_natCast (by decide) hduration, ← Nat.cast_mul, ← product,
      significant_natCast (by decide) h]

theorem halfUp_samplesPerChunk (h : framing.product ≤ 2 ^ 53) :
    halfUp framing.samplesPerChunk = ((framing.product + 500) / 1000 : Nat) := by
  have hbound : (framing.product : Rat) / (2 * 500 : Nat) < 2 ^ 44 := by
    have hproduct : (framing.product : Rat) ≤ 2 ^ 53 := by exact_mod_cast h
    rw [div_lt_iff₀ (by norm_num)]
    exact hproduct.trans_lt (by norm_num)
  have hrounded : halfUp (significant 53 ((framing.product : Rat) / (2 * 500 : Nat))) =
      ((framing.product + 500) / (2 * 500) : Nat) :=
    halfUp_significant (by norm_num) hbound (by norm_num) (by norm_num)
  rw [samplesPerChunk_eq h]
  exact_mod_cast hrounded

/-- The length of a chunk, where it is not beyond the largest 64-bit number. -/
theorem chunkLength_of_product_le (h : framing.product ≤ 2 ^ 53) :
    framing.chunkLength = (framing.product + 500) / 1000 := by
  have hlength : (framing.product + 500) / 1000 ≤ UInt64.size - 1 := by
    simp only [UInt64.size]
    omega
  rw [chunkLength, halfUp_samplesPerChunk h, Int.toNat_natCast, Nat.min_eq_left hlength]

/-! ## Chunks of one sample at least -/

/-- Each of the three roundings leaves more than half. -/
theorem product_div_lt_samplesPerChunk (h : 0 < framing.product) :
    (framing.product : Rat) / 8000 < framing.samplesPerChunk := by
  have hrate : (0 : Rat) < framing.rate.toNat := by exact_mod_cast Nat.pos_of_mul_pos_right h
  have hms : (0 : Rat) < framing.chunkMs.toNat := by exact_mod_cast Nat.pos_of_mul_pos_left h
  have hdigits : 0 < 53 := by norm_num
  have hwhole : 0 < framing.rate.toNat * significant 53 framing.chunkMs.toNat :=
    mul_pos hrate (significant_pos hdigits hms)
  have hthousandth : 0 < significant 53 (framing.rate.toNat *
      significant 53 framing.chunkMs.toNat) / 1000 :=
    div_pos (significant_pos hdigits hwhole) (by norm_num)
  have hduration := mul_lt_mul_of_pos_left (half_lt_significant hdigits hms) hrate
  have hproduct := half_lt_significant hdigits hwhole
  have hquotient := half_lt_significant hdigits hthousandth
  simp only [samplesPerChunk, product, Nat.cast_mul]
  linarith

/-- A chunk holds a sample if it lasts as long as half of one. -/
theorem one_le_chunkLength_iff : 1 ≤ framing.chunkLength ↔ 500 ≤ framing.product := by
  rcases Nat.lt_or_ge (2 ^ 53) framing.product with hbig | hexact
  · have hbig' : (2 : Rat) ^ 53 < framing.product := by exact_mod_cast hbig
    have hlong : (framing.product : Rat) / 8000 < framing.samplesPerChunk :=
      product_div_lt_samplesPerChunk (by omega)
    have hone : 1 ≤ halfUp framing.samplesPerChunk := by
      apply Rat.le_floor_iff.mpr
      push_cast
      linarith
    simp only [chunkLength, UInt64.size]
    omega
  · rw [chunkLength_of_product_le hexact]
    omega

/-! ## The exact length -/

/-- Whatever the rate and the duration, as long as their product has no more than 53 binary
digits, a chunk holds its thousandth part, half a sample counting as one: the quotient is not
rounded twice in effect.  The same holds of the blocks of a live capture. -/
theorem chunkLength_exact (rate : UInt32) (ms : UInt64) (h : rate.toNat * ms.toNat ≤ 2 ^ 53) :
    (Framing.mk ms rate).chunkLength = (rate.toNat * ms.toNat + 500) / 1000 ∧
    ((Framing.mk ms rate).chunkLength : Int) =
      halfUp ((rate.toNat : Rat) * ms.toNat / 1000) ∧
    ∀ capacity, (CaptureSettings.mk rate ms capacity).blockLength =
      (rate.toNat * ms.toNat + 500) / 1000 := by
  have hlength : (Framing.mk ms rate).chunkLength = (rate.toNat * ms.toNat + 500) / 1000 :=
    chunkLength_of_product_le h
  refine ⟨hlength, ?_, fun capacity => hlength⟩
  have hlow : 1000 * ((rate.toNat * ms.toNat + 500) / 1000) ≤ rate.toNat * ms.toNat + 500 :=
    Nat.mul_div_le _ _
  have hhigh : rate.toNat * ms.toNat + 500 <
      1000 * ((rate.toNat * ms.toNat + 500) / 1000 + 1) := Nat.lt_mul_div_succ _ (by decide)
  rw [eq_comm, halfUp_eq_iff, hlength, Int.cast_natCast]
  generalize (rate.toNat * ms.toNat + 500) / 1000 = whole at hlow hhigh ⊢
  have hlow' : (1000 * whole : Rat) ≤ rate.toNat * ms.toNat + 500 := by exact_mod_cast hlow
  have hhigh' : (rate.toNat * ms.toNat + 500 : Rat) < 1000 * (whole + 1) := by
    exact_mod_cast hhigh
  constructor <;> linarith

/-- Half a sample in a thousand, at the largest rate: the quotient ends in a half, and the product
is near the bound. -/
theorem chunkLength_exact_half :
    (4294967295 : UInt32).toNat * (2097100 : UInt64).toNat ≤ 2 ^ 53 ∧
      (Framing.mk 2097100 4294967295).chunkLength = 9006975914345 := by
  have h : (4294967295 : UInt32).toNat * (2097100 : UInt64).toNat ≤ 2 ^ 53 := by decide
  exact ⟨h, (chunkLength_exact 4294967295 2097100 h).1⟩

/-- A product of 54 digits may be rounded onto a half. -/
example : (Framing.mk 9007199254741499 1).chunkLength = (9007199254741499 + 500) / 1000 + 1 := by
  decide +kernel

end SpeechProbe.Framing
