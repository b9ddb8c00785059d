import Mathlib.Algebra.Ring.Nat
import SpeechProbe.Sample.Payload

/-!
# Samples and their bytes

A sample and its four bytes hold the same number (`toNat_toSample`), and each of them is got back
from the other.  From one sample this goes on to payloads by the recursion of `decode`: what
follows samples that were written does not change how these are read (`decode_encode_append`),
and what was read is written as the whole samples it was read from (`encode_decode`).  That
payloads of whole samples are read one by one as they are read together follows from the two.
-/

namespace SpeechProbe.Payload

/-! ## One sample -/

/-- A number above the last `k` bits of another one. -/
theorem lor_mul_two_pow {low k : Nat} (h : low < 2 ^ k) (high : Nat) :
    low ||| high * 2 ^ k = low + 2 ^ k * high := by
  rw [Nat.or_comm, Nat.mul_comm, ← Nat.two_pow_add_eq_or_of_lt h, Nat.add_comm]

/-- The bits of a sample are its four bytes, the first of them the least significant. -/
theorem toNat_toSample (b₀ b₁ b₂ b₃ : UInt8) : (toSample b₀ b₁ b₂ b₃).bits.toNat =
    b₀.toNat + 2 ^ 8 * b₁.toNat + 2 ^ 16 * b₂.toNat + 2 ^ 24 * b₃.toNat := by
  have h₀ := b₀.toNat_lt
  have h₁ := b₁.toNat_lt
  have h₂ := b₂.toNat_lt
  have h₃ := b₃.toNat_lt
  simp only [toSample, UInt32.toNat_or, UInt32.toNat_shiftLeft, UInt8.toNat_toUInt32,
    UInt32.reduceToNat, Nat.reduceMod, Nat.shiftLeft_eq]
  have hlow : b₀.toNat + 2 ^ 8 * b₁.toNat < 2 ^ 16 := by omega
  have hmiddle : b₀.toNat + 2 ^ 8 * b₁.toNat + 2 ^ 16 * b₂.toNat < 2 ^ 24 := by omega
  rw [Nat.mod_eq_of_lt (by omega), Nat.mod_eq_of_lt (by omega), Nat.mod_eq_of_lt (by omega),
    lor_mul_two_pow h₀, lor_mul_two_pow hlow, lor_mul_two_pow hmiddle]

theorem ofSample_toSample (b₀ b₁ b₂ b₃ : UInt8) :
    ofSample (toSample b₀ b₁ b₂ b₃) = [b₀, b₁, b₂, b₃] := by
  have hbits := toNat_toSample b₀ b₁ b₂ b₃
  have h₀ := b₀.toNat_lt
  have h₁ := b₁.toNat_lt
  have h₂ := b₂.toNat_lt
  have h₃ := b₃.toNat_lt
  simp only [ofSample, List.cons.injEq, and_true, ← UInt8.toNat_inj, UInt32.toNat_toUInt8,
    UInt32.toNat_shiftRight, Nat.shiftRight_eq_div_pow, hbits, UInt32.reduceToNat, Nat.reducePow,
    Nat.reduceMod]
  omega

theorem toSample_ofSample (sample : Sample) :
    toSample sample.bits.toUInt8 (sample.bits >>> 8).toUInt8 (sample.bits >>> 16).toUInt8
      (sample.bits >>> 24).toUInt8 = sample := by
  have hbits := sample.bits.toNat_lt
  apply congrArg Single.mk
  rw [← UInt32.toNat_inj]
  apply (toNat_toSample _ _ _ _).trans
  simp only [UInt32.toNat_toUInt8, UInt32.toNat_shiftRight, Nat.shiftRight_eq_div_pow,
    UInt32.reduceToNat, Nat.reducePow, Nat.reduceMod]
  omega

/-! ## Payloads -/

theorem decode_of_length_lt {bytes : Payload} (h : bytes.length < 4) : decode bytes = [] := by
  unfold decode
  split
  · simp only [List.length_cons] at h
    omega
  · rfl

/-- Samples that were written are read, and then what follows them. -/
theorem decode_encode_append (samples : List Sample) (bytes : Payload) :
    decode (encode samples ++ bytes) = samples ++ decode bytes := by
  induction samples with
  | nil => rfl
  | cons sample samples ih =>
    rw [encode_cons, List.append_assoc, ofSample, List.cons_append, List.cons_append,
      List.cons_append, List.cons_append, List.nil_append, decode, toSample_ofSample, ih]
    rfl

@[simp] theorem decode_encode (samples : List Sample) : decode (encode samples) = samples := by
  have hnil : decode [] = [] := rfl
  have happend := decode_encode_append samples []
  rwa [hnil, List.append_nil, List.append_nil] at happend

/-- The whole samples of a payload are its bytes but for those at the end that form none. -/
theorem encode_decode (bytes : Payload) :
    encode (decode bytes) = bytes.take (4 * (bytes.length / 4)) := by
  fun_induction decode bytes with
  | case1 b₀ b₁ b₂ b₃ rest ih =>
    have hwhole : 4 * ((rest.length + 4) / 4) = 4 * (rest.length / 4) + 4 := by omega
    simp only [encode_cons, ofSample_toSample, ih, List.length_cons, Nat.add_assoc, Nat.reduceAdd,
      hwhole]
    rfl
  | case2 bytes hshort =>
    have hlength : bytes.length < 4 := by
      rcases bytes with _ | ⟨b₀, _ | ⟨b₁, _ | ⟨b₂, _ | ⟨b₃, rest⟩⟩⟩⟩
      case cons.cons.cons.cons => exact (hshort b₀ b₁ b₂ b₃ rest rfl).elim
      all_goals simp
    rw [Nat.div_eq_of_lt hlength]
    rfl

theorem encode_decode_of_dvd {bytes : Payload} (h : 4 ∣ bytes.length) :
    encode (decode bytes) = bytes := by
  rw [encode_decode, Nat.mul_div_cancel' h, List.take_length]

/-- Whole samples are read for themselves, and then what follows them. -/
theorem decode_append {first : Payload} (h : 4 ∣ first.length) (second : Payload) :
    decode (first ++ second) = decode first ++ decode second := by
  rw [← decode_encode_append, encode_decode_of_dvd h]

/-- So it does not matter where payloads of whole samples are cut. -/
theorem decode_flatten_append {payloads : List Payload}
    (h : ∀ payload ∈ payloads, 4 ∣ payload.length) (tail : Payload) :
    decode (payloads.flatten ++ tail) = payloads.flatMap decode ++ decode tail := by
  induction payloads with
  | nil => rfl
  | cons payload payloads ih =>
    have hrest := ih fun other hother => h other (List.mem_cons_of_mem _ hother)
    rw [List.flatten_cons, List.append_assoc, decode_append (h payload List.mem_cons_self), hrest,
      List.flatMap_cons, List.append_assoc]

/-- Writing and reading undo each other, bit for bit: samples are got back from their payload,
whatever bytes that form no whole sample follow it, and a payload is got back from its samples,
but for such bytes.  A payload of whole samples is read without regard to what comes after it,
so that a run of bytes has the same samples wherever it is cut between two of them. -/
theorem decode_inverse :
    (∀ (samples : List Sample) (tail : Payload), tail.length < 4 →
      decode (encode samples ++ tail) = samples) ∧
    (∀ bytes : Payload, encode (decode bytes) = bytes.take (4 * (bytes.length / 4))) ∧
    (∀ first second : Payload, 4 ∣ first.length →
      decode (first ++ second) = decode first ++ decode second) ∧
    ∀ (payloads : List Payload) (tail : Payload), (∀ payload ∈ payloads, 4 ∣ payload.length) →
      decode (payloads.flatten ++ tail) = payloads.flatMap decode ++ decode tail := by
  refine ⟨fun samples tail htail => ?_, encode_decode, fun _ second h => decode_append h second,
    fun _ tail h => decode_flatten_append h tail⟩
  rw [decode_encode_append, decode_of_length_lt htail, List.append_nil]

/-- A NaN with a payload of its own and a negative zero, three bytes too many, and a one that is
cut off from them. -/
theorem decode_inverse_odd :
    decode (encode [⟨0x7fc00001⟩, ⟨0x80000000⟩] ++ [0xff, 0, 1]) =
        [⟨0x7fc00001⟩, ⟨0x80000000⟩] ∧
      encode (decode [0, 0, 0x80, 0x3f, 0xff]) = [0, 0, 0x80, 0x3f] ∧
      decode ([0, 0, 0x80, 0x3f] ++ [1, 0, 0xc0, 0x7f, 0xff]) =
        decode [0, 0, 0x80, 0x3f] ++ decode [1, 0, 0xc0, 0x7f, 0xff] ∧
      decode ([[0, 0, 0x80, 0x3f], [1, 0, 0xc0, 0x7f]].flatten ++ [0xff]) =
        [[0, 0, 0x80, 0x3f], [1, 0, 0xc0, 0x7f]].flatMap decode ++ decode [0xff] := by
  obtain ⟨hsamples, hbytes, happend, hcut⟩ := decode_inverse
  exact ⟨hsamples _ _ (by decide), hbytes _, happend _ _ (by decide), hcut _ _ (by decide)⟩

end SpeechProbe.Payload
