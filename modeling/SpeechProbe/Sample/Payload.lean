import SpeechProbe.Number.Binary

/-!
# Samples and their wire payload

A sample is a 32-bit float kept by its bits.  The payload of a run of samples is
those bits, little-endian, with no header and no sequence number: order comes
from the order of sending alone.
-/

namespace SpeechProbe

/-- One mono audio sample, nominally in `[-1, 1]`. -/
abbrev Sample := Single

/-- The bytes of one binary message. -/
abbrev Payload := List UInt8

namespace Payload

/-- The four bytes of a sample, least significant first. -/
def ofSample (sample : Sample) : Payload :=
  [ sample.bits.toUInt8
  , (sample.bits >>> 8).toUInt8
  , (sample.bits >>> 16).toUInt8
  , (sample.bits >>> 24).toUInt8 ]

/-- The sample whose bytes, least significant first, are the given four. -/
def toSample (b₀ b₁ b₂ b₃ : UInt8) : Sample :=
  ⟨b₀.toUInt32 ||| (b₁.toUInt32 <<< 8) ||| (b₂.toUInt32 <<< 16) |||
    (b₃.toUInt32 <<< 24)⟩

/-- The payload of a run of samples. -/
def encode (samples : List Sample) : Payload :=
  samples.flatMap ofSample

/-- The samples of a payload.  Up to three bytes at the end that form no whole
sample are ignored. -/
def decode : Payload → List Sample
  | b₀ :: b₁ :: b₂ :: b₃ :: rest => toSample b₀ b₁ b₂ b₃ :: decode rest
  | _ => []

@[simp] theorem encode_nil : encode [] = [] := rfl

@[simp] theorem encode_cons (sample : Sample) (samples : List Sample) :
    encode (sample :: samples) = ofSample sample ++ encode samples := rfl

theorem encode_append (xs ys : List Sample) :
    encode (xs ++ ys) = encode xs ++ encode ys := by
  simp [encode]

@[simp] theorem length_ofSample (sample : Sample) : (ofSample sample).length = 4 := rfl

@[simp] theorem length_encode (samples : List Sample) :
    (encode samples).length = 4 * samples.length := by
  induction samples with
  | nil => rfl
  | cons sample samples ih => simp [ih]; omega

end Payload
end SpeechProbe
