import SpeechProbe.Sample.Cursor
import SpeechProbe.Signal.Kind
import SpeechProbe.Signal.Noise
import SpeechProbe.Signal.Waveform

/-!
# Synthetic signals

`SignalSpec` describes one signal by its kind and parameters and renders it at a
sample rate.
-/

namespace SpeechProbe

/-- The parameters of one synthetic signal. -/
structure SignalSpec where
  kind : SignalKind
  /-- Length in seconds. -/
  duration : Double
  /-- Hertz of a tone; other kinds ignore it. -/
  frequency : Double
  /-- Peak amplitude. -/
  amplitude : Single
  /-- Hertz at the start of a sweep. -/
  sweepStart : Double
  /-- Hertz at the end of a sweep. -/
  sweepStop : Double
  /-- Seed of noise; without one the caller supplies entropy. -/
  seed : Option UInt64
  deriving DecidableEq, Repr, Inhabited

namespace SignalSpec

/-- A tenth of full scale. -/
def noiseAmplitude : Single := ⟨0x3dcccccd⟩

/-- Half of full scale. -/
def toneAmplitude : Single := ⟨0x3f000000⟩

/-- A signal with the usual amplitude and frequencies of its kind: 440 Hz for a
tone, 200 to 2000 Hz for a sweep. -/
def ofKind (kind : SignalKind) (duration : Double) : SignalSpec where
  kind := kind
  duration := duration
  frequency := Double.ofRat 440
  amplitude := match kind with
    | .noise => noiseAmplitude
    | _ => toneAmplitude
  sweepStart := Double.ofRat 200
  sweepStop := Double.ofRat 2000
  seed := none

/-- Samples at a rate: the duration times the rate, rounded to a 64-bit float and
cut to an integer.  A negative or undefined duration has none, and no more than a
64-bit number counts. -/
def sampleCount (spec : SignalSpec) (rate : UInt32) : Nat :=
  let most := UInt64.size - 1
  if spec.duration.isNaN || spec.duration.isNegative then 0
  else if spec.duration.isFinite then
    let product := Double.ofRat (spec.duration.toRat * (rate.toNat : Rat))
    if product.isFinite then min product.toRat.floor.toNat most else most
  else if rate = 0 then 0 else most

/-- The whole signal.  Noise without a seed of its own uses `entropy`. -/
def render (spec : SignalSpec) (rate : UInt32) (entropy : UInt64) :
    Except Halt (List Sample) :=
  let n := spec.sampleCount rate
  match spec.kind with
  | .silence => .ok (Waveform.silence n)
  | .noise => Noise.white n spec.amplitude (spec.seed.getD entropy)
  | .tone => .ok (Waveform.tone n spec.frequency rate spec.amplitude)
  | .sweep => .ok (Waveform.sweep n spec.sweepStart spec.sweepStop rate spec.amplitude)

end SignalSpec
end SpeechProbe
