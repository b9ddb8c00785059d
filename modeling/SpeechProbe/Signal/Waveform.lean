import SpeechProbe.Sample.Payload

/-!
# Silence, tones and sweeps

The signals with a closed form.  Phases and sines are computed on 64-bit machine
floats; a sample is rounded to 32 bits once, at the end.
-/

namespace SpeechProbe.Waveform

/-- The 64-bit number nearest to π. -/
def pi : Float := Float.ofBits 0x400921fb54442d18

/-- A count as a machine float. -/
def count (n : Nat) : Float := n.toUInt64.toFloat

/-- A sample of the given 64-bit size. -/
def sample (x : Float) : Sample := Single.ofFloat32 x.toFloat32

/-- The 32-bit amplitude as a 64-bit factor. -/
def gain (amplitude : Single) : Float := amplitude.toFloat32.toFloat

/-- `n` zeros. -/
def silence (n : Nat) : List Sample :=
  List.replicate n Single.zero

/-- `amplitude * sin (2 π frequency t)` with `t = i / rate`. -/
def tone (n : Nat) (frequency : Double) (rate : UInt32) (amplitude : Single) :
    List Sample :=
  (List.range n).map fun i =>
    let t := count i / rate.toFloat
    sample (gain amplitude * (2.0 * pi * frequency.toFloat * t).sin)

/-- The running phase of a sweep: `2 π` times the sum of the frequencies so far,
over the rate.  The frequency goes from `start` to `stop`, both included. -/
def sweepPhases (n : Nat) (start stop : Double) (rate : UInt32) : List Double :=
  let step := if 1 < n then (stop.toFloat - start.toFloat) / count (n - 1) else 0.0
  let walk := (List.range n).foldl
    (fun (state : Array Double × Float) i =>
      let total := state.2 + (start.toFloat + step * count i)
      (state.1.push (Double.ofFloat (2.0 * pi * total / rate.toFloat)), total))
    (#[], 0.0)
  walk.1.toList

/-- A sine that ramps from `start` to `stop`. -/
def sweep (n : Nat) (start stop : Double) (rate : UInt32) (amplitude : Single) :
    List Sample :=
  (sweepPhases n start stop rate).map fun phase =>
    sample (gain amplitude * phase.toFloat.sin)

end SpeechProbe.Waveform
