import SpeechProbe.Number.Decimal

/-!
# Durations

Durations and points in time are counts of nanoseconds.  A message shows a duration
in the largest unit that leaves a nonzero whole part.
-/

namespace SpeechProbe

/-- A duration, or a point in time since a clock started, in nanoseconds. -/
abbrev Nanos := Nat

namespace Nanos

def perMicro : Nat := 1000
def perMilli : Nat := 1000000
def perSecond : Nat := 1000000000

def ofMillis (ms : Nat) : Nanos := ms * perMilli
def ofSeconds (s : Nat) : Nanos := s * perSecond

/-- Whole milliseconds, the rest cut off. -/
def toMillis (t : Nanos) : Nat := t / perMilli

/-- The digits of a fraction of which one is `whole`, without zeros at the end. -/
def fractionDigits (whole rest : Nat) : List Char :=
  if _h : rest = 0 ∨ whole < 10 then []
  else Decimal.digitChar (rest / (whole / 10)) :: fractionDigits (whole / 10) (rest % (whole / 10))
termination_by whole
decreasing_by omega

/-- A number of units, with as many places after the point as it needs. -/
def inUnits (whole : Nat) (unit : String) (t : Nanos) : String :=
  let fraction := fractionDigits whole (t % whole)
  let point := if fraction.isEmpty then [] else '.' :: fraction
  String.ofList (Decimal.digits (t / whole) ++ point) ++ unit

/-- The text of a duration: `10s`, `1.5s`, `250ms`, `0ns`. -/
def text (t : Nanos) : String :=
  if perSecond ≤ t then inUnits perSecond "s" t
  else if perMilli ≤ t then inUnits perMilli "ms" t
  else if perMicro ≤ t then inUnits perMicro "µs" t
  else inUnits 1 "ns" t

end Nanos
end SpeechProbe
