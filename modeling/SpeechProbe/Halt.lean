/-!
# How a computation can break off

Almost every operation of the library ends with a value or an `Error`.  The few
that can do neither end with a `Halt`: a loop used up its step allowance, a wait
has nothing left to wait for, a number left the range a machine word holds, or an item
of a list was named that cannot be there.
-/

namespace SpeechProbe

/-- Why a computation ended without a value and without an error. -/
inductive Halt where
  /-- The step allowance of a loop ran out. -/
  | outOfSteps
  /-- A live source waits for a block, and nothing is left to happen. -/
  | blocked
  /-- A sample position would pass the largest 64-bit number. -/
  | positionOverflow
  /-- A point in time would pass the largest second count a clock holds. -/
  | clockOverflow
  /-- Noise was asked for with an amplitude that spans no finite range. -/
  | emptyNoiseRange
  /-- A setting names an item before the first one of a list, or one that would make
  the list too long to hold. -/
  | noSuchItem
  deriving DecidableEq, Repr, Inhabited

end SpeechProbe
