/-!
# Rounding of exact rationals

Every number rule of the library is stated on exact rationals and rounded once
per step.  This file holds the integer roundings and the rounding to a given
count of significant binary digits.
-/

namespace SpeechProbe.Rounding

/-- The nearest integer; a tie goes to the even neighbour. -/
def halfEven (x : Rat) : Int :=
  let below := x.floor
  let rest := x - below
  if rest < 1 / 2 then below
  else if 1 / 2 < rest then below + 1
  else if below % 2 = 0 then below else below + 1

/-- The nearest integer; a tie goes away from zero.  For `0 ≤ x`. -/
def halfUp (x : Rat) : Int :=
  (x + 1 / 2).floor

/-- The exponent of the leading binary digit: for `0 < x` the `e` with
`2 ^ e ≤ x < 2 ^ (e + 1)`. -/
def leading (x : Rat) : Int :=
  let guess : Int := x.num.natAbs.log2 - x.den.log2
  if (2 : Rat) ^ guess ≤ x then guess else guess - 1

/-- The nearest number with `digits` significant binary digits, ties to even.
The exponent is not bounded.  Meant for `0 ≤ x`; anything else is `0`. -/
def significant (digits : Nat) (x : Rat) : Rat :=
  if x ≤ 0 then 0
  else
    let unit := (2 : Rat) ^ (leading x - ((digits : Int) - 1))
    halfEven (x / unit) * unit

@[simp] theorem significant_zero (digits : Nat) : significant digits 0 = 0 := by
  simp [significant]

end SpeechProbe.Rounding
