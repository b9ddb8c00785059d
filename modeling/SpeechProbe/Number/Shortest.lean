import SpeechProbe.Number.Decimal

/-!
# Shortest decimal text

The fewest digits that read back as the same floating point number, and of those
the nearest to it.  `shortest` finds the digits; a `NumberLayout` says how a
format writes them down.
-/

namespace SpeechProbe.Shortest

/-- What happens when two neighbours on the shortest grid are equally near. -/
inductive Tie where
  | toEven
  | up
  deriving DecidableEq, Repr

/-- A nonzero finite number with the reals that round to it. -/
structure Interval where
  value : Rat
  lower : Rat
  upper : Rat
  /-- Whether the ends themselves round to the number. -/
  closed : Bool

/-- The interval of a finite pattern: half way to each neighbour.  Below a power
of two the neighbour is twice as near. -/
def interval (format : BinaryFormat) (bits : Nat) : Interval :=
  let (mantissa, exponent) := format.parts bits
  let unit := (2 : Rat) ^ exponent
  let value := (mantissa : Rat) * unit
  let gapBelow :=
    if mantissa = format.fractionUnit ∧ format.leastExponent < exponent
    then unit / 2 else unit
  ⟨value, value - gapBelow / 2, value + unit / 2, decide (mantissa % 2 = 0)⟩

/-- Whether a real rounds to the number. -/
def Interval.holds (i : Interval) (x : Rat) : Bool :=
  if i.closed then decide (i.lower ≤ x) && decide (x ≤ i.upper)
  else decide (i.lower < x) && decide (x < i.upper)

/-- The exponent of the leading decimal digit of a positive rational. -/
def leadingTen (x : Rat) : Int :=
  let guess := (Rounding.leading x * 30103).fdiv 100000
  if x < Decimal.tenTo guess then guess - 1
  else if Decimal.tenTo (guess + 1) ≤ x then guess + 1
  else guess

/-- The number's nearest neighbour on the grid `10 ^ place` that reads back. -/
def onGrid (tie : Tie) (i : Interval) (place : Int) : Option Nat :=
  let unit := Decimal.tenTo place
  let below := (i.value / unit).floor.toNat
  let above := below + 1
  let fitsBelow := i.holds ((below : Rat) * unit)
  let fitsAbove := i.holds ((above : Rat) * unit)
  if fitsBelow && fitsAbove then
    let down := i.value - (below : Rat) * unit
    let up := (above : Rat) * unit - i.value
    if down < up then some below
    else if up < down then some above
    else match tie with
      | .toEven => some (if below % 2 = 0 then below else above)
      | .up => some above
  else if fitsBelow then some below
  else if fitsAbove then some above
  else none

/-- The first grid with a hit, from coarse to fine: the digits and the exponent of
the last one. -/
def search (tie : Tie) (i : Interval) : Nat → Int → Nat × Int
  | 0, place => ((i.value / Decimal.tenTo place).floor.toNat, place)
  | tries + 1, place =>
    match onGrid tie i place with
    | some digits => (digits, place)
    | none => search tie i tries (place - 1)

/-- The digits of `n` without zeros at the end, and how many were cut. -/
def dropZeros : Nat → Nat → Int → Nat × Int
  | 0, n, place => (n, place)
  | fuel + 1, n, place =>
    if n % 10 = 0 ∧ 0 < n then dropZeros fuel (n / 10) (place + 1) else (n, place)

/-- The shortest decimal `digits * 10 ^ place` of a nonzero finite pattern.
Twenty digits are more than any pattern in use needs. -/
def shortest (format : BinaryFormat) (tie : Tie) (bits : Nat) : Nat × Int :=
  let i := interval format bits
  let (digits, place) := search tie i 20 (leadingTen i.value)
  dropZeros 20 digits place

end SpeechProbe.Shortest

namespace SpeechProbe

/-- How a format writes a floating point number. -/
structure NumberLayout where
  /-- Leading exponents written without an exponent: from the first number to
  below the second.  Without bounds an exponent is never written. -/
  plain : Option (Int × Int)
  /-- Whether a whole number written without exponent ends in `.0`. -/
  pointZero : Bool
  /-- Which of two equally near texts is taken. -/
  tie : Shortest.Tie
  deriving DecidableEq, Repr

namespace NumberLayout

/-- Digits with a point put `place` digits from their end. -/
def positional (layout : NumberLayout) (digits : List Char) (place : Int) : List Char :=
  let whole := (digits.length : Int) + place
  if 0 ≤ place then
    digits ++ List.replicate place.toNat '0' ++ (if layout.pointZero then ['.', '0'] else [])
  else if 0 < whole then
    digits.take whole.toNat ++ '.' :: digits.drop whole.toNat
  else
    '0' :: '.' :: List.replicate (-whole).toNat '0' ++ digits

/-- One digit, the others after a point, and a signed exponent. -/
def scientific (digits : List Char) (leading : Int) : List Char :=
  let mantissa := match digits with
    | [] => []
    | [d] => [d]
    | d :: rest => d :: '.' :: rest
  let sign := if 0 ≤ leading then '+' else '-'
  mantissa ++ 'e' :: sign :: Decimal.digits leading.natAbs

/-- The text of a finite pattern. -/
def chars (layout : NumberLayout) (format : BinaryFormat) (bits : Nat) : List Char :=
  let size :=
    if format.unsigned bits = 0 then
      layout.positional ['0'] 0
    else
      let (number, place) := Shortest.shortest format layout.tie (format.unsigned bits)
      let digits := Decimal.digits number
      let leading := place + digits.length - 1
      let isPlain := match layout.plain with
        | none => true
        | some (least, bound) => decide (least ≤ leading) && decide (leading < bound)
      if isPlain then layout.positional digits place else scientific digits leading
  if format.isNegative bits then '-' :: size else size

end NumberLayout
end SpeechProbe
