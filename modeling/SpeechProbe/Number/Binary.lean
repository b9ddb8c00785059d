import SpeechProbe.Number.Rounding

/-!
# Binary floating point numbers by their bits

Samples and settings keep the bit pattern they came with, so a NaN payload or a
signed zero survives every copy.  `Format` describes an interchange format and
converts between its bit patterns and exact rationals; `Single` and `Double` are
the two formats in use.
-/

namespace SpeechProbe

/-- A binary interchange format: how many significant digits it keeps, and the
exponent of its least positive number. -/
structure BinaryFormat where
  /-- Significant binary digits, the hidden one included. -/
  precision : Nat
  /-- The least positive number is `2 ^ leastExponent`. -/
  leastExponent : Int
  /-- The bit pattern of positive infinity. -/
  infinity : Nat
  /-- The bit pattern of negative zero: the sign bit alone. -/
  signBit : Nat
  deriving DecidableEq, Repr

namespace BinaryFormat

/-- 32-bit numbers. -/
def single : BinaryFormat := ⟨24, -149, 0x7f800000, 0x80000000⟩

/-- 64-bit numbers. -/
def double : BinaryFormat := ⟨53, -1074, 0x7ff0000000000000, 0x8000000000000000⟩

/-- The number of bits below the exponent field. -/
def fractionUnit (format : BinaryFormat) : Nat :=
  Nat.pow 2 (format.precision - 1)

/-- The pattern of the number nearest to a nonnegative rational, ties to even;
what is too large becomes infinity.  A carry out of the fraction moves into the
exponent field by itself. -/
def magnitude (format : BinaryFormat) (x : Rat) : Nat :=
  if x ≤ 0 then 0
  else
    let exponent := max format.leastExponent
      (Rounding.leading x - ((format.precision : Int) - 1))
    let scaled := (Rounding.halfEven (x / (2 : Rat) ^ exponent)).toNat
    min format.infinity
      ((exponent - format.leastExponent).toNat * format.fractionUnit + scaled)

/-- The pattern nearest to a rational.  Zero is positive. -/
def ofRat (format : BinaryFormat) (x : Rat) : Nat :=
  if x < 0 then format.signBit + format.magnitude (-x) else format.magnitude x

/-- The pattern without its sign. -/
def unsigned (format : BinaryFormat) (bits : Nat) : Nat :=
  if format.signBit ≤ bits then bits - format.signBit else bits

/-- Whether the sign bit is set. -/
def isNegative (format : BinaryFormat) (bits : Nat) : Bool :=
  decide (format.signBit ≤ bits)

/-- Whether the pattern is no number at all. -/
def isNaN (format : BinaryFormat) (bits : Nat) : Bool :=
  decide (format.infinity < format.unsigned bits)

/-- Whether the pattern is a finite number. -/
def isFinite (format : BinaryFormat) (bits : Nat) : Bool :=
  decide (format.unsigned bits < format.infinity)

/-- Significand and exponent of a finite pattern: its size is
`mantissa * 2 ^ exponent`. -/
def parts (format : BinaryFormat) (bits : Nat) : Nat × Int :=
  let size := format.unsigned bits
  let field := size / format.fractionUnit
  let fraction := size % format.fractionUnit
  if field = 0 then (fraction, format.leastExponent)
  else (fraction + format.fractionUnit, format.leastExponent + ((field : Int) - 1))

/-- The exact value of a finite pattern. -/
def toRat (format : BinaryFormat) (bits : Nat) : Rat :=
  let (mantissa, exponent) := format.parts bits
  let size := (mantissa : Rat) * (2 : Rat) ^ exponent
  if format.isNegative bits then -size else size

end BinaryFormat

/-- A 32-bit floating point number, by its bits. -/
structure Single where
  bits : UInt32
  deriving DecidableEq, Repr, Inhabited

/-- A 64-bit floating point number, by its bits. -/
structure Double where
  bits : UInt64
  deriving DecidableEq, Repr, Inhabited

namespace Single

/-- The nearest 32-bit number, ties to even. -/
def ofRat (x : Rat) : Single :=
  ⟨UInt32.ofNat (BinaryFormat.single.ofRat x)⟩

def zero : Single := ⟨0⟩
def infinity : Single := ⟨0x7f800000⟩
def nan : Single := ⟨0x7fc00000⟩

def isNaN (x : Single) : Bool := BinaryFormat.single.isNaN x.bits.toNat
def isFinite (x : Single) : Bool := BinaryFormat.single.isFinite x.bits.toNat

/-- The exact value of a finite number. -/
def toRat (x : Single) : Rat := BinaryFormat.single.toRat x.bits.toNat

/-- The same number with the other sign. -/
def neg (x : Single) : Single := ⟨x.bits ^^^ 0x80000000⟩

/-- The number as a machine float, for arithmetic. -/
def toFloat32 (x : Single) : Float32 := Float32.ofBits x.bits

/-- The bits of a machine float. -/
def ofFloat32 (x : Float32) : Single := ⟨x.toBits⟩

end Single

namespace Double

/-- The nearest 64-bit number, ties to even. -/
def ofRat (x : Rat) : Double :=
  ⟨UInt64.ofNat (BinaryFormat.double.ofRat x)⟩

def zero : Double := ⟨0⟩
def infinity : Double := ⟨0x7ff0000000000000⟩
def nan : Double := ⟨0x7ff8000000000000⟩

def isNaN (x : Double) : Bool := BinaryFormat.double.isNaN x.bits.toNat
def isFinite (x : Double) : Bool := BinaryFormat.double.isFinite x.bits.toNat
def isNegative (x : Double) : Bool := BinaryFormat.double.isNegative x.bits.toNat

/-- The exact value of a finite number. -/
def toRat (x : Double) : Rat := BinaryFormat.double.toRat x.bits.toNat

/-- The same number with the other sign. -/
def neg (x : Double) : Double := ⟨x.bits ^^^ 0x8000000000000000⟩

/-- The sum of two finite numbers, rounded to the nearest. -/
def add (x y : Double) : Double := ofRat (x.toRat + y.toRat)

/-- The number as a machine float, for arithmetic. -/
def toFloat (x : Double) : Float := Float.ofBits x.bits

/-- The bits of a machine float. -/
def ofFloat (x : Float) : Double := ⟨x.toBits⟩

/-- The nearest 32-bit number.  Zeros, infinities and NaN keep their kind and
sign; a NaN becomes the quiet one. -/
def toSingle (x : Double) : Single :=
  let size : Single :=
    if x.isNaN then Single.nan
    else if x.isFinite then
      ⟨UInt32.ofNat
        (BinaryFormat.single.magnitude (if x.isNegative then -x.toRat else x.toRat))⟩
    else Single.infinity
  if x.isNegative then size.neg else size

/-- The nearest integer, a tie going away from zero, clamped to what 64 bits
hold without a sign.  A NaN counts as zero. -/
def toUInt64 (x : Double) : UInt64 :=
  if x.isNaN || x.isNegative then 0
  else if x.isFinite then
    UInt64.ofNat (min (Rounding.halfUp x.toRat).toNat (UInt64.size - 1))
  else UInt64.ofNat (UInt64.size - 1)

end Double
end SpeechProbe
