import MathNotes.Text.Basic

/-!
# Single precision numbers

A number of 32-bit binary floating point (`Single`), kept as its bits: a sign, and below it the
magnitude, which orders the numbers without regard to their sign. Magnitudes from `infinity` on are
not finite. A decimal is rounded to the nearest number, a tie going to the even significand, in
exact arithmetic on natural numbers (`ofDecimal?`).
-/

namespace MathNotes

/-- The integer nearest to `num / den`, of two the even one. -/
def Decimal.roundDiv (num den : Nat) : Nat :=
  let quotient := num / den
  let rest := num % den
  if 2 * rest < den then quotient
  else if den < 2 * rest then quotient + 1
  else if quotient % 2 = 0 then quotient
  else quotient + 1

/-- A single precision number, by its `bits`. -/
structure Single where
  bits : UInt32
  deriving DecidableEq

namespace Single

/-- The weight of the sign bit; every `magnitude` is below it. -/
def signBit : Nat := 0x80000000

/-- The weight of the lowest bit of the exponent; every stored fraction is below it. -/
def fractionSize : Nat := 0x800000

/-- The magnitude of infinity; beyond it are the magnitudes of what is not a number (`isNaN`). -/
def infinity : Nat := 0x7F800000

/-- The number with the sign `negative` and the given `magnitude`. -/
def ofMagnitude (negative : Bool) (magnitude : Nat) : Single :=
  ⟨UInt32.ofNat (if negative then signBit + magnitude else magnitude)⟩

/-- The bits of `x` without the sign: what is below `signBit`. -/
def magnitude (x : Single) : Nat := x.bits.toNat % signBit

def isNegative (x : Single) : Bool := signBit ≤ x.bits.toNat

def isNaN (x : Single) : Bool := infinity < x.magnitude

/-- The one of the numbers with `isNaN` that a reader makes, with no sign and no payload. -/
def nan : Single := ofMagnitude false 0x7FC00000

/-- The number one. -/
def one : Single := ofMagnitude false 0x3F800000

/-- The number two. -/
def two : Single := ofMagnitude false 0x40000000

/-- The least exponent of two that a significand is scaled by. -/
def leastScale : Int := -149

/-- The significand of a finite `magnitude`, and the exponent of two that it is scaled by. A
significand below `fractionSize` has the exponent `leastScale`. -/
def parts (magnitude : Nat) : Nat × Int :=
  let field := magnitude / fractionSize
  let fraction := magnitude % fractionSize
  if field = 0 then (fraction, leastScale)
  else (fractionSize + fraction, leastScale + (field - 1 : Nat))

/-- The number `n * base ^ exponent`, as a fraction. -/
def scaled (n base : Nat) (exponent : Int) : Nat × Nat :=
  if 0 ≤ exponent then (n * Nat.pow base exponent.toNat, 1)
  else (n, Nat.pow base (-exponent).toNat)

/-- The exponent of the greatest power of two that `num / den` reaches. The logarithms of both leave
one of two exponents, and multiplying across decides between them. -/
def floorLog2 (num den : Nat) : Int :=
  let guess : Int := num.log2 - den.log2
  let (power, one) := scaled 1 2 guess
  if power * den ≤ num * one then guess else guess - 1

/-- The magnitude nearest to `num / den`, if it is finite. The significand is rounded to 24 binary
digits, or to fewer at `leastScale`; rounding up to the next power of two carries into the
exponent. -/
def ofRatio? (num den : Nat) : Option Nat :=
  if num = 0 then some 0
  else
    let scale := max (floorLog2 num den - 23) leastScale
    let (factor, divisor) := scaled 1 2 scale
    let significand := Decimal.roundDiv (num * divisor) (den * factor)
    let magnitude := (scale - leastScale).toNat * fractionSize + significand
    if magnitude < infinity then some magnitude else none

/-- Beyond this many decimal places before the point a number is not finite, and beyond as many
after the point it is zero, so that `ofDecimal?` need not raise ten to a greater power. -/
def farPlaces : Int := 60

/-- The magnitude nearest to `digits * 10 ^ exponent`, if it is finite. -/
def ofDecimal? (digits : Nat) (exponent : Int) : Option Nat :=
  let places := (Nat.toDigits 10 digits).length + exponent
  if digits = 0 || places < -farPlaces then some 0
  else if farPlaces < places then none
  else
    let (num, den) := scaled digits 10 exponent
    ofRatio? num den

end Single

end MathNotes
