import MathNotes.Decimal.Single

/-!
# The shortest decimal of a single precision number

Of the decimals that read back as a given number, the `shortest` has the fewest digits, and of those
it is the nearest. To find it, grids of decimals are tried from coarse to fine. If a grid has a
decimal that reads back as the number, one of the two decimals beside the number does (`onGrid?`).
-/

namespace MathNotes.Single

/-- The digits of the nearest multiple of `10 ^ exponent` that reads back as the `magnitude`, one of
the two beside it. -/
def onGrid? (magnitude : Nat) (exponent : Int) : Option Nat :=
  let (significand, scale) := parts magnitude
  let (num, den) := scaled significand 2 scale
  let (factor, divisor) := scaled 1 10 exponent
  let below := num * divisor / (den * factor)
  let near := Decimal.roundDiv (num * divisor) (den * factor)
  let far := if near = below then below + 1 else below
  [near, far].find? fun digits => digits ≠ 0 && ofDecimal? digits exponent = some magnitude

/-- The exponent of the coarsest grid that is tried. On the grid of the finest one, which is
`leastScale`, every finite number lies itself. -/
def coarsest : Int := 38

/-- The digits and the exponent of the shortest decimal of a finite `magnitude`: those of the
coarsest grid that has one by `onGrid?`. -/
def shortest (magnitude : Nat) : Nat × Int :=
  let grids : List Int := (List.range 188).map fun (step : Nat) => coarsest - step
  (grids.findSome? fun exponent =>
    (onGrid? magnitude exponent).map fun digits => (digits, exponent)).getD (0, 0)

/-- How decimals are laid out: when without an exponent, and what stands for infinity and for what
is not a number. -/
structure Layout where
  /-- The least number of places before the point, not positive for small numbers, at which a number
  is written without an exponent. -/
  leastPlaces : Int
  /-- The greatest number of places before the point at which a number is written without an
  exponent. -/
  greatestPlaces : Int
  infinityText : Text
  nanText : Text

/-- The decimal `digits * 10 ^ exponent` written out: without an exponent as far as the `layout`
says so, always with a digit after the point, an exponent always with its sign. -/
def Layout.decimal (layout : Layout) (digits : Nat) (exponent : Int) : Text :=
  let ds := Nat.toDigits 10 digits
  let places := ds.length + exponent
  if places < layout.leastPlaces || layout.greatestPlaces < places then
    let rest := ds.drop 1
    let power := places - 1
    ds.take 1 ++ '.' :: (if rest.isEmpty then ['0'] else rest) ++ 'e' ::
      (if power < 0 then '-' else '+') :: Nat.toDigits 10 power.natAbs
  else if places ≤ 0 then '0' :: '.' :: (List.replicate (-places).toNat '0' ++ ds)
  else if 0 ≤ exponent then ds ++ List.replicate exponent.toNat '0' ++ ['.', '0']
  else ds.take places.toNat ++ '.' :: ds.drop places.toNat

/-- The number `x` written by its `shortest` decimal. -/
def text (layout : Layout) (x : Single) : Text :=
  if x.isNaN then layout.nanText
  else
    let sign : Text := if x.isNegative then ['-'] else []
    if x.magnitude = infinity then sign ++ layout.infinityText
    else if x.magnitude = 0 then sign ++ ['0', '.', '0']
    else
      let (digits, exponent) := shortest x.magnitude
      sign ++ layout.decimal digits exponent

end MathNotes.Single
