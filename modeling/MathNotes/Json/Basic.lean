import MathNotes.Decimal.Single
import MathNotes.Text.Basic

/-!
# JSON values

A value of type `Json` is taken as it is written: members keep their order and may repeat a key, and
numbers keep whether they were written as integers. A value can be written by the rules and still
stand for nothing: a string with half of a surrogate pair in it, or a number that is too large
(`isSound`). That only matters where the value is used, and so does how deeply arrays and objects
are nested (`depth`, `isUsable`).
-/

namespace MathNotes

/-- A number as it is written. -/
inductive Json.Number where
  /-- Written without fraction and exponent, not as minus zero, and not beyond 64 bits. -/
  | integer (value : Int)
  /-- Written otherwise: about `digits` times ten to the power `exponent`, perhaps negated, where
  `digits` holds those that count. -/
  | decimal (negative : Bool) (digits : Nat) (exponent : Int)
  deriving DecidableEq

/-- A JSON value. The `members` of an object are those written, in order, with repetitions. -/
inductive Json where
  | null
  | bool (b : Bool)
  | number (n : Json.Number)
  | string (s : Text)
  | array (items : List Json)
  | object (members : List (Text × Json))
  /-- A string, or an object with a key, that has half of a surrogate pair in it. -/
  | broken

namespace Json

/-- The number of values of a 64-bit word, `2 ^ 64`. -/
def wordLimit : Nat := 0x10000000000000000

/-- The number of negative values of a signed 64-bit word, `2 ^ 63`. -/
def signedLimit : Nat := 0x8000000000000000

mutual

/-- How deeply arrays and objects are nested in a value, zero for what is neither. -/
def depth : Json → Nat
  | .array items => depthOfItems items + 1
  | .object members => depthOfMembers members + 1
  | _ => 0

def depthOfItems : List Json → Nat
  | [] => 0
  | j :: rest => max j.depth (depthOfItems rest)

def depthOfMembers : List (Text × Json) → Nat
  | [] => 0
  | (_, j) :: rest => max j.depth (depthOfMembers rest)

end

namespace Number

/-- The least number that a double cannot hold: what lies halfway between the largest double and
`2 ^ 1024` is rounded up to that power. -/
def doubleLimit : Nat := (1 <<< 1024) - (1 <<< 970)

/-- The greatest `e` for which `10 ^ e` is finite as a double. -/
def greatestPower : Int := 308

/-- The whole number with at most 53 binary digits before its zeros that is nearest to `n`: the
double nearest to it, if it is not too large for one. -/
def nearestDouble (n : Nat) : Nat :=
  let shift := n.log2 - 52
  Decimal.roundDiv n (1 <<< shift) <<< shift

/-- Whether a double can hold the number. It is taken to be the product of `digits` and
`10 ^ exponent`, either of them rounded to a double before (`nearestDouble`). -/
def fitsDouble : Number → Bool
  | integer _ => true
  | decimal _ digits exponent =>
    digits = 0 || (exponent ≤ greatestPower &&
      nearestDouble digits * nearestDouble (Nat.pow 10 exponent.toNat) < doubleLimit)

end Number

mutual

/-- Whether everything in a value stands for something: no string in it is `broken`, and a double
can hold every number (`Number.fitsDouble`). -/
def isSound : Json → Bool
  | .number n => n.fitsDouble
  | .array items => itemsAreSound items
  | .object members => membersAreSound members
  | .broken => false
  | _ => true

def itemsAreSound : List Json → Bool
  | [] => true
  | j :: rest => j.isSound && itemsAreSound rest

def membersAreSound : List (Text × Json) → Bool
  | [] => true
  | (_, j) :: rest => j.isSound && membersAreSound rest

end

/-- How deeply a text may nest arrays and objects where their contents are used. -/
def depthLimit : Nat := 127

/-- Whether `j`, which stands inside `levels` arrays and objects, can be used as a whole: it
`isSound`, and nests no deeper than `depthLimit` allows. -/
def isUsable (levels : Nat) (j : Json) : Bool := j.isSound && j.depth + levels ≤ depthLimit

end Json

end MathNotes
