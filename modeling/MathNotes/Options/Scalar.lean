import MathNotes.Text.Word
import MathNotes.Decimal.Shortest
import MathNotes.Text.Blank

/-!
# Truth values and numbers in options documents

Blanks at the ends do not count (`Text.trim`), and the case of letters does not either. A truth
value has one of four spellings (`bool?`). A number is a decimal, with a digit before or after the
point and perhaps an exponent, or it is infinite or not a number, which is spelled with a point in
front (`single?`). It is rounded once; a decimal that is too large is refused.
-/

namespace MathNotes.Options

/-- The spellings of true. -/
def trueSpellings : List Text := ["true", "yes", "on", "y"]

/-- The spellings of false. -/
def falseSpellings : List Text := ["false", "no", "off", "n"]

/-- The truth value that `s` spells, one of `trueSpellings` or `falseSpellings` in any case. -/
def bool? (s : Text) : Option Bool :=
  let s := s.trim.map Char.toLower
  if trueSpellings.contains s then some true
  else if falseSpellings.contains s then some false
  else none

/-- The text of the truth value `b`, which `bool?` reads back. -/
def boolText (b : Bool) : Text := if b then "true" else "false"

/-- Whether a text begins with a minus sign, and what follows its sign, if it has one. -/
def splitSign : Text → Bool × Text
  | '-' :: rest => (true, rest)
  | '+' :: rest => (false, rest)
  | s => (false, s)

/-- The exponent that a text consists of, an `e` or `E` and an integer; no text at all counts as
zero. -/
def exponent? : Text → Option Int
  | [] => some 0
  | c :: rest =>
    let (negative, digits) := splitSign rest
    if (c = 'e' || c = 'E') && digits ≠ [] && digits.all Char.isDigit then
      let n := Nat.ofDigitChars 10 digits 0
      some (if negative then -(n : Int) else n)
    else none

/-- The digits and the exponent of an unsigned decimal: `s` stands for the digits times ten to that
power. -/
def decimal? (s : Text) : Option (Nat × Int) :=
  let whole := s.takeWhile Char.isDigit
  let rest := s.dropWhile Char.isDigit
  let (fraction, rest) :=
    match rest with
    | '.' :: after => (after.takeWhile Char.isDigit, after.dropWhile Char.isDigit)
    | _ => ([], rest)
  if whole ++ fraction = [] then none
  else
    (exponent? rest).map fun e => (Nat.ofDigitChars 10 (whole ++ fraction) 0, e - fraction.length)

/-- The number that `s` spells, rounded by `Single.ofDecimal?` unless it is infinite or not a
number. -/
def single? (s : Text) : Option Single :=
  let s := s.trim
  let (negative, unsigned) := splitSign s
  if unsigned.map Char.toLower = ".nan".toList then some .nan
  else if unsigned.map Char.toLower = ".inf".toList then
    some (.ofMagnitude negative Single.infinity)
  else
    match decimal? unsigned with
    | none => none
    | some (digits, e) => (Single.ofDecimal? digits e).map (Single.ofMagnitude negative)

/-- How `largeScale` is written: numbers from a millionth on without an exponent, as far as thirteen
places before the point. -/
def scaleLayout : Single.Layout where
  leastPlaces := -5
  greatestPlaces := 13
  infinityText := ".inf"
  nanText := ".nan"

end MathNotes.Options
