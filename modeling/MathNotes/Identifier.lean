import MathNotes.Text.Word

/-!
# Identifiers

Notes and blocks are named by the time at which they were made, in milliseconds, and nine digits of
base 36 drawn at random (`ofMoment`). The draw is a 64-bit word, of which the nine lowest digits are
used, the lowest first (`base36`).
-/

namespace MathNotes

/-- The time `millis` and the random `draw` from which an identifier is made. -/
structure Moment where
  millis : Nat
  draw : UInt64
  deriving DecidableEq

namespace Identifier

/-- The digits of base 36 in order. -/
def alphabet : Text := "0123456789abcdefghijklmnopqrstuvwxyz"

theorem length_alphabet : alphabet.length = 36 := rfl

theorem toNat_mod_lt (bits : UInt64) : (bits % 36).toNat < alphabet.length := by
  rw [UInt64.toNat_mod, length_alphabet]
  exact Nat.mod_lt _ (by decide)

/-- The lowest digit of a word in base 36, that of `bits % 36` in `alphabet`. -/
def lowestDigit (bits : UInt64) : Char := alphabet.get ⟨(bits % 36).toNat, toNat_mod_lt bits⟩

/-- The `count` lowest digits of the word `bits` in base 36, the lowest first. -/
def base36 : (count : Nat) → UInt64 → Text
  | 0, _ => []
  | count + 1, bits => lowestDigit bits :: base36 count (bits / 36)

/-- How many random digits an identifier has. -/
def suffixLength : Nat := 9

/-- The identifier made at the moment `m`: `m.millis` in base 10, a hyphen and `suffixLength` digits
of `m.draw`. -/
def ofMoment (m : Moment) : Text :=
  Nat.toDigits 10 m.millis ++ '-' :: base36 suffixLength m.draw

/-- Whether `c` is one of `0` to `9` and `a` to `z`. -/
def isDigit36 (c : Char) : Bool := c.isDigit || ('a' ≤ c && c ≤ 'z')

/-- Whether the text `s` has the form of an identifier made at a time after the beginning of the
epoch: a positive decimal number, a hyphen and `suffixLength` digits of base 36. -/
def isWellFormed (s : Text) : Bool :=
  let millis := s.takeWhile Char.isDigit
  match s.dropWhile Char.isDigit with
  | '-' :: suffix =>
    Nat.ofDigitChars 10 millis 0 > 0 && suffix.length = suffixLength && suffix.all isDigit36
  | _ => false

end Identifier

end MathNotes
