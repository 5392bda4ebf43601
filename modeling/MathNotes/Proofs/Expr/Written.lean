import MathNotes.Expr.Markup
import MathNotes.Proofs.Text.Delimited
import MathNotes.Text.Blank

/-!
# What is written of an expression

Markup takes the texts of an expression as they are, but not all of them: of an integral a bound
that is alone and a differential without a letter are left out (`Expr.bounds?`,
`Expr.differential?`). What can be said of the markup depends on the characters of the texts that
are written (`Expr.IsWrittenIn`).
-/

namespace MathNotes

open Text

/-- Whether `c` is not blank and means nothing to the markup of commands, grids, scripts and
groups. -/
def isPlain (c : Char) : Bool := !isBlank c && !(['\\', '&', '_', '^', '{', '}'].contains c)

namespace Expr

/-- The bounds of an integral that are written: both, or `none` if one is missing. -/
def bounds? : Option Text → Option Text → Option (Text × Text)
  | some lower, some upper => some (lower, upper)
  | _, _ => none

/-- What is written after the `d` of a differential: `none` if there would be nothing. -/
def differential? (differential : Option Text) : Option Text := differential.filter (· ≠ [])

/-- The markup of the bounds that are written, as `bounds?` gives them. -/
def writtenBounds : Option (Text × Text) → Text
  | some (lower, upper) => '_' :: (group lower ++ '^' :: group upper)
  | none => []

/-- What stands before the differential that is written. -/
def differentialSign : Text := " \\, d"

/-- The markup of the differential that is written, as `differential?` gives it, behind
`differentialSign`. -/
def writtenDifferential : Option Text → Text
  | some v => differentialSign ++ v
  | none => []

theorem boundsMarkup_eq (lower upper : Option Text) :
    boundsMarkup lower upper = writtenBounds (bounds? lower upper) := by
  cases lower <;> cases upper <;> rfl

theorem differentialMarkup_eq (differential : Option Text) :
    differentialMarkup differential = writtenDifferential (differential? differential) := by
  rcases differential with _ | _ | ⟨c, s⟩ <;> rfl

/-- What an integral begins with. -/
def integralCommand : Text := "\\int"

/-- What a fraction begins with. -/
def fractionCommand : Text := "\\frac"

theorem markup_integral (body : Text) (lower upper differential : Option Text) :
    (integral body lower upper differential).markup =
      integralCommand ++ (writtenBounds (bounds? lower upper) ++
        ' ' :: (body ++ writtenDifferential (differential? differential))) := by
  show integralCommand ++ boundsMarkup lower upper ++
    ' ' :: (body ++ differentialMarkup differential) = _
  rw [boundsMarkup_eq, differentialMarkup_eq, List.append_assoc]

theorem markup_fraction (numerator denominator : Text) :
    (fraction numerator denominator).markup =
      fractionCommand ++ (group numerator ++ group denominator) := by
  show fractionCommand ++ group numerator ++ group denominator = _
  rw [List.append_assoc]

/-- Each text that is written is a word over the characters that satisfy `p`, each grid has a row
and each of its rows a cell, and each vector has a cell. -/
def IsWrittenIn (p : Char → Bool) : Expr → Prop
  | .symbol glyph => IsWord p glyph
  | .number digits => IsWord p digits
  | .identifier name => IsWord p name
  | .matrix _ _ cells => cells ≠ [] ∧ ∀ row ∈ cells, row ≠ [] ∧ ∀ cell ∈ row, IsWord p cell
  | .vector _ cells => cells ≠ [] ∧ ∀ cell ∈ cells, IsWord p cell
  | .operation _ left right => left.IsWrittenIn p ∧ right.IsWrittenIn p
  | .wrapped _ inner => inner.IsWrittenIn p
  | .integral body lower upper differential =>
    IsWord p body ∧ (∀ bounds ∈ bounds? lower upper, IsWord p bounds.1 ∧ IsWord p bounds.2) ∧
      ∀ v ∈ differential? differential, IsWord p v
  | .fraction numerator denominator => IsWord p numerator ∧ IsWord p denominator
  | .power base exponent => IsWord p base ∧ IsWord p exponent
  | .subscript base index => IsWord p base ∧ IsWord p index

instance decidableIsWrittenIn (p : Char → Bool) : (e : Expr) → Decidable (e.IsWrittenIn p)
  | .symbol glyph => inferInstanceAs (Decidable (IsWord p glyph))
  | .number digits => inferInstanceAs (Decidable (IsWord p digits))
  | .identifier name => inferInstanceAs (Decidable (IsWord p name))
  | .matrix _ _ cells => inferInstanceAs (Decidable (cells ≠ [] ∧ ∀ row ∈ cells, _ ∧ _))
  | .vector _ cells => inferInstanceAs (Decidable (cells ≠ [] ∧ ∀ cell ∈ cells, IsWord p cell))
  | .operation _ left right =>
    have := decidableIsWrittenIn p left
    have := decidableIsWrittenIn p right
    inferInstanceAs (Decidable (left.IsWrittenIn p ∧ right.IsWrittenIn p))
  | .wrapped _ inner => decidableIsWrittenIn p inner
  | .integral body lower upper differential =>
    inferInstanceAs (Decidable (IsWord p body ∧ (∀ bounds ∈ bounds? lower upper, _ ∧ _) ∧
      ∀ v ∈ differential? differential, IsWord p v))
  | .fraction numerator denominator =>
    inferInstanceAs (Decidable (IsWord p numerator ∧ IsWord p denominator))
  | .power base exponent => inferInstanceAs (Decidable (IsWord p base ∧ IsWord p exponent))
  | .subscript base index => inferInstanceAs (Decidable (IsWord p base ∧ IsWord p index))

end Expr

end MathNotes
