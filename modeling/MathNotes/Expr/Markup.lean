import MathNotes.Expr.Basic

/-!
# The markup of an expression

Every expression has LaTeX markup (`Expr.markup`), ill-shaped grids included. Texts are written as
they are. A vector is set as the grid of one column or one row, in the same environment as a matrix
(`Grid.markup`).
-/

namespace MathNotes

open Text

/-- The token of an operator. Both multiplications, `multiply` and `times`, look alike. -/
def Operator.markup : Operator → Text
  | .plus => "+"
  | .minus => "-"
  | .multiply => "\\times"
  | .divide => "\\div"
  | .dot => "\\cdot"
  | .times => "\\times"

/-- What stands before a wrapped expression. -/
def Wrapper.opening : Wrapper → Text
  | .parentheses => "\\left( "
  | .norm => "\\left\\| "
  | .squareRoot => "\\sqrt".toList ++ ['{']

/-- What stands after a wrapped expression. -/
def Wrapper.closing : Wrapper → Text
  | .parentheses => " \\right)"
  | .norm => " \\right\\|"
  | .squareRoot => ['}']

namespace Grid

/-- What stands between two cells of a row. -/
def cellSeparator : Text := " & "

/-- What stands between two rows. -/
def rowSeparator : Text := " \\\\ "

/-- The environment around a grid, begun. -/
def opening : Text := "\\begin{bmatrix} "

/-- The environment around a grid, ended. -/
def closing : Text := " \\end{bmatrix}"

/-- The markup of a grid: its rows joined by `rowSeparator`, and the cells of each by
`cellSeparator`. -/
def markup (cells : Grid) : Text :=
  opening ++ List.intercalate rowSeparator (cells.map (List.intercalate cellSeparator)) ++ closing

end Grid

/-- What stands between two cells of a vector, as between those of a grid of one column or one
row. -/
def Orientation.separator : Orientation → Text
  | .column => Grid.rowSeparator
  | .row => Grid.cellSeparator

namespace Expr

/-- The bounds of an integral, each a `group`, written only where both are given. -/
def boundsMarkup : Option Text → Option Text → Text
  | some lower, some upper => '_' :: (group lower ++ '^' :: group upper)
  | _, _ => []

/-- The differential at the end of an integral, written only where there is a letter after the
`d`. -/
def differentialMarkup : Option Text → Text
  | some (c :: rest) => " \\, d".toList ++ c :: rest
  | _ => []

/-- The markup of an expression. That of the parts of an operation or a wrapped expression stands in
it as it is. -/
def markup : Expr → Text
  | .symbol glyph => glyph
  | .number digits => digits
  | .identifier name => name
  | .matrix _ _ cells => cells.markup
  | .vector orientation cells =>
    Grid.opening ++ List.intercalate orientation.separator cells ++ Grid.closing
  | .operation op left right => left.markup ++ ' ' :: (op.markup ++ ' ' :: right.markup)
  | .wrapped wrapper inner => wrapper.opening ++ inner.markup ++ wrapper.closing
  | .integral body lower upper differential =>
    "\\int".toList ++ boundsMarkup lower upper ++ ' ' :: (body ++ differentialMarkup differential)
  | .fraction numerator denominator => "\\frac".toList ++ group numerator ++ group denominator
  | .power base exponent => group base ++ '^' :: group exponent
  | .subscript base index => group base ++ '_' :: group index

end Expr

end MathNotes
