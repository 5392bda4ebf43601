import MathNotes.Grid

/-!
# Elements of a line

A line of a note is a sequence of elements (`Element`): runs of text, matrices set in the text, and
symbols.
-/

namespace MathNotes

/-- One element of a line. -/
inductive Element where
  /-- A run of text, kept as it is. -/
  | text (content : Text)
  /-- A matrix and the shape it is said to have. -/
  | matrix (rows cols : Nat) (cells : Grid)
  /-- A symbol, and the glyph to show for it. -/
  | symbol (id : Text) (glyph : Option Text)
  deriving DecidableEq

namespace Element

/-- The matrix of `cells` that is said to have as many columns as the first row has cells and as
many rows as there are. -/
def ofGrid (cells : Grid) : Element := .matrix cells.length cells.width cells

/-- The matrix of `rows` rows of `cols` empty cells, which is `Grid.blank`. -/
def blankMatrix (rows cols : Nat) : Element := .matrix rows cols (Grid.blank rows cols)

/-- Whether the element is a run of text. -/
def isText : Element → Bool
  | .text _ => true
  | _ => false

/-- Check that a matrix has the shape it is said to have (`Grid.check`). Other elements have no
shape to miss. -/
def check : Element → Except GridDefect Unit
  | .matrix rows cols cells => cells.check rows cols
  | _ => .ok ()

end Element

end MathNotes
