import MathNotes.Text.Basic

/-!
# Grids of cells

A `Grid` is a list of rows of cells. Nothing forces the rows to be equally long; whether a grid has
a given shape is asked by `Grid.check`, which names the first thing that is wrong. `Grid.resize`
gives a grid a shape, keeping the cells it has room for.
-/

namespace MathNotes

/-- Rows of cells, the top row first. -/
abbrev Grid := List (List Text)

/-- Why a grid does not have the shape it should have. -/
inductive GridDefect where
  /-- The shape asked for has no cells. -/
  | noCells
  /-- There are `found` rows instead of `rows`. -/
  | rowCount (rows cols found : Nat)
  /-- The row at `index` is the first that has not `cols` cells; it has `found`. -/
  | rowLength (rows cols index found : Nat)
  deriving DecidableEq

namespace Grid

/-- The length of the first row of `cells`, or zero if there is none. -/
def width (cells : Grid) : Nat := (cells.head?.map List.length).getD 0

/-- The grid of `rows` rows of `cols` empty cells. -/
def blank (rows cols : Nat) : Grid := List.replicate rows (List.replicate cols [])

/-- Check that `cells` has `rows` rows of `cols` cells and that there is a cell at all. The first
thing wrong is reported: no cells, then the count of rows, then the first row of another length. -/
def check (rows cols : Nat) (cells : Grid) : Except GridDefect Unit :=
  if rows = 0 ∨ cols = 0 then .error .noCells
  else if cells.length ≠ rows then .error (.rowCount rows cols cells.length)
  else
    match cells.zipIdx.find? (fun row => row.1.length ≠ cols) with
    | some (row, index) => .error (.rowLength rows cols index row.length)
    | none => .ok ()

/-- The list `xs` cut or filled up with `filler` to the length `size`. -/
def fit {α : Type} (size : Nat) (filler : α) (xs : List α) : List α :=
  xs.take size ++ List.replicate (size - xs.length) filler

/-- The grid `cells` cut or filled up with empty cells to `rows` rows of `cols` (`fit`, rows
first). -/
def resize (rows cols : Nat) (cells : Grid) : Grid :=
  (fit rows [] cells).map (fit cols [])

/-- The grid `cells` with the cell at `row` and `col` replaced by `content`; a place outside the
grid leaves it as it is. -/
def setCell (row col : Nat) (content : Text) (cells : Grid) : Grid :=
  cells.modify row fun r => r.set col content

@[simp] theorem length_fit {α : Type} (size : Nat) (filler : α) (xs : List α) :
    (fit size filler xs).length = size := by
  simp [fit]
  omega

end Grid

end MathNotes
