import MathNotes.Grid
import MathNotes.Text.Blank

/-!
# Matrix literals

In a line of text a matrix is spelled `[ [ a b ] [ c d ] ]`. With `_` for a run of ASCII blanks,

    matrix := '[' ' ' _? row (_? row)* _? ']'
    row    := '[' _? cell (_ cell)* _? ']'
    cell   := one or more characters other than ASCII blanks, '[' and ']'

and all rows have equally many cells. There is no way to put a blank or a bracket into a cell.

The reader goes through the text character by character. What it is in the middle of is its
`Stage`; what it has read so far it keeps with the last first.
-/

namespace MathNotes.Literal

/-- What the reader of a literal is in the middle of. -/
inductive Stage where
  /-- Inside the outer brackets, between rows. -/
  | rows
  /-- Inside a row, between cells; the cells read so far, the last first. -/
  | cells (done : List Text)
  /-- Inside a cell; its characters read so far, the last first. -/
  | content (done : List Text) (chars : Text)
  deriving DecidableEq

/-- Read on from inside the outer brackets, with the rows read so far `above`, the last first. The
result is the grid and the text after the closing bracket. -/
def readFrom : Grid → Stage → Text → Option (Grid × Text)
  | _, _, [] => none
  | above, .rows, c :: rest =>
    if isAsciiBlank c then readFrom above .rows rest
    else if c = '[' then readFrom above (.cells []) rest
    else if c = ']' then some (above.reverse, rest)
    else none
  | above, .cells done, c :: rest =>
    if isAsciiBlank c then readFrom above (.cells done) rest
    else if c = ']' then readFrom (done.reverse :: above) .rows rest
    else if c = '[' then none
    else readFrom above (.content done [c]) rest
  | above, .content done chars, c :: rest =>
    if isAsciiBlank c then readFrom above (.cells (chars.reverse :: done)) rest
    else if c = ']' then readFrom ((chars.reverse :: done).reverse :: above) .rows rest
    else if c = '[' then none
    else readFrom above (.content done (c :: chars)) rest

/-- Whether the rows of `cells` are equally long and not empty, as the first one says
(`Grid.width`). -/
def isRectangular (cells : Grid) : Bool :=
  cells.width ≠ 0 && cells.all fun row => row.length = cells.width

/-- Read the literal whose opening bracket stands just before `s`: its grid, which must be
rectangular, and the text after it. -/
def read? (s : Text) : Option (Grid × Text) :=
  match readFrom [] .rows s with
  | some (cells, rest) => if isRectangular cells then some (cells, rest) else none
  | none => none

/-- The spelling of one `row`, its cells with single spaces between. -/
def printRow (row : List Text) : Text := "[ ".toList ++ List.intercalate [' '] row ++ " ]".toList

/-- The spelling of the grid `cells`, each row by `printRow`, with single spaces between. -/
def print (cells : Grid) : Text :=
  "[ ".toList ++ List.intercalate [' '] (cells.map printRow) ++ " ]".toList

/-! ### What is left is shorter -/

theorem length_of_readFrom {above : Grid} {stage : Stage} {s : Text} {cells : Grid} {rest : Text}
    (h : readFrom above stage s = some (cells, rest)) : rest.length < s.length := by
  fun_induction readFrom above stage s <;> grind

theorem length_of_read? {s : Text} {cells : Grid} {rest : Text}
    (h : read? s = some (cells, rest)) : rest.length < s.length := by
  unfold read? at h
  split at h
  · next hr =>
    split at h
    · cases h; exact length_of_readFrom hr
    · cases h
  · cases h

end MathNotes.Literal
