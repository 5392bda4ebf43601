import MathNotes.Grid
import MathNotes.Text.Quoted

/-!
# What can go wrong

Reading a line, compiling an expression and cleaning markup never fail. An `Error` arises where
grids are checked, where an operator is looked up by its spelling, and where stored notes and
rendering options are read.
-/

namespace MathNotes

/-- Every cause of failure. -/
inductive Error where
  /-- A JSON text that is malformed or does not have the expected shape. -/
  | json
  /-- An options document that is malformed or does not have the expected shape. -/
  | options
  /-- An options file that is missing or is not text. -/
  | file
  /-- A grid that does not have the shape it should have, with the `defect` that `Grid.check`
  found. -/
  | grid (defect : GridDefect)
  /-- An operator that is looked up by a `spelling` that none has. -/
  | unknownOperator (spelling : Text)
  deriving DecidableEq

/-- What is said about a grid with this defect. Shapes are written `rows`, an `x` and `cols`, all
numbers by `Nat.toDigits 10`. -/
def GridDefect.message : GridDefect → Text
  | .noCells => "Matrix has no cells"
  | .rowCount rows cols found => mismatch rows cols ++ "found ".toList ++ Nat.toDigits 10 found ++
      " rows".toList
  | .rowLength rows cols index found => mismatch rows cols ++ "row ".toList ++
      Nat.toDigits 10 index ++ " has ".toList ++ Nat.toDigits 10 found ++ " cells".toList
where
  mismatch (rows cols : Nat) : Text :=
    "Matrix shape mismatch: expected ".toList ++ Nat.toDigits 10 rows ++ 'x' ::
      Nat.toDigits 10 cols ++ ", ".toList

/-- The message for an error. For `json`, `options` and `file` it is the front of the message, and
what a failed reading adds is left to the caller. -/
def Error.message : Error → Text
  | .json => "JSON error: "
  | .options => "Configuration error: Failed to parse render options: "
  | .file => "IO error: "
  | .grid defect => defect.message
  | .unknownOperator spelling => "Unknown binary operator: ".toList ++ spelling.quoted

end MathNotes
