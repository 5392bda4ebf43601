import MathNotes.Line.Element
import MathNotes.Text.Lowercase

/-!
# The command palette

The palette offers `commands` that insert an element into a line (`Command.apply`). It can be
searched by any part of a command's name, description or category, letter case not counting
(`search`).
-/

namespace MathNotes

/-- How the palette groups commands. -/
inductive Command.Category where
  | insertion | symbol
  deriving DecidableEq

/-- What a command inserts. -/
inductive Command.Action where
  /-- A matrix of empty cells; vectors are matrices with one column. -/
  | insertMatrix (rows cols : Nat)
  | insertSymbol (id glyph : Text)
  deriving DecidableEq

/-- An entry of the palette: `apply` runs its `action`, and `answers` searches its other fields. -/
structure Command where
  id : Text
  name : Text
  description : Text
  category : Command.Category
  action : Command.Action
  deriving DecidableEq

namespace Command

/-- The name of a category, by which it is searched for. -/
def Category.name : Category → Text
  | insertion => "insert"
  | symbol => "symbol"

/-- The element that the command `c` inserts. -/
def element (c : Command) : Element :=
  match c.action with
  | .insertMatrix rows cols => .blankMatrix rows cols
  | .insertSymbol id glyph => .symbol id (some glyph)

/-- Where an element put in after the index `after` comes to stand: at `after + 1`, or past the end
at the end. -/
def place (elements : List Element) (after : Nat) : Nat := min (after + 1) elements.length

/-- Put the element of the command `c` in after the index `after`, at `place elements after`. -/
def apply (c : Command) (elements : List Element) (after : Nat) : List Element :=
  elements.insertIdx (place elements after) c.element

/-- Whether `query`, in lower case already, stands in the name, the description or the category of
`c`. -/
def answers (query : Text) (c : Command) : Bool :=
  Text.occursIn query c.name.lowercase || Text.occursIn query c.description.lowercase ||
    Text.occursIn query c.category.name

/-- A command that inserts a matrix of `rows × cols` empty cells. -/
def matrix (id name description : Text) (rows cols : Nat) : Command :=
  ⟨id, name, description, .insertion, .insertMatrix rows cols⟩

/-- A command that inserts the symbol of its `name`, shown as `glyph`. -/
def symbol (id name description glyph : Text) : Command :=
  ⟨id, name, description, .symbol, .insertSymbol name glyph⟩

end Command

namespace Palette

/-- Every command, in the order of display. -/
def commands : List Command := [
  .matrix "insert-matrix-2x2" "matrix 2×2" "Insert a 2×2 matrix" 2 2,
  .matrix "insert-matrix-2x3" "matrix 2×3" "Insert a 2×3 matrix" 2 3,
  .matrix "insert-matrix-3x2" "matrix 3×2" "Insert a 3×2 matrix" 3 2,
  .matrix "insert-matrix-3x3" "matrix 3×3" "Insert a 3×3 matrix" 3 3,
  .matrix "insert-matrix-4x4" "matrix 4×4" "Insert a 4×4 matrix" 4 4,
  .matrix "insert-vector-2" "vector 2D" "Insert a 2D column vector" 2 1,
  .matrix "insert-vector-3" "vector 3D" "Insert a 3D column vector" 3 1,
  .matrix "insert-vector-4" "vector 4D" "Insert a 4D column vector" 4 1,
  .symbol "symbol-alpha" "alpha" "Insert α symbol" "α",
  .symbol "symbol-beta" "beta" "Insert β symbol" "β",
  .symbol "symbol-gamma" "gamma" "Insert γ symbol" "γ",
  .symbol "symbol-delta" "delta" "Insert δ symbol" "δ",
  .symbol "symbol-theta" "theta" "Insert θ symbol" "θ",
  .symbol "symbol-lambda" "lambda" "Insert λ symbol" "λ",
  .symbol "symbol-pi" "pi" "Insert π symbol" "π",
  .symbol "symbol-sigma" "sigma" "Insert Σ (summation) symbol" "Σ",
  .symbol "symbol-integral" "integral" "Insert ∫ (integral) symbol" "∫",
  .symbol "symbol-sqrt" "sqrt" "Insert √ (square root) symbol" "√"]

/-- The command with the given `id`, if there is one. -/
def find? (id : Text) : Option Command := commands.find? fun c => c.id = id

/-- The commands that answer `query` in lower case, in the order of display. An empty query asks for
all. -/
def search (query : Text) : List Command :=
  if query.isEmpty then commands else commands.filter (Command.answers query.lowercase)

end Palette

end MathNotes
