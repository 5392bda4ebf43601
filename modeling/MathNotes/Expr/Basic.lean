import MathNotes.Error

/-!
# Expressions

An expression (`Expr`) is a tree of eleven kinds of node. The texts it holds (names, cells, bounds,
bodies) are fragments of markup and are never taken apart. No precedence is attached to operators:
the shape of the tree alone says what belongs together. Whether its grids have the shape they are
said to have is asked by `Expr.check`.
-/

namespace MathNotes

/-- The binary operators. `multiply` and `times` differ in their `spelling` only. -/
inductive Operator where
  | plus | minus | multiply | divide | dot | times
  deriving DecidableEq

/-- What a wrapper puts around an expression: parentheses, the bars of a norm or a root. -/
inductive Wrapper where
  | parentheses | norm | squareRoot
  deriving DecidableEq

/-- Whether the cells of a vector stand below or beside one another. -/
inductive Orientation where
  | column | row
  deriving DecidableEq

/-- Expressions. Only `operation` and `wrapped` have expressions below them. -/
inductive Expr where
  | symbol (glyph : Text)
  | number (digits : Text)
  | identifier (name : Text)
  /-- A grid and the shape it is said to have, which need not be its own. -/
  | matrix (rows cols : Nat) (cells : Grid)
  | vector (orientation : Orientation) (cells : List Text)
  | operation (op : Operator) (left right : Expr)
  | wrapped (wrapper : Wrapper) (inner : Expr)
  /-- An integral with its `body`, its bounds and the letter of its differential. -/
  | integral (body : Text) (lower upper differential : Option Text)
  | fraction (numerator denominator : Text)
  | power (base exponent : Text)
  | subscript (base index : Text)
  deriving DecidableEq

/-- The kinds of node, one for each constructor of `Expr`. -/
inductive Kind where
  | symbol | number | identifier | matrix | vector | operation | wrapped | integral | fraction
  | power | subscript
  deriving DecidableEq

namespace Operator

/-- Every operator, in the order in which they are listed. -/
def all : List Operator := [plus, minus, multiply, divide, dot, times]

/-- How an operator is spelled outside markup. No two have the same spelling
(`ofSpelling?_spelling`). -/
def spelling : Operator → Text
  | plus => "+"
  | minus => "-"
  | multiply => "*"
  | divide => "/"
  | dot => "dot"
  | times => "times"

/-- The operator whose `spelling` is `s`. -/
def ofSpelling? (s : Text) : Option Operator := all.find? fun op => op.spelling = s

/-- The operator whose `spelling` is `s`, or the error that there is none. -/
def read (s : Text) : Except Error Operator :=
  match ofSpelling? s with
  | some op => .ok op
  | none => .error (.unknownOperator s)

theorem ofSpelling?_spelling (op : Operator) : ofSpelling? op.spelling = some op := by
  cases op <;> decide

end Operator

namespace Wrapper

def all : List Wrapper := [parentheses, norm, squareRoot]

/-- How a wrapper is spelled outside markup. -/
def spelling : Wrapper → Text
  | parentheses => "paren"
  | norm => "norm"
  | squareRoot => "sqrt"

/-- The wrapper whose `spelling` is `s`. -/
def ofSpelling? (s : Text) : Option Wrapper := all.find? fun w => w.spelling = s

theorem ofSpelling?_spelling (w : Wrapper) : ofSpelling? w.spelling = some w := by
  cases w <;> decide

end Wrapper

namespace Orientation

def all : List Orientation := [column, row]

/-- The orientation of a vector that says none, which is `column`. -/
def standard : Orientation := column

/-- How an orientation is spelled outside markup. -/
def spelling : Orientation → Text
  | column => "col"
  | row => "row"

/-- The orientation whose `spelling` is `s`. -/
def ofSpelling? (s : Text) : Option Orientation := all.find? fun o => o.spelling = s

/-- The other orientation. -/
def toggled : Orientation → Orientation
  | column => row
  | row => column

theorem ofSpelling?_spelling (o : Orientation) : ofSpelling? o.spelling = some o := by
  cases o <;> decide

end Orientation

namespace Kind

/-- Every kind, in the order in which they are listed. -/
def all : List Kind :=
  [symbol, number, identifier, matrix, vector, operation, wrapped, integral, fraction, power,
    subscript]

/-- The name of a kind, which also tags its nodes where they are stored. -/
def name : Kind → Text
  | symbol => "symbol"
  | number => "number"
  | identifier => "identifier"
  | matrix => "matrix"
  | vector => "vector"
  | operation => "op"
  | wrapped => "wrapper"
  | integral => "integral"
  | fraction => "fraction"
  | power => "exponent"
  | subscript => "subscript"

/-- The kind whose `name` is `s`. -/
def ofName? (s : Text) : Option Kind := all.find? fun k => k.name = s

theorem ofName?_name (k : Kind) : ofName? k.name = some k := by
  cases k <;> decide

end Kind

namespace Expr

/-- The matrix of `cells` that is said to have as many columns as the first row has cells and as
many rows as there are. -/
def ofGrid (cells : Grid) : Expr := .matrix cells.length cells.width cells

/-- The kind of the node at the top. -/
def kind : Expr → Kind
  | .symbol _ => .symbol
  | .number _ => .number
  | .identifier _ => .identifier
  | .matrix .. => .matrix
  | .vector .. => .vector
  | .operation .. => .operation
  | .wrapped .. => .wrapped
  | .integral .. => .integral
  | .fraction .. => .fraction
  | .power .. => .power
  | .subscript .. => .subscript

/-- How many nodes the tree has; only `operation` and `wrapped` have any below them. -/
def nodeCount : Expr → Nat
  | .operation _ left right => 1 + left.nodeCount + right.nodeCount
  | .wrapped _ inner => 1 + inner.nodeCount
  | _ => 1

/-- Check that every matrix has the shape it is said to have (`Grid.check`) and that every vector
has a cell; of several defects the leftmost is reported. -/
def check : Expr → Except GridDefect Unit
  | .matrix rows cols cells => cells.check rows cols
  | .vector _ cells => if cells.isEmpty then .error .noCells else .ok ()
  | .operation _ left right =>
    match left.check with
    | .ok () => right.check
    | .error defect => .error defect
  | .wrapped _ inner => inner.check
  | _ => .ok ()

end Expr

end MathNotes
