import MathNotes.Expr.Markup

/-!
# The expression builder

A `Builder` is the state behind a form for assembling expressions without writing markup. It has one
form per family of expressions, of which the active tab shows one (`Builder.current?`). It either
makes a new expression or edits the one of an existing block (`Builder.enterEdit`); whatever is
typed into the forms is there until it is overwritten or the forms are `reset`.
-/

namespace MathNotes

/-- Whether a new expression is made or an existing one is edited. -/
inductive Builder.Mode where
  | create | edit
  deriving DecidableEq

/-- The pages of the builder, one for each kind of form. -/
inductive Builder.Tab where
  | matrices | vectors | symbols | calculus | templates
  deriving DecidableEq

/-- The text fields of the forms, all empty at first but for `integralVariable`. -/
structure Builder.Fields where
  numerator : Text := []
  denominator : Text := []
  powerBase : Text := []
  powerExponent : Text := []
  subscriptBase : Text := []
  subscriptIndex : Text := []
  integralBody : Text := []
  integralLower : Text := []
  integralUpper : Text := []
  integralVariable : Text := ['x']
  deriving DecidableEq

/-- The state of the builder. A fresh one, `{}`, shows a matrix of `2 × 2` empty cells and has a
vector of three. -/
structure Builder where
  mode : Builder.Mode := .create
  /-- The block whose expression is edited. -/
  editing : Option Text := none
  tab : Builder.Tab := .matrices
  /-- The expression with which editing began, previewed where no form has one. -/
  beginning : Option Expr := none
  rows : Nat := 2
  cols : Nat := 2
  cells : Grid := Grid.blank 2 2
  orientation : Orientation := .column
  entries : List Text := List.replicate 3 []
  fields : Builder.Fields := {}
  deriving DecidableEq

namespace Builder

/-- The names of the pages. -/
def Tab.name : Tab → Text
  | matrices => "matrices"
  | vectors => "vectors"
  | symbols => "symbols"
  | calculus => "calculus"
  | templates => "templates"

def Tab.all : List Tab := [matrices, vectors, symbols, calculus, templates]

/-- The page whose name is `s`. -/
def Tab.ofName? (s : Text) : Option Tab := all.find? fun t => t.name = s

def Mode.name : Mode → Text
  | create => "create"
  | edit => "edit"

/-- The letter of the differential where none is given. -/
def standardVariable : Text := ['x']

/-- The text fields, named so that one can be written by `Step.writeField`. -/
inductive Field where
  | numerator | denominator | powerBase | powerExponent | subscriptBase | subscriptIndex
  | integralBody | integralLower | integralUpper | integralVariable
  deriving DecidableEq

/-- The names of the fields. -/
def Field.name : Field → Text
  | numerator => "fraction_numerator"
  | denominator => "fraction_denominator"
  | powerBase => "exponent_base"
  | powerExponent => "exponent_power"
  | subscriptBase => "subscript_base"
  | subscriptIndex => "subscript_value"
  | integralBody => "integral_body"
  | integralLower => "integral_from"
  | integralUpper => "integral_to"
  | integralVariable => "integral_variable"

/-- Every field, in the order in which the forms show them. -/
def Field.all : List Field :=
  [numerator, denominator, powerBase, powerExponent, subscriptBase, subscriptIndex, integralBody,
    integralLower, integralUpper, integralVariable]

/-- The field whose name is `s`. -/
def Field.ofName? (s : Text) : Option Field := all.find? fun f => f.name = s

/-- The content of a field of `fs`. -/
def Fields.get (fs : Fields) : Field → Text
  | .numerator => fs.numerator
  | .denominator => fs.denominator
  | .powerBase => fs.powerBase
  | .powerExponent => fs.powerExponent
  | .subscriptBase => fs.subscriptBase
  | .subscriptIndex => fs.subscriptIndex
  | .integralBody => fs.integralBody
  | .integralLower => fs.integralLower
  | .integralUpper => fs.integralUpper
  | .integralVariable => fs.integralVariable

/-- The fields `fs` with the content of one replaced. -/
def Fields.set (fs : Fields) (content : Text) : Field → Fields
  | .numerator => { fs with numerator := content }
  | .denominator => { fs with denominator := content }
  | .powerBase => { fs with powerBase := content }
  | .powerExponent => { fs with powerExponent := content }
  | .subscriptBase => { fs with subscriptBase := content }
  | .subscriptIndex => { fs with subscriptIndex := content }
  | .integralBody => { fs with integralBody := content }
  | .integralLower => { fs with integralLower := content }
  | .integralUpper => { fs with integralUpper := content }
  | .integralVariable => { fs with integralVariable := content }

/-! ### What the forms say -/

/-- The matrix in its form, whose `rows` and `cols` are kept beside the `cells`. -/
def matrixExpr (b : Builder) : Expr := .matrix b.rows b.cols b.cells

/-- The vector in its form. -/
def vectorExpr (b : Builder) : Expr := .vector b.orientation b.entries

/-- A field as an optional text, `none` when empty. -/
def given? (content : Text) : Option Text := if content.isEmpty then none else some content

/-- The integral in its form; an empty bound is none, an empty differential stays one. -/
def integralExpr (fs : Fields) : Expr :=
  .integral fs.integralBody (given? fs.integralLower) (given? fs.integralUpper)
    (some fs.integralVariable)

/-- The first of fraction, power and subscript that has a field filled in. -/
def templateExpr? (fs : Fields) : Option Expr :=
  if fs.numerator ≠ [] ∨ fs.denominator ≠ [] then some (.fraction fs.numerator fs.denominator)
  else if fs.powerBase ≠ [] ∨ fs.powerExponent ≠ [] then
    some (.power fs.powerBase fs.powerExponent)
  else if fs.subscriptBase ≠ [] ∨ fs.subscriptIndex ≠ [] then
    some (.subscript fs.subscriptBase fs.subscriptIndex)
  else none

/-- The expression of the active tab. Symbols are inserted directly, so their tab has none. -/
def current? (b : Builder) : Option Expr :=
  match b.tab with
  | .matrices => some b.matrixExpr
  | .vectors => some b.vectorExpr
  | .symbols => none
  | .calculus => some (integralExpr b.fields)
  | .templates => templateExpr? b.fields

/-- The expression to preview: `current?`, that of the active tab, or the one with which editing
began. -/
def preview? (b : Builder) : Option Expr := b.current? <|> b.beginning

/-- The markup of `preview?`, empty when there is nothing to show. -/
def markup (b : Builder) : Text := (b.preview?.map Expr.markup).getD []

/-! ### What one can do -/

/-- Every form as it is at first; `mode`, `editing`, `tab` and `beginning` stay. -/
def reset (b : Builder) : Builder :=
  { mode := b.mode, editing := b.editing, tab := b.tab, beginning := b.beginning }

/-- Copy an expression into the form that can edit it and show that form. Nothing happens for an
expression that no form can edit. -/
def load (b : Builder) : Expr → Builder
  | .matrix rows cols cells =>
    { b with tab := .matrices, rows := rows, cols := cols, cells := cells }
  | .vector orientation cells =>
    { b with tab := .vectors, orientation := orientation, entries := cells }
  | .fraction numerator denominator =>
    { b with
      tab := .templates
      fields := { b.fields with numerator := numerator, denominator := denominator } }
  | .power base exponent =>
    { b with
      tab := .templates
      fields := { b.fields with powerBase := base, powerExponent := exponent } }
  | .subscript base index =>
    { b with
      tab := .templates
      fields := { b.fields with subscriptBase := base, subscriptIndex := index } }
  | .integral body lower upper differential =>
    { b with
      tab := .calculus
      fields :=
        { b.fields with
          integralBody := body
          integralLower := lower.getD []
          integralUpper := upper.getD []
          integralVariable := differential.getD standardVariable } }
  | _ => b

/-- Begin to edit the expression `e` of a block, which stays as `beginning` whatever the forms
hold. -/
def enterEdit (b : Builder) (block : Text) (e : Expr) : Builder :=
  { { b with mode := .edit, editing := some block }.load e with beginning := some e }

/-- Stop editing and `reset` every form; the tab stays. -/
def exitEdit (b : Builder) : Builder :=
  { b with mode := .create, editing := none, beginning := none }.reset

/-- What one can do with a builder; see `Builder.step`. -/
inductive Step where
  | showTab (tab : Tab)
  | resizeMatrix (rows cols : Nat)
  | writeCell (row col : Nat) (content : Text)
  | resizeVector (size : Nat)
  | writeEntry (index : Nat) (content : Text)
  | toggleOrientation
  | writeField (field : Field) (content : Text)
  | enterEdit (block : Text) (e : Expr)
  | exitEdit
  | load (e : Expr)
  | reset
  deriving DecidableEq

/-- Resize the matrix to `rows × cols`; cells that fit in the new shape stay. -/
def resizeMatrix (b : Builder) (rows cols : Nat) : Builder :=
  { b with rows := rows, cols := cols, cells := b.cells.resize rows cols }

/-- Write a cell of the matrix; outside the grid nothing happens. -/
def writeCell (b : Builder) (row col : Nat) (content : Text) : Builder :=
  { b with cells := b.cells.setCell row col content }

/-- Resize the vector to `size` entries; leading entries stay. -/
def resizeVector (b : Builder) (size : Nat) : Builder :=
  { b with entries := Grid.fit size [] b.entries }

/-- Write the entry `index` of the vector; past the end nothing happens. -/
def writeEntry (b : Builder) (index : Nat) (content : Text) : Builder :=
  { b with entries := b.entries.set index content }

/-- Do one thing. -/
def step (b : Builder) : Step → Builder
  | .showTab tab => { b with tab := tab }
  | .resizeMatrix rows cols => b.resizeMatrix rows cols
  | .writeCell row col content => b.writeCell row col content
  | .resizeVector size => b.resizeVector size
  | .writeEntry index content => b.writeEntry index content
  | .toggleOrientation => { b with orientation := b.orientation.toggled }
  | .writeField field content => { b with fields := b.fields.set content field }
  | .enterEdit block e => b.enterEdit block e
  | .exitEdit => b.exitEdit
  | .load e => b.load e
  | .reset => b.reset

/-- Do several things, one `step` after another. -/
def run (b : Builder) (steps : List Step) : Builder := steps.foldl step b

end Builder

end MathNotes
