import MathNotes.Proofs.Expr.Written

/-!
# Normal forms of expressions

What of an expression is left in its markup is its normal form (`Expr.normalForm`): a `Chain` of
operands with signs between them. An `Operand` is whatever is not an operation; the chain forgets
how operations are nested, which markup does not show. It also forgets what kind of leaf a text is,
which shape a matrix is said to have, that a vector is one, and what is not written of an integral.

The markup of an expression is that of its normal form (`Expr.markup_normalForm`).
-/

namespace MathNotes

open Text

/-- What stands for an operator in markup. Both multiplications have the sign `times`. -/
inductive Sign where
  | plus | minus | times | divide | dot
  deriving DecidableEq

/-- The sign of an operator, which has the same markup (`Operator.markup_sign`). -/
def Operator.sign : Operator → Sign
  | .plus => .plus
  | .minus => .minus
  | .multiply => .times
  | .divide => .divide
  | .dot => .dot
  | .times => .times

/-- The markup of a sign. -/
def Sign.markup : Sign → Text
  | .plus => "+"
  | .minus => "-"
  | .times => "\\times"
  | .divide => "\\div"
  | .dot => "\\cdot"

theorem Operator.markup_sign (op : Operator) : op.sign.markup = op.markup := by
  cases op <;> rfl

mutual

/-- What stands between signs: whatever is not an operation. -/
inductive Operand where
  /-- A symbol, a number or an identifier. -/
  | leaf (content : Text)
  /-- A matrix or a vector. -/
  | grid (cells : Grid)
  | wrapped (wrapper : Wrapper) (inner : Chain)
  | integral (body : Text) (bounds : Option (Text × Text)) (differential : Option Text)
  | fraction (numerator denominator : Text)
  | power (base exponent : Text)
  | subscript (base index : Text)
  deriving DecidableEq

/-- Operands with signs between them, in the order in which they are written. -/
inductive Chain where
  | last (operand : Operand)
  | link (operand : Operand) (sign : Sign) (rest : Chain)
  deriving DecidableEq

end

/-- One chain after another, with a sign between them. -/
def Chain.append : Chain → Sign → Chain → Chain
  | .last operand, sign, rest => .link operand sign rest
  | .link operand first middle, sign, rest => .link operand first (middle.append sign rest)

/-- The cells of a vector as those of a grid of one column or one row. -/
def Orientation.toGrid : Orientation → List Text → Grid
  | .column, cells => cells.map fun cell => [cell]
  | .row, cells => [cells]

/-- The normal form of an expression. That of an operation is the `Chain.append` of those of its
operands. -/
def Expr.normalForm : Expr → Chain
  | .symbol glyph => .last (.leaf glyph)
  | .number digits => .last (.leaf digits)
  | .identifier name => .last (.leaf name)
  | .matrix _ _ cells => .last (.grid cells)
  | .vector orientation cells => .last (.grid (orientation.toGrid cells))
  | .operation op left right => left.normalForm.append op.sign right.normalForm
  | .wrapped wrapper inner => .last (.wrapped wrapper inner.normalForm)
  | .integral body lower upper differential =>
    .last (.integral body (bounds? lower upper) (differential? differential))
  | .fraction numerator denominator => .last (.fraction numerator denominator)
  | .power base exponent => .last (.power base exponent)
  | .subscript base index => .last (.subscript base index)

/-! ### The markup of a normal form -/

mutual

/-- The markup of an operand, which is that of an expression with this normal form. -/
def Operand.markup : Operand → Text
  | .leaf content => content
  | .grid cells => cells.markup
  | .wrapped wrapper inner => wrapper.opening ++ (inner.markup ++ wrapper.closing)
  | .integral body bounds differential =>
    Expr.integralCommand ++ (Expr.writtenBounds bounds ++
      ' ' :: (body ++ Expr.writtenDifferential differential))
  | .fraction numerator denominator =>
    Expr.fractionCommand ++ (group numerator ++ group denominator)
  | .power base exponent => group base ++ '^' :: group exponent
  | .subscript base index => group base ++ '_' :: group index

/-- The markup of a chain: its operands and signs with spaces between. -/
def Chain.markup : Chain → Text
  | .last operand => operand.markup
  | .link operand sign rest => operand.markup ++ ' ' :: (sign.markup ++ ' ' :: rest.markup)

end

theorem Chain.markup_append (c : Chain) (sign : Sign) (d : Chain) :
    (c.append sign d).markup = c.markup ++ ' ' :: (sign.markup ++ ' ' :: d.markup) := by
  match c with
  | .last operand => rfl
  | .link operand first middle =>
    rw [append, markup, markup_append middle sign d, markup]
    simp

theorem Orientation.markup_toGrid (orientation : Orientation) (cells : List Text) :
    (orientation.toGrid cells).markup =
      Grid.opening ++ List.intercalate orientation.separator cells ++ Grid.closing := by
  cases orientation with
  | column =>
    rw [Grid.markup, toGrid, List.map_map]
    have hid : List.intercalate Grid.cellSeparator ∘ (fun cell => [cell]) = id :=
      funext fun _ => List.intercalate_singleton
    rw [hid, List.map_id]
    rfl
  | row =>
    rw [Grid.markup, toGrid, List.map_singleton, List.intercalate_singleton]
    rfl

/-- The markup of `e` depends on its normal form alone. -/
theorem Expr.markup_normalForm (e : Expr) : e.normalForm.markup = e.markup := by
  induction e with
  | vector orientation cells => exact orientation.markup_toGrid cells
  | operation op left right hleft hright =>
    rw [normalForm, Chain.markup_append, hleft, hright, op.markup_sign]
    rfl
  | wrapped wrapper inner hinner =>
    show wrapper.opening ++ (inner.normalForm.markup ++ wrapper.closing) =
      wrapper.opening ++ inner.markup ++ wrapper.closing
    rw [hinner, List.append_assoc]
  | integral body lower upper differential =>
    exact (markup_integral body lower upper differential).symm
  | fraction numerator denominator => exact (markup_fraction numerator denominator).symm
  | _ => rfl

/-! ### What is written of a normal form -/

mutual

/-- Each text of the operand is a word over the characters that satisfy `p`, and its grids have rows
and cells. -/
def Operand.IsWrittenIn (p : Char → Bool) : Operand → Prop
  | .leaf content => IsWord p content
  | .grid cells => cells ≠ [] ∧ ∀ row ∈ cells, row ≠ [] ∧ ∀ cell ∈ row, IsWord p cell
  | .wrapped _ inner => inner.IsWrittenIn p
  | .integral body bounds differential =>
    IsWord p body ∧ (∀ b ∈ bounds, IsWord p b.1 ∧ IsWord p b.2) ∧ ∀ v ∈ differential, IsWord p v
  | .fraction numerator denominator => IsWord p numerator ∧ IsWord p denominator
  | .power base exponent => IsWord p base ∧ IsWord p exponent
  | .subscript base index => IsWord p base ∧ IsWord p index

/-- Each operand of the chain satisfies `Operand.IsWrittenIn p`. -/
def Chain.IsWrittenIn (p : Char → Bool) : Chain → Prop
  | .last operand => operand.IsWrittenIn p
  | .link operand _ rest => operand.IsWrittenIn p ∧ rest.IsWrittenIn p

end

variable {p : Char → Bool}

theorem Chain.isWrittenIn_append {c d : Chain} (sign : Sign) (hc : c.IsWrittenIn p)
    (hd : d.IsWrittenIn p) : (c.append sign d).IsWrittenIn p := by
  match c with
  | .last operand => exact ⟨hc, hd⟩
  | .link operand first middle => exact ⟨hc.1, isWrittenIn_append sign hc.2 hd⟩

theorem Expr.isWrittenIn_normalForm {e : Expr} (h : e.IsWrittenIn p) :
    e.normalForm.IsWrittenIn p := by
  induction e with
  | vector orientation cells =>
    obtain ⟨hne, hcells⟩ := h
    cases orientation with
    | column =>
      refine ⟨fun hnil => hne (List.map_eq_nil_iff.mp hnil), fun row hrow => ?_⟩
      obtain ⟨cell, hcell, rfl⟩ := List.mem_map.mp hrow
      refine ⟨List.cons_ne_nil _ _, fun c hc => ?_⟩
      rw [List.mem_singleton.mp hc]
      exact hcells cell hcell
    | row =>
      refine ⟨List.cons_ne_nil _ _, fun row hrow => ?_⟩
      rw [List.mem_singleton.mp hrow]
      exact ⟨hne, hcells⟩
  | operation op left right hleft hright =>
    exact Chain.isWrittenIn_append op.sign (hleft h.1) (hright h.2)
  | wrapped wrapper inner hinner => exact hinner h
  | _ => exact h

end MathNotes
