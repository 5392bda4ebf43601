import MathNotes.Builder
import MathNotes.Proofs.Grid.Shape

/-!
# The matrix form

The form keeps the shape of its matrix beside the cells. The main statement,
`isRectangular_of_reachable_and_resizeMatrix`, says that the two agree in every builder that one can
come to, as long as every matrix that is loaded has the shape it is said to have, and that to resize
the matrix makes them agree again, whatever was loaded.
-/

namespace MathNotes

/-- A matrix of declared shape `rows × cols` has it, `cells.HasShape rows cols`; of other
expressions there is nothing to ask. -/
def Expr.IsShaped : Expr → Prop
  | .matrix rows cols cells => cells.HasShape rows cols
  | _ => True

namespace Builder

/-- The matrix in the form has the shape `b.rows × b.cols` that is kept beside it. -/
def IsRectangular (b : Builder) : Prop := b.cells.HasShape b.rows b.cols

/-- Whether a matrix that the step loads, by `enterEdit` or `load`, has the shape it is said to
have. -/
def Step.LoadsShaped : Step → Prop
  | .enterEdit _ e => e.IsShaped
  | .load e => e.IsShaped
  | _ => True

/-- The builders that one can come to from a new one, by steps and by assigning `mode` and
`editing`, where matrices that are loaded have the shape they are said to have. -/
inductive Reachable : Builder → Prop
  | new : Reachable {}
  | step {b : Builder} {s : Step} : Reachable b → s.LoadsShaped → Reachable (b.step s)
  | assign {b : Builder} (mode : Mode) (editing : Option Text) :
    Reachable b → Reachable { b with mode := mode, editing := editing }

theorem Reachable.run {b : Builder} (h : Reachable b) {steps : List Step}
    (hsteps : ∀ s ∈ steps, s.LoadsShaped) : Reachable (b.run steps) := by
  induction steps generalizing b with
  | nil => exact h
  | cons s steps ih =>
    obtain ⟨hs, hrest⟩ := List.forall_mem_cons.mp hsteps
    exact ih (h.step hs) hrest

/-! ### What a step keeps -/

/-- The matrix form passes `check` exactly if its shape has a cell. -/
theorem IsRectangular.check_matrixExpr_iff {b : Builder} (h : b.IsRectangular) :
    b.matrixExpr.check = .ok () ↔ b.rows ≠ 0 ∧ b.cols ≠ 0 := by
  have hcheck : b.matrixExpr.check = .ok () ↔
      (b.rows ≠ 0 ∧ b.cols ≠ 0) ∧ b.cells.HasShape b.rows b.cols := Grid.check_eq_ok_iff
  exact hcheck.trans (and_iff_left h)

/-- The only expressions that reach the matrix form are matrices, and `e` has its shape. -/
theorem IsRectangular.load {b : Builder} (h : b.IsRectangular) {e : Expr} (he : e.IsShaped) :
    (b.load e).IsRectangular := by
  cases e with
  | matrix rows cols cells => exact he
  | _ => exact h

theorem IsRectangular.step {b : Builder} (h : b.IsRectangular) {s : Step} (hs : s.LoadsShaped) :
    (b.step s).IsRectangular := by
  cases s with
  | resizeMatrix rows cols => exact Grid.hasShape_resize rows cols b.cells
  | writeCell row col content => exact Grid.HasShape.setCell h row col content
  | enterEdit block e =>
    have hmode : IsRectangular { b with mode := .edit, editing := some block } := h
    exact hmode.load hs
  | load e => exact h.load hs
  | exitEdit => exact Grid.hasShape_blank 2 2
  | reset => exact Grid.hasShape_blank 2 2
  | showTab | resizeVector | writeEntry | toggleOrientation | writeField => exact h

theorem Reachable.isRectangular {b : Builder} (h : Reachable b) : b.IsRectangular := by
  induction h with
  | new => exact Grid.hasShape_blank 2 2
  | step _ hs ih => exact ih.step hs
  | assign mode editing _ ih => exact ih

/-! ### The matrix always has its shape -/

/-- **The matrix has its shape.** In every `Reachable` builder the matrix in the form has the shape
that is kept beside it, so that it passes `check` exactly if that shape has a cell. And
`resizeMatrix rows cols` gives it the shape asked for in any builder at all, in which every cell
that stood within that shape is as it was, and every other is empty. -/
theorem isRectangular_of_reachable_and_resizeMatrix :
    (∀ b : Builder, Reachable b →
      b.IsRectangular ∧ (b.matrixExpr.check = .ok () ↔ b.rows ≠ 0 ∧ b.cols ≠ 0)) ∧
    ∀ (b : Builder) (rows cols : Nat),
      (b.resizeMatrix rows cols).rows = rows ∧ (b.resizeMatrix rows cols).cols = cols ∧
        (b.resizeMatrix rows cols).IsRectangular ∧
        ∀ row < rows, ∀ col < cols,
          (b.resizeMatrix rows cols).cells.cell? row col =
            some ((b.cells.cell? row col).getD []) := by
  constructor
  · intro b hb
    exact ⟨hb.isRectangular, hb.isRectangular.check_matrixExpr_iff⟩
  · intro b rows cols
    refine ⟨rfl, rfl, Grid.hasShape_resize rows cols b.cells, fun row hrow col hcol => ?_⟩
    exact Grid.cell?_resize hrow hcol b.cells

/-- A run through a matrix without columns and an assignment of the mode; and a matrix that has not
the shape it is said to have, loaded after it and mended by resizing. -/
theorem isRectangular_of_reachable_mended :
    let b := run {} [.writeCell 1 1 ['d'], .enterEdit ['a'] (.matrix 2 0 [[], []]),
      .writeCell 0 0 ['x'], .resizeMatrix 3 1, .writeCell 2 0 ['y']]
    let created := { b with mode := .create, editing := none }
    let ragged := created.load (.matrix 1 3 [[['p']], [['q'], ['r']]])
    (Reachable created ∧ created.IsRectangular ∧
        (created.matrixExpr.check = .ok () ↔ created.rows ≠ 0 ∧ created.cols ≠ 0)) ∧
      ¬ ragged.IsRectangular ∧ (ragged.resizeMatrix 2 2).IsRectangular ∧
      (ragged.resizeMatrix 2 2).cells.cell? 0 1 = some [] := by
  intro b created ragged
  obtain ⟨hreachable, hresize⟩ := isRectangular_of_reachable_and_resizeMatrix
  have hsteps : ∀ s ∈ [.writeCell 1 1 ['d'], .enterEdit ['a'] (.matrix 2 0 [[], []]),
      .writeCell 0 0 ['x'], .resizeMatrix 3 1, .writeCell 2 0 ['y']], Step.LoadsShaped s := by
    have hmatrix : Grid.HasShape 2 0 [[], []] := ⟨rfl, by simp⟩
    simp [Step.LoadsShaped, Expr.IsShaped, hmatrix]
  have hcreated : Reachable created := (Reachable.new.run hsteps).assign .create none
  have hragged : ¬ ragged.IsRectangular := fun h => absurd h.length_eq (by decide)
  obtain ⟨-, -, hshape, hcell⟩ := hresize ragged 2 2
  exact ⟨⟨hcreated, hreachable created hcreated⟩, hragged, hshape,
    hcell 0 (by decide) 1 (by decide)⟩

end Builder

end MathNotes
