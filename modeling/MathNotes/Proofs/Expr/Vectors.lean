import MathNotes.Proofs.Expr.Checked
import MathNotes.Proofs.Expr.NormalForm

/-!
# Vectors as matrices

A vector is set with a separator of its own and checked for nothing but a cell, while the matrix of
one column or one row goes the way of all grids. Both come to the same, for no cell and for one cell
too (`Orientation.markup_toGrid`, `check_matrixOf`). What a tree is in markup, how many nodes it has
and what its check reports depend on no more of its parts than that, so vectors can be replaced by
matrices wherever they stand (`ReplacesVectors.markup_eq`, `ReplacesVectors.nodeCount_eq`,
`ReplacesVectors.check_eq`).
-/

namespace MathNotes

open Text

/-- The grid of a vector has the shape of its rows and of its first row (`Grid.width`), whatever
that is. -/
theorem Orientation.hasShape_toGrid (orientation : Orientation) (cells : List Text) :
    (orientation.toGrid cells).HasShape (orientation.toGrid cells).length
      (orientation.toGrid cells).width := by
  refine ⟨rfl, fun row hrow => ?_⟩
  cases orientation with
  | column =>
    obtain ⟨cell, hcell, rfl⟩ := List.mem_map.mp hrow
    obtain ⟨first, rest, rfl⟩ := List.exists_cons_of_ne_nil (List.ne_nil_of_mem hcell)
    rfl
  | row =>
    rw [List.mem_singleton.mp hrow]
    rfl

namespace Expr

/-- A vector as a matrix of one column or one row, of the shape that its cells have. -/
def matrixOf (orientation : Orientation) (cells : List Text) : Expr :=
  ofGrid (orientation.toGrid cells)

/-- Without cells the matrix of a column has no rows and that of a row has no columns, so that the
check reports `noCells` of both, as of the vector. -/
theorem check_matrixOf (orientation : Orientation) (cells : List Text) :
    (matrixOf orientation cells).check = (vector orientation cells).check := by
  cases cells with
  | nil => cases orientation <;> rfl
  | cons cell cells =>
    show (orientation.toGrid (cell :: cells)).check _ _ = .ok ()
    refine Grid.check_eq_ok_iff.mpr ⟨?_, orientation.hasShape_toGrid _⟩
    cases orientation <;> exact ⟨Nat.succ_ne_zero _, Nat.succ_ne_zero _⟩

/-! ### In a tree -/

/-- The second tree is the first with `matrixOf` in the place of some of its vectors, which may be
none or all. -/
inductive ReplacesVectors : Expr → Expr → Prop where
  | same (e : Expr) : ReplacesVectors e e
  | vector (orientation : Orientation) (cells : List Text) :
    ReplacesVectors (.vector orientation cells) (matrixOf orientation cells)
  | operation (op : Operator) {left left' right right' : Expr}
    (hleft : ReplacesVectors left left') (hright : ReplacesVectors right right') :
    ReplacesVectors (.operation op left right) (.operation op left' right')
  | wrapped (wrapper : Wrapper) {inner inner' : Expr} (hinner : ReplacesVectors inner inner') :
    ReplacesVectors (.wrapped wrapper inner) (.wrapped wrapper inner')

namespace ReplacesVectors

variable {e e' : Expr} (h : ReplacesVectors e e')

include h

theorem markup_eq : e'.markup = e.markup := by
  induction h with
  | same e => rfl
  | vector orientation cells => exact orientation.markup_toGrid cells
  | @operation op left left' right right' _ _ hleft hright =>
    show left'.markup ++ ' ' :: (op.markup ++ ' ' :: right'.markup) =
      left.markup ++ ' ' :: (op.markup ++ ' ' :: right.markup)
    rw [hleft, hright]
  | @wrapped wrapper inner inner' _ hinner =>
    show wrapper.opening ++ inner'.markup ++ wrapper.closing =
      wrapper.opening ++ inner.markup ++ wrapper.closing
    rw [hinner]

theorem nodeCount_eq : e'.nodeCount = e.nodeCount := by
  induction h with
  | same e => rfl
  | vector orientation cells => rfl
  | operation op _ _ hleft hright => rw [nodeCount, nodeCount, hleft, hright]
  | wrapped wrapper _ hinner => rw [nodeCount, nodeCount, hinner]

theorem check_eq : e'.check = e.check := by
  induction h with
  | same e => rfl
  | vector orientation cells => exact check_matrixOf orientation cells
  | operation op _ _ hleft hright => simp only [check, hleft, hright]
  | wrapped wrapper _ hinner => exact hinner

end ReplacesVectors

/-- **A vector is a matrix.** The `markup` of a vector and what its `check` reports are those of the
matrix whose rows are its single cells, or whose only row they are. Matrices in the place of any of
the vectors in a tree `e` change neither its `markup`, nor its `nodeCount`, nor what its `check`
reports. -/
theorem vector_eq_matrix_in_every_tree (cells : List Text) :
    ((vector .column cells).markup = (ofGrid (cells.map fun cell => [cell])).markup ∧
        (vector .row cells).markup = (ofGrid [cells]).markup) ∧
      ((vector .column cells).check = (ofGrid (cells.map fun cell => [cell])).check ∧
        (vector .row cells).check = (ofGrid [cells]).check) ∧
      ∀ e e', ReplacesVectors e e' →
        e'.markup = e.markup ∧ e'.nodeCount = e.nodeCount ∧ e'.check = e.check := by
  refine ⟨⟨?_, ?_⟩, ⟨?_, ?_⟩, fun e e' h => ⟨h.markup_eq, h.nodeCount_eq, h.check_eq⟩⟩
  · exact (Orientation.column.markup_toGrid cells).symm
  · exact (Orientation.row.markup_toGrid cells).symm
  · exact (check_matrixOf .column cells).symm
  · exact (check_matrixOf .row cells).symm

/-- The column in the norm and the empty row are replaced, the column beside them is not. -/
theorem vector_eq_matrix_in_every_tree_mixed :
    let column : List Text := ["1", "a \\\\ b"]
    let e : Expr := .operation .plus (.wrapped .norm (.vector .column column))
      (.operation .dot (.vector .column column) (.vector .row []))
    let e' : Expr := .operation .plus (.wrapped .norm (.matrix 2 1 [["1"], ["a \\\\ b"]]))
      (.operation .dot (.vector .column column) (.matrix 1 0 [[]]))
    ReplacesVectors e e' ∧ e'.markup = e.markup ∧ e'.nodeCount = e.nodeCount ∧
      e'.check = e.check ∧ e.check = .error .noCells := by
  intro column e e'
  have h : ReplacesVectors e e' :=
    .operation .plus (.wrapped .norm (.vector .column column))
      (.operation .dot (.same _) (.vector .row []))
  obtain ⟨hmarkup, hcount, hcheck⟩ := (vector_eq_matrix_in_every_tree column).2.2 e e' h
  exact ⟨h, hmarkup, hcount, hcheck, rfl⟩

end Expr

end MathNotes
