import MathNotes.Expr.Markup
import MathNotes.Proofs.Text.Delimited

/-!
# Grids are read back from their markup

The markup of a grid has nothing but separators between its cells, so it says where the cells end as
far as no cell can be taken for a separator.

* If cells are self-delimiting before separators, so are the lines of a grid before what is no
  separator (`selfDelimiting_lines`).

* A cell without `&` and without two backslashes in a row is self-delimiting before separators,
  whatever spaces and single backslashes it holds at its ends (`selfDelimiting_cell`). So two grids
  of such cells have the same markup only if they are the same grid (`markup_matrix_eq_iff`).
-/

namespace MathNotes.Grid

open Text

/-! ### Lines of cells -/

/-- The rows of a grid, as they stand in `Grid.markup` between `opening` and `closing`. -/
def lines (cells : Grid) : Text :=
  List.intercalate rowSeparator (cells.map (List.intercalate cellSeparator))

theorem markup_eq (cells : Grid) : cells.markup = opening ++ lines cells ++ closing := rfl

/-- The `lines` of a grid end before what is no separator, if its cells end before separators. -/
theorem selfDelimiting_lines {IsItem Ends : Text → Prop} (h : SelfDelimiting id IsItem Ends)
    (hcell : ∀ r, Ends (cellSeparator ++ r)) (hrow : ∀ r, Ends (rowSeparator ++ r)) :
    SelfDelimiting lines
      (fun cells => cells ≠ [] ∧ ∀ row ∈ cells, row ≠ [] ∧ ∀ cell ∈ row, IsItem cell)
      (fun r => (Ends r ∧ ¬ cellSeparator <+: r) ∧ ¬ rowSeparator <+: r) := by
  have hrows := h.intercalate cellSeparator hcell
  simp only [List.map_id] at hrows
  refine hrows.intercalate rowSeparator fun r => ⟨hrow r, ?_⟩
  exact not_prefix_of_isPrefixOf_eq_false rfl

/-! ### Cells that hold no separator -/

/-- The cell holds no `&` and no two backslashes in a row, of which one of the separators
consists. -/
structure HasNoMark (cell : Text) : Prop where
  not_mem : '&' ∉ cell
  not_infix : ¬ ['\\', '\\'] <:+: cell

/-- What may follow a cell: nothing, or what `cellSeparator` or `rowSeparator` begins with. -/
inductive CellEnds : Text → Prop
  | nil : CellEnds []
  | cell (r : Text) : CellEnds (' ' :: '&' :: r)
  | row (r : Text) : CellEnds (' ' :: '\\' :: '\\' :: r)

theorem CellEnds.eq_space {c : Char} {s : Text} (h : CellEnds (c :: s)) : c = ' ' := by
  cases h <;> rfl

/-- A cell may hold the space that a separator begins with, but not the mark behind it; so what
stands in front of the end of a cell and begins as `CellEnds` is no part of the cell. -/
theorem CellEnds.eq_nil_of_append {u s : Text} (h : CellEnds (u ++ s)) (hs : CellEnds s)
    (hu : HasNoMark u) : u = [] := by
  have hspace : ∀ c t, s = c :: t → c = ' ' := by
    rintro c t rfl
    exact hs.eq_space
  match u with
  | [] => rfl
  | [c] =>
    -- the space would be in the cell, and what follows the cell would begin with the mark
    cases h with
    | cell r => exact absurd (hspace _ _ rfl) (by decide)
    | row r => exact absurd (hspace _ _ rfl) (by decide)
  | [c, d] =>
    cases h with
    | cell r => exact absurd (by simp) hu.not_mem
    | row r => exact absurd (hspace _ _ rfl) (by decide)
  | c :: d :: e :: u =>
    cases h with
    | cell r => exact absurd (by simp) hu.not_mem
    | row r => exact absurd ⟨[' '], u, rfl⟩ hu.not_infix

theorem HasNoMark.of_append {v u : Text} (h : HasNoMark (v ++ u)) : HasNoMark u where
  not_mem hmem := h.not_mem (List.mem_append_right v hmem)
  not_infix hpart := h.not_infix (hpart.trans (List.suffix_append v u).isInfix)

theorem selfDelimiting_cell : SelfDelimiting id HasNoMark CellEnds := by
  intro v w r s hv hw hr hs heq
  rcases List.append_eq_append_iff.mp heq with ⟨u, hwu, rfl⟩ | ⟨u, hvu, rfl⟩
  · rw [id, id] at hwu
    obtain rfl := hr.eq_nil_of_append hs (HasNoMark.of_append (hwu ▸ hw))
    rw [List.append_nil] at hwu
    exact ⟨hwu.symm, rfl⟩
  · rw [id, id] at hvu
    obtain rfl := hs.eq_nil_of_append hr (HasNoMark.of_append (hvu ▸ hv))
    rw [List.append_nil] at hvu
    exact ⟨hvu, rfl⟩

/-! ### Grids of such cells -/

instance (cell : Text) : Decidable (HasNoMark cell) :=
  decidable_of_iff ('&' ∉ cell ∧ occursIn ['\\', '\\'] cell = false) <| by
    rw [← Bool.not_eq_true, occursIn_iff]
    exact ⟨fun h => ⟨h.1, h.2⟩, fun h => ⟨h.not_mem, h.not_infix⟩⟩

/-- A grid that can be told from its markup: there is a row, there is a cell in each row, and each
cell satisfies `HasNoMark`. The rows need not be equally long. -/
def IsLegible (cells : Grid) : Prop :=
  cells ≠ [] ∧ ∀ row ∈ cells, row ≠ [] ∧ ∀ cell ∈ row, HasNoMark cell

instance (cells : Grid) : Decidable (IsLegible cells) :=
  inferInstanceAs (Decidable (_ ∧ _))

theorem eq_of_lines_eq {cells cells' : Grid} (h : IsLegible cells) (h' : IsLegible cells')
    (heq : lines cells = lines cells') : cells = cells' := by
  have hlines := selfDelimiting_lines selfDelimiting_cell (fun r => .cell (' ' :: r))
    fun r => .row (' ' :: r)
  have hend : (CellEnds [] ∧ ¬ cellSeparator <+: []) ∧ ¬ rowSeparator <+: [] :=
    ⟨⟨.nil, not_prefix_of_isPrefixOf_eq_false rfl⟩, not_prefix_of_isPrefixOf_eq_false rfl⟩
  have happend : lines cells ++ [] = lines cells' ++ [] := by rw [heq]
  exact (hlines h h' hend hend happend).1

/-- **Grids are read back.** Two legible matrices have the same markup iff they have the same cells
in the same rows, whatever shapes (`rows`, `cols`) they are said to have. -/
theorem markup_matrix_eq_iff {cells cells' : Grid} (h : IsLegible cells) (h' : IsLegible cells')
    (rows cols rows' cols' : Nat) :
    (Expr.matrix rows cols cells).markup = (Expr.matrix rows' cols' cells').markup ↔
      cells = cells' := by
  constructor
  · intro heq
    have hmarkup : opening ++ lines cells ++ closing = opening ++ lines cells' ++ closing := heq
    exact eq_of_lines_eq h h' (List.append_cancel_left (List.append_cancel_right hmarkup))
  · rintro rfl
    rfl

/-- Backslashes and spaces at the ends of cells, and empty cells, are told from the separators
beside them. -/
theorem markup_matrix_ne_of_moved_cell :
    let cells : Grid := [["a\\".toList, []], [" \\".toList]]
    let moved : Grid := [["a\\".toList], [[], " \\".toList]]
    IsLegible cells ∧ IsLegible moved ∧ cells ≠ moved ∧
      (Expr.matrix 2 2 cells).markup ≠ (Expr.matrix 2 1 moved).markup := by
  intro cells moved
  have hcells : IsLegible cells := by decide
  have hmoved : IsLegible moved := by decide
  have hne : cells ≠ moved := by decide
  exact ⟨hcells, hmoved, hne, mt (markup_matrix_eq_iff hcells hmoved 2 2 2 1).mp hne⟩

/-- A row without cells cannot be told from a row with one empty cell. -/
example : (Expr.matrix 1 0 [[]]).markup = (Expr.matrix 1 1 [[[]]]).markup := rfl

end MathNotes.Grid
