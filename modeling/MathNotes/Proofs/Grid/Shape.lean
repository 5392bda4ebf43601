import MathNotes.Grid

/-!
# The shape of a grid

A grid has a shape if all its rows are equally long (`HasShape`). What is said here of the
operations on grids is said cell by cell:

* `check_eq_ok_iff`: a grid passes the check for a shape iff it has the shape and the shape has a
  cell, and `check_eq_error_iff` which defect it reports of a grid that does not pass.

* `hasShape_resize` and `cell?_resize`: whatever a grid looked like, once resized it has the shape
  asked for; a cell that stood within that shape stays, and the others are empty.

* `cell?_setCell_self` and `cell?_setCell_of_ne`: a text that is written to a cell stands there, if
  there is such a cell, and all other cells are as they were.
-/

namespace MathNotes.Grid

/-- The grid `cells` has `rows` rows of `cols` cells. -/
structure HasShape (rows cols : Nat) (cells : Grid) : Prop where
  length_eq : cells.length = rows
  length_row : ∀ row ∈ cells, row.length = cols

/-- The cell at `row` and `col`, if there is one. -/
def cell? (cells : Grid) (row col : Nat) : Option Text := cells[row]?.bind fun r => r[col]?

variable {rows cols : Nat} {cells : Grid}

/-! ### The check -/

/-- The index that `List.zipIdx` adds to a row has no part in what is asked of its length. -/
theorem forall_mem_zipIdx_iff (cols : Nat) (cells : Grid) :
    (∀ row ∈ cells.zipIdx, row.1.length = cols) ↔ ∀ row ∈ cells, row.length = cols := by
  constructor
  · intro h row hrow
    obtain ⟨i, hi⟩ := List.getElem?_of_mem hrow
    exact h (row, i) (List.mk_mem_zipIdx_iff_getElem?.mpr hi)
  · intro h row hrow
    exact h row.1 (List.fst_mem_of_mem_zipIdx hrow)

theorem find?_length_ne_eq_none_iff (cols : Nat) (cells : Grid) :
    cells.zipIdx.find? (fun row => row.1.length ≠ cols) = none ↔
      ∀ row ∈ cells, row.length = cols := by
  rw [List.find?_eq_none, ← forall_mem_zipIdx_iff]
  simp

/-- The search ends at the first row that has not `cols` cells. -/
theorem find?_length_ne_eq_some_iff {row : List Text} {index : Nat} :
    cells.zipIdx.find? (fun row => row.1.length ≠ cols) = some (row, index) ↔
      row.length ≠ cols ∧ ∃ above below, cells = above ++ row :: below ∧ above.length = index ∧
        ∀ r ∈ above, r.length = cols := by
  rw [List.find?_eq_some_iff_append, decide_eq_true_eq]
  simp only [Bool.not_eq_true', decide_eq_false_iff_not, ne_eq, Decidable.not_not]
  refine and_congr_right fun _ => ?_
  constructor
  · rintro ⟨front, back, hcells, hfront⟩
    obtain ⟨above, rest, rfl, rfl, hrest⟩ := List.zipIdx_eq_append_iff.mp hcells
    obtain ⟨row', below, rfl, hrow, -⟩ := List.zipIdx_eq_cons_iff.mp hrest.symm
    obtain ⟨rfl, rfl⟩ := Prod.mk.inj hrow
    exact ⟨above, below, rfl, (Nat.zero_add _).symm, (forall_mem_zipIdx_iff cols above).mp hfront⟩
  · rintro ⟨above, below, rfl, rfl, habove⟩
    refine ⟨above.zipIdx, below.zipIdx (above.length + 1), ?_,
      (forall_mem_zipIdx_iff cols above).mpr habove⟩
    rw [List.zipIdx_append, List.zipIdx_cons, Nat.zero_add]

theorem check_eq_ok_iff :
    cells.check rows cols = .ok () ↔ (rows ≠ 0 ∧ cols ≠ 0) ∧ cells.HasShape rows cols := by
  unfold check
  -- a case for each of the three things that are checked, in their order
  by_cases hempty : rows = 0 ∨ cols = 0
  · rw [if_pos hempty]
    refine ⟨nofun, fun ⟨⟨hrows, hcols⟩, _⟩ => ?_⟩
    exact (hempty.elim hrows hcols).elim
  have hcells : rows ≠ 0 ∧ cols ≠ 0 := not_or.mp hempty
  rw [if_neg hempty]
  by_cases hlength : cells.length = rows
  · rw [if_neg (not_not_intro hlength)]
    have hnone := find?_length_ne_eq_none_iff cols cells
    split
    · next row index hfind =>
      rw [hfind] at hnone
      refine ⟨nofun, fun ⟨_, hshape⟩ => ?_⟩
      cases hnone.mpr hshape.length_row
    · next hfind =>
      exact ⟨fun _ => ⟨hcells, hlength, hnone.mp hfind⟩, fun _ => rfl⟩
  · rw [if_pos hlength]
    refine ⟨nofun, fun ⟨_, hshape⟩ => ?_⟩
    exact (hlength hshape.length_eq).elim

/-- What is wrong with a grid that should have `rows` rows of `cols` cells. Of several things it is
the first: that there should be no cells at all, that the number of rows is another, and that a row
has another length, while the rows above it are as long as they should be. -/
inductive HasDefect (rows cols : Nat) : Grid → GridDefect → Prop
  | noCells {cells : Grid} (empty : rows = 0 ∨ cols = 0) : HasDefect rows cols cells .noCells
  | rowCount {cells : Grid} (nonempty : rows ≠ 0 ∧ cols ≠ 0) (length_ne : cells.length ≠ rows) :
    HasDefect rows cols cells (.rowCount rows cols cells.length)
  | rowLength {above below : Grid} {row : List Text} (nonempty : rows ≠ 0 ∧ cols ≠ 0)
    (length_eq : (above ++ row :: below).length = rows)
    (length_above : ∀ r ∈ above, r.length = cols) (length_ne : row.length ≠ cols) :
    HasDefect rows cols (above ++ row :: below) (.rowLength rows cols above.length row.length)

theorem check_eq_error_iff {defect : GridDefect} :
    cells.check rows cols = .error defect ↔ HasDefect rows cols cells defect := by
  unfold check
  -- as in `check_eq_ok_iff`; each case rules out the defects of the others
  by_cases hempty : rows = 0 ∨ cols = 0
  · rw [if_pos hempty, Except.error.injEq]
    constructor
    · rintro rfl
      exact .noCells hempty
    · rintro (_ | ⟨hcells, -⟩ | ⟨hcells, -, -, -⟩)
      · rfl
      · exact absurd hempty (not_or.mpr hcells)
      · exact absurd hempty (not_or.mpr hcells)
  have hcells : rows ≠ 0 ∧ cols ≠ 0 := not_or.mp hempty
  rw [if_neg hempty]
  by_cases hlength : cells.length = rows
  · rw [if_neg (not_not_intro hlength)]
    constructor
    · intro h
      split at h
      · next row index hfind =>
        cases h
        obtain ⟨hrow, above, below, rfl, rfl, habove⟩ := find?_length_ne_eq_some_iff.mp hfind
        exact .rowLength hcells hlength habove hrow
      · cases h
    · rintro (hno | ⟨-, hne⟩ | ⟨-, -, habove, hrow⟩)
      · exact absurd hno hempty
      · exact absurd hlength hne
      · rw [find?_length_ne_eq_some_iff.mpr ⟨hrow, _, _, rfl, rfl, habove⟩]
  · rw [if_pos hlength, Except.error.injEq]
    constructor
    · rintro rfl
      exact .rowCount hcells hlength
    · rintro (hno | ⟨-, -⟩ | ⟨-, hsame, -, -⟩)
      · exact absurd hno hempty
      · rfl
      · exact absurd hsame hlength

/-! ### Cutting and filling -/

/-- The list `fit size filler xs` holds what `xs` held as far as that reaches, and then `filler`. -/
theorem getElem?_fit {α : Type} (size : Nat) (filler : α) (xs : List α) (i : Nat) :
    (fit size filler xs)[i]? = if i < size then some (xs[i]?.getD filler) else none := by
  by_cases hsize : i < size
  · rw [if_pos hsize, fit]
    by_cases hlength : i < xs.length
    · have htake : i < (xs.take size).length := by
        rw [List.length_take]
        omega
      rw [List.getElem?_append_left htake, List.getElem?_take_of_lt hsize,
        List.getElem?_eq_getElem hlength, Option.getD_some]
    · -- the filler begins where the list has ended
      have htake : (xs.take size).length ≤ i := by
        rw [List.length_take]
        omega
      have hfill : i - (xs.take size).length < size - xs.length := by
        rw [List.length_take]
        omega
      rw [List.getElem?_append_right htake, List.getElem?_replicate, if_pos hfill,
        List.getElem?_eq_none (Nat.le_of_not_lt hlength), Option.getD_none]
  · rw [if_neg hsize, List.getElem?_eq_none]
    rw [length_fit]
    omega

theorem hasShape_blank (rows cols : Nat) : (blank rows cols).HasShape rows cols where
  length_eq := List.length_replicate
  length_row row hrow := by
    rw [List.eq_of_mem_replicate hrow, List.length_replicate]

theorem hasShape_resize (rows cols : Nat) (cells : Grid) :
    (cells.resize rows cols).HasShape rows cols where
  length_eq := by rw [resize, List.length_map, length_fit]
  length_row row hrow := by
    obtain ⟨r, _, rfl⟩ := List.mem_map.mp hrow
    exact length_fit cols [] r

/-- Within the shape asked for, a cell that was there stays and one that was not is empty. -/
theorem cell?_resize {row col : Nat} (hrow : row < rows) (hcol : col < cols) (cells : Grid) :
    (cells.resize rows cols).cell? row col = some ((cells.cell? row col).getD []) := by
  have hfit : (cells.resize rows cols)[row]? = some (fit cols [] (cells[row]?.getD [])) := by
    rw [resize, List.getElem?_map, getElem?_fit, if_pos hrow, Option.map_some]
  rw [cell?, hfit, Option.bind_some, getElem?_fit, if_pos hcol, cell?]
  cases cells[row]? with
  | none => rfl
  | some r => rfl

/-- There is a cell at the places within the shape, and nowhere else. -/
theorem HasShape.isSome_cell?_iff (h : cells.HasShape rows cols) {row col : Nat} :
    (cells.cell? row col).isSome = true ↔ row < rows ∧ col < cols := by
  rw [cell?, ← h.length_eq]
  by_cases hrow : row < cells.length
  · have hlength : cells[row].length = cols := h.length_row _ (List.getElem_mem hrow)
    rw [List.getElem?_eq_getElem hrow, Option.bind_some, isSome_getElem?, hlength]
    exact (and_iff_right hrow).symm
  · rw [List.getElem?_eq_none (Nat.le_of_not_lt hrow), Option.bind_none]
    exact iff_of_false nofun fun hin => hrow hin.1

/-- At any place, `resize` removes the cell, or keeps it, or puts an empty one. -/
theorem cell?_resize_eq_or (row col : Nat) (cells : Grid) :
    (cells.resize rows cols).cell? row col = none ∨
      (cells.resize rows cols).cell? row col = some ((cells.cell? row col).getD []) := by
  by_cases hin : row < rows ∧ col < cols
  · exact .inr (cell?_resize hin.1 hin.2 cells)
  · rw [← (hasShape_resize rows cols cells).isSome_cell?_iff, Option.not_isSome_iff_eq_none] at hin
    exact .inl hin

/-! ### Writing -/

/-- Where there is a cell, `setCell` replaces it by `content`. -/
theorem cell?_setCell_self (row col : Nat) (content : Text) (cells : Grid) :
    (cells.setCell row col content).cell? row col =
      (cells.cell? row col).map fun _ => content := by
  rw [cell?, cell?, setCell, List.getElem?_modify_eq]
  cases cells[row]? with
  | none => rfl
  | some r => exact List.getElem?_set_self' ..

/-- Every other cell stays as it is under `setCell`. -/
theorem cell?_setCell_of_ne {row col row' col' : Nat} (h : ¬ (row = row' ∧ col = col'))
    (content : Text) (cells : Grid) :
    (cells.setCell row col content).cell? row' col' = cells.cell? row' col' := by
  rw [cell?, cell?, setCell]
  by_cases hrow : row = row'
  · subst hrow
    rw [List.getElem?_modify_eq]
    cases cells[row]? with
    | none => rfl
    | some r => exact List.getElem?_set_ne fun hcol => h ⟨rfl, hcol⟩
  · rw [List.getElem?_modify_ne _ _ hrow]

/-- Where there is no cell, `setCell` writes nothing. -/
theorem setCell_eq_self {row col : Nat} (h : cells.cell? row col = none) (content : Text) :
    cells.setCell row col content = cells := by
  apply List.ext_getElem?
  intro i
  by_cases hrow : row = i
  · subst hrow
    rw [setCell, List.getElem?_modify_eq]
    cases hr : cells[row]? with
    | none => rfl
    | some r =>
      rw [cell?, hr, Option.bind_some] at h
      exact congrArg some (List.set_eq_of_length_le (List.getElem?_eq_none_iff.mp h))
  · rw [setCell, List.getElem?_modify_ne _ _ hrow]

theorem HasShape.setCell (h : cells.HasShape rows cols) (row col : Nat) (content : Text) :
    (cells.setCell row col content).HasShape rows cols where
  length_eq := by rw [Grid.setCell, List.length_modify, h.length_eq]
  length_row r hr := by
    obtain ⟨i, hi⟩ := List.getElem?_of_mem hr
    rw [Grid.setCell, List.getElem?_modify] at hi
    obtain ⟨r', hr', rfl⟩ := Option.map_eq_some_iff.mp hi
    have hlength : r'.length = cols := h.length_row r' (List.mem_of_getElem? hr')
    split
    · rw [List.length_set, hlength]
    · exact hlength

end MathNotes.Grid
