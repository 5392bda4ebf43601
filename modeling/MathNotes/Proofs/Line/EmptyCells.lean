import MathNotes.Palette
import MathNotes.Proofs.Grid.Shape
import MathNotes.Proofs.Line.Barrier
import MathNotes.Proofs.Text.Delimited

/-!
# Matrices with empty cells

A cell that is empty leaves nothing in the spelling of its matrix but one more space, and blanks
between cells are passed over when the spelling is read. So what is read is the grid of the cells
that are not empty (`filled`), if its rows are equally long (`parse_literal_print`). If they are
not, no bracket of the spelling opens anything: the outer one does not, and after each of the others
the next bracket is one that closes (`isClear_literal_print`).

A matrix that passes `Element.check` thus comes back from its spelling iff none of its cells is
empty, and the matrices that the palette inserts never do (`parse_print_matrix_of_check`).
-/

namespace MathNotes.Line

open Literal

/-! ### Brackets that open nothing -/

theorem isClear_of_not_mem {content : Text} (h : '[' ∉ content) (after : Text) :
    IsClear content after := by
  rintro before inner rfl
  exact absurd (List.mem_append_right _ (List.mem_cons_self ..)) h

/-- If `x` is clear before `y` and `y` is clear, they are clear one after the other. -/
theorem isClear_append {x y after : Text} (hx : IsClear x (y ++ after)) (hy : IsClear y after) :
    IsClear (x ++ y) after := by
  induction x with
  | nil => exact hy
  | cons c x ih =>
    have hclear : IsClear ([] ++ c :: x) (y ++ after) := hx
    have hc : opens? (c :: (x ++ (y ++ after))) = none :=
      opens?_of_isClear hclear (List.cons_ne_nil c x)
    rw [← List.append_assoc] at hc
    refine isClear_cons hc (ih fun before inner heq => ?_)
    exact hx (c :: before) inner (congrArg (c :: ·) heq)

theorem isClear_intercalate {separator : Text} {texts : List Text}
    (hseparator : ∀ after, IsClear separator after) (h : ∀ s ∈ texts, ∀ after, IsClear s after)
    (after : Text) : IsClear (List.intercalate separator texts) after := by
  induction texts with
  | nil => exact isClear_nil after
  | cons s texts ih =>
    obtain ⟨hs, htexts⟩ := List.forall_mem_cons.mp h
    cases texts with
    | nil =>
      rw [List.intercalate_singleton]
      exact hs after
    | cons t texts =>
      rw [List.intercalate_cons_cons]
      exact isClear_append (isClear_append (hs _) (hseparator _)) (ih htexts)

/-- Where the next bracket closes, no row is read, so a literal that ended there would have none. -/
theorem eq_nil_of_readFrom_close {w rest after : Text} {cells : Grid} (hw : '[' ∉ w)
    (h : readFrom [] .rows (w ++ ']' :: rest) = some (cells, after)) : cells = [] := by
  induction w with
  | nil =>
    obtain ⟨rfl, -⟩ := Prod.mk.inj (Option.some.inj h)
    rfl
  | cons c w ih =>
    rw [List.mem_cons, not_or] at hw
    rw [List.cons_append, readFrom] at h
    split_ifs at h with hblank hopen hclose
    · exact ih hw.2 h
    · exact absurd hopen.symm hw.1
    · obtain ⟨rfl, -⟩ := Prod.mk.inj (Option.some.inj h)
      rfl

/-- A bracket after which the next bracket closes opens no literal. -/
theorem opens?_close {w : Text} (hw : '[' ∉ w) (rest : Text) :
    opens? ('[' :: (w ++ ']' :: rest)) = none := by
  rw [Option.eq_none_iff_forall_ne_some]
  rintro ⟨cells, after⟩ hsome
  obtain ⟨u, hu, hread⟩ := opens?_eq_some_iff.mp hsome
  rw [← (List.cons.inj hu).2] at hread
  obtain ⟨hcloses, -⟩ := read?_eq_some_iff.mp hread
  have hcells : cells = [] := eq_nil_of_readFrom_close hw (readFrom_eq_some_iff.mpr hcloses)
  exact (isSpellable_of_read? hread).ne_nil hcells

theorem isClear_printRow {row : List Text} (h : ∀ cell ∈ row, ∀ c ∈ cell, IsCellChar c)
    (after : Text) : IsClear (printRow row) after := by
  have hjoin : '[' ∉ List.intercalate [' '] row := fun hmem => by
    rcases Text.mem_or_exists_mem_of_mem_intercalate hmem with hspace | ⟨cell, hcell, hmem⟩
    · exact absurd hspace (by decide)
    · exact (h cell hcell '[' hmem).2.1 rfl
  have hw : '[' ∉ ' ' :: (List.intercalate [' '] row ++ [' ']) := by simp [hjoin]
  have hrow : printRow row = '[' :: (' ' :: (List.intercalate [' '] row ++ [' ']) ++ [']']) := by
    simp [printRow]
  rw [hrow]
  -- the bracket of the row is its only one that could open something
  refine isClear_cons ?_ (isClear_of_not_mem (by simp [hjoin]) after)
  rw [List.append_assoc]
  exact opens?_close hw after

/-- If the outer bracket of `Literal.print cells` opens nothing, no bracket in it does. -/
theorem isClear_literal_print {cells : Grid} (h : HasCellChars cells)
    (hopen : opens? (Literal.print cells) = none) : IsClear (Literal.print cells) [] := by
  have hprint : Literal.print cells =
      '[' :: ([' '] ++ List.intercalate [' '] (cells.map printRow) ++ " ]".toList) := rfl
  have hspace : ∀ after, IsClear [' '] after := isClear_of_not_mem (by decide)
  rw [hprint] at hopen ⊢
  refine isClear_cons (by rwa [List.append_nil]) ?_
  refine isClear_append (isClear_append (hspace _) (isClear_intercalate hspace ?_ _))
    (isClear_of_not_mem (by decide) _)
  intro s hs
  obtain ⟨row, hrow, rfl⟩ := List.mem_map.mp hs
  exact isClear_printRow (h row hrow)

/-! ### What is read of a spelling -/

/-- The spelling of a matrix is read as the matrix of its `filled` cells, if that has a shape, and
else as a text. -/
theorem parse_literal_print {cells : Grid} (h : HasCellChars cells) :
    parse (Literal.print cells) =
      if isRectangular (cells.map filled) then [.ofGrid (cells.map filled)]
      else [.text (Literal.print cells)] := by
  have hopen := opens?_print h []
  by_cases hrect : isRectangular (cells.map filled) = true
  · -- the line is the literal and nothing else
    rw [if_pos hrect] at hopen ⊢
    let d : Decomposition := .next [] (Literal.print cells) (cells.map filled) (.last [])
    have hd : d.IsLeftmost := ⟨isClear_nil _, hopen, isClear_nil _⟩
    have hsource : d.source = Literal.print cells := List.append_nil _
    have hne : d.source ≠ [] := by
      rw [hsource]
      exact List.cons_ne_nil _ _
    rw [← hsource, parse_source hd, if_neg hne]
    rfl
  · rw [if_neg hrect] at hopen ⊢
    rw [List.append_nil] at hopen
    exact parse_eq_text_iff.mpr (isClear_literal_print h hopen)

theorem hasCellChars_blank (rows cols : Nat) : HasCellChars (Grid.blank rows cols) := by
  intro row hrow cell hcell c hc
  obtain rfl := List.eq_of_mem_replicate hrow
  obtain rfl := List.eq_of_mem_replicate hcell
  cases hc

/-- The matrix `Element.blankMatrix rows cols` is read back as a text. -/
theorem parse_print_blankMatrix (rows cols : Nat) :
    parse (print [.blankMatrix rows cols]) = [.text (print [.blankMatrix rows cols])] := by
  have hfilled : (Grid.blank rows cols).map filled = List.replicate rows [] := by
    rw [Grid.blank, List.map_replicate, filled, List.filter_replicate_of_neg (by decide)]
  -- the rows that are left have no cells
  have hrect : isRectangular (List.replicate rows []) ≠ true := by
    intro h
    have hwidth := (isRectangular_iff.mp h).1
    cases rows <;> exact absurd hwidth (Nat.lt_irrefl 0)
  rw [Element.blankMatrix, print_singleton_matrix,
    parse_literal_print (hasCellChars_blank rows cols), hfilled, if_neg hrect]

/-! ### Matrices that pass the check -/

/-- A matrix that passes `check` has the shape of its cells. -/
theorem isRectangular_and_ofGrid_eq_of_check {rows cols : Nat} {cells : Grid}
    (h : (Element.matrix rows cols cells).check = .ok ()) :
    isRectangular cells = true ∧ Element.ofGrid cells = .matrix rows cols cells := by
  obtain ⟨⟨hrows, hcols⟩, hshape⟩ := Grid.check_eq_ok_iff.mp h
  have hne : cells ≠ [] := by
    rintro rfl
    exact hrows hshape.length_eq.symm
  have hwidth : cells.width = cols := width_eq hne hshape.length_row
  constructor
  · refine isRectangular_iff.mpr ⟨by omega, fun row hrow => ?_⟩
    exact (hshape.length_row row hrow).trans hwidth.symm
  · exact ofGrid_eq_matrix_iff.mpr ⟨hshape.length_eq.symm, hwidth.symm⟩

instance (e : Element) : Decidable (e.check = .ok ()) :=
  match e.check with
  | .ok () => isTrue rfl
  | .error _ => isFalse nofun

theorem check_element_of_mem_commands : ∀ c ∈ Palette.commands, c.element.check = .ok () := by
  decide +kernel

/-- **Empty cells.** A matrix that passes `check`, with characters of cells only, is spelled so that
the `filled` cells are read, as a matrix if they have a shape and as a text if not. It comes back
iff none of its cells is empty. So the matrices that the palette inserts, which pass the check, are
all read back as a text. -/
theorem parse_print_matrix_of_check {rows cols : Nat} {cells : Grid}
    (hcheck : (Element.matrix rows cols cells).check = .ok ()) (h : HasCellChars cells) :
    parse (print [.matrix rows cols cells]) =
        (if isRectangular (cells.map filled) then [.ofGrid (cells.map filled)]
        else [.text (print [.matrix rows cols cells])]) ∧
      (parse (print [.matrix rows cols cells]) = [.matrix rows cols cells] ↔
        ∀ row ∈ cells, [] ∉ row) ∧
      ∀ c ∈ Palette.commands, ∀ rows cols, c.action = .insertMatrix rows cols →
        c.element.check = .ok () ∧ parse (print [c.element]) = [.text (print [c.element])] := by
  rw [print_singleton_matrix, parse_literal_print h]
  refine ⟨rfl, ?_, ?_⟩
  · rw [← map_filled_eq_self_iff]
    constructor
    · intro heq
      -- a matrix came back, so it is the one that was read
      split at heq
      · obtain ⟨-, -, hcells⟩ := Element.matrix.inj (List.cons.inj heq).1
        exact hcells
      · cases heq
    · intro hfilled
      obtain ⟨hrect, hgrid⟩ := isRectangular_and_ofGrid_eq_of_check hcheck
      rw [hfilled, if_pos hrect, hgrid]
  · intro c hc rows cols haction
    have helement : c.element = .blankMatrix rows cols := by rw [Command.element, haction]
    refine ⟨check_element_of_mem_commands c hc, ?_⟩
    rw [helement]
    exact parse_print_blankMatrix rows cols

/-- The `square` with two empty cells is read back as a column, the square that is full as itself,
and the column that the palette inserts as a text. -/
theorem parse_print_matrix_diagonal :
    let square : Grid := [["", "x"], ["y", ""]]
    let full : Grid := [["1", "x"], ["y", "1"]]
    let column : Command := .matrix "insert-vector-2" "vector 2D" "Insert a 2D column vector" 2 1
    ((Element.matrix 2 2 square).check = .ok () ∧ HasCellChars square) ∧
      parse (print [.matrix 2 2 square]) = [.matrix 2 1 [["x"], ["y"]]] ∧
      ((Element.matrix 2 2 full).check = .ok () ∧ HasCellChars full) ∧
      parse (print [.matrix 2 2 full]) = [.matrix 2 2 full] ∧
      column ∈ Palette.commands ∧
      parse (print [column.element]) = [.text (print [column.element])] := by
  intro square full column
  have hsquare : (Element.matrix 2 2 square).check = .ok () ∧ HasCellChars square :=
    ⟨rfl, by simp [square, HasCellChars, IsCellChar, isAsciiBlank]⟩
  have hfull : (Element.matrix 2 2 full).check = .ok () ∧ HasCellChars full :=
    ⟨rfl, by simp [full, HasCellChars, IsCellChar, isAsciiBlank]⟩
  have hcolumn : column ∈ Palette.commands := by decide
  obtain ⟨hread, -, hpalette⟩ := parse_print_matrix_of_check hsquare.1 hsquare.2
  obtain ⟨-, hback, -⟩ := parse_print_matrix_of_check hfull.1 hfull.2
  exact ⟨hsquare, hread, hfull, hback.mpr (by decide), hcolumn, (hpalette column hcolumn 2 1 rfl).2⟩

/-- That a matrix passes `check`, and that there is neither a blank nor a bracket in its cells, is
not enough for it to come back. -/
theorem not_forall_parse_print_matrix :
    ¬ ∀ (rows cols : Nat) (cells : Grid), (Element.matrix rows cols cells).check = .ok () →
      (∀ row ∈ cells, ∀ cell ∈ row, ∀ c ∈ cell, isBlank c = false ∧ c ≠ '[' ∧ c ≠ ']') →
      parse (print [.matrix rows cols cells]) = [.matrix rows cols cells] := by
  intro h
  have hwrong := h 2 2 (Grid.blank 2 2) rfl (by simp [Grid.blank])
  have htext := parse_print_blankMatrix 2 2
  rw [Element.blankMatrix, hwrong] at htext
  cases htext

end MathNotes.Line
