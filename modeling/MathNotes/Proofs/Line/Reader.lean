import Mathlib.Tactic.SplitIfs
import MathNotes.Line.Basic

/-!
# How literals are read

The reader of matrix literals goes character by character, so everything about it comes from what
one character does (`move`, `readFrom_cons`). Three facts are drawn from that.

* What follows a literal has no part in reading it (`read?_append`), and what is read is a grid
  whose cells can be spelled (`isSpellable_of_read?`).

* Of a spelling are read the cells that are not empty, if they have a shape (`opens?_print`); so
  every grid that can be spelled is read back from its spelling (`opens?_print_append`).

* The spelling of a grid with rows is a **barrier** (`read?_append_print`): a reading that is still
  unfinished where it begins breaks off in it. In whatever stage the reading is, the second of the
  two brackets that a literal begins with is one too many.
-/

namespace MathNotes.Literal

/-! ### One character -/

/-- What one character makes of a reading. -/
inductive Move where
  /-- The reading goes on, with the rows `above` and in this `stage`. -/
  | on (above : Grid) (stage : Stage)
  /-- The literal ends here, with the grid `cells`. -/
  | close (cells : Grid)
  /-- The character cannot stand here. -/
  | fail

/-- What a character makes of a reading with the rows `above` and in this `Stage`. -/
def move (above : Grid) : Stage → Char → Move
  | .rows, c =>
    if isAsciiBlank c then .on above .rows
    else if c = '[' then .on above (.cells [])
    else if c = ']' then .close above.reverse
    else .fail
  | .cells done, c =>
    if isAsciiBlank c then .on above (.cells done)
    else if c = ']' then .on (done.reverse :: above) .rows
    else if c = '[' then .fail
    else .on above (.content done [c])
  | .content done chars, c =>
    if isAsciiBlank c then .on above (.cells (chars.reverse :: done))
    else if c = ']' then .on ((chars.reverse :: done).reverse :: above) .rows
    else if c = '[' then .fail
    else .on above (.content done (c :: chars))

@[simp] theorem readFrom_nil (above : Grid) (stage : Stage) : readFrom above stage [] = none := by
  cases stage <;> rfl

/-- To read `c :: s` is to `move` by `c` and to read `s` from there. -/
theorem readFrom_cons (above : Grid) (stage : Stage) (c : Char) (s : Text) :
    readFrom above stage (c :: s) =
      match move above stage c with
      | .on above stage => readFrom above stage s
      | .close cells => some (cells, s)
      | .fail => none := by
  cases stage with
  | rows => rw [readFrom, move]; split_ifs <;> rfl
  | cells done => rw [readFrom, move]; split_ifs <;> rfl
  | content done chars => rw [readFrom, move]; split_ifs <;> rfl

/-! ### Readings that close -/

/-- Reading on, with these rows and in this stage, the text closes a literal with the grid `cells`,
and `rest` is left of it. -/
inductive Closes (cells : Grid) (rest : Text) : Grid → Stage → Text → Prop where
  | on {above above' : Grid} {stage stage' : Stage} {c : Char} {s : Text}
    (move_eq : move above stage c = .on above' stage')
    (closes : Closes cells rest above' stage' s) : Closes cells rest above stage (c :: s)
  | close {above : Grid} {stage : Stage} {c : Char}
    (move_eq : move above stage c = .close cells) : Closes cells rest above stage (c :: rest)

theorem readFrom_eq_some_iff {above : Grid} {stage : Stage} {s rest : Text} {cells : Grid} :
    readFrom above stage s = some (cells, rest) ↔ Closes cells rest above stage s := by
  constructor
  · intro h
    induction s generalizing above stage with
    | nil => simp at h
    | cons c s ih =>
      rw [readFrom_cons] at h
      cases hm : move above stage c with
      | on above' stage' =>
        rw [hm] at h
        exact .on hm (ih h)
      | close cells' =>
        rw [hm] at h
        obtain ⟨rfl, rfl⟩ : cells' = cells ∧ s = rest := by simpa using h
        exact .close hm
      | fail =>
        rw [hm] at h
        cases h
  · intro h
    induction h with
    | on hm _ ih => rw [readFrom_cons, hm, ← ih]
    | close hm => rw [readFrom_cons, hm]

/-- What follows a literal is left as it is: `t` is added to `rest`. -/
theorem Closes.append {above : Grid} {stage : Stage} {s rest : Text} {cells : Grid}
    (h : Closes cells rest above stage s) (t : Text) :
    Closes cells (rest ++ t) above stage (s ++ t) := by
  induction h with
  | on hm _ ih => exact .on hm ih
  | close hm => exact .close hm

theorem Closes.suffix {above : Grid} {stage : Stage} {s rest : Text} {cells : Grid}
    (h : Closes cells rest above stage s) : rest <:+ s := by
  induction h with
  | on _ _ ih => exact ih.trans (List.suffix_cons _ _)
  | close _ => exact List.suffix_cons _ _

/-- A reading that finds no literal in `s` has failed in it, whatever follows, or it is still
unfinished at its end and goes on with what follows. -/
theorem readFrom_append_of_none {above : Grid} {stage : Stage} {s : Text}
    (h : readFrom above stage s = none) :
    (∀ t, readFrom above stage (s ++ t) = none) ∨
      ∃ above' stage', ∀ t, readFrom above stage (s ++ t) = readFrom above' stage' t := by
  induction s generalizing above stage with
  | nil => exact .inr ⟨above, stage, fun t => rfl⟩
  | cons c s ih =>
    rw [readFrom_cons] at h
    simp only [List.cons_append, readFrom_cons]
    cases hm : move above stage c with
    | on above' stage' =>
      rw [hm] at h
      exact ih h
    | close cells =>
      -- a literal would have been found
      rw [hm] at h
      cases h
    | fail => exact .inl fun t => rfl

/-- A literal is read iff its brackets close (`Closes`) and its rows are equally long and not
empty. -/
theorem read?_eq_some_iff {s rest : Text} {cells : Grid} :
    read? s = some (cells, rest) ↔
      Closes cells rest [] .rows s ∧ isRectangular cells = true := by
  rw [read?, ← readFrom_eq_some_iff]
  cases readFrom [] .rows s with
  | none => simp
  | some found =>
    obtain ⟨cells', rest'⟩ := found
    by_cases hc : isRectangular cells' = true
    · simp only [hc, if_true, Option.some.injEq, Prod.mk.injEq]
      constructor
      · rintro ⟨rfl, rfl⟩
        exact ⟨⟨rfl, rfl⟩, hc⟩
      · exact And.left
    · simp only [hc, Option.some.injEq, Prod.mk.injEq]
      constructor
      · intro h
        cases h
      · rintro ⟨⟨rfl, rfl⟩, hc'⟩
        exact absurd hc' hc

/-- What follows a literal has no part in reading it: `t` is added to what is left. -/
theorem read?_append {s rest : Text} {cells : Grid} (h : read? s = some (cells, rest)) (t : Text) :
    read? (s ++ t) = some (cells, rest ++ t) := by
  rw [read?_eq_some_iff] at h ⊢
  exact ⟨h.1.append t, h.2⟩

/-! ### What a literal may hold -/

/-- The characters that a cell is made of: no ASCII blanks and no brackets. -/
def IsCellChar (c : Char) : Prop := isAsciiBlank c = false ∧ c ≠ '[' ∧ c ≠ ']'

/-- A text that can stand as a cell of a literal: at least one `IsCellChar` and nothing else. -/
structure IsCell (cell : Text) : Prop where
  ne_nil : cell ≠ []
  isCellChar : ∀ c ∈ cell, IsCellChar c

/-- A grid that can be spelled as a literal: there is a row and a column, the rows are equally long,
and each cell can stand in a literal (`IsCell`). -/
structure IsSpellable (cells : Grid) : Prop where
  ne_nil : cells ≠ []
  width_pos : 0 < cells.width
  length_row : ∀ row ∈ cells, row.length = cells.width
  isCell : ∀ row ∈ cells, ∀ cell ∈ row, IsCell cell

/-- What a reading holds can be spelled, as far as it has come: each cell is an `IsCell`. -/
def IsSound (above : Grid) (stage : Stage) : Prop :=
  (∀ row ∈ above, ∀ cell ∈ row, IsCell cell) ∧
    match stage with
    | .rows => True
    | .cells done => ∀ cell ∈ done, IsCell cell
    | .content done chars => (∀ cell ∈ done, IsCell cell) ∧ IsCell chars.reverse

theorem isCell_singleton {c : Char} (h : IsCellChar c) : IsCell [c] where
  ne_nil := List.cons_ne_nil c []
  isCellChar := by
    intro c' hc'
    rw [List.mem_singleton.mp hc']
    exact h

theorem isCell_concat {cell : Text} {c : Char} (hcell : IsCell cell) (hc : IsCellChar c) :
    IsCell (cell ++ [c]) where
  ne_nil := List.append_ne_nil_of_left_ne_nil hcell.ne_nil [c]
  isCellChar := by
    intro c' hc'
    rcases List.mem_append.mp hc' with hc' | hc'
    · exact hcell.isCellChar c' hc'
    · rw [List.mem_singleton.mp hc']
      exact hc

/-- One character keeps a sound reading sound: if `IsSound above stage`, then so it is after
`move`. -/
theorem isSound_of_move {above above' : Grid} {stage stage' : Stage} {c : Char}
    (hs : IsSound above stage) (hm : move above stage c = .on above' stage') :
    IsSound above' stage' := by
  obtain ⟨habove, hstage⟩ := hs
  have cellChar (hb : ¬ isAsciiBlank c = true) (hclose : ¬ c = ']') (hopen : ¬ c = '[') :
      IsCellChar c := ⟨by simpa using hb, hopen, hclose⟩
  cases stage with
  | rows =>
    rw [move] at hm
    split_ifs at hm <;> cases hm
    · exact ⟨habove, trivial⟩
    · -- a row begins, with no cells yet
      exact ⟨habove, by simp⟩
  | cells done =>
    rw [move] at hm
    split_ifs at hm with hb hclose hopen <;> cases hm
    · exact ⟨habove, hstage⟩
    · -- the row is closed
      refine ⟨List.forall_mem_cons.mpr ⟨?_, habove⟩, trivial⟩
      intro cell hcell
      exact hstage cell (List.mem_reverse.mp hcell)
    · -- a cell begins
      exact ⟨habove, hstage, isCell_singleton (cellChar hb hclose hopen)⟩
  | content done chars =>
    obtain ⟨hdone, hchars⟩ := hstage
    have hcells := List.forall_mem_cons.mpr ⟨hchars, hdone⟩
    rw [move] at hm
    split_ifs at hm with hb hclose hopen <;> cases hm
    · -- the cell ends at a blank
      exact ⟨habove, hcells⟩
    · -- the cell ends with its row
      refine ⟨List.forall_mem_cons.mpr ⟨?_, habove⟩, trivial⟩
      intro cell hcell
      exact hcells cell (List.mem_reverse.mp hcell)
    · refine ⟨habove, hdone, ?_⟩
      rw [List.reverse_cons]
      exact isCell_concat hchars (cellChar hb hclose hopen)

/-- A literal closes on the rows that have been read, which are `above` backwards. -/
theorem eq_reverse_of_move {above cells : Grid} {stage : Stage} {c : Char}
    (hm : move above stage c = .close cells) : cells = above.reverse := by
  cases stage with
  | rows => rw [move] at hm; split_ifs at hm; cases hm; rfl
  | cells done => rw [move] at hm; split_ifs at hm
  | content done chars => rw [move] at hm; split_ifs at hm

/-- A sound reading ends with a grid of which each cell `IsCell`. -/
theorem Closes.isCell {above : Grid} {stage : Stage} {s rest : Text} {cells : Grid}
    (h : Closes cells rest above stage s) (hs : IsSound above stage) :
    ∀ row ∈ cells, ∀ cell ∈ row, IsCell cell := by
  induction h with
  | on hm _ ih => exact ih (isSound_of_move hs hm)
  | close hm =>
    rw [eq_reverse_of_move hm]
    intro row hrow
    exact hs.1 row (List.mem_reverse.mp hrow)

theorem isRectangular_iff {cells : Grid} :
    isRectangular cells = true ↔ 0 < cells.width ∧ ∀ row ∈ cells, row.length = cells.width := by
  rw [isRectangular, Bool.and_eq_true, decide_eq_true_eq, List.all_eq_true, Nat.pos_iff_ne_zero]
  simp only [decide_eq_true_eq]

theorem isSpellable_of_read? {s rest : Text} {cells : Grid} (h : read? s = some (cells, rest)) :
    IsSpellable cells := by
  obtain ⟨hcloses, hrect⟩ := read?_eq_some_iff.mp h
  obtain ⟨hpos, hrows⟩ := isRectangular_iff.mp hrect
  refine ⟨?_, hpos, hrows, hcloses.isCell ⟨by simp, trivial⟩⟩
  rintro rfl
  exact absurd hpos (by simp [Grid.width])

/-! ### Reading a spelling back -/

/-- The cells of the grid, some of which may be empty, are made of characters that satisfy
`IsCellChar`. -/
def HasCellChars (cells : Grid) : Prop := ∀ row ∈ cells, ∀ cell ∈ row, ∀ c ∈ cell, IsCellChar c

/-- The cells of `row` that are not empty. A spelling tells of no others, since an empty cell leaves
nothing but one more space. -/
def filled (row : List Text) : List Text := row.filter (· ≠ [])

theorem filled_eq_self_iff {row : List Text} : filled row = row ↔ [] ∉ row := by
  rw [filled, List.filter_eq_self]
  constructor
  · intro h hnil
    exact of_decide_eq_true (h [] hnil) rfl
  · intro h cell hcell
    exact decide_eq_true (ne_of_mem_of_not_mem hcell h)

theorem map_filled_eq_self_iff {cells : Grid} :
    cells.map filled = cells ↔ ∀ row ∈ cells, [] ∉ row := by
  have hmap := List.map_inj_left (f := filled) (g := id) (l := cells)
  rw [List.map_id] at hmap
  rw [hmap]
  exact forall₂_congr fun _ _ => filled_eq_self_iff

/-- Inside a cell, the characters of `s` are added to it. -/
theorem readFrom_content_append (above : Grid) (done : List Text) (chars : Text) {s : Text}
    (h : ∀ c ∈ s, IsCellChar c) (t : Text) :
    readFrom above (.content done chars) (s ++ t) =
      readFrom above (.content done (s.reverse ++ chars)) t := by
  induction s generalizing chars with
  | nil => rfl
  | cons c s ih =>
    obtain ⟨hb, hopen, hclose⟩ := h c (List.mem_cons_self ..)
    have hs : ∀ c ∈ s, IsCellChar c := fun c' hc' => h c' (List.mem_cons_of_mem _ hc')
    rw [List.cons_append, readFrom, hb, if_neg Bool.false_ne_true, if_neg hclose, if_neg hopen,
      ih (c :: chars) hs, List.reverse_cons, List.append_assoc, List.singleton_append]

/-- A cell with a space after it is read as a cell, and an empty one not at all (`filled`). -/
theorem readFrom_cell_append (above : Grid) (done : List Text) {cell : Text}
    (h : ∀ c ∈ cell, IsCellChar c) (t : Text) :
    readFrom above (.cells done) (cell ++ ' ' :: t) =
      readFrom above (.cells ((filled [cell]).reverse ++ done)) t := by
  cases cell with
  | nil => rfl
  | cons c s =>
    obtain ⟨hb, hopen, hclose⟩ := h c (List.mem_cons_self ..)
    have hs : ∀ c ∈ s, IsCellChar c := fun c' hc' => h c' (List.mem_cons_of_mem _ hc')
    rw [List.cons_append, readFrom, hb, if_neg Bool.false_ne_true, if_neg hclose, if_neg hopen,
      readFrom_content_append above done [c] hs, readFrom, if_pos (by decide), List.reverse_append,
      List.reverse_reverse]
    rfl

/-- The cells of `row`, spelled with single spaces and a space at the end, are read as its `filled`
cells. -/
theorem readFrom_intercalate_append (above : Grid) (done : List Text) {row : List Text}
    (h : ∀ cell ∈ row, ∀ c ∈ cell, IsCellChar c) (t : Text) :
    readFrom above (.cells done) (List.intercalate [' '] row ++ ' ' :: t) =
      readFrom above (.cells ((filled row).reverse ++ done)) t := by
  induction row generalizing done with
  | nil => rfl
  | cons cell row ih =>
    obtain ⟨hcell, hrow⟩ := List.forall_mem_cons.mp h
    cases row with
    | nil =>
      rw [List.intercalate_singleton]
      exact readFrom_cell_append above done hcell t
    | cons next row =>
      have hfilled : filled (cell :: next :: row) = filled [cell] ++ filled (next :: row) :=
        List.filter_append [cell] (next :: row)
      rw [List.intercalate_cons_cons, List.append_assoc, List.append_assoc, List.singleton_append,
        readFrom_cell_append above done hcell, ih _ hrow, hfilled, List.reverse_append,
        List.append_assoc]

/-- Between rows, `printRow row` is read as the row of the `filled` cells. -/
theorem readFrom_printRow_append (above : Grid) {row : List Text}
    (h : ∀ cell ∈ row, ∀ c ∈ cell, IsCellChar c) (t : Text) :
    readFrom above .rows (printRow row ++ t) = readFrom (filled row :: above) .rows t := by
  have hspell : printRow row ++ t =
      '[' :: ' ' :: (List.intercalate [' '] row ++ ' ' :: ']' :: t) := by
    simp [printRow]
  have hopen : ∀ u, readFrom above .rows ('[' :: ' ' :: u) = readFrom above (.cells []) u :=
    fun u => rfl
  have hclose : ∀ done, readFrom above (.cells done) (']' :: t) =
      readFrom (done.reverse :: above) .rows t := fun done => rfl
  rw [hspell, hopen, readFrom_intercalate_append above [] h, hclose, List.append_nil,
    List.reverse_reverse]

/-- Between rows, the spellings of the rows of `cells`, with single spaces and a space at the end,
are read as the rows of their `filled` cells. -/
theorem readFrom_intercalate_printRow_append (above : Grid) {cells : Grid} (h : HasCellChars cells)
    (t : Text) :
    readFrom above .rows (List.intercalate [' '] (cells.map printRow) ++ ' ' :: t) =
      readFrom ((cells.map filled).reverse ++ above) .rows t := by
  have hspace : ∀ above, readFrom above .rows (' ' :: t) = readFrom above .rows t := fun _ => rfl
  induction cells generalizing above with
  | nil => rfl
  | cons row cells ih =>
    obtain ⟨hrow, hcells⟩ := List.forall_mem_cons.mp h
    cases cells with
    | nil =>
      rw [List.map_singleton, List.intercalate_singleton, readFrom_printRow_append above hrow,
        hspace]
      rfl
    | cons next cells =>
      have hblank : ∀ above u, readFrom above .rows (' ' :: u) = readFrom above .rows u :=
        fun _ _ => rfl
      rw [List.map_cons, List.map_cons, List.intercalate_cons_cons, List.append_assoc,
        List.append_assoc, readFrom_printRow_append above hrow, List.singleton_append, hblank,
        ← List.map_cons, ih (filled row :: above) hcells, List.map_cons (l := next :: cells),
        List.reverse_cons, List.append_assoc, List.singleton_append]

/-- What the spelling of a grid is read as: the grid of the cells that are not empty, if that has a
shape (`isRectangular`). -/
theorem read?_print {cells : Grid} (h : HasCellChars cells) (t : Text) :
    ∃ s, print cells ++ t = '[' :: ' ' :: s ∧ read? (' ' :: s) =
      if isRectangular (cells.map filled) then some (cells.map filled, t) else none := by
  refine ⟨List.intercalate [' '] (cells.map printRow) ++ ' ' :: ']' :: t, by simp [print], ?_⟩
  have hspace : ∀ u, readFrom [] .rows (' ' :: u) = readFrom [] .rows u := fun _ => rfl
  have hclose : ∀ above, readFrom above .rows (']' :: t) = some (above.reverse, t) := fun _ => rfl
  rw [read?, hspace, readFrom_intercalate_printRow_append [] h, hclose, List.append_nil,
    List.reverse_reverse]

/-! ### The barrier -/

/-- The spelling of a grid with rows begins with two brackets, and there is a space between them. -/
theorem print_eq_cons {cells : Grid} (h : cells ≠ []) :
    ∃ s, print cells = '[' :: ' ' :: '[' :: s := by
  obtain ⟨row, cells, rfl⟩ := List.exists_cons_of_ne_nil h
  cases cells with
  | nil => exact ⟨_, by simp [print, printRow]; rfl⟩
  | cons next cells => exact ⟨_, by simp [print, printRow, List.intercalate_cons_cons]; rfl⟩

/-- No unfinished reading comes through the spelling of a grid with rows: in whatever `stage` it is,
it fails there. -/
theorem readFrom_print_append {cells : Grid} (h : cells ≠ []) (above : Grid) (stage : Stage)
    (t : Text) : readFrom above stage (print cells ++ t) = none := by
  obtain ⟨s, hs⟩ := print_eq_cons h
  rw [hs]
  -- between rows the first bracket begins a row, in which the second one cannot stand
  cases stage with
  | rows => rfl
  | cells done => rfl
  | content done chars => rfl

/-- **The barrier.** In front of the spelling of a grid with rows, `read?` finds what it finds where
nothing follows. -/
theorem read?_append_print {cells : Grid} (h : cells ≠ []) (s t : Text) :
    read? (s ++ (print cells ++ t)) = (read? s).map (Prod.map id (· ++ (print cells ++ t))) := by
  cases hs : read? s with
  | some found => exact read?_append hs _
  | none =>
    rw [Option.map_none, Option.eq_none_iff_forall_ne_some]
    rintro ⟨cells', rest⟩ hlong
    obtain ⟨hcloses, hrect⟩ := read?_eq_some_iff.mp hlong
    have hr := readFrom_eq_some_iff.mpr hcloses
    cases hf : readFrom [] .rows s with
    | some inner =>
      -- the brackets close within `s`, so it must have been the shape that was wrong
      obtain ⟨cells'', rest''⟩ := inner
      have hinner := readFrom_eq_some_iff.mp hf
      rw [readFrom_eq_some_iff.mpr (hinner.append _), Option.some.injEq, Prod.mk.injEq] at hr
      obtain ⟨rfl, -⟩ := hr
      rw [read?_eq_some_iff.mpr ⟨hinner, hrect⟩] at hs
      cases hs
    | none =>
      rcases readFrom_append_of_none hf with hfail | ⟨above, stage, hon⟩
      · rw [hfail] at hr
        cases hr
      · -- the reading is unfinished where the spelling begins
        rw [hon, readFrom_print_append h] at hr
        cases hr

/-- A row that is unfinished where a literal begins breaks off at it. -/
example : read? " [ a b [ [ 1 ] ] ] ]".toList = none := by decide

end MathNotes.Literal

namespace MathNotes.Line

open Literal

/-! ### The bracket in front -/

/-- A literal opens iff there are a bracket and a space, and `Literal.read?` reads it from the space
on. -/
theorem opens?_eq_some_iff {s rest : Text} {cells : Grid} :
    opens? s = some (cells, rest) ↔
      ∃ u, s = '[' :: ' ' :: u ∧ Literal.read? (' ' :: u) = some (cells, rest) := by
  constructor
  · intro h
    unfold opens? at h
    split at h
    · exact ⟨_, rfl, h⟩
    · cases h
  · rintro ⟨u, rfl, h⟩
    exact h

/-- What follows a literal has no part in opening it: `t` is added to what is left. -/
theorem opens?_append {s rest : Text} {cells : Grid} (h : opens? s = some (cells, rest))
    (t : Text) : opens? (s ++ t) = some (cells, rest ++ t) := by
  obtain ⟨u, rfl, hu⟩ := opens?_eq_some_iff.mp h
  exact opens?_eq_some_iff.mpr ⟨u ++ t, rfl, Literal.read?_append hu t⟩

theorem suffix_of_opens? {s rest : Text} {cells : Grid} (h : opens? s = some (cells, rest)) :
    rest <:+ s := by
  obtain ⟨u, rfl, hu⟩ := opens?_eq_some_iff.mp h
  have hsuffix := (read?_eq_some_iff.mp hu).1.suffix
  exact hsuffix.trans (List.suffix_cons '[' (' ' :: u))

theorem isSpellable_of_opens? {s rest : Text} {cells : Grid}
    (h : opens? s = some (cells, rest)) : IsSpellable cells := by
  obtain ⟨u, rfl, hu⟩ := opens?_eq_some_iff.mp h
  exact isSpellable_of_read? hu

/-- The spelling of a grid opens a literal of the `filled` cells of its rows, if they have a
shape. -/
theorem opens?_print {cells : Grid} (h : HasCellChars cells) (t : Text) :
    opens? (Literal.print cells ++ t) =
      if isRectangular (cells.map filled) then some (cells.map filled, t) else none := by
  obtain ⟨u, hu, hread⟩ := read?_print h t
  rw [hu]
  exact hread

/-- A grid that can be spelled is read back from `Literal.print cells`, whatever follows. -/
theorem opens?_print_append {cells : Grid} (h : IsSpellable cells) (t : Text) :
    opens? (Literal.print cells ++ t) = some (cells, t) := by
  have hfilled : cells.map filled = cells :=
    map_filled_eq_self_iff.mpr fun row hrow hnil => (h.isCell row hrow [] hnil).ne_nil rfl
  rw [opens?_print fun row hrow cell hcell => (h.isCell row hrow cell hcell).isCellChar, hfilled,
    if_pos (isRectangular_iff.mpr ⟨h.width_pos, h.length_row⟩)]

/-- In front of the spelling of a grid with rows, a bracket opens what it opens where nothing
follows. -/
theorem opens?_append_print {cells : Grid} (h : cells ≠ []) {s : Text} (hs : s ≠ []) (t : Text) :
    opens? (s ++ (Literal.print cells ++ t)) =
      (opens? s).map (Prod.map id (· ++ (Literal.print cells ++ t))) := by
  cases hopen : opens? s with
  | some found => exact opens?_append hopen _
  | none =>
    rw [Option.map_none, Option.eq_none_iff_forall_ne_some]
    rintro ⟨cells', rest⟩ hlong
    obtain ⟨u, hu, hread⟩ := opens?_eq_some_iff.mp hlong
    match s with
    | [] => exact hs rfl
    | [c] =>
      -- a bracket at the end of the text is followed by a bracket and not by a space
      obtain ⟨v, hv⟩ := print_eq_cons h
      rw [hv] at hu
      exact absurd (List.cons.inj (List.cons.inj hu).2).1 (by decide)
    | c :: d :: s =>
      obtain ⟨rfl, htail⟩ := List.cons.inj hu
      obtain ⟨rfl, rfl⟩ := List.cons.inj htail
      have hbarrier := Literal.read?_append_print h (' ' :: s) t
      have hnone : Literal.read? (' ' :: s) = none := hopen
      rw [hnone, Option.map_none] at hbarrier
      exact absurd (hbarrier.symm.trans hread) (by simp)

end MathNotes.Line
