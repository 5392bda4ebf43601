import MathNotes.Proofs.Line.RoundTrip

/-!
# A literal between two texts

The spelling of a matrix parts a line in two. What stands in front of it is read as if the line
ended there, however many literals it leaves unfinished, and what stands behind it as if the line
began there (`parse_append_print_matrix_append`): the two leftmost decompositions, joined by the
literal, are the leftmost decomposition of the whole line (`IsLeftmost.joined`).

The matrix comes back with the numbers of rows and columns that it has, since the spelling does not
say which ones it was said to have.
-/

namespace MathNotes.Line

open Literal

/-- A text that is clear before `after` stays clear if the spelling of a grid with rows follows
that. -/
theorem IsClear.append_print {content after : Text} {cells : Grid} (h : IsClear content after)
    (hcells : cells ≠ []) (t : Text) :
    IsClear content (after ++ (Literal.print cells ++ t)) := by
  intro before inner heq
  have hbarrier := opens?_append_print hcells (List.cons_ne_nil '[' (inner ++ after)) t
  rw [← List.append_assoc]
  rw [← List.cons_append, h before inner heq, Option.map_none] at hbarrier
  exact hbarrier

namespace Decomposition

/-- Two decompositions with the literal of a grid between them, spelled by `Literal.print`. -/
def joined : Decomposition → Grid → Decomposition → Decomposition
  | last content, cells, after => next content (Literal.print cells) cells after
  | next content spelling inner rest, cells, after =>
    next content spelling inner (rest.joined cells after)

theorem source_joined (d : Decomposition) (cells : Grid) (after : Decomposition) :
    (d.joined cells after).source = d.source ++ (Literal.print cells ++ after.source) := by
  induction d with
  | last content => rfl
  | next content spelling inner rest ih =>
    rw [joined, source, ih, source, List.append_assoc, List.append_assoc]

theorem elements_joined (d : Decomposition) (cells : Grid) (after : Decomposition) :
    (d.joined cells after).elements = d.elements ++ Element.ofGrid cells :: after.elements := by
  induction d with
  | last content => rfl
  | next content spelling inner rest ih =>
    rw [joined, elements, ih, elements, List.append_assoc]
    rfl

/-- Joined by a literal, leftmost decompositions `d` and `after` are a leftmost one. -/
theorem IsLeftmost.joined {d after : Decomposition} (h : d.IsLeftmost) {cells : Grid}
    (hcells : IsSpellable cells) (hafter : after.IsLeftmost) :
    (d.joined cells after).IsLeftmost := by
  induction d with
  | last content =>
    exact ⟨isClear_print h hcells.ne_nil _, opens?_print_append hcells _, hafter⟩
  | next content spelling inner rest ih =>
    obtain ⟨hclear, hopen, hrest⟩ := h
    refine ⟨?_, ?_, ih hrest⟩
    · rw [source_joined, ← List.append_assoc]
      exact hclear.append_print hcells.ne_nil _
    · rw [source_joined, ← List.append_assoc]
      exact opens?_append hopen _

end Decomposition

open Decomposition

/-- The elements of `line`, none if there is only the empty text. -/
def withoutSoleEmptyText (line : List Element) : List Element :=
  if line = [.text []] then [] else line

/-- Apart from the empty text that stands for the empty line, `parse` gives the elements of the
leftmost decomposition. -/
theorem withoutSoleEmptyText_parse_source {d : Decomposition} (h : d.IsLeftmost) :
    withoutSoleEmptyText (parse d.source) = d.elements := by
  rw [parse_source h]
  by_cases hnil : d.source = []
  · rw [if_pos hnil, (elements_eq_nil_iff h).mpr hnil]
    rfl
  · rw [if_neg hnil, withoutSoleEmptyText, if_neg]
    intro hempty
    cases isReadable_of_mem_elements h (.text []) (by rw [hempty]; exact List.mem_cons_self ..) with
    | text hne _ => exact hne rfl

/-- A line with a literal in it is parsed as what `t` and `u` are parsed as, with the matrix
between. -/
theorem parse_append_literal_append {cells : Grid} (h : IsSpellable cells) (t u : Text) :
    parse (t ++ (Literal.print cells ++ u)) =
      withoutSoleEmptyText (parse t) ++ Element.ofGrid cells :: withoutSoleEmptyText (parse u) := by
  obtain ⟨d, rfl, hd, -⟩ := exists_isLeftmost t
  obtain ⟨e, rfl, he, -⟩ := exists_isLeftmost u
  have hjoined := hd.joined h he
  have hne : (d.joined cells e).source ≠ [] := by
    intro hnil
    have helements := (elements_eq_nil_iff hjoined).mpr hnil
    rw [elements_joined] at helements
    exact absurd (List.append_eq_nil_iff.mp helements).2 (List.cons_ne_nil _ _)
  rw [← source_joined, parse_source hjoined, if_neg hne, elements_joined,
    withoutSoleEmptyText_parse_source hd, withoutSoleEmptyText_parse_source he]

theorem ofGrid_eq_matrix_iff {cells : Grid} {rows cols : Nat} :
    Element.ofGrid cells = .matrix rows cols cells ↔ rows = cells.length ∧ cols = cells.width := by
  rw [Element.ofGrid, Element.matrix.injEq]
  constructor
  · rintro ⟨hrows, hcols, -⟩
    exact ⟨hrows.symm, hcols.symm⟩
  · rintro ⟨hrows, hcols⟩
    exact ⟨hrows.symm, hcols.symm, rfl⟩

/-- **A literal is a barrier.** Whatever stands in front of the spelling of a matrix (`t`) and
behind it (`u`), the line is parsed as what stands in front, the matrix, and what stands behind,
each on its own. The matrix has the shape of its cells; so it is the one that was spelled iff that
one was said to have this shape. -/
theorem parse_append_print_matrix_append (t u : Text) (rows cols : Nat) {cells : Grid}
    (h : IsSpellable cells) :
    parse (t ++ (print [.matrix rows cols cells] ++ u)) =
        withoutSoleEmptyText (parse t) ++
          Element.ofGrid cells :: withoutSoleEmptyText (parse u) ∧
      (parse (t ++ (print [.matrix rows cols cells] ++ u)) =
          withoutSoleEmptyText (parse t) ++
            .matrix rows cols cells :: withoutSoleEmptyText (parse u) ↔
        rows = cells.length ∧ cols = cells.width) := by
  rw [print_singleton_matrix, parse_append_literal_append h]
  refine ⟨rfl, ?_⟩
  rw [List.append_right_inj, List.cons.injEq, and_iff_left rfl, ofGrid_eq_matrix_iff]

theorem isSpellable_singleton {cell : Text} (h : IsCell cell) : IsSpellable [[cell]] where
  ne_nil := List.cons_ne_nil _ _
  width_pos := Nat.one_pos
  length_row := by simp [Grid.width]
  isCell := by simpa using h

/-- The row that is open in front of the literal takes nothing of it, and the brackets behind it
close nothing. -/
theorem parse_append_print_matrix_append_open_row :
    IsSpellable [["1".toList]] ∧
      parse ("[ [ a ".toList ++ (print [.matrix 1 1 [["1".toList]]] ++ " ] ]".toList)) =
        [.text "[ [ a ".toList, .matrix 1 1 [["1".toList]], .text " ] ]".toList] := by
  have hcell : IsSpellable [["1".toList]] :=
    isSpellable_singleton ⟨by decide, by simp [IsCellChar, isAsciiBlank]⟩
  have hfront : parse "[ [ a ".toList = [.text "[ [ a ".toList] := by cbv
  have hback : parse " ] ]".toList = [.text " ] ]".toList] := by cbv
  refine ⟨hcell, ?_⟩
  rw [(parse_append_print_matrix_append _ _ 1 1 hcell).1, hfront, hback]
  rfl

/-- A matrix whose `rows` and `cols` are not the shape of its cells does not come back. -/
theorem not_forall_parse_append_print_matrix_append :
    ¬ ∀ (t u : Text) (rows cols : Nat) (cells : Grid), IsSpellable cells →
      parse (t ++ (print [.matrix rows cols cells] ++ u)) =
        withoutSoleEmptyText (parse t) ++
          .matrix rows cols cells :: withoutSoleEmptyText (parse u) := by
  intro h
  have hcell : IsSpellable [["1".toList]] :=
    isSpellable_singleton ⟨by decide, by simp [IsCellChar, isAsciiBlank]⟩
  have hwrong := h [] [] 5 7 [["1".toList]] hcell
  have hparse : parse ([] ++ (print [.matrix 5 7 [["1".toList]]] ++ [])) =
      [.matrix 1 1 [["1".toList]]] := by cbv
  have hempty : parse [] = [.text []] := by cbv
  rw [hparse, hempty] at hwrong
  exact absurd hwrong (by decide)

end MathNotes.Line
