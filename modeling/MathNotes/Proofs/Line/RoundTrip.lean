import Mathlib.Data.List.Chain
import MathNotes.Proofs.Line.Decomposition

/-!
# Reading a line back from its spelling

Lines of elements that are spelled and lines of text that are parsed are the two sides of one
correspondence.

* Parsing, spelling and parsing again is parsing: `parse (print (parse t)) = parse t`
  (`parse_print_parse`). The literals may change their spelling on the way; the leftmost
  decomposition of the line stays the same but for that, since a literal is a barrier to every
  reading that begins before it.

* A line of elements comes back from its spelling iff it is well formed (`parse_print_eq_self_iff`).
  What is asked of a text (`IsWellFormed.text`) speaks of that text alone: which elements stand
  beside it makes no difference.
-/

namespace MathNotes.Line

open Literal

@[simp] theorem print_nil : print [] = [] := rfl

theorem print_cons (e : Element) (line : List Element) :
    print (e :: line) = printElement e ++ print line := List.flatMap_cons

theorem print_singleton_matrix (rows cols : Nat) (cells : Grid) :
    print [.matrix rows cols cells] = Literal.print cells := List.append_nil _

theorem textElements_of_ne_nil {content : Text} (h : content ≠ []) :
    textElements content = [.text content] := by
  rw [textElements, if_neg (by simpa using h)]

theorem print_textElements_append (content : Text) (line : List Element) :
    print (textElements content ++ line) = content ++ print line := by
  by_cases h : content = []
  · subst h
    rfl
  · rw [textElements_of_ne_nil h, List.singleton_append, print_cons, printElement]

/-! ### Spelling the literals anew -/

namespace Decomposition

/-- The decomposition with each literal spelled as `Literal.print` spells its grid. -/
def respelled : Decomposition → Decomposition
  | last content => last content
  | next content _ cells rest => next content (Literal.print cells) cells rest.respelled

theorem elements_respelled (d : Decomposition) : d.respelled.elements = d.elements := by
  induction d with
  | last content => rfl
  | next content spelling cells rest ih => rw [respelled, elements, elements, ih]

/-- The elements of `d` are spelled as `d` is with its literals spelled anew. -/
theorem print_elements (d : Decomposition) : print d.elements = d.respelled.source := by
  induction d with
  | last content =>
    have h := print_textElements_append content []
    rwa [List.append_nil, print_nil, List.append_nil] at h
  | next content spelling cells rest ih =>
    rw [elements, print_textElements_append, print_cons, ih]
    rfl

/-- Spelling the literals anew makes no bracket in a text open a literal, and no literal another
one. -/
theorem IsLeftmost.respelled {d : Decomposition} (h : d.IsLeftmost) : d.respelled.IsLeftmost := by
  induction d with
  | last content => exact h
  | next content spelling cells rest ih =>
    obtain ⟨hclear, hopen, hrest⟩ := h
    have hcells := isSpellable_of_opens? hopen
    exact ⟨isClear_print (isClear_nil_of_isClear hclear) hcells.ne_nil _,
      opens?_print_append hcells _, ih hrest⟩

theorem IsLeftmost.source_respelled_eq_nil_iff {d : Decomposition} (h : d.IsLeftmost) :
    d.respelled.source = [] ↔ d.source = [] := by
  rw [← elements_eq_nil_iff h.respelled, elements_respelled, elements_eq_nil_iff h]

end Decomposition

open Decomposition

/-- **Normalizing a line is stable.** `parse` of `print` of a parsed line gives the same elements
again. The leftmost decomposition `d` of the line, with its literals spelled anew, is the leftmost
decomposition of the new spelling: what opened no literal opens none now, and each literal is read
as the grid that it was. -/
theorem parse_print_parse (t : Text) :
    parse (print (parse t)) = parse t ∧
      ∃ d : Decomposition, d.source = t ∧ d.IsLeftmost ∧
        d.respelled.source = print (parse t) ∧ d.respelled.IsLeftmost := by
  obtain ⟨d, rfl, hd, -⟩ := exists_isLeftmost t
  have hprint : print (parse d.source) = d.respelled.source := by
    rw [parse_source hd, ← print_elements]
    by_cases hnil : d.source = []
    · -- the empty text that stands for the empty line is spelled as nothing
      rw [if_pos hnil, (elements_eq_nil_iff hd).mpr hnil]
      rfl
    · rw [if_neg hnil]
  refine ⟨?_, d, rfl, hd, hprint.symm, hd.respelled⟩
  rw [hprint, parse_source hd.respelled, parse_source hd, elements_respelled]
  simp only [hd.source_respelled_eq_nil_iff]

/-! ### Well-formed lines -/

/-- A matrix element that can be spelled: it has the shape `rows` by `cols` that it is said to have,
there is a cell in it, and each cell can stand in a literal (`IsCell`). -/
structure IsSpellableMatrix (rows cols : Nat) (cells : Grid) : Prop where
  length_cells : cells.length = rows
  rows_pos : 1 ≤ rows
  cols_pos : 1 ≤ cols
  length_row : ∀ row ∈ cells, row.length = cols
  isCell : ∀ row ∈ cells, ∀ cell ∈ row, IsCell cell

/-- No two texts are adjacent in `line`. -/
abbrev TextsApart (line : List Element) : Prop :=
  line.IsChain fun e f => ¬ (e.isText = true ∧ f.isText = true)

/-- A line of elements that can be told from its spelling. -/
structure IsWellFormed (line : List Element) : Prop where
  ne_nil : line ≠ []
  not_symbol : ∀ id glyph, Element.symbol id glyph ∉ line
  texts_apart : TextsApart line
  /-- An empty text is there only as the sole element. -/
  empty_alone : Element.text [] ∈ line → line = [.text []]
  /-- Each text is read as a text when it stands alone. -/
  text : ∀ content, Element.text content ∈ line → parse content = [.text content]
  matrix : ∀ rows cols cells, Element.matrix rows cols cells ∈ line →
    IsSpellableMatrix rows cols cells

/-- The elements that `parse` finds in a line that is not empty. -/
inductive IsReadable : Element → Prop
  | text {content : Text} (ne_nil : content ≠ []) (isClear : IsClear content []) :
    IsReadable (.text content)
  | matrix {cells : Grid} (isSpellable : IsSpellable cells) :
    IsReadable (.matrix cells.length cells.width cells)

theorem width_eq {cells : Grid} {cols : Nat} (hne : cells ≠ [])
    (h : ∀ row ∈ cells, row.length = cols) : cells.width = cols := by
  obtain ⟨row, cells, rfl⟩ := List.exists_cons_of_ne_nil hne
  exact h row (List.mem_cons_self ..)

theorem isSpellableMatrix_iff {rows cols : Nat} {cells : Grid} :
    IsSpellableMatrix rows cols cells ↔ IsReadable (.matrix rows cols cells) := by
  constructor
  · rintro ⟨rfl, hrows, hcols, hlength, hcell⟩
    have hne : cells ≠ [] := List.length_pos_iff.mp hrows
    obtain rfl := width_eq hne hlength
    exact .matrix ⟨hne, hcols, hlength, hcell⟩
  · rintro (_ | ⟨hne, hwidth, hlength, hcell⟩)
    exact ⟨rfl, List.length_pos_iff.mpr hne, hwidth, hlength, hcell⟩

/-- The text `content` is read as a text iff no bracket in it opens a literal (`IsClear`). -/
theorem parse_eq_text_iff {content : Text} :
    parse content = [.text content] ↔ IsClear content [] := by
  constructor
  · intro h
    obtain ⟨d, rfl, hd, -⟩ := exists_isLeftmost content
    rw [parse_source hd] at h
    cases d with
    | last content => exact hd
    | next content spelling cells rest =>
      have hne : (next content spelling cells rest).source ≠ [] := by
        intro hnil
        have hel := (elements_eq_nil_iff hd).mpr hnil
        rw [elements, List.append_eq_nil_iff] at hel
        cases hel.2
      -- a matrix is among the elements, but there is only a text
      rw [if_neg hne] at h
      have hmem : Element.ofGrid cells ∈ (next content spelling cells rest).elements :=
        List.mem_append_right _ (List.mem_cons_self ..)
      rw [h, List.mem_singleton] at hmem
      cases hmem
  · intro h
    have hlast : (last content).IsLeftmost := h
    have hparse := parse_source hlast
    rw [source, elements] at hparse
    rw [hparse]
    split
    · next hnil => rw [hnil]
    · next hne => exact textElements_of_ne_nil hne

theorem isWellFormed_emptyText : IsWellFormed [.text []] where
  ne_nil := List.cons_ne_nil _ _
  not_symbol := by simp
  texts_apart := List.isChain_singleton _
  empty_alone := fun _ => rfl
  text := by
    intro content hmem
    obtain rfl : content = [] := by simpa using hmem
    exact parse_eq_text_iff.mpr (isClear_nil [])
  matrix := by simp

theorem isWellFormed_of_isReadable {line : List Element} (hne : line ≠ [])
    (hreadable : ∀ e ∈ line, IsReadable e) (happart : TextsApart line) : IsWellFormed line where
  ne_nil := hne
  not_symbol := by
    intro id glyph hmem
    cases hreadable _ hmem
  texts_apart := happart
  empty_alone := by
    intro hmem
    cases hreadable _ hmem with
    | text hne _ => exact absurd rfl hne
  text := by
    intro content hmem
    cases hreadable _ hmem with
    | text _ hclear => exact parse_eq_text_iff.mpr hclear
  matrix := by
    intro rows cols cells hmem
    exact isSpellableMatrix_iff.mpr (hreadable _ hmem)

/-- A line is well formed iff it is the empty text, or it has elements, each of them readable and no
two adjacent ones texts. -/
theorem isWellFormed_iff {line : List Element} :
    IsWellFormed line ↔
      line = [.text []] ∨ line ≠ [] ∧ (∀ e ∈ line, IsReadable e) ∧ TextsApart line := by
  constructor
  · intro h
    by_cases hempty : Element.text [] ∈ line
    · exact .inl (h.empty_alone hempty)
    · refine .inr ⟨h.ne_nil, ?_, h.texts_apart⟩
      intro e he
      cases e with
      | text content =>
        refine .text ?_ (parse_eq_text_iff.mp (h.text content he))
        rintro rfl
        exact hempty he
      | matrix rows cols cells => exact isSpellableMatrix_iff.mp (h.matrix rows cols cells he)
      | symbol id glyph => exact absurd he (h.not_symbol id glyph)
  · rintro (rfl | ⟨hne, hreadable, happart⟩)
    · exact isWellFormed_emptyText
    · exact isWellFormed_of_isReadable hne hreadable happart

/-! ### The two directions -/

/-- Each element of a leftmost decomposition is readable (`IsReadable`). -/
theorem isReadable_of_mem_elements {d : Decomposition} (h : d.IsLeftmost) :
    ∀ e ∈ d.elements, IsReadable e := by
  have readable_text {content after : Text} (hclear : IsClear content after) :
      ∀ e ∈ textElements content, IsReadable e := by
    intro e he
    by_cases hnil : content = []
    · subst hnil
      cases he
    · rw [textElements_of_ne_nil hnil, List.mem_singleton] at he
      subst he
      exact .text hnil (isClear_nil_of_isClear hclear)
  induction d with
  | last content => exact readable_text h
  | next content spelling cells rest ih =>
    obtain ⟨hclear, hopen, hrest⟩ := h
    intro e he
    rcases List.mem_append.mp he with he | he
    · exact readable_text hclear e he
    · rcases List.mem_cons.mp he with rfl | he
      · exact .matrix (isSpellable_of_opens? hopen)
      · exact ih hrest e he

/-- In a decomposition a literal stands between each two texts, so `TextsApart` holds of its
elements. -/
theorem textsApart_elements (d : Decomposition) : TextsApart d.elements := by
  induction d with
  | last content =>
    rw [elements, textElements]
    split
    · exact .nil
    · exact List.isChain_singleton _
  | next content spelling cells rest ih =>
    have hmatrix : TextsApart (Element.ofGrid cells :: rest.elements) := by
      rw [TextsApart, List.isChain_cons]
      exact ⟨fun f _ h => Bool.false_ne_true h.1, ih⟩
    rw [elements, textElements]
    split
    · exact hmatrix
    · rw [TextsApart, List.singleton_append, List.isChain_cons_cons]
      exact ⟨fun h => Bool.false_ne_true h.2, hmatrix⟩

theorem isWellFormed_parse (t : Text) : IsWellFormed (parse t) := by
  obtain ⟨d, rfl, hd, -⟩ := exists_isLeftmost t
  rw [isWellFormed_iff, parse_source hd]
  by_cases hnil : d.source = []
  · exact .inl (if_pos hnil)
  · rw [if_neg hnil]
    have hne : d.elements ≠ [] := fun h => hnil ((elements_eq_nil_iff hd).mp h)
    exact .inr ⟨hne, isReadable_of_mem_elements hd, textsApart_elements d⟩

/-- Readable elements, no two adjacent ones texts, are those of a leftmost decomposition of their
spelling. A text is taken together with the matrix after it, which is the barrier that keeps the
text clear. -/
theorem exists_isLeftmost_print {line : List Element} (hreadable : ∀ e ∈ line, IsReadable e)
    (happart : TextsApart line) :
    ∃ d : Decomposition, d.source = print line ∧ d.IsLeftmost ∧ d.elements = line := by
  match line with
  | [] => exact ⟨last [], rfl, isClear_nil [], rfl⟩
  | .symbol id glyph :: _ => exact nomatch hreadable (.symbol id glyph) (List.mem_cons_self ..)
  | .matrix rows cols cells :: line =>
    obtain ⟨hmatrix, hline⟩ := List.forall_mem_cons.mp hreadable
    obtain ⟨d, hs, hd, rfl⟩ := exists_isLeftmost_print hline happart.tail
    cases hmatrix with
    | matrix hcells =>
      refine ⟨next [] (Literal.print cells) cells d, ?_, ⟨isClear_nil _, ?_, hd⟩, rfl⟩
      · rw [print_cons, ← hs]
        rfl
      · exact opens?_print_append hcells _
  | [.text content] =>
    cases hreadable _ (List.mem_cons_self ..) with
    | text hne hclear =>
      refine ⟨last content, ?_, hclear, textElements_of_ne_nil hne⟩
      rw [print_cons, print_nil, List.append_nil]
      rfl
  | .text content :: .text other :: _ =>
    exact absurd ⟨rfl, rfl⟩ (List.isChain_cons_cons.mp happart).1
  | .text _ :: .symbol id glyph :: _ =>
    exact nomatch hreadable (.symbol id glyph) (by simp)
  | .text content :: .matrix rows cols cells :: line =>
    obtain ⟨htext, htail⟩ := List.forall_mem_cons.mp hreadable
    obtain ⟨hmatrix, hline⟩ := List.forall_mem_cons.mp htail
    obtain ⟨d, hs, hd, rfl⟩ := exists_isLeftmost_print hline happart.tail.tail
    cases htext with
    | text hne hclear =>
      cases hmatrix with
      | matrix hcells =>
        refine ⟨next content (Literal.print cells) cells d, ?_,
          ⟨isClear_print hclear hcells.ne_nil _, opens?_print_append hcells _, hd⟩, ?_⟩
        · rw [print_cons, print_cons, ← hs]
          rfl
        · rw [elements, textElements_of_ne_nil hne]
          rfl

/-- **The domain of the round trip.** `parse` reads `line` back from `print line` iff it is well
formed. -/
theorem parse_print_eq_self_iff (line : List Element) :
    parse (print line) = line ↔ IsWellFormed line := by
  constructor
  · intro h
    rw [← h]
    exact isWellFormed_parse (print line)
  · intro h
    rcases isWellFormed_iff.mp h with rfl | ⟨hne, hreadable, happart⟩
    · exact parse_eq_text_iff.mpr (isClear_nil [])
    · obtain ⟨d, hs, hd, rfl⟩ := exists_isLeftmost_print hreadable happart
      have hsource : d.source ≠ [] := fun hnil => hne ((elements_eq_nil_iff hd).mpr hnil)
      rw [← hs, parse_source hd, if_neg hsource]

end MathNotes.Line
