import Mathlib.Data.Subtype
import MathNotes.Proofs.Line.Reader
import MathNotes.Proofs.Text.Delimited

/-!
# The grammar of matrix literals

With `_` for a run of ASCII blanks, the grammar is

    matrix := '[' ' ' _? row (_? row)* _? ']'
    row    := '[' _? cell (_ cell)* _? ']'
    cell   := one or more characters other than ASCII blanks, '[' and ']'

Its derivations are values here: a row and a matrix are both a `Sequence` of items, with blanks in
front, between and behind. A derivation has a spelling and a grid.

* Whatever follows, a spelling can be told from it, and the derivation from the spelling
  (`selfDelimiting_spelling`): the grammar is unambiguous.
* A derivation is read as its grid (`readFrom_spelling_append`), and what is read has a derivation
  (`Closes.isDerived`). The second goes by the characters: in each stage of a reading, the text that
  is left finishes what the stage has begun.
-/

namespace MathNotes.Literal

open Text

/-! ### Derivations -/

/-- The `_?` of the grammar, a run of blanks that may be missing. -/
abbrev Gap := {s : Text // ∀ c ∈ s, isAsciiBlank c = true}

/-- The `_` of the grammar, a run of blanks. -/
abbrev Blanks := {s : Text // IsWord isAsciiBlank s}

/-- The `cell` of the grammar. -/
abbrev Cell := {s : Text // IsCell s}

/-- The form `_? item (_ item)* _? ']'` of rows and matrices, where the type `γ` says what may stand
between two items. -/
@[ext] structure Sequence (γ α : Type) where
  lead : Gap
  first : α
  others : List (γ × α)
  trail : Gap

namespace Sequence

variable {γ α : Type}

/-- The items of the sequence `q`, in order. -/
def items (q : Sequence γ α) : List α := q.first :: q.others.map (·.2)

/-- The spelling of items, each with what stands in front of it by `between`. -/
def spellOthers (between : γ → Text) (spell : α → Text) (others : List (γ × α)) : Text :=
  others.flatMap fun p => between p.1 ++ spell p.2

/-- The end of a sequence: the blanks `trail` and the closing bracket. -/
def spellEnd (trail : Gap) : Text := trail.1 ++ [']']

/-- The spelling of the sequence `q`, given by `between` and `spell` for its parts. -/
def spelling (between : γ → Text) (spell : α → Text) (q : Sequence γ α) : Text :=
  q.lead.1 ++ (spell q.first ++ (spellOthers between spell q.others ++ spellEnd q.trail))

end Sequence

/-- The `row` of the grammar, without the bracket that opens it. -/
abbrev Row := Sequence Blanks Cell

namespace Row

def spelling (r : Row) : Text := '[' :: Sequence.spelling Subtype.val Subtype.val r

def cells (r : Row) : List Text := r.items.map Subtype.val

end Row

/-- The `matrix` of the grammar, without the bracket that opens it and the space. -/
abbrev Derivation := Sequence Gap Row

namespace Derivation

def spelling (d : Derivation) : Text := '[' :: ' ' :: Sequence.spelling Subtype.val Row.spelling d

def grid (d : Derivation) : Grid := d.items.map Row.cells

end Derivation

/-! ### The grammar is unambiguous -/

/-- Blanks can be told from a text that does not begin with a blank. -/
theorem gap_eq_of_append_eq {g h : Gap} {r s : Text} (hr : StartsOutside isAsciiBlank r)
    (hs : StartsOutside isAsciiBlank s) (heq : g.1 ++ r = h.1 ++ s) : g = h ∧ r = s := by
  have htake (g : Gap) {r : Text} (hr : StartsOutside isAsciiBlank r) :
      (g.1 ++ r).takeWhile isAsciiBlank = g.1 := by
    rw [List.takeWhile_append_of_pos g.2, takeWhile_eq_nil_of_startsOutside hr, List.append_nil]
  have hgap : g.1 = h.1 := by rw [← htake g hr, heq, htake h hs]
  rw [hgap] at heq
  exact ⟨Subtype.ext hgap, List.append_cancel_left heq⟩

namespace Sequence

variable {γ α : Type} {between : γ → Text} {spell : α → Text} {Ends : Text → Prop}

/-- What is asked of the parts of a sequence. An item ends before what may follow it (`Ends`), and
it begins with no blank and no closing bracket. -/
structure IsTellable (between : γ → Text) (spell : α → Text) (Ends : Text → Prop) : Prop where
  between_injective : Function.Injective between
  isAsciiBlank_between : ∀ g, ∀ c ∈ between g, isAsciiBlank c = true
  selfDelimiting : SelfDelimiting spell (fun _ => True) Ends
  exists_spell_eq_cons : ∀ x, ∃ c t, spell x = c :: t ∧ isAsciiBlank c = false ∧ c ≠ ']'
  ends_between : ∀ g t, Ends (between g ++ t)
  ends_spellEnd : ∀ trail t, Ends (spellEnd trail ++ t)

theorem spellOthers_cons_append (g : γ) (x : α) (others : List (γ × α)) (t : Text) :
    spellOthers between spell ((g, x) :: others) ++ t =
      between g ++ (spell x ++ (spellOthers between spell others ++ t)) := by
  rw [spellOthers, List.flatMap_cons, ← spellOthers]
  simp only [List.append_assoc]

theorem spellEnd_append (trail : Gap) (t : Text) : spellEnd trail ++ t = trail.1 ++ ']' :: t := by
  rw [spellEnd, List.append_assoc, List.singleton_append]

theorem startsOutside_close (t : Text) : StartsOutside isAsciiBlank (']' :: t) := rfl

theorem spelling_append (q : Sequence γ α) (t : Text) :
    q.spelling between spell ++ t =
      q.lead.1 ++ (spell q.first ++
        (spellOthers between spell q.others ++ (spellEnd q.trail ++ t))) := by
  rw [spelling]
  simp only [List.append_assoc]

namespace IsTellable

theorem ends_spellOthers_append (h : IsTellable between spell Ends) (others : List (γ × α))
    (trail : Gap) (t : Text) :
    Ends (spellOthers between spell others ++ (spellEnd trail ++ t)) := by
  cases others with
  | nil => exact h.ends_spellEnd trail t
  | cons p others =>
    obtain ⟨g, x⟩ := p
    rw [spellOthers_cons_append]
    exact h.ends_between g _

theorem startsOutside_spell_append (h : IsTellable between spell Ends) (x : α) (t : Text) :
    StartsOutside isAsciiBlank (spell x ++ t) := by
  obtain ⟨c, u, hu, hc, -⟩ := h.exists_spell_eq_cons x
  rw [hu]
  exact hc

/-- Where a sequence ends (`spellEnd`) no item begins. -/
theorem spellEnd_append_ne (h : IsTellable between spell Ends) (trail : Gap) (r : Text) (g : γ)
    (x : α) (s : Text) : spellEnd trail ++ r ≠ between g ++ (spell x ++ s) := by
  intro heq
  rw [spellEnd_append] at heq
  obtain ⟨-, hitem⟩ := gap_eq_of_append_eq (h := ⟨between g, h.isAsciiBlank_between g⟩)
    (startsOutside_close r) (h.startsOutside_spell_append x s) heq
  obtain ⟨c, u, hu, -, hc⟩ := h.exists_spell_eq_cons x
  rw [hu] at hitem
  exact hc (List.cons.inj hitem).1.symm

theorem others_eq_of_append_eq (h : IsTellable between spell Ends) {xs ys : List (γ × α)}
    {trail trail' : Gap} {r s : Text}
    (heq : spellOthers between spell xs ++ (spellEnd trail ++ r) =
      spellOthers between spell ys ++ (spellEnd trail' ++ s)) :
    xs = ys ∧ trail = trail' ∧ r = s := by
  induction xs generalizing ys with
  | nil =>
    cases ys with
    | nil =>
      have hend : trail.1 ++ ']' :: r = trail'.1 ++ ']' :: s := by
        rw [← spellEnd_append, ← spellEnd_append]
        exact heq
      obtain ⟨rfl, hrest⟩ :=
        gap_eq_of_append_eq (startsOutside_close r) (startsOutside_close s) hend
      exact ⟨rfl, rfl, (List.cons.inj hrest).2⟩
    | cons p ys =>
      obtain ⟨g, y⟩ := p
      rw [spellOthers_cons_append] at heq
      exact absurd heq (h.spellEnd_append_ne trail r g y _)
  | cons p xs ih =>
    obtain ⟨g, x⟩ := p
    rw [spellOthers_cons_append] at heq
    cases ys with
    | nil => exact absurd heq.symm (h.spellEnd_append_ne trail' s g x _)
    | cons p' ys =>
      obtain ⟨g', y⟩ := p'
      rw [spellOthers_cons_append] at heq
      obtain ⟨hgap, hitem⟩ := gap_eq_of_append_eq (g := ⟨_, h.isAsciiBlank_between g⟩)
        (h := ⟨_, h.isAsciiBlank_between g'⟩) (h.startsOutside_spell_append x _)
        (h.startsOutside_spell_append y _) heq
      obtain rfl := h.between_injective (Subtype.ext_iff.mp hgap)
      obtain ⟨rfl, hothers⟩ := h.selfDelimiting trivial trivial (h.ends_spellOthers_append ..)
        (h.ends_spellOthers_append ..) hitem
      obtain ⟨rfl, rfl, rfl⟩ := ih hothers
      exact ⟨rfl, rfl, rfl⟩

/-- A sequence can be told from what follows its end, if its parts are tellable. -/
theorem selfDelimiting_spelling (h : IsTellable between spell Ends) :
    SelfDelimiting (spelling between spell) (fun _ => True) (fun _ => True) := by
  intro p q r s _ _ _ _ heq
  rw [spelling_append, spelling_append] at heq
  obtain ⟨hlead, hfirst⟩ := gap_eq_of_append_eq (h.startsOutside_spell_append _ _)
    (h.startsOutside_spell_append _ _) heq
  obtain ⟨hfirst, hothers⟩ := h.selfDelimiting trivial trivial (h.ends_spellOthers_append ..)
    (h.ends_spellOthers_append ..) hfirst
  obtain ⟨hothers, htrail, hrest⟩ := h.others_eq_of_append_eq hothers
  exact ⟨Sequence.ext hlead hfirst hothers htrail, hrest⟩

end IsTellable

end Sequence

/-- Whether `c` can stand in a cell: the decision of `IsCellChar`. -/
def isCellChar (c : Char) : Bool := !isAsciiBlank c && c ≠ '[' && c ≠ ']'

theorem isCellChar_iff {c : Char} : isCellChar c = true ↔ IsCellChar c := by
  simp [isCellChar, IsCellChar, and_assoc]

theorem isWord_iff_isCell {s : Text} : IsWord isCellChar s ↔ IsCell s :=
  ⟨fun h => ⟨h.1, fun c hc => isCellChar_iff.mp (h.2 c hc)⟩,
    fun h => ⟨h.ne_nil, fun c hc => isCellChar_iff.mpr (h.isCellChar c hc)⟩⟩

/-- A cell ends before blanks (`g`) and before what begins with no character of a cell. -/
theorem startsOutside_gap_append {g : Text} (hg : ∀ c ∈ g, isAsciiBlank c = true) {t : Text}
    (h : g ≠ [] ∨ StartsOutside isCellChar t) : StartsOutside isCellChar (g ++ t) := by
  cases g with
  | nil => exact h.resolve_left fun hne => hne rfl
  | cons c g =>
    show (!isAsciiBlank c && c ≠ '[' && c ≠ ']') = false
    rw [hg c (List.mem_cons_self ..)]
    rfl

/-- The cells of a row can be told apart, since there are blanks between them. -/
theorem isTellable_cells :
    Sequence.IsTellable (Subtype.val : Blanks → Text) (Subtype.val : Cell → Text)
      (StartsOutside isCellChar) where
  between_injective := Subtype.val_injective
  isAsciiBlank_between := fun g => g.2.2
  selfDelimiting := by
    intro x y r s _ _ hr hs heq
    obtain ⟨hxy, hrest⟩ := selfDelimiting_id isCellChar (isWord_iff_isCell.mpr x.2)
      (isWord_iff_isCell.mpr y.2) hr hs heq
    exact ⟨Subtype.ext hxy, hrest⟩
  exists_spell_eq_cons := by
    intro x
    obtain ⟨c, t, hx⟩ := List.exists_cons_of_ne_nil x.2.ne_nil
    obtain ⟨hblank, -, hclose⟩ := x.2.isCellChar c (by rw [hx]; exact List.mem_cons_self ..)
    exact ⟨c, t, hx, hblank, hclose⟩
  ends_between := fun g t => startsOutside_gap_append g.2.2 (.inl g.2.1)
  ends_spellEnd := by
    intro trail t
    rw [Sequence.spellEnd_append]
    exact startsOutside_gap_append trail.2 (.inr rfl)

/-- Rows can be told apart whether or not there are blanks between them, since `Row.spelling` ends
with a bracket. -/
theorem isTellable_rows :
    Sequence.IsTellable (Subtype.val : Gap → Text) Row.spelling (fun _ => True) where
  between_injective := Subtype.val_injective
  isAsciiBlank_between := fun g => g.2
  selfDelimiting := by
    intro x y r s _ _ _ _ heq
    exact isTellable_cells.selfDelimiting_spelling trivial trivial trivial trivial
      (List.cons.inj heq).2
  exists_spell_eq_cons := fun x => ⟨'[', _, rfl, by decide, by decide⟩
  ends_between := fun _ _ => trivial
  ends_spellEnd := fun _ _ => trivial

/-- **Unambiguity.** A text begins with the `spelling` of at most one derivation. -/
theorem selfDelimiting_spelling :
    SelfDelimiting Derivation.spelling (fun _ => True) (fun _ => True) := by
  intro d d' r s _ _ _ _ heq
  exact isTellable_rows.selfDelimiting_spelling trivial trivial trivial trivial
    (List.cons.inj (List.cons.inj heq).2).2

/-! ### A derivation is read as its grid -/

theorem readFrom_rows_gap_append (above : Grid) {g : Text} (hg : ∀ c ∈ g, isAsciiBlank c = true)
    (t : Text) : readFrom above .rows (g ++ t) = readFrom above .rows t := by
  induction g with
  | nil => rfl
  | cons c g ih =>
    rw [List.cons_append, readFrom, if_pos (hg c (List.mem_cons_self ..)),
      ih fun d hd => hg d (List.mem_cons_of_mem _ hd)]

theorem readFrom_cells_gap_append (above : Grid) (done : List Text) {g : Text}
    (hg : ∀ c ∈ g, isAsciiBlank c = true) (t : Text) :
    readFrom above (.cells done) (g ++ t) = readFrom above (.cells done) t := by
  induction g with
  | nil => rfl
  | cons c g ih =>
    rw [List.cons_append, readFrom, if_pos (hg c (List.mem_cons_self ..)),
      ih fun d hd => hg d (List.mem_cons_of_mem _ hd)]

/-- The characters of `cell` begin a cell and are added to it. -/
theorem readFrom_cells_cell_append (above : Grid) (done : List Text) (cell : Cell) (t : Text) :
    readFrom above (.cells done) (cell.1 ++ t) =
      readFrom above (.content done cell.1.reverse) t := by
  obtain ⟨s, hs⟩ := cell
  obtain ⟨c, s, rfl⟩ := List.exists_cons_of_ne_nil hs.ne_nil
  obtain ⟨hb, hopen, hclose⟩ := hs.isCellChar c (List.mem_cons_self ..)
  have htail : ∀ d ∈ s, IsCellChar d := fun d hd => hs.isCellChar d (List.mem_cons_of_mem _ hd)
  rw [List.cons_append, readFrom, hb, if_neg Bool.false_ne_true, if_neg hclose, if_neg hopen,
    readFrom_content_append above done [c] htail, List.reverse_cons]

/-- The blanks `g` end a cell. -/
theorem readFrom_content_blanks_append (above : Grid) (done : List Text) (chars : Text)
    (g : Blanks) (t : Text) :
    readFrom above (.content done chars) (g.1 ++ t) =
      readFrom above (.cells (chars.reverse :: done)) t := by
  obtain ⟨s, hne, hs⟩ := g
  obtain ⟨c, s, rfl⟩ := List.exists_cons_of_ne_nil hne
  rw [List.cons_append, readFrom, if_pos (hs c (List.mem_cons_self ..)),
    readFrom_cells_gap_append above _ fun d hd => hs d (List.mem_cons_of_mem _ hd)]

/-- Inside a cell, the rest of a row ends the cell and adds the `others`. -/
theorem readFrom_others_append (above : Grid) (done : List Text) (chars : Text)
    (others : List (Blanks × Cell)) (trail : Gap) (t : Text) :
    readFrom above (.content done chars)
        (Sequence.spellOthers Subtype.val Subtype.val others ++ (Sequence.spellEnd trail ++ t)) =
      readFrom ((done.reverse ++ chars.reverse :: others.map (·.2.1)) :: above) .rows t := by
  induction others generalizing done chars with
  | nil =>
    have hclose (done : List Text) : readFrom above (.cells done) (']' :: t) =
        readFrom (done.reverse :: above) .rows t := rfl
    obtain ⟨g, hg⟩ := trail
    show readFrom above (.content done chars) (Sequence.spellEnd ⟨g, hg⟩ ++ t) = _
    rw [Sequence.spellEnd_append]
    by_cases hne : g = []
    · subst hne
      show readFrom ((chars.reverse :: done).reverse :: above) .rows t = _
      rw [List.reverse_cons]
      rfl
    · rw [readFrom_content_blanks_append above done chars ⟨g, hne, hg⟩, hclose, List.reverse_cons]
      rfl
  | cons p others ih =>
    obtain ⟨g, cell⟩ := p
    rw [Sequence.spellOthers_cons_append, readFrom_content_blanks_append,
      readFrom_cells_cell_append, ih, List.reverse_reverse, List.reverse_cons, List.append_assoc]
    rfl

/-- Between rows, `r.spelling` is read as the row `r.cells`. -/
theorem readFrom_row_append (above : Grid) (r : Row) (t : Text) :
    readFrom above .rows (r.spelling ++ t) = readFrom (r.cells :: above) .rows t := by
  have hopen (u : Text) : readFrom above .rows ('[' :: u) = readFrom above (.cells []) u := rfl
  rw [Row.spelling, List.cons_append, hopen, Sequence.spelling_append,
    readFrom_cells_gap_append above [] r.lead.2, readFrom_cells_cell_append,
    readFrom_others_append, List.reverse_reverse]
  rw [Row.cells, Sequence.items, List.map_cons, List.map_map]
  rfl

/-- Between rows, the spellings of `rows` and the end are read as these rows, and close the
literal. -/
theorem readFrom_rows_append (above : Grid) (rows : List (Gap × Row)) (trail : Gap) (t : Text) :
    readFrom above .rows
        (Sequence.spellOthers Subtype.val Row.spelling rows ++ (Sequence.spellEnd trail ++ t)) =
      some (above.reverse ++ rows.map (·.2.cells), t) := by
  induction rows generalizing above with
  | nil =>
    show readFrom above .rows (Sequence.spellEnd trail ++ t) = _
    rw [Sequence.spellEnd_append, readFrom_rows_gap_append above trail.2, List.map_nil,
      List.append_nil]
    rfl
  | cons p rows ih =>
    obtain ⟨g, r⟩ := p
    rw [Sequence.spellOthers_cons_append, readFrom_rows_gap_append above g.2, readFrom_row_append,
      ih, List.reverse_cons, List.append_assoc]
    rfl

/-- The spelling of a derivation `d` is read as `d.grid`, whatever follows. -/
theorem readFrom_spelling_append (d : Derivation) (t : Text) :
    ∃ u, d.spelling ++ t = '[' :: ' ' :: u ∧ readFrom [] .rows (' ' :: u) = some (d.grid, t) := by
  have hspace (u : Text) : readFrom [] .rows (' ' :: u) = readFrom [] .rows u := rfl
  refine ⟨Sequence.spelling Subtype.val Row.spelling d ++ t, rfl, ?_⟩
  -- the blanks in front of the first row are like those in front of the others
  have hrows := readFrom_rows_append [] ((d.lead, d.first) :: d.others) d.trail t
  rw [Sequence.spellOthers_cons_append] at hrows
  rw [hspace, Sequence.spelling_append, hrows, Derivation.grid, Sequence.items, List.map_cons,
    List.map_cons, List.map_map]
  rfl

/-! ### What is read has a derivation -/

/-- Between rows, the text `s` is derived as further rows and the end, before `rest`. -/
def IsDerivedRows (cells : Grid) (rest : Text) (above : Grid) (s : Text) : Prop :=
  ∃ (rows : List (Gap × Row)) (trail : Gap),
    s = Sequence.spellOthers Subtype.val Row.spelling rows ++ (Sequence.spellEnd trail ++ rest) ∧
      cells = above.reverse ++ rows.map (·.2.cells)

/-- The text finishes what the `Stage` of a reading has begun: a cell, then a row, then the rows. In
a row there may be no further cell, also where there has been none yet. -/
def IsDerived (cells : Grid) (rest : Text) : Grid → Stage → Text → Prop
  | above, .rows, s => IsDerivedRows cells rest above s
  | above, .cells done, s =>
    (∃ (trail : Gap) (t : Text), s = Sequence.spellEnd trail ++ t ∧
      IsDerivedRows cells rest (done.reverse :: above) t) ∨
    ∃ (r : Row) (t : Text), s = Sequence.spelling Subtype.val Subtype.val r ++ t ∧
      IsDerivedRows cells rest ((done.reverse ++ r.cells) :: above) t
  | above, .content done chars, s =>
    ∃ (more : Text) (others : List (Blanks × Cell)) (trail : Gap) (t : Text),
      (∀ c ∈ more, IsCellChar c) ∧
      s = more ++ (Sequence.spellOthers Subtype.val Subtype.val others ++
        (Sequence.spellEnd trail ++ t)) ∧
      IsDerivedRows cells rest
        ((done.reverse ++ (chars.reverse ++ more) :: others.map (·.2.1)) :: above) t

/-- The blanks `g` with one more, `c`, in front. -/
def Gap.cons (c : Char) (hc : isAsciiBlank c = true) (g : Gap) : Gap :=
  ⟨c :: g.1, List.forall_mem_cons.mpr ⟨hc, g.2⟩⟩

def Gap.none : Gap := ⟨[], by simp⟩

variable {cells above : Grid} {done : List Text} {chars s rest : Text} {c : Char}

theorem IsDerivedRows.blank (h : IsDerivedRows cells rest above s)
    (hc : isAsciiBlank c = true) : IsDerivedRows cells rest above (c :: s) := by
  obtain ⟨rows, trail, rfl, hcells⟩ := h
  cases rows with
  | nil => exact ⟨[], Gap.cons c hc trail, rfl, hcells⟩
  | cons p rows =>
    obtain ⟨g, r⟩ := p
    refine ⟨(Gap.cons c hc g, r) :: rows, trail, ?_, hcells⟩
    rw [Sequence.spellOthers_cons_append, Sequence.spellOthers_cons_append]
    rfl

/-- A bracket that opens a row, and the row without it. A row that is kept is not empty
(`hrows`). -/
theorem IsDerived.open_row (h : IsDerived cells rest above (.cells []) s)
    (hrows : ∀ row ∈ cells, row ≠ []) : IsDerived cells rest above .rows ('[' :: s) := by
  rcases h with ⟨trail, t, rfl, rows, trail', rfl, hcells⟩ | ⟨r, t, rfl, rows, trail', rfl, hcells⟩
  · refine absurd rfl (hrows [] ?_)
    rw [hcells]
    simp
  · refine ⟨(Gap.none, r) :: rows, trail', ?_, ?_⟩
    · rw [Sequence.spellOthers_cons_append]
      rfl
    · rw [hcells, List.reverse_cons, List.append_assoc]
      rfl

theorem IsDerived.blank_cells (h : IsDerived cells rest above (.cells done) s)
    (hc : isAsciiBlank c = true) : IsDerived cells rest above (.cells done) (c :: s) := by
  rcases h with ⟨trail, t, rfl, hrows⟩ | ⟨r, t, rfl, hrows⟩
  · exact .inl ⟨Gap.cons c hc trail, t, rfl, hrows⟩
  · exact .inr ⟨{ r with lead := Gap.cons c hc r.lead }, t, rfl, hrows⟩

theorem IsDerived.open_cell (h : IsDerived cells rest above (.content done [c]) s)
    (hc : IsCellChar c) : IsDerived cells rest above (.cells done) (c :: s) := by
  obtain ⟨more, others, trail, t, hmore, rfl, hrows⟩ := h
  have hcell : IsCell (c :: more) := ⟨List.cons_ne_nil _ _, List.forall_mem_cons.mpr ⟨hc, hmore⟩⟩
  refine .inr ⟨⟨Gap.none, ⟨c :: more, hcell⟩, others, trail⟩, t, ?_, ?_⟩
  · rw [Sequence.spelling_append]
    rfl
  · rw [Row.cells, Sequence.items, List.map_cons, List.map_map]
    exact hrows

theorem IsDerived.continue_cell (h : IsDerived cells rest above (.content done (c :: chars)) s)
    (hc : IsCellChar c) : IsDerived cells rest above (.content done chars) (c :: s) := by
  obtain ⟨more, others, trail, t, hmore, rfl, hrows⟩ := h
  refine ⟨c :: more, others, trail, t, List.forall_mem_cons.mpr ⟨hc, hmore⟩, rfl, ?_⟩
  rw [List.reverse_cons, List.append_assoc] at hrows
  exact hrows

/-- A blank ends a cell; what follows it is the next cell of the row or the end of the row. -/
theorem IsDerived.blank_content
    (h : IsDerived cells rest above (.cells (chars.reverse :: done)) s)
    (hc : isAsciiBlank c = true) : IsDerived cells rest above (.content done chars) (c :: s) := by
  rcases h with ⟨trail, t, rfl, hrows⟩ | ⟨r, t, rfl, hrows⟩
  · refine ⟨[], [], Gap.cons c hc trail, t, by simp, rfl, ?_⟩
    rw [List.append_nil, List.map_nil, ← List.reverse_cons]
    exact hrows
  · have hblanks : IsWord isAsciiBlank (c :: r.lead.1) :=
      ⟨List.cons_ne_nil _ _, List.forall_mem_cons.mpr ⟨hc, r.lead.2⟩⟩
    refine ⟨[], (⟨c :: r.lead.1, hblanks⟩, r.first) :: r.others, r.trail, t, by simp, ?_, ?_⟩
    · rw [Sequence.spelling_append, Sequence.spellOthers_cons_append]
      rfl
    · rw [Row.cells, Sequence.items, List.map_cons, List.map_map, List.reverse_cons,
        List.append_assoc] at hrows
      rw [List.append_nil]
      exact hrows

/-- **Soundness.** A reading that closes has found a derivation of what it went through. The
induction is on `Closes`, one case for each way to move. -/
theorem Closes.isDerived {stage : Stage} (h : Closes cells rest above stage s)
    (hrows : ∀ row ∈ cells, row ≠ []) : IsDerived cells rest above stage s := by
  have cellChar {c : Char} (hb : ¬ isAsciiBlank c = true) (hclose : ¬ c = ']')
      (hopen : ¬ c = '[') : IsCellChar c := ⟨by simpa using hb, hopen, hclose⟩
  induction h with
  | @on above above' stage stage' c s hm _ ih =>
    cases stage with
    | rows =>
      rw [move] at hm
      split_ifs at hm with hb hopen <;> cases hm
      · exact IsDerivedRows.blank ih hb
      · subst hopen
        exact ih.open_row hrows
    | cells done =>
      rw [move] at hm
      split_ifs at hm with hb hclose hopen <;> cases hm
      · exact ih.blank_cells hb
      · -- the row ends before another cell
        subst hclose
        exact .inl ⟨Gap.none, s, rfl, ih⟩
      · exact ih.open_cell (cellChar hb hclose hopen)
    | content done chars =>
      rw [move] at hm
      split_ifs at hm with hb hclose hopen <;> cases hm
      · exact ih.blank_content hb
      · -- the row ends with the cell
        subst hclose
        refine ⟨[], [], Gap.none, s, by simp, rfl, ?_⟩
        rw [List.append_nil, List.map_nil, ← List.reverse_cons]
        exact ih
      · exact ih.continue_cell (cellChar hb hclose hopen)
  | @close above stage c hm =>
    cases stage with
    | rows =>
      rw [move] at hm
      split_ifs at hm with hb hopen hclose
      cases hm
      subst hclose
      exact ⟨[], Gap.none, rfl, (List.append_nil _).symm⟩
    | cells done => rw [move] at hm; split_ifs at hm
    | content done chars => rw [move] at hm; split_ifs at hm

/-- A grid with a row that is read behind a bracket and a space is the `grid` of a derivation. -/
theorem exists_derivation_of_closes (h : Closes cells rest [] .rows (' ' :: s))
    (hne : cells ≠ []) (hrows : ∀ row ∈ cells, row ≠ []) :
    ∃ d : Derivation, '[' :: ' ' :: s = d.spelling ++ rest ∧ d.grid = cells := by
  have hspace : readFrom [] .rows (' ' :: s) = readFrom [] .rows s := rfl
  have hcloses : Closes cells rest [] .rows s := by
    rw [← readFrom_eq_some_iff, ← hspace]
    exact readFrom_eq_some_iff.mpr h
  obtain ⟨rows, trail, rfl, rfl⟩ := hcloses.isDerived hrows
  cases rows with
  | nil => exact absurd rfl hne
  | cons p rows =>
    obtain ⟨g, r⟩ := p
    refine ⟨⟨g, r, rows, trail⟩, ?_, ?_⟩
    · rw [Sequence.spellOthers_cons_append, Derivation.spelling, List.cons_append,
        List.cons_append, Sequence.spelling_append]
    · rw [Derivation.grid, Sequence.items, List.map_cons, List.map_map]
      rfl

/-- The rows of `d.grid` have cells, so it is rectangular iff they are equally long. -/
theorem isRectangular_grid_iff (d : Derivation) :
    isRectangular d.grid = true ↔
      ∀ row ∈ d.grid, ∀ row' ∈ d.grid, row.length = row'.length := by
  have hfirst : d.first.cells ∈ d.grid := List.mem_cons_self ..
  have hwidth : d.grid.width = d.first.cells.length := rfl
  rw [isRectangular_iff, hwidth]
  constructor
  · rintro ⟨-, hall⟩ row hrow row' hrow'
    rw [hall row hrow, hall row' hrow']
  · intro hall
    exact ⟨Nat.succ_pos _, fun row hrow => hall row hrow _ hfirst⟩

end MathNotes.Literal

namespace MathNotes.Line

open Literal

/-- **Matrix literals are read by their grammar.** A literal opens at the front of `s`, with `cells`
and `rest`, iff what stands before `rest` is the `spelling` of a derivation whose rows are equally
long and whose grid is `cells`. There is at most one derivation of the front of a text, and so at
most one place where the literal can end; and what stands behind that place has no part in the
outcome. -/
theorem opens?_eq_some_iff_exists_derivation (s : Text) :
    (∀ cells rest, opens? s = some (cells, rest) ↔
      ∃ d : Derivation, s = d.spelling ++ rest ∧ d.grid = cells ∧
        ∀ row ∈ cells, ∀ row' ∈ cells, row.length = row'.length) ∧
    (∀ (d d' : Derivation) (rest rest' : Text), s = d.spelling ++ rest →
      s = d'.spelling ++ rest' → d = d' ∧ rest = rest') ∧
    ∀ cells spelling rest, opens? s = some (cells, rest) → s = spelling ++ rest →
      ∀ t, opens? (spelling ++ t) = some (cells, t) := by
  have opens_spelling (d : Derivation)
      (hd : ∀ row ∈ d.grid, ∀ row' ∈ d.grid, row.length = row'.length) (t : Text) :
      opens? (d.spelling ++ t) = some (d.grid, t) := by
    obtain ⟨u, hu, hread⟩ := readFrom_spelling_append d t
    rw [hu]
    exact read?_eq_some_iff.mpr
      ⟨readFrom_eq_some_iff.mp hread, (isRectangular_grid_iff d).mpr hd⟩
  have exists_derivation {cells : Grid} {rest : Text} (h : opens? s = some (cells, rest)) :
      ∃ d : Derivation, s = d.spelling ++ rest ∧ d.grid = cells ∧
        ∀ row ∈ cells, ∀ row' ∈ cells, row.length = row'.length := by
    obtain ⟨u, rfl, hu⟩ := opens?_eq_some_iff.mp h
    obtain ⟨hcloses, hrect⟩ := read?_eq_some_iff.mp hu
    have hspell := isSpellable_of_read? hu
    have hrows : ∀ row ∈ cells, row ≠ [] := by
      rintro row hrow rfl
      exact absurd (hspell.length_row [] hrow) (Nat.ne_of_lt hspell.width_pos)
    obtain ⟨d, hd, rfl⟩ := exists_derivation_of_closes hcloses hspell.ne_nil hrows
    exact ⟨d, hd, rfl, (isRectangular_grid_iff d).mp hrect⟩
  refine ⟨fun cells rest => ⟨exists_derivation, ?_⟩, ?_, ?_⟩
  · rintro ⟨d, rfl, rfl, hd⟩
    exact opens_spelling d hd rest
  · intro d d' rest rest' hd hd'
    exact selfDelimiting_spelling trivial trivial trivial trivial (hd.symm.trans hd')
  · intro cells spelling rest h hs t
    obtain ⟨d, hd, rfl, hlength⟩ := exists_derivation h
    obtain rfl : spelling = d.spelling := List.append_cancel_right (hs.symm.trans hd)
    exact opens_spelling d hlength t

/-- Blanks of several kinds, and brackets without blanks between them; the brackets that follow have
no part in it. -/
theorem opens?_eq_some_iff_exists_derivation_loose :
    opens? "[  [1\t2][ 3 4]] ]".toList =
        some ([["1".toList, "2".toList], ["3".toList, "4".toList]], " ]".toList) ∧
      (∃! d : Derivation, "[  [1\t2][ 3 4]] ]".toList = d.spelling ++ " ]".toList) ∧
      opens? ("[  [1\t2][ 3 4]]".toList ++ "]".toList) =
        some ([["1".toList, "2".toList], ["3".toList, "4".toList]], "]".toList) := by
  obtain ⟨hiff, hunique, hrest⟩ :=
    opens?_eq_some_iff_exists_derivation "[  [1\t2][ 3 4]] ]".toList
  have hopens : opens? "[  [1\t2][ 3 4]] ]".toList =
      some ([["1".toList, "2".toList], ["3".toList, "4".toList]], " ]".toList) := by decide
  obtain ⟨d, hd, -, -⟩ := (hiff _ _).mp hopens
  refine ⟨hopens, ⟨d, hd, fun d' hd' => (hunique d' d _ _ hd' hd).1⟩, ?_⟩
  exact hrest _ "[  [1\t2][ 3 4]]".toList " ]".toList hopens (by decide) _

end MathNotes.Line
