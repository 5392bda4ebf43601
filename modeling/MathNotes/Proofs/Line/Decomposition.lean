import Mathlib.Tactic.ByContra
import Mathlib.Tactic.SplitIfs
import MathNotes.Proofs.Line.Reader

/-!
# The leftmost decomposition of a line

A line can be cut into texts and the literals between them (`Decomposition`). In the leftmost
decomposition each literal is read where it stands, and no bracket in a text opens another one,
always with all that follows in the line (`IsLeftmost`).

* Each line has exactly one leftmost decomposition (`exists_isLeftmost`, `eq_of_isLeftmost`): where
  two of them part, one has a literal beginning within a text of the other.

* Parsing a line gives the elements of that decomposition (`parse_source`).
-/

namespace MathNotes.Line

/-- A line cut into texts with a literal between each two of them. A literal is kept as it is
spelled in the line, along with its grid. -/
inductive Decomposition where
  /-- A text up to the end of the line. -/
  | last (content : Text)
  /-- A text, the literal after it with its `spelling` and its grid, and what follows. -/
  | next (content spelling : Text) (cells : Grid) (rest : Decomposition)
  deriving DecidableEq

/-- No bracket in `content` opens a literal, as it stands before `after`. -/
def IsClear (content after : Text) : Prop :=
  ∀ before inner, content = before ++ '[' :: inner → opens? ('[' :: inner ++ after) = none

namespace Decomposition

/-- The line that was cut: its texts and the spellings of its literals. -/
def source : Decomposition → Text
  | last content => content
  | next content spelling _ rest => content ++ (spelling ++ rest.source)

/-- The elements that the line consists of, by `textElements`: empty texts are none. -/
def elements : Decomposition → List Element
  | last content => textElements content
  | next content _ cells rest => textElements content ++ Element.ofGrid cells :: rest.elements

/-- Each literal is one where it stands (`opens?`), and no bracket in the texts opens one
(`IsClear`). -/
def IsLeftmost : Decomposition → Prop
  | last content => IsClear content []
  | next content spelling cells rest =>
    IsClear content (spelling ++ rest.source) ∧
      opens? (spelling ++ rest.source) = some (cells, rest.source) ∧ rest.IsLeftmost

/-- The `Pieces` of the line, without the spelling of the literals. -/
def toPieces : Decomposition → Pieces
  | last content => ⟨content, []⟩
  | next content _ cells rest => ⟨content, (cells, rest.toPieces.front) :: rest.toPieces.literals⟩

/-- The decomposition with the character `c` at the front. -/
def cons (c : Char) : Decomposition → Decomposition
  | last content => last (c :: content)
  | next content spelling cells rest => next (c :: content) spelling cells rest

theorem source_cons (c : Char) (d : Decomposition) : (d.cons c).source = c :: d.source := by
  cases d <;> rfl

theorem toPieces_cons (c : Char) (d : Decomposition) :
    (d.cons c).toPieces = ⟨c :: d.toPieces.front, d.toPieces.literals⟩ := by
  cases d <;> rfl

theorem elements_toPieces (d : Decomposition) : d.toPieces.elements = d.elements := by
  induction d with
  | last content => exact List.append_nil _
  | next content spelling cells rest ih =>
    rw [elements, ← ih]
    rfl

end Decomposition

open Decomposition

/-! ### Texts without an opening -/

theorem isClear_nil (after : Text) : IsClear [] after := by
  intro before inner h
  exact absurd (congrArg List.length h) (by simp)

/-- A clear text stays clear with `c` in front of it, if that opens no literal. -/
theorem isClear_cons {c : Char} {content after : Text}
    (hc : opens? (c :: (content ++ after)) = none) (h : IsClear content after) :
    IsClear (c :: content) after := by
  intro before inner heq
  cases before with
  | nil =>
    obtain ⟨rfl, rfl⟩ := List.cons.inj heq
    exact hc
  | cons b before =>
    exact h before inner (List.cons.inj heq).2

/-- Within a clear text no literal begins, at whatever end `inner` of it. -/
theorem opens?_of_isClear {before inner after : Text} (h : IsClear (before ++ inner) after)
    (hne : inner ≠ []) : opens? (inner ++ after) = none := by
  obtain ⟨c, inner, rfl⟩ := List.exists_cons_of_ne_nil hne
  by_cases hc : c = '['
  · subst hc
    exact h before inner rfl
  · rw [Option.eq_none_iff_forall_ne_some]
    rintro ⟨cells, rest⟩ hsome
    obtain ⟨u, hu, -⟩ := opens?_eq_some_iff.mp hsome
    exact hc (List.cons.inj hu).1

/-- A text that is clear before something is clear on its own, since what follows has no part in
opening a literal (`opens?_append`). -/
theorem isClear_nil_of_isClear {content after : Text} (h : IsClear content after) :
    IsClear content [] := by
  intro before inner heq
  rw [List.append_nil, Option.eq_none_iff_forall_ne_some]
  rintro ⟨cells, rest⟩ hsome
  have hlong := opens?_append hsome after
  rw [h before inner heq] at hlong
  cases hlong

/-- A text that is clear on its own is clear before the spelling of a grid with rows, which is a
barrier (`opens?_append_print`). -/
theorem isClear_print {content : Text} {cells : Grid} (h : IsClear content [])
    (hcells : cells ≠ []) (t : Text) : IsClear content (Literal.print cells ++ t) := by
  intro before inner heq
  have hnone := h before inner heq
  rw [List.append_nil] at hnone
  rw [opens?_append_print hcells (List.cons_ne_nil _ _), hnone]
  rfl

/-! ### Uniqueness -/

/-- What may follow a text in a leftmost decomposition: nothing, or a literal (`opens?`). -/
def IsBorder (after : Text) : Prop := after = [] ∨ opens? after ≠ none

/-- A border does not lie within a clear text, so nothing of it is behind `before`. -/
theorem eq_nil_of_isClear {before inner after : Text} (h : IsClear (before ++ inner) after)
    (hborder : IsBorder (inner ++ after)) : inner = [] := by
  by_contra hne
  rcases hborder with hnil | hopen
  · exact hne (List.append_eq_nil_iff.mp hnil).1
  · exact hopen (opens?_of_isClear h hne)

/-- A line `x ++ u = y ++ v` has only one border with a clear text in front of it. -/
theorem eq_and_eq_of_isClear {x y u v : Text} (h : x ++ u = y ++ v) (hx : IsClear x u)
    (hy : IsClear y v) (hu : IsBorder u) (hv : IsBorder v) : x = y ∧ u = v := by
  rcases List.append_eq_append_iff.mp h with ⟨inner, rfl, rfl⟩ | ⟨inner, rfl, rfl⟩
  · obtain rfl := eq_nil_of_isClear hy hu
    exact ⟨(List.append_nil x).symm, rfl⟩
  · obtain rfl := eq_nil_of_isClear hx hv
    exact ⟨List.append_nil y, rfl⟩

/-- **Uniqueness.** If two leftmost decompositions have the same `source`, they are the same. -/
theorem eq_of_isLeftmost {d d' : Decomposition} (hd : d.IsLeftmost) (hd' : d'.IsLeftmost)
    (hs : d.source = d'.source) : d = d' := by
  have isBorder {s rest : Text} {cells : Grid} (h : opens? s = some (cells, rest)) :
      IsBorder s := .inr (by simp [h])
  induction d generalizing d' with
  | last content =>
    cases d' with
    | last content' =>
      exact congrArg last hs
    | next content' spelling' cells' rest' =>
      -- a literal of the one is cut from the text of the other
      obtain ⟨hclear', hopen', -⟩ := hd'
      have hs' : content ++ [] = content' ++ (spelling' ++ rest'.source) := by
        rw [List.append_nil]
        exact hs
      obtain ⟨-, hnil⟩ := eq_and_eq_of_isClear hs' hd hclear' (.inl rfl) (isBorder hopen')
      rw [← hnil] at hopen'
      cases hopen'
  | next content spelling cells rest ih =>
    obtain ⟨hclear, hopen, hrest⟩ := hd
    cases d' with
    | last content' =>
      have hs' : content ++ (spelling ++ rest.source) = content' ++ [] := by
        rw [List.append_nil]
        exact hs
      obtain ⟨-, hnil⟩ := eq_and_eq_of_isClear hs' hclear hd' (isBorder hopen) (.inl rfl)
      rw [hnil] at hopen
      cases hopen
    | next content' spelling' cells' rest' =>
      obtain ⟨hclear', hopen', hrest'⟩ := hd'
      obtain ⟨rfl, hsame⟩ :=
        eq_and_eq_of_isClear hs hclear hclear' (isBorder hopen) (isBorder hopen')
      -- the same literal is read at the border, so the same text is left after it
      rw [hsame, hopen', Option.some.injEq, Prod.mk.injEq] at hopen
      obtain ⟨rfl, hleft⟩ := hopen
      obtain rfl := ih hrest hrest' hleft.symm
      rw [List.append_cancel_right hsame]

/-! ### Existence -/

theorem isLeftmost_cons {c : Char} {d : Decomposition} (hc : opens? (c :: d.source) = none)
    (h : d.IsLeftmost) : (d.cons c).IsLeftmost := by
  cases d with
  | last content =>
    rw [source] at hc
    exact isClear_cons (by rwa [List.append_nil]) h
  | next content spelling cells rest =>
    exact ⟨isClear_cons hc h.1, h.2⟩

/-- **Existence.** The `pieces` of a line are those of a leftmost decomposition. The induction goes
the way the pieces are found: past a literal, or past one character of a text. -/
theorem exists_isLeftmost (t : Text) :
    ∃ d : Decomposition, d.source = t ∧ d.IsLeftmost ∧ d.toPieces = pieces t := by
  fun_induction pieces t with
  | case1 => exact ⟨last [], rfl, isClear_nil [], rfl⟩
  | case2 c s cells after hopen p ih =>
    obtain ⟨d, rfl, hd, hpieces⟩ := ih
    obtain ⟨spelling, hspelling⟩ := suffix_of_opens? hopen
    refine ⟨next [] spelling cells d, hspelling, ⟨isClear_nil _, ?_, hd⟩, ?_⟩
    · rw [hspelling, hopen]
    · rw [toPieces, hpieces]
  | case3 c s hopen p ih =>
    obtain ⟨d, rfl, hd, hpieces⟩ := ih
    refine ⟨d.cons c, source_cons c d, isLeftmost_cons hopen hd, ?_⟩
    rw [toPieces_cons, hpieces]

/-! ### Parsing -/

theorem elements_eq_nil_iff {d : Decomposition} (h : d.IsLeftmost) :
    d.elements = [] ↔ d.source = [] := by
  cases d with
  | last content =>
    rw [elements, textElements, source]
    split_ifs with hnil
    · simpa using hnil
    · simpa using hnil
  | next content spelling cells rest =>
    constructor
    · intro hnil
      rw [elements, List.append_eq_nil_iff] at hnil
      cases hnil.2
    · intro hnil
      rw [source, List.append_eq_nil_iff] at hnil
      have hopen := h.2.1
      rw [hnil.2] at hopen
      cases hopen

/-- Parsing `d.source` gives the elements of `d`, and the empty text if there is nothing to
parse. -/
theorem parse_source {d : Decomposition} (h : d.IsLeftmost) :
    parse d.source = if d.source = [] then [.text []] else d.elements := by
  obtain ⟨d', hs, hd', hpieces⟩ := exists_isLeftmost d.source
  obtain rfl := eq_of_isLeftmost hd' h hs
  rw [parse, ← hpieces, elements_toPieces]
  by_cases hnil : d'.source = []
  · rw [if_pos hnil, (elements_eq_nil_iff h).mpr hnil]
  · rw [if_neg hnil]
    have hne : d'.elements ≠ [] := fun he => hnil ((elements_eq_nil_iff h).mp he)
    split
    · next he => exact absurd he hne
    · rfl

/-- **A line is parsed into its leftmost decomposition.** Exactly one way `d` of cutting the line
`t` has a literal wherever it says so and no bracket in its texts that opens another one; `parse t`
is the texts of it that are not empty, as they are, and between them the matrices of its literals,
in order. The empty line is a single empty text. -/
theorem parse_leftmost_decomposition (t : Text) :
    ∃ d : Decomposition, (∀ d' : Decomposition, d'.source = t ∧ d'.IsLeftmost ↔ d' = d) ∧
      parse t = if t = [] then [.text []] else d.elements := by
  obtain ⟨d, rfl, hd, -⟩ := exists_isLeftmost t
  refine ⟨d, ?_, parse_source hd⟩
  intro d'
  constructor
  · rintro ⟨hs, hd'⟩
    exact eq_of_isLeftmost hd' hd hs
  · rintro rfl
    exact ⟨rfl, hd⟩

end MathNotes.Line
