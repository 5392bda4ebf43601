import MathNotes.Proofs.Expr.Written
import MathNotes.Proofs.Sanitize.Tidy
import MathNotes.Render

/-!
# Cleaning leaves the markup of expressions as it is

The markup of an expression needs no cleaning, if the texts of the expression give no cause for it
(`sanitize_markup_eq_self_and_render_eq`). The reader of tidy markup gets to its end from every
`Stage` but those within the name of a command (`read_markup`): a word or a group leaves it at
`text`, a separator or a sign at `blank`, so each piece begins where the piece before has ended.
-/

namespace MathNotes

open Text Sanitize

/-- Whether `c` is plain (`isPlain`), and neither the slash nor one of the three characters of zero
width that are editor scaffolding. -/
def isInert (c : Char) : Bool := isPlain c && !(['/', '\u200b', '\u2060', '\ufeff'].contains c)

namespace Sanitize

/-! ### Words, groups and lists -/

theorem isBlank_eq_false_of_isInert {c : Char} (h : isInert c = true) : isBlank c = false := by
  rw [isInert, isPlain] at h
  simpa using ((Bool.and_eq_true _ _).mp ((Bool.and_eq_true _ _).mp h).1).1

/-- Outside the names of commands (`Stage.isCommand`), an inert character is text. -/
theorem admits_of_isInert {q : Stage} {c : Char} (hq : q.isCommand = false)
    (hc : isInert c = true) : q.admits c = true := by
  have hmarks : Stage.alwaysRefused.contains c = false := by
    rw [isInert] at hc
    exact (Bool.not_eq_true' _).mp ((Bool.and_eq_true _ _).mp hc).2
  have hrefused : q.refused.contains c = false := by
    have hall : q.refused.all (fun d => !isInert d) = true := by
      cases q with
      | command first => cases hq
      | commandC => cases hq
      | _ => rfl
    rw [Bool.eq_false_iff]
    intro hmem
    have hmark := List.all_eq_true.mp hall c (List.contains_iff_mem.mp hmem)
    rw [hc] at hmark
    cases hmark
  rw [Stage.admits, hmarks, hrefused, isBlank_eq_false_of_isInert hc]
  simp

theorem after_of_isInert {q : Stage} {c : Char} (hq : q.isCommand = false)
    (hc : isInert c = true) : q.after c = .text := by
  unfold Stage.after
  split
  iterate 6 exact absurd hc (by decide)
  · cases q with
    | command first => cases hq
    | commandC => cases hq
    | _ => rfl
  · rfl

/-- Outside the names of commands, the word `w` of inert characters is read, and ends as `text`. -/
theorem read_word {q : Stage} {w : Text} (hq : q.isCommand = false) (hw : IsWord isInert w) :
    read q w = some .text := by
  obtain ⟨hne, hinert⟩ := hw
  induction w generalizing q with
  | nil => exact absurd rfl hne
  | cons c w ih =>
    obtain ⟨hc, hrest⟩ := List.forall_mem_cons.mp hinert
    rw [read, if_pos (admits_of_isInert hq hc), after_of_isInert hq hc]
    cases w with
    | nil => rfl
    | cons d w => exact ih rfl (List.cons_ne_nil _ _) hrest

theorem read_brace {q : Stage} (hq : q.isCommand = false) :
    ∃ p : Stage, read q ['{'] = some p ∧ p.isCommand = false := by
  cases q with
  | command first => cases hq
  | commandC => cases hq
  | script => exact ⟨.scriptGroup, rfl, rfl⟩
  | _ => exact ⟨.text, rfl, rfl⟩

theorem read_group {q : Stage} {w : Text} (hq : q.isCommand = false) (hw : IsWord isInert w) :
    read q (group w) = some .text := by
  obtain ⟨p, hbrace, hp⟩ := read_brace hq
  show read q (['{'] ++ (w ++ ['}'])) = some .text
  rw [read_append_of_eq_some hbrace, read_append_of_eq_some (read_word hp hw)]
  rfl

theorem read_intercalate {separator : Text} {words : List Text}
    (hseparator : read .text separator = some .blank) (hne : words ≠ [])
    (hwords : ∀ w ∈ words, read .blank w = some .text) :
    read .blank (List.intercalate separator words) = some .text := by
  induction words with
  | nil => exact absurd rfl hne
  | cons w words ih =>
    obtain ⟨hw, hrest⟩ := List.forall_mem_cons.mp hwords
    cases words with
    | nil =>
      rw [List.intercalate_singleton]
      exact hw
    | cons v words =>
      rw [List.intercalate_cons_cons, List.append_assoc, read_append_of_eq_some hw,
        read_append_of_eq_some hseparator]
      exact ih (List.cons_ne_nil _ _) hrest

/-! ### Expressions -/

/-- A command is read alike from every stage at which it can begin. -/
theorem read_command {q : Stage} (hq : q.isCommand = false) {c : Char} (hc : c ≠ '\\')
    (s : Text) : read q ('\\' :: c :: s) = read .text ('\\' :: c :: s) := by
  -- only at the start does the reader remember that the backslash was the first character
  have hadmits : (Stage.command true).admits c = (Stage.command false).admits c := by
    simp [Stage.admits, Stage.refused, hc]
  have hafter : (Stage.command true).after c = (Stage.command false).after c := by
    unfold Stage.after
    split <;> rfl
  cases q with
  | start =>
    show read (.command true) (c :: s) = read (.command false) (c :: s)
    rw [read, read, hadmits, hafter]
  | command first => cases hq
  | commandC => cases hq
  | _ => rfl

/-- Between its first and its last line a grid is read from `blank` to `text`. -/
theorem read_grid {q : Stage} (hq : q.isCommand = false) {content : Text}
    (hcontent : read .blank content = some .text) :
    read q (Grid.opening ++ content ++ Grid.closing) = some .text := by
  have hopening : read q Grid.opening = some .blank := read_command hq (by decide) _
  have hclosing : read .text Grid.closing = some .text := rfl
  rw [List.append_assoc, read_append_of_eq_some hopening, read_append_of_eq_some hcontent, hclosing]

theorem read_writtenBounds {bounds : Option (Text × Text)}
    (h : ∀ b ∈ bounds, IsWord isInert b.1 ∧ IsWord isInert b.2) :
    read .text (Expr.writtenBounds bounds) = some .text := by
  match bounds with
  | none => rfl
  | some (lower, upper) =>
    obtain ⟨hlower, hupper⟩ := h _ rfl
    show read .script (group lower ++ '^' :: group upper) = some .text
    rw [read_append_of_eq_some (read_group rfl hlower)]
    show read .script (group upper) = some .text
    exact read_group rfl hupper

theorem read_writtenDifferential {differential : Option Text}
    (h : ∀ v ∈ differential, IsWord isInert v) :
    read .text (Expr.writtenDifferential differential) = some .text := by
  cases differential with
  | none => rfl
  | some v =>
    have hsign : read .text Expr.differentialSign = some .text := rfl
    rw [Expr.writtenDifferential, read_append_of_eq_some hsign]
    exact read_word rfl (h v rfl)

theorem read_script {q : Stage} (hq : q.isCommand = false) {mark : Char}
    (hmark : mark = '_' ∨ mark = '^') {base argument : Text} (hbase : IsWord isInert base)
    (hargument : IsWord isInert argument) :
    read q (group base ++ mark :: group argument) = some .text := by
  rw [read_append_of_eq_some (read_group hq hbase)]
  rcases hmark with rfl | rfl
  · show read .script (group argument) = some .text
    exact read_group rfl hargument
  · show read .script (group argument) = some .text
    exact read_group rfl hargument

theorem read_wrapper_opening {q : Stage} (hq : q.isCommand = false) (wrapper : Wrapper) :
    ∃ p : Stage, read q wrapper.opening = some p ∧ p.isCommand = false := by
  cases wrapper with
  | parentheses => exact ⟨.blank, read_command hq (by decide) _, rfl⟩
  | norm => exact ⟨.blank, read_command hq (by decide) _, rfl⟩
  | squareRoot => exact ⟨.text, read_command hq (by decide) _, rfl⟩

/-- **Expressions.** Outside the names of commands, the markup of an expression whose texts are
inert is read to its end, and it ends as `text`. -/
theorem read_markup {e : Expr} (h : e.IsWrittenIn isInert) {q : Stage} (hq : q.isCommand = false) :
    read q e.markup = some .text := by
  induction e generalizing q with
  | symbol glyph => exact read_word hq h
  | number digits => exact read_word hq h
  | identifier name => exact read_word hq h
  | matrix rows cols cells =>
    refine read_grid hq (read_intercalate rfl (by simpa using h.1) ?_)
    intro line hline
    obtain ⟨row, hrow, rfl⟩ := List.mem_map.mp hline
    obtain ⟨hne, hcells⟩ := h.2 row hrow
    exact read_intercalate rfl hne fun cell hcell => read_word rfl (hcells cell hcell)
  | vector orientation cells =>
    have hseparator : read .text orientation.separator = some .blank := by
      cases orientation <;> rfl
    exact read_grid hq
      (read_intercalate hseparator h.1 fun cell hcell => read_word rfl (h.2 cell hcell))
  | operation op left right hleft hright =>
    have hop : read .blank op.markup = some .text := by
      cases op <;> rfl
    show read q (left.markup ++ ' ' :: (op.markup ++ ' ' :: right.markup)) = some .text
    rw [read_append_of_eq_some (hleft h.1 hq)]
    show read .blank (op.markup ++ ' ' :: right.markup) = some .text
    rw [read_append_of_eq_some hop]
    show read .blank right.markup = some .text
    exact hright h.2 rfl
  | wrapped wrapper inner hinner =>
    obtain ⟨p, hopening, hp⟩ := read_wrapper_opening hq wrapper
    have hclosing : read .text wrapper.closing = some .text := by
      cases wrapper <;> rfl
    show read q (wrapper.opening ++ inner.markup ++ wrapper.closing) = some .text
    rw [List.append_assoc, read_append_of_eq_some hopening, read_append_of_eq_some (hinner h hp),
      hclosing]
  | integral body lower upper differential =>
    obtain ⟨hbody, hbounds, hdifferential⟩ := h
    have hcommand : read q Expr.integralCommand = some .text := read_command hq (by decide) _
    rw [Expr.markup_integral, read_append_of_eq_some hcommand,
      read_append_of_eq_some (read_writtenBounds hbounds)]
    show read .blank (body ++ _) = some .text
    rw [read_append_of_eq_some (read_word rfl hbody)]
    exact read_writtenDifferential hdifferential
  | fraction numerator denominator =>
    have hcommand : read q Expr.fractionCommand = some .text := read_command hq (by decide) _
    rw [Expr.markup_fraction, read_append_of_eq_some hcommand,
      read_append_of_eq_some (read_group rfl h.1)]
    exact read_group rfl h.2
  | power base exponent => exact read_script hq (.inr rfl) h.1 h.2
  | subscript base index => exact read_script hq (.inl rfl) h.1 h.2

end Sanitize

/-- **Expressions are rendered as they are.** If the texts of `e` are inert, `sanitize` leaves
`e.markup` as it is, so it makes no difference to `render` whether markup is cleaned before it is
shown. -/
theorem sanitize_markup_eq_self_and_render_eq {e : Expr} (h : e.IsWrittenIn isInert) :
    sanitize e.markup = e.markup ∧
      ∀ o : Options, ({ o with sanitize := true } : Options).render e =
        ({ o with sanitize := false } : Options).render e := by
  have hnormal : IsNormal e.markup := isNormal_of_read_eq_some (read_markup h rfl)
  have hclean : sanitize e.markup = e.markup :=
    (sanitize_eq_self_iff _).mpr ((sanitizePass_eq_self_iff_isNormal _).mpr hnormal)
  refine ⟨hclean, ?_⟩
  intro o
  simp only [Options.render, Options.finish, hclean, if_true]
  rfl

/-- No differential is seen in a quotient, for its operator is not written as a slash. -/
theorem sanitize_markup_quotient :
    let e := Expr.operation .divide (.identifier "dy")
      (.wrapped .norm (.integral "dx" (some "a/b") none (some [])))
    e.IsWrittenIn isInert ∧ sanitize e.markup = e.markup ∧
      Options.render { wrapDelimiters := true, sanitize := true } e =
        Options.render { wrapDelimiters := true, sanitize := false } e := by
  intro e
  have hinert : e.IsWrittenIn isInert := by decide
  obtain ⟨hclean, hrender⟩ := sanitize_markup_eq_self_and_render_eq hinert
  exact ⟨hinert, hclean, hrender { wrapDelimiters := true }⟩

end MathNotes
