import MathNotes.Proofs.Sanitize.Normal
import MathNotes.Proofs.Text.Border
import MathNotes.Render

/-!
# What is rendered needs no more cleaning

Delimiters are put around markup that has been cleaned, so what was an end of it is now within a
text. Still there is nothing new to clean (`isNormal_delimited`): between a delimiter and the markup
stands a space, which is no part of a mark of the editor or a differential and which is no word
character either, and an empty script would need a brace that no delimiter has. So rendering with
cleaning gives a text that cleaning leaves as it is, and it gives nothing exactly where cleaning
leaves nothing (`sanitize_render_eq_self_and_eq_nil_iff`).
-/

namespace MathNotes

open Text

namespace Sanitize

/-- The delimiters of `Options.opening` and `Options.closing`, without the space between them and
what they surround. -/
def delimiters : List Text := ["\\[", "\\(", "\\]", "\\)"]

variable {l r s : Text}

/-- A `word` without spaces that is found in delimited markup is found in one of the three parts. -/
theorem not_infix_delimited {word : Text} (hspace : ' ' ∉ word) (hl : ¬ word <:+: l)
    (hs : ¬ word <:+: s) (hr : ¬ word <:+: r) : ¬ word <:+: l ++ ' ' :: (s ++ ' ' :: r) := by
  intro h
  rcases infix_or_infix_of_not_mem hspace h with h | h
  · exact hl h
  · rcases infix_or_infix_of_not_mem hspace h with h | h
    · exact hs h
    · exact hr h

/-- An empty script begins in the markup `s`, since no delimiter has an opening brace, and ends
there, since none has a closing one. -/
theorem not_infix_delimited_of_isEmptyScript {word : Text} (hword : IsEmptyScript word)
    (hl : l ∈ delimiters) (hs : ¬ word <:+: s) (hr : r ∈ delimiters) :
    ¬ word <:+: l ++ ' ' :: (s ++ ' ' :: r) := by
  have hbraces : ∀ d ∈ delimiters, '{' ∉ d ∧ '}' ∉ d := by decide
  rintro ⟨before, after, heq⟩
  obtain ⟨mark, inner, hmark, -, rfl⟩ := hword
  have hspace : ' ' ∉ [mark, '{'] := by
    rcases hmark with rfl | rfl <;> decide
  have hstart : before ++ ([mark, '{'] ++ (inner ++ '}' :: after)) =
      l ++ ' ' :: (s ++ ' ' :: r) := by
    rw [← heq, group]
    simp
  rcases eq_append_or_eq_append_of_not_mem hspace hstart with ⟨rest, rfl, -⟩ | ⟨front, hfront, -⟩
  · exact absurd (by simp) (hbraces _ hl).1
  · rcases eq_append_or_eq_append_of_not_mem hspace hfront.symm with
      ⟨rest, hrest, hend⟩ | ⟨front', rfl, -⟩
    · -- the script begins in the markup, and the closing brace decides where it ends
      rcases eq_append_or_eq_append_of_not_mem (show ' ' ∉ ['}'] by decide) hend with
        ⟨rest', rfl, -⟩ | ⟨front', rfl, -⟩
      · refine hs ⟨front, rest', ?_⟩
        rw [hrest, group]
        simp
      · exact absurd (by simp) (hbraces _ hr).2
    · exact absurd (by simp) (hbraces _ hr).1

/-- Before a differential a space is as good as the end of the text, and so it is after one: what
stands in `t` beyond it is of no account. -/
theorem isWordBorder_getLast?_append_space (t front : Text) :
    isWordBorder (t ++ ' ' :: front).getLast? = isWordBorder front.getLast? := by
  rcases List.eq_nil_or_concat' front with rfl | ⟨front, c, rfl⟩
  · rw [List.getLast?_concat]
    decide
  · rw [← List.cons_append, ← List.append_assoc, List.getLast?_concat, List.getLast?_concat]

theorem isWordBorder_head?_append_space (rest t : Text) :
    isWordBorder (rest ++ ' ' :: t).head? = isWordBorder rest.head? := by
  cases rest with
  | nil =>
    show isWordBorder (some ' ') = isWordBorder none
    decide
  | cons c rest => rfl

theorem no_differential_delimited (hl : l ∈ delimiters) (h : IsNormal s) (hr : r ∈ delimiters)
    {before word after : Text} (heq : l ++ ' ' :: (s ++ ' ' :: r) = before ++ (word ++ after))
    (hword : IsDifferential word) :
    ¬ (IsWordBoundary before (word ++ after) ∧ IsWordBoundary (before ++ word) after) := by
  have hslash : ∀ d ∈ delimiters, '/' ∉ d := by decide
  have hspace : ' ' ∉ word ∧ '/' ∈ word := by
    obtain ⟨f, v, -, hf, hv, rfl⟩ := hword
    have hf' : ' ' ∉ f := fun hmem => absurd (hf _ hmem) (by decide)
    have hv' : ' ' ≠ v := by rintro rfl; exact absurd hv (by decide)
    simp [hf', hv']
  rcases eq_append_or_eq_append_of_not_mem hspace.1 heq.symm with
    ⟨rest, rfl, -⟩ | ⟨front, hfront, rfl⟩
  · exact absurd (by simp [hspace.2]) (hslash _ hl)
  · rcases eq_append_or_eq_append_of_not_mem hspace.1 hfront.symm with
      ⟨rest, hrest, rfl⟩ | ⟨front', rfl, -⟩
    · have hinside := h.no_differential front word rest hrest hword
      rw [isWordBoundary_front_iff hword, isWordBoundary_end_iff hword] at hinside ⊢
      rwa [isWordBorder_getLast?_append_space, isWordBorder_head?_append_space]
    · exact absurd (by simp [hspace.2]) (hslash _ hr)

/-! ### Blanks -/

theorem hasSingleSpaces_of_forall_not_isBlank (h : ∀ c ∈ s, isBlank c = false) :
    HasSingleSpaces s := by
  rintro before c after rfl hc
  rw [h c (List.mem_append_right _ (List.mem_cons_self ..))] at hc
  cases hc

/-- Texts `s` and `t` with single spaces are put together with a space, if there is no blank at
either side. -/
theorem hasSingleSpaces_append_space {t : Text} (hs : HasSingleSpaces s)
    (hlast : s.getLast?.any isBlank = false) (ht : HasSingleSpaces t)
    (hhead : t.head?.any isBlank = false) : HasSingleSpaces (s ++ ' ' :: t) := by
  induction s with
  | nil => exact hasSingleSpaces_cons_iff.mpr ⟨fun _ => ⟨rfl, hhead⟩, ht⟩
  | cons c s ih =>
    obtain ⟨hc, hrest⟩ := hasSingleSpaces_cons_iff.mp hs
    rw [List.cons_append, hasSingleSpaces_cons_iff]
    cases s with
    | nil =>
      have hblank : isBlank c = false := by simpa using hlast
      refine ⟨fun h => ?_, hasSingleSpaces_cons_iff.mpr ⟨fun _ => ⟨rfl, hhead⟩, ht⟩⟩
      rw [hblank] at h
      cases h
    | cons d s =>
      rw [List.getLast?_cons_cons] at hlast
      exact ⟨hc, ih hrest hlast⟩

/-- Delimited markup begins with a backslash, as its first delimiter `l` does. -/
theorem head?_delimited (hl : l ∈ delimiters) (t : Text) : (l ++ t).head? = some '\\' := by
  have hfirst : ∀ d ∈ delimiters, d ≠ [] ∧ d.head? = some '\\' := by decide
  obtain ⟨hne, hhead⟩ := hfirst l hl
  rw [List.head?_append_of_ne_nil _ hne, hhead]

/-- Delimited markup ends as its last delimiter `r` does. -/
theorem getLast?_delimited (hr : r ∈ delimiters) (t : Text) :
    (t ++ ' ' :: r).getLast? = r.getLast? := by
  have hne : ∀ d ∈ delimiters, d ≠ [] := by decide
  rw [List.append_cons, List.getLast?_append_of_ne_nil _ (hne r hr)]

theorem isSpacedOut_delimited (hl : l ∈ delimiters) (h : IsSpacedOut s) (hne : s ≠ [])
    (hr : r ∈ delimiters) : IsSpacedOut (l ++ ' ' :: (s ++ ' ' :: r)) := by
  have hall : ∀ d ∈ delimiters, (d.any isBlank) = false := by decide
  have hblank : ∀ d ∈ delimiters, ∀ c ∈ d, isBlank c = false := fun d hd =>
    by simpa using hall d hd
  rw [isSpacedOut_iff, collapse_eq_self_iff, trim_eq_self_iff] at h ⊢
  obtain ⟨hsingle, hlast, hhead⟩ := h
  refine ⟨?_, ?_, ?_⟩
  · have hrest : HasSingleSpaces (s ++ ' ' :: r) :=
      hasSingleSpaces_append_space hsingle hlast
        (hasSingleSpaces_of_forall_not_isBlank (hblank r hr))
        (head?_any_isBlank_eq_false (hblank r hr))
    refine hasSingleSpaces_append_space (hasSingleSpaces_of_forall_not_isBlank (hblank l hl))
      (getLast?_any_isBlank_eq_false (hblank l hl)) hrest ?_
    rwa [List.head?_append_of_ne_nil _ hne]
  · rw [← List.cons_append, ← List.append_assoc, getLast?_delimited hr]
    exact getLast?_any_isBlank_eq_false (hblank r hr)
  · rw [head?_delimited hl]
    decide

/-! ### Delimited markup -/

/-- **Delimiters make nothing to clean.** Normal markup `s` that is not empty is normal with
`delimiters` and spaces around it, too. -/
theorem isNormal_delimited (hl : l ∈ delimiters) (h : IsNormal s) (hne : s ≠ [])
    (hr : r ∈ delimiters) : IsNormal (l ++ ' ' :: (s ++ ' ' :: r)) where
  no_scaffolding token htoken := by
    have hspace : ∀ token ∈ scaffoldingTokens, ' ' ∉ token := by decide
    have hdelimiters : ∀ d ∈ delimiters, ∀ token ∈ scaffoldingTokens, ¬ token <:+: d := by decide
    exact not_infix_delimited (hspace token htoken) (hdelimiters l hl token htoken)
      (h.no_scaffolding token htoken) (hdelimiters r hr token htoken)
  no_empty_script word hword :=
    not_infix_delimited_of_isEmptyScript hword hl (h.no_empty_script word hword) hr
  no_differential _ _ _ heq hword := no_differential_delimited hl h hr heq hword
  isSpacedOut := isSpacedOut_delimited hl h.isSpacedOut hne hr
  no_column_mark := by
    rintro ⟨after, hafter⟩
    have hhead := head?_delimited hl (' ' :: (s ++ ' ' :: r))
    rw [← hafter] at hhead
    cases hhead
  no_row_mark := by
    have hsecond : ∀ d ∈ delimiters, 1 < d.length ∧ d[1]? ≠ some '\\' := by decide
    rintro ⟨after, hafter⟩
    obtain ⟨hlen, hne⟩ := hsecond l hl
    rw [← List.getElem?_append_left hlen, ← hafter] at hne
    exact hne rfl
  no_row_mark_end := by
    have hlast : ∀ d ∈ delimiters, d.getLast? ≠ some '\\' := by decide
    rintro ⟨before, hbefore⟩
    have hend := getLast?_delimited hr (l ++ ' ' :: s)
    rw [List.append_assoc, List.cons_append, ← hbefore,
      List.getLast?_append_of_ne_nil _ (by decide)] at hend
    exact hlast r hr hend.symm
  no_column_mark_end := by
    have hlast : ∀ d ∈ delimiters, d.getLast? ≠ some '&' := by decide
    intro before hbefore
    have hend := getLast?_delimited hr (l ++ ' ' :: s)
    rw [List.append_assoc, List.cons_append, hbefore, List.getLast?_concat] at hend
    exact absurd hend.symm (hlast r hr)

end Sanitize

namespace Options

variable (o : Options)

/-- The delimiters of the options `o` are of `Sanitize.delimiters`, with the spaces within them. -/
theorem exists_delimiters : ∃ l ∈ Sanitize.delimiters, ∃ r ∈ Sanitize.delimiters,
    o.opening = l ++ [' '] ∧ o.closing = ' ' :: r := by
  unfold opening closing
  split
  · exact ⟨"\\[", by decide, "\\]", by decide, rfl, rfl⟩
  · exact ⟨"\\(", by decide, "\\)", by decide, rfl, rfl⟩

/-- What is finished with cleaning is the cleaned markup or, if that is not empty, the cleaned
markup between `o.opening` and `o.closing`. -/
theorem finish_cases (ho : o.sanitize = true) (markup : Text) :
    o.finish markup = Sanitize.sanitize markup ∨
      (Sanitize.sanitize markup ≠ [] ∧
        o.finish markup = o.opening ++ Sanitize.sanitize markup ++ o.closing) := by
  unfold finish
  rw [if_pos ho]
  dsimp only
  split
  · exact .inl rfl
  · next h =>
    refine .inr ⟨?_, rfl⟩
    intro hnil
    rw [hnil] at h
    exact h rfl

theorem isNormal_finish (ho : o.sanitize = true) (markup : Text) :
    Sanitize.IsNormal (o.finish markup) := by
  have hclean : Sanitize.IsNormal (Sanitize.sanitize markup) :=
    (Sanitize.sanitizePass_eq_self_iff_isNormal _).mp (Sanitize.sanitizePass_sanitize markup)
  rcases o.finish_cases ho markup with h | ⟨hne, h⟩
  · rwa [h]
  · obtain ⟨l, hl, r, hr, hopening, hclosing⟩ := o.exists_delimiters
    rw [h, hopening, hclosing, List.append_assoc, List.append_assoc]
    exact Sanitize.isNormal_delimited hl hclean hne hr

theorem sanitize_finish (ho : o.sanitize = true) (markup : Text) :
    Sanitize.sanitize (o.finish markup) = o.finish markup := by
  rw [Sanitize.sanitize_eq_self_iff, Sanitize.sanitizePass_eq_self_iff_isNormal]
  exact o.isNormal_finish ho markup

theorem finish_eq_nil_iff (ho : o.sanitize = true) (markup : Text) :
    o.finish markup = [] ↔ Sanitize.sanitize markup = [] := by
  rcases o.finish_cases ho markup with h | ⟨hne, h⟩
  · rw [h]
  · obtain ⟨l, hl, r, hr, hopening, hclosing⟩ := o.exists_delimiters
    rw [h, hclosing]
    simp [hne]

/-- Delimiters with nothing between them have two spaces in a row, which `sanitize` leaves
nowhere. -/
theorem finish_ne_delimiters (ho : o.sanitize = true) (markup : Text) :
    o.finish markup ≠ o.opening ++ o.closing := by
  obtain ⟨l, hl, r, hr, hopening, hclosing⟩ := o.exists_delimiters
  intro h
  have hnormal := o.isNormal_finish ho markup
  rw [h, hopening, hclosing, List.append_assoc] at hnormal
  obtain ⟨-, a, b, -, hafter, -, hb⟩ := hnormal.isSpacedOut l ' ' (' ' :: r) rfl rfl
  obtain rfl := Option.some.inj hafter
  exact absurd hb (by decide)

end Options

/-- **What is rendered is stable.** Where markup is cleaned, `o.sanitize = true`, with delimiters or
without, `sanitize` leaves what `render` and `renderTemplate` yield as it is; that is nothing
exactly where `sanitize` leaves nothing of the markup, and never delimiters with nothing between
them. -/
theorem sanitize_render_eq_self_and_eq_nil_iff (o : Options) (ho : o.sanitize = true) :
    (∀ e : Expr,
      Sanitize.sanitize (o.render e) = o.render e ∧
        (o.render e = [] ↔ Sanitize.sanitize e.markup = []) ∧
        o.render e ≠ o.opening ++ o.closing) ∧
      ∀ (id : Text) (values : SlotValues),
        Sanitize.sanitize (o.renderTemplate id values) = o.renderTemplate id values ∧
          (o.renderTemplate id values = [] ↔
            Sanitize.sanitize (Template.standard.compile id values) = []) ∧
          o.renderTemplate id values ≠ o.opening ++ o.closing := by
  constructor
  · intro e
    exact ⟨o.sanitize_finish ho _, o.finish_eq_nil_iff ho _, o.finish_ne_delimiters ho _⟩
  · intro id values
    exact ⟨o.sanitize_finish ho _, o.finish_eq_nil_iff ho _, o.finish_ne_delimiters ho _⟩

/-- A differential stands next to one of the delimiters and an open script group next to the other;
an unknown template shows nothing. -/
theorem sanitize_render_open_script :
    let o : Options := { displayStyle := true, wrapDelimiters := true }
    let e := Expr.symbol "& dy/dx _\x7b "
    o.sanitize = true ∧ Sanitize.sanitize (o.render e) = o.render e ∧
      (o.renderTemplate "unknown" [] = [] ↔
        Sanitize.sanitize (Template.standard.compile "unknown" []) = []) := by
  intro o e
  have ho : o.sanitize = true := rfl
  obtain ⟨hrender, htemplate⟩ := sanitize_render_eq_self_and_eq_nil_iff o ho
  exact ⟨ho, (hrender e).1, (htemplate "unknown" []).2.1⟩

end MathNotes
