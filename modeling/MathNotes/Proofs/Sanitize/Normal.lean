import Mathlib.Data.Prod.Lex
import MathNotes.Proofs.Sanitize.Rules
import MathNotes.Sanitize.Basic

/-!
# Normal markup

Markup is normal if it holds nothing that cleaning is there to remove (`IsNormal`, said of the text
alone). Cleaned markup is normal, and normal markup is what cleaning leaves as it is
(`sanitize_eq_self_iff_isNormal`).

That a pass leaves a text as it is could come from rules that undo each other. They cannot
(`sanitizePass_eq_self_iff`), since each of them shrinks what it changes by one and the same measure
(`size`): the differential rule makes a text longer, but it costs a slash, and no rule gives a slash
back.
-/

namespace MathNotes.Sanitize

open Text

/-- Markup that holds nothing for `sanitize` to remove. -/
structure IsNormal (s : Text) : Prop where
  no_scaffolding : ∀ token ∈ scaffoldingTokens, ¬ token <:+: s
  no_empty_script : ∀ word, IsEmptyScript word → ¬ word <:+: s
  /-- A differential (`IsDifferential`) is not a word of its own. -/
  no_differential : ∀ before word after, s = before ++ (word ++ after) → IsDifferential word →
    ¬ (IsWordBoundary before (word ++ after) ∧ IsWordBoundary (before ++ word) after)
  /-- The blanks are single spaces, none of them at an end. -/
  isSpacedOut : IsSpacedOut s
  no_column_mark : ¬ ['&'] <+: s
  no_row_mark : ¬ rowMark <+: s
  no_row_mark_end : ¬ rowMark <:+ s
  /-- An `&` at the end is escaped: an odd number of backslashes stands before it. -/
  no_column_mark_end : ∀ before, s = before ++ ['&'] →
    ¬ Even (before.rtakeWhile (· = '\\')).length

/-! ### The rules do not undo each other -/

/-- How much cleaning has left to do: the `slashes` count first, then the length, then the
`oddBlanks`. -/
def size (s : Text) : ℕ ×ₗ ℕ ×ₗ ℕ := toLex (slashes s, toLex (s.length, oddBlanks s))

theorem size_lt_of_slashes_lt {s t : Text} (h : slashes s < slashes t) : size s < size t := by
  rw [size, size, Prod.Lex.toLex_lt_toLex]
  exact .inl h

theorem size_lt_of_slashes_le {s t : Text} (hs : slashes s ≤ slashes t)
    (h : s.length < t.length ∨ s.length = t.length ∧ oddBlanks s < oddBlanks t) :
    size s < size t := by
  rcases Nat.lt_or_eq_of_le hs with hlt | heq
  · exact size_lt_of_slashes_lt hlt
  · rw [size, size, Prod.Lex.toLex_lt_toLex]
    exact .inr ⟨heq, Prod.Lex.toLex_lt_toLex.mpr h⟩

theorem shrinks_dropScaffolding : Shrinks size dropScaffolding := by
  intro s
  rcases dropScaffolding_eq_or_length_lt s with h | h
  · exact .inl h
  · exact .inr (size_lt_of_slashes_le (slashes_dropScaffolding_le s) (.inl h))

theorem shrinks_dropEmptyScripts : Shrinks size dropEmptyScripts := by
  intro s
  rcases dropEmptyScripts_eq_or_length_lt s with h | h
  · exact .inl h
  · exact .inr (size_lt_of_slashes_le (slashes_dropEmptyScripts_le s) (.inl h))

theorem shrinks_setDifferentials : Shrinks size setDifferentials := by
  intro s
  rcases setDifferentials_eq_or_slashes_lt s with h | h
  · exact .inl h
  · exact .inr (size_lt_of_slashes_lt h)

theorem shrinks_collapse : Shrinks size collapse := by
  intro s
  obtain ⟨hs, h | h⟩ := collapseFrom_cases s false
  · exact .inl h
  · exact .inr (size_lt_of_slashes_le hs.le h)

theorem shrinks_trimSeparators : Shrinks size trimSeparators := by
  intro s
  have hsub := trimSeparators_sublist s
  rcases shrinks_length_of_sublist trimSeparators_sublist s with h | h
  · exact .inl h
  · exact .inr (size_lt_of_slashes_le (weight_le_of_sublist _ hsub) (.inl h))

/-- A pass leaves `s` as it is iff each of the five rules does. -/
theorem sanitizePass_eq_self_iff (s : Text) :
    sanitizePass s = s ↔ trimSeparators s = s ∧ collapse s = s ∧ setDifferentials s = s ∧
      dropEmptyScripts s = s ∧ dropScaffolding s = s := by
  have h2 := shrinks_dropEmptyScripts.comp shrinks_dropScaffolding
  have h3 := shrinks_setDifferentials.comp h2
  have h4 := shrinks_collapse.comp h3
  rw [sanitizePass, shrinks_trimSeparators.comp_eq_self_iff h4,
    shrinks_collapse.comp_eq_self_iff h3, shrinks_setDifferentials.comp_eq_self_iff h2,
    shrinks_dropEmptyScripts.comp_eq_self_iff shrinks_dropScaffolding]

/-! ### The fixed points -/

theorem sanitizePass_eq_self_iff_isNormal (s : Text) : sanitizePass s = s ↔ IsNormal s := by
  rw [sanitizePass_eq_self_iff, trimSeparators_eq_self_iff, setDifferentials_eq_self_iff,
    dropEmptyScripts_eq_self_iff, dropScaffolding_eq_self_iff]
  constructor
  · rintro ⟨hends, hcollapse, hdiff, hscript, htoken⟩
    have htrim := (trim_eq_self_iff s).mpr ⟨hends.no_blank_end, hends.no_blank⟩
    exact ⟨htoken, hscript, hdiff, (isSpacedOut_iff s).mpr ⟨hcollapse, htrim⟩,
      hends.no_column_mark, hends.no_row_mark, hends.no_row_mark_end, hends.no_column_mark_end⟩
  · intro h
    obtain ⟨hcollapse, htrim⟩ := (isSpacedOut_iff s).mp h.isSpacedOut
    obtain ⟨hblankEnd, hblank⟩ := (trim_eq_self_iff s).mp htrim
    exact ⟨⟨hblank, hblankEnd, h.no_column_mark, h.no_row_mark, h.no_row_mark_end,
      h.no_column_mark_end⟩, hcollapse, h.no_differential, h.no_empty_script, h.no_scaffolding⟩

/-- Whether a text is normal is found out by a pass over it. -/
instance : DecidablePred IsNormal := fun s =>
  decidable_of_iff _ (sanitizePass_eq_self_iff_isNormal s)

theorem sanitizePass_sanitize (s : Text) : sanitizePass (sanitize s) = sanitize s := by
  fun_induction sanitize s with
  | case1 s h => exact h
  | case2 s _ ih => exact ih

theorem sanitize_sanitizePass (s : Text) : sanitize (sanitizePass s) = sanitize s := by
  rw [sanitize.eq_1 s]
  split
  · next h => rw [h, sanitize, if_pos h]
  · rfl

theorem sanitize_eq_self_iff (s : Text) : sanitize s = s ↔ sanitizePass s = s := by
  constructor
  · intro h
    have hpass := sanitizePass_sanitize s
    rwa [h] at hpass
  · intro h
    rw [sanitize, if_pos h]

/-- **The fixed points of cleaning.** `sanitize s` is normal, and it is `s` iff `s` is normal; so
cleaning twice is cleaning once. -/
theorem sanitize_eq_self_iff_isNormal (s : Text) :
    IsNormal (sanitize s) ∧ (sanitize s = s ↔ IsNormal s) ∧
      sanitize (sanitize s) = sanitize s := by
  refine ⟨?_, ?_, ?_⟩
  · exact (sanitizePass_eq_self_iff_isNormal _).mp (sanitizePass_sanitize s)
  · rw [sanitize_eq_self_iff, sanitizePass_eq_self_iff_isNormal]
  · exact (sanitize_eq_self_iff _).mpr (sanitizePass_sanitize s)

end MathNotes.Sanitize
