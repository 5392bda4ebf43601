import MathNotes.Proofs.Sanitize.Escapes

/-!
# What trimming leaves

Trimming ends at a text with nothing at its ends to take off (`isTrimmed_trimSeparators`), and all
that it has taken off was dangling (`isCutFrom_trimSeparators`). That no escaped ampersand is among
it is not plain, since the backslashes before an ampersand are counted in what is left of the text,
and some of them may have been taken off at the front. They go in pairs, though, so that the count
stays even or odd. This is so in whatever order the ends are stripped
(`even_backslashes_of_strips`), because no step of `Strips` changes which marks `marksFrom` reads as
escaped.
-/

namespace MathNotes.Sanitize

open Relation Text

variable {s t front back : Text}

/-- A text `s` of blanks and separators is read as the empty text: `ReadsAlike false [] s`. -/
theorem IsDangling.readsAlike_nil (h : IsDangling s) : ReadsAlike false [] s := by
  induction h with
  | nil => exact .refl _ _
  | @blank c s hc _ ih =>
    obtain ⟨hopen, hmarks⟩ := openAfter_and_marksFrom_of_isBlank hc false
    have hblank : ReadsAlike false [] [c] := ⟨hopen.symm, hmarks.symm⟩
    rw [← hopen] at ih
    exact hblank.append ih
  | column _ ih => exact ⟨ih.openAfter_eq, ih.marksFrom_eq⟩
  | row _ ih => exact ⟨ih.openAfter_eq, ih.marksFrom_eq⟩

/-- Whatever `front` and `back` have been stripped off `t`, in whatever order,
`before.rtakeWhile (· = '\\')` is of even length for each ampersand of theirs, with `before` all
that stands before it in the text. -/
theorem even_backslashes_of_strips (h : ReflTransGen Strips (front ++ (t ++ back)) t)
    (hfront : IsDangling front) :
    (∀ before after, front = before ++ '&' :: after →
        Even (before.rtakeWhile (· = '\\')).length) ∧
      ∀ before after, back = before ++ '&' :: after →
        Even ((front ++ (t ++ before)).rtakeWhile (· = '\\')).length := by
  obtain ⟨hclosed, hmarks⟩ := hfront.readsAlike_nil
  rw [openAfter_nil] at hclosed
  have hamp : '&' ∈ marks := by decide
  constructor
  · intro before after heq
    rw [heq] at hmarks
    exact (openAfter_eq_false_iff _).mp (openAfter_eq_false_of_marksFrom_eq_nil hamp hmarks.symm)
  · intro before after heq
    -- all escaped marks of the text are in what is left
    have hback : marksFrom (openAfter false t) back = [] := by
      have hall := marksFrom_of_strips h
      rw [marksFrom_append, marksFrom_append, ← hmarks, ← hclosed] at hall
      exact List.append_right_eq_self.mp hall.symm
    rw [heq] at hback
    rw [← openAfter_eq_false_iff, openAfter_append, openAfter_append, ← hclosed]
    exact openAfter_eq_false_of_marksFrom_eq_nil hamp hback

/-- **Trimming takes off what dangles.** What `trimSeparators` leaves of `s` stands in `s` between
blanks and separators (`IsCutFrom`), has nothing more of them at its ends (`IsTrimmed`), and is come
to by stripping one thing after another (`Strips`). In whatever order things are stripped off
`s = front ++ (t ++ back)`, and so by `trimSeparators`, no ampersand of `front` or `back` is
escaped: the number of backslashes before it in `s` is even. -/
theorem trimSeparators_takes_off_dangling (s : Text) :
    IsCutFrom (trimSeparators s) s ∧ IsTrimmed (trimSeparators s) ∧
      ReflTransGen Strips s (trimSeparators s) ∧
      ∀ t front back, ReflTransGen Strips s t → s = front ++ (t ++ back) → IsDangling front →
        (∀ before after, front = before ++ '&' :: after →
            Even (before.rtakeWhile (· = '\\')).length) ∧
          ∀ before after, back = before ++ '&' :: after →
            Even ((front ++ (t ++ before)).rtakeWhile (· = '\\')).length := by
  refine ⟨isCutFrom_trimSeparators s, isTrimmed_trimSeparators s, strips_trimSeparators s, ?_⟩
  rintro t front back h rfl hfront
  exact even_backslashes_of_strips h hfront

/-- Two of the three backslashes before the first ampersand are taken off, which leaves it escaped;
before the second there are four. -/
theorem trimSeparators_takes_off_dangling_rows :
    let s : Text := "\\\\\\& \\\\\\\\&".toList
    let front : Text := "\\\\".toList
    let back : Text := " \\\\\\\\&".toList
    s = front ++ (trimSeparators s ++ back) ∧ trimSeparators s = "\\&".toList ∧
      Even ((front ++ (trimSeparators s ++ " \\\\\\\\".toList)).rtakeWhile (· = '\\')).length := by
  intro s front back
  have htrim : trimSeparators s = "\\&".toList := by decide +kernel
  have hs : s = front ++ (trimSeparators s ++ back) := by
    rw [htrim]
    rfl
  have hfront : IsDangling front := .row .nil
  obtain ⟨-, -, hstrips, heven⟩ := trimSeparators_takes_off_dangling s
  exact ⟨hs, htrim, (heven _ front back hstrips hs hfront).2 " \\\\\\\\" [] rfl⟩

end MathNotes.Sanitize
