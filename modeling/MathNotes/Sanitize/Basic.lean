import MathNotes.Sanitize.Measure

/-!
# Cleaning markup for display

Five rules clean a piece of markup: editor scaffolding is stripped, empty scripts are dropped, bare
differentials are set as fractions, runs of blanks become one space, and separators left dangling at
the ends are trimmed. A rule can make work for one before it, so all of them are applied again
(`sanitizePass`) until nothing changes (`sanitize`).

That this ends is not plain, since the differential rule makes a text longer. What falls with every
pass that changes something is the triple of the number of slashes, the length, and the number of
blanks other than the space, compared in that order (`measure_sanitizePass_lt`): a differential
costs a slash, every other rule leaves the slashes alone and shortens the text, but for the blanks
rule, which may also turn another blank into a space.
-/

namespace MathNotes.Sanitize

open Text

/-- One application of every rule to `s`, from `dropScaffolding` to `trimSeparators`. -/
def sanitizePass (s : Text) : Text :=
  trimSeparators (collapse (setDifferentials (dropEmptyScripts (dropScaffolding s))))

/-! ### The measure -/

/-- Every pass that changes `s` makes its measure smaller: its `slashes`, or else its length, or
else its `oddBlanks`. -/
theorem measure_sanitizePass_lt {s : Text} (h : sanitizePass s ≠ s) :
    slashes (sanitizePass s) < slashes s ∨
      (slashes (sanitizePass s) = slashes s ∧
        ((sanitizePass s).length < s.length ∨
          ((sanitizePass s).length = s.length ∧ oddBlanks (sanitizePass s) < oddBlanks s))) := by
  have hpass : sanitizePass s =
      trimSeparators (collapse (setDifferentials (dropEmptyScripts (dropScaffolding s)))) := rfl
  generalize sanitizePass s = r at h hpass
  have hs1 := slashes_dropScaffolding_le s
  have hl1 := dropScaffolding_eq_or_length_lt s
  generalize dropScaffolding s = a at hpass hs1 hl1
  have hs2 := slashes_dropEmptyScripts_le a
  have hl2 := dropEmptyScripts_eq_or_length_lt a
  generalize dropEmptyScripts a = b at hpass hs2 hl2
  have h3 := setDifferentials_eq_or_slashes_lt b
  generalize setDifferentials b = d at hpass h3
  obtain ⟨hs4, h4⟩ := collapseFrom_cases d false
  rw [← collapse] at hs4 h4
  generalize collapse d = e at hpass hs4 h4
  have hsub := trimSeparators_sublist e
  have hs5 : slashes (trimSeparators e) ≤ slashes e := weight_le_of_sublist _ hsub
  have ho5 : oddBlanks (trimSeparators e) ≤ oddBlanks e := weight_le_of_sublist _ hsub
  have hl5 : trimSeparators e = e ∨ (trimSeparators e).length < e.length := by
    rcases Nat.lt_or_eq_of_le hsub.length_le with hlt | heq
    · exact .inr hlt
    · exact .inl (hsub.eq_of_length heq)
  rw [← hpass] at hs5 ho5 hl5
  rcases h3 with rfl | h3
  · -- no differential was set, so the slashes stay and the other two numbers count
    have hd : d = s ∨ d.length < s.length := by
      rcases hl2 with rfl | hl2
      · exact hl1
      · rcases hl1 with rfl | hl1
        · exact .inr hl2
        · exact .inr (Nat.lt_trans hl2 hl1)
    have he : e = s ∨ e.length < s.length ∨ (e.length = s.length ∧ oddBlanks e < oddBlanks s) := by
      rcases hd with rfl | hd
      · exact h4
      · rcases h4 with rfl | h4 | h4
        · exact .inr (.inl hd)
        · exact .inr (.inl (Nat.lt_trans h4 hd))
        · exact .inr (.inl (h4.1 ▸ hd))
    rcases he with rfl | he
    · -- only trimming is left to have changed the text
      have := hl5.resolve_left h
      omega
    · rcases hl5 with rfl | hl5 <;> omega
  · -- a differential was set, and no other rule makes a slash
    omega

/-- The markup `s` as it is displayed: cleaned by `sanitizePass` until no rule changes it. -/
def sanitize (s : Text) : Text :=
  if sanitizePass s = s then s else sanitize (sanitizePass s)
termination_by (slashes s, s.length, oddBlanks s)
decreasing_by
  next h =>
    rcases measure_sanitizePass_lt h with h | ⟨h, h' | ⟨h', h''⟩⟩
    · exact Prod.Lex.left _ _ h
    · rw [h]; exact Prod.Lex.right _ (Prod.Lex.left _ _ h')
    · rw [h, h']; exact Prod.Lex.right _ (Prod.Lex.right _ h'')

end MathNotes.Sanitize
