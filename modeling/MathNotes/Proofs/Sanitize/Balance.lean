import MathNotes.Proofs.Sanitize.Dangling
import MathNotes.Proofs.Sanitize.Rules
import MathNotes.Proofs.Text.Braces
import MathNotes.Sanitize.Basic

/-!
# Cleaning keeps braces balanced

Each of the rules that clean markup takes braces out in pairs and puts them in in pairs
(`KeepsBraces`), so after every text as many groups are open when it has been cleaned as before
(`braceDepth_sanitize`). So `sanitize s` is balanced iff `s` is (`isBalanced_sanitize_iff`).
-/

namespace MathNotes.Sanitize

open Text

/-! ### The rules that replace -/

theorem keepsBraces_scaffoldingRule : KeepsBraces scaffoldingRule := by
  intro before c rest m hm
  obtain ⟨token, htoken, after, hs, rfl⟩ := exists_of_scaffoldingRule_eq_some hm
  have hbalanced : ∀ token ∈ scaffoldingTokens, token ≠ [] ∧ IsBalanced token := by decide
  obtain ⟨hne, htokenBalanced⟩ := hbalanced token htoken
  refine ⟨?_, isBalanced_nil⟩
  rwa [(cons_take_and_drop_of_cons_eq_append hne hs).1]

theorem IsEmptyScript.isBalanced {word : Text} (h : IsEmptyScript word) : IsBalanced word := by
  obtain ⟨mark, inner, hmark, hinner, rfl⟩ := h
  have hblank : IsBalanced inner := by
    refine isBalanced_of_not_mem ?_ ?_ <;>
    · intro hmem
      exact absurd (hinner _ hmem) (by decide)
  rcases hmark with rfl | rfl
  · exact .cons (by decide) (by decide) hblank.group
  · exact .cons (by decide) (by decide) hblank.group

theorem keepsBraces_emptyScriptRule : KeepsBraces emptyScriptRule := by
  intro before c rest m hm
  obtain ⟨word, after, hword, hs, rfl⟩ := emptyScriptRule_eq_some_iff.mp hm
  refine ⟨?_, isBalanced_nil⟩
  rw [(cons_take_and_drop_of_cons_eq_append hword.ne_nil hs).1]
  exact hword.isBalanced

theorem isBalanced_of_isAlpha {s : Text} (h : ∀ c ∈ s, c.isAlpha = true) :
    IsBalanced s := by
  refine isBalanced_of_not_mem ?_ ?_ <;>
  · intro hmem
    exact absurd (h _ hmem) (by decide)

/-- There are only letters on both sides of the slash, and `differentialFraction` puts letters in
groups. -/
theorem isBalanced_differential {f : Text} {v : Char} (hf : ∀ c ∈ f, c.isAlpha = true)
    (hv : v.isAlpha = true) :
    IsBalanced ('d' :: (f ++ ['/', 'd', v])) ∧ IsBalanced (differentialFraction f v) := by
  have hd : Char.isAlpha 'd' = true := by decide
  have hfunction : IsBalanced ('d' :: f) :=
    isBalanced_of_isAlpha (List.forall_mem_cons.mpr ⟨hd, hf⟩)
  have hvariable : IsBalanced ['d', v] :=
    isBalanced_of_isAlpha (by simp [hd, hv])
  have hcommand : IsBalanced "\\frac".toList := by decide
  refine ⟨?_, (hcommand.append hfunction.group).append hvariable.group⟩
  exact hfunction.append (.cons (by decide) (by decide) hvariable)

theorem keepsBraces_differentialRule : KeepsBraces differentialRule := by
  intro before c rest m hm
  obtain ⟨f, v, after, -, hf, hv, hs, -, -, rfl⟩ := differentialRule_eq_some_iff.mp hm
  obtain ⟨hdifferential, hfraction⟩ := isBalanced_differential hf hv
  refine ⟨?_, hfraction⟩
  rwa [(cons_take_and_drop_of_cons_eq_append (List.cons_ne_nil _ _) hs).1]

/-! ### Blanks and separators -/

theorem braceDepth_collapseFrom (s : Text) (inRun : Bool) (depth : Nat) :
    braceDepth depth (collapseFrom inRun s) = braceDepth depth s := by
  induction s generalizing inRun depth with
  | nil => rfl
  | cons c s ih =>
    rw [collapseFrom]
    split
    · next hc =>
      have hblank : IsBalanced [c] :=
        .cons (by rintro rfl; cases hc) (by rintro rfl; cases hc) isBalanced_nil
      have hspace : IsBalanced [' '] := by decide
      have hrest : braceDepth depth (c :: s) = braceDepth depth s := hblank.braceDepth_append _ s
      split
      · rw [ih, hrest]
      · rw [hrest, ← ih true]
        exact hspace.braceDepth_append _ _
    · rw [braceDepth_cons, braceDepth_cons]
      exact congrArg _ (funext fun d => ih false d)

theorem IsDangling.isBalanced {s : Text} (h : IsDangling s) : IsBalanced s := by
  induction h with
  | nil => exact isBalanced_nil
  | blank hc _ ih => exact ih.cons (by rintro rfl; cases hc) (by rintro rfl; cases hc)
  | column _ ih => exact ih.cons (by decide) (by decide)
  | row _ ih => exact (ih.cons (by decide) (by decide)).cons (by decide) (by decide)

theorem IsCutFrom.braceDepth_eq {s t : Text} (h : IsCutFrom t s) (depth : Nat) :
    braceDepth depth t = braceDepth depth s := by
  obtain ⟨front, back, hfront, hback, rfl⟩ := h
  rw [hfront.isBalanced.braceDepth_append, hback.isBalanced.braceDepth_append_right]

/-! ### Cleaning -/

theorem braceDepth_sanitizePass (depth : Nat) (s : Text) :
    braceDepth depth (sanitizePass s) = braceDepth depth s := by
  rw [sanitizePass, (isCutFrom_trimSeparators _).braceDepth_eq, collapse, braceDepth_collapseFrom,
    setDifferentials, braceDepth_replace keepsBraces_differentialRule,
    dropEmptyScripts, braceDepth_replace keepsBraces_emptyScriptRule,
    dropScaffolding, braceDepth_replace keepsBraces_scaffoldingRule]

theorem braceDepth_sanitize (depth : Nat) (s : Text) :
    braceDepth depth (sanitize s) = braceDepth depth s := by
  fun_induction sanitize s with
  | case1 s _ => rfl
  | case2 s _ ih => rw [ih, braceDepth_sanitizePass]

theorem isBalanced_sanitize_iff (s : Text) : IsBalanced (sanitize s) ↔ IsBalanced s := by
  rw [isBalanced_iff_braceDepth, isBalanced_iff_braceDepth, braceDepth_sanitize]

end MathNotes.Sanitize
