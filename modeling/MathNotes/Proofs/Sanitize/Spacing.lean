import Mathlib.Data.List.Find
import MathNotes.Proofs.Sanitize.Normal
import MathNotes.Proofs.Text.Delimited
import MathNotes.Proofs.Text.Spacing

/-!
# Cleaning does not depend on the spacing

Two texts that are the same but for their blanks are cleaned to the same markup
(`sanitize_eq_of_collapse_trim_eq`).

Blanks are put in order only after three of the rules have been applied, so each of these must be
shown to look no closer at blanks than to see whether there are any (`RespectsSpacing`): tokens have
none, the inside of an empty script may be any run of them, and beside a differential a blank is a
border like any other. Then the three rules keep the two texts the same but for their blanks, and
the next two rules make them the same.
-/

namespace MathNotes.Sanitize

open Text

variable {s t : Text}

/-! ### The rules that replace -/

theorem isBlank_eq_false_of_mem_scaffoldingTokens {token : Text}
    (h : token ∈ scaffoldingTokens) : ∀ c ∈ token, isBlank c = false := by
  have hall : scaffoldingTokens.all (·.all (!isBlank ·)) = true := by decide
  intro c hc
  have htoken := List.all_eq_true.mp hall token h
  simpa using List.all_eq_true.mp htoken c hc

/-- A `word` without blanks is at the front of both of two texts with the same `respaced`, or of
none. -/
theorem isPrefixOf_congr {word : Text} (hword : ∀ c ∈ word, isBlank c = false)
    (h : respaced s = respaced t) : word.isPrefixOf s = word.isPrefixOf t := by
  rw [Bool.eq_iff_iff, List.isPrefixOf_iff_prefix, List.isPrefixOf_iff_prefix]
  constructor
  · rintro ⟨after, rfl⟩
    obtain ⟨after', rfl, -⟩ := exists_append_of_respaced_eq hword h
    exact List.prefix_append ..
  · rintro ⟨after, rfl⟩
    obtain ⟨after', rfl, -⟩ := exists_append_of_respaced_eq hword h.symm
    exact List.prefix_append ..

theorem scaffoldingRule_congr {before before' : Option Char} {c : Char}
    (h : respaced (c :: s) = respaced (c :: t)) :
    scaffoldingRule before c s = scaffoldingRule before' c t := by
  have hfind : scaffoldingTokens.find? (·.isPrefixOf (c :: s)) =
      scaffoldingTokens.find? (·.isPrefixOf (c :: t)) :=
    List.find?_congr fun token htoken =>
      isPrefixOf_congr (isBlank_eq_false_of_mem_scaffoldingTokens htoken) h
  rw [scaffoldingRule, scaffoldingRule, hfind]

theorem respectsSpacing_scaffoldingRule : RespectsSpacing scaffoldingRule where
  none_of_isBlank := by
    intro before c rest hc
    rw [scaffoldingRule_eq_none_iff]
    rintro token htoken ⟨after, hs⟩
    obtain ⟨d, token, rfl⟩ := List.exists_cons_of_ne_nil (ne_nil_of_mem_scaffoldingTokens htoken)
    obtain ⟨rfl, -⟩ := List.cons.inj hs
    have hd := isBlank_eq_false_of_mem_scaffoldingTokens htoken d (List.mem_cons_self ..)
    rw [hc] at hd
    cases hd
  exists_of_some := by
    intro before before' c s t m _ hc h hm
    have hcons : respaced (c :: s) = respaced (c :: t) := by
      rw [respaced_cons_of_not_isBlank hc, respaced_cons_of_not_isBlank hc, h]
    refine ⟨m, by rwa [← scaffoldingRule_congr hcons], rfl, ?_⟩
    obtain ⟨token, htoken, after, hs, rfl⟩ := exists_of_scaffoldingRule_eq_some hm
    have hne := ne_nil_of_mem_scaffoldingTokens htoken
    obtain ⟨after', ht, hafter⟩ := exists_append_of_respaced_eq
      (isBlank_eq_false_of_mem_scaffoldingTokens htoken) (hs ▸ hcons)
    exact respaced_drop_and_getLast?_take hne hne hs ht rfl hafter

theorem getLast?_cons_group (c : Char) (inner : Text) :
    (c :: group inner).getLast? = some '}' := by
  rw [group, ← List.cons_append, ← List.cons_append, List.getLast?_concat]

theorem respectsSpacing_emptyScriptRule : RespectsSpacing emptyScriptRule where
  none_of_isBlank := by
    intro before c rest hc
    rw [emptyScriptRule_eq_none_iff]
    rintro word ⟨mark, inner, hmark, -, rfl⟩ ⟨after, hs⟩
    obtain ⟨rfl, -⟩ := List.cons.inj hs
    rcases hmark with rfl | rfl <;> cases hc
  exists_of_some := by
    intro before before' c s t m _ hc h hm
    obtain ⟨word, after, ⟨mark, inner, hmark, hinner, rfl⟩, hs, rfl⟩ :=
      emptyScriptRule_eq_some_iff.mp hm
    obtain ⟨rfl, hrest⟩ := List.cons.inj hs
    rw [List.append_eq, group_append] at hrest
    subst hrest
    -- the group may be empty in another way, but it is there and it is closed
    rw [respaced_cons_of_not_isBlank (by decide)] at h
    obtain ⟨t', rfl, ht⟩ := exists_of_respaced_eq_cons (by decide) h.symm
    obtain ⟨inner', after', hinner', rfl, hafter⟩ :=
      exists_blanks_append_of_respaced_eq hinner (by decide) ht.symm
    have hword' : IsEmptyScript (c :: group inner') := ⟨c, inner', hmark, hinner', rfl⟩
    have ht : c :: '{' :: (inner' ++ '}' :: after') = (c :: group inner') ++ after' := by
      rw [List.cons_append, group_append]
    refine ⟨_, emptyScriptRule_eq_some_iff.mpr ⟨_, _, hword', ht, rfl⟩, rfl, ?_⟩
    refine respaced_drop_and_getLast?_take (List.cons_ne_nil _ _) (List.cons_ne_nil _ _) hs ht ?_
      hafter
    rw [getLast?_cons_group, getLast?_cons_group]

/-- Behind a place there is a word in both of two texts with the same `respaced`, or in none. -/
theorem isWordBorder_head?_congr (h : respaced s = respaced t) :
    isWordBorder s.head? = isWordBorder t.head? := by
  have hblank {r : Text} (hr : trimStart r = []) : isWordBorder r.head? = true := by
    cases r with
    | nil => rfl
    | cons c r =>
      have hc : isBlank c = true := by
        by_contra hc
        rw [trimStart_cons_of_not_isBlank (by simpa using hc)] at hr
        cases hr
      rw [isWordBorder, List.head?_cons, Option.any_some, isWordChar_eq_false_of_isBlank hc]
      rfl
  rcases cases_of_respaced_eq h with ⟨hs, ht⟩ | ⟨c, s', t', -, rfl, rfl, -⟩ |
    ⟨c, d, s', t', hc, hd, rfl, rfl, -⟩
  · rw [hblank hs, hblank ht]
  · rfl
  · rw [isWordBorder, isWordBorder, List.head?_cons, List.head?_cons, Option.any_some,
      Option.any_some, isWordChar_eq_false_of_isBlank hc, isWordChar_eq_false_of_isBlank hd]

theorem respectsSpacing_differentialRule : RespectsSpacing differentialRule where
  none_of_isBlank := by
    intro before c rest hc
    rw [differentialRule_eq_none_iff]
    rintro word after hs ⟨f, v, -, -, -, rfl⟩
    obtain ⟨rfl, -⟩ := List.cons.inj hs
    cases hc
  exists_of_some := by
    intro before before' c s t m hbefore hc h hm
    obtain ⟨f, v, after, hlen, hf, hv, hs, hborder, hborder', rfl⟩ :=
      differentialRule_eq_some_iff.mp hm
    have hword : ∀ d ∈ 'd' :: (f ++ ['/', 'd', v]), isBlank d = false := by
      have hletter : ∀ d ∈ f, isBlank d = false := fun d hd =>
        isBlank_eq_false_of_isAlpha (hf d hd)
      have hend : ∀ d ∈ ['/', 'd', v], isBlank d = false := by
        simp only [List.forall_mem_cons]
        exact ⟨by decide, by decide, isBlank_eq_false_of_isAlpha hv, by simp⟩
      exact List.forall_mem_cons.mpr ⟨by decide, List.forall_mem_append.mpr ⟨hletter, hend⟩⟩
    have hcons : respaced (c :: s) = respaced (c :: t) := by
      rw [respaced_cons_of_not_isBlank hc, respaced_cons_of_not_isBlank hc, h]
    obtain ⟨after', ht, hafter⟩ := exists_append_of_respaced_eq hword (hs ▸ hcons)
    have hborders : isWordBorder before' = true ∧ isWordBorder after'.head? = true :=
      ⟨by rwa [isWordBorder, ← hbefore], by rwa [← isWordBorder_head?_congr hafter]⟩
    refine ⟨_, differentialRule_eq_some_iff.mpr
      ⟨f, v, after', hlen, hf, hv, ht, hborders.1, hborders.2, rfl⟩, rfl, ?_⟩
    exact respaced_drop_and_getLast?_take (List.cons_ne_nil _ _) (List.cons_ne_nil _ _) hs ht rfl
      hafter

/-! ### Trimming -/

/-- A `trimRound` more in front does not change what `trimSeparators` comes to. -/
theorem trimSeparators_trimRound (s : Text) : trimSeparators (trimRound s) = trimSeparators s := by
  rw [trimSeparators.eq_1 s]
  split
  · rfl
  · next hlt =>
    have hround := trimRound_eq_self_of_not_lt hlt
    rw [hround, (trimSeparators_eq_self_iff s).mpr ((trimRound_eq_self_iff s).mp hround)]

/-- What `trimSeparators` does begins with `trim`, so it depends on no more of `s` than `trim s`. -/
theorem trimSeparators_congr (h : trim s = trim t) : trimSeparators s = trimSeparators t := by
  rw [← trimSeparators_trimRound s, ← trimSeparators_trimRound t, trimRound, trimRound, h]

/-! ### Cleaning -/

theorem sanitizePass_congr (h : collapse (trim s) = collapse (trim t)) :
    sanitizePass s = sanitizePass t := by
  refine trimSeparators_congr ?_
  rw [trim_collapse, trim_collapse]
  exact collapse_trim_replace respectsSpacing_differentialRule <|
    collapse_trim_replace respectsSpacing_emptyScriptRule <|
      collapse_trim_replace respectsSpacing_scaffoldingRule h

/-- **The spacing of markup does not matter.** If `s` and `t` become the same under `trim` and
`collapse`, then `sanitize s = sanitize t`. -/
theorem sanitize_eq_of_collapse_trim_eq (h : collapse (trim s) = collapse (trim t)) :
    sanitize s = sanitize t := by
  rw [← sanitize_sanitizePass s, ← sanitize_sanitizePass t, sanitizePass_congr h]

/-- The blanks of an empty script, those that merge when it is dropped and those beside a
differential may be others. -/
theorem sanitize_respaced_differential :
    collapse (trim "\u2003dy/dx\t\u2009x_{  }\n\n\u3000&".toList) =
        collapse (trim "dy/dx x_{ } & ".toList) ∧
      sanitize "\u2003dy/dx\t\u2009x_{  }\n\n\u3000&".toList =
        sanitize "dy/dx x_{ } & ".toList := by
  have h : collapse (trim "\u2003dy/dx\t\u2009x_{  }\n\n\u3000&".toList) =
      collapse (trim "dy/dx x_{ } & ".toList) := by
    decide +kernel
  exact ⟨h, sanitize_eq_of_collapse_trim_eq h⟩

end MathNotes.Sanitize
