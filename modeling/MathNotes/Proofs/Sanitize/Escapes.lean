import Mathlib.Logic.Function.Iterate
import MathNotes.Proofs.Sanitize.Dangling
import MathNotes.Proofs.Sanitize.Normal
import MathNotes.Proofs.Text.Escapes

/-!
# Escaped marks and cleaning

A mark that is escaped stands for itself and should outlive cleaning.

* Setting differentials, collapsing blanks and trimming separators keep all escaped marks of every
  text (`readsAlike_setDifferentials`, `readsAlike_collapse`, `marksFrom_trimSeparators`). Trimming
  owes this to its test of how many backslashes stand before an ampersand.
* Stripping scaffolding and dropping empty scripts make no such test. They keep the escaped marks
  unless what they take begins in an escape (`TearsEscape`), and then they may lose one
  (`not_forall_count_le_count_sanitize`).

So escaped marks outlive cleaning if no pass tears an escape (`escapes_sanitize_eq`). It must be
said of every pass, since what one pass takes can bring the parts of an empty script or of a token
together behind a backslash.
-/

namespace MathNotes.Sanitize

open Text

variable {s : Text}

/-! ### Differentials -/

theorem ne_backslash_of_isAlpha {c : Char} (h : c.isAlpha = true) : c ≠ '\\' := by
  rintro rfl
  exact absurd h (by decide)

/-- A differential and its `differentialFraction` hold no escaped mark, and neither ends in an open
backslash, whether one is open before them (`q`) or not. -/
theorem readsAlike_differentialFraction {f : Text} {v : Char}
    (hf : ∀ c ∈ f, c.isAlpha = true) (hv : v.isAlpha = true) (q : Bool) :
    ReadsAlike q (differentialFraction f v) ('d' :: (f ++ ['/', 'd', v])) := by
  have hf : '\\' ∉ f := fun hmem => ne_backslash_of_isAlpha (hf _ hmem) rfl
  have hv : '\\' ≠ v := (ne_backslash_of_isAlpha hv).symm
  have hword : '\\' ∉ 'd' :: (f ++ ['/', 'd', v]) := by simp [hf, hv]
  have hafter : '\\' ∉ 'f' :: ("rac".toList ++ group ('d' :: f) ++ group ['d', v]) := by
    simp [group, hf, hv]
  obtain ⟨hopen, hmarks⟩ := openAfter_and_marksFrom_of_not_mem (by decide) hword q
  obtain ⟨hopen', hmarks'⟩ := openAfter_and_marksFrom_of_not_mem (by decide) hafter (opens q '\\')
  have hfraction : differentialFraction f v =
      '\\' :: 'f' :: ("rac".toList ++ group ('d' :: f) ++ group ['d', v]) := rfl
  constructor
  · rw [hfraction, openAfter_cons, hopen', hopen]
  · rw [hfraction, marksFrom_cons_of_not_mem (by decide), hmarks', hmarks]

theorem readsAlike_setDifferentials (s : Text) : ReadsAlike false (setDifferentials s) s := by
  refine readsAlike_replace s ?_
  intro before c rest m _ hm
  obtain ⟨f, v, after, -, hf, hv, hs, -, -, rfl⟩ := differentialRule_eq_some_iff.mp hm
  rw [(cons_take_and_drop_of_cons_eq_append (List.cons_ne_nil _ _) hs).1]
  exact readsAlike_differentialFraction hf hv _

/-! ### Tokens and empty scripts -/

/-- A pass takes from `s` what begins in an escape: a token, or an empty script in what
`dropScaffolding` leaves. -/
def TearsEscape (s : Text) : Prop :=
  BeginsInEscape (· ∈ scaffoldingTokens) s ∨ BeginsInEscape IsEmptyScript (dropScaffolding s)

instance (s : Text) : Decidable (TearsEscape s) :=
  decidable_of_iff (appliesInEscape scaffoldingRule false s = true ∨
      appliesInEscape emptyScriptRule false (dropScaffolding s) = true) <| by
    rw [TearsEscape,
      beginsInEscape_iff (fun _ => ne_nil_of_mem_scaffoldingTokens) scaffoldingRule_eq_none_iff,
      beginsInEscape_iff (fun _ => IsEmptyScript.ne_nil) emptyScriptRule_eq_none_iff]

theorem readsAlike_dropScaffolding (h : ¬ BeginsInEscape (· ∈ scaffoldingTokens) s) :
    ReadsAlike false (dropScaffolding s) s := by
  refine readsAlike_replace_of_not_beginsInEscape ?_ ?_ h
  · intro token htoken
    have hall : ∀ token ∈ scaffoldingTokens,
        false = openAfter false token ∧ [] = marksFrom false token := by decide
    obtain ⟨hopen, hmarks⟩ := hall token htoken
    exact ⟨ne_nil_of_mem_scaffoldingTokens htoken, hopen, hmarks⟩
  · intro before c rest m hm
    obtain ⟨token, htoken, after, hs, rfl⟩ := exists_of_scaffoldingRule_eq_some hm
    exact ⟨token, after, htoken, hs, rfl⟩

theorem IsEmptyScript.readsAlike_nil {word : Text} (h : IsEmptyScript word) :
    ReadsAlike false [] word := by
  obtain ⟨mark, inner, hmark, hinner, rfl⟩ := h
  refine readsAlike_nil_of_not_mem ?_
  have hmark' : '\\' ≠ mark := by
    rintro rfl
    exact absurd hmark (by decide)
  have hinner' : '\\' ∉ inner := fun hmem => absurd (hinner _ hmem) (by decide)
  simp [group, hmark', hinner']

theorem readsAlike_dropEmptyScripts (h : ¬ BeginsInEscape IsEmptyScript s) :
    ReadsAlike false (dropEmptyScripts s) s :=
  readsAlike_replace_of_not_beginsInEscape (fun _ hword => ⟨hword.ne_nil, hword.readsAlike_nil⟩)
    (fun _ _ _ _ hm => emptyScriptRule_eq_some_iff.mp hm) h

/-! ### Blanks -/

/-- A blank closes an escape and is no escaped mark. -/
theorem openAfter_and_marksFrom_of_isBlank {c : Char} (hc : isBlank c = true) (q : Bool) :
    openAfter q [c] = false ∧ marksFrom q [c] = [] := by
  have hmark : c ∉ marks := by
    intro hmem
    have hall : marks.all (!isBlank ·) = true := by decide
    have hnot := List.all_eq_true.mp hall c hmem
    rw [hc] at hnot
    cases hnot
  have hback : '\\' ∉ [c] := by
    intro hmem
    rw [← List.mem_singleton.mp hmem] at hc
    exact absurd hc (by decide)
  exact openAfter_and_marksFrom_of_not_mem hmark hback q

theorem readsAlike_collapseFrom (s : Text) (inRun q : Bool) (h : inRun = true → q = false) :
    ReadsAlike q (collapseFrom inRun s) s := by
  induction s generalizing inRun q with
  | nil => exact .refl _ _
  | cons c s ih =>
    rw [collapseFrom]
    by_cases hc : isBlank c = true
    · obtain ⟨hopen, hmarks⟩ := openAfter_and_marksFrom_of_isBlank hc q
      have hrest : ReadsAlike (openAfter q [c]) (collapseFrom true s) s := ih true _ fun _ => hopen
      rw [if_pos hc]
      cases inRun with
      | true =>
        -- in a run no backslash is open, so the blank that is left out closes no escape
        obtain rfl := h rfl
        have hblank : ReadsAlike false [] [c] := ⟨hopen.symm, hmarks.symm⟩
        exact hblank.append hrest
      | false =>
        have hspace : isBlank ' ' = true := by decide
        obtain ⟨hopen', hmarks'⟩ := openAfter_and_marksFrom_of_isBlank hspace q
        have hblank : ReadsAlike q [' '] [c] := ⟨by rw [hopen', hopen], by rw [hmarks', hmarks]⟩
        exact hblank.append hrest
    · rw [if_neg hc]
      exact (ReadsAlike.refl q [c]).append (ih false _ fun h => absurd h Bool.false_ne_true)

theorem readsAlike_collapse (s : Text) : ReadsAlike false (collapse s) s :=
  readsAlike_collapseFrom s false false fun _ => rfl

/-! ### Separators -/

/-- What is stripped off an end of `s` is no escaped mark, and neither does it make one of what is
left. -/
theorem Strips.marksFrom_eq {s t : Text} (h : Strips s t) :
    marksFrom false t = marksFrom false s := by
  cases h with
  | @blank c s hc =>
    have hclosed : opens false c = false := (openAfter_and_marksFrom_of_isBlank hc false).1
    rw [marksFrom_false_cons, hclosed]
  | column => rfl
  | row => rfl
  | blankEnd hc =>
    rw [marksFrom_append, (openAfter_and_marksFrom_of_isBlank hc _).2, List.append_nil]
  | columnEnd heven =>
    rw [marksFrom_append, (openAfter_eq_false_iff _).mpr heven]
    exact (List.append_nil _).symm
  | rowEnd =>
    -- whether or not the first of the two backslashes is escaped, it is no mark
    have hrow (q : Bool) : marksFrom q ['\\', '\\'] = [] := by cases q <;> rfl
    rw [marksFrom_append, hrow, List.append_nil]

theorem marksFrom_of_strips {s t : Text} (h : Relation.ReflTransGen Strips s t) :
    marksFrom false t = marksFrom false s := by
  induction h with
  | refl => rfl
  | tail _ hstep ih => rw [hstep.marksFrom_eq, ih]

theorem marksFrom_trimSeparators (s : Text) :
    marksFrom false (trimSeparators s) = marksFrom false s :=
  marksFrom_of_strips (strips_trimSeparators s)

/-! ### Cleaning -/

/-- A pass over `s` that tears no escape keeps the escaped marks. -/
theorem marksFrom_sanitizePass (h : ¬ TearsEscape s) :
    marksFrom false (sanitizePass s) = marksFrom false s := by
  obtain ⟨htoken, hscript⟩ := not_or.mp h
  rw [sanitizePass, marksFrom_trimSeparators, (readsAlike_collapse _).marksFrom_eq,
    (readsAlike_setDifferentials _).marksFrom_eq,
    (readsAlike_dropEmptyScripts hscript).marksFrom_eq,
    (readsAlike_dropScaffolding htoken).marksFrom_eq]

theorem marksFrom_sanitize (h : ∀ k, ¬ TearsEscape (sanitizePass^[k] s)) :
    marksFrom false (sanitize s) = marksFrom false s := by
  fun_induction sanitize s with
  | case1 s _ => rfl
  | case2 s _ ih =>
    have hfirst : ¬ TearsEscape s := h 0
    have hlater : ∀ k, ¬ TearsEscape (sanitizePass^[k] (sanitizePass s)) := fun k => h (k + 1)
    rw [ih hlater, marksFrom_sanitizePass hfirst]

/-- An escaped mark `u` is one of the `units` of a text as often as it is among its `escapes`. -/
theorem count_units_eq_of_escapes_eq {s t : Text} (h : escapes s = escapes t) {u : Text}
    (hu : u ∈ marks.map escape) : (units s).count u = (units t).count u := by
  have hcount (r : Text) : (escapes r).count u = (units r).count u :=
    List.count_filter (by simpa using hu)
  rw [← hcount s, ← hcount t, h]

/-- **Escaped marks outlive cleaning, unless a pass tears an escape.** `setDifferentials`,
`collapse` and `trimSeparators` keep the `escapes` of every text in order. So does `sanitize`, if no
pass takes a token or an empty script that begins in an escape (`TearsEscape`); then each escaped
mark is one of the `units` of the cleaned markup as often as of the markup. -/
theorem escapes_sanitize_eq (s : Text) :
    (escapes (setDifferentials s) = escapes s ∧ escapes (collapse s) = escapes s ∧
        escapes (trimSeparators s) = escapes s) ∧
      ((∀ k, ¬ TearsEscape (sanitizePass^[k] s)) →
        escapes (sanitize s) = escapes s ∧
          ∀ u ∈ marks.map escape, (units (sanitize s)).count u = (units s).count u) := by
  simp only [escapes_eq_map]
  refine ⟨⟨?_, ?_, ?_⟩, ?_⟩
  · rw [(readsAlike_setDifferentials s).marksFrom_eq]
  · rw [(readsAlike_collapse s).marksFrom_eq]
  · rw [marksFrom_trimSeparators]
  · intro h
    have hmarks := marksFrom_sanitize h
    refine ⟨by rw [hmarks], fun u hu => count_units_eq_of_escapes_eq ?_ hu⟩
    rw [escapes_eq_map, escapes_eq_map, hmarks]

/-- An empty script, a differential and dangling separators go, the escaped marks beside them
stay. -/
theorem escapes_sanitize_dangling :
    (∀ k, ¬ TearsEscape (sanitizePass^[k] "& \\_x_{ } + d/dx \\& \\\\ &".toList)) ∧
      escapes (sanitize "& \\_x_{ } + d/dx \\& \\\\ &".toList) =
        ["\\_".toList, "\\&".toList] := by
  have hpass : sanitizePass "& \\_x_{ } + d/dx \\& \\\\ &".toList =
      "\\_x + \\frac{d}{dx} \\&".toList := by
    decide +kernel
  have hfix : sanitizePass "\\_x + \\frac{d}{dx} \\&".toList =
      "\\_x + \\frac{d}{dx} \\&".toList := by
    decide +kernel
  have htears : ∀ k,
      ¬ TearsEscape (sanitizePass^[k] "& \\_x_{ } + d/dx \\& \\\\ &".toList) := by
    intro k
    cases k with
    | zero => decide +kernel
    | succ k =>
      rw [Function.iterate_succ_apply, hpass, Function.iterate_fixed hfix]
      decide +kernel
  refine ⟨htears, ?_⟩
  rw [((escapes_sanitize_eq _).2 htears).1]
  decide +kernel

/-- The rule `emptyScriptRule` takes the mark of an escape, so an escaped mark can be lost in markup
that holds no token. -/
theorem not_forall_count_le_count_sanitize :
    ¬ ∀ s, (∀ token ∈ scaffoldingTokens, ¬ token <:+: s) → ∀ u ∈ marks.map escape,
      (units s).count u ≤ (units (sanitize s)).count u := by
  intro hall
  have hpass : sanitizePass "\\_{}".toList = "\\".toList := by decide +kernel
  have hfix : sanitizePass "\\".toList = "\\".toList := by decide +kernel
  have hsanitize : sanitize "\\_{}".toList = "\\".toList := by
    rw [← sanitize_sanitizePass, hpass, (sanitize_eq_self_iff _).mpr hfix]
  have htoken : ∀ token ∈ scaffoldingTokens, ¬ token <:+: "\\_{}".toList := by decide
  have hle := hall _ htoken (escape '_') (by decide)
  rw [hsanitize] at hle
  exact absurd hle (by decide +kernel)

end MathNotes.Sanitize
