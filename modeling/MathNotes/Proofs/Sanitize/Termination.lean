import Mathlib.Logic.Function.Iterate
import MathNotes.Proofs.Sanitize.Normal

/-!
# Cleaning comes to an end

Cleaning goes over a text again and again until a pass changes nothing. A pass can make the text
longer, and what it takes away can bring together a token, a script or a differential that was not
there before, so neither the length nor the number of places at which a rule applies says that there
is a last pass.

* The number of slashes, the length and the number of blanks other than the space, compared in this
  order, fall with every `sanitizePass` that changes the text (`measure_sanitizePass_lt`).

* The same three numbers also say how soon the end comes (`work`). A differential has a slash more
  than the fraction that it becomes, and the fraction is eight characters longer; so if a slash
  counts as much as ten other characters, each pass that changes the text leaves less to do
  (`shrinks_work_sanitizePass`), and there are at most ten passes for each character (`work_le`).

Both are put together in `measure_falls_and_sanitize_ends`.
-/

namespace MathNotes.Sanitize

open Text

/-! ### The three numbers -/

/-- Whether `c` is a blank other than the space. -/
def isOddBlank (c : Char) : Bool := isBlank c && c ≠ ' '

theorem slashes_eq_count (s : Text) : slashes s = s.count '/' := by
  induction s with
  | nil => rfl
  | cons c s ih =>
    have hcons : slashes (c :: s) = (if c = '/' then 1 else 0) + slashes s := rfl
    rw [hcons, ih, List.count_cons, Nat.add_comm]
    simp only [beq_iff_eq]

theorem oddBlanks_eq_countP (s : Text) : oddBlanks s = s.countP isOddBlank := by
  induction s with
  | nil => rfl
  | cons c s ih =>
    have hcons : oddBlanks (c :: s) = (if isOddBlank c then 1 else 0) + oddBlanks s := rfl
    rw [hcons, ih, List.countP_cons, Nat.add_comm]

/-! ### How much there is to do -/

/-- How much `c` counts in `work`: ten for a slash, two for a blank other than the space. -/
def effort (c : Char) : Nat := if c = '/' then 10 else if isOddBlank c then 2 else 1

/-- How much cleaning has to do on `s` at most: the `weight` by `effort`. -/
def work (s : Text) : Nat := weight effort s

theorem effort_pos (c : Char) : 0 < effort c := by
  unfold effort
  split
  · decide
  · split <;> decide

theorem effort_le (c : Char) : effort c ≤ 10 := by
  unfold effort
  split
  · decide
  · split <;> decide

theorem work_le (s : Text) : work s ≤ 10 * s.length := by
  induction s with
  | nil => rfl
  | cons c s ih =>
    have hcons : work (c :: s) = effort c + work s := rfl
    have hc := effort_le c
    rw [hcons, List.length_cons]
    omega

theorem effort_of_isAlpha {c : Char} (h : c.isAlpha = true) : effort c = 1 := by
  have hslash : c ≠ '/' := by
    rintro rfl
    exact absurd h (by decide)
  rw [effort, if_neg hslash, isOddBlank, isBlank_eq_false_of_isAlpha h]
  rfl

theorem effort_of_isOddBlank {c : Char} (h : isOddBlank c = true) : effort c = 2 := by
  have hslash : c ≠ '/' := by
    rintro rfl
    exact absurd h (by decide)
  rw [effort, if_neg hslash, if_pos h]

/-- There is less to do on a proper part of a text than on the whole. -/
theorem work_lt_of_sublist {s t : Text} (h : s.Sublist t) (hne : s ≠ t) : work s < work t := by
  induction h with
  | slnil => exact absurd rfl hne
  | @cons s t c h _ =>
    have hle : work s ≤ work t := weight_le_of_sublist effort h
    exact hle.trans_lt (Nat.lt_add_of_pos_left (effort_pos c))
  | cons_cons c _ ih => exact Nat.add_lt_add_left (ih fun heq => hne (congrArg (c :: ·) heq)) _

/-! ### Each rule leaves less to do -/

theorem shrinks_work_of_put_nil {rule : Rule}
    (h : ∀ before c rest m, rule before c rest = some m → m.put = []) :
    Shrinks work (replace rule) := by
  intro s
  refine replaceFrom_eq_or_weight_lt ?_ s none 0
  intro before c rest m hm
  rw [h before c rest m hm, weight_nil]
  exact Nat.add_pos_left (effort_pos c) _

theorem work_append (s t : Text) : work (s ++ t) = work s + work t := weight_append effort s t

/-- A fraction is eight characters longer than the differential, but it has no slash, which counts
ten. -/
theorem work_differentialFraction_lt (f : Text) {v : Char} (hv : v.isAlpha = true) :
    work (differentialFraction f v) < work ('d' :: (f ++ ['/', 'd', v])) := by
  have hv := effort_of_isAlpha hv
  have hcons (c : Char) (s : Text) : work (c :: s) = effort c + work s := rfl
  have hcommand : work "\\frac".toList = 5 := by decide
  have hopen : effort '{' = 1 := by decide
  have hclose : effort '}' = 1 := by decide
  have hslash : effort '/' = 10 := by decide
  have hd : effort 'd' = 1 := by decide
  have hnil : work [] = 0 := rfl
  simp only [differentialFraction, group, List.cons_append, List.append_assoc, work_append, hcons,
    hcommand, hopen, hclose, hslash, hd, hv, hnil]
  omega

theorem work_of_differentialRule {before : Option Char} {c : Char} {rest : Text}
    {m : Replacement} (h : differentialRule before c rest = some m) :
    work m.put < effort c + work (rest.take m.further) := by
  obtain ⟨f, v, after, -, -, hv, hs, -, -, rfl⟩ := differentialRule_eq_some_iff.mp h
  have hlt := work_differentialFraction_lt f hv
  rwa [← (cons_take_and_drop_of_cons_eq_append (List.cons_ne_nil _ _) hs).1] at hlt

theorem shrinks_work_setDifferentials : Shrinks work setDifferentials := fun s =>
  replaceFrom_eq_or_weight_lt (fun _ _ _ _ hm => work_of_differentialRule hm) s none 0

theorem shrinks_work_collapse : Shrinks work collapse := by
  suffices h : ∀ s inRun, collapseFrom inRun s = s ∨ work (collapseFrom inRun s) < work s from
    fun s => h s false
  intro s
  induction s with
  | nil => exact fun inRun => .inl rfl
  | cons c s ih =>
    intro inRun
    have hcons (d : Char) (t : Text) : work (d :: t) = effort d + work t := rfl
    rw [collapseFrom]
    by_cases hc : isBlank c = true
    · have hle : work (collapseFrom true s) ≤ work s := by
        rcases ih true with h | h
        · rw [h]
        · exact h.le
      rw [if_pos hc]
      cases inRun with
      | true =>
        have := effort_pos c
        right
        rw [if_pos rfl, hcons]
        omega
      | false =>
        rw [if_neg Bool.false_ne_true]
        by_cases hspace : c = ' '
        · subst hspace
          rcases ih true with h | h
          · exact .inl (congrArg (' ' :: ·) h)
          · right
            rw [hcons, hcons]
            omega
        · -- the space counts less than the blank that it stands for
          have hodd := effort_of_isOddBlank (c := c) (by simp [isOddBlank, hc, hspace])
          have hspace : effort ' ' = 1 := by decide
          right
          rw [hcons, hcons]
          omega
    · rw [if_neg hc]
      rcases ih false with h | h
      · exact .inl (congrArg (c :: ·) h)
      · right
        rw [hcons, hcons]
        omega

theorem shrinks_work_trimSeparators : Shrinks work trimSeparators := by
  intro s
  by_cases h : trimSeparators s = s
  · exact .inl h
  · exact .inr (work_lt_of_sublist (trimSeparators_sublist s) h)

/-- Each `sanitizePass` that changes a text leaves less to do. -/
theorem shrinks_work_sanitizePass : Shrinks work sanitizePass :=
  shrinks_work_trimSeparators.comp <| shrinks_work_collapse.comp <|
    shrinks_work_setDifferentials.comp <|
      (shrinks_work_of_put_nil fun _ _ _ _ h => put_of_emptyScriptRule h).comp <|
        shrinks_work_of_put_nil fun _ _ _ _ h => put_of_scaffoldingRule h

/-! ### The passes -/

/-- What `sanitize` does is to make `n` passes of which each changes the text, and `n` is at most
`work s`. -/
theorem exists_iterate_eq_sanitize (s : Text) :
    ∃ n ≤ work s, sanitizePass^[n] s = sanitize s ∧
      ∀ k < n, sanitizePass^[k + 1] s ≠ sanitizePass^[k] s := by
  fun_induction sanitize s with
  | case1 s h => exact ⟨0, Nat.zero_le _, rfl, by simp⟩
  | case2 s h ih =>
    obtain ⟨n, hn, hlast, hchange⟩ := ih
    have hlt := (shrinks_work_sanitizePass s).resolve_left h
    refine ⟨n + 1, Nat.succ_le_of_lt (hn.trans_lt hlt), hlast, ?_⟩
    intro k hk
    cases k with
    | zero => exact h
    | succ k => exact hchange k (Nat.lt_of_succ_lt_succ hk)

/-- **Cleaning comes to an end.** A `sanitizePass` that changes `s` makes the number of slashes, the
length and the number of blanks other than the space smaller, compared in this order; the passes
that `sanitize` makes all change the text, up to the one that changes nothing, and there are at most
`10 * s.length` of them. -/
theorem measure_falls_and_sanitize_ends (s : Text) :
    (sanitizePass s ≠ s →
      toLex ((sanitizePass s).count '/',
          toLex ((sanitizePass s).length, (sanitizePass s).countP isOddBlank)) <
        toLex (s.count '/', toLex (s.length, s.countP isOddBlank))) ∧
      ∃ n ≤ 10 * s.length, sanitizePass^[n] s = sanitize s ∧
        sanitizePass (sanitize s) = sanitize s ∧
          ∀ k < n, sanitizePass^[k + 1] s ≠ sanitizePass^[k] s := by
  constructor
  · intro h
    rw [Prod.Lex.toLex_lt_toLex, Prod.Lex.toLex_lt_toLex, ← slashes_eq_count, ← slashes_eq_count,
      ← oddBlanks_eq_countP, ← oddBlanks_eq_countP]
    exact measure_sanitizePass_lt h
  · obtain ⟨n, hn, hlast, hchange⟩ := exists_iterate_eq_sanitize s
    exact ⟨n, hn.trans (work_le s), hlast, sanitizePass_sanitize s, hchange⟩

/-- What stripping brings together is set as a fraction, and the text gets longer. -/
theorem measure_falls_of_differential :
    sanitizePass "dy/d\u200bx".toList = "\\frac{dy}{dx}".toList ∧
      sanitizePass "dy/d\u200bx".toList ≠ "dy/d\u200bx".toList ∧
      toLex ((sanitizePass "dy/d\u200bx".toList).count '/',
          toLex ((sanitizePass "dy/d\u200bx".toList).length,
            (sanitizePass "dy/d\u200bx".toList).countP isOddBlank)) <
        toLex ("dy/d\u200bx".toList.count '/',
          toLex ("dy/d\u200bx".toList.length, "dy/d\u200bx".toList.countP isOddBlank)) := by
  have hpass : sanitizePass "dy/d\u200bx".toList = "\\frac{dy}{dx}".toList := by
    decide +kernel
  have hne : sanitizePass "dy/d\u200bx".toList ≠ "dy/d\u200bx".toList := by
    rw [hpass]
    decide
  exact ⟨hpass, hne, (measure_falls_and_sanitize_ends "dy/d\u200bx".toList).1 hne⟩

end MathNotes.Sanitize
