import MathNotes.Sanitize.Rules

/-!
# What cleaning does to the size of a text

Three numbers are watched while markup is cleaned: how many slashes it has (`slashes`), how long it
is, and how many of its blanks are not the space (`oddBlanks`). For each rule this module says which
of them it leaves alone and which it lets fall when it changes the text at all. Stripping, dropping
and trimming shorten; setting a differential costs a slash; collapsing blanks shortens or turns
other blanks into spaces (`collapseFrom_cases`).
-/

namespace MathNotes.Sanitize

open Text

/-- The number of slashes in `s`, as a `weight`. -/
def slashes (s : Text) : Nat := weight (fun c => if c = '/' then 1 else 0) s

/-- The number of blanks other than the space in `s`, as a `weight`. -/
def oddBlanks (s : Text) : Nat := weight (fun c => if isBlank c && c ≠ ' ' then 1 else 0) s

theorem weight_one (s : Text) : weight (fun _ => 1) s = s.length := by
  induction s with
  | nil => rfl
  | cons c s ih => rw [weight_cons, ih, List.length_cons]; omega

/-! ### The rules that replace -/

theorem put_of_scaffoldingRule {before : Option Char} {c : Char} {rest : Text} {m : Replacement}
    (h : scaffoldingRule before c rest = some m) : m.put = [] := by
  unfold scaffoldingRule at h
  split at h
  · cases h; rfl
  · cases h

theorem put_of_emptyScriptRule {before : Option Char} {c : Char} {rest : Text} {m : Replacement}
    (h : emptyScriptRule before c rest = some m) : m.put = [] := by
  unfold emptyScriptRule at h
  split at h
  · split at h
    · split at h
      · cases h; rfl
      · cases h
    · cases h
  · cases h

/-- If `rule` puts nothing, `replace rule` makes no text heavier. -/
theorem weight_replace_le_of_put_nil (w : Char → Nat) {rule : Rule}
    (h : ∀ before c rest m, rule before c rest = some m → m.put = []) (s : Text) :
    weight w (replace rule s) ≤ weight w s := by
  simpa [replace] using weight_replaceFrom_le
    (fun b c r m hm => by rw [h b c r m hm]; simp) s none 0

/-- If `rule` puts nothing, `replace rule` leaves a text as it is or shortens it. -/
theorem replace_eq_or_length_lt_of_put_nil {rule : Rule}
    (h : ∀ before c rest m, rule before c rest = some m → m.put = []) (s : Text) :
    replace rule s = s ∨ (replace rule s).length < s.length := by
  simpa [replace, weight_one] using replaceFrom_eq_or_weight_lt (w := fun _ => 1)
    (fun b c r m hm => by
      rw [h b c r m hm, weight_nil]
      exact Nat.add_pos_left Nat.one_pos _) s none 0

theorem slashes_dropScaffolding_le (s : Text) : slashes (dropScaffolding s) ≤ slashes s :=
  weight_replace_le_of_put_nil _ (fun _ _ _ _ h => put_of_scaffoldingRule h) s

theorem dropScaffolding_eq_or_length_lt (s : Text) :
    dropScaffolding s = s ∨ (dropScaffolding s).length < s.length :=
  replace_eq_or_length_lt_of_put_nil (fun _ _ _ _ h => put_of_scaffoldingRule h) s

theorem slashes_dropEmptyScripts_le (s : Text) : slashes (dropEmptyScripts s) ≤ slashes s :=
  weight_replace_le_of_put_nil _ (fun _ _ _ _ h => put_of_emptyScriptRule h) s

theorem dropEmptyScripts_eq_or_length_lt (s : Text) :
    dropEmptyScripts s = s ∨ (dropEmptyScripts s).length < s.length :=
  replace_eq_or_length_lt_of_put_nil (fun _ _ _ _ h => put_of_emptyScriptRule h) s

/-- A differential has one slash, the fraction that `differentialRule` puts has none. -/
theorem slashes_of_differentialRule {before : Option Char} {c : Char} {rest : Text}
    {m : Replacement} (h : differentialRule before c rest = some m) :
    slashes m.put < slashes [c] + slashes (rest.take m.further) := by
  have letter_ne {x : Char} (hx : x.isAlpha = true) : x ≠ '/' := by
    rintro rfl; exact absurd hx (by decide)
  unfold differentialRule at h
  split at h
  · split at h
    · split at h
      · next v after hv =>
        cases h
        have := letter_ne (Bool.and_eq_true_iff.mp hv).1
        simp [slashes, differentialFraction, group, this]
      · cases h
    · split at h
      · next f v after _ hv =>
        cases h
        have hf := letter_ne (Bool.and_eq_true_iff.mp (Bool.and_eq_true_iff.mp hv).1).1
        have hv := letter_ne (Bool.and_eq_true_iff.mp (Bool.and_eq_true_iff.mp hv).1).2
        simp [slashes, differentialFraction, group, hf, hv]
      · cases h
    · cases h
  · cases h

/-- Setting differentials leaves `s` as it is or takes `slashes` from it. -/
theorem setDifferentials_eq_or_slashes_lt (s : Text) :
    setDifferentials s = s ∨ slashes (setDifferentials s) < slashes s := by
  simpa [setDifferentials, replace, slashes] using replaceFrom_eq_or_weight_lt
    (w := fun c => if c = '/' then 1 else 0)
    (fun b c r m hm => by simpa [slashes] using slashes_of_differentialRule hm) s none 0

/-! ### What collapsing blanks does -/

/-- Collapsing blanks leaves `s` as it is, shortens it, or turns other blanks into spaces, so that
`oddBlanks` falls. -/
theorem collapseFrom_cases (s : Text) (inRun : Bool) :
    slashes (collapseFrom inRun s) = slashes s ∧
      (collapseFrom inRun s = s ∨ (collapseFrom inRun s).length < s.length ∨
        ((collapseFrom inRun s).length = s.length ∧
          oddBlanks (collapseFrom inRun s) < oddBlanks s)) := by
  induction s generalizing inRun with
  | nil => simp [collapseFrom]
  | cons c s ih =>
    have blank_ne (h : isBlank c = true) : c ≠ '/' := by
      rintro rfl; exact absurd h (by decide)
    unfold collapseFrom
    split
    · next hc =>
      obtain ⟨hs, h⟩ := ih true
      have hne := blank_ne hc
      split
      · refine ⟨by simpa [slashes, hne] using hs, .inr (.inl ?_)⟩
        rw [List.length_cons]
        rcases h with h | h | h
        · rw [h]; omega
        · omega
        · omega
      · refine ⟨by simpa [slashes, hne] using hs, ?_⟩
        by_cases hsp : c = ' '
        · subst hsp
          simpa [oddBlanks] using h
        · rcases h with h | h | h
          · right; right
            rw [h]
            simp [oddBlanks, hc, hsp]
          · right; left; simpa using h
          · right; right
            simp [oddBlanks, hc, hsp] at h ⊢
            omega
    · next hc =>
      obtain ⟨hs, h⟩ := ih false
      refine ⟨by simpa [slashes] using hs, ?_⟩
      simpa [oddBlanks, hc] using h

/-! ### Trimming takes a part out of the middle -/

theorem trim_sublist (s : Text) : (trim s).Sublist s := by
  have h : (trimEnd (trimStart s)).Sublist (trimStart s) := by
    have := (List.dropWhile_sublist (l := (trimStart s).reverse) isBlank).reverse
    rwa [List.reverse_reverse] at this
  exact h.trans (List.dropWhile_sublist isBlank)

theorem dropMark_sublist (mark s : Text) : (dropMark mark s).Sublist s := by
  unfold dropMark
  split
  · exact List.drop_sublist ..
  · exact List.Sublist.refl _

theorem dropColumnMarkEnd_sublist (s : Text) : (dropColumnMarkEnd s).Sublist s := by
  unfold dropColumnMarkEnd
  split
  · next before hs =>
    split
    · have h : before.Sublist s.reverse := hs ▸ List.sublist_cons_self ..
      simpa using h.reverse
    · exact List.Sublist.refl _
  · exact List.Sublist.refl _

theorem dropRowMarkEnd_sublist (s : Text) : (dropRowMarkEnd s).Sublist s := by
  simpa [dropRowMarkEnd] using (dropMark_sublist rowMark s.reverse).reverse

theorem trimRound_sublist (s : Text) : (trimRound s).Sublist s :=
  (dropRowMarkEnd_sublist _).trans <| (dropColumnMarkEnd_sublist _).trans <|
    (dropMark_sublist ..).trans <| (dropMark_sublist ..).trans <| trim_sublist s

theorem trimSeparators_sublist (s : Text) : (trimSeparators s).Sublist s := by
  fun_induction trimSeparators s with
  | case1 s _ ih => exact ih.trans (trimRound_sublist s)
  | case2 s _ => exact trimRound_sublist s

end MathNotes.Sanitize
