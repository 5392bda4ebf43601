import Mathlib.Data.List.TakeWhile
import MathNotes.Proofs.Text.Blank
import MathNotes.Proofs.Text.Replace

/-!
# Texts that differ in their blanks

Two texts may be the same but for their blanks: for how long the runs of blanks are, which blanks
they are made of, and what blanks stand at the ends. That is to say that `collapse` of `trim` is the
same. A rule of replacement respects spacing if it looks no closer than that (`RespectsSpacing`),
and then replacing keeps such texts the same but for their blanks (`collapse_trim_replace`).

Replacing goes from left to right, and after a word the length of the next run must not matter, but
that there is a run must be known. So the induction is on texts whose front is kept as it is
(`respaced`), and the front is trimmed only at the end.
-/

namespace MathNotes.Text

variable {c d : Char} {s t w : Text}

/-! ### Trimming and collapsing from the front -/

theorem trimStart_cons_of_isBlank (hc : isBlank c = true) (s : Text) :
    trimStart (c :: s) = trimStart s :=
  List.dropWhile_cons_of_pos hc

theorem trimStart_cons_of_not_isBlank (hc : isBlank c = false) (s : Text) :
    trimStart (c :: s) = c :: s :=
  List.dropWhile_cons_of_neg (by rw [hc]; exact Bool.false_ne_true)

/-- The blank `c` is taken off the end if all that follows it is (`trimEnd s = []`). -/
theorem trimEnd_cons (c : Char) (s : Text) :
    trimEnd (c :: s) = if isBlank c && (trimEnd s).isEmpty then [] else c :: trimEnd s := by
  rw [trimEnd, trimEnd, List.reverse_cons, List.dropWhile_append, List.isEmpty_reverse]
  cases hs : s.reverse.dropWhile isBlank with
  | nil => cases hc : isBlank c <;> simp [hc]
  | cons d rest => simp

theorem trimEnd_cons_of_not_isBlank (hc : isBlank c = false) (s : Text) :
    trimEnd (c :: s) = c :: trimEnd s := by
  rw [trimEnd_cons, hc]
  rfl

theorem collapseFrom_true (s : Text) : collapseFrom true s = collapse (trimStart s) := by
  induction s with
  | nil => rfl
  | cons c s ih =>
    rw [collapseFrom]
    by_cases hc : isBlank c = true
    · rw [if_pos hc, if_pos rfl, ih, trimStart_cons_of_isBlank hc]
    · rw [if_neg hc, trimStart_cons_of_not_isBlank (by simpa using hc), collapse, collapseFrom,
        if_neg hc]

theorem collapse_cons_of_isBlank (hc : isBlank c = true) (s : Text) :
    collapse (c :: s) = ' ' :: collapse (trimStart s) := by
  rw [collapse, collapseFrom, if_pos hc, if_neg Bool.false_ne_true, collapseFrom_true]

theorem collapse_cons_of_not_isBlank (hc : isBlank c = false) (s : Text) :
    collapse (c :: s) = c :: collapse s := by
  rw [collapse, collapseFrom, hc]
  rfl

theorem trimStart_collapse (s : Text) : trimStart (collapse s) = collapse (trimStart s) := by
  induction s with
  | nil => rfl
  | cons c s ih =>
    by_cases hc : isBlank c = true
    · rw [collapse_cons_of_isBlank hc, trimStart_cons_of_isBlank (by decide),
        trimStart_cons_of_isBlank hc, ← ih, trimStart, trimStart, List.dropWhile_idempotent]
    · have hc : isBlank c = false := by simpa using hc
      rw [collapse_cons_of_not_isBlank hc, trimStart_cons_of_not_isBlank hc,
        trimStart_cons_of_not_isBlank hc, collapse_cons_of_not_isBlank hc]

/-! ### Spacing that is put in order except at the front -/

/-- The text `s` with a space for each run of blanks, and none at the end. Two texts are the same
but for their blanks if this is the same. -/
def respaced (s : Text) : Text := trimEnd (collapse s)

theorem respaced_cons_of_not_isBlank (hc : isBlank c = false) (s : Text) :
    respaced (c :: s) = c :: respaced s := by
  rw [respaced, collapse_cons_of_not_isBlank hc, trimEnd_cons_of_not_isBlank hc]
  rfl

/-- A blank at the front is a space in `respaced`, if there is anything but blanks after it. -/
theorem respaced_cons_of_isBlank (hc : isBlank c = true) (s : Text) :
    respaced (c :: s) =
      if (respaced (trimStart s)).isEmpty then [] else ' ' :: respaced (trimStart s) := by
  rw [respaced, collapse_cons_of_isBlank hc, trimEnd_cons]
  rfl

theorem respaced_trimStart (s : Text) : respaced (trimStart s) = trimStart (respaced s) := by
  induction s with
  | nil => rfl
  | cons c s ih =>
    by_cases hc : isBlank c = true
    · rw [trimStart_cons_of_isBlank hc, respaced_cons_of_isBlank hc, ih]
      split
      · next hempty => rw [List.isEmpty_iff.mp hempty]; rfl
      · rw [trimStart_cons_of_isBlank (by decide), trimStart, trimStart,
          List.dropWhile_idempotent]
    · have hc : isBlank c = false := by simpa using hc
      rw [trimStart_cons_of_not_isBlank hc, respaced_cons_of_not_isBlank hc,
        trimStart_cons_of_not_isBlank hc]

/-- What is the same in `respaced` is so behind any text `w`. -/
theorem respaced_append_congr (h : respaced s = respaced t) (w : Text) :
    respaced (w ++ s) = respaced (w ++ t) := by
  induction w with
  | nil => exact h
  | cons c w ih =>
    rw [List.cons_append, List.cons_append]
    by_cases hc : isBlank c = true
    · rw [respaced_cons_of_isBlank hc, respaced_cons_of_isBlank hc, respaced_trimStart,
        respaced_trimStart, ih]
    · have hc : isBlank c = false := by simpa using hc
      rw [respaced_cons_of_not_isBlank hc, respaced_cons_of_not_isBlank hc, ih]

/-- Behind a blank, blanks at the front do not count: `trimStart` takes them off. -/
theorem respaced_cons_congr (hc : isBlank c = true) (hd : isBlank d = true)
    (h : respaced (trimStart s) = respaced (trimStart t)) :
    respaced (c :: s) = respaced (d :: t) := by
  rw [respaced_cons_of_isBlank hc, respaced_cons_of_isBlank hd, h]

theorem respaced_trimStart_eq_nil_iff : respaced (trimStart s) = [] ↔ trimStart s = [] := by
  induction s with
  | nil => exact iff_of_true rfl rfl
  | cons c s ih =>
    by_cases hc : isBlank c = true
    · rwa [trimStart_cons_of_isBlank hc]
    · have hc : isBlank c = false := by simpa using hc
      rw [trimStart_cons_of_not_isBlank hc, respaced_cons_of_not_isBlank hc]
      exact iff_of_false (List.cons_ne_nil _ _) (List.cons_ne_nil _ _)

theorem respaced_eq_nil_iff : respaced s = [] ↔ trimStart s = [] := by
  cases s with
  | nil => exact iff_of_true rfl rfl
  | cons c s =>
    by_cases hc : isBlank c = true
    · rw [trimStart_cons_of_isBlank hc, respaced_cons_of_isBlank hc,
        ← respaced_trimStart_eq_nil_iff]
      cases respaced (trimStart s) with
      | nil => exact iff_of_true rfl rfl
      | cons d r => exact iff_of_false (List.cons_ne_nil _ _) (List.cons_ne_nil _ _)
    · have hc : isBlank c = false := by simpa using hc
      rw [trimStart_cons_of_not_isBlank hc, respaced_cons_of_not_isBlank hc]
      exact iff_of_false (List.cons_ne_nil _ _) (List.cons_ne_nil _ _)

theorem exists_of_respaced_eq_cons (hc : isBlank c = false) (h : respaced s = c :: t) :
    ∃ s', s = c :: s' ∧ respaced s' = t := by
  cases s with
  | nil => cases h
  | cons d s =>
    by_cases hd : isBlank d = true
    · rw [respaced_cons_of_isBlank hd] at h
      split at h
      · cases h
      · obtain ⟨rfl, -⟩ := List.cons.inj h
        cases hc
    · have hd : isBlank d = false := by simpa using hd
      rw [respaced_cons_of_not_isBlank hd] at h
      obtain ⟨rfl, rfl⟩ := List.cons.inj h
      exact ⟨s, rfl, rfl⟩

theorem exists_of_respaced_eq_cons_of_isBlank (hc : isBlank c = true) (h : respaced s = c :: t) :
    ∃ d s', isBlank d = true ∧ s = d :: s' ∧ respaced (trimStart s') = t := by
  cases s with
  | nil => cases h
  | cons d s =>
    by_cases hd : isBlank d = true
    · rw [respaced_cons_of_isBlank hd] at h
      split at h
      · cases h
      · exact ⟨d, s, hd, rfl, (List.cons.inj h).2⟩
    · have hd : isBlank d = false := by simpa using hd
      rw [respaced_cons_of_not_isBlank hd] at h
      obtain ⟨rfl, -⟩ := List.cons.inj h
      rw [hc] at hd
      cases hd

/-- Texts with the same `respaced` are both at their end, or go on with the same character, or go on
with a run of blanks. -/
theorem cases_of_respaced_eq (h : respaced s = respaced t) :
    (trimStart s = [] ∧ trimStart t = []) ∨
      (∃ c s' t', isBlank c = false ∧ s = c :: s' ∧ t = c :: t' ∧ respaced s' = respaced t') ∨
      ∃ c d s' t', isBlank c = true ∧ isBlank d = true ∧ s = c :: s' ∧ t = d :: t' ∧
        respaced (trimStart s') = respaced (trimStart t') := by
  cases hs : respaced s with
  | nil =>
    rw [hs] at h
    exact .inl ⟨respaced_eq_nil_iff.mp hs, respaced_eq_nil_iff.mp h.symm⟩
  | cons c r =>
    rw [hs] at h
    by_cases hc : isBlank c = true
    · obtain ⟨d, s', hd, rfl, rfl⟩ := exists_of_respaced_eq_cons_of_isBlank hc hs
      obtain ⟨d', t', hd', rfl, ht⟩ := exists_of_respaced_eq_cons_of_isBlank hc h.symm
      exact .inr (.inr ⟨d, d', s', t', hd, hd', rfl, rfl, ht.symm⟩)
    · have hc : isBlank c = false := by simpa using hc
      obtain ⟨s', rfl, rfl⟩ := exists_of_respaced_eq_cons hc hs
      obtain ⟨t', rfl, ht⟩ := exists_of_respaced_eq_cons hc h.symm
      exact .inr (.inl ⟨c, s', t', hc, rfl, rfl, ht.symm⟩)

/-- A word `w` at the front of a text is at the front of every `t` with the same `respaced`. -/
theorem exists_append_of_respaced_eq (hw : ∀ c ∈ w, isBlank c = false)
    (h : respaced (w ++ s) = respaced t) : ∃ t', t = w ++ t' ∧ respaced s = respaced t' := by
  induction w generalizing t with
  | nil => exact ⟨t, rfl, h⟩
  | cons c w ih =>
    obtain ⟨hc, hw⟩ := List.forall_mem_cons.mp hw
    rw [List.cons_append, respaced_cons_of_not_isBlank hc] at h
    obtain ⟨t', rfl, ht⟩ := exists_of_respaced_eq_cons hc h.symm
    obtain ⟨t'', rfl, hs⟩ := ih hw ht.symm
    exact ⟨t'', rfl, hs⟩

/-- So is a character `d` with a run `w` of blanks before it, though `t` may have another run
`w'`. -/
theorem exists_blanks_append_of_respaced_eq (hw : ∀ c ∈ w, isBlank c = true)
    (hd : isBlank d = false) (h : respaced (w ++ d :: s) = respaced t) :
    ∃ w' t', (∀ c ∈ w', isBlank c = true) ∧ t = w' ++ d :: t' ∧ respaced s = respaced t' := by
  have htrim : trimStart (w ++ d :: s) = d :: s := by
    rw [trimStart, List.dropWhile_append_of_pos hw]
    exact trimStart_cons_of_not_isBlank hd s
  have hstart : respaced (trimStart t) = d :: respaced s := by
    rw [respaced_trimStart, ← h, ← respaced_trimStart, htrim, respaced_cons_of_not_isBlank hd]
  obtain ⟨t', ht, ht'⟩ := exists_of_respaced_eq_cons hd hstart
  refine ⟨t.takeWhile isBlank, t', fun c hc => List.mem_takeWhile_imp hc, ?_, ht'.symm⟩
  rw [← ht]
  exact List.takeWhile_append_dropWhile.symm

theorem collapse_eq_nil_iff : collapse s = [] ↔ s = [] := by
  cases s with
  | nil => exact iff_of_true rfl rfl
  | cons c s =>
    refine iff_of_false (fun h => ?_) (List.cons_ne_nil _ _)
    by_cases hc : isBlank c = true
    · rw [collapse_cons_of_isBlank hc] at h
      cases h
    · rw [collapse_cons_of_not_isBlank (by simpa using hc)] at h
      cases h

theorem collapse_trimEnd (s : Text) : collapse (trimEnd s) = respaced s := by
  induction s with
  | nil => rfl
  | cons c s ih =>
    by_cases hc : isBlank c = true
    · have hempty : respaced (trimStart s) = [] ↔ trimEnd s = [] := by
        rw [respaced_trimStart_eq_nil_iff, ← respaced_eq_nil_iff, ← ih, collapse_eq_nil_iff]
      rw [respaced_cons_of_isBlank hc, trimEnd_cons, hc, Bool.true_and]
      by_cases hs : trimEnd s = []
      · rw [hs, hempty.mpr hs]
        rfl
      · rw [if_neg (by simpa using hs), if_neg (by simpa using mt hempty.mp hs),
          collapse_cons_of_isBlank hc, ← trimStart_collapse, ih, respaced_trimStart]
    · have hc : isBlank c = false := by simpa using hc
      rw [trimEnd_cons_of_not_isBlank hc, collapse_cons_of_not_isBlank hc, ih,
        respaced_cons_of_not_isBlank hc]

/-- To `collapse` what `trim` leaves of `s` is to take `respaced` behind `trimStart`. -/
theorem collapse_trim (s : Text) : collapse (trim s) = respaced (trimStart s) :=
  collapse_trimEnd (trimStart s)

theorem trim_collapse (s : Text) : trim (collapse s) = collapse (trim s) := by
  rw [collapse_trim, trim, trimStart_collapse, respaced]

/-! ### Rules that respect spacing -/

/-- A `rule` looks at blanks only in so far as it sees whether there are any. -/
structure RespectsSpacing (rule : Rule) : Prop where
  /-- It does not apply at a blank. -/
  none_of_isBlank : ∀ {before c rest}, isBlank c = true → rule before c rest = none
  /-- It may see beside a place whether there is a word (`isWordChar`). Where it applies it also
  applies if what follows has the same `respaced`; then it puts the same, takes a word that ends
  alike and leaves texts with the same `respaced`. -/
  exists_of_some : ∀ {before before' : Option Char} {c : Char} {s t : Text} {m : Replacement},
    before.any isWordChar = before'.any isWordChar → isBlank c = false →
      respaced s = respaced t → rule before c s = some m →
        ∃ m', rule before' c t = some m' ∧ m'.put = m.put ∧
          respaced (s.drop m.further) = respaced (t.drop m'.further) ∧
          (c :: t.take m'.further).getLast? = (c :: s.take m.further).getLast?

/-- Two words taken that end alike, with the same `respaced` behind them, are what `exists_of_some`
asks for, said by their lengths. -/
theorem respaced_drop_and_getLast?_take {word word' after after' : Text} (hword : word ≠ [])
    (hword' : word' ≠ []) (hs : c :: s = word ++ after) (ht : c :: t = word' ++ after')
    (hlast : word'.getLast? = word.getLast?) (hafter : respaced after = respaced after') :
    respaced (s.drop (word.length - 1)) = respaced (t.drop (word'.length - 1)) ∧
      (c :: t.take (word'.length - 1)).getLast? = (c :: s.take (word.length - 1)).getLast? := by
  obtain ⟨htaken, hleft⟩ := cons_take_and_drop_of_cons_eq_append hword hs
  obtain ⟨htaken', hleft'⟩ := cons_take_and_drop_of_cons_eq_append hword' ht
  rw [htaken, htaken', hleft, hleft']
  exact ⟨hafter, hlast⟩

variable {rule : Rule}

/-- Along a run of blanks nothing is replaced, and there is no word before what follows the run. -/
theorem exists_replaceFrom_eq_append (hrule : RespectsSpacing rule) (before : Option Char)
    (s : Text) :
    ∃ last : Option Char, (before.any isWordChar = false → last.any isWordChar = false) ∧
      replaceFrom rule before 0 s =
        s.takeWhile isBlank ++ replaceFrom rule last 0 (trimStart s) := by
  induction s generalizing before with
  | nil => exact ⟨before, id, rfl⟩
  | cons c s ih =>
    by_cases hc : isBlank c = true
    · obtain ⟨last, hlast, heq⟩ := ih (some c)
      refine ⟨last, fun _ => hlast (isWordChar_eq_false_of_isBlank hc), ?_⟩
      rw [replaceFrom, hrule.none_of_isBlank hc, trimStart_cons_of_isBlank hc,
        List.takeWhile_cons_of_pos hc, List.cons_append, ← heq]
    · have hc' : isBlank c = false := by simpa using hc
      refine ⟨before, id, ?_⟩
      rw [trimStart_cons_of_not_isBlank hc', List.takeWhile_cons_of_neg hc, List.nil_append]

theorem trimStart_takeWhile_append (s x : Text) :
    trimStart (s.takeWhile isBlank ++ x) = trimStart x := by
  rw [trimStart, trimStart, List.dropWhile_append_of_pos fun c hc => List.mem_takeWhile_imp hc]

/-- Where only blanks are left, `replaceFrom rule` leaves only blanks. -/
theorem trimStart_replaceFrom_eq_nil (hrule : RespectsSpacing rule) (before : Option Char)
    (h : trimStart s = []) : trimStart (replaceFrom rule before 0 s) = [] := by
  obtain ⟨last, -, heq⟩ := exists_replaceFrom_eq_append hrule before s
  rw [heq, trimStart_takeWhile_append, h]
  rfl

/-- Texts with the same `respaced` keep that under `replaceFrom rule`, whether they stand behind a
word or not, if both do or neither does. -/
theorem respaced_replaceFrom (hrule : RespectsSpacing rule) {before before' : Option Char}
    (hbefore : before.any isWordChar = before'.any isWordChar) (h : respaced s = respaced t) :
    respaced (replaceFrom rule before 0 s) = respaced (replaceFrom rule before' 0 t) := by
  induction hn : s.length using Nat.strong_induction_on generalizing s t before before' with
  | _ n ih =>
  subst hn
  rcases cases_of_respaced_eq h with ⟨hs, ht⟩ | ⟨c, s', t', hc, rfl, rfl, h'⟩ |
    ⟨c, d, s', t', hc, hd, rfl, rfl, h'⟩
  · rw [respaced_eq_nil_iff.mpr (trimStart_replaceFrom_eq_nil hrule before hs),
      respaced_eq_nil_iff.mpr (trimStart_replaceFrom_eq_nil hrule before' ht)]
  · rw [replaceFrom, replaceFrom]
    cases hm : rule before c s' with
    | some m =>
      -- the rule applies to both, and what is left of them is the same but for its blanks
      obtain ⟨m', hm', hput, hdrop, hlast⟩ := hrule.exists_of_some hbefore hc h' hm
      have hlen : (s'.drop m.further).length < (c :: s').length := by
        rw [List.length_drop, List.length_cons]
        omega
      simp only [hm', hput]
      rw [replaceFrom_eq_drop, replaceFrom_eq_drop rule c m'.further]
      exact respaced_append_congr (ih _ hlen (by rw [hlast]) hdrop rfl) m.put
    | none =>
      have hnone : rule before' c t' = none := by
        cases hm' : rule before' c t' with
        | none => rfl
        | some m' =>
          obtain ⟨m, hm'', -⟩ := hrule.exists_of_some hbefore.symm hc h'.symm hm'
          rw [hm] at hm''
          cases hm''
      simp only [hnone]
      rw [respaced_cons_of_not_isBlank hc, respaced_cons_of_not_isBlank hc,
        ih _ (Nat.lt_succ_self s'.length) rfl h' rfl]
  · rw [replaceFrom, replaceFrom, hrule.none_of_isBlank hc, hrule.none_of_isBlank hd]
    -- both runs of blanks are passed over, however long they are
    obtain ⟨last, hlast, heq⟩ := exists_replaceFrom_eq_append hrule (some c) s'
    obtain ⟨last', hlast', heq'⟩ := exists_replaceFrom_eq_append hrule (some d) t'
    have hlen : (trimStart s').length < (c :: s').length :=
      Nat.lt_succ_of_le (List.dropWhile_sublist isBlank (l := s')).length_le
    have hword : last.any isWordChar = last'.any isWordChar := by
      rw [hlast (isWordChar_eq_false_of_isBlank hc), hlast' (isWordChar_eq_false_of_isBlank hd)]
    refine respaced_cons_congr hc hd ?_
    rw [heq, heq', trimStart_takeWhile_append, trimStart_takeWhile_append, respaced_trimStart,
      respaced_trimStart, ih _ hlen hword h' rfl]

/-- **A rule that respects spacing keeps texts the same but for their blanks.** If
`collapse (trim s) = collapse (trim t)`, so it is of `replace rule s` and `replace rule t`. -/
theorem collapse_trim_replace (hrule : RespectsSpacing rule)
    (h : collapse (trim s) = collapse (trim t)) :
    collapse (trim (replace rule s)) = collapse (trim (replace rule t)) := by
  rw [collapse_trim, collapse_trim] at h ⊢
  obtain ⟨last, hlast, heq⟩ := exists_replaceFrom_eq_append hrule none s
  obtain ⟨last', hlast', heq'⟩ := exists_replaceFrom_eq_append hrule none t
  have hword : last.any isWordChar = last'.any isWordChar := by rw [hlast rfl, hlast' rfl]
  rw [replace, replace, heq, heq', trimStart_takeWhile_append, trimStart_takeWhile_append,
    respaced_trimStart, respaced_trimStart, respaced_replaceFrom hrule hword h]

end MathNotes.Text
