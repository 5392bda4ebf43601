import Mathlib.Algebra.Group.Nat.Even
import Mathlib.Data.List.DropRight
import MathNotes.Proofs.Text.Blank
import MathNotes.Proofs.Text.Replace
import MathNotes.Sanitize.Measure

/-!
# What each cleaning rule leaves alone

For each of the rules that clean markup, this module says in terms of the text which texts it leaves
as they are: those without editor scaffolding (`dropScaffolding_eq_self_iff`), without empty scripts
(`dropEmptyScripts_eq_self_iff`), without bare differentials (`setDifferentials_eq_self_iff`), and
without separators at the ends (`trimSeparators_eq_self_iff`).
-/

namespace MathNotes.Sanitize

open Text

/-! ### Scaffolding -/

/-- If `rule` puts nothing, then what it takes is longer than what it puts, as `replace_eq_self_iff`
asks. -/
theorem weight_one_lt_of_put_nil {rule : Rule}
    (h : ∀ before c rest m, rule before c rest = some m → m.put = []) :
    ∀ before c rest m, rule before c rest = some m →
      weight (fun _ => 1) m.put < 1 + weight (fun _ => 1) (rest.take m.further) := by
  intro before c rest m hm
  rw [h before c rest m hm, weight_nil]
  exact Nat.add_pos_left Nat.one_pos _

theorem ne_nil_of_mem_scaffoldingTokens {token : Text} (h : token ∈ scaffoldingTokens) :
    token ≠ [] := by
  have hall : ∀ token ∈ scaffoldingTokens, token ≠ [] := by decide
  exact hall token h

/-- Where `scaffoldingRule` applies, one of the `scaffoldingTokens` stands, and the rule takes
it. -/
theorem exists_of_scaffoldingRule_eq_some {before : Option Char} {c : Char} {rest : Text}
    {m : Replacement} (h : scaffoldingRule before c rest = some m) :
    ∃ token ∈ scaffoldingTokens, ∃ after, c :: rest = token ++ after ∧
      m = ⟨token.length - 1, []⟩ := by
  unfold scaffoldingRule at h
  split at h
  · next token htoken =>
    have hprefix : token <+: c :: rest := by
      have hfound := List.find?_some (p := fun t : Text => t.isPrefixOf (c :: rest)) htoken
      exact List.isPrefixOf_iff_prefix.mp hfound
    obtain ⟨after, hafter⟩ := hprefix
    exact ⟨token, List.mem_of_find?_eq_some htoken, after, hafter.symm, (Option.some.inj h).symm⟩
  · cases h

theorem scaffoldingRule_eq_none_iff (before : Option Char) (c : Char) (rest : Text) :
    scaffoldingRule before c rest = none ↔
      ∀ token ∈ scaffoldingTokens, ¬ token <+: c :: rest := by
  have hfind : scaffoldingRule before c rest = none ↔
      scaffoldingTokens.find? (·.isPrefixOf (c :: rest)) = none := by
    unfold scaffoldingRule
    split
    · next h => simp [h]
    · next h => simp [h]
  rw [hfind, List.find?_eq_none]
  simp only [List.isPrefixOf_iff_prefix]

theorem dropScaffolding_eq_self_iff (s : Text) :
    dropScaffolding s = s ↔ ∀ token ∈ scaffoldingTokens, ¬ token <:+: s :=
  replace_eq_self_iff_not_infix
    (weight_one_lt_of_put_nil fun _ _ _ _ h => put_of_scaffoldingRule h) (· ∈ scaffoldingTokens)
    (fun _ => ne_nil_of_mem_scaffoldingTokens) scaffoldingRule_eq_none_iff s

/-! ### Empty scripts -/

/-- A script mark, `_` or `^`, with a group after it that holds nothing but blanks. -/
def IsEmptyScript (word : Text) : Prop :=
  ∃ mark inner, (mark = '_' ∨ mark = '^') ∧ (∀ c ∈ inner, isBlank c = true) ∧
    word = mark :: group inner

theorem IsEmptyScript.ne_nil {word : Text} (h : IsEmptyScript word) : word ≠ [] := by
  obtain ⟨mark, inner, -, -, rfl⟩ := h
  exact List.cons_ne_nil _ _

/-- The rule `emptyScriptRule` applies iff an `IsEmptyScript` stands at the place, and takes it. -/
theorem emptyScriptRule_eq_some_iff {before : Option Char} {c : Char} {rest : Text}
    {m : Replacement} :
    emptyScriptRule before c rest = some m ↔
      ∃ word after, IsEmptyScript word ∧ c :: rest = word ++ after ∧
        m = ⟨word.length - 1, []⟩ := by
  constructor
  · intro h
    unfold emptyScriptRule at h
    split at h
    · next hmark =>
      split at h
      · next inner =>
        split at h
        · next after hdrop =>
          -- the blanks up to the closing brace are the group
          have hsplit := List.takeWhile_append_dropWhile (p := isBlank) (l := inner)
          rw [hdrop] at hsplit
          refine ⟨c :: group (inner.takeWhile isBlank), after,
            ⟨c, _, by simpa using hmark, fun d hd => List.mem_takeWhile_imp hd, rfl⟩, ?_, ?_⟩
          · rw [group, List.cons_append, List.cons_append, List.append_assoc,
              List.singleton_append, hsplit]
          · rw [← Option.some.inj h, group, List.length_cons, List.length_cons, List.length_append]
            rfl
        · cases h
      · cases h
    · cases h
  · rintro ⟨word, after, ⟨mark, inner, hmark, hinner, rfl⟩, hs, rfl⟩
    have hrest : mark :: '{' :: (inner ++ '}' :: after) = c :: rest := by
      rw [hs, group]
      simp
    obtain ⟨rfl, rfl⟩ := List.cons.inj hrest
    have hmark' : (decide (mark = '_') || decide (mark = '^')) = true := by simpa using hmark
    have hdrop : (inner ++ '}' :: after).dropWhile isBlank = '}' :: after := by
      rw [List.dropWhile_append_of_pos hinner]
      rfl
    have htake : (inner ++ '}' :: after).takeWhile isBlank = inner := by
      rw [List.takeWhile_append_of_pos hinner]
      exact List.append_nil inner
    rw [emptyScriptRule, if_pos hmark']
    simp only [hdrop, htake, group, List.length_cons, List.length_append, List.length_nil]
    rfl

theorem emptyScriptRule_eq_none_iff (before : Option Char) (c : Char) (rest : Text) :
    emptyScriptRule before c rest = none ↔
      ∀ word, IsEmptyScript word → ¬ word <+: c :: rest := by
  rw [Option.eq_none_iff_forall_ne_some]
  constructor
  · rintro hne word hword ⟨after, hafter⟩
    exact hne _ (emptyScriptRule_eq_some_iff.mpr ⟨word, after, hword, hafter.symm, rfl⟩)
  · intro hall m hm
    obtain ⟨word, after, hword, hs, -⟩ := emptyScriptRule_eq_some_iff.mp hm
    exact hall word hword ⟨after, hs.symm⟩

theorem dropEmptyScripts_eq_self_iff (s : Text) :
    dropEmptyScripts s = s ↔ ∀ word, IsEmptyScript word → ¬ word <:+: s :=
  replace_eq_self_iff_not_infix
    (weight_one_lt_of_put_nil fun _ _ _ _ h => put_of_emptyScriptRule h) IsEmptyScript
    (fun _ => IsEmptyScript.ne_nil) emptyScriptRule_eq_none_iff s

/-! ### Differentials -/

/-- The letter `d`, at most one ASCII letter, a slash, the letter `d` and one ASCII letter. -/
def IsDifferential (word : Text) : Prop :=
  ∃ f v, f.length ≤ 1 ∧ (∀ c ∈ f, c.isAlpha = true) ∧ v.isAlpha = true ∧
    word = 'd' :: (f ++ ['/', 'd', v])

/-- Of the characters on the two sides of the place between `before` and `after`, exactly one
belongs to a word (`isWordChar`). -/
def IsWordBoundary (before after : Text) : Prop :=
  before.getLast?.any isWordChar ≠ after.head?.any isWordChar

theorem isWordChar_of_isAlpha {c : Char} (h : c.isAlpha = true) :
    isWordChar c = true := by
  have halpha : c.isAlpha = true := h
  rw [isWordChar, if_pos (toNat_lt_of_isAlpha h), Char.isAlphanum, halpha]
  rfl

theorem isBlank_eq_false_of_isAlpha {c : Char} (h : c.isAlpha = true) :
    isBlank c = false := by
  rw [Bool.eq_false_iff]
  intro hblank
  have hword := isWordChar_of_isAlpha h
  rw [isWordChar_eq_false_of_isBlank hblank] at hword
  cases hword

theorem isWordBoundary_front_iff {word : Text} (hword : IsDifferential word)
    (before after : Text) :
    IsWordBoundary before (word ++ after) ↔ isWordBorder before.getLast? = true := by
  obtain ⟨f, v, -, -, -, rfl⟩ := hword
  rw [IsWordBoundary, isWordBorder, List.cons_append, List.head?_cons, Option.any_some,
    isWordChar_of_isAlpha (by decide)]
  simp

theorem isWordBoundary_end_iff {word : Text} (hword : IsDifferential word)
    (before after : Text) :
    IsWordBoundary (before ++ word) after ↔ isWordBorder after.head? = true := by
  obtain ⟨f, v, -, -, hv, rfl⟩ := hword
  have hlast : (before ++ 'd' :: (f ++ ['/', 'd', v])).getLast? = some v := by
    rw [show before ++ 'd' :: (f ++ ['/', 'd', v]) = before ++ 'd' :: (f ++ ['/', 'd']) ++ [v] by
      simp, List.getLast?_concat]
  rw [IsWordBoundary, isWordBorder, hlast, Option.any_some, isWordChar_of_isAlpha hv]
  simp

/-- The rule `differentialRule` applies iff an `IsDifferential` stands at the place between two
borders, and takes it. -/
theorem differentialRule_eq_some_iff {before : Option Char} {c : Char} {rest : Text}
    {m : Replacement} :
    differentialRule before c rest = some m ↔
      ∃ f v after, f.length ≤ 1 ∧ (∀ d ∈ f, d.isAlpha = true) ∧ v.isAlpha = true ∧
        c :: rest = 'd' :: (f ++ ['/', 'd', v]) ++ after ∧
        isWordBorder before = true ∧ isWordBorder after.head? = true ∧
        m = ⟨('d' :: (f ++ ['/', 'd', v])).length - 1, differentialFraction f v⟩ := by
  constructor
  · intro h
    unfold differentialRule at h
    split at h
    · next hd =>
      obtain ⟨hc, hbefore⟩ := Bool.and_eq_true_iff.mp hd
      obtain rfl := of_decide_eq_true hc
      split at h
      · next v after =>
        split at h
        · next hv =>
          obtain ⟨hv, hafter⟩ := Bool.and_eq_true_iff.mp hv
          exact ⟨[], v, after, Nat.zero_le _, by simp, hv, rfl, hbefore, hafter,
            (Option.some.inj h).symm⟩
        · cases h
      · next f v after =>
        split at h
        · next hfv =>
          obtain ⟨hfv, hafter⟩ := Bool.and_eq_true_iff.mp hfv
          obtain ⟨hf, hv⟩ := Bool.and_eq_true_iff.mp hfv
          exact ⟨[f], v, after, Nat.le_refl _, by simpa using hf, hv, rfl, hbefore, hafter,
            (Option.some.inj h).symm⟩
        · cases h
      · cases h
    · cases h
  · rintro ⟨f, v, after, hlen, hf, hv, hs, hbefore, hafter, rfl⟩
    obtain ⟨rfl, rfl⟩ := List.cons.inj hs
    match f with
    | [] => simp [differentialRule, hbefore, hv, hafter]
    | [x] =>
      have hx : x.isAlpha = true := hf x (List.mem_cons_self ..)
      simp [differentialRule, hbefore, hv, hafter, hx]
    | _ :: _ :: _ => simp at hlen

theorem differentialRule_eq_none_iff (before : Option Char) (c : Char) (rest : Text) :
    differentialRule before c rest = none ↔
      ∀ word after, c :: rest = word ++ after → IsDifferential word →
        ¬ (isWordBorder before = true ∧ isWordBorder after.head? = true) := by
  rw [Option.eq_none_iff_forall_ne_some]
  constructor
  · rintro hne word after hs ⟨f, v, hlen, hf, hv, rfl⟩ ⟨hbefore, hafter⟩
    exact hne _ (differentialRule_eq_some_iff.mpr
      ⟨f, v, after, hlen, hf, hv, hs, hbefore, hafter, rfl⟩)
  · intro hall m hm
    obtain ⟨f, v, after, hlen, hf, hv, hs, hbefore, hafter, -⟩ :=
      differentialRule_eq_some_iff.mp hm
    exact hall _ after hs ⟨f, v, hlen, hf, hv, rfl⟩ ⟨hbefore, hafter⟩

theorem setDifferentials_eq_self_iff (s : Text) :
    setDifferentials s = s ↔
      ∀ before word after, s = before ++ (word ++ after) → IsDifferential word →
        ¬ (IsWordBoundary before (word ++ after) ∧ IsWordBoundary (before ++ word) after) := by
  rw [setDifferentials, replace_eq_self_iff (w := fun c => if c = '/' then 1 else 0)
    (fun b c r m hm => by simpa [slashes] using slashes_of_differentialRule hm)]
  simp only [differentialRule_eq_none_iff]
  constructor
  · intro hall before word after hs hword
    rw [isWordBoundary_front_iff hword, isWordBoundary_end_iff hword]
    -- the rule is asked at the letter d that the differential begins with
    obtain ⟨f, v, hrest⟩ := hword
    obtain rfl := hrest.2.2.2
    exact hall before 'd' _ hs _ after rfl ⟨f, v, hrest⟩
  · intro hall before c rest hs word after hrest hword
    rw [← isWordBoundary_front_iff hword before after, ← isWordBoundary_end_iff hword before after]
    exact hall before word after (by rw [hs, hrest]) hword

/-! ### Separators -/

theorem dropMark_eq_self_iff {mark : Text} (hmark : mark ≠ []) (s : Text) :
    dropMark mark s = s ↔ ¬ mark <+: s := by
  rw [dropMark, ← List.isPrefixOf_iff_prefix]
  split
  · next h =>
    have hpos := List.length_pos_iff.mpr hmark
    have hle := (List.isPrefixOf_iff_prefix.mp h).length_le
    refine ⟨fun heq => ?_, fun hno => absurd h hno⟩
    have hlength := congrArg List.length heq
    rw [List.length_drop] at hlength
    omega
  · next h => exact ⟨fun _ => h, fun _ => rfl⟩

theorem dropRowMarkEnd_eq_self_iff (s : Text) : dropRowMarkEnd s = s ↔ ¬ rowMark <:+ s := by
  rw [dropRowMarkEnd, List.reverse_eq_iff, dropMark_eq_self_iff (by decide)]
  exact not_congr (@List.reverse_prefix Char rowMark s)

/-- An `&` at the end of `s` stays iff an odd number of backslashes stands before it. -/
theorem dropColumnMarkEnd_eq_self_iff (s : Text) :
    dropColumnMarkEnd s = s ↔
      ∀ before, s = before ++ ['&'] → ¬ Even (before.rtakeWhile (· = '\\')).length := by
  constructor
  · rintro h before rfl heven
    have hlen : (before.reverse.takeWhile (· = '\\')).length % 2 = 0 := by
      rw [List.rtakeWhile, List.length_reverse] at heven
      exact Nat.even_iff.mp heven
    rw [dropColumnMarkEnd, List.reverse_concat] at h
    simp only [hlen, if_true, List.reverse_reverse] at h
    exact absurd (congrArg List.length h) (by simp)
  · intro hall
    unfold dropColumnMarkEnd
    split
    · next before hs =>
      have hs' : s = before.reverse ++ ['&'] := by
        rw [← List.reverse_cons, ← hs, List.reverse_reverse]
      have hodd := hall before.reverse hs'
      rw [List.rtakeWhile, List.reverse_reverse, List.length_reverse, Nat.even_iff] at hodd
      rw [if_neg hodd]
    · rfl

/-- There is nothing at the ends of `s` for `trimRound` to take off. -/
structure IsTrimmed (s : Text) : Prop where
  no_blank : s.head?.any isBlank = false
  no_blank_end : s.getLast?.any isBlank = false
  no_column_mark : ¬ ['&'] <+: s
  no_row_mark : ¬ rowMark <+: s
  no_row_mark_end : ¬ rowMark <:+ s
  /-- An `&` at the end is escaped: an odd number of backslashes stands before it. -/
  no_column_mark_end : ∀ before, s = before ++ ['&'] →
    ¬ Even (before.rtakeWhile (· = '\\')).length

theorem trimRound_eq_self_iff (s : Text) : trimRound s = s ↔ IsTrimmed s := by
  have h1 := shrinks_length_of_sublist trim_sublist
  have h2 := (shrinks_length_of_sublist (dropMark_sublist ['&'])).comp h1
  have h3 := (shrinks_length_of_sublist (dropMark_sublist rowMark)).comp h2
  have h4 := (shrinks_length_of_sublist dropColumnMarkEnd_sublist).comp h3
  rw [trimRound, (shrinks_length_of_sublist dropRowMarkEnd_sublist).comp_eq_self_iff h4,
    (shrinks_length_of_sublist dropColumnMarkEnd_sublist).comp_eq_self_iff h3,
    (shrinks_length_of_sublist (dropMark_sublist rowMark)).comp_eq_self_iff h2,
    (shrinks_length_of_sublist (dropMark_sublist ['&'])).comp_eq_self_iff h1,
    dropRowMarkEnd_eq_self_iff, dropColumnMarkEnd_eq_self_iff, dropMark_eq_self_iff (by decide),
    dropMark_eq_self_iff (by decide), trim_eq_self_iff]
  constructor
  · rintro ⟨hrowEnd, hcolumnEnd, hrow, hcolumn, hblankEnd, hblank⟩
    exact ⟨hblank, hblankEnd, hcolumn, hrow, hrowEnd, hcolumnEnd⟩
  · intro h
    exact ⟨h.no_row_mark_end, h.no_column_mark_end, h.no_row_mark, h.no_column_mark,
      h.no_blank_end, h.no_blank⟩

theorem trimRound_eq_self_of_not_lt {s : Text} (h : ¬ (trimRound s).length < s.length) :
    trimRound s = s :=
  (shrinks_length_of_sublist trimRound_sublist s).resolve_right h

/-- What `trimSeparators` leaves of `s` has nothing at its ends to be taken off. -/
theorem isTrimmed_trimSeparators (s : Text) : IsTrimmed (trimSeparators s) := by
  fun_induction trimSeparators s with
  | case1 s _ ih => exact ih
  | case2 s hlength =>
    have hround := trimRound_eq_self_of_not_lt hlength
    rw [hround]
    exact (trimRound_eq_self_iff s).mp hround

/-- The fixed points of `trimSeparators` are those of `trimRound`: the texts that satisfy
`IsTrimmed`. -/
theorem trimSeparators_eq_self_iff (s : Text) : trimSeparators s = s ↔ IsTrimmed s := by
  constructor
  · intro h
    rw [← h]
    exact isTrimmed_trimSeparators s
  · intro h
    have hround := (trimRound_eq_self_iff s).mpr h
    rw [trimSeparators, hround, if_neg (Nat.lt_irrefl _)]

end MathNotes.Sanitize
