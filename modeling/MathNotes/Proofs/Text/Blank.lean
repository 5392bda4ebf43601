import Mathlib.Data.List.DropRight
import MathNotes.Proofs.Text.Shrink
import MathNotes.Text.Blank
import MathNotes.Text.Word

/-!
# Texts with their blanks in order

`collapse` leaves a text as it is if its blanks are spaces, no two of them adjacent
(`collapse_eq_self_iff`), and `trim` does if neither end is blank (`trim_eq_self_iff`). Together
that says that each blank is a single space within the text (`isSpacedOut_iff`). No blank belongs to
a word (`isWordChar_eq_false_of_isBlank`).
-/

namespace MathNotes.Text

/-! ### Blanks and words -/

/-- No blank belongs to a word: `isBlank` and `isWordChar` are disjoint. -/
theorem isWordChar_eq_false_of_isBlank {c : Char} (hc : isBlank c = true) :
    isWordChar c = false := by
  have hrange : ∀ {first last : Nat}, first ≤ c.toNat → c.toNat ≤ last →
      (∀ n ∈ List.range' first (last + 1 - first), isWordChar (Char.ofNat n) = false) →
      isWordChar c = false := by
    intro first last hfirst hlast hall
    have hmem : c.toNat ∈ List.range' first (last + 1 - first) := by
      rw [List.mem_range'_1]
      omega
    have hchar := hall _ hmem
    rwa [Char.ofNat_toNat] at hchar
  simp only [isBlank, Bool.or_eq_true, Bool.and_eq_true, decide_eq_true_eq] at hc
  rcases hc with ((((((((((rfl | ⟨hlo, hhi⟩) | rfl) | rfl) | rfl) | ⟨hlo, hhi⟩) |
    rfl) | rfl) | rfl) | rfl) | rfl)
  case inl.inl.inl.inl.inl.inl.inl.inl.inl.inr => exact hrange hlo hhi (by decide +kernel)
  case inl.inl.inl.inl.inl.inr => exact hrange hlo hhi (by decide +kernel)
  all_goals decide +kernel

/-! ### Collapsing -/

theorem length_collapseFrom_le (s : Text) (inRun : Bool) :
    (collapseFrom inRun s).length ≤ s.length := by
  induction s generalizing inRun with
  | nil => exact Nat.le_refl _
  | cons c s ih =>
    rw [collapseFrom]
    split
    · split
      · exact Nat.le_succ_of_le (ih true)
      · exact Nat.succ_le_succ (ih true)
    · exact Nat.succ_le_succ (ih false)

/-- Each blank of `s` is a space, and none stands after it. These are the fixed points of
`collapse`. -/
def HasSingleSpaces (s : Text) : Prop :=
  ∀ before c after, s = before ++ c :: after → isBlank c = true →
    c = ' ' ∧ after.head?.any isBlank = false

theorem hasSingleSpaces_cons_iff {c : Char} {s : Text} :
    HasSingleSpaces (c :: s) ↔
      (isBlank c = true → c = ' ' ∧ s.head?.any isBlank = false) ∧ HasSingleSpaces s := by
  constructor
  · intro h
    refine ⟨h [] c s rfl, ?_⟩
    intro before d after hs
    exact h (c :: before) d after (congrArg (c :: ·) hs)
  · rintro ⟨hc, h⟩ before d after hs
    cases before with
    | nil =>
      obtain ⟨rfl, rfl⟩ := List.cons.inj hs
      exact hc
    | cons b before => exact h before d after (List.cons.inj hs).2

theorem collapseFrom_eq_self_iff (s : Text) (inRun : Bool) :
    collapseFrom inRun s = s ↔
      (inRun = true → s.head?.any isBlank = false) ∧ HasSingleSpaces s := by
  induction s generalizing inRun with
  | nil =>
    constructor
    · intro _
      refine ⟨fun _ => rfl, ?_⟩
      intro before c after hs
      exact absurd (congrArg List.length hs) (by simp)
    · intro _
      rfl
  | cons c s ih =>
    rw [collapseFrom, hasSingleSpaces_cons_iff, List.head?_cons, Option.any_some]
    by_cases hc : isBlank c = true
    · rw [if_pos hc, hc]
      cases inRun with
      | true =>
        -- the blank is swallowed, so the text gets shorter
        have hlen := length_collapseFrom_le s true
        constructor
        · intro h
          rw [if_pos rfl] at h
          rw [h, List.length_cons] at hlen
          omega
        · intro h
          cases h.1 rfl
      | false =>
        rw [if_neg Bool.false_ne_true, List.cons.injEq, ih true]
        constructor
        · rintro ⟨rfl, hs, hsingle⟩
          exact ⟨fun h => absurd h Bool.false_ne_true, fun _ => ⟨rfl, hs rfl⟩, hsingle⟩
        · rintro ⟨-, hs, hsingle⟩
          exact ⟨(hs rfl).1.symm, fun _ => (hs rfl).2, hsingle⟩
    · rw [if_neg hc, List.cons_inj_right, ih false]
      constructor
      · rintro ⟨-, hsingle⟩
        exact ⟨fun _ => by simpa using hc, fun h => absurd h hc, hsingle⟩
      · rintro ⟨-, -, hsingle⟩
        exact ⟨fun h => absurd h Bool.false_ne_true, hsingle⟩

theorem collapse_eq_self_iff (s : Text) : collapse s = s ↔ HasSingleSpaces s := by
  rw [collapse, collapseFrom_eq_self_iff]
  exact and_iff_right fun h => absurd h Bool.false_ne_true

/-! ### Trimming -/

theorem trimStart_eq_self_iff (s : Text) : trimStart s = s ↔ s.head?.any isBlank = false := by
  cases s with
  | nil => exact ⟨fun _ => rfl, fun _ => rfl⟩
  | cons c s =>
    rw [trimStart, List.head?_cons, Option.any_some]
    by_cases hc : isBlank c = true
    · rw [List.dropWhile_cons_of_pos hc, hc]
      constructor
      · intro h
        have hlen := (List.dropWhile_sublist isBlank (l := s)).length_le
        rw [h, List.length_cons] at hlen
        omega
      · intro h
        cases h
    · rw [List.dropWhile_cons_of_neg hc]
      exact ⟨fun _ => by simpa using hc, fun _ => rfl⟩

/-- What `trimEnd` does is `List.rdropWhile` for the class `isBlank`. -/
theorem trimEnd_eq_rdropWhile (s : Text) : trimEnd s = s.rdropWhile isBlank := rfl

theorem trimEnd_eq_self_iff (s : Text) : trimEnd s = s ↔ s.getLast?.any isBlank = false := by
  rw [← List.head?_reverse, ← trimStart_eq_self_iff, trimEnd, trimStart,
    List.reverse_eq_iff]

theorem trim_eq_self_iff (s : Text) :
    trim s = s ↔ s.getLast?.any isBlank = false ∧ s.head?.any isBlank = false := by
  rw [← trimEnd_eq_self_iff, ← trimStart_eq_self_iff]
  have hEnd : Shrinks List.length trimEnd :=
    shrinks_length_of_sublist fun s => (List.rdropWhile_prefix isBlank s).sublist
  have hStart : Shrinks List.length trimStart :=
    shrinks_length_of_sublist fun _ => List.dropWhile_sublist isBlank
  exact hEnd.comp_eq_self_iff hStart s

theorem head?_any_isBlank_eq_false {s : Text} (h : ∀ c ∈ s, isBlank c = false) :
    s.head?.any isBlank = false := by
  cases s with
  | nil => rfl
  | cons c s => exact h c (List.mem_cons_self ..)

theorem getLast?_any_isBlank_eq_false {s : Text} (h : ∀ c ∈ s, isBlank c = false) :
    s.getLast?.any isBlank = false := by
  rw [← List.head?_reverse]
  exact head?_any_isBlank_eq_false fun c hc => h c (List.mem_reverse.mp hc)

theorem trim_eq_self_of_forall_not_isBlank {s : Text} (h : ∀ c ∈ s, isBlank c = false) :
    trim s = s :=
  (trim_eq_self_iff s).mpr ⟨getLast?_any_isBlank_eq_false h, head?_any_isBlank_eq_false h⟩

/-! ### Both -/

/-- Each blank of `s` is a space with characters on both sides that are not blank. -/
def IsSpacedOut (s : Text) : Prop :=
  ∀ before c after, s = before ++ c :: after → isBlank c = true →
    c = ' ' ∧ ∃ a b, before.getLast? = some a ∧ after.head? = some b ∧
      isBlank a = false ∧ isBlank b = false

/-- A text is spaced out iff `collapse` and `trim` both leave it as it is. -/
theorem isSpacedOut_iff (s : Text) : IsSpacedOut s ↔ collapse s = s ∧ trim s = s := by
  rw [collapse_eq_self_iff, trim_eq_self_iff]
  constructor
  · intro h
    refine ⟨?_, ?_, ?_⟩
    · intro before c after hs hc
      obtain ⟨hspace, a, b, -, hb, -, hblank⟩ := h before c after hs hc
      exact ⟨hspace, by rw [hb, Option.any_some, hblank]⟩
    · cases hlast : s.getLast? with
      | none => rfl
      | some c =>
        rw [Option.any_some, Bool.eq_false_iff]
        intro hc
        obtain ⟨before, hs⟩ := List.getLast?_eq_some_iff.mp hlast
        obtain ⟨-, a, b, -, hb, -⟩ := h before c [] hs hc
        cases hb
    · cases hhead : s.head? with
      | none => rfl
      | some c =>
        rw [Option.any_some, Bool.eq_false_iff]
        intro hc
        obtain ⟨after, hs⟩ := List.head?_eq_some_iff.mp hhead
        obtain ⟨-, a, b, ha, -⟩ := h [] c after hs hc
        cases ha
  · rintro ⟨hsingle, hlast, hhead⟩ before c after hs hc
    obtain ⟨hspace, hafter⟩ := hsingle before c after hs hc
    refine ⟨hspace, ?_⟩
    -- a blank at an end of the text would be trimmed, so there is something on both sides
    cases hb : after.head? with
    | none =>
      obtain rfl := List.head?_eq_none_iff.mp hb
      rw [hs, List.getLast?_concat, Option.any_some, hc] at hlast
      cases hlast
    | some b =>
      cases ha : before.getLast? with
      | none =>
        obtain rfl := List.getLast?_eq_none_iff.mp ha
        rw [hs, List.nil_append, List.head?_cons, Option.any_some, hc] at hhead
        cases hhead
      | some a =>
        rw [hb, Option.any_some] at hafter
        refine ⟨a, b, rfl, rfl, ?_, hafter⟩
        rw [Bool.eq_false_iff]
        intro hblank
        obtain ⟨front, rfl⟩ := List.getLast?_eq_some_iff.mp ha
        have hnext := (hsingle front a (c :: after) (by rw [hs, List.append_assoc]; rfl) hblank).2
        rw [List.head?_cons, Option.any_some, hc] at hnext
        cases hnext

end MathNotes.Text
