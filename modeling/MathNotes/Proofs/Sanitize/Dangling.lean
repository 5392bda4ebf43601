import Mathlib.Algebra.Group.Nat.Even
import Mathlib.Data.List.DropRight
import Mathlib.Logic.Relation
import MathNotes.Proofs.Text.Blank
import MathNotes.Sanitize.Rules

/-!
# What trimming cuts off

Trimming strips one thing after another off the two ends of a text: a blank, a column separator or a
row separator (`Strips`). Each of its steps does that, and so do all its rounds together
(`strips_trimSeparators`). What is said of everything that is stripped, in whatever order, is
therefore said of `trimSeparators`: it leaves what is between the ends as it is and takes off blanks
and separators only (`isCutFrom_of_strips`).
-/

namespace MathNotes.Sanitize

open Relation Text

variable {s t : Text}

/-! ### Stripping -/

/-- One thing is taken off an end of a text. An `&` at the back must not be escaped by the
backslashes that are left before it. -/
inductive Strips : Text → Text → Prop where
  | blank {c : Char} {s : Text} (hc : isBlank c = true) : Strips (c :: s) s
  | column {s : Text} : Strips ('&' :: s) s
  | row {s : Text} : Strips ('\\' :: '\\' :: s) s
  | blankEnd {c : Char} {s : Text} (hc : isBlank c = true) : Strips (s ++ [c]) s
  | columnEnd {s : Text} (heven : Even (s.rtakeWhile (· = '\\')).length) : Strips (s ++ ['&']) s
  | rowEnd {s : Text} : Strips (s ++ ['\\', '\\']) s

theorem strips_trimStart (s : Text) : ReflTransGen Strips s (trimStart s) := by
  induction s with
  | nil => exact .refl
  | cons c s ih =>
    rw [trimStart]
    by_cases hc : isBlank c = true
    · rw [List.dropWhile_cons_of_pos hc]
      exact .head (.blank hc) ih
    · rw [List.dropWhile_cons_of_neg hc]

theorem strips_append_blanks {back : Text} (h : ∀ c ∈ back, isBlank c = true) :
    ReflTransGen Strips (s ++ back) s := by
  induction back using List.reverseRecOn with
  | nil => rw [List.append_nil]
  | append_singleton back c ih =>
    obtain ⟨hback, hc⟩ := List.forall_mem_append.mp h
    rw [← List.append_assoc]
    exact .head (.blankEnd (hc c (List.mem_singleton_self c))) (ih hback)

theorem strips_trimEnd (s : Text) : ReflTransGen Strips s (trimEnd s) := by
  rw [trimEnd_eq_rdropWhile]
  have hback : ∀ c ∈ s.rtakeWhile isBlank, isBlank c = true := fun c => List.mem_rtakeWhile_imp
  have h := strips_append_blanks (s := s.rdropWhile isBlank) hback
  rwa [List.rdropWhile_append_rtakeWhile] at h

theorem strips_dropMark {mark : Text} (hmark : ∀ s, Strips (mark ++ s) s) (s : Text) :
    ReflTransGen Strips s (dropMark mark s) := by
  unfold dropMark
  split
  · next h =>
    obtain ⟨rest, rfl⟩ := List.isPrefixOf_iff_prefix.mp h
    rw [List.drop_left]
    exact .single (hmark rest)
  · exact .refl

theorem strips_dropColumnMarkEnd (s : Text) : ReflTransGen Strips s (dropColumnMarkEnd s) := by
  unfold dropColumnMarkEnd
  split
  · next before hs =>
    split
    · next heven =>
      have hs : s = before.reverse ++ ['&'] := by
        rw [← List.reverse_cons, ← hs, List.reverse_reverse]
      rw [hs]
      refine .single (.columnEnd ?_)
      rwa [List.rtakeWhile, List.reverse_reverse, List.length_reverse, Nat.even_iff]
    · exact .refl
  · exact .refl

theorem strips_dropRowMarkEnd (s : Text) : ReflTransGen Strips s (dropRowMarkEnd s) := by
  unfold dropRowMarkEnd dropMark
  split
  · next h =>
    obtain ⟨before, hbefore⟩ := List.isPrefixOf_iff_prefix.mp h
    rw [← hbefore, List.drop_left]
    -- read backwards the separator is the same
    have hs : s = before.reverse ++ ['\\', '\\'] := by
      rw [← List.reverse_reverse s, ← hbefore, List.reverse_append]
      rfl
    rw [hs]
    exact .single .rowEnd
  · rw [List.reverse_reverse]

theorem strips_trimRound (s : Text) : ReflTransGen Strips s (trimRound s) :=
  (strips_trimStart s).trans <| (strips_trimEnd _).trans <|
    (strips_dropMark (fun _ => .column) _).trans <| (strips_dropMark (fun _ => .row) _).trans <|
    (strips_dropColumnMarkEnd _).trans <| strips_dropRowMarkEnd _

/-- All that `trimSeparators` does is to strip one thing after another. -/
theorem strips_trimSeparators (s : Text) : ReflTransGen Strips s (trimSeparators s) := by
  fun_induction trimSeparators s with
  | case1 s _ ih => exact (strips_trimRound s).trans ih
  | case2 s _ => exact strips_trimRound s

/-! ### What is stripped off -/

/-- A text made of blanks, column separators and row separators (`rowMark`). -/
inductive IsDangling : Text → Prop where
  | nil : IsDangling []
  | blank {c : Char} {s : Text} (hc : isBlank c = true) (hs : IsDangling s) : IsDangling (c :: s)
  | column {s : Text} (hs : IsDangling s) : IsDangling ('&' :: s)
  | row {s : Text} (hs : IsDangling s) : IsDangling ('\\' :: '\\' :: s)

theorem IsDangling.append (hs : IsDangling s) (ht : IsDangling t) : IsDangling (s ++ t) := by
  induction hs with
  | nil => exact ht
  | blank hc _ ih => exact .blank hc ih
  | column _ ih => exact .column ih
  | row _ ih => exact .row ih

/-- The text `t` is what is left of `s` when dangling separators are cut off both ends. -/
def IsCutFrom (t s : Text) : Prop :=
  ∃ front back, IsDangling front ∧ IsDangling back ∧ s = front ++ (t ++ back)

theorem IsCutFrom.refl (s : Text) : IsCutFrom s s :=
  ⟨[], [], .nil, .nil, (List.append_nil s).symm⟩

theorem IsCutFrom.trans {r : Text} (hr : IsCutFrom r s) (hs : IsCutFrom s t) : IsCutFrom r t := by
  obtain ⟨front, back, hfront, hback, rfl⟩ := hr
  obtain ⟨front', back', hfront', hback', rfl⟩ := hs
  refine ⟨front' ++ front, back ++ back', hfront'.append hfront, hback.append hback', ?_⟩
  simp only [List.append_assoc]

theorem isCutFrom_of_front {front : Text} (h : IsDangling front) : IsCutFrom t (front ++ t) :=
  ⟨front, [], h, .nil, by rw [List.append_nil]⟩

theorem isCutFrom_of_back {back : Text} (h : IsDangling back) : IsCutFrom t (t ++ back) :=
  ⟨[], back, .nil, h, rfl⟩

theorem Strips.isCutFrom (h : Strips s t) : IsCutFrom t s := by
  cases h with
  | blank hc => exact isCutFrom_of_front (.blank hc .nil)
  | column => exact isCutFrom_of_front (.column .nil)
  | row => exact isCutFrom_of_front (.row .nil)
  | blankEnd hc => exact isCutFrom_of_back (.blank hc .nil)
  | columnEnd _ => exact isCutFrom_of_back (.column .nil)
  | rowEnd => exact isCutFrom_of_back (.row .nil)

/-- In whatever order it is done, stripping takes off blanks and separators only, so what is left of
`s` is cut from it. -/
theorem isCutFrom_of_strips (h : ReflTransGen Strips s t) : IsCutFrom t s := by
  induction h with
  | refl => exact .refl s
  | tail _ hstep ih => exact hstep.isCutFrom.trans ih

theorem isCutFrom_trimSeparators (s : Text) : IsCutFrom (trimSeparators s) s :=
  isCutFrom_of_strips (strips_trimSeparators s)

end MathNotes.Sanitize
