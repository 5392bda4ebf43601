import Mathlib.Data.List.Infix
import MathNotes.Proofs.Text.Delimited

/-!
# How often a text stands in another

The places of a text are its tails, and a needle stands at a place if the tail there begins with it.
In a text that is put together from parts, a needle can also stand across a border. There are two
reasons why it does not:

* the part behind the border begins with a character that the needle has at most in front
  (`occurrences_append`), whatever the part before the border is;
* the part before the border neither holds the needle nor ends with the beginning of one
  (`IsApartFrom`), so that it counts for nothing, whatever follows
  (`IsApartFrom.occurrences_append`).
-/

namespace MathNotes.Text

variable {needle s r : Text}

/-- How often `needle`, which is not empty, stands in `s`: the number of tails of `s` that begin
with it. -/
def occurrences (needle s : Text) : Nat := s.tails.countP needle.isPrefixOf

theorem occurrences_nil (h : needle ≠ []) : occurrences needle [] = 0 := by
  obtain ⟨c, needle, rfl⟩ := List.exists_cons_of_ne_nil h
  rfl

theorem occurrences_cons (needle : Text) (c : Char) (s : Text) :
    occurrences needle (c :: s) =
      occurrences needle s + if needle.isPrefixOf (c :: s) then 1 else 0 := by
  rw [occurrences, List.tails_cons, List.countP_cons, occurrences]

/-! ### Behind a border -/

/-- If `r` begins with no character of `needle.tail`, then no `needle` at the front of `s ++ r`
reaches into `r`. -/
theorem isPrefixOf_append (hs : s ≠ []) (hr : StartsOutside needle.tail.contains r) :
    needle.isPrefixOf (s ++ r) = needle.isPrefixOf s := by
  rw [Bool.eq_iff_iff, List.isPrefixOf_iff_prefix, List.isPrefixOf_iff_prefix]
  refine ⟨fun h => ?_, fun h => h.trans (List.prefix_append ..)⟩
  rcases List.prefix_or_prefix_of_prefix h (List.prefix_append s r) with hle | ⟨more, rfl⟩
  · exact hle
  · -- what the needle has beyond `s` stands at the front of `r`
    rw [List.prefix_append_right_inj] at h
    cases more with
    | nil => rw [List.append_nil]
    | cons c more =>
      obtain ⟨rest, rfl⟩ := h
      rw [List.tail_append_of_ne_nil hs] at hr
      have hmem : (s.tail ++ c :: more).contains c = false := hr
      simp at hmem

theorem occurrences_append (hneedle : needle ≠ []) (hr : StartsOutside needle.tail.contains r) :
    occurrences needle (s ++ r) = occurrences needle s + occurrences needle r := by
  induction s with
  | nil => rw [List.nil_append, occurrences_nil hneedle, Nat.zero_add]
  | cons c s ih =>
    have hprefix := isPrefixOf_append (List.cons_ne_nil c s) hr
    rw [List.cons_append] at hprefix ⊢
    rw [occurrences_cons, occurrences_cons, ih, hprefix]
    omega

/-! ### Before a border -/

/-- No tail of `s` holds `needle` at its front or is the beginning of one. So wherever `needle`
stands in a text `s ++ r`, it stands in `r`. -/
def IsApartFrom (needle s : Text) : Prop :=
  ∀ tail ∈ s.tails, tail ≠ [] → ¬ tail <+: needle ∧ ¬ needle <+: tail

instance (needle s : Text) : Decidable (IsApartFrom needle s) :=
  inferInstanceAs (Decidable (∀ tail ∈ s.tails, _))

theorem isApartFrom_cons {c : Char} :
    IsApartFrom needle (c :: s) ↔
      (¬ c :: s <+: needle ∧ ¬ needle <+: c :: s) ∧ IsApartFrom needle s := by
  rw [IsApartFrom, List.tails_cons, List.forall_mem_cons, imp_iff_right (List.cons_ne_nil c s),
    IsApartFrom]

theorem IsApartFrom.occurrences_append (h : IsApartFrom needle s) :
    occurrences needle (s ++ r) = occurrences needle r := by
  induction s with
  | nil => rw [List.nil_append]
  | cons c s ih =>
    obtain ⟨⟨hbegins, hholds⟩, hs⟩ := isApartFrom_cons.mp h
    have hnot : needle.isPrefixOf (c :: (s ++ r)) = false := by
      rw [Bool.eq_false_iff, Ne, List.isPrefixOf_iff_prefix]
      intro hprefix
      rcases List.prefix_or_prefix_of_prefix hprefix (List.prefix_append (c :: s) r) with hle | hle
      · exact hholds hle
      · exact hbegins hle
    rw [List.cons_append, occurrences_cons, ih hs, hnot]
    rfl

end MathNotes.Text
