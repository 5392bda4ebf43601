import Mathlib.Order.Nat
import MathNotes.Text.Basic

/-!
# Operations that shrink a text

An operation shrinks, by some measure of texts, if it leaves each text as it is or makes it smaller
(`Shrinks`). Such operations cannot undo each other: `f (g s) = s` iff `f s = s` and `g s = s`
(`Shrinks.comp_eq_self_iff`).
-/

namespace MathNotes.Text

variable {α : Type*} [Preorder α] {size : Text → α} {f g : Text → Text}

/-- The operation `f` leaves each text as it is or makes its `size` smaller. -/
def Shrinks (size : Text → α) (f : Text → Text) : Prop := ∀ s, f s = s ∨ size (f s) < size s

theorem Shrinks.size_le (hf : Shrinks size f) (s : Text) : size (f s) ≤ size s := by
  rcases hf s with h | h
  · rw [h]
  · exact h.le

theorem Shrinks.comp (hf : Shrinks size f) (hg : Shrinks size g) :
    Shrinks size fun s => f (g s) := by
  intro s
  rcases hg s with h | h
  · show f (g s) = s ∨ size (f (g s)) < size s
    rw [h]
    exact hf s
  · exact .inr ((hf.size_le (g s)).trans_lt h)

/-- What `g` made smaller `f` does not bring back, so `f ∘ g` has no fixed points but those of
both. -/
theorem Shrinks.comp_eq_self_iff (hf : Shrinks size f) (hg : Shrinks size g) (s : Text) :
    f (g s) = s ↔ f s = s ∧ g s = s := by
  constructor
  · intro h
    rcases hg s with hs | hlt
    · rw [hs] at h
      exact ⟨h, hs⟩
    · have hle := hf.size_le (g s)
      rw [h] at hle
      exact absurd (hle.trans_lt hlt) (lt_irrefl _)
  · rintro ⟨hfs, hgs⟩
    rw [hgs, hfs]

/-- If `f s` is always a sublist of `s`, then `f` shrinks by `List.length`. -/
theorem shrinks_length_of_sublist (h : ∀ s, (f s).Sublist s) : Shrinks List.length f := by
  intro s
  rcases Nat.lt_or_eq_of_le (h s).length_le with hlt | heq
  · exact .inr hlt
  · exact .inl ((h s).eq_of_length heq)

end MathNotes.Text
