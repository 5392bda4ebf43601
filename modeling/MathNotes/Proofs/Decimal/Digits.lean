import Mathlib.Tactic.Positivity
import Mathlib.Tactic.Ring
import MathNotes.Proofs.Text.Delimited
import MathNotes.Text.Word

/-!
# Decimal digits as text

The text `Nat.toDigits 10 n` is a word of digits (`isWord_toDigits`), and it begins with a zero only
for zero itself (`head?_toDigits_ne_zero`). Zeros behind it multiply `n` by powers of ten, and make
it longer by their count (`length_toDigits_mul_pow`).
-/

namespace MathNotes.Decimal

open Text

theorem isWord_toDigits (n : ℕ) : IsWord Char.isDigit (Nat.toDigits 10 n) :=
  ⟨Nat.toDigits_ne_nil, fun _ => Nat.isDigit_of_mem_toDigits (by decide) (by decide)⟩

theorem exists_toDigits_eq_cons (n : ℕ) :
    ∃ c ds, Nat.toDigits 10 n = c :: ds ∧ c.isDigit = true := by
  obtain ⟨c, ds, hds⟩ := List.exists_cons_of_ne_nil (isWord_toDigits n).1
  exact ⟨c, ds, hds, (isWord_toDigits n).2 c (hds ▸ List.mem_cons_self ..)⟩

/-- There are no leading zeros in `Nat.toDigits 10 n`. The induction takes off the last digit. -/
theorem head?_toDigits_ne_zero {n : ℕ} (h : n ≠ 0) : (Nat.toDigits 10 n).head? ≠ some '0' := by
  induction n using Nat.strongRecOn with
  | ind n ih =>
  by_cases hn : n < 10
  · have hdigit : ∀ n < 10, n ≠ 0 → [n.digitChar].head? ≠ some '0' := by decide
    rw [Nat.toDigits_of_lt_base hn]
    exact hdigit n hn h
  · obtain ⟨c, ds, hds, -⟩ := exists_toDigits_eq_cons (n / 10)
    have hfront := ih (n / 10) (by omega) (by omega)
    rw [Nat.toDigits_of_base_le (by decide) (by omega), hds]
    rwa [hds] at hfront

/-- The digits of `d * 10 ^ k` are those of `d` and `k` zeros. -/
theorem length_toDigits_mul_pow {d : ℕ} (hd : d ≠ 0) (k : ℕ) :
    (Nat.toDigits 10 (d * 10 ^ k)).length = (Nat.toDigits 10 d).length + k := by
  induction k with
  | zero => simp
  | succ k ih =>
    have hpos : 0 < d * 10 ^ k := by positivity
    have happend := Nat.toDigits_append_toDigits (by decide : 1 < 10) hpos (by decide : 0 < 10)
    rw [show d * 10 ^ (k + 1) = 10 * (d * 10 ^ k) + 0 by ring, ← happend, List.length_append, ih]
    rfl

end MathNotes.Decimal
