import Mathlib.Data.List.Induction
import MathNotes.Text.Lowercase

/-!
# The lower case of parts of a text

The lower case of a part of a text need not be a part of the lower case of the text: a capital sigma
becomes a final one where a word ends, and the part may end in the middle of a word or begin there.
So a query that is found in lower case can be lost when it is shortened.

It cannot be lost in a text that holds no final sigma, and no other but at the front or behind a
space (`HasPlainSigmas`). Only the space has a space at the end of its lower case
(`lowerChar_eq_concat_space`), so a query that is found there has no capital sigma but at the front
or behind a space (`HasSpacedCapitals`), and neither has any part of it. Then none of them is a
final one, and both are lower-cased character by character (`lowercase_infix_of_isInfix`).
-/

namespace MathNotes

theorem lowerChar_ne_nil (c : Char) : lowerChar c ≠ [] := by
  unfold lowerChar
  split
  · exact List.cons_ne_nil _ _
  · split
    · exact List.cons_ne_nil _ _
    · split <;> exact List.cons_ne_nil _ _

theorem toLower_eq_space {c : Char} (hc : c.toNat < 128) (h : c.toLower = ' ') : c = ' ' := by
  have hall : ∀ n < 128, (Char.ofNat n).toLower = ' ' → Char.ofNat n = ' ' := by decide
  have hofNat := hall c.toNat hc
  rw [Char.ofNat_toNat] at hofNat
  exact hofNat h

theorem ofNat_ne_space {n : Nat} (h : 32 < n) : Char.ofNat n ≠ ' ' := by
  intro hspace
  by_cases hvalid : n.isValidChar
  · have haux : Char.ofNat n = Char.ofNatAux n hvalid := dif_pos hvalid
    have hnat : n = 32 := congrArg Char.toNat (haux.symm.trans hspace)
    omega
  · have hzero : Char.ofNat n = '\x00' := dif_neg hvalid
    exact absurd (hzero.symm.trans hspace) (by decide)

/-- Only the space has a space at the end of its `lowerChar`. -/
theorem lowerChar_eq_concat_space {c : Char} {s : Text} (h : lowerChar c = s ++ [' ']) :
    c = ' ' := by
  have hlast : (lowerChar c).getLast? = some ' ' := by rw [h, List.getLast?_concat]
  unfold lowerChar at hlast
  split at hlast
  · next hascii => exact toLower_eq_space hascii (Option.some.inj hlast)
  · split at hlast
    · exact absurd hlast (by decide)
    · split at hlast
      · next shift hfind =>
        -- no lower case outside ASCII is down at the space
        have hall : ∀ s ∈ Text.lowerShifts, 32 < s.first + s.shift := by decide +kernel
        have hshift := hall shift (List.mem_of_find?_eq_some hfind)
        have hfirst : shift.first ≤ c.toNat := by
          have hrange := List.find?_some hfind
          simp only [Bool.and_eq_true, decide_eq_true_eq] at hrange
          exact hrange.1.1
        exact absurd (Option.some.inj hlast) (ofNat_ne_space (by omega))
      · exact Option.some.inj hlast

namespace Text

variable {s t : Text}

/-! ### Characters at their places -/

/-- The lower case of `c` between two texts, of which `before` stands backwards. -/
def lowerBetween (before : Text) (c : Char) (after : Text) : Text :=
  if c = '\u03a3' then
    if cased? before && !cased? after then ['\u03c2'] else ['\u03c3']
  else lowerChar c

theorem lowercaseAfter_cons (before : Text) (c : Char) (s : Text) :
    lowercaseAfter before (c :: s) = lowerBetween before c s ++ lowercaseAfter (c :: before) s :=
  rfl

theorem lowerBetween_sigma (before after : Text) :
    lowerBetween before '\u03a3' after = ['\u03c2'] ∨
      lowerBetween before '\u03a3' after = ['\u03c3'] := by
  rw [lowerBetween, if_pos rfl]
  split
  · exact .inl rfl
  · exact .inr rfl

theorem lowerBetween_of_ne {c : Char} (hc : c ≠ '\u03a3') (before after : Text) :
    lowerBetween before c after = lowerChar c := if_neg hc

theorem lowerBetween_ne_nil (before : Text) (c : Char) (after : Text) :
    lowerBetween before c after ≠ [] := by
  by_cases hc : c = '\u03a3'
  · rw [hc]
    rcases lowerBetween_sigma before after with h | h <;> exact ne_of_eq_of_ne h (by decide)
  · rw [lowerBetween_of_ne hc]
    exact lowerChar_ne_nil c

theorem lowerBetween_eq_concat_space {before after : Text} {c : Char}
    (h : lowerBetween before c after = s ++ [' ']) : c = ' ' := by
  by_cases hc : c = '\u03a3'
  · have hlast : (lowerBetween before c after).getLast? = some ' ' := by
      rw [h, List.getLast?_concat]
    rw [hc] at hlast
    rcases lowerBetween_sigma before after with hsigma | hsigma <;>
      exact absurd (hsigma ▸ hlast) (by decide)
  · exact lowerChar_eq_concat_space ((lowerBetween_of_ne hc before after).symm.trans h)

theorem lowercaseAfter_suffix (before s t : Text) :
    lowercaseAfter (s.reverse ++ before) t <:+ lowercaseAfter before (s ++ t) := by
  induction s generalizing before with
  | nil => exact List.suffix_refl _
  | cons c s ih =>
    rw [List.reverse_cons, List.append_assoc]
    exact (ih (c :: before)).trans (List.suffix_append _ _)

/-- The lower case of `s ++ t` ends with that of `t`, if `s` is counted as being before it. -/
theorem lowercase_suffix (s t : Text) : lowercaseAfter s.reverse t <:+ lowercase (s ++ t) := by
  have h := lowercaseAfter_suffix [] s t
  rwa [List.append_nil] at h

/-- A capital sigma that no word goes up to is not a final one, so `lowerBetween` is `lowerChar`. -/
theorem lowerBetween_of_not_cased {before : Text} {c : Char}
    (h : c = '\u03a3' → cased? before = false) (after : Text) :
    lowerBetween before c after = lowerChar c := by
  by_cases hc : c = '\u03a3'
  · rw [lowerBetween, h hc, hc]
    rfl
  · exact lowerBetween_of_ne hc before after

/-- If no word goes up to a capital sigma of `s`, its lower case is `lowerChar` of each
character. -/
theorem lowercaseAfter_eq_flatMap {before : Text}
    (h : ∀ a b, s = a ++ '\u03a3' :: b → cased? (a.reverse ++ before) = false) :
    lowercaseAfter before s = s.flatMap lowerChar := by
  induction s generalizing before with
  | nil => rfl
  | cons c s ih =>
    have hc : c = '\u03a3' → cased? before = false := fun hc => h [] s (by rw [hc]; rfl)
    have hs : ∀ a b, s = a ++ '\u03a3' :: b → cased? (a.reverse ++ c :: before) = false := by
      intro a b hab
      have hcased := h (c :: a) b (congrArg (c :: ·) hab)
      rwa [List.reverse_cons, List.append_assoc] at hcased
    rw [lowercaseAfter_cons, lowerBetween_of_not_cased hc, ih hs, List.flatMap_cons]

/-! ### Sigmas behind spaces -/

/-- No capital sigma stands in `s` but at the front or behind a space. -/
def HasSpacedCapitals (s : Text) : Prop :=
  ∀ a c b, s = a ++ c :: '\u03a3' :: b → c = ' '

theorem HasSpacedCapitals.of_isInfix (ht : HasSpacedCapitals t) (h : s <:+: t) :
    HasSpacedCapitals s := by
  obtain ⟨front, back, rfl⟩ := h
  rintro a c b rfl
  exact ht (front ++ a) c (b ++ back) (by simp)

theorem lowercase_of_hasSpacedCapitals (h : HasSpacedCapitals s) :
    lowercase s = s.flatMap lowerChar := by
  refine lowercaseAfter_eq_flatMap fun a b hab => ?_
  rw [List.append_nil]
  cases a using List.reverseRecOn with
  | nil => rfl
  | append_singleton a c =>
    -- the space is not cased, and nothing before it is looked at
    obtain rfl := h a c b (by rw [hab, List.append_assoc]; rfl)
    rw [List.reverse_concat]
    rfl

/-! ### Texts to search -/

/-- The text `s`, which is in lower case, holds no final sigma, and no sigma but at the front or
behind a space. -/
def HasPlainSigmas (s : Text) : Prop :=
  '\u03c2' ∉ s ∧ ∀ pair ∈ s.zip s.tail, pair.2 = '\u03c3' → pair.1 = ' '

instance : DecidablePred HasPlainSigmas := fun _ => inferInstanceAs (Decidable (_ ∧ _))

theorem mem_zip_tail (x : Text) (c d : Char) (y : Text) :
    (c, d) ∈ (x ++ c :: d :: y).zip (x ++ c :: d :: y).tail := by
  induction x with
  | nil => exact List.mem_cons_self ..
  | cons a x ih =>
    obtain ⟨e, rest, he⟩ := List.exists_cons_of_ne_nil (l := x ++ c :: d :: y) (by simp)
    rw [List.cons_append, List.tail_cons, he, List.zip_cons_cons]
    rw [he, List.tail_cons] at ih
    exact List.mem_cons_of_mem _ ih

/-- A query `q` that is found in lower case in a `target` with plain sigmas has its capital sigmas
at the front or behind spaces. -/
theorem hasSpacedCapitals_of_isInfix {q target : Text} (ht : HasPlainSigmas target)
    (h : lowercase q <:+: target) : HasSpacedCapitals q := by
  rintro a c b rfl
  obtain ⟨hfinal, hspaces⟩ := ht
  obtain ⟨front, back, rfl⟩ := (lowercase_suffix a (c :: '\u03a3' :: b)).isInfix.trans h
  rw [lowercaseAfter_cons, lowercaseAfter_cons] at hfinal hspaces
  -- what stands before the sigma that is found is the end of the lower case of the character
  obtain ⟨init, last, hlast⟩ := (List.eq_nil_or_concat _).resolve_left
    (lowerBetween_ne_nil a.reverse c ('\u03a3' :: b))
  rw [List.concat_eq_append] at hlast
  rcases lowerBetween_sigma (c :: a.reverse) b with hsigma | hsigma
  · refine absurd ?_ hfinal
    rw [hsigma]
    simp
  · have hpair := mem_zip_tail (front ++ init) last '\u03c3'
      (lowercaseAfter ('\u03a3' :: c :: a.reverse) b ++ back)
    have hspace : last = ' ' := by
      refine hspaces (last, '\u03c3') ?_ rfl
      rw [hlast, hsigma]
      simpa using hpair
    rw [hspace] at hlast
    exact lowerBetween_eq_concat_space hlast

/-- In a `target` whose sigmas are plain, the lower case of a part `q` of a query `r` is found
wherever that of `r` is. -/
theorem lowercase_infix_of_isInfix {q r target : Text} (ht : HasPlainSigmas target) (h : q <:+: r)
    (hr : lowercase r <:+: target) : lowercase q <:+: target := by
  have hspaced := hasSpacedCapitals_of_isInfix ht hr
  rw [lowercase_of_hasSpacedCapitals hspaced] at hr
  rw [lowercase_of_hasSpacedCapitals (hspaced.of_isInfix h)]
  obtain ⟨front, back, rfl⟩ := h
  rw [List.flatMap_append, List.flatMap_append] at hr
  exact List.IsInfix.trans ⟨_, _, rfl⟩ hr

/-- In other texts it need not be, since a sigma is found that ends a word. -/
example : lowercase "\u0391\u03a3" <:+: "\u03b1\u03c2".toList ∧
    ¬ lowercase "\u03a3" <:+: "\u03b1\u03c2".toList := by decide +kernel

end Text

end MathNotes
