import Mathlib.Data.Nat.Digits.Lemmas
import MathNotes.Identifier
import MathNotes.Proofs.Decimal.Digits

/-!
# Identifiers collide only when they must

The suffix of an identifier is a number of nine digits in base 36, and every such number is small
enough to be drawn. The time in front of it can be read off, since it has no hyphen in it.

* The suffix made of a draw is the draw modulo `36 ^ 9` (`suffixValue_base36`), and each suffix is
  made of some draw (`exists_base36_eq`).
* Two identifiers are the same exactly if they are made at the same time, of draws that are the same
  modulo `36 ^ 9` (`ofMoment_eq_iff`).
* An identifier made after the beginning of the epoch has the form that is asked of one
  (`hasForm_ofMoment`, `isWellFormed_ofMoment`).
-/

namespace MathNotes.Identifier

/-! ### Base 36 -/

theorem mem_alphabet_iff {c : Char} : c ∈ alphabet ↔ isDigit36 c = true := by
  constructor
  · have hall : alphabet.all isDigit36 = true := by decide
    exact List.all_eq_true.mp hall c
  · intro h
    -- Digits and letters are ASCII characters, so it is enough to run through the codes.
    have hcodes : ∀ n < 123, isDigit36 (Char.ofNat n) = true → Char.ofNat n ∈ alphabet := by decide
    have hlt : c.toNat < 123 := by
      rw [isDigit36, Char.isDigit, Bool.or_eq_true] at h
      rcases h with h | h
      · have hle : c.val ≤ 57 := by simpa using (Bool.and_eq_true_iff.mp h).2
        exact Nat.lt_of_le_of_lt (UInt32.le_iff_toNat_le.mp hle) (by decide)
      · have hle : c ≤ 'z' := of_decide_eq_true (Bool.and_eq_true_iff.mp h).2
        exact Nat.lt_succ_of_le hle
    have hmem := hcodes c.toNat hlt
    rw [Char.ofNat_toNat] at hmem
    exact hmem h

/-- The number that digits of base 36 stand for, the lowest first, as `Nat.ofDigits` reads them. -/
def suffixValue (t : Text) : Nat := Nat.ofDigits 36 (t.map alphabet.idxOf)

theorem suffixValue_cons (c : Char) (t : Text) :
    suffixValue (c :: t) = alphabet.idxOf c + 36 * suffixValue t := Nat.ofDigits_cons ..

variable {s t : Text} {c : Char}

theorem idxOf_lt (h : c ∈ alphabet) : alphabet.idxOf c < 36 := by
  rw [← length_alphabet]
  exact List.idxOf_lt_length_of_mem h

theorem suffixValue_lt (ht : ∀ c ∈ t, c ∈ alphabet) : suffixValue t < 36 ^ t.length := by
  have hlt : ∀ d ∈ t.map alphabet.idxOf, d < 36 := by
    intro d hd
    obtain ⟨c, hc, rfl⟩ := List.mem_map.mp hd
    exact idxOf_lt (ht c hc)
  have hbound := Nat.ofDigits_lt_base_pow_length (by decide) hlt
  rwa [List.length_map] at hbound

/-- Digits `s` and `t` of one length are the same if `suffixValue s = suffixValue t`. -/
theorem eq_of_suffixValue_eq (hs : ∀ c ∈ s, c ∈ alphabet) (ht : ∀ c ∈ t, c ∈ alphabet)
    (hlength : s.length = t.length) (h : suffixValue s = suffixValue t) : s = t := by
  induction s generalizing t with
  | nil => exact (List.length_eq_zero_iff.mp hlength.symm).symm
  | cons c s ih =>
    cases t with
    | nil => cases hlength
    | cons d t =>
      have hc := hs c (List.mem_cons_self ..)
      have hclt := idxOf_lt hc
      have hdlt := idxOf_lt (ht d (List.mem_cons_self ..))
      rw [suffixValue_cons, suffixValue_cons] at h
      have hhead : alphabet.idxOf c = alphabet.idxOf d := by omega
      have htail : suffixValue s = suffixValue t := by omega
      rw [(List.idxOf_inj hc).mp hhead, ih (fun e he => hs e (List.mem_cons_of_mem _ he))
        (fun e he => ht e (List.mem_cons_of_mem _ he)) (Nat.succ.inj hlength) htail]

/-! ### Digits of a draw -/

theorem length_base36 (count : Nat) (bits : UInt64) : (base36 count bits).length = count := by
  induction count generalizing bits with
  | zero => rfl
  | succ count ih => rw [base36, List.length_cons, ih]

theorem mem_alphabet_of_mem_base36 {count : Nat} {bits : UInt64} (h : c ∈ base36 count bits) :
    c ∈ alphabet := by
  induction count generalizing bits with
  | zero => cases h
  | succ count ih =>
    rcases List.mem_cons.mp h with rfl | h
    · exact List.get_mem ..
    · exact ih h

theorem idxOf_lowestDigit (bits : UInt64) :
    alphabet.idxOf (lowestDigit bits) = bits.toNat % 36 := by
  have hnodup : alphabet.Nodup := by decide
  rw [lowestDigit, List.get_eq_getElem, hnodup.idxOf_getElem]
  exact UInt64.toNat_mod bits 36

/-- The `count` digits taken off a word stand for the word modulo `36 ^ count`. -/
theorem suffixValue_base36 (count : Nat) (bits : UInt64) :
    suffixValue (base36 count bits) = bits.toNat % 36 ^ count := by
  induction count generalizing bits with
  | zero => rw [pow_zero, Nat.mod_one]; rfl
  | succ count ih =>
    rw [base36, suffixValue_cons, idxOf_lowestDigit, ih, UInt64.toNat_div, pow_succ', Nat.mod_mul]
    rfl

theorem base36_eq_iff (count : Nat) (bits bits' : UInt64) :
    base36 count bits = base36 count bits' ↔ bits.toNat ≡ bits'.toNat [MOD 36 ^ count] := by
  rw [Nat.ModEq, ← suffixValue_base36, ← suffixValue_base36]
  constructor
  · exact congrArg suffixValue
  · refine eq_of_suffixValue_eq (fun c => mem_alphabet_of_mem_base36)
      (fun c => mem_alphabet_of_mem_base36) ?_
    rw [length_base36, length_base36]

/-- Digits `t` that a word has room for, `36 ^ t.length ≤ 2 ^ 64`, are the lowest of some word. -/
theorem exists_base36_eq (ht : ∀ c ∈ t, c ∈ alphabet) (hroom : 36 ^ t.length ≤ 2 ^ 64) :
    ∃ bits : UInt64, base36 t.length bits = t := by
  have hlt := suffixValue_lt ht
  have hbits : (UInt64.ofNat (suffixValue t)).toNat = suffixValue t :=
    UInt64.toNat_ofNat_of_lt (Nat.lt_of_lt_of_le hlt hroom)
  refine ⟨UInt64.ofNat (suffixValue t), ?_⟩
  refine eq_of_suffixValue_eq (fun c => mem_alphabet_of_mem_base36) ht (length_base36 ..) ?_
  rw [suffixValue_base36, hbits, Nat.mod_eq_of_lt hlt]

/-! ### The form of an identifier -/

/-- The text `s` is an identifier made at the time `millis`: `millis` as a decimal number without
leading zeros, a hyphen and nine digits of base 36. -/
def HasForm (millis : Nat) (s : Text) : Prop :=
  ∃ front suffix, s = front ++ '-' :: suffix ∧
    (∀ c ∈ front, c.isDigit = true) ∧ front.head? ≠ some '0' ∧
    Nat.ofDigitChars 10 front 0 = millis ∧ suffix.length = 9 ∧ ∀ c ∈ suffix, isDigit36 c = true

theorem hasForm_ofMoment {m : Moment} (h : 0 < m.millis) : HasForm m.millis (ofMoment m) :=
  ⟨_, _, rfl, (Decimal.isWord_toDigits _).2,
    Decimal.head?_toDigits_ne_zero (Nat.ne_of_gt h), Nat.ofDigitChars_ten_toDigits,
    length_base36 ..,
    fun _ hc => mem_alphabet_iff.mp (mem_alphabet_of_mem_base36 hc)⟩

section

variable {front suffix : Text} (h : ∀ c ∈ front, c.isDigit = true)
include h

/-- The decimal number `front` ends at the hyphen. -/
theorem takeWhile_append_hyphen : (front ++ '-' :: suffix).takeWhile Char.isDigit = front := by
  rw [List.takeWhile_append_of_pos h]
  exact List.append_nil _

theorem dropWhile_append_hyphen :
    (front ++ '-' :: suffix).dropWhile Char.isDigit = '-' :: suffix := by
  rw [List.dropWhile_append_of_pos h]
  rfl

end

/-- What `HasForm` says is more than `isWellFormed` checks, if the time is after the beginning of
the epoch. -/
theorem isWellFormed_of_hasForm {millis : Nat} (h : HasForm millis s) (hpos : 0 < millis) :
    isWellFormed s = true := by
  obtain ⟨front, suffix, rfl, hfront, -, rfl, hlength, hsuffix⟩ := h
  rw [isWellFormed, takeWhile_append_hyphen hfront, dropWhile_append_hyphen hfront]
  simpa [hpos, hlength, suffixLength] using hsuffix

theorem isWellFormed_ofMoment {m : Moment} (h : 0 < m.millis) : isWellFormed (ofMoment m) = true :=
  isWellFormed_of_hasForm (hasForm_ofMoment h) h

/-! ### Collisions -/

/-- The time can be read off an identifier, and the draw modulo `36 ^ suffixLength`. -/
theorem ofMoment_eq_iff (m m' : Moment) :
    ofMoment m = ofMoment m' ↔
      m.millis = m'.millis ∧ m.draw.toNat ≡ m'.draw.toNat [MOD 36 ^ suffixLength] := by
  have hdigits (n : Nat) : ∀ c ∈ Nat.toDigits 10 n, c.isDigit = true :=
    (Decimal.isWord_toDigits _).2
  rw [← base36_eq_iff]
  constructor
  · intro h
    rw [ofMoment, ofMoment] at h
    have hfront := congrArg (List.takeWhile Char.isDigit) h
    have hsuffix := congrArg (List.dropWhile Char.isDigit) h
    rw [takeWhile_append_hyphen (hdigits _), takeWhile_append_hyphen (hdigits _)] at hfront
    rw [dropWhile_append_hyphen (hdigits _), dropWhile_append_hyphen (hdigits _)] at hsuffix
    refine ⟨?_, (List.cons.inj hsuffix).2⟩
    rw [← Nat.ofDigitChars_ten_toDigits (n := m.millis), hfront, Nat.ofDigitChars_ten_toDigits]
  · rintro ⟨hmillis, hsuffix⟩
    rw [ofMoment, ofMoment, hmillis, hsuffix]

/-- **Identifiers collide only when they must.** Two identifiers made after the beginning of the
epoch have the form that is asked of them, and `ofMoment m = ofMoment m'` exactly if the times are
the same and the draws are the same modulo `36 ^ 9`. Every suffix of nine digits can be drawn. -/
theorem ofMoment_collides_only_when_it_must (m m' : Moment) (h : 0 < m.millis)
    (h' : 0 < m'.millis) :
    HasForm m.millis (ofMoment m) ∧ HasForm m'.millis (ofMoment m') ∧
      (ofMoment m = ofMoment m' ↔
        m.millis = m'.millis ∧ m.draw.toNat ≡ m'.draw.toNat [MOD 36 ^ 9]) ∧
      ∀ suffix : Text, suffix.length = 9 → (∀ c ∈ suffix, isDigit36 c = true) →
        ∃ draw, ofMoment { m with draw } = Nat.toDigits 10 m.millis ++ '-' :: suffix := by
  refine ⟨hasForm_ofMoment h, hasForm_ofMoment h', ofMoment_eq_iff m m', ?_⟩
  intro suffix hlength hsuffix
  have hroom : 36 ^ suffix.length ≤ 2 ^ 64 := by
    rw [hlength]
    decide
  obtain ⟨draw, hdraw⟩ := exists_base36_eq (fun c hc => mem_alphabet_iff.mpr (hsuffix c hc)) hroom
  rw [hlength] at hdraw
  refine ⟨draw, ?_⟩
  rw [ofMoment, suffixLength, hdraw]

/-- Two draws at one time that are apart by `36 ^ 9` collide, and two that are apart by one do
not. -/
theorem ofMoment_collides_at_draws_apart_by_power :
    ofMoment ⟨1700000000000, 5⟩ = ofMoment ⟨1700000000000, 101559956668421⟩ ∧
      ofMoment ⟨1700000000000, 5⟩ ≠ ofMoment ⟨1700000000000, 6⟩ := by
  constructor
  · have hcollision := ofMoment_collides_only_when_it_must ⟨1700000000000, 5⟩
      ⟨1700000000000, 101559956668421⟩ (by decide) (by decide)
    exact hcollision.2.2.1.mpr ⟨rfl, by decide⟩
  · have hcollision := ofMoment_collides_only_when_it_must ⟨1700000000000, 5⟩ ⟨1700000000000, 6⟩
      (by decide) (by decide)
    exact fun h => absurd (hcollision.2.2.1.mp h).2 (by decide)

end MathNotes.Identifier
