import MathNotes.Json.Token
import MathNotes.Proofs.Decimal.Digits
import MathNotes.Proofs.Text.Delimited

/-!
# Tokens are read back from their spelling

What `Token.text` puts at the front of a text is read as that token by `readToken`, and the rest is
left (`readToken_text_append`). That holds of every string, whatever is escaped in it, and of the
integers that fit a 64-bit word (`IsWordInteger`); after a number something must follow that does
not go on with it (`goesOnNumber`).
-/

namespace MathNotes.Json

open Text

/-! ### Strings -/

theorem hexValue?_hexDigit {d : Nat} (h : d < 16) : hexValue? (hexDigit d) = some d := by
  have hall : ∀ d < 16, hexValue? (hexDigit d) = some d := by decide
  exact hall d h

/-- The character `c` is spelled within a string as a short escape, by its code or as itself. -/
theorem stringChar_cases (c : Char) :
    (∃ mark, stringChar c = ['\\', mark] ∧ shortEscape? mark = some c) ∨
      (c.toNat < 0x20 ∧ stringChar c =
        ['\\', 'u', '0', '0', hexDigit (c.toNat / 16), hexDigit (c.toNat % 16)]) ∨
      c ≠ '"' ∧ c ≠ '\\' ∧ ¬ c.toNat < 0x20 ∧ stringChar c = [c] := by
  unfold stringChar
  split
  · next h => exact .inl ⟨'"', rfl, by rw [h]; rfl⟩
  split
  · next h => exact .inl ⟨'\\', rfl, by rw [h]; rfl⟩
  split
  · next h => exact .inl ⟨'b', rfl, by rw [h]; rfl⟩
  split
  · next h => exact .inl ⟨'f', rfl, by rw [h]; rfl⟩
  split
  · next h => exact .inl ⟨'n', rfl, by rw [h]; rfl⟩
  split
  · next h => exact .inl ⟨'r', rfl, by rw [h]; rfl⟩
  split
  · next h => exact .inl ⟨'t', rfl, by rw [h]; rfl⟩
  split
  · next hcontrol => exact .inr (.inl ⟨hcontrol, rfl⟩)
  · next hquote hbackslash _ _ _ _ _ hcontrol =>
    exact .inr (.inr ⟨hquote, hbackslash, hcontrol, rfl⟩)

/-- The code of a control character is read back from its last two digits. -/
theorem hexValue4?_hexDigit {n : Nat} (h : n < 0x20) :
    hexValue4? '0' '0' (hexDigit (n / 16)) (hexDigit (n % 16)) = some n := by
  have hzero : hexValue? '0' = some 0 := by decide
  have hhigh := hexValue?_hexDigit (show n / 16 < 16 by omega)
  have hlow := hexValue?_hexDigit (show n % 16 < 16 by omega)
  rw [hexValue4?, hzero, hhigh, hlow]
  show some (4096 * 0 + 256 * 0 + 16 * (n / 16) + n % 16) = some n
  rw [Option.some.injEq]
  omega

/-- The character `c` is read back from `stringChar c` as one code unit. -/
theorem readUnits_stringChar_append (c : Char) (s : Text) :
    readUnits (stringChar c ++ s) = prepend c.toNat (readUnits s) := by
  rcases stringChar_cases c with
    ⟨mark, hc, hmark⟩ | ⟨hcontrol, hc⟩ | ⟨hquote, hbackslash, hplain, hc⟩
  · -- no short escape is the mark in front of a code
    rw [hc, List.cons_append, List.singleton_append, readUnits]
    · rw [hmark]
    · rintro _ _ _ _ _ rfl
      cases hmark
  · rw [hc]
    show readUnits ('\\' :: 'u' :: '0' :: '0' :: hexDigit (c.toNat / 16) ::
      hexDigit (c.toNat % 16) :: s) = _
    rw [readUnits, hexValue4?_hexDigit hcontrol]
  · -- the character is neither the end of the string nor the beginning of an escape
    rw [hc, List.singleton_append, readUnits]
    · rw [if_neg (by simp [hbackslash, hplain])]
    · exact hquote
    · intro _ _ _ _ _ h
      exact absurd h hbackslash
    · intro _ _ h
      exact absurd h hbackslash

/-- No character is half of a surrogate pair, so `ofUnits?` makes a text again of the codes of its
characters. -/
theorem ofUnits?_map_toNat (s : Text) : ofUnits? (s.map Char.toNat) = some s := by
  induction s with
  | nil => rfl
  | cons c s ih =>
    have hvalid : c.toNat < 0xD800 ∨ 0xDFFF < c.toNat := c.valid.imp_right And.left
    have hhigh : isHighSurrogate c.toNat = false := by
      rw [isHighSurrogate, Bool.and_eq_false_iff, decide_eq_false_iff_not, decide_eq_false_iff_not]
      omega
    have hlow : isLowSurrogate c.toNat = false := by
      rw [isLowSurrogate, Bool.and_eq_false_iff, decide_eq_false_iff_not, decide_eq_false_iff_not]
      omega
    rw [List.map_cons]
    unfold ofUnits?
    rw [hhigh, hlow, ih, Char.ofNat_toNat]
    rfl

theorem readUnits_flatMap_append (s rest : Text) :
    readUnits (s.flatMap stringChar ++ '"' :: rest) = some (s.map Char.toNat, rest) := by
  induction s with
  | nil => rfl
  | cons c s ih =>
    rw [List.flatMap_cons, List.append_assoc, readUnits_stringChar_append, ih]
    rfl

theorem readToken_stringText_append (s rest : Text) :
    readToken (stringText s ++ rest) = some (.string s, rest) := by
  have hunits : readToken ('"' :: (s.flatMap stringChar ++ '"' :: rest)) =
      some (.ofUnits (s.map Char.toNat), rest) := by
    show (readUnits (s.flatMap stringChar ++ '"' :: rest)).map _ = _
    rw [readUnits_flatMap_append]
    rfl
  rw [stringText, List.cons_append, List.append_assoc, List.singleton_append, hunits, Token.ofUnits,
    ofUnits?_map_toNat]

/-! ### Numbers -/

/-- Whether a number may go on with `c` after its first digits. -/
def goesOnNumber (c : Char) : Bool := c.isDigit || c = '.' || c = 'e' || c = 'E'

theorem le_ofDigitChars (ds : Text) (n : Nat) : n ≤ Nat.ofDigitChars 10 ds n := by
  rw [Nat.ofDigitChars_eq_ofDigitChars_zero]
  exact Nat.le_add_right_of_le (Nat.le_mul_of_pos_left n (Nat.pow_pos (by decide)))

theorem appendDigits_of_lt {ds : Text} {n : Nat} (h : Nat.ofDigitChars 10 ds n < wordLimit) :
    appendDigits n ds = (Nat.ofDigitChars 10 ds n, []) := by
  induction ds generalizing n with
  | nil => rfl
  | cons c ds ih =>
    rw [Nat.ofDigitChars_cons] at h ⊢
    have hfits : 10 * n + (c.toNat - 48) < wordLimit :=
      Nat.lt_of_le_of_lt (le_ofDigitChars ds _) h
    rw [appendDigits, if_pos hfits]
    exact ih h

/-- The digits of a number below `wordLimit` are read as that number, and none is left over. -/
theorem appendDigits_toDigits {n : Nat} (h : n < wordLimit) :
    appendDigits 0 (Nat.toDigits 10 n) = (n, []) := by
  have hvalue := Nat.ofDigitChars_ten_toDigits (n := n)
  rw [appendDigits_of_lt (by rwa [hvalue]), hvalue]

theorem readDigits_toDigits_append (n : Nat) {s : Text} (hs : StartsOutside Char.isDigit s) :
    readDigits (Nat.toDigits 10 n ++ s) = some (Nat.toDigits 10 n, s) := by
  have hword := Decimal.isWord_toDigits n
  unfold readDigits
  rw [takeWhile_append_of_isWord hword hs, dropWhile_append_of_isWord hword hs]
  split
  · next h => exact absurd h hword.1
  · rfl

theorem readWhole_toDigits_append (n : Nat) {s : Text} (hs : StartsOutside Char.isDigit s) :
    readWhole (Nat.toDigits 10 n ++ s) = some (Nat.toDigits 10 n, s) := by
  by_cases hn : n = 0
  · subst hn
    rw [Nat.toDigits_zero]
    rfl
  · unfold readWhole
    split
    · next rest heq =>
      -- only zero begins with a zero
      obtain ⟨c, ds, hds, -⟩ := Decimal.exists_toDigits_eq_cons n
      have hhead := Decimal.head?_toDigits_ne_zero hn
      rw [hds] at hhead heq
      obtain ⟨rfl, -⟩ := List.cons.inj heq
      exact absurd rfl hhead
    · exact readDigits_toDigits_append n hs

theorem startsOutside_of_imp {p q : Char → Bool} (hpq : ∀ c, q c = true → p c = true) {s : Text}
    (h : StartsOutside p s) : StartsOutside q s := by
  cases s with
  | nil => rfl
  | cons c s =>
    have hc : p c = false := h
    show q c = false
    rw [Bool.eq_false_iff] at hc ⊢
    exact fun hq => hc (hpq c hq)

/-- Where a number does not go on, nothing is read of a fraction; nor is it of an exponent
(`readExponent_eq`). -/
theorem readFraction_eq {s : Text} (hs : StartsOutside goesOnNumber s) :
    readFraction s = some ([], s) := by
  unfold readFraction
  split
  · exact absurd (show goesOnNumber '.' = false from hs) (by decide)
  · rfl

theorem readExponent_eq {s : Text} (hs : StartsOutside goesOnNumber s) :
    readExponent s = some (none, s) := by
  unfold readExponent
  split
  · exact absurd (show goesOnNumber 'e' = false from hs) (by decide)
  · exact absurd (show goesOnNumber 'E' = false from hs) (by decide)
  · rfl

/-- The digits of `n` alone make an integer, if that fits a word with its sign. -/
theorem numberOf_toDigits {negative : Bool} {n : Nat} (h : n < wordLimit)
    (hnegative : negative = true → 0 < n ∧ n ≤ signedLimit) :
    numberOf negative (Nat.toDigits 10 n) [] none =
      .integer (if negative then -(n : Int) else n) := by
  have hfits : (if negative then decide (0 < n) && decide (n ≤ signedLimit) else true) = true := by
    split
    · next hneg => simpa using hnegative hneg
    · rfl
  rw [numberOf, appendDigits_toDigits h]
  dsimp only [appendDigits]
  rw [hfits]
  rfl

theorem readUnsigned_toDigits_append {negative : Bool} {n : Nat} {s : Text} (h : n < wordLimit)
    (hnegative : negative = true → 0 < n ∧ n ≤ signedLimit) (hs : StartsOutside goesOnNumber s) :
    readUnsigned negative (Nat.toDigits 10 n ++ s) =
      some (.integer (if negative then -(n : Int) else n), s) := by
  have hdigit : StartsOutside Char.isDigit s :=
    startsOutside_of_imp (fun c hc => by rw [goesOnNumber, hc]; rfl) hs
  rw [readUnsigned, readWhole_toDigits_append n hdigit]
  dsimp only
  rw [readFraction_eq hs]
  dsimp only
  rw [readExponent_eq hs]
  dsimp only
  rw [numberOf_toDigits h hnegative]

/-- The integers that are written: those of a word with a sign or without one. -/
def IsWordInteger (n : Int) : Prop := -(signedLimit : Int) ≤ n ∧ n < wordLimit

theorem exists_integerText_eq_cons (n : Int) :
    ∃ c rest, integerText n = c :: rest ∧ (c = '-' ∨ c.isDigit = true) := by
  obtain ⟨c, ds, hds, hc⟩ := Decimal.exists_toDigits_eq_cons n.natAbs
  unfold integerText
  split
  · exact ⟨'-', _, rfl, .inl rfl⟩
  · exact ⟨c, ds, hds, .inr hc⟩

theorem readNumber_integerText_append {n : Int} {s : Text} (h : IsWordInteger n)
    (hs : StartsOutside goesOnNumber s) :
    readNumber (integerText n ++ s) = some (.integer n, s) := by
  obtain ⟨hlow, hhigh⟩ := h
  unfold integerText
  split
  · next hneg =>
    have hword : n.natAbs < wordLimit := by
      rw [signedLimit] at hlow
      rw [wordLimit]
      omega
    show readUnsigned true (Nat.toDigits 10 n.natAbs ++ s) = _
    rw [readUnsigned_toDigits_append hword (fun _ => by omega) hs, if_pos rfl,
      show -(n.natAbs : Int) = n by omega]
  · next hneg =>
    unfold readNumber
    split
    · next rest heq =>
      -- the digits do not begin with a minus sign
      obtain ⟨c, ds, hds, hc⟩ := Decimal.exists_toDigits_eq_cons n.natAbs
      rw [hds] at heq
      obtain ⟨rfl, -⟩ := List.cons.inj heq
      exact absurd hc (by decide)
    · rw [readUnsigned_toDigits_append (by omega) (fun h => absurd h (by decide)) hs,
        if_neg (by decide), show ((n.natAbs : Nat) : Int) = n by omega]

/-! ### Tokens -/

/-- The tokens that are written and read back: all but decimals, integers that are not
`IsWordInteger`, and broken strings. -/
def Token.IsWritable : Token → Prop
  | .number (.integer n) => IsWordInteger n
  | .number (.decimal ..) => False
  | .brokenString => False
  | _ => True

/-- What may follow the token `t` at once: after a number, nothing that goes on with it
(`goesOnNumber`). -/
def Token.MayPrecede (t : Token) (s : Text) : Prop :=
  match t with
  | .number _ => StartsOutside goesOnNumber s
  | _ => True

/-- **Tokens.** A token `t` is read back from `t.text`, and leaves the rest `s`. -/
theorem readToken_text_append {t : Token} {s : Text} (ht : t.IsWritable) (hs : t.MayPrecede s) :
    readToken (t.text ++ s) = some (t, s) := by
  cases t with
  | openArray => rfl
  | closeArray => rfl
  | openObject => rfl
  | closeObject => rfl
  | comma => rfl
  | colon => rfl
  | null => rfl
  | bool b => cases b <;> rfl
  | number n =>
    cases n with
    | integer n =>
      show readToken (integerText n ++ s) = _
      have hread := readNumber_integerText_append ht hs
      obtain ⟨c, rest, htext, hc⟩ := exists_integerText_eq_cons n
      rw [htext, List.cons_append] at hread ⊢
      unfold readToken
      split
      -- no mark, word or string begins as a number does
      iterate 10
        · next heq =>
          obtain ⟨rfl, -⟩ := List.cons.inj heq
          exact absurd hc (by decide)
      · rw [hread]
        rfl
    | decimal => exact ht.elim
  | string s => exact readToken_stringText_append s _
  | brokenString => exact ht.elim

/-- No token begins with a character that satisfies `isTokenBlank`. -/
theorem Token.exists_text_eq_cons {t : Token} (ht : t.IsWritable) :
    ∃ c rest, t.text = c :: rest ∧ isTokenBlank c = false := by
  cases t with
  | bool b => cases b <;> exact ⟨_, _, rfl, by decide⟩
  | number n =>
    cases n with
    | integer n =>
      obtain ⟨c, rest, htext, hc⟩ := exists_integerText_eq_cons n
      refine ⟨c, rest, htext, ?_⟩
      rw [Bool.eq_false_iff]
      intro hblank
      simp only [isTokenBlank, Bool.or_eq_true, decide_eq_true_eq] at hblank
      rcases hblank with ((rfl | rfl) | rfl) | rfl <;> exact absurd hc (by decide)
    | decimal => exact ht.elim
  | brokenString => exact ht.elim
  | _ => exact ⟨_, _, rfl, by decide⟩

end MathNotes.Json
