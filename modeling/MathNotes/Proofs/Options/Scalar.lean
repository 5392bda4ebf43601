import MathNotes.Options.Scalar
import MathNotes.Proofs.Decimal.Digits
import MathNotes.Proofs.Decimal.Shortest
import MathNotes.Proofs.Text.Blank
import MathNotes.Proofs.Yaml.PlainLines

/-!
# Truth values and numbers are read as they were written

However a decimal is laid out, it has digits on both sides of a point and perhaps an exponent, which
together say the same value (`exists_decimal_eq`). So what is read is the decimal or one with zeros
at the end (`decimal?_decimal`), and a finite number is read back from its shortest decimal
(`Single.ofDecimal?_shortest`). That leaves zero, which has a decimal of its own, and infinity and
what is not a number, which have names (`single?_text`).
-/

namespace MathNotes

open Text

namespace Options

/-! ### Reading decimals -/

/-- The text of an exponent with its sign, if there is one. -/
def exponentText : Option Int → Text
  | none => []
  | some power => 'e' :: (if power < 0 then '-' else '+') :: Nat.toDigits 10 power.natAbs

theorem exponent?_exponentText (power? : Option Int) :
    exponent? (exponentText power?) = some (power?.getD 0) := by
  cases power? with
  | none => rfl
  | some power =>
    have hne : Nat.toDigits 10 power.natAbs ≠ [] := Nat.toDigits_ne_nil
    have hall : (Nat.toDigits 10 power.natAbs).all Char.isDigit = true :=
      List.all_eq_true.mpr (Decimal.isWord_toDigits _).2
    by_cases hpower : power < 0
    · simp [exponentText, exponent?, splitSign, hpower, hne, hall, Nat.ofDigitChars_ten_toDigits,
        abs_of_neg hpower]
    · simp [exponentText, exponent?, splitSign, hpower, hne, hall, Nat.ofDigitChars_ten_toDigits,
        abs_of_nonneg (not_lt.mp hpower)]

theorem startsOutside_exponentText (power? : Option Int) :
    StartsOutside Char.isDigit (exponentText power?) := by
  cases power? <;> rfl

/-- The value of a decimal with digits on both sides of the point, with or without an exponent. -/
theorem decimal?_append {whole fraction : Text} (hwhole : IsWord Char.isDigit whole)
    (hfraction : IsWord Char.isDigit fraction) (power? : Option Int) :
    decimal? (whole ++ '.' :: (fraction ++ exponentText power?)) =
      some (Nat.ofDigitChars 10 (whole ++ fraction) 0, power?.getD 0 - fraction.length) := by
  have hpoint : StartsOutside Char.isDigit ('.' :: (fraction ++ exponentText power?)) := rfl
  have htail := startsOutside_exponentText power?
  have hne : whole ++ fraction ≠ [] := by simp [hwhole.1]
  simp only [decimal?, takeWhile_append_of_isWord hwhole hpoint,
    dropWhile_append_of_isWord hwhole hpoint, takeWhile_append_of_isWord hfraction htail,
    dropWhile_append_of_isWord hfraction htail, if_neg hne, exponent?_exponentText, Option.map_some]

/-! ### Layouts of decimals -/

theorem isWord_zero : IsWord Char.isDigit ['0'] := by decide

theorem isWord_append_zeros {ds : Text} (h : IsWord Char.isDigit ds) (k : Nat) :
    IsWord Char.isDigit (ds ++ List.replicate k '0') := by
  refine ⟨by simp [h.1], fun c hc => ?_⟩
  rcases List.mem_append.mp hc with hc | hc
  · exact h.2 c hc
  · rw [List.eq_of_mem_replicate hc]
    rfl

theorem isWord_zeros_append {ds : Text} (h : IsWord Char.isDigit ds) (k : Nat) :
    IsWord Char.isDigit (List.replicate k '0' ++ ds) := by
  refine ⟨by simp [h.1], fun c hc => ?_⟩
  rcases List.mem_append.mp hc with hc | hc
  · rw [List.eq_of_mem_replicate hc]
    rfl
  · exact h.2 c hc

/-- However a decimal is laid out, it has digits on both sides of the point. With the exponent they
say the value `d * 10 ^ e`, perhaps with `k` zeros at the end of the digits. -/
theorem exists_decimal_eq (layout : Single.Layout) (d : Nat) (e : Int) :
    ∃ (whole fraction : Text) (power? : Option Int) (k : Nat),
      layout.decimal d e = whole ++ '.' :: (fraction ++ exponentText power?) ∧
      IsWord Char.isDigit whole ∧ IsWord Char.isDigit fraction ∧
      Nat.ofDigitChars 10 (whole ++ fraction) 0 = d * 10 ^ k ∧
      power?.getD 0 - fraction.length = e - k := by
  have hword := Decimal.isWord_toDigits d
  have hvalue := Nat.ofDigitChars_ten_toDigits (n := d)
  simp only [Single.Layout.decimal]
  generalize Nat.toDigits 10 d = ds at hword hvalue ⊢
  subst hvalue
  split
  · -- with an exponent
    obtain ⟨c, rest, rfl⟩ := List.exists_cons_of_ne_nil hword.1
    have hfirst : IsWord Char.isDigit [c] := ⟨by simp, by simpa using hword.2 c List.mem_cons_self⟩
    cases rest with
    | nil =>
      refine ⟨[c], ['0'], some ([c].length + e - 1), 1, by simp [exponentText], hfirst, isWord_zero,
        ?_, by simp⟩
      simp [Nat.ofDigitChars, Nat.mul_comm]
    | cons x rest =>
      have hrest : IsWord Char.isDigit (x :: rest) :=
        ⟨by simp, fun y hy => hword.2 y (List.mem_cons_of_mem c hy)⟩
      refine ⟨[c], x :: rest, some ((c :: x :: rest).length + e - 1), 0, by simp [exponentText],
        hfirst, hrest, by simp, ?_⟩
      simp
      omega
  · split
    · -- with zeros in front
      refine ⟨['0'], List.replicate (-(ds.length + e)).toNat '0' ++ ds, none, 0,
        by simp [exponentText], isWord_zero, isWord_zeros_append hword _, ?_, ?_⟩
      · rw [← List.append_assoc, ← List.replicate_one, List.replicate_append_replicate,
          Nat.ofDigitChars_append, Nat.ofDigitChars_replicate_zero, Nat.mul_zero]
        simp
      · simp
        omega
    · split
      · -- with zeros at the end, one of them behind the point
        refine ⟨ds ++ List.replicate e.toNat '0', ['0'], none, e.toNat + 1, by simp [exponentText],
          isWord_append_zeros hword _, isWord_zero, ?_, ?_⟩
        · rw [List.append_assoc, ← List.replicate_one, List.replicate_append_replicate,
            Nat.ofDigitChars_append, Nat.ofDigitChars_replicate_zero, Nat.mul_comm]
        · simp
          omega
      · -- with the point between the digits
        refine ⟨ds.take (ds.length + e).toNat, ds.drop (ds.length + e).toNat, none, 0,
          by simp [exponentText], ⟨by simp [hword.1]; omega, fun c hc => ?_⟩,
          ⟨by simp; omega, fun c hc => ?_⟩, by simp, ?_⟩
        · exact hword.2 c (List.mem_of_mem_take hc)
        · exact hword.2 c (List.mem_of_mem_drop hc)
        · simp
          omega

/-- The decimal that `layout` makes of `d * 10 ^ e` is read as one with the same value. -/
theorem decimal?_decimal (layout : Single.Layout) (d : Nat) (e : Int) :
    ∃ k : Nat, decimal? (layout.decimal d e) = some (d * 10 ^ k, e - k) := by
  obtain ⟨whole, fraction, power?, k, htext, hwhole, hfraction, hvalue, hpower⟩ :=
    exists_decimal_eq layout d e
  exact ⟨k, by rw [htext, decimal?_append hwhole hfraction, hvalue, hpower]⟩

/-! ### Written numbers as words -/

open Yaml

/-- The text `layout.decimal d e` has nothing in it but characters that satisfy `isPlainChar`. -/
theorem isPlainChar_of_mem_decimal {layout : Single.Layout} {d : Nat} {e : Int} {c : Char}
    (hc : c ∈ layout.decimal d e) : isPlainChar c = true := by
  obtain ⟨whole, fraction, power?, k, htext, hwhole, hfraction, -, -⟩ :=
    exists_decimal_eq layout d e
  rw [htext, List.mem_append, List.mem_cons, List.mem_append] at hc
  rcases hc with hc | rfl | hc | hc
  · exact isPlainChar_of_isDigit (hwhole.2 c hc)
  · rfl
  · exact isPlainChar_of_isDigit (hfraction.2 c hc)
  · cases power? with
    | none => cases hc
    | some power =>
      rw [exponentText, List.mem_cons, List.mem_cons] at hc
      rcases hc with rfl | rfl | hc
      · rfl
      · split <;> rfl
      · exact isPlainChar_of_isDigit ((Decimal.isWord_toDigits _).2 c hc)

/-- The text `layout.decimal d e` begins with a digit. -/
theorem head?_decimal (layout : Single.Layout) (d : Nat) (e : Int) :
    (layout.decimal d e).head?.any Char.isDigit = true := by
  obtain ⟨whole, fraction, power?, k, htext, hwhole, -, -, -⟩ := exists_decimal_eq layout d e
  obtain ⟨c, rest, rfl⟩ := List.exists_cons_of_ne_nil hwhole.1
  rw [htext]
  exact hwhole.2 c List.mem_cons_self

/-! ### Reading numbers -/

/-- The sign of a written number: a minus sign, or nothing. -/
def signText (negative : Bool) : Text := if negative then ['-'] else []

/-- A sign and a text that begins with a digit are told apart by `splitSign`. -/
theorem splitSign_signText_append (negative : Bool) {u : Text}
    (hhead : u.head?.any Char.isDigit = true) :
    splitSign (signText negative ++ u) = (negative, u) := by
  cases negative with
  | true => rfl
  | false =>
    rw [signText, if_neg Bool.false_ne_true, List.nil_append]
    unfold splitSign
    split
    · cases hhead
    · cases hhead
    · rfl

/-- A text that begins with a digit is not one of the names for what is not finite, which begin with
a point. -/
theorem map_toLower_ne {u : Text} (hhead : u.head?.any Char.isDigit = true) (name : Text)
    (hname : name.head? = some '.') : u.map Char.toLower ≠ name := by
  rintro rfl
  rw [List.head?_map] at hname
  obtain ⟨c, hc, hlower⟩ := Option.map_eq_some_iff.mp hname
  rw [hc, Option.any_some] at hhead
  have hall : ∀ n < 128, Char.isDigit (Char.ofNat n) = true → (Char.ofNat n).toLower ≠ '.' := by
    decide
  have hofNat := hall c.toNat (toNat_lt_of_isDigit hhead)
  rw [Char.ofNat_toNat] at hofNat
  exact hofNat hhead hlower

/-- What `single?` makes of a decimal with a sign is its value rounded once, with the sign. -/
theorem single?_signText_append (negative : Bool) {u : Text} {d : Nat} {e : Int}
    (hplain : ∀ c ∈ u, isPlainChar c = true) (hhead : u.head?.any Char.isDigit = true)
    (hdecimal : decimal? u = some (d, e)) :
    single? (signText negative ++ u) =
      (Single.ofDecimal? d e).map (Single.ofMagnitude negative) := by
  have hblank : ∀ c ∈ signText negative ++ u, isBlank c = false := by
    intro c hc
    rcases List.mem_append.mp hc with hc | hc
    · cases negative with
      | false => cases hc
      | true =>
        rw [List.mem_singleton.mp hc]
        rfl
    · exact isBlank_of_isPlainChar (hplain c hc)
  have hnan := map_toLower_ne hhead ".nan" rfl
  have hinf := map_toLower_ne hhead ".inf" rfl
  simp only [single?, trim_eq_self_of_forall_not_isBlank hblank, splitSign_signText_append _ hhead,
    if_neg hnan, if_neg hinf, hdecimal]

/-- The number that `x` is read back as: itself, or `nan`, which stands for all with `isNaN`. -/
def readBack (x : Single) : Single := if x.isNaN then .nan else x

theorem isNaN_readBack (x : Single) : (readBack x).isNaN = x.isNaN := by
  unfold readBack
  split
  · next h => rw [h]; rfl
  · rfl

/-- The text of a number without its sign: a name, `0.0` or the `shortest` decimal. -/
def unsignedText (magnitude : Nat) : Text :=
  if magnitude = Single.infinity then ".inf"
  else if magnitude = 0 then "0.0"
  else scaleLayout.decimal (Single.shortest magnitude).1 (Single.shortest magnitude).2

theorem text_eq_append {x : Single} (h : x.isNaN = false) :
    x.text scaleLayout = signText x.isNegative ++ unsignedText x.magnitude := by
  rw [Single.text, if_neg (by simp [h]), unsignedText]
  -- which decimal it is does not matter, and it must not be computed
  generalize Single.shortest x.magnitude = decimal
  obtain ⟨digits, exponent⟩ := decimal
  by_cases hinfinity : x.magnitude = Single.infinity
  · rw [if_pos hinfinity, if_pos hinfinity]
    rfl
  · rw [if_neg hinfinity, if_neg hinfinity]
    by_cases hzero : x.magnitude = 0
    · rw [if_pos hzero, if_pos hzero]
      rfl
    · rw [if_neg hzero, if_neg hzero]
      rfl

/-- Every magnitude up to `infinity` is read back with its sign. -/
theorem single?_unsignedText (negative : Bool) {m : Nat} (h : m ≤ Single.infinity) :
    single? (signText negative ++ unsignedText m) = some (.ofMagnitude negative m) := by
  unfold unsignedText
  split
  · next hinfinity =>
    rw [hinfinity]
    cases negative <;> rfl
  · next hinfinity =>
    split
    · next hzero =>
      have hread := single?_signText_append negative (u := "0.0")
        (List.all_eq_true.mp rfl) rfl (decimal?_append isWord_zero isWord_zero none)
      rw [hread, hzero]
      rfl
    · next hzero =>
      obtain ⟨-, hshortest⟩ :=
        Single.ofDecimal?_shortest (Nat.pos_of_ne_zero hzero) (Nat.lt_of_le_of_ne h hinfinity)
      obtain ⟨k, hdecimal⟩ :=
        decimal?_decimal scaleLayout (Single.shortest m).1 (Single.shortest m).2
      rw [single?_signText_append negative (fun c hc => isPlainChar_of_mem_decimal hc)
        (head?_decimal _ _ _) hdecimal, Single.ofDecimal?_mul_pow, hshortest, Option.map_some]

/-- Every number is read back from its text, to the bit, but that `nan` is read for all with
`isNaN`. -/
theorem single?_text (x : Single) : single? (x.text scaleLayout) = some (readBack x) := by
  rw [readBack]
  by_cases hnan : x.isNaN = true
  · rw [Single.text, if_pos hnan, if_pos hnan]
    rfl
  · have hle : x.magnitude ≤ Single.infinity := by simpa [Single.isNaN] using hnan
    rw [text_eq_append (by simpa using hnan), single?_unsignedText _ hle,
      Single.ofMagnitude_magnitude, if_neg hnan]

theorem isWord_unsignedText (m : Nat) : IsWord isPlainChar (unsignedText m) := by
  unfold unsignedText
  split
  · decide
  · split
    · decide
    · refine ⟨?_, fun c hc => isPlainChar_of_mem_decimal hc⟩
      intro hnil
      have hhead := head?_decimal scaleLayout (Single.shortest m).1 (Single.shortest m).2
      rw [hnil] at hhead
      cases hhead

theorem unsignedText_ne_hyphen (m : Nat) : unsignedText m ≠ ['-'] := by
  unfold unsignedText
  split
  · decide
  · split
    · decide
    · intro hhyphen
      have hhead := head?_decimal scaleLayout (Single.shortest m).1 (Single.shortest m).2
      rw [hhyphen] at hhead
      cases hhead

/-- The text of a number can stand on a line as it is. -/
theorem isPlainWord_text (x : Single) : IsPlainWord (x.text scaleLayout) := by
  by_cases hnan : x.isNaN = true
  · rw [Single.text, if_pos hnan]
    exact ⟨by decide, by decide⟩
  · rw [text_eq_append (by simpa using hnan)]
    obtain ⟨hne, hplain⟩ := isWord_unsignedText x.magnitude
    cases x.isNegative with
    | false => exact ⟨⟨hne, hplain⟩, unsignedText_ne_hyphen x.magnitude⟩
    | true =>
      refine ⟨⟨by simp [signText], ?_⟩, by simpa [signText] using hne⟩
      intro c hc
      rcases List.mem_cons.mp hc with rfl | hc
      · rfl
      · exact hplain c hc

/-! ### Truth values -/

theorem bool?_boolText (b : Bool) : bool? (boolText b) = some b := by
  cases b <;> rfl

theorem isPlainWord_boolText (b : Bool) : IsPlainWord (boolText b) := by
  cases b <;> exact ⟨by decide, by decide⟩

end Options

end MathNotes
