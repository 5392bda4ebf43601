import MathNotes.Text.Replace

/-!
# Texts that a rule leaves alone

Replacing leaves a text as it is iff the rule applies nowhere in it (`replace_eq_self_iff`). That is
not so for every rule, since one may put what it takes; it is so for the rules that put less than
they take, by some `weight`. For a rule that takes certain words wherever they stand, it means that
none of them is a part of the text (`replace_eq_self_iff_not_infix`).
-/

namespace MathNotes.Text

variable {w : Char → Nat} {rule : Rule}

/-- The `word` at the front of `c :: rest` is `c` and `word.length - 1` characters of `rest`, which
is how a `Replacement` says what it takes. -/
theorem cons_take_and_drop_of_cons_eq_append {c : Char} {rest word after : Text} (hword : word ≠ [])
    (h : c :: rest = word ++ after) :
    c :: rest.take (word.length - 1) = word ∧ rest.drop (word.length - 1) = after := by
  obtain ⟨d, word, rfl⟩ := List.exists_cons_of_ne_nil hword
  obtain ⟨rfl, rfl⟩ := List.cons.inj h
  exact ⟨congrArg (c :: ·) List.take_left, List.drop_left⟩

/-- Replacing goes on behind what was taken: `skip` characters are dropped, and the last one taken
is the character before. -/
theorem replaceFrom_eq_drop (rule : Rule) (c : Char) (skip : Nat) (s : Text) :
    replaceFrom rule (some c) skip s =
      replaceFrom rule (c :: s.take skip).getLast? 0 (s.drop skip) := by
  induction s generalizing c skip with
  | nil => rw [List.drop_nil, replaceFrom, replaceFrom]
  | cons d s ih =>
    cases skip with
    | zero => rfl
    | succ skip =>
      rw [replaceFrom, ih, List.take_succ_cons, List.getLast?_cons_cons, List.drop_succ_cons]

/-- Where a `rule` that puts less than it takes applies, `replaceFrom rule` makes the text
lighter. -/
theorem weight_replaceFrom_lt
    (h : ∀ before c rest m, rule before c rest = some m →
      weight w m.put < w c + weight w (rest.take m.further))
    {before : Option Char} {c : Char} {rest : Text} {m : Replacement}
    (hm : rule before c rest = some m) :
    weight w (replaceFrom rule before 0 (c :: rest)) < weight w (c :: rest) := by
  have hput := h before c rest m hm
  have hrest := weight_replaceFrom_le (fun b c r m hm => Nat.le_of_lt (h b c r m hm))
    rest (some c) m.further
  have hsplit := weight_eq_take_add_drop w m.further rest
  rw [replaceFrom, hm, weight_cons]
  show weight w (m.put ++ replaceFrom rule (some c) m.further rest) < w c + weight w rest
  rw [weight_append]
  omega

/-- Replacing in `s` behind `front` changes nothing iff `rule` applies at none of the places of
`s`. -/
theorem replaceFrom_eq_self_iff
    (h : ∀ before c rest m, rule before c rest = some m →
      weight w m.put < w c + weight w (rest.take m.further)) (front s : Text) :
    replaceFrom rule front.getLast? 0 s = s ↔
      ∀ before c after, s = before ++ c :: after →
        rule (front ++ before).getLast? c after = none := by
  induction s generalizing front with
  | nil =>
    constructor
    · intro _ before c after hs
      exact absurd (congrArg List.length hs) (by simp)
    · intro _
      rfl
  | cons d s ih =>
    cases hd : rule front.getLast? d s with
    | some m =>
      constructor
      · intro heq
        have hlt := weight_replaceFrom_lt h hd
        rw [heq] at hlt
        exact absurd hlt (Nat.lt_irrefl _)
      · intro hall
        have hnone := hall [] d s rfl
        rw [List.append_nil, hd] at hnone
        cases hnone
    | none =>
      have hlast : (front ++ [d]).getLast? = some d := List.getLast?_concat
      have hcons : replaceFrom rule front.getLast? 0 (d :: s) =
          d :: replaceFrom rule (front ++ [d]).getLast? 0 s := by
        rw [replaceFrom, hd, hlast]
      rw [hcons, List.cons_inj_right, ih (front ++ [d])]
      constructor
      · intro hall before c after hs
        cases before with
        | nil =>
          obtain ⟨rfl, rfl⟩ := List.cons.inj hs
          rwa [List.append_nil]
        | cons b before =>
          obtain ⟨rfl, hs'⟩ := List.cons.inj hs
          have hnone := hall before c after hs'
          rwa [List.append_assoc] at hnone
      · intro hall before c after hs
        rw [List.append_assoc]
        exact hall (d :: before) c after (congrArg (d :: ·) hs)

/-- If `rule` puts less than it takes, `replace rule s = s` iff it applies at no place of `s`. -/
theorem replace_eq_self_iff
    (h : ∀ before c rest m, rule before c rest = some m →
      weight w m.put < w c + weight w (rest.take m.further)) (s : Text) :
    replace rule s = s ↔
      ∀ before c after, s = before ++ c :: after → rule before.getLast? c after = none :=
  replaceFrom_eq_self_iff h [] s

/-- If such a `rule` applies exactly where one of certain words stands, `replace rule s = s` iff
none of these words is a part of `s`. -/
theorem replace_eq_self_iff_not_infix
    (h : ∀ before c rest m, rule before c rest = some m →
      weight w m.put < w c + weight w (rest.take m.further))
    (IsWord : Text → Prop) (hne : ∀ word, IsWord word → word ≠ [])
    (hrule : ∀ before c rest,
      rule before c rest = none ↔ ∀ word, IsWord word → ¬ word <+: c :: rest) (s : Text) :
    replace rule s = s ↔ ∀ word, IsWord word → ¬ word <:+: s := by
  rw [replace_eq_self_iff h]
  constructor
  · rintro hall word hword ⟨before, after, hs⟩
    obtain ⟨c, word', rfl⟩ := List.exists_cons_of_ne_nil (hne word hword)
    have hnone := hall before c (word' ++ after) (by rw [← hs]; simp)
    exact (hrule _ _ _).mp hnone (c :: word') hword ⟨after, rfl⟩
  · intro hall before c after hs
    rw [hrule]
    rintro word hword ⟨rest, hrest⟩
    exact hall word hword ⟨before, rest, by rw [hs, ← hrest, List.append_assoc]⟩

end MathNotes.Text
