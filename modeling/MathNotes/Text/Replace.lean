import MathNotes.Text.Basic

/-!
# Replacing what a rule finds

A `Rule` looks at a place of a text, that is at the character before it and at the text from there
on, and says whether it applies there, how much it takes and what it puts. `replace` goes from left
to right: where the rule applies, what it takes is passed over and what it puts is written; what is
written is not looked at again. The character before a place is the one of the text given, replaced
or not.

`weight_replaceFrom_le` and `replaceFrom_eq_or_weight_lt` say what a rule that lets some `weight`
fall does to the weight of a whole text. They are what the termination of the sanitizer rests on.
-/

namespace MathNotes.Text

/-- What a rule does at a place: it takes the first character and `further` ones after it, and puts
`put` in their stead. -/
structure Replacement where
  further : Nat
  put : Text

/-- A rule of replacement, asked at a place by the character `before` it and the text from there on,
`first :: rest`. -/
abbrev Rule := (before : Option Char) → (first : Char) → (rest : Text) → Option Replacement

/-- Replace along a text by `rule`. The first `skip` characters belong to a match already replaced;
they are dropped, but the last of them still is the character before the next place. -/
def replaceFrom (rule : Rule) : Option Char → (skip : Nat) → Text → Text
  | _, _, [] => []
  | _, skip + 1, c :: rest => replaceFrom rule (some c) skip rest
  | before, 0, c :: rest =>
    match rule before c rest with
    | some m => m.put ++ replaceFrom rule (some c) m.further rest
    | none => c :: replaceFrom rule (some c) 0 rest

/-- Replace whatever `rule` finds in `s`, from left to right. -/
def replace (rule : Rule) (s : Text) : Text := replaceFrom rule none 0 s

/-! ### Weights -/

/-- The sum of the weights `w c` of the characters `c` of `s`. -/
def weight (w : Char → Nat) (s : Text) : Nat := s.foldr (fun c total => w c + total) 0

@[simp] theorem weight_nil (w : Char → Nat) : weight w [] = 0 := rfl

@[simp] theorem weight_cons (w : Char → Nat) (c : Char) (s : Text) :
    weight w (c :: s) = w c + weight w s := rfl

@[simp] theorem weight_append (w : Char → Nat) (s t : Text) :
    weight w (s ++ t) = weight w s + weight w t := by
  induction s with
  | nil => rw [List.nil_append, weight_nil, Nat.zero_add]
  | cons c s ih => rw [List.cons_append, weight_cons, weight_cons, ih, Nat.add_assoc]

theorem weight_eq_take_add_drop (w : Char → Nat) (n : Nat) (s : Text) :
    weight w s = weight w (s.take n) + weight w (s.drop n) := by
  rw [← weight_append, List.take_append_drop]

theorem weight_le_of_sublist (w : Char → Nat) {s t : Text} (h : s.Sublist t) :
    weight w s ≤ weight w t := by
  induction h with
  | slnil => simp
  | cons c _ ih => rw [weight_cons]; omega
  | cons_cons c _ ih => rw [weight_cons, weight_cons]; omega

/-- If `rule` never puts more than it takes, `replaceFrom rule` makes no text heavier. -/
theorem weight_replaceFrom_le {w : Char → Nat} {rule : Rule}
    (h : ∀ before c rest m, rule before c rest = some m →
      weight w m.put ≤ w c + weight w (rest.take m.further)) :
    ∀ (s : Text) (before : Option Char) (skip : Nat),
      weight w (replaceFrom rule before skip s) ≤ weight w (s.drop skip)
  | [], _, _ => by simp [replaceFrom]
  | c :: rest, before, skip + 1 => by
    simpa [replaceFrom] using weight_replaceFrom_le h rest (some c) skip
  | c :: rest, before, 0 => by
    rw [replaceFrom]
    split
    · next m hm =>
      have := weight_replaceFrom_le h rest (some c) m.further
      have := h _ _ _ _ hm
      have := weight_eq_take_add_drop w m.further rest
      simp only [List.drop_zero, weight_append, weight_cons]
      omega
    · have := weight_replaceFrom_le h rest (some c) 0
      simpa using this

/-- If `rule` always puts less than it takes, `replaceFrom rule` leaves a text as it is or makes it
lighter. -/
theorem replaceFrom_eq_or_weight_lt {w : Char → Nat} {rule : Rule}
    (h : ∀ before c rest m, rule before c rest = some m →
      weight w m.put < w c + weight w (rest.take m.further)) :
    ∀ (s : Text) (before : Option Char) (skip : Nat),
      replaceFrom rule before skip s = s.drop skip ∨
        weight w (replaceFrom rule before skip s) < weight w (s.drop skip)
  | [], _, _ => by simp [replaceFrom]
  | c :: rest, before, skip + 1 => by
    simpa [replaceFrom] using replaceFrom_eq_or_weight_lt h rest (some c) skip
  | c :: rest, before, 0 => by
    rw [replaceFrom]
    split
    · next m hm =>
      have hle := weight_replaceFrom_le (fun b c r m hm => Nat.le_of_lt (h b c r m hm))
        rest (some c) m.further
      have := h _ _ _ _ hm
      have := weight_eq_take_add_drop w m.further rest
      right
      simp only [List.drop_zero, weight_append, weight_cons]
      omega
    · rcases replaceFrom_eq_or_weight_lt h rest (some c) 0 with heq | hlt
      · left; simpa using heq
      · right; simpa using hlt

end MathNotes.Text
