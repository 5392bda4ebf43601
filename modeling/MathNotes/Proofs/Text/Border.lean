import MathNotes.Text.Basic

/-!
# Words on the sides of a character

A word without a certain character stands on one side of each place where the character is in a
text (`eq_append_or_eq_append_of_not_mem`).
-/

namespace MathNotes.Text

variable {before word after left right : Text} {c : Char}

/-- Where `word` is found in a text `left ++ c :: right` and does not hold `c`, it is found in
`left` or in `right`, with what stands around it there. -/
theorem eq_append_or_eq_append_of_not_mem (hc : c ∉ word)
    (h : before ++ (word ++ after) = left ++ c :: right) :
    (∃ rest, left = before ++ (word ++ rest) ∧ after = rest ++ c :: right) ∨
      ∃ front, right = front ++ (word ++ after) ∧ before = left ++ c :: front := by
  rcases List.append_eq_append_iff.mp h with ⟨start, rfl, hstart⟩ | ⟨start, rfl, hstart⟩
  · -- the word begins before the character
    rcases List.append_eq_append_iff.mp hstart with ⟨rest, rfl, rfl⟩ | ⟨rest, rfl, hrest⟩
    · exact .inl ⟨rest, rfl, rfl⟩
    · cases rest with
      | nil => exact .inl ⟨[], by rw [List.append_nil, List.append_nil], hrest.symm⟩
      | cons d rest =>
        obtain ⟨rfl, -⟩ := List.cons.inj hrest
        exact absurd (List.mem_append_right _ (List.mem_cons_self ..)) hc
  · cases start with
    | cons d start =>
      obtain ⟨rfl, rfl⟩ := List.cons.inj hstart
      exact .inr ⟨start, rfl, rfl⟩
    | nil =>
      -- the word begins where the character stands, so it is empty
      cases word with
      | nil => exact .inl ⟨[], by simp, hstart.symm⟩
      | cons d word =>
        obtain ⟨rfl, -⟩ := List.cons.inj hstart
        exact absurd (List.mem_cons_self ..) hc

theorem infix_or_infix_of_not_mem (hc : c ∉ word) (h : word <:+: left ++ c :: right) :
    word <:+: left ∨ word <:+: right := by
  obtain ⟨before, after, heq⟩ := h
  rw [List.append_assoc] at heq
  rcases eq_append_or_eq_append_of_not_mem hc heq with ⟨rest, rfl, -⟩ | ⟨front, rfl, -⟩
  · exact .inl ⟨before, rest, List.append_assoc ..⟩
  · exact .inr ⟨front, after, List.append_assoc ..⟩

end MathNotes.Text
