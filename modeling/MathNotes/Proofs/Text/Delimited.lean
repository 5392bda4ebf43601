import MathNotes.Text.Basic

/-!
# Spellings that end by themselves

Things are spelled one after another, and the question is whether the text tells them apart. A
spelling is self-delimiting, before certain texts, if two things spelled at the front of one text
are the same and leave the same rest, whenever such a text follows each of them (`SelfDelimiting`).

* Words over a class of characters (`IsWord`) are self-delimiting before whatever begins with no
  character of the class (`selfDelimiting_id`).
* If things are self-delimiting before a separator, so are lists of them joined by it with
  `List.intercalate`, before whatever does not begin with the separator
  (`SelfDelimiting.intercalate`).
-/

namespace MathNotes.Text

/-- A text of at least one character, all of them of the class `p`. -/
def IsWord (p : Char → Bool) (s : Text) : Prop := s ≠ [] ∧ ∀ c ∈ s, p c = true

instance (p : Char → Bool) (s : Text) : Decidable (IsWord p s) :=
  decidable_of_iff (s ≠ [] ∧ s.all p = true) (by rw [IsWord, List.all_eq_true])

/-- The text `s` does not begin with a character of the class `p`. -/
def StartsOutside (p : Char → Bool) (s : Text) : Prop := s.head?.any p = false

/-- If `spell x ++ r = spell y ++ s`, where `r` and `s` are of the kind `Ends`, then `x = y` and
`r = s`. So the spelling of an item can be told from what follows it, and the item from its
spelling. -/
def SelfDelimiting {α : Type} (spell : α → Text) (IsItem : α → Prop) (Ends : Text → Prop) : Prop :=
  ∀ ⦃x y : α⦄ ⦃r s : Text⦄, IsItem x → IsItem y → Ends r → Ends s →
    spell x ++ r = spell y ++ s → x = y ∧ r = s

theorem group_append (s r : Text) : group s ++ r = '{' :: (s ++ '}' :: r) := by
  rw [group, List.cons_append, List.append_assoc]
  rfl

/-- Unlike `s <+: t`, `s.isPrefixOf t` can be computed when only the first characters of `t` are
known. -/
theorem not_prefix_of_isPrefixOf_eq_false {s t : Text} (h : s.isPrefixOf t = false) : ¬ s <+: t :=
  fun hprefix => Bool.false_ne_true (h.symm.trans (List.isPrefixOf_iff_prefix.mpr hprefix))

/-! ### Words -/

theorem takeWhile_eq_nil_of_startsOutside {p : Char → Bool} {s : Text} (h : StartsOutside p s) :
    s.takeWhile p = [] := by
  cases s with
  | nil => rfl
  | cons c s =>
    have hc : p c = false := h
    rw [List.takeWhile_cons, hc]
    rfl

/-- A word is what `List.takeWhile` takes off the front of a text in which something else follows
it. -/
theorem takeWhile_append_of_isWord {p : Char → Bool} {w r : Text} (hw : IsWord p w)
    (hr : StartsOutside p r) : (w ++ r).takeWhile p = w := by
  rw [List.takeWhile_append_of_pos hw.2, takeWhile_eq_nil_of_startsOutside hr, List.append_nil]

theorem dropWhile_append_of_isWord {p : Char → Bool} {w r : Text} (hw : IsWord p w)
    (hr : StartsOutside p r) : (w ++ r).dropWhile p = r := by
  have hsplit := List.takeWhile_append_dropWhile (p := p) (l := w ++ r)
  rw [takeWhile_append_of_isWord hw hr] at hsplit
  exact List.append_cancel_left hsplit

theorem selfDelimiting_id (p : Char → Bool) : SelfDelimiting id (IsWord p) (StartsOutside p) := by
  intro v w r s hv hw hr hs heq
  have hword : v = w := by
    rw [← takeWhile_append_of_isWord hv hr, ← takeWhile_append_of_isWord hw hs]
    exact congrArg (List.takeWhile p) heq
  subst hword
  exact ⟨rfl, List.append_cancel_left heq⟩

/-! ### Joined lists -/

theorem mem_or_exists_mem_of_mem_intercalate {separator : Text} {texts : List Text} {c : Char}
    (h : c ∈ List.intercalate separator texts) : c ∈ separator ∨ ∃ s ∈ texts, c ∈ s := by
  induction texts with
  | nil => cases h
  | cons s texts ih =>
    cases texts with
    | nil =>
      rw [List.intercalate_singleton] at h
      exact .inr ⟨s, List.mem_cons_self .., h⟩
    | cons t texts =>
      rw [List.intercalate_cons_cons, List.append_assoc, List.mem_append, List.mem_append] at h
      rcases h with hs | hseparator | hrest
      · exact .inr ⟨s, List.mem_cons_self .., hs⟩
      · exact .inl hseparator
      · exact (ih hrest).imp_right fun ⟨u, hu, hc⟩ => ⟨u, List.mem_cons_of_mem s hu, hc⟩

theorem intercalate_map_cons_cons_append {α : Type} (separator : Text) (spell : α → Text) (x y : α)
    (xs : List α) (r : Text) :
    List.intercalate separator ((x :: y :: xs).map spell) ++ r =
      spell x ++ (separator ++ (List.intercalate separator ((y :: xs).map spell) ++ r)) := by
  rw [List.map_cons, List.map_cons, List.intercalate_cons_cons, List.append_assoc,
    List.append_assoc]

/-- **Joined lists.** If items are self-delimiting before a `separator`, so are lists of items
joined by it, before whatever may follow an item and is not the `separator`. -/
theorem SelfDelimiting.intercalate {α : Type} {spell : α → Text} {IsItem : α → Prop}
    {Ends : Text → Prop} (h : SelfDelimiting spell IsItem Ends) (separator : Text)
    (hseparator : ∀ r, Ends (separator ++ r)) :
    SelfDelimiting (fun xs : List α => List.intercalate separator (xs.map spell))
      (fun xs => xs ≠ [] ∧ ∀ x ∈ xs, IsItem x) (fun r => Ends r ∧ ¬ separator <+: r) := by
  intro xs ys r s ⟨hxs, hx⟩ ⟨hys, hy⟩ ⟨hr, hnr⟩ ⟨hs, hns⟩ heq
  dsimp only at heq
  induction xs generalizing ys with
  | nil => exact absurd rfl hxs
  | cons x xs ih =>
    obtain ⟨y, ys, rfl⟩ := List.exists_cons_of_ne_nil hys
    have hxitem : IsItem x := hx x (List.mem_cons_self ..)
    have hyitem : IsItem y := hy y (List.mem_cons_self ..)
    -- after the first items stands the separator or, if they are the only ones, the rest
    match xs, ys with
    | [], [] =>
      rw [List.map_singleton, List.map_singleton, List.intercalate_singleton,
        List.intercalate_singleton] at heq
      obtain ⟨rfl, rfl⟩ := h hxitem hyitem hr hs heq
      exact ⟨rfl, rfl⟩
    | [], y' :: ys =>
      rw [List.map_singleton, List.intercalate_singleton, intercalate_map_cons_cons_append] at heq
      obtain ⟨-, rfl⟩ := h hxitem hyitem hr (hseparator _) heq
      exact absurd (List.prefix_append ..) hnr
    | x' :: xs, [] =>
      rw [intercalate_map_cons_cons_append, List.map_singleton, List.intercalate_singleton] at heq
      obtain ⟨-, rfl⟩ := h hxitem hyitem (hseparator _) hs heq
      exact absurd (List.prefix_append ..) hns
    | x' :: xs, y' :: ys =>
      rw [intercalate_map_cons_cons_append, intercalate_map_cons_cons_append] at heq
      obtain ⟨rfl, hrest⟩ := h hxitem hyitem (hseparator _) (hseparator _) heq
      obtain ⟨hlists, rfl⟩ := ih (List.cons_ne_nil _ _)
        (fun z hz => hx z (List.mem_cons_of_mem _ hz)) (List.cons_ne_nil _ _)
        (fun z hz => hy z (List.mem_cons_of_mem _ hz)) (List.append_cancel_left hrest)
      rw [hlists]
      exact ⟨rfl, rfl⟩

end MathNotes.Text
