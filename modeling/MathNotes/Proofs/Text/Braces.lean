import MathNotes.Text.Replace

/-!
# Balanced braces

A text is balanced if its braces come in pairs, every closing one after the opening one that it
belongs to (`IsBalanced`). All braces count, those after a backslash too. To see that a text is
balanced one goes along it and keeps the number of groups that are open (`braceDepth`); a balanced
text leaves that number as it found it (`IsBalanced.braceDepth_eq`), so one may be put in or taken
out anywhere. A rule that takes and puts balanced texts only therefore keeps the number at the end
of every text (`braceDepth_replace`).
-/

namespace MathNotes.Text

/-- No part of `s` up to some place closes more groups than it opens, and the whole closes as many
as it opens. -/
structure IsBalanced (s : Text) : Prop where
  count_close_le : ∀ p, p <+: s → p.count '}' ≤ p.count '{'
  count_open_eq : s.count '{' = s.count '}'

/-- How many groups are open after `c` if `depth` are open before it; `none` if `c` closes a group
when none is open. -/
def depthAfter (depth : Nat) (c : Char) : Option Nat :=
  if c = '{' then some (depth + 1)
  else if c = '}' then
    if depth = 0 then none else some (depth - 1)
  else some depth

/-- How many groups are open after `s` if `depth` are open before it, by `depthAfter` for each
character. -/
def braceDepth (depth : Nat) (s : Text) : Option Nat := s.foldlM depthAfter depth

/-! ### Going along a text -/

theorem braceDepth_cons (depth : Nat) (c : Char) (s : Text) :
    braceDepth depth (c :: s) = (depthAfter depth c).bind (braceDepth · s) :=
  List.foldlM_cons

theorem braceDepth_append (depth : Nat) (s t : Text) :
    braceDepth depth (s ++ t) = (braceDepth depth s).bind (braceDepth · t) :=
  List.foldlM_append

/-- The prefixes of `c :: s` are `[]` and the prefixes of `s` with `c` in front. -/
theorem forall_prefix_cons_iff {p : Text → Prop} (hnil : p []) (c : Char) (s : Text) :
    (∀ front, front <+: c :: s → p front) ↔ ∀ front, front <+: s → p (c :: front) := by
  constructor
  · intro h front hfront
    exact h (c :: front) (List.cons_prefix_cons.mpr ⟨rfl, hfront⟩)
  · intro h front hfront
    rcases List.prefix_cons_iff.mp hfront with rfl | ⟨front, rfl, hrest⟩
    · exact hnil
    · exact h front hrest

/-- The value of `braceDepth depth s` is known iff no part of `s` up to some place closes more
groups than `depth` and those it opens; it is what the counts of the braces make it. -/
theorem braceDepth_eq_some_iff {depth d : Nat} {s : Text} :
    braceDepth depth s = some d ↔
      (∀ p, p <+: s → p.count '}' ≤ depth + p.count '{') ∧
        depth + s.count '{' = d + s.count '}' := by
  induction s generalizing depth with
  | nil =>
    show some depth = some d ↔ _
    rw [Option.some.injEq]
    constructor
    · rintro rfl
      refine ⟨?_, rfl⟩
      intro p hp
      rw [List.prefix_nil.mp hp]
      exact Nat.zero_le _
    · intro h
      simpa using h.2
  | cons c s ih =>
    rw [forall_prefix_cons_iff (Nat.zero_le _), braceDepth_cons, depthAfter]
    split
    · next hopen =>
      subst hopen
      rw [Option.bind_some, ih]
      simp only [List.count_cons_self, List.count_cons_of_ne (show '{' ≠ '}' by decide)]
      refine and_congr (forall₂_congr fun p _ => ?_) ?_ <;> omega
    · next hopen =>
      split
      · next hclose =>
        subst hclose
        simp only [List.count_cons_self, List.count_cons_of_ne (show '}' ≠ '{' by decide)]
        split
        · next hdepth =>
          -- already the part that holds this brace only closes too many
          constructor
          · intro h
            cases h
          · rintro ⟨h, -⟩
            have hnil := h [] List.nil_prefix
            rw [List.count_nil, List.count_nil] at hnil
            omega
        · next hdepth =>
          rw [Option.bind_some, ih]
          refine and_congr (forall₂_congr fun p _ => ?_) ?_ <;> omega
      · next hclose =>
        rw [Option.bind_some, ih]
        simp only [List.count_cons_of_ne hopen, List.count_cons_of_ne hclose]

theorem isBalanced_iff_braceDepth {s : Text} : IsBalanced s ↔ braceDepth 0 s = some 0 := by
  rw [braceDepth_eq_some_iff, Nat.zero_add, Nat.zero_add]
  simp only [Nat.zero_add]
  exact ⟨fun h => ⟨h.count_close_le, h.count_open_eq⟩, fun h => ⟨h.1, h.2⟩⟩

instance : DecidablePred IsBalanced := fun _ =>
  decidable_of_iff' _ isBalanced_iff_braceDepth

/-! ### Balanced texts -/

theorem IsBalanced.braceDepth_eq {s : Text} (h : IsBalanced s) (depth : Nat) :
    braceDepth depth s = some depth := by
  rw [braceDepth_eq_some_iff]
  refine ⟨?_, by rw [h.count_open_eq]⟩
  intro p hp
  exact Nat.le_add_left_of_le (h.count_close_le p hp)

theorem IsBalanced.braceDepth_append {s : Text} (h : IsBalanced s) (depth : Nat) (t : Text) :
    braceDepth depth (s ++ t) = braceDepth depth t := by
  rw [Text.braceDepth_append, h.braceDepth_eq, Option.bind_some]

theorem IsBalanced.braceDepth_append_right {t : Text} (h : IsBalanced t) (depth : Nat) (s : Text) :
    braceDepth depth (s ++ t) = braceDepth depth s := by
  rw [Text.braceDepth_append]
  cases braceDepth depth s with
  | none => rfl
  | some d => exact h.braceDepth_eq d

theorem isBalanced_nil : IsBalanced [] := isBalanced_iff_braceDepth.mpr rfl

theorem IsBalanced.append {s t : Text} (hs : IsBalanced s) (ht : IsBalanced t) :
    IsBalanced (s ++ t) := by
  rw [isBalanced_iff_braceDepth, hs.braceDepth_append, ht.braceDepth_eq]

theorem IsBalanced.group {s : Text} (h : IsBalanced s) : IsBalanced (group s) := by
  rw [isBalanced_iff_braceDepth]
  show braceDepth 1 (s ++ ['}']) = some 0
  rw [h.braceDepth_append]
  rfl

theorem IsBalanced.cons {c : Char} {s : Text} (hopen : c ≠ '{') (hclose : c ≠ '}')
    (h : IsBalanced s) : IsBalanced (c :: s) := by
  rw [isBalanced_iff_braceDepth, braceDepth_cons, depthAfter, if_neg hopen, if_neg hclose,
    Option.bind_some, h.braceDepth_eq]

theorem isBalanced_of_not_mem {s : Text} (hopen : '{' ∉ s) (hclose : '}' ∉ s) : IsBalanced s := by
  induction s with
  | nil => exact isBalanced_nil
  | cons c s ih =>
    rw [List.mem_cons, not_or] at hopen hclose
    exact .cons (Ne.symm hopen.1) (Ne.symm hclose.1) (ih hopen.2 hclose.2)

theorem IsBalanced.intercalate {separator : Text} {texts : List Text}
    (hseparator : IsBalanced separator) (htexts : ∀ s ∈ texts, IsBalanced s) :
    IsBalanced (List.intercalate separator texts) := by
  induction texts with
  | nil => exact isBalanced_nil
  | cons s texts ih =>
    obtain ⟨hs, hrest⟩ := List.forall_mem_cons.mp htexts
    cases texts with
    | nil =>
      rw [List.intercalate_singleton]
      exact hs
    | cons t texts =>
      rw [List.intercalate_cons_cons]
      exact (hs.append hseparator).append (ih hrest)

/-! ### Replacing -/

/-- What `rule` takes is balanced, and so is what it puts. -/
def KeepsBraces (rule : Rule) : Prop :=
  ∀ before c rest m, rule before c rest = some m →
    IsBalanced (c :: rest.take m.further) ∧ IsBalanced m.put

theorem braceDepth_replaceFrom {rule : Rule} (h : KeepsBraces rule) (s : Text)
    (before : Option Char) (skip depth : Nat) :
    braceDepth depth (replaceFrom rule before skip s) = braceDepth depth (s.drop skip) := by
  induction s generalizing before skip depth with
  | nil => rw [replaceFrom, List.drop_nil]
  | cons c rest ih =>
    cases skip with
    | succ skip =>
      rw [replaceFrom, List.drop_succ_cons]
      exact ih (some c) skip depth
    | zero =>
      rw [replaceFrom, List.drop_zero]
      split
      · next m hm =>
        obtain ⟨htaken, hput⟩ := h before c rest m hm
        have hsplit : c :: rest = (c :: rest.take m.further) ++ rest.drop m.further := by
          rw [List.cons_append, List.take_append_drop]
        rw [hput.braceDepth_append, ih, hsplit, htaken.braceDepth_append]
      · -- nothing is replaced here, and `c` counts the same on both sides
        rw [braceDepth_cons, braceDepth_cons]
        exact congrArg _ (funext fun d => ih (some c) 0 d)

theorem braceDepth_replace {rule : Rule} (h : KeepsBraces rule) (depth : Nat) (s : Text) :
    braceDepth depth (replace rule s) = braceDepth depth s :=
  braceDepth_replaceFrom h s none 0 depth

end MathNotes.Text
