/-!
# Text

A `Text` is the list of its characters. Nearly every rule of the library speaks of what a text
starts with, what it ends with and what stands between, which is plain to say of lists; `String`
appears only at the edge, where texts are read in and written out.
-/

namespace MathNotes

/-- A text is a `List Char`, its first character in front. -/
abbrev Text := List Char

/-- A string literal may stand where a text is expected. -/
instance : Coe String Text := ⟨String.toList⟩

namespace Text

/-- The number of bytes of `s` in UTF-8, the sum of `Char.utf8Size` over its characters. -/
def byteSize (s : Text) : Nat := s.foldr (fun c size => c.utf8Size + size) 0

@[simp] theorem byteSize_nil : byteSize [] = 0 := rfl

@[simp] theorem byteSize_cons (c : Char) (s : Text) :
    byteSize (c :: s) = c.utf8Size + byteSize s := rfl

/-- The text `s` in braces, which LaTeX takes as one unit. -/
def group (s : Text) : Text := '{' :: (s ++ ['}'])

/-- Whether `needle` stands somewhere in the text; this is `needle <:+: s`, decided
(`occursIn_iff`). -/
def occursIn (needle : Text) : Text → Bool
  | [] => needle.isEmpty
  | c :: rest => needle.isPrefixOf (c :: rest) || occursIn needle rest

theorem occursIn_iff {needle s : Text} : occursIn needle s = true ↔ needle <:+: s := by
  induction s with
  | nil => simp [occursIn]
  | cons c rest ih =>
    rw [occursIn, Bool.or_eq_true, ih, List.isPrefixOf_iff_prefix, List.infix_cons_iff]

end Text

end MathNotes
