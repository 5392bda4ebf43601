import MathNotes.Text.Blank
import MathNotes.Text.Replace
import MathNotes.Text.Word

/-!
# Rules for cleaning markup

While markup is being edited it carries scaffolding, marks of the editor (`scaffoldingTokens`):
placeholder and cursor commands and zero width characters. None of them may reach the renderer. The
visible placeholder `\square` is not one of them.

A subscript or superscript group that holds nothing but blanks shows nothing and is dropped, mark
and braces included (`emptyScriptRule`).

A derivative typed as `d/dx` or `dy/dx`, standing as a word of its own, is set as a fraction
(`differentialRule`). It is the letter d, at most one ASCII letter, a slash, the letter d and one
ASCII letter.

A column separator `&` or a row separator of two backslashes that is left at either end of the
markup, with nothing beyond it to separate, is cut off (`trimSeparators`). An `&` after an odd
number of backslashes is an escaped ampersand and stays.
-/

namespace MathNotes.Sanitize

open Text

/-! ### Scaffolding -/

/-- The marks of the editor. Where one begins another, as `\cursor` does, the longer one stands
first. -/
def scaffoldingTokens : List Text :=
  ["\\placeholder{}", "\\cursor{}", "\\cursor", "\\caret", "\u200b", "\u2060", "\ufeff"]

/-- The rule that takes the longest of the `scaffoldingTokens` that stands here and puts nothing. -/
def scaffoldingRule : Rule := fun _ c rest =>
  match scaffoldingTokens.find? (·.isPrefixOf (c :: rest)) with
  | some token => some ⟨token.length - 1, []⟩
  | none => none

/-- The text `s` without editor scaffolding, in one pass of `scaffoldingRule`. -/
def dropScaffolding (s : Text) : Text := replace scaffoldingRule s

/-! ### Empty scripts -/

/-- The rule that takes a script mark, `_` or `^`, and the group after it if the group holds blanks
only. -/
def emptyScriptRule : Rule := fun _ c rest =>
  if c = '_' || c = '^' then
    match rest with
    | '{' :: inner =>
      match inner.dropWhile isBlank with
      | '}' :: _ => some ⟨(inner.takeWhile isBlank).length + 2, []⟩
      | _ => none
    | _ => none
  else none

/-- The text `s` without empty scripts, in one pass of `emptyScriptRule`. -/
def dropEmptyScripts (s : Text) : Text := replace emptyScriptRule s

/-! ### Differentials -/

/-- Whether no word goes on across a place with the character `beside` on its other side. -/
def isWordBorder (beside : Option Char) : Bool := !beside.any isWordChar

/-- The fraction that a differential becomes: `f` is empty or the letter of the function, `v` the
letter of the variable. -/
def differentialFraction (f : Text) (v : Char) : Text :=
  "\\frac".toList ++ group ('d' :: f) ++ group ['d', v]

/-- The rule that takes a differential that stands as a word of its own and puts
`differentialFraction`. -/
def differentialRule : Rule := fun before c rest =>
  if c = 'd' && isWordBorder before then
    match rest with
    | '/' :: 'd' :: v :: after =>
      if v.isAlpha && isWordBorder after.head? then
        some ⟨3, differentialFraction [] v⟩
      else none
    | f :: '/' :: 'd' :: v :: after =>
      if f.isAlpha && v.isAlpha && isWordBorder after.head? then
        some ⟨4, differentialFraction [f] v⟩
      else none
    | _ => none
  else none

/-- The text `s` with bare differentials set as fractions, in one pass of `differentialRule`. -/
def setDifferentials (s : Text) : Text := replace differentialRule s

/-! ### Separators -/

/-- The row separator. The column separator is `&`. -/
def rowMark : Text := ['\\', '\\']

/-- Cut one separator, `mark`, off the front of `s`, if it is there. -/
def dropMark (mark s : Text) : Text := if mark.isPrefixOf s then s.drop mark.length else s

/-- Cut one `&` off the end of `s`, unless a backslash escapes it: it stays after an odd number of
them. -/
def dropColumnMarkEnd (s : Text) : Text :=
  match s.reverse with
  | '&' :: before =>
    if (before.takeWhile (· = '\\')).length % 2 = 0 then before.reverse else s
  | _ => s

/-- Cut one `rowMark` off the end of `s`. It is the same read backwards. -/
def dropRowMarkEnd (s : Text) : Text := (dropMark rowMark s.reverse).reverse

/-- One round of trimming `s`: blanks at both ends (`trim`), then one separator of each kind at each
end. -/
def trimRound (s : Text) : Text :=
  dropRowMarkEnd (dropColumnMarkEnd (dropMark rowMark (dropMark ['&'] (trim s))))

/-- Rounds of trimming `s` by `trimRound` until one changes nothing. -/
def trimSeparators (s : Text) : Text :=
  if (trimRound s).length < s.length then trimSeparators (trimRound s) else trimRound s
termination_by s.length

end MathNotes.Sanitize
