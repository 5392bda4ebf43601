import MathNotes.Text.Basic
import MathNotes.Text.CaseTable
import MathNotes.Text.Word

/-!
# Lower case

Lower-casing goes character by character (`lowerChar`), with two exceptions: a capital I with a dot
becomes an i and a combining dot, and a capital sigma becomes a final sigma where a word ends, that
is after a cased character and not before one (`cased?`), case-ignorable characters between them not
counting.
-/

namespace MathNotes

/-- Whether `c` has the property Cased: by `Char.isAlpha` in ASCII, by `Text.casedRanges` beyond. -/
def isCased (c : Char) : Bool :=
  if c.toNat < 128 then c.isAlpha else Text.inRanges Text.casedRanges c.toNat

/-- Whether `c` is passed over when one looks for the cased character before or after a place. -/
def isCaseIgnorable (c : Char) : Bool :=
  if c.toNat < 128 then c = '\'' || c = '.' || c = ':' || c = '^' || c = '\u0060'
  else Text.inRanges Text.caseIgnorableRanges c.toNat

/-- The lower case of `c` apart from its place in the text. Beyond ASCII it is found by
`Text.lowerShifts`; only `U+0130` has a lower case of two characters. -/
def lowerChar (c : Char) : Text :=
  if c.toNat < 128 then [c.toLower]
  else if c = '\u0130' then ['i', '\u0307']
  else
    match Text.lowerShifts.find? fun s =>
        s.first ≤ c.toNat && c.toNat ≤ s.last && (c.toNat - s.first) % s.step = 0 with
    | some s => [Char.ofNat (c.toNat + s.shift).toNat]
    | none => [c]

namespace Text

/-- Whether the first character of `s` that is not `isCaseIgnorable` is `isCased`. -/
def cased? (s : Text) : Bool :=
  match s.dropWhile isCaseIgnorable with
  | [] => false
  | c :: _ => isCased c

/-- The lower case of a text. The characters in front of it are in `before`, the nearest first,
since `U+03A3` becomes final by what is on both sides of it. -/
def lowercaseAfter (before : Text) : Text → Text
  | [] => []
  | c :: rest =>
    (if c = '\u03a3' then
        if cased? before && !cased? rest then ['\u03c2'] else ['\u03c3']
      else lowerChar c) ++ lowercaseAfter (c :: before) rest

/-- The text `s` in lower case: `lowercaseAfter` with nothing in front. -/
def lowercase (s : Text) : Text := lowercaseAfter [] s

end Text

end MathNotes
