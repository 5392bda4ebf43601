import MathNotes.Text.Basic

/-!
# Blank characters

The white space of running text is the Unicode property White_Space, called blank here (`isBlank`).
Matrix literals know a smaller class, the five ASCII blanks (`isAsciiBlank`). The module also holds
what one does with blanks: `trim` takes them off at the ends, and `collapse` puts one space for
every run of them.
-/

namespace MathNotes

/-- Whether `c` has the Unicode property White_Space. -/
def isBlank (c : Char) : Bool :=
  c = ' ' || ('\t' ≤ c && c ≤ '\r') || c = '\u0085' || c = '\u00a0' || c = '\u1680' ||
    ('\u2000' ≤ c && c ≤ '\u200a') || c = '\u2028' || c = '\u2029' || c = '\u202f' ||
    c = '\u205f' || c = '\u3000'

/-- Whether `c` is a space, tab, line feed, form feed or carriage return. Unlike `isBlank` this
leaves out the vertical tab. -/
def isAsciiBlank (c : Char) : Bool :=
  c = ' ' || c = '\t' || c = '\n' || c = '\x0c' || c = '\r'

namespace Text

/-- Whether `s` is nothing but blanks (`isBlank`), or nothing at all. -/
def isAllBlank (s : Text) : Bool := s.all isBlank

def trimStart (s : Text) : Text := s.dropWhile isBlank

def trimEnd (s : Text) : Text := (s.reverse.dropWhile isBlank).reverse

/-- The text `s` without the blanks at its ends: `trimEnd` after `trimStart`. -/
def trim (s : Text) : Text := trimEnd (trimStart s)

/-- One space for each run of blanks. `inRun` says that the character before was a blank, whose
space has been written. -/
def collapseFrom (inRun : Bool) : Text → Text
  | [] => []
  | c :: rest =>
    if isBlank c then
      if inRun then collapseFrom true rest else ' ' :: collapseFrom true rest
    else c :: collapseFrom false rest

/-- The text `s` with one space for each run of blanks: `collapseFrom` outside a run. -/
def collapse (s : Text) : Text := collapseFrom false s

end Text

end MathNotes
