import MathNotes.Text.Word

/-!
# Places in a YAML text

A `Cursor` is a place in a text together with what the rules of YAML ask about it: how far into the
text and into its line it is, and what stands before it on the line. Lines end with a line feed;
other line ends are made into one before.
-/

namespace MathNotes.Yaml

/-- Whether `c` is a space or a tab. -/
def isSpacing (c : Char) : Bool := c = ' ' || c = '\t'

/-- Whether `c` is a space, a tab or a line feed. -/
def isGap (c : Char) : Bool := isSpacing c || c = '\n'

/-- Whether `c` has a meaning of its own between brackets and braces. -/
def isFlowMark (c : Char) : Bool := c = ',' || c = '[' || c = ']' || c = '{' || c = '}'

/-- Whether `c` is an ASCII letter or digit, the low line or the hyphen. -/
def isNameChar (c : Char) : Bool := c.isAlpha || c.isDigit || c = '_' || c = '-'

/-- Whether a text begins with a character that `isGap`, or is at its end. -/
def atGap : Text → Bool
  | [] => true
  | c :: _ => isGap c

/-- Whether a text is at the end of a line. -/
def atLineEnd : Text → Bool
  | [] => true
  | c :: _ => c = '\n'

/-- Whether a text begins with a character that `isFlowMark`. -/
def atFlowMark : Text → Bool
  | [] => false
  | c :: _ => isFlowMark c

/-- Whether a text begins with `---` and a gap, which starts a document. -/
def atDocumentStart : Text → Bool
  | '-' :: '-' :: '-' :: rest => atGap rest
  | _ => false

/-- Whether a text begins with `...` and a gap, which ends a document. -/
def atDocumentEnd : Text → Bool
  | '.' :: '.' :: '.' :: rest => atGap rest
  | _ => false

/-- How many characters of blanks (`isSpacing`), line ends and comments a text begins with;
`inComment` says that it begins within a comment. -/
def gapLength (isSpacing : Char → Bool) (inComment : Bool) : Text → Nat
  | [] => 0
  | c :: rest =>
    if c = '\n' then gapLength isSpacing false rest + 1
    else if inComment || c = '#' then gapLength isSpacing true rest + 1
    else if isSpacing c then gapLength isSpacing false rest + 1
    else 0

/-- A place in a text, and what stands before it on its line. -/
structure Cursor where
  /-- What comes after the place. -/
  rest : Text
  /-- How many characters come before. -/
  index : Nat := 0
  /-- How many lines come before. -/
  line : Nat := 0
  /-- How many characters come before on the line. -/
  column : Nat := 0
  /-- Whether nothing but blanks comes before on the line. -/
  isFresh : Bool := true
  /-- The column of the first tab among the blanks with which the line begins. -/
  firstTab : Option Nat := none

namespace Cursor

/-- The place behind one character, or `c` at the end of the text. -/
def next (c : Cursor) : Cursor :=
  match c.rest with
  | [] => c
  | x :: rest =>
    if x = '\n' then { rest := rest, index := c.index + 1, line := c.line + 1 }
    else if isSpacing x then
      { c with
        rest := rest
        index := c.index + 1
        column := c.column + 1
        firstTab :=
          if c.isFresh && x = '\t' then c.firstTab <|> some c.column else c.firstTab }
    else { c with rest := rest, index := c.index + 1, column := c.column + 1, isFresh := false }

/-- The place behind `n` characters, by `next`. -/
def advance (n : Nat) (c : Cursor) : Cursor := Nat.repeat next n c

/-- The place at which `rest`, an end of the text, begins. -/
def upTo (rest : Text) (c : Cursor) : Cursor := c.advance (c.rest.length - rest.length)

/-- The place behind the characters that satisfy `p`. -/
def skipWhile (p : Char → Bool) (c : Cursor) : Cursor := c.advance (c.rest.takeWhile p).length

/-- The place behind blanks, line ends and comments (`gapLength`). -/
def skipGaps (c : Cursor) : Cursor := c.advance (gapLength isSpacing false c.rest)

/-- The place behind the blanks and the comment on a line. A comment must have a blank in front, or
there is no such place. -/
def skipToLineEnd? (c : Cursor) : Option Cursor :=
  let after := c.skipWhile isSpacing
  match after.rest with
  | '#' :: _ => if after.index = c.index then none else some (after.skipWhile (· ≠ '\n'))
  | _ => some after

/-- Whether the line begins with a tab before the given `column`, with nothing else before `c`. -/
def hasTabBefore (column : Int) (c : Cursor) : Bool :=
  c.isFresh && c.firstTab.any fun tab => tab < column

end Cursor

end MathNotes.Yaml
