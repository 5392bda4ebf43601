import MathNotes.Yaml.Cursor

/-!
# Plain scalars

A plain scalar consists of words with gaps between them (`readPlain`). It ends before a colon with a
gap after it and before a comment; between brackets and braces also before a mark; and outside them
before a line that is not indented far enough. A gap within a line is kept, one line break in a gap
makes a space, and of more line breaks one is lost (`foldGap`).
-/

namespace MathNotes.Yaml

/-- Whether a plain scalar ends before `c`, which `rest` follows; `inFlow` says that it stands
between brackets or braces. -/
def endsPlain (inFlow : Bool) (c : Char) (rest : Text) : Bool :=
  (c = ':' && (atGap rest || (inFlow && atFlowMark rest))) || (inFlow && isFlowMark c)

/-- How many characters the word has with which a text begins, up to a gap or an end by
`endsPlain`. -/
def wordLength (inFlow : Bool) : Text → Nat
  | [] => 0
  | c :: rest => if isGap c || endsPlain inFlow c rest then 0 else wordLength inFlow rest + 1

/-- What a gap between two words becomes, given how many `breaks` of lines are in it and the
`blanks` before them. -/
def foldGap (blanks : Text) (breaks : Nat) : Text :=
  if breaks = 0 then blanks
  else if breaks = 1 then [' ']
  else List.replicate (breaks - 1) '\n'

/-- The place behind a gap. A line with a tab before `column` must have nothing on it but perhaps a
comment. Every step of `fuel` takes a character. -/
def skipPlainGap (column : Int) : (fuel : Nat) → Cursor → Option Cursor
  | 0, c => some c
  | fuel + 1, c =>
    if c.rest.head?.any isGap then
      if c.next.hasTabBefore column then
        match c.skipToLineEnd? with
        | some after =>
          if atLineEnd after.rest then skipPlainGap column fuel after.next else none
        | none => none
      else skipPlainGap column fuel c.next
    else some c

/-- Read a plain scalar from the beginning of a word on; `column` is how far lines after the first
must be indented. Every step of `fuel` takes a word and the gap behind it. -/
def readPlain (inFlow : Bool) (column : Int) : (fuel : Nat) → Cursor → Option (Text × Cursor)
  | 0, _ => none
  | fuel + 1, c =>
    if c.column = 0 && (atDocumentStart c.rest || atDocumentEnd c.rest) then some ([], c)
    else
      match c.rest with
      | '#' :: _ => some ([], c)
      | rest =>
        if inFlow && rest.head? = some '-' && atFlowMark (rest.drop 1) then none
        else
          let length := wordLength inFlow rest
          let word := rest.take length
          let after := c.advance length
          if !after.rest.head?.any isGap then some (word, after)
          else
            match skipPlainGap column after.rest.length after with
            | none => none
            | some start =>
              if !inFlow && start.column < column then some (word, start)
              else
                match readPlain inFlow column fuel start with
                | none => none
                | some ([], stop) => some (word, stop)
                | some (more, stop) =>
                  let gap := foldGap (after.rest.takeWhile isSpacing) (start.line - after.line)
                  some (word ++ gap ++ more, stop)

end MathNotes.Yaml
