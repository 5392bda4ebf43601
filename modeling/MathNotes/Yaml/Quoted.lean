import MathNotes.Json.Token
import MathNotes.Yaml.Plain

/-!
# Quoted scalars

A scalar in double quotes knows escapes, among them one for a line break that is not to be seen
(`readDoubleWord`); in single quotes a quote is written twice (`readSingleWord`). Gaps with line
breaks in them are folded as in plain scalars, and blanks before a line break are lost. Outside
brackets and braces a line after the first must be indented further than what it belongs to, unless
it begins with the closing quote (`readQuoted`).
-/

namespace MathNotes.Yaml

/-- What a backslash and one more character other than `x`, `u` and `U` stand for in double
quotes. -/
def escape? : Char → Option Char
  | '0' => some '\x00'
  | 'a' => some '\x07'
  | 'b' => some '\x08'
  | 't' => some '\t'
  | '\t' => some '\t'
  | 'n' => some '\n'
  | 'v' => some '\x0b'
  | 'f' => some '\x0c'
  | 'r' => some '\r'
  | 'e' => some '\x1b'
  | ' ' => some ' '
  | '"' => some '"'
  | '/' => some '/'
  | '\\' => some '\\'
  | 'N' => some '\u0085'
  | '_' => some '\u00a0'
  | 'L' => some '\u2028'
  | 'P' => some '\u2029'
  | _ => none

/-- The character with the given `code`, if that is one of a character and not of a surrogate. -/
def charOfCode? (code : Nat) : Option Char :=
  if code.isValidChar then some (Char.ofNat code) else none

/-- Put `c` in front of a word that was read. -/
def prepend (c : Char) (result : Option (Text × Text)) : Option (Text × Text) :=
  result.map fun (word, rest) => (c :: word, rest)

/-- Read a word in double quotes: up to a gap (`isGap`), the closing quote or an escaped line
break. -/
def readDoubleWord : Text → Option (Text × Text)
  | [] => some ([], [])
  | '\\' :: '\n' :: rest => some ([], '\\' :: '\n' :: rest)
  | '\\' :: 'x' :: a :: b :: rest => do
    let code ← Json.hexValue4? '0' '0' a b
    prepend (← charOfCode? code) (readDoubleWord rest)
  | '\\' :: 'u' :: a :: b :: c :: d :: rest => do
    let code ← Json.hexValue4? a b c d
    prepend (← charOfCode? code) (readDoubleWord rest)
  | '\\' :: 'U' :: a :: b :: c :: d :: e :: f :: g :: h :: rest => do
    let high ← Json.hexValue4? a b c d
    let low ← Json.hexValue4? e f g h
    prepend (← charOfCode? (0x10000 * high + low)) (readDoubleWord rest)
  | '\\' :: c :: rest => do prepend (← escape? c) (readDoubleWord rest)
  | c :: rest =>
    if c = '"' || isGap c then some ([], c :: rest)
    else if c = '\\' then none
    else prepend c (readDoubleWord rest)

/-- Read a word in single quotes: up to a gap (`isGap`) or the closing quote. -/
def readSingleWord : Text → Option (Text × Text)
  | [] => some ([], [])
  | '\u0027' :: '\u0027' :: rest => prepend '\u0027' (readSingleWord rest)
  | c :: rest =>
    if c = '\u0027' || isGap c then some ([], c :: rest) else prepend c (readSingleWord rest)

/-- The place behind a gap. After a line break there must be no tab before `column`. Every step of
`fuel` takes a character. -/
def skipQuotedGap (column : Int) : (fuel : Nat) → Cursor → Option Cursor
  | 0, c => some c
  | fuel + 1, c =>
    if c.rest.head?.any isGap then
      if c.next.hasTabBefore column then none else skipQuotedGap column fuel c.next
    else some c

/-- Read the rest of a quoted scalar from the beginning of a word on, and its closing `quote`. Lines
must be indented beyond `column`, unless the scalar stands between brackets or braces (`inFlow`). -/
def readQuoted (quote : Char) (inFlow : Bool) (column : Int) :
    (fuel : Nat) → Cursor → Option (Text × Cursor)
  | 0, _ => none
  | fuel + 1, c =>
    if c.column = 0 && (atDocumentStart c.rest || atDocumentEnd c.rest) then none
    else
      match if quote = '"' then readDoubleWord c.rest else readSingleWord c.rest with
      | none => none
      | some (word, rest) =>
        let after := c.upTo rest
        match rest with
        | [] => none
        | x :: _ =>
          if x = quote then some (word, after.next)
          else
            let isEscaped := x = '\\'
            let gap := if isEscaped then after.advance 2 else after
            match skipQuotedGap column gap.rest.length gap with
            | none => none
            | some start =>
              let breaks := start.line - gap.line
              if !inFlow && !isEscaped && 0 < breaks && start.column ≤ column &&
                  start.rest.head? ≠ some quote then
                none
              else
                match readQuoted quote inFlow column fuel start with
                | none => none
                | some (more, stop) =>
                  let filler :=
                    if isEscaped then List.replicate breaks '\n'
                    else foldGap (gap.rest.takeWhile isSpacing) breaks
                  some (word ++ filler ++ more, stop)

end MathNotes.Yaml
