import MathNotes.Yaml.Cursor

/-!
# Block scalars

A block scalar consists of the lines that are indented further than what it belongs to
(`readBlock`). Its header says whether the lines are kept or folded, what becomes of the line breaks
at the end (`Chomping`) and perhaps how far the lines are indented; otherwise the first line that is
not empty says so.
-/

namespace MathNotes.Yaml

/-- What becomes of the line breaks at the end of a block scalar. -/
inductive Chomping where
  /-- All are lost. -/
  | strip
  /-- One is kept. -/
  | clip
  /-- All are kept. -/
  | keep
  deriving DecidableEq

/-- What the header of a block scalar says about indentation and about the end. -/
structure BlockHeader where
  /-- How much further than their surroundings the lines are indented; `none` if it is not said. -/
  increment : Option Nat := none
  chomping : Chomping := .clip

/-- The `Chomping` that a character stands for. There is no character for `clip`. -/
def chomping? : Char → Option Chomping
  | '-' => some .strip
  | '+' => some .keep
  | _ => none

/-- Read the two parts of a header, either of which may come first and either of which may be
missing. -/
def readBlockHeader (s : Text) : Option (BlockHeader × Text) :=
  match s with
  | [] => some ({}, [])
  | a :: rest =>
    match chomping? a with
    | some chomping =>
      match rest with
      | d :: after =>
        if !d.isDigit then some (⟨none, chomping⟩, rest)
        else if d = '0' then none
        else some (⟨some (d.toNat - 48), chomping⟩, after)
      | [] => some (⟨none, chomping⟩, [])
    | none =>
      if !a.isDigit then some ({}, s)
      else if a = '0' then none
      else
        match rest with
        | d :: after =>
          match chomping? d with
          | some chomping => some (⟨some (a.toNat - 48), chomping⟩, after)
          | none => some (⟨some (a.toNat - 48), .clip⟩, rest)
        | [] => some (⟨some (a.toNat - 48), .clip⟩, [])

/-- The place behind the spaces of a line, as far as the column `limit` if there is one. -/
def skipIndent (limit : Option Nat) (c : Cursor) : Cursor :=
  let spaces := (c.rest.takeWhile (· = ' ')).length
  match limit with
  | some column => c.advance (min spaces (column - c.column))
  | none => c.advance spaces

/-- The place behind empty lines and the indentation of the line after them, and the greatest column
that was reached by spaces, if it was `widest` before. Every step of `fuel` takes a line. -/
def skipEmptyLines (limit : Option Nat) : (fuel : Nat) → (widest : Nat) → Cursor → Nat × Cursor
  | 0, widest, c => (widest, c)
  | fuel + 1, widest, c =>
    let c := skipIndent limit c
    let widest := max widest c.column
    if c.rest.head? = some '\n' then skipEmptyLines limit fuel widest c.next else (widest, c)

/-- The part of a block scalar that has been read. -/
structure BlockContent where
  text : Text := []
  /-- Whether a line break after the last line has yet to be made into something. -/
  hasBreak : Bool := false
  /-- How many empty lines came after the last line. -/
  emptyLines : Nat := 0
  /-- Whether the last line begins with a blank, which keeps the breaks about it from folding. -/
  isBlankLine : Bool := false

/-- What stands between the last line and one that begins with a blank (`startsBlank`) or not. Only
a break between two lines that do not is folded. -/
def BlockContent.filler (isFolded startsBlank : Bool) (b : BlockContent) : Text :=
  let empty := List.replicate b.emptyLines '\n'
  if isFolded && b.hasBreak && !b.isBlankLine && !startsBlank then
    if b.emptyLines = 0 then [' '] else empty
  else if b.hasBreak then '\n' :: empty
  else empty

/-- Read the lines at `column`, behind the part `b` that has been read. Every step of `fuel` takes a
line. -/
def readBlockLines (isFolded : Bool) (column : Nat) :
    (fuel : Nat) → BlockContent → Cursor → BlockContent × Cursor
  | 0, b, c => (b, c)
  | fuel + 1, b, c =>
    if c.column ≠ column || c.rest.isEmpty then (b, c)
    else
      let startsBlank := c.rest.head?.any isSpacing
      let text := b.text ++ b.filler isFolded startsBlank ++ c.rest.takeWhile (· ≠ '\n')
      let stop := c.skipWhile (· ≠ '\n')
      if stop.rest.isEmpty then ({ text := text, isBlankLine := startsBlank }, stop)
      else
        let (_, start) := skipEmptyLines (some column) stop.rest.length 0 stop.next
        readBlockLines isFolded column fuel
          { text := text
            hasBreak := true
            emptyLines := start.line - stop.line - 1
            isBlankLine := startsBlank }
          start

/-- Read a block scalar after its first character, inside a collection at `column`. -/
def readBlock (isFolded : Bool) (column : Int) (c : Cursor) : Option (Text × Cursor) := do
  let (header, rest) ← readBlockHeader c.rest
  let stop ← (c.upTo rest).skipToLineEnd?
  if !atLineEnd stop.rest then none
  else
    let first := stop.next
    if first.rest.head? = some '\t' then none
    else
      let given := header.increment.map fun n => n + (max column 0).toNat
      let (widest, start) := skipEmptyLines given (first.rest.length + 1) 0 first
      let breaks := List.replicate (start.line - first.line) '\n'
      if start.rest.isEmpty then
        if header.chomping = .strip || start.line = c.line then some ([], start)
        else if header.chomping = .clip || breaks = [] then some (['\n'], start)
        else some (breaks, start)
      else
        let inner := given.getD (max widest (column + 1).toNat)
        if start.column < inner && column < start.column then none
        else
          let (b, stop) :=
            readBlockLines isFolded inner (start.rest.length + 1)
              { emptyLines := start.line - first.line } start
          let lastBreak := if b.hasBreak then ['\n'] else []
          let endBreak := if stop.rest.isEmpty && max inner 1 ≤ stop.column then ['\n'] else []
          match header.chomping with
          | .strip => some (b.text, stop)
          | .clip => some (b.text ++ lastBreak ++ endBreak, stop)
          | .keep =>
            some (b.text ++ lastBreak ++ endBreak ++ List.replicate b.emptyLines '\n', stop)

end MathNotes.Yaml
