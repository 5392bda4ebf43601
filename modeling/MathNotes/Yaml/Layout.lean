import MathNotes.Yaml.Block
import MathNotes.Yaml.Property
import MathNotes.Yaml.Token

/-!
# The layout of a YAML text

A text is taken apart from the front, one piece after another (`Layout.step`). The columns at which
block collections stand are kept on a stack, and so are the brackets and braces that are open.
Whether a piece is a key is known only when a colon follows it, so the place before the last piece
that may be one is remembered (`Candidate`), and the token for the key is put there later.
-/

namespace MathNotes.Yaml

/-- How many characters there may be from the beginning of a key to its colon. -/
def keyLimit : Nat := 1024

/-- A place at which a key may have begun, with where it is in the text. -/
structure Candidate where
  /-- How many of the `tokens` come before. -/
  token : Nat
  index : Nat
  line : Nat
  column : Nat
  /-- Whether nothing else than a key can stand there. -/
  isRequired : Bool
  /-- Whether there is a tab in front of it on its line. -/
  afterTab : Bool

/-- The indentation of a collection, or of the value of a member of one. -/
structure Level where
  column : Int
  /-- Whether it is a block collection. Otherwise it is only said how far the value of a member must
  be indented. -/
  isBlock : Bool

/-- A bracket or brace that is open, and what is outside it. -/
structure Opening where
  isBracket : Bool
  /-- The `candidate` before it, outside of it. -/
  outer : Option Candidate
  /-- Whether a member without braces has begun in it. -/
  hasMember : Bool := false

/-- A text that has been taken apart as far as the `cursor`. -/
structure Layout where
  cursor : Cursor
  /-- The tokens so far, the last first. -/
  tokens : List Token := []
  /-- The indentations, the innermost first. -/
  levels : List Level := []
  /-- What is open, the innermost first. -/
  openings : List Opening := []
  /-- The last place at which a key may have begun inside the innermost opening. -/
  candidate : Option Candidate := none
  /-- Whether a key may begin here. -/
  keyAllowed : Bool := true
  /-- Where a colon needs no gap after it, because a key in quotes or brackets has just ended. -/
  adjacent : Option Nat := none
  /-- Whether members without braces go unnoticed in brackets. From the first brace or question mark
  on they do, until one ends that was noticed before. -/
  isBlind : Bool := false

namespace Layout

/-! ### Parts of a step -/

/-- Whether brackets or braces are open, that is whether there are any `openings`. -/
def inFlow (s : Layout) : Bool := !s.openings.isEmpty

/-- The column of the innermost collection, `-1` at the beginning, where there is none. -/
def column (s : Layout) : Int := (s.levels.head?.map (·.column)).getD (-1)

def push (s : Layout) (t : Token) : Layout := { s with tokens := t :: s.tokens }

/-- Put the token `t` behind the first `n` tokens, those in front of it in the text. -/
def insert (s : Layout) (n : Nat) (t : Token) : Layout :=
  let later := s.tokens.length - n
  { s with tokens := s.tokens.take later ++ t :: s.tokens.drop later }

/-- Forget the `candidate`, unless it had to be a key. -/
def dropCandidate? (s : Layout) : Option Layout :=
  if s.candidate.any (·.isRequired) then none else some { s with candidate := none }

/-- Whether a key that begins at `k` cannot end here any more: outside brackets and braces it must
end on its line, within `keyLimit` characters. -/
def isStale (s : Layout) (k : Candidate) : Bool :=
  !s.inFlow && (k.line < s.cursor.line || k.index + keyLimit < s.cursor.index)

/-- Forget the `candidate` if it `isStale`, unless it had to be a key. -/
def dropStale? (s : Layout) : Option Layout :=
  if s.candidate.any s.isStale then s.dropCandidate? else some s

/-- A key may begin here if `keyAllowed`. It must, if a member of a block mapping has to. -/
def markCandidate (s : Layout) : Layout :=
  if s.keyAllowed then
    let c := s.cursor
    { s with
      candidate := some
        { token := s.tokens.length
          index := c.index
          line := c.line
          column := c.column
          isRequired := !s.inFlow && s.column = c.column && s.levels.head?.any (·.isBlock)
          afterTab := c.isFresh && c.firstTab.isSome } }
  else s

/-- Close the collections that are indented further than `column`, each block collection by a
`blockEnd`. -/
def closeBeyond (column : Int) (s : Layout) : Layout :=
  if s.inFlow then s
  else
    let closed := s.levels.takeWhile fun l => column < l.column
    { s with
      levels := s.levels.drop closed.length
      tokens := List.replicate (closed.countP (·.isBlock)) .blockEnd ++ s.tokens }

/-- Outside brackets and braces, what belongs to the member of a block collection is indented by at
least one column, which is a `Level` of its own. -/
def indentValue (s : Layout) : Layout :=
  if !s.inFlow && s.levels.head?.any (·.isBlock) then
    { s with levels := ⟨s.column + 1, false⟩ :: s.levels }
  else s

/-- Forget how far values must be indented: drop the levels on top that are not `isBlock`. -/
def dropValueLevels (s : Layout) : Layout :=
  { s with levels := s.levels.dropWhile fun l => !l.isBlock }

/-- Begin a block collection at `column`, with the token `t` behind the first `n` tokens, unless one
is there. A tab must not stand in front of it (`afterTab`). -/
def openBlock? (column : Int) (afterTab : Bool) (n : Nat) (t : Token) (s : Layout) :
    Option Layout :=
  if s.inFlow then some s
  else
    let levels :=
      if s.column ≤ column && s.levels.head?.any (fun l => !l.isBlock) then s.levels.drop 1
      else s.levels
    let s := { s with levels := levels }
    if column ≤ s.column then some s
    else if afterTab then none
    else some ({ s with levels := ⟨column, true⟩ :: s.levels }.insert n t)

/-- Begin a block collection where the `cursor` is. -/
def openBlockHere? (t : Token) (s : Layout) : Option Layout :=
  s.openBlock? s.cursor.column (s.cursor.isFresh && s.cursor.firstTab.isSome) s.tokens.length t

/-- Go over blanks, line ends and comments. After a line end a key may begin, except between
brackets and braces. Inside a block collection a line must not begin with a tab (`hasTabBefore`). -/
def skipGaps? (s : Layout) : Option Layout :=
  let c := s.cursor.skipGaps
  if !s.levels.isEmpty && !c.rest.isEmpty && c.hasTabBefore s.column then none
  else
    some { s with
      cursor := c
      keyAllowed := s.keyAllowed || (!s.inFlow && s.cursor.line < c.line) }

/-! ### Pieces -/

/-- A mark `t` for the beginning or the end of a document, which closes all collections. -/
def documentMark? (t : Token) (s : Layout) : Option Layout := do
  let s ← (s.closeBeyond (-1)).dropCandidate?
  return { s with keyAllowed := false, cursor := s.cursor.advance 3 }.push t

/-- The end of a document, after which its line must end (`skipToLineEnd?`). -/
def documentEnd? (s : Layout) : Option Layout := do
  let s ← s.documentMark? .documentEnd
  let c ← s.cursor.skipToLineEnd?
  if atLineEnd c.rest then return { s with cursor := c } else none

/-- A directive (`readDirective`), with which its line must end. -/
def directive? (s : Layout) : Option Layout := do
  let s ← (s.closeBeyond (-1)).dropCandidate?
  let (directive, rest) ← readDirective (s.cursor.rest.drop 1)
  let c ← (s.cursor.upTo rest).skipToLineEnd?
  let t : Token :=
    match directive with
    | .version major => .version major
    | .tagHandle handle expansion => .tagHandle handle expansion
    | .reserved => .reserved
  if atLineEnd c.rest then return { s with keyAllowed := false, cursor := c.next }.push t else none

/-- A bracket or brace that opens. The `candidate` before it is kept in the `Opening`. -/
def opening? (isBracket : Bool) (s : Layout) : Option Layout := do
  let s := s.markCandidate.indentValue
  let c ← s.cursor.next.skipToLineEnd?
  return { s with
    cursor := c
    openings := { isBracket := isBracket, outer := s.candidate } :: s.openings
    candidate := none
    keyAllowed := true
    isBlind := s.isBlind || !isBracket }.push (if isBracket then .openBracket else .openBrace)

/-- The end of an entry, with which a member without braces ends, if one `hasMember`. -/
def endEntry (s : Layout) : Layout :=
  match s.openings with
  | [] => s
  | o :: outer =>
    if o.hasMember then
      { s with openings := { o with hasMember := false } :: outer, isBlind := false }
    else s

/-- A bracket or brace that closes the innermost of the `openings`, which must be of its kind. -/
def closing? (isBracket : Bool) (s : Layout) : Option Layout :=
  match s.openings with
  | [] => none
  | opening :: outer =>
    if opening.isBracket ≠ isBracket then none
    else do
      let s := s.endEntry
      let c ← s.cursor.next.skipToLineEnd?
      return { s with
        cursor := c
        openings := outer
        candidate := opening.outer
        keyAllowed := false
        adjacent := if outer.isEmpty then s.adjacent else some c.index }.push
          (if isBracket then .closeBracket else .closeBrace)

/-- A comma, which ends an entry and behind which a key may begin. -/
def comma? (s : Layout) : Option Layout := do
  let s := (← s.dropCandidate?).endEntry
  let c ← s.cursor.next.skipToLineEnd?
  return { s with cursor := c, keyAllowed := true }.push .comma

/-- The hyphen in front of an item. Between it and the hyphen of an inner item there must be no
tab. -/
def item? (s : Layout) : Option Layout :=
  if s.inFlow || !s.keyAllowed then none
  else do
    let s ← s.openBlockHere? .blockSequence
    let blanks := s.cursor.next.rest.takeWhile isSpacing
    let c ← s.cursor.next.skipToLineEnd?
    if blanks.contains '\t' && c.rest.head? = some '-' && atGap (c.rest.drop 1) then none
    else
      let s := { s with cursor := c }
      let s := if c.rest.head? = some '\n' || atFlowMark c.rest then s.indentValue else s
      let s ← s.dropCandidate?
      return { s with keyAllowed := true }.push .item

/-- The question mark in front of a key that is not simple. A gap must follow, and no tab. -/
def explicitKey? (s : Layout) : Option Layout :=
  if !s.inFlow && !s.keyAllowed then none
  else do
    let s ← s.openBlockHere? .blockMapping
    let s ← s.dropCandidate?
    let c := s.cursor.next
    let stop := c.advance (gapLength (· = ' ') false c.rest)
    if stop.index = c.index || stop.rest.head? = some '\t' then none
    else
      return { s with
        keyAllowed := !s.inFlow
        cursor := stop
        isBlind := s.isBlind || s.inFlow }.push .key

/-- Whether a member without braces would be noticed here: in brackets, unless the layout
`isBlind`. -/
def noticesMember (s : Layout) : Bool := !s.isBlind && s.openings.head?.any (·.isBracket)

/-- Notice a member without braces, if it would be (`noticesMember`). -/
def beginMember (s : Layout) : Layout :=
  match s.openings with
  | [] => s
  | o :: outer =>
    if s.noticesMember then { s with openings := { o with hasMember := true } :: outer } else s

/-- The colon in front of a value. If a key may have begun before (`candidate`), one has; that of a
member without braces must be on the same line. A tab between the colon and a value that begins like
a name must have a space beside it. -/
def value? (s : Layout) : Option Layout := do
  let start := s.cursor
  let after := start.next
  let blanks := after.rest.takeWhile isSpacing
  let c ← if blanks.head? = some '\t' then after.skipToLineEnd? else some after
  if blanks.head? = some '\t' && !blanks.contains ' ' && c.rest.head?.any isNameChar then none
  else
    let isMember := s.noticesMember
    let s := { s.beginMember with cursor := c }
    match s.candidate with
    | some k =>
      if isMember && k.line < start.line then none
      else
        let s ← (s.insert k.token .key).openBlock? k.column k.afterTab k.token .blockMapping
        return { s.indentValue with candidate := none, keyAllowed := false }.push .value
    | none =>
      if !s.inFlow && !s.keyAllowed then none
      else
        let s := if isMember then s.push .key else s
        let s ← s.openBlock? start.column (start.isFresh && start.firstTab.isSome)
          s.tokens.length .blockMapping
        return { s.indentValue with keyAllowed := !s.inFlow }.push .value

/-- An anchor or an alias, for which `token` makes a token of its name. -/
def name? (token : Text → Token) (s : Layout) : Option Layout := do
  let (name, rest) ← readAnchor (s.cursor.rest.drop 1)
  return { s.markCandidate with keyAllowed := false, cursor := s.cursor.upTo rest }.push
    (token name)

/-- A tag (`readTag`), with which a key may begin. -/
def tag? (s : Layout) : Option Layout := do
  let ((handle, suffix), rest) ← readTag s.inFlow s.cursor.rest
  return { s.markCandidate with keyAllowed := false, cursor := s.cursor.upTo rest }.push
    (.tag handle suffix)

/-- A block scalar (`readBlock`), behind which a key may begin. -/
def block? (isFolded : Bool) (s : Layout) : Option Layout := do
  let s := s.markCandidate.dropValueLevels
  let (content, stop) ← readBlock isFolded s.column s.cursor.next
  return { s with keyAllowed := true, cursor := stop }.push (.scalar content false)

/-- Whether `s` may follow a quoted scalar on its line: a mark between brackets and braces, or a
colon, which outside them must be on the line on which the scalar begins (`onOneLine`). -/
def mayFollowQuoted (inFlow onOneLine : Bool) (s : Text) : Bool :=
  atLineEnd s || s.head? = some ':' && (inFlow || onOneLine) ||
    inFlow && s.head?.any fun c => c = ',' || c = ']' || c = '}'

/-- A scalar in quotes (`readQuoted`), behind which a colon needs no gap. -/
def quoted? (quote : Char) (s : Layout) : Option Layout := do
  let s := { s.markCandidate with keyAllowed := false }
  let first := s.cursor.next
  let (content, stop) ← readQuoted quote s.inFlow s.column (first.rest.length + 1) first
  let c ← stop.skipToLineEnd?
  if mayFollowQuoted s.inFlow (s.cursor.line = c.line) c.rest then
    let s ← { s with cursor := c }.skipGaps?
    return { s with adjacent := some s.cursor.index }.push (.scalar content false)
  else none

/-- A plain scalar (`readPlain`). If it ends at a line end, a key may begin after it. -/
def plain? (s : Layout) : Option Layout := do
  let s := { s.markCandidate with keyAllowed := false }.dropValueLevels
  let c := s.cursor
  if s.inFlow && (c.column : Int) ≤ s.column then none
  else
    let (content, stop) ← readPlain s.inFlow (s.column + 1) (c.rest.length + 1) c
    return { s with keyAllowed := stop.isFresh, cursor := stop }.push (.scalar content true)

/-! ### Steps -/

/-- Take one piece, by the characters with which what is behind the `cursor` begins. -/
def piece? (s : Layout) : Option Layout :=
  match s.cursor.rest with
  | [] => none
  | c :: rest =>
    let mayEndKey := s.inFlow && (atFlowMark rest || s.adjacent = some s.cursor.index)
    if c = '[' then s.opening? true
    else if c = '{' then s.opening? false
    else if c = ']' then s.closing? true
    else if c = '}' then s.closing? false
    else if c = ',' then s.comma?
    else if c = '-' && atGap rest then s.item?
    else if c = '?' && atGap rest then s.explicitKey?
    else if c = ':' && atGap rest then s.value?
    else if c = ':' && mayEndKey then
      if s.adjacent ≠ some s.cursor.index && (rest.head? = some '[' || rest.head? = some '{') then
        none
      else s.value?
    else if c = '*' then s.name? .alias
    else if c = '&' then s.name? .anchor
    else if c = '!' then s.tag?
    else if c = '|' && !s.inFlow then s.block? false
    else if c = '>' && !s.inFlow then s.block? true
    else if c = '"' || c = '\u0027' then s.quoted? c
    else if c = '%' || c = '@' || c = '\u0060' || c = byteOrderMark then none
    else s.plain?

/-- Whether the `cursor` is further out than it may be: only marks that end an entry may stand
before the column of what they belong to. -/
def isTooFarOut (s : Layout) : Bool :=
  s.cursor.column < s.column &&
    !(s.inFlow && s.cursor.rest.head?.any fun c => c = ']' || c = '}' || c = ',')

/-- The end of the text, where no bracket or brace may be open and no key may be missing. -/
def finish? (s : Layout) : Option Layout :=
  if s.inFlow then none
  else do
    let s ← (s.closeBeyond (-1)).dropCandidate?
    return s.push .finish

/-- What a `step` leads to. -/
inductive Outcome where
  | more (s : Layout)
  | finished (s : Layout)
  | failed

/-- Take gaps and one piece: `skipGaps?`, `closeBeyond` the column that is reached, and `piece?`. -/
def step (s : Layout) : Outcome :=
  match s.skipGaps?.bind dropStale? with
  | none => .failed
  | some s =>
    let s := s.closeBeyond s.cursor.column
    let rest := s.cursor.rest
    if rest.isEmpty then
      match s.finish? with
      | some s => .finished s
      | none => .failed
    else
      let next? :=
        if s.cursor.column = 0 && rest.head? = some '%' then s.directive?
        else if s.cursor.column = 0 && atDocumentStart rest then s.documentMark? .documentStart
        else if s.cursor.column = 0 && atDocumentEnd rest then s.documentEnd?
        else if s.isTooFarOut then none
        else s.piece?
      match next? with
      | some s => .more s
      | none => .failed

/-- The tokens that are certain where the text cannot be read further: those before every
`Candidate`, since a token for a key may yet have to be put there. -/
def certainTokens (s : Layout) : List Token :=
  let current := s.candidate.filter fun k => k.isRequired || !s.isStale k
  let candidates := current.toList ++ s.openings.filterMap (·.outer)
  let certain := candidates.foldl (fun n k => min n k.token) s.tokens.length
  s.tokens.reverse.take certain ++ [.broken]

/-- Take a text apart by `step`, each of which takes at least one character. -/
def run : (fuel : Nat) → Layout → List Token
  | 0, s => s.certainTokens
  | fuel + 1, s =>
    match s.step with
    | .more next => run fuel next
    | .finished next => next.tokens.reverse
    | .failed => s.certainTokens

end Layout

/-- The text with every line end (`\r\n`, `\r` or `\n`) made into a line feed. -/
def joinLineEnds : Text → Text
  | [] => []
  | '\r' :: '\n' :: rest => '\n' :: joinLineEnds rest
  | c :: rest => (if c = '\r' then '\n' else c) :: joinLineEnds rest

/-- The text without a `byteOrderMark` in front. -/
def dropByteOrderMark : Text → Text
  | [] => []
  | c :: rest => if c = byteOrderMark then rest else c :: rest

/-- The tokens of the text `s`. It may begin with a byte order mark of its own and one of what it is
part of, and a null character ends it. -/
def tokens (s : Text) : List Token :=
  let s := joinLineEnds ((dropByteOrderMark (dropByteOrderMark s)).takeWhile (· ≠ '\x00'))
  Layout.run (s.length + 1) { cursor := { rest := s } }

end MathNotes.Yaml
