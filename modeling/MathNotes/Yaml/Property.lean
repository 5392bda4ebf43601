import MathNotes.Yaml.Quoted

/-!
# Names, tags and directives

An anchor gives a node a name, and an alias stands for the node of that name (`readAnchor`). A tag
says what kind of value a node is, either in full or by a handle and a suffix (`readTag`). A line
that begins with a per cent sign is a `Directive`.
-/

namespace MathNotes.Yaml

/-- The mark that says in which order the bytes of a text come. -/
def byteOrderMark : Char := '\ufeff'

/-- Whether `c` may stand in the name of an anchor: no gap, no mark of `isFlowMark`, no
`byteOrderMark`. -/
def isAnchorChar (c : Char) : Bool := !isGap c && !isFlowMark c && c ≠ byteOrderMark

/-- Read the name of an anchor or alias after its mark: at least one character that
`isAnchorChar`. -/
def readAnchor (s : Text) : Option (Text × Text) :=
  match s.takeWhile isAnchorChar with
  | [] => none
  | name => some (name, s.dropWhile isAnchorChar)

/-! ### Tags -/

/-- Whether `c` may stand in a tag that is given in full. -/
def isUriChar (c : Char) : Bool := isNameChar c || "#;/?:@&=+$,.!~*\u0027()[]%".toList.contains c

/-- Whether `c` may stand in the suffix of a tag, where `!` and the marks of `isFlowMark` must
not. -/
def isTagChar (c : Char) : Bool := isUriChar c && !isFlowMark c && c ≠ '!'

/-- The byte that is escaped by `%` and two hexadecimal digits at the beginning of a text. -/
def escapedByte? : Text → Option (Nat × Text)
  | '%' :: a :: b :: rest => (Json.hexValue4? '0' '0' a b).map fun byte => (byte, rest)
  | _ => none

/-- Read `count` escaped bytes that go on with a character, of which `code` is known so far. -/
def readTrailingBytes : (count : Nat) → (code : Nat) → Text → Option (Nat × Text)
  | 0, code, s => some (code, s)
  | count + 1, code, s =>
    match escapedByte? s with
    | some (byte, rest) =>
      if byte / 64 = 2 then readTrailingBytes count (64 * code + byte % 64) rest else none
    | none => none

/-- Read a character whose UTF-8 bytes are escaped (`escapedByte?`). -/
def readEscapedChar (s : Text) : Option (Char × Text) := do
  let (byte, rest) ← escapedByte? s
  let (code, rest) ←
    if byte < 0x80 then some (byte, rest)
    else if byte / 32 = 6 then readTrailingBytes 1 (byte % 32) rest
    else if byte / 16 = 14 then readTrailingBytes 2 (byte % 16) rest
    else if byte / 8 = 30 then readTrailingBytes 3 (byte % 8) rest
    else none
  return (← charOfCode? code, rest)

/-- Read characters that satisfy `isMember`, of which some may be escaped. Every step of `fuel`
takes at least one character of the text. -/
def readUri (isMember : Char → Bool) : (fuel : Nat) → Text → Option (Text × Text)
  | 0, s => some ([], s)
  | _, [] => some ([], [])
  | fuel + 1, c :: rest =>
    if !isMember c then some ([], c :: rest)
    else if c = '%' then do
      let (x, after) ← readEscapedChar (c :: rest)
      prepend x (readUri isMember fuel after)
    else prepend c (readUri isMember fuel rest)

/-- Read a tag handle: a name (`isNameChar`) between exclamation marks, of which the second may be
missing. -/
def readHandle : Text → Option (Text × Text)
  | '!' :: s =>
    let name := s.takeWhile isNameChar
    match s.dropWhile isNameChar with
    | '!' :: rest => some ('!' :: (name ++ ['!']), rest)
    | rest => some ('!' :: name, rest)
  | _ => none

/-- Whether `handle` has both exclamation marks. -/
def isClosedHandle (handle : Text) : Bool := 2 ≤ handle.length && handle.getLast? = some '!'

/-- Read the handle and the suffix of a tag. A tag that is given in full has no handle. An
exclamation mark alone is a suffix. -/
def readTagParts : Text → Option ((Text × Text) × Text)
  | '!' :: '<' :: s => do
    match ← readUri isUriChar s.length s with
    | ([], _) => none
    | (suffix, '>' :: rest) => return (([], suffix), rest)
    | _ => none
  | s => do
    let (handle, rest) ← readHandle s
    let (suffix, rest) ← readUri isTagChar rest.length rest
    if isClosedHandle handle then
      if suffix = [] then none else return ((handle, suffix), rest)
    else
      match handle.drop 1 ++ suffix with
      | [] => return (([], ['!']), rest)
      | suffix => return ((['!'], suffix), rest)

/-- Read a tag (`readTagParts`). A gap must follow it, or a mark between brackets and braces. -/
def readTag (inFlow : Bool) (s : Text) : Option ((Text × Text) × Text) :=
  match readTagParts s with
  | some (parts, rest) =>
    if atGap rest || (inFlow && atFlowMark rest) then some (parts, rest) else none
  | none => none

/-! ### Directives -/

/-- What a directive says: a version, what a tag `handle` stands for, or something that is passed
over. -/
inductive Directive where
  | version (major : Nat)
  | tagHandle (handle expansion : Text)
  | reserved

/-- How many digits a number in a version may have at most. -/
def versionDigits : Nat := 9

/-- Read a number of a version, with at most `versionDigits` digits. -/
def readVersionNumber (s : Text) : Option (Nat × Text) :=
  match Json.readDigits s with
  | some (digits, rest) =>
    if digits.length ≤ versionDigits then some (Nat.ofDigitChars 10 digits 0, rest) else none
  | none => none

/-- Read what is asked for by a version directive: two numbers with a point between, of which the
first is kept. -/
def readVersion (s : Text) : Option (Directive × Text) := do
  match ← readVersionNumber (s.dropWhile isSpacing) with
  | (major, '.' :: rest) =>
    let (_, rest) ← readVersionNumber rest
    return (.version major, rest)
  | _ => none

/-- Read what a tag handle stands for: an exclamation mark or a character that `isTagChar`, and then
characters of tags that are given in full (`isUriChar`). -/
def readExpansion (s : Text) : Option (Text × Text) :=
  match s with
  | [] => none
  | c :: _ => if c = '!' || isTagChar c then readUri isUriChar s.length s else none

/-- Read what is said by a directive on tags: a handle and its expansion (`readExpansion`). -/
def readTagDirective (s : Text) : Option (Directive × Text) := do
  let (handle, rest) ← readHandle (s.dropWhile isSpacing)
  if isClosedHandle handle || handle = ['!'] then
    let (expansion, rest) ← readExpansion (rest.dropWhile isSpacing)
    if atGap rest then return (.tagHandle handle expansion, rest) else none
  else none

/-- Read a directive after its per cent sign. One that is not known is passed over up to the end of
its line, as `reserved`. -/
def readDirective (s : Text) : Option (Directive × Text) :=
  let name := s.takeWhile isNameChar
  let rest := s.dropWhile isNameChar
  if name = [] || !atGap rest then none
  else if name = "YAML".toList then readVersion rest
  else if name = "TAG".toList then readTagDirective rest
  else some (.reserved, rest.dropWhile (· ≠ '\n'))

end MathNotes.Yaml
