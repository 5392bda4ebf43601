import MathNotes.Text.Word
import MathNotes.Json.Basic

/-!
# Tokens of a JSON text

A JSON text is a sequence of tokens with blanks between them (`readTokens`). Reading is strict:
blanks are space, tab, line feed and carriage return only, numbers have no leading zeros, and
strings hold no control characters. An escaped surrogate that is not half of a pair makes a token of
its own kind. In writing (`Token.text`), only the double quote, the backslash and control characters
are escaped.

Every reader gives back what is left of the text, and `length_of_readToken` says that it is shorter,
which is why `readTokens` ends.
-/

namespace MathNotes.Json

/-- A token of a JSON text, which `readToken` reads and `Token.text` spells. -/
inductive Token where
  | openArray | closeArray | openObject | closeObject | comma | colon
  | null
  | bool (b : Bool)
  | number (n : Number)
  | string (s : Text)
  /-- A string with half of a surrogate pair in it, so that `ofUnits?` makes no text of it. -/
  | brokenString
  deriving DecidableEq

/-- Whether `c` may stand between tokens: a space, tab, line feed or carriage return. -/
def isTokenBlank (c : Char) : Bool := c = ' ' || c = '\t' || c = '\n' || c = '\r'

/-! ### Numbers -/

/-- Read a run of digits (`Char.isDigit`) that is not empty. -/
def readDigits (s : Text) : Option (Text × Text) :=
  match s.takeWhile Char.isDigit with
  | [] => none
  | ds => some (ds, s.dropWhile Char.isDigit)

/-- Read the digits before the point: a zero alone, or digits that do not begin with one. -/
def readWhole : Text → Option (Text × Text)
  | '0' :: rest => some (['0'], rest)
  | s => readDigits s

/-- Read a point and the digits after it, if there is a point; `[]` stands for none. -/
def readFraction : Text → Option (Text × Text)
  | '.' :: rest => readDigits rest
  | s => some ([], s)

/-- Read the digits of an exponent, with or without a sign, as an integer by
`Nat.ofDigitChars 10`. -/
def readSigned : Text → Option (Int × Text)
  | '-' :: rest =>
    (readDigits rest).map fun (ds, after) => (-(Nat.ofDigitChars 10 ds 0 : Int), after)
  | '+' :: rest =>
    (readDigits rest).map fun (ds, after) => ((Nat.ofDigitChars 10 ds 0 : Int), after)
  | s => (readDigits s).map fun (ds, after) => ((Nat.ofDigitChars 10 ds 0 : Int), after)

/-- Read an exponent after `e` or `E`, if there is one. -/
def readExponent : Text → Option (Option Int × Text)
  | 'e' :: rest => (readSigned rest).map fun (e, after) => (some e, after)
  | 'E' :: rest => (readSigned rest).map fun (e, after) => (some e, after)
  | s => some (none, s)

/-- Append digits to `n` as long as it is below `wordLimit`: the number, and the digits from the
first on that did not fit. -/
def appendDigits (n : Nat) : Text → Nat × Text
  | [] => (n, [])
  | c :: rest =>
    if 10 * n + (c.toNat - 48) < wordLimit then appendDigits (10 * n + (c.toNat - 48)) rest
    else (n, c :: rest)

/-- The number made of a sign, the digits before and after the point and an exponent. Of the digits
of `whole` those that do not fit a word count as places only (`extra`), and of `fraction` they do
not count at all (`unused`). -/
def numberOf (negative : Bool) (whole fraction : Text) (exponent : Option Int) : Number :=
  let (n, extra) := appendDigits 0 whole
  let (digits, unused) := appendDigits n fraction
  let fits := if negative then 0 < n && n ≤ signedLimit else true
  if fraction.isEmpty && exponent.isNone && extra.isEmpty && fits then
    .integer (if negative then -(n : Int) else n)
  else
    .decimal negative digits
      (exponent.getD 0 + extra.length - ((fraction.length : Int) - unused.length))

/-- Read a number after its sign: `readWhole`, `readFraction` and `readExponent`, put together by
`numberOf`. -/
def readUnsigned (negative : Bool) (s : Text) : Option (Number × Text) :=
  match readWhole s with
  | none => none
  | some (whole, s) =>
    match readFraction s with
    | none => none
    | some (fraction, s) =>
      match readExponent s with
      | none => none
      | some (exponent, rest) => some (numberOf negative whole fraction exponent, rest)

/-- Read a number, with a minus sign or without a sign (`readUnsigned`). -/
def readNumber : Text → Option (Number × Text)
  | '-' :: rest => readUnsigned true rest
  | s => readUnsigned false s

/-- The digits of `n`, by `Nat.toDigits 10`, with a minus sign if it is negative. -/
def integerText (n : Int) : Text :=
  if n < 0 then '-' :: Nat.toDigits 10 n.natAbs else Nat.toDigits 10 n.natAbs

/-- The spelling of a number. What is no integer is spelled by its digits and an exponent
(`integerText`). -/
def Number.text : Number → Text
  | .integer value => integerText value
  | .decimal negative digits exponent =>
    (if negative then ['-'] else []) ++ Nat.toDigits 10 digits ++ 'e' :: integerText exponent

/-! ### Strings -/

/-- The value of the hexadecimal digit `c`, in either case. -/
def hexValue? (c : Char) : Option Nat :=
  if '0' ≤ c && c ≤ '9' then some (c.toNat - 48)
  else if 'a' ≤ c && c ≤ 'f' then some (c.toNat - 87)
  else if 'A' ≤ c && c ≤ 'F' then some (c.toNat - 55)
  else none

/-- The value of the hexadecimal digits `a`, `b`, `c`, `d`, the highest first. -/
def hexValue4? (a b c d : Char) : Option Nat := do
  return 4096 * (← hexValue? a) + 256 * (← hexValue? b) + 16 * (← hexValue? c) +
    (← hexValue? d)

/-- The hexadecimal digit with the value `d`, in lower case. -/
def hexDigit (d : Nat) : Char := if d < 10 then Char.ofNat (48 + d) else Char.ofNat (87 + d)

/-- What a backslash and one more character other than `u` stand for. -/
def shortEscape? : Char → Option Char
  | '"' => some '"'
  | '\\' => some '\\'
  | '/' => some '/'
  | 'b' => some '\x08'
  | 'f' => some '\x0c'
  | 'n' => some '\n'
  | 'r' => some '\r'
  | 't' => some '\t'
  | _ => none

/-- Put the code unit `unit` in front of those that were read. -/
def prepend (unit : Nat) (result : Option (List Nat × Text)) : Option (List Nat × Text) :=
  result.map fun (units, rest) => (unit :: units, rest)

/-- Read the code units of a string after its opening quote, and the text after the closing one. A
unit is the code of a character or, if it was escaped by `\u`, perhaps a surrogate. -/
def readUnits : Text → Option (List Nat × Text)
  | [] => none
  | '"' :: rest => some ([], rest)
  | '\\' :: 'u' :: a :: b :: c :: d :: rest =>
    match hexValue4? a b c d with
    | none => none
    | some n => prepend n (readUnits rest)
  | '\\' :: c :: rest =>
    match shortEscape? c with
    | some x => prepend x.toNat (readUnits rest)
    | none => none
  | c :: rest => if c = '\\' || c.toNat < 0x20 then none else prepend c.toNat (readUnits rest)

/-- Whether the code unit `n` is the first half of a surrogate pair. -/
def isHighSurrogate (n : Nat) : Bool := 0xD800 ≤ n && n < 0xDC00

/-- Whether the code unit `n` is the second half of a surrogate pair. -/
def isLowSurrogate (n : Nat) : Bool := 0xDC00 ≤ n && n < 0xE000

/-- The text made of code units, if every one that `isHighSurrogate` or `isLowSurrogate` is half of
a pair. -/
def ofUnits? : List Nat → Option Text
  | [] => some []
  | n :: rest =>
    if isHighSurrogate n then
      match rest with
      | m :: rest =>
        if isLowSurrogate m then
          (ofUnits? rest).map
            (Char.ofNat (0x10000 + 0x400 * (n - 0xD800) + (m - 0xDC00)) :: ·)
        else none
      | [] => none
    else if isLowSurrogate n then none
    else (ofUnits? rest).map (Char.ofNat n :: ·)

/-- The spelling of `c` in a string: a short escape, `\u00` and two digits (`hexDigit`) for the
other control characters, or `c` itself. -/
def stringChar (c : Char) : Text :=
  if c = '"' then ['\\', '"']
  else if c = '\\' then ['\\', '\\']
  else if c = '\x08' then ['\\', 'b']
  else if c = '\x0c' then ['\\', 'f']
  else if c = '\n' then ['\\', 'n']
  else if c = '\r' then ['\\', 'r']
  else if c = '\t' then ['\\', 't']
  else if c.toNat < 0x20 then
    ['\\', 'u', '0', '0', hexDigit (c.toNat / 16), hexDigit (c.toNat % 16)]
  else [c]

/-- The spelling of the string `s`: each character by `stringChar`, between double quotes. -/
def stringText (s : Text) : Text := '"' :: (s.flatMap stringChar ++ ['"'])

/-! ### Tokens -/

/-- The spelling of a token. -/
def Token.text : Token → Text
  | .openArray => ['[']
  | .closeArray => [']']
  | .openObject => ['{']
  | .closeObject => ['}']
  | .comma => [',']
  | .colon => [':']
  | .null => "null"
  | .bool true => "true"
  | .bool false => "false"
  | .number n => n.text
  | .string s => stringText s
  | .brokenString => "\"\\ud800\""

/-- The token of a string with the given code `units`, which is `brokenString` if these make no
text. -/
def Token.ofUnits (units : List Nat) : Token :=
  match ofUnits? units with
  | some s => .string s
  | none => .brokenString

/-- Read the token that the text begins with. Blanks are not passed over here. -/
def readToken : Text → Option (Token × Text)
  | '[' :: rest => some (.openArray, rest)
  | ']' :: rest => some (.closeArray, rest)
  | '{' :: rest => some (.openObject, rest)
  | '}' :: rest => some (.closeObject, rest)
  | ',' :: rest => some (.comma, rest)
  | ':' :: rest => some (.colon, rest)
  | 'n' :: 'u' :: 'l' :: 'l' :: rest => some (.null, rest)
  | 't' :: 'r' :: 'u' :: 'e' :: rest => some (.bool true, rest)
  | 'f' :: 'a' :: 'l' :: 's' :: 'e' :: rest => some (.bool false, rest)
  | '"' :: rest => (readUnits rest).map fun (units, after) => (.ofUnits units, after)
  | s => (readNumber s).map fun (n, after) => (.number n, after)

/-! ### What is left is shorter -/

theorem length_of_readDigits {s ds rest : Text} (h : readDigits s = some (ds, rest)) :
    rest.length < s.length := by
  unfold readDigits at h
  split at h
  · cases h
  · next hne =>
    simp only [Option.some.injEq, Prod.mk.injEq] at h
    obtain ⟨rfl, rfl⟩ := h
    have hlen := congrArg List.length (List.takeWhile_append_dropWhile (p := Char.isDigit) (l := s))
    rw [List.length_append] at hlen
    have : 0 < (s.takeWhile Char.isDigit).length := List.length_pos_iff.mpr hne
    omega

theorem length_of_readWhole {s ds rest : Text} (h : readWhole s = some (ds, rest)) :
    rest.length < s.length := by
  unfold readWhole at h
  split at h
  · cases h; simp
  · exact length_of_readDigits h

theorem length_of_readFraction {s ds rest : Text} (h : readFraction s = some (ds, rest)) :
    rest.length ≤ s.length := by
  unfold readFraction at h
  split at h
  · have := length_of_readDigits h
    rw [List.length_cons]
    omega
  · cases h; omega

theorem length_of_readSigned {s rest : Text} {e : Int} (h : readSigned s = some (e, rest)) :
    rest.length < s.length := by
  unfold readSigned at h
  split at h
  · obtain ⟨⟨ds, after⟩, hds, heq⟩ := Option.map_eq_some_iff.mp h
    have := length_of_readDigits hds
    cases heq
    rw [List.length_cons]
    omega
  · obtain ⟨⟨ds, after⟩, hds, heq⟩ := Option.map_eq_some_iff.mp h
    have := length_of_readDigits hds
    cases heq
    rw [List.length_cons]
    omega
  · obtain ⟨⟨ds, after⟩, hds, heq⟩ := Option.map_eq_some_iff.mp h
    have := length_of_readDigits hds
    cases heq
    exact this

theorem length_of_readExponent {s rest : Text} {e : Option Int}
    (h : readExponent s = some (e, rest)) : rest.length ≤ s.length := by
  unfold readExponent at h
  split at h
  · obtain ⟨⟨e, after⟩, he, heq⟩ := Option.map_eq_some_iff.mp h
    have := length_of_readSigned he
    cases heq
    rw [List.length_cons]
    omega
  · obtain ⟨⟨e, after⟩, he, heq⟩ := Option.map_eq_some_iff.mp h
    have := length_of_readSigned he
    cases heq
    rw [List.length_cons]
    omega
  · cases h; omega

theorem length_of_readUnsigned {negative : Bool} {s rest : Text} {n : Number}
    (h : readUnsigned negative s = some (n, rest)) : rest.length < s.length := by
  unfold readUnsigned at h
  split at h
  · cases h
  · next whole s1 hw =>
    split at h
    · cases h
    · next fraction s2 hf =>
      split at h
      · cases h
      · next exponent s3 he =>
        have := length_of_readWhole hw
        have := length_of_readFraction hf
        have := length_of_readExponent he
        cases h
        omega

theorem length_of_readNumber {s rest : Text} {n : Number} (h : readNumber s = some (n, rest)) :
    rest.length < s.length := by
  unfold readNumber at h
  split at h
  · have := length_of_readUnsigned h
    rw [List.length_cons]
    omega
  · exact length_of_readUnsigned h

theorem exists_of_prepend {unit : Nat} {result : Option (List Nat × Text)} {units : List Nat}
    {rest : Text} (h : prepend unit result = some (units, rest)) :
    ∃ others, result = some (others, rest) := by
  obtain ⟨⟨others, after⟩, hr, heq⟩ := Option.map_eq_some_iff.mp h
  cases heq
  exact ⟨others, hr⟩

theorem length_of_readUnits {t rest : Text} {units : List Nat}
    (h : readUnits t = some (units, rest)) : rest.length < t.length := by
  -- what is left after a unit is what is left of the string behind it
  have step {unit : Nat} {u : Text} {units : List Nat}
      (ih : ∀ {units}, readUnits u = some (units, rest) → rest.length < u.length)
      (h : prepend unit (readUnits u) = some (units, rest)) : rest.length < u.length :=
    have ⟨_, hu⟩ := exists_of_prepend h
    ih hu
  fun_induction readUnits t generalizing units with
  | case2 => cases h; simp
  | case4 | case5 | case8 =>
    rename_i ih
    have := step ih h
    simp only [List.length_cons]
    omega
  | _ => cases h

theorem length_of_readToken {s rest : Text} {t : Token} (h : readToken s = some (t, rest)) :
    rest.length < s.length := by
  unfold readToken at h
  split at h
  -- marks and words
  iterate 9
    · cases h
      simp only [List.length_cons]
      omega
  · obtain ⟨⟨e, after⟩, he, heq⟩ := Option.map_eq_some_iff.mp h
    have := length_of_readUnits he
    cases heq
    rw [List.length_cons]
    omega
  · obtain ⟨⟨e, after⟩, he, heq⟩ := Option.map_eq_some_iff.mp h
    have := length_of_readNumber he
    cases heq
    omega

/-- Read all tokens of `s`, passing over those characters that satisfy `isTokenBlank`. -/
def readTokens (s : Text) : Option (List Token) :=
  match s with
  | [] => some []
  | c :: rest =>
    if isTokenBlank c then readTokens rest
    else
      match _h : readToken (c :: rest) with
      | some (t, after) => (readTokens after).map (t :: ·)
      | none => none
termination_by s.length
decreasing_by
  · simp
  · exact length_of_readToken _h

end MathNotes.Json
