import Mathlib.Data.List.TakeWhile
import MathNotes.Proofs.Text.Delimited
import MathNotes.Text.Blank
import MathNotes.Yaml.Document

/-!
# Lines that name a plain word and its value

The simplest text that is a mapping has lines with a word, a colon, a space and a second word. All
the words are made up of characters without a meaning of their own (`IsPlainWord`), so each line is
taken apart in three steps (`run_line`), and between lines nothing has to be remembered but the
tokens so far and that a mapping is open. By induction over the lines that gives the tokens of the
whole text (`tokens_mappingText`).
-/

namespace MathNotes.Yaml

open Text

/-- Whether `c` has no meaning of its own in a word: the characters of names (`isNameChar`), the
plus sign and the point. -/
def isPlainChar (c : Char) : Bool := isNameChar c || c = '+' || c = '.'

/-- A word of characters that satisfy `isPlainChar`. A hyphen alone would announce an item. -/
structure IsPlainWord (s : Text) : Prop where
  isWord : IsWord isPlainChar s
  ne_hyphen : s ≠ ['-']

/-- A name and a value that can stand on a line. The name begins with a letter, and it is not too
long for a key (`keyLimit`). -/
structure IsPlainMember (m : Text × Text) : Prop where
  name : IsPlainWord m.1
  begins : m.1.head?.any Char.isAlpha = true
  length_le : m.1.length ≤ keyLimit
  value : IsPlainWord m.2

/-- The line with the name `m.1` and the value `m.2`. -/
def memberLine (m : Text × Text) : Text := m.1 ++ ':' :: ' ' :: (m.2 ++ ['\n'])

/-- The text with the `memberLine` of each of several names and values. -/
def mappingText (members : List (Text × Text)) : Text := members.flatMap memberLine

/-- The tokens of `memberLine m`. -/
def memberTokens (m : Text × Text) : List Token :=
  [.key, .scalar m.1 true, .value, .scalar m.2 true]

/-! ### Plain characters -/

/-- Characters are different if only one of them satisfies `p`. -/
theorem ne_of_class {p : Char → Bool} {c d : Char} (hc : p c = true) (hd : p d = false) :
    c ≠ d := by
  rintro rfl
  rw [hc] at hd
  cases hd

theorem isGap_of_isPlainChar {c : Char} (hc : isPlainChar c = true) : isGap c = false := by
  have hspace := ne_of_class hc (d := ' ') rfl
  have htab := ne_of_class hc (d := '\t') rfl
  have hline := ne_of_class hc (d := '\n') rfl
  simp [isGap, isSpacing, hspace, htab, hline]

theorem isSpacing_of_isPlainChar {c : Char} (hc : isPlainChar c = true) : isSpacing c = false :=
  (Bool.or_eq_false_iff.mp (isGap_of_isPlainChar hc)).1

theorem endsPlain_of_isPlainChar {c : Char} (hc : isPlainChar c = true) (rest : Text) :
    endsPlain false c rest = false := by
  simp [endsPlain, ne_of_class hc (d := ':') rfl]

theorem isPlainChar_of_isDigit {c : Char} (h : c.isDigit = true) :
    isPlainChar c = true := by
  simp [isPlainChar, isNameChar, h]

theorem isBlank_of_isPlainChar {c : Char} (h : isPlainChar c = true) : isBlank c = false := by
  have hcode : c.toNat < 128 := by
    simp only [isPlainChar, isNameChar, Bool.or_eq_true, decide_eq_true_eq] at h
    rcases h with (((((h | h) | h) | h) | h) | h)
    · exact toNat_lt_of_isAlpha h
    · exact toNat_lt_of_isDigit h
    all_goals
      subst h
      decide
  have hall : ∀ n < 128, isPlainChar (Char.ofNat n) = true → isBlank (Char.ofNat n) = false := by
    decide
  have hofNat := hall c.toNat hcode
  rw [Char.ofNat_toNat] at hofNat
  exact hofNat h

/-! ### Places -/

theorem advance_succ (n : Nat) (c : Cursor) : c.advance (n + 1) = c.next.advance n := by
  induction n with
  | zero => rfl
  | succ n ih => exact congrArg Cursor.next ih

/-- The place behind a plain character: one further on the line, which `isFresh` no more. -/
theorem next_cons {c : Char} (hc : isPlainChar c = true) (rest : Text) (i l k : Nat) (fresh : Bool)
    (tab : Option Nat) :
    Cursor.next ⟨c :: rest, i, l, k, fresh, tab⟩ = ⟨rest, i + 1, l, k + 1, false, tab⟩ := by
  simp [Cursor.next, ne_of_class hc (d := '\n') rfl, isSpacing_of_isPlainChar hc]

/-- The place behind a word: `s.length` further on the line. -/
theorem advance_append {s : Text} (hs : IsPlainWord s) (rest : Text) (i l k : Nat) (fresh : Bool)
    (tab : Option Nat) :
    Cursor.advance s.length ⟨s ++ rest, i, l, k, fresh, tab⟩ =
      ⟨rest, i + s.length, l, k + s.length, false, tab⟩ := by
  have hchars := hs.isWord.2
  have hne := hs.isWord.1
  clear hs
  induction s generalizing i k fresh with
  | nil => exact absurd rfl hne
  | cons c s ih =>
    rw [List.length_cons, advance_succ, List.cons_append, next_cons (hchars c List.mem_cons_self)]
    by_cases hnil : s = []
    · subst hnil
      rfl
    · rw [ih _ _ _ (fun d hd => hchars d (List.mem_cons_of_mem c hd)) hnil]
      simp only [Cursor.mk.injEq, and_true, true_and]
      omega

/-- A word goes on as long as there are plain characters, up to a gap or an end by `endsPlain`. -/
theorem wordLength_append {s : Text} (hs : IsPlainWord s) {c : Char} {rest : Text}
    (hc : isGap c = true ∨ endsPlain false c rest = true) :
    wordLength false (s ++ c :: rest) = s.length := by
  have hchars := hs.isWord.2
  clear hs
  induction s with
  | nil =>
    rw [List.nil_append, wordLength, if_pos (by simpa using hc)]
    rfl
  | cons d s ih =>
    have hd := hchars d List.mem_cons_self
    rw [List.cons_append, wordLength, isGap_of_isPlainChar hd, endsPlain_of_isPlainChar hd,
      ih fun e he => hchars e (List.mem_cons_of_mem d he)]
    simp

/-- There is no gap in front of `d` if it belongs to none and begins no comment. -/
theorem skipGaps_eq_self {c : Cursor} {d : Char} {rest : Text} (hrest : c.rest = d :: rest)
    (hgap : isGap d = false) (hcomment : d ≠ '#') : c.skipGaps = c := by
  obtain ⟨hspacing, hline⟩ := Bool.or_eq_false_iff.mp hgap
  have hlength : gapLength isSpacing false c.rest = 0 := by
    rw [hrest, gapLength]
    simp [hcomment, hspacing, by simpa using hline]
  rw [Cursor.skipGaps, hlength]
  rfl

/-- A plain scalar is read up to a colon and a space behind it. -/
theorem readPlain_colon {s : Text} (hs : IsPlainWord s) {c : Cursor} {rest : Text}
    (hrest : c.rest = s ++ ':' :: ' ' :: rest)
    (hmark : (c.column = 0 && (atDocumentStart c.rest || atDocumentEnd c.rest)) = false)
    (column : Int) (fuel : Nat) :
    readPlain false column (fuel + 1) c = some (s, c.advance s.length) := by
  obtain ⟨d, word, rfl⟩ := List.exists_cons_of_ne_nil hs.isWord.1
  have hcomment := ne_of_class (hs.isWord.2 d List.mem_cons_self) (d := '#') rfl
  have hlength : wordLength false c.rest = (d :: word).length := by
    rw [hrest]
    exact wordLength_append hs (.inr rfl)
  have hafter : (c.advance (d :: word).length).rest = ':' :: ' ' :: rest := by
    obtain ⟨_, i, l, k, fresh, tab⟩ := c
    obtain rfl := hrest
    rw [advance_append hs]
  rw [readPlain, hmark, if_neg Bool.false_ne_true]
  split
  · next heq =>
    rw [hrest, List.cons_append] at heq
    exact absurd (List.cons.inj heq).1 hcomment
  · simp only [hlength, hafter, Bool.false_and, if_neg Bool.false_ne_true]
    rw [hrest, List.take_left]
    rfl

/-- A plain scalar does not go on after a line end if `rest` is not indented. -/
theorem skipPlainGap_lineEnd {rest : Text} (hrest : StartsOutside isGap rest) (column : Int)
    (i l k : Nat) (fresh : Bool) (tab : Option Nat) :
    skipPlainGap column ('\n' :: rest).length ⟨'\n' :: rest, i, l, k, fresh, tab⟩ =
      some { rest := rest, index := i + 1, line := l + 1 } := by
  have hnext : Cursor.next ⟨'\n' :: rest, i, l, k, fresh, tab⟩ =
      { rest := rest, index := i + 1, line := l + 1 } := rfl
  have hstop : skipPlainGap column rest.length { rest := rest, index := i + 1, line := l + 1 } =
      some { rest := rest, index := i + 1, line := l + 1 } := by
    cases rest with
    | nil => rfl
    | cons c rest => rw [List.length_cons, skipPlainGap, hrest, if_neg Bool.false_ne_true]
  rw [List.length_cons, skipPlainGap, hnext, hstop]
  rfl

/-- A plain scalar is read up to a line end behind it, if the next line is not indented as far as
`column`. -/
theorem readPlain_lineEnd {s : Text} (hs : IsPlainWord s) {c : Cursor} {rest : Text}
    (hrest : c.rest = s ++ '\n' :: rest) (hnext : StartsOutside isGap rest)
    (hmark : c.column ≠ 0) (column : Int) (hcolumn : 0 < column) (fuel : Nat) :
    readPlain false column (fuel + 1) c =
      some (s, { rest := rest, index := c.index + s.length + 1, line := c.line + 1 }) := by
  obtain ⟨d, word, rfl⟩ := List.exists_cons_of_ne_nil hs.isWord.1
  have hcomment := ne_of_class (hs.isWord.2 d List.mem_cons_self) (d := '#') rfl
  have hlength : wordLength false c.rest = (d :: word).length := by
    rw [hrest]
    exact wordLength_append hs (.inl rfl)
  obtain ⟨_, i, l, k, fresh, tab⟩ := c
  obtain rfl := hrest
  have hgap : ('\n' :: rest : Text).head?.any isGap = true := rfl
  have hout : ((0 : Nat) : Int) < column := hcolumn
  rw [readPlain, if_neg (by simp [hmark])]
  split
  · next heq =>
    rw [List.cons_append] at heq
    exact absurd (List.cons.inj heq).1 hcomment
  · simp only [hlength, advance_append hs, Bool.false_and, if_neg Bool.false_ne_true,
      skipPlainGap_lineEnd hnext, List.take_left, hgap, hout, Bool.not_true, Bool.not_false,
      Bool.true_and, decide_true, if_true]

namespace Layout

/-! ### Pieces -/

/-- A plain character begins a plain scalar, so `piece?` is `plain?` there. -/
theorem piece?_of_isPlainChar {s : Layout} {c : Char} {rest : Text}
    (hrest : s.cursor.rest = c :: rest) (hc : isPlainChar c = true)
    (hitem : (c = '-' && atGap rest) = false) : s.piece? = s.plain? := by
  have hne {d : Char} (hd : isPlainChar d = false) : c ≠ d := ne_of_class hc hd
  rw [piece?, hrest]
  -- every other piece begins with a mark, and no mark is a plain character
  simp only [hitem, hne (d := '[') rfl, hne (d := '{') rfl, hne (d := ']') rfl, hne (d := '}') rfl,
    hne (d := ',') rfl, hne (d := '?') rfl, hne (d := ':') rfl, hne (d := '*') rfl,
    hne (d := '&') rfl, hne (d := '!') rfl, hne (d := '|') rfl, hne (d := '>') rfl,
    hne (d := '"') rfl, hne (d := '\u0027') rfl, hne (d := '%') rfl, hne (d := '@') rfl,
    hne (d := '\u0060') rfl, hne (d := byteOrderMark) rfl, decide_false, Bool.false_and,
    Bool.or_false, if_false, Bool.false_eq_true]

/-- A `step` takes the piece behind the gaps. At the beginning of a line it must not be a mark for a
document or a directive. -/
theorem step_of_piece? {s t next : Layout} {c : Char} {rest : Text}
    (hgaps : s.skipGaps?.bind dropStale? = some t) (hclose : t.closeBeyond t.cursor.column = t)
    (hrest : t.cursor.rest = c :: rest)
    (hmark : t.cursor.column = 0 → c ≠ '%' ∧ c ≠ '-' ∧ c ≠ '.')
    (hcolumn : t.column ≤ t.cursor.column) (hpiece : t.piece? = some next) :
    s.step = .more next := by
  have hzero {b : Bool} (hb : t.cursor.column = 0 → b = false) :
      (t.cursor.column = 0 && b) = false := by
    by_cases h : t.cursor.column = 0
    · simp [hb h]
    · simp [h]
  have hdirective : (t.cursor.column = 0 && (c :: rest).head? = some '%') = false :=
    hzero fun h => by simp [(hmark h).1]
  have hstart : (t.cursor.column = 0 && atDocumentStart (c :: rest)) = false :=
    hzero fun h => by simp [atDocumentStart, (hmark h).2.1]
  have hend : (t.cursor.column = 0 && atDocumentEnd (c :: rest)) = false :=
    hzero fun h => by simp [atDocumentEnd, (hmark h).2.2]
  have hfar : t.isTooFarOut = false := by
    simp [isTooFarOut, Int.not_lt.mpr hcolumn]
  rw [step, hgaps]
  simp only [hclose, hrest, hdirective, hstart, hend, hfar, hpiece, List.isEmpty_cons,
    Bool.false_eq_true, if_false]

/-! ### Names -/

/-- What is open when a line begins: the mapping, except on the first line (`isOpen`). -/
def openLevels (isOpen : Bool) : List Level := if isOpen then [⟨0, true⟩] else []

/-- The layout at the beginning of a line, with `rest` to be read and `tokens` read so far. -/
def atLine (isOpen : Bool) (tokens : List Token) (i l : Nat) (rest : Text) : Layout :=
  { cursor := { rest := rest, index := i, line := l }
    tokens := tokens
    levels := openLevels isOpen }

/-- The layout behind a `name` with which a line begins, before its colon. The place before the name
is the `candidate`. -/
def atColon (isOpen : Bool) (tokens : List Token) (i l : Nat) (name rest : Text) : Layout :=
  { cursor := ⟨rest, i + name.length, l, name.length, false, none⟩
    tokens := .scalar name true :: tokens
    levels := openLevels isOpen
    candidate := some
      { token := tokens.length
        index := i
        line := l
        column := 0
        isRequired := isOpen
        afterTab := false }
    keyAllowed := false }

/-- The `name` is read, and the place before it is remembered: `plain?` leads from `atLine` to
`atColon`. -/
theorem plain?_atLine {name : Text} (hname : IsPlainWord name)
    (hbegins : name.head?.any Char.isAlpha = true) (isOpen : Bool) (tokens : List Token)
    (i l : Nat) (rest : Text) :
    (atLine isOpen tokens i l (name ++ ':' :: ' ' :: rest)).plain? =
      some (atColon isOpen tokens i l name (':' :: ' ' :: rest)) := by
  have hmark : (atDocumentStart (name ++ ':' :: ' ' :: rest) ||
      atDocumentEnd (name ++ ':' :: ' ' :: rest)) = false := by
    obtain ⟨c, word, rfl⟩ := List.exists_cons_of_ne_nil hname.isWord.1
    have hhyphen : c ≠ '-' := ne_of_class (p := Char.isAlpha) hbegins rfl
    have hpoint : c ≠ '.' := ne_of_class (p := Char.isAlpha) hbegins rfl
    simp [atDocumentStart, atDocumentEnd, hhyphen, hpoint]
  have hread := readPlain_colon hname
    (c := { rest := name ++ ':' :: ' ' :: rest, index := i, line := l }) rfl hmark
  rw [advance_append hname] at hread
  cases isOpen <;>
    simp [plain?, markCandidate, dropValueLevels, inFlow, column, push, atLine, atColon, openLevels,
      hread]

theorem step_atLine {name : Text} (hname : IsPlainWord name)
    (hbegins : name.head?.any Char.isAlpha = true) (isOpen : Bool) (tokens : List Token)
    (i l : Nat) (rest : Text) :
    (atLine isOpen tokens i l (name ++ ':' :: ' ' :: rest)).step =
      .more (atColon isOpen tokens i l name (':' :: ' ' :: rest)) := by
  have hplain := plain?_atLine hname hbegins isOpen tokens i l rest
  obtain ⟨c, word, rfl⟩ := List.exists_cons_of_ne_nil hname.isWord.1
  have hc := hname.isWord.2 c List.mem_cons_self
  have hhyphen : c ≠ '-' := ne_of_class (p := Char.isAlpha) hbegins rfl
  have hpoint : c ≠ '.' := ne_of_class (p := Char.isAlpha) hbegins rfl
  have hgaps : Cursor.skipGaps { rest := c :: word ++ ':' :: ' ' :: rest, index := i, line := l } =
      { rest := c :: word ++ ':' :: ' ' :: rest, index := i, line := l } :=
    skipGaps_eq_self rfl (isGap_of_isPlainChar hc) (ne_of_class hc rfl)
  -- there is no gap before the name, and no collection is indented further than column zero
  refine step_of_piece? (t := atLine isOpen tokens i l (c :: word ++ ':' :: ' ' :: rest))
    ?_ ?_ rfl ?_ ?_ ?_
  · simp only [skipGaps?, atLine, hgaps]
    simp [Cursor.hasTabBefore, dropStale?]
  · cases isOpen <;> simp [closeBeyond, inFlow, atLine, openLevels]
  · exact fun _ => ⟨ne_of_class hc rfl, hhyphen, hpoint⟩
  · cases isOpen <;> simp [column, atLine, openLevels]
  · rw [piece?_of_isPlainChar rfl hc (by simp [hhyphen]), hplain]

/-! ### Colons -/

/-- The layout behind the colon, where the value must be indented. -/
def atValue (tokens : List Token) (i l k : Nat) (rest : Text) : Layout :=
  { cursor := ⟨rest, i, l, k, false, none⟩
    tokens := .value :: tokens
    levels := [⟨1, false⟩, ⟨0, true⟩]
    keyAllowed := false }

/-- The `tokens` with `blockMapping` behind them, if the mapping begins only now. -/
def openTokens (isOpen : Bool) (tokens : List Token) : List Token :=
  if isOpen then tokens else .blockMapping :: tokens

/-- What began at the `candidate` was a key: `value?` puts a `key` in front of the name, and on the
first line begins the mapping. -/
theorem value?_atColon (name : Text) (isOpen : Bool) (tokens : List Token) (i l : Nat)
    (rest : Text) :
    (atColon isOpen tokens i l name (':' :: ' ' :: rest)).value? =
      some (atValue (.scalar name true :: .key :: openTokens isOpen tokens) (i + name.length + 1) l
        (name.length + 1) (' ' :: rest)) := by
  have hspace : (List.takeWhile isSpacing (' ' :: rest)).head? = some ' ' := rfl
  have hnext : Cursor.next ⟨':' :: ' ' :: rest, i + name.length, l, name.length, false, none⟩ =
      ⟨' ' :: rest, i + name.length + 1, l, name.length + 1, false, none⟩ := rfl
  -- the token for the key, and on the first line that for the mapping, go behind the old tokens
  have hlater : tokens.length + 1 + 1 - tokens.length = 2 := by omega
  cases isOpen <;>
    simp [value?, atColon, atValue, openLevels, openTokens, beginMember, noticesMember, inFlow,
      column, openBlock?, indentValue, push, insert, hnext, hspace, hlater]

theorem step_atColon {name : Text} (hname : IsPlainWord name) (hlength : name.length ≤ keyLimit)
    (isOpen : Bool) (tokens : List Token) (i l : Nat) (rest : Text) :
    (atColon isOpen tokens i l name (':' :: ' ' :: rest)).step =
      .more (atValue (.scalar name true :: .key :: openTokens isOpen tokens) (i + name.length + 1) l
        (name.length + 1) (' ' :: rest)) := by
  have hpositive : 0 < name.length := List.length_pos_iff.mpr hname.isWord.1
  have hgaps : Cursor.skipGaps ⟨':' :: ' ' :: rest, i + name.length, l, name.length, false, none⟩ =
      ⟨':' :: ' ' :: rest, i + name.length, l, name.length, false, none⟩ :=
    skipGaps_eq_self rfl (by decide) (by decide)
  refine step_of_piece? (t := atColon isOpen tokens i l name (':' :: ' ' :: rest))
    ?_ ?_ rfl ?_ ?_ ?_
  · simp only [skipGaps?, atColon, hgaps]
    simp [Cursor.hasTabBefore, dropStale?, isStale, Nat.not_lt.mpr hlength]
  · cases isOpen <;> simp [closeBeyond, inFlow, atColon, openLevels]
  · exact fun _ => by decide
  · cases isOpen <;> simp [column, atColon, openLevels]
  · rw [piece?]
    simp [atColon, atGap, isGap, isSpacing, ← value?_atColon]

/-! ### Values -/

/-- The layout before the value, behind the space. -/
def atWord (tokens : List Token) (i l k : Nat) (rest : Text) : Layout :=
  { atValue tokens i l k rest with cursor := ⟨rest, i + 1, l, k + 1, false, none⟩ }

/-- The value is read, and with the line it ends what belongs to the name: `plain?` leads from
`atWord` to `atLine`. -/
theorem plain?_atWord {value : Text} (hvalue : IsPlainWord value) {rest : Text}
    (hnext : StartsOutside isGap rest) (tokens : List Token) (i l k : Nat) :
    (atWord tokens i l k (value ++ '\n' :: rest)).plain? =
      some (atLine true (.scalar value true :: .value :: tokens) (i + 1 + value.length + 1) (l + 1)
        rest) := by
  have hread := readPlain_lineEnd hvalue
    (c := ⟨value ++ '\n' :: rest, i + 1, l, k + 1, false, none⟩) rfl hnext (Nat.succ_ne_zero k)
    1 Int.one_pos
  simp [plain?, markCandidate, dropValueLevels, inFlow, column, push, atValue, atWord, atLine,
    openLevels, hread]

theorem step_atValue {value : Text} (hvalue : IsPlainWord value) {rest : Text}
    (hnext : StartsOutside isGap rest) (tokens : List Token) (i l k : Nat) :
    (atValue tokens i l k (' ' :: (value ++ '\n' :: rest))).step =
      .more (atLine true (.scalar value true :: .value :: tokens) (i + 1 + value.length + 1) (l + 1)
        rest) := by
  have hplain := plain?_atWord hvalue hnext tokens i l k
  have hword := hvalue.ne_hyphen
  obtain ⟨c, word, rfl⟩ := List.exists_cons_of_ne_nil hvalue.isWord.1
  have hc := hvalue.isWord.2 c List.mem_cons_self
  -- a minus sign is no item, because the value goes on after it
  have hitem : (c = '-' && atGap (word ++ '\n' :: rest)) = false := by
    cases word with
    | nil =>
      have hhyphen : c ≠ '-' := by simpa using hword
      simp [hhyphen]
    | cons d word =>
      have hd := hvalue.isWord.2 d (by simp)
      simp [atGap, isGap_of_isPlainChar hd]
  have hgaps : Cursor.skipGaps ⟨' ' :: (c :: word ++ '\n' :: rest), i, l, k, false, none⟩ =
      ⟨c :: word ++ '\n' :: rest, i + 1, l, k + 1, false, none⟩ := by
    have hlength : gapLength isSpacing false (' ' :: (c :: word ++ '\n' :: rest)) = 1 := by
      have hspace : isSpacing ' ' = true := rfl
      simp [gapLength, isSpacing_of_isPlainChar hc, ne_of_class hc (d := '#') rfl,
        ne_of_class hc (d := '\n') rfl, hspace]
    rw [Cursor.skipGaps, hlength]
    rfl
  refine step_of_piece? (t := atWord tokens i l k (c :: word ++ '\n' :: rest))
    ?_ ?_ rfl ?_ ?_ ?_
  · simp only [skipGaps?, atValue, hgaps]
    simp [Cursor.hasTabBefore, dropStale?, atWord, atValue]
  · -- the value is indented by at least the one column that it must be
    have hinner : ¬ ((k : Int) + 1 < 1) := by omega
    simp [closeBeyond, inFlow, atWord, atValue, hinner]
  · exact fun h => absurd h (Nat.succ_ne_zero k)
  · simp only [column, atWord, atValue, List.head?_cons, Option.map_some, Option.getD_some]
    omega
  · rw [piece?_of_isPlainChar rfl hc hitem, hplain]

/-! ### Lines -/

theorem run_of_step {s next : Layout} (h : s.step = .more next) (fuel : Nat) :
    run (fuel + 1) s = run fuel next := by
  rw [run, h]

/-- A line is taken apart in three steps: `step_atLine`, `step_atColon` and `step_atValue`. -/
theorem run_line {m : Text × Text} (hm : IsPlainMember m) {rest : Text}
    (hnext : StartsOutside isGap rest) (isOpen : Bool) (tokens : List Token) (i l fuel : Nat) :
    ∃ j, run (fuel + 3) (atLine isOpen tokens i l (memberLine m ++ rest)) =
      run fuel (atLine true
        (.scalar m.2 true :: .value :: .scalar m.1 true :: .key :: openTokens isOpen tokens)
        j (l + 1) rest) := by
  have hline : memberLine m ++ rest = m.1 ++ ':' :: ' ' :: (m.2 ++ '\n' :: rest) := by
    simp [memberLine]
  rw [hline, run_of_step (step_atLine hm.name hm.begins isOpen tokens i l _),
    run_of_step (step_atColon hm.name hm.length_le isOpen tokens i l _),
    run_of_step (step_atValue hm.value hnext _ _ l _)]
  exact ⟨_, rfl⟩

/-- At the end of the text the mapping ends with `blockEnd` and the text with `finish`. -/
theorem run_end (tokens : List Token) (i l fuel : Nat) :
    run (fuel + 1) (atLine true tokens i l []) = (.finish :: .blockEnd :: tokens).reverse := by
  have hgaps : Cursor.skipGaps { rest := [], index := i, line := l } =
      { rest := [], index := i, line := l } := rfl
  have hstep : (atLine true tokens i l []).step =
      .finished { atLine true (.finish :: .blockEnd :: tokens) i l [] with levels := [] } := by
    simp [step, skipGaps?, hgaps, dropStale?, dropCandidate?, finish?, closeBeyond, inFlow, push,
      atLine, openLevels]
  rw [run, hstep]
  rfl

theorem startsOutside_mappingText {members : List (Text × Text)}
    (h : ∀ m ∈ members, IsPlainMember m) : StartsOutside isGap (mappingText members) := by
  cases members with
  | nil => rfl
  | cons m rest =>
    have hname := (h m List.mem_cons_self).name
    obtain ⟨c, word, hword⟩ := List.exists_cons_of_ne_nil hname.isWord.1
    have hc := hname.isWord.2 c (hword ▸ List.mem_cons_self)
    rw [mappingText, List.flatMap_cons, memberLine, hword]
    exact isGap_of_isPlainChar hc

/-- The lines of an open mapping are taken apart one after another by `run_line`. -/
theorem run_mappingText {members : List (Text × Text)} (h : ∀ m ∈ members, IsPlainMember m)
    (tokens : List Token) (i l : Nat) {fuel : Nat} (hfuel : 3 * members.length < fuel) :
    run fuel (atLine true tokens i l (mappingText members)) =
      tokens.reverse ++ members.flatMap memberTokens ++ [.blockEnd, .finish] := by
  -- what a line leaves behind is the beginning of a line again, with four tokens more
  induction members generalizing tokens i l fuel with
  | nil =>
    obtain ⟨n, rfl⟩ := Nat.exists_eq_succ_of_ne_zero (Nat.ne_of_gt hfuel)
    rw [mappingText, List.flatMap_nil, run_end]
    simp
  | cons m rest ih =>
    obtain ⟨hm, hrest⟩ := List.forall_mem_cons.mp h
    rw [List.length_cons] at hfuel
    obtain ⟨n, rfl⟩ : ∃ n, fuel = n + 3 := ⟨fuel - 3, by omega⟩
    obtain ⟨j, hj⟩ := run_line hm (startsOutside_mappingText hrest) true tokens i l n
    rw [mappingText, List.flatMap_cons, ← mappingText, hj, ih hrest _ _ _ (by omega)]
    simp [memberTokens, openTokens]

end Layout

/-! ### Texts -/

/-- A text without carriage returns has its line ends in order, and `joinLineEnds` leaves it as it
is. -/
theorem joinLineEnds_eq_self {s : Text} (h : '\r' ∉ s) : joinLineEnds s = s := by
  fun_induction joinLineEnds s with
  | case1 => rfl
  | case2 rest ih => exact absurd List.mem_cons_self h
  | case3 c rest _ ih =>
    rw [List.mem_cons, not_or] at h
    rw [ih h.2, if_neg (Ne.symm h.1)]

theorem dropByteOrderMark_eq_self {s : Text} (h : byteOrderMark ∉ s) : dropByteOrderMark s = s := by
  cases s with
  | nil => rfl
  | cons c rest =>
    have hc : c ≠ byteOrderMark := by
      rintro rfl
      exact h List.mem_cons_self
    rw [dropByteOrderMark, if_neg hc]

/-- A character of `mappingText members` is plain, a colon, a space or a line feed. -/
theorem of_mem_mappingText {members : List (Text × Text)} (h : ∀ m ∈ members, IsPlainMember m)
    {c : Char} (hc : c ∈ mappingText members) :
    isPlainChar c = true ∨ c = ':' ∨ c = ' ' ∨ c = '\n' := by
  obtain ⟨m, hm, hc⟩ := List.mem_flatMap.mp hc
  simp only [memberLine, List.mem_append, List.mem_cons, List.not_mem_nil, or_false] at hc
  rcases hc with hc | hc | hc | hc | hc
  · exact .inl ((h m hm).name.isWord.2 c hc)
  · exact .inr (.inl hc)
  · exact .inr (.inr (.inl hc))
  · exact .inl ((h m hm).value.isWord.2 c hc)
  · exact .inr (.inr (.inr hc))

/-- A line has at least three characters, so the fuel of `tokens` is enough for
`run_mappingText`. -/
theorem length_mappingText {members : List (Text × Text)} (h : ∀ m ∈ members, IsPlainMember m) :
    3 * members.length ≤ (mappingText members).length := by
  induction members with
  | nil => exact Nat.le_refl 0
  | cons m rest ih =>
    have hrest := ih (List.forall_mem_cons.mp h).2
    rw [mappingText, List.flatMap_cons, ← mappingText, List.length_append, memberLine]
    simp only [List.length_append, List.length_cons, List.length_nil]
    omega

/-- The tokens of `mappingText members` are those of a block mapping with the `memberTokens` of
each. -/
theorem tokens_mappingText {members : List (Text × Text)} (h : ∀ m ∈ members, IsPlainMember m)
    (hne : members ≠ []) :
    tokens (mappingText members) =
      .blockMapping :: (members.flatMap memberTokens ++ [.blockEnd, .finish]) := by
  have hmem {d : Char} (hplain : isPlainChar d = false) (hd : d ≠ ':' ∧ d ≠ ' ' ∧ d ≠ '\n') :
      d ∉ mappingText members := by
    intro hmem
    rcases of_mem_mappingText h hmem with hc | hc | hc | hc
    · exact ne_of_class hc hplain rfl
    · exact hd.1 hc
    · exact hd.2.1 hc
    · exact hd.2.2 hc
  have hmark : byteOrderMark ∉ mappingText members := hmem rfl (by decide)
  have hreturn : '\r' ∉ mappingText members := hmem rfl (by decide)
  have hnull : (mappingText members).takeWhile (· ≠ '\x00') = mappingText members := by
    refine List.takeWhile_eq_self_iff.mpr ?_
    intro c hc
    rw [decide_eq_true_eq]
    rintro rfl
    exact hmem rfl (by decide) hc
  have hlength := length_mappingText h
  rw [tokens, dropByteOrderMark_eq_self hmark, dropByteOrderMark_eq_self hmark, hnull,
    joinLineEnds_eq_self hreturn]
  -- the first line begins the mapping, so it is not like the others
  obtain ⟨m, rest, rfl⟩ := List.exists_cons_of_ne_nil hne
  obtain ⟨hm, hrest⟩ := List.forall_mem_cons.mp h
  rw [List.length_cons] at hlength
  obtain ⟨n, hn⟩ : ∃ n, (mappingText (m :: rest)).length + 1 = n + 3 :=
    ⟨(mappingText (m :: rest)).length - 2, by omega⟩
  obtain ⟨j, hj⟩ := Layout.run_line hm (Layout.startsOutside_mappingText hrest) false [] 0 0 n
  rw [hn, mappingText, List.flatMap_cons, ← mappingText]
  refine hj.trans ?_
  rw [Layout.run_mappingText hrest _ _ _ (by omega)]
  simp [memberTokens, Layout.openTokens]

end MathNotes.Yaml
