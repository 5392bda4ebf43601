import MathNotes.Proofs.Sanitize.Normal

/-!
# A reader of tidy markup

Cleaning removes what stands in few characters one after another, so one reader, which remembers in
a `Stage` what the last characters were, can see all of it coming. It refuses more than cleaning
removes: every slash, so that there is no differential, and whatever might become a command of the
editor. Text that it reads to the end is normal (`isNormal_of_read_eq_some`), and what is read in
pieces is read whole (`read_append_of_eq_some`).
-/

namespace MathNotes.Sanitize

open Text

/-- What the reader remembers of what it has read. -/
inductive Stage where
  /-- Nothing has been read. -/
  | start
  | blank
  | text
  | separator
  /-- A script mark was read. -/
  | script
  /-- A script mark and the brace that begins its group were read. -/
  | scriptGroup
  /-- A backslash was read, and it may have been the first character of all. -/
  | command (first : Bool)
  /-- A backslash and the letter c were read. -/
  | commandC
  deriving DecidableEq

namespace Stage

/-- The characters that would make something cleaning removes of what was read. -/
def refused : Stage → List Char
  | start => [' ', '&']
  | blank => [' ']
  | scriptGroup => [' ', '}']
  | command true => ['\\', 'p']
  | command false => ['p']
  | commandC => ['a', 'u']
  | _ => []

/-- The characters that are read at no `Stage`: the slash and those of zero width. -/
def alwaysRefused : List Char := ['/', '\u200b', '\u2060', '\ufeff']

/-- Whether the reader goes on from the stage `q` with `c`: neither `refused` nor `alwaysRefused`,
and no blank but the space. -/
def admits (q : Stage) (c : Char) : Bool :=
  !q.refused.contains c && !alwaysRefused.contains c && (c = ' ' || !isBlank c)

/-- The stage after `c`, which depends on the stage `q` before it only where two characters make a
command or a group of a script. -/
def after (q : Stage) (c : Char) : Stage :=
  match c with
  | ' ' => .blank
  | '&' => .separator
  | '\\' => .command (q = .start)
  | '_' => .script
  | '^' => .script
  | '{' => if q = .script then .scriptGroup else .text
  | 'c' =>
    match q with
    | .command _ => .commandC
    | _ => .text
  | _ => .text

/-- Whether the name of a command is being read. -/
def isCommand : Stage → Bool
  | command _ => true
  | commandC => true
  | _ => false

end Stage

open Stage

/-- The stage after a text, from `q` on, if the reader gets to its end. -/
def read (q : Stage) : Text → Option Stage
  | [] => some q
  | c :: s => if q.admits c then read (q.after c) s else none

/-! ### Reading in pieces -/

theorem read_append (q : Stage) (s t : Text) : read q (s ++ t) = (read q s).bind (read · t) := by
  induction s generalizing q with
  | nil => rfl
  | cons c s ih =>
    rw [List.cons_append, read, read]
    split
    · exact ih _
    · rfl

/-- After a text `s` that is read, reading goes on at the stage `r` where that ended. -/
theorem read_append_of_eq_some {q r : Stage} {s : Text} (h : read q s = some r) (t : Text) :
    read q (s ++ t) = read r t := by
  rw [read_append, h, Option.bind_some]

theorem exists_of_read_append_eq_some {q r : Stage} {s t : Text} (h : read q (s ++ t) = some r) :
    ∃ p, read q s = some p ∧ read p t = some r := by
  rw [read_append] at h
  exact Option.bind_eq_some_iff.mp h

theorem read_cons_eq_some {q r : Stage} {c : Char} {s : Text} (h : read q (c :: s) = some r) :
    q.admits c = true ∧ read (q.after c) s = some r := by
  rw [read] at h
  split at h
  · next hc => exact ⟨hc, h⟩
  · cases h

/-- The stage `r` at the end of `s ++ [c]` is `p.after c` for some stage `p` that admits `c`. -/
theorem exists_of_read_concat_eq_some {q r : Stage} {s : Text} {c : Char}
    (h : read q (s ++ [c]) = some r) : ∃ p : Stage, p.admits c = true ∧ r = p.after c := by
  obtain ⟨p, -, hp⟩ := exists_of_read_append_eq_some h
  obtain ⟨hc, hr⟩ := read_cons_eq_some hp
  exact ⟨p, hc, (Option.some.inj hr).symm⟩

/-! ### What is not read -/

/-- A `word` that is read from no stage stands nowhere in a text that is read. -/
theorem not_infix_of_read_eq_some {word s : Text} {q r : Stage} (hword : ∀ p, read p word = none)
    (h : read q s = some r) : ¬ word <:+: s := by
  rintro ⟨before, after, rfl⟩
  obtain ⟨p, hp, -⟩ := exists_of_read_append_eq_some h
  obtain ⟨p', -, hp'⟩ := exists_of_read_append_eq_some hp
  rw [hword] at hp'
  cases hp'

theorem read_eq_none_of_mem_scaffoldingTokens {token : Text} (h : token ∈ scaffoldingTokens)
    (q : Stage) : read q token = none := by
  have hall : ∀ token ∈ scaffoldingTokens, read q token = none := by
    cases q with
    | command first => cases first <;> decide
    | _ => decide
  exact hall token h

/-- The only blank that `admits` lets through is the space, whatever the stage `q` is. -/
theorem eq_space_of_admits {q : Stage} {c : Char} (h : q.admits c = true) (hc : isBlank c = true) :
    c = ' ' := by
  rw [admits, hc, Bool.not_true, Bool.or_false] at h
  exact of_decide_eq_true ((Bool.and_eq_true _ _).mp h).2

theorem isBlank_eq_false_of_admits {q : Stage} {c : Char} (hq : q.admits ' ' = false)
    (h : q.admits c = true) : isBlank c = false := by
  rw [Bool.eq_false_iff]
  intro hc
  rw [eq_space_of_admits h hc, hq] at h
  cases h

theorem read_eq_none_of_isEmptyScript {word : Text} (h : IsEmptyScript word) (q : Stage) :
    read q word = none := by
  obtain ⟨mark, inner, hmark, hinner, rfl⟩ := h
  cases hread : read q (mark :: group inner) with
  | none => rfl
  | some r =>
    exfalso
    have hscript : q.after mark = .script := by
      rcases hmark with rfl | rfl <;> rfl
    obtain ⟨-, hgroup⟩ := read_cons_eq_some hread
    rw [hscript] at hgroup
    obtain ⟨-, hinside⟩ := read_cons_eq_some hgroup
    -- in the group stands a blank or the brace that ends it
    cases inner with
    | nil => exact absurd (read_cons_eq_some hinside).1 (by decide)
    | cons c inner =>
      have hc : isBlank c = false :=
        isBlank_eq_false_of_admits (by decide) (read_cons_eq_some hinside).1
      rw [hinner c (List.mem_cons_self ..)] at hc
      cases hc

/-- Every blank of a text that is read stands alone and is a space, since `blank` refuses the
space. -/
theorem isSpacedOut_of_read_eq_some {s : Text} (h : read .start s = some .text) :
    IsSpacedOut s := by
  rintro before c after rfl hc
  obtain ⟨p, hbefore, hafter⟩ := exists_of_read_append_eq_some h
  obtain ⟨hadmits, hafter⟩ := read_cons_eq_some hafter
  obtain rfl := eq_space_of_admits hadmits hc
  have hfront : ∃ a, before.getLast? = some a ∧ isBlank a = false := by
    rcases List.eq_nil_or_concat' before with rfl | ⟨front, a, rfl⟩
    · obtain rfl := Option.some.inj hbefore
      exact absurd hadmits (by decide)
    · refine ⟨a, List.getLast?_concat, ?_⟩
      obtain ⟨p', ha, rfl⟩ := exists_of_read_concat_eq_some hbefore
      rw [Bool.eq_false_iff]
      intro hblank
      obtain rfl := eq_space_of_admits ha hblank
      exact Bool.false_ne_true hadmits
  have hback : ∃ b, after.head? = some b ∧ isBlank b = false := by
    cases after with
    | nil => cases hafter
    | cons b after =>
      exact ⟨b, rfl, isBlank_eq_false_of_admits rfl (read_cons_eq_some hafter).1⟩
  obtain ⟨a, ha, hblanka⟩ := hfront
  obtain ⟨b, hb, hblankb⟩ := hback
  exact ⟨rfl, a, b, ha, hb, hblanka, hblankb⟩

/-- **Tidy markup is normal.** A text `s` that is read from `start` to `text`, so that it ends in
neither a blank nor a separator nor within a command, is normal: `read .start s = some .text` gives
`IsNormal s`. -/
theorem isNormal_of_read_eq_some {s : Text} (h : read .start s = some .text) : IsNormal s where
  no_scaffolding token htoken :=
    not_infix_of_read_eq_some (read_eq_none_of_mem_scaffoldingTokens htoken) h
  no_empty_script word hword := not_infix_of_read_eq_some (read_eq_none_of_isEmptyScript hword) h
  no_differential := by
    rintro before word after rfl ⟨f, v, -, -, -, rfl⟩
    have hslash : ∀ q, read q ['/'] = none := by
      intro q
      cases q with
      | command first => cases first <;> rfl
      | _ => rfl
    refine absurd ⟨before ++ 'd' :: f, 'd' :: v :: after, ?_⟩ (not_infix_of_read_eq_some hslash h)
    simp
  isSpacedOut := isSpacedOut_of_read_eq_some h
  no_column_mark := by
    rintro ⟨after, rfl⟩
    exact absurd (read_cons_eq_some h).1 (by decide)
  no_row_mark := by
    rintro ⟨after, rfl⟩
    exact absurd (read_cons_eq_some (read_cons_eq_some h).2).1 (by decide)
  no_row_mark_end := by
    rintro ⟨before, rfl⟩
    rw [rowMark, List.append_cons] at h
    obtain ⟨p, -, hp⟩ := exists_of_read_concat_eq_some h
    cases hp
  no_column_mark_end := by
    rintro before rfl
    obtain ⟨p, -, hp⟩ := exists_of_read_concat_eq_some h
    cases hp

end MathNotes.Sanitize
