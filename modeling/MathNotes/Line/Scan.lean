import MathNotes.Line.Basic

/-!
# Scanning a line by offsets

A line is stored in bytes, and it can be read without its characters being looked at. The `scan`
goes through the stored units one at a time. It compares each with those of the brackets and the
blanks and with no others, and what stands between two of these is cut out by its offsets. Text
cannot be cut at an offset behind the end or inside a character; a scan that tries has no result.

The scan is written for units of any kind (`Source`), so that it can be run over the bytes of a line
and over its characters. It records what it does at which offset (`Event`).

It ends because whatever it reads ends further on than it began (`lt_of_gives_row`,
`lt_of_gives_rows`, `lt_of_gives_opening`). `rows_eq` and `scanFrom_eq` say what its loops do
without a mention of that.
-/

namespace MathNotes.Line

/-- A text as it is stored, in units of the type `α`. -/
structure Source (α : Type) where
  /-- The units in order. -/
  units : Array α
  /-- The unit that an ASCII character is stored as. -/
  ascii : Char → α
  /-- The text between two offsets, if it can be cut at both and the second is not before the
  first. -/
  slice? : Nat → Nat → Option Text

/-- What a scan does at some offset. -/
inductive Event where
  /-- It looks for the next bracket from `pos` on. The text from `start` on is not an element
  yet. -/
  | search (start pos : Nat)
  /-- It finds a bracket at `pos`. -/
  | bracket (pos : Nat)
  /-- It cuts the text from `start` to `stop`. -/
  | cut (start stop : Nat)
  /-- It comes to the end of a literal, behind which `pos` is. -/
  | close (pos : Nat)
  deriving DecidableEq

namespace Event

/-- The offsets at which something is done in an `Event`. -/
def offsets : Event → List Nat
  | search start pos => [start, pos]
  | bracket pos => [pos]
  | cut start stop => [start, stop]
  | close pos => [pos]

/-- The offset where a search begins, if the event is one. -/
def searched? : Event → Option Nat
  | search _ pos => some pos
  | _ => none

end Event

/-- A scan under way: it records its `Event`s, the last first, and it may have no result. -/
abbrev Scan := StateT (List Event) Option

/-- Record the event `e`. -/
def record (e : Event) : Scan Unit := modify (e :: ·)

namespace Scan

variable {β γ : Type}

/-- Some run of the scan `x` has the result `b`. -/
def Gives (x : Scan β) (b : β) : Prop := ∃ log later, x.run log = some (b, later)

theorem gives_of_run_eq {x : Scan β} {b : β} {log later : List Event}
    (h : x.run log = some (b, later)) : Gives x b := ⟨log, later, h⟩

/-- The scan `x` with its result as one that it gives, which is what the loops need to see that they
end. -/
def attach (x : Scan β) : Scan {b // Gives x b} := fun log =>
  match h : x.run log with
  | some (b, later) => some (⟨b, gives_of_run_eq h⟩, later)
  | none => none

/-- What goes on with the result of `x` does not depend on how the result is known to be one. -/
theorem attach_bind {x : Scan β} {f : β → Scan γ} {g : {b // Gives x b} → Scan γ}
    (h : ∀ b hb, g ⟨b, hb⟩ = f b) : attach x >>= g = x >>= f := by
  refine StateT.ext fun log => ?_
  rw [StateT.run_bind, StateT.run_bind, StateT.run, attach]
  split
  · next b later hrun =>
    refine (congrFun (h b _) later).trans ?_
    rw [hrun]
    rfl
  · next hrun =>
    rw [hrun]
    rfl

theorem exists_of_gives_bind {x : Scan β} {f : β → Scan γ} {c : γ} (h : Gives (x >>= f) c) :
    ∃ b, Gives x b ∧ Gives (f b) c := by
  obtain ⟨log, later, h⟩ := h
  rw [StateT.run_bind] at h
  cases hx : x.run log with
  | none =>
    rw [hx] at h
    cases h
  | some p =>
    rw [hx] at h
    exact ⟨p.1, ⟨log, p.2, hx⟩, p.2, later, h⟩

theorem eq_of_gives_pure {b c : β} (h : Gives (pure b) c) : c = b := by
  obtain ⟨log, later, h⟩ := h
  cases h
  rfl

end Scan

namespace Source

/-- The string `s` in bytes. Text can be cut where a character begins or ends. -/
def bytes (s : String) : Source UInt8 where
  units := s.toByteArray.data
  ascii := Char.toUInt8
  slice? start stop :=
    if h : String.Pos.Raw.IsValid s ⟨start⟩ ∧ String.Pos.Raw.IsValid s ⟨stop⟩ ∧ start ≤ stop then
      some (s.extract ⟨⟨start⟩, h.1⟩ ⟨⟨stop⟩, h.2.1⟩).toList
    else none

/-- The text `s` in characters. It can be cut anywhere. -/
def characters (s : Text) : Source Char where
  units := s.toArray
  ascii := id
  slice? start stop :=
    if start ≤ stop ∧ stop ≤ s.length then some ((s.take stop).drop start) else none

variable {α : Type} [DecidableEq α] (src : Source α)

/-! ### Single units -/

/-- Whether the unit `a` is that of an ASCII blank, as in `isAsciiBlank`. -/
def isBlank (a : α) : Bool := [' ', '\t', '\n', '\x0c', '\r'].any fun c => a = src.ascii c

/-- Whether the unit `a` ends a cell: a blank or a bracket. -/
def endsCell (a : α) : Bool := src.isBlank a || a = src.ascii '[' || a = src.ascii ']'

/-- The first offset, from `pos` on, at which there is no unit of the kind `p`. -/
def skip (p : α → Bool) (pos : Nat) : Nat :=
  if h : pos < src.units.size then
    if p src.units[pos] then skip p (pos + 1) else pos
  else pos
termination_by src.units.size - pos

/-- Cut the text from `start` to `stop`, and record it. -/
def cut (start stop : Nat) : Scan Text := do
  record (.cut start stop)
  src.slice? start stop

/-- The offset of the next opening bracket from `pos` on. There is nothing to be looked for behind
the end. -/
def find (pos : Nat) : Scan (Option Nat) := do
  guard (pos ≤ src.units.size)
  let found := src.skip (· ≠ src.ascii '[') pos
  return if found < src.units.size then some found else none

section

variable {src} {p : α → Bool} {pos found : Nat} {a : α}

omit [DecidableEq α] in
theorem le_skip (p : α → Bool) (pos : Nat) : pos ≤ src.skip p pos := by
  fun_induction skip src p pos with
  | case1 pos h hp ih => exact Nat.le_trans (Nat.le_succ pos) ih
  | case2 => exact Nat.le_refl _
  | case3 => exact Nat.le_refl _

omit [DecidableEq α] in
theorem eq_false_of_getElem?_skip (h : src.units[src.skip p pos]? = some a) : p a = false := by
  fun_induction skip src p pos with
  | case1 pos hlt hp ih => exact ih h
  | case2 pos hlt hp =>
    rw [Array.getElem?_eq_getElem hlt, Option.some.injEq] at h
    rw [← h]
    exact Bool.eq_false_iff.mpr hp
  | case3 pos hlt =>
    rw [Array.getElem?_eq_none (Nat.le_of_not_lt hlt)] at h
    cases h

omit [DecidableEq α] in
theorem lt_skip (h : src.units[pos]? = some a) (hp : p a = true) : pos < src.skip p pos := by
  obtain ⟨hlt, rfl⟩ := Array.getElem?_eq_some_iff.mp h
  rw [skip, dif_pos hlt, if_pos hp]
  exact le_skip p (pos + 1)

omit [DecidableEq α] in
/-- Where there is a unit behind what is skipped, `pos` is not at the end. -/
theorem lt_size_of_getElem?_skip (h : src.units[src.skip p pos]? = some a) :
    pos < src.units.size := by
  obtain ⟨hlt, -⟩ := Array.getElem?_eq_some_iff.mp h
  exact Nat.lt_of_le_of_lt (le_skip p pos) hlt

/-- A cell that begins behind blanks has a character at least, so it ends further on than `pos`. -/
theorem lt_skip_cell (h : src.units[src.skip src.isBlank pos]? = some a)
    (hclose : a ≠ src.ascii ']') (hopen : a ≠ src.ascii '[') :
    pos < src.skip (fun a => !src.endsCell a) (src.skip src.isBlank pos) := by
  have hcell : (!src.endsCell a) = true := by
    rw [endsCell, eq_false_of_getElem?_skip h, decide_eq_false hclose, decide_eq_false hopen]
    rfl
  exact Nat.lt_of_le_of_lt (le_skip ..) (lt_skip h hcell)

/-- What `find` finds is not behind the end and not in front of `pos`, where the search began. -/
theorem le_and_lt_of_gives_find (h : Scan.Gives (src.find pos) (some found)) :
    pos ≤ found ∧ found < src.units.size := by
  obtain ⟨-, -, h⟩ := Scan.exists_of_gives_bind h
  have hfound := Scan.eq_of_gives_pure h
  split at hfound
  · next hlt =>
    cases hfound
    exact ⟨le_skip .., hlt⟩
  · cases hfound

end

/-! ### Literals -/

/-- Read a row on from between its cells, with the `cells` so far: its cells, and the offset behind
its closing bracket. -/
def row (cells : List Text) (pos : Nat) : Scan (Option (List Text × Nat)) := do
  let start := src.skip src.isBlank pos
  match _hget : src.units[start]? with
  | none => return none
  | some a =>
    if _hclose : a = src.ascii ']' then return some (cells, start + 1)
    else if _hopen : a = src.ascii '[' then return none
    else
      let stop := src.skip (fun a => !src.endsCell a) start
      let cell ← src.cut start stop
      row (cells ++ [cell]) stop
termination_by src.units.size - pos
decreasing_by
  exact Nat.sub_lt_sub_left (lt_size_of_getElem?_skip _hget) (lt_skip_cell _hget _hclose _hopen)

theorem lt_of_gives_row {cells cells' : List Text} {pos stop : Nat}
    (h : Scan.Gives (src.row cells pos) (some (cells', stop))) : pos < stop := by
  fun_induction row src cells pos with
  | case1 cells pos start hnone => cases Scan.eq_of_gives_pure h
  | case2 cells pos start hget =>
    cases Scan.eq_of_gives_pure h
    exact Nat.lt_succ_of_le (le_skip ..)
  | case3 => cases Scan.eq_of_gives_pure h
  | case4 cells pos start a hget hclose hopen stop ih =>
    obtain ⟨cell, -, h⟩ := Scan.exists_of_gives_bind h
    exact Nat.lt_trans (lt_skip_cell hget hclose hopen) (ih cell h)

theorem lt_of_gives_row_skip {p : α → Bool} {pos stop : Nat} {cells cells' : List Text}
    (h : Scan.Gives (src.row cells (src.skip p pos + 1)) (some (cells', stop))) : pos < stop :=
  Nat.lt_trans (Nat.lt_succ_of_le (le_skip p pos)) (lt_of_gives_row src h)

/-- Read a literal on from between its rows, with the rows so far in `above`: its grid, and the
offset behind its closing bracket. -/
def rows (above : Grid) (pos : Nat) : Scan (Option (Grid × Nat)) := do
  let start := src.skip src.isBlank pos
  if _hopen : src.units[start]? = some (src.ascii '[') then
    match ← Scan.attach (src.row [] (start + 1)) with
    | ⟨some (cells, stop), _hrow⟩ => rows (above ++ [cells]) stop
    | ⟨none, _⟩ => return none
  else if src.units[start]? = some (src.ascii ']') then return some (above, start + 1)
  else return none
termination_by src.units.size - pos
decreasing_by
  exact Nat.sub_lt_sub_left (lt_size_of_getElem?_skip _hopen) (lt_of_gives_row_skip src _hrow)

theorem rows_eq (above : Grid) (pos : Nat) :
    src.rows above pos =
      let start := src.skip src.isBlank pos
      if src.units[start]? = some (src.ascii '[') then do
        match ← src.row [] (start + 1) with
        | some (cells, stop) => src.rows (above ++ [cells]) stop
        | none => return none
      else if src.units[start]? = some (src.ascii ']') then return some (above, start + 1)
      else return none := by
  rw [rows]
  dsimp only
  split
  · refine Scan.attach_bind fun found _ => ?_
    cases found <;> rfl
  · rfl

theorem lt_of_gives_rows {above cells : Grid} {pos stop : Nat}
    (h : Scan.Gives (src.rows above pos) (some (cells, stop))) : pos < stop := by
  fun_induction rows src above pos with
  | case1 above pos start hopen ih =>
    obtain ⟨⟨found, hrow⟩, -, h⟩ := Scan.exists_of_gives_bind h
    cases found with
    | none => cases Scan.eq_of_gives_pure h
    | some found => exact Nat.lt_trans (lt_of_gives_row_skip src hrow) (ih _ _ hrow h)
  | case2 above pos start hopen hclose =>
    cases Scan.eq_of_gives_pure h
    exact Nat.lt_succ_of_le (le_skip ..)
  | case3 => cases Scan.eq_of_gives_pure h

/-- Read the literal at the offset `start`: its grid, if that is rectangular, and the offset behind
it. -/
def literal (start : Nat) : Scan (Option (Grid × Nat)) := do
  if src.units[start]? = some (src.ascii '[') then
    match ← src.rows [] (start + 1) with
    | some (cells, stop) =>
      if Literal.isRectangular cells then
        record (.close stop)
        return some (cells, stop)
      else return none
    | none => return none
  else return none

theorem lt_of_gives_literal {start stop : Nat} {cells : Grid}
    (h : Scan.Gives (src.literal start) (some (cells, stop))) : start < stop := by
  rw [literal] at h
  split at h
  · obtain ⟨found, hrows, h⟩ := Scan.exists_of_gives_bind h
    cases found with
    | none => cases Scan.eq_of_gives_pure h
    | some found =>
      dsimp only at h
      split at h
      · obtain ⟨-, -, h⟩ := Scan.exists_of_gives_bind h
        cases Scan.eq_of_gives_pure h
        exact Nat.lt_of_succ_lt (lt_of_gives_rows src hrows)
      · cases Scan.eq_of_gives_pure h
  · cases Scan.eq_of_gives_pure h

/-- The literal that the bracket at `found` opens, if there is a space after it: its grid, and the
offset behind it. -/
def opening (found : Nat) : Scan (Option (Grid × Nat)) := do
  record (.bracket found)
  if src.units[found + 1]? = some (src.ascii ' ') then src.literal found else return none

theorem lt_of_gives_opening {found stop : Nat} {cells : Grid}
    (h : Scan.Gives (src.opening found) (some (cells, stop))) : found < stop := by
  obtain ⟨-, -, h⟩ := Scan.exists_of_gives_bind h
  split at h
  · exact lt_of_gives_literal src h
  · cases Scan.eq_of_gives_pure h

/-! ### Lines -/

/-- Scan on from `pos`, with the `elements` so far; the text from `start` on is not one of them
yet. -/
def scanFrom (elements : List Element) (start pos : Nat) : Scan (List Element) := do
  record (.search start pos)
  match ← Scan.attach (src.find pos) with
  | ⟨some found, _hfind⟩ =>
    match ← Scan.attach (src.opening found) with
    | ⟨some (cells, stop), _hopening⟩ =>
      let text ← src.cut start found
      scanFrom (elements ++ textElements text ++ [Element.ofGrid cells]) stop stop
    | ⟨none, _⟩ => scanFrom elements start (found + 1)
  | ⟨none, _⟩ => return elements ++ textElements (← src.cut start src.units.size)
termination_by src.units.size - pos
decreasing_by
  · have hfound := le_and_lt_of_gives_find _hfind
    have hstop := lt_of_gives_opening src _hopening
    omega
  · have hfound := le_and_lt_of_gives_find _hfind
    omega

theorem scanFrom_eq (elements : List Element) (start pos : Nat) :
    src.scanFrom elements start pos = do
      record (.search start pos)
      match ← src.find pos with
      | some found =>
        match ← src.opening found with
        | some (cells, stop) =>
          let text ← src.cut start found
          src.scanFrom (elements ++ textElements text ++ [Element.ofGrid cells]) stop stop
        | none => src.scanFrom elements start (found + 1)
      | none => return elements ++ textElements (← src.cut start src.units.size) := by
  rw [scanFrom]
  refine bind_congr fun _ => Scan.attach_bind fun found _ => ?_
  cases found with
  | none => rfl
  | some found =>
    refine Scan.attach_bind fun read _ => ?_
    cases read <;> rfl

/-- Scan the whole line. A line without content has a single empty text, as for `parse`. -/
def scan : Scan (List Element) := do
  let elements ← src.scanFrom [] 0 0
  return if elements.isEmpty then [.text []] else elements

end Source

end MathNotes.Line
