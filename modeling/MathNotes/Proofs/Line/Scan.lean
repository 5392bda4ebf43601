import Mathlib.Data.List.TakeWhile
import Mathlib.Tactic.ByContra
import MathNotes.Proofs.Line.Source

/-!
# Scanning finds what parsing finds

A scan looks at stored units and cuts text at offsets, and never sees a character. Over every source
that stores a line it has a result, which is `parse` of the line (`exists_yields_scan`). Whatever it
does, it does between characters, and each search begins behind the last one. So a string can be
scanned in its bytes (`scan_bytes_eq_parse`).

* For each part of a scan there is a lemma of what it yields at the place of a text, from a row
  (`exists_yields_row`) to a literal (`yields_literal`) and to each kind of turn of the loop over
  the line (`yields_scanFrom_of_not_mem` and those after it). The invariant is the same throughout:
  an offset is the `place` of an end of the line, and to read on from the offset is to read that
  end.

* A row is read in one go by the scan, but character by character by the reader of literals.
  `Literal.RowRead` says what comes of a row in terms of the reader.
-/

namespace MathNotes.Literal

open Text

/-! ### What comes of a row -/

/-- What comes of reading `v` on from between the cells of a row, with the cells `done`, the last
first: the cells of the row and the text after it, or no row (`none`). -/
inductive RowRead (v : Text) (done : List Text) : Option (List Text × Text) → Prop where
  | closed {cells : List Text} {rest : Text} (suffix : rest <:+ v)
    (shorter : rest.length < v.length)
    (readFrom_eq : ∀ above, readFrom above (.cells done) v = readFrom (cells :: above) .rows rest) :
    RowRead v done (some (cells, rest))
  | failed (readFrom_eq : ∀ above, readFrom above (.cells done) v = none) : RowRead v done none

variable {v t : Text} {done : List Text} {found : Option (List Text × Text)} {c : Char}

/-- If reading on makes of `v` what it makes of an end `w` of it, the outcome is the same. -/
theorem RowRead.of_suffix {done' : List Text} {w : Text} (h : RowRead w done' found) (hw : w <:+ v)
    (hread : ∀ above, readFrom above (.cells done) v = readFrom above (.cells done') w) :
    RowRead v done found := by
  cases h with
  | closed suffix shorter readFrom_eq =>
    refine .closed (suffix.trans hw) (Nat.lt_of_lt_of_le shorter hw.length_le) fun above => ?_
    rw [hread, readFrom_eq]
  | failed readFrom_eq =>
    refine .failed fun above => ?_
    rw [hread, readFrom_eq]

theorem RowRead.of_dropWhile (h : RowRead (v.dropWhile isAsciiBlank) done found) :
    RowRead v done found := by
  refine h.of_suffix (List.dropWhile_suffix _) fun above => ?_
  have hblank : ∀ c ∈ v.takeWhile isAsciiBlank, isAsciiBlank c = true :=
    fun c => List.mem_takeWhile_imp
  have hgap := readFrom_cells_gap_append above done hblank (v.dropWhile isAsciiBlank)
  rwa [List.takeWhile_append_dropWhile] at hgap

theorem readFrom_rows_dropWhile (above : Grid) (v : Text) :
    readFrom above .rows (v.dropWhile isAsciiBlank) = readFrom above .rows v := by
  have hblank : ∀ c ∈ v.takeWhile isAsciiBlank, isAsciiBlank c = true :=
    fun c => List.mem_takeWhile_imp
  have hgap := readFrom_rows_gap_append above hblank (v.dropWhile isAsciiBlank)
  rw [List.takeWhile_append_dropWhile] at hgap
  exact hgap.symm

theorem startsOutside_dropWhile (p : Char → Bool) (s : Text) : StartsOutside p (s.dropWhile p) := by
  have hhead := List.head?_dropWhile_not p s
  rw [StartsOutside]
  cases hd : (s.dropWhile p).head? with
  | none => rfl
  | some c =>
    rw [hd] at hhead
    exact hhead

theorem isCellChar_of_ne (hblank : ¬ isAsciiBlank c = true) (hclose : c ≠ ']') (hopen : c ≠ '[') :
    isCellChar c = true :=
  isCellChar_iff.mpr ⟨by simpa using hblank, hopen, hclose⟩

/-- What ends a cell is read as what follows a cell and a blank. -/
theorem readFrom_content_of_startsOutside (above : Grid) (done : List Text) (chars : Text)
    (h : StartsOutside isCellChar v) :
    readFrom above (.content done chars) v = readFrom above (.cells (chars.reverse :: done)) v := by
  cases v with
  | nil => rfl
  | cons c v =>
    have hc : isCellChar c = false := h
    rw [readFrom, readFrom]
    by_cases hblank : isAsciiBlank c = true
    · rw [if_pos hblank, if_pos hblank]
    rw [if_neg hblank, if_neg hblank]
    by_cases hclose : c = ']'
    · rw [if_pos hclose, if_pos hclose]
    have hopen : c = '[' := by
      by_contra hopen
      exact Bool.false_ne_true (hc.symm.trans (isCellChar_of_ne hblank hclose hopen))
    rw [if_neg hclose, if_neg hclose, if_pos hopen, if_pos hopen]

/-- A cell reaches as far as there are characters that satisfy `isCellChar`. -/
theorem RowRead.cell (hc : isCellChar c = true)
    (h : RowRead ((c :: t).dropWhile isCellChar) ((c :: t).takeWhile isCellChar :: done) found) :
    RowRead (c :: t) done found := by
  refine h.of_suffix (List.dropWhile_suffix _) fun above => ?_
  have hcell : IsCell ((c :: t).takeWhile isCellChar) := by
    refine isWord_iff_isCell.mp ⟨?_, List.all_eq_true.mp List.all_takeWhile⟩
    rw [List.takeWhile_cons_of_pos hc]
    exact List.cons_ne_nil _ _
  have hend := startsOutside_dropWhile isCellChar (c :: t)
  have hread := readFrom_cells_cell_append above done ⟨_, hcell⟩ ((c :: t).dropWhile isCellChar)
  rw [List.takeWhile_append_dropWhile] at hread
  rw [hread, readFrom_content_of_startsOutside above done _ hend, List.reverse_reverse]

theorem rowRead_close : RowRead (']' :: t) done (some (done.reverse, t)) :=
  .closed (List.suffix_cons ..) (Nat.lt_succ_self _) fun _ => rfl

theorem rowRead_open : RowRead ('[' :: t) done none := .failed fun _ => rfl

theorem rowRead_nil : RowRead [] done none := .failed fun _ => rfl

end MathNotes.Literal

namespace MathNotes.Line

open Literal

/-! ### What a scan does -/

section Yields

variable {α β γ : Type}

/-- Whatever has been done before, the scan `x` has the result `b`. It does nothing but at
boundaries of `s`, and the searches in it begin at `starts`, the last first. -/
def Yields (encode : Char → List α) (s : Text) (x : Scan β) (b : β) (starts : List Nat) : Prop :=
  ∃ events : List Event, (∀ log, x.run log = some (b, events ++ log)) ∧
    (∀ e ∈ events, ∀ p ∈ e.offsets, IsBoundary encode s p) ∧
    events.filterMap Event.searched? = starts

variable {encode : Char → List α} {s : Text}

theorem yields_pure (b : β) : Yields encode s (pure b) b [] :=
  ⟨[], fun _ => rfl, by simp, rfl⟩

theorem Yields.bind {x : Scan β} {f : β → Scan γ} {b : β} {c : γ} {first later : List Nat}
    (hx : Yields encode s x b first) (hf : Yields encode s (f b) c later) :
    Yields encode s (x >>= f) c (later ++ first) := by
  obtain ⟨events, hrun, hbounds, rfl⟩ := hx
  obtain ⟨events', hrun', hbounds', rfl⟩ := hf
  refine ⟨events' ++ events, ?_, ?_, List.filterMap_append⟩
  · intro log
    rw [StateT.run_bind, hrun, Option.bind_eq_bind, Option.bind_some, hrun', List.append_assoc]
  · intro e he
    rcases List.mem_append.mp he with he | he
    · exact hbounds' e he
    · exact hbounds e he

/-- Before the rest `f` of a scan comes `x`, in which no search begins. -/
theorem Yields.before {x : Scan β} {f : β → Scan γ} {b : β} {c : γ} {starts : List Nat}
    (hx : Yields encode s x b []) (hf : Yields encode s (f b) c starts) :
    Yields encode s (x >>= f) c starts := by
  have h := hx.bind hf
  rwa [List.append_nil] at h

theorem yields_record {e : Event} (h : ∀ p ∈ e.offsets, IsBoundary encode s p) :
    Yields encode s (record e) () e.searched?.toList := by
  refine ⟨[e], fun _ => rfl, ?_, ?_⟩
  · simpa using h
  · cases e <;> rfl

end Yields

section

variable {α : Type} {src : Source α} {encode : Char → List α} {s v : Text}

/-- Cutting from the place of `v` to that of `rest` gives `t`, if `v` is `t ++ rest`. -/
theorem yields_cut {t rest : Text} (h : src.Stores encode s) (hv : v <:+ s) (ht : t ++ rest = v) :
    Yields encode s (src.cut (place encode s v) (place encode s rest)) t [] := by
  subst ht
  have hrest := (List.suffix_append t rest).trans hv
  have hrecord : Yields encode s (record (.cut (place encode s (t ++ rest))
      (place encode s rest))) () [] := by
    refine yields_record ?_
    simp [Event.offsets, isBoundary_place, hv, hrest]
  refine hrecord.before ⟨[], ?_, by simp, rfl⟩
  intro log
  rw [h.slice?_place t rest hv]
  rfl

variable [DecidableEq α]

/-- What has been read, with the offset at which the rest begins in place of the rest. -/
def located (encode : Char → List α) (s : Text) {β : Type} (found : Option (β × Text)) :
    Option (β × Nat) :=
  found.map fun (b, rest) => (b, place encode s rest)

/-! ### Rows -/

/-- How a row is read on depends on the next character that is no blank: there is none, or it closes
the row, or no row can hold it, or a cell begins with it. -/
theorem row_place (h : src.Stores encode s) (cells : List Text) (hv : v <:+ s) :
    src.row cells (place encode s v) =
      match v.dropWhile isAsciiBlank with
      | [] => pure none
      | c :: t =>
        if c = ']' then pure (some (cells, place encode s t))
        else if c = '[' then pure none
        else
          let stop := place encode s ((c :: t).dropWhile isCellChar)
          src.cut (place encode s (c :: t)) stop >>= fun cell =>
            src.row (cells ++ [cell]) stop := by
  have hw := (List.dropWhile_suffix isAsciiBlank).trans hv
  rw [Source.row]
  dsimp only
  rw [h.skip_blanks hv]
  generalize v.dropWhile isAsciiBlank = w at hw
  cases w with
  | nil =>
    rw [h.getElem?_place List.nil_suffix]
    rfl
  | cons c t =>
    obtain ⟨a, ha, hget⟩ := h.exists_getElem?_place_cons hw
    rw [hget]
    dsimp only
    simp only [dite_eq_ite, h.eq_ascii_iff (m := ']') (by decide) ha,
      h.eq_ascii_iff (m := '[') (by decide) ha, h.skip_cell hw]
    by_cases hclose : c = ']'
    · subst hclose
      rw [if_pos rfl, if_pos rfl, h.place_mark_add_one (by decide) hw]
    · rw [if_neg hclose, if_neg hclose]

/-- Reading a row on from between its cells, cell by cell, comes to the same end as reading it
character by character (`RowRead`). The induction is on what is left of the text: a cell takes some
of it. -/
theorem exists_yields_row (h : src.Stores encode s) (cells : List Text) (hv : v <:+ s) :
    ∃ found, RowRead v cells.reverse found ∧
      Yields encode s (src.row cells (place encode s v)) (located encode s found) [] := by
  induction hn : v.length using Nat.strongRecOn generalizing v cells with
  | ind n ih =>
  -- Both pass over the blanks in front, so it is enough to follow them from behind these.
  suffices ∃ found, RowRead (v.dropWhile isAsciiBlank) cells.reverse found ∧
      Yields encode s (src.row cells (place encode s v)) (located encode s found) [] by
    obtain ⟨found, hread, hyields⟩ := this
    exact ⟨found, hread.of_dropWhile, hyields⟩
  have hgap := List.dropWhile_suffix isAsciiBlank (l := v)
  have hlength := hgap.length_le
  have hend := startsOutside_dropWhile isAsciiBlank v
  rw [row_place h cells hv]
  generalize v.dropWhile isAsciiBlank = w at hgap hlength hend
  have hw := hgap.trans hv
  cases w with
  | nil => exact ⟨none, rowRead_nil, yields_pure none⟩
  | cons c t =>
    dsimp only
    by_cases hclose : c = ']'
    · subst hclose
      rw [if_pos rfl]
      refine ⟨_, rowRead_close, ?_⟩
      rw [cells.reverse_reverse]
      exact yields_pure _
    rw [if_neg hclose]
    by_cases hopen : c = '['
    · subst hopen
      rw [if_pos rfl]
      exact ⟨none, rowRead_open, yields_pure none⟩
    rw [if_neg hopen]
    have hblank : isAsciiBlank c = false := hend
    have hc := isCellChar_of_ne (by simp [hblank]) hclose hopen
    have hcut := yields_cut h hw (List.takeWhile_append_dropWhile (p := isCellChar))
    have hshorter : ((c :: t).dropWhile isCellChar).length < n := by
      have := (List.dropWhile_suffix isCellChar (l := t)).length_le
      rw [List.dropWhile_cons_of_pos hc]
      rw [List.length_cons] at hlength
      omega
    obtain ⟨found, hread, hyields⟩ := ih _ hshorter (cells ++ [(c :: t).takeWhile isCellChar])
      ((List.dropWhile_suffix _).trans hw) rfl
    rw [List.reverse_append] at hread
    exact ⟨found, hread.cell hc, hcut.before hyields⟩

/-! ### Literals -/

/-- Reading a literal on from between its rows finds what `readFrom` finds. A row that is read
leaves less of the text. -/
theorem yields_rows (h : src.Stores encode s) (above : Grid) (hv : v <:+ s) :
    Yields encode s (src.rows above (place encode s v))
      (located encode s (readFrom above.reverse .rows v)) [] := by
  induction hn : v.length using Nat.strongRecOn generalizing v above with
  | ind n ih =>
  rw [← readFrom_rows_dropWhile, Source.rows_eq, h.skip_blanks hv]
  have hgap := List.dropWhile_suffix isAsciiBlank (l := v)
  have hlength := hgap.length_le
  have hend := startsOutside_dropWhile isAsciiBlank v
  generalize v.dropWhile isAsciiBlank = w at hgap hlength hend
  have hw := hgap.trans hv
  simp only [h.getElem?_place_eq_ascii_iff (m := '[') (by decide) hw,
    h.getElem?_place_eq_ascii_iff (m := ']') (by decide) hw]
  cases w with
  | nil => exact yields_pure none
  | cons c t =>
    have hblank : ¬ isAsciiBlank c = true := by
      have hc : isAsciiBlank c = false := hend
      simp [hc]
    rw [readFrom, if_neg hblank]
    simp only [List.head?_cons, Option.some.injEq]
    by_cases hopen : c = '['
    · subst hopen
      rw [if_pos rfl, if_pos rfl, h.place_mark_add_one (by decide) hw]
      have ht := (List.suffix_cons _ t).trans hw
      obtain ⟨found, hread, hyields⟩ := exists_yields_row h [] ht
      rw [List.reverse_nil] at hread
      refine hyields.before ?_
      cases hread with
      | @closed cells rest suffix shorter readFrom_eq =>
        rw [readFrom_eq, ← List.reverse_concat]
        rw [List.length_cons] at hlength
        exact ih rest.length (by omega) (above ++ [cells]) (suffix.trans ht) rfl
      | failed readFrom_eq =>
        rw [readFrom_eq]
        exact yields_pure none
    rw [if_neg hopen, if_neg hopen]
    by_cases hclose : c = ']'
    · subst hclose
      rw [if_pos rfl, if_pos rfl, h.place_mark_add_one (by decide) hw, List.reverse_reverse]
      exact yields_pure _
    rw [if_neg hclose, if_neg hclose]
    exact yields_pure none

/-- At an opening bracket the literal is read that stands there (`Literal.read?`), and its end is a
boundary. -/
theorem yields_literal (h : src.Stores encode s) (hv : '[' :: v <:+ s) :
    Yields encode s (src.literal (place encode s ('[' :: v))) (located encode s (read? v)) [] := by
  have ht := (List.suffix_cons _ v).trans hv
  rw [Source.literal, if_pos ((h.getElem?_place_eq_ascii_iff (by decide) hv).mpr rfl),
    h.place_mark_add_one (by decide) hv, read?]
  refine (yields_rows h [] ht).before ?_
  rw [List.reverse_nil]
  cases hread : readFrom [] .rows v with
  | none => exact yields_pure none
  | some found =>
    obtain ⟨cells, rest⟩ := found
    have hrest : rest <:+ s := (readFrom_eq_some_iff.mp hread).suffix.trans ht
    dsimp only [located, Option.map_some]
    by_cases hrect : isRectangular cells = true
    · rw [if_pos hrect, if_pos hrect]
      have hclose : Yields encode s (record (.close (place encode s rest))) () [] := by
        refine yields_record ?_
        simp [Event.offsets, isBoundary_place, hrest]
      exact hclose.before (yields_pure _)
    · rw [if_neg hrect, if_neg hrect]
      exact yields_pure none

theorem opens?_eq_none {t : Text} (h : ∀ u, t ≠ '[' :: ' ' :: u) : opens? t = none := by
  rw [Option.eq_none_iff_forall_ne_some]
  rintro found hfound
  obtain ⟨u, hu, -⟩ := opens?_eq_some_iff.mp hfound
  exact h u hu

/-- At a bracket that has been found, the literal is read that it opens (`opens?`). -/
theorem yields_opening (h : src.Stores encode s) (hv : '[' :: v <:+ s) :
    Yields encode s (src.opening (place encode s ('[' :: v)))
      (located encode s (opens? ('[' :: v))) [] := by
  have ht := (List.suffix_cons _ v).trans hv
  have hbracket : Yields encode s (record (.bracket (place encode s ('[' :: v)))) () [] := by
    refine yields_record ?_
    simp [Event.offsets, isBoundary_place, hv]
  rw [Source.opening, h.place_mark_add_one (by decide) hv]
  refine hbracket.before ?_
  simp only [h.getElem?_place_eq_ascii_iff (m := ' ') (by decide) ht]
  by_cases hspace : v.head? = some ' '
  · obtain ⟨t, rfl⟩ := List.head?_eq_some_iff.mp hspace
    rw [if_pos hspace]
    exact yields_literal h hv
  · have hnone : opens? ('[' :: v) = none := by
      refine opens?_eq_none fun u hu => hspace ?_
      rw [(List.cons.inj hu).2]
      rfl
    rw [if_neg hspace, hnone]
    exact yields_pure none

/-! ### The elements of a line from its front on -/

/-- The pieces of a line with the text `x` in front of it that opens nothing. -/
def Pieces.after (x : Text) (p : Pieces) : Pieces := ⟨x ++ p.front, p.literals⟩

theorem Pieces.after_after (x y : Text) (p : Pieces) : (p.after y).after x = p.after (x ++ y) := by
  rw [after, after, after, List.append_assoc]

theorem pieces_of_opens?_eq_some {c : Char} {t rest : Text} {cells : Grid}
    (h : opens? (c :: t) = some (cells, rest)) :
    pieces (c :: t) = ⟨[], (cells, (pieces rest).front) :: (pieces rest).literals⟩ := by
  rw [pieces]
  split
  · next hsome =>
    rw [h] at hsome
    cases hsome
    rfl
  · next hnone =>
    rw [h] at hnone
    cases hnone

theorem pieces_of_opens?_eq_none {c : Char} {t : Text} (h : opens? (c :: t) = none) :
    pieces (c :: t) = (pieces t).after [c] := by
  rw [pieces]
  split
  · next hsome =>
    rw [h] at hsome
    cases hsome
  · rfl

/-- A text `w` without a bracket opens nothing, so it is in front of the pieces of `v`. -/
theorem pieces_append {w : Text} (hw : '[' ∉ w) (v : Text) :
    pieces (w ++ v) = (pieces v).after w := by
  induction w with
  | nil => rfl
  | cons c w ih =>
    obtain ⟨hc, hw⟩ : '[' ≠ c ∧ '[' ∉ w := by simpa using hw
    have hnone : opens? (c :: (w ++ v)) = none :=
      opens?_eq_none fun u hu => hc (List.cons.inj hu).1.symm
    rw [List.cons_append, pieces_of_opens?_eq_none hnone, ih hw, Pieces.after_after]
    rfl

/-- The elements of `v` with `x` in front of it, no bracket in which opens a literal. -/
def elementsAfter (x v : Text) : List Element := ((pieces v).after x).elements

theorem elementsAfter_of_not_mem (x : Text) (hv : '[' ∉ v) :
    elementsAfter x v = textElements (x ++ v) := by
  have hpieces := pieces_append hv []
  rw [List.append_nil, pieces, Pieces.after, List.append_nil] at hpieces
  rw [elementsAfter, hpieces]
  exact List.append_nil _

section

variable {w t : Text}

/-- A bracket that opens nothing belongs to the text in front of what follows. -/
theorem elementsAfter_of_opens?_eq_none (x : Text) (hw : '[' ∉ w) (h : opens? ('[' :: t) = none) :
    elementsAfter x (w ++ '[' :: t) = elementsAfter (x ++ (w ++ ['['])) t := by
  rw [elementsAfter, elementsAfter, pieces_append hw, pieces_of_opens?_eq_none h,
    Pieces.after_after, Pieces.after_after, List.append_assoc]

/-- A literal ends the text in front of it and stands before the elements of what follows. -/
theorem elementsAfter_of_opens?_eq_some {rest : Text} {cells : Grid} (x : Text) (hw : '[' ∉ w)
    (h : opens? ('[' :: t) = some (cells, rest)) :
    elementsAfter x (w ++ '[' :: t) =
      textElements (x ++ w) ++ Element.ofGrid cells :: elementsAfter [] rest := by
  rw [elementsAfter, pieces_append hw, pieces_of_opens?_eq_some h, Pieces.after_after, Pieces.after,
    List.append_nil]
  rfl

end

/-! ### Searches -/

section

variable {x w t : Text}

omit [DecidableEq α] in
/-- The place of `v` is not behind the end, so a search may begin there. -/
theorem yields_guard (h : src.Stores encode s) (v : Text) :
    Yields encode s (guard (place encode s v ≤ src.units.size)) () [] := by
  have hle : place encode s v ≤ src.units.size := h.size_units ▸ Nat.sub_le ..
  have hguard : (guard (place encode s v ≤ src.units.size) : Scan Unit) = pure () := if_pos hle
  rw [hguard]
  exact yields_pure ()

/-- In a text without a bracket `find` finds nothing. -/
theorem yields_find_of_not_mem (h : src.Stores encode s) (hv : v <:+ s) (hnot : '[' ∉ v) :
    Yields encode s (src.find (place encode s v)) none [] := by
  have hdrop : v.dropWhile (· ≠ '[') = [] := by
    rw [List.dropWhile_eq_nil_iff]
    exact fun c hc => decide_eq_true (ne_of_mem_of_not_mem hc hnot)
  rw [Source.find, h.skip_to_bracket hv, hdrop]
  refine (yields_guard h v).before ?_
  dsimp only
  rw [h.size_units, if_neg (Nat.lt_irrefl _)]
  exact yields_pure none

/-- In a text with a bracket `find` finds the first one. -/
theorem yields_find_append (h : src.Stores encode s) (hv : w ++ '[' :: t <:+ s) (hw : '[' ∉ w) :
    Yields encode s (src.find (place encode s (w ++ '[' :: t)))
      (some (place encode s ('[' :: t))) [] := by
  have hdrop : (w ++ '[' :: t).dropWhile (· ≠ '[') = '[' :: t := by
    have hall : ∀ c ∈ w, decide (c ≠ '[') = true := fun c hc =>
      decide_eq_true (ne_of_mem_of_not_mem hc hw)
    rw [List.dropWhile_append_of_pos hall]
    rfl
  have hlt := h.place_lt_place ((List.suffix_append w _).trans hv) List.nil_suffix (Nat.succ_pos _)
  rw [Source.find, h.skip_to_bracket hv, hdrop]
  refine (yields_guard h _).before ?_
  dsimp only
  rw [h.size_units, if_pos hlt]
  exact yields_pure _

omit [DecidableEq α] in
/-- A turn of the scan begins with a search in `v`, which is left, and `x` in front of it is not an
element yet. -/
theorem yields_search (hv : x ++ v <:+ s) :
    Yields encode s (record (.search (place encode s (x ++ v)) (place encode s v))) ()
      [place encode s v] := by
  refine yields_record ?_
  simp [Event.offsets, isBoundary_place, hv, (List.suffix_append x v).trans hv]

/-! ### The turns of a scan

A search finds no bracket, or one that opens nothing, or one that opens a literal. -/

variable {elements result : List Element} {starts : List Nat}

theorem yields_scanFrom_of_not_mem (h : src.Stores encode s) (hv : x ++ v <:+ s) (hnot : '[' ∉ v) :
    Yields encode s (src.scanFrom elements (place encode s (x ++ v)) (place encode s v))
      (elements ++ textElements (x ++ v)) [place encode s v] := by
  have hfound := yields_find_of_not_mem h ((List.suffix_append x v).trans hv) hnot
  have hcut := yields_cut h hv (List.append_nil _)
  rw [Source.scanFrom_eq, ← List.nil_append [place encode s v], h.size_units]
  exact (yields_search hv).bind (hfound.before (hcut.before (yields_pure _)))

theorem yields_scanFrom_of_opens?_eq_none (h : src.Stores encode s)
    (hv : x ++ (w ++ '[' :: t) <:+ s) (hw : '[' ∉ w) (hopen : opens? ('[' :: t) = none)
    (hlater : Yields encode s (src.scanFrom elements (place encode s (x ++ (w ++ '[' :: t)))
      (place encode s t)) result starts) :
    Yields encode s (src.scanFrom elements (place encode s (x ++ (w ++ '[' :: t)))
      (place encode s (w ++ '[' :: t))) result (starts ++ [place encode s (w ++ '[' :: t)]) := by
  have hws := (List.suffix_append x _).trans hv
  have hts := (List.suffix_append w _).trans hws
  have hopening := yields_opening h hts
  rw [hopen] at hopening
  rw [Source.scanFrom_eq]
  refine (yields_search hv).bind ((yields_find_append h hws hw).before (hopening.before ?_))
  dsimp only [located, Option.map_none]
  rw [h.place_mark_add_one (by decide) hts]
  exact hlater

theorem yields_scanFrom_of_opens?_eq_some {rest : Text} {cells : Grid} (h : src.Stores encode s)
    (hv : x ++ (w ++ '[' :: t) <:+ s) (hw : '[' ∉ w)
    (hopen : opens? ('[' :: t) = some (cells, rest))
    (hlater : Yields encode s
      (src.scanFrom (elements ++ textElements (x ++ w) ++ [Element.ofGrid cells])
        (place encode s rest) (place encode s rest)) result starts) :
    Yields encode s (src.scanFrom elements (place encode s (x ++ (w ++ '[' :: t)))
      (place encode s (w ++ '[' :: t))) result (starts ++ [place encode s (w ++ '[' :: t)]) := by
  have hws := (List.suffix_append x _).trans hv
  have hopening := yields_opening h ((List.suffix_append w _).trans hws)
  rw [hopen] at hopening
  have hcut : Yields encode s (src.cut (place encode s (x ++ (w ++ '[' :: t)))
      (place encode s ('[' :: t))) (x ++ w) [] := yields_cut h hv (List.append_assoc ..)
  rw [Source.scanFrom_eq]
  exact (yields_search hv).bind
    ((yields_find_append h hws hw).before (hopening.before (hcut.before hlater)))

/-- An earlier search, at `p`, in front of later ones, none of which begins before `q`. -/
theorem descends_concat {p q : Nat} (hstarts : starts.Pairwise (· > ·))
    (hq : ∀ r ∈ starts, q ≤ r) (hpq : p < q) :
    (starts ++ [p]).Pairwise (· > ·) ∧ ∀ r ∈ starts ++ [p], p ≤ r := by
  have hlt : ∀ r ∈ starts, p < r := fun r hr => Nat.lt_of_lt_of_le hpq (hq r hr)
  constructor
  · rw [List.pairwise_append]
    exact ⟨hstarts, List.pairwise_singleton .., by simpa using hlt⟩
  · intro r hr
    rcases List.mem_append.mp hr with hr | hr
    · exact Nat.le_of_lt (hlt r hr)
    · exact Nat.le_of_eq (List.mem_singleton.mp hr).symm

end

/-! ### Lines -/

/-- A scan of what is left of a line, `v`, comes to its elements, and each search in it begins
behind the one before. The induction is on the length of `v`: a turn leaves what is behind a bracket
or behind a literal. -/
theorem exists_yields_scanFrom (h : src.Stores encode s) (elements : List Element) {x : Text}
    (hv : x ++ v <:+ s) :
    ∃ starts, Yields encode s
        (src.scanFrom elements (place encode s (x ++ v)) (place encode s v))
        (elements ++ elementsAfter x v) starts ∧
      starts.Pairwise (· > ·) ∧ ∀ p ∈ starts, place encode s v ≤ p := by
  induction hn : v.length using Nat.strongRecOn generalizing v x elements with
  | ind n ih =>
  have hvs := (List.suffix_append x v).trans hv
  by_cases hmem : '[' ∈ v
  · obtain ⟨w, t, rfl, hw⟩ := List.eq_append_cons_of_mem hmem
    rw [List.length_append, List.length_cons] at hn
    -- Each kind of turn goes on with an end of `v` that is shorter, so at a greater offset.
    have hlater {rest : Text} (hrest : rest <:+ '[' :: t) (hlt : rest.length < t.length + 1) :
        place encode s (w ++ '[' :: t) < place encode s rest := by
      refine h.place_lt_place hvs (hrest.trans (List.suffix_append w _)) ?_
      rw [List.length_append, List.length_cons]
      omega
    cases hopen : opens? ('[' :: t) with
    | none =>
      have happend : x ++ (w ++ ['[']) ++ t = x ++ (w ++ '[' :: t) := by simp
      obtain ⟨starts, hyields, hstarts, hle⟩ :=
        ih t.length (by omega) elements (x := x ++ (w ++ ['['])) (happend ▸ hv) rfl
      rw [happend, ← elementsAfter_of_opens?_eq_none x hw hopen] at hyields
      exact ⟨_, yields_scanFrom_of_opens?_eq_none h hv hw hopen hyields,
        descends_concat hstarts hle (hlater (List.suffix_cons ..) (Nat.lt_succ_self _))⟩
    | some found =>
      obtain ⟨cells, rest⟩ := found
      have hrest : rest <:+ '[' :: t := suffix_of_opens? hopen
      have hlength := length_of_opens? hopen
      rw [List.length_cons] at hlength
      obtain ⟨starts, hyields, hstarts, hle⟩ := ih rest.length (by omega)
        (elements ++ textElements (x ++ w) ++ [Element.ofGrid cells]) (x := [])
        (hrest.trans ((List.suffix_append w _).trans hvs)) rfl
      have helements : elements ++ textElements (x ++ w) ++ [Element.ofGrid cells] ++
          elementsAfter [] rest = elements ++ elementsAfter x (w ++ '[' :: t) := by
        rw [elementsAfter_of_opens?_eq_some x hw hopen]
        simp
      rw [helements] at hyields
      exact ⟨_, yields_scanFrom_of_opens?_eq_some h hv hw hopen hyields,
        descends_concat hstarts hle (hlater hrest hlength)⟩
  · rw [elementsAfter_of_not_mem x hmem]
    exact ⟨_, yields_scanFrom_of_not_mem h hv hmem, List.pairwise_singleton .., by simp⟩

/-- A scan of a stored line `s` comes to `parse s`, and its searches go forward. -/
theorem exists_yields_scan (h : src.Stores encode s) :
    ∃ starts, Yields encode s src.scan (parse s) starts ∧ starts.Pairwise (· > ·) := by
  obtain ⟨starts, hyields, hstarts, -⟩ :=
    exists_yields_scanFrom h [] (x := []) (v := s) List.suffix_rfl
  refine ⟨starts, ?_, hstarts⟩
  rw [List.nil_append, List.nil_append, place_self] at hyields
  have hparse : parse s =
      if (pieces s).elements.isEmpty then [.text []] else (pieces s).elements := by
    rw [parse]
    cases (pieces s).elements <;> rfl
  rw [Source.scan, hparse, ← List.nil_append starts]
  exact hyields.bind (yields_pure _)

end

/-- **A line can be scanned in bytes.** The scan of the string `s` in UTF-8 always has a result, and
it is the one that the scan of the characters has: `parse s.toList`. Every offset at which it
searches, finds a bracket, cuts text or comes to the end of a literal lies within the string and
between two characters, and each search begins behind the one before. -/
theorem scan_bytes_eq_parse (s : String) :
    ∃ log logOfCharacters : List Event,
      (Source.bytes s).scan.run [] = some (parse s.toList, log) ∧
      (Source.characters s.toList).scan.run [] = some (parse s.toList, logOfCharacters) ∧
      (∀ e ∈ log, ∀ p ∈ e.offsets, p ≤ s.utf8ByteSize ∧ String.Pos.Raw.IsValid s ⟨p⟩) ∧
      (log.reverse.filterMap Event.searched?).Pairwise (· < ·) := by
  obtain ⟨starts, ⟨events, hrun, hbounds, rfl⟩, hstarts⟩ := exists_yields_scan (stores_bytes s)
  obtain ⟨-, ⟨events', hrun', -, -⟩, -⟩ := exists_yields_scan (stores_characters s.toList)
  refine ⟨events, events', ?_, ?_, ?_, ?_⟩
  · rw [hrun, List.append_nil]
  · rw [hrun', List.append_nil]
  · intro e he p hp
    have hvalid := isValid_of_isBoundary (hbounds e he p hp)
    exact ⟨hvalid.le_utf8ByteSize, hvalid⟩
  · rw [List.filterMap_reverse, List.pairwise_reverse]
    exact hstarts

end MathNotes.Line
