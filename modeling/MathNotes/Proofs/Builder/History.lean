import MathNotes.Proofs.Builder.Matrix

/-!
# What the forms remember

The forms of the matrix and of the vector change in two ways: a place is written, or the form is
resized, which takes places away and adds empty ones. In between, other things are done. What a
place holds in the end can be read off the whole history (`Recalled`): the latest text that was
written to it, of those written since it was last not there; failing that, what it held at first if
it has been there all along, and nothing if it has not. A text written where there is no place
changes nothing, then or later.

Both forms obey this for the same reason. What writing to a place does and what every other action
may do to it is one statement about a single action (`IsPlace`), which has a proof for the cells of
the matrix (`isPlace_cell`) and one for the entries of the vector (`isPlace_entry`); what a history
does follows from it (`IsPlace.remembers`). The main statement is `remembers_matrix_and_vector`.
-/

namespace MathNotes

theorem Expr.isShaped_of_kind_ne {e : Expr} (h : e.kind ≠ .matrix) : e.IsShaped := by
  cases e with
  | matrix => exact absurd rfl h
  | _ => trivial

namespace Builder

/-! ### Histories -/

/-- What can be done with a builder: a `Step`, or an assignment of `mode` and `editing`. -/
inductive Action where
  | step (s : Step)
  | assign (mode : Mode) (editing : Option Text)

def act (b : Builder) : Action → Builder
  | .step s => b.step s
  | .assign mode editing => { b with mode := mode, editing := editing }

/-- The builder when all of `actions` have been done, one after another. -/
def actAll (b : Builder) (actions : List Action) : Builder := actions.foldl act b

/-- The builder when the first `k` of `actions` have been done. -/
def moment (b : Builder) (actions : List Action) (k : Nat) : Builder := b.actAll (actions.take k)

/-- The action loads no expression of the given `kind` and does not clear the forms. -/
def Action.Spares (kind : Kind) : Action → Prop
  | .step (.enterEdit _ e) => e.kind ≠ kind
  | .step (.load e) => e.kind ≠ kind
  | .step .exitEdit => False
  | .step .reset => False
  | _ => True

/-- What a place holds after `n` actions. It is known at which moments the place `isThere`, what
`writes` says that each action writes to it, and what it held at first. -/
inductive Recalled (isThere : Nat → Prop) (writes : Nat → Text → Prop) (initial : Option Text)
    (n : Nat) : Text → Prop
  /-- The text was written last, and the place has been there since. -/
  | written {k : Nat} {text : Text} (hk : k < n) (hwrite : writes k text)
    (hthere : ∀ m, k ≤ m → m ≤ n → isThere m)
    (hlatest : ∀ m, k < m → m < n → ∀ other, ¬ writes m other) :
    Recalled isThere writes initial n text
  /-- The place has always been there, and nothing was written to it. -/
  | kept {text : Text} (hinitial : initial = some text) (hthere : ∀ m ≤ n, isThere m)
    (hunwritten : ∀ m < n, ∀ other, ¬ writes m other) :
    Recalled isThere writes initial n text
  /-- The place was once not there, and nothing has been written to it since. -/
  | emptied {k : Nat} (hk : k < n) (hgone : ¬ isThere k)
    (hthere : ∀ m, k < m → m ≤ n → isThere m)
    (hunwritten : ∀ m, k < m → m < n → ∀ other, ¬ writes m other) :
    Recalled isThere writes initial n []

/-- After all of `actions` the place holds what is `Recalled` of their history, which is something
exactly if `hasPlace`; and a text that is written while the place is not there changes nothing and
leaves no trace in the end. -/
structure Remembers (hasPlace : Builder → Prop) (content : Builder → Option Text)
    (write : Text → Step) (b : Builder) (actions : List Action) : Prop where
  isSome_content_iff : (content (b.actAll actions)).isSome = true ↔ hasPlace (b.actAll actions)
  content_eq_some_iff : ∀ text, content (b.actAll actions) = some text ↔
    Recalled (fun k => hasPlace (b.moment actions k))
      (fun k text => actions[k]? = some (.step (write text))) (content b) actions.length text
  write_outside : ∀ k text, actions[k]? = some (.step (write text)) →
    ¬ hasPlace (b.moment actions k) →
      b.moment actions (k + 1) = b.moment actions k ∧
        b.actAll (actions.eraseIdx k) = b.actAll actions

/-- An action after which the place is there, and which does not write to it, leaves what is
recalled as it is. -/
theorem Recalled.succ {isThere : Nat → Prop} {writes : Nat → Text → Prop} {initial : Option Text}
    {n : Nat} {text : Text} (h : Recalled isThere writes initial n text)
    (hthere : isThere (n + 1)) (hunwritten : ∀ other, ¬ writes n other) :
    Recalled isThere writes initial (n + 1) text := by
  have hmoments : ∀ m ≤ n + 1, (m ≤ n → isThere m) → isThere m := by
    intro m hmn hbefore
    rcases Nat.le_succ_iff.mp hmn with hmn | rfl
    · exact hbefore hmn
    · exact hthere
  have hactions : ∀ m < n + 1, (m < n → ∀ other, ¬ writes m other) →
      ∀ other, ¬ writes m other := by
    intro m hmn hbefore
    rcases Nat.lt_succ_iff_lt_or_eq.mp hmn with hmn | rfl
    · exact hbefore hmn
    · exact hunwritten
  cases h with
  | written hk hwrite hbefore hlatest =>
    exact .written (Nat.lt_succ_of_lt hk) hwrite
      (fun m hm hmn => hmoments m hmn (hbefore m hm)) fun m hm hmn => hactions m hmn (hlatest m hm)
  | kept hinitial hbefore hnone =>
    exact .kept hinitial (fun m hmn => hmoments m hmn (hbefore m)) fun m hmn =>
      hactions m hmn (hnone m)
  | emptied hk hgone hbefore hnone =>
    exact .emptied (Nat.lt_succ_of_lt hk) hgone
      (fun m hm hmn => hmoments m hmn (hbefore m hm)) fun m hm hmn => hactions m hmn (hnone m hm)

/-! ### From one action to the next -/

variable {b : Builder} {actions : List Action}

theorem moment_length (b : Builder) (actions : List Action) :
    b.moment actions actions.length = b.actAll actions := by
  rw [moment, List.take_length]

/-- Each moment comes from the one before by `act`. -/
theorem moment_succ {k : Nat} {a : Action} (h : actions[k]? = some a) :
    b.moment actions (k + 1) = (b.moment actions k).act a := by
  rw [moment, List.take_add_one, h, actAll, List.foldl_append]
  rfl

/-- An action that changes nothing at its moment `k` can be left out. -/
theorem actAll_eraseIdx {k : Nat} (h : b.moment actions (k + 1) = b.moment actions k) :
    b.actAll (actions.eraseIdx k) = b.actAll actions := by
  have hafter : b.actAll actions =
      (b.moment actions (k + 1)).actAll (actions.drop (k + 1)) := by
    rw [moment, actAll, actAll, actAll, ← List.foldl_append, List.take_append_drop]
  rw [hafter, h, List.eraseIdx_eq_take_drop_succ, actAll, List.foldl_append]
  rfl

/-! ### A place -/

/-- What one action does to a place: writing changes what it holds, if it is there; every other
action that spares the form leaves what it holds, takes it away or adds it empty. -/
structure IsPlace (content : Builder → Option Text) (write : Text → Step)
    (spares : Action → Prop) : Prop where
  content_write : ∀ b text, content (b.step (write text)) = (content b).map fun _ => text
  write_outside : ∀ b text, content b = none → b.step (write text) = b
  content_act : ∀ b a, spares a → (∀ text, a ≠ .step (write text)) →
    content (b.act a) = none ∨ content (b.act a) = some ((content b).getD [])

namespace IsPlace

variable {content : Builder → Option Text} {write : Text → Step} {spares : Action → Prop}

/-- If the action `k` writes `text` to the place, the place holds it at the moment `k + 1`, if it is
there. -/
theorem content_moment_of_write (h : IsPlace content write spares) {k : Nat} {text : Text}
    (hk : actions[k]? = some (.step (write text))) :
    content (b.moment actions (k + 1)) = (content (b.moment actions k)).map fun _ => text := by
  rw [moment_succ hk]
  exact h.content_write _ text

/-- If the action `k` does not write to the place, the place is not there at the moment `k + 1`, or
holds what it held, or nothing if it was not there. -/
theorem content_moment_of_not_write (h : IsPlace content write spares)
    (hspares : ∀ a ∈ actions, spares a) {k : Nat} (hk : k < actions.length)
    (hnone : ∀ text, actions[k]? ≠ some (.step (write text))) :
    content (b.moment actions (k + 1)) = none ∨
      content (b.moment actions (k + 1)) = some ((content (b.moment actions k)).getD []) := by
  have haction : actions[k]? = some actions[k] := List.getElem?_eq_getElem hk
  rw [moment_succ haction]
  refine h.content_act _ _ (hspares _ (List.getElem_mem hk)) fun text htext => ?_
  exact hnone text (haction.trans (congrArg some htext))

/-- As long as a place is there and nothing is written to it, from the moment `k` to the moment `n`,
it holds the same. -/
theorem content_moment_of_le (h : IsPlace content write spares)
    (hspares : ∀ a ∈ actions, spares a) {k n : Nat} {text : Text} (hkn : k ≤ n)
    (hn : n ≤ actions.length) (hk : content (b.moment actions k) = some text)
    (hthere : ∀ m, k ≤ m → m ≤ n → (content (b.moment actions m)).isSome = true)
    (hnone : ∀ m, k ≤ m → m < n → ∀ other, actions[m]? ≠ some (.step (write other))) :
    content (b.moment actions n) = some text := by
  induction hkn with
  | refl => exact hk
  | @step n hkn ih =>
    have hbefore := ih (Nat.le_of_succ_le hn) (fun m hm hmn => hthere m hm (Nat.le_succ_of_le hmn))
      fun m hm hmn => hnone m hm (Nat.lt_succ_of_lt hmn)
    rcases h.content_moment_of_not_write (b := b) hspares hn (hnone n hkn (Nat.lt_succ_self n))
      with hgone | hsame
    · have hsome := hthere (n + 1) (Nat.le_succ_of_le hkn) (Nat.le_refl _)
      rw [hgone] at hsome
      cases hsome
    · rw [hsame, hbefore, Option.getD_some]

/-- At every moment `n` a place holds what is `Recalled` of the actions before it. -/
theorem recalled_of_content_moment (h : IsPlace content write spares)
    (hspares : ∀ a ∈ actions, spares a) {n : Nat} (hn : n ≤ actions.length) {text : Text}
    (htext : content (b.moment actions n) = some text) :
    Recalled (fun k => (content (b.moment actions k)).isSome = true)
      (fun k text => actions[k]? = some (.step (write text))) (content b) n text := by
  induction n generalizing text with
  | zero =>
    refine .kept htext (fun m hm => ?_) fun m hm => absurd hm (Nat.not_lt_zero m)
    obtain rfl := Nat.le_zero.mp hm
    rw [htext]
    rfl
  | succ n ih =>
    have hthere : (content (b.moment actions (n + 1))).isSome = true := by
      rw [htext]
      rfl
    by_cases hwrite : ∃ new, actions[n]? = some (.step (write new))
    · obtain ⟨new, hnew⟩ := hwrite
      have hcontent := h.content_moment_of_write (b := b) hnew
      rw [htext] at hcontent
      obtain ⟨old, hold, rfl⟩ := Option.map_eq_some_iff.mp hcontent.symm
      refine .written (Nat.lt_succ_self n) hnew (fun m hm hmn => ?_) fun m hm hmn => ?_
      · obtain rfl | rfl : m = n ∨ m = n + 1 := by omega
        · rw [hold]
          rfl
        · exact hthere
      · omega
    · have hnone : ∀ other, actions[n]? ≠ some (.step (write other)) := not_exists.mp hwrite
      have hcontent :=
        (h.content_moment_of_not_write (b := b) hspares hn hnone).resolve_left (by simp [htext])
      rw [htext] at hcontent
      cases hold : content (b.moment actions n) with
      | none =>
        -- the place has just come back
        rw [hold] at hcontent
        obtain rfl := Option.some.inj hcontent
        refine .emptied (Nat.lt_succ_self n) (by simp [hold]) (fun m hm hmn => ?_)
          fun m hm hmn => ?_
        · obtain rfl : m = n + 1 := by omega
          exact hthere
        · omega
      | some old =>
        rw [hold] at hcontent
        obtain rfl := Option.some.inj hcontent
        exact (ih (Nat.le_of_succ_le hn) hold).succ hthere hnone

/-- What is `Recalled` of the first `n` actions is what a place holds after them. -/
theorem content_moment_of_recalled (h : IsPlace content write spares)
    (hspares : ∀ a ∈ actions, spares a) {n : Nat} (hn : n ≤ actions.length) {text : Text}
    (hrecalled : Recalled (fun k => (content (b.moment actions k)).isSome = true)
      (fun k text => actions[k]? = some (.step (write text))) (content b) n text) :
    content (b.moment actions n) = some text := by
  cases hrecalled with
  | @written k _ hk hwrite hthere hlatest =>
    obtain ⟨old, hold⟩ := Option.isSome_iff_exists.mp (hthere k (Nat.le_refl k) (Nat.le_of_lt hk))
    have hnew : content (b.moment actions (k + 1)) = some text := by
      rw [h.content_moment_of_write hwrite, hold, Option.map_some]
    exact h.content_moment_of_le hspares hk hn hnew
      (fun m hm hmn => hthere m (Nat.le_of_succ_le hm) hmn) hlatest
  | kept hinitial hthere hunwritten =>
    exact h.content_moment_of_le hspares (Nat.zero_le n) hn hinitial (fun m _ hmn => hthere m hmn)
      fun m _ hmn => hunwritten m hmn
  | @emptied k hk hgone hthere hunwritten =>
    rw [Option.not_isSome_iff_eq_none] at hgone
    have hback := hthere (k + 1) (Nat.lt_succ_self k) hk
    -- what is written while the place is not there does not bring it back
    have hnone : ∀ other, actions[k]? ≠ some (.step (write other)) := by
      intro other hother
      rw [h.content_moment_of_write hother, hgone] at hback
      cases hback
    have hempty : content (b.moment actions (k + 1)) = some [] := by
      rcases h.content_moment_of_not_write (b := b) hspares (Nat.lt_of_lt_of_le hk hn) hnone
        with hnot | hadded
      · rw [hnot] at hback
        cases hback
      · rw [hadded, hgone, Option.getD_none]
    exact h.content_moment_of_le hspares hk hn hempty hthere hunwritten

/-- **The law of a place.** A form `Remembers` what was written to a place, if at every moment the
place is where `hasPlace` says it is. -/
theorem remembers (h : IsPlace content write spares) {hasPlace : Builder → Prop}
    (hplace : ∀ k, (content (b.moment actions k)).isSome = true ↔ hasPlace (b.moment actions k))
    (hspares : ∀ a ∈ actions, spares a) : Remembers hasPlace content write b actions where
  isSome_content_iff := by
    rw [← moment_length]
    exact hplace actions.length
  content_eq_some_iff text := by
    rw [← moment_length, ← funext fun k => propext (hplace k)]
    exact ⟨h.recalled_of_content_moment hspares (Nat.le_refl _),
      h.content_moment_of_recalled hspares (Nat.le_refl _)⟩
  write_outside k text hk houtside := by
    rw [← hplace, Option.not_isSome_iff_eq_none] at houtside
    have hsame : b.moment actions (k + 1) = b.moment actions k := by
      rw [moment_succ hk]
      exact h.write_outside _ text houtside
    exact ⟨hsame, actAll_eraseIdx hsame⟩

end IsPlace

/-! ### The two forms -/

theorem eq_none_or_eq_some_getD (content : Option Text) :
    content = none ∨ content = some (content.getD []) := by
  cases content with
  | none => exact .inl rfl
  | some text => exact .inr rfl

theorem cells_load {e : Expr} (h : e.kind ≠ .matrix) : (b.load e).cells = b.cells := by
  cases e with
  | matrix => exact absurd rfl h
  | _ => rfl

theorem entries_load {e : Expr} (h : e.kind ≠ .vector) : (b.load e).entries = b.entries := by
  cases e with
  | vector => exact absurd rfl h
  | _ => rfl

theorem isPlace_cell (row col : Nat) :
    IsPlace (fun b => b.cells.cell? row col) (.writeCell row col) (Action.Spares .matrix) where
  content_write b text := Grid.cell?_setCell_self row col text b.cells
  write_outside b text h := by
    show b.writeCell row col text = b
    rw [writeCell, Grid.setCell_eq_self h]
  content_act b a hspares hwrite := by
    have hsame := eq_none_or_eq_some_getD (b.cells.cell? row col)
    cases a with
    | assign mode editing => exact hsame
    | step s =>
      cases s with
      | resizeMatrix rows cols => exact Grid.cell?_resize_eq_or row col b.cells
      | writeCell row' col' text =>
        have hother : ¬ (row' = row ∧ col' = col) := by
          rintro ⟨rfl, rfl⟩
          exact hwrite text rfl
        show (b.cells.setCell row' col' text).cell? row col = none ∨
          (b.cells.setCell row' col' text).cell? row col = _
        rw [Grid.cell?_setCell_of_ne hother]
        exact hsame
      | enterEdit block e =>
        have hcells : (b.enterEdit block e).cells = b.cells :=
          cells_load (b := { b with mode := .edit, editing := some block }) hspares
        show (b.enterEdit block e).cells.cell? row col = none ∨
          (b.enterEdit block e).cells.cell? row col = _
        rw [hcells]
        exact hsame
      | load e =>
        show (b.load e).cells.cell? row col = none ∨ (b.load e).cells.cell? row col = _
        rw [cells_load hspares]
        exact hsame
      | exitEdit => exact hspares.elim
      | reset => exact hspares.elim
      | showTab | resizeVector | writeEntry | toggleOrientation | writeField => exact hsame

theorem isPlace_entry (index : Nat) :
    IsPlace (fun b => b.entries[index]?) (.writeEntry index) (Action.Spares .vector) where
  content_write b text := List.getElem?_set_self'
  write_outside b text h := by
    show b.writeEntry index text = b
    rw [writeEntry, List.set_eq_of_length_le (List.getElem?_eq_none_iff.mp h)]
  content_act b a hspares hwrite := by
    have hsame := eq_none_or_eq_some_getD b.entries[index]?
    cases a with
    | assign mode editing => exact hsame
    | step s =>
      cases s with
      | resizeVector size =>
        show (Grid.fit size [] b.entries)[index]? = none ∨
          (Grid.fit size [] b.entries)[index]? = _
        rw [Grid.getElem?_fit]
        split
        · exact .inr rfl
        · exact .inl rfl
      | writeEntry index' text =>
        have hother : index' ≠ index := by
          rintro rfl
          exact hwrite text rfl
        show (b.entries.set index' text)[index]? = none ∨ (b.entries.set index' text)[index]? = _
        rw [List.getElem?_set_ne hother]
        exact hsame
      | enterEdit block e =>
        have hentries : (b.enterEdit block e).entries = b.entries :=
          entries_load (b := { b with mode := .edit, editing := some block }) hspares
        show (b.enterEdit block e).entries[index]? = none ∨
          (b.enterEdit block e).entries[index]? = _
        rw [hentries]
        exact hsame
      | load e =>
        show (b.load e).entries[index]? = none ∨ (b.load e).entries[index]? = _
        rw [entries_load hspares]
        exact hsame
      | exitEdit => exact hspares.elim
      | reset => exact hspares.elim
      | showTab | resizeMatrix | writeCell | toggleOrientation | writeField => exact hsame

/-- A matrix that has its shape keeps it as long as no other is loaded. -/
theorem IsRectangular.act (h : b.IsRectangular) {a : Action} (ha : a.Spares .matrix) :
    (b.act a).IsRectangular := by
  cases a with
  | assign mode editing => exact h
  | step s =>
    refine h.step (s := s) ?_
    cases s with
    | enterEdit block e => exact Expr.isShaped_of_kind_ne ha
    | load e => exact Expr.isShaped_of_kind_ne ha
    | _ => trivial

theorem IsRectangular.actAll (h : b.IsRectangular) (ha : ∀ a ∈ actions, a.Spares .matrix) :
    (b.actAll actions).IsRectangular := by
  induction actions generalizing b with
  | nil => exact h
  | cons a actions ih =>
    obtain ⟨ha, hrest⟩ := List.forall_mem_cons.mp ha
    exact ih (h.act ha) hrest

/-! ### Both remember -/

/-- **What the forms remember.** Whatever is done with a builder `b`, as long as no matrix is loaded
and the forms are not cleared (`Action.Spares`), its matrix `Remembers` what was written to each
place, if it had its shape at first: the places that are there are those within `rows` and `cols` of
the moment. The vector remembers what was written to each of its places as long as no vector is
loaded and the forms are not cleared. -/
theorem remembers_matrix_and_vector (b : Builder) (actions : List Action) :
    (b.IsRectangular → (∀ a ∈ actions, a.Spares .matrix) →
      ∀ row col, Remembers (fun b => row < b.rows ∧ col < b.cols)
        (fun b => b.cells.cell? row col) (.writeCell row col) b actions) ∧
    ((∀ a ∈ actions, a.Spares .vector) →
      ∀ index, Remembers (fun b => index < b.entries.length)
        (fun b => b.entries[index]?) (.writeEntry index) b actions) := by
  constructor
  · intro hb hspares row col
    refine (isPlace_cell row col).remembers (fun k => ?_) hspares
    have hmoment : (b.moment actions k).IsRectangular :=
      hb.actAll fun a ha => hspares a (List.mem_of_mem_take ha)
    exact hmoment.isSome_cell?_iff
  · intro hspares index
    refine (isPlace_entry index).remembers (fun k => ?_) hspares
    exact iff_of_eq (isSome_getElem? _ _)

/-- A cell and an entry are written and cut off, written again while they are not there, and come
back empty, with an integral loaded and the block assigned in between; the cell that stayed holds
what was written to it. -/
theorem remembers_matrix_and_vector_cut_off :
    let actions : List Action := [.step (.writeCell 1 1 ['d']), .step (.writeEntry 2 ['z']),
      .step (.writeCell 0 0 ['a']), .step (.resizeMatrix 3 1), .step (.resizeVector 1),
      .step (.writeCell 1 1 ['x']), .step (.enterEdit ['b'] (.integral ['f'] none none none)),
      .step (.writeEntry 2 ['y']), .assign .create none, .step (.resizeVector 4),
      .step (.resizeMatrix 2 2)]
    let final := actAll {} actions
    (IsRectangular {} ∧ (∀ a ∈ actions, a.Spares .matrix) ∧ ∀ a ∈ actions, a.Spares .vector) ∧
      (final.cells.cell? 1 1 = some [] ∧ final.cells.cell? 0 0 = some ['a'] ∧
        final.entries[2]? = some []) ∧
      Remembers (fun b => 1 < b.rows ∧ 1 < b.cols) (fun b => b.cells.cell? 1 1) (.writeCell 1 1) {}
        actions ∧
      Remembers (fun b => 0 < b.rows ∧ 0 < b.cols) (fun b => b.cells.cell? 0 0) (.writeCell 0 0) {}
        actions ∧
      Remembers (fun b => 2 < b.entries.length) (fun b => b.entries[2]?) (.writeEntry 2) {}
        actions := by
  intro actions final
  have hshape : IsRectangular {} := Grid.hasShape_blank 2 2
  have hmatrix : ∀ a ∈ actions, a.Spares .matrix := by
    simp [actions, Action.Spares, Expr.kind]
  have hvector : ∀ a ∈ actions, a.Spares .vector := by
    simp [actions, Action.Spares, Expr.kind]
  obtain ⟨hcells, hentries⟩ := remembers_matrix_and_vector {} actions
  exact ⟨⟨hshape, hmatrix, hvector⟩, ⟨rfl, rfl, rfl⟩, hcells hshape hmatrix 1 1,
    hcells hshape hmatrix 0 0, hentries hvector 2⟩

end Builder

end MathNotes
