import MathNotes.Proofs.Note.Operations
import MathNotes.Proofs.Note.Stored

/-!
# The markup that is kept

Beside its expression the block of an expression keeps the markup, which can go stale: nothing in
the data forces the two to fit. They do fit in every `Reachable` note (`markup_eq_of_reachable`),
one that can be come to from a new note, or from the text of a note in which they fit, by operations
on notes, among which saving the note and reading it again counts.

What every `Step` keeps is `Block.IsSound` of all blocks (`IsSound.step`). That the sizes of
matrices fit words belongs to it because what is saved is read as the same note only then.
-/

namespace MathNotes

/-! ### Blocks -/

namespace Block

/-- The block `b` keeps the markup of its expression, and the sizes in it fit 64-bit words. -/
structure IsSound (b : Block) : Prop where
  isCoherent : b.IsCoherent
  fitsWords : b.FitsWords

/-- Whether the sizes in the expression of an edit fit 64-bit words. -/
def Edit.FitsWords : Edit → Prop
  | .content _ => True
  | .expr e => e.FitsWords

/-- The function `change` does nothing to a block but `edit` it: it gives a paragraph another text
and the block of an expression another expression, and which ones and how often may depend on the
block. -/
def IsEditing (change : Block → Block) : Prop :=
  ∀ b, ∃ edits : List Edit, (∀ e ∈ edits, e.FitsWords) ∧ change b = edits.foldl edit b

theorem isSound_paragraph (id content : Text) : (paragraph id content).IsSound :=
  ⟨trivial, trivial⟩

theorem isSound_ofExpr {e : Expr} (he : e.FitsWords) (id : Text) (isInline : Bool) :
    (math (.ofExpr id e isInline)).IsSound :=
  ⟨rfl, he⟩

/-- Editing keeps a block sound, since `setExpr` compiles the markup anew. -/
theorem IsSound.edit {b : Block} (h : b.IsSound) {e : Edit} (he : e.FitsWords) :
    (b.edit e).IsSound := by
  -- where block and edit are not of one kind the block stays as it is
  cases b with
  | paragraph id content =>
    cases e with
    | content content => exact isSound_paragraph id content
    | expr e => exact h
  | math b =>
    cases e with
    | content content => exact h
    | expr e => exact ⟨rfl, he⟩

theorem IsSound.foldl_edit {b : Block} (h : b.IsSound) {edits : List Edit}
    (hedits : ∀ e ∈ edits, e.FitsWords) : (edits.foldl Block.edit b).IsSound := by
  induction edits generalizing b with
  | nil => exact h
  | cons e edits ih =>
    obtain ⟨he, hrest⟩ := List.forall_mem_cons.mp hedits
    exact ih (h.edit he) hrest

theorem IsSound.change {b : Block} (h : b.IsSound) {change : Block → Block}
    (hchange : IsEditing change) : (change b).IsSound := by
  obtain ⟨edits, hfits, heq⟩ := hchange b
  rw [heq]
  exact h.foldl_edit hfits

end Block

namespace Note

/-! ### Operations -/

/-- One operation on a note, and what may become of the note by it. Blocks that `insert` puts in
keep the markup of their expressions, and `update` changes blocks by editing them. -/
inductive Step : Note → Note → Prop
  | setTitle {n : Note} (title : Text) (now : Int64) : Step n (n.setTitle title now)
  | touch {n : Note} (now : Int64) : Step n (n.touch now)
  | addParagraph {n : Note} (content : Text) (position : Option Nat) (made : Moment)
    (now : Int64) : Step n (n.addParagraph content position made now).1
  | addMath {n : Note} {e : Expr} (he : e.FitsWords) (isInline : Bool) (position : Option Nat)
    (made : Moment) (now : Int64) : Step n (n.addMath e isInline position made now).1
  | insert {n : Note} {b : Block} (hcoherent : b.IsCoherent) (hfits : b.FitsWords)
    (position : Option Nat) (now : Int64) : Step n (n.insert b position now)
  | update {n : Note} (id : Text) {change : Block → Block} (hchange : Block.IsEditing change)
    (now : Int64) : Step n (n.update id change now).1
  | remove {n : Note} (id : Text) (now : Int64) : Step n (n.remove id now).1
  | reload {n m : Note} (hread : read n.write = .ok m) : Step n m

/-- The notes that one can come to by `Step` from a new note, or from the text of a note whose
blocks keep the markup of their expressions. A note made without a title is a new one with
`defaultTitle`. -/
inductive Reachable : Note → Prop
  | create (title : Text) (noteMoment blockMoment : Moment) (now : Int64) :
    Reachable (create title noteMoment blockMoment now)
  | read {s : Text} {n : Note} (hread : Note.read s = .ok n)
    (hcoherent : ∀ b ∈ n.content, b.IsCoherent) : Reachable n
  | step {n m : Note} : Reachable n → Step n m → Reachable m

/-! ### What an operation keeps -/

theorem read_eq_ok_iff {s : Text} {n : Note} :
    read s = .ok n ↔ (Json.read? s).bind ofJson? = some n := by
  unfold read
  split
  · next m hread => rw [hread, Except.ok.injEq, Option.some.injEq]
  · next hread =>
    rw [hread]
    exact ⟨nofun, nofun⟩

theorem fitsWords_of_read {s : Text} {n : Note} (h : read s = .ok n) : n.FitsWords := by
  obtain ⟨j, -, hj⟩ := Option.bind_eq_some_iff.mp (read_eq_ok_iff.mp h)
  exact (fitsWords_and_depth_toJson_le_of_ofJson? hj).1

/-- What is saved by `write` is read as the same note or not at all. -/
theorem eq_of_read_write {n m : Note} (hn : n.FitsWords) (h : read n.write = .ok m) : m = n := by
  have hspells := Json.spellsValue_indented (isWritable_toJson hn) 0
  rw [write, Json.pretty, read_of_spellsValue hn hspells] at h
  split at h
  · cases h
    rfl
  · -- nested too deeply to be read
    cases h

/-- All blocks of the note `n` are sound. -/
def IsSound (n : Note) : Prop := ∀ b ∈ n.content, b.IsSound

namespace IsSound

variable {n : Note} (h : n.IsSound)

include h

theorem fitsWords : n.FitsWords := fun b hb => (h b hb).fitsWords

/-- The blocks `before` and `after` the one that is put in are those that were there. -/
theorem insert {b : Block} (hb : b.IsSound) (position : Option Nat) (now : Int64) :
    (n.insert b position now).IsSound := by
  obtain ⟨before, after, hsplit, hinsert⟩ := exists_insertAt_eq n.content b position
  have hall : ∀ c ∈ before ++ after, c.IsSound := hsplit ▸ h
  obtain ⟨hbefore, hafter⟩ := List.forall_mem_append.mp hall
  show ∀ c ∈ insertAt n.content b position, c.IsSound
  rw [hinsert, List.forall_mem_append, List.forall_mem_cons]
  exact ⟨hbefore, hb, hafter⟩

theorem of_isCutAt {id : Text} {before after : List Block} {b : Block}
    (hcut : IsCutAt id n.content before b after) :
    (∀ c ∈ before, c.IsSound) ∧ b.IsSound ∧ ∀ c ∈ after, c.IsSound := by
  have hall : ∀ c ∈ before ++ b :: after, c.IsSound := hcut.eq_append ▸ h
  rwa [List.forall_mem_append, List.forall_mem_cons] at hall

theorem update (id : Text) {change : Block → Block} (hchange : Block.IsEditing change)
    (now : Int64) : (n.update id change now).1.IsSound := by
  rcases exists_isCutAt_or_absent id n.content with ⟨before, b, after, hcut⟩ | habsent
  · obtain ⟨hbefore, hb, hafter⟩ := h.of_isCutAt hcut
    rw [hcut.update_eq]
    exact List.forall_mem_append.mpr
      ⟨hbefore, List.forall_mem_cons.mpr ⟨hb.change hchange, hafter⟩⟩
  · rw [update_of_absent habsent]
    exact h

theorem remove (id : Text) (now : Int64) : (n.remove id now).1.IsSound := by
  rcases exists_isCutAt_or_absent id n.content with ⟨before, b, after, hcut⟩ | habsent
  · obtain ⟨hbefore, -, hafter⟩ := h.of_isCutAt hcut
    rw [hcut.remove_eq]
    exact List.forall_mem_append.mpr ⟨hbefore, hafter⟩
  · rw [remove_of_absent habsent]
    exact h

/-- Every operation keeps a note sound, by one lemma for each that changes blocks. -/
theorem step {m : Note} (hstep : Step n m) : m.IsSound := by
  cases hstep with
  | setTitle | touch => exact h
  | addParagraph content position made now =>
    exact h.insert (Block.isSound_paragraph _ content) position now
  | addMath he isInline position made now =>
    exact h.insert (Block.isSound_ofExpr he _ isInline) position now
  | insert hcoherent hfits position now => exact h.insert ⟨hcoherent, hfits⟩ position now
  | update id hchange now => exact h.update id hchange now
  | remove id now => exact h.remove id now
  | reload hread =>
    rw [eq_of_read_write h.fitsWords hread]
    exact h

end IsSound

theorem Reachable.isSound {n : Note} (h : Reachable n) : n.IsSound := by
  induction h with
  | create title noteMoment blockMoment now =>
    exact List.forall_mem_singleton.mpr (Block.isSound_paragraph _ [])
  | read hread hcoherent => exact fun b hb => ⟨hcoherent b hb, fitsWords_of_read hread b hb⟩
  | step _ hstep ih => exact ih.step hstep

/-! ### The markup never goes stale -/

/-- **The markup never goes stale.** In every note `n` that one can come to by the operations on
notes, every block `b` of an expression keeps its markup, `b.markup = b.expr.markup`. -/
theorem markup_eq_of_reachable {n : Note} (h : Reachable n) {b : MathBlock}
    (hb : .math b ∈ n.content) : b.markup = b.expr.markup :=
  (h.isSound (.math b) hb).isCoherent

/-- Two blocks with one id, read from a text; the first is given another expression, a third with
the same id is put in past the end, and the note is saved and read again. -/
theorem markup_eq_of_reachable_reloaded :
    let s : Text := "[\"n\",\"t\",[[\"math\",\"b\",true,[\"symbol\",\"x\"],\"x\"],".toList ++
      "[\"math\",\"b\",false,[\"number\",\"1\"],\"1\"]],0,0]".toList
    let change (b : Block) : Block := b.edit (.expr (.fraction "1" "2"))
    let third : MathBlock := .ofExpr "b" (.integral "x" (some "0") none (some "t")) true
    let n : Note := ⟨"n", "t", [.math ⟨"b", true, .symbol "x", "x"⟩,
      .math ⟨"b", false, .number "1", "1"⟩], 0, 0⟩
    let m : Note := (n.update "b" change 1).1.insert (.math third) (some 7) 2
    Note.read s = .ok n ∧ Note.read m.write = .ok m ∧ Reachable m ∧
      (m.content.length = 3 ∧ ∀ b ∈ m.content, b.id = "b".toList) ∧
      ∀ b, .math b ∈ m.content → b.markup = b.expr.markup := by
  intro s change third n m
  have hread : Note.read s = .ok n := read_eq_ok_iff.mpr (by decide +kernel)
  have hsaved : Note.read m.write = .ok m := read_eq_ok_iff.mpr (by decide +kernel)
  have hchange : Block.IsEditing change := fun b =>
    ⟨[.expr (.fraction "1" "2")], List.forall_mem_singleton.mpr trivial, rfl⟩
  have hthird : (Block.math third).IsCoherent := rfl
  have hn : Reachable n := .read hread (by decide)
  have hinserted : Reachable m :=
    (hn.step (.update "b" hchange 1)).step (.insert hthird trivial (some 7) 2)
  have hm : Reachable m := hinserted.step (.reload hsaved)
  exact ⟨hread, hsaved, hm, by decide, fun b hb => markup_eq_of_reachable hm hb⟩

end Note

end MathNotes
