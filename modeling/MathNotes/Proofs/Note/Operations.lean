import MathNotes.Note.Basic

/-!
# Operations on the blocks of a note

Ids of blocks may repeat, so what an operation on an id acts on is said by cutting the blocks at the
first that has the id (`IsCutAt`). There is such a cut exactly if some block has the id
(`exists_isCutAt_iff`).

* At a cut, changing and taking out act on the block at the cut and on no other
  (`IsCutAt.update_eq`, `IsCutAt.remove_eq`); without one they leave the whole note as it is
  (`update_of_absent`, `remove_of_absent`).
* A block can be put in at every position from the front to the end (`insertAt_of_le`), and is put
  in at the end for any other (`insertAt_of_forall_lt`). If its id is new, it stands at the cut, so
  that to take it out again undoes putting it in (`remove_insert`).
* How often a change is run cannot be seen from the note that comes out. It can from a change that
  does something beside yielding a block, such as counting how often it is run (`updateM`).
-/

namespace MathNotes.Note

variable {n : Note} {id : Text} {before after blocks : List Block} {b : Block}

/-! ### The first block with an id -/

/-- The blocks are cut into `before`, `b` and `after` at the first block `b` that has the `id`. -/
structure IsCutAt (id : Text) (blocks before : List Block) (b : Block) (after : List Block) :
    Prop where
  eq_append : blocks = before ++ b :: after
  id_eq : b.id = id
  id_ne : ∀ c ∈ before, c.id ≠ id

/-- What `find?` finds is the block at which the blocks are cut. -/
theorem find?_eq_some_iff_isCutAt :
    blocks.find? (fun c => c.id = id) = some b ↔
      ∃ before after, IsCutAt id blocks before b after := by
  rw [List.find?_eq_some_iff_append]
  simp only [decide_eq_true_eq, Bool.not_eq_true', decide_eq_false_iff_not]
  constructor
  · rintro ⟨hid, before, after, heq, hne⟩
    exact ⟨before, after, heq, hid, hne⟩
  · rintro ⟨before, after, heq, hid, hne⟩
    exact ⟨hid, before, after, heq, hne⟩

theorem exists_isCutAt_iff :
    (∃ before b after, IsCutAt id blocks before b after) ↔ ∃ b ∈ blocks, b.id = id := by
  constructor
  · rintro ⟨before, b, after, rfl, hid, -⟩
    exact ⟨b, by simp, hid⟩
  · rintro ⟨b, hb, hid⟩
    have hsome : (blocks.find? fun c => c.id = id).isSome = true :=
      List.find?_isSome.mpr ⟨b, hb, decide_eq_true hid⟩
    obtain ⟨c, hc⟩ := Option.isSome_iff_exists.mp hsome
    obtain ⟨before, after, hcut⟩ := find?_eq_some_iff_isCutAt.mp hc
    exact ⟨before, c, after, hcut⟩

/-- Either the blocks can be cut at the `id`, or no block has it. -/
theorem exists_isCutAt_or_absent (id : Text) (blocks : List Block) :
    (∃ before b after, IsCutAt id blocks before b after) ∨ ∀ b ∈ blocks, b.id ≠ id := by
  rw [exists_isCutAt_iff]
  by_cases h : ∃ b ∈ blocks, b.id = id
  · exact .inl h
  · exact .inr fun b hb hid => h ⟨b, hb, hid⟩

theorem position?_eq_none_iff : n.position? id = none ↔ ∀ b ∈ n.content, b.id ≠ id := by
  rw [position?, List.findIdx?_eq_none_iff]
  simp only [decide_eq_false_iff_not, ne_eq]

theorem IsCutAt.position?_eq (h : IsCutAt id n.content before b after) :
    n.position? id = some before.length := by
  have hbefore : before.findIdx? (fun c => c.id = id) = none := by
    rw [List.findIdx?_eq_none_iff]
    exact fun c hc => decide_eq_false (h.id_ne c hc)
  rw [position?, h.eq_append, List.findIdx?_append, hbefore, List.findIdx?_cons,
    decide_eq_true h.id_eq]
  simp

/-! ### Changing and taking out -/

theorem modify_length_append (before : List Block) (b : Block) (after : List Block)
    (change : Block → Block) :
    (before ++ b :: after).modify before.length change = before ++ change b :: after := by
  induction before with
  | nil => rfl
  | cons c before ih => exact congrArg (c :: ·) ih

/-- At a cut, `update` changes `b` and leaves `before` and `after` as they are. -/
theorem IsCutAt.update_eq (h : IsCutAt id n.content before b after) (change : Block → Block)
    (now : Int64) :
    n.update id change now =
      ({ n with content := before ++ change b :: after, updatedAt := now }, true) := by
  have hcontent := modify_length_append before b after change
  rw [← h.eq_append] at hcontent
  rw [update, h.position?_eq, ← hcontent]
  rfl

/-- Without a block that has the `id`, `update` leaves the note `n` as it is. -/
theorem update_of_absent (h : ∀ b ∈ n.content, b.id ≠ id) (change : Block → Block) (now : Int64) :
    n.update id change now = (n, false) := by
  rw [update, position?_eq_none_iff.mpr h]

/-- At a cut, `remove` takes out `b` and leaves `before ++ after`. -/
theorem IsCutAt.remove_eq (h : IsCutAt id n.content before b after) (now : Int64) :
    n.remove id now = ({ n with content := before ++ after, updatedAt := now }, some b) := by
  have hblock : (before ++ b :: after)[before.length]? = some b := by
    rw [List.getElem?_append_right (Nat.le_refl _), Nat.sub_self]
    rfl
  have hcontent : (before ++ b :: after).eraseIdx before.length = before ++ after := by
    rw [List.eraseIdx_append_of_length_le (Nat.le_refl _), Nat.sub_self]
    rfl
  rw [← h.eq_append] at hblock hcontent
  rw [remove, h.position?_eq, ← hcontent, ← hblock]
  rfl

/-- Without a block that has the `id`, `remove` leaves the note `n` as it is. -/
theorem remove_of_absent (h : ∀ b ∈ n.content, b.id ≠ id) (now : Int64) :
    n.remove id now = (n, none) := by
  rw [remove, position?_eq_none_iff.mpr h]

/-! ### Putting in -/

theorem insertAt_of_le {i : Nat} (h : i ≤ blocks.length) (b : Block) :
    insertAt blocks b (some i) = blocks.take i ++ b :: blocks.drop i := by
  rw [insertAt, if_pos h]
  induction blocks generalizing i with
  | nil =>
    obtain rfl := Nat.le_zero.mp h
    rfl
  | cons c blocks ih =>
    cases i with
    | zero => rfl
    | succ i =>
      rw [List.insertIdx_succ_cons, ih (Nat.le_of_succ_le_succ h)]
      rfl

/-- A position past the end, and `none`, are the end. -/
theorem insertAt_of_forall_lt {position : Option Nat} (h : ∀ i ∈ position, blocks.length < i)
    (b : Block) : insertAt blocks b position = blocks ++ [b] := by
  cases position with
  | none => rfl
  | some i => rw [insertAt, if_neg (Nat.not_le_of_lt (h i rfl))]

/-- Wherever `insertAt` puts `b` in, the others stay in order. -/
theorem exists_insertAt_eq (blocks : List Block) (b : Block) (position : Option Nat) :
    ∃ before after, blocks = before ++ after ∧
      insertAt blocks b position = before ++ b :: after := by
  by_cases hin : ∃ i, position = some i ∧ i ≤ blocks.length
  · obtain ⟨i, rfl, hle⟩ := hin
    exact ⟨blocks.take i, blocks.drop i, (List.take_append_drop i blocks).symm,
      insertAt_of_le hle b⟩
  · refine ⟨blocks, [], (List.append_nil blocks).symm, insertAt_of_forall_lt (fun i hi => ?_) b⟩
    exact Nat.lt_of_not_le fun hle => hin ⟨i, hi, hle⟩

/-- If the id of `b` is new, `remove` undoes `insert`, but for the time of the last change. -/
theorem remove_insert (h : ∀ c ∈ n.content, c.id ≠ b.id) (position : Option Nat)
    (now later : Int64) :
    (n.insert b position now).remove b.id later = ({ n with updatedAt := later }, some b) := by
  obtain ⟨before, after, hsplit, hinsert⟩ := exists_insertAt_eq n.content b position
  have hcut : IsCutAt b.id (n.insert b position now).content before b after := by
    refine ⟨hinsert, rfl, fun c hc => h c ?_⟩
    rw [hsplit]
    exact List.mem_append_left after hc
  rw [hcut.remove_eq later, ← hsplit]
  rfl

/-! ### Changes that do something -/

/-- Change the first block with the given `id` by something that is run, in the monad `m`, to yield
the changed block, and say whether there is such a block. -/
def updateM {m : Type → Type} [Monad m] (n : Note) (id : Text) (change : Block → m Block)
    (now : Int64) : m (Note × Bool) :=
  match n.block? id with
  | some b => do
    let changed ← change b
    return n.update id (fun _ => changed) now
  | none => return (n, false)

section

variable {m : Type → Type} [Monad m]

/-- At a cut, `change` is run once, on `b`. -/
theorem IsCutAt.updateM_eq (h : IsCutAt id n.content before b after) (change : Block → m Block)
    (now : Int64) :
    n.updateM id change now = do
      let changed ← change b
      return ({ n with content := before ++ changed :: after, updatedAt := now }, true) := by
  have hblock : n.block? id = some b := find?_eq_some_iff_isCutAt.mpr ⟨before, after, h⟩
  simp only [updateM, hblock, h.update_eq]

/-- Without a block that has the `id`, `change` is not run. -/
theorem updateM_of_absent (h : ∀ b ∈ n.content, b.id ≠ id) (change : Block → m Block)
    (now : Int64) : n.updateM id change now = return (n, false) := by
  have hblock : n.block? id = none :=
    List.find?_eq_none.mpr fun b hb => by simpa using h b hb
  rw [updateM, hblock]

end

/-- The operation `update` is `updateM` with a change that does nothing but yield a block. -/
theorem update_eq_updateM (n : Note) (id : Text) (change : Block → Block) (now : Int64) :
    n.update id change now = Id.run (n.updateM id (fun b => return change b) now) := by
  rcases exists_isCutAt_or_absent id n.content with ⟨before, b, after, hcut⟩ | habsent
  · rw [hcut.update_eq, hcut.updateM_eq]
    rfl
  · rw [update_of_absent habsent, updateM_of_absent habsent]
    rfl

/-! ### One block or nothing -/

theorem snd_update_eq_true_iff (n : Note) (id : Text) (change : Block → Block) (now : Int64) :
    (n.update id change now).2 = true ↔ ∃ b ∈ n.content, b.id = id := by
  rcases exists_isCutAt_or_absent id n.content with ⟨before, b, after, hcut⟩ | habsent
  · rw [hcut.update_eq]
    exact iff_of_true rfl (exists_isCutAt_iff.mp ⟨before, b, after, hcut⟩)
  · rw [update_of_absent habsent]
    exact iff_of_false Bool.false_ne_true fun ⟨b, hb, hid⟩ => habsent b hb hid

theorem isSome_snd_remove_iff (n : Note) (id : Text) (now : Int64) :
    (n.remove id now).2.isSome = true ↔ ∃ b ∈ n.content, b.id = id := by
  rcases exists_isCutAt_or_absent id n.content with ⟨before, b, after, hcut⟩ | habsent
  · rw [hcut.remove_eq]
    exact iff_of_true rfl (exists_isCutAt_iff.mp ⟨before, b, after, hcut⟩)
  · rw [remove_of_absent habsent]
    exact iff_of_false Bool.false_ne_true fun ⟨b, hb, hid⟩ => habsent b hb hid

/-- **An operation acts on one block or on nothing.** A block is changed by `update` or taken out by
`remove` exactly if some block has the `id`. Then it is the first one, at which the content is cut;
the change is run once, on this block, and everything else in the note stays as it is but for
`updatedAt`. Otherwise the whole note stays as it is, and the change is not run. A block that
`insert` puts in at a position within the content or at its end stands there, and at the end for any
other position; if its id is new, to `remove` it again restores the content. -/
theorem operations_act_on_one_block (n : Note) (id : Text) (now : Int64) :
    ((∃ b ∈ n.content, b.id = id) →
        ∃ before b after, IsCutAt id n.content before b after ∧
          (∀ change, n.update id change now =
            ({ n with content := before ++ change b :: after, updatedAt := now }, true)) ∧
          (∀ (m : Type → Type) [Monad m] (change : Block → m Block), n.updateM id change now = do
            let changed ← change b
            return ({ n with content := before ++ changed :: after, updatedAt := now }, true)) ∧
          n.remove id now = ({ n with content := before ++ after, updatedAt := now }, some b)) ∧
      ((∀ b ∈ n.content, b.id ≠ id) →
        (∀ change, n.update id change now = (n, false)) ∧
          (∀ (m : Type → Type) [Monad m] (change : Block → m Block),
            n.updateM id change now = return (n, false)) ∧
          n.remove id now = (n, none)) ∧
      (∀ change, n.update id change now =
        Id.run (n.updateM id (fun b => return change b) now)) ∧
      ((∀ change, (n.update id change now).2 = true ↔ ∃ b ∈ n.content, b.id = id) ∧
        ((n.remove id now).2.isSome = true ↔ ∃ b ∈ n.content, b.id = id)) ∧
      (∀ b i, i ≤ n.content.length → n.insert b (some i) now =
        { n with content := n.content.take i ++ b :: n.content.drop i, updatedAt := now }) ∧
      (∀ b position, (∀ i ∈ position, n.content.length < i) → n.insert b position now =
        { n with content := n.content ++ [b], updatedAt := now }) ∧
      ∀ b position later, (∀ c ∈ n.content, c.id ≠ b.id) →
        (n.insert b position now).remove b.id later = ({ n with updatedAt := later }, some b) := by
  refine ⟨fun h => ?_, fun h => ⟨fun change => update_of_absent h change now, ?_, ?_⟩,
    fun change => update_eq_updateM n id change now,
    ⟨fun change => snd_update_eq_true_iff n id change now, isSome_snd_remove_iff n id now⟩,
    fun b i hi => ?_, fun b position hposition => ?_, fun b position later hnew => ?_⟩
  · obtain ⟨before, b, after, hcut⟩ := exists_isCutAt_iff.mpr h
    exact ⟨before, b, after, hcut, fun change => hcut.update_eq change now,
      fun _ _ change => hcut.updateM_eq change now, hcut.remove_eq now⟩
  · exact fun _ _ change => updateM_of_absent h change now
  · exact remove_of_absent h now
  · rw [insert, insertAt_of_le hi]
    rfl
  · rw [insert, insertAt_of_forall_lt hposition]
    rfl
  · exact remove_insert hnew position now later

/-- Two of three blocks have one id; a block with another id is put in past the end. -/
theorem operations_act_on_one_block_repeated :
    let n : Note := ⟨"n", "t", [.paragraph "a" "1", .paragraph "b" "2", .paragraph "b" "3"], 0, 0⟩
    let b : Block := .paragraph "c" "4"
    (∃ c ∈ n.content, c.id = "b".toList) ∧
      n.update "b" (Block.edit · (.content "5")) 1 =
        (⟨"n", "t", [.paragraph "a" "1", .paragraph "b" "5", .paragraph "b" "3"], 0, 1⟩, true) ∧
      (∃ before c after, IsCutAt "b" n.content before c after ∧
        n.remove "b" 1 = ({ n with content := before ++ after, updatedAt := 1 }, some c)) ∧
      n.remove "c" 1 = (n, none) ∧
      (n.insert b (some 9) 1).remove "c" 2 = ({ n with updatedAt := 2 }, some b) := by
  intro n b
  have hsome : ∃ c ∈ n.content, c.id = "b".toList := by decide
  have hnone : ∀ c ∈ n.content, c.id ≠ "c".toList := by decide
  obtain ⟨before, c, after, hcut, -, -, hremove⟩ := (operations_act_on_one_block n "b" 1).1 hsome
  obtain ⟨-, hmiss, -, -, -, -, hnew⟩ := operations_act_on_one_block n "c" 1
  exact ⟨hsome, by decide, ⟨before, c, after, hcut, hremove⟩, (hmiss hnone).2.2,
    hnew b (some 9) 2 hnone⟩

end MathNotes.Note
