import MathNotes.Note.Json
import MathNotes.Proofs.Expr.Stored
import MathNotes.Proofs.Line.Stored

/-!
# Stored notes

A note is read back from the JSON value it is stored as, unless this value nests too deeply
(`Note.ofJson?_toJson`). The blocks of a note are checked one by one, each as deep in the note as it
stands, and that makes the limit the same for the note as a whole (`Note.depth_toJson_le_iff`).

Many values are read as one note, but the one it is stored as never nests too deeply if any of them
is read (`Note.fitsWords_and_depth_toJson_le_of_ofJson?`).

The main statements are about texts: `read_write_eq_ite`, for expressions, elements and notes, and
`read_write_of_read`, that a note that was read can be saved and read again.
-/

namespace MathNotes

open Json

theorem Json.int64?_ofInt64 (t : Int64) : int64? (ofInt64 t) = some t := by
  have hlow := t.le_toInt
  have hhigh := t.toInt_lt
  show (if (-(signedLimit : Int) ≤ t.toInt && t.toInt < signedLimit) = true
    then some (Int64.ofInt t.toInt) else none) = _
  rw [if_pos, Int64.ofInt_toInt]
  rw [Bool.and_eq_true, decide_eq_true_eq, decide_eq_true_eq]
  exact ⟨hlow, hhigh⟩

theorem Json.isWritable_ofInt64 (t : Int64) : IsWritable (ofInt64 t) := by
  have hlow := t.le_toInt
  have hhigh := t.toInt_lt
  refine .integer ⟨hlow, ?_⟩
  show t.toInt < 2 ^ 64
  omega

@[simp] theorem Json.depth_ofInt64 (t : Int64) : (ofInt64 t).depth = 0 := rfl

/-! ### Blocks -/

namespace Block

/-- Whether the sizes in the expression of a block fit 64-bit words. -/
def FitsWords : Block → Prop
  | .paragraph .. => True
  | .math b => b.expr.FitsWords

theorem decode?_math (id markup : Text) (isInline : Bool) (expr : Json) :
    decode? (.object [(tagKey, .string "math"), ("id", .string id), ("inline", .bool isInline),
      ("ast", expr), ("latex", .string markup)]) = do
    return math ⟨id, isInline, ← Expr.decode? Expr.innerKind? expr, markup⟩ :=
  rfl

theorem decode?_toJson {b : Block} (h : b.FitsWords) : decode? b.toJson = some b := by
  cases b with
  | paragraph id content => rfl
  | math b =>
    rw [toJson, decode?_math, Expr.decode?_toJson h Expr.innerKind?_name]
    rfl

theorem isWritable_toJson {b : Block} (h : b.FitsWords) : b.toJson.IsWritable := by
  cases b with
  | paragraph id content => simp [toJson, isWritable_object_iff]
  | math b => simp [toJson, isWritable_object_iff, Expr.isWritable_toJson h]

/-- The value of a block `b` is read as `b` inside `levels` brackets, if it is not too deep
there. -/
theorem ofJson?_toJson {b : Block} (h : b.FitsWords) (levels : Nat) :
    ofJson? levels b.toJson = if b.toJson.depth + levels ≤ depthLimit then some b else none := by
  have husable := isUsable_iff_of_isWritable (isWritable_toJson h) levels
  simp only [ofJson?, husable, decode?_toJson h]

/-- What `decode?` yields is stored no deeper than it was read. -/
theorem fitsWords_and_depth_toJson_le_of_decode? {j : Json} {b : Block}
    (h : decode? j = some b) : b.FitsWords ∧ b.toJson.depth ≤ j.depth := by
  simp only [decode?, Option.bind_eq_bind, Option.bind_eq_some_iff] at h
  obtain ⟨⟨tag, rest⟩, htag, name, _, h⟩ := h
  have hrest := depth_le_of_tagged? htag
  dsimp only at h
  split at h
  · -- a paragraph holds texts only
    obtain ⟨es, hentries, h⟩ := Option.bind_eq_some_iff.mp h
    have hpos : 0 < j.depth := Nat.lt_of_lt_of_le (depth_pos_of_entries? hentries) hrest
    split at h
    · cases h
      exact ⟨trivial, depth_object_le_iff.mpr ⟨hpos, by simp [hpos]⟩⟩
    · cases h
  split at h
  · -- the expression lies within the block
    obtain ⟨es, hentries, h⟩ := Option.bind_eq_some_iff.mp h
    split at h
    · next id isInline expr markup =>
      obtain ⟨e, he, heq⟩ := Option.bind_eq_some_iff.mp h
      cases heq
      obtain ⟨hfits, hle⟩ := Expr.fitsWords_and_depth_toJson_le_of_decode? he
      have hexpr : expr.depth < rest.depth := depth_lt_of_mem_entries? hentries (by simp)
      have hstored : e.toJson.depth < j.depth := by omega
      have hpos : 0 < j.depth := by omega
      exact ⟨hfits, depth_object_le_iff.mpr ⟨hpos, by simp [hpos, hstored]⟩⟩
    · cases h
  · cases h

/-- What is read inside `levels` brackets does not nest too deeply when it is stored there. -/
theorem fitsWords_and_depth_toJson_le_of_ofJson? {levels : Nat} {j : Json} {b : Block}
    (h : ofJson? levels j = some b) : b.FitsWords ∧ b.toJson.depth + levels ≤ depthLimit := by
  unfold ofJson? at h
  split at h
  · next husable =>
    obtain ⟨hfits, hle⟩ := fitsWords_and_depth_toJson_le_of_decode? h
    simp only [isUsable, Bool.and_eq_true, decide_eq_true_eq] at husable
    exact ⟨hfits, by omega⟩
  · cases h

end Block

namespace Note

/-- Whether the sizes in all blocks of the note `n` fit 64-bit words. -/
def FitsWords (n : Note) : Prop := ∀ b ∈ n.content, b.FitsWords

theorem ofJson?_object (id title : Text) (content createdAt updatedAt : Json) :
    ofJson? (.object [("id", .string id), ("title", .string title), ("content", content),
      ("createdAt", createdAt), ("updatedAt", updatedAt)]) = do
    return ⟨id, title, ← content.list? (Block.ofJson? contentLevels), ← createdAt.int64?,
      ← updatedAt.int64?⟩ :=
  rfl

theorem isWritable_toJson {n : Note} (h : n.FitsWords) : n.toJson.IsWritable := by
  have hcontent : IsWritable (.array (n.content.map Block.toJson)) := by
    refine .array fun j hj => ?_
    obtain ⟨b, hb, rfl⟩ := List.mem_map.mp hj
    exact Block.isWritable_toJson (h b hb)
  simp [toJson, isWritable_object_iff, hcontent, isWritable_ofInt64]

/-- The note `n` nests too deeply where one of its blocks does, `contentLevels` further in. -/
theorem depth_toJson_le_iff (n : Note) :
    n.toJson.depth ≤ depthLimit ↔
      ∀ b ∈ n.content, b.toJson.depth + contentLevels ≤ depthLimit := by
  have hblocks : (array (n.content.map Block.toJson)).depth ≤ 126 ↔
      ∀ b ∈ n.content, b.toJson.depth + contentLevels ≤ depthLimit := by
    rw [depth_array_le_iff, List.forall_mem_map]
    constructor
    · intro h b hb
      have hdepth := h.2 b hb
      show b.toJson.depth + 2 ≤ 127
      omega
    · intro h
      refine ⟨by decide, fun b hb => ?_⟩
      have hdepth : b.toJson.depth + 2 ≤ 127 := h b hb
      omega
  rw [toJson, depth_object_le_iff, ← hblocks]
  simp [depthLimit, Nat.lt_succ_iff]

/-- The value of a note is read as `n` but for its blocks, which may not be read: those of the
result are what `list?` makes of them. -/
theorem ofJson?_toJson_eq (n : Note) :
    ofJson? n.toJson =
      (list? (Block.ofJson? contentLevels) (.array (n.content.map Block.toJson))).map
        fun blocks => { n with content := blocks } := by
  rw [toJson, ofJson?_object, int64?_ofInt64, int64?_ofInt64]
  cases list? (Block.ofJson? contentLevels) (.array (n.content.map Block.toJson)) <;> rfl

/-- The value of a note `n` is read as `n`, unless it nests deeper than `depthLimit`. -/
theorem ofJson?_toJson {n : Note} (h : n.FitsWords) :
    ofJson? n.toJson = if n.toJson.depth ≤ depthLimit then some n else none := by
  have hread {b : Block} (hb : b ∈ n.content) := Block.ofJson?_toJson (h b hb) contentLevels
  rw [ofJson?_toJson_eq]
  by_cases hdepth : n.toJson.depth ≤ depthLimit
  · -- every block is read where it stands
    have hall := n.depth_toJson_le_iff.mp hdepth
    rw [if_pos hdepth, list?_array_map fun b hb => (hread hb).trans (if_pos (hall b hb))]
    rfl
  · -- one block nests too deeply where it stands, and with it all of them are refused
    obtain ⟨b, hb, hdeep⟩ : ∃ b ∈ n.content, ¬b.toJson.depth + contentLevels ≤ depthLimit := by
      simpa [depth_toJson_le_iff] using hdepth
    rw [if_neg hdepth, list?_array_eq_none (List.mem_map_of_mem hb)
      ((hread hb).trans (if_neg hdeep))]
    rfl

/-- Whatever value `j` the note `n` is read of, `n.toJson` does not nest too deeply. -/
theorem fitsWords_and_depth_toJson_le_of_ofJson? {j : Json} {n : Note} (h : ofJson? j = some n) :
    n.FitsWords ∧ n.toJson.depth ≤ depthLimit := by
  simp only [ofJson?, Option.bind_eq_bind, Option.bind_eq_some_iff] at h
  obtain ⟨es, _, h⟩ := h
  split at h
  · next id title content createdAt updatedAt =>
    simp only [Option.bind_eq_some_iff] at h
    obtain ⟨blocks, hblocks, created, _, updated, _, heq⟩ := h
    cases heq
    have hblock {b : Block} (hb : b ∈ blocks) :
        b.FitsWords ∧ b.toJson.depth + contentLevels ≤ depthLimit := by
      obtain ⟨item, _, hitem⟩ := exists_of_mem_list? hblocks hb
      exact Block.fitsWords_and_depth_toJson_le_of_ofJson? hitem
    exact ⟨fun b hb => (hblock hb).1, (depth_toJson_le_iff _).mpr fun b hb => (hblock hb).2⟩
  · cases h

/-- A whole `text` that spells the value of `n` is read as `n`, if `nesting text ≤ depthLimit`. -/
theorem read_of_spellsValue {n : Note} (h : n.FitsWords) {text : Text}
    (htext : SpellsValue n.toJson text) :
    read text = if nesting text ≤ depthLimit then .ok n else .error .json := by
  have hwritable := isWritable_toJson h
  rw [nesting_of_spellsValue hwritable htext, read, read?_of_spellsValue hwritable htext,
    Option.bind_some, ofJson?_toJson h]
  by_cases hdepth : n.toJson.depth ≤ depthLimit
  · rw [if_pos hdepth, if_pos hdepth]
  · rw [if_neg hdepth, if_neg hdepth]

end Note

/-! ### Writing and reading -/

/-- **Round trip.** What `write` makes of an expression, an element or a note is read as what it was
made of if `nesting` is at most `depthLimit`, and is an `Error.json` otherwise. A note may be
written compactly too. -/
theorem read_write_eq_ite :
    (∀ e : Expr, e.FitsWords →
      Expr.read e.write = if nesting e.write ≤ depthLimit then .ok e else .error .json) ∧
    (∀ x : Element, x.FitsWords →
      Element.read x.write = if nesting x.write ≤ depthLimit then .ok x else .error .json) ∧
    ∀ n : Note, n.FitsWords → ∀ text ∈ [n.write, n.toJson.compact],
      Note.read text = if nesting text ≤ depthLimit then .ok n else .error .json := by
  refine ⟨fun e he => ?_, fun x hx => ?_, fun n hn text htext => ?_⟩
  · exact Expr.read_of_spellsValue he (spellsValue_compact (Expr.isWritable_toJson he))
  · exact Element.read_of_spellsValue hx (spellsValue_compact (Element.isWritable_toJson hx))
  · have hwritable := Note.isWritable_toJson hn
    simp only [List.mem_cons, List.not_mem_nil, or_false] at htext
    rcases htext with rfl | rfl
    · exact Note.read_of_spellsValue hn (spellsValue_indented hwritable 0)
    · exact Note.read_of_spellsValue hn (spellsValue_compact hwritable)

/-- Wrappers may be nested up to the limit and no further; escapes, the ends of the ranges of
numbers and shapes that do not fit their cells do no harm. -/
theorem read_write_wrappers :
    let tower (height : Nat) : Expr := (List.replicate height Wrapper.norm).foldr .wrapped
      (.integral "\"\\" none (some "\u0001") none)
    let x : Element := .matrix 3 18446744073709551615 [[], ["\n😀"]]
    let n : Note := ⟨"", "é\u007f", [.math ⟨"\t", true, tower 2, "[\x7b"⟩, .paragraph "" "\""],
      -9223372036854775808, 9223372036854775807⟩
    ((tower 126).FitsWords ∧ Expr.read (tower 126).write = .ok (tower 126)) ∧
      ((tower 127).FitsWords ∧ Expr.read (tower 127).write = .error .json) ∧
      (x.FitsWords ∧ Element.read x.write = .ok x) ∧
      n.FitsWords ∧ Note.read n.write = .ok n ∧ Note.read n.toJson.compact = .ok n := by
  intro tower x n
  have hfits (height : Nat) : (tower height).FitsWords := by
    induction height with
    | zero => trivial
    | succ height ih => exact ih
  have hdepth (height : Nat) : (tower height).toJson.depth = height + 1 := by
    induction height with
    | zero => rfl
    | succ height ih =>
      show max 0 (max 0 (max (tower height).toJson.depth 0)) + 1 = height + 2
      omega
  have hnesting (height : Nat) : nesting (tower height).write = height + 1 := by
    have hwritable := Expr.isWritable_toJson (hfits height)
    rw [← hdepth height, Expr.write,
      nesting_of_spellsValue hwritable (spellsValue_compact hwritable)]
  have hx : x.FitsWords := ⟨by decide, by decide⟩
  have hn : n.FitsWords :=
    List.forall_mem_cons.mpr ⟨hfits 2, List.forall_mem_cons.mpr ⟨trivial, nofun⟩⟩
  obtain ⟨hexpr, helement, hnote⟩ := read_write_eq_ite
  refine ⟨⟨hfits 126, ?_⟩, ⟨hfits 127, ?_⟩, ⟨hx, ?_⟩, hn, ?_, ?_⟩
  · rw [hexpr _ (hfits 126), hnesting, if_pos (by decide)]
  · rw [hexpr _ (hfits 127), hnesting, if_neg (by decide)]
  · rw [helement x hx, if_pos (by decide +kernel)]
  · rw [hnote n hn n.write (by simp), if_pos (by decide +kernel)]
  · rw [hnote n hn n.toJson.compact (by simp), if_pos (by decide +kernel)]

/-- **Saving again.** A note `n` that was read from any text `s` is written as a text from which it
is read, `read n.write = .ok n`. -/
theorem read_write_of_read {s : Text} {n : Note} (h : Note.read s = .ok n) :
    Note.read n.write = .ok n := by
  unfold Note.read at h
  split at h
  · next n' hread =>
    cases h
    -- of the value that was read only its depth counts: that of the value stored is no greater
    obtain ⟨j, _, hj⟩ := Option.bind_eq_some_iff.mp hread
    obtain ⟨hfits, hdepth⟩ := Note.fitsWords_and_depth_toJson_le_of_ofJson? hj
    have hspells := spellsValue_indented (Note.isWritable_toJson hfits) 0
    have hnesting := nesting_of_spellsValue (Note.isWritable_toJson hfits) hspells
    rw [Note.write, Json.pretty, Note.read_of_spellsValue hfits hspells, hnesting, if_pos hdepth]
  · cases h

/-- A note written as an array, with blocks in either form, an unknown key, a bound that is null and
markup that is not that of its expression. -/
theorem read_write_of_read_array :
    let s : Text :=
      "[\"n\",\"\\u0041\",[ [\"math\",\"b\",true,[\"integral\",\"x\",null],\"y\"],".toList ++
      "\x7b\"id\":\"\",\"z\":1,\"text\":\"\",\"type\":\"paragraph\"\x7d],0,-1]".toList
    let n : Note := ⟨"n", "A", [.math ⟨"b", true, .integral "x" none none none, "y"⟩,
      .paragraph "" ""], 0, -1⟩
    Note.read s = .ok n ∧ Note.read n.write = .ok n := by
  intro s n
  have hread : (Json.read? s).bind Note.ofJson? = some n := by decide +kernel
  have h : Note.read s = .ok n := by rw [Note.read, hread]
  exact ⟨h, read_write_of_read h⟩

end MathNotes
