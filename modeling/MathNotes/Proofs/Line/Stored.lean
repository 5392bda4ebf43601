import MathNotes.Line.Json
import MathNotes.Proofs.Json.Nesting
import MathNotes.Proofs.Json.Record

/-!
# Stored elements

An element of a line is read back from `Element.toJson`, the JSON value it is stored as
(`decode?_toJson`), and so from every text that spells this value and does not nest too deeply
(`read_of_spellsValue`).
-/

namespace MathNotes.Element

open Json

/-- Whether the sizes in an element are below `wordLimit`. Only a matrix has any. -/
def FitsWords : Element → Prop
  | .matrix rows cols _ => rows < wordLimit ∧ cols < wordLimit
  | _ => True

theorem decode?_matrix (rows cols cells : Json) :
    decode? (.object [(tagKey, .string "matrix"), ("rows", rows), ("cols", cols),
      ("data", cells)]) = do return matrix (← rows.size?) (← cols.size?) (← cells.grid?) :=
  rfl

/-- **Round trip.** An element `x` is read back from `x.toJson`. -/
theorem decode?_toJson {x : Element} (h : x.FitsWords) : decode? x.toJson = some x := by
  cases x with
  | text content => rfl
  | matrix rows cols cells =>
    obtain ⟨hrows, hcols⟩ := h
    rw [toJson, decode?_matrix, size?_ofNat hrows, size?_ofNat hcols, grid?_ofGrid]
    rfl
  | symbol id glyph => cases glyph <;> rfl

theorem isWritable_toJson {x : Element} (h : x.FitsWords) : x.toJson.IsWritable := by
  cases x with
  | text content => simp [toJson, isWritable_object_iff]
  | matrix rows cols cells =>
    obtain ⟨hrows, hcols⟩ := h
    simp [toJson, isWritable_object_iff, isWritable_ofNat hrows, isWritable_ofNat hcols]
  | symbol id glyph =>
    rw [toJson, isWritable_object_iff]
    simp only [List.forall_mem_append, List.forall_mem_cons]
    refine ⟨⟨isWritable_string _, isWritable_string _, nofun⟩, fun m hm => ?_⟩
    exact isWritable_of_mem_optionalMember hm

/-- A `text` that spells `x.toJson` is read as `x`, if its `nesting` is at most `depthLimit`, and is
an error otherwise. -/
theorem read_of_spellsValue {x : Element} (h : x.FitsWords) {text : Text}
    (htext : SpellsValue x.toJson text) :
    read text = if nesting text ≤ depthLimit then .ok x else .error .json := by
  have hread := bind_read?_of_spellsValue (isWritable_toJson h) (decode?_toJson h) htext
  rw [read, show (Json.read? text).bind ofJson? = _ from hread]
  by_cases hlimit : nesting text ≤ depthLimit
  · rw [if_pos hlimit, if_pos hlimit]
  · rw [if_neg hlimit, if_neg hlimit]

end MathNotes.Element
