import MathNotes.Json.Basic

/-!
# Records in JSON

A record is an object with known keys, in any order; other members are ignored, but a known key may
not be repeated. It may also be written as the array of its entries in order, from which entries at
the end may be missing (`entries?`). One record can have several forms, told apart by a tag: a
member of the object, or the first item of the array (`tagged?`).
-/

namespace MathNotes.Json

/-- The entries of a record under the given `keys`, in their order. An entry that is missing is
`none`. -/
def entries? (keys : List Text) : Json → Option (List (Option Json))
  | .object members =>
    if keys.all fun k => members.countP (fun m => m.1 = k) ≤ 1 then
      some (keys.map fun k => members.lookup k)
    else none
  | .array items =>
    if items.length ≤ keys.length then
      some (items.map some ++ List.replicate (keys.length - items.length) none)
    else none
  | _ => none

/-- The value under `tag` of a record with several forms, and the record without it. -/
def tagged? (tag : Text) : Json → Option (Json × Json)
  | .object members =>
    match members.filter fun m => m.1 = tag with
    | [(_, name)] => some (name, .object (members.filter fun m => m.1 ≠ tag))
    | _ => none
  | .array (name :: items) => some (name, .array items)
  | _ => none

/-! ### Entries -/

/-- Read an entry that is a text. -/
def text? : Json → Option Text
  | .string s => some s
  | _ => none

/-- Read an entry that is a text and may be missing or `null`. -/
def optionalText? : Option Json → Option (Option Text)
  | none => some none
  | some .null => some none
  | some (.string s) => some (some s)
  | some _ => none

/-- Read one of several words inside a tagged record: the word itself, or an object with the word as
its only key and `null` or no members under it. -/
def choice? : Json → Option Text
  | .string s => some s
  | .object [(s, .null)] => some s
  | .object [(s, .object [])] => some s
  | _ => none

/-- Read an entry that is a truth value. -/
def bool? : Json → Option Bool
  | .bool b => some b
  | _ => none

/-- Read a list, each item by `item?`. -/
def list? {α : Type} (item? : Json → Option α) : Json → Option (List α)
  | .array items => items.mapM item?
  | _ => none

/-- Read a size: an integer from 0 to below `wordLimit`. -/
def size? : Json → Option Nat
  | .number (.integer n) => if 0 ≤ n && n < wordLimit then some n.toNat else none
  | _ => none

/-- Read a time: an integer that fits a signed 64-bit word (`signedLimit`). -/
def int64? : Json → Option Int64
  | .number (.integer n) =>
    if -(signedLimit : Int) ≤ n && n < signedLimit then some (Int64.ofInt n) else none
  | _ => none

/-- Read a grid of texts, as a list of lists (`list?`). -/
def grid? : Json → Option (List (List Text)) := list? (list? text?)

/-! ### Values of entries -/

/-- The natural number `n` as a JSON value, without regard to `wordLimit`. -/
def ofNat (n : Nat) : Json := .number (.integer n)

/-- The list of texts `ts` as a JSON value. -/
def ofTexts (ts : List Text) : Json := .array (ts.map .string)

/-- The rows of `cells` as a JSON value, each by `ofTexts`. -/
def ofGrid (cells : List (List Text)) : Json := .array (cells.map ofTexts)

/-- The member for a text that may be absent. There is none for `none`. -/
def optionalMember (key : Text) : Option Text → List (Text × Json)
  | some s => [(key, .string s)]
  | none => []

/-! ### What is read is smaller -/

theorem sizeOf_of_lookup {members : List (Text × Json)} {k : Text} {j : Json}
    (h : members.lookup k = some j) : sizeOf j < sizeOf members := by
  induction members with
  | nil => cases h
  | cons m rest ih =>
    obtain ⟨k', j'⟩ := m
    rw [List.lookup_cons] at h
    split at h
    · cases h
      simp
      omega
    · have := ih h
      simp
      omega

theorem sizeOf_of_mem_entries? {keys : List Text} {record j : Json} {es : List (Option Json)}
    (h : record.entries? keys = some es) (hj : some j ∈ es) : sizeOf j < sizeOf record := by
  unfold entries? at h
  split at h
  · split at h
    · cases h
      obtain ⟨k, _, hk⟩ := List.mem_map.mp hj
      have := sizeOf_of_lookup hk
      simp
      omega
    · cases h
  · split at h
    · cases h
      rw [List.mem_append] at hj
      rcases hj with hj | hj
      · obtain ⟨j', hj', heq⟩ := List.mem_map.mp hj
        cases heq
        have := List.sizeOf_lt_of_mem hj'
        simp
        omega
      · rw [List.mem_replicate] at hj
        cases hj.2
    · cases h
  · cases h

theorem sizeOf_filter_le (p : Text × Json → Bool) (members : List (Text × Json)) :
    sizeOf (members.filter p) ≤ sizeOf members := by
  induction members with
  | nil => simp
  | cons m rest ih =>
    rw [List.filter_cons]
    split
    · simp only [List.cons.sizeOf_spec]
      omega
    · simp only [List.cons.sizeOf_spec]
      omega

theorem sizeOf_of_tagged? {tag : Text} {record name rest : Json}
    (h : record.tagged? tag = some (name, rest)) : sizeOf rest ≤ sizeOf record := by
  unfold tagged? at h
  split at h
  · next members =>
    split at h
    · cases h
      have := sizeOf_filter_le (fun m => m.1 ≠ tag) members
      simp only [object.sizeOf_spec]
      omega
    · cases h
  · cases h
    simp only [array.sizeOf_spec, List.cons.sizeOf_spec]
    omega
  · cases h

end MathNotes.Json
