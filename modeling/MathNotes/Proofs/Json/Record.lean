import MathNotes.Json.Record
import MathNotes.Proofs.Json.Spelling

/-!
# Records are read back from their members

A record is written as an object in which every key is one of those it is read by and stands there
once, behind its tag if it has one. Reading takes off the tag (`tagged?_object`) and finds the entry
of every key (`entries?_object`). In whatever form a record is written, an entry has less
`Json.depth` than the record (`depth_lt_of_mem_entries?`).
-/

namespace MathNotes.Json

/-! ### Members -/

theorem countP_eq_count (k : Text) (members : List (Text × Json)) :
    members.countP (fun m => m.1 = k) = (members.map Prod.fst).count k := by
  rw [List.count, List.countP_map]
  exact List.countP_congr fun m _ => by simp

/-- Where no key stands twice, `entries?` finds for every key what `List.lookup` does. -/
theorem entries?_object {members : List (Text × Json)} (h : (members.map Prod.fst).Nodup)
    (keys : List Text) :
    entries? keys (.object members) = some (keys.map fun k => members.lookup k) := by
  rw [entries?, if_pos]
  rw [List.all_eq_true]
  intro k _
  rw [decide_eq_true_eq, countP_eq_count]
  exact List.nodup_iff_count.mp h k

/-- Where `tag` stands first and nowhere else, `tagged?` takes it off. -/
theorem tagged?_object {tag : Text} {members : List (Text × Json)}
    (h : tag ∉ members.map Prod.fst) (name : Json) :
    tagged? tag (.object ((tag, name) :: members)) = some (name, .object members) := by
  have hne : ∀ m ∈ members, m.1 ≠ tag := fun m hm heq => h (List.mem_map.mpr ⟨m, hm, heq⟩)
  have htag : ((tag, name) :: members).filter (fun m => m.1 = tag) = [(tag, name)] := by
    rw [List.filter_cons_of_pos (by simp), List.filter_eq_nil_iff.mpr]
    intro m hm
    simp [hne m hm]
  have hrest : ((tag, name) :: members).filter (fun m => m.1 ≠ tag) = members := by
    rw [List.filter_cons_of_neg (by simp), List.filter_eq_self]
    intro m hm
    simp [hne m hm]
  rw [tagged?, htag, hrest]

theorem sublist_optionalMember (key : Text) (s : Option Text) :
    ((optionalMember key s).map Prod.fst).Sublist [key] := by
  cases s with
  | none => exact List.nil_sublist _
  | some t => exact List.Sublist.refl _

/-! ### Lists -/

section Lists

variable {α : Type} {item? : Json → Option α} {write : α → Json}

theorem list?_array_cons (j : Json) (items : List Json) :
    list? item? (.array (j :: items)) =
      (item? j).bind fun x => (list? item? (.array items)).map (x :: ·) := by
  show (j :: items).mapM item? = _
  rw [List.mapM_cons]
  show _ = (item? j).bind fun x => (items.mapM item?).map (x :: ·)
  cases item? j with
  | none => rfl
  | some x => cases items.mapM item? <;> rfl

theorem list?_array_map {xs : List α} (h : ∀ x ∈ xs, item? (write x) = some x) :
    list? item? (.array (xs.map write)) = some xs := by
  induction xs with
  | nil => rfl
  | cons x xs ih =>
    obtain ⟨hx, hxs⟩ := List.forall_mem_cons.mp h
    rw [List.map_cons, list?_array_cons, hx, ih hxs]
    rfl

/-- A list is not read by `list?` if one of its items is not. -/
theorem list?_array_eq_none {items : List Json} {j : Json} (hj : j ∈ items)
    (h : item? j = none) : list? item? (.array items) = none := by
  induction items with
  | nil => cases hj
  | cons j' items ih =>
    rw [list?_array_cons]
    rcases List.mem_cons.mp hj with rfl | hj
    · rw [h]
      rfl
    · rw [ih hj]
      cases item? j' <;> rfl

theorem exists_of_mem_list?_array {items : List Json} {xs : List α} {x : α}
    (h : list? item? (.array items) = some xs) (hx : x ∈ xs) :
    ∃ j ∈ items, item? j = some x := by
  induction items generalizing xs with
  | nil =>
    cases h
    cases hx
  | cons j items ih =>
    rw [list?_array_cons] at h
    obtain ⟨y, hy, h⟩ := Option.bind_eq_some_iff.mp h
    obtain ⟨ys, hys, rfl⟩ := Option.map_eq_some_iff.mp h
    rcases List.mem_cons.mp hx with rfl | hx
    · exact ⟨j, List.mem_cons_self .., hy⟩
    · obtain ⟨j', hj', hx'⟩ := ih hys hx
      exact ⟨j', List.mem_cons_of_mem _ hj', hx'⟩

end Lists

/-! ### Values of entries -/

theorem list?_ofTexts (ts : List Text) : list? text? (ofTexts ts) = some ts :=
  list?_array_map fun _ _ => rfl

theorem grid?_ofGrid (cells : List (List Text)) : grid? (ofGrid cells) = some cells :=
  list?_array_map fun ts _ => list?_ofTexts ts

@[simp] theorem isWritable_ofTexts (ts : List Text) : IsWritable (ofTexts ts) :=
  .array fun _ hj => by
    obtain ⟨t, _, rfl⟩ := List.mem_map.mp hj
    exact .string t

@[simp] theorem isWritable_ofGrid (cells : List (List Text)) : IsWritable (ofGrid cells) :=
  .array fun _ hj => by
    obtain ⟨ts, _, rfl⟩ := List.mem_map.mp hj
    exact isWritable_ofTexts ts

theorem isWritable_ofNat {n : Nat} (h : n < wordLimit) : IsWritable (ofNat n) :=
  .integer (by unfold IsWordInteger; omega)

theorem size?_ofNat {n : Nat} (h : n < wordLimit) : size? (ofNat n) = some n := by
  show (if (0 ≤ (n : Int) && (n : Int) < wordLimit) = true then some (n : Int).toNat else none) = _
  rw [if_pos (by simpa using h), Int.toNat_natCast]

theorem size?_lt {j : Json} {n : Nat} (h : j.size? = some n) : n < wordLimit := by
  unfold size? at h
  split at h
  · split at h
    · next hn =>
      simp only [Bool.and_eq_true, decide_eq_true_eq] at hn
      cases h
      omega
    · cases h
  · cases h

@[simp] theorem isWritable_string (s : Text) : IsWritable (.string s) := .string s

@[simp] theorem isWritable_bool (b : Bool) : IsWritable (.bool b) := .bool b

theorem isWritable_object_iff {members : List (Text × Json)} :
    IsWritable (.object members) ↔ ∀ m ∈ members, IsWritable m.2 :=
  ⟨fun h => by cases h; assumption, .object⟩

theorem isWritable_of_mem_optionalMember {key : Text} {s : Option Text} {m : Text × Json}
    (h : m ∈ optionalMember key s) : IsWritable m.2 := by
  cases s with
  | none => cases h
  | some t =>
    cases List.mem_singleton.mp h
    exact .string t

/-! ### Depth -/

@[simp] theorem depth_string (s : Text) : (string s).depth = 0 := rfl

@[simp] theorem depth_bool (b : Bool) : (bool b).depth = 0 := rfl

@[simp] theorem depth_ofNat (n : Nat) : (ofNat n).depth = 0 := rfl

theorem depth_eq_zero_of_mem_optionalMember {key : Text} {s : Option Text} {m : Text × Json}
    (h : m ∈ optionalMember key s) : m.2.depth = 0 := by
  cases s with
  | none => cases h
  | some t =>
    cases List.mem_singleton.mp h
    rfl

theorem depthOfItems_le_iff {items : List Json} {n : Nat} :
    depthOfItems items ≤ n ↔ ∀ j ∈ items, j.depth ≤ n := by
  induction items with
  | nil => simp [depthOfItems]
  | cons j items ih => rw [depthOfItems, Nat.max_le, ih, List.forall_mem_cons]

theorem depthOfMembers_le_iff {members : List (Text × Json)} {n : Nat} :
    depthOfMembers members ≤ n ↔ ∀ m ∈ members, m.2.depth ≤ n := by
  induction members with
  | nil => simp [depthOfMembers]
  | cons m members ih => rw [depthOfMembers, Nat.max_le, ih, List.forall_mem_cons]

theorem depth_array_le_iff {items : List Json} {n : Nat} :
    (array items).depth ≤ n ↔ 0 < n ∧ ∀ j ∈ items, j.depth < n := by
  cases n with
  | zero => simp [depth]
  | succ n =>
    show depthOfItems items + 1 ≤ n + 1 ↔ _
    rw [Nat.add_le_add_iff_right, depthOfItems_le_iff]
    simp only [Nat.lt_succ_iff, Nat.zero_le, true_and]

theorem depth_object_le_iff {members : List (Text × Json)} {n : Nat} :
    (object members).depth ≤ n ↔ 0 < n ∧ ∀ m ∈ members, m.2.depth < n := by
  cases n with
  | zero => simp [depth]
  | succ n =>
    show depthOfMembers members + 1 ≤ n + 1 ↔ _
    rw [Nat.add_le_add_iff_right, depthOfMembers_le_iff]
    simp only [Nat.lt_succ_iff, Nat.zero_le, true_and]

theorem depth_lt_of_mem_array {j : Json} {items : List Json} (h : j ∈ items) :
    j.depth < (array items).depth :=
  (depth_array_le_iff.mp (Nat.le_refl _)).2 j h

theorem depth_lt_of_mem_object {m : Text × Json} {members : List (Text × Json)}
    (h : m ∈ members) : m.2.depth < (object members).depth :=
  (depth_object_le_iff.mp (Nat.le_refl _)).2 m h

theorem mem_of_lookup_eq_some {k : Text} {j : Json} {members : List (Text × Json)}
    (h : members.lookup k = some j) : (k, j) ∈ members := by
  obtain ⟨l, r, rfl, _⟩ := List.lookup_eq_some_iff.mp h
  exact List.mem_append_right _ (List.mem_cons_self ..)

/-- **Entries.** An entry of a record is less deeply nested than the record, whether that is an
object or an array. -/
theorem depth_lt_of_mem_entries? {keys : List Text} {record j : Json} {es : List (Option Json)}
    (h : record.entries? keys = some es) (hj : some j ∈ es) : j.depth < record.depth := by
  unfold entries? at h
  split at h
  · next members =>
    split at h
    · -- the entry is a member of an object
      cases h
      obtain ⟨k, _, hk⟩ := List.mem_map.mp hj
      exact depth_lt_of_mem_object (mem_of_lookup_eq_some hk)
    · cases h
  · next items =>
    split at h
    · -- the entry is an item of an array, since what is missing at its end is no value
      cases h
      rcases List.mem_append.mp hj with hj | hj
      · obtain ⟨j', hj', heq⟩ := List.mem_map.mp hj
        cases heq
        exact depth_lt_of_mem_array hj'
      · cases (List.mem_replicate.mp hj).2
    · cases h
  · cases h

theorem depth_pos_of_entries? {keys : List Text} {record : Json} {es : List (Option Json)}
    (h : record.entries? keys = some es) : 0 < record.depth := by
  cases record with
  | array => exact Nat.succ_pos _
  | object => exact Nat.succ_pos _
  | _ => cases h

theorem depth_le_of_tagged? {tag : Text} {record name rest : Json}
    (h : record.tagged? tag = some (name, rest)) : rest.depth ≤ record.depth := by
  unfold tagged? at h
  split at h
  · next members =>
    split at h
    · -- the members without the tag are members still
      cases h
      refine depth_object_le_iff.mpr ⟨Nat.succ_pos _, fun m hm => ?_⟩
      exact depth_lt_of_mem_object (List.mem_filter.mp hm).1
    · cases h
  · cases h
    exact Nat.succ_le_succ (Nat.le_max_right ..)
  · cases h

/-- What `list?` reads from `j` it reads from items that are less deeply nested. -/
theorem exists_of_mem_list? {α : Type} {item? : Json → Option α} {j : Json} {xs : List α} {x : α}
    (h : list? item? j = some xs) (hx : x ∈ xs) :
    ∃ item, item.depth < j.depth ∧ item? item = some x := by
  cases j with
  | array items =>
    obtain ⟨item, hmem, hread⟩ := exists_of_mem_list?_array h hx
    exact ⟨item, depth_lt_of_mem_array hmem, hread⟩
  | _ => cases h

theorem depth_pos_of_list? {α : Type} {item? : Json → Option α} {j : Json} {xs : List α}
    (h : list? item? j = some xs) : 0 < j.depth := by
  cases j with
  | array items => exact Nat.succ_pos _
  | _ => cases h

/-- What `list?` reads from `j` is written as an array that is nested no more deeply, if that holds
of each item. -/
theorem depth_array_map_le_of_list? {α : Type} {item? : Json → Option α} {write : α → Json}
    (hitem : ∀ {j x}, item? j = some x → (write x).depth ≤ j.depth) {j : Json} {xs : List α}
    (h : list? item? j = some xs) : (array (xs.map write)).depth ≤ j.depth := by
  refine depth_array_le_iff.mpr ⟨depth_pos_of_list? h, List.forall_mem_map.mpr fun x hx => ?_⟩
  obtain ⟨item, hdepth, hread⟩ := exists_of_mem_list? h hx
  exact Nat.lt_of_le_of_lt (hitem hread) hdepth

end MathNotes.Json
