import Mathlib.Data.List.Basic
import Mathlib.Data.List.Induction
import MathNotes.Template.Catalogue

/-!
# What a registry holds

A registry keeps its templates in one list and their positions in another. That the two agree is
`IsIndexed`: the index leads from an id to a position exactly where a template with this id stands.
Registering keeps it so (`IsIndexed.register`), though it changes both lists for a new id
(`IsIndexed.register_eq`) and only one for an id that is there (`IsIndexed.exists_register_eq`).
`lookup` then changes at the id of the template and nowhere else (`lookup_register`).

The main statement, `ids_and_lookup_registerAll_empty`, describes a registry by the list of the
templates that were registered in it, one after another: its ids are those of the list without
repetitions, and under each stands the template that was last registered (`latest?`).

A registry holds only templates that were registered (`mem_or_mem_of_mem_registerAll`), so what the
standard registry holds, and what it finds under an id, are templates of the catalogue
(`mem_catalogue_of_mem_standard`, `mem_catalogue_of_lookup_standard`).
-/

namespace MathNotes

namespace Registry

variable {r : Registry} {id : Text} {t : Template} {i : Nat}

/-! ### What is in a registry -/

theorem mem_of_lookup_eq_some (h : r.lookup id = some t) : t ∈ r.templates := by
  obtain ⟨i, _, hi⟩ := Option.bind_eq_some_iff.mp h
  exact List.mem_of_getElem? hi

theorem eq_or_mem_of_mem_register {u : Template} (h : u ∈ (r.register t).templates) :
    u = t ∨ u ∈ r.templates := by
  unfold register at h
  split at h
  · exact (List.mem_or_eq_of_mem_set h).symm
  · exact (List.mem_append.mp h).symm.imp_left List.mem_singleton.mp

/-- What `r.registerAll ts` holds, `r` held before or is one of `ts`. -/
theorem mem_or_mem_of_mem_registerAll {ts : List Template}
    (h : t ∈ (r.registerAll ts).templates) : t ∈ r.templates ∨ t ∈ ts := by
  induction ts generalizing r with
  | nil => exact .inl h
  | cons u ts ih =>
    rcases ih (r := r.register u) h with h | h
    · rcases eq_or_mem_of_mem_register h with rfl | h
      · exact .inr (List.mem_cons_self ..)
      · exact .inl h
    · exact .inr (List.mem_cons_of_mem _ h)

/-! ### The index -/

/-- The index leads to where the templates are: `r.position? id = some i` iff `id` is the `i`th of
`r.ids`. No position in it is beyond the templates, even one that a later entry hides. -/
structure IsIndexed (r : Registry) : Prop where
  position?_eq_some_iff : ∀ id i, r.position? id = some i ↔ r.ids[i]? = some id
  lt_size : ∀ entry ∈ r.index, entry.2 < r.size

theorem isIndexed_empty : empty.IsIndexed where
  position?_eq_some_iff _ _ := ⟨nofun, nofun⟩
  lt_size := nofun

theorem IsIndexed.position?_eq_none_iff (h : r.IsIndexed) : r.position? id = none ↔ id ∉ r.ids := by
  rw [Option.eq_none_iff_forall_ne_some, List.mem_iff_getElem?, not_exists]
  exact forall_congr' fun i => not_congr (h.position?_eq_some_iff id i)

theorem getElem?_ids (ht : r.templates[i]? = some t) : r.ids[i]? = some t.id := by
  rw [ids, List.getElem?_map, ht, Option.map_some]

/-- The template at `j` has the id at `i` iff `i = j`: an id stands at one position only. -/
theorem IsIndexed.id_eq_iff (h : r.IsIndexed) {j : Nat} (hi : r.ids[i]? = some id)
    (ht : r.templates[j]? = some t) : t.id = id ↔ i = j := by
  have hj : r.ids[j]? = some t.id := getElem?_ids ht
  constructor
  · rintro rfl
    have hposition : some i = some j :=
      ((h.position?_eq_some_iff _ i).mpr hi).symm.trans ((h.position?_eq_some_iff _ j).mpr hj)
    exact Option.some.inj hposition
  · rintro rfl
    exact Option.some.inj (hj.symm.trans hi)

/-- An id that is there keeps its position, and the template there is replaced by `t`. -/
theorem IsIndexed.exists_register_eq (h : r.IsIndexed) (hmem : t.id ∈ r.ids) :
    ∃ i, r.ids[i]? = some t.id ∧ r.register t = { r with templates := r.templates.set i t } := by
  obtain ⟨i, hi⟩ := List.mem_iff_getElem?.mp hmem
  refine ⟨i, hi, ?_⟩
  rw [Registry.register, (h.position?_eq_some_iff _ _).mpr hi]

/-- A template with a new id comes last, and the index leads there. -/
theorem IsIndexed.register_eq (h : r.IsIndexed) (hmem : t.id ∉ r.ids) :
    r.register t = ⟨r.templates ++ [t], (t.id, r.size) :: r.index⟩ := by
  rw [Registry.register, h.position?_eq_none_iff.mpr hmem]
  rfl

theorem ids_register_of_mem (h : r.IsIndexed) (hmem : t.id ∈ r.ids) :
    (r.register t).ids = r.ids := by
  obtain ⟨i, hi, hregister⟩ := h.exists_register_eq hmem
  rw [hregister, ids, List.map_set]
  obtain ⟨hlt, hget⟩ := List.getElem?_eq_some_iff.mp hi
  rw [← hget]
  exact List.set_getElem_self hlt

theorem ids_register_of_not_mem (h : r.IsIndexed) (hmem : t.id ∉ r.ids) :
    (r.register t).ids = r.ids ++ [t.id] := by
  rw [h.register_eq hmem, ids, List.map_append]
  rfl

/-- Registering `t` under an id that is there replaces the template with this id, and no other. -/
theorem templates_register_of_mem (h : r.IsIndexed) (hmem : t.id ∈ r.ids) :
    (r.register t).templates = r.templates.map fun u => if u.id = t.id then t else u := by
  obtain ⟨i, hi, hregister⟩ := h.exists_register_eq hmem
  rw [hregister]
  refine List.ext_getElem? fun j => ?_
  rw [List.getElem?_set, List.getElem?_map]
  cases hj : r.templates[j]? with
  | none =>
    have hle : r.templates.length ≤ j := List.getElem?_eq_none_iff.mp hj
    split
    · next hij => rw [if_neg (by omega)]; rfl
    · rfl
  | some u =>
    have hlt : j < r.templates.length := (List.getElem?_eq_some_iff.mp hj).1
    rw [Option.map_some, if_congr (h.id_eq_iff hi hj) rfl rfl]
    split
    · next hij => rw [if_pos (by omega)]
    · rfl

theorem position?_register_of_not_mem (h : r.IsIndexed) (hmem : t.id ∉ r.ids) :
    (r.register t).position? id = if id = t.id then some r.size else r.position? id := by
  rw [h.register_eq hmem, position?]
  by_cases hid : id = t.id
  · rw [if_pos hid, hid, List.lookup_cons_self]
  · rw [if_neg hid, List.lookup_cons, beq_eq_false_iff_ne.mpr hid]
    rfl

theorem getElem?_concat_eq_some_iff {α : Type} {xs : List α} {x y : α} {i : Nat} :
    (xs ++ [x])[i]? = some y ↔ xs[i]? = some y ∨ i = xs.length ∧ x = y := by
  rw [List.getElem?_append]
  split
  · next hlt =>
    refine ⟨.inl, fun h => h.resolve_right fun ⟨heq, _⟩ => ?_⟩
    omega
  · next hge =>
    have hnone : xs[i]? = none := List.getElem?_eq_none (Nat.le_of_not_lt hge)
    by_cases hi : i = xs.length
    · subst hi
      simp
    · have hend : [x].length ≤ i - xs.length := by
        rw [List.length_singleton]
        omega
      rw [List.getElem?_eq_none hend]
      simp [hi, hnone]

/-- Registering `t` keeps the index in step with the templates. -/
theorem IsIndexed.register (h : r.IsIndexed) (t : Template) : (r.register t).IsIndexed := by
  have hlength : r.ids.length = r.size := List.length_map ..
  by_cases hmem : t.id ∈ r.ids
  · -- neither the ids nor the index change
    obtain ⟨i, -, hregister⟩ := h.exists_register_eq hmem
    have hsize : (r.register t).size = r.size := by
      rw [hregister]
      exact List.length_set
    constructor
    · intro id j
      rw [ids_register_of_mem h hmem, ← h.position?_eq_some_iff, hregister]
      rfl
    · rw [hsize, hregister]
      exact h.lt_size
  · -- both have one entry more, at the position behind the last
    have hregister := h.register_eq hmem
    have hsize : (r.register t).size = r.size + 1 := by
      rw [hregister]
      exact List.length_append
    constructor
    · intro id j
      rw [position?_register_of_not_mem h hmem, ids_register_of_not_mem h hmem,
        getElem?_concat_eq_some_iff, hlength]
      by_cases hid : id = t.id
      · subst hid
        have hnone : r.ids[j]? ≠ some t.id := fun hj => hmem (List.mem_of_getElem? hj)
        simp [hnone, eq_comm]
      · rw [if_neg hid, h.position?_eq_some_iff]
        simp [Ne.symm hid]
    · rw [hsize, hregister]
      refine List.forall_mem_cons.mpr ⟨Nat.lt_succ_self _, fun entry hentry => ?_⟩
      exact Nat.lt_succ_of_lt (h.lt_size entry hentry)

/-! ### Looking up -/

theorem IsIndexed.lookup_eq_some_iff (h : r.IsIndexed) :
    r.lookup id = some t ↔ t ∈ r.templates ∧ t.id = id := by
  rw [lookup, Option.bind_eq_some_iff]
  constructor
  · rintro ⟨i, hi, ht⟩
    have hid : some t.id = some id :=
      (getElem?_ids ht).symm.trans ((h.position?_eq_some_iff id i).mp hi)
    exact ⟨List.mem_of_getElem? ht, Option.some.inj hid⟩
  · rintro ⟨hmem, rfl⟩
    obtain ⟨i, ht⟩ := List.mem_iff_getElem?.mp hmem
    exact ⟨i, (h.position?_eq_some_iff _ i).mpr (getElem?_ids ht), ht⟩

theorem IsIndexed.lookup_eq_none_iff (h : r.IsIndexed) : r.lookup id = none ↔ id ∉ r.ids := by
  rw [Option.eq_none_iff_forall_ne_some, ids, List.mem_map, not_exists]
  exact forall_congr' fun t => not_congr h.lookup_eq_some_iff

/-- The templates are what `lookup` finds under the ids. -/
theorem IsIndexed.templates_eq (h : r.IsIndexed) : r.templates = r.ids.filterMap r.lookup := by
  have hlookup : ∀ t ∈ r.templates, r.lookup t.id = some t := fun t ht =>
    h.lookup_eq_some_iff.mpr ⟨ht, rfl⟩
  calc r.templates = r.templates.filterMap some := List.filterMap_some.symm
    _ = r.templates.filterMap (r.lookup ∘ (·.id)) :=
      List.filterMap_congr fun t ht => (hlookup t ht).symm
    _ = r.ids.filterMap r.lookup := List.filterMap_map.symm

theorem IsIndexed.getElem?_templates (h : r.IsIndexed) (hi : r.ids[i]? = some id) :
    r.templates[i]? = r.lookup id := by
  rw [lookup, (h.position?_eq_some_iff id i).mpr hi, Option.bind_some]

theorem mem_templates_register (h : r.IsIndexed) {u : Template} :
    u ∈ (r.register t).templates ↔ u = t ∨ u ∈ r.templates ∧ u.id ≠ t.id := by
  by_cases hmem : t.id ∈ r.ids
  · rw [templates_register_of_mem h hmem, List.mem_map]
    constructor
    · rintro ⟨v, hv, rfl⟩
      split
      · exact .inl rfl
      · next hne => exact .inr ⟨hv, hne⟩
    · rintro (rfl | ⟨hu, hne⟩)
      · obtain ⟨v, hv, hid⟩ := List.mem_map.mp hmem
        exact ⟨v, hv, if_pos hid⟩
      · exact ⟨u, hu, if_neg hne⟩
  · have hne : ∀ v ∈ r.templates, v.id ≠ t.id := fun v hv hid =>
      hmem (List.mem_map.mpr ⟨v, hv, hid⟩)
    rw [h.register_eq hmem, List.mem_append, List.mem_singleton]
    constructor
    · rintro (hu | rfl)
      · exact .inr ⟨hu, hne u hu⟩
      · exact .inl rfl
    · rintro (rfl | ⟨hu, -⟩)
      · exact .inr rfl
      · exact .inl hu

/-- Registering `t` changes `lookup` at `t.id` only: `t` is found there, and what `r` has
elsewhere. -/
theorem lookup_register (h : r.IsIndexed) (t : Template) (id : Text) :
    (r.register t).lookup id = if t.id = id then some t else r.lookup id := by
  refine Option.ext fun u => ?_
  rw [(h.register t).lookup_eq_some_iff, mem_templates_register h]
  split
  · next hid =>
    constructor
    · rintro ⟨rfl | ⟨-, hne⟩, hu⟩
      · rfl
      · exact absurd (hu.trans hid.symm) hne
    · intro heq
      obtain rfl := Option.some.inj heq
      exact ⟨.inl rfl, hid⟩
  · next hid =>
    rw [h.lookup_eq_some_iff]
    constructor
    · rintro ⟨rfl | ⟨hmem, -⟩, hu⟩
      · exact absurd hu hid
      · exact ⟨hmem, hu⟩
    · rintro ⟨hmem, hu⟩
      exact ⟨.inr ⟨hmem, fun heq => hid (heq.symm.trans hu)⟩, hu⟩

/-! ### Many registrations -/

/-- The template of `ts` that was last registered under `id`. -/
def latest? (ts : List Template) (id : Text) : Option Template := ts.findRev? fun t => t.id = id

theorem latest?_concat (ts : List Template) (t : Template) (id : Text) :
    latest? (ts ++ [t]) id = if t.id = id then some t else latest? ts id := by
  rw [latest?, latest?, List.findRev?_eq_find?_reverse, List.findRev?_eq_find?_reverse,
    List.reverse_concat, List.find?_cons]
  by_cases hid : t.id = id
  · rw [if_pos hid, decide_eq_true hid]
  · rw [if_neg hid, decide_eq_false hid]

theorem eraseDups_concat (ids : List Text) (id : Text) :
    (ids ++ [id]).eraseDups = if id ∈ ids then ids.eraseDups else ids.eraseDups ++ [id] := by
  rw [List.eraseDups_append]
  by_cases hmem : id ∈ ids
  · rw [if_pos hmem]
    simp [List.removeAll, hmem]
  · rw [if_neg hmem]
    simp [List.removeAll, hmem, List.eraseDups_cons]

theorem registerAll_concat (r : Registry) (ts : List Template) (t : Template) :
    r.registerAll (ts ++ [t]) = (r.registerAll ts).register t :=
  List.foldl_concat ..

theorem isIndexed_registerAll_empty (ts : List Template) : (empty.registerAll ts).IsIndexed := by
  induction ts using List.reverseRecOn with
  | nil => exact isIndexed_empty
  | append_singleton ts t ih =>
    rw [registerAll_concat]
    exact ih.register t

/-- The ids stand in the order in which they were first registered: `List.eraseDups` keeps the first
of those that are equal. -/
theorem ids_registerAll_empty (ts : List Template) :
    (empty.registerAll ts).ids = (ts.map (·.id)).eraseDups := by
  induction ts using List.reverseRecOn with
  | nil => rfl
  | append_singleton ts t ih =>
    have hindexed := isIndexed_registerAll_empty ts
    have hmem : t.id ∈ (empty.registerAll ts).ids ↔ t.id ∈ ts.map (·.id) := by
      rw [ih, List.mem_eraseDups]
    rw [registerAll_concat, List.map_append, List.map_singleton, eraseDups_concat, ← ih]
    split
    · next h => exact ids_register_of_mem hindexed (hmem.mpr h)
    · next h => exact ids_register_of_not_mem hindexed (mt hmem.mp h)

theorem lookup_registerAll_empty (ts : List Template) (id : Text) :
    (empty.registerAll ts).lookup id = latest? ts id := by
  induction ts using List.reverseRecOn with
  | nil => rfl
  | append_singleton ts t ih =>
    rw [registerAll_concat, lookup_register (isIndexed_registerAll_empty ts), latest?_concat, ih]

/-- **A map in the order of insertion.** In `empty.registerAll ts` the `ids` are those of `ts`, each
once and in the order in which they were first registered; under an id, and at its position, is the
template that was last registered under it (`latest?`); and `inCategory` gives a part of all
templates, in order. The index leads to the positions of the ids and to nothing else, so that every
position in it is one of the list. A template that is registered under an id that is there changes
the template at its position and none of the others. -/
theorem ids_and_lookup_registerAll_empty (ts : List Template) :
    let r := empty.registerAll ts
    let ids := (ts.map (·.id)).eraseDups
    (r.ids = ids ∧ r.size = ids.length ∧ (r.isEmpty = true ↔ r.size = 0)) ∧
      (∀ id, r.lookup id = latest? ts id ∧ (r.lookup id = none ↔ id ∉ ts.map (·.id))) ∧
      (∀ (id : Text) (i : Nat), ids[i]? = some id → r.templates[i]? = latest? ts id) ∧
      (∀ c, r.inCategory c = (ids.filterMap (latest? ts)).filter fun t => t.category = c) ∧
      (∀ (id : Text) (i : Nat), r.position? id = some i ↔ ids[i]? = some id) ∧
      (∀ entry ∈ r.index, entry.2 < r.size) ∧
      ∀ t, t.id ∈ ids →
        (r.register t).templates = r.templates.map fun u => if u.id = t.id then t else u := by
  intro r ids
  have hindexed : r.IsIndexed := isIndexed_registerAll_empty ts
  have hids : r.ids = ids := ids_registerAll_empty ts
  have hlookup : r.lookup = latest? ts := funext (lookup_registerAll_empty ts)
  refine ⟨⟨hids, ?_, List.isEmpty_iff_length_eq_zero⟩, ?_, ?_, ?_, ?_, hindexed.lt_size, ?_⟩
  · rw [← hids]
    exact (List.length_map ..).symm
  · intro id
    refine ⟨congrFun hlookup id, ?_⟩
    rw [hindexed.lookup_eq_none_iff, hids, List.mem_eraseDups]
  · intro id i hi
    rw [← hlookup]
    exact hindexed.getElem?_templates (hids ▸ hi)
  · intro c
    rw [inCategory, hindexed.templates_eq, hids, hlookup]
  · intro id i
    rw [hindexed.position?_eq_some_iff, hids]
  · intro t ht
    exact templates_register_of_mem hindexed (hids ▸ ht)

/-- The decoration `hat`, registered again as a function, stays where it was and goes from one
category to the other; then it is replaced once more. -/
theorem ids_and_lookup_registerAll_replaced :
    let moved := { Template.hat with category := .function }
    let ts := [Template.hat, Template.bar, moved]
    let r := empty.registerAll ts
    (r.ids[0]? = some Template.hat.id ∧ r.templates[0]? = some moved) ∧
      r.lookup Template.hat.id = some moved ∧ r.inCategory .function = [moved] ∧
      r.inCategory .decoration = [Template.bar] ∧
      ((Template.bar.id, 1) ∈ r.index ∧ 1 < r.size) ∧
      (Template.bar.id ∈ r.ids ∧
        (r.register { Template.bar with name := [] }).templates =
          [moved, { Template.bar with name := [] }]) := by
  intro moved ts r
  obtain ⟨⟨hids, -, -⟩, hlookup, hposition, hcategory, -, hrange, hreplace⟩ :=
    ids_and_lookup_registerAll_empty ts
  have hhat : (ts.map (·.id)).eraseDups[0]? = some Template.hat.id := by decide
  have hbar : Template.bar.id ∈ (ts.map (·.id)).eraseDups := by decide
  have hentry : (Template.bar.id, 1) ∈ r.index := by decide
  refine ⟨⟨?_, (hposition _ 0 hhat).trans ?_⟩, (hlookup _).1.trans ?_, (hcategory _).trans ?_,
    (hcategory _).trans ?_, ⟨hentry, hrange _ hentry⟩, ?_, ?_⟩
  · rw [hids]
    exact hhat
  · decide
  · decide
  · decide
  · decide
  · rw [hids]
    exact hbar
  · exact hreplace { Template.bar with name := [] } hbar

end Registry

theorem Template.mem_catalogue_of_mem_standard {t : Template} (h : t ∈ standard.templates) :
    t ∈ catalogue :=
  (Registry.mem_or_mem_of_mem_registerAll h).resolve_left List.not_mem_nil

theorem Template.mem_catalogue_of_lookup_standard {id : Text} {t : Template}
    (h : standard.lookup id = some t) : t ∈ catalogue :=
  mem_catalogue_of_mem_standard (Registry.mem_of_lookup_eq_some h)

end MathNotes
