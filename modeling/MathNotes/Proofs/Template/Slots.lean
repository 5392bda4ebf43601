import Mathlib.Algebra.Ring.Nat
import Mathlib.Data.List.Nodup
import MathNotes.Proofs.Template.Registry
import MathNotes.Proofs.Text.Occurrences

/-!
# What the slots of a template are filled with

The body of a template is a front text and then, again and again, a slot and the text behind it
(`Pattern`); `compile` writes the contents of the slots into these gaps (`compile_eq_fill`). What
holds of every pattern whose slots are distinct, and whose texts cannot become part of a needle, is
proved once:

* a pattern depends on the contents of its own slots only (`Pattern.fill_congr`), and on each of
  them at one place only (`Pattern.exists_fill_eq`);

* a needle stands in a filled pattern as often as in the contents (`Pattern.occurrences_fill`).

The templates that come with the library have such patterns (`isOrderly_of_mem_standard`). So the
placeholder counts the slots that are missing or blank (`compile_standard_eq_fill`).
-/

namespace MathNotes.Template

open Text

/-! ### Patterns -/

/-- A text with gaps: what stands in `front`, and the `slots` with what stands behind each of
them. -/
structure Pattern where
  front : Text
  slots : List (Text × Text)

namespace Pattern

variable {p : Pattern} {content content' : Text → Text} {needle : Text}

/-- The names of the slots, in the order in which they are written. -/
def names (p : Pattern) : List Text := p.slots.map (·.1)

/-- The `slots` with their contents by `content`, each with what stands behind it. -/
def spread (content : Text → Text) (slots : List (Text × Text)) : Text :=
  slots.flatMap fun slot => content slot.1 ++ slot.2

/-- The pattern `p` with `content slot` in each of its slots. -/
def fill (p : Pattern) (content : Text → Text) : Text := p.front ++ spread content p.slots

/-- The pattern of a template's body. Fixed texts that follow each other are put together. -/
def ofBody : List Segment → Pattern
  | [] => ⟨[], []⟩
  | .fixed markup :: body => ⟨markup ++ (ofBody body).front, (ofBody body).slots⟩
  | .slot name :: body => ⟨[], (name, (ofBody body).front) :: (ofBody body).slots⟩

theorem spread_cons (content : Text → Text) (name behind : Text) (slots : List (Text × Text)) :
    spread content ((name, behind) :: slots) =
      content name ++ (behind ++ spread content slots) := by
  rw [spread, List.flatMap_cons, List.append_assoc, spread]

theorem spread_append (content : Text → Text) (slots slots' : List (Text × Text)) :
    spread content (slots ++ slots') = spread content slots ++ spread content slots' :=
  List.flatMap_append

theorem spread_congr {slots : List (Text × Text)}
    (h : ∀ slot ∈ slots, content slot.1 = content' slot.1) :
    spread content slots = spread content' slots :=
  List.flatMap_congr fun slot hslot => congrArg (· ++ slot.2) (h slot hslot)

theorem fill_congr (h : ∀ name ∈ p.names, content name = content' name) :
    p.fill content = p.fill content' :=
  congrArg (p.front ++ ·) (spread_congr fun slot hslot => h slot.1 (List.mem_map_of_mem hslot))

/-- The content of the slot `name` stands between two texts that do not depend on it. -/
theorem exists_fill_eq (hnodup : p.names.Nodup) {name : Text} (hname : name ∈ p.names)
    (content : Text → Text) :
    ∃ before after, ∀ content' : Text → Text,
      (∀ other ∈ p.names, other ≠ name → content' other = content other) →
      p.fill content' = before ++ content' name ++ after := by
  obtain ⟨⟨gap, behind⟩, hmem, rfl⟩ := List.mem_map.mp hname
  obtain ⟨pre, post, hslots⟩ := List.append_of_mem hmem
  rw [names, hslots, List.map_append, List.map_cons, List.nodup_middle, List.nodup_cons,
    List.mem_append, not_or] at hnodup
  obtain ⟨⟨hpre, hpost⟩, -⟩ := hnodup
  -- no slot in front of this one or behind it has its name, so their contents stay
  refine ⟨p.front ++ spread content pre, behind ++ spread content post, fun content' h => ?_⟩
  have hother : ∀ slot ∈ p.slots, slot.1 ≠ gap → content' slot.1 = content slot.1 :=
    fun slot hslot => h slot.1 (List.mem_map_of_mem hslot)
  rw [hslots] at hother
  have hbefore : spread content' pre = spread content pre := spread_congr fun slot hslot =>
    hother slot (List.mem_append_left _ hslot) fun heq => hpre (List.mem_map.mpr ⟨slot, hslot, heq⟩)
  have hafter : spread content' post = spread content post := spread_congr fun slot hslot =>
    hother slot (List.mem_append_right _ (List.mem_cons_of_mem _ hslot)) fun heq =>
      hpost (List.mem_map.mpr ⟨slot, hslot, heq⟩)
  rw [fill, hslots, spread_append, spread_cons, hbefore, hafter, List.append_assoc,
    List.append_assoc]

/-- No text of the pattern can become part of `needle`, neither with another one nor with the
contents of the slots. -/
structure IsApartFrom (needle : Text) (p : Pattern) : Prop where
  front : Text.IsApartFrom needle p.front
  behind : ∀ slot ∈ p.slots,
    Text.IsApartFrom needle slot.2 ∧ StartsOutside needle.tail.contains slot.2
  /-- Only the last slot may have nothing behind it. -/
  separated : p.slots.Pairwise fun slot _ => slot.2 ≠ []

theorem occurrences_spread (hneedle : needle ≠ []) {slots : List (Text × Text)}
    (hbehind : ∀ slot ∈ slots,
      Text.IsApartFrom needle slot.2 ∧ StartsOutside needle.tail.contains slot.2)
    (hseparated : slots.Pairwise fun slot _ => slot.2 ≠ []) :
    occurrences needle (spread content slots) =
      (slots.map fun slot => occurrences needle (content slot.1)).sum := by
  induction slots with
  | nil => exact occurrences_nil hneedle
  | cons slot slots ih =>
    obtain ⟨name, behind⟩ := slot
    obtain ⟨⟨hapart, hstarts⟩, hbehind⟩ := List.forall_mem_cons.mp hbehind
    obtain ⟨hne, hseparated⟩ := List.pairwise_cons.mp hseparated
    -- behind a content, whatever it is, stands no character that goes on with a needle
    have hborder : StartsOutside needle.tail.contains (behind ++ spread content slots) := by
      cases behind with
      | cons c behind => exact hstarts
      | nil =>
        -- with nothing behind it, the slot is the last one
        have hslots : slots = [] :=
          List.eq_nil_iff_forall_not_mem.mpr fun slot hslot => hne slot hslot rfl
        rw [hslots]
        rfl
    rw [spread_cons, occurrences_append hneedle hborder, hapart.occurrences_append,
      ih hbehind hseparated, List.map_cons, List.sum_cons]

/-- If `p` is apart from `needle`, that stands in the contents of the slots only. -/
theorem occurrences_fill (hneedle : needle ≠ []) (h : p.IsApartFrom needle)
    (content : Text → Text) :
    occurrences needle (p.fill content) =
      (p.names.map fun name => occurrences needle (content name)).sum := by
  rw [fill, h.front.occurrences_append, occurrences_spread hneedle h.behind h.separated, names,
    List.map_map]
  rfl

end Pattern

/-! ### Contents -/

/-- What a slot is filled with: its content, unless that is missing or blank; then `shown` puts the
`placeholder`. -/
def used? (values : SlotValues) (slot : Text) : Option Text :=
  (values.lookup slot).filter fun content => !content.isAllBlank

theorem shown_eq (values : SlotValues) (slot : Text) :
    shown values slot = (used? values slot).getD placeholder := by
  rw [shown, used?]
  cases values.lookup slot with
  | none => rfl
  | some content => cases h : content.isAllBlank <;> simp [h, Option.filter]

theorem shown_congr {values values' : SlotValues} {slot : Text}
    (h : values'.lookup slot = values.lookup slot) : shown values' slot = shown values slot := by
  rw [shown, shown, h]

/-- A `needle` that stands for what is missing is counted once for each thing that is missing, and
as often as it stands in what is there. -/
theorem sum_occurrences_getD {needle : Text} (hneedle : occurrences needle needle = 1)
    (content? : Text → Option Text) (names : List Text) :
    (names.map fun name => occurrences needle ((content? name).getD needle)).sum =
      names.countP (fun name => (content? name).isNone) +
        ((names.filterMap content?).map (occurrences needle)).sum := by
  induction names with
  | nil => rfl
  | cons name names ih =>
    rw [List.map_cons, List.sum_cons, ih, List.countP_cons]
    cases h : content? name with
    | none =>
      rw [List.filterMap_cons_none h, Option.getD_none, hneedle, Option.isNone_none, if_pos rfl]
      omega
    | some content =>
      rw [List.filterMap_cons_some h, Option.getD_some, Option.isNone_some,
        if_neg Bool.false_ne_true, List.map_cons, List.sum_cons]
      omega

/-! ### Templates -/

/-- The pattern that `compile` fills for the template `t` (`compile_eq_fill`). -/
def pattern (t : Template) : Pattern := .ofBody t.body

theorem compile_eq_fill (t : Template) (values : SlotValues) :
    t.compile values = t.pattern.fill (shown values) := by
  rw [compile, pattern]
  induction t.body with
  | nil => rfl
  | cons segment body ih =>
    rw [List.flatMap_cons, ih]
    cases segment with
    | fixed markup => exact (List.append_assoc ..).symm
    | slot name => exact (Pattern.spread_cons (shown values) name _ _).symm

theorem compile_congr {t : Template} {values values' : SlotValues}
    (h : ∀ slot ∈ t.pattern.names, values'.lookup slot = values.lookup slot) :
    t.compile values' = t.compile values := by
  rw [compile_eq_fill, compile_eq_fill]
  exact Pattern.fill_congr fun slot hslot => shown_congr (h slot hslot)

/-- What there is to check of a template: each of its slots is written once, in the order in which
it is declared, the template is never empty, and it is apart from the `placeholder`. -/
structure IsOrderly (t : Template) : Prop where
  names_eq : t.pattern.names = t.slots.map (·.name)
  nodup : t.pattern.names.Nodup
  front_ne_nil : t.pattern.front ≠ []
  apart : t.pattern.IsApartFrom placeholder

instance (t : Template) : Decidable t.IsOrderly :=
  decidable_of_iff
    ((t.pattern.names = t.slots.map (·.name) ∧ t.pattern.names.Nodup ∧ t.pattern.front ≠ []) ∧
      Text.IsApartFrom placeholder t.pattern.front ∧
      (∀ slot ∈ t.pattern.slots, Text.IsApartFrom placeholder slot.2 ∧
        slot.2.head?.any placeholder.tail.contains = false) ∧
      t.pattern.slots.Pairwise fun slot _ => slot.2 ≠ [])
    ⟨fun ⟨⟨h₁, h₂, h₃⟩, h₄, h₅, h₆⟩ => ⟨h₁, h₂, h₃, h₄, h₅, h₆⟩,
      fun ⟨h₁, h₂, h₃, h₄, h₅, h₆⟩ => ⟨⟨h₁, h₂, h₃⟩, h₄, h₅, h₆⟩⟩

theorem IsOrderly.exists_compile_eq {t : Template} (h : t.IsOrderly) {slot : Text}
    (hslot : slot ∈ t.pattern.names) (values : SlotValues) :
    ∃ before after, ∀ values' : SlotValues,
      (∀ other ∈ t.pattern.names, other ≠ slot → values'.lookup other = values.lookup other) →
      t.compile values' = before ++ shown values' slot ++ after := by
  obtain ⟨before, after, hfill⟩ := Pattern.exists_fill_eq h.nodup hslot (shown values)
  refine ⟨before, after, fun values' hvalues => ?_⟩
  rw [compile_eq_fill]
  exact hfill _ fun other hother hne => shown_congr (hvalues other hother hne)

theorem IsOrderly.occurrences_compile {t : Template} (h : t.IsOrderly) (values : SlotValues) :
    occurrences placeholder (t.compile values) =
      t.pattern.names.countP (fun slot => (used? values slot).isNone) +
        ((t.pattern.names.filterMap (used? values)).map (occurrences placeholder)).sum := by
  have hneedle : placeholder ≠ [] := by decide
  have honce : occurrences placeholder placeholder = 1 := by decide
  rw [compile_eq_fill, Pattern.occurrences_fill hneedle h.apart, ← sum_occurrences_getD honce]
  simp only [shown_eq]

theorem IsOrderly.compile_ne_nil {t : Template} (h : t.IsOrderly) (values : SlotValues) :
    t.compile values ≠ [] := by
  rw [compile_eq_fill, Pattern.fill]
  exact List.append_ne_nil_of_left_ne_nil h.front_ne_nil _

/-! ### The templates of the library -/

theorem isOrderly_of_mem_standard {t : Template} (h : t ∈ standard.templates) : t.IsOrderly := by
  have hall : ∀ t ∈ catalogue, t.IsOrderly := by decide +kernel
  exact hall t (mem_catalogue_of_mem_standard h)

theorem isIndexed_standard : standard.IsIndexed := Registry.isIndexed_registerAll_empty catalogue

theorem compile_standard_id {t : Template} (h : t ∈ standard.templates) (values : SlotValues) :
    standard.compile t.id values = t.compile values := by
  rw [Registry.compile, isIndexed_standard.lookup_eq_some_iff.mpr ⟨h, rfl⟩]

theorem compile_standard_eq_nil_iff (id : Text) (values : SlotValues) :
    standard.compile id values = [] ↔ id ∉ standard.ids := by
  rw [← isIndexed_standard.lookup_eq_none_iff, Registry.compile]
  cases h : standard.lookup id with
  | none => exact iff_of_true rfl rfl
  | some t =>
    have horderly := isOrderly_of_mem_standard (Registry.mem_of_lookup_eq_some h)
    exact iff_of_false (horderly.compile_ne_nil values) (Option.some_ne_none t)

/-- **Slots.** For each of the `standard` templates there are fixed texts, and an order of exactly
its slots, such that `compile` writes between the texts what the slots are filled with: the content
as it is or, if that is missing or blank, the `placeholder` (`used?`). So contents under other names
do not matter, a slot changes nothing but the text in its own place, and the placeholder is there
once for each slot that is missing or blank, and as often as the contents hold it themselves.
Compiling gives nothing under the ids that are not registered, and only under these. -/
theorem compile_standard_eq_fill :
    (∀ t ∈ standard.templates, ∃ p : Pattern,
      (p.names = t.slots.map (·.name) ∧ p.names.Nodup) ∧
      (∀ values, standard.compile t.id values =
        p.fill fun slot => (used? values slot).getD placeholder) ∧
      (∀ values values' : SlotValues, (∀ slot ∈ p.names, values'.lookup slot = values.lookup slot) →
        standard.compile t.id values' = standard.compile t.id values) ∧
      (∀ slot ∈ p.names, ∀ values : SlotValues, ∃ before after, ∀ values' : SlotValues,
        (∀ other ∈ p.names, other ≠ slot → values'.lookup other = values.lookup other) →
        standard.compile t.id values' =
          before ++ (used? values' slot).getD placeholder ++ after) ∧
      ∀ values, occurrences placeholder (standard.compile t.id values) =
        p.names.countP (fun slot => (used? values slot).isNone) +
          ((p.names.filterMap (used? values)).map (occurrences placeholder)).sum) ∧
    ∀ id values, standard.compile id values = [] ↔ id ∉ standard.ids := by
  refine ⟨fun t ht => ?_, compile_standard_eq_nil_iff⟩
  have h : t.IsOrderly := isOrderly_of_mem_standard ht
  simp only [compile_standard_id ht, ← shown_eq]
  exact ⟨t.pattern, ⟨h.names_eq, h.nodup⟩, compile_eq_fill t, fun _ _ => compile_congr,
    fun _ => h.exists_compile_eq, h.occurrences_compile⟩

/-- In a `derivative` the function holds a placeholder of its own, and for a blank variable there is
one more; a content under a name that is no slot changes nothing. The variable stands at one place,
and there is no template whose id begins with a capital. -/
theorem compile_standard_derivative :
    let values : SlotValues := [("function", "\\square y"), ("variable", " \t"), ("other", "z")]
    let id : Text := "derivative"
    derivative ∈ standard.templates ∧
      occurrences placeholder (standard.compile id values) = 1 + 1 ∧
      standard.compile id values = standard.compile id (values.take 2) ∧
      (∃ before after, ∀ x : Text, x.isAllBlank = false →
        standard.compile id [("function", "\\square y"), ("variable", x)] = before ++ x ++ after) ∧
      standard.compile "Derivative" values = [] := by
  intro values id
  have hmem : derivative ∈ standard.templates := by decide +kernel
  obtain ⟨hall, hnone⟩ := compile_standard_eq_fill
  obtain ⟨p, ⟨hnames, -⟩, -, hcongr, hone, hcount⟩ := hall derivative hmem
  have hnames' : p.names = ["function".toList, "variable".toList] := hnames
  rw [hnames'] at hcongr hone hcount
  refine ⟨hmem, (hcount values).trans (by decide), hcongr (values.take 2) values (by decide), ?_,
    (hnone "Derivative" values).mpr (by decide +kernel)⟩
  obtain ⟨before, after, h⟩ := hone "variable" (by decide) (values.take 1)
  refine ⟨before, after, fun x hx => (h _ ?_).trans ?_⟩
  · intro other hother hne
    rcases List.mem_pair.mp hother with rfl | rfl
    · rfl
    · exact absurd rfl hne
  · have hlookup : List.lookup "variable".toList
        [("function".toList, "\\square y".toList), ("variable".toList, x)] = some x := rfl
    rw [← shown_eq, shown, hlookup]
    simp [hx]

end MathNotes.Template
