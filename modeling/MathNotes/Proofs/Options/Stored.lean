import Mathlib.Data.List.Permutation
import MathNotes.Options.Yaml
import MathNotes.Proofs.Options.Scalar
import MathNotes.Proofs.Yaml.PlainMapping

/-!
# Options are read back from any of their lines

Options are written as four `lines`, each with the name and the value of one option. Whichever of
them are put together, in whatever order, is a document again, and it stands for the defaults with
the options of those lines taken over (`takeOver`, `read_flatten_of_subperm`). All four together
stand for the options that were written.
-/

namespace MathNotes.Options

open Text Yaml

/-! ### Lines -/

/-- The names of all options, which are `keys`, with the texts of their values. -/
def entries (o : Options) : List (Text × Text) :=
  [(displayStyleKey, boolText o.displayStyle), (wrapDelimitersKey, boolText o.wrapDelimiters),
    (sanitizeKey, boolText o.sanitize), (largeScaleKey, o.largeScale.text scaleLayout)]

theorem lines_eq_map (o : Options) : o.lines = o.entries.map memberLine := rfl

theorem isPlainMember_of_mem_entries {o : Options} {m : Text × Text} (hm : m ∈ o.entries) :
    IsPlainMember m := by
  have hmember {name value : Text} (hvalue : IsPlainWord value) (hname : IsPlainWord name)
      (hbegins : name.head?.any Char.isAlpha = true) (hlength : name.length ≤ keyLimit) :
      IsPlainMember (name, value) := ⟨hname, hbegins, hlength, hvalue⟩
  simp only [entries, List.mem_cons, List.not_mem_nil, or_false] at hm
  rcases hm with rfl | rfl | rfl | rfl
  · exact hmember (isPlainWord_boolText _) ⟨by decide, by decide⟩ rfl (by decide)
  · exact hmember (isPlainWord_boolText _) ⟨by decide, by decide⟩ rfl (by decide)
  · exact hmember (isPlainWord_boolText _) ⟨by decide, by decide⟩ rfl (by decide)
  · exact hmember (isPlainWord_text _) ⟨by decide, by decide⟩ rfl (by decide)

/-- A selection `ls` of the `lines` is made up of a selection of the `entries`. -/
theorem exists_entries_of_subperm {o : Options} {ls : List Text} (h : ls.Subperm o.lines) :
    ∃ members : List (Text × Text), members.Subperm o.entries ∧ ls = members.map memberLine := by
  obtain ⟨_, hperm, hsublist⟩ := h
  rw [lines_eq_map] at hsublist
  obtain ⟨chosen, hchosen, rfl⟩ := List.sublist_map_iff.mp hsublist
  have hmem := List.mem_permutations.mpr hperm.symm
  rw [← List.map_permutations] at hmem
  obtain ⟨members, hmembers, rfl⟩ := List.mem_map.mp hmem
  exact ⟨members, ⟨chosen, (List.mem_permutations.mp hmembers).symm, hchosen⟩, rfl⟩

/-! ### Taking options over -/

/-- The options of `base`, but those of `o` where the line of `o` for the option is among `ls`. -/
def takeOver (o : Options) (ls : List Text) (base : Options) : Options where
  displayStyle :=
    if line displayStyleKey (boolText o.displayStyle) ∈ ls then o.displayStyle
    else base.displayStyle
  wrapDelimiters :=
    if line wrapDelimitersKey (boolText o.wrapDelimiters) ∈ ls then o.wrapDelimiters
    else base.wrapDelimiters
  sanitize :=
    if line sanitizeKey (boolText o.sanitize) ∈ ls then o.sanitize else base.sanitize
  largeScale :=
    if line largeScaleKey (o.largeScale.text scaleLayout) ∈ ls then readBack o.largeScale
    else base.largeScale

theorem takeOver_cons (o : Options) (l : Text) (ls : List Text) (base : Options) :
    o.takeOver (l :: ls) base = o.takeOver ls (o.takeOver [l] base) := by
  have hmem {α : Type} (a : Text) (x y : α) :
      (if a ∈ l :: ls then x else y) = if a ∈ ls then x else if a ∈ [l] then x else y := by
    by_cases hls : a ∈ ls
    · rw [if_pos (List.mem_cons_of_mem l hls), if_pos hls]
    · simp only [List.mem_cons, hls, List.not_mem_nil, or_false, if_false]
  simp only [takeOver, hmem]

theorem nodup_keys : keys.Nodup := by decide

theorem nodup_map_fst_entries (o : Options) : (o.entries.map (·.1)).Nodup := nodup_keys

/-- Two of the `entries` have the same line iff they are for the same option. -/
theorem memberLine_mem_singleton_iff {o : Options} {m m' : Text × Text} (h : m ∈ o.entries)
    (h' : m' ∈ o.entries) : memberLine m ∈ [memberLine m'] ↔ m'.1 = m.1 := by
  constructor
  · intro hline
    have hword := (isPlainMember_of_mem_entries h).name.isWord
    have hword' := (isPlainMember_of_mem_entries h').name.isWord
    exact (selfDelimiting_id isPlainChar hword hword' (r := ':' :: ' ' :: (m.2 ++ ['\n']))
      (s := ':' :: ' ' :: (m'.2 ++ ['\n'])) rfl rfl (List.mem_singleton.mp hline)).1.symm
  · intro hname
    rw [List.inj_on_of_nodup_map o.nodup_map_fst_entries h' h hname]
    exact List.mem_singleton_self _

/-- The line of the entry `m` takes over the option that `m.1` names, and no other. -/
theorem takeOver_memberLine {o : Options} {m : Text × Text} (hm : m ∈ o.entries) (base : Options) :
    o.takeOver [memberLine m] base =
      { displayStyle := if m.1 = displayStyleKey then o.displayStyle else base.displayStyle
        wrapDelimiters :=
          if m.1 = wrapDelimitersKey then o.wrapDelimiters else base.wrapDelimiters
        sanitize := if m.1 = sanitizeKey then o.sanitize else base.sanitize
        largeScale :=
          if m.1 = largeScaleKey then readBack o.largeScale else base.largeScale } := by
  have hiff : ∀ m' ∈ o.entries, memberLine m' ∈ [memberLine m] ↔ m.1 = m'.1 :=
    fun _ h => memberLine_mem_singleton_iff h hm
  simp only [entries, List.forall_mem_cons] at hiff
  obtain ⟨hdisplay, hwrap, hsanitize, hscale, -⟩ := hiff
  simp only [memberLine] at hdisplay hwrap hsanitize hscale
  simp only [takeOver, line, memberLine, hdisplay, hwrap, hsanitize, hscale]

/-- The entry `m`, read as a member of a mapping, sets the option that its line takes over. -/
theorem setMember?_wordNode {o : Options} {m : Text × Text} (hm : m ∈ o.entries) (base : Options) :
    base.setMember? (m.1, wordNode m.2) = some (o.takeOver [memberLine m] base) := by
  have hset (name value : Text) (hname : keys.contains name = true) :
      base.setMember? (name, wordNode value) = base.set? name value := by
    rw [setMember?, if_pos hname]
    rfl
  rw [takeOver_memberLine hm]
  simp only [entries, List.mem_cons, List.not_mem_nil, or_false] at hm
  rcases hm with rfl | rfl | rfl | rfl
  · refine (hset displayStyleKey _ (by decide)).trans ?_
    rw [set?, if_pos rfl, bool?_boolText]
    rfl
  · refine (hset wrapDelimitersKey _ (by decide)).trans ?_
    rw [set?, if_neg (by decide), if_pos rfl, bool?_boolText]
    rfl
  · refine (hset sanitizeKey _ (by decide)).trans ?_
    rw [set?, if_neg (by decide), if_neg (by decide), if_pos rfl, bool?_boolText]
    rfl
  · refine (hset largeScaleKey _ (by decide)).trans ?_
    rw [set?, if_neg (by decide), if_neg (by decide), if_neg (by decide), if_pos rfl, single?_text]
    rfl

/-- One entry after another, taken in by `setMember?`, takes over the options of their lines. -/
theorem foldlM_setMember? {o : Options} {members : List (Text × Text)}
    (h : ∀ m ∈ members, m ∈ o.entries) (base : Options) :
    (members.map fun m => (m.1, wordNode m.2)).foldlM setMember? base =
      some (o.takeOver (members.map memberLine) base) := by
  induction members generalizing base with
  | nil => rfl
  | cons m rest ih =>
    obtain ⟨hm, hrest⟩ := List.forall_mem_cons.mp h
    rw [List.map_cons, List.map_cons, List.foldlM_cons, setMember?_wordNode hm,
      takeOver_cons o (memberLine m) (rest.map memberLine)]
    exact ih hrest _

/-! ### Documents -/

/-- The names of a selection of the `entries` are not repeated. -/
theorem nodup_names {o : Options} {members : List (Text × Text)} (h : members.Subperm o.entries) :
    (members.map (·.1)).Nodup := by
  obtain ⟨chosen, hperm, hsublist⟩ := h
  have hchosen : (chosen.map (·.1)).Nodup := (hsublist.map (·.1)).nodup o.nodup_map_fst_entries
  exact (hperm.map (·.1)).nodup_iff.mp hchosen

/-- No name of an option is a spelling of nothing, so `text?` gives it back. -/
theorem text?_name {o : Options} {m : Text × Text} (hm : m ∈ o.entries) :
    (wordNode m.1).text? = some m.1 := by
  have hkeys : ∀ name ∈ keys, isNullSpelling name = false := by decide
  have hname : m.1 ∈ keys := List.mem_map_of_mem (f := (·.1)) hm
  exact text?_wordNode (hkeys m.1 hname)

theorem mapM_text? {o : Options} {members : List (Text × Text)}
    (h : ∀ m ∈ members, m ∈ o.entries) :
    ((members.map memberNode).mapM fun m => m.1.text?.map fun key => (key, m.2)) =
      some (members.map fun m => (m.1, wordNode m.2)) := by
  induction members with
  | nil => rfl
  | cons m rest ih =>
    obtain ⟨hm, hrest⟩ := List.forall_mem_cons.mp h
    rw [List.map_cons, List.mapM_cons, memberNode, text?_name hm, ih hrest]
    rfl

/-- The mapping of a selection of the `entries` stands for the defaults with those options taken
over. -/
theorem ofYaml?_mapping {o : Options} {members : List (Text × Text)}
    (h : members.Subperm o.entries) :
    ofYaml? (.mapping (members.map memberNode)) =
      some (o.takeOver (members.map memberLine) {}) := by
  have hmem : ∀ m ∈ members, m ∈ o.entries := fun m hm => h.subset hm
  have hplain : ∀ m ∈ members, IsPlainMember m :=
    fun m hm => isPlainMember_of_mem_entries (hmem m hm)
  have hnodup := nodup_names h
  have hnames : (members.map fun m => (m.1, wordNode m.2)).map (·.1) = members.map (·.1) := by
    rw [List.map_map]
    rfl
  simp only [ofYaml?, effective?_map_memberNode hplain hnodup, Option.bind_eq_bind,
    Option.bind_some, mapM_text? hmem]
  rw [ofMembers?, hnames, if_pos (hnodup.filter _), foldlM_setMember? hmem]

theorem takeOver_lines (o : Options) :
    o.takeOver o.lines {} = { o with largeScale := readBack o.largeScale } := by
  simp [takeOver, lines]

theorem readBack_eq_self {x : Single} (h : x.isNaN = false) : readBack x = x := by
  rw [readBack, h, if_neg Bool.false_ne_true]

/-- **Any of the lines.** Some of `o.lines`, in any order, stand for the defaults with those options
taken over. All lines stand for `o` itself, except that a `largeScale` that is not a number becomes
`nan`. -/
theorem read_flatten_of_subperm (o : Options) :
    (∀ ls : List Text, ls.Subperm o.lines → read ls.flatten = .ok (o.takeOver ls {})) ∧
      read o.write = .ok { o with largeScale := readBack o.largeScale } ∧
      (readBack o.largeScale).isNaN = o.largeScale.isNaN ∧
      (o.largeScale.isNaN = false → read o.write = .ok o) := by
  have hselection : ∀ ls : List Text, ls.Subperm o.lines →
      read ls.flatten = .ok (o.takeOver ls {}) := by
    intro ls hls
    obtain ⟨members, hmembers, rfl⟩ := exists_entries_of_subperm hls
    by_cases hnil : members = []
    · subst hnil
      rw [List.map_nil, List.flatten_nil, read, read?_nil]
      rfl
    · have hplain : ∀ m ∈ members, IsPlainMember m :=
        fun m hm => isPlainMember_of_mem_entries (hmembers.subset hm)
      have htext : (members.map memberLine).flatten = mappingText members := rfl
      rw [read, htext, read?_mappingText hplain hnil, Option.bind_some, ofYaml?_mapping hmembers]
  have hall : read o.write = .ok { o with largeScale := readBack o.largeScale } := by
    rw [write, hselection o.lines (List.Subperm.refl _), takeOver_lines]
  refine ⟨hselection, hall, isNaN_readBack o.largeScale, fun hnan => ?_⟩
  rw [hall, readBack_eq_self hnan]

/-- The last two lines in the other order, with a `largeScale` that is the negative number next to
zero. -/
theorem read_scale_before_sanitize :
    [line largeScaleKey (Single.text scaleLayout ⟨0x80000001⟩),
        line sanitizeKey (boolText false)].Subperm (lines ⟨false, true, false, ⟨0x80000001⟩⟩) ∧
      read [line largeScaleKey (Single.text scaleLayout ⟨0x80000001⟩),
        line sanitizeKey (boolText false)].flatten = .ok ⟨true, false, false, ⟨0x80000001⟩⟩ ∧
      Single.isNaN ⟨0x80000001⟩ = false ∧
      read (write ⟨false, true, false, ⟨0x80000001⟩⟩) = .ok ⟨false, true, false, ⟨0x80000001⟩⟩ := by
  have hnan : Single.isNaN ⟨0x80000001⟩ = false := rfl
  have hsubperm : [line largeScaleKey (Single.text scaleLayout ⟨0x80000001⟩),
      line sanitizeKey (boolText false)].Subperm (lines ⟨false, true, false, ⟨0x80000001⟩⟩) :=
    ⟨_, List.Perm.swap _ _ _, List.drop_sublist 2 (lines ⟨false, true, false, ⟨0x80000001⟩⟩)⟩
  obtain ⟨hselection, -, -, hself⟩ := read_flatten_of_subperm ⟨false, true, false, ⟨0x80000001⟩⟩
  refine ⟨hsubperm, ?_, hnan, hself hnan⟩
  refine (hselection _ hsubperm).trans (congrArg _ ?_)
  have hscale : takeOver ⟨false, true, false, ⟨0x80000001⟩⟩
      [line largeScaleKey (Single.text scaleLayout ⟨0x80000001⟩)] {} =
        { largeScale := ⟨0x80000001⟩ } :=
    takeOver_memberLine (m := (largeScaleKey, _)) (List.mem_of_getElem? (i := 3) rfl) {}
  rw [takeOver_cons, hscale]
  exact takeOver_memberLine (m := (sanitizeKey, _)) (List.mem_of_getElem? (i := 2) rfl) _

end MathNotes.Options
