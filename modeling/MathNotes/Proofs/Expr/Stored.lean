import MathNotes.Expr.Json
import MathNotes.Proofs.Json.Nesting
import MathNotes.Proofs.Json.Record

/-!
# Stored expressions

An expression is read back from the JSON value it is stored as, inside another record and on its own
(`decode?_toJson`), provided that its sizes fit 64-bit words (`FitsWords`). Reading goes by the kind
and the entries of a record, and an expression is stored as a record of its kind in which every
entry that is present has its member (`parts?_toJson`).

Of the many values that `decode?` reads as one expression, none is nested less deeply than the one
it is stored as (`fitsWords_and_depth_toJson_le_of_decode?`).
-/

namespace MathNotes.Expr

open Json

variable {kind? : Json → Option Kind}

/-- Whether the sizes in an expression are below `wordLimit`. Only a matrix has any, the shape it is
said to have. -/
def FitsWords : Expr → Prop
  | .matrix rows cols _ => rows < wordLimit ∧ cols < wordLimit
  | .operation _ left right => left.FitsWords ∧ right.FitsWords
  | .wrapped _ inner => inner.FitsWords
  | _ => True

/-! ### Records of expressions -/

/-- The members of the record `e.toJson` behind its tag. -/
def members (e : Expr) : List (Text × Json) :=
  match e.toJson with
  | .object (_ :: members) => members
  | _ => []

theorem toJson_eq (e : Expr) :
    e.toJson = .object ((tagKey, .string e.kind.name) :: e.members) := by
  cases e <;> rfl

theorem nodup_keys (kind : Kind) : (keys kind).Nodup := by
  cases kind <;> decide

theorem tagKey_not_mem_keys (kind : Kind) : tagKey ∉ keys kind := by
  cases kind <;> decide

/-- The `members` stand in the order of the `keys` of the kind. -/
theorem sublist_keys (e : Expr) : (e.members.map Prod.fst).Sublist (keys e.kind) := by
  cases e with
  | integral body lower upper differential =>
    have hfrom := sublist_optionalMember "from" lower
    have hto := sublist_optionalMember "to" upper
    have hd := sublist_optionalMember "d" differential
    show (List.map Prod.fst ([("body".toList, Json.string body)] ++ optionalMember "from" lower ++
      optionalMember "to" upper ++ optionalMember "d" differential)).Sublist _
    rw [List.map_append, List.map_append, List.map_append]
    exact (((List.Sublist.refl ["body".toList]).append hfrom).append hto).append hd
  | _ => exact List.Sublist.refl _

/-- The record of `e` has the kind of `e` and, under the `keys` of the kind, its `members`. -/
theorem parts?_toJson (e : Expr) (hk : kind? (.string e.kind.name) = some e.kind) :
    parts? kind? e.toJson = some (e.kind, (keys e.kind).map fun k => e.members.lookup k) := by
  -- the tag is none of the keys, and no key stands twice
  have hsub := e.sublist_keys
  have htag := tagged?_object (fun h => tagKey_not_mem_keys _ (hsub.subset h))
    (.string e.kind.name)
  have hentries := entries?_object (hsub.nodup (nodup_keys e.kind)) (keys e.kind)
  rw [parts?, toJson_eq, htag]
  dsimp only
  rw [hk]
  dsimp only
  rw [hentries, Option.map_some]

/-! ### Reading an expression -/

/-- The expression of a kind with the given entries, which is what `decode?` makes of `parts?`. -/
def ofParts? : Kind → List (Option Json) → Option Expr
  | .symbol, [some (.string glyph)] => some (.symbol glyph)
  | .number, [some (.string digits)] => some (.number digits)
  | .identifier, [some (.string name)] => some (.identifier name)
  | .matrix, [some rows, some cols, some cells] => do
    return .matrix (← rows.size?) (← cols.size?) (← cells.grid?)
  | .vector, [some o, some cells] => do
    return .vector (← o.choice?.bind Orientation.ofSpelling?) (← cells.list? Json.text?)
  | .operation, [some op, some left, some right] => do
    return .operation (← op.choice?.bind Operator.ofSpelling?) (← decode? innerKind? left)
      (← decode? innerKind? right)
  | .wrapped, [some w, some inner] => do
    return .wrapped (← w.choice?.bind Wrapper.ofSpelling?) (← decode? innerKind? inner)
  | .integral, [some (.string body), lower, upper, differential] => do
    return .integral body (← Json.optionalText? lower) (← Json.optionalText? upper)
      (← Json.optionalText? differential)
  | .fraction, [some (.string numerator), some (.string denominator)] =>
    some (.fraction numerator denominator)
  | .power, [some (.string base), some (.string exponent)] => some (.power base exponent)
  | .subscript, [some (.string base), some (.string index)] => some (.subscript base index)
  | _, _ => none

theorem decode?_eq_ofParts? {j : Json} {kind : Kind} {es : List (Option Json)}
    (h : parts? kind? j = some (kind, es)) : decode? kind? j = ofParts? kind es := by
  fun_cases ofParts? kind es with
  | case12 =>
    -- the entries are not those of the kind, so reading has no case for them either
    rw [decode?]
    split
    case h_12 => rfl
    all_goals
      next heq =>
        rw [h] at heq
        grind
  | _ =>
    rw [decode?]
    generalize parts? kind? j = p at h ⊢
    subst h
    rfl

theorem decode?_toJson_eq_ofParts? (e : Expr) (hk : kind? (.string e.kind.name) = some e.kind) :
    decode? kind? e.toJson = ofParts? e.kind ((keys e.kind).map fun k => e.members.lookup k) :=
  decode?_eq_ofParts? (parts?_toJson e hk)

theorem innerKind?_name (kind : Kind) : innerKind? (.string kind.name) = some kind :=
  Kind.ofName?_name kind

theorem outerKind?_name (kind : Kind) : outerKind? (.string kind.name) = some kind :=
  Kind.ofName?_name kind

/-- **Round trip.** An expression is read back from `e.toJson`, whichever way the tag is read. -/
theorem decode?_toJson {e : Expr} (h : e.FitsWords)
    (hk : ∀ kind : Kind, kind? (.string kind.name) = some kind) :
    decode? kind? e.toJson = some e := by
  induction e generalizing kind? with
  | symbol glyph => rw [decode?_toJson_eq_ofParts? _ (hk _)]; rfl
  | number digits => rw [decode?_toJson_eq_ofParts? _ (hk _)]; rfl
  | identifier name => rw [decode?_toJson_eq_ofParts? _ (hk _)]; rfl
  | matrix rows cols cells =>
    obtain ⟨hrows, hcols⟩ := h
    rw [decode?_toJson_eq_ofParts? _ (hk _)]
    show (do
      return matrix (← size? (ofNat rows)) (← size? (ofNat cols)) (← grid? (Json.ofGrid cells))) = _
    rw [size?_ofNat hrows, size?_ofNat hcols, grid?_ofGrid]
    rfl
  | vector orientation cells =>
    rw [decode?_toJson_eq_ofParts? _ (hk _)]
    show (do
      return vector (← Orientation.ofSpelling? orientation.spelling)
        (← list? text? (ofTexts cells))) = _
    rw [Orientation.ofSpelling?_spelling, list?_ofTexts]
    rfl
  | operation op left right ihleft ihright =>
    obtain ⟨hleft, hright⟩ := h
    rw [decode?_toJson_eq_ofParts? _ (hk _)]
    show (do
      return operation (← Operator.ofSpelling? op.spelling) (← decode? innerKind? left.toJson)
        (← decode? innerKind? right.toJson)) = _
    rw [Operator.ofSpelling?_spelling, ihleft hleft innerKind?_name, ihright hright innerKind?_name]
    rfl
  | wrapped wrapper inner ih =>
    rw [decode?_toJson_eq_ofParts? _ (hk _)]
    show (do
      return wrapped (← Wrapper.ofSpelling? wrapper.spelling)
        (← decode? innerKind? inner.toJson)) = _
    rw [Wrapper.ofSpelling?_spelling, ih h innerKind?_name]
    rfl
  | integral body lower upper differential =>
    -- a part that is absent has no member, and without a member it is read as absent
    rw [decode?_toJson_eq_ofParts? _ (hk _)]
    cases lower <;> cases upper <;> cases differential <;> rfl
  | fraction numerator denominator => rw [decode?_toJson_eq_ofParts? _ (hk _)]; rfl
  | power base exponent => rw [decode?_toJson_eq_ofParts? _ (hk _)]; rfl
  | subscript base index => rw [decode?_toJson_eq_ofParts? _ (hk _)]; rfl

theorem isWritable_toJson {e : Expr} (h : e.FitsWords) : e.toJson.IsWritable := by
  induction e with
  | matrix rows cols cells =>
    obtain ⟨hrows, hcols⟩ := h
    simp [toJson, isWritable_object_iff, isWritable_ofNat hrows, isWritable_ofNat hcols]
  | operation op left right ihleft ihright =>
    simp [toJson, isWritable_object_iff, ihleft h.1, ihright h.2]
  | wrapped wrapper inner ih => simp [toJson, isWritable_object_iff, ih h]
  | integral body lower upper differential =>
    rw [toJson, isWritable_object_iff]
    simp only [List.forall_mem_append, List.forall_mem_cons]
    refine ⟨⟨⟨⟨isWritable_string _, isWritable_string _, nofun⟩, ?_⟩, ?_⟩, ?_⟩
    all_goals exact fun m hm => isWritable_of_mem_optionalMember hm
  | _ => simp [toJson, isWritable_object_iff]

/-- A `text` that spells `e.toJson` is read as `e`, if its `nesting` is at most `depthLimit`, and is
an error otherwise. -/
theorem read_of_spellsValue {e : Expr} (h : e.FitsWords) {text : Text}
    (htext : SpellsValue e.toJson text) :
    read text = if nesting text ≤ depthLimit then .ok e else .error .json := by
  have hread := bind_read?_of_spellsValue (isWritable_toJson h)
    (decode?_toJson h outerKind?_name) htext
  rw [read, show (Json.read? text).bind ofJson? = _ from hread]
  by_cases hlimit : nesting text ≤ depthLimit
  · rw [if_pos hlimit, if_pos hlimit]
  · rw [if_neg hlimit, if_neg hlimit]

/-! ### What is read -/

theorem exists_of_parts? {j : Json} {kind : Kind} {es : List (Option Json)}
    (h : parts? kind? j = some (kind, es)) :
    ∃ name rest, j.tagged? tagKey = some (name, rest) ∧ rest.entries? (keys kind) = some es := by
  unfold parts? at h
  split at h
  · cases h
  · next name rest htag =>
    split at h
    · cases h
    · obtain ⟨es', hes, heq⟩ := Option.map_eq_some_iff.mp h
      cases heq
      exact ⟨name, rest, htag, hes⟩

theorem depth_lt_of_parts? {j part : Json} {kind : Kind} {es : List (Option Json)}
    (h : parts? kind? j = some (kind, es)) (hp : some part ∈ es) : part.depth < j.depth := by
  obtain ⟨name, rest, htag, hes⟩ := exists_of_parts? h
  exact Nat.lt_of_lt_of_le (depth_lt_of_mem_entries? hes hp) (depth_le_of_tagged? htag)

theorem depth_pos_of_parts? {j : Json} {kind : Kind} {es : List (Option Json)}
    (h : parts? kind? j = some (kind, es)) : 0 < j.depth := by
  obtain ⟨name, rest, htag, hes⟩ := exists_of_parts? h
  exact Nat.lt_of_lt_of_le (depth_pos_of_entries? hes) (depth_le_of_tagged? htag)

theorem depth_ofTexts_le_of_list? {j : Json} {ts : List Text} (h : list? text? j = some ts) :
    (ofTexts ts).depth ≤ j.depth :=
  depth_array_map_le_of_list? (fun _ => Nat.zero_le _) h

theorem depth_ofGrid_le_of_grid? {j : Json} {cells : List (List Text)}
    (h : j.grid? = some cells) : (Json.ofGrid cells).depth ≤ j.depth :=
  depth_array_map_le_of_list? depth_ofTexts_le_of_list? h

/-- What `decode?` reads from `j` has sizes that fit words, and it is stored as a value that is
nested no more deeply than `j`. -/
theorem fitsWords_and_depth_toJson_le_of_decode? {j : Json} {e : Expr}
    (h : decode? kind? j = some e) : e.FitsWords ∧ e.toJson.depth ≤ j.depth := by
  fun_induction decode? kind? j generalizing e
  all_goals simp only [Option.bind_eq_bind, Option.bind_eq_some_iff, Option.pure_def,
    Option.some.injEq, reduceCtorEq] at h
  -- a part lies within the record, and so does what it is stored as
  case case4 kind? j rows cols cells hparts =>
    obtain ⟨m, hm, n, hn, grid, hgrid, rfl⟩ := h
    have hpos := depth_pos_of_parts? hparts
    have hcells : cells.depth < j.depth := depth_lt_of_parts? hparts (by simp)
    have hstored := Nat.lt_of_le_of_lt (depth_ofGrid_le_of_grid? hgrid) hcells
    refine ⟨⟨size?_lt hm, size?_lt hn⟩, depth_object_le_iff.mpr ⟨hpos, ?_⟩⟩
    simp [hpos, hstored]
  case case5 kind? j orientation cells hparts =>
    obtain ⟨o, _, ts, hts, rfl⟩ := h
    have hpos := depth_pos_of_parts? hparts
    have hcells : cells.depth < j.depth := depth_lt_of_parts? hparts (by simp)
    have hstored := Nat.lt_of_le_of_lt (depth_ofTexts_le_of_list? hts) hcells
    refine ⟨trivial, depth_object_le_iff.mpr ⟨hpos, ?_⟩⟩
    simp [hpos, hstored]
  case case6 kind? j op left right hparts ihleft ihright =>
    obtain ⟨o, _, l, hl, r, hr, rfl⟩ := h
    obtain ⟨hfitsl, hlel⟩ := ihleft hl
    obtain ⟨hfitsr, hler⟩ := ihright hr
    have hpos := depth_pos_of_parts? hparts
    have hleft : left.depth < j.depth := depth_lt_of_parts? hparts (by simp)
    have hright : right.depth < j.depth := depth_lt_of_parts? hparts (by simp)
    have hstoredl := Nat.lt_of_le_of_lt hlel hleft
    have hstoredr := Nat.lt_of_le_of_lt hler hright
    refine ⟨⟨hfitsl, hfitsr⟩, depth_object_le_iff.mpr ⟨hpos, ?_⟩⟩
    simp [hpos, hstoredl, hstoredr]
  case case7 kind? j wrapper inner hparts ih =>
    obtain ⟨w, _, e, he, rfl⟩ := h
    obtain ⟨hfits, hle⟩ := ih he
    have hpos := depth_pos_of_parts? hparts
    have hinner : inner.depth < j.depth := depth_lt_of_parts? hparts (by simp)
    have hstored := Nat.lt_of_le_of_lt hle hinner
    refine ⟨hfits, depth_object_le_iff.mpr ⟨hpos, ?_⟩⟩
    simp [hpos, hstored]
  case case8 kind? j body lower upper differential hparts =>
    obtain ⟨a, _, b, _, d, _, rfl⟩ := h
    have hpos := depth_pos_of_parts? hparts
    refine ⟨trivial, depth_object_le_iff.mpr ⟨hpos, ?_⟩⟩
    simp only [List.forall_mem_append, List.forall_mem_cons]
    refine ⟨⟨⟨⟨hpos, hpos, nofun⟩, ?_⟩, ?_⟩, ?_⟩
    all_goals
      intro m hm
      rw [depth_eq_zero_of_mem_optionalMember hm]
      exact hpos
  -- the other kinds hold texts only
  all_goals
    next hparts =>
      subst h
      have hpos := depth_pos_of_parts? hparts
      exact ⟨trivial, depth_object_le_iff.mpr ⟨hpos, by simp [hpos]⟩⟩

end MathNotes.Expr
