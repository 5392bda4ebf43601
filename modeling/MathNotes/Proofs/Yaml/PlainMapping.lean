import MathNotes.Proofs.Yaml.PlainLines
import MathNotes.Yaml.Members

/-!
# Mappings of plain words

The lines `mappingText members` are read as the mapping of the names to the values
(`read?_mappingText`). If no name is repeated and none is the merge key, the members are in effect
as they are written (`effective?_map_memberNode`).
-/

namespace MathNotes.Yaml

/-- The node of the plain word `s`, which has no tag. -/
def wordNode (s : Text) : Yaml := .scalar s true .none

/-- The member of a mapping with the name `m.1` and the value `m.2`. -/
def memberNode (m : Text × Text) : Yaml × Yaml := (wordNode m.1, wordNode m.2)

/-! ### Reading tokens -/

/-- A plain word is an entry, whatever it stands in. -/
theorem readEntry_scalar {ends : List Token} {s : Text} (hends : .scalar s true ∉ ends)
    (fuel levels : Nat) (inBlock flat : Bool) (x : Context) (rest : List Token) :
    readEntry (fuel + 3) levels ends inBlock flat x (.scalar s true :: rest) =
      some (wordNode s, rest, x) := by
  have hentry : endsEntry ends (.scalar s true :: rest) = false := by
    simpa [endsEntry] using hends
  rw [readEntry, hentry, if_neg Bool.false_ne_true, readNode]
  · simp [readProperties, readContent, wordNode]
  · simp

/-- From the `memberTokens` of one member after another the members are read, behind those that were
`read` before. -/
theorem readMembers_memberTokens (members : List (Text × Text)) (read : List (Yaml × Yaml))
    (x : Context) (rest : List Token) (levels : Nat) {fuel : Nat}
    (hfuel : members.length + 4 < fuel) :
    readMembers fuel levels read x (members.flatMap memberTokens ++ .blockEnd :: rest) =
      some (read.reverse ++ members.map memberNode, rest, x) := by
  induction members generalizing read fuel with
  | nil =>
    obtain ⟨n, rfl⟩ : ∃ n, fuel = n + 1 := ⟨fuel - 1, by omega⟩
    simp [readMembers]
  | cons m members ih =>
    rw [List.length_cons] at hfuel
    obtain ⟨n, rfl⟩ : ∃ n, fuel = n + 5 := ⟨fuel - 5, by omega⟩
    rw [List.flatMap_cons, memberTokens]
    simp only [List.cons_append, List.nil_append]
    rw [readMembers, readEntry_scalar (by simp) (n + 1)]
    simp only []
    rw [readValue, readEntry_scalar (by simp) n]
    simp only []
    rw [ih ((wordNode m.1, wordNode m.2) :: read) (by omega)]
    simp [memberNode]

/-- The tokens of a block mapping, as `tokens_mappingText` gives them, make up the mapping of its
members. -/
theorem ofTokens?_memberTokens (members : List (Text × Text)) :
    ofTokens? (.blockMapping :: (members.flatMap memberTokens ++ [.blockEnd, .finish])) =
      some (.mapping (members.map memberNode)) := by
  have hlength : members.length ≤ (members.flatMap memberTokens).length := by
    induction members with
    | nil => exact Nat.le_refl 0
    | cons m members ih =>
      simp only [List.flatMap_cons, List.length_append, List.length_cons, memberTokens] at ih ⊢
      omega
  obtain ⟨n, hn⟩ : ∃ n, 8 * (Token.blockMapping ::
      (members.flatMap memberTokens ++ [.blockEnd, .finish])).length + 8 = n + 2 := ⟨_, rfl⟩
  have hfuel : members.length + 4 < n := by
    simp only [List.length_cons, List.length_append] at hn
    omega
  have hread := readMembers_memberTokens members [] {} [.finish] 63 hfuel
  rw [ofTokens?, List.dropWhile_cons_of_neg (by simp)]
  simp only [readStart, Token.isDirective, Bool.or_self, Bool.false_eq_true,
    if_false, reduceCtorEq, decide_false, Bool.false_and, hn, depthLimit]
  rw [readNode]
  · simp [readProperties, readContent, hread, endsDocument]
  · simp

/-- The text `mappingText members` is the mapping of its members. -/
theorem read?_mappingText {members : List (Text × Text)} (h : ∀ m ∈ members, IsPlainMember m)
    (hne : members ≠ []) :
    read? (mappingText members) = some (.mapping (members.map memberNode)) := by
  rw [read?, tokens_mappingText h hne, ofTokens?_memberTokens]

/-- An empty text says `nothing`. -/
theorem read?_nil : read? [] = some nothing := rfl

/-! ### Members in effect -/

theorem isMergeKey_wordNode {s : Text} (h : IsPlainWord s) : (wordNode s).isMergeKey = false := by
  have hne : s ≠ "<<" := by
    rintro rfl
    exact absurd (h.isWord.2 '<' (by simp)) (by decide)
  simpa [wordNode, isMergeKey] using hne

theorem hasKey_map_memberNode (members : List (Text × Text)) (name : Text) :
    hasKey (members.map memberNode) (wordNode name) = members.any fun m => m.1 = name := by
  simp [hasKey, memberNode, wordNode, sameKey, Function.comp_def]

/-- Members with different names are distinct by `areDistinct`. -/
theorem areDistinct_map_memberNode {members : List (Text × Text)}
    (h : (members.map (·.1)).Nodup) : areDistinct (members.map memberNode) = true := by
  induction members with
  | nil => rfl
  | cons m rest ih =>
    rw [List.map_cons, List.nodup_cons] at h
    have hkey : hasKey (rest.map memberNode) (memberNode m).1 = false := by
      rw [memberNode, hasKey_map_memberNode, List.any_eq_false]
      intro m' hm' heq
      exact h.1 (List.mem_map.mpr ⟨m', hm', by simpa using heq⟩)
    rw [List.map_cons, areDistinct, hkey, ih h.2]
    rfl

/-- The members of a mapping of plain words are in effect as they are written: nothing is merged. -/
theorem effective?_map_memberNode {members : List (Text × Text)}
    (h : ∀ m ∈ members, IsPlainMember m) (hnodup : (members.map (·.1)).Nodup) :
    effective? (members.map memberNode) = some (members.map memberNode) := by
  have hmerge : ∀ m ∈ members.map memberNode, m.1.isMergeKey = false := by
    intro m hm
    obtain ⟨m', hm', rfl⟩ := List.mem_map.mp hm
    exact isMergeKey_wordNode (h m' hm').name
  have hwritten : (members.map memberNode).filter (fun m => !m.1.isMergeKey) =
      members.map memberNode :=
    List.filter_eq_self.mpr fun m hm => by rw [hmerge m hm]; rfl
  have hinherited : ∀ ms : List (Yaml × Yaml), (∀ m ∈ ms, m.1.isMergeKey = false) →
      inheritedByMembers? ms = some [] := by
    intro ms hms
    induction ms with
    | nil => rfl
    | cons m ms ih =>
      obtain ⟨hm, hrest⟩ := List.forall_mem_cons.mp hms
      rw [inheritedByMembers?, hm, if_neg Bool.false_ne_true, ih hrest]
  simp only [effective?, hwritten, areDistinct_map_memberNode hnodup, if_true,
    hinherited _ hmerge, Option.map_some]
  rfl

/-- The text of a plain word is the word, unless that is a spelling of nothing
(`isNullSpelling`). -/
theorem text?_wordNode {s : Text} (h : isNullSpelling s = false) : (wordNode s).text? = some s := by
  simp [wordNode, text?, isNull, h, taggedText?, Tag.allowsText]

end MathNotes.Yaml
