import MathNotes.Json.Reader
import MathNotes.Json.Writer
import MathNotes.Proofs.Json.Token

/-!
# Values are read back from their spelling

A value has a sequence of tokens (`tokens`), from which the reader makes the value again
(`ofTokens?_tokens`). Both forms in which a value is written hold these tokens in order, with no
blanks or with new lines and indents between them (`Spells`), and a text is read as the tokens it
holds. So either form is read as the value that was written (`read?_compact`, `read?_pretty`). That
needs a value in which every number is an integer of a word and no string is broken (`IsWritable`).
-/

namespace MathNotes.Json

open Text

/-- A value that is read back from what is written for it: its numbers are all integers of a word
(`IsWordInteger`), and nothing in it is `broken`. -/
inductive IsWritable : Json → Prop where
  | null : IsWritable .null
  | bool (b : Bool) : IsWritable (.bool b)
  | integer {n : Int} (h : IsWordInteger n) : IsWritable (.number (.integer n))
  | string (s : Text) : IsWritable (.string s)
  | array {items : List Json} (h : ∀ j ∈ items, IsWritable j) : IsWritable (.array items)
  | object {members : List (Text × Json)} (h : ∀ m ∈ members, IsWritable m.2) :
    IsWritable (.object members)

mutual

/-- The tokens of a value, in the order in which both writers put them. -/
def tokens : Json → List Token
  | .null => [.null]
  | .bool b => [.bool b]
  | .number n => [.number n]
  | .string s => [.string s]
  | .broken => [.brokenString]
  | .array items => .openArray :: itemTokens items
  | .object members => .openObject :: memberTokens members

/-- The tokens of the items of an array and of the closing bracket. -/
def itemTokens : List Json → List Token
  | [] => [.closeArray]
  | [j] => tokens j ++ [.closeArray]
  | j :: rest => tokens j ++ .comma :: itemTokens rest

/-- The tokens of the members of an object and of the closing brace. -/
def memberTokens : List (Text × Json) → List Token
  | [] => [.closeObject]
  | [(k, j)] => .string k :: .colon :: (tokens j ++ [.closeObject])
  | (k, j) :: rest => .string k :: .colon :: (tokens j ++ .comma :: memberTokens rest)

end

/-! ### From tokens to the value -/

theorem run_cons {state next : State} {t : Token} (h : state.next t = some next)
    (ts : List Token) : state.run (t :: ts) = next.run ts := by
  rw [State.run, List.foldlM_cons, h]
  rfl

theorem itemTokens_cons_cons (j j' : Json) (items : List Json) :
    itemTokens (j :: j' :: items) = tokens j ++ .comma :: itemTokens (j' :: items) := by
  rw [itemTokens]
  exact fun h => nomatch h

theorem memberTokens_cons_cons (k : Text) (j : Json) (m : Text × Json)
    (members : List (Text × Json)) :
    memberTokens ((k, j) :: m :: members) =
      .string k :: .colon :: (tokens j ++ .comma :: memberTokens (m :: members)) := by
  rw [memberTokens]
  exact fun h => nomatch h

/-- From `.firstItem` on, an item is taken as from `.value` inside an empty array. -/
theorem run_firstItem_itemTokens_append (stack : List Frame) (j : Json) (items : List Json)
    (ts : List Token) :
    State.run (.firstItem stack) (itemTokens (j :: items) ++ ts) =
      State.run (.value (.array [] :: stack)) (itemTokens (j :: items) ++ ts) := by
  -- the first token is one of `j`, which does not close the array
  have hfirst (ts : List Token) : State.run (.firstItem stack) (tokens j ++ ts) =
      State.run (.value (.array [] :: stack)) (tokens j ++ ts) := by
    cases j <;> rfl
  cases items with
  | nil => rw [itemTokens, List.append_assoc, hfirst]
  | cons j' items => rw [itemTokens_cons_cons, List.append_assoc, hfirst]

theorem run_itemTokens_append {items : List Json}
    (h : ∀ j ∈ items, ∀ stack ts,
      State.run (.value stack) (tokens j ++ ts) = State.run (deliver j stack) ts)
    (hne : items ≠ []) (done : List Json) (stack : List Frame) (ts : List Token) :
    State.run (.value (.array done :: stack)) (itemTokens items ++ ts) =
      State.run (deliver (.array (done.reverse ++ items)) stack) ts := by
  induction items generalizing done with
  | nil => exact absurd rfl hne
  | cons j items ih =>
    obtain ⟨hj, hitems⟩ := List.forall_mem_cons.mp h
    cases items with
    | nil =>
      rw [itemTokens, List.append_assoc, hj]
      show State.run (.afterItem (j :: done) stack) (.closeArray :: ts) = _
      rw [run_cons rfl, List.reverse_cons]
    | cons j' items =>
      rw [itemTokens_cons_cons, List.append_assoc, hj]
      show State.run (.afterItem (j :: done) stack) (.comma :: (itemTokens (j' :: items) ++ ts)) = _
      rw [run_cons rfl, ih hitems (List.cons_ne_nil _ _), List.reverse_cons, List.append_assoc]
      rfl

/-- The members of an object as the reader keeps them: keys that are not broken, the last member
first. -/
def asRead (members : List (Text × Json)) : Members :=
  (members.map fun m => (some m.1, m.2)).reverse

theorem ofMembers_asRead (members : List (Text × Json)) :
    ofMembers (asRead members) = .object members := by
  -- the function on members in the definition is only known by what it does to a key that is read
  have hkeys {f : Option Text × Json → Option (Text × Json)}
      (hf : ∀ k j, f (some k, j) = some (k, j)) :
      (asRead members).reverse.mapM f = some members := by
    rw [asRead, List.reverse_reverse]
    induction members with
    | nil => rfl
    | cons m members ih =>
      rw [List.map_cons, List.mapM_cons, hf, ih]
      rfl
  rw [ofMembers, hkeys fun k j => rfl]

theorem asRead_concat (members : List (Text × Json)) (k : Text) (j : Json) :
    asRead (members ++ [(k, j)]) = (some k, j) :: asRead members := by
  rw [asRead, List.map_append, List.reverse_append]
  rfl

/-- From `.firstKey` on, a member is taken as from `.key` with no members before it. -/
theorem run_firstKey_memberTokens_append (stack : List Frame) (m : Text × Json)
    (members : List (Text × Json)) (ts : List Token) :
    State.run (.firstKey stack) (memberTokens (m :: members) ++ ts) =
      State.run (.key [] stack) (memberTokens (m :: members) ++ ts) := by
  cases members <;> rfl

theorem run_memberTokens_append {members : List (Text × Json)}
    (h : ∀ m ∈ members, ∀ stack ts,
      State.run (.value stack) (tokens m.2 ++ ts) = State.run (deliver m.2 stack) ts)
    (hne : members ≠ []) (done : List (Text × Json)) (stack : List Frame) (ts : List Token) :
    State.run (.key (asRead done) stack) (memberTokens members ++ ts) =
      State.run (deliver (.object (done ++ members)) stack) ts := by
  induction members generalizing done with
  | nil => exact absurd rfl hne
  | cons m members ih =>
    obtain ⟨k, j⟩ := m
    obtain ⟨hj, hmembers⟩ := List.forall_mem_cons.mp h
    cases members with
    | nil =>
      rw [memberTokens, List.cons_append, run_cons rfl, List.cons_append, run_cons rfl,
        List.append_assoc, hj]
      show State.run (.afterMember ((some k, j) :: asRead done) stack) (.closeObject :: ts) = _
      rw [run_cons rfl, ← asRead_concat, ofMembers_asRead]
    | cons m' members =>
      rw [memberTokens_cons_cons, List.cons_append, run_cons rfl, List.cons_append, run_cons rfl,
        List.append_assoc, hj]
      show State.run (.afterMember ((some k, j) :: asRead done) stack)
        (.comma :: (memberTokens (m' :: members) ++ ts)) = _
      rw [run_cons rfl, ← asRead_concat, ih hmembers (List.cons_ne_nil _ _), List.append_assoc]
      rfl

/-- **Values from tokens.** Where a value may come, the `tokens` of `j` lead to what `deliver j`
does. -/
theorem run_tokens_append {j : Json} (hj : j.IsWritable) (stack : List Frame) (ts : List Token) :
    State.run (.value stack) (tokens j ++ ts) = State.run (deliver j stack) ts := by
  induction hj generalizing stack ts with
  | null => rfl
  | bool b => rfl
  | integer h => rfl
  | string s => rfl
  | @array items _ ih =>
    show State.run (.firstItem stack) (itemTokens items ++ ts) = _
    cases items with
    | nil => rfl
    | cons j items =>
      rw [run_firstItem_itemTokens_append]
      exact run_itemTokens_append ih (List.cons_ne_nil _ _) [] stack ts
  | @object members _ ih =>
    show State.run (.firstKey stack) (memberTokens members ++ ts) = _
    cases members with
    | nil => rfl
    | cons m members =>
      rw [run_firstKey_memberTokens_append]
      exact run_memberTokens_append ih (List.cons_ne_nil _ _) [] stack ts

theorem ofTokens?_tokens {j : Json} (hj : j.IsWritable) : ofTokens? (tokens j) = some j := by
  have hrun := run_tokens_append hj [] []
  rw [List.append_nil] at hrun
  rw [ofTokens?, hrun]
  rfl

/-! ### From the text to tokens -/

/-- The text holds the tokens in order, and nothing but blanks besides. -/
inductive Spells : List Token → Text → Prop where
  | nil : Spells [] []
  | blank {c : Char} {ts : List Token} {s : Text} (hc : isTokenBlank c = true)
    (hs : Spells ts s) : Spells ts (c :: s)
  | token {t : Token} {ts : List Token} {s : Text} (ht : t.IsWritable) (hnext : t.MayPrecede s)
    (hs : Spells ts s) : Spells (t :: ts) (t.text ++ s)

theorem readTokens_of_readToken {t : Token} {c : Char} {s rest : Text}
    (hc : isTokenBlank c = false) (h : readToken (c :: s) = some (t, rest)) :
    readTokens (c :: s) = (readTokens rest).map (t :: ·) := by
  rw [readTokens, if_neg (by rw [hc]; decide)]
  split
  · next t' rest' h' =>
    rw [h] at h'
    cases h'
    rfl
  · next h' =>
    rw [h] at h'
    cases h'

/-- A text is read by `readTokens` as the tokens that it holds. -/
theorem readTokens_of_spells {ts : List Token} {s : Text} (h : Spells ts s) :
    readTokens s = some ts := by
  induction h with
  | nil => rw [readTokens]
  | blank hc _ ih => rw [readTokens, if_pos hc, ih]
  | @token t ts s ht hnext _ ih =>
    have hread := readToken_text_append ht hnext
    obtain ⟨c, rest, htext, hc⟩ := Token.exists_text_eq_cons ht
    rw [htext, List.cons_append] at hread ⊢
    rw [readTokens_of_readToken hc hread, ih]
    rfl

/-! ### From the value to a text -/

/-- Nothing but blanks, as they may stand between tokens (`isTokenBlank`). -/
def IsGap (gap : Text) : Prop := ∀ c ∈ gap, isTokenBlank c = true

theorem Spells.append_gap {gap s : Text} {ts : List Token} (hs : Spells ts s) (hgap : IsGap gap) :
    Spells ts (gap ++ s) := by
  induction gap with
  | nil => exact hs
  | cons c gap ih =>
    obtain ⟨hc, hrest⟩ := List.forall_mem_cons.mp hgap
    exact .blank hc (ih hrest)

/-- After a gap no number goes on, if it does not behind the gap. -/
theorem startsOutside_append_gap {gap s : Text} (hgap : IsGap gap)
    (hs : StartsOutside goesOnNumber s) : StartsOutside goesOnNumber (gap ++ s) := by
  cases gap with
  | nil => exact hs
  | cons c gap =>
    have hc : isTokenBlank c = true := hgap c (List.mem_cons_self ..)
    show goesOnNumber c = false
    simp only [isTokenBlank, Bool.or_eq_true, decide_eq_true_eq] at hc
    rcases hc with ((rfl | rfl) | rfl) | rfl <;> decide

/-- In front of whatever does not go on with a number, `text` holds the `tokens` of `j`. -/
def SpellsValue (j : Json) (text : Text) : Prop :=
  ∀ ts s, Spells ts s → StartsOutside goesOnNumber s → Spells (tokens j ++ ts) (text ++ s)

/-- The items of an array, each by `write`, and the closing bracket, with `gap` after each comma and
`last` before the bracket. Both `compactItems` and `indentedItems` are of this form. -/
def spacedItems (write : Json → Text) (gap last : Text) : List Json → Text
  | [] => [']']
  | [j] => write j ++ (last ++ [']'])
  | j :: rest => write j ++ ',' :: (gap ++ spacedItems write gap last rest)

/-- The members of an object, each by `write`, and the closing brace, with `inner` after each colon,
`gap` after each comma and `last` before the brace. -/
def spacedMembers (write : Json → Text) (inner gap last : Text) : List (Text × Json) → Text
  | [] => ['}']
  | [(k, j)] => stringText k ++ ':' :: (inner ++ (write j ++ (last ++ ['}'])))
  | (k, j) :: rest =>
    stringText k ++ ':' ::
      (inner ++ (write j ++ ',' :: (gap ++ spacedMembers write inner gap last rest)))

variable {write : Json → Text} {inner gap last : Text}

theorem spells_spacedItems_append (hgap : IsGap gap) (hlast : IsGap last) {items : List Json}
    (h : ∀ j ∈ items, SpellsValue j (write j)) {ts : List Token} {s : Text} (hs : Spells ts s) :
    Spells (itemTokens items ++ ts) (spacedItems write gap last items ++ s) := by
  have hclose : Spells (.closeArray :: ts) (']' :: s) := .token trivial trivial hs
  induction items with
  | nil => exact hclose
  | cons j items ih =>
    obtain ⟨hj, hitems⟩ := List.forall_mem_cons.mp h
    cases items with
    | nil =>
      rw [itemTokens, spacedItems, List.append_assoc, List.append_assoc, List.append_assoc]
      exact hj _ _ (hclose.append_gap hlast) (startsOutside_append_gap hlast rfl)
    | cons j' items =>
      have hrest : Spells (.comma :: (itemTokens (j' :: items) ++ ts))
          (',' :: (gap ++ (spacedItems write gap last (j' :: items) ++ s))) :=
        .token (t := .comma) trivial trivial ((ih hitems).append_gap hgap)
      rw [itemTokens_cons_cons, spacedItems, List.append_assoc, List.append_assoc, List.cons_append,
        List.cons_append, List.append_assoc]
      · exact hj _ _ hrest rfl
      · exact fun h => nomatch h

theorem spells_spacedMembers_append (hinner : IsGap inner) (hgap : IsGap gap) (hlast : IsGap last)
    {members : List (Text × Json)} (h : ∀ m ∈ members, SpellsValue m.2 (write m.2))
    {ts : List Token} {s : Text} (hs : Spells ts s) :
    Spells (memberTokens members ++ ts) (spacedMembers write inner gap last members ++ s) := by
  have hclose : Spells (.closeObject :: ts) ('}' :: s) := .token trivial trivial hs
  -- a key, a colon and whatever the value is spelled with
  have hkey {k : Text} {ts : List Token} {s : Text} (hs : Spells ts s) :
      Spells (.string k :: .colon :: ts) (stringText k ++ (':' :: (inner ++ s))) :=
    .token (t := .string k) trivial trivial
      (.token (t := .colon) trivial trivial (hs.append_gap hinner))
  induction members with
  | nil => exact hclose
  | cons m members ih =>
    obtain ⟨k, j⟩ := m
    obtain ⟨hj, hmembers⟩ := List.forall_mem_cons.mp h
    cases members with
    | nil =>
      have hvalue : Spells (tokens j ++ .closeObject :: ts) (write j ++ (last ++ '}' :: s)) :=
        hj _ _ (hclose.append_gap hlast) (startsOutside_append_gap hlast rfl)
      rw [memberTokens, spacedMembers]
      simpa only [List.append_assoc, List.cons_append, List.nil_append] using hkey hvalue
    | cons m' members =>
      have hrest : Spells (.comma :: (memberTokens (m' :: members) ++ ts))
          (',' :: (gap ++ (spacedMembers write inner gap last (m' :: members) ++ s))) :=
        .token (t := .comma) trivial trivial ((ih hmembers).append_gap hgap)
      rw [memberTokens_cons_cons, spacedMembers]
      · simpa only [List.append_assoc, List.cons_append] using hkey (hj _ _ hrest rfl)
      · exact fun h => nomatch h

/-! ### The compact form -/

theorem compactItems_eq (items : List Json) :
    compactItems items = spacedItems compact [] [] items := by
  induction items with
  | nil => rfl
  | cons j items ih =>
    cases items with
    | nil => rfl
    | cons j' items =>
      rw [compactItems, spacedItems, ih, List.nil_append]
      · exact fun h => nomatch h
      · exact fun h => nomatch h

theorem compactMembers_eq (members : List (Text × Json)) :
    compactMembers members = spacedMembers compact [] [] [] members := by
  induction members with
  | nil => rfl
  | cons m members ih =>
    cases members with
    | nil => rfl
    | cons m' members =>
      rw [compactMembers, spacedMembers, ih, List.nil_append, List.nil_append]
      · exact fun h => nomatch h
      · exact fun h => nomatch h

theorem isGap_nil : IsGap [] := fun _ h => nomatch h

theorem isGap_space : IsGap [' '] := by
  intro c hc
  rw [List.mem_singleton.mp hc]
  decide

theorem spellsValue_compact {j : Json} (hj : j.IsWritable) : SpellsValue j (compact j) := by
  induction hj with
  | null => exact fun ts s hs _ => .token (t := .null) trivial trivial hs
  | bool b => exact fun ts s hs _ => .token (t := .bool b) trivial trivial hs
  | @integer n h => exact fun ts s hs hnext => .token (t := .number (.integer n)) h hnext hs
  | string s => exact fun ts t hs _ => .token (t := .string s) trivial trivial hs
  | @array items _ ih =>
    intro ts s hs _
    rw [compact, compactItems_eq]
    exact .token (t := .openArray) trivial trivial
      (spells_spacedItems_append isGap_nil isGap_nil ih hs)
  | @object members _ ih =>
    intro ts s hs _
    rw [compact, compactMembers_eq]
    exact .token (t := .openObject) trivial trivial
      (spells_spacedMembers_append isGap_nil isGap_nil isGap_nil ih hs)

/-! ### The indented form -/

theorem isGap_newline (indent : Nat) : IsGap (newline indent) := by
  intro c hc
  rcases List.mem_cons.mp hc with rfl | hc
  · decide
  · rw [List.eq_of_mem_replicate hc]
    decide

theorem indentedItems_eq (indent : Nat) (items : List Json) :
    indentedItems indent items =
      spacedItems (indented indent) (newline indent) (newline (indent - 1)) items := by
  induction items with
  | nil => rw [indentedItems, spacedItems]
  | cons j items ih =>
    cases items with
    | nil => rw [indentedItems, spacedItems, List.append_assoc]
    | cons j' items =>
      rw [indentedItems, spacedItems, ih]
      · exact fun h => nomatch h
      · exact fun h => nomatch h

theorem indentedMembers_eq (indent : Nat) (members : List (Text × Json)) :
    indentedMembers indent members =
      spacedMembers (indented indent) [' '] (newline indent) (newline (indent - 1)) members := by
  induction members with
  | nil => rw [indentedMembers, spacedMembers]
  | cons m members ih =>
    cases members with
    | nil => rw [indentedMembers, spacedMembers, List.append_assoc]; rfl
    | cons m' members =>
      rw [indentedMembers, spacedMembers, ih]
      · rfl
      · exact fun h => nomatch h
      · exact fun h => nomatch h

theorem spellsValue_indented {j : Json} (hj : j.IsWritable) (indent : Nat) :
    SpellsValue j (indented indent j) := by
  induction hj generalizing indent with
  | null => exact fun ts s hs _ => .token (t := .null) trivial trivial hs
  | bool b => exact fun ts s hs _ => .token (t := .bool b) trivial trivial hs
  | @integer n h => exact fun ts s hs hnext => .token (t := .number (.integer n)) h hnext hs
  | string s => exact fun ts t hs _ => .token (t := .string s) trivial trivial hs
  | @array items _ ih =>
    intro ts s hs _
    cases items with
    | nil =>
      have hclose : Spells (.closeArray :: ts) (']' :: s) := .token trivial trivial hs
      exact .token (t := .openArray) trivial trivial hclose
    | cons j items =>
      have hitems : Spells (itemTokens (j :: items) ++ ts)
          (indentedItems (indent + 1) (j :: items) ++ s) := by
        rw [indentedItems_eq]
        exact spells_spacedItems_append (isGap_newline _) (isGap_newline _)
          (fun j hj => ih j hj (indent + 1)) hs
      rw [indented, List.cons_append, List.append_assoc]
      exact .token (t := .openArray) trivial trivial (hitems.append_gap (isGap_newline _))
  | @object members _ ih =>
    intro ts s hs _
    cases members with
    | nil =>
      have hclose : Spells (.closeObject :: ts) ('}' :: s) := .token trivial trivial hs
      exact .token (t := .openObject) trivial trivial hclose
    | cons m members =>
      have hmembers : Spells (memberTokens (m :: members) ++ ts)
          (indentedMembers (indent + 1) (m :: members) ++ s) := by
        rw [indentedMembers_eq]
        exact spells_spacedMembers_append isGap_space (isGap_newline _)
          (isGap_newline _) (fun m hm => ih m hm (indent + 1)) hs
      rw [indented, List.cons_append, List.append_assoc]
      exact .token (t := .openObject) trivial trivial (hmembers.append_gap (isGap_newline _))

/-! ### Reading what was written -/

theorem spells_of_spellsValue {j : Json} {text : Text} (h : SpellsValue j text) :
    Spells (tokens j) text := by
  have hspells := h [] [] .nil rfl
  rwa [List.append_nil, List.append_nil] at hspells

/-- **Values.** If `text` holds the tokens of a writable `j`, then `j` is read from it. -/
theorem read?_of_spellsValue {j : Json} (hj : j.IsWritable) {text : Text} (h : SpellsValue j text) :
    read? text = some j := by
  rw [read?, readTokens_of_spells (spells_of_spellsValue h), Option.bind_some, ofTokens?_tokens hj]

theorem read?_compact {j : Json} (hj : j.IsWritable) : read? (compact j) = some j :=
  read?_of_spellsValue hj (spellsValue_compact hj)

theorem read?_pretty {j : Json} (hj : j.IsWritable) : read? (pretty j) = some j :=
  read?_of_spellsValue hj (spellsValue_indented hj 0)

end MathNotes.Json
