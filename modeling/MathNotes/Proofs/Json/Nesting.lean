import MathNotes.Proofs.Json.Spelling

/-!
# How deeply a text nests

How deeply arrays and objects are nested can be seen from a text alone: go along it, passing over
strings, and watch how many brackets and braces are open (`nesting`). In a text that spells a value
that is the `Json.depth` of the value (`nesting_of_spellsValue`), in the compact form and in the
indented one. So whether a text that was written can be used again is seen from the text
(`bind_read?_of_spellsValue`).
-/

namespace MathNotes.Json

/-- Where in a text a character stands: outside of strings, in one, or in one after a backslash. -/
inductive Place where
  | outside | inside | escaped

/-- How many arrays and objects are open at most at one place of a text, if `level` of them are open
before it. Brackets and braces in strings do not count, which the `Place` keeps track of. -/
def nestingFrom : Place → (level : Nat) → Text → Nat
  | _, level, [] => level
  | .outside, level, c :: s =>
    if c = '"' then nestingFrom .inside level s
    else if c = '[' ∨ c = '{' then nestingFrom .outside (level + 1) s
    else if c = ']' ∨ c = '}' then max level (nestingFrom .outside (level - 1) s)
    else nestingFrom .outside level s
  | .inside, level, c :: s =>
    if c = '"' then nestingFrom .outside level s
    else if c = '\\' then nestingFrom .escaped level s
    else nestingFrom .inside level s
  | .escaped, level, _ :: s => nestingFrom .inside level s

/-- How deeply arrays and objects are nested in `s`: `nestingFrom` outside of strings, with none
open. -/
def nesting (s : Text) : Nat := nestingFrom .outside 0 s

/-! ### Tokens -/

/-- How many arrays and objects are open at most after one of the tokens, if `level` of them are
open before. -/
def tokenNesting (level : Nat) : List Token → Nat
  | [] => level
  | .openArray :: ts => tokenNesting (level + 1) ts
  | .openObject :: ts => tokenNesting (level + 1) ts
  | .closeArray :: ts => max level (tokenNesting (level - 1) ts)
  | .closeObject :: ts => max level (tokenNesting (level - 1) ts)
  | _ :: ts => tokenNesting level ts

theorem le_tokenNesting (level : Nat) (ts : List Token) : level ≤ tokenNesting level ts := by
  fun_induction tokenNesting level ts with
  | case1 => exact Nat.le_refl _
  | case2 => omega
  | case3 => omega
  | case4 => omega
  | case5 => omega
  | case6 => assumption

/-- Whether `c` neither begins a string nor opens or closes anything. -/
def isFlat (c : Char) : Bool := !(['"', '[', '{', ']', '}'].contains c)

theorem nestingFrom_append_of_isFlat {w : Text} (hw : w.all isFlat = true) (level : Nat)
    (s : Text) : nestingFrom .outside level (w ++ s) = nestingFrom .outside level s := by
  induction w with
  | nil => rfl
  | cons c w ih =>
    rw [List.all_cons, Bool.and_eq_true] at hw
    obtain ⟨hc, hrest⟩ := hw
    simp only [isFlat, List.contains_eq_mem, List.mem_cons, List.not_mem_nil, or_false,
      Bool.not_eq_true', decide_eq_false_iff_not, not_or] at hc
    obtain ⟨hquote, hbracket, hbrace, hbracket', hbrace'⟩ := hc
    rw [List.cons_append, nestingFrom, if_neg hquote, if_neg (not_or.mpr ⟨hbracket, hbrace⟩),
      if_neg (not_or.mpr ⟨hbracket', hbrace'⟩)]
    exact ih hrest

/-- What `stringChar c` puts in a string does not end it. -/
theorem nestingFrom_stringChar_append (c : Char) (level : Nat) (s : Text) :
    nestingFrom .inside level (stringChar c ++ s) = nestingFrom .inside level s := by
  rcases stringChar_cases c with ⟨mark, hc, -⟩ | ⟨hcontrol, hc⟩ | ⟨hquote, hbackslash, -, hc⟩
  · rw [hc]
    rfl
  · have hdigit : ∀ d < 16, hexDigit d ≠ '"' ∧ hexDigit d ≠ '\\' := by decide
    obtain ⟨hquote, hbackslash⟩ := hdigit (c.toNat / 16) (by omega)
    obtain ⟨hquote', hbackslash'⟩ := hdigit (c.toNat % 16) (by omega)
    rw [hc]
    show nestingFrom .inside level
      (hexDigit (c.toNat / 16) :: hexDigit (c.toNat % 16) :: s) = nestingFrom .inside level s
    rw [nestingFrom, if_neg hquote, if_neg hbackslash, nestingFrom, if_neg hquote',
      if_neg hbackslash']
  · rw [hc, List.singleton_append, nestingFrom, if_neg hquote, if_neg hbackslash]

theorem nestingFrom_stringText_append (s : Text) (level : Nat) (rest : Text) :
    nestingFrom .outside level (stringText s ++ rest) = nestingFrom .outside level rest := by
  have hinside : nestingFrom .inside level (s.flatMap stringChar ++ '"' :: rest) =
      nestingFrom .outside level rest := by
    induction s with
    | nil => rfl
    | cons c s ih =>
      rw [List.flatMap_cons, List.append_assoc, nestingFrom_stringChar_append, ih]
  rw [stringText, List.cons_append, List.append_assoc, List.singleton_append]
  exact hinside

theorem isFlat_of_mem_integerText {n : Int} {c : Char} (h : c ∈ integerText n) :
    isFlat c = true := by
  have hdigit : c = '-' ∨ c.isDigit = true := by
    unfold integerText at h
    split at h
    · rcases List.mem_cons.mp h with rfl | h
      · exact .inl rfl
      · exact .inr ((Decimal.isWord_toDigits _).2 _ h)
    · exact .inr ((Decimal.isWord_toDigits _).2 _ h)
  rw [isFlat, Bool.not_eq_true', Bool.eq_false_iff]
  intro hmem
  simp only [List.contains_eq_mem, List.mem_cons, List.not_mem_nil, or_false,
    decide_eq_true_eq] at hmem
  rcases hmem with rfl | rfl | rfl | rfl | rfl <;> exact absurd hdigit (by decide)

/-- A text nests as deeply as the tokens that it holds (`tokenNesting`). -/
theorem nestingFrom_of_spells {ts : List Token} {s : Text} (h : Spells ts s) (level : Nat) :
    nestingFrom .outside level s = tokenNesting level ts := by
  induction h generalizing level with
  | nil => rfl
  | @blank c ts s hc _ ih =>
    have hflat : isFlat c = true := by
      simp only [isTokenBlank, Bool.or_eq_true, decide_eq_true_eq] at hc
      rcases hc with ((rfl | rfl) | rfl) | rfl <;> decide
    rw [← ih]
    exact nestingFrom_append_of_isFlat (w := [c]) (by rw [List.all_cons, hflat]; rfl) level s
  | @token t ts s ht _ _ ih =>
    cases t with
    | openArray => exact ih (level + 1)
    | openObject => exact ih (level + 1)
    | closeArray => exact congrArg (max level) (ih (level - 1))
    | closeObject => exact congrArg (max level) (ih (level - 1))
    | string k => exact (nestingFrom_stringText_append k level s).trans (ih level)
    | brokenString => exact ht.elim
    | number n =>
      cases n with
      | integer n =>
        have hflat : (integerText n).all isFlat = true :=
          List.all_eq_true.mpr fun c hc => isFlat_of_mem_integerText hc
        exact (nestingFrom_append_of_isFlat hflat level s).trans (ih level)
      | decimal => exact ht.elim
    | comma => exact (nestingFrom_append_of_isFlat (by decide) level s).trans (ih level)
    | colon => exact (nestingFrom_append_of_isFlat (by decide) level s).trans (ih level)
    | null => exact (nestingFrom_append_of_isFlat (by decide) level s).trans (ih level)
    | bool b =>
      cases b
      · exact (nestingFrom_append_of_isFlat (by decide) level s).trans (ih level)
      · exact (nestingFrom_append_of_isFlat (by decide) level s).trans (ih level)

/-! ### Values -/

theorem tokenNesting_itemTokens_append {items : List Json}
    (h : ∀ j ∈ items, ∀ level ts, tokenNesting level (tokens j ++ ts) =
      max (level + j.depth) (tokenNesting level ts)) (level : Nat) (ts : List Token) :
    tokenNesting (level + 1) (itemTokens items ++ ts) =
      max (level + 1 + depthOfItems items) (tokenNesting level ts) := by
  induction items with
  | nil => rfl
  | cons j items ih =>
    obtain ⟨hj, hitems⟩ := List.forall_mem_cons.mp h
    cases items with
    | nil =>
      rw [itemTokens, List.append_assoc, hj, depthOfItems, depthOfItems]
      show max _ (max (level + 1) (tokenNesting level ts)) = _
      omega
    | cons j' items =>
      rw [itemTokens_cons_cons, List.append_assoc, hj, depthOfItems]
      show max _ (tokenNesting (level + 1) (itemTokens (j' :: items) ++ ts)) = _
      rw [ih hitems]
      omega

theorem tokenNesting_memberTokens_append {members : List (Text × Json)}
    (h : ∀ m ∈ members, ∀ level ts, tokenNesting level (tokens m.2 ++ ts) =
      max (level + m.2.depth) (tokenNesting level ts)) (level : Nat) (ts : List Token) :
    tokenNesting (level + 1) (memberTokens members ++ ts) =
      max (level + 1 + depthOfMembers members) (tokenNesting level ts) := by
  induction members with
  | nil => rfl
  | cons m members ih =>
    obtain ⟨k, j⟩ := m
    obtain ⟨hj, hmembers⟩ := List.forall_mem_cons.mp h
    dsimp only at hj
    cases members with
    | nil =>
      rw [memberTokens, depthOfMembers, depthOfMembers]
      show tokenNesting (level + 1) (tokens j ++ [.closeObject] ++ ts) = _
      rw [List.append_assoc, hj]
      show max _ (max (level + 1) (tokenNesting level ts)) = _
      omega
    | cons m' members =>
      rw [memberTokens_cons_cons, depthOfMembers]
      show tokenNesting (level + 1) (tokens j ++ .comma :: memberTokens (m' :: members) ++ ts) = _
      rw [List.append_assoc, hj]
      show max _ (tokenNesting (level + 1) (memberTokens (m' :: members) ++ ts)) = _
      rw [ih hmembers]
      omega

theorem tokenNesting_tokens_append {j : Json} (hj : j.IsWritable) (level : Nat) (ts : List Token) :
    tokenNesting level (tokens j ++ ts) = max (level + j.depth) (tokenNesting level ts) := by
  have hle := le_tokenNesting level ts
  induction hj generalizing level ts with
  | null => exact (Nat.max_eq_right hle).symm
  | bool b => exact (Nat.max_eq_right hle).symm
  | integer h => exact (Nat.max_eq_right hle).symm
  | string s => exact (Nat.max_eq_right hle).symm
  | @array items _ ih =>
    show tokenNesting (level + 1) (itemTokens items ++ ts) = _
    rw [tokenNesting_itemTokens_append fun j hj level ts => ih j hj level ts (le_tokenNesting _ _),
      depth]
    omega
  | @object members _ ih =>
    show tokenNesting (level + 1) (memberTokens members ++ ts) = _
    rw [tokenNesting_memberTokens_append
      fun m hm level ts => ih m hm level ts (le_tokenNesting _ _), depth]
    omega

/-- **Nesting.** A `text` that spells `j` nests as deeply as `j`. -/
theorem nesting_of_spellsValue {j : Json} (hj : j.IsWritable) {text : Text}
    (h : SpellsValue j text) : nesting text = j.depth := by
  have htokens := tokenNesting_tokens_append hj 0 []
  rw [List.append_nil] at htokens
  rw [nesting, nestingFrom_of_spells (spells_of_spellsValue h), htokens, Nat.zero_add]
  exact Nat.max_zero _

/-! ### Values that can be used -/

theorem itemsAreSound_iff {items : List Json} :
    itemsAreSound items = true ↔ ∀ j ∈ items, j.isSound = true := by
  induction items with
  | nil => simp [itemsAreSound]
  | cons j items ih => rw [itemsAreSound, Bool.and_eq_true, ih, List.forall_mem_cons]

theorem membersAreSound_iff {members : List (Text × Json)} :
    membersAreSound members = true ↔ ∀ m ∈ members, m.2.isSound = true := by
  induction members with
  | nil => simp [membersAreSound]
  | cons m members ih => rw [membersAreSound, Bool.and_eq_true, ih, List.forall_mem_cons]

theorem isSound_of_isWritable {j : Json} (hj : j.IsWritable) : j.isSound = true := by
  induction hj with
  | null => rfl
  | bool b => rfl
  | integer h => rfl
  | string s => rfl
  | array _ ih => exact itemsAreSound_iff.mpr ih
  | object _ ih => exact membersAreSound_iff.mpr ih

/-- All that can keep a writable `j` from being used is its `depth`. -/
theorem isUsable_iff_of_isWritable {j : Json} (hj : j.IsWritable) (levels : Nat) :
    j.isUsable levels = true ↔ j.depth + levels ≤ depthLimit := by
  rw [isUsable, isSound_of_isWritable hj, Bool.true_and, decide_eq_true_eq]

/-- If `decode? j = some x`, then `x` is made of every `text` that spells `j` and whose `nesting` is
at most `depthLimit`, and nothing is made of one that nests more deeply. -/
theorem bind_read?_of_spellsValue {α : Type} {decode? : Json → Option α} {j : Json} {x : α}
    (hj : j.IsWritable) (hdecode : decode? j = some x) {text : Text} (h : SpellsValue j text) :
    ((read? text).bind fun j => if j.isUsable 0 then decode? j else none) =
      if nesting text ≤ depthLimit then some x else none := by
  have husable := isUsable_iff_of_isWritable hj 0
  rw [read?_of_spellsValue hj h, nesting_of_spellsValue hj h, Option.bind_some]
  by_cases hdepth : j.depth ≤ depthLimit
  · rw [if_pos (husable.mpr hdepth), if_pos hdepth, hdecode]
  · rw [if_neg (mt husable.mp hdepth), if_neg hdepth]

end MathNotes.Json
