import Mathlib.Algebra.Group.Nat.Even
import Mathlib.Data.List.DropRight
import MathNotes.Proofs.Text.Replace

/-!
# Escaped marks

LaTeX reads a backslash and the character after it as one unit, so whether a mark counts as such
depends on whether a backslash is open before it, and that on how many backslashes stand there.

* `units` cuts a text into its units, and `escapes` picks those that are an escaped mark.
* What is read of a text depends on what stands before it only in so far as a backslash is open
  there. So texts are read from a state (`openAfter`, `marksFrom`), and what is read of two texts
  one after another is what is read of each (`openAfter_append`, `marksFrom_append`).
* If a rule puts what is read as that which it takes, wherever it applies in a text, then the text
  is read the same when all has been replaced (`readsAlike_replace`).
-/

namespace MathNotes.Text

variable {s : Text} {rule : Rule}

/-! ### Units -/

/-- The units of a text: a backslash and the character after it are one, and so is every other
character. -/
def units : Text → List Text
  | '\\' :: c :: rest => ['\\', c] :: units rest
  | c :: rest => [c] :: units rest
  | [] => []

/-- The marks of LaTeX that can be escaped to stand for themselves. -/
def marks : Text := ['_', '^', '&', '{', '}']

/-- An escaped mark: a backslash and the `mark`. -/
def escape (mark : Char) : Text := ['\\', mark]

/-- The units of `s` that are the `escape` of one of the `marks`, in order. -/
def escapes (s : Text) : List Text := (units s).filter (marks.map escape).contains

/-- The text `s` ends within a unit: its last backslash has no character after it. -/
def IsOpen (s : Text) : Prop := (units s).getLast? = some ['\\']

/-! ### Reading from a state -/

/-- Whether a backslash is open after `c`, if `isOpen` says whether one was before it. An open one
takes `c` as its tail. -/
def opens (isOpen : Bool) (c : Char) : Bool := !isOpen && c = '\\'

/-- Whether a backslash is open after `s`, by `opens` for each character. -/
def openAfter (isOpen : Bool) (s : Text) : Bool := s.foldl opens isOpen

/-- The marks that are escaped in a text, read from the state `isOpen`. -/
def marksFrom : Bool → Text → Text
  | _, [] => []
  | isOpen, c :: s =>
    if isOpen && c ∈ marks then c :: marksFrom (opens isOpen c) s else marksFrom (opens isOpen c) s

@[simp] theorem openAfter_nil (q : Bool) : openAfter q [] = q := rfl

@[simp] theorem openAfter_cons (q : Bool) (c : Char) (s : Text) :
    openAfter q (c :: s) = openAfter (opens q c) s := rfl

theorem openAfter_append (q : Bool) (s t : Text) :
    openAfter q (s ++ t) = openAfter (openAfter q s) t := List.foldl_append

theorem marksFrom_false_cons (c : Char) (s : Text) :
    marksFrom false (c :: s) = marksFrom (opens false c) s := rfl

theorem marksFrom_cons_of_not_mem {c : Char} (hc : c ∉ marks) (q : Bool) (s : Text) :
    marksFrom q (c :: s) = marksFrom (opens q c) s := by
  rw [marksFrom, decide_eq_false hc, Bool.and_false]
  rfl

theorem marksFrom_append (q : Bool) (s t : Text) :
    marksFrom q (s ++ t) = marksFrom q s ++ marksFrom (openAfter q s) t := by
  induction s generalizing q with
  | nil => rfl
  | cons c s ih =>
    rw [List.cons_append, marksFrom, marksFrom, openAfter_cons, ih]
    split <;> rfl

/-! ### Units and states -/

/-- A character that `units` reads as a unit of its own leaves no backslash open, unless the text
ends there. -/
theorem opens_eq_false_or_eq_nil {c : Char}
    (h : ∀ d rest, c = '\\' → s = d :: rest → False) : opens false c = false ∨ s = [] := by
  cases s with
  | nil => exact .inr rfl
  | cons d rest =>
    left
    rw [opens, decide_eq_false fun hc => h d rest hc rfl, Bool.and_false]

theorem isOpen_iff (s : Text) : IsOpen s ↔ openAfter false s = true := by
  rw [IsOpen]
  fun_induction units s with
  | case1 c rest ih =>
    have hopens : openAfter false ('\\' :: c :: rest) = openAfter false rest := rfl
    rw [hopens, ← ih, List.getLast?_cons]
    cases (units rest).getLast? with
    | none => simp
    | some u => rfl
  | case2 c rest h ih =>
    rcases opens_eq_false_or_eq_nil h with hc | rfl
    · rw [openAfter_cons, hc, ← ih, List.getLast?_cons]
      cases (units rest).getLast? with
      | none =>
        have hne : c ≠ '\\' := by
          rintro rfl
          cases hc
        simp [hne]
      | some u => rfl
    · simp [units, opens]
  | case3 => simp

theorem escapes_eq_map (s : Text) : escapes s = (marksFrom false s).map escape := by
  rw [escapes]
  fun_induction units s with
  | case1 c rest ih =>
    have hmem : (marks.map escape).contains ['\\', c] = true ↔ c ∈ marks := by simp [escape]
    have hmarks : marksFrom false ('\\' :: c :: rest) =
        if c ∈ marks then c :: marksFrom false rest else marksFrom false rest := by
      rw [marksFrom_cons_of_not_mem (by decide), marksFrom]
      simp [opens]
    rw [List.filter_cons, ih, hmarks]
    simp only [hmem]
    split <;> rfl
  | case2 c rest h ih =>
    have hmem : (marks.map escape).contains [c] = false := by simp [escape]
    have hmarks : marksFrom false (c :: rest) = marksFrom false rest := by
      rcases opens_eq_false_or_eq_nil h with hc | rfl
      · rw [marksFrom_false_cons, hc]
      · rfl
    rw [List.filter_cons, ih, hmarks, hmem]
    rfl
  | case3 => rfl

/-- No backslash is open at the end of `s` iff an even number of them stands there. -/
theorem openAfter_eq_false_iff (s : Text) :
    openAfter false s = false ↔ Even (s.rtakeWhile (· = '\\')).length := by
  induction s using List.reverseRecOn with
  | nil => exact iff_of_true rfl Even.zero
  | append_singleton s c ih =>
    rw [openAfter_append, openAfter_cons, openAfter_nil, opens]
    by_cases hc : c = '\\'
    · rw [List.rtakeWhile_concat_pos _ _ _ (by simpa using hc), List.length_append,
        List.length_singleton, Nat.even_add_one, ← ih, decide_eq_true hc]
      simp
    · rw [List.rtakeWhile_concat_neg _ _ _ (by simpa using hc), decide_eq_false hc, Bool.and_false]
      exact iff_of_true rfl Even.zero

/-- If nothing is escaped in a text, no backslash is open before a mark `c` in it. -/
theorem openAfter_eq_false_of_marksFrom_eq_nil {q : Bool} {c : Char} {before after : Text}
    (hc : c ∈ marks) (h : marksFrom q (before ++ c :: after) = []) :
    openAfter q before = false := by
  rw [marksFrom_append, List.append_eq_nil_iff] at h
  rw [Bool.eq_false_iff]
  intro hopen
  have hmark := h.2
  rw [hopen, marksFrom, decide_eq_true hc, Bool.and_true, if_pos rfl] at hmark
  cases hmark

/-! ### Texts that are read alike -/

/-- From the state `q` on, the same marks are escaped in `s` and `t`, and a backslash is open after
both or after none. -/
structure ReadsAlike (q : Bool) (s t : Text) : Prop where
  openAfter_eq : openAfter q s = openAfter q t
  marksFrom_eq : marksFrom q s = marksFrom q t

theorem ReadsAlike.refl (q : Bool) (s : Text) : ReadsAlike q s s := ⟨rfl, rfl⟩

theorem ReadsAlike.append {q : Bool} {s s' t t' : Text} (hs : ReadsAlike q s s')
    (ht : ReadsAlike (openAfter q s') t t') : ReadsAlike q (s ++ t) (s' ++ t') where
  openAfter_eq := by
    rw [openAfter_append, openAfter_append, hs.openAfter_eq, ht.openAfter_eq]
  marksFrom_eq := by
    rw [marksFrom_append, marksFrom_append, hs.marksFrom_eq, hs.openAfter_eq, ht.marksFrom_eq]

/-! ### Texts without a backslash -/

theorem opens_eq_false_of_not_mem {c : Char} (h : '\\' ∉ c :: s) (q : Bool) :
    opens q c = false := by
  rw [opens, decide_eq_false (List.ne_of_not_mem_cons h).symm, Bool.and_false]

/-- A text without a backslash is read from `false` as if it were not there. -/
theorem readsAlike_nil_of_not_mem (h : '\\' ∉ s) : ReadsAlike false [] s := by
  induction s with
  | nil => exact .refl _ _
  | cons c s ih =>
    obtain ⟨hopen, hmarks⟩ := ih (List.not_mem_of_not_mem_cons h)
    constructor
    · rw [openAfter_cons, opens_eq_false_of_not_mem h, hopen]
    · rw [marksFrom_false_cons, opens_eq_false_of_not_mem h, ← hmarks]

/-- Behind a character `c` that is no mark it does not matter whether a backslash was open (`q`). -/
theorem openAfter_and_marksFrom_of_not_mem {c : Char} (hc : c ∉ marks) (h : '\\' ∉ c :: s)
    (q : Bool) : openAfter q (c :: s) = false ∧ marksFrom q (c :: s) = [] := by
  obtain ⟨hopen, hmarks⟩ := readsAlike_nil_of_not_mem (List.not_mem_of_not_mem_cons h)
  rw [openAfter_cons, marksFrom_cons_of_not_mem hc, opens_eq_false_of_not_mem h]
  exact ⟨hopen.symm, hmarks.symm⟩

/-! ### Replacing -/

/-- A word of the kind `IsWord` begins in `s` behind an open backslash, which makes its first
character the tail of an escape. -/
def BeginsInEscape (IsWord : Text → Prop) (s : Text) : Prop :=
  ∃ before word after, s = before ++ (word ++ after) ∧ IsWord word ∧ IsOpen before

/-- Whether `rule` applies anywhere behind an open backslash, read from the state `isOpen`. -/
def appliesInEscape (rule : Rule) : Bool → Text → Bool
  | _, [] => false
  | isOpen, c :: rest =>
    isOpen && (rule none c rest).isSome || appliesInEscape rule (opens isOpen c) rest

/-- If `rule` puts what is read as that which it takes, at each place of `s` behind `front`, then
`replaceFrom rule` gives what is read as `s`. -/
theorem readsAlike_replaceFrom (front s : Text)
    (h : ∀ before c rest m, s = before ++ c :: rest →
      rule (front ++ before).getLast? c rest = some m →
      ReadsAlike (openAfter false (front ++ before)) m.put (c :: rest.take m.further)) :
    ReadsAlike (openAfter false front) (replaceFrom rule front.getLast? 0 s) s := by
  induction hn : s.length using Nat.strongRecOn generalizing front s with
  | ind n ih =>
  subst hn
  cases s with
  | nil => exact .refl _ _
  | cons c s =>
    rw [replaceFrom]
    cases hm : rule front.getLast? c s with
    | some m =>
      have htaken := h [] c s m rfl (by rwa [List.append_nil])
      rw [List.append_nil] at htaken
      -- what is left is replaced behind the text up to the end of what was taken
      have hlen : (s.drop m.further).length < (c :: s).length := by
        rw [List.length_drop, List.length_cons]
        omega
      have hlast : (front ++ c :: s.take m.further).getLast? =
          (c :: s.take m.further).getLast? := by
        rw [List.getLast?_append, List.getLast?_cons, Option.some_or]
      have hleft := ih _ hlen (front ++ c :: s.take m.further) (s.drop m.further) ?_ rfl
      · rw [hlast, openAfter_append] at hleft
        have happend := htaken.append hleft
        rw [List.cons_append, List.take_append_drop, ← replaceFrom_eq_drop] at happend
        exact happend
      · intro before d rest m' hs
        rw [List.append_assoc]
        refine h (c :: s.take m.further ++ before) d rest m' ?_
        rw [List.append_assoc, ← hs, List.cons_append, List.take_append_drop]
    | none =>
      have hleft := ih _ (Nat.lt_succ_self s.length) (front ++ [c]) s ?_ rfl
      · rw [List.getLast?_concat, openAfter_append] at hleft
        exact (ReadsAlike.refl _ [c]).append hleft
      · intro before d rest m' hs
        rw [List.append_assoc]
        exact h (c :: before) d rest m' (congrArg (c :: ·) hs)

theorem readsAlike_replace (s : Text)
    (h : ∀ before c rest m, s = before ++ c :: rest → rule before.getLast? c rest = some m →
      ReadsAlike (openAfter false before) m.put (c :: rest.take m.further)) :
    ReadsAlike false (replace rule s) s :=
  readsAlike_replaceFrom [] s h

theorem appliesInEscape_eq_true_iff (q : Bool) (s : Text) :
    appliesInEscape rule q s = true ↔
      ∃ before c rest, s = before ++ c :: rest ∧ openAfter q before = true ∧
        rule none c rest ≠ none := by
  induction s generalizing q with
  | nil => simp [appliesInEscape]
  | cons c s ih =>
    rw [appliesInEscape, Bool.or_eq_true, Bool.and_eq_true, ih, Option.isSome_iff_ne_none]
    constructor
    · rintro (⟨hq, hm⟩ | ⟨before, d, rest, rfl, hopen, hm⟩)
      · exact ⟨[], c, s, rfl, hq, hm⟩
      · exact ⟨c :: before, d, rest, rfl, hopen, hm⟩
    · rintro ⟨before, d, rest, hs, hopen, hm⟩
      cases before with
      | nil =>
        obtain ⟨rfl, rfl⟩ := List.cons.inj hs
        exact .inl ⟨hopen, hm⟩
      | cons b before =>
        obtain ⟨rfl, rfl⟩ := List.cons.inj hs
        exact .inr ⟨before, d, rest, rfl, hopen, hm⟩

/-- If `rule` applies exactly where a word of the kind `IsWord` stands, what begins in an escape is
found by `appliesInEscape`. -/
theorem beginsInEscape_iff {IsWord : Text → Prop} (hne : ∀ word, IsWord word → word ≠ [])
    (hrule : ∀ before c rest,
      rule before c rest = none ↔ ∀ word, IsWord word → ¬ word <+: c :: rest) (s : Text) :
    BeginsInEscape IsWord s ↔ appliesInEscape rule false s = true := by
  rw [appliesInEscape_eq_true_iff]
  constructor
  · rintro ⟨before, word, after, rfl, hword, hopen⟩
    obtain ⟨c, word, rfl⟩ := List.exists_cons_of_ne_nil (hne word hword)
    refine ⟨before, c, word ++ after, rfl, (isOpen_iff before).mp hopen, fun hnone => ?_⟩
    exact (hrule _ _ _).mp hnone (c :: word) hword ⟨after, rfl⟩
  · rintro ⟨before, c, rest, rfl, hopen, hm⟩
    rw [Ne, hrule] at hm
    obtain ⟨word, hstands⟩ := Classical.not_forall.mp hm
    obtain ⟨hword, hprefix⟩ := Classical.not_imp.mp hstands
    obtain ⟨after, hafter⟩ := Classical.not_not.mp hprefix
    exact ⟨before, word, after, by rw [hafter], hword, (isOpen_iff before).mpr hopen⟩

/-- A `rule` that takes words of the kind `IsWord` and puts nothing does not change how `s` is read,
if these words are read as if they were not there and none of them begins in an escape. -/
theorem readsAlike_replace_of_not_beginsInEscape {IsWord : Text → Prop}
    (hword : ∀ word, IsWord word → word ≠ [] ∧ ReadsAlike false [] word)
    (hrule : ∀ before c rest m, rule before c rest = some m →
      ∃ word after, IsWord word ∧ c :: rest = word ++ after ∧ m = ⟨word.length - 1, []⟩)
    (h : ¬ BeginsInEscape IsWord s) : ReadsAlike false (replace rule s) s := by
  refine readsAlike_replace s ?_
  intro before c rest m hs hm
  obtain ⟨word, after, hw, heq, rfl⟩ := hrule _ _ _ _ hm
  have hclosed : openAfter false before = false := by
    rw [Bool.eq_false_iff]
    intro hopen
    exact h ⟨before, word, after, by rw [hs, heq], hw, (isOpen_iff before).mpr hopen⟩
  obtain ⟨hne, hread⟩ := hword word hw
  rw [hclosed, (cons_take_and_drop_of_cons_eq_append hne heq).1]
  exact hread

end MathNotes.Text
