import MathNotes.Proofs.Expr.NormalForm
import MathNotes.Proofs.Grid.Legible

/-!
# Markup is unambiguous

If the texts of two expressions are plain, the expressions have the same markup iff they have the
same `normalForm` (`markup_eq_markup_iff_normalForm_eq`). So the markup says everything about an
expression but what its normal form forgets.

The markup of a normal form is read from the front. The first characters of an operand say what kind
of operand it is (`Operand.leadOf_markup_append`), its plain texts end at the first character that
is not plain, and an integral, which nothing closes, ends because a sign and a differential begin
differently. Hence operands and chains are self-delimiting before what may follow them
(`Operand.eq_of_markup_append_eq`, `Chain.eq_of_markup_append_eq`).
-/

namespace MathNotes

open Text

/-! ### What follows a chain and an operand -/

/-- What may follow a chain: nothing, or what `Wrapper.closing` begins with. -/
inductive Chain.Ends : Text → Prop
  | nil : Chain.Ends []
  | brace (r : Text) : Chain.Ends ('}' :: r)
  | right (r : Text) : Chain.Ends (' ' :: '\\' :: 'r' :: r)

/-- What may follow an operand: what may follow a chain (`Chain.Ends`), or a sign. -/
inductive Operand.Ends : Text → Prop
  | chain {r : Text} (h : Chain.Ends r) : Operand.Ends r
  | sign (sign : Sign) (r : Text) : Operand.Ends (' ' :: (sign.markup ++ ' ' :: r))

theorem Wrapper.ends_closing_append (wrapper : Wrapper) (r : Text) :
    Chain.Ends (wrapper.closing ++ r) := by
  cases wrapper with
  | parentheses => exact .right _
  | norm => exact .right _
  | squareRoot => exact .brace r

theorem Chain.Ends.ne_sign {r : Text} (h : Chain.Ends r) (sign : Sign) (s : Text) :
    r ≠ ' ' :: (sign.markup ++ ' ' :: s) := by
  rintro rfl
  cases sign <;> cases h

theorem Operand.Ends.startsOutside {r : Text} (h : Operand.Ends r) : StartsOutside isPlain r := by
  cases h with
  | chain h => cases h <;> rfl
  | sign sign r => rfl

theorem Operand.Ends.not_differentialSign {r : Text} (h : Operand.Ends r) :
    ¬ Expr.differentialSign <+: r := by
  apply not_prefix_of_isPrefixOf_eq_false
  cases h with
  | chain h => cases h <;> rfl
  | sign sign r => cases sign <;> rfl

/-! ### The pieces of an operand -/

theorem selfDelimiting_group : SelfDelimiting group (IsWord isPlain) (fun _ => True) := by
  intro x y r s hx hy _ _ heq
  have hbrace : ∀ t, StartsOutside isPlain ('}' :: t) := fun t => rfl
  rw [group_append, group_append] at heq
  obtain ⟨rfl, hrest⟩ :=
    selfDelimiting_id isPlain hx hy (hbrace r) (hbrace s) (List.cons.inj heq).2
  exact ⟨rfl, (List.cons.inj hrest).2⟩

/-- Two powers or subscripts with plain parts at the front of one text are the same. -/
theorem eq_of_script_append_eq {x y x' y' r s : Text} {mark mark' : Char} (hx : IsWord isPlain x)
    (hy : IsWord isPlain y) (hx' : IsWord isPlain x') (hy' : IsWord isPlain y')
    (heq : group x ++ mark :: group y ++ r = group x' ++ mark' :: group y' ++ s) :
    x = x' ∧ mark = mark' ∧ y = y' ∧ r = s := by
  rw [List.append_assoc, List.append_assoc] at heq
  obtain ⟨rfl, hscript⟩ := selfDelimiting_group hx hx' trivial trivial heq
  obtain ⟨rfl, hgroup⟩ := List.cons.inj hscript
  obtain ⟨rfl, rfl⟩ := selfDelimiting_group hy hy' trivial trivial hgroup
  exact ⟨rfl, rfl, rfl, rfl⟩

/-- No sign has a space in it, so `Sign.markup` ends where the space after it stands. -/
theorem selfDelimiting_sign :
    SelfDelimiting Sign.markup (fun _ => True) (fun r => r.head? = some ' ') := by
  intro x y r s _ _ hr hs heq
  have hspace : ∀ t : Text, t.head? = some ' ' → StartsOutside (fun c => c ≠ ' ') t := by
    intro t ht
    rw [StartsOutside, ht]
    rfl
  have hword : ∀ sign : Sign, IsWord (fun c => c ≠ ' ') sign.markup := by
    intro sign
    cases sign <;> decide
  obtain ⟨hmarkup, hrest⟩ := selfDelimiting_id _ (hword x) (hword y) (hspace r hr) (hspace s hs) heq
  refine ⟨?_, hrest⟩
  revert hmarkup
  cases x <;> cases y <;> decide

/-- The separators of cells and of rows and the end of the grid begin with a space and differ in the
character after it, so `Grid.markup` can be told from what follows it. -/
theorem selfDelimiting_grid :
    SelfDelimiting Grid.markup
      (fun cells => cells ≠ [] ∧ ∀ row ∈ cells, row ≠ [] ∧ ∀ cell ∈ row, IsWord isPlain cell)
      (fun _ => True) := by
  intro x y r s hx hy _ _ heq
  have hlines := Grid.selfDelimiting_lines (selfDelimiting_id isPlain) (fun _ => rfl) fun _ => rfl
  have hclosing : ∀ t, (StartsOutside isPlain (Grid.closing ++ t) ∧
      ¬ Grid.cellSeparator <+: Grid.closing ++ t) ∧ ¬ Grid.rowSeparator <+: Grid.closing ++ t :=
    fun t => ⟨⟨rfl, not_prefix_of_isPrefixOf_eq_false rfl⟩, not_prefix_of_isPrefixOf_eq_false rfl⟩
  rw [Grid.markup_eq, Grid.markup_eq, List.append_assoc, List.append_assoc, List.append_assoc,
    List.append_assoc] at heq
  obtain ⟨rfl, hrest⟩ := hlines hx hy (hclosing r) (hclosing s) (List.append_cancel_left heq)
  exact ⟨rfl, List.append_cancel_left hrest⟩

theorem selfDelimiting_writtenBounds :
    SelfDelimiting Expr.writtenBounds
      (fun bounds => ∀ b ∈ bounds, IsWord isPlain b.1 ∧ IsWord isPlain b.2)
      (fun r => r.head? = some ' ') := by
  intro x y r s hx hy hr hs heq
  match x, y with
  | none, none => exact ⟨rfl, heq⟩
  | none, some y =>
    subst heq
    cases hr
  | some x, none =>
    subst heq
    cases hs
  | some (lower, upper), some (lower', upper') =>
    have hx := hx _ rfl
    have hy := hy _ rfl
    obtain ⟨rfl, -, rfl, rfl⟩ :=
      eq_of_script_append_eq hx.1 hx.2 hy.1 hy.2 (List.cons.inj heq).2
    exact ⟨rfl, rfl⟩

theorem Operand.Ends.startsOutside_writtenDifferential_append {r : Text} (h : Operand.Ends r)
    (differential : Option Text) :
    StartsOutside isPlain (Expr.writtenDifferential differential ++ r) := by
  cases differential with
  | none => exact h.startsOutside
  | some v => rfl

theorem selfDelimiting_writtenDifferential :
    SelfDelimiting Expr.writtenDifferential (fun v => ∀ w ∈ v, IsWord isPlain w) Operand.Ends := by
  intro x y r s hx hy hr hs heq
  match x, y with
  | none, none => exact ⟨rfl, heq⟩
  | none, some v =>
    refine absurd ⟨v ++ s, ?_⟩ hr.not_differentialSign
    rw [← List.append_assoc]
    exact heq.symm
  | some v, none =>
    refine absurd ⟨v ++ r, ?_⟩ hs.not_differentialSign
    rw [← List.append_assoc]
    exact heq
  | some v, some w =>
    rw [Expr.writtenDifferential, Expr.writtenDifferential, List.append_assoc,
      List.append_assoc] at heq
    obtain ⟨rfl, rfl⟩ := selfDelimiting_id isPlain (hx v rfl) (hy w rfl) hr.startsOutside
      hs.startsOutside (List.append_cancel_left heq)
    exact ⟨rfl, rfl⟩

/-! ### How an operand begins -/

/-- What the first characters of an operand tell: its kind, as far as markup shows it. -/
inductive Lead where
  | leaf | grid | integral | fraction | script
  | wrapped (wrapper : Wrapper)

/-- What the first characters of a text tell, if it begins with an operand. -/
def leadOf : Text → Lead
  | '{' :: _ => .script
  | '\\' :: 'b' :: _ => .grid
  | '\\' :: 'i' :: _ => .integral
  | '\\' :: 'f' :: _ => .fraction
  | '\\' :: 's' :: _ => .wrapped .squareRoot
  | '\\' :: 'l' :: 'e' :: 'f' :: 't' :: '\\' :: _ => .wrapped .norm
  | '\\' :: 'l' :: _ => .wrapped .parentheses
  | _ => .leaf

/-- How an operand begins. Powers and subscripts begin alike, with a group. -/
def Operand.lead : Operand → Lead
  | .leaf _ => .leaf
  | .grid _ => .grid
  | .wrapped wrapper _ => .wrapped wrapper
  | .integral .. => .integral
  | .fraction .. => .fraction
  | .power .. => .script
  | .subscript .. => .script

theorem leadOf_append_of_isWord {w : Text} (hw : IsWord isPlain w) (r : Text) :
    leadOf (w ++ r) = .leaf := by
  obtain ⟨c, w, rfl⟩ := List.exists_cons_of_ne_nil hw.1
  have hc : isPlain c = true := hw.2 c (List.mem_cons_self ..)
  have hbrace : c ≠ '{' := by
    rintro rfl
    exact absurd hc (by decide)
  have hbackslash : c ≠ '\\' := by
    rintro rfl
    exact absurd hc (by decide)
  rw [List.cons_append]
  unfold leadOf
  split <;> simp_all

theorem Operand.leadOf_markup_append {a : Operand} (ha : a.IsWrittenIn isPlain) (r : Text) :
    leadOf (a.markup ++ r) = a.lead := by
  cases a with
  | leaf content => exact leadOf_append_of_isWord ha r
  | wrapped wrapper inner => cases wrapper <;> rfl
  | _ => rfl

/-! ### Operands and chains -/

theorem Chain.markup_link_append (operand : Operand) (sign : Sign) (rest : Chain) (r : Text) :
    (Chain.link operand sign rest).markup ++ r =
      operand.markup ++ ' ' :: (sign.markup ++ ' ' :: (rest.markup ++ r)) := by
  rw [markup]
  simp only [List.append_assoc, List.cons_append]

theorem Operand.markup_integral_append (body : Text) (bounds : Option (Text × Text))
    (differential : Option Text) (r : Text) :
    (Operand.integral body bounds differential).markup ++ r =
      Expr.integralCommand ++ (Expr.writtenBounds bounds ++
        ' ' :: (body ++ (Expr.writtenDifferential differential ++ r))) := by
  rw [markup]
  simp only [List.append_assoc, List.cons_append]

mutual

/-- **Operands.** If `a.markup ++ r = b.markup ++ s` for operands with plain texts, before what may
follow an operand, then `a = b` and `r = s`. -/
theorem Operand.eq_of_markup_append_eq {a b : Operand} {r s : Text} (ha : a.IsWrittenIn isPlain)
    (hb : b.IsWrittenIn isPlain) (hr : Operand.Ends r) (hs : Operand.Ends s)
    (heq : a.markup ++ r = b.markup ++ s) : a = b ∧ r = s := by
  have hlead : a.lead = b.lead := by
    rw [← Operand.leadOf_markup_append ha r, heq, Operand.leadOf_markup_append hb s]
  -- operands that begin alike are of one kind, but for the two scripts, which differ in the mark
  match a with
  | .leaf v =>
    cases b with
    | leaf w =>
      obtain ⟨rfl, rfl⟩ := selfDelimiting_id isPlain ha hb hr.startsOutside hs.startsOutside heq
      exact ⟨rfl, rfl⟩
    | _ => cases hlead
  | .grid cells =>
    cases b with
    | grid cells' =>
      obtain ⟨rfl, rfl⟩ := selfDelimiting_grid ha hb trivial trivial heq
      exact ⟨rfl, rfl⟩
    | _ => cases hlead
  | .wrapped wrapper inner =>
    cases b with
    | wrapped wrapper' inner' =>
      obtain rfl : wrapper = wrapper' := Lead.wrapped.inj hlead
      rw [Operand.markup, Operand.markup, List.append_assoc, List.append_assoc, List.append_assoc,
        List.append_assoc] at heq
      obtain ⟨rfl, hrest⟩ := Chain.eq_of_markup_append_eq ha hb (wrapper.ends_closing_append r)
        (wrapper.ends_closing_append s) (List.append_cancel_left heq)
      exact ⟨rfl, List.append_cancel_left hrest⟩
    | _ => cases hlead
  | .integral body bounds differential =>
    cases b with
    | integral body' bounds' differential' =>
      obtain ⟨hbody, hbounds, hdifferential⟩ := ha
      obtain ⟨hbody', hbounds', hdifferential'⟩ := hb
      rw [Operand.markup_integral_append, Operand.markup_integral_append] at heq
      -- nothing closes the body: it ends where the differential or what follows begins
      obtain ⟨rfl, hrest⟩ := selfDelimiting_writtenBounds hbounds hbounds' rfl rfl
        (List.append_cancel_left heq)
      obtain ⟨rfl, htail⟩ := selfDelimiting_id isPlain hbody hbody'
        (hr.startsOutside_writtenDifferential_append _)
        (hs.startsOutside_writtenDifferential_append _) (List.cons.inj hrest).2
      obtain ⟨rfl, rfl⟩ :=
        selfDelimiting_writtenDifferential hdifferential hdifferential' hr hs htail
      exact ⟨rfl, rfl⟩
    | _ => cases hlead
  | .fraction numerator denominator =>
    cases b with
    | fraction numerator' denominator' =>
      rw [Operand.markup, Operand.markup, List.append_assoc, List.append_assoc, List.append_assoc,
        List.append_assoc] at heq
      obtain ⟨rfl, hrest⟩ :=
        selfDelimiting_group ha.1 hb.1 trivial trivial (List.append_cancel_left heq)
      obtain ⟨rfl, rfl⟩ := selfDelimiting_group ha.2 hb.2 trivial trivial hrest
      exact ⟨rfl, rfl⟩
    | _ => cases hlead
  | .power base exponent =>
    cases b with
    | power base' exponent' =>
      obtain ⟨rfl, -, rfl, rfl⟩ := eq_of_script_append_eq ha.1 ha.2 hb.1 hb.2 heq
      exact ⟨rfl, rfl⟩
    | subscript base' index =>
      obtain ⟨-, hmark, -⟩ := eq_of_script_append_eq ha.1 ha.2 hb.1 hb.2 heq
      exact absurd hmark (by decide)
    | _ => cases hlead
  | .subscript base index =>
    cases b with
    | subscript base' index' =>
      obtain ⟨rfl, -, rfl, rfl⟩ := eq_of_script_append_eq ha.1 ha.2 hb.1 hb.2 heq
      exact ⟨rfl, rfl⟩
    | power base' exponent =>
      obtain ⟨-, hmark, -⟩ := eq_of_script_append_eq ha.1 ha.2 hb.1 hb.2 heq
      exact absurd hmark (by decide)
    | _ => cases hlead

/-- **Chains.** If `c.markup ++ r = d.markup ++ s` for chains with plain texts, before what may
follow a chain, then `c = d` and `r = s`: after each operand, what stands there says whether the
chain goes on. -/
theorem Chain.eq_of_markup_append_eq {c d : Chain} {r s : Text} (hc : c.IsWrittenIn isPlain)
    (hd : d.IsWrittenIn isPlain) (hr : Chain.Ends r) (hs : Chain.Ends s)
    (heq : c.markup ++ r = d.markup ++ s) : c = d ∧ r = s := by
  -- where one chain ends and the other goes on, what follows a chain would begin with a sign
  match c with
  | .last a =>
    cases d with
    | last b =>
      obtain ⟨rfl, rfl⟩ := Operand.eq_of_markup_append_eq hc hd (.chain hr) (.chain hs) heq
      exact ⟨rfl, rfl⟩
    | link b sign d =>
      rw [Chain.markup_link_append] at heq
      obtain ⟨-, rfl⟩ := Operand.eq_of_markup_append_eq hc hd.1 (.chain hr) (.sign sign _) heq
      exact absurd rfl (hr.ne_sign sign _)
  | .link a sign c =>
    rw [Chain.markup_link_append] at heq
    cases d with
    | last b =>
      obtain ⟨-, rfl⟩ := Operand.eq_of_markup_append_eq hc.1 hd (.sign sign _) (.chain hs) heq
      exact absurd rfl (hs.ne_sign sign _)
    | link b sign' d =>
      rw [Chain.markup_link_append] at heq
      obtain ⟨rfl, hsigns⟩ :=
        Operand.eq_of_markup_append_eq hc.1 hd.1 (.sign sign _) (.sign sign' _) heq
      obtain ⟨rfl, hrest⟩ := selfDelimiting_sign trivial trivial rfl rfl (List.cons.inj hsigns).2
      obtain ⟨rfl, rfl⟩ := Chain.eq_of_markup_append_eq hc.2 hd.2 hr hs (List.cons.inj hrest).2
      exact ⟨rfl, rfl⟩

end

/-- **Unambiguity.** Two expressions with plain texts, grids of one row or more with one cell or
more in each and vectors of one cell or more (`IsWrittenIn isPlain`) have the same `markup` iff they
have the same `normalForm`. -/
theorem markup_eq_markup_iff_normalForm_eq {a b : Expr} (ha : a.IsWrittenIn isPlain)
    (hb : b.IsWrittenIn isPlain) : a.markup = b.markup ↔ a.normalForm = b.normalForm := by
  rw [← a.markup_normalForm, ← b.markup_normalForm]
  constructor
  · intro heq
    have hchains : a.normalForm.markup ++ [] = b.normalForm.markup ++ [] := by rw [heq]
    exact (Chain.eq_of_markup_append_eq (Expr.isWrittenIn_normalForm ha)
      (Expr.isWrittenIn_normalForm hb) .nil .nil hchains).1
  · intro heq
    rw [heq]

/-- Regrouped operands, `times` for `multiply`, a vector for a matrix and a bound that is alone do
not show. -/
theorem markup_eq_markup_regrouped :
    let a := Expr.operation .minus (.symbol "a")
      (.operation .multiply (.integral "f" (some "0") none none) (.vector .column ["1", "2"]))
    let b := Expr.operation .times
      (.operation .minus (.identifier "a") (.integral "f" none none (some [])))
      (.matrix 2 1 [["1"], ["2"]])
    a.IsWrittenIn isPlain ∧ b.IsWrittenIn isPlain ∧ a.normalForm = b.normalForm ∧
      a.markup = b.markup := by
  intro a b
  have ha : a.IsWrittenIn isPlain := by decide
  have hb : b.IsWrittenIn isPlain := by decide
  have hforms : a.normalForm = b.normalForm := rfl
  exact ⟨ha, hb, hforms, (markup_eq_markup_iff_normalForm_eq ha hb).mpr hforms⟩

end MathNotes
