import MathNotes.Proofs.Sanitize.Balance
import MathNotes.Proofs.Template.Registry
import MathNotes.Render

/-!
# What is rendered has its braces balanced

If the braces of the texts that are put in are balanced, so are those of what comes out, whether it
is cleaned and put between delimiters or not (`isBalanced_sanitize_iff_and_render`). Expressions
write their texts in whole groups (`Expr.isBalanced_markup`). The fixed texts of a template do not
have their braces balanced one by one; together they do (`Template.isBalanced_frame`), and what is
shown in the slots between them is balanced (`Template.isBalanced_compile`).
-/

namespace MathNotes

open Text Sanitize

/-! ### Expressions -/

/-- Every text that an expression holds, whether or not `Expr.markup` writes it. -/
def Expr.texts : Expr → List Text
  | .symbol glyph => [glyph]
  | .number digits => [digits]
  | .identifier name => [name]
  | .matrix _ _ cells => cells.flatten
  | .vector _ cells => cells
  | .operation _ left right => left.texts ++ right.texts
  | .wrapped _ inner => inner.texts
  | .integral body lower upper differential =>
    body :: (lower.toList ++ upper.toList ++ differential.toList)
  | .fraction numerator denominator => [numerator, denominator]
  | .power base exponent => [base, exponent]
  | .subscript base index => [base, index]

theorem Operator.isBalanced_markup (op : Operator) : IsBalanced op.markup := by
  cases op <;> decide

/-- What a `wrapper` puts around balanced markup `s` leaves the braces balanced. -/
theorem Wrapper.isBalanced_wrapped (wrapper : Wrapper) {s : Text} (h : IsBalanced s) :
    IsBalanced (wrapper.opening ++ s ++ wrapper.closing) := by
  cases wrapper with
  | parentheses => exact (IsBalanced.append (by decide) h).append (by decide)
  | norm => exact (IsBalanced.append (by decide) h).append (by decide)
  | squareRoot =>
    have hcommand : IsBalanced "\\sqrt".toList := by decide
    show IsBalanced ("\\sqrt".toList ++ ['{'] ++ s ++ ['}'])
    rw [List.append_assoc, List.append_assoc]
    exact hcommand.append h.group

theorem Grid.isBalanced_delimited {content : Text} (h : IsBalanced content) :
    IsBalanced (Grid.opening ++ content ++ Grid.closing) :=
  (IsBalanced.append (by decide) h).append (by decide)

theorem Expr.isBalanced_boundsMarkup {lower upper : Option Text}
    (hlower : ∀ s ∈ lower, IsBalanced s) (hupper : ∀ s ∈ upper, IsBalanced s) :
    IsBalanced (boundsMarkup lower upper) := by
  match lower, upper with
  | none, none => exact isBalanced_nil
  | none, some _ => exact isBalanced_nil
  | some _, none => exact isBalanced_nil
  | some lower, some upper =>
    have hgroups : IsBalanced (group lower ++ '^' :: group upper) :=
      (hlower lower rfl).group.append ((hupper upper rfl).group.cons (by decide) (by decide))
    exact hgroups.cons (by decide) (by decide)

theorem Expr.isBalanced_differentialMarkup {differential : Option Text}
    (h : ∀ s ∈ differential, IsBalanced s) : IsBalanced (differentialMarkup differential) := by
  match differential with
  | none => exact isBalanced_nil
  | some [] => exact isBalanced_nil
  | some (c :: rest) =>
    have hsign : IsBalanced " \\, d".toList := by decide
    exact hsign.append (h (c :: rest) rfl)

/-- **Expressions.** If the texts of the expression `e` are balanced, so is `e.markup`. -/
theorem Expr.isBalanced_markup {e : Expr} (h : ∀ s ∈ e.texts, IsBalanced s) :
    IsBalanced e.markup := by
  induction e with
  | symbol glyph => exact h glyph (List.mem_singleton_self _)
  | number digits => exact h digits (List.mem_singleton_self _)
  | identifier name => exact h name (List.mem_singleton_self _)
  | matrix rows cols cells =>
    refine Grid.isBalanced_delimited (IsBalanced.intercalate (by decide) ?_)
    intro line hline
    obtain ⟨row, hrow, rfl⟩ := List.mem_map.mp hline
    exact IsBalanced.intercalate (by decide) fun cell hcell =>
      h cell (List.mem_flatten.mpr ⟨row, hrow, hcell⟩)
  | vector orientation cells =>
    refine Grid.isBalanced_delimited (IsBalanced.intercalate ?_ h)
    cases orientation <;> decide
  | operation op left right hleft hright =>
    obtain ⟨hl, hr⟩ := List.forall_mem_append.mp h
    have hrest : IsBalanced (op.markup ++ ' ' :: right.markup) :=
      op.isBalanced_markup.append ((hright hr).cons (by decide) (by decide))
    exact (hleft hl).append (hrest.cons (by decide) (by decide))
  | wrapped wrapper inner hinner => exact wrapper.isBalanced_wrapped (hinner h)
  | integral body lower upper differential =>
    obtain ⟨hbody, hrest⟩ := List.forall_mem_cons.mp h
    obtain ⟨hbounds, hdifferential⟩ := List.forall_mem_append.mp hrest
    obtain ⟨hlower, hupper⟩ := List.forall_mem_append.mp hbounds
    simp only [Option.mem_toList] at hlower hupper hdifferential
    have hcommand : IsBalanced "\\int".toList := by decide
    have hintegrand : IsBalanced (body ++ differentialMarkup differential) :=
      hbody.append (isBalanced_differentialMarkup hdifferential)
    exact (hcommand.append (isBalanced_boundsMarkup hlower hupper)).append
      (hintegrand.cons (by decide) (by decide))
  | fraction numerator denominator =>
    obtain ⟨hnumerator, hdenominator⟩ := List.forall_mem_cons.mp h
    have hcommand : IsBalanced "\\frac".toList := by decide
    exact (hcommand.append hnumerator.group).append
      (hdenominator denominator (List.mem_singleton_self _)).group
  | power base exponent =>
    obtain ⟨hbase, hexponent⟩ := List.forall_mem_cons.mp h
    exact hbase.group.append ((hexponent exponent (List.mem_singleton_self _)).group.cons
      (by decide) (by decide))
  | subscript base index =>
    obtain ⟨hbase, hindex⟩ := List.forall_mem_cons.mp h
    exact hbase.group.append ((hindex index (List.mem_singleton_self _)).group.cons
      (by decide) (by decide))

/-! ### Templates -/

namespace Template

/-- What is written of a piece of a template when nothing is put into the slots. -/
def Segment.fixedText : Segment → Text
  | .fixed markup => markup
  | .slot _ => []

/-- The fixed texts of the template `t`, in order. -/
def frame (t : Template) : Text := t.body.flatMap Segment.fixedText

/-- The braces of every template of `catalogue` are balanced, its slots left out. -/
theorem isBalanced_frame {t : Template} (h : t ∈ catalogue) : IsBalanced t.frame := by
  have hall : ∀ t ∈ catalogue, IsBalanced t.frame := by decide
  exact hall t h

theorem isBalanced_shown {values : SlotValues} (h : ∀ v ∈ values, IsBalanced v.2) (slot : Text) :
    IsBalanced (shown values slot) := by
  have hplaceholder : IsBalanced placeholder := by decide
  unfold shown
  split
  · next content hcontent =>
    split
    · exact hplaceholder
    · obtain ⟨front, back, rfl, -⟩ := List.lookup_eq_some_iff.mp hcontent
      exact h (slot, content) (List.mem_append_right _ (List.mem_cons_self ..))
  · exact hplaceholder

/-- What is shown in the slots of `body` does not change how many groups are open. -/
theorem braceDepth_flatMap_markup {values : SlotValues} (h : ∀ v ∈ values, IsBalanced v.2)
    (body : List Segment) (depth : Nat) :
    braceDepth depth (body.flatMap (Segment.markup values)) =
      braceDepth depth (body.flatMap Segment.fixedText) := by
  induction body generalizing depth with
  | nil => rfl
  | cons segment body ih =>
    rw [List.flatMap_cons, List.flatMap_cons]
    cases segment with
    | fixed markup =>
      show braceDepth depth (markup ++ _) = braceDepth depth (markup ++ _)
      rw [braceDepth_append, braceDepth_append]
      exact congrArg _ (funext ih)
    | slot name =>
      show braceDepth depth (shown values name ++ _) = braceDepth depth ([] ++ _)
      rw [(isBalanced_shown h name).braceDepth_append, ih, List.nil_append]

/-- If the `frame` of `t` and all values are balanced, so is what `t.compile values` yields. -/
theorem isBalanced_compile {t : Template} {values : SlotValues} (ht : IsBalanced t.frame)
    (h : ∀ v ∈ values, IsBalanced v.2) : IsBalanced (t.compile values) := by
  rw [isBalanced_iff_braceDepth, compile, braceDepth_flatMap_markup h]
  exact isBalanced_iff_braceDepth.mp ht

theorem isBalanced_standard_compile {values : SlotValues} (h : ∀ v ∈ values, IsBalanced v.2)
    (id : Text) : IsBalanced (standard.compile id values) := by
  unfold Registry.compile
  split
  · next t ht => exact isBalanced_compile (isBalanced_frame (mem_catalogue_of_lookup_standard ht)) h
  · exact isBalanced_nil

end Template

/-! ### Rendering -/

theorem Options.isBalanced_finish (o : Options) {markup : Text} (h : IsBalanced markup) :
    IsBalanced (o.finish markup) := by
  have hopening : IsBalanced o.opening := by
    unfold Options.opening
    split <;> decide
  have hclosing : IsBalanced o.closing := by
    unfold Options.closing
    split <;> decide
  have hcleaned : IsBalanced (if o.sanitize then Sanitize.sanitize markup else markup) := by
    split
    · exact (isBalanced_sanitize_iff markup).mpr h
    · exact h
  unfold Options.finish
  generalize (if o.sanitize then Sanitize.sanitize markup else markup) = cleaned at hcleaned
  dsimp only
  split
  · exact hcleaned
  · exact (hopening.append hcleaned).append hclosing

/-- **Braces stay balanced.** Cleaning by `sanitize` neither breaks nor mends the balance of braces,
and what `render` and `renderTemplate` yield for balanced texts is balanced. -/
theorem isBalanced_sanitize_iff_and_render :
    (∀ s, IsBalanced (sanitize s) ↔ IsBalanced s) ∧
      (∀ (o : Options) (e : Expr), (∀ s ∈ e.texts, IsBalanced s) → IsBalanced (o.render e)) ∧
      ∀ (o : Options) (id : Text) (values : SlotValues), (∀ v ∈ values, IsBalanced v.2) →
        IsBalanced (o.renderTemplate id values) := by
  refine ⟨isBalanced_sanitize_iff, ?_, ?_⟩
  · intro o e h
    exact o.isBalanced_finish (Expr.isBalanced_markup h)
  · intro o id values h
    exact o.isBalanced_finish (Template.isBalanced_standard_compile h id)

/-- Groups that cleaning takes out with their script mark or with a mark of the editor, and one that
it puts in, in an expression and in a slot. -/
theorem isBalanced_render_differential :
    let e := Expr.wrapped .squareRoot (.power "x_{ }\\cursor{}" "dy/dx")
    let values : SlotValues := [("lower", "^{}"), ("body", "{dy/dx}\\cursor{a}")]
    (∀ s ∈ e.texts, IsBalanced s) ∧ IsBalanced (Options.render { wrapDelimiters := true } e) ∧
      (∀ v ∈ values, IsBalanced v.2) ∧
      IsBalanced (Options.renderTemplate {} "summation" values) := by
  intro e values
  have he : ∀ s ∈ e.texts, IsBalanced s := by decide
  have hvalues : ∀ v ∈ values, IsBalanced v.2 := by decide
  obtain ⟨-, hrender, hrenderTemplate⟩ := isBalanced_sanitize_iff_and_render
  exact ⟨he, hrender _ e he, hvalues, hrenderTemplate _ "summation" values hvalues⟩

end MathNotes
