import MathNotes.Builder

/-!
# Editing a block

To edit a block is to copy its expression into the form for its kind and to show that form. Which
expression the builder then stands for is said here for every state that it may have been in before.

* `current?_enterEdit_eq_some_iff`: an expression that its form can hold is the one that the builder
  stands for, unless it is a template and one that comes before it is still filled in. All three
  templates share a page, and the page stands for the first of them that has something in it.
* `exitEdit_enterEdit_eq`: whoever stops editing first finds nothing of what was there before, and
  the preview is the expression, but for what its form fills in or leaves out of an integral.
* `preview?_enterEdit_eq_some_iff`: an expression that has no form is previewed only from the page
  of symbols and from that of templates with nothing in it. Every other page has an expression of
  its own, which is previewed instead.
-/

namespace MathNotes

/-- The kinds of expression that have a form, into which `load` copies them. -/
def Kind.hasForm : Kind → Bool
  | .matrix | .vector | .integral | .fraction | .power | .subscript => true
  | .symbol | .number | .identifier | .operation | .wrapped => false

namespace Expr

/-- A form can hold the expression as it is: of the two fields of a template one is filled in, the
bounds of an integral are not `some []`, and its differential is there. -/
def FitsForm : Expr → Prop
  | .matrix _ _ _ => True
  | .vector _ _ => True
  | .fraction numerator denominator => numerator ≠ [] ∨ denominator ≠ []
  | .power base exponent => base ≠ [] ∨ exponent ≠ []
  | .subscript base index => base ≠ [] ∨ index ≠ []
  | .integral _ lower upper differential =>
    lower ≠ some [] ∧ upper ≠ some [] ∧ differential ≠ none
  | _ => False

/-- The expression as its form has it: an empty bound of an integral is none, and a differential
that is not there is that of `x`. It is `e` itself if it fits its form (`asInForm_of_fitsForm`). -/
def asInForm : Expr → Expr
  | .integral body lower upper differential =>
    .integral body (lower.filter (· ≠ [])) (upper.filter (· ≠ [])) (some (differential.getD ['x']))
  | e => e

theorem asInForm_of_fitsForm {e : Expr} (h : e.FitsForm) : e.asInForm = e := by
  have filter_eq {bound : Option Text} (hbound : bound ≠ some []) :
      bound.filter (· ≠ []) = bound := by
    rcases bound with _ | s
    · rfl
    · exact Option.filter_some_pos (by simpa using hbound)
  cases e with
  | integral body lower upper differential =>
    obtain ⟨hlower, hupper, hdifferential⟩ := h
    obtain ⟨v, rfl⟩ := Option.ne_none_iff_exists'.mp hdifferential
    rw [asInForm, filter_eq hlower, filter_eq hupper, Option.getD_some]
  | _ => rfl

end Expr

namespace Builder

/-! ### The templates page -/

namespace Fields

/-- The form of the fraction is filled in. -/
def HasFraction (fs : Fields) : Prop := fs.numerator ≠ [] ∨ fs.denominator ≠ []

/-- The form of the power is filled in. -/
def HasPower (fs : Fields) : Prop := fs.powerBase ≠ [] ∨ fs.powerExponent ≠ []

/-- The form of the subscript is filled in. -/
def HasSubscript (fs : Fields) : Prop := fs.subscriptBase ≠ [] ∨ fs.subscriptIndex ≠ []

/-- No template that `templateExpr?` puts before the one given is filled in. -/
def IsClearBefore (fs : Fields) : Expr → Prop
  | .power _ _ => ¬ fs.HasFraction
  | .subscript _ _ => ¬ fs.HasFraction ∧ ¬ fs.HasPower
  | _ => True

end Fields

theorem not_filled_nil : ¬ (([] : Text) ≠ [] ∨ ([] : Text) ≠ []) := by decide

variable {fs : Fields}

theorem templateExpr?_of_hasFraction (h : fs.HasFraction) :
    templateExpr? fs = some (.fraction fs.numerator fs.denominator) :=
  if_pos h

theorem templateExpr?_of_hasPower (hfraction : ¬ fs.HasFraction) (h : fs.HasPower) :
    templateExpr? fs = some (.power fs.powerBase fs.powerExponent) :=
  (if_neg hfraction).trans (if_pos h)

theorem templateExpr?_of_hasSubscript (hfraction : ¬ fs.HasFraction) (hpower : ¬ fs.HasPower)
    (h : fs.HasSubscript) :
    templateExpr? fs = some (.subscript fs.subscriptBase fs.subscriptIndex) :=
  (if_neg hfraction).trans ((if_neg hpower).trans (if_pos h))

theorem templateExpr?_eq_none (hfraction : ¬ fs.HasFraction) (hpower : ¬ fs.HasPower)
    (h : ¬ fs.HasSubscript) : templateExpr? fs = none :=
  (if_neg hfraction).trans ((if_neg hpower).trans (if_neg h))

/-! ### What is there once an expression is loaded -/

/-- What `enterEdit` changes beside the forms, the mode and the expression with which editing began,
does not change what `current?` is. -/
theorem current?_enterEdit (b : Builder) (block : Text) (e : Expr) :
    (b.enterEdit block e).current? = (b.load e).current? := by
  cases e <;> rfl

/-- The expression `e` with which editing began is previewed only where the forms stand for
nothing. -/
theorem preview?_enterEdit (b : Builder) (block : Text) (e : Expr) :
    (b.enterEdit block e).preview? = ((b.load e).current? <|> some e) := by
  rw [preview?, current?_enterEdit]
  rfl

theorem given?_getD (bound : Option Text) : given? (bound.getD []) = bound.filter (· ≠ []) := by
  rcases bound with _ | _ | ⟨c, s⟩
  · rfl
  · rfl
  · rfl

/-- The calculus page stands for the integral as its form has it, which is `asInForm` of it. -/
theorem current?_load_integral (b : Builder) (body : Text)
    (lower upper differential : Option Text) :
    (b.load (.integral body lower upper differential)).current? =
      some (Expr.asInForm (.integral body lower upper differential)) := by
  show some (Expr.integral body (given? (lower.getD [])) (given? (upper.getD []))
    (some (differential.getD standardVariable))) = _
  rw [given?_getD, given?_getD]
  rfl

/-- The forms that have their page to themselves stand for what `load` copies into them, and so does
a template if none that comes before it is filled in. -/
theorem current?_load {b : Builder} {e : Expr} (hfits : e.FitsForm)
    (hclear : b.fields.IsClearBefore e) : (b.load e).current? = some e := by
  cases e with
  | matrix => rfl
  | vector => rfl
  | fraction => exact templateExpr?_of_hasFraction hfits
  | power => exact templateExpr?_of_hasPower hclear hfits
  | subscript => exact templateExpr?_of_hasSubscript hclear.1 hclear.2 hfits
  | integral => rw [current?_load_integral, Expr.asInForm_of_fitsForm hfits]
  | _ => exact hfits.elim

/-- A template behind one that is filled in is not shown: the page stands for `shown`, of another
kind, as it did before. -/
theorem current?_load_of_not_isClearBefore {b : Builder} {e : Expr}
    (h : ¬ b.fields.IsClearBefore e) :
    ∃ shown, templateExpr? b.fields = some shown ∧ shown.kind ≠ e.kind ∧
      (b.load e).current? = some shown := by
  cases e with
  | power =>
    have hfraction : b.fields.HasFraction := Classical.not_not.mp h
    exact ⟨_, templateExpr?_of_hasFraction hfraction, nofun, templateExpr?_of_hasFraction hfraction⟩
  | subscript =>
    by_cases hfraction : b.fields.HasFraction
    · exact ⟨_, templateExpr?_of_hasFraction hfraction, nofun,
        templateExpr?_of_hasFraction hfraction⟩
    · have hpower : b.fields.HasPower := Classical.not_not.mp fun hpower => h ⟨hfraction, hpower⟩
      exact ⟨_, templateExpr?_of_hasPower hfraction hpower, nofun,
        templateExpr?_of_hasPower hfraction hpower⟩
  | _ => exact absurd trivial h

/-! ### Editing shows the block, if nothing hides it -/

/-- **What editing shows.** Once the expression `e` of a block is being edited, `current?` is `e`
and `markup` its markup, whatever was typed or loaded before, with one exception: a power or a
subscript is hidden behind a template that its page puts before it and that is still filled in
(`IsClearBefore`). The builder then stands for the template, of another kind, for which that page
stood before, `templateExpr? b.fields`. -/
theorem current?_enterEdit_eq_some_iff (b : Builder) (block : Text) {e : Expr} (h : e.FitsForm) :
    ((b.enterEdit block e).current? = some e ∧ (b.enterEdit block e).markup = e.markup ↔
        b.fields.IsClearBefore e) ∧
      (¬ b.fields.IsClearBefore e →
        ∃ shown, templateExpr? b.fields = some shown ∧ shown.kind ≠ e.kind ∧
          (b.enterEdit block e).current? = some shown) := by
  rw [current?_enterEdit]
  refine ⟨⟨?_, ?_⟩, current?_load_of_not_isClearBefore⟩
  · rintro ⟨hcurrent, -⟩
    refine Classical.byContradiction fun hclear => ?_
    obtain ⟨shown, -, hkind, hshown⟩ := current?_load_of_not_isClearBefore hclear
    rw [hcurrent] at hshown
    exact hkind (congrArg Expr.kind (Option.some.inj hshown).symm)
  · intro hclear
    have hcurrent := current?_load h hclear
    refine ⟨hcurrent, ?_⟩
    rw [markup, preview?_enterEdit, hcurrent]
    rfl

/-- A subscript is shown while an empty fraction and an empty power stand before it, though a
matrix, an integral and another subscript were edited before. -/
theorem current?_enterEdit_subscript :
    let b := run {} [.writeCell 0 0 ['m'], .enterEdit ['a'] (.subscript ['u'] ['v']),
      .load (.integral ['f'] (some ['0']) none none)]
    let e := Expr.subscript ['x'] []
    (e.FitsForm ∧ b.fields.IsClearBefore e) ∧
      (b.enterEdit ['b'] e).current? = some e ∧ (b.enterEdit ['b'] e).markup = e.markup := by
  intro b e
  have hfits : e.FitsForm := .inl (by decide)
  have hclear : b.fields.IsClearBefore e := ⟨not_filled_nil, not_filled_nil⟩
  exact ⟨⟨hfits, hclear⟩, (current?_enterEdit_eq_some_iff b ['b'] hfits).1.mpr hclear⟩

/-- Whoever turns from a block with a fraction to a block with a power, without leaving edit mode,
is still shown the fraction; so the builder does not stand for every expression that it was given to
edit. -/
theorem not_forall_current?_enterEdit_eq_some :
    let b := run {} [.enterEdit ['a'] (.fraction ['1'] ['2'])]
    (b.enterEdit ['b'] (.power ['x'] ['2'])).current? = some (.fraction ['1'] ['2']) ∧
      ¬ ∀ steps block e, Expr.FitsForm e →
        ((run {} steps).enterEdit block e).current? = some e ∧
          ((run {} steps).enterEdit block e).markup = e.markup := by
  intro b
  have hshown : (b.enterEdit ['b'] (.power ['x'] ['2'])).current? =
      some (.fraction ['1'] ['2']) := by decide
  refine ⟨hshown, fun hall => ?_⟩
  have hcurrent := (hall [.enterEdit ['a'] (.fraction ['1'] ['2'])] ['b'] (.power ['x'] ['2'])
    (.inl (by decide))).1
  rw [hshown] at hcurrent
  cases hcurrent

/-! ### Expressions without a form -/

/-- The page that is shown has an expression of its own: a matrix, a vector, an integral, or a
template that is filled in. -/
def HasOwnExpr (b : Builder) : Prop :=
  match b.tab with
  | .matrices | .vectors | .calculus => True
  | .symbols => False
  | .templates => b.fields.HasFraction ∨ b.fields.HasPower ∨ b.fields.HasSubscript

/-- If a template is filled in, `templateExpr?` is one, and so of a kind that has a form. -/
theorem exists_templateExpr? (h : fs.HasFraction ∨ fs.HasPower ∨ fs.HasSubscript) :
    ∃ shown, templateExpr? fs = some shown ∧ shown.kind.hasForm = true := by
  by_cases hfraction : fs.HasFraction
  · exact ⟨_, templateExpr?_of_hasFraction hfraction, rfl⟩
  by_cases hpower : fs.HasPower
  · exact ⟨_, templateExpr?_of_hasPower hfraction hpower, rfl⟩
  have hsubscript : fs.HasSubscript := (h.resolve_left hfraction).resolve_left hpower
  exact ⟨_, templateExpr?_of_hasSubscript hfraction hpower hsubscript, rfl⟩

/-- If the page has an expression of its own, `current?` is one of a kind that has a form. -/
theorem exists_current? {b : Builder} (h : b.HasOwnExpr) :
    ∃ shown, b.current? = some shown ∧ shown.kind.hasForm = true := by
  unfold current?
  cases htab : b.tab with
  | matrices | vectors | calculus => exact ⟨_, rfl, rfl⟩
  | symbols =>
    rw [HasOwnExpr, htab] at h
    exact h.elim
  | templates =>
    rw [HasOwnExpr, htab] at h
    exact exists_templateExpr? h

theorem current?_eq_none {b : Builder} (h : ¬ b.HasOwnExpr) : b.current? = none := by
  unfold current?
  rw [HasOwnExpr] at h
  cases htab : b.tab with
  | matrices | vectors | calculus =>
    rw [htab] at h
    exact absurd trivial h
  | symbols => rfl
  | templates =>
    rw [htab, not_or, not_or] at h
    obtain ⟨hfraction, hpower, hsubscript⟩ := h
    exact templateExpr?_eq_none hfraction hpower hsubscript

/-- There is nothing to copy for an expression that has no form: `b.load e = b`. -/
theorem load_of_hasForm_eq_false (b : Builder) {e : Expr} (h : e.kind.hasForm = false) :
    b.load e = b := by
  cases e with
  | symbol | number | identifier | operation | wrapped => rfl
  | _ => cases h

/-- **The preview of an expression without a form.** Once such an expression `e` is being edited,
`preview?` is `e`, and `markup` that of `e`, exactly if the page that is open has no expression of
its own (`HasOwnExpr`). If it has one, which is of another kind, that one is previewed, with its
markup, as it was before. -/
theorem preview?_enterEdit_eq_some_iff (b : Builder) (block : Text) {e : Expr}
    (h : e.kind.hasForm = false) :
    ((b.enterEdit block e).preview? = some e ∧ (b.enterEdit block e).markup = e.markup ↔
        ¬ b.HasOwnExpr) ∧
      (b.HasOwnExpr →
        ∃ shown, b.current? = some shown ∧ shown.kind ≠ e.kind ∧
          (b.enterEdit block e).preview? = some shown ∧
          (b.enterEdit block e).markup = shown.markup) := by
  have hpreview : (b.enterEdit block e).preview? = (b.current? <|> some e) := by
    rw [preview?_enterEdit, load_of_hasForm_eq_false b h]
  have hmarkup : ∀ {shown : Expr}, (b.enterEdit block e).preview? = some shown →
      (b.enterEdit block e).markup = shown.markup := by
    intro shown hshown
    rw [markup, hshown]
    rfl
  have hown : b.HasOwnExpr →
      ∃ shown, b.current? = some shown ∧ shown.kind ≠ e.kind ∧
        (b.enterEdit block e).preview? = some shown := by
    intro howns
    obtain ⟨shown, hshown, hform⟩ := exists_current? howns
    refine ⟨shown, hshown, fun hkind => ?_, by rw [hpreview, hshown]; rfl⟩
    rw [hkind, h] at hform
    cases hform
  refine ⟨⟨?_, ?_⟩, ?_⟩
  · rintro ⟨hsome, -⟩ howns
    obtain ⟨shown, -, hkind, hshown⟩ := hown howns
    rw [hsome] at hshown
    exact hkind (congrArg Expr.kind (Option.some.inj hshown).symm)
  · intro hnone
    have hsome : (b.enterEdit block e).preview? = some e := by
      rw [hpreview, current?_eq_none hnone]
      rfl
    exact ⟨hsome, hmarkup hsome⟩
  · intro howns
    obtain ⟨shown, hcurrent, hkind, hshown⟩ := hown howns
    exact ⟨shown, hcurrent, hkind, hshown, hmarkup hshown⟩

/-- A root is previewed from the page of templates, while a matrix and an integral are typed into
forms on other pages. -/
theorem preview?_enterEdit_root :
    let b := run {} [.writeCell 0 1 ['m'], .writeField .integralBody ['f'], .showTab .templates]
    let e := Expr.wrapped .squareRoot (.symbol ['x'])
    (e.kind.hasForm = false ∧ ¬ b.HasOwnExpr) ∧
      (b.enterEdit ['b'] e).preview? = some e ∧ (b.enterEdit ['b'] e).markup = e.markup := by
  intro b e
  have hform : e.kind.hasForm = false := rfl
  have hown : ¬ b.HasOwnExpr := by
    rintro (h | h | h) <;> exact not_filled_nil h
  exact ⟨⟨hform, hown⟩, (preview?_enterEdit_eq_some_iff b ['b'] hform).1.mpr hown⟩

/-- A builder that is new opens on the page of matrices, so whoever edits a sum there is shown an
empty matrix; not every expression without a form is previewed. -/
theorem not_forall_preview?_enterEdit_eq_some :
    let e := Expr.operation .plus (.number ['1']) (.number ['2'])
    (enterEdit {} ['b'] e).preview? = some (.matrix 2 2 (Grid.blank 2 2)) ∧
      ¬ ∀ steps block e, (Expr.kind e).hasForm = false →
        ((run {} steps).enterEdit block e).preview? = some e ∧
          ((run {} steps).enterEdit block e).markup = e.markup := by
  intro e
  have hshown : (enterEdit {} ['b'] e).preview? = some (.matrix 2 2 (Grid.blank 2 2)) := rfl
  refine ⟨hshown, fun hall => ?_⟩
  have hsum : (enterEdit {} ['b'] e).preview? = some e := (hall [] ['b'] e rfl).1
  rw [hshown] at hsum
  exact nomatch Option.some.inj hsum

/-! ### Sessions -/

/-- After `exitEdit`, editing a block is as in the builder `{}` that is new. -/
theorem enterEdit_exitEdit (b : Builder) (block : Text) {e : Expr} (h : e.kind.hasForm = true) :
    b.exitEdit.enterEdit block e = enterEdit {} block e := by
  cases e with
  | symbol | number | identifier | operation | wrapped => cases h
  | _ => rfl

theorem isClearBefore_new (e : Expr) : ({} : Fields).IsClearBefore e := by
  cases e with
  | power => exact not_filled_nil
  | subscript => exact ⟨not_filled_nil, not_filled_nil⟩
  | _ => trivial

/-- In a new builder what is loaded is previewed as `asInForm` has it or, where the form has nothing
in it, as it was given. -/
theorem preview?_enterEdit_new (block : Text) {e : Expr} (h : e.kind.hasForm = true) :
    (enterEdit {} block e).preview? = some e.asInForm := by
  rw [preview?_enterEdit]
  by_cases hfits : e.FitsForm
  · rw [current?_load hfits (isClearBefore_new e), Expr.asInForm_of_fitsForm hfits]
    rfl
  · -- a template with nothing in it is not shown, and no other template has anything in it
    cases e with
    | fraction numerator denominator =>
      have hnone : (load {} (.fraction numerator denominator)).current? = none :=
        templateExpr?_eq_none hfits not_filled_nil not_filled_nil
      rw [hnone]
      rfl
    | power base exponent =>
      have hnone : (load {} (.power base exponent)).current? = none :=
        templateExpr?_eq_none not_filled_nil hfits not_filled_nil
      rw [hnone]
      rfl
    | subscript base index =>
      have hnone : (load {} (.subscript base index)).current? = none :=
        templateExpr?_eq_none not_filled_nil not_filled_nil hfits
      rw [hnone]
      rfl
    | integral =>
      rw [current?_load_integral]
      rfl
    | matrix | vector => exact absurd trivial hfits
    | _ => cases h

/-- **Sessions do not leak.** Whatever `b₁` and `b₂` were used for before, once `exitEdit` has
stopped editing in both and the same block is edited they are the same in every field, and
`preview?` is the expression `e.asInForm` as its form has it. -/
theorem exitEdit_enterEdit_eq (b₁ b₂ : Builder) (block : Text) {e : Expr}
    (h : e.kind.hasForm = true) :
    b₁.exitEdit.enterEdit block e = b₂.exitEdit.enterEdit block e ∧
      (b₁.exitEdit.enterEdit block e).preview? = some e.asInForm := by
  rw [enterEdit_exitEdit b₁ block h, enterEdit_exitEdit b₂ block h]
  exact ⟨rfl, preview?_enterEdit_new block h⟩

/-- An integral with nothing but an empty bound, edited after a fraction and in a new builder. -/
theorem exitEdit_enterEdit_integral :
    let e := Expr.integral [] (some []) none none
    let b := run {} [.enterEdit ['a'] (.fraction ['1'] ['2']), .showTab .symbols, .resizeMatrix 0 3]
    e.kind.hasForm = true ∧ b.exitEdit.enterEdit ['b'] e =
        enterEdit (exitEdit {}) ['b'] e ∧
      (b.exitEdit.enterEdit ['b'] e).preview? = some (.integral [] none none (some ['x'])) := by
  intro e b
  exact ⟨rfl, exitEdit_enterEdit_eq b {} ['b'] rfl⟩

end Builder

end MathNotes
