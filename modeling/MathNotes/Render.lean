import MathNotes.Decimal.Single
import MathNotes.Expr.Markup
import MathNotes.Sanitize.Basic
import MathNotes.Template.Catalogue

/-!
# Rendering

An expression or a filled template is compiled to markup, which is cleaned and put between
delimiters as the `Options` say (`finish`). Every option has a default, so that a document need only
name the options that it changes. Where there is nothing to show there are no delimiters either.
-/

namespace MathNotes

/-- Rendering options. The defaults are those of `{}`. -/
structure Options where
  /-- Whether delimiters are those of display style, `\[` and `\]`, and not of the flow of the
  text. -/
  displayStyle : Bool := true
  /-- Whether markup is put between delimiters. -/
  wrapDelimiters : Bool := false
  /-- Whether markup is cleaned by `Sanitize.sanitize`. -/
  sanitize : Bool := true
  /-- The glyph scale of templates that are `isLarge`. -/
  largeScale : Single := .two
  deriving DecidableEq

namespace Options

/-- What stands before markup where delimiters are put, by `displayStyle`. -/
def opening (o : Options) : Text := if o.displayStyle then "\\[ " else "\\( "

/-- What stands after markup where delimiters are put, by `displayStyle`. -/
def closing (o : Options) : Text := if o.displayStyle then " \\]" else " \\)"

/-- The `markup` as it is handed to a renderer: cleaned if `sanitize`, and between delimiters if
`wrapDelimiters` and there is anything to show. -/
def finish (o : Options) (markup : Text) : Text :=
  let cleaned := if o.sanitize then Sanitize.sanitize markup else markup
  if cleaned.isEmpty || !o.wrapDelimiters then cleaned
  else o.opening ++ cleaned ++ o.closing

/-- Render an expression: `finish` its `markup`. -/
def render (o : Options) (e : Expr) : Text := o.finish e.markup

/-- Render the standard template with the given `id`, its slots filled with `values`. There is
nothing to show for an `id` that is not known. -/
def renderTemplate (o : Options) (id : Text) (values : SlotValues) : Text :=
  o.finish (Template.standard.compile id values)

/-- The glyph scale for the standard template with the given `id`, which is `largeScale` if it
`isLarge`. -/
def glyphScale (o : Options) (id : Text) : Single :=
  match Template.standard.lookup id with
  | some t => if t.isLarge then o.largeScale else .one
  | none => .one

end Options

end MathNotes
