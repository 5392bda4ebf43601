import MathNotes.Text.Basic

/-!
# Symbols

A `Symbol` is known by an id, which `resolve`s to its markup and to the glyph shown in plain text.
An id that is not known stands for itself in both, so that there is always something to show. An
older table has markup only (`olderMarkup?`); content written before symbols had glyphs refers to
it.
-/

namespace MathNotes

/-- A symbol: the `id` it is known by, its `markup` and the `glyph` shown in plain text. -/
structure Symbol where
  id : Text
  markup : Text
  glyph : Text
  deriving DecidableEq

namespace Symbol

/-- The known symbols. The first entry with an id is the one that `resolve` finds. -/
def table : List Symbol := [
  -- Greek letters, lower case
  ⟨"alpha", "\\alpha", "α"⟩, ⟨"beta", "\\beta", "β"⟩, ⟨"gamma", "\\gamma", "γ"⟩,
  ⟨"delta", "\\delta", "δ"⟩, ⟨"epsilon", "\\epsilon", "ε"⟩, ⟨"theta", "\\theta", "θ"⟩,
  ⟨"lambda", "\\lambda", "λ"⟩, ⟨"mu", "\\mu", "μ"⟩, ⟨"pi", "\\pi", "π"⟩,
  ⟨"rho", "\\rho", "ρ"⟩, ⟨"sigma_lower", "\\sigma", "σ"⟩, ⟨"tau", "\\tau", "τ"⟩,
  ⟨"phi", "\\phi", "φ"⟩, ⟨"chi", "\\chi", "χ"⟩, ⟨"psi", "\\psi", "ψ"⟩,
  ⟨"omega", "\\omega", "ω"⟩,
  -- Greek letters, upper case
  ⟨"Gamma", "\\Gamma", "Γ"⟩, ⟨"Delta", "\\Delta", "Δ"⟩, ⟨"Theta", "\\Theta", "Θ"⟩,
  ⟨"Lambda", "\\Lambda", "Λ"⟩, ⟨"Sigma", "\\Sigma", "Σ"⟩, ⟨"Phi", "\\Phi", "Φ"⟩,
  ⟨"Psi", "\\Psi", "Ψ"⟩, ⟨"Omega", "\\Omega", "Ω"⟩,
  -- operators and relations
  ⟨"plus", "+", "+"⟩, ⟨"minus", "-", "−"⟩, ⟨"times", "\\times", "×"⟩,
  ⟨"divide", "\\div", "÷"⟩, ⟨"cdot", "\\cdot", "·"⟩, ⟨"equals", "=", "="⟩,
  ⟨"neq", "\\neq", "≠"⟩, ⟨"approx", "\\approx", "≈"⟩, ⟨"lt", "<", "<"⟩,
  ⟨"gt", ">", ">"⟩, ⟨"leq", "\\leq", "≤"⟩, ⟨"geq", "\\geq", "≥"⟩, ⟨"pm", "\\pm", "±"⟩,
  ⟨"infinity", "\\infty", "∞"⟩, ⟨"nabla", "\\nabla", "∇"⟩, ⟨"partial", "\\partial", "∂"⟩,
  ⟨"forall", "\\forall", "∀"⟩, ⟨"exists", "\\exists", "∃"⟩, ⟨"in_set", "\\in", "∈"⟩,
  ⟨"notin", "\\notin", "∉"⟩, ⟨"subset", "\\subset", "⊂"⟩, ⟨"supset", "\\supset", "⊃"⟩,
  ⟨"cup", "\\cup", "∪"⟩, ⟨"cap", "\\cap", "∩"⟩, ⟨"rightarrow", "\\rightarrow", "→"⟩,
  ⟨"leftarrow", "\\leftarrow", "←"⟩, ⟨"Rightarrow", "\\Rightarrow", "⇒"⟩,
  ⟨"Leftarrow", "\\Leftarrow", "⇐"⟩, ⟨"leftrightarrow", "\\leftrightarrow", "↔"⟩,
  ⟨"dots", "\\cdots", "⋯"⟩,
  -- symbols that the palette inserts
  ⟨"sigma", "\\Sigma", "Σ"⟩, ⟨"sum", "\\sum", "∑"⟩, ⟨"integral", "\\int", "∫"⟩,
  ⟨"sqrt", "\\surd", "√"⟩]

/-- The older table of markup by id. -/
def olderTable : List (Text × Text) := [
  ("sigma", "\\displaystyle \\Sigma"), ("sum", "\\displaystyle \\sum"),
  ("integral", "\\displaystyle \\int"), ("pi", "\\pi"), ("alpha", "\\alpha"), ("beta", "\\beta"),
  ("theta", "\\theta"), ("lambda", "\\lambda"), ("gamma", "\\gamma"), ("delta", "\\delta"),
  ("plus", "+"), ("minus", "-"), ("times", "\\times"), ("divide", "\\div"), ("equals", "="),
  ("approx", "\\approx"), ("leq", "\\leq"), ("geq", "\\geq"), ("infinity", "\\infty"),
  ("sqrt", "\\sqrt{}"), ("fraction", "\\frac{}{}"), ("power", "x^{}"), ("subscript", "x_{}")]

/-- Whether `table` has a symbol with this `id`. -/
def isKnown (id : Text) : Bool := table.any fun s => s.id = id

/-- The first symbol in `table` with this `id`; an unknown `id` stands for itself, as
`⟨id, id, id⟩`. -/
def resolve (id : Text) : Symbol := (table.find? fun s => s.id = id).getD ⟨id, id, id⟩

/-- The markup that `olderTable` has for the `id`. -/
def olderMarkup? (id : Text) : Option Text := olderTable.lookup id

end Symbol

end MathNotes
