import MathNotes.Expr.Markup
import MathNotes.Identifier

/-!
# Blocks of a note

A note is made of paragraphs and expressions. A `MathBlock` keeps the markup beside its expression,
so that it need not be compiled again to be shown; it is coherent if `b.markup = b.expr.markup`,
which `MathBlock.ofExpr` and `MathBlock.setExpr` see to.
-/

namespace MathNotes

/-- The block of an expression `expr`, with the `markup` that was compiled for it. -/
structure MathBlock where
  id : Text
  /-- Whether it is shown within the flow of the text. -/
  isInline : Bool
  expr : Expr
  /-- The markup kept for the expression. -/
  markup : Text
  deriving DecidableEq

/-- A block of a note: a paragraph of plain text, or a `MathBlock`. -/
inductive Block where
  | paragraph (id content : Text)
  | math (block : MathBlock)
  deriving DecidableEq

namespace MathBlock

/-- A block for the expression `e`, whose markup is `e.markup`. -/
def ofExpr (id : Text) (e : Expr) (isInline : Bool) : MathBlock := ⟨id, isInline, e, e.markup⟩

/-- Replace the expression by `e`, and the markup with it by `e.markup`. -/
def setExpr (b : MathBlock) (e : Expr) : MathBlock := { b with expr := e, markup := e.markup }

/-- Whether the markup kept is that of the expression, `b.markup = b.expr.markup`. -/
def IsCoherent (b : MathBlock) : Prop := b.markup = b.expr.markup

instance (b : MathBlock) : Decidable b.IsCoherent := inferInstanceAs (Decidable (_ = _))

end MathBlock

namespace Block

def id : Block → Text
  | paragraph id _ => id
  | math b => b.id

/-- Whether what is kept of an expression fits it; of a paragraph there is nothing to ask. -/
def IsCoherent : Block → Prop
  | paragraph .. => True
  | math b => b.IsCoherent

instance (b : Block) : Decidable b.IsCoherent :=
  match b with
  | paragraph .. => inferInstanceAs (Decidable True)
  | math b => inferInstanceAs (Decidable b.IsCoherent)

/-- How `Block.edit` changes a block. -/
inductive Edit where
  /-- Give a paragraph another text. -/
  | content (content : Text)
  /-- Give the block of an expression another expression. -/
  | expr (e : Expr)
  deriving DecidableEq

/-- Change a block as `e` says. A change meant for the other kind of block leaves it as it is. -/
def edit (b : Block) (e : Edit) : Block :=
  match b, e with
  | paragraph id _, .content content => paragraph id content
  | math b, .expr e => math (b.setExpr e)
  | b, _ => b

end Block

end MathNotes
