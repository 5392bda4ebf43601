import MathNotes.Text.Blank

/-!
# Templates

A `Template` is a piece of markup with named slots, each of which can be filled on its own
(`compile`). It is kept as data: fixed texts and slots in the order in which they are written. A
slot that is missing or blank shows a `placeholder`, so that a half-filled template still shows its
whole structure.
-/

namespace MathNotes

/-- The contents of slots by name; of several under one name `List.lookup` finds the first. -/
abbrev SlotValues := List (Text × Text)

/-- What an editor knows of a slot. -/
structure Slot where
  name : Text
  /-- The hint to show while the slot is empty. -/
  hint : Text
  /-- What a fresh slot holds. -/
  initial : Text := []
  deriving DecidableEq

/-- A piece of a template's markup: a fixed text, or the content of the slot `name`. -/
inductive Template.Segment where
  | fixed (markup : Text)
  | slot (name : Text)
  deriving DecidableEq

/-- How pickers group templates. -/
inductive Template.Category where
  | operator | structural | function | decoration
  deriving DecidableEq

/-- A piece of markup with named slots, known by its `id`. -/
structure Template where
  id : Text
  name : Text
  category : Template.Category
  /-- Whether the template is drawn at an increased glyph size. -/
  isLarge : Bool
  slots : List Slot
  body : List Template.Segment
  deriving DecidableEq

namespace Template

namespace Category

def all : List Category := [operator, structural, function, decoration]

/-- The name of a category, which `ofName?` reads back. -/
def name : Category → Text
  | operator => "operator"
  | structural => "structure"
  | function => "function"
  | decoration => "decoration"

/-- The category whose `name` is `s`. -/
def ofName? (s : Text) : Option Category := all.find? fun c => c.name = s

end Category

/-- What is shown in place of an empty slot. -/
def placeholder : Text := "\\square"

/-- What is shown for a `slot`: its content, or the `placeholder` if that is missing or blank. -/
def shown (values : SlotValues) (slot : Text) : Text :=
  match values.lookup slot with
  | some content => if content.isAllBlank then placeholder else content
  | none => placeholder

/-- The markup of one piece, with `values` in the slots. -/
def Segment.markup (values : SlotValues) : Segment → Text
  | .fixed markup => markup
  | .slot name => shown values name

/-- The markup of the template `t` with its slots filled: that of the pieces of its `body`, one
after another. -/
def compile (t : Template) (values : SlotValues) : Text :=
  t.body.flatMap (Segment.markup values)

/-- What the slots of a fresh template `t` hold, by their names. -/
def initialValues (t : Template) : SlotValues := t.slots.map fun slot => (slot.name, slot.initial)

end Template

end MathNotes
