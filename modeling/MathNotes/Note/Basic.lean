import MathNotes.Note.Block
import MathNotes.Text.Blank

/-!
# Notes

A note is a title and an ordered list of blocks, with the times at which it was made and last
changed in milliseconds. Whatever changes a note is told the time `now` at which it happens, and
ends with `Note.touch`. Ids of blocks may repeat; `Note.update` and `Note.remove` act on the first
block that has the id.
-/

namespace MathNotes

/-- A note: its `content` is a list of blocks in order, and `createdAt` and `updatedAt` are in
milliseconds. -/
structure Note where
  id : Text
  title : Text
  content : List Block
  createdAt : Int64
  updatedAt : Int64
  deriving DecidableEq

/-- What a list of notes shows of each; see `Note.summary`. -/
structure NoteSummary where
  id : Text
  title : Text
  updatedAt : Int64
  deriving DecidableEq

namespace Note

/-- The title of notes made without one. -/
def defaultTitle : Text := "Untitled Note"

/-- A new note with a single empty paragraph. A blank `title` gives way to `defaultTitle`. The two
moments are those at which the ids of the note and of its paragraph are made. -/
def create (title : Text) (noteMoment blockMoment : Moment) (now : Int64) : Note where
  id := "note-".toList ++ Identifier.ofMoment noteMoment
  title := if title.isAllBlank then defaultTitle else title
  content := [.paragraph ("block-".toList ++ Identifier.ofMoment blockMoment) []]
  createdAt := now
  updatedAt := now

/-- Mark the note as changed `now`. -/
def touch (n : Note) (now : Int64) : Note := { n with updatedAt := now }

/-- Give the note another title, which may be blank. -/
def setTitle (n : Note) (title : Text) (now : Int64) : Note := { n with title := title }.touch now

/-- The first block with the given `id`, if there is one. -/
def block? (n : Note) (id : Text) : Option Block := n.content.find? fun b => b.id = id

/-- The position of the first block with the given `id`, if there is one. -/
def position? (n : Note) (id : Text) : Option Nat := n.content.findIdx? fun b => b.id = id

/-- The blocks with `b` put in at a position `some i`; at `none`, or past the end, it comes last. -/
def insertAt (blocks : List Block) (b : Block) : Option Nat → List Block
  | some i => if i ≤ blocks.length then blocks.insertIdx i b else blocks ++ [b]
  | none => blocks ++ [b]

/-- Put in the block `b`, where `insertAt` puts it. -/
def insert (n : Note) (b : Block) (position : Option Nat) (now : Int64) : Note :=
  { n with content := insertAt n.content b position }.touch now

/-- Change the first block with the given `id` by `change`, and say whether there is one. If there
is none, the time of the last change stays as it is too. -/
def update (n : Note) (id : Text) (change : Block → Block) (now : Int64) : Note × Bool :=
  match n.position? id with
  | some i => ({ n with content := n.content.modify i change }.touch now, true)
  | none => (n, false)

/-- Take out the first block with the given `id`, and hand it back. -/
def remove (n : Note) (id : Text) (now : Int64) : Note × Option Block :=
  match n.position? id with
  | some i => ({ n with content := n.content.eraseIdx i }.touch now, n.content[i]?)
  | none => (n, none)

/-- Put in a new paragraph, and say under which id, `ofMoment made`, it was put in. -/
def addParagraph (n : Note) (content : Text) (position : Option Nat) (made : Moment)
    (now : Int64) : Note × Text :=
  let id := Identifier.ofMoment made
  (n.insert (.paragraph id content) position now, id)

/-- Put in a new block for the expression `e`, and say under which id, `ofMoment made`, it was put
in. -/
def addMath (n : Note) (e : Expr) (isInline : Bool) (position : Option Nat) (made : Moment)
    (now : Int64) : Note × Text :=
  let id := Identifier.ofMoment made
  (n.insert (.math (.ofExpr id e isInline)) position now, id)

/-- What a list of notes shows of the note `n`. -/
def summary (n : Note) : NoteSummary := ⟨n.id, n.title, n.updatedAt⟩

end Note

/-- Summaries with the latest `updatedAt` first; where times are equal, the order stays. -/
def NoteSummary.sortByRecent (summaries : List NoteSummary) : List NoteSummary :=
  summaries.mergeSort fun a b => b.updatedAt ≤ a.updatedAt

end MathNotes
