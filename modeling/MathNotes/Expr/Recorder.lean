import MathNotes.Expr.Markup

/-!
# Recording markup

A `Recorder` walks through expressions and writes their markup behind what it has already, piece by
piece, and keeps count of its work. The counts are 64-bit words and wrap around.
-/

namespace MathNotes

/-- The markup collected so far in `buffer`, and counts over the whole life of the recorder. -/
structure Recorder where
  buffer : Text := []
  /-- How many conversions were made. -/
  conversions : UInt64 := 0
  /-- How many nodes were written. -/
  nodes : UInt64 := 0
  /-- How many bytes the conversions wrote. -/
  written : UInt64 := 0
  deriving DecidableEq

namespace Recorder

/-- What one can ask of a recorder, done by `Recorder.step`. -/
inductive Step where
  /-- Start over with the markup of `e`, and count the conversion. -/
  | convert (e : Expr)
  /-- Add the markup of `e` to what is there. -/
  | add (e : Expr)
  /-- Forget the markup but not the counts. -/
  | reset
  deriving DecidableEq

/-- A recorder whose `buffer` has room for `_capacity` bytes from the start. The room only spares it
fetching more and is seen in nothing that it records, so it is not kept. Room for more than
`2 ^ 63 - 1` bytes is refused where it is asked for, so that no recorder comes of it; what is proved
of recorders is proved of those that there are. -/
def withCapacity (_capacity : Nat) : Recorder := {}

/-- The capacity of a recorder where none is asked for. -/
def standardCapacity : Nat := 256

/-! ### Writing -/

/-- Write the text `s` at the end of `buffer`. -/
def push (r : Recorder) (s : Text) : Recorder := { r with buffer := r.buffer ++ s }

/-- Write a `mark`, and `content` in braces. -/
def pushGroup (r : Recorder) (mark content : Text) : Recorder :=
  r.push mark |>.push ['{'] |>.push content |>.push ['}']

/-- Write the items `xs` one after another by `write`, with the `separator` before each but the
first. -/
def pushJoined {α : Type} (write : Recorder → α → Recorder) (separator : Text) (r : Recorder)
    (xs : List α) : Recorder :=
  xs.zipIdx.foldl (fun r x => write (if 0 < x.2 then r.push separator else r) x.1) r

/-- Write the grid `cells`, row by row, as `Grid.markup` sets it. -/
def pushGrid (r : Recorder) (cells : Grid) : Recorder :=
  pushJoined (pushJoined push Grid.cellSeparator) Grid.rowSeparator (r.push Grid.opening) cells
    |>.push Grid.closing

/-- Write a vector, its cells with `orientation.separator` between them. -/
def pushVector (r : Recorder) (orientation : Orientation) (cells : List Text) : Recorder :=
  pushJoined push orientation.separator (r.push Grid.opening) cells |>.push Grid.closing

/-- Write the bounds of an integral as groups, if both are given. -/
def pushBounds (r : Recorder) : Option Text → Option Text → Recorder
  | some lower, some upper => r.pushGroup ['_'] lower |>.pushGroup ['^'] upper
  | _, _ => r

/-- Write the differential of an integral, if its letter is given and not empty. -/
def pushDifferential (r : Recorder) (differential : Option Text) : Recorder :=
  match differential.filter fun letter => !letter.isEmpty with
  | some letter => r.push " \\, d" |>.push letter
  | none => r

/-- Count a node in `nodes`. -/
def countNode (r : Recorder) : Recorder := { r with nodes := r.nodes + 1 }

/-- Add the markup of an expression to what is there, piece by piece. Every node is counted
(`countNode`) before it is written. -/
def add (r : Recorder) : Expr → Recorder
  | .symbol glyph => r.countNode.push glyph
  | .number digits => r.countNode.push digits
  | .identifier name => r.countNode.push name
  | .matrix _ _ cells => r.countNode.pushGrid cells
  | .vector orientation cells => r.countNode.pushVector orientation cells
  | .operation op left right =>
    r.countNode.add left |>.push [' '] |>.push op.markup |>.push [' '] |>.add right
  | .wrapped wrapper inner =>
    r.countNode.push wrapper.opening |>.add inner |>.push wrapper.closing
  | .integral body lower upper differential =>
    r.countNode.push "\\int" |>.pushBounds lower upper |>.push [' '] |>.push body
      |>.pushDifferential differential
  | .fraction numerator denominator =>
    r.countNode.push "\\frac" |>.pushGroup [] numerator |>.pushGroup [] denominator
  | .power base exponent => r.countNode.pushGroup [] base |>.pushGroup ['^'] exponent
  | .subscript base index => r.countNode.pushGroup [] base |>.pushGroup ['_'] index

/-! ### Steps -/

/-- Forget the markup in `buffer` but not the counts. -/
def reset (r : Recorder) : Recorder := { r with buffer := [] }

/-- Count a conversion and the bytes of `buffer`, which are those it wrote. -/
def countConversion (r : Recorder) : Recorder :=
  { r with
    conversions := r.conversions + 1
    written := r.written + UInt64.ofNat r.buffer.byteSize }

/-- Start over with the markup of `e`: `reset`, `add` and `countConversion`. -/
def convert (r : Recorder) (e : Expr) : Recorder := (r.reset.add e).countConversion

/-- Do one `Step`. -/
def step (r : Recorder) : Step → Recorder
  | .convert e => r.convert e
  | .add e => r.add e
  | .reset => r.reset

/-- Do several `steps`, the first one first. -/
def run (r : Recorder) (steps : List Step) : Recorder := steps.foldl step r

/-- What a recorder made for the purpose, with `standardCapacity`, collects for `e`. -/
def compile (e : Expr) : Text := ((withCapacity standardCapacity).convert e).buffer

end Recorder

end MathNotes
