import MathNotes.Line.Element
import MathNotes.Line.Literal

/-!
# Lines

A line is text in which matrix literals stand. Reading it (`parse`) finds the literals from left to
right; what is not part of a literal stays text, so reading never fails. Only a bracket with a space
after it can open a literal (`opens?`), and where such a bracket opens none, the search goes on
right after it.

The line taken apart is `Pieces`: the text in front of the first literal, and for each literal its
grid and the text that follows it.
-/

namespace MathNotes.Line

/-- A line taken apart at its literals. -/
structure Pieces where
  /-- The text in front of the first literal. -/
  front : Text
  /-- The literals, each with the text up to the next one. -/
  literals : List (Grid × Text)
  deriving DecidableEq

/-- The literal that a text begins with, if the bracket in front of it has a space after it. -/
def opens? : Text → Option (Grid × Text)
  | '[' :: ' ' :: rest => Literal.read? (' ' :: rest)
  | _ => none

theorem length_of_opens? {s : Text} {cells : Grid} {rest : Text}
    (h : opens? s = some (cells, rest)) : rest.length < s.length := by
  unfold opens? at h
  split at h
  · have := Literal.length_of_read? h
    rw [List.length_cons]
    omega
  · cases h

/-- Take the line `s` apart at its literals, each at the leftmost place where one opens
(`opens?`). -/
def pieces (s : Text) : Pieces :=
  match s with
  | [] => ⟨[], []⟩
  | c :: rest =>
    match _h : opens? (c :: rest) with
    | some (cells, after) =>
      let p := pieces after
      ⟨[], (cells, p.front) :: p.literals⟩
    | none =>
      let p := pieces rest
      ⟨c :: p.front, p.literals⟩
termination_by s.length
decreasing_by
  · exact length_of_opens? _h
  · simp

/-- The run of text `s` as elements: none if there is nothing in it. -/
def textElements (s : Text) : List Element := if s.isEmpty then [] else [.text s]

/-- The elements of a line taken apart, without empty texts. -/
def Pieces.elements (p : Pieces) : List Element :=
  textElements p.front ++
    p.literals.flatMap fun (cells, text) => Element.ofGrid cells :: textElements text

/-- Read the line `s`. A line without content has a single empty text. -/
def parse (s : Text) : List Element :=
  match (pieces s).elements with
  | [] => [.text []]
  | elements => elements

/-- The spelling of an element: texts as they are, matrices by `Literal.print`, symbols by their
glyph, or by their id where there is no glyph to show. -/
def printElement : Element → Text
  | .text content => content
  | .matrix _ _ cells => Literal.print cells
  | .symbol id none => id
  | .symbol id (some glyph) => if glyph.isEmpty then id else glyph

/-- The spelling of a line: that of its elements by `printElement`, one after another. -/
def print (elements : List Element) : Text := elements.flatMap printElement

end MathNotes.Line
