import MathNotes.Error
import MathNotes.Json.Reader
import MathNotes.Json.Record
import MathNotes.Json.Writer
import MathNotes.Line.Element

/-!
# Elements in JSON

An `Element` is a record with the kind of the element as the tag (`toJson`). A glyph that is absent
is not written.
-/

namespace MathNotes.Element

/-- The key under which the kind of an element stands. -/
def tagKey : Text := "type"

/-- An element as a JSON value, an object with `tagKey` in front. -/
def toJson : Element → Json
  | .text content => .object [(tagKey, .string "text"), ("value", .string content)]
  | .matrix rows cols cells =>
    .object [(tagKey, .string "matrix"), ("rows", .ofNat rows), ("cols", .ofNat cols),
      ("data", .ofGrid cells)]
  | .symbol id glyph =>
    .object ([(tagKey, .string "symbol"), ("value", .string id)] ++
      Json.optionalMember "display" glyph)

/-- The element that `j` stands for, whatever stands in members that are ignored. -/
def decode? (j : Json) : Option Element := do
  let (tag, rest) ← j.tagged? tagKey
  let name ← tag.text?
  if name = "text".toList then
    match ← rest.entries? ["value"] with
    | [some (.string content)] => return .text content
    | _ => none
  else if name = "matrix".toList then
    match ← rest.entries? ["rows", "cols", "data"] with
    | [some rows, some cols, some cells] =>
      return .matrix (← rows.size?) (← cols.size?) (← cells.grid?)
    | _ => none
  else if name = "symbol".toList then
    match ← rest.entries? ["value", "display"] with
    | [some (.string id), glyph] => return .symbol id (← Json.optionalText? glyph)
    | _ => none
  else none

/-- The element that `j` as a whole stands for. Everything in it must be usable
(`Json.isUsable`). -/
def ofJson? (j : Json) : Option Element := if j.isUsable 0 then decode? j else none

/-- Read an element from the JSON text `s`; everything that is wrong with it is one error,
`Error.json`. -/
def read (s : Text) : Except Error Element :=
  match (Json.read? s).bind ofJson? with
  | some e => .ok e
  | none => .error .json

/-- The element `e` as a JSON text, in the compact form. -/
def write (e : Element) : Text := e.toJson.compact

end MathNotes.Element
