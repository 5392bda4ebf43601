import MathNotes.Expr.Json
import MathNotes.Note.Basic

/-!
# Notes in JSON

A block is a record with its kind as the tag, under `Block.tagKey`; a note and its summary are plain
records with the members `Note.keys` and `NoteSummary.keys`. What stands in members that are ignored
is of no account. Notes are stored in the indented form, `Json.pretty`.
-/

namespace MathNotes

/-- The time `t` as a JSON value, a whole number. -/
def Json.ofInt64 (t : Int64) : Json := .number (.integer t.toInt)

namespace Block

/-- The key of the tag that says of which kind a block is. -/
def tagKey : Text := "type"

/-- A block as a JSON value, with the expression and its markup under `ast` and `latex`. -/
def toJson : Block → Json
  | .paragraph id content =>
    .object [(tagKey, .string "paragraph"), ("id", .string id), ("text", .string content)]
  | .math b =>
    .object [(tagKey, .string "math"), ("id", .string b.id), ("inline", .bool b.isInline),
      ("ast", b.expr.toJson), ("latex", .string b.markup)]

/-- The block that the value `j` stands for, whatever stands in members that are ignored. -/
def decode? (j : Json) : Option Block := do
  let (tag, rest) ← j.tagged? tagKey
  let name ← tag.text?
  if name = "paragraph".toList then
    match ← rest.entries? ["id", "text"] with
    | [some (.string id), some (.string content)] => return .paragraph id content
    | _ => none
  else if name = "math".toList then
    match ← rest.entries? ["id", "inline", "ast", "latex"] with
    | [some (.string id), some (.bool isInline), some e, some (.string markup)] =>
      return .math ⟨id, isInline, ← Expr.decode? Expr.innerKind? e, markup⟩
    | _ => none
  else none

/-- The block that `j` stands for inside `levels` arrays and objects. Everything in it must be
usable, ignored members too, since a tagged value is read whole before its tag is known. -/
def ofJson? (levels : Nat) (j : Json) : Option Block :=
  if j.isUsable levels then decode? j else none

end Block

namespace Note

/-- The keys of a note, in the order in which they are written. -/
def keys : List Text := ["id", "title", "content", "createdAt", "updatedAt"]

/-- The note `n` as a JSON value, its blocks by `Block.toJson`. -/
def toJson (n : Note) : Json :=
  .object [("id", .string n.id), ("title", .string n.title),
    ("content", .array (n.content.map Block.toJson)), ("createdAt", .ofInt64 n.createdAt),
    ("updatedAt", .ofInt64 n.updatedAt)]

/-- The blocks of a note stand inside two brackets: its own, and those of the list of blocks. -/
def contentLevels : Nat := 2

/-- The note that `j` stands for, each block of it read at the depth `contentLevels`. -/
def ofJson? (j : Json) : Option Note := do
  match ← j.entries? keys with
  | [some (.string id), some (.string title), some content, some createdAt, some updatedAt] =>
    let blocks ← content.list? (Block.ofJson? contentLevels)
    return ⟨id, title, blocks, ← createdAt.int64?, ← updatedAt.int64?⟩
  | _ => none

/-- Read a note from a JSON text `s`; whatever goes wrong is an `Error.json`. -/
def read (s : Text) : Except Error Note :=
  match (Json.read? s).bind ofJson? with
  | some n => .ok n
  | none => .error .json

/-- The note `n` as an indented JSON text. -/
def write (n : Note) : Text := n.toJson.pretty

end Note

namespace NoteSummary

/-- The keys of a summary, in the order in which they are written. -/
def keys : List Text := ["id", "title", "updatedAt"]

/-- The summary `s` as a JSON value. -/
def toJson (s : NoteSummary) : Json :=
  .object [("id", .string s.id), ("title", .string s.title), ("updatedAt", .ofInt64 s.updatedAt)]

/-- The summary that the value `j` stands for. -/
def ofJson? (j : Json) : Option NoteSummary := do
  match ← j.entries? keys with
  | [some (.string id), some (.string title), some updatedAt] =>
    return ⟨id, title, ← updatedAt.int64?⟩
  | _ => none

/-- Read a list of summaries from a JSON text `s`; whatever goes wrong is an `Error.json`. -/
def readAll (s : Text) : Except Error (List NoteSummary) :=
  match (Json.read? s).bind (Json.list? ofJson?) with
  | some summaries => .ok summaries
  | none => .error .json

/-- The summary `s` as a JSON text without blanks. -/
def write (s : NoteSummary) : Text := s.toJson.compact

end NoteSummary

end MathNotes
