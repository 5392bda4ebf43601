import MathNotes.Json.Token

/-!
# Reading JSON values

A value is read from its tokens one by one (`State.next`). The arrays and objects that are still
open are kept on a stack, the innermost first, so the length of the stack is the depth at which the
reader is.
-/

namespace MathNotes.Json

/-- The members of an object as they are read, the last first. A key that is broken is `none`. -/
abbrev Members := List (Option Text × Json)

/-- An array or object that is still open, while a value in it is read. What was read of it so far
has the last first; `key` is the one that the value is for. -/
inductive Frame where
  | array (items : List Json)
  | object (members : Members) (key : Option Text)

/-- What must come next. The `stack` holds what is open, the innermost first. -/
inductive State where
  /-- A value. -/
  | value (stack : List Frame)
  /-- The first item of an array, or its end. -/
  | firstItem (stack : List Frame)
  /-- The first key of an object, or its end. -/
  | firstKey (stack : List Frame)
  /-- A further key of an object. -/
  | key (members : Members) (stack : List Frame)
  /-- The colon after a key. -/
  | colon (members : Members) (key : Option Text) (stack : List Frame)
  /-- A comma between items, or the end of the array. -/
  | afterItem (items : List Json) (stack : List Frame)
  /-- A comma between members, or the end of the object. -/
  | afterMember (members : Members) (stack : List Frame)
  /-- Nothing more; `j` is the value of the whole text. -/
  | finished (j : Json)

/-- Put the value `j`, which is complete, where it belongs: in the innermost `Frame`, or at the
end. -/
def deliver (j : Json) : List Frame → State
  | [] => .finished j
  | .array items :: stack => .afterItem (j :: items) stack
  | .object members key :: stack => .afterMember ((key, j) :: members) stack

/-- The object with the given members, or `broken` if one of its keys is. -/
def ofMembers (members : Members) : Json :=
  match members.reverse.mapM fun (key?, j) => key?.map fun key => (key, j) with
  | some members => .object members
  | none => .broken

/-- Take a token where a value must come. An opening bracket or brace puts nothing on the `stack`
yet, since the array or object may be empty. -/
def beginValue (stack : List Frame) : Token → Option State
  | .null => some (deliver .null stack)
  | .bool b => some (deliver (.bool b) stack)
  | .number n => some (deliver (.number n) stack)
  | .string s => some (deliver (.string s) stack)
  | .brokenString => some (deliver .broken stack)
  | .openArray => some (.firstItem stack)
  | .openObject => some (.firstKey stack)
  | _ => none

/-- Take one token, if it may come next. -/
def State.next : State → Token → Option State
  | .value stack, t => beginValue stack t
  | .firstItem stack, .closeArray => some (deliver (.array []) stack)
  | .firstItem stack, t => beginValue (.array [] :: stack) t
  | .firstKey stack, .closeObject => some (deliver (.object []) stack)
  | .firstKey stack, .string k => some (.colon [] (some k) stack)
  | .firstKey stack, .brokenString => some (.colon [] none stack)
  | .key members stack, .string k => some (.colon members (some k) stack)
  | .key members stack, .brokenString => some (.colon members none stack)
  | .colon members k stack, .colon => some (.value (.object members k :: stack))
  | .afterItem items stack, .comma => some (.value (.array items :: stack))
  | .afterItem items stack, .closeArray => some (deliver (.array items.reverse) stack)
  | .afterMember members stack, .comma => some (.key members stack)
  | .afterMember members stack, .closeObject => some (deliver (ofMembers members) stack)
  | _, _ => none

/-- Take several tokens by `State.next`. -/
def State.run (state : State) (tokens : List Token) : Option State :=
  tokens.foldlM State.next state

/-- The value that a sequence of tokens leads to from `.value []`. -/
def ofTokens? (tokens : List Token) : Option Json :=
  match State.run (.value []) tokens with
  | some (.finished j) => some j
  | _ => none

/-- Read the value that the text `s` consists of. -/
def read? (s : Text) : Option Json := (readTokens s).bind ofTokens?

end MathNotes.Json
