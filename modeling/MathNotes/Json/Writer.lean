import MathNotes.Json.Token

/-!
# Writing JSON values

The `compact` form has no blanks. The `indented` form puts every item and member on a line of its
own, two spaces further in than what holds it; empty arrays and objects stay on their line.
-/

namespace MathNotes.Json

mutual

/-- The value without blanks. -/
def compact : Json → Text
  | .null => Token.null.text
  | .bool b => (Token.bool b).text
  | .number n => n.text
  | .string s => stringText s
  | .broken => Token.brokenString.text
  | .array items => '[' :: compactItems items
  | .object members => '{' :: compactMembers members

/-- The items of an array by `compact`, and the closing bracket. -/
def compactItems : List Json → Text
  | [] => [']']
  | [j] => compact j ++ [']']
  | j :: rest => compact j ++ ',' :: compactItems rest

/-- The members of an object by `compact`, and the closing brace. -/
def compactMembers : List (Text × Json) → Text
  | [] => ['}']
  | [(k, j)] => stringText k ++ ':' :: (compact j ++ ['}'])
  | (k, j) :: rest => stringText k ++ ':' :: (compact j ++ ',' :: compactMembers rest)

end

/-- A new line, indented by `2 * indent` spaces. -/
def newline (indent : Nat) : Text := '\n' :: List.replicate (2 * indent) ' '

mutual

/-- The value with every item and member on a line of its own, the closing bracket being indented by
`indent`. -/
def indented (indent : Nat) : Json → Text
  | .null => Token.null.text
  | .bool b => (Token.bool b).text
  | .number n => n.text
  | .string s => stringText s
  | .broken => Token.brokenString.text
  | .array [] => ['[', ']']
  | .array (j :: rest) => '[' :: (newline (indent + 1) ++ indentedItems (indent + 1) (j :: rest))
  | .object [] => ['{', '}']
  | .object (m :: rest) =>
    '{' :: (newline (indent + 1) ++ indentedMembers (indent + 1) (m :: rest))

/-- The items of an array, each after a `newline indent`, and the closing bracket one step further
out. -/
def indentedItems (indent : Nat) : List Json → Text
  | [] => [']']
  | [j] => indented indent j ++ newline (indent - 1) ++ [']']
  | j :: rest => indented indent j ++ ',' :: (newline indent ++ indentedItems indent rest)

/-- The members of an object, each after a `newline indent`, and the closing brace one step further
out. -/
def indentedMembers (indent : Nat) : List (Text × Json) → Text
  | [] => ['}']
  | [(k, j)] =>
    stringText k ++ ':' :: ' ' :: (indented indent j ++ newline (indent - 1) ++ ['}'])
  | (k, j) :: rest =>
    stringText k ++ ':' :: ' ' ::
      (indented indent j ++ ',' :: (newline indent ++ indentedMembers indent rest))

end

/-- The value in the indented form, from `indented 0`. -/
def pretty (j : Json) : Text := indented 0 j

end MathNotes.Json
