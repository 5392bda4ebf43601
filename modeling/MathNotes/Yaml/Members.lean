import MathNotes.Text.Base64
import MathNotes.Yaml.Node

/-!
# The members of YAML mappings

A mapping must not repeat a key. The members of other mappings can be taken over by a merge key: its
value is a mapping, or a sequence of them, of which an earlier one goes before a later one
(`inherited?`), and what is written out goes before what is taken over (`effective?`).
-/

namespace MathNotes.Yaml

/-- Whether the content `s` of a plain scalar says that there is nothing: `~`, the word `null` in
any case, or no character. -/
def isNullSpelling (s : Text) : Bool := s = [] || s = ['~'] || s.map Char.toLower = "null".toList

/-- Whether a node is nothing: plain, and spelled so (`isNullSpelling`). -/
def isNull : Yaml → Bool
  | .scalar content isPlain _ => isPlain && isNullSpelling content
  | _ => false

/-- Whether a node is the merge key, which is plain, has no tag and is spelled `<<`. -/
def isMergeKey : Yaml → Bool
  | .scalar content true .none => content = "<<".toList
  | _ => false

mutual

/-- The members that are taken over where a node is the value of a merge key; `none` if it can not
be one. -/
def inherited? : Yaml → Option (List (Yaml × Yaml))
  | .scalar content isPlain _ => if isPlain && isNullSpelling content then some [] else none
  | .sequence items => inheritedByItems? items
  | .mapping members =>
    (inheritedByMembers? members).map fun inherited =>
      members.filter (fun m => !m.1.isMergeKey) ++ inherited

def inheritedByItems? : List Yaml → Option (List (Yaml × Yaml))
  | [] => some []
  | y :: rest => do return (← y.inherited?) ++ (← inheritedByItems? rest)

/-- The members that are taken over by the members of a mapping that have a key that
`isMergeKey`. -/
def inheritedByMembers? : List (Yaml × Yaml) → Option (List (Yaml × Yaml))
  | [] => some []
  | (k, v) :: rest =>
    if k.isMergeKey then do return (← v.inherited?) ++ (← inheritedByMembers? rest)
    else inheritedByMembers? rest

end

/-- Whether one of the `members` has the key `k` (`sameKey`). -/
def hasKey (members : List (Yaml × Yaml)) (k : Yaml) : Bool := members.any fun m => m.1.sameKey k

/-- Whether no two members have the same key (`hasKey`). -/
def areDistinct : List (Yaml × Yaml) → Bool
  | [] => true
  | m :: rest => !hasKey rest m.1 && areDistinct rest

/-- The `members`, and behind them those of `inherited` whose keys are not there yet. -/
def takeOver (members inherited : List (Yaml × Yaml)) : List (Yaml × Yaml) :=
  inherited.foldl (fun ms m => if hasKey ms m.1 then ms else ms ++ [m]) members

/-- The `members` of a mapping with those that are taken over, if those written out are distinct. -/
def effective? (members : List (Yaml × Yaml)) : Option (List (Yaml × Yaml)) :=
  let written := members.filter fun m => !m.1.isMergeKey
  if areDistinct written then (inheritedByMembers? members).map (takeOver written) else none

/-- Whether a scalar with this tag can be a text. -/
def Tag.allowsText : Tag → Bool
  | .none | .string | .binary | .other => true
  | _ => false

/-- The text of a scalar with a `tag`: its `content`, or what that spells in base 64 for
`binary`. -/
def taggedText? (content : Text) (tag : Tag) : Option Text :=
  if tag = .binary then Text.textOfBase64? content
  else if tag.allowsText then some content
  else none

/-- The text that `y` is. A node that `isNull` is not a text, unless its tag says so. -/
def text? (y : Yaml) : Option Text :=
  match y with
  | .scalar content _ tag =>
    if y.isNull && tag ≠ .string then none else taggedText? content tag
  | _ => none

/-- Whether a node that is not used is as it should be, looking at it at most `fuel` deep. A scalar
with a tag must be able to be a text (`taggedText?`) or be nothing. -/
def isSoundWithin : (fuel : Nat) → Yaml → Bool
  | _, .scalar content isPlain tag =>
    tag = .null || (isPlain && (tag = .none || isNullSpelling content)) ||
      (taggedText? content tag).isSome
  | 0, _ => false
  | fuel + 1, .sequence items => items.all (isSoundWithin fuel)
  | fuel + 1, .mapping members =>
    match effective? members with
    | some members => members.all fun m => isSoundWithin fuel m.1 && isSoundWithin fuel m.2
    | none => false

/-- Whether the node `y`, which is not used, is as it should be, at every depth
(`isSoundWithin`). -/
def isSound (y : Yaml) : Bool := isSoundWithin y.depth y

end MathNotes.Yaml
