import MathNotes.Text.Basic

/-!
# YAML nodes

What a YAML document says: scalars, sequences and mappings (`Yaml`). An alias has been replaced by
the node that it stands for.
-/

namespace MathNotes

/-- What is said about the kind of a node. -/
inductive Yaml.Tag where
  /-- Nothing. -/
  | none
  | string | integer | float | boolean | null | sequence | mapping | binary
  /-- Something else. -/
  | other
  deriving DecidableEq

/-- A YAML node. The `members` of a mapping are those written, in order, with repetitions. -/
inductive Yaml where
  /-- A scalar, and whether it is written plainly, that is without quotes and block headers
  (`isPlain`). -/
  | scalar (content : Text) (isPlain : Bool) (tag : Yaml.Tag)
  | sequence (items : List Yaml)
  | mapping (members : List (Yaml × Yaml))

namespace Yaml

/-- What stands where nothing is written: a plain scalar with no content. -/
def nothing : Yaml := .scalar [] true .none

/-- What the texts of `standardTags` have in front. -/
def standardExpansion : Text := "tag:yaml.org,2002:"

/-- The standard tags by what follows `standardExpansion`. -/
def standardTags : List (Text × Tag) :=
  [("str", .string), ("int", .integer), ("float", .float), ("bool", .boolean), ("null", .null),
    ("seq", .sequence), ("map", .mapping), ("binary", .binary)]

/-- The tag that is given in full by `s`, one of `standardTags` or `other`. -/
def Tag.ofText (s : Text) : Tag :=
  if standardExpansion.isPrefixOf s then
    (standardTags.lookup (s.drop standardExpansion.length)).getD .other
  else .other

mutual

/-- How many steps it takes to write a node down: one for a scalar, and one for each end of a
collection. -/
def eventCount : Yaml → Nat
  | .scalar _ _ _ => 1
  | .sequence items => eventCountOfItems items + 2
  | .mapping members => eventCountOfMembers members + 2

def eventCountOfItems : List Yaml → Nat
  | [] => 0
  | y :: rest => y.eventCount + eventCountOfItems rest

def eventCountOfMembers : List (Yaml × Yaml) → Nat
  | [] => 0
  | (k, v) :: rest => k.eventCount + v.eventCount + eventCountOfMembers rest

end

mutual

/-- How deeply collections are nested in a node, zero for a scalar. -/
def depth : Yaml → Nat
  | .scalar _ _ _ => 0
  | .sequence items => depthOfItems items + 1
  | .mapping members => depthOfMembers members + 1

def depthOfItems : List Yaml → Nat
  | [] => 0
  | y :: rest => max y.depth (depthOfItems rest)

def depthOfMembers : List (Yaml × Yaml) → Nat
  | [] => 0
  | (k, v) :: rest => max (max k.depth v.depth) (depthOfMembers rest)

end

mutual

/-- Whether two nodes are the same as keys: whether a scalar is written plainly (`isPlain`) does not
count. -/
def sameKey : Yaml → Yaml → Bool
  | .scalar s _ t, .scalar s' _ t' => s = s' && t = t'
  | .sequence items, .sequence others => sameItems items others
  | .mapping members, .mapping others => sameMembers members others
  | _, _ => false

def sameItems : List Yaml → List Yaml → Bool
  | [], [] => true
  | y :: rest, z :: others => y.sameKey z && sameItems rest others
  | _, _ => false

def sameMembers : List (Yaml × Yaml) → List (Yaml × Yaml) → Bool
  | [], [] => true
  | (k, v) :: rest, (k', v') :: others => k.sameKey k' && v.sameKey v' && sameMembers rest others
  | _, _ => false

end

end Yaml

end MathNotes
