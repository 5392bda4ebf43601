import MathNotes.Yaml.Layout
import MathNotes.Yaml.Node

/-!
# YAML documents

The tokens of a text make up documents, of which there must be one (`ofTokens?`). What stands behind
the end of the only document is of no account if no second one begins there (`endsDocument`).
-/

namespace MathNotes.Yaml

/-- How deeply collections may be nested, which is what `readNode` starts with as `levels`. -/
def depthLimit : Nat := 64

/-- How much may be written down in place of aliases, by `eventCount`. -/
def aliasLimit : Nat := 1000000

/-- The names and handles that have been introduced, and what aliases have cost. -/
structure Context where
  /-- The nodes with names, the last first; a node that is still being read is `none`. -/
  anchors : List (Text × Option Yaml) := []
  /-- What tag handles stand for. -/
  handles : List (Text × Text) := []
  /-- How much has been written down in place of aliases; at most `aliasLimit`. -/
  expanded : Nat := 0

/-- What was read, what is left, and what is known then; `none` if nothing could be read. -/
abbrev Reading (α : Type) := Option (α × List Token × Context)

namespace Context

/-- The handle that stands for `standardExpansion`, unless it has been given another meaning. -/
def standardHandle : Text := "!!"

/-- What a tag says, if its `handle` is known. One that is not closed stands for itself. -/
def tag? (x : Context) (handle suffix : Text) : Option Tag :=
  match x.handles.lookup handle with
  | some expansion => some (.ofText (expansion ++ suffix))
  | none =>
    if handle = standardHandle then some (.ofText (standardExpansion ++ suffix))
    else if isClosedHandle handle then none
    else some (.ofText (handle ++ suffix))

/-- The node that the alias `name` stands for. It must be complete, and there must be room for it
below `aliasLimit`. -/
def resolve? (x : Context) (name : Text) : Option (Yaml × Context) :=
  match x.anchors.lookup name with
  | some (some y) =>
    let expanded := x.expanded + y.eventCount
    if expanded ≤ aliasLimit then some (y, { x with expanded := expanded }) else none
  | _ => none

/-- Complete the node `y`, which was the `n`th to be named. -/
def complete (x : Context) (n : Nat) (y : Yaml) : Context :=
  let place := x.anchors.length - 1 - n
  match x.anchors[place]? with
  | some (name, _) => { x with anchors := x.anchors.set place (name, some y) }
  | none => x

end Context

/-- What stands in front of a node: a name, a tag, both in either order, or nothing. -/
structure Properties where
  /-- How many nodes were named before this one, if it is named. -/
  anchor : Option Nat := none
  /-- What the tag says by `tag?`, if there is one. -/
  tag : Option Tag := none

/-- Take notice of the `name` of a node that is about to be read, and is not complete yet. -/
def Context.register (x : Context) (name : Text) : Context :=
  { x with anchors := (name, none) :: x.anchors }

/-- Read a name and a tag, in either order, of which each may be missing. -/
def readProperties (x : Context) : List Token → Reading Properties
  | .anchor name :: .tag handle suffix :: rest =>
    (x.tag? handle suffix).map fun tag =>
      (⟨some x.anchors.length, some tag⟩, rest, x.register name)
  | .anchor name :: rest => some (⟨some x.anchors.length, none⟩, rest, x.register name)
  | .tag handle suffix :: .anchor name :: rest =>
    (x.tag? handle suffix).map fun tag =>
      (⟨some x.anchors.length, some tag⟩, rest, x.register name)
  | .tag handle suffix :: rest =>
    (x.tag? handle suffix).map fun tag => (⟨none, some tag⟩, rest, x)
  | ts => some ({}, ts, x)

/-- The node that is meant where nothing follows its name and tag, if it has one of them: a scalar
with no content. -/
def Properties.bare? (p : Properties) : Option Yaml :=
  if p.anchor.isSome || p.tag.isSome then some (.scalar [] true (p.tag.getD .none)) else none

/-- Whether a member or an item ends here without a node of its own: at one of the tokens `ends` or
at the end. -/
def endsEntry (ends : List Token) : List Token → Bool
  | [] => true
  | t :: _ => ends.contains t

mutual

/-- Read a node, in at most `fuel` steps and nested at most `levels` deep. Block collections are
read where `inBlock` says so, and items at the column of the key that they belong to where `flat`
says so. -/
def readNode (fuel levels : Nat) (inBlock flat : Bool) (x : Context) (ts : List Token) :
    Reading Yaml :=
  match fuel with
  | 0 => none
  | fuel + 1 =>
    match ts with
    | .alias name :: rest => (x.resolve? name).map fun (y, x) => (y, rest, x)
    | ts =>
      match readProperties x ts with
      | none => none
      | some (properties, ts, x) =>
        match readContent fuel levels inBlock flat properties x ts with
        | none => none
        | some (y, rest, x) =>
          some (y, rest, (properties.anchor.map fun n => x.complete n y).getD x)

/-- Read a node behind its name and tag, which are the `properties`. -/
def readContent (fuel levels : Nat) (inBlock flat : Bool) (properties : Properties) (x : Context)
    (ts : List Token) : Reading Yaml :=
  match fuel with
  | 0 => none
  | fuel + 1 =>
    match levels, ts with
    | _, .scalar content isPlain :: rest =>
      some (.scalar content isPlain (properties.tag.getD .none), rest, x)
    | levels + 1, .openBracket :: rest =>
      (readFlowItems fuel levels [] x rest).map fun (items, rest, x) => (.sequence items, rest, x)
    | levels + 1, .openBrace :: rest =>
      (readFlowMembers fuel levels [] x rest).map fun (ms, rest, x) => (.mapping ms, rest, x)
    | levels + 1, .blockSequence :: rest =>
      if inBlock then
        (readItems fuel levels false [] x rest).map fun (items, rest, x) =>
          (.sequence items, rest, x)
      else none
    | levels + 1, .blockMapping :: rest =>
      if inBlock then
        (readMembers fuel levels [] x rest).map fun (ms, rest, x) => (.mapping ms, rest, x)
      else none
    | levels, .item :: rest =>
      if !flat then properties.bare?.map fun y => (y, .item :: rest, x)
      else if levels = 0 then none
      else
        (readItems fuel (levels - 1) true [] x (.item :: rest)).map fun (items, rest, x) =>
          (.sequence items, rest, x)
    | 0, .openBracket :: _ => none
    | 0, .openBrace :: _ => none
    | 0, .blockSequence :: _ => none
    | 0, .blockMapping :: _ => none
    | _, ts => properties.bare?.map fun y => (y, ts, x)

/-- Read a node of an entry, or `nothing` if the entry ends before (`endsEntry`). -/
def readEntry (fuel levels : Nat) (ends : List Token) (inBlock flat : Bool) (x : Context)
    (ts : List Token) : Reading Yaml :=
  match fuel with
  | 0 => none
  | fuel + 1 =>
    if endsEntry ends ts then some (nothing, ts, x) else readNode fuel levels inBlock flat x ts

/-- Read the items of a block sequence. Those read so far, `items`, have the last first. -/
def readItems (fuel levels : Nat) (flat : Bool) (items : List Yaml) (x : Context)
    (ts : List Token) : Reading (List Yaml) :=
  match fuel, ts with
  | 0, _ => none
  | fuel + 1, .item :: rest =>
    let ends := if flat then [.item, .key, .value, .blockEnd] else [.item, .blockEnd]
    match readEntry fuel levels ends true false x rest with
    | none => none
    | some (y, rest, x) => readItems fuel levels flat (y :: items) x rest
  | _, ts =>
    if flat then some (items.reverse, ts, x)
    else
      match ts with
      | .blockEnd :: rest => some (items.reverse, rest, x)
      | _ => none

/-- Read the members of a block mapping. Those read so far, `members`, have the last first. -/
def readMembers (fuel levels : Nat) (members : List (Yaml × Yaml)) (x : Context)
    (ts : List Token) : Reading (List (Yaml × Yaml)) :=
  match fuel, ts with
  | 0, _ => none
  | fuel + 1, .key :: rest =>
    match readEntry fuel levels [.key, .value, .blockEnd] true true x rest with
    | none => none
    | some (k, rest, x) =>
      match readValue fuel levels [.key, .value, .blockEnd] true x rest with
      | none => none
      | some (v, rest, x) => readMembers fuel levels ((k, v) :: members) x rest
  | fuel + 1, .value :: rest =>
    match readValue fuel levels [.key, .value, .blockEnd] true x (.value :: rest) with
    | none => none
    | some (v, rest, x) => readMembers fuel levels ((nothing, v) :: members) x rest
  | _, .blockEnd :: rest => some (members.reverse, rest, x)
  | _, _ => none

/-- Read the value of a member, or `nothing` if it has none. -/
def readValue (fuel levels : Nat) (ends : List Token) (inBlock : Bool) (x : Context)
    (ts : List Token) : Reading Yaml :=
  match fuel, ts with
  | 0, _ => none
  | fuel + 1, .value :: rest => readEntry fuel levels ends inBlock inBlock x rest
  | _, ts => some (nothing, ts, x)

/-- Read the items of a sequence in brackets. Those read so far, `items`, have the last first. -/
def readFlowItems (fuel levels : Nat) (items : List Yaml) (x : Context) (ts : List Token) :
    Reading (List Yaml) :=
  match fuel, ts with
  | 0, _ => none
  | _, .closeBracket :: rest => some (items.reverse, rest, x)
  | fuel + 1, ts =>
    match readFlowItem fuel levels x ts with
    | none => none
    | some (y, .comma :: rest, x) => readFlowItems fuel levels (y :: items) x rest
    | some (y, .closeBracket :: rest, x) => some ((y :: items).reverse, rest, x)
    | some _ => none

/-- Read an item of a sequence in brackets, which may be a mapping of one member. -/
def readFlowItem (fuel levels : Nat) (x : Context) (ts : List Token) : Reading Yaml :=
  match fuel, levels, ts with
  | 0, _, _ => none
  | fuel + 1, levels + 1, .key :: rest =>
    match readEntry fuel levels [.value, .comma, .closeBracket] false false x rest with
    | none => none
    | some (k, rest, x) =>
      (readValue fuel levels [.comma, .closeBracket] false x rest).map fun (v, rest, x) =>
        (.mapping [(k, v)], rest, x)
  | fuel + 1, levels, ts => readNode fuel levels false false x ts

/-- Read the members of a mapping in braces. Those read so far, `members`, have the last first. -/
def readFlowMembers (fuel levels : Nat) (members : List (Yaml × Yaml)) (x : Context)
    (ts : List Token) : Reading (List (Yaml × Yaml)) :=
  match fuel, ts with
  | 0, _ => none
  | _, .closeBrace :: rest => some (members.reverse, rest, x)
  | fuel + 1, ts =>
    match readFlowMember fuel levels x ts with
    | none => none
    | some (m, .comma :: rest, x) => readFlowMembers fuel levels (m :: members) x rest
    | some (m, .closeBrace :: rest, x) => some ((m :: members).reverse, rest, x)
    | some _ => none

/-- Read a member of a mapping in braces, of which the key or the value may be `nothing`. -/
def readFlowMember (fuel levels : Nat) (x : Context) (ts : List Token) : Reading (Yaml × Yaml) :=
  match fuel, ts with
  | 0, _ => none
  | fuel + 1, .key :: rest =>
    match readEntry fuel levels [.value, .comma, .closeBrace] false false x rest with
    | none => none
    | some (k, rest, x) =>
      (readValue fuel levels [.comma, .closeBrace] false x rest).map fun (v, rest, x) =>
        ((k, v), rest, x)
  | fuel + 1, .value :: rest =>
    (readValue fuel levels [.comma, .closeBrace] false x (.value :: rest)).map
      fun (v, rest, x) => ((nothing, v), rest, x)
  | fuel + 1, ts =>
    (readNode fuel levels false false x ts).map fun (k, rest, x) => ((k, nothing), rest, x)

end

/-! ### Documents -/

/-- The version of YAML that is known, by its first number. -/
def knownVersion : Nat := 1

/-- Read directives: a version at most once (`hasVersion`), which must be `knownVersion`, and every
handle at most once. -/
def readDirectives (hasVersion : Bool) (x : Context) : List Token → Option (List Token × Context)
  | .version major :: rest =>
    if hasVersion || major ≠ knownVersion then none else readDirectives true x rest
  | .tagHandle handle expansion :: rest =>
    if (x.handles.lookup handle).isSome then none
    else readDirectives hasVersion { x with handles := (handle, expansion) :: x.handles } rest
  | .reserved :: rest => readDirectives hasVersion x rest
  | ts => some (ts, x)

/-- Whether a token is a directive. -/
def Token.isDirective : Token → Bool
  | .version _ => true
  | .tagHandle _ _ => true
  | .reserved => true
  | _ => false

/-- Whether the token belongs to what stands around documents: a directive (`isDirective`), a mark
or the end. -/
def Token.isOutside (t : Token) : Bool :=
  t.isDirective || t = .documentStart || t = .documentEnd || t = .finish

/-- Read the directives and the mark with which a document begins; without either the document must
be allowed to begin without (`needsMark`). Whether there was a mark is given back. -/
def readStart (needsMark : Bool) (ts : List Token) : Option (List Token × Context × Bool) :=
  match ts with
  | [] => none
  | t :: _ =>
    if t.isDirective || t = .documentStart || needsMark then
      match readDirectives false {} ts with
      | some (.documentStart :: rest, x) => some (rest, x, true)
      | _ => none
    else some (ts, {}, false)

/-- Whether a node begins here, or what stands in front of one (`readProperties`). -/
def beginsNode (x : Context) (ts : List Token) : Bool :=
  match readProperties x ts with
  | none => false
  | some (properties, t :: _, _) =>
    match t with
    | .scalar _ _ | .openBracket | .openBrace | .blockSequence | .blockMapping => true
    | .broken => false
    | _ => properties.bare?.isSome
  | some (_, [], _) => false

/-- Whether another document begins here, by `readStart` and `beginsNode`. -/
def beginsDocument (needsMark : Bool) (ts : List Token) : Bool :=
  match readStart needsMark ts with
  | none => false
  | some (ts, x, hasMark) => (hasMark && ts.head?.any (·.isOutside)) || beginsNode x ts

/-- Whether nothing but a second document would be wrong with what stands behind a document, and
there is none (`beginsDocument`). -/
def endsDocument : List Token → Bool
  | [] => false
  | .broken :: _ => false
  | .documentEnd :: rest =>
    match rest.dropWhile (· = .documentEnd) with
    | [] => true
    | .finish :: _ => true
    | rest => !beginsDocument false rest
  | .finish :: _ => true
  | t :: rest => !t.isDirective && !beginsDocument true (t :: rest)

/-- The node of the only document. An empty text says `nothing`. -/
def ofTokens? (ts : List Token) : Option Yaml :=
  match ts.dropWhile (· = .documentEnd) with
  | .finish :: _ => some nothing
  | ts =>
    match readStart false ts with
    | none => none
    | some (ts, x, hasMark) =>
      if hasMark && ts.head?.any (·.isOutside) then
        if endsDocument ts then some nothing else none
      else
        match readNode (8 * ts.length + 8) depthLimit true false x ts with
        | none => none
        | some (y, rest, _) => if endsDocument rest then some y else none

/-- Read the only document of the text `s`, by its `tokens`. -/
def read? (s : Text) : Option Yaml := ofTokens? (tokens s)

end MathNotes.Yaml
