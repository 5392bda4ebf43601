import MathNotes.Expr.Basic
import MathNotes.Json.Reader
import MathNotes.Json.Record
import MathNotes.Json.Writer

/-!
# Expressions in JSON

An expression is a record with the name of its `Kind` as the tag (`toJson`). Parts of an integral
that are absent are not written. Inside another tagged record the tag of an expression may also be
the number of its kind (`innerKind?`), and operators, wrappers and orientations may be written as
objects (`Json.choice?`).
-/

namespace MathNotes.Expr

open Json (entries? tagged?)

/-- The key under which the kind of an expression stands. -/
def tagKey : Text := "kind"

/-- The keys of the entries of each kind, in order. The tag, `tagKey`, is not among them. -/
def keys : Kind → List Text
  | .symbol => ["value"]
  | .number => ["value"]
  | .identifier => ["name"]
  | .matrix => ["rows", "cols", "cells"]
  | .vector => ["orientation", "cells"]
  | .operation => ["op", "left", "right"]
  | .wrapped => ["wrap", "inner"]
  | .integral => ["body", "from", "to", "d"]
  | .fraction => ["numerator", "denominator"]
  | .power => ["base", "exponent"]
  | .subscript => ["base", "subscript"]

/-- An expression as a JSON value, an object with `tagKey` in front. -/
def toJson : Expr → Json
  | .symbol glyph => .object [(tagKey, .string Kind.symbol.name), ("value", .string glyph)]
  | .number digits => .object [(tagKey, .string Kind.number.name), ("value", .string digits)]
  | .identifier name => .object [(tagKey, .string Kind.identifier.name), ("name", .string name)]
  | .matrix rows cols cells =>
    .object [(tagKey, .string Kind.matrix.name), ("rows", .ofNat rows), ("cols", .ofNat cols),
      ("cells", .ofGrid cells)]
  | .vector orientation cells =>
    .object [(tagKey, .string Kind.vector.name), ("orientation", .string orientation.spelling),
      ("cells", .ofTexts cells)]
  | .operation op left right =>
    .object [(tagKey, .string Kind.operation.name), ("op", .string op.spelling),
      ("left", left.toJson), ("right", right.toJson)]
  | .wrapped wrapper inner =>
    .object [(tagKey, .string Kind.wrapped.name), ("wrap", .string wrapper.spelling),
      ("inner", inner.toJson)]
  | .integral body lower upper differential =>
    .object ([(tagKey, .string Kind.integral.name), ("body", .string body)] ++
      Json.optionalMember "from" lower ++ Json.optionalMember "to" upper ++
      Json.optionalMember "d" differential)
  | .fraction numerator denominator =>
    .object [(tagKey, .string Kind.fraction.name), ("numerator", .string numerator),
      ("denominator", .string denominator)]
  | .power base exponent =>
    .object [(tagKey, .string Kind.power.name), ("base", .string base),
      ("exponent", .string exponent)]
  | .subscript base index =>
    .object [(tagKey, .string Kind.subscript.name), ("base", .string base),
      ("subscript", .string index)]

/-- The kind that a tag inside another tagged record names: by its name or by its place in
`Kind.all`. -/
def innerKind? : Json → Option Kind
  | .string name => Kind.ofName? name
  | .number (.integer n) => if 0 ≤ n then Kind.all[n.toNat]? else none
  | _ => none

/-- The kind that the tag of an outermost record names, by its name only. -/
def outerKind? : Json → Option Kind
  | .string name => Kind.ofName? name
  | _ => none

/-- The kind and the entries of an expression, by the `keys` of its kind; `kind?` reads the tag. -/
def parts? (kind? : Json → Option Kind) (j : Json) : Option (Kind × List (Option Json)) :=
  match j.tagged? tagKey with
  | none => none
  | some (name, rest) =>
    match kind? name with
    | none => none
    | some kind => (rest.entries? (keys kind)).map fun es => (kind, es)

theorem sizeOf_of_parts? {kind? : Json → Option Kind} {j part : Json} {kind : Kind}
    {es : List (Option Json)} (h : parts? kind? j = some (kind, es)) (hp : some part ∈ es) :
    sizeOf part < sizeOf j := by
  unfold parts? at h
  split at h
  · cases h
  · next ht =>
    split at h
    · cases h
    · obtain ⟨es', hes, heq⟩ := Option.map_eq_some_iff.mp h
      cases heq
      have := Json.sizeOf_of_tagged? ht
      have := Json.sizeOf_of_mem_entries? hes hp
      omega

/-- The expression that `j` stands for, whatever stands in members that are ignored; `kind?` reads
the tag. Below an operation or a wrapper tags are read by `innerKind?`. -/
def decode? (kind? : Json → Option Kind) (j : Json) : Option Expr :=
  match _h : parts? kind? j with
  | some (.symbol, [some (.string glyph)]) => some (.symbol glyph)
  | some (.number, [some (.string digits)]) => some (.number digits)
  | some (.identifier, [some (.string name)]) => some (.identifier name)
  | some (.matrix, [some rows, some cols, some cells]) => do
    return .matrix (← rows.size?) (← cols.size?) (← cells.grid?)
  | some (.vector, [some o, some cells]) => do
    return .vector (← o.choice?.bind Orientation.ofSpelling?) (← cells.list? Json.text?)
  | some (.operation, [some op, some left, some right]) => do
    return .operation (← op.choice?.bind Operator.ofSpelling?) (← decode? innerKind? left)
      (← decode? innerKind? right)
  | some (.wrapped, [some w, some inner]) => do
    return .wrapped (← w.choice?.bind Wrapper.ofSpelling?) (← decode? innerKind? inner)
  | some (.integral, [some (.string body), lower, upper, differential]) => do
    return .integral body (← Json.optionalText? lower) (← Json.optionalText? upper)
      (← Json.optionalText? differential)
  | some (.fraction, [some (.string numerator), some (.string denominator)]) =>
    some (.fraction numerator denominator)
  | some (.power, [some (.string base), some (.string exponent)]) => some (.power base exponent)
  | some (.subscript, [some (.string base), some (.string index)]) =>
    some (.subscript base index)
  | _ => none
termination_by sizeOf j
decreasing_by all_goals exact sizeOf_of_parts? _h (by simp)

/-- The expression that `j` as a whole stands for. Everything in it must be usable
(`Json.isUsable`). -/
def ofJson? (j : Json) : Option Expr := if j.isUsable 0 then decode? outerKind? j else none

/-- Read an expression from the JSON text `s`; everything that is wrong with it is one error,
`Error.json`. -/
def read (s : Text) : Except Error Expr :=
  match (Json.read? s).bind ofJson? with
  | some e => .ok e
  | none => .error .json

/-- The expression `e` as a JSON text, in the compact form. -/
def write (e : Expr) : Text := e.toJson.compact

end MathNotes.Expr
