import MathNotes.Template.Registry

/-!
# The templates that come with the library

Large operators, structures (fractions, roots, scripts, delimiters), functions (limits and
derivatives) and decorations (accents), and the registry `standard` that holds them.
-/

namespace MathNotes.Template

open Segment

/-- The segments of a `slot` in braces. -/
def grouped (slot : Text) : List Segment := [fixed ['{'], .slot slot, fixed ['}']]

/-! ### Slots -/

/-- The slots of an operator with two bounds, with the hint `body` for what stands behind them. -/
def boundedSlots (body : Text) : List Slot :=
  [⟨"lower", "i=1", ""⟩, ⟨"upper", "n", ""⟩, ⟨"body", body, ""⟩]

/-- A single slot, `body`, for the whole content. -/
def bodySlot (hint : Text) : List Slot := [⟨"body", hint, ""⟩]

def derivativeSlots : List Slot := [⟨"function", "f", ""⟩, ⟨"variable", "x", "x"⟩]

/-! ### Large operators -/

/-- A large operator with bounds below and above and a body after them, set with `\displaystyle`. -/
def largeOperator (id name : Text) (bodyHint command : Text) : Template where
  id := id
  name := name
  category := .operator
  isLarge := true
  slots := boundedSlots bodyHint
  body := fixed ("\\displaystyle".toList ++ command ++ ['_']) :: grouped "lower" ++
    fixed ['^'] :: grouped "upper" ++ [fixed [' '], .slot "body"]

def summation : Template := largeOperator "summation" "Summation" "expr" "\\sum"

def product : Template := largeOperator "product" "Product" "expr" "\\prod"

def integral : Template where
  id := "integral"
  name := "Integral"
  category := .operator
  isLarge := true
  slots := [⟨"lower", "a", ""⟩, ⟨"upper", "b", ""⟩, ⟨"body", "f(x)", ""⟩,
    ⟨"differential", "dx", "dx"⟩]
  body := fixed "\\displaystyle\\int_" :: grouped "lower" ++ fixed ['^'] :: grouped "upper" ++
    [fixed [' '], .slot "body", fixed "\\, ", .slot "differential"]

def union : Template := largeOperator "union" "Union" "A_i" "\\bigcup"

def intersection : Template := largeOperator "intersection" "Intersection" "A_i" "\\bigcap"

/-! ### Structures -/

def fraction : Template where
  id := "fraction"
  name := "Fraction"
  category := .structural
  isLarge := false
  slots := [⟨"numerator", "a", ""⟩, ⟨"denominator", "b", ""⟩]
  body := fixed "\\dfrac" :: grouped "numerator" ++ grouped "denominator"

def squareRoot : Template where
  id := "sqrt"
  name := "Square Root"
  category := .structural
  isLarge := false
  slots := bodySlot "x"
  body := fixed "\\sqrt" :: grouped "body"

def nthRoot : Template where
  id := "nthroot"
  name := "Nth Root"
  category := .structural
  isLarge := false
  slots := [⟨"index", "n", ""⟩, ⟨"body", "x", ""⟩]
  body := [fixed "\\sqrt[", .slot "index", fixed "]"] ++ grouped "body"

def power : Template where
  id := "power"
  name := "Exponent"
  category := .structural
  isLarge := false
  slots := [⟨"base", "x", ""⟩, ⟨"exponent", "n", ""⟩]
  body := grouped "base" ++ fixed ['^'] :: grouped "exponent"

def subscript : Template where
  id := "subscriptExpr"
  name := "Subscript"
  category := .structural
  isLarge := false
  slots := [⟨"base", "x", ""⟩, ⟨"sub", "i", ""⟩]
  body := grouped "base" ++ fixed ['_'] :: grouped "sub"

def bothScripts : Template where
  id := "superSub"
  name := "Super & Subscript"
  category := .structural
  isLarge := false
  slots := [⟨"base", "x", ""⟩, ⟨"sub", "i", ""⟩, ⟨"sup", "n", ""⟩]
  body := grouped "base" ++ fixed ['_'] :: grouped "sub" ++ fixed ['^'] :: grouped "sup"

/-- A body between delimiters that are scaled by `\left` and `\right`. -/
def delimited (id name hint opening closing : Text) : Template where
  id := id
  name := name
  category := .structural
  isLarge := false
  slots := bodySlot hint
  body := [fixed ("\\left".toList ++ opening), .slot "body", fixed ("\\right".toList ++ closing)]

def absoluteValue : Template := delimited "abs" "Absolute Value" "x" "|" "|"

def parentheses : Template := delimited "paren" "Parentheses" "expr" "(" ")"

def brackets : Template := delimited "bracket" "Brackets" "expr" "[" "]"

def binomial : Template where
  id := "binom"
  name := "Binomial"
  category := .structural
  isLarge := false
  slots := [⟨"n", "n", ""⟩, ⟨"k", "k", ""⟩]
  body := fixed "\\dbinom" :: grouped "n" ++ grouped "k"

/-! ### Functions -/

def limit : Template where
  id := "limit"
  name := "Limit"
  category := .function
  isLarge := true
  slots := [⟨"variable", "x", "x"⟩, ⟨"approaching", "\\infty", ""⟩, ⟨"body", "f(x)", ""⟩]
  body := [fixed ("\\displaystyle\\lim_".toList ++ ['{']), .slot "variable", fixed " \\to ",
    .slot "approaching", fixed ['}', ' '], .slot "body"]

/-- A fraction of a function and a variable, each with the `sign` of the differential before it. -/
def derivativeWith (id name sign : Text) : Template where
  id := id
  name := name
  category := .function
  isLarge := false
  slots := derivativeSlots
  body := [fixed ("\\dfrac".toList ++ '{' :: sign), .slot "function", fixed ('}' :: '{' :: sign),
    .slot "variable", fixed ['}']]

def derivative : Template := derivativeWith "derivative" "Derivative" "d"

def partialDerivative : Template :=
  derivativeWith "partialDerivative" "Partial Derivative" "\\partial "

/-! ### Decorations -/

/-- A `command` applied to the body. -/
def accent (id name hint command : Text) : Template where
  id := id
  name := name
  category := .decoration
  isLarge := false
  slots := bodySlot hint
  body := fixed command :: grouped "body"

def hat : Template := accent "hat" "Hat" "x" "\\hat"

def bar : Template := accent "bar" "Bar (overline)" "x" "\\overline"

def vectorArrow : Template := accent "vec" "Vector Arrow" "v" "\\vec"

/-! ### The catalogue -/

/-- Every template that comes with the library, in the order of registration. -/
def catalogue : List Template :=
  [summation, product, integral, union, intersection,
    fraction, squareRoot, nthRoot, power, subscript, bothScripts, absoluteValue, parentheses,
    brackets, binomial,
    limit, derivative, partialDerivative,
    hat, bar, vectorArrow]

/-- The registry of the templates in `catalogue`. -/
def standard : Registry := Registry.empty.registerAll catalogue

end MathNotes.Template
