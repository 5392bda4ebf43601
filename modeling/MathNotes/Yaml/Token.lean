import MathNotes.Text.Basic

/-!
# The tokens of a YAML text

What a YAML text consists of once its layout is understood. Where indentation begins or ends a
collection there is a token that says so, and every key has a token in front, so that nothing has to
be known about columns any more.
-/

namespace MathNotes.Yaml

/-- A token of a YAML text, as the layout gives it to the parser. -/
inductive Token where
  /-- A line that asks for a version of YAML, by its first number, `major`. -/
  | version (major : Nat)
  /-- A line that says what a tag `handle` stands for. -/
  | tagHandle (handle expansion : Text)
  /-- A line that speaks to the reader in some other way. -/
  | reserved
  | documentStart | documentEnd
  | blockSequence | blockMapping | blockEnd
  | openBracket | closeBracket | openBrace | closeBrace
  /-- The hyphen in front of an item of a block sequence. -/
  | item
  /-- The comma between the entries of a flow collection. -/
  | comma
  | key | value
  | anchor (name : Text)
  | alias (name : Text)
  /-- A tag. What is given in full has an empty `handle`. -/
  | tag (handle suffix : Text)
  /-- A scalar, and whether it is written plainly, that is without quotes and block headers
  (`isPlain`). -/
  | scalar (content : Text) (isPlain : Bool)
  /-- The end of the text. -/
  | finish
  /-- The place from which on the text cannot be read. -/
  | broken
  deriving DecidableEq

end MathNotes.Yaml
