import MathNotes.Error
import MathNotes.Options.Scalar
import MathNotes.Render
import MathNotes.Yaml.Document
import MathNotes.Yaml.Members

/-!
# Options documents

Options are kept as a YAML mapping from the names of options to their values (`write`). Options that
are not named keep their defaults, other keys are passed over, and no name may be repeated (`read`).
A document with nothing in it stands for the defaults.
-/

namespace MathNotes.Options

def displayStyleKey : Text := "display_style"

def wrapDelimitersKey : Text := "wrap_delimiters"

def sanitizeKey : Text := "sanitize"

def largeScaleKey : Text := "large_operator_scale"

/-- The options `o` with the one under `key` set to what `value` spells, by `bool?` or `single?`. A
`key` that names no option changes nothing. -/
def set? (o : Options) (key value : Text) : Option Options :=
  if key = displayStyleKey then (bool? value).map fun b => { o with displayStyle := b }
  else if key = wrapDelimitersKey then (bool? value).map fun b => { o with wrapDelimiters := b }
  else if key = sanitizeKey then (bool? value).map fun b => { o with sanitize := b }
  else if key = largeScaleKey then (single? value).map fun x => { o with largeScale := x }
  else some o

/-- The names of all options, those under which `set?` sets one. -/
def keys : List Text := [displayStyleKey, wrapDelimitersKey, sanitizeKey, largeScaleKey]

/-- The options `o` with one `member` of a mapping taken in. What stands under a key that is not one
of `keys` need only be sound. -/
def setMember? (o : Options) (member : Text × Yaml) : Option Options :=
  if keys.contains member.1 then
    match member.2 with
    | .scalar value _ _ => o.set? member.1 value
    | _ => none
  else if member.2.isSound then some o
  else none

/-- The options that the `members` of a mapping stand for, if none of `keys` is repeated. -/
def ofMembers? (members : List (Text × Yaml)) : Option Options :=
  if ((members.map (·.1)).filter keys.contains).Nodup then members.foldlM setMember? {} else none

/-- The options that a node stands for: the defaults if it is nothing (`isNullSpelling`), those of
its `effective?` members if it is a mapping. -/
def ofYaml? : Yaml → Option Options
  | .scalar content isPlain _ => if isPlain && Yaml.isNullSpelling content then some {} else none
  | .sequence _ => none
  | .mapping members => do
    let members ← Yaml.effective? members
    ofMembers? (← members.mapM fun m => m.1.text?.map fun key => (key, m.2))

/-- Read options from a document `s`; everything that is wrong with it is one error,
`Error.options`. -/
def read (s : Text) : Except Error Options :=
  match (Yaml.read? s).bind ofYaml? with
  | some o => .ok o
  | none => .error .options

/-- Read options from the bytes of a file, if there is one; otherwise, and if they are no text, this
is `Error.file`. -/
def readBytes (bytes? : Option ByteArray) : Except Error Options :=
  match bytes?.bind String.fromUTF8? with
  | some s => read s.toList
  | none => .error .file

/-- A line that names an option, `key`, and its `value`. -/
def line (key value : Text) : Text := key ++ ':' :: ' ' :: (value ++ ['\n'])

/-- The lines of the document for the options `o`, in the order of `keys`. -/
def lines (o : Options) : List Text :=
  [line displayStyleKey (boolText o.displayStyle),
    line wrapDelimitersKey (boolText o.wrapDelimiters),
    line sanitizeKey (boolText o.sanitize),
    line largeScaleKey (o.largeScale.text scaleLayout)]

/-- The document for the options `o`: its `lines` one after another. -/
def write (o : Options) : Text := o.lines.flatten

end MathNotes.Options
