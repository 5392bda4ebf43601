import MathNotes.Template.Basic

/-!
# Registries of templates

A `Registry` holds templates under their ids, in the order in which the ids were first registered,
and beside them an index that tells where the template with an id stands. A template registered
under an id that is there takes the place of the one before it (`register`).
-/

namespace MathNotes

/-- Templates, and where to find them by `index`. -/
structure Registry where
  templates : List Template
  /-- The positions of templates by id; of several under one id the first counts. -/
  index : List (Text × Nat)
  deriving DecidableEq

namespace Registry

/-- The registry without templates. -/
def empty : Registry := ⟨[], []⟩

/-- The position of the template with the given `id`, by the index. -/
def position? (r : Registry) (id : Text) : Option Nat := r.index.lookup id

/-- Register the template `t`, in place of the one with its id if there is one, otherwise at the
end. -/
def register (r : Registry) (t : Template) : Registry :=
  match r.position? t.id with
  | some i => { r with templates := r.templates.set i t }
  | none => ⟨r.templates ++ [t], (t.id, r.templates.length) :: r.index⟩

/-- Register the templates `ts` one after another. -/
def registerAll (r : Registry) (ts : List Template) : Registry := ts.foldl register r

/-- The template with the given `id`, at the position that the index tells. -/
def lookup (r : Registry) (id : Text) : Option Template :=
  (r.position? id).bind fun i => r.templates[i]?

/-- The ids of `templates`, in the order in which they were first registered. -/
def ids (r : Registry) : List Text := r.templates.map (·.id)

/-- The templates of the category `c`, in order. -/
def inCategory (r : Registry) (c : Template.Category) : List Template :=
  r.templates.filter fun t => t.category = c

/-- The number of templates. -/
def size (r : Registry) : Nat := r.templates.length

def isEmpty (r : Registry) : Bool := r.templates.isEmpty

/-- The markup of the template with the given `id`, its slots filled with `values`; nothing if there
is none. -/
def compile (r : Registry) (id : Text) (values : SlotValues) : Text :=
  match r.lookup id with
  | some t => t.compile values
  | none => []

end Registry

end MathNotes
