import MathNotes.Expr.Basic
import MathNotes.Line.Element
import MathNotes.Proofs.Grid.Shape

/-!
# What the check of an expression reports

Only matrices and vectors can have a defect, each by itself (`HasDefect`). So a tree is checked node
by node: all is well if no node has a defect, and otherwise the leftmost node that has one is
reported (`check_reports_first_defect`). That `check` passes no defect and goes no further than the
first one is the case of an operation, whose nodes are those of the left operand and then those of
the right one (`isFirstDefect_append`).
-/

namespace MathNotes.Expr

/-! ### Nodes and their defects -/

/-- The nodes of a tree, each in front of those below it, and those of the left operand in front of
those of the right one. -/
def nodes : Expr → List Expr
  | .operation op left right => .operation op left right :: (left.nodes ++ right.nodes)
  | .wrapped wrapper inner => .wrapped wrapper inner :: inner.nodes
  | e => [e]

/-- Nothing is wrong with the node at the top: the grid of a matrix has the shape `rows` by `cols`,
with a cell at all, and a vector has a cell. -/
def IsSound : Expr → Prop
  | .matrix rows cols cells => (0 < rows ∧ 0 < cols) ∧ cells.HasShape rows cols
  | .vector _ cells => cells ≠ []
  | _ => True

/-- What is wrong with the node at the top, by `Grid.HasDefect` for a matrix. -/
inductive HasDefect : Expr → GridDefect → Prop
  | matrix {rows cols : Nat} {cells : Grid} {defect : GridDefect}
    (h : Grid.HasDefect rows cols cells defect) : HasDefect (.matrix rows cols cells) defect
  | vector (orientation : Orientation) : HasDefect (.vector orientation []) .noCells

/-- Of the nodes in `row`, the first that has a defect has this one: those before it are sound. -/
def IsFirstDefect (row : List Expr) (defect : GridDefect) : Prop :=
  ∃ before node after, row = before ++ node :: after ∧ (∀ n ∈ before, n.IsSound) ∧
    node.HasDefect defect

theorem length_nodes (e : Expr) : e.nodes.length = e.nodeCount := by
  induction e with
  | operation op left right hleft hright =>
    rw [nodes, nodeCount, List.length_cons, List.length_append, hleft, hright]
    omega
  | wrapped wrapper inner hinner =>
    rw [nodes, nodeCount, List.length_cons, hinner, Nat.add_comm]
  | _ => rfl

variable {front back : List Expr} {node : Expr} {defect : GridDefect}

theorem not_isFirstDefect_nil : ¬ IsFirstDefect [] defect := by
  rintro ⟨before, node, after, h, -⟩
  simp at h

theorem isFirstDefect_cons :
    IsFirstDefect (node :: back) defect ↔
      node.HasDefect defect ∨ node.IsSound ∧ IsFirstDefect back defect := by
  constructor
  · rintro ⟨_ | ⟨n, before⟩, m, after, h, hbefore, hm⟩
    · obtain ⟨rfl, -⟩ := List.cons.inj h
      exact .inl hm
    · obtain ⟨rfl, rfl⟩ := List.cons.inj h
      obtain ⟨hn, hbefore⟩ := List.forall_mem_cons.mp hbefore
      exact .inr ⟨hn, before, m, after, rfl, hbefore, hm⟩
  · rintro (h | ⟨hn, before, m, after, rfl, hbefore, hm⟩)
    · exact ⟨[], node, back, rfl, by simp, h⟩
    · exact ⟨node :: before, m, after, rfl, List.forall_mem_cons.mpr ⟨hn, hbefore⟩, hm⟩

/-- The first defect of `front ++ back` is in `front`, or nothing is wrong there and it is in
`back`. -/
theorem isFirstDefect_append :
    IsFirstDefect (front ++ back) defect ↔
      IsFirstDefect front defect ∨ (∀ n ∈ front, n.IsSound) ∧ IsFirstDefect back defect := by
  induction front with
  | nil => simp [not_isFirstDefect_nil]
  | cons n front ih =>
    rw [List.cons_append, isFirstDefect_cons, isFirstDefect_cons, ih, List.forall_mem_cons,
      and_or_left, or_assoc, and_assoc]

theorem isFirstDefect_singleton : IsFirstDefect [node] defect ↔ node.HasDefect defect := by
  rw [isFirstDefect_cons, or_iff_left fun h => not_isFirstDefect_nil h.2]

/-- Behind a node that cannot have a defect, the first defect is that of `back`. -/
theorem isFirstDefect_cons_of_isSound (hsound : node.IsSound) (h : ¬ node.HasDefect defect) :
    IsFirstDefect (node :: back) defect ↔ IsFirstDefect back defect := by
  rw [isFirstDefect_cons, or_iff_right h, and_iff_right hsound]

/-! ### Operations -/

theorem check_operation_eq_ok_iff (op : Operator) (left right : Expr) :
    (operation op left right).check = .ok () ↔ left.check = .ok () ∧ right.check = .ok () := by
  rw [check]
  cases left.check with
  | error d => simp
  | ok _ => simp

theorem check_operation_eq_error_iff (op : Operator) (left right : Expr) :
    (operation op left right).check = .error defect ↔
      left.check = .error defect ∨ left.check = .ok () ∧ right.check = .error defect := by
  rw [check]
  cases left.check with
  | error d => simp
  | ok _ => simp

/-! ### The check goes node by node -/

theorem check_eq_ok_iff (e : Expr) : e.check = .ok () ↔ ∀ n ∈ e.nodes, n.IsSound := by
  induction e with
  | matrix rows cols cells =>
    show cells.check rows cols = .ok () ↔ ∀ n ∈ [matrix rows cols cells], n.IsSound
    rw [List.forall_mem_singleton, Grid.check_eq_ok_iff, ← Nat.pos_iff_ne_zero,
      ← Nat.pos_iff_ne_zero]
    rfl
  | vector orientation cells => cases cells <;> simp [check, nodes, IsSound]
  | operation op left right hleft hright =>
    show _ ↔ ∀ n ∈ operation op left right :: (left.nodes ++ right.nodes), n.IsSound
    rw [check_operation_eq_ok_iff, hleft, hright, List.forall_mem_cons, List.forall_mem_append]
    exact (and_iff_right trivial).symm
  | wrapped wrapper inner hinner =>
    show inner.check = .ok () ↔ ∀ n ∈ wrapped wrapper inner :: inner.nodes, n.IsSound
    rw [hinner, List.forall_mem_cons]
    exact (and_iff_right trivial).symm
  | _ => simp [check, nodes, IsSound]

theorem check_eq_error_iff (e : Expr) :
    e.check = .error defect ↔ IsFirstDefect e.nodes defect := by
  induction e with
  | matrix rows cols cells =>
    show cells.check rows cols = .error defect ↔ IsFirstDefect [matrix rows cols cells] defect
    rw [isFirstDefect_singleton, Grid.check_eq_error_iff]
    exact ⟨.matrix, fun | .matrix h => h⟩
  | vector orientation cells =>
    show _ ↔ IsFirstDefect [vector orientation cells] defect
    rw [isFirstDefect_singleton]
    cases cells with
    | nil =>
      show Except.error GridDefect.noCells = .error defect ↔ _
      rw [Except.error.injEq]
      exact ⟨fun h => h ▸ .vector orientation, fun | .vector _ => rfl⟩
    | cons cell cells => exact ⟨nofun, nofun⟩
  | operation op left right hleft hright =>
    show _ ↔ IsFirstDefect (operation op left right :: (left.nodes ++ right.nodes)) defect
    rw [check_operation_eq_error_iff, hleft, hright, check_eq_ok_iff,
      isFirstDefect_cons_of_isSound (by trivial) (by rintro ⟨⟩), isFirstDefect_append]
  | wrapped wrapper inner hinner =>
    show inner.check = .error defect ↔ IsFirstDefect (wrapped wrapper inner :: inner.nodes) defect
    rw [hinner, isFirstDefect_cons_of_isSound (by trivial) (by rintro ⟨⟩)]
  | _ =>
    show _ ↔ IsFirstDefect [_] defect
    rw [isFirstDefect_singleton]
    exact ⟨nofun, nofun⟩

/-- **The leftmost defect is reported.** A tree passes `check` iff nothing is wrong with any of its
`nodes`. Otherwise `check` reports the defect of the first node that has one: for a matrix the first
of the three things that can be wrong with it, down to the topmost row of another length, and for a
vector that it has no cell. A matrix in a line (`Element.matrix`) is checked as a matrix in a
tree. -/
theorem check_reports_first_defect (e : Expr) :
    e.nodes.length = e.nodeCount ∧
      (e.check = .ok () ↔ ∀ n ∈ e.nodes, n.IsSound) ∧
      (∀ defect, e.check = .error defect ↔ IsFirstDefect e.nodes defect) ∧
      ∀ rows cols cells,
        (Element.matrix rows cols cells).check = (matrix rows cols cells).check :=
  ⟨length_nodes e, check_eq_ok_iff e, fun _ => check_eq_error_iff e, fun _ _ _ => rfl⟩

/-- The vector on the right has a defect as well, and so would the row below. -/
example :
    (operation .plus (wrapped .norm (matrix 3 2 [[['1'], ['0']], [['0']], []]))
      (vector .row [])).check = .error (.rowLength 3 2 1 1) := rfl

end MathNotes.Expr
