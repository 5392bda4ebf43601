import Mathlib.Algebra.GroupWithZero.Nat
import Mathlib.Data.List.DropRight
import MathNotes.Expr.Recorder

/-!
# What a recorder collects

A `Recorder` writes an expression piece by piece into a buffer that may hold anything. What it
writes is the markup of the expression and what it counts are its nodes, whatever was there before
(`add_eq`).

The main statement is about runs: `run_withCapacity_accounts` says of every run what the buffer
holds at its end and what the counts are. The buffer holds the markup, as a recorder made for the
purpose has it (`compile`), of what was written since the recorder last started over; the counts go
over the whole run, modulo the size of a word.
-/

namespace MathNotes.Recorder

open Text

/-! ### Writing one expression -/

/-- The recorder `r` with the text `s` and `count` nodes more. -/
def wrote (r : Recorder) (s : Text) (count : Nat) : Recorder :=
  { r with buffer := r.buffer ++ s, nodes := r.nodes + UInt64.ofNat count }

theorem wrote_wrote (r : Recorder) (s t : Text) (m n : Nat) :
    (r.wrote s m).wrote t n = r.wrote (s ++ t) (m + n) := by
  simp only [wrote, UInt64.ofNat_add, UInt64.add_assoc, List.append_assoc]

theorem push_eq (r : Recorder) (s : Text) : r.push s = r.wrote s 0 := by
  have hnodes : r.nodes + UInt64.ofNat 0 = r.nodes := UInt64.add_zero r.nodes
  rw [push, wrote, hnodes]

theorem wrote_nil (r : Recorder) : r.wrote [] 0 = r := by
  rw [← push_eq, push, List.append_nil]

theorem countNode_eq (r : Recorder) : r.countNode = r.wrote [] 1 := by
  rw [wrote, List.append_nil]
  rfl

theorem pushGroup_eq (r : Recorder) (mark content : Text) :
    r.pushGroup mark content = r.wrote (mark ++ group content) 0 := by
  simp only [pushGroup, push_eq, wrote_wrote, List.append_assoc]
  rfl

theorem intercalate_map_cons {α : Type} (separator : Text) (spell : α → Text) (x : α)
    (xs : List α) :
    List.intercalate separator ((x :: xs).map spell) =
      spell x ++ xs.flatMap fun y => separator ++ spell y := by
  induction xs generalizing x with
  | nil => rw [List.map_singleton, List.intercalate_singleton, List.flatMap_nil, List.append_nil]
  | cons y xs ih =>
    rw [List.map_cons, List.map_cons, List.intercalate_cons_cons, ← List.map_cons, ih y,
      List.flatMap_cons, List.append_assoc, List.append_assoc]

section Joined

variable {α : Type} {write : Recorder → α → Recorder} {spell : α → Text}

/-- Behind the first item `pushJoined` puts the `separator` before each. -/
theorem foldl_zipIdx_succ (hwrite : ∀ r x, write r x = r.wrote (spell x) 0) (separator : Text)
    (r : Recorder) (xs : List α) (i : Nat) :
    (xs.zipIdx (i + 1)).foldl
        (fun r x => write (if 0 < x.2 then r.push separator else r) x.1) r =
      r.wrote (xs.flatMap fun x => separator ++ spell x) 0 := by
  induction xs generalizing r i with
  | nil => rw [List.zipIdx_nil, List.foldl_nil, List.flatMap_nil, wrote_nil]
  | cons x xs ih =>
    rw [List.zipIdx_cons, List.foldl_cons, ih, if_pos i.succ_pos, hwrite, push_eq, wrote_wrote,
      wrote_wrote, List.flatMap_cons, List.append_assoc]

theorem pushJoined_eq (hwrite : ∀ r x, write r x = r.wrote (spell x) 0) (separator : Text)
    (r : Recorder) (xs : List α) :
    pushJoined write separator r xs = r.wrote (List.intercalate separator (xs.map spell)) 0 := by
  cases xs with
  | nil =>
    rw [pushJoined, List.zipIdx_nil, List.foldl_nil, List.map_nil, List.intercalate_nil, wrote_nil]
  | cons x xs =>
    rw [pushJoined, List.zipIdx_cons, List.foldl_cons, foldl_zipIdx_succ hwrite,
      if_neg (Nat.lt_irrefl 0), hwrite, wrote_wrote, intercalate_map_cons]

end Joined

theorem pushCells_eq (separator : Text) (r : Recorder) (cells : List Text) :
    pushJoined push separator r cells = r.wrote (List.intercalate separator cells) 0 := by
  have hcell (r : Recorder) (s : Text) : push r s = r.wrote (id s) 0 := push_eq r s
  rw [pushJoined_eq hcell, List.map_id]

theorem pushGrid_eq (r : Recorder) (cells : Grid) : r.pushGrid cells = r.wrote cells.markup 0 := by
  rw [pushGrid, pushJoined_eq (pushCells_eq Grid.cellSeparator), push_eq, push_eq, wrote_wrote,
    wrote_wrote]
  rfl

theorem pushVector_eq (r : Recorder) (orientation : Orientation) (cells : List Text) :
    r.pushVector orientation cells = r.wrote (Expr.vector orientation cells).markup 0 := by
  rw [pushVector, pushCells_eq, push_eq, push_eq, wrote_wrote, wrote_wrote]
  rfl

theorem pushBounds_eq (r : Recorder) (lower upper : Option Text) :
    r.pushBounds lower upper = r.wrote (Expr.boundsMarkup lower upper) 0 := by
  cases lower with
  | none => exact r.wrote_nil.symm
  | some lower =>
    cases upper with
    | none => exact r.wrote_nil.symm
    | some upper =>
      rw [pushBounds, pushGroup_eq, pushGroup_eq, wrote_wrote]
      rfl

theorem pushDifferential_eq (r : Recorder) (differential : Option Text) :
    r.pushDifferential differential = r.wrote (Expr.differentialMarkup differential) 0 := by
  match differential with
  | none => exact r.wrote_nil.symm
  | some [] => exact r.wrote_nil.symm
  | some (c :: rest) =>
    show (r.push " \\, d").push (c :: rest) = _
    rw [push_eq, push_eq, wrote_wrote]
    rfl

/-- Behind whatever `r` has it writes the markup of `e`, and it counts each of its nodes once. -/
theorem add_eq (r : Recorder) (e : Expr) : r.add e = r.wrote e.markup e.nodeCount := by
  induction e generalizing r with
  | symbol | number | identifier =>
    rw [add, countNode_eq, push_eq, wrote_wrote]
    rfl
  | matrix rows cols cells =>
    rw [add, countNode_eq, pushGrid_eq, wrote_wrote]
    rfl
  | vector orientation cells =>
    rw [add, countNode_eq, pushVector_eq, wrote_wrote]
    rfl
  | operation op left right ihl ihr =>
    -- the operands are written by recorders that have something already, hence the generalisation
    rw [add, countNode_eq, ihl, push_eq, push_eq, push_eq, ihr]
    simp only [wrote_wrote, List.append_assoc, Nat.add_zero]
    rfl
  | wrapped wrapper inner ih =>
    rw [add, countNode_eq, push_eq, ih, push_eq]
    simp only [wrote_wrote, Nat.add_zero]
    rfl
  | integral body lower upper differential =>
    rw [add, countNode_eq, push_eq, pushBounds_eq, push_eq, push_eq, pushDifferential_eq]
    simp only [wrote_wrote, List.append_assoc]
    rfl
  | fraction numerator denominator =>
    rw [add, countNode_eq, push_eq, pushGroup_eq, pushGroup_eq]
    simp only [wrote_wrote, List.append_assoc]
    rfl
  | power | subscript =>
    rw [add, countNode_eq, pushGroup_eq, pushGroup_eq]
    simp only [wrote_wrote]
    rfl

theorem compile_eq (e : Expr) : compile e = e.markup := by
  rw [compile, convert, add_eq]
  rfl

/-! ### What a run writes -/

/-- Whether the step goes on with what is there instead of starting over. -/
def Step.isAdd : Step → Bool
  | .add _ => true
  | _ => false

/-- The expression that the step writes, if it is not `reset`. -/
def Step.expr? : Step → Option Expr
  | .convert e | .add e => some e
  | .reset => none

/-- The expression that the step converts, if it is `convert`. -/
def Step.converted? : Step → Option Expr
  | .convert e => some e
  | _ => none

/-- The expressions that the `steps` write, in order. -/
def writtenExprs (steps : List Step) : List Expr := steps.filterMap Step.expr?

/-- The expressions that the `steps` convert, in order. -/
def convertedExprs (steps : List Step) : List Expr := steps.filterMap Step.converted?

/-- The expressions that are still there after the `steps`: the one that the latest step to start
over has written, unless it was `reset`, and those that were added since. -/
def recentExprs (steps : List Step) : List Expr :=
  writtenExprs ((steps.rdropWhile Step.isAdd).getLast?.toList ++ steps.rtakeWhile Step.isAdd)

theorem writtenExprs_append (steps rest : List Step) :
    writtenExprs (steps ++ rest) = writtenExprs steps ++ writtenExprs rest :=
  List.filterMap_append

theorem convertedExprs_append (steps rest : List Step) :
    convertedExprs (steps ++ rest) = convertedExprs steps ++ convertedExprs rest :=
  List.filterMap_append

/-- The step `s` adds what it writes to what was there, or to nothing if it starts over. -/
theorem recentExprs_concat (steps : List Step) (s : Step) :
    recentExprs (steps ++ [s]) =
      (if s.isAdd then recentExprs steps else []) ++ writtenExprs [s] := by
  by_cases hs : s.isAdd = true
  · rw [if_pos hs, recentExprs, List.rdropWhile_concat_pos _ _ _ hs,
      List.rtakeWhile_concat_pos _ _ _ hs, ← List.append_assoc, writtenExprs_append]
    rfl
  · rw [if_neg hs, recentExprs, List.rdropWhile_concat_neg _ _ _ hs,
      List.rtakeWhile_concat_neg _ _ _ hs, List.getLast?_concat, List.append_nil]
    rfl

/-! ### One step -/

theorem step_convert (r : Recorder) (e : Expr) :
    r.step (.convert e) = (r.reset.wrote e.markup e.nodeCount).countConversion := by
  rw [step, convert, add_eq]

theorem buffer_step (r : Recorder) (s : Step) :
    (r.step s).buffer =
      (if s.isAdd then r.buffer else []) ++ (writtenExprs [s]).flatMap Expr.markup := by
  cases s with
  | convert e =>
    rw [step_convert]
    exact (List.flatMap_singleton ..).symm
  | add e =>
    rw [step, add_eq]
    exact congrArg (r.buffer ++ ·) (List.flatMap_singleton ..).symm
  | reset => rfl

theorem conversions_step (r : Recorder) (s : Step) :
    (r.step s).conversions = r.conversions + UInt64.ofNat (convertedExprs [s]).length := by
  cases s with
  | convert e => rw [step_convert]; rfl
  | add e =>
    rw [step, add_eq]
    exact (UInt64.add_zero r.conversions).symm
  | reset => exact (UInt64.add_zero r.conversions).symm

theorem nodes_step (r : Recorder) (s : Step) :
    (r.step s).nodes = r.nodes + UInt64.ofNat ((writtenExprs [s]).map Expr.nodeCount).sum := by
  cases s with
  | convert e => rw [step_convert]; rfl
  | add e => rw [step, add_eq]; rfl
  | reset => exact (UInt64.add_zero r.nodes).symm

theorem written_step (r : Recorder) (s : Step) :
    (r.step s).written =
      r.written + UInt64.ofNat ((convertedExprs [s]).map fun e => e.markup.byteSize).sum := by
  cases s with
  | convert e => rw [step_convert]; rfl
  | add e =>
    rw [step, add_eq]
    exact (UInt64.add_zero r.written).symm
  | reset => exact (UInt64.add_zero r.written).symm

/-! ### Runs -/

/-- The state of `r` accounts for the `steps` of its life: the buffer for those since it last
started over, the counts for all, modulo `2 ^ 64`. -/
structure Accounts (r : Recorder) (steps : List Step) : Prop where
  buffer_eq : r.buffer = (recentExprs steps).flatMap Expr.markup
  conversions_eq : r.conversions = UInt64.ofNat (convertedExprs steps).length
  nodes_eq : r.nodes = UInt64.ofNat ((writtenExprs steps).map Expr.nodeCount).sum
  written_eq : r.written =
    UInt64.ofNat ((convertedExprs steps).map fun e => e.markup.byteSize).sum

theorem Accounts.step {r : Recorder} {steps : List Step} (h : r.Accounts steps) (s : Step) :
    (r.step s).Accounts (steps ++ [s]) where
  buffer_eq := by
    rw [buffer_step, recentExprs_concat, List.flatMap_append, h.buffer_eq]
    split <;> rfl
  conversions_eq := by
    rw [conversions_step, convertedExprs_append, List.length_append, UInt64.ofNat_add,
      h.conversions_eq]
  nodes_eq := by
    rw [nodes_step, writtenExprs_append, List.map_append, List.sum_append, UInt64.ofNat_add,
      h.nodes_eq]
  written_eq := by
    rw [written_step, convertedExprs_append, List.map_append, List.sum_append, UInt64.ofNat_add,
      h.written_eq]

theorem accounts_run (capacity : Nat) (steps : List Step) :
    (run (withCapacity capacity) steps).Accounts steps := by
  -- a run grows at its end, where the recorder is
  induction steps using List.reverseRecOn with
  | nil => exact ⟨rfl, rfl, rfl, rfl⟩
  | append_singleton steps s ih =>
    have hrun : run (withCapacity capacity) (steps ++ [s]) =
        (run (withCapacity capacity) steps).step s := List.foldl_concat ..
    rw [hrun]
    exact ih.step s

/-- **The accounts of a recorder.** However much room it is given and whatever it did before, the
`buffer` of a recorder holds the `compile` of the expressions written since it last started over
(`recentExprs`), one after another; and its counts are those of the conversions, of the nodes of all
expressions it has written and of the bytes of those it has converted, modulo `2 ^ 64`. And
`compile e` is `e.markup`. -/
theorem run_withCapacity_accounts :
    (∀ e : Expr, compile e = e.markup) ∧
    ∀ (capacity : Nat) (steps : List Step),
      let r := run (withCapacity capacity) steps
      let converted := convertedExprs steps
      r.buffer = (recentExprs steps).flatMap compile ∧
        r.conversions.toNat = converted.length % 2 ^ 64 ∧
        r.nodes.toNat = ((writtenExprs steps).map Expr.nodeCount).sum % 2 ^ 64 ∧
        r.written.toNat = (converted.map fun e => (compile e).byteSize).sum % 2 ^ 64 := by
  refine ⟨compile_eq, fun capacity steps => ?_⟩
  intro r converted
  have h : r.Accounts steps := accounts_run capacity steps
  have hcompile : compile = Expr.markup := funext compile_eq
  rw [hcompile, h.buffer_eq, h.conversions_eq, h.nodes_eq, h.written_eq]
  exact ⟨rfl, UInt64.toNat_ofNat', UInt64.toNat_ofNat', UInt64.toNat_ofNat'⟩

/-- Of a conversion, two additions, a reset and another addition the buffer holds the last. -/
example :
    let x := Expr.wrapped .squareRoot (.number ['2'])
    let steps := [.convert x, .add x, .add (.symbol ['y']), .reset, .add (.power ['é'] ['n'])]
    recentExprs steps = [.power ['é'] ['n']] ∧
      run {} steps = ⟨"{é}^{n}", 1, 6, 8⟩ := by
  decide

end MathNotes.Recorder
