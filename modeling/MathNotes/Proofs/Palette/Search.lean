import Mathlib.Data.List.Basic
import MathNotes.Palette
import MathNotes.Proofs.Text.Lowercase

/-!
# Searching the palette

What `search` finds is in the order of display (`search_sublist_commands`), and a longer query is
answered by fewer commands (`search_sublist_search`). A command answers if the query in lower case
is part of one of its texts in lower case, so this would be plain if `q <:+: r` gave
`q.lowercase <:+: r.lowercase`. It does not, because of the capital sigma, which the palette does
hold; but the sigma stands alone there (`isPlain_of_mem_commands`).
-/

namespace MathNotes

open Text

/-- The sigmas are plain, in the sense of `HasPlainSigmas`, in all texts in which `c` is searched
for. -/
structure Command.IsPlain (c : Command) : Prop where
  name : HasPlainSigmas c.name.lowercase
  description : HasPlainSigmas c.description.lowercase
  category : HasPlainSigmas c.category.name

theorem Command.isPlain_iff (c : Command) :
    c.IsPlain ↔ HasPlainSigmas c.name.lowercase ∧ HasPlainSigmas c.description.lowercase ∧
      HasPlainSigmas c.category.name :=
  ⟨fun h => ⟨h.name, h.description, h.category⟩, fun ⟨hn, hd, hc⟩ => ⟨hn, hd, hc⟩⟩

instance : DecidablePred Command.IsPlain := fun c => decidable_of_iff _ c.isPlain_iff.symm

theorem Command.answers_iff (query : Text) (c : Command) :
    answers query c = true ↔ query <:+: c.name.lowercase ∨ query <:+: c.description.lowercase ∨
      query <:+: c.category.name := by
  rw [answers, Bool.or_eq_true, Bool.or_eq_true, occursIn_iff, occursIn_iff, occursIn_iff, or_assoc]

/-- If `c` answers the query `r`, it answers every part `q <:+: r` of it. -/
theorem Command.IsPlain.answers_of_isInfix {c : Command} (hc : c.IsPlain) {q r : Text}
    (h : q <:+: r) (hr : answers r.lowercase c = true) : answers q.lowercase c = true := by
  rw [answers_iff] at hr ⊢
  exact hr.imp (lowercase_infix_of_isInfix hc.name h)
    (Or.imp (lowercase_infix_of_isInfix hc.description h)
      (lowercase_infix_of_isInfix hc.category h))

namespace Palette

theorem isPlain_of_mem_commands : ∀ c ∈ commands, c.IsPlain := by decide +kernel

theorem search_sublist_commands (query : Text) : (search query).Sublist commands := by
  unfold search
  split
  · exact .refl _
  · exact List.filter_sublist

theorem search_nil : search [] = commands := rfl

theorem search_of_ne_nil {query : Text} (h : query ≠ []) :
    search query = commands.filter (Command.answers query.lowercase) := by
  rw [search, if_neg (by simpa using h)]

theorem search_sublist_search {q r : Text} (h : q <:+: r) : (search r).Sublist (search q) := by
  by_cases hq : q = []
  · -- all commands are found by the empty query
    rw [hq, search_nil]
    exact search_sublist_commands r
  · have hr : r ≠ [] := by
      rintro rfl
      exact hq (List.infix_nil.mp h)
    rw [search_of_ne_nil hq, search_of_ne_nil hr]
    have hagain : commands.filter (Command.answers r.lowercase) =
        (commands.filter (Command.answers q.lowercase)).filter (Command.answers r.lowercase) := by
      rw [List.filter_filter]
      refine List.filter_congr fun c hc => ?_
      cases hanswers : Command.answers r.lowercase c with
      | false => rfl
      | true => rw [(isPlain_of_mem_commands c hc).answers_of_isInfix h hanswers, Bool.true_and]
    rw [hagain]
    exact List.filter_sublist

/-- **Typing more never adds commands.** What `search` finds is a sublist of `commands`, and if
`q <:+: r`, then `search r` is a sublist of `search q`. -/
theorem search_sublist_commands_and_search :
    (∀ query, (search query).Sublist commands) ∧
      ∀ q r, q <:+: r → (search r).Sublist (search q) :=
  ⟨search_sublist_commands, fun _ _ => search_sublist_search⟩

/-- The capital sigma finds the command for the sum, and so does the sigma with what stands around
it there, a space and a bracket. -/
theorem search_sublist_search_sum :
    let sum : Command :=
      .symbol "symbol-sigma" "sigma" "Insert \u03a3 (summation) symbol" "\u03a3"
    let q : Text := "\u03a3".toList
    let r : Text := "T \u03a3 (SUM".toList
    q <:+: r ∧ (search r).Sublist (search q) ∧ sum ∈ search r := by
  intro sum q r
  have h : q <:+: r := ⟨"T ".toList, " (SUM".toList, rfl⟩
  have hsum : sum ∈ commands := List.mem_of_getElem? (i := 15) rfl
  have hanswers : Command.answers r.lowercase sum = true := by decide +kernel
  refine ⟨h, search_sublist_commands_and_search.2 q r h, ?_⟩
  rw [search_of_ne_nil (by decide)]
  exact List.mem_filter.mpr ⟨hsum, hanswers⟩

end Palette

end MathNotes
