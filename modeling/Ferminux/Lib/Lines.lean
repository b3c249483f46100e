import Mathlib.Tactic.Common

/-!
# Lib.Lines

Text files of lines, each closed by a separator: what splitting such a text returns, when
it ends with a complete line and when something unterminated follows.
-/

namespace Ferminux.Lib

open List

variable {β : Type} (sep : β)

/-- The text of a list of lines, each closed by `sep`. -/
def unlines (lines : List (List β)) : List β := (lines.map (· ++ [sep])).flatten

@[simp] lemma unlines_nil : unlines sep ([] : List (List β)) = [] := rfl

@[simp] lemma unlines_cons (line : List β) (lines : List (List β)) :
    unlines sep (line :: lines) = line ++ sep :: unlines sep lines := by
  simp [unlines]

@[simp] lemma unlines_append (lines lines' : List (List β)) :
    unlines sep (lines ++ lines') = unlines sep lines ++ unlines sep lines' := by
  simp [unlines]

variable [DecidableEq β] {sep} {lines : List (List β)}

lemma splitOn_cons_line {line : List β} (h : sep ∉ line) (rest : List β) :
    (line ++ sep :: rest).splitOn sep = line :: rest.splitOn sep := by
  refine splitOnP_append_cons_of_forall_mem ?_ sep (by simp) rest
  intro x hx
  exact beq_eq_false_iff_ne.mpr fun hxsep => h (hxsep ▸ hx)

lemma splitOn_unlines_append (h : ∀ line ∈ lines, sep ∉ line)
    (rest : List β) : (unlines sep lines ++ rest).splitOn sep = lines ++ rest.splitOn sep := by
  induction lines with
  | nil => rfl
  | cons line _ ih =>
    rw [unlines_cons, append_assoc, cons_append, splitOn_cons_line (h line mem_cons_self),
      ih fun line' hline' => h line' (mem_cons_of_mem _ hline'), cons_append]

lemma splitOn_unlines (h : ∀ line ∈ lines, sep ∉ line) :
    (unlines sep lines).splitOn sep = lines ++ [[]] := by
  have := splitOn_unlines_append h []
  simpa using this

end Ferminux.Lib
