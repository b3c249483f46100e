import Mathlib.Algebra.BigOperators.Intervals
import Mathlib.Tactic.Ring

/-!
# Lib.Sums

Sums over a table of which one entry changes, phrased without subtraction: what the entry gains,
the sum gains.
-/

namespace Ferminux.Lib

open Function Finset

variable {ι α : Type} [DecidableEq ι]

lemma sum_update_add {s : Finset ι} {i : ι} (hi : i ∈ s) (p : α → Nat) (f : ι → α) (x : α) :
    ∑ j ∈ s, p (update f i x j) + p (f i) = ∑ j ∈ s, p (f j) + p x := by
  have hrest : ∑ j ∈ s.erase i, p (update f i x j) = ∑ j ∈ s.erase i, p (f j) :=
    sum_congr rfl fun j hj => by rw [update_of_ne (ne_of_mem_erase hj)]
  rw [← add_sum_erase _ _ hi, ← add_sum_erase _ (fun j => p (f j)) hi, update_self, hrest]
  ring

lemma sum_update [Fintype ι] (f : ι → Nat) (i : ι) (n : Nat) :
    ∑ j, update f i n j + f i = ∑ j, f j + n :=
  sum_update_add (mem_univ i) id f n

lemma sum_update_succ (n : Nat) (p : α → Nat) (f : Nat → α) (x : α) :
    ∑ j ∈ Finset.Icc 1 (n + 1), p (update f (n + 1) x j) = ∑ j ∈ Finset.Icc 1 n, p (f j) + p x := by
  rw [sum_Icc_succ_top (Nat.succ_le_succ (Nat.zero_le _)), update_self]
  congr 1
  refine sum_congr rfl fun j hj => ?_
  have hle := (mem_Icc.mp hj).2
  rw [update_of_ne (by omega)]

end Ferminux.Lib
