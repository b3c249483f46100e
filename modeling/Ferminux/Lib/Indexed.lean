import Mathlib.Data.List.Nodup

/-!
# Lib.Indexed

A list without duplicates together with a **1-based index** of its elements, zero for everything
that is not in the list. An element is appended at the end, and removed by **swap-and-pop**: the
last element takes its place.
-/

namespace Ferminux.Lib

open Function List

variable {α : Type} {l : List α} {index : α → Nat} {x y : α} {i : Nat}

/-- `index` gives the places of the elements of `l`, counted from one. -/
def Indexed (l : List α) (index : α → Nat) : Prop := ∀ x i, l[i]? = some x ↔ index x = i + 1

/-- The last element takes the place of the `i`th. -/
def swapPop (l : List α) (i : Nat) (last : α) : List α :=
  (if i ≠ l.length - 1 then l.set i last else l).dropLast

namespace Indexed

lemma nil : Indexed ([] : List α) fun _ => 0 := by
  intro x i
  simp

lemma mem_iff (h : Indexed l index) : x ∈ l ↔ index x ≠ 0 := by
  rw [mem_iff_getElem?]
  constructor
  · rintro ⟨i, hi⟩
    rw [(h x i).mp hi]
    exact Nat.succ_ne_zero i
  · intro hx
    exact ⟨index x - 1, (h x _).mpr (by omega)⟩

lemma index_eq_zero (h : Indexed l index) (hx : x ∉ l) : index x = 0 :=
  not_not.mp fun hne => hx (h.mem_iff.mpr hne)

lemma nodup (h : Indexed l index) : l.Nodup := by
  refine nodup_iff_injective_get.mpr fun i j heq => Fin.ext ?_
  have hi : l[i.val]? = some (l.get i) := getElem?_eq_getElem i.isLt
  have hj : l[j.val]? = some (l.get i) := heq ▸ getElem?_eq_getElem j.isLt
  have hi' := (h _ _).mp hi
  have hj' := (h _ _).mp hj
  omega

variable [DecidableEq α]

lemma push (h : Indexed l index) (hx : x ∉ l) :
    Indexed (l ++ [x]) (update index x (l.length + 1)) := by
  intro y j
  by_cases hy : y = x
  · subst hy
    rw [update_self, getElem?_append]
    split
    · rename_i hj
      constructor
      · intro hget
        exact absurd (mem_of_getElem? hget) hx
      · omega
    · rename_i hj
      by_cases hlen : j = l.length
      · simp [hlen]
      · have hsub : j - l.length ≠ 0 := by omega
        simp only [getElem?_singleton, if_neg hsub]
        constructor
        · intro hget
          cases hget
        · omega
  · rw [update_of_ne hy, ← h y j, getElem?_append]
    split
    · rfl
    · rename_i hj
      rw [getElem?_eq_none (Nat.le_of_not_lt hj)]
      by_cases hlen : j - l.length = 0
      · simp [hlen, Ne.symm hy]
      · simp [getElem?_singleton, if_neg hlen]

end Indexed

lemma getElem?_swapPop {last : α} (j : Nat) : (swapPop l i last)[j]? =
      if j < l.length - 1 then if j = i then some last else l[j]? else none := by
  have hlen : ((if i ≠ l.length - 1 then l.set i last else l).dropLast).length = l.length - 1 := by
    split <;> simp
  by_cases hj : j < l.length - 1
  · rw [if_pos hj, swapPop, getElem?_eq_getElem (by rwa [hlen]), getElem_dropLast]
    by_cases hend : i = l.length - 1
    · have hne : j ≠ i := by omega
      simp [hend, if_neg (hend ▸ hne), getElem?_eq_getElem (Nat.lt_of_lt_of_le hj (Nat.sub_le _ _))]
    · simp only [if_pos hend, getElem_set, ne_eq]
      by_cases hji : j = i
      · simp [hji]
      · simp [if_neg hji, Ne.symm hji, getElem?_eq_getElem (Nat.lt_of_lt_of_le hj (Nat.sub_le _ _))]
  · rw [if_neg hj, swapPop]
    exact getElem?_eq_none (by omega)

/-- **Swap-and-pop** removes one element, and no other. -/
theorem Indexed.swapPop [DecidableEq α] {last : α} (h : Indexed l index) (hx : index x = i + 1)
    (hlast : l[l.length - 1]? = some last) : Indexed (swapPop l i last)
      (update (if i ≠ l.length - 1 then update index last (i + 1) else index)
        x 0) := by
  have hget := (h x i).mpr hx
  have hi : i < l.length := (List.getElem?_eq_some_iff.mp hget).1
  have hindex := (h last _).mp hlast
  intro y j
  rw [getElem?_swapPop]
  by_cases hy : y = x
  · -- the element is gone
    subst hy
    rw [update_self]
    refine ⟨fun hj => ?_, by omega⟩
    split_ifs at hj with hlt hji
    · cases hj
      omega
    · have := (h y j).mp hj
      omega
  · rw [update_of_ne hy]
    have hne : index y ≠ i + 1 := by
      intro heq
      have hget' := (h y i).mpr heq
      rw [hget] at hget'
      exact hy (Option.some.inj hget').symm
    -- beyond the new end there was only the last element
    have hbeyond : ¬ j < l.length - 1 → index y = j + 1 → y = last := by
      intro hj heq
      have hy' := (h y j).mpr heq
      have hlt := (List.getElem?_eq_some_iff.mp hy').1
      obtain rfl : j = l.length - 1 := by omega
      exact Option.some.inj (hy'.symm.trans hlast)
    by_cases hend : i = l.length - 1
    · rw [if_neg (not_not.mpr hend)]
      by_cases hj : j < l.length - 1
      · rw [if_pos hj, if_neg (by omega : j ≠ i)]
        exact h y j
      · rw [if_neg hj]
        refine ⟨fun hnone => absurd hnone (by simp), fun heq => ?_⟩
        rw [hbeyond hj heq] at hne
        omega
    · rw [if_pos hend]
      by_cases hyl : y = last
      · subst hyl
        rw [update_self]
        by_cases hj : j < l.length - 1
        · rw [if_pos hj]
          by_cases hji : j = i
          · simp [hji]
          · rw [if_neg hji, h y j]
            omega
        · rw [if_neg hj]
          exact ⟨fun hnone => absurd hnone (by simp), by omega⟩
      · rw [update_of_ne hyl]
        by_cases hj : j < l.length - 1
        · rw [if_pos hj]
          by_cases hji : j = i
          · rw [if_pos hji, hji]
            exact ⟨fun heq => absurd (Option.some.inj heq).symm hyl, fun heq => absurd heq hne⟩
          · rw [if_neg hji]
            exact h y j
        · rw [if_neg hj]
          exact ⟨fun hnone => absurd hnone (by simp), fun heq => absurd (hbeyond hj heq) hyl⟩

lemma Indexed.mem_swapPop [DecidableEq α] {last : α} (h : Indexed l index)
    (hx : index x = i + 1) (hlast : l[l.length - 1]? = some last) :
    y ∈ Lib.swapPop l i last ↔ y ∈ l ∧ y ≠ x := by
  rw [(h.swapPop hx hlast).mem_iff, h.mem_iff]
  by_cases hy : y = x
  · simp [hy]
  · rw [update_of_ne hy]
    have hindex := (h last _).mp hlast
    split
    · by_cases hyl : y = last
      · subst hyl
        rw [update_self, hindex]
        simp [hy]
      · simp [update_of_ne hyl, hy]
    · simp [hy]

end Ferminux.Lib
