import Mathlib.Data.Finmap

/-!
# Lib.Map

Finite maps with values of one type, as `Finmap`s: the lookup equations in the
`if`-form that `simp` can use, pruning by key, and how an unordered scan over the
entries reads in terms of lookups.
-/

namespace Ferminux.Lib

open Finmap

/-- A finite map from `K` to `V`. Iteration order is not observable. -/
abbrev Map (K V : Type) := Finmap fun _ : K => V

namespace Map

variable {K V : Type} [DecidableEq K]

lemma lookup_insert_eq (m : Map K V) (k k' : K) (v : V) :
    (m.insert k v).lookup k' = if k' = k then some v else m.lookup k' := by
  by_cases h : k' = k
  · subst h
    rw [if_pos rfl, lookup_insert]
  · rw [if_neg h, lookup_insert_of_ne _ h]

lemma lookup_erase_eq (m : Map K V) (k k' : K) :
    (m.erase k).lookup k' = if k' = k then none else m.lookup k' := by
  by_cases h : k' = k
  · subst h
    rw [if_pos rfl, lookup_erase]
  · rw [if_neg h, lookup_erase_ne h]

def prune (p : K → Bool) (m : Map K V) : Map K V where
  entries := m.entries.filter fun e => p e.1
  nodupKeys := by
    rw [← Multiset.nodup_keys]
    exact Multiset.nodup_of_le (Multiset.map_le_map (Multiset.filter_le _ _))
      (Multiset.nodup_keys.mpr m.nodupKeys)

lemma lookup_prune (p : K → Bool) (m : Map K V) (k : K) :
    (prune p m).lookup k = if p k then m.lookup k else none := by
  ext v
  rw [lookup_eq_some_iff]
  by_cases h : p k
  · rw [if_pos h, lookup_eq_some_iff]
    simp [prune, h]
  · rw [if_neg h]
    simp [prune, h]

instance (p : K → V → Bool) (m : Map K V) : Decidable (∃ e ∈ m.entries, p e.1 e.2 = true) :=
  Multiset.decidableExistsMultiset

/-- Some entry satisfies `p`: an unordered scan over the map. -/
def anyEntry (p : K → V → Bool) (m : Map K V) : Bool := decide (∃ e ∈ m.entries, p e.1 e.2 = true)

lemma anyEntry_iff {p : K → V → Bool} {m : Map K V} :
    anyEntry p m = true ↔ ∃ k v, m.lookup k = some v ∧ p k v = true := by
  rw [anyEntry, decide_eq_true_iff]
  constructor
  · rintro ⟨⟨k, v⟩, he, hp⟩
    exact ⟨k, v, lookup_eq_some_iff.mpr he, hp⟩
  · rintro ⟨k, v, hk, hp⟩
    exact ⟨⟨k, v⟩, lookup_eq_some_iff.mp hk, hp⟩

end Map

end Ferminux.Lib
