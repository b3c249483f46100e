import Mathlib.Algebra.GroupWithZero.Nat
import Mathlib.Algebra.Order.BigOperators.Group.List
import Mathlib.Algebra.Order.Group.Nat
import Mathlib.Data.List.Sort

/-!
# Lib.Table

Finite maps that keep the order in which their keys were first written: what a
JavaScript `Map` is, and what a database table with a primary key is when its rows
are read in the order of insertion. A key occurs in at most one row, which is a
field of the structure.

Writing has two forms. `upsert` writes one row, computing the new value from the
old one if there is one (an insert with a conflict rule); `modify` changes a row
that exists and does nothing otherwise (an update with a condition on the key).
-/

namespace Ferminux.Lib

open Function Option List Prod

/-- A finite map from `K` to `V` with its rows in order of first insertion. -/
structure Table (K V : Type) where
  rows : List (K × V)
  nodup : (rows.map Prod.fst).Nodup

namespace Table

variable {K V : Type} {k : K} {v : V} (t : Table K V)

instance [DecidableEq K] [DecidableEq V] : DecidableEq (Table K V) := fun a b =>
  decidable_of_iff (a.rows = b.rows) ⟨fun h => by cases a; cases b; cases h; rfl, congrArg rows⟩

def empty : Table K V := ⟨[], List.nodup_nil⟩

/-- A query that filters, orders and limits the rows. -/
lemma nodup_take_sorted (p : K × V → Bool) (r : K × V → K × V → Prop) [DecidableRel r]
    (n : Nat) : ((((t.rows.filter p).insertionSort r).take n).map fst).Nodup := by
  rw [map_take]
  refine List.Nodup.sublist (take_sublist ..) ?_
  refine ((perm_insertionSort _ _).map fst).nodup_iff.mpr ?_
  exact t.nodup.sublist (filter_sublist.map fst)

instance : Inhabited (Table K V) := ⟨empty⟩

def values (t : Table K V) : List V := t.rows.map Prod.snd

def size (t : Table K V) : Nat := t.rows.length

lemma size_eq_sum : t.size = (t.values.map fun _ => 1).sum := by
  simp [size, values, comp_def]

/-! ### Rows as lists -/

section Rows

variable [DecidableEq K]

/-- The value behind the first row with key `k`. -/
def getRow (k : K) : List (K × V) → Option V
  | [] => none
  | (k', v) :: rest => if k' = k then some v else getRow k rest

/-- Write the row of `k` in its place, or behind all others if there is none. -/
def upsertRow (k : K) (f : Option V → V) : List (K × V) → List (K × V)
  | [] => [(k, f none)]
  | (k', v) :: rest => if k' = k then (k', f (some v)) :: rest else (k', v) :: upsertRow k f rest

/-- Change the row of `k`, if there is one. -/
def modifyRow (k : K) (f : V → V) : List (K × V) → List (K × V)
  | [] => []
  | (k', v) :: rest => if k' = k then (k', f v) :: rest else (k', v) :: modifyRow k f rest

lemma keys_modifyRow (k : K) (f : V → V) (rows : List (K × V)) :
    (modifyRow k f rows).map fst = rows.map fst := by
  induction rows with
  | nil => rfl
  | cons row _ ih =>
    obtain ⟨k', v⟩ := row
    unfold modifyRow
    split <;> simp [ih]

lemma keys_upsertRow (k : K) (f : Option V → V) (rows : List (K × V)) :
    (upsertRow k f rows).map fst =
      if k ∈ rows.map fst then rows.map fst else rows.map fst ++ [k] := by
  induction rows with
  | nil => rfl
  | cons row _ ih =>
    obtain ⟨k', v⟩ := row
    unfold upsertRow
    by_cases hk : k' = k
    · simp [hk]
    · have hk' : k ≠ k' := fun h => hk h.symm
      simp only [hk, if_false, map_cons, ih, mem_cons, hk', false_or]
      split <;> rfl

lemma getRow_eq_some {rows : List (K × V)} (hn : (rows.map fst).Nodup) :
    getRow k rows = some v ↔ (k, v) ∈ rows := by
  induction rows with
  | nil => simp [getRow]
  | cons row rest ih =>
    obtain ⟨k', v'⟩ := row
    rw [map_cons, nodup_cons] at hn
    unfold getRow
    by_cases hk : k' = k
    · subst hk
      have hrest : (k', v) ∉ rest := fun h => hn.1 (mem_map.mpr ⟨_, h, rfl⟩)
      simp [hrest, eq_comm]
    · have hk' : k ≠ k' := fun h => hk h.symm
      simp [hk, hk', ih hn.2]

lemma getRow_upsertRow (k k' : K) (f : Option V → V) (rows : List (K × V)) :
    getRow k' (upsertRow k f rows) =
      if k' = k then some (f (getRow k rows)) else getRow k' rows := by
  induction rows with
  | nil => simp [upsertRow, getRow, eq_comm]
  | cons row _ ih =>
    obtain ⟨k0, v⟩ := row
    unfold upsertRow
    by_cases hk : k0 = k
    · subst hk
      by_cases hk' : k' = k0
      · simp [getRow, hk']
      · simp [getRow, hk', Ne.symm hk']
    · by_cases hk' : k' = k
      · subst hk'
        simp [getRow, hk, ih]
      · simp [getRow, hk, hk', ih]

lemma getRow_modifyRow (k k' : K) (f : V → V) (rows : List (K × V)) :
    getRow k' (modifyRow k f rows) = if k' = k then (getRow k rows).map f else getRow k' rows := by
  induction rows with
  | nil => simp [modifyRow, getRow]
  | cons row _ ih =>
    obtain ⟨k0, v⟩ := row
    unfold modifyRow
    by_cases hk : k0 = k
    · subst hk
      by_cases hk' : k' = k0
      · simp [getRow, hk']
      · simp [getRow, hk', Ne.symm hk']
    · by_cases hk' : k' = k
      · subst hk'
        simp [getRow, hk, ih]
      · simp [getRow, hk, hk', ih]

end Rows

/-! ### Operations -/

variable [DecidableEq K] {t} {key : V → K} {f : Option V → V}

def get (t : Table K V) (k : K) : Option V := getRow k t.rows

/-- Write the row of `k`; `f` computes its value from the old one, if any. -/
def upsert (t : Table K V) (k : K) (f : Option V → V) : Table K V where
  rows := upsertRow k f t.rows
  nodup := by
    rw [keys_upsertRow]
    split
    · exact t.nodup
    · next h => exact List.Nodup.append t.nodup (List.nodup_singleton k) (by simpa using h)

def set (t : Table K V) (k : K) (v : V) : Table K V := t.upsert k fun _ => v

def modify (t : Table K V) (k : K) (f : V → V) : Table K V where
  rows := modifyRow k f t.rows
  nodup := by
    rw [keys_modifyRow]
    exact t.nodup

def mapRows (t : Table K V) (f : K → V → V) : Table K V where
  rows := t.rows.map fun row => (row.1, f row.1 row.2)
  nodup := by
    rw [List.map_map]
    exact t.nodup

def sum (t : Table K V) (g : K → V → Nat) : Nat := (t.rows.map fun row => g row.1 row.2).sum

@[simp]
lemma get_empty (k : K) : (empty : Table K V).get k = none := rfl

lemma get_upsert (k k' : K) (f : Option V → V) :
    (t.upsert k f).get k' = if k' = k then some (f (t.get k)) else t.get k' :=
  getRow_upsertRow k k' f t.rows

lemma get_set (k k' : K) (v : V) :
    (t.set k v).get k' = if k' = k then some v else t.get k' :=
  getRow_upsertRow k k' (fun _ => v) t.rows

lemma get_modify (k k' : K) (f : V → V) :
    (t.modify k f).get k' = if k' = k then (t.get k).map f else t.get k' :=
  getRow_modifyRow k k' f t.rows

lemma get_mapRows (k : K) (f : K → V → V) : (t.mapRows f).get k = (t.get k).map (f k) := by
  simp only [get, mapRows]
  induction t.rows with
  | nil => rfl
  | cons row rest ih =>
    obtain ⟨k', v⟩ := row
    simp only [map_cons, getRow]
    split
    · next heq =>
      subst heq
      rfl
    · exact ih

lemma get_eq_some : t.get k = some v ↔ (k, v) ∈ t.rows :=
  getRow_eq_some t.nodup

lemma mem_values : v ∈ t.values ↔ ∃ k, t.get k = some v := by
  simp [values, get_eq_some]

omit [DecidableEq K] in
lemma sum_mapRows (f : K → V → V) (g : K → V → Nat) :
    (t.mapRows f).sum g = t.sum fun k v => g k (f k v) := by
  simp [sum, mapRows, comp_def]

lemma sum_le_sum {g g' : K → V → Nat}
    (h : ∀ k v, t.get k = some v → g k v ≤ g' k v) : t.sum g ≤ t.sum g' :=
  List.sum_le_sum fun row hrow => h row.1 row.2 (get_eq_some.mpr hrow)

omit [DecidableEq K] in
lemma sum_add (g g' : K → V → Nat) : t.sum (fun k v => g k v + g' k v) = t.sum g + t.sum g' := by
  simp only [sum]
  induction t.rows with
  | nil => rfl
  | cons _ _ ih =>
    simp only [map_cons, sum_cons, ih]
    omega

lemma upsertRow_of_new {rows : List (K × V)} (h : getRow k rows = none) :
    upsertRow k f rows = rows ++ [(k, f none)] := by
  induction rows with
  | nil => rfl
  | cons row rest ih =>
    obtain ⟨k', v'⟩ := row
    unfold getRow at h
    unfold upsertRow
    split at h
    · cases h
    · next hne => rw [if_neg hne, ih h, cons_append]

lemma sum_set_of_new (h : t.get k = none) (g : K → V → Nat) :
    (t.set k v).sum g = t.sum g + g k v := by
  simp only [sum, set, upsert, upsertRow_of_new h]
  simp

lemma sum_exchange (h : t.get k = some v) {g g' : K → V → Nat}
    (hg : ∀ k' v', k' ≠ k → g' k' v' = g k' v') : t.sum g' + g k v = t.sum g + g' k v := by
  have hrow := get_eq_some.mp h
  clear h
  obtain ⟨rows, hnodup⟩ := t
  simp only [sum]
  induction rows with
  | nil => cases hrow
  | cons row rest ih =>
    rw [map_cons, nodup_cons] at hnodup
    simp only [map_cons, sum_cons]
    rcases mem_cons.mp hrow with rfl | hrest
    · have hsame : (rest.map fun row => g' row.1 row.2) = rest.map fun row => g row.1 row.2 := by
        refine map_congr_left fun row hmem => hg _ _ fun heq => hnodup.1 ?_
        exact mem_map.mpr ⟨row, hmem, heq⟩
      rw [hsame]
      dsimp only
      omega
    · have hne : row.1 ≠ k := fun heq =>
        hnodup.1 (heq ▸ mem_map_of_mem (f := fst) hrest)
      have := ih hnodup.2 hrest
      rw [hg _ _ hne]
      omega

lemma upsert_congr {g : Option V → V} (h : f (t.get k) = g (t.get k)) :
    t.upsert k f = t.upsert k g := by
  have hrows : ∀ rows : List (K × V), f (getRow k rows) = g (getRow k rows) →
      upsertRow k f rows = upsertRow k g rows := by
    intro rows
    induction rows with
    | nil => intro h; simpa [upsertRow, getRow] using h
    | cons row _ ih =>
      obtain ⟨k', v⟩ := row
      intro h
      unfold upsertRow
      by_cases hk : k' = k
      · simp only [hk, if_true]
        simp only [getRow, hk, if_true] at h
        rw [h]
      · simp only [hk, if_false]
        simp only [getRow, hk, if_false] at h
        rw [ih h]
  have := hrows t.rows h
  unfold upsert
  simp [this]

lemma upsert_eq_self (hget : t.get k = some v) (hf : f (some v) = v) : t.upsert k f = t := by
  have hrows : ∀ rows : List (K × V), getRow k rows = some v → upsertRow k f rows = rows := by
    intro rows
    induction rows with
    | nil => intro h; cases h
    | cons row _ ih =>
      obtain ⟨k', v'⟩ := row
      intro h
      unfold upsertRow
      by_cases hk : k' = k
      · simp only [getRow, hk, if_true, some.injEq] at h
        simp [hk, h, hf]
      · simp only [getRow, hk, if_false] at h
        simp [hk, ih h]
  unfold upsert
  simp [hrows t.rows hget]

/-- **Sums over the values**: a write takes the old value out and puts the new one in. -/
theorem sum_upsert (g : V → Nat) (t : Table K V) (k : K) (f : Option V → V) :
    ((t.upsert k f).values.map g).sum + ((t.get k).map g).getD 0 =
      (t.values.map g).sum + g (f (t.get k)) := by
  have hrows : ∀ rows : List (K × V),
      ((upsertRow k f rows).map (g ∘ snd)).sum + ((getRow k rows).map g).getD 0 =
        (rows.map (g ∘ snd)).sum + g (f (getRow k rows)) := by
    intro rows
    induction rows with
    | nil => simp [upsertRow, getRow]
    | cons row =>
      obtain ⟨k', v⟩ := row
      unfold upsertRow getRow
      by_cases hk : k' = k
      · simp only [hk, if_true, map_cons, sum_cons, comp_apply, map_some, getD_some]
        omega
      · simp only [hk, if_false, map_cons, sum_cons]
        omega
  have := hrows t.rows
  simpa [values, upsert, get] using this

lemma size_upsert_of_new (h : t.get k = none) : (t.upsert k f).size = t.size + 1 := by
  have := sum_upsert (fun _ => 1) t k f
  simp only [h, map_none, getD_none] at this
  rw [size_eq_sum, size_eq_sum]
  exact this

/-! ### Rows that hold their key -/

/-- Every value stands under the key that `key` reads off it. -/
def Keyed (key : V → K) (t : Table K V) : Prop := ∀ k v, t.get k = some v → key v = k

lemma Keyed.upsert (h : t.Keyed key)
    (hnew : key (f none) = k) (hold : ∀ v, key v = k → key (f (some v)) = k) :
    (t.upsert k f).Keyed key := by
  intro k' v hv
  rw [get_upsert] at hv
  split at hv
  · next heq =>
    cases hget : t.get k with
    | none =>
      rw [hget] at hv
      cases hv
      rw [heq, hnew]
    | some old =>
      rw [hget] at hv
      cases hv
      rw [heq, hold old (h k old hget)]
  · exact h k' v hv

lemma Keyed.modify (h : t.Keyed key) {f : V → V}
    (hf : ∀ v, key (f v) = key v) : (t.modify k f).Keyed key := by
  intro k' v hv
  rw [get_modify] at hv
  split at hv
  · next heq =>
    obtain ⟨old, hold, rfl⟩ := map_eq_some_iff.mp hv
    rw [hf, h k old hold, heq]
  · exact h k' v hv

lemma Keyed.mem_values (h : t.Keyed key) : v ∈ t.values ↔ t.get (key v) = some v := by
  rw [Table.mem_values]
  constructor
  · rintro ⟨k, hk⟩
    rw [h k v hk]
    exact hk
  · exact fun hv => ⟨key v, hv⟩

lemma Keyed.nodup_keys (h : t.Keyed key) : (t.values.map key).Nodup := by
  have hkeys : t.values.map key = t.rows.map fst := by
    rw [values, List.map_map]
    refine map_congr_left fun row hrow => ?_
    exact h row.1 row.2 (get_eq_some.mpr hrow)
  exact hkeys ▸ t.nodup

lemma Keyed.nodup_values (h : t.Keyed key) : t.values.Nodup :=
  List.Nodup.of_map key h.nodup_keys


end Table

end Ferminux.Lib
