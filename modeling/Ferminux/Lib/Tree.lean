import Mathlib.Tactic.Common

/-!
# Lib.Tree

A forest given by a **partial parent function**, with a height that a parent misses by
one. The ancestors of a node form a chain: there is at most one of each height, and of
two of them the lower one is an ancestor of the higher one.
-/

namespace Ferminux.Lib.Tree

variable {α : Type}

/-- The `k`-th ancestor. -/
def back (parent : α → Option α) : Nat → α → Option α
  | 0, a => some a
  | k + 1, a => (parent a).bind (back parent k)

/-- `p` is `a` or an ancestor of it. -/
def Ancestor (parent : α → Option α) (p a : α) : Prop := ∃ k, back parent k a = some p

/-- A parent is one lower than its child. -/
def Graded (parent : α → Option α) (height : α → Nat) : Prop :=
  ∀ a p, parent a = some p → height a = height p + 1

variable {parent : α → Option α} {k : Nat} {a q p : α}

lemma back_succ_iff :
    back parent (k + 1) a = some q ↔ ∃ p, parent a = some p ∧ back parent k p = some q :=
  Option.bind_eq_some_iff

lemma back_add {j : Nat} (hp : back parent j a = some p) :
    back parent (j + k) a = back parent k p := by
  induction j generalizing a with
  | zero =>
    cases hp
    rw [Nat.zero_add]
  | succ _ ih =>
    obtain ⟨b, hb, hback⟩ := back_succ_iff.mp hp
    rw [Nat.add_right_comm, back, hb, Option.bind_some, ih hback]

lemma Ancestor.refl (a : α) : Ancestor parent a a := ⟨0, rfl⟩

lemma Ancestor.trans (hp : Ancestor parent p q) (hq : Ancestor parent q a) :
    Ancestor parent p a := by
  obtain ⟨k, hk⟩ := hp
  obtain ⟨j, hj⟩ := hq
  exact ⟨j + k, by rw [back_add hj, hk]⟩

lemma Ancestor.of_parent (h : parent a = some p) : Ancestor parent p a :=
  ⟨1, back_succ_iff.mpr ⟨p, h, rfl⟩⟩

lemma ancestor_iff :
    Ancestor parent p a ↔ p = a ∨ ∃ q, parent a = some q ∧ Ancestor parent p q := by
  constructor
  · intro h
    obtain ⟨k, hk⟩ := h
    cases k with
    | zero =>
      cases hk
      exact .inl rfl
    | succ k =>
      obtain ⟨q, hq, hback⟩ := back_succ_iff.mp hk
      exact .inr ⟨q, hq, k, hback⟩
  · intro h
    rcases h with rfl | ⟨q, hq, hpq⟩
    · exact Ancestor.refl p
    · exact hpq.trans (Ancestor.of_parent hq)

lemma Ancestor.mono {parent' : α → Option α} (h : ∀ a p, parent a = some p → parent' a = some p)
    (hp : Ancestor parent p a) : Ancestor parent' p a := by
  obtain ⟨k, hk⟩ := hp
  refine ⟨k, ?_⟩
  induction k generalizing a with
  | zero => exact hk
  | succ _ ih =>
    obtain ⟨q, hq, hback⟩ := back_succ_iff.mp hk
    exact back_succ_iff.mpr ⟨q, h a q hq, ih hback⟩

variable {height : α → Nat} {e : α} {l : List α}

section

variable (hg : Graded parent height) {a p : α}
include hg

lemma Graded.height_back (h : back parent k a = some p) : height a = height p + k := by
  induction k generalizing a with
  | zero =>
    cases h
    rfl
  | succ _ ih =>
    obtain ⟨q, hq, hback⟩ := back_succ_iff.mp h
    rw [hg a q hq, ih hback, Nat.add_assoc]

lemma Ancestor.height_le (h : Ancestor parent p a) : height p ≤ height a := by
  obtain ⟨k, hk⟩ := h
  rw [hg.height_back hk]
  exact Nat.le_add_right _ _

/-- **Ancestors form a chain.** -/
theorem Ancestor.of_height_le {p q a : α} (hp : Ancestor parent p a)
    (hq : Ancestor parent q a) (h : height p ≤ height q) : Ancestor parent p q := by
  obtain ⟨i, hi⟩ := hp
  obtain ⟨j, hj⟩ := hq
  have hi' := hg.height_back hi
  have hj' := hg.height_back hj
  obtain ⟨k, rfl⟩ : ∃ k, i = j + k := ⟨i - j, by omega⟩
  exact ⟨k, by rw [← back_add hj, hi]⟩

lemma Ancestor.eq_of_height_eq
    (hp : Ancestor parent p a) (hq : Ancestor parent q a) (h : height p = height q) : p = q := by
  obtain ⟨k, hk⟩ := hp.of_height_le hg hq (Nat.le_of_eq h)
  have hk' := hg.height_back hk
  obtain rfl : k = 0 := by omega
  exact (Option.some.inj hk).symm

/-- Where every node above the ground has a parent, there is an ancestor of every lower
height. `good` marks the nodes this is known of. -/
lemma exists_ancestor (good : α → Prop)
    (hroot : ∀ a, good a → 0 < height a → ∃ p, parent a = some p ∧ good p) (ha : good a)
    {n : Nat} (hn : n ≤ height a) : ∃ p, Ancestor parent p a ∧ height p = n := by
  obtain ⟨k, hk⟩ := Nat.exists_eq_add_of_le hn
  induction k generalizing a with
  | zero => exact ⟨a, Ancestor.refl a, hk⟩
  | succ _ ih =>
    obtain ⟨q, hq, hgood⟩ := hroot a ha (by omega)
    have hheight := hg a q hq
    obtain ⟨p, hp, hpn⟩ := ih hgood (by omega) (by omega)
    exact ⟨p, hp.trans (Ancestor.of_parent hq), hpn⟩

/-! ### Paths -/

end

/-- `l` lists the nodes from `a` down to just above `e`. -/
inductive Path (parent : α → Option α) : α → List α → α → Prop
  | nil (a : α) : Path parent a [] a
  | cons {a p e : α} {l : List α} : parent a = some p → Path parent p l e → Path parent a (a :: l) e

lemma Path.append {m : α} {l' : List α} (h : Path parent a l m)
    (h' : Path parent m l' e) : Path parent a (l ++ l') e := by
  induction h with
  | nil => exact h'
  | cons hp _ ih => exact .cons hp (ih h')

lemma Path.ancestor_iff {x : α} (h : Path parent a l e) :
    Ancestor parent x a ↔ x ∈ l ∨ Ancestor parent x e := by
  induction h with
  | nil => simp
  | cons hp _ ih => rw [Tree.ancestor_iff, hp, List.mem_cons, or_assoc, ← ih]; simp

lemma Path.bottom (h : Path parent a l e) : Ancestor parent e a :=
  h.ancestor_iff.mpr (.inr (Ancestor.refl e))

lemma Path.height_eq (hg : Graded parent height)
    (h : Path parent a l e) : height a = height e + l.length := by
  induction h with
  | nil => rfl
  | cons hp _ ih => rw [hg _ _ hp, ih, List.length_cons, Nat.add_assoc]

end Ferminux.Lib.Tree
