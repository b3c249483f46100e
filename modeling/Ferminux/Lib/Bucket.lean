import Mathlib.Algebra.GroupWithZero.Nat
import Mathlib.Data.List.Dedup

/-!
# Lib.Bucket

A **leaky bucket** against the history of what was taken from it. The bucket holds what was
used of a cap when it was looked at last, and drains by at most the cap in one window of time;
how exactly it drains is left open.

`Metered` ties the bucket to its grants, of which each raises the level (`Metered.grant`). What is
granted in an interval is at most the cap, and what drains in it (`Metered.bounded`).
-/

namespace Ferminux.Lib

open List Nat

/-- Something that was taken from the bucket. -/
structure Grant (L : Type) where
  time : Nat
  amount : Nat
  label : L

variable {L : Type}

/-- What was granted from `s` to `e`. -/
def volume (grants : List (Grant L)) (s e : Nat) : Nat :=
  ((grants.filter fun g => s ≤ g.time ∧ g.time ≤ e).map Grant.amount).sum

section Volume

variable {g : Grant L} {grants : List (Grant L)} {s e u : Nat}

lemma volume_cons_of_mem (hs : s ≤ g.time) (he : g.time ≤ e) :
    volume (g :: grants) s e = g.amount + volume grants s e := by
  simp [volume, hs, he]

lemma volume_cons_of_lt (h : g.time < s ∨ e < g.time) :
    volume (g :: grants) s e = volume grants s e := by
  have hnot : ¬ (s ≤ g.time ∧ g.time ≤ e) := by omega
  simp [volume, hnot]

lemma volume_eq_zero (hlatest : ∀ g ∈ grants, g.time ≤ u) (hs : u < s) : volume grants s e = 0 := by
  induction grants with
  | nil => rfl
  | cons g _ ih =>
    have hg := hlatest g mem_cons_self
    rw [volume_cons_of_lt (.inl (by omega))]
    exact ih fun g' hg' => hlatest g' (mem_cons_of_mem g hg')

lemma volume_eq_of_latest (hlatest : ∀ g ∈ grants, g.time ≤ u) (he : u ≤ e) :
    volume grants s e = volume grants s u := by
  unfold volume
  congr 2
  refine filter_congr fun g hg => ?_
  have := hlatest g hg
  simp only [decide_eq_decide]
  omega

end Volume

/-- **The bucket meters its grants.** At the level `used`, as of the time `updatedAt`. -/
structure Metered (cap window used updatedAt : Nat) (grants : List (Grant L)) : Prop where
  le_cap : used ≤ cap
  latest : ∀ g ∈ grants, g.time ≤ updatedAt
  newest : grants.Pairwise fun g g' => g'.time ≤ g.time
  /-- What was granted since `s` is in the bucket, or has drained since. -/
  since : ∀ s ≤ updatedAt,
    window * volume grants s updatedAt ≤ window * used + cap * (updatedAt - s)
  bounded : ∀ s e, s ≤ e → window * volume grants s e ≤ cap * (window + (e - s))

variable {cap window used updatedAt level now : Nat} {grants : List (Grant L)}

lemma metered_nil : Metered cap window 0 0 ([] : List (Grant L)) where
  le_cap := zero_le _
  latest := nofun
  newest := .nil
  since _ _ := zero_le _
  bounded _ _ _ := zero_le _

lemma bounded_of_since (hcap : used ≤ cap) (hlatest : ∀ g ∈ grants, g.time ≤ now)
    (hsince : ∀ s ≤ now, window * volume grants s now ≤ window * used + cap * (now - s))
    {s e : Nat} (he : now ≤ e) : window * volume grants s e ≤ cap * (window + (e - s)) := by
  by_cases hs : s ≤ now
  · calc window * volume grants s e
        = window * volume grants s now := by rw [volume_eq_of_latest hlatest he]
      _ ≤ window * used + cap * (now - s) := hsince s hs
      _ ≤ window * cap + cap * (e - s) :=
          Nat.add_le_add (Nat.mul_le_mul_left _ hcap) (Nat.mul_le_mul_left _ (by omega))
      _ = cap * (window + (e - s)) := by rw [Nat.mul_add, Nat.mul_comm window]
  · rw [volume_eq_zero hlatest (Nat.not_le.mp hs), Nat.mul_zero]
    exact Nat.zero_le _

lemma mul_sub_split (cap : Nat) {s : Nat} (hs : s ≤ updatedAt) (hnow : updatedAt ≤ now) :
    cap * (now - s) = cap * (now - updatedAt) + cap * (updatedAt - s) := by
  rw [← Nat.mul_add]
  congr 1
  omega

/-- **A grant** that fits under the cap. -/
theorem Metered.grant (h : Metered cap window used updatedAt grants) (hnow : updatedAt ≤ now)
    (hlevel : window * used ≤ window * level + cap * (now - updatedAt)) {amount : Nat}
    (hcap : level + amount ≤ cap) (label : L) :
    Metered cap window (level + amount) now ({ time := now, amount, label } :: grants) := by
  have hlatest : ∀ g ∈ grants, g.time ≤ now := fun g hg => Nat.le_trans (h.latest g hg) hnow
  have hlatest' : ∀ g ∈ ({ time := now, amount, label } :: grants : List (Grant L)),
      g.time ≤ now := by
    intro g hg
    rcases mem_cons.mp hg with rfl | hg
    · exact Nat.le_refl now
    · exact hlatest g hg
  have hsince : ∀ s ≤ now, window * volume ({ time := now, amount, label } :: grants) s now ≤
      window * (level + amount) + cap * (now - s) := by
    intro s hs
    rw [volume_cons_of_mem hs (Nat.le_refl now), Nat.mul_add, Nat.mul_add]
    dsimp only
    by_cases hold : s ≤ updatedAt
    · rw [volume_eq_of_latest h.latest hnow]
      have := h.since s hold
      have := mul_sub_split cap hold hnow
      omega
    · rw [volume_eq_zero h.latest (Nat.not_le.mp hold)]
      omega
  refine ⟨hcap, hlatest', pairwise_cons.mpr ⟨hlatest, h.newest⟩, hsince, fun s e hse => ?_⟩
  by_cases he : now ≤ e
  · exact bounded_of_since hcap hlatest' hsince he
  · rw [volume_cons_of_lt (.inr (Nat.not_le.mp he))]
    exact h.bounded s e hse

end Ferminux.Lib
