import Ferminux.Bridge.Types
import Ferminux.Lib.Bucket
import Mathlib.Tactic.Ring

/-!
# Bridge.Windows

**Runs of `_consume` on one window.** What drains in `e` of 24 hours is characterised by
`drain_le_iff`: the usage that is left is the least number above `used * (1 - e / 24h)`. Draining in
two steps therefore leaves no less than draining in one.
-/

namespace Ferminux.Bridge

open Lib List Nat

/-- A call of `_consume`, at a time and under the cap of the moment. -/
structure Consume where
  now : Nat
  cap : Nat
  amount : Nat

def consumes (w : Window) (calls : List Consume) : Except String Window :=
  calls.foldlM (fun w c => consume c.now w c.cap c.amount) w

def drain (used elapsed : Nat) : Nat :=
  if WINDOW ≤ elapsed then 0 else used - used * elapsed / WINDOW

lemma drain_le_iff {used elapsed n : Nat} :
    drain used elapsed ≤ n ↔ used * (WINDOW - elapsed) ≤ n * WINDOW := by
  unfold drain
  split
  · next h => simp [Nat.sub_eq_zero_of_le h]
  · rw [Nat.sub_le_iff_le_add, Nat.mul_sub, ← Nat.sub_le_iff_le_add',
      Nat.le_div_iff_mul_le (by decide), Nat.sub_mul]
    omega

lemma mul_le_drain (used elapsed : Nat) :
    used * (WINDOW - elapsed) ≤ drain used elapsed * WINDOW :=
  drain_le_iff.mp le_rfl

lemma drain_mono {used used' : Nat} (h : used ≤ used') (elapsed : Nat) :
    drain used elapsed ≤ drain used' elapsed :=
  drain_le_iff.mpr ((mul_le_mul_right _ h).trans (mul_le_drain used' elapsed))

lemma drain_le (used elapsed : Nat) : drain used elapsed ≤ used :=
  drain_le_iff.mpr (mul_le_mul_left _ (sub_le ..))

/-- **A touch in between** leaves no less. -/
theorem drain_add_le (used e e' : Nat) : drain used (e + e') ≤ drain (drain used e) e' := by
  refine drain_le_iff.mpr (Nat.le_of_mul_le_mul_right ?_ (by decide : 0 < WINDOW))
  have hfactors : (WINDOW - (e + e')) * WINDOW ≤ (WINDOW - e) * (WINDOW - e') := by
    rcases Nat.le_total WINDOW (e + e') with h | h
    · simp [Nat.sub_eq_zero_of_le h]
    · obtain ⟨k, hk⟩ := Nat.exists_eq_add_of_le h
      rw [hk, show e + e' + k - (e + e') = k by omega, show e + e' + k - e = e' + k by omega,
        show e + e' + k - e' = e + k by omega]
      exact le.intro (k := e' * e) (by ring)
  calc used * (WINDOW - (e + e')) * WINDOW
      = used * ((WINDOW - (e + e')) * WINDOW) := mul_assoc ..
    _ ≤ used * ((WINDOW - e) * (WINDOW - e')) := mul_le_mul_left _ hfactors
    _ = used * (WINDOW - e) * (WINDOW - e') := (mul_assoc ..).symm
    _ ≤ drain used e * WINDOW * (WINDOW - e') := mul_le_mul_right _ (mul_le_drain used e)
    _ = drain used e * (WINDOW - e') * WINDOW := mul_right_comm ..
    _ ≤ drain (drain used e) e' * WINDOW * WINDOW :=
        mul_le_mul_right _ (mul_le_drain _ e')

/-! ### The stored window -/

/-- The window after the calls, in unbounded numbers. -/
def exact (w : Window) (calls : List Consume) : Window :=
  calls.foldl (fun w c => ⟨drain w.used (c.now - w.updatedAt) + c.amount, c.now⟩) w

/-- `calls'` has further calls, of no amount. -/
inductive Inserts : List Consume → List Consume → Prop
  | nil : Inserts [] []
  | keep {l l' : List Consume} (c : Consume) (h : Inserts l l') : Inserts (c :: l) (c :: l')
  | insert {l l' : List Consume} (c : Consume) (hzero : c.amount = 0) (h : Inserts l l') :
      Inserts l (c :: l')

variable {w w' : Window} {C now cap amount u : Nat} {calls calls' : List Consume}

lemma usage_eq (hfresh : w.updatedAt = 0 → w.used = 0) (h : usage now w = .ok u) :
    w.updatedAt ≤ now ∧ u = drain w.used (now - w.updatedAt) := by
  simp only [usage] at h
  split at h
  · next hzero =>
    cases h
    rw [hfresh hzero, hzero]
    exact ⟨zero_le _, (le_zero.mp (drain_le 0 _)).symm⟩
  · simp only [bind_eq_ok, checkedSub_eq_ok] at h
    obtain ⟨elapsed, ⟨hle, rfl⟩, h⟩ := h
    refine ⟨hle, ?_⟩
    unfold drain
    split at h <;> rename_i hlong
    · rw [if_pos hlong]
      cases h
      rfl
    · simp only [bind_eq_ok, checkedMul_eq_ok, checkedSub_eq_ok] at h
      obtain ⟨_, ⟨-, rfl⟩, -, rfl⟩ := h
      rw [if_neg hlong]

/-- The usage under a cap of 128 bits is stored as it is. -/
lemma consume_eq (hfresh : w.updatedAt = 0 → w.used = 0) (hnow : now < 2 ^ 64)
    (hcap : cap < 2 ^ 128) (h : consume now w cap amount = .ok w') : w.updatedAt ≤ now ∧
      w' = ⟨drain w.used (now - w.updatedAt) + amount, now⟩ ∧ w'.used ≤ cap := by
  simp only [consume, bind_eq_ok, checkedAdd_eq_ok, require_eq_ok, pure_eq_ok] at h
  obtain ⟨_, hu, _, ⟨-, rfl⟩, -, hle, rfl⟩ := h
  obtain ⟨hlast, rfl⟩ := usage_eq hfresh hu
  rw [mod_eq_of_lt (hle.trans_lt hcap), mod_eq_of_lt hnow]
  exact ⟨hlast, rfl, hle⟩

def granted (calls : List Consume) : List (Grant Unit) :=
  calls.reverse.map fun c => ⟨c.now, c.amount, ()⟩

structure Tracks (C : Nat) (calls : List Consume) (w : Window) : Prop where
  metered : Metered C WINDOW w.used w.updatedAt (granted calls)
  fresh : w.updatedAt = 0 → w.used = 0
  exact : w = exact {} calls

lemma tracks (hC : C ≤ 2 ^ 128 - 1) (hcaps : ∀ c ∈ calls, c.cap ≤ C)
    (htimes : ∀ c ∈ calls, 0 < c.now ∧ c.now < 2 ^ 64) (hrun : consumes {} calls = .ok w) :
    Tracks C calls w := by
  refine foldlM_invariant hrun ⟨metered_nil, fun _ => rfl, rfl⟩ fun pre c w₁ w₂ hpre h₁ hc => ?_
  have hmem : c ∈ calls := hpre.subset (mem_append_right pre mem_cons_self)
  obtain ⟨hpos, hnow⟩ := htimes c hmem
  obtain ⟨hlast, rfl, hle⟩ := consume_eq h₁.fresh hnow ((hcaps c hmem).trans_lt (by omega)) hc
  refine ⟨?_, fun hzero => absurd hzero hpos.ne', ?_⟩
  · have hdrained : WINDOW * w₁.used ≤
        WINDOW * drain w₁.used (c.now - w₁.updatedAt) + C * (c.now - w₁.updatedAt) := by
      have hleft := mul_le_drain w₁.used (c.now - w₁.updatedAt)
      have hcap := mul_le_mul_right (c.now - w₁.updatedAt) h₁.metered.le_cap
      rw [Nat.mul_sub] at hleft
      rw [mul_comm WINDOW, mul_comm WINDOW]
      omega
    rw [granted, reverse_append]
    exact h₁.metered.grant hlast hdrained (hle.trans (hcaps c hmem)) ()
  · rw [exact, foldl_append]
    exact congrArg (fun w => (⟨drain w.used (c.now - w.updatedAt) + c.amount, c.now⟩ : Window)) h₁.exact

/-! ### More touches -/

/-- From the last touch on, `w'` is used no less. -/
def Behind (w w' : Window) : Prop := w.updatedAt ≤ w'.updatedAt ∧ ∀ now, w'.updatedAt ≤ now →
  drain w.used (now - w.updatedAt) ≤ drain w'.used (now - w'.updatedAt)

lemma Inserts.behind (h : Inserts calls calls') (hsorted : calls'.Pairwise (·.now ≤ ·.now))
    (hlater : ∀ c ∈ calls', w'.updatedAt ≤ c.now) (hw : Behind w w') :
    Behind (exact w calls) (exact w' calls') := by
  induction h generalizing w w' with
  | nil => exact hw
  | keep c _ ih =>
    have hc := hlater c mem_cons_self
    refine ih hsorted.of_cons (fun _ => rel_of_pairwise_cons hsorted) ⟨le_rfl, fun now _ => ?_⟩
    exact drain_mono (Nat.add_le_add_right (hw.2 c.now hc) _) _
  | insert c hzero _ ih =>
    have hc := hlater c mem_cons_self
    refine ih hsorted.of_cons (fun _ => rel_of_pairwise_cons hsorted)
      ⟨hw.1.trans hc, fun now hnow => (hw.2 now (hc.trans hnow)).trans ?_⟩
    have hsplit : now - w'.updatedAt = (c.now - w'.updatedAt) + (now - c.now) := by
      have : c.now ≤ now := hnow
      omega
    dsimp only
    rw [hzero, add_zero, hsplit]
    exact drain_add_le ..

end Ferminux.Bridge
