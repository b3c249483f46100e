import Mathlib.Data.Nat.Bitwise
import Mathlib.Data.Nat.Count
import Mathlib.Tactic.Ring

/-!
# Lib.Swar

Counting the bits of a word **in parallel**: the word is cut into fields, and every stage adds
neighbouring fields, so that fields of twice the width hold the sums.

`fieldSum w n x` is the sum of the `n` lowest fields of width `w`. A stage (`gather`) keeps it
while it doubles the width. Implementations write a stage in other ways where they can: the
first one as a subtraction (`sub_eq_gather`), and those whose sums fit into the old fields with
one mask (`add_shift_and_eq_gather`).
-/

namespace Ferminux.Lib

open Nat

/-- The sum of the `n` lowest fields of width `w`. -/
def fieldSum (w : Nat) : Nat → Nat → Nat
  | 0, _ => 0
  | n + 1, x => x % 2 ^ w + fieldSum w n (x / 2 ^ w)

/-- Every second field of width `w`, in `n` pairs. -/
def evenMask (w : Nat) : Nat → Nat
  | 0 => 0
  | n + 1 => (2 ^ w - 1) + 2 ^ (2 * w) * evenMask w n

/-- One stage: the even fields and the odd fields, added. -/
def gather (w n x : Nat) : Nat := (x &&& evenMask w n) + ((x >>> w) &&& evenMask w n)

/-- Each of the `n` lowest fields is at most `bound`. -/
def FieldsLe (w bound : Nat) : Nat → Nat → Prop
  | 0, _ => True
  | n + 1, x => x % 2 ^ w ≤ bound ∧ FieldsLe w bound n (x / 2 ^ w)

variable {w n x bound : Nat}

/-! ### Fields -/

lemma pow_two_mul (w : Nat) : 2 ^ (2 * w) = 2 ^ w * 2 ^ w := by
  rw [two_mul, pow_add]

lemma div_pow_two_mul (w x : Nat) : x / 2 ^ (2 * w) = x / 2 ^ w / 2 ^ w := by
  rw [pow_two_mul, Nat.div_div_eq_div_mul]

lemma two_fields (w x : Nat) :
    x = x % 2 ^ w + 2 ^ w * (x / 2 ^ w % 2 ^ w) + 2 ^ (2 * w) * (x / 2 ^ (2 * w)) := by
  have hlow := mod_add_div x (2 ^ w)
  have hhigh := mod_add_div (x / 2 ^ w) (2 ^ w)
  rw [div_pow_two_mul, pow_two_mul, mul_assoc, add_assoc, ← mul_add, hhigh, hlow]

lemma fieldSum_two_mul_succ (w n x : Nat) : fieldSum w (2 * (n + 1)) x =
      x % 2 ^ w + x / 2 ^ w % 2 ^ w + fieldSum w (2 * n) (x / 2 ^ (2 * w)) := by
  have hcount : 2 * (n + 1) = 2 * n + 1 + 1 := by omega
  rw [hcount, fieldSum, fieldSum, div_pow_two_mul, add_assoc]

lemma fieldSum_one_eq_count (n x : Nat) : fieldSum 1 n x = count (x.testBit ·) n := by
  induction n generalizing x with
  | zero => rfl
  | succ _ ih =>
    rw [fieldSum, ih, count_succ', add_comm]
    simp only [testBit_succ, pow_one]
    congr 1
    rcases mod_two_eq_zero_or_one x with h | h <;> simp [testBit_zero, h]

/-! ### A stage -/

lemma and_evenMask_succ (w n x : Nat) :
    x &&& evenMask w (n + 1) = x % 2 ^ w + 2 ^ (2 * w) * (x / 2 ^ (2 * w) &&& evenMask w n) := by
  have hpos : 0 < 2 ^ w := Nat.two_pow_pos w
  have hlow : 2 ^ w - 1 < 2 ^ (2 * w) := by
    rw [pow_two_mul]
    calc 2 ^ w - 1 < 2 ^ w := by omega
      _ ≤ 2 ^ w * 2 ^ w := Nat.le_mul_of_pos_right _ hpos
  have hmod : evenMask w (n + 1) % 2 ^ (2 * w) = 2 ^ w - 1 := by
    rw [evenMask, add_mul_mod_self_left, mod_eq_of_lt hlow]
  have hdiv : evenMask w (n + 1) / 2 ^ (2 * w) = evenMask w n := by
    rw [evenMask, Nat.add_mul_div_left _ _ (Nat.two_pow_pos _), Nat.div_eq_of_lt hlow, Nat.zero_add]
  have hfield : (x % 2 ^ (2 * w)) &&& (2 ^ w - 1) = x % 2 ^ w := by
    rw [and_two_pow_sub_one_eq_mod, pow_two_mul, mod_mul_right_mod]
  rw [← mod_add_div (x &&& evenMask w (n + 1)) (2 ^ (2 * w)), and_mod_two_pow,
    and_div_two_pow, hmod, hdiv, hfield]

lemma gather_succ (w n x : Nat) : gather w (n + 1) x =
      (x % 2 ^ w + x / 2 ^ w % 2 ^ w) + 2 ^ (2 * w) * gather w n (x / 2 ^ (2 * w)) := by
  have hshift : (x >>> w) / 2 ^ (2 * w) = (x / 2 ^ (2 * w)) >>> w := by
    rw [Nat.shiftRight_eq_div_pow, Nat.shiftRight_eq_div_pow, Nat.div_div_eq_div_mul,
      Nat.div_div_eq_div_mul, Nat.mul_comm]
  unfold gather
  rw [and_evenMask_succ, and_evenMask_succ, hshift, shiftRight_eq_div_pow, mul_add]
  omega

lemma add_fields_lt (hw : 0 < w) (x : Nat) : x % 2 ^ w + x / 2 ^ w % 2 ^ w < 2 ^ (2 * w) := by
  have hpos := Nat.two_pow_pos w
  have hlow := Nat.mod_lt x hpos
  have hhigh := mod_lt (x / 2 ^ w) hpos
  have htwo : 2 * 2 ^ w ≤ 2 ^ (2 * w) := by
    rw [pow_two_mul]
    refine mul_le_mul_right _ ?_
    calc 2 = 2 ^ 1 := rfl
      _ ≤ 2 ^ w := Nat.pow_le_pow_right (by decide) hw
  omega

/-- **A stage keeps the sum** and doubles the width. -/
theorem fieldSum_gather (hw : 0 < w) (n x : Nat) :
    fieldSum (2 * w) n (gather w n x) = fieldSum w (2 * n) x := by
  induction n generalizing x with
  | zero => rfl
  | succ _ ih =>
    rw [fieldSum, fieldSum_two_mul_succ, gather_succ, add_mul_mod_self_left,
      Nat.mod_eq_of_lt (add_fields_lt hw x), Nat.add_mul_div_left _ _ (Nat.two_pow_pos _),
      div_eq_of_lt (add_fields_lt hw x), zero_add, ih]

lemma gather_lt (hw : 0 < w) (n x : Nat) : gather w n x < 2 ^ (2 * w * n) := by
  induction n generalizing x with
  | zero => simp [gather, evenMask]
  | succ n ih =>
    have hlow := add_fields_lt hw x
    have hrest := mul_le_mul_left (2 ^ (2 * w)) (succ_le_of_lt (ih (x / 2 ^ (2 * w))))
    rw [gather_succ, mul_succ, add_comm (2 * w * n), pow_add]
    rw [mul_succ] at hrest
    omega

lemma FieldsLe.gather (hw : 0 < w) (h : FieldsLe w bound (2 * n) x) :
    FieldsLe (2 * w) (2 * bound) n (gather w n x) := by
  induction n generalizing x with
  | zero => trivial
  | succ n ih =>
    have hcount : 2 * (n + 1) = 2 * n + 1 + 1 := by omega
    rw [hcount] at h
    obtain ⟨hlow, hhigh, hrest⟩ := h
    rw [← div_pow_two_mul] at hrest
    refine ⟨?_, ?_⟩
    · rw [gather_succ, add_mul_mod_self_left, mod_eq_of_lt (add_fields_lt hw x)]
      omega
    · rw [gather_succ, Nat.add_mul_div_left _ _ (Nat.two_pow_pos _),
        div_eq_of_lt (add_fields_lt hw x), zero_add]
      exact ih hrest

lemma fieldsLe_one : FieldsLe 1 1 n x := by
  induction n generalizing x with
  | zero => trivial
  | succ _ ih => exact ⟨le_of_lt_succ (mod_lt x (by decide)), ih⟩

/-! ### Other ways to write a stage -/

lemma sub_eq_gather (hx : x < 2 ^ (2 * n)) : x - ((x >>> 1) &&& evenMask 1 n) = gather 1 n x := by
  have hsum : ∀ {n x : Nat}, x < 2 ^ (2 * n) →
      (x &&& evenMask 1 n) + 2 * ((x >>> 1) &&& evenMask 1 n) = x := by
    intro n
    induction n with
    | zero =>
      intro x hx
      obtain rfl : x = 0 := by simpa using hx
      rfl
    | succ n ih =>
      intro x hx
      have hrest : x / 2 ^ (2 * 1) < 2 ^ (2 * n) := by
        rw [Nat.div_lt_iff_lt_mul (Nat.two_pow_pos _), ← Nat.pow_add]
        exact hx
      have hstep := ih hrest
      have hfields := two_fields 1 x
      have hshift : (x >>> 1) / 2 ^ (2 * 1) = (x / 2 ^ (2 * 1)) >>> 1 := by
        rw [Nat.shiftRight_eq_div_pow, Nat.shiftRight_eq_div_pow, Nat.div_div_eq_div_mul,
          Nat.div_div_eq_div_mul, Nat.mul_comm]
      rw [and_evenMask_succ, and_evenMask_succ, hshift, shiftRight_eq_div_pow x]
      omega
  have := hsum hx
  unfold gather
  omega

lemma add_shift_fields {a b y : Nat} (hlow : a + b < 2 ^ w) (hhigh : b + y % 2 ^ w < 2 ^ w) :
    let sum := a + 2 ^ w * b + 2 ^ (2 * w) * y + (b + 2 ^ w * y)
    sum % 2 ^ w = a + b ∧ sum / 2 ^ (2 * w) = y + (y >>> w) := by
  intro sum
  have hsum : sum = a + b + 2 ^ w * (b + y % 2 ^ w + 2 ^ w * (y + y / 2 ^ w)) := by
    have hy := mod_add_div y (2 ^ w)
    calc sum = a + b + 2 ^ w * (b + y + 2 ^ w * y) := by
          unfold sum
          rw [pow_two_mul]
          ring
      _ = a + b + 2 ^ w * (b + (y % 2 ^ w + 2 ^ w * (y / 2 ^ w)) + 2 ^ w * y) := by rw [hy]
      _ = a + b + 2 ^ w * (b + y % 2 ^ w + 2 ^ w * (y + y / 2 ^ w)) := by ring
  constructor
  · rw [hsum, add_mul_mod_self_left, mod_eq_of_lt hlow]
  · rw [hsum, div_pow_two_mul, Nat.add_mul_div_left _ _ (Nat.two_pow_pos w),
      Nat.div_eq_of_lt hlow, Nat.zero_add, Nat.add_mul_div_left _ _ (Nat.two_pow_pos w),
      div_eq_of_lt hhigh, zero_add, shiftRight_eq_div_pow]

/-- If no sum of neighbours overflows into the next field, one mask behind the addition is
enough. -/
lemma add_shift_and_eq_gather (hbound : 2 * bound < 2 ^ w) (h : FieldsLe w bound (2 * n) x)
    (hx : x < 2 ^ (2 * w * n)) : (x + (x >>> w)) &&& evenMask w n = gather w n x := by
  induction n generalizing x with
  | zero => simp [gather, evenMask]
  | succ n ih =>
    have hcount : 2 * (n + 1) = 2 * n + 1 + 1 := by omega
    rw [hcount] at h
    obtain ⟨hlow, hhigh, hrest⟩ := h
    rw [← div_pow_two_mul] at hrest
    have hx' : x / 2 ^ (2 * w) < 2 ^ (2 * w * n) := by
      rw [Nat.div_lt_iff_lt_mul (Nat.two_pow_pos _), ← Nat.pow_add]
      exact hx
    -- the lowest of the remaining fields is bounded as well, or there is none
    have hnext : x / 2 ^ (2 * w) % 2 ^ w ≤ bound := by
      cases n with
      | zero =>
        obtain hzero : x / 2 ^ (2 * w) = 0 := by simpa using hx'
        rw [hzero, zero_mod]
        exact zero_le _
      | succ => exact hrest.1
    have hshift : x >>> w = x / 2 ^ w % 2 ^ w + 2 ^ w * (x / 2 ^ (2 * w)) := by
      rw [shiftRight_eq_div_pow, div_pow_two_mul, mod_add_div]
    obtain ⟨hmod, hdiv⟩ := add_shift_fields (w := w) (a := x % 2 ^ w) (b := x / 2 ^ w % 2 ^ w)
      (y := x / 2 ^ (2 * w)) (by omega) (by omega)
    rw [← two_fields, ← hshift] at hmod hdiv
    rw [and_evenMask_succ, gather_succ, hmod, hdiv, ih hrest hx']

end Ferminux.Lib
