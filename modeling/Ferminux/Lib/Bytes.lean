import Mathlib.Data.Finset.Sort
import Mathlib.Data.List.Lex
import Mathlib.Data.Nat.Size

/-!
# Lib.Bytes

Byte strings of a **fixed length** (the `[n]byte` arrays of a wire format), their
concatenation and the slicing that undoes it, and the big-endian encoding of
naturals. Nothing here depends on what the bytes mean.

The order on `FixedBytes` is the lexicographic order of the bytes, which is also
the order of the big-endian numbers they spell.
-/

namespace Ferminux.Lib

open List Nat

/-- A byte string of length exactly `n`. -/
structure FixedBytes (n : Nat) where
  bytes : List UInt8
  size_eq : bytes.length = n
  deriving DecidableEq, Repr

namespace FixedBytes

variable {n : Nat} (l : List (FixedBytes n))

lemma bytes_injective : Function.Injective (bytes : FixedBytes n → List UInt8) := by
  rintro ⟨a, ha⟩ ⟨b, hb⟩ h
  cases h
  rfl

/-- Byte-wise lexicographic order. -/
instance : LinearOrder (FixedBytes n) :=
  LinearOrder.lift' (fun b => b.bytes.map UInt8.toNat) (by
    intro a b h
    apply bytes_injective
    exact map_injective_iff.mpr (fun x y => UInt8.toNat_inj.mp) h)

def zero (n : Nat) : FixedBytes n := ⟨List.replicate n 0, length_replicate⟩

instance : Inhabited (FixedBytes n) := ⟨zero n⟩

/-- Copy the front of `l` into a fresh zeroed array: a short source leaves the
tail zero, a long one is cut. -/
def copyFrom (n : Nat) (l : List UInt8) : FixedBytes n :=
  ⟨(l ++ List.replicate n 0).take n, by simp⟩

lemma copyFrom_bytes (b : FixedBytes n) (rest : List UInt8) : copyFrom n (b.bytes ++ rest) = b := by
  apply bytes_injective
  have h : (b.bytes ++ (rest ++ replicate n 0)).take n = b.bytes := by
    rw [take_append_of_le_length (by rw [b.size_eq]), take_of_length_le (by rw [b.size_eq])]
  simpa [copyFrom] using h

def concat : List UInt8 := l.flatMap bytes

@[simp] lemma concat_nil : concat ([] : List (FixedBytes n)) = [] := rfl

@[simp] lemma concat_cons (b : FixedBytes n) (l : List (FixedBytes n)) :
    concat (b :: l) = b.bytes ++ concat l := rfl

@[simp] lemma length_concat : (concat l).length = l.length * n := by
  induction l with
  | nil => simp
  | cons b _ ih =>
    rw [concat_cons, length_append, ih, b.size_eq, length_cons, succ_mul, add_comm]

/-- Read `k` consecutive `n`-byte strings off the front of `payload`. -/
def split (n k : Nat) (payload : List UInt8) : List (FixedBytes n) :=
  (List.range k).map fun i => copyFrom n (payload.drop (i * n))

lemma split_succ (k : Nat) (payload : List UInt8) :
    split n (k + 1) payload = copyFrom n payload :: split n k (payload.drop n) := by
  simp only [split, range_succ_eq_map, map_cons, map_map, Nat.zero_mul, drop_zero]
  congr 1
  apply map_congr_left
  intro i _
  simp [Nat.succ_mul, Nat.add_comm]

lemma concat_split {k : Nat} {payload : List UInt8} (h : k * n ≤ payload.length) :
    concat (split n k payload) = payload.take (k * n) := by
  induction k generalizing payload with
  | zero => simp [split]
  | succ _ ih =>
    rw [succ_mul] at h ⊢
    have hfront : (copyFrom n payload).bytes = payload.take n :=
      take_append_of_le_length (by omega)
    rw [split_succ, concat_cons, ih (by rw [length_drop]; omega), hfront, add_comm, take_add]

lemma split_concat (rest : List UInt8) : split n l.length (concat l ++ rest) = l := by
  induction l with
  | nil => rfl
  | cons b _ ih =>
    rw [length_cons, split_succ, concat_cons, append_assoc, copyFrom_bytes,
      drop_left' b.size_eq, ih]

end FixedBytes

/-! ### Slices of unstructured bytes -/

/-- The `k` consecutive `n`-byte slices at the front of `payload`. -/
def slices (n k : Nat) (payload : List UInt8) : List (List UInt8) :=
  (List.range k).map fun i => (payload.drop (i * n)).take n

lemma slices_succ (n k : Nat) (payload : List UInt8) :
    slices n (k + 1) payload = payload.take n :: slices n k (payload.drop n) := by
  simp only [slices, range_succ_eq_map, map_cons, map_map, Nat.zero_mul, drop_zero]
  congr 1
  apply map_congr_left
  intro i _
  simp [Nat.succ_mul, Nat.add_comm]

lemma flatten_slices (n k : Nat) (payload : List UInt8) :
    (slices n k payload).flatten = payload.take (k * n) := by
  induction k generalizing payload with
  | zero => simp [slices]
  | succ _ ih => rw [slices_succ, flatten_cons, ih, succ_mul, add_comm, take_add]

lemma slices_flatten {n : Nat} {l : List (List UInt8)} (h : ∀ x ∈ l, x.length = n)
    (rest : List UInt8) : slices n l.length (l.flatten ++ rest) = l := by
  induction l with
  | nil => rfl
  | cons x _ ih =>
    have hx : x.length = n := h x (by simp)
    rw [length_cons, slices_succ, flatten_cons, append_assoc,
      take_left' hx, drop_left' hx, ih (fun y hy => h y (by simp [hy]))]

lemma length_flatten_of_forall {n : Nat} {l : List (List UInt8)} (h : ∀ x ∈ l, x.length = n) :
    l.flatten.length = l.length * n := by
  induction l with
  | nil => simp
  | cons x _ ih =>
    rw [flatten_cons, length_append, h x (by simp), ih (fun y hy => h y (by simp [hy])),
      length_cons, succ_mul, add_comm]

/-! ### Big-endian numbers -/

/-- The low `k` bytes of `v`, most significant first. -/
def bigEndian : Nat → Nat → List UInt8
  | 0, _ => []
  | k + 1, v => bigEndian k (v / 256) ++ [UInt8.ofNat v]

/-! ### Sorted enumeration of a finite set -/

/-- The members of `s` in ascending order, by insertion sort, so that it
evaluates on concrete sets. -/
def ascending {α : Type*} [LinearOrder α] (s : Finset α) : List α :=
  Quotient.liftOn s.val (fun l => l.insertionSort (· ≤ ·)) (fun a b h =>
    ((perm_insertionSort _ a).trans (h.trans (perm_insertionSort _ b).symm)).eq_of_pairwise'
      (r := (· ≤ ·)) (pairwise_insertionSort _ a) (pairwise_insertionSort _ b))

variable {α : Type*} {s : Finset α}

lemma ascending_eq_sort [LinearOrder α] (s : Finset α) : ascending s = s.sort := by
  have hperm : (ascending s : Multiset α) = s.val := by
    obtain ⟨l, hl⟩ := Quotient.exists_rep s.val
    unfold ascending
    rw [← hl]
    exact Multiset.coe_eq_coe.mpr (perm_insertionSort _ l)
  have hsorted : (ascending s).Pairwise (· ≤ ·) := by
    obtain ⟨l, hl⟩ := Quotient.exists_rep s.val
    unfold ascending
    rw [← hl]
    exact pairwise_insertionSort _ l
  have hp : (ascending s).Perm s.sort := Multiset.coe_eq_coe.mp (by rw [hperm, Finset.sort_eq])
  exact hp.eq_of_pairwise' (r := (· ≤ ·)) hsorted (Finset.pairwise_sort s (· ≤ ·))

@[simp] lemma mem_ascending [LinearOrder α] {a : α} : a ∈ ascending s ↔ a ∈ s := by
  rw [ascending_eq_sort, Finset.mem_sort]

@[simp] lemma length_ascending [LinearOrder α] (s : Finset α) : (ascending s).length = s.card := by
  rw [ascending_eq_sort, Finset.length_sort]

lemma eq_toFinset_of_ascending [LinearOrder α] {l : List α}
    (h : ascending s = l) : s = l.toFinset := by
  ext a
  rw [← mem_ascending, h, mem_toFinset]

lemma pairwise_ascending [LinearOrder α] : (ascending s).Pairwise (· < ·) := by
  rw [ascending_eq_sort]
  exact (Finset.sortedLT_sort s).pairwise

example : ascending ({3, 1, 2} : Finset Nat) = [1, 2, 3] := by decide

end Ferminux.Lib
