import Ferminux.Lib.Swar
import Mathlib.Data.BitVec
import Mathlib.Order.Interval.Finset.Nat

/-!
# Hub.Ring

The **participation ring** of a seat: two 256-bit words that hold one bit for each of the last
512 checkpoints. A checkpoint's bit is at its index modulo 512; the bits of skipped checkpoints
are cleared only when the seat attests again, and bits are counted under a mask with a parallel
population count.

`Exact` says what the words mean: behind the last accepted attestation, they tell for each of
512 checkpoints whether it was accepted. Marking keeps that (`Exact.mark`), and a count over at
most 511 checkpoints that does not reach further back is the true number
(`Exact.countBits_eq`).
-/

namespace Ferminux.Hub

open Lib Finset BitVec Nat

abbrev Word := BitVec 256

/-- Participation ring size, in checkpoints. -/
def RING : Nat := 512

/-! ### The code -/

def popcount (x : Word) : Word :=
  let x := x - ((x >>> 1) &&& 0x5555555555555555555555555555555555555555555555555555555555555555)
  let x := (x &&& 0x3333333333333333333333333333333333333333333333333333333333333333)
    + ((x >>> 2) &&& 0x3333333333333333333333333333333333333333333333333333333333333333)
  let x := (x + (x >>> 4)) &&& 0x0f0f0f0f0f0f0f0f0f0f0f0f0f0f0f0f0f0f0f0f0f0f0f0f0f0f0f0f0f0f0f0f
  let x := (x + (x >>> 8)) &&& 0x00ff00ff00ff00ff00ff00ff00ff00ff00ff00ff00ff00ff00ff00ff00ff00ff
  let x := (x + (x >>> 16)) &&& 0x0000ffff0000ffff0000ffff0000ffff0000ffff0000ffff0000ffff0000ffff
  let x := (x + (x >>> 32)) &&& 0x00000000ffffffff00000000ffffffff00000000ffffffff00000000ffffffff
  let x := (x + (x >>> 64)) &&& 0x0000000000000000ffffffffffffffff0000000000000000ffffffffffffffff
  (x + (x >>> 128)) &&& 0x00000000000000000000000000000000ffffffffffffffffffffffffffffffff

def wordSpan (lo hi : Nat) : Word :=
  if hi ≤ lo then 0
  else
    let n := hi - lo
    if n = 256 then BitVec.allOnes 256 else (((1 : Word) <<< n) - 1) <<< lo

def span (lo hi : Nat) : Word × Word :=
  (wordSpan (if lo < 256 then lo else 256) (if hi < 256 then hi else 256),
    wordSpan (if 256 < lo then lo - 256 else 0) (if 256 < hi then hi - 256 else 0))

/-- Mask of `count` consecutive ring positions starting at checkpoint `start` (`count` < 512). -/
def ringMask (start count : Nat) : Word × Word :=
  let p := start % RING
  let stop := p + count
  if stop ≤ RING then span p stop
  else
    let (m0, m1) := span p RING
    let (a0, a1) := span 0 (stop - RING)
    (m0 ||| a0, m1 ||| a1)

/-- Attested checkpoints in `[start, stop]`; bits after the seat's last attestation count as 0. -/
def countBits (bits : Word × Word) (last start stop : Nat) : Nat :=
  if last < start then 0
  else
    let stop := if last < stop then last else stop
    let (m0, m1) := ringMask start (stop - start + 1)
    (popcount (bits.1 &&& m0)).toNat + (popcount (bits.2 &&& m1)).toNat

/-- Set bit `c` in the seat's ring and clear the bits of the checkpoints it skipped since
`last`. -/
def markParticipation (bits : Word × Word) (last c : Nat) : Word × Word :=
  let (w0, w1) :=
    if last = 0 ∨ RING ≤ c - last then (0, 0)
    else if 1 < c - last then
      let (m0, m1) := ringMask (last + 1) (c - last - 1)
      (bits.1 &&& ~~~m0, bits.2 &&& ~~~m1)
    else bits
  let pos := c % RING
  if pos < 256 then (w0 ||| (1 : Word) <<< pos, w1) else (w0, w1 ||| (1 : Word) <<< (pos - 256))

/-! ### The population count -/

/-- The fields of a word hold the counts of as many bits as they are wide, `c` in all. -/
structure Counts (w n : Nat) (x : Word) (c : Nat) : Prop where
  sum : fieldSum w n x.toNat = c
  le : FieldsLe w w n x.toNat

variable {w n c : Nat} {x : Word}

lemma Counts.of_gather {y : Word} (h : Counts w (2 * n) x c) (hw : 0 < w)
    (hy : y.toNat = gather w n x.toNat) : Counts (2 * w) n y c := by
  refine ⟨?_, ?_⟩
  · rw [hy, fieldSum_gather hw, h.sum]
  · rw [hy]
    exact h.le.gather hw

variable {mask : Word}

lemma Counts.stage (h : Counts w (2 * n) x c)
    (hw : 0 < w := by decide) (hfit : 2 * w < 2 ^ w := by decide)
    (hsize : 2 * w * n = 256 := by decide)
    (hmask : mask.toNat = evenMask w n := by decide +kernel) :
    Counts (2 * w) n ((x + (x >>> w)) &&& mask) c := by
  refine h.of_gather hw ?_
  have hx : x.toNat < 2 ^ (2 * w * n) := by
    rw [hsize]
    exact x.isLt
  -- the mask drops what the addition carries out of the word
  have hand : (x.toNat + (x.toNat >>> w)) % 2 ^ 256 &&& mask.toNat =
      (x.toNat + (x.toNat >>> w)) &&& mask.toNat := by
    have hdrop := and_mod_two_pow (a := x.toNat + (x.toNat >>> w)) (b := mask.toNat) (n := 256)
    rw [mod_eq_of_lt (lt_of_le_of_lt and_le_right mask.isLt), mod_eq_of_lt mask.isLt] at hdrop
    exact hdrop.symm
  rw [toNat_and, toNat_add, toNat_ushiftRight, hand, hmask, add_shift_and_eq_gather hfit h.le hx]

lemma Counts.pairs (h : Counts 1 256 x c)
    (hmask : mask.toNat = evenMask 1 128) : Counts 2 128 (x - ((x >>> 1) &&& mask)) c := by
  refine h.of_gather (n := 128) (by decide) ?_
  have hle : (x >>> 1) &&& mask ≤ x := by
    rw [le_def, toNat_and, toNat_ushiftRight]
    exact le_trans and_le_left (shiftRight_le _ _)
  rw [toNat_sub_of_le hle, toNat_and, toNat_ushiftRight, hmask]
  exact sub_eq_gather x.isLt

lemma Counts.nibbles (h : Counts 2 128 x c)
    (hmask : mask.toNat = evenMask 2 64) : Counts 4 64 ((x &&& mask) + ((x >>> 2) &&& mask)) c := by
  refine h.of_gather (n := 64) (by decide) ?_
  have hlt : gather 2 64 x.toNat < 2 ^ 256 := gather_lt (by decide) 64 x.toNat
  rw [toNat_add, toNat_and, toNat_and, toNat_ushiftRight, hmask]
  exact mod_eq_of_lt hlt

lemma toNat_popcount (x : Word) : (popcount x).toNat = count (x.getLsbD ·) 256 := by
  have hbits : Counts 1 256 x (count (x.getLsbD ·) 256) :=
    ⟨fieldSum_one_eq_count 256 x.toNat, fieldsLe_one⟩
  have hword : Counts 256 1 (popcount x) (count (x.getLsbD ·) 256) := by
    refine Counts.stage (w := 128) ?_
    refine Counts.stage (w := 64) ?_
    refine Counts.stage (w := 32) ?_
    refine Counts.stage (w := 16) ?_
    refine Counts.stage (w := 8) ?_
    refine Counts.stage (w := 4) ?_
    exact (hbits.pairs (by decide +kernel)).nibbles (by decide +kernel)
  have hsum := hword.sum
  rw [fieldSum, fieldSum, add_zero, mod_eq_of_lt (popcount x).isLt] at hsum
  exact hsum

/-! ### Masks -/

def ringBit (bits : Word × Word) (p : Nat) : Bool :=
  if p < 256 then bits.1.getLsbD p else bits.2.getLsbD (p - 256)

lemma getLsbD_ones (hn : n < 256) (i : Nat) :
    (((1 : Word) <<< n) - 1).getLsbD i = decide (i < n) := by
  have hshift : ((1 : Word) <<< n).toNat = 2 ^ n := by
    rw [toNat_shiftLeft, Nat.shiftLeft_eq]
    have hpow : (1 : Word).toNat * 2 ^ n = 2 ^ n := one_mul _
    rw [hpow, Nat.mod_eq_of_lt (Nat.pow_lt_pow_right (by decide) hn)]
  have hle : (1 : Word) ≤ (1 : Word) <<< n := by
    rw [le_def, hshift]
    exact Nat.one_le_two_pow
  rw [getLsbD, toNat_sub_of_le hle, hshift]
  exact testBit_two_pow_sub_one n i

variable {lo hi : Nat}

lemma getLsbD_wordSpan (hhi : hi ≤ 256) (i : Nat) :
    (wordSpan lo hi).getLsbD i = decide (lo ≤ i ∧ i < hi) := by
  unfold wordSpan
  split
  · next hempty =>
    have : ¬ (lo ≤ i ∧ i < hi) := by omega
    simp [this]
  dsimp only
  split
  · next hfull =>
    have hiff : (lo ≤ i ∧ i < hi) ↔ i < 256 := by omega
    rw [getLsbD_allOnes]
    exact decide_eq_decide.mpr hiff.symm
  · next hempty hpart =>
    rw [getLsbD_shiftLeft, getLsbD_ones (by omega)]
    have hiff : (lo ≤ i ∧ i < hi) ↔ i < 256 ∧ ¬ i < lo ∧ i - lo < hi - lo := by omega
    simp only [hiff, Bool.decide_and, decide_not, Bool.and_assoc]

variable {p : Nat}

lemma ringBit_span (hhi : hi ≤ RING) (hp : p < RING) :
    ringBit (span lo hi) p = decide (lo ≤ p ∧ p < hi) := by
  unfold RING at hhi hp
  unfold ringBit span
  split
  · next hlow =>
    rw [getLsbD_wordSpan (by split <;> omega)]
    congr 1
    refine propext ?_
    split <;> split <;> omega
  · next hhigh =>
    rw [getLsbD_wordSpan (by split <;> omega)]
    congr 1
    refine propext ?_
    split <;> split <;> omega

variable (a b : Word × Word)

lemma ringBit_or (p : Nat) :
    ringBit (a.1 ||| b.1, a.2 ||| b.2) p = (ringBit a p || ringBit b p) := by
  unfold ringBit
  split <;> exact getLsbD_or

lemma ringBit_and (p : Nat) :
    ringBit (a.1 &&& b.1, a.2 &&& b.2) p = (ringBit a p && ringBit b p) := by
  unfold ringBit
  split <;> exact getLsbD_and

lemma ringBit_clear (hp : p < RING) :
    ringBit (a.1 &&& ~~~b.1, a.2 &&& ~~~b.2) p = (ringBit a p && !ringBit b p) := by
  unfold RING at hp
  unfold ringBit
  split
  · next hlow => simp [hlow]
  · have hhigh : p - 256 < 256 := by omega
    simp [hhigh]

/-- The mask covers the positions of `count` checkpoints from `start` on. -/
lemma ringBit_ringMask {start count : Nat} (hcount : count < RING) (hp : p < RING) :
    ringBit (ringMask start count) p = true ↔
      ∃ c, start ≤ c ∧ c < start + count ∧ c % RING = p := by
  unfold RING at hcount hp ⊢
  unfold ringMask
  dsimp only
  split
  · next hfits =>
    unfold RING at hfits
    rw [ringBit_span (by unfold RING; omega) hp, decide_eq_true_iff]
    unfold RING
    constructor
    · intro h
      exact ⟨p + 512 * (start / 512), by omega, by omega, by omega⟩
    · rintro ⟨c, hstart, hstop, rfl⟩
      omega
  · next hwraps =>
    unfold RING at hwraps
    rw [ringBit_or, ringBit_span (le_refl _) hp, ringBit_span (by unfold RING; omega) hp,
      Bool.or_eq_true, decide_eq_true_iff, decide_eq_true_iff]
    unfold RING
    constructor
    · rintro (h | h)
      · exact ⟨p + 512 * (start / 512), by omega, by omega, by omega⟩
      · exact ⟨p + 512 * (start / 512 + 1), by omega, by omega, by omega⟩
    · rintro ⟨c, hstart, hstop, rfl⟩
      omega

/-! ### What the ring says -/

/-- **What the words mean**, when `last` is the last checkpoint the seat attested: for each of
the 512 checkpoints up to it, whether it was accepted. -/
structure Exact (bits : Word × Word) (last : Nat) (accepted : Nat → Prop) : Prop where
  bit : ∀ c ≤ last, last < c + RING → (ringBit bits (c % RING) = true ↔ accepted c)
  le : ∀ c, accepted c → 0 < c ∧ c ≤ last

variable {bits : Word × Word} {last : Nat} {accepted : Nat → Prop} {pos : Nat}

lemma exact_new : Exact (0, 0) 0 fun _ => False where
  bit c _ _ := by
    unfold ringBit
    split <;> simp
  le _ h := h.elim

lemma getLsbD_one_shiftLeft {i : Nat} (hi : i < 256) :
    ((1 : Word) <<< pos).getLsbD i = decide (i = pos) := by
  rw [getLsbD_shiftLeft]
  have hone : (1 : Word).getLsbD (i - pos) = decide (i - pos = 0) := by simp
  rw [hone, decide_eq_true hi, Bool.true_and, ← decide_not, ← Bool.decide_and]
  exact decide_eq_decide.mpr (by omega)

lemma ringBit_set (hpos : pos < RING) (hp : p < RING) :
    ringBit (if pos < 256 then (bits.1 ||| (1 : Word) <<< pos, bits.2)
      else (bits.1, bits.2 ||| (1 : Word) <<< (pos - 256))) p = (ringBit bits p || decide (p = pos)) := by
  unfold RING at hpos hp
  unfold ringBit
  by_cases hlow : p < 256
  · rw [if_pos hlow, if_pos hlow]
    split
    · rw [getLsbD_or, getLsbD_one_shiftLeft hlow]
    · have hne : ¬ p = pos := by omega
      simp [hne]
  · rw [if_neg hlow, if_neg hlow]
    split
    · have hne : ¬ p = pos := by omega
      simp [hne]
    · have hiff : p - 256 = pos - 256 ↔ p = pos := by omega
      rw [getLsbD_or, getLsbD_one_shiftLeft (by omega), decide_eq_decide.mpr hiff]

/-- The ring behind `markParticipation`, position by position. -/
lemma ringBit_markParticipation (hc : last < c) (hp : p < RING) :
    ringBit (markParticipation bits last c) p = true ↔
      p = c % RING ∨ last ≠ 0 ∧ c - last < RING ∧ ringBit bits p = true ∧
        ¬ ∃ k, last < k ∧ k < c ∧ k % RING = p := by
  have hpos : c % RING < RING := mod_lt c (by decide)
  unfold markParticipation
  dsimp only
  rw [ringBit_set hpos hp, Bool.or_eq_true, decide_eq_true_iff, Or.comm]
  refine or_congr_right ?_
  split
  · next hclear =>
    have hzero : ringBit (0, 0) p = false := by
      unfold ringBit
      split <;> simp
    simp only [hzero, Bool.false_eq_true, false_iff]
    omega
  split
  · next hkeep hskip =>
    rw [ringBit_clear _ _ hp, Bool.and_eq_true, Bool.not_eq_true', Bool.eq_false_iff, Ne,
      ringBit_ringMask (by unfold RING at *; omega) hp]
    constructor
    · rintro ⟨hbit, hnone⟩
      refine ⟨by omega, by omega, hbit, ?_⟩
      rintro ⟨k, hlast, hk, hmod⟩
      exact hnone ⟨k, by omega, by omega, hmod⟩
    · rintro ⟨-, -, hbit, hnone⟩
      refine ⟨hbit, ?_⟩
      rintro ⟨k, hlast, hk, hmod⟩
      exact hnone ⟨k, by omega, by omega, hmod⟩
  · next hkeep hnext =>
    constructor
    · intro hbit
      refine ⟨by omega, by omega, hbit, ?_⟩
      rintro ⟨k, hlast, hk, -⟩
      omega
    · exact fun h => h.2.2.1

/-- **An accepted attestation** keeps the ring exact. -/
theorem Exact.mark (h : Exact bits last accepted) {c : Nat} (hc : last < c) :
    Exact (markParticipation bits last c) c fun k => k = c ∨ accepted k where
  bit k hk hring := by
    rw [ringBit_markParticipation hc (mod_lt k (by decide))]
    by_cases hkc : k = c
    · simp [hkc]
    have hne : ¬ k % RING = c % RING := by
      unfold RING at *
      omega
    simp only [hne, hkc, false_or]
    constructor
    · rintro ⟨-, -, hbit, hnone⟩
      have hold : k ≤ last := by
        by_contra hlast
        exact hnone ⟨k, by omega, by omega, rfl⟩
      exact (h.bit k hold (by omega)).mp hbit
    · intro haccepted
      obtain ⟨hpos, hold⟩ := h.le k haccepted
      refine ⟨by omega, by omega, (h.bit k hold (by omega)).mpr haccepted, ?_⟩
      rintro ⟨j, hj, hjc, hmod⟩
      unfold RING at *
      omega
  le k hk := by
    rcases hk with rfl | hk
    · omega
    · have := h.le k hk
      omega

lemma popcount_add_popcount (a : Word × Word) : (popcount a.1).toNat + (popcount a.2).toNat =
      ((range RING).filter fun p => ringBit a p = true).card := by
  have hcount := count_add (fun p => ringBit a p = true) 256 256
  have hlow : count (fun p => ringBit a p = true) 256 = count (a.1.getLsbD ·) 256 := by
    have hword : ∀ p ∈ range 256, (ringBit a p = true ↔ a.1.getLsbD p = true) := by
      intro p hp
      rw [ringBit, if_pos (mem_range.mp hp)]
    rw [count_eq_card_filter_range, count_eq_card_filter_range, filter_congr hword]
  have hhigh : (fun k => ringBit a (256 + k) = true) = fun k => a.2.getLsbD k = true := by
    funext k
    rw [ringBit, if_neg (by omega), Nat.add_sub_cancel_left]
  simp only [hhigh] at hcount
  rw [toNat_popcount, toNat_popcount, ← count_eq_card_filter_range]
  exact (hcount.trans (by rw [hlow])).symm

/-- **A count is exact** if it covers less than the ring and does not reach behind it. -/
theorem Exact.countBits_eq [DecidablePred accepted] (h : Exact bits last accepted)
    {start stop : Nat} (hle : start ≤ stop) (hring : last < start + RING)
    (hspan : stop + 1 < start + RING) :
    countBits bits last start stop = ((Finset.Icc start stop).filter accepted).card := by
  unfold countBits
  split
  · next hbefore =>
    refine (card_eq_zero.mpr (filter_eq_empty_iff.mpr fun c hc haccepted => ?_)).symm
    have := (mem_Icc.mp hc).1
    have := (h.le c haccepted).2
    omega
  dsimp only
  -- the last checkpoint that is looked at
  generalize hstop' : (if last < stop then last else stop) = stop'
  have hstop : start ≤ stop' ∧ stop' ≤ last ∧ stop' ≤ stop ∧ (last < stop → stop' = last) ∧
      (¬ last < stop → stop' = stop) := by
    split at hstop' <;> omega
  have hmask {p : Nat} (hp : p < RING) : ringBit (ringMask start (stop' - start + 1)) p = true ↔
        ∃ c, start ≤ c ∧ c < start + (stop' - start + 1) ∧ c % RING = p :=
    ringBit_ringMask (by unfold RING at *; omega) hp
  rw [popcount_add_popcount (bits.1 &&& _, bits.2 &&& _)]
  -- checkpoints and their positions correspond
  refine (card_bij (fun c _ => c % RING) (fun c hc => ?_) (fun c hc d hd heq => ?_)
    fun p hp => ?_).symm
  · obtain ⟨hmem, haccepted⟩ := mem_filter.mp hc
    have hc' := mem_Icc.mp hmem
    have hlast := (h.le c haccepted).2
    have hpos : c % RING < RING := mod_lt c (by decide)
    refine mem_filter.mpr ⟨mem_range.mpr hpos, ?_⟩
    rw [ringBit_and, Bool.and_eq_true, hmask hpos]
    exact ⟨(h.bit c hlast (by omega)).mpr haccepted, c, by omega, by omega, rfl⟩
  · have hc' := mem_Icc.mp (mem_filter.mp hc).1
    have hd' := mem_Icc.mp (mem_filter.mp hd).1
    unfold RING at *
    omega
  · obtain ⟨hrange, hbit⟩ := mem_filter.mp hp
    have hpos := mem_range.mp hrange
    rw [ringBit_and, Bool.and_eq_true, hmask hpos] at hbit
    obtain ⟨hbit, c, hstart, hc, rfl⟩ := hbit
    have haccepted := (h.bit c (by omega) (by omega)).mp hbit
    exact ⟨c, mem_filter.mpr ⟨mem_Icc.mpr (by omega), haccepted⟩, rfl⟩

end Ferminux.Hub
