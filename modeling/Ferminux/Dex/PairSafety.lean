import Ferminux.Dex.Pair
import Mathlib.Algebra.BigOperators.Fin
import Mathlib.Algebra.Order.BigOperators.Group.Finset
import Mathlib.Data.Nat.Sqrt
import Mathlib.Tactic.Linarith

/-!
# Dex.PairSafety

**The pool's value never leaks.** With the protocol fee off, the product of the reserves over the
square of the supply does not fall. Deposits and withdrawals move the supply by at most the share
of each side (`gains_of_sides`); a swap leaves the supply and passes the check of the product.
Outsiders that act during a call only add to the balances (`Paid`), and what they call behind the
lock reverts (`attempts_locked`).

With the fee on, `mintFee` mints **at most a sixth of the growth** since `kLast` was recorded. A
call leaves `kLast` and the supply as they are, clears it, or records its reserves (`Records`).
-/

namespace Ferminux.Dex

open Lib Finset Function Nat LP List Pair

variable {this : Address} {token : Fin 2 → Address} {m : Context} {s s₁ s₂ : Pair}
  {a b : Nat} {R : Nat → Pair → Prop}

/-- The books of the liquidity token: the minimum stays with the zero address. -/
structure Booked (s : Pair) : Prop where
  sum : ∑ a, s.balanceOf a = s.totalSupply
  floor : s.totalSupply ≠ 0 → MINIMUM_LIQUIDITY ≤ s.balanceOf 0
  unapproved : ∀ a, s.allowance 0 a = 0

/-- At most `out` of each side has left, and the pool's books are the same. -/
structure Paid (out : Fin 2 → Nat) (s s' : Pair) : Prop where
  reserve : s'.reserve = s.reserve
  supply : s'.totalSupply = s.totalSupply
  balance : ∀ i, s.balance i ≤ s'.balance i + out i

lemma Paid.trans {out out' : Fin 2 → Nat} (h : Paid out s s₁) (h' : Paid out' s₁ s₂) :
    Paid (out + out') s s₂ :=
  ⟨h'.reserve.trans h.reserve, h'.supply.trans h.supply, fun i => by
    have := h.balance i
    have := h'.balance i
    simp only [Pi.add_apply]
    omega⟩

@[simp] lemma post_sub : Post (sub a b) R s ↔ (b ≤ a → R (a - b) s) := by simp [sub]

@[simp] lemma post_div : Post (div a b) R s ↔ (b ≠ 0 → R (a / b) s) := by simp [div]

/-! ### Outsiders -/

variable {value : Nat}

lemma post_transfer {src dest : Address} (h : Booked s) (hsrc : src ≠ 0 ∨ value = 0) :
    Post (transfer src dest value) (fun _ s' => Booked s' ∧ Paid 0 s s') s := by
  simp only [transfer, setBalance, post_steps, post_sub]
  intro hle
  have hout := sum_update s.balanceOf src (s.balanceOf src - value)
  generalize hf : Function.update s.balanceOf src (s.balanceOf src - value) = f at hout
  have hin := sum_update f dest (f dest + value)
  refine ⟨⟨?_, fun hne => (h.floor hne).trans ?_, h.unapproved⟩, rfl, rfl, fun _ => le_rfl⟩ <;>
    dsimp only
  · have := h.sum
    omega
  · have hkept : s.balanceOf 0 ≤ f 0 := by
      rw [← hf]
      by_cases hzero : 0 = src
      · obtain rfl := hsrc.resolve_left (· hzero.symm)
        rw [← hzero, update_self, Nat.sub_zero]
      · rw [update_of_ne hzero]
    by_cases hzero : 0 = dest
    · rw [← hzero, update_self]
      omega
    · rwa [update_of_ne hzero]

lemma post_approve {owner spender : Address} (h : Booked s) (howner : owner ≠ 0 ∨ value = 0) :
    Post (approve owner spender value) (fun _ s' => Booked s' ∧ Paid 0 s s') s := by
  simp only [approve, post_steps]
  refine ⟨⟨h.sum, h.floor, fun a => ?_⟩, rfl, rfl, fun _ => le_rfl⟩
  dsimp only
  by_cases hzero : 0 = owner
  · obtain rfl := howner.resolve_left (· hzero.symm)
    rw [← hzero, update_self]
    by_cases ha : a = spender
    · rw [ha, update_self]
    · rw [update_of_ne ha, h.unapproved]
  · rw [update_of_ne hzero, h.unapproved]

lemma post_outside (h : Booked s) (o : Outside) :
    Post (outside o) (fun _ s' => Booked s' ∧ Paid 0 s s') s := by
  cases o with
  | donate side =>
    refine post_modify.mpr ⟨⟨h.sum, h.floor, h.unapproved⟩, rfl, rfl, fun i => ?_⟩
    by_cases hi : i = side
    · simp [hi]
    · simp [hi]
  | approve sender => exact post_approve h (.inl sender.2)
  | transfer sender => exact post_transfer h (.inl sender.2)
  | transferFrom sender src _ value =>
    simp only [outside, transferFrom, post_steps, post_ite, post_lift, require_eq_ok]
    have hsrc : value ≤ s.allowance src sender → src ≠ 0 ∨ value = 0 := by
      intro hle
      by_cases hzero : src = 0
      · rw [hzero, h.unapproved] at hle
        exact .inr (Nat.le_zero.mp hle)
      · exact .inl hzero
    refine ⟨fun _ _ hle => ?_, fun hmax => post_transfer h (.inl fun hzero => ?_)⟩
    · have howner : src ≠ 0 ∨ s.allowance src sender - value = 0 := by
        by_cases hzero : src = 0
        · rw [hzero, h.unapproved]
          exact .inr (Nat.zero_sub value)
        · exact .inl hzero
      refine (post_approve h howner).mono fun _ s₁ h₁ => ?_
      exact (post_transfer h₁.1 (hsrc hle)).mono fun _ _ h2 => ⟨h2.1, h₁.2.trans h2.2⟩
    · -- nobody has an allowance of the zero address
      rw [hzero, h.unapproved] at hmax
      exact hmax (by decide)
  | permit _ owner =>
    simp only [outside, permit, post_steps, post_lift, require_eq_ok]
    intro _ _ _ hrecovered
    have hbooked : Booked { s with nonces := Function.update s.nonces owner (s.nonces owner + 1) } :=
      ⟨h.sum, h.floor, h.unapproved⟩
    refine (post_approve hbooked (.inl (hrecovered.2 ▸ hrecovered.1))).mono fun _ _ h' => ?_
    exact ⟨h'.1, h'.2.reserve, h'.2.supply, h'.2.balance⟩

lemma post_interact (h : Booked s) (n : Nat) :
    Post (interact m n) (fun _ s' => Booked s' ∧ Paid 0 s s') s := by
  refine post_modify.mpr (attempts_rel (fun _ => ⟨rfl, rfl, fun _ => le_rfl⟩) ?_ ?_ h)
  · exact fun h h' => h.trans h'
  · exact fun o _ s hs => post_outside hs o

/-! ### Functions -/

variable {dest : Address}
  {n r supply liquidity x y : Nat} {side : Fin 2} {s' : Pair} {old : Fin 2 → Nat} {hasData : Bool}

lemma post_safeTransfer (h : Booked s) : Post (safeTransfer this m n side dest value)
      (fun _ s' => Booked s' ∧ Paid (Pi.single side value) s s') s := by
  simp only [safeTransfer, post_steps, post_lift, post_ite]
  refine fun _ hle => ⟨fun _ => ?_, fun _ => ?_⟩
  · have hbooked : Booked
        { s with balance := Function.update s.balance side (s.balance side - value) } :=
      ⟨h.sum, h.floor, h.unapproved⟩
    refine (post_interact hbooked n).mono fun _ s' h' => ⟨h'.1, h'.2.reserve, h'.2.supply, ?_⟩
    intro i
    have hi := h'.2.balance i
    by_cases hside : i = side
    · subst hside
      simp only [update_self, Pi.zero_apply, Pi.single_eq_same] at hi ⊢
      omega
    · simpa [hside] using hi
  · refine (post_interact h n).mono fun _ s' h' => ⟨h'.1, h'.2.reserve, h'.2.supply, ?_⟩
    exact fun i => (h'.2.balance i).trans (Nat.add_le_add_left (Nat.zero_le _) _)

/-- What holds while nobody is inside. -/
structure Sound (s : Pair) : Prop extends Booked s where
  covered : ∀ i, s.reserve i ≤ s.balance i

/-- The square of what a share of the pool is worth. -/
def Pair.worth (s : Pair) : ℚ := (∏ i, (s.reserve i : ℚ)) / s.totalSupply ^ 2

/-- The pool goes on, and a share of it is worth no less. -/
def Gains (s s' : Pair) : Prop := s.totalSupply ≠ 0 → s'.totalSupply ≠ 0 ∧ s.worth ≤ s'.worth

lemma gains_of_product (hne : s'.totalSupply ≠ 0)
    (h : s.reserve 0 * s.reserve 1 * s'.totalSupply ^ 2 ≤
      s'.reserve 0 * s'.reserve 1 * s.totalSupply ^ 2) : Gains s s' := by
  intro hs
  rw [worth, worth, Fin.prod_univ_two, Fin.prod_univ_two]
  refine ⟨hne, (div_le_div_iff₀ ?_ ?_).mpr (mod_cast h)⟩
  · exact pow_pos (cast_pos.mpr (pos_of_ne_zero hs)) 2
  · exact pow_pos (cast_pos.mpr (pos_of_ne_zero hne)) 2

lemma gains_of_sides (hne : s'.totalSupply ≠ 0)
    (h : ∀ i, s.reserve i * s'.totalSupply ≤ s'.reserve i * s.totalSupply) : Gains s s' := by
  refine gains_of_product hne ?_
  calc s.reserve 0 * s.reserve 1 * s'.totalSupply ^ 2
      = s.reserve 0 * s'.totalSupply * (s.reserve 1 * s'.totalSupply) := by ring
    _ ≤ s'.reserve 0 * s.totalSupply * (s'.reserve 1 * s.totalSupply) := Nat.mul_le_mul (h 0) (h 1)
    _ = s'.reserve 0 * s'.reserve 1 * s.totalSupply ^ 2 := by ring

def Kept (s s' : Pair) : Prop := Sound s' ∧ Gains s s'

lemma post_update (h : Booked s₁) (hgains : Gains s { s₁ with reserve := s₁.balance }) :
    Post (update m old) (fun _ s' => Kept s { s' with unlocked := true }) s₁ := by
  simp only [update, post_steps, post_lift, post_ite]
  exact fun _ _ => ⟨fun _ => ⟨⟨⟨h.sum, h.floor, h.unapproved⟩, fun _ => le_rfl⟩, hgains⟩,
    fun _ => ⟨⟨⟨h.sum, h.floor, h.unapproved⟩, fun _ => le_rfl⟩, hgains⟩⟩

@[simp] lemma post_locked {α : Type} {body : PairM α} {R : α → Pair → Prop} :
    Post (locked body) R s ↔ (s.unlocked = true →
      Post body (fun a s' => R a { s' with unlocked := true }) { s with unlocked := false }) := by
  simp [locked]

/-- The calls that are not behind the lock. -/
def Call.outside? : Call → Option Outside
  | .outside o => some o
  | _ => none

lemma post_outside_unlocked (o : Outside) :
    Post (outside o) (fun _ s' => s'.unlocked = s.unlocked) s := by
  cases o <;> simp [outside, LP.approve, LP.transfer, LP.transferFrom, LP.permit, LP.setBalance,
    sub, post_ite]

/-- **The lock.** Whatever calls are made back into the pair while it is locked, they do what those
among them do that `Outside` has: nothing behind the lock runs. -/
theorem attempts_locked (h : s.unlocked = false) (calls : List (Context × Call)) :
    attempts (perform this token) calls s =
      attempts outside (calls.filterMap (·.2.outside?)) s := by
  induction calls generalizing s with
  | nil => rfl
  | cons call calls ih =>
    obtain ⟨m, call⟩ := call
    have hreverts {α : Type} {body : PairM α} {R : α → Pair → Prop} : Post (locked body) R s :=
      post_locked.mpr fun hopen => absurd (h.symm.trans hopen) Bool.false_ne_true
    -- a call that reverts leaves the rest of them to the same pair
    have hskip (hcall : attempt (perform this token (m, call)) s = s) :
        attempts (perform this token) ((m, call) :: calls) s =
          attempts outside (calls.filterMap (·.2.outside?)) s :=
      (congrArg (attempts (perform this token) calls) hcall).trans (ih h)
    cases call with
    | outside o =>
      refine ih (attempt_of_post (Q := fun s' : Pair => s'.unlocked = false) h ?_)
      exact (post_outside_unlocked o).mono fun _ _ heq => heq.trans h
    | mint | burn => exact hskip (attempt_of_post (Q := (· = s)) rfl (post_map.mpr hreverts))
    | swap | skim | sync => exact hskip (attempt_of_post (Q := (· = s)) rfl hreverts)

lemma post_mintFee (hoff : m.feeTo = 0) {R : Bool → Pair → Prop} :
    Post (mintFee m) R s ↔ R false { s with kLast := 0 } := by
  simp [mintFee, hoff]

@[simp] lemma post_lpMint {R : Unit → Pair → Prop} : Post (LP.mint dest value) R s ↔ R () { s with
      totalSupply := s.totalSupply + value
      balanceOf := Function.update s.balanceOf dest (s.balanceOf dest + value) } := by
  simp [LP.mint, LP.setBalance]

lemma Booked.mint (h : Booked s) (dest : Address) (value : Nat)
    (hfirst : s.totalSupply ≠ 0 ∨ dest = 0 ∧ MINIMUM_LIQUIDITY ≤ value) : Booked { s with
      totalSupply := s.totalSupply + value
      balanceOf := Function.update s.balanceOf dest (s.balanceOf dest + value) } := by
  have hsum := sum_update s.balanceOf dest (s.balanceOf dest + value)
  refine ⟨?_, fun _ => ?_, h.unapproved⟩ <;> dsimp only
  · have := h.sum
    omega
  · by_cases hzero : 0 = dest
    · rw [← hzero, update_self]
      rcases hfirst with hne | ⟨-, hle⟩
      · exact (h.floor hne).trans (Nat.le_add_right ..)
      · exact hle.trans (Nat.le_add_left ..)
    · rw [update_of_ne hzero]
      exact h.floor (hfirst.resolve_right fun hmin => hzero hmin.1.symm)

lemma deposit_side (hrb : r ≤ b)
    (h : liquidity ≤ (b - r) * supply / r) : r * (supply + liquidity) ≤ b * supply := by
  have hshare : r * liquidity ≤ (b - r) * supply := (mul_le_mul_left r h).trans (mul_div_le ..)
  calc r * (supply + liquidity) ≤ r * supply + (b - r) * supply := by
        rw [Nat.mul_add]
        exact Nat.add_le_add_left hshare _
    _ = b * supply := by rw [← Nat.add_mul, Nat.add_sub_cancel' hrb]

lemma withdraw_side {b' : Nat} (hrb : r ≤ b)
    (h : b ≤ b' + liquidity * b / supply) : r * (supply - liquidity) ≤ b' * supply := by
  have hall : b * supply ≤ b' * supply + liquidity * b :=
    (mul_le_mul_right supply h).trans (by
      rw [add_mul]
      exact Nat.add_le_add_left (Nat.div_mul_le_self ..) _)
  calc r * (supply - liquidity) ≤ b * (supply - liquidity) := mul_le_mul_right _ hrb
    _ = b * supply - liquidity * b := by rw [Nat.mul_sub, Nat.mul_comm b liquidity]
    _ ≤ b' * supply := Nat.sub_le_iff_le_add.mpr hall

lemma post_mint (hs : Sound s) (hoff : m.feeTo = 0) : Post (mint m dest) (fun _ => Kept s) s := by
  simp only [mint, liquidityFor, trackK, post_locked, post_steps, post_sub, post_mintFee hoff,
    post_ite, post_lpMint, post_div, post_lift]
  have hbooked : Booked { s with unlocked := false, kLast := 0 } :=
    ⟨hs.sum, hs.floor, hs.unapproved⟩
  intro _ h0 h1
  refine ⟨fun hnone _ _ hpos => ?_, fun hsome _ _ _ hpos => ?_⟩
  · have hmin := hbooked.mint 0 MINIMUM_LIQUIDITY (.inr ⟨rfl, le_rfl⟩)
    have hminted := hmin.mint dest (sqrt ((s.balance 0 - s.reserve 0) *
      (s.balance 1 - s.reserve 1)) - MINIMUM_LIQUIDITY) (.inl (by simp [MINIMUM_LIQUIDITY]))
    exact (post_update hminted fun hne => absurd hnone hne).mono fun _ s' h =>
      ⟨fun hon => (by cases hon), fun _ => h⟩
  · have hminted := hbooked.mint dest (min
      ((s.balance 0 - s.reserve 0) * s.totalSupply / s.reserve 0)
      ((s.balance 1 - s.reserve 1) * s.totalSupply / s.reserve 1)) (.inl hsome)
    refine (post_update hminted (gains_of_sides (fun hzero => hsome ?_) ?_)).mono
      fun _ s' h => ⟨fun hon => (by cases hon), fun _ => h⟩
    · exact (Nat.add_eq_zero_iff.mp hzero).1
    · exact Fin.forall_fin_two.mpr
        ⟨deposit_side h0 (min_le_left ..), deposit_side h1 (min_le_right ..)⟩

lemma Booked.burn (h : Booked s) (hthis : this ≠ 0) (hsome : s.totalSupply ≠ 0) : let s' := { s with
      balanceOf := Function.update s.balanceOf this 0
      totalSupply := s.totalSupply - s.balanceOf this }
    Booked s' ∧ s'.totalSupply ≠ 0 := by
  intro s'
  have hsum := sum_update s.balanceOf this 0
  have hzero : s'.balanceOf 0 = s.balanceOf 0 := update_of_ne hthis.symm ..
  have htotal : ∑ a, s'.balanceOf a = s'.totalSupply := by
    have := h.sum
    dsimp only [s']
    omega
  have hfloor : MINIMUM_LIQUIDITY ≤ s'.balanceOf 0 := hzero ▸ h.floor hsome
  refine ⟨⟨htotal, fun _ => hfloor, h.unapproved⟩, ?_⟩
  have hle := single_le_sum (fun a _ => zero_le (s'.balanceOf a)) (mem_univ 0)
  rw [htotal] at hle
  exact ne_of_gt (lt_of_lt_of_le (by decide) (hfloor.trans hle))

lemma post_burn (hs : Sound s) (hthis : this ≠ 0) (hoff : m.feeTo = 0) :
    Post (burn this m dest) (fun _ => Kept s) s := by
  simp only [burn, LP.burn, LP.setBalance, trackK, post_locked, post_steps, post_sub,
    post_mintFee hoff, post_ite, post_div, post_lift, Nat.sub_self]
  intro _ hsome _ _ _ _
  have hbooked : Booked { s with unlocked := false, kLast := 0 } :=
    ⟨hs.sum, hs.floor, hs.unapproved⟩
  obtain ⟨hburned, hne⟩ := hbooked.burn hthis hsome
  refine (post_safeTransfer hburned).mono fun _ s₁ h₁ => ?_
  refine (post_safeTransfer h₁.1).mono fun _ s₂ h2 => ?_
  have hpaid := h₁.2.trans h2.2
  refine (post_update h2.1 (gains_of_sides ?_ ?_)).mono
    fun _ s' h => ⟨fun hon => (by cases hon), fun _ => h⟩ <;> dsimp only
  · rw [hpaid.supply]
    exact hne
  · rw [hpaid.supply]
    refine Fin.forall_fin_two.mpr ⟨withdraw_side (hs.covered 0) ?_, withdraw_side (hs.covered 1) ?_⟩
    · simpa [Pi.single_apply] using hpaid.balance 0
    · simpa [Pi.single_apply] using hpaid.balance 1

/-- Steps of a swap: some of the tokens may leave. -/
structure Handed (s s' : Pair) : Prop extends Booked s' where
  reserve : s'.reserve = s.reserve
  supply : s'.totalSupply = s.totalSupply

lemma post_transferOut (h : Booked s) :
    Post (transferOut this m n side dest value) (fun _ => Handed s) s := by
  refine post_ite.mpr ⟨fun _ => ?_, fun _ => post_pure.mpr ⟨h, rfl, rfl⟩⟩
  exact (post_safeTransfer h).mono fun _ _ h' => ⟨h'.1, h'.2.reserve, h'.2.supply⟩

lemma post_callback (h : Booked s) : Post (callback m hasData) (fun _ => Handed s) s := by
  refine post_ite.mpr ⟨fun _ => ?_, fun _ => post_pure.mpr ⟨h, rfl, rfl⟩⟩
  exact (post_interact h 2).mono fun _ _ h' => ⟨h'.1, h'.2.reserve, h'.2.supply⟩

lemma post_swap (hs : Sound s) {amount0Out amount1Out : Nat} :
    Post (swap this token m amount0Out amount1Out dest hasData) (fun _ => Kept s) s := by
  simp only [swap, post_locked, post_steps, post_sub, post_lift, require_eq_ok]
  intro _ _ _ _ _ _ _
  have hbooked : Booked { s with unlocked := false } := ⟨hs.sum, hs.floor, hs.unapproved⟩
  refine (post_transferOut hbooked).mono fun _ s₁ h₁ => ?_
  refine (post_transferOut h₁.toBooked).mono fun _ s₂ h2 => ?_
  refine (post_callback h2.toBooked).mono fun _ s3 h3 => ?_
  intro _ _ _ _ _ hK
  have hsupply : s3.totalSupply = s.totalSupply := (h3.supply.trans h2.supply).trans h₁.supply
  refine post_update h3.toBooked fun hne => gains_of_product (hsupply ▸ hne) ?_ hne
  dsimp only at hK ⊢
  rw [hsupply]
  refine mul_le_mul_right _ (le_of_mul_le_mul_right ?_ (by decide : 0 < 1000 ^ 2))
  -- the fee only makes the check harder
  calc s.reserve 0 * s.reserve 1 * 1000 ^ 2
      ≤ s3.balance 0 * 1000 * (s3.balance 1 * 1000) :=
        hK.trans (Nat.mul_le_mul (Nat.sub_le ..) (Nat.sub_le ..))
    _ = s3.balance 0 * s3.balance 1 * 1000 ^ 2 := by ring

lemma post_skim (hs : Sound s) : Post (skim this m dest) (fun _ => Kept s) s := by
  simp only [skim, post_locked, post_steps, post_sub]
  intro _ h0
  have hbooked : Booked { s with unlocked := false } := ⟨hs.sum, hs.floor, hs.unapproved⟩
  refine (post_safeTransfer hbooked).mono fun _ s₁ h₁ h1 => ?_
  refine (post_safeTransfer h₁.1).mono fun _ s₂ h2 => ?_
  have hpaid := h₁.2.trans h2.2
  refine ⟨⟨⟨h2.1.sum, h2.1.floor, h2.1.unapproved⟩, Fin.forall_fin_two.mpr ⟨?_, ?_⟩⟩,
    fun hne => ⟨hpaid.supply ▸ hne, ?_⟩⟩
  · have hout : s.balance 0 ≤ s₂.balance 0 + (s.balance 0 - s.reserve 0) := by
      simpa [Pi.single_apply] using hpaid.balance 0
    dsimp only
    rw [hpaid.reserve]
    dsimp only at h0 ⊢
    omega
  · have hout := h2.2.balance 1
    rw [Pi.single_eq_same] at hout
    dsimp only
    rw [h2.2.reserve]
    omega
  · rw [worth, worth, hpaid.reserve, hpaid.supply]

lemma post_sync (hs : Sound s) : Post (sync m) (fun _ => Kept s) s := by
  simp only [sync, post_locked, post_steps]
  intro _
  have hbooked : Booked { s with unlocked := false } := ⟨hs.sum, hs.floor, hs.unapproved⟩
  refine post_update hbooked fun hne => gains_of_sides hne (fun i => ?_) hne
  exact mul_le_mul_right _ (hs.covered i)

/-- **Every call keeps the pool's value.** -/
theorem post_perform (hs : Sound s) (hthis : this ≠ 0) {call : Context × Call}
    (hoff : call.1.feeTo = 0) : Post (perform this token call) (fun _ s' => Kept s s') s := by
  obtain ⟨m, call⟩ := call
  cases call with
  | mint => exact post_map.mpr (post_mint hs hoff)
  | burn => exact post_map.mpr (post_burn hs hthis hoff)
  | swap => exact post_swap hs
  | skim => exact post_skim hs
  | sync => exact post_sync hs
  | outside o =>
    refine (post_outside hs.toBooked o).mono fun _ s' h => ⟨⟨h.1, fun i => ?_⟩, fun hne => ?_⟩
    · rw [h.2.reserve]
      exact (hs.covered i).trans (h.2.balance i)
    · rw [worth, worth, h.2.reserve, h.2.supply]
      exact ⟨hne, le_rfl⟩

/-- **The pool's value never leaks.** From a pool without liquidity on, whatever the tokens say it
holds, for every sequence of calls with the protocol fee off, and whatever outsiders do during
them: once there is liquidity, its supply stays at least the minimum, the reserves stay covered by
the balances, and the product of the reserves over the square of the supply never falls. -/
theorem value_never_leaks (hthis : this ≠ 0) (held : Fin 2 → Nat)
    (calls later : List (Context × Call)) (hoff : ∀ call ∈ calls ++ later, call.1.feeTo = 0) :
    let s := attempts (perform this token) calls { balance := held }
    let s' := attempts (perform this token) (calls ++ later) { balance := held }
    0 < s.totalSupply → 1000 ≤ s'.totalSupply ∧ (∀ i, s'.reserve i ≤ s'.balance i) ∧
      s.worth ≤ s'.worth := by
  intro s s' hsome
  have hrun {calls : List (Context × Call)} {s : Pair} (hoff : ∀ call ∈ calls, call.1.feeTo = 0)
      (hs : Sound s) : Kept s (attempts (perform this token) calls s) :=
    attempts_rel (fun _ hne => ⟨hne, le_rfl⟩)
      (fun h h' hne => ⟨(h' (h hne).1).1, (h hne).2.trans (h' (h hne).1).2⟩)
      (fun call hcall s hs => post_perform hs hthis (hoff call hcall)) hs
  have hstart : Sound { balance := held } :=
    ⟨⟨by simp, fun hne => absurd rfl hne, fun _ => rfl⟩, fun _ => zero_le _⟩
  have hs : Sound s := (hrun (fun c hc => hoff c (mem_append_left _ hc)) hstart).1
  have hs' : Kept s s' := by
    have hlater := hrun (fun c hc => hoff c (mem_append_right calls hc)) hs
    rwa [← attempts_append] at hlater
  obtain ⟨hne, hK⟩ := hs'.2 (ne_of_gt hsome)
  refine ⟨(hs'.1.floor hne).trans ?_, hs'.1.covered, hK⟩
  rw [← hs'.1.sum]
  exact single_le_sum (fun a _ => zero_le (s'.balanceOf a)) (mem_univ 0)

/-- A first deposit, and then a donation that is synced. -/
theorem value_never_leaks_deposited : let calls : List (Context × Call) := [({}, .mint 7)]
    let later : List (Context × Call) := [({}, .outside (.donate 0 500)), ({}, .sync)]
    let s := attempts (perform 5 fun _ => 1) calls { balance := fun _ => 4000 }
    let s' := attempts (perform 5 fun _ => 1) (calls ++ later) { balance := fun _ => 4000 }
    (s.totalSupply = 4000 ∧ s'.reserve 0 = 4500) ∧ 1000 ≤ s'.totalSupply ∧
      (∀ i, s'.reserve i ≤ s'.balance i) ∧ s.worth ≤ s'.worth := by
  have hsome : (attempts (perform 5 fun _ => 1) [(({} : Context), .mint 7)]
      { balance := fun _ => 4000 }).totalSupply = 4000 := by decide +kernel
  exact ⟨⟨hsome, by decide +kernel⟩, value_never_leaks (by decide) _ [({}, .mint 7)] _ (by simp)
    (lt_of_lt_of_eq (by decide) hsome.symm)⟩

/-! ### The protocol fee -/

/-- The Babylonian step does not pass below the root. -/
lemma sqrt_le_step (hy : 0 < y) : x.sqrt ≤ (x / y + y) / 2 := by
  have hquot : 2 * x.sqrt - y ≤ x / y := by
    rw [Nat.le_div_iff_mul_le hy, Nat.sub_mul, Nat.sub_le_iff_le_add]
    calc 2 * x.sqrt * y ≤ x.sqrt * x.sqrt + y * y := by
          simpa only [sq] using two_mul_le_add_sq x.sqrt y
      _ ≤ x + y * y := Nat.add_le_add_right (Nat.sqrt_le x) _
  omega

lemma sqrtLoop_eq {z : Nat} (hpos : 0 < y.sqrt) (hz : y.sqrt ≤ z) (hx : y.sqrt ≤ x)
    (hstep : x < z ∨ x = (y / z + z) / 2) : sqrtLoop y z x = y.sqrt := by
  fun_induction sqrtLoop y z x with
  | case1 z x hlt ih => exact ih hx (sqrt_le_step (hpos.trans_le hx)) (.inr rfl)
  | case2 z x hge =>
    -- the step no longer goes down
    have hquot : z ≤ y / z := by omega
    exact le_antisymm (le_sqrt.mpr ((le_div_iff_mul_le (hpos.trans_le hz)).mp hquot)) hz

lemma sqrt_eq (y : Nat) : sqrt y = y.sqrt := by
  unfold sqrt
  split
  · have hroot : y.sqrt ≤ (y / 2 + 2) / 2 := sqrt_le_step (by decide)
    exact sqrtLoop_eq (sqrt_pos.mpr (by omega)) (sqrt_le_self y) (by omega)
      (.inl (by omega))
  · split <;> exact eq_sqrt.mpr ⟨by omega, by omega⟩

def Same (s s' : Pair) : Prop := s'.kLast = s.kLast ∧ s'.totalSupply = s.totalSupply

lemma Same.trans (h : Same s s₁) (h' : Same s₁ s₂) : Same s s₂ := ⟨h'.1.trans h.1, h'.2.trans h.2⟩

lemma same_outside (o : Outside) : Post (outside o) (fun _ => Same s) s := by
  cases o <;> simp [outside, approve, transfer, transferFrom, permit, setBalance, Same, post_ite]

lemma same_interact (n : Nat) : Post (interact m n) (fun _ => Same s) s :=
  post_modify.mpr (attempts_rel (R := Same) (I := fun _ => True) (fun _ => ⟨rfl, rfl⟩) Same.trans
    (fun o _ _ _ => (same_outside o).mono fun _ _ h => ⟨trivial, h⟩) trivial).2

lemma same_safeTransfer : Post (safeTransfer this m n side dest value) (fun _ => Same s) s := by
  simp only [safeTransfer, post_steps, post_lift, post_ite]
  refine fun _ _ => ⟨fun _ => ?_, fun _ => same_interact n⟩
  exact same_interact (s := { s with balance := _ }) n

lemma same_transferOut : Post (transferOut this m n side dest value) (fun _ => Same s) s :=
  post_ite.mpr ⟨fun _ => same_safeTransfer, fun _ => post_pure.mpr ⟨rfl, rfl⟩⟩

lemma same_callback : Post (callback m hasData) (fun _ => Same s) s :=
  post_ite.mpr ⟨fun _ => same_interact 2, fun _ => post_pure.mpr ⟨rfl, rfl⟩⟩

lemma same_update : Post (update m old) (fun _ => Same s) s := by simp [update, post_ite, Same]

/-- What a call does to the record. -/
@[mk_iff]
inductive Records (s s' : Pair) : Prop
  | same (h : Same s s')
  | cleared (h : s'.kLast = 0)
  | recorded (h : s'.kLast = s'.reserve 0 * s'.reserve 1)

lemma records_mint : Post (mint m dest) (fun _ => Records s) s := by
  simp [mint, mintFee, liquidityFor, update, trackK, records_iff, post_ite]

lemma records_burn : Post (burn this m dest) (fun _ => Records s) s := by
  have hfee {s : Pair} : Post (mintFee m) (fun feeOn s' => feeOn = false → s'.kLast = 0) s := by
    simp [mintFee, post_ite]
  simp only [burn, LP.burn, LP.setBalance, post_locked, post_steps, post_sub, post_div, post_lift]
  intro _
  refine hfee.mono fun feeOn s₁ h => ?_
  intro _ _ _ _ _
  refine same_safeTransfer.mono fun _ s₂ h2 => ?_
  refine same_safeTransfer.mono fun _ s₃ h3 => ?_
  refine same_update.mono fun _ s₄ h4 => ?_
  cases feeOn with
  | false => simpa [trackK] using .cleared (((h2.trans h3).trans h4).1.trans (h rfl))
  | true => simp [trackK, records_iff]

lemma records_perform {call : Context × Call} :
    Post (perform this token call) (fun _ => Records s) s := by
  obtain ⟨m, call⟩ := call
  cases call with
  | mint => exact post_map.mpr records_mint
  | burn => exact post_map.mpr records_burn
  | swap =>
    simp only [perform, swap, post_locked, post_steps, post_sub, post_lift]
    intro _ _ _ _ _ _ _
    refine same_transferOut.mono fun _ s₁ h₁ => ?_
    refine same_transferOut.mono fun _ s₂ h2 => ?_
    refine same_callback.mono fun _ s₃ h3 _ _ _ _ _ _ => ?_
    exact same_update.mono fun _ _ h4 => .same (((h₁.trans h2).trans h3).trans h4)
  | skim =>
    simp only [perform, skim, post_locked, post_steps, post_sub]
    intro _ _
    refine same_safeTransfer.mono fun _ s₁ h₁ _ => ?_
    exact same_safeTransfer.mono fun _ _ h2 => .same (h₁.trans h2)
  | sync =>
    simp only [perform, sync, post_locked, post_steps]
    exact fun _ => same_update.mono fun _ _ h => .same h
  | outside o => exact (same_outside o).mono fun _ _ => .same

structure Record (run : List (Context × Call) → Pair) (before after : List (Context × Call)) :
    Prop where
  kLast : (run before).kLast = (run before).reserve 0 * (run before).reserve 1
  same : ∀ mid, mid <+: after → Same (run before) (run (before ++ mid))

lemma exists_record (hstart : s.kLast = 0) (calls : List (Context × Call)) :
    (attempts (perform this token) calls s).kLast = 0 ∨ ∃ before after,
      calls = before ++ after ∧ Record (attempts (perform this token) · s) before after := by
  induction calls using reverseRecOn with
  | nil => exact .inl hstart
  | append_singleton calls call ih =>
    have hstep : Records (attempts (perform this token) calls s)
        (attempts (perform this token) (calls ++ [call]) s) := by
      rw [attempts_append]
      exact attempt_of_post (.same ⟨rfl, rfl⟩) records_perform
    rcases hstep with hsame | hzero | hnew
    · rcases ih with hzero | ⟨before, after, rfl, hrecord⟩
      · exact .inl (hsame.1.trans hzero)
      · refine .inr ⟨before, after ++ [call], by simp, hrecord.kLast, fun mid hmid => ?_⟩
        rcases prefix_concat_iff.mp hmid with rfl | hmid
        · rw [← append_assoc]
          exact (hrecord.same after prefix_rfl).trans hsame
        · exact hrecord.same mid hmid
    · exact .inl hzero
    · refine .inr ⟨calls ++ [call], [], by simp, hnew, fun mid hmid => ?_⟩
      rw [prefix_nil.mp hmid, append_nil]
      exact ⟨rfl, rfl⟩

lemma fee_share {rootK root : Nat} (hlt : root < rootK) :
    let liquidity := supply * (rootK - root) / (rootK * 5 + root)
    6 * liquidity * rootK ≤ (rootK - root) * (supply + liquidity) ∧
      root * (supply + liquidity) ≤ rootK * supply := by
  intro liquidity
  have hquot : liquidity * (rootK * 5 + root) ≤ supply * (rootK - root) := Nat.div_mul_le_self ..
  obtain ⟨d, rfl⟩ := Nat.exists_eq_add_of_lt hlt
  rw [show root + d + 1 - root = d + 1 by omega] at hquot ⊢
  constructor <;> nlinarith

lemma post_mintFee_share : Post (mintFee m) (fun _ s' => s'.totalSupply ≠ s.totalSupply →
    let rootK := sqrt (s.reserve 0 * s.reserve 1)
    s.kLast ≠ 0 ∧ s.totalSupply < s'.totalSupply ∧
      6 * (s'.totalSupply - s.totalSupply) * rootK ≤ (rootK - sqrt s.kLast) * s'.totalSupply ∧
      sqrt s.kLast * s'.totalSupply ≤ rootK * s.totalSupply) s := by
  simp only [mintFee, post_steps, post_ite, post_lpMint, ne_eq, not_true, false_imp_iff,
    implies_true, and_true]
  intro _ hk hlt hpos _
  rw [Nat.add_sub_cancel_left]
  exact ⟨hk, Nat.lt_add_of_pos_right hpos, fee_share hlt⟩

/-- **The protocol fee is bounded.** After any calls, with the fee switched on and off at any times:
whenever the fee of a deposit or withdrawal is minted, the supply has not changed since `kLast` was
recorded, the minted share of the supply is at most a sixth of the growth of the root since then,
and the root per share is no less than it was then. -/
theorem fee_bounded (held : Fin 2 → Nat) (calls : List (Context × Call)) (m : Context) :
    let run calls := attempts (perform this token) calls { balance := held }
    let s := { run calls with unlocked := false }
    (∀ y, sqrt y = y.sqrt) ∧ Post (mintFee m) (fun _ s' => s'.totalSupply ≠ s.totalSupply →
      ∃ before after, calls = before ++ after ∧ Record run before after ∧ let r := run before
        let rootK := sqrt (s.reserve 0 * s.reserve 1)
        let root := sqrt (r.reserve 0 * r.reserve 1)
        r.totalSupply < s'.totalSupply ∧
          6 * (s'.totalSupply - r.totalSupply) * rootK ≤ (rootK - root) * s'.totalSupply ∧
          root * s'.totalSupply ≤ rootK * r.totalSupply) s := by
  intro run s
  refine ⟨sqrt_eq, post_mintFee_share.mono fun _ s' hshare hne => ?_⟩
  obtain ⟨hk, hfee⟩ := hshare hne
  obtain ⟨before, after, rfl, hrecord⟩ := (exists_record rfl calls).resolve_left hk
  obtain ⟨hkLast, hsupply⟩ := hrecord.same after prefix_rfl
  refine ⟨before, after, rfl, hrecord, ?_⟩
  dsimp only [run, s] at hfee ⊢
  rwa [hkLast, hsupply, hrecord.kLast] at hfee

-- the root of the reserves grows from 4000 to 5656
example :
    let s := attempts (perform 5 fun _ => 1) [({ feeTo := 9 }, .mint 7),
      ({}, .outside (.donate 0 4000)), ({}, .sync)] { balance := fun _ => 4000 }
    s.totalSupply = 4000 ∧ (attempt (mintFee { feeTo := 9 }) s).totalSupply = 4205 := by
  decide +kernel

end Ferminux.Dex
