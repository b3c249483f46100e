import Ferminux.Hub.Slashing
import Mathlib.Algebra.BigOperators.Intervals
import Mathlib.Algebra.Order.BigOperators.Group.Finset
import Mathlib.Data.FinEnum

/-!
# Hub.Solvency

**The hub's books add up, and its balance covers them.** The totals the hub keeps are the sums of
what it keeps by seat and by account, what has come in is there, paid out or slashed, and the
balance is the five amounts the hub owes and what was forced on it.
-/

namespace Ferminux.Hub

open Lib Relation Finset Books Nat

attribute [local irreducible] Books.withSeat

variable {H : Type} {K : Deployment H} {b b' : Books H} {number amount : Nat}

/-! ### Seats that have not been opened -/

/-- The seat has been opened. -/
def Books.IsSeat (b : Books H) (seatId : Nat) : Prop := 1 ≤ seatId ∧ seatId ≤ b.seatCount

/-- Seats that have not been opened are blank. -/
def Blank (b : Books H) : Prop := ∀ seatId, ¬ b.IsSeat seatId → b.seats seatId = {}

variable {seatId : Nat} {live : Nat → Option Nat}

namespace Blank

variable (h : Blank b)
include h

lemma isSeat (hs : b.seats seatId ≠ {}) : b.IsSeat seatId :=
  not_not.mp fun hout => hs (h seatId hout)

lemma isSeat_of_status {status : Status}
    (hs : (b.seats seatId).status = status) (hne : status ≠ .NONE) : b.IsSeat seatId :=
  h.isSeat fun hblank => hne (by rw [← hs, hblank])

lemma frame (hseats : b'.seats = b.seats) (hcount : b'.seatCount = b.seatCount) : Blank b' := by
  intro seatId hout
  rw [Books.IsSeat, hcount] at hout
  rw [hseats]
  exact h seatId hout

lemma reseat {f : Seat → Seat}
    (hseats : b'.seats = b.withSeat seatId f) (hin : 1 ≤ seatId ∧ seatId ≤ b'.seatCount)
    (hcount : b.seatCount ≤ b'.seatCount) : Blank b' := by
  intro i hout
  have hne : i ≠ seatId := fun heq => hout (heq ▸ hin)
  rw [hseats, b.withSeat_of_ne hne]
  exact h i fun hi => hout ⟨hi.1, hi.2.trans hcount⟩

lemma change (hs : Slashing b live) (hc : Change K number b b') : Blank b' := by
  cases hc with
  | rotate hbonded | applyRotation hbonded | setSigningKey hbonded | list hbonded | exit hbonded
  | jail _ hbonded | unjail hbonded | unjailCount hbonded =>
    exact h.reseat rfl (h.isSeat_of_status hbonded (by decide)) le_rfl
  | setPayee _ howner =>
    exact h.reseat rfl (h.isSeat fun hblank => howner (by rw [hblank])) le_rfl
  | delist hqualified =>
    exact h.reseat rfl (h.isSeat fun hblank => by simp [hblank] at hqualified) le_rfl
  | count _ _ hbonded | attest _ _ hbonded =>
    exact h.reseat rfl (h.isSeat_of_status hbonded (by decide)) le_rfl
  | propose _ _ _ _ hexiting =>
    exact h.reseat rfl (h.isSeat_of_status hexiting (by decide)) le_rfl
  | veto hpending =>
    exact h.reseat rfl (h.isSeat_of_status (hs.pending hpending).2.1 (by decide)) le_rfl
  | _ => exact h.frame rfl rfl

lemma receipt (hr : Receipt number amount b b') : Blank b' := by
  cases hr with
  | openSeat => exact h.reseat rfl ⟨succ_pos _, le_rfl⟩ (le_succ _)
  | _ => exact h.frame rfl rfl

lemma payout (hs : Slashing b live) (hp : Payout amount b b') : Blank b' := by
  cases hp with
  | withdraw hexiting => exact h.reseat rfl (h.isSeat_of_status hexiting (by decide)) le_rfl
  | claim hpos hamount =>
    refine h.reseat rfl (h.isSeat fun hblank => hpos ?_) le_rfl
    rw [hblank] at hamount
    exact le_zero.mp hamount
  | slash hpending =>
    exact h.reseat rfl (h.isSeat_of_status (hs.pending hpending).2.1 (by decide)) le_rfl
  | _ => exact h.frame rfl rfl

end Blank

lemma Reachable.blank [Zero H] {s : Stage H} (h : Reachable K s) : Blank s.books := by
  refine h.invariant ?change ?receipt ?payout ?new
  case new =>
    intro b hb
    rw [hb.rest]
    exact fun _ _ => rfl
  case change =>
    intro b b' number hrun hb hc
    obtain ⟨live, hs⟩ := hrun.slashing
    exact hb.change hs hc
  case receipt => exact fun _ hb hr => hb.receipt hr
  case payout =>
    intro b b' number amount hrun hb hp
    obtain ⟨live, hs⟩ := hrun.slashing
    exact hb.payout hs hp

/-! ### Sums over the seats -/

lemma Books.sum_withSeat (b : Books H) (hin : b.IsSeat seatId) (p : Seat → Nat) (f : Seat → Seat) :
    ∑ i ∈ Finset.Icc 1 b.seatCount, p (b.withSeat seatId f i) + p (b.seats seatId) =
      ∑ i ∈ Finset.Icc 1 b.seatCount, p (b.seats i) + p (f (b.seats seatId)) := by
  have hmem : seatId ∈ Finset.Icc 1 b.seatCount := mem_Icc.mpr hin
  rw [← add_sum_erase _ _ hmem, ← add_sum_erase _ (fun i => p (b.seats i)) hmem, b.withSeat_self]
  have hrest : ∑ i ∈ (Finset.Icc 1 b.seatCount).erase seatId, p (b.withSeat seatId f i) =
      ∑ i ∈ (Finset.Icc 1 b.seatCount).erase seatId, p (b.seats i) :=
    sum_congr rfl fun i hi => by rw [b.withSeat_of_ne (ne_of_mem_erase hi)]
  rw [hrest]
  ring

lemma Books.sum_withSeat_succ (b : Books H) (p : Seat → Nat) (f : Seat → Seat) :
    ∑ i ∈ Finset.Icc 1 (b.seatCount + 1), p (b.withSeat (b.seatCount + 1) f i) =
      ∑ i ∈ Finset.Icc 1 b.seatCount, p (b.seats i) + p (f (b.seats (b.seatCount + 1))) := by
  rw [sum_Icc_succ_top (succ_le_succ (zero_le _)), b.withSeat_self]
  congr 1
  refine sum_congr rfl fun i hi => ?_
  have hle := (mem_Icc.mp hi).2
  rw [b.withSeat_of_ne (by omega)]

lemma Books.le_sum (b : Books H) (hin : b.IsSeat seatId) (p : Seat → Nat) :
    p (b.seats seatId) ≤ ∑ i ∈ Finset.Icc 1 b.seatCount, p (b.seats i) :=
  single_le_sum (fun i _ => zero_le (p (b.seats i))) (mem_Icc.mpr hin)

lemma sum_credits_update (credits : Address → Nat) (account : Address) (n : Nat) :
    ∑ a, Function.update credits account n a + credits account = ∑ a, credits a + n := by
  rw [sum_update_of_mem (mem_univ account),
    ← add_sum_erase _ credits (mem_univ account), sdiff_singleton_eq_erase]
  ring

/-! ### Conservation -/

/-- What the sums read of a seat. -/
def Seat.holdings (x : Seat) : Nat × Nat := (x.deposit, x.claimable)

/-- What the sums read of the totals. -/
def Accounting.held (a : Accounting) : Nat × Nat × Nat × Nat × Nat × Nat × Nat × Nat :=
  (a.totalDeposited, a.totalWithdrawn, a.totalSlashed, a.totalCredits, a.totalFunded,
    a.totalClaimable, a.totalClaimed, a.totalReturned)

/-- **The books add up.** -/
structure Conserved (b : Books H) : Prop where
  bonded : b.bondedTotal = ∑ i ∈ Finset.Icc 1 b.seatCount, (b.seats i).deposit
  claimable : b.acct.totalClaimable = ∑ i ∈ Finset.Icc 1 b.seatCount, (b.seats i).claimable
  credits : b.acct.totalCredits = ∑ a, b.credits a
  deposited : b.acct.totalDeposited = b.bondedTotal + b.acct.totalWithdrawn + b.acct.totalSlashed
  funded : b.acct.totalFunded =
    b.rewardPool + b.acct.totalClaimable + b.acct.totalClaimed + b.acct.totalReturned

namespace Conserved

variable (h : Conserved b)
include h

lemma frame (hseats : ∀ i, (b'.seats i).holdings = (b.seats i).holdings)
    (hcount : b'.seatCount = b.seatCount) (hbonded : b'.bondedTotal = b.bondedTotal)
    (hpool : b'.rewardPool = b.rewardPool) (hcredits : b'.credits = b.credits)
    (hacct : b'.acct.held = b.acct.held) : Conserved b' := by
  simp only [Seat.holdings, Prod.mk.injEq] at hseats
  simp only [Accounting.held, Prod.mk.injEq] at hacct
  obtain ⟨hd, hw, hs, hc, hf, hcl, hcd, hr⟩ := hacct
  constructor
  · simp [hbonded, hcount, (hseats _).1, h.bonded]
  · simp [hcl, hcount, (hseats _).2, h.claimable]
  · rw [hc, hcredits, h.credits]
  · rw [hd, hbonded, hw, hs, h.deposited]
  · rw [hf, hpool, hcl, hcd, hr, h.funded]

lemma attestedBy (hin : b.IsSeat seatId) (height : Nat) :
    Conserved (b.attestedBy number seatId height) := by
  have hle := b.rewardNow_le number
  have hclaimable := b.sum_withSeat hin Seat.claimable fun x =>
    { x with
      lastAttestedCp := height / CHECKPOINT_INTERVAL
      claimable := x.claimable + b.rewardNow number }
  constructor
  · refine h.bonded.trans (sum_congr rfl fun i _ => ?_)
    exact (b.withSeat_same Seat.deposit rfl i).symm
  · have := h.claimable
    simp only [Books.attestedBy] at hclaimable ⊢
    omega
  · exact h.credits
  · exact h.deposited
  · have := h.funded
    simp only [Books.attestedBy]
    omega

lemma opened (hb : Blank b) (sender attester : Address) :
    Conserved (b.opened number sender attester) := by
  have hnew : b.seats (b.seatCount + 1) = {} := hb _ fun hin => not_succ_le_self _ hin.2
  constructor
  · have hsum := h.bonded
    simp only [Books.opened, b.sum_withSeat_succ Seat.deposit]
    omega
  · have hsum := h.claimable
    simp only [Books.opened, b.sum_withSeat_succ Seat.claimable, hnew]
    omega
  · exact h.credits
  · have hdeposited := h.deposited
    simp only [Books.opened]
    omega
  · exact h.funded

lemma withdrawn (hin : b.IsSeat seatId) : Conserved (b.withdrawn seatId) := by
  have hle := b.le_sum hin Seat.deposit
  have hsum := b.sum_withSeat hin Seat.deposit fun x => { x with status := .WITHDRAWN, deposit := 0 }
  have hbonded := h.bonded
  constructor
  · simp only [Books.withdrawn] at hsum ⊢
    omega
  · refine h.claimable.trans (sum_congr rfl fun i _ => ?_)
    exact (b.withSeat_same Seat.claimable rfl i).symm
  · exact h.credits
  · have hdeposited := h.deposited
    simp only [Books.withdrawn]
    omega
  · exact h.funded

lemma claimed (hin : b.IsSeat seatId)
    (hamount : amount ≤ (b.seats seatId).claimable) : Conserved (b.claimed seatId amount) := by
  have hle := b.le_sum hin Seat.claimable
  have hsum := b.sum_withSeat hin Seat.claimable fun x => { x with claimable := x.claimable - amount }
  have hclaimable := h.claimable
  constructor
  · refine h.bonded.trans (sum_congr rfl fun i _ => ?_)
    exact (b.withSeat_same Seat.deposit rfl i).symm
  · simp only [Books.claimed] at hsum ⊢
    omega
  · exact h.credits
  · exact h.deposited
  · have hfunded := h.funded
    simp only [Books.claimed]
    omega

lemma slashed {slashId : Nat} (hin : b.IsSeat (b.slashes slashId).seatId)
    (hamount : (b.slashes slashId).amount ≤ (b.seats (b.slashes slashId).seatId).deposit) :
    Conserved (b.slashed slashId) := by
  have hle := b.le_sum hin Seat.deposit
  have hsum := b.sum_withSeat hin Seat.deposit fun x =>
    { x with deposit := x.deposit - (b.slashes slashId).amount, slashState := .SLASH_EXECUTED }
  have hbonded := h.bonded
  constructor
  · simp only [Books.slashed] at hsum ⊢
    omega
  · refine h.claimable.trans (sum_congr rfl fun i _ => ?_)
    exact (b.withSeat_same Seat.claimable rfl i).symm
  · have hcredits := sum_credits_update b.credits (b.slashes slashId).reporter
      (b.credits (b.slashes slashId).reporter + b.toReporter slashId)
    have htotal := h.credits
    simp only [Books.slashed]
    omega
  · have hdeposited := h.deposited
    simp only [Books.slashed]
    omega
  · exact h.funded

lemma creditTaken (account : Address) : Conserved (b.creditTaken account) := by
  constructor
  · exact h.bonded
  · exact h.claimable
  · have hcredits := sum_credits_update b.credits account 0
    have htotal := h.credits
    simp only [Books.creditTaken]
    omega
  · exact h.deposited
  · exact h.funded

lemma change (hb : Blank b) (hc : Change K number b b') : Conserved b' := by
  cases hc with
  | attest _ _ hbonded => exact h.attestedBy (hb.isSeat_of_status hbonded (by decide)) _
  | _ => exact h.frame (by intro; first | rfl | exact b.withSeat_same _ rfl _) rfl rfl rfl rfl rfl

lemma receipt (hb : Blank b) (hr : Receipt number amount b b') : Conserved b' := by
  cases hr with
  | fund =>
    have hfunded := h.funded
    refine ⟨h.bonded, h.claimable, h.credits, h.deposited, ?_⟩
    simp only [Books.funded]
    omega
  | openSeat => exact h.opened hb _ _
  | unburnt => exact h.frame (fun _ => rfl) rfl rfl rfl rfl rfl

lemma payout (hb : Blank b) (hs : Slashing b live) (hp : Payout amount b b') : Conserved b' := by
  cases hp with
  | giveBack =>
    have hfunded := h.funded
    refine ⟨h.bonded, h.claimable, h.credits, h.deposited, ?_⟩
    simp only [givenBack]
    omega
  | withdraw hexiting => exact h.withdrawn (hb.isSeat_of_status hexiting (by decide))
  | claim hpos hamount =>
    refine h.claimed (hb.isSeat fun hblank => hpos ?_) hamount
    rw [hblank] at hamount
    exact le_zero.mp hamount
  | slash hpending hamount =>
    exact h.slashed (hb.isSeat_of_status (hs.pending hpending).2.1 (by decide)) hamount
  | credit => exact h.creditTaken _
  | flush => exact h.frame (fun _ => rfl) rfl rfl rfl rfl rfl

end Conserved

lemma Reachable.conserved [Zero H] {s : Stage H} (h : Reachable K s) : Conserved s.books := by
  refine h.invariant ?change ?receipt ?payout ?new
  case new =>
    intro b hb
    rw [hb.rest]
    constructor <;> simp
  case change => exact fun hrun hb hc => hb.change hrun.blank hc
  case receipt => exact fun hrun hb hr => hb.receipt hrun.blank hr
  case payout =>
    intro b b' number amount hrun hb hp
    obtain ⟨live, hs⟩ := hrun.slashing
    exact hb.payout hrun.blank hs hp

namespace Deployment

/-- **Conservation and solvency.** Whenever somebody else has control, also in the middle of a
payment, the totals are the sums over the seats and the accounts, what was deposited and what was
funded is accounted for, and the balance is at least what the hub owes, with equality unless FMX
was forced on it. -/
theorem conserved_and_solvent (K : Deployment H) [DecidableEq H] [Zero H] {w : State H}
    (h : K.Moment w) :
    let b := w.store.toBooks
    b.bondedTotal = ∑ seatId ∈ Finset.Icc 1 b.seatCount, (b.seats seatId).deposit ∧
    b.acct.totalClaimable = ∑ seatId ∈ Finset.Icc 1 b.seatCount, (b.seats seatId).claimable ∧
    b.acct.totalCredits = ∑ account, b.credits account ∧
    b.acct.totalDeposited = b.bondedTotal + b.acct.totalWithdrawn + b.acct.totalSlashed ∧
    b.acct.totalFunded =
      b.rewardPool + b.acct.totalClaimable + b.acct.totalClaimed + b.acct.totalReturned ∧
    b.bondedTotal + b.rewardPool + b.acct.totalClaimable + b.acct.totalCredits +
      b.acct.pendingBurn ≤ w.env.balance ∧
    (w.env.forced = 0 → w.env.balance = b.bondedTotal + b.rewardPool + b.acct.totalClaimable +
      b.acct.totalCredits + b.acct.pendingBurn) := by
  have hconserved := h.reachable.conserved
  have hbalance : w.env.balance = w.store.toBooks.owed + w.env.forced := h.balance
  rw [owed] at hbalance
  refine ⟨hconserved.bonded, hconserved.claimable, hconserved.credits, hconserved.deposited,
    hconserved.funded, ?_, fun hforced => ?_⟩ <;> omega

/-- The hub with two seats and a reward pool. -/
def sampleFunded : State Digest :=
  ([sampleSeat 41 51, sampleSeat 42 52, .call 43 (10 ^ 21) .fund].foldlM sampleHub.perform
    sampleNew).get (by decide +kernel)

lemma sampleFunded_moment : sampleHub.Moment sampleFunded :=
  moment_of_perform sampleNew_deployed (Option.some_get _).symm

/-- Two seats are open, and the pool is funded. -/
theorem conserved_and_solvent_funded :
    sampleFunded.store.bondedTotal = 2 * SEAT_DEPOSIT ∧
    ∑ seatId ∈ Finset.Icc 1 sampleFunded.store.seatCount, (sampleFunded.store.seats seatId).deposit =
      2 * SEAT_DEPOSIT ∧ sampleFunded.env.balance = 5000 * 10 ^ 18 := by
  obtain ⟨hbonded, -, -, -, -, -, hbalance⟩ := conserved_and_solvent sampleHub sampleFunded_moment
  have htotal : sampleFunded.store.bondedTotal = 2 * SEAT_DEPOSIT := by decide +kernel
  refine ⟨htotal, hbonded.symm.trans htotal, ?_⟩
  rw [hbalance (by decide +kernel)]
  decide +kernel

end Deployment

end Ferminux.Hub
