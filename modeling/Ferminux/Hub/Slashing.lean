import Ferminux.Hub.Runs

/-!
# Hub.Slashing

**The life of a slash.** Over its whole life a seat is named by at most one slash record that is
pending or executed, and its own slash state says which; a pending one keeps the seat in its
unbond with the whole deposit, so that executing the slash cannot fail and withdrawing the deposit
cannot come first.
-/

open Function (update_of_ne update_self update)

namespace Ferminux.Hub

open Lib Relation

variable {H : Type}

attribute [local irreducible] Books.withSeat

/-! ### Seats and the records that name them -/

def MAX_SLASH : Nat := SEAT_DEPOSIT * SLASH_BPS / BPS

def Slash.live (sl : Slash) : Prop := sl.status = .SLASH_PENDING ∨ sl.status = .SLASH_EXECUTED

/-- What slashing reads of a seat. -/
def Seat.custody (x : Seat) : Status × SlashStatus × Nat := (x.status, x.slashState, x.deposit)

/-- The seat agrees with the live slash that names it, if there is one. -/
def Seat.Fine (x : Seat) : Option Slash → Prop
  | none => x.slashState = .SLASH_NONE ∧
      (x.status = .BONDED ∨ x.status = .EXITING → x.deposit = SEAT_DEPOSIT)
  | some sl => sl.live ∧ x.slashState = sl.status ∧ x.status ≠ .BONDED ∧
      (sl.status = .SLASH_PENDING → x.status = .EXITING ∧ x.deposit = SEAT_DEPOSIT) ∧
      (sl.status = .SLASH_EXECUTED → x.status = .EXITING → x.deposit + sl.amount = SEAT_DEPOSIT)

/-- The slash records and the seats agree, where `live` says which record names a seat. -/
structure Slashing (b : Books H) (live : Nat → Option Nat) : Prop where
  out : ∀ seatId, ¬ (1 ≤ seatId ∧ seatId ≤ b.seatCount) →
    (b.seats seatId).status = .NONE ∧ (b.seats seatId).slashState = .SLASH_NONE
  seat : ∀ seatId, (b.seats seatId).Fine ((live seatId).map b.slashes)
  record : ∀ slashId, (b.slashes slashId).live → live (b.slashes slashId).seatId = some slashId
  names : ∀ seatId slashId, live seatId = some slashId → (b.slashes slashId).seatId = seatId
  fresh : ∀ slashId, b.slashCount < slashId → ¬ (b.slashes slashId).live
  amount : ∀ slashId, (b.slashes slashId).amount ≤ MAX_SLASH

variable {o : Option Slash} {x : Seat}

lemma Seat.Fine.congr {y : Seat} (h : x.Fine o) (hxy : y.custody = x.custody) : y.Fine o := by
  simp only [custody, Prod.mk.injEq] at hxy
  obtain ⟨hstatus, hslash, hdeposit⟩ := hxy
  cases o <;> simpa only [Fine, hstatus, hslash, hdeposit] using h

lemma Seat.Fine.eq_none (h : x.Fine o) (hslash : x.slashState = .SLASH_NONE) : o = none := by
  cases o with
  | none => rfl
  | some =>
    obtain ⟨hlive, hstate, -⟩ := h
    rw [hslash] at hstate
    rw [Slash.live, ← hstate] at hlive
    simp at hlive

lemma Seat.Fine.eq_none_of_bonded (h : x.Fine o) (hbonded : x.status = .BONDED) : o = none := by
  cases o with
  | none => rfl
  | some => exact absurd hbonded h.2.2.1

variable {seatId : Nat} {slashId : Nat}

namespace Slashing

variable {K : Deployment H} {b b' : Books H} {number amount : Nat} {live : Nat → Option Nat}
  (hpending : (b.slashes slashId).status = .SLASH_PENDING)

section

variable (h : Slashing b live) {f : Seat → Seat}
include h

lemma frame (hseats : ∀ i, (b'.seats i).custody = (b.seats i).custody)
    (hcount : b'.seatCount = b.seatCount) (hslashes : b'.slashes = b.slashes)
    (hn : b'.slashCount = b.slashCount) : Slashing b' live where
  out i hi := by
    have hcustody := hseats i
    simp only [Seat.custody, Prod.mk.injEq] at hcustody
    rw [hcount] at hi
    rw [hcustody.1, hcustody.2.1]
    exact h.out i hi
  seat i := by
    rw [hslashes]
    exact (h.seat i).congr (hseats i)
  record := hslashes ▸ h.record
  names := hslashes ▸ h.names
  fresh := hslashes ▸ hn ▸ h.fresh
  amount := hslashes ▸ h.amount

lemma isOpen {status : Status} (hs : (b.seats seatId).status = status) (hne : status ≠ .NONE) :
    1 ≤ seatId ∧ seatId ≤ b.seatCount := by
  by_contra hout
  exact hne (hs.symm.trans (h.out seatId hout).1)

lemma reseat (hseats : b'.seats = b.withSeat seatId f)
    (hfine : (f (b.seats seatId)).Fine ((live seatId).map b.slashes))
    (hin : 1 ≤ seatId ∧ seatId ≤ b'.seatCount) (hcount : b.seatCount ≤ b'.seatCount)
    (hslashes : b'.slashes = b.slashes) (hn : b'.slashCount = b.slashCount) : Slashing b' live where
  out i hi := by
    have hne : i ≠ seatId := fun heq => hi (heq ▸ hin)
    rw [hseats, b.withSeat_of_ne hne]
    exact h.out i fun hi' => hi ⟨hi'.1, hi'.2.trans hcount⟩
  seat i := by
    rw [hslashes, hseats]
    by_cases hi : i = seatId
    · rw [hi, b.withSeat_self]
      exact hfine
    · rw [b.withSeat_of_ne hi]
      exact h.seat i
  record := hslashes ▸ h.record
  names := hslashes ▸ h.names
  fresh := hslashes ▸ hn ▸ h.fresh
  amount := hslashes ▸ h.amount

lemma rerecord {o : Option Nat} {sl : Slash} (hseats : b'.seats = b.withSeat seatId f)
    (hcount : b'.seatCount = b.seatCount)
    (hslashes : b'.slashes = update b.slashes slashId sl) (hnames : sl.seatId = seatId)
    (hin : 1 ≤ seatId ∧ seatId ≤ b.seatCount) (hold : ∀ i, live i = some slashId → i = seatId)
    (hfree : ∀ j, live seatId = some j → j = slashId)
    (ho : sl.live ∧ o = some slashId ∨ ¬ sl.live ∧ o = none)
    (hfine : (f (b.seats seatId)).Fine (o.map fun _ => sl)) (hamount : sl.amount ≤ MAX_SLASH)
    (hn : b.slashCount ≤ b'.slashCount) (hk : slashId ≤ b'.slashCount) :
    Slashing b' (update live seatId o) where
  out i hi := by
    rw [hcount] at hi
    have hne : i ≠ seatId := fun heq => hi (heq ▸ hin)
    rw [hseats, b.withSeat_of_ne hne]
    exact h.out i hi
  seat i := by
    rw [hslashes, hseats]
    by_cases hi : i = seatId
    · subst hi
      rw [update_self, b.withSeat_self]
      rcases ho with ⟨-, rfl⟩ | ⟨-, rfl⟩ <;> simpa using hfine
    · rw [update_of_ne hi, b.withSeat_of_ne hi]
      have hseat := h.seat i
      cases hl : live i with
      | none => simpa [hl] using hseat
      | some j =>
        have hj : j ≠ slashId := fun heq => hi (hold i (heq ▸ hl))
        simpa [hl, update_of_ne hj] using hseat
  record j hj := by
    rw [hslashes] at hj ⊢
    by_cases hjk : j = slashId
    · subst hjk
      rw [update_self] at hj ⊢
      rw [hnames, update_self]
      rcases ho with ⟨-, rfl⟩ | ⟨hdead, -⟩
      · rfl
      · exact absurd hj hdead
    · rw [update_of_ne hjk] at hj ⊢
      have hlive := h.record j hj
      have hne : (b.slashes j).seatId ≠ seatId := fun heq => hjk (hfree j (heq ▸ hlive))
      rw [update_of_ne hne, hlive]
  names i j hij := by
    rw [hslashes]
    by_cases hi : i = seatId
    · subst hi
      rw [update_self] at hij
      rcases ho with ⟨-, rfl⟩ | ⟨-, rfl⟩ <;> cases hij
      rw [update_self, hnames]
    · rw [update_of_ne hi] at hij
      have hj : j ≠ slashId := fun heq => hi (hold i (heq ▸ hij))
      rw [update_of_ne hj]
      exact h.names i j hij
  fresh j hj := by
    have hjk : j ≠ slashId := by omega
    rw [hslashes, update_of_ne hjk]
    exact h.fresh j (by omega)
  amount j := by
    rw [hslashes]
    by_cases hjk : j = slashId
    · rw [hjk, update_self]
      exact hamount
    · rw [update_of_ne hjk]
      exact h.amount j

include hpending in
lemma pending : live (b.slashes slashId).seatId = some slashId ∧
      (b.seats (b.slashes slashId).seatId).status = .EXITING ∧
      (b.seats (b.slashes slashId).seatId).slashState = .SLASH_PENDING ∧
      (b.seats (b.slashes slashId).seatId).deposit = SEAT_DEPOSIT := by
  have hlive := h.record slashId (.inl hpending)
  have hfine := h.seat (b.slashes slashId).seatId
  rw [hlive] at hfine
  obtain ⟨-, hstate, -, hwhole, -⟩ := hfine
  exact ⟨hlive, (hwhole hpending).1, hstate.trans hpending, (hwhole hpending).2⟩

lemma whole (hslash : (b.seats seatId).slashState = .SLASH_NONE)
    (hs : (b.seats seatId).status = .BONDED ∨ (b.seats seatId).status = .EXITING) :
    live seatId = none ∧ (b.seats seatId).deposit = SEAT_DEPOSIT := by
  have hfine := h.seat seatId
  have hnone := hfine.eq_none hslash
  rw [hnone] at hfine
  exact ⟨by simpa using hnone, hfine.2 hs⟩

lemma pending_iff (seatId : Nat) : (b.seats seatId).slashState = .SLASH_PENDING ↔
      ∃! slashId, (b.slashes slashId).status = .SLASH_PENDING ∧
        (b.slashes slashId).seatId = seatId := by
  constructor
  · intro hslash
    have hfine := h.seat seatId
    cases hl : live seatId with
    | none =>
      rw [hl] at hfine
      exact absurd (hslash.symm.trans hfine.1) (by decide)
    | some slashId =>
      rw [hl] at hfine
      refine ⟨slashId, ⟨hfine.2.1.symm.trans hslash, h.names seatId slashId hl⟩, ?_⟩
      rintro j ⟨hpending, rfl⟩
      exact Option.some.inj ((h.pending hpending).1.symm.trans hl)
  · rintro ⟨slashId, ⟨hpending, rfl⟩, -⟩
    exact (h.pending hpending).2.2.1

lemma executed_unique {j k : Nat}
    (hj : (b.slashes j).status = .SLASH_EXECUTED) (hk : (b.slashes k).status = .SLASH_EXECUTED)
    (hseat : (b.slashes j).seatId = (b.slashes k).seatId) : j = k := by
  have hlive := h.record j (.inr hj)
  rw [hseat, h.record k (.inr hk)] at hlive
  exact (Option.some.inj hlive).symm

lemma deposit_ge (hs : (b.seats seatId).status = .BONDED ∨ (b.seats seatId).status = .EXITING) :
    SEAT_DEPOSIT ≤ (b.seats seatId).deposit + MAX_SLASH := by
  have hfine := h.seat seatId
  cases hl : live seatId with
  | none =>
    rw [hl] at hfine
    rw [hfine.2 hs]
    exact Nat.le_add_right _ _
  | some slashId =>
    rw [hl] at hfine
    obtain ⟨hlive, -, hbonded, hpending, hexecuted⟩ := hfine
    have hexiting := hs.resolve_left hbonded
    rcases hlive with hp | he
    · rw [(hpending hp).2]
      exact Nat.le_add_right _ _
    · rw [← hexecuted he hexiting]
      exact Nat.add_le_add_left (h.amount slashId) _

/-! ### Steps -/

lemma opened (sender attester : Address) : Slashing (b.opened number sender attester) live := by
  have hnew := h.out (b.seatCount + 1) (by omega)
  refine h.reseat rfl ?_ ⟨by omega, le_rfl⟩ (Nat.le_succ _) rfl rfl
  rw [(h.seat _).eq_none hnew.2]
  exact ⟨hnew.2, fun _ => rfl⟩

lemma exited (hbonded : (b.seats seatId).status = .BONDED) :
    Slashing (b.exited number seatId) live := by
  have hin := h.isOpen hbonded (by decide)
  have hfine := h.seat seatId
  have hnone := hfine.eq_none_of_bonded hbonded
  refine h.reseat rfl ?_ hin le_rfl rfl rfl
  rw [hnone] at hfine ⊢
  exact ⟨hfine.1, fun _ => hfine.2 (.inl hbonded)⟩

lemma withdrawn (hexiting : (b.seats seatId).status = .EXITING)
    (hslash : (b.seats seatId).slashState ≠ .SLASH_PENDING) :
    Slashing (b.withdrawn seatId) live := by
  have hin := h.isOpen hexiting (by decide)
  have hfine := h.seat seatId
  refine h.reseat rfl ?_ hin le_rfl rfl rfl
  cases hl : (live seatId).map b.slashes with
  | none =>
    rw [hl] at hfine
    exact ⟨hfine.1, by simp⟩
  | some =>
    rw [hl] at hfine
    obtain ⟨hlive, hstate, -⟩ := hfine
    exact ⟨hlive, hstate, by simp, fun hp => absurd (hstate.trans hp) hslash, by simp⟩

end

lemma slashAmount_eq (hwhole : (b.seats seatId).deposit = SEAT_DEPOSIT) :
    b.slashAmount seatId = MAX_SLASH := by
  rw [Books.slashAmount, hwhole]
  decide

variable (h : Slashing b live)
include h

lemma proposed (kind : Kind) (height sunset : Nat)
    (reporter : Address) (hexiting : (b.seats seatId).status = .EXITING)
    (hslash : (b.seats seatId).slashState = .SLASH_NONE) :
    Slashing (b.proposed number seatId kind height sunset reporter)
      (update live seatId (some (b.slashCount + 1))) := by
  have hin := h.isOpen hexiting (by decide)
  obtain ⟨hnone, hwhole⟩ := h.whole hslash (.inr hexiting)
  refine h.rerecord rfl rfl rfl rfl hin ?_ ?_
    (.inl ⟨.inl rfl, rfl⟩) ?_ (slashAmount_eq hwhole).le (Nat.le_succ _) le_rfl
  · -- the new record is past every record a seat goes with
    intro i hi
    have hfine := h.seat i
    rw [hi] at hfine
    exact absurd hfine.1 (h.fresh _ (Nat.lt_succ_self _))
  · simp [hnone]
  · exact ⟨.inl rfl, rfl, by simp [hexiting], fun _ => ⟨hexiting, hwhole⟩, by simp⟩

include hpending in
lemma vetoed :
    Slashing (b.vetoed number slashId) (update live (b.slashes slashId).seatId none) := by
  obtain ⟨hlive, hexiting, -, hwhole⟩ := h.pending hpending
  have hin := h.isOpen hexiting (by decide)
  have hk : slashId ≤ b.slashCount := by
    by_contra hk
    exact h.fresh slashId (by omega) (.inl hpending)
  refine h.rerecord rfl rfl rfl rfl hin
    (fun i hi => (h.names i slashId hi).symm) ?_ (.inr ⟨by simp [Slash.live], rfl⟩) ?_
    (h.amount slashId) le_rfl hk
  · simp [hlive]
  · exact ⟨rfl, fun _ => hwhole⟩

include hpending in
lemma slashed
    (hamount : (b.slashes slashId).amount ≤ (b.seats (b.slashes slashId).seatId).deposit) :
    Slashing (b.slashed slashId)
      (update live (b.slashes slashId).seatId (some slashId)) := by
  obtain ⟨hlive, hexiting, -, hwhole⟩ := h.pending hpending
  have hin := h.isOpen hexiting (by decide)
  have hk : slashId ≤ b.slashCount := by
    by_contra hk
    exact h.fresh slashId (by omega) (.inl hpending)
  refine h.rerecord rfl rfl rfl rfl hin
    (fun i hi => (h.names i slashId hi).symm) ?_ (.inl ⟨.inr rfl, rfl⟩) ?_
    (h.amount slashId) le_rfl hk
  · simp [hlive]
  · exact ⟨.inr rfl, rfl, by simp [hexiting], by simp, fun _ _ => by simp only; omega⟩

lemma change (hc : Change K number b b') : ∃ live, Slashing b' live := by
  cases hc with
  | exit hbonded => exact ⟨_, h.exited hbonded⟩
  | propose kind height sunset reporter hexiting hslash =>
    exact ⟨_, h.proposed kind height sunset reporter hexiting hslash⟩
  | veto hpending => exact ⟨_, h.vetoed hpending⟩
  | _ => exact ⟨live, h.frame (by intro; first | rfl | exact b.withSeat_same _ rfl _) rfl rfl rfl⟩

lemma receipt (hr : Receipt number amount b b') : Slashing b' live := by
  cases hr with
  | openSeat => exact h.opened _ _
  | _ => exact h.frame (fun _ => rfl) rfl rfl rfl

lemma payout (hp : Payout amount b b') : ∃ live, Slashing b' live := by
  cases hp with
  | withdraw hexiting hslash => exact ⟨_, h.withdrawn hexiting hslash⟩
  | slash hpending hamount => exact ⟨_, h.slashed hpending hamount⟩
  | _ => exact ⟨live, h.frame (by intro; first | rfl | exact b.withSeat_same _ rfl _) rfl rfl rfl⟩

lemma executed_step {n n' : Nat} (hstep : Step K ⟨b, n⟩ ⟨b', n'⟩)
    (hexecuted : (b.slashes slashId).status = .SLASH_EXECUTED) :
    b'.slashes slashId = b.slashes slashId := by
  have hother {j : Nat} (hj : (b.slashes j).status = .SLASH_PENDING) : slashId ≠ j := by
    rintro rfl
    rw [hexecuted] at hj
    cases hj
  cases hstep with
  | change hc =>
    cases hc with
    | propose =>
      refine update_of_ne (fun heq => ?_) ..
      exact h.fresh slashId (by omega) (.inr hexecuted)
    | veto hpending => exact update_of_ne (hother hpending) ..
    | _ => rfl
  | receipt hr => cases hr <;> rfl
  | payout hp =>
    cases hp with
    | slash hpending => exact update_of_ne (hother hpending) ..
    | _ => rfl
  | tick => rfl

end Slashing

/-- **The slashing invariant** of all runs. -/
theorem Reachable.slashing {K : Deployment H} [Zero H] {s : Stage H} (h : Reachable K s) :
    ∃ live, Slashing s.books live := by
  refine h.invariant (P := fun b => ∃ live, Slashing b live) ?change ?receipt ?payout ?new
  case new =>
    intro b hb
    refine ⟨fun _ => none, ?_⟩
    rw [hb.rest]
    exact
      { out := fun _ _ => ⟨rfl, rfl⟩
        seat := fun _ => ⟨rfl, by simp⟩
        record := by simp [Slash.live]
        names := by simp
        fresh := by simp [Slash.live]
        amount := by simp }
  case change =>
    rintro b b' number - ⟨live, h⟩ hc
    exact h.change hc
  case receipt =>
    rintro b b' number amount - ⟨live, h⟩ hr
    exact ⟨live, h.receipt hr⟩
  case payout =>
    rintro b b' number amount - ⟨live, h⟩ hp
    exact h.payout hp

lemma Reachable.executed {K : Deployment H} [Zero H] {σ σ' : Stage H} (h : Reachable K σ)
    (hsteps : Steps K σ σ') (hexecuted : (σ.books.slashes slashId).status = .SLASH_EXECUTED) :
    σ'.books.slashes slashId = σ.books.slashes slashId := by
  induction hsteps with
  | refl => rfl
  | tail hrun hstep ih =>
    obtain ⟨live, hs⟩ := (h.steps hrun).slashing
    rw [← ih] at hexecuted ⊢
    exact hs.executed_step hstep hexecuted

end Ferminux.Hub
