import Ferminux.Hub.Keys
import Ferminux.Lib.Indexed

/-!
# Hub.Candidates

**The candidate list that consensus reads.** The signing keys of the qualified seats stand in a
list without duplicates, with their places and their bond beside it; `qualify` appends, and
disqualification in all its ways (by itself, and in a jail, an exit or a slash) removes by
swap-and-pop. A seat is qualified only while it is bonded, not jailed and not slashed, with its
whole deposit.
-/

namespace Ferminux.Hub

open Lib Relation List

attribute [local irreducible] Books.withSeat

variable {H : Type} {K : Deployment H} {b b' : Books H} {number amount : Nat}

/-- What the candidate list reads of a seat. -/
def Seat.candidacy (x : Seat) : Bool × Address × Status × Bool × SlashStatus :=
  (x.qualified, x.signingKey, x.status, x.jailed, x.slashState)

/-- The seat may be on the list. -/
structure Seat.Fit (x : Seat) : Prop where
  bonded : x.status = .BONDED
  jailed : x.jailed = false
  slash : x.slashState = .SLASH_NONE
  key : x.signingKey ≠ 0

/-- The candidate list and the seats agree. -/
structure Listed (b : Books H) : Prop where
  indexed : Indexed b.signingKeys b.signingIndex
  length : b.signingKeys.length ≤ MAX_SIGNING_CANDIDATES
  bond : ∀ key, b.countedBond key = if key ∈ b.signingKeys then SEAT_DEPOSIT else 0
  mem : ∀ key, key ∈ b.signingKeys ↔
    ∃ seatId, (b.seats seatId).qualified = true ∧ (b.seats seatId).signingKey = key
  seat : ∀ seatId, (b.seats seatId).qualified = true → (b.seats seatId).Fit

namespace Listed

variable (h : Listed b) {seatId : Nat} {live : Nat → Option Nat}
include h

lemma frame (hseats : ∀ i, (b'.seats i).candidacy = (b.seats i).candidacy)
    (hkeys : b'.signingKeys = b.signingKeys) (hindex : b'.signingIndex = b.signingIndex)
    (hbond : b'.countedBond = b.countedBond) : Listed b' := by
  simp only [Seat.candidacy, Prod.mk.injEq] at hseats
  constructor
  · rw [hkeys, hindex]
    exact h.indexed
  · rw [hkeys]
    exact h.length
  · rw [hkeys, hbond]
    exact h.bond
  · intro key
    simp only [hkeys, (hseats _).1, (hseats _).2.1]
    exact h.mem key
  · intro i hq
    obtain ⟨hqualified, hkey, hstatus, hjailed, hslash⟩ := hseats i
    obtain ⟨h1, h2, h3, h4⟩ := h.seat i (hqualified ▸ hq)
    exact ⟨hstatus.trans h1, hjailed.trans h2, hslash.trans h3, hkey ▸ h4⟩

lemma reseat {f : Seat → Seat}
    (hseats : b'.seats = b.withSeat seatId f) (hold : (b.seats seatId).qualified = false)
    (hnew : (f (b.seats seatId)).qualified = false)
    (hkeys : b'.signingKeys = b.signingKeys) (hindex : b'.signingIndex = b.signingIndex)
    (hbond : b'.countedBond = b.countedBond) : Listed b' := by
  have hsame : ∀ i, (b'.seats i).qualified = true →
      (b.seats i).qualified = true ∧ b'.seats i = b.seats i := by
    intro i hq
    by_cases hi : i = seatId
    · rw [hi, hseats, b.withSeat_self, hnew] at hq
      cases hq
    · rw [hseats, b.withSeat_of_ne hi] at hq ⊢
      exact ⟨hq, rfl⟩
  constructor
  · rw [hkeys, hindex]
    exact h.indexed
  · rw [hkeys]
    exact h.length
  · rw [hkeys, hbond]
    exact h.bond
  · intro key
    rw [hkeys, h.mem key]
    constructor
    · rintro ⟨i, hq, hkey⟩
      have hi : i ≠ seatId := by
        rintro rfl
        rw [hold] at hq
        cases hq
      refine ⟨i, ?_⟩
      rw [hseats, b.withSeat_of_ne hi]
      exact ⟨hq, hkey⟩
    · rintro ⟨i, hq, hkey⟩
      obtain ⟨hq', heq⟩ := hsame i hq
      exact ⟨i, hq', heq ▸ hkey⟩
  · intro i hq
    obtain ⟨hq', heq⟩ := hsame i hq
    rw [heq]
    exact h.seat i hq'

lemma not_qualified_of_jailed
    (hjailed : (b.seats seatId).jailed = true) : (b.seats seatId).qualified = false := by
  rw [← Bool.not_eq_true]
  intro hq
  rw [(h.seat seatId hq).jailed] at hjailed
  cases hjailed

lemma not_qualified_of_exiting
    (hexiting : (b.seats seatId).status = .EXITING) : (b.seats seatId).qualified = false := by
  rw [← Bool.not_eq_true]
  intro hq
  rw [(h.seat seatId hq).bonded] at hexiting
  cases hexiting

lemma listed (hreg : Registered b) (hfit : (b.seats seatId).Fit)
    (hqualified : (b.seats seatId).qualified = false)
    (hroom : b.signingKeys.length < MAX_SIGNING_CANDIDATES) : Listed (b.listed number seatId) := by
  have hbound := (hreg.seat seatId).signing_bound hfit.key
  -- no other seat has the key
  have hnew : (b.seats seatId).signingKey ∉ b.signingKeys := by
    rw [h.mem]
    rintro ⟨i, hq, hkey⟩
    have hid := ((hreg.seat i).signing_bound (hkey ▸ hfit.key)).1
    rw [hkey, hbound.1] at hid
    rw [← hid, hqualified] at hq
    cases hq
  constructor
  · exact h.indexed.push hnew
  · simpa [Books.listed] using hroom
  · intro key
    simp only [Books.listed, Function.update_apply, mem_append, mem_singleton]
    by_cases hkey : key = (b.seats seatId).signingKey
    · simp [hkey]
    · simp [hkey, h.bond key]
  · intro key
    simp only [Books.listed, mem_append, mem_singleton]
    constructor
    · rintro (hold | rfl)
      · obtain ⟨i, hq, hkey⟩ := (h.mem key).mp hold
        have hi : i ≠ seatId := by
          rintro rfl
          rw [hqualified] at hq
          cases hq
        exact ⟨i, by rw [b.withSeat_of_ne hi]; exact ⟨hq, hkey⟩⟩
      · exact ⟨seatId, by simp⟩
    · rintro ⟨i, hq, hkey⟩
      by_cases hi : i = seatId
      · subst hi
        simp only [b.withSeat_self] at hkey
        exact .inr hkey.symm
      · rw [b.withSeat_of_ne hi] at hq hkey
        exact .inl ((h.mem key).mpr ⟨i, hq, hkey⟩)
  · intro i hq
    simp only [Books.listed] at hq ⊢
    by_cases hi : i = seatId
    · subst hi
      rw [b.withSeat_self]
      exact ⟨hfit.bonded, hfit.jailed, hfit.slash, hfit.key⟩
    · rw [b.withSeat_of_ne hi] at hq ⊢
      exact h.seat i hq

lemma delisted (hreg : Registered b)
    (hqualified : (b.seats seatId).qualified = true) : Listed (b.delisted number seatId) := by
  have hmem : (b.seats seatId).signingKey ∈ b.signingKeys := (h.mem _).mpr ⟨seatId, hqualified, rfl⟩
  have hindex : b.signingIndex (b.seats seatId).signingKey =
      b.signingIndex (b.seats seatId).signingKey - 1 + 1 :=
    (Nat.succ_pred_eq_of_ne_zero (h.indexed.mem_iff.mp hmem)).symm
  have hlast : b.signingKeys[b.signingKeys.length - 1]? =
      some (b.signingKeys.getD (b.signingKeys.length - 1) 0) := by
    have hpos := length_pos_of_mem hmem
    rw [getD_eq_getElem?_getD, List.getElem?_eq_getElem (by omega)]
    rfl
  have hremoved (key : Address) := h.indexed.mem_swapPop (y := key) hindex hlast
  constructor
  · exact h.indexed.swapPop hindex hlast
  · have hlength := h.length
    simp only [Books.delisted, Books.removeKey]
    rw [length_dropLast]
    split <;> simp <;> omega
  · intro key
    have hkeys : (b.delisted number seatId).signingKeys = swapPop b.signingKeys _ _ := rfl
    have hbond : (b.delisted number seatId).countedBond =
        Function.update b.countedBond (b.seats seatId).signingKey 0 := rfl
    simp only [hkeys, hbond, hremoved key, Function.update_apply, h.bond key]
    by_cases hkey : key = (b.seats seatId).signingKey <;> simp [hkey]
  · intro key
    refine (hremoved key).trans ?_
    simp only [Books.delisted, h.mem key]
    constructor
    · rintro ⟨⟨i, hq, hkey⟩, hne⟩
      have hi : i ≠ seatId := by
        rintro rfl
        exact hne hkey.symm
      exact ⟨i, by rw [b.withSeat_of_ne hi]; exact ⟨hq, hkey⟩⟩
    · rintro ⟨i, hq, hkey⟩
      by_cases hi : i = seatId
      · subst hi
        simp at hq
      · rw [b.withSeat_of_ne hi] at hq hkey
        refine ⟨⟨i, hq, hkey⟩, ?_⟩
        rintro rfl
        have hid := ((hreg.seat i).signing_bound (h.seat i hq).key).1
        have hid' := ((hreg.seat seatId).signing_bound (h.seat seatId hqualified).key).1
        rw [hkey, hid'] at hid
        exact hi hid.symm
  · intro i hq
    simp only [Books.delisted] at hq ⊢
    by_cases hi : i = seatId
    · subst hi
      simp at hq
    · rw [b.withSeat_of_ne hi] at hq ⊢
      exact h.seat i hq

lemma change (hreg : Registered b)
    (hs : Slashing b live) (hc : Change K number b b') : Listed b' := by
  cases hc with
  | setSigningKey _ hqualified | exit _ hqualified | jail _ _ _ hqualified =>
    exact h.reseat rfl hqualified hqualified rfl rfl rfl
  | list hbonded hjailed hqualified hslash hkey hroom =>
    exact h.listed hreg ⟨hbonded, hjailed, hslash, hkey⟩ hqualified hroom
  | delist hqualified => exact h.delisted hreg hqualified
  | unjail _ hjailed | unjailCount _ hjailed =>
    have hold := h.not_qualified_of_jailed hjailed
    exact h.reseat rfl hold hold rfl rfl rfl
  | propose _ _ _ _ hexiting =>
    have hold := h.not_qualified_of_exiting hexiting
    exact h.reseat rfl hold hold rfl rfl rfl
  | veto hpending =>
    have hold := h.not_qualified_of_exiting (hs.pending hpending).2.1
    exact h.reseat rfl hold hold rfl rfl rfl
  | _ => exact h.frame (by intro; first | rfl | exact b.withSeat_same _ rfl _) rfl rfl rfl

lemma receipt (hb : Blank b) (hr : Receipt number amount b b') : Listed b' := by
  cases hr with
  | openSeat =>
    have hnew : b.seats (b.seatCount + 1) = {} := hb _ fun hin => Nat.not_succ_le_self _ hin.2
    have hold : (b.seats (b.seatCount + 1)).qualified = false := by rw [hnew]
    exact h.reseat rfl hold hold rfl rfl rfl
  | _ => exact h.frame (fun _ => rfl) rfl rfl rfl

lemma payout (hs : Slashing b live) (hp : Payout amount b b') : Listed b' := by
  cases hp with
  | withdraw hexiting =>
    have hold := h.not_qualified_of_exiting hexiting
    exact h.reseat rfl hold hold rfl rfl rfl
  | slash hpending =>
    have hold := h.not_qualified_of_exiting (hs.pending hpending).2.1
    exact h.reseat rfl hold hold rfl rfl rfl
  | _ => exact h.frame (by intro; first | rfl | exact b.withSeat_same _ rfl _) rfl rfl rfl

end Listed

lemma Reachable.listed [Zero H] {s : Stage H} (h : Reachable K s) : Listed s.books := by
  refine h.invariant ?change ?receipt ?payout ?new
  case new =>
    intro b hb
    rw [hb.rest]
    exact ⟨.nil, by simp, by simp, by simp, by simp⟩
  case change =>
    intro b b' number hrun hb hc
    obtain ⟨live, hs⟩ := hrun.slashing
    exact hb.change hrun.registered hs hc
  case receipt => exact fun hrun hb hr => hb.receipt hrun.blank hr
  case payout =>
    intro b b' number amount hrun hb hp
    obtain ⟨live, hs⟩ := hrun.slashing
    exact hb.payout hs hp

namespace Deployment

variable [DecidableEq H] [Zero H] {w : State H}

/-- **The candidate list that consensus reads.** It has no duplicates and at most 1,000 entries, the
index gives the place of each entry counted from one and zero for every other key, the bond beside
an entry is 2,000 FMX and zero for every other key, and the entries are the signing keys of the
qualified seats, which are bonded, not jailed and not slashed and have their whole deposit. -/
theorem candidate_list (K : Deployment H) (h : K.Moment w) :
    let b := w.store.toBooks
    b.signingKeys.Nodup ∧ b.signingKeys.length ≤ 1000 ∧
    (∀ key i, b.signingIndex key = i + 1 ↔ b.signingKeys[i]? = some key) ∧
    (∀ key, key ∉ b.signingKeys → b.signingIndex key = 0) ∧
    (∀ key, b.countedBond key = if key ∈ b.signingKeys then 2000 * 10 ^ 18 else 0) ∧
    (∀ key, key ∈ b.signingKeys ↔
      ∃ seatId, (b.seats seatId).qualified = true ∧ (b.seats seatId).signingKey = key) ∧
    ∀ seatId, (b.seats seatId).qualified = true →
      (b.seats seatId).status = .BONDED ∧ (b.seats seatId).jailed = false ∧
        (b.seats seatId).slashState = .SLASH_NONE ∧ (b.seats seatId).deposit = 2000 * 10 ^ 18 := by
  have hlisted := h.reachable.listed
  obtain ⟨live, hs⟩ := h.reachable.slashing
  refine ⟨hlisted.indexed.nodup, hlisted.length, fun key i => (hlisted.indexed key i).symm,
    fun key => hlisted.indexed.index_eq_zero, hlisted.bond, hlisted.mem, fun seatId hq => ?_⟩
  obtain ⟨hbonded, hjailed, hslash, -⟩ := hlisted.seat seatId hq
  exact ⟨hbonded, hjailed, hslash, (hs.whole hslash (.inl hbonded)).2⟩

/-- Two seats attest the checkpoints of nine tenths of the window and qualify. Then the first one
disqualifies itself. -/
def sampleListing : List (Move Digest) :=
  let opening : List (Move Digest) :=
    [sampleSeat 21 41, sampleSeat 22 42, .call 21 0 (.setSigningKey 1 71 (sampleSignature 71)),
      .call 22 0 (.setSigningKey 2 72 (sampleSignature 72)), .wait 320099]
  let duty : List (Move Digest) := (List.range 389).flatMap fun i =>
    [.call 21 0 (.attestBatch (320000 + 200 * i) (.block (320000 + 200 * i))
      (sampleSignature 41 ++ sampleSignature 42)), .wait 200]
  opening ++ duty ++
    [.call 21 0 (.qualify 1), .call 21 0 (.qualify 2), .call 21 0 (.disqualify 1)]

/-- The second key has taken the place of the first one, with its bond. -/
theorem candidate_list_popped : ∃ w : State Digest, sampleHub.Moment w ∧
    w.store.signingKeys = [72] ∧ w.store.signingIndex 72 = 1 ∧
    w.store.countedBond 72 = 2000 * 10 ^ 18 ∧ w.store.signingIndex 71 = 0 ∧
    w.store.countedBond 71 = 0 ∧
    ∃ seatId, (w.store.seats seatId).qualified = true ∧ (w.store.seats seatId).signingKey = 72 := by
  have hrun : (sampleListing.foldlM sampleHub.perform sampleNew).map (·.store.signingKeys) =
      some [72] := by decide +kernel
  obtain ⟨w, hw, hkeys⟩ := Option.map_eq_some_iff.mp hrun
  have hmoment : sampleHub.Moment w := moment_of_perform sampleNew_deployed hw
  obtain ⟨-, -, hplace, hindex, hbond, hmem, -⟩ := candidate_list sampleHub hmoment
  simp only [hkeys] at hplace hindex hbond hmem
  refine ⟨w, hmoment, hkeys, (hplace 72 0).mpr rfl, ?_, hindex 71 (by decide), ?_,
    (hmem 72).mp (by decide)⟩
  · rw [hbond, if_pos (by decide)]
  · rw [hbond, if_neg (by decide)]

end Deployment

end Ferminux.Hub
