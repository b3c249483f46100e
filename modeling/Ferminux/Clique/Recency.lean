import Mathlib.Order.Interval.Finset.Nat
import Ferminux.Clique.Sealer

/-!
# Clique.Recency

**The recently-signed window.** A signer of a set of `n` may seal one block out of
`n / 2 + 1`. Three places enforce this, and they do not look at the same thing:

* `Snapshot.apply` deletes one key of `Recents` per block and then refuses a signer
  that is found under *any* key left;
* `verifySeal` deletes nothing and refuses a signer found under a key *inside the
  window* of the next block;
* `Seal` does the same with its own guard against a window that reaches below
  block 0.

They agree because every key of a reachable snapshot lies in the window of its own
set (`RecencyWindow`). Votes move the window by one key, which the extra deletion
after a removal makes up for; an override may move it by any number, which is why
`applyBreakGlass` prunes. From the same invariant at most `n / 2` signers are
waiting at any time (`card_waiting_le`), so recency alone never stops the chain.
-/

namespace Ferminux.Clique

open Lib Finset Lib.Map AuthState

variable {s : AuthState} {K : Crypto} {header : Header} {c : Engine} {n : Nat}

/-! ### The invariant -/

/-- Every recent entry lies in the window of the set that ends in block `n`. -/
def RecencyWindow (n : Nat) (s : AuthState) : Prop :=
  ∀ k a, s.recents.lookup k = some a → k ≤ n ∧ n < k + recencyLimit s.signers.card

variable {config : CliqueConfig} {breakGlass : Option BreakGlassConfig}

namespace AuthState

lemma lookup_expireRecent {number k : Nat} : (s.expireRecent number).recents.lookup k =
      if k + recencyLimit s.signers.card = number then none else s.recents.lookup k := by
  unfold expireRecent
  by_cases hlim : recencyLimit s.signers.card ≤ number
  · rw [if_pos hlim, lookup_erase_eq]
    congr 1
    exact propext ⟨fun h => by omega, fun h => by omega⟩
  · rw [if_neg hlim, if_neg (by omega)]

/-- Entries that are out of the window by at most one block are in it after the
deletion. -/
lemma expireRecent_window {N m : Nat}
    (h : ∀ k a, s.recents.lookup k = some a → k ≤ m ∧ N ≤ k + recencyLimit s.signers.card) :
    ∀ k a, (s.expireRecent N).recents.lookup k = some a →
      k ≤ m ∧ N < k + recencyLimit s.signers.card := by
  intro k a hk
  rw [lookup_expireRecent] at hk
  split at hk
  · cases hk
  · have := h k a hk
    omega

/-- Before the seal check the entries left are inside the window of the *next* block,
whatever set is in force for it. -/
lemma enter_window (h : RecencyWindow n s) (override : Option (List Address)) :
    ∀ k a, (enter config s (n + 1) override).recents.lookup k = some a →
      k ≤ n ∧ n + 1 < k + recencyLimit (s.inForce override).card := by
  have hs : (if (n + 1) % config.epoch = 0 then s.resetVotes else s).signers = s.signers ∧
      (if (n + 1) % config.epoch = 0 then s.resetVotes else s).recents = s.recents := by
    split <;> exact ⟨rfl, rfl⟩
  cases override with
  | none =>
    simp only [enter, inForce]
    rw [← hs.1]
    apply expireRecent_window
    intro k a hk
    rw [hs.2] at hk
    rw [hs.1]
    have := h k a hk
    omega
  | some signers =>
    simp only [enter, inForce]
    apply expireRecent_window
    intro k a hk
    simp only [applyBreakGlass, lookup_prune, hs.2] at hk ⊢
    split at hk
    · next hkeep =>
        have := (h k a hk).1
        simp only [Bool.not_eq_true', decide_eq_false_iff_not] at hkeep
        omega
    · cases hk

/-- Counting the vote of block `n` keeps the window: a larger set only widens it, a
removal narrows it by at most one key, which is deleted. -/
lemma count_window {signer coinbase : Address} {authorize : Bool}
    (h : ∀ k a, s.recents.lookup k = some a → k ≤ n ∧ n < k + recencyLimit s.signers.card) :
    RecencyWindow n (s.count n signer coinbase authorize) := by
  have hrec : ∀ k a, (s.recordSigner n signer).recents.lookup k = some a →
      k ≤ n ∧ n < k + recencyLimit s.signers.card := by
    intro k a hk
    simp only [recordSigner, lookup_insert_eq] at hk
    split at hk
    · next heq =>
        subst heq
        exact ⟨le_rfl, by unfold recencyLimit; omega⟩
    · exact h k a hk
  unfold count
  generalize hv : ((s.recordSigner n signer).discardVote signer coinbase).castVote signer n coinbase
    authorize = v
  have hsig : v.signers = s.signers := by
    rw [← hv, castVote_signers, discardVote_signers, recordSigner]
  have hvrec : v.recents = (s.recordSigner n signer).recents := by
    rw [← hv, castVote_recents, discardVote_recents]
  rw [← hvrec, ← hsig] at hrec
  rcases settleVote_cases v coinbase n with ⟨heq, -⟩ | ⟨t, -, -, -, heq⟩ | ⟨t, -, -, -, heq⟩
  · rw [heq]
    exact hrec
  · rw [heq]
    intro k a hk
    have hcard : v.signers.card ≤ (insert coinbase v.signers).card := card_le_card
      (subset_insert _ _)
    have := hrec k a hk
    simp only [discardVotesOn, recencyLimit] at this ⊢
    omega
  · rw [heq]
    have hcard : v.signers.card - 1 ≤ (v.signers.erase coinbase).card := pred_card_le_card_erase
    intro k a hk
    simp only [discardVotesOn, discardVotesBy_recents, discardVotesBy_signers,
      expireRecent_signers] at hk ⊢
    refine expireRecent_window (s := { v with signers := v.signers.erase coinbase }) ?_ k a hk
    intro k a hk
    have := hrec k a hk
    simp only [recencyLimit] at this ⊢
    omega

lemma applyHeader_window {s' : AuthState} (h : RecencyWindow n s) (hnum : header.number = n + 1)
    (happly : applyHeader K config breakGlass s header = .ok s') : RecencyWindow (n + 1) s' := by
  obtain ⟨override, signer, authorize, -, -, -, -, -, rfl⟩ := applyHeader_ok_iff.mp happly
  rw [hnum]
  apply count_window
  intro k a hk
  have := enter_window h override k a hk
  rw [enter_signers]
  omega

end AuthState

/-- **Every reachable snapshot keeps its recent signers inside its own window.** -/
theorem Reachable.recencyWindow {S : Snapshot}
    (h : Reachable K config breakGlass S) : RecencyWindow S.number S.toAuthState := by
  refine h.invariant ?_ ?_
  · intro b hash k a hk
    simp [Bootstrap.snapshot, newSnapshot] at hk
  · intro header a a' n hP hnum happly
    exact applyHeader_window hP hnum happly

/-! ### The two rules on the next block -/

/-- The signer sealed a block that is still inside the window of block `number`. -/
def Waiting (s : AuthState) (number : Nat) (signer : Address) : Prop :=
  ∃ k, s.recents.lookup k = some signer ∧ number < k + recencyLimit s.signers.card

variable {signer : Address} {number : Nat}

lemma recentlySigned_iff (hlim : recencyLimit s.signers.card ≤ number) :
    recentlySigned s number signer = true ↔ Waiting s number signer := by
  simp only [recentlySigned, anyEntry_iff, Bool.and_eq_true, beq_iff_eq, decide_eq_true_eq,
    subUint64_of_le hlim, Waiting]
  constructor
  · rintro ⟨k, _, hk, rfl, hlt⟩
    exact ⟨k, hk, by omega⟩
  · rintro ⟨k, hk, hlt⟩
    exact ⟨k, signer, hk, rfl, by omega⟩

lemma mustWait_iff (hlim : recencyLimit s.signers.card ≤ number) :
    mustWait s number signer = true ↔ Waiting s number signer := by
  simp only [mustWait, anyEntry_iff, Bool.and_eq_true, Bool.or_eq_true, beq_iff_eq,
    decide_eq_true_eq, Waiting]
  constructor
  · rintro ⟨k, _, hk, rfl, hlt⟩
    exact ⟨k, hk, by omega⟩
  · rintro ⟨k, hk, hlt⟩
    exact ⟨k, signer, hk, rfl, by omega⟩

/-- The signers `Seal` does not hold back at block `number`. -/
def eligible (s : AuthState) (number : Nat) : Finset Address :=
  s.signers.filter fun signer => mustWait s number signer = false

/-- At most half of the signers wait: the window of the next block holds `n / 2` earlier
blocks, and each has one signer. -/
lemma card_waiting_le (h : RecencyWindow n s) (hlim : recencyLimit s.signers.card ≤ n + 1) :
    (s.signers.filter fun signer => ¬ mustWait s (n + 1) signer = false).card ≤
      s.signers.card / 2 := by
  have hsub : (s.signers.filter fun signer => ¬ mustWait s (n + 1) signer = false) ⊆
      (Finset.Ioc (n + 1 - recencyLimit s.signers.card) n).image
        fun k => (s.recents.lookup k).getD zeroAddress := by
    intro signer hsigner
    obtain ⟨-, hwait⟩ := mem_filter.mp hsigner
    rw [Bool.not_eq_false, mustWait_iff hlim] at hwait
    obtain ⟨k, hk, hlt⟩ := hwait
    have hle := (h k signer hk).1
    refine mem_image.mpr ⟨k, mem_Ioc.mpr ⟨by omega, hle⟩, by rw [hk]; rfl⟩
  refine (card_le_card hsub).trans (card_image_le.trans ?_)
  rw [Nat.card_Ioc]
  unfold recencyLimit at hlim ⊢
  omega

lemma card_eligible (h : RecencyWindow n s) (hlim : recencyLimit s.signers.card ≤ n + 1) :
    s.signers.card - s.signers.card / 2 ≤ (eligible s (n + 1)).card := by
  have hwait := card_waiting_le h hlim
  have hsplit := card_filter_add_card_filter_not (s := s.signers)
    fun signer => mustWait s (n + 1) signer = false
  unfold eligible
  omega

/-- A signer that need not wait passes `verifySeal` with the difficulty of its turn. -/
lemma verifySeal_of_eligible {S : Snapshot} (hlim : recencyLimit S.signers.card ≤ S.number + 1)
    (helig : signer ∈ eligible S.toAuthState (S.number + 1))
    (hnum : header.number = S.number + 1) (hseal : ecrecover K header = .ok signer)
    (hdiff : calcDifficulty S signer = .ok header.difficulty) :
    verifySeal K c S.toAuthState header = .ok () := by
  obtain ⟨hmem, hwait⟩ := mem_filter.mp helig
  have hrecent : recentlySigned S.toAuthState header.number signer = false := by
    rw [← Bool.not_eq_true, hnum, recentlySigned_iff hlim, ← mustWait_iff hlim, hwait]
    exact Bool.false_ne_true
  have hauth : authorizeSeal K S.toAuthState header = .ok signer := by
    simp [authorizeSeal, hseal, hmem, hrecent, guardErr, bind, Except.bind]
  have hturn : verifyTurn c.fakeDiff (S.inturn header.number signer) header.difficulty =
      .ok () := by
    rw [calcDifficulty, ← hnum] at hdiff
    obtain ⟨turn, hinturn, hd⟩ := bind_eq_ok.mp hdiff
    simp only [Except.ok.injEq] at hd
    simp [verifyTurn, hinturn, hd, guardErr, bind, Except.bind]
  have hpos : (header.number == 0) = false := by simp [hnum]
  simp [verifySeal, hpos, hauth, hturn, guardErr, bind, Except.bind]

lemma sealPermit_of_eligible (helig : c.signer ∈ eligible s header.number)
    (hplain : isBreakGlassExtra header.extra = false) : sealPermit K c s header = .ok () := by
  obtain ⟨hmem, hwait⟩ := mem_filter.mp helig
  simp [sealPermit, hplain, hmem, hwait, guardErr, bind, Except.bind]

/-- **No wedge by recency.** In every reachable snapshot of `n` signers, at least
`n - n / 2` of them may seal the next block: `verifySeal` accepts their seal with the
difficulty of their turn, and `Seal` on their own node signs. -/
theorem recency_never_wedges {K : Crypto} {c : Engine} {S : Snapshot}
    (hS : Reachable K c.config c.breakGlass S) (hlim : S.signers.card / 2 + 1 ≤ S.number + 1) :
    ∃ may : Finset Address, may ⊆ S.signers ∧ S.signers.card - S.signers.card / 2 ≤ may.card ∧
      ∀ signer ∈ may, (∃ difficulty, ∀ header : Header, header.number = S.number + 1 →
          ecrecover K header = .ok signer → header.difficulty = difficulty →
            verifySeal K c S.toAuthState header = .ok ()) ∧
        ∀ header : Header, header.number = S.number + 1 → isBreakGlassExtra header.extra = false →
          sealPermit K { c with signer := signer } S.toAuthState header = .ok () := by
  refine ⟨eligible S.toAuthState (S.number + 1), filter_subset _ _,
    card_eligible hS.recencyWindow hlim, ?_⟩
  intro signer hsigner
  obtain ⟨turn, hturn⟩ := inturn_returns
    ⟨signer, (mem_filter.mp hsigner).1⟩ (S.number + 1) signer
  constructor
  · refine ⟨if turn then diffInTurn else diffNoTurn, ?_⟩
    intro header hnum hseal hdiff
    refine verifySeal_of_eligible hlim hsigner hnum hseal ?_
    rw [hdiff, calcDifficulty, hturn]
    rfl
  · intro header hnum hplain
    refine sealPermit_of_eligible ?_ hplain
    rw [hnum]
    exact hsigner

/-- Block 4, sealed by a signer. -/
def fourthBy (signer : Address) : Header := sampleHeader 4 2 zeroAddress nonceDropVote [] signer

/-- Two signers vote in a third one, and the signer `1` has sealed the last block. -/
lemma third_joins : ∃ S,
    (soleBootstrap.snapshot sampleConfig none zeroHash).apply Crypto.transparent
      [sampleHeader 1 2 (addressOf 2) nonceAuthVote [] (addressOf 1),
        sampleHeader 2 2 (addressOf 3) nonceAuthVote [] (addressOf 2),
        sampleHeader 3 2 (addressOf 3) nonceAuthVote [] (addressOf 1)] = .ok S ∧
    (S.number, S.signers.card, S.recents.lookup 3,
      authorizeHeader Crypto.transparent soleEngine S.toAuthState (fourthBy (addressOf 1)),
      authorizeHeader Crypto.transparent soleEngine S.toAuthState (fourthBy (addressOf 2))) =
        (3, 3, some (addressOf 1), .error .errRecentlySigned, .ok (addressOf 2)) :=
  map_eq_ok.mp (by decide +kernel)

/-- Three signers, one of which has just sealed: the other two may go on. -/
theorem recency_never_wedges_third : ∃ S : Snapshot, S.signers.card = 3 ∧
    S.recents.lookup 3 = some (addressOf 1) ∧ ∃ may ⊆ S.signers, 2 ≤ may.card ∧
      ∀ signer ∈ may, sealPermit Crypto.transparent { soleEngine with signer := signer }
        S.toAuthState (fourthBy zeroAddress) = .ok () := by
  obtain ⟨S, hrun, hS⟩ := third_joins
  simp only [Prod.mk.injEq] at hS
  obtain ⟨hnumber, hcard, hrecent, -⟩ := hS
  obtain ⟨may, hsub, hmany, hmay⟩ := recency_never_wedges (K := Crypto.transparent)
    (c := soleEngine) (.apply (.bootstrap soleBootstrap zeroHash) hrun)
    (by rw [hcard, hnumber]; decide)
  refine ⟨S, hcard, hrecent, may, hsub, by omega, fun signer hsigner => ?_⟩
  exact (hmay signer hsigner).2 _ (by rw [hnumber]; rfl) (by decide +kernel)

/-! ### Verification and replay agree -/

lemma authorizeSeal_returns_iff :
    Returns (authorizeSeal K s header) ↔ ∃ signer, ecrecover K header = .ok signer ∧
      signer ∈ s.signers ∧ recentlySigned s header.number signer = false := by
  simp only [authorizeSeal, returns_bind, guardErr_eq_ok, decide_eq_false_iff_not, not_not,
    returns_ok, and_true]
  constructor
  · rintro ⟨signer, hsigner, _, hmem, _, hrec⟩
    exact ⟨signer, hsigner, hmem, hrec⟩
  · rintro ⟨signer, hsigner, hmem, hrec⟩
    exact ⟨signer, hsigner, (), hmem, (), hrec⟩

lemma authorizeBreakGlassSeal_returns_iff {override : List Address} :
    Returns (authorizeBreakGlassSeal K header override) ↔
      ∃ signer, ecrecover K header = .ok signer ∧ signer ∈ override := by
  simp only [authorizeBreakGlassSeal, returns_bind, guardErr_eq_ok, containsAddress,
    Bool.not_eq_false', List.contains_iff_mem, returns_ok, and_true]
  constructor
  · rintro ⟨signer, hsigner, _, hmem⟩
    exact ⟨signer, hsigner, hmem⟩
  · rintro ⟨signer, hsigner, hmem⟩
    exact ⟨signer, hsigner, (), hmem⟩

lemma authorizeHeader_of_verifyAgainst (h : verifyAgainst K c s header = .ok ()) :
    Returns (authorizeHeader K c s header) := by
  unfold verifyAgainst at h
  unfold authorizeHeader
  cases hbg : isBreakGlassExtra header.extra with
  | true =>
    rw [hbg, if_pos rfl] at h
    rw [if_pos rfl, returns_bind]
    obtain ⟨override, hover, hseal⟩ := bind_eq_ok.mp h
    obtain ⟨signer, hsigner, -⟩ := bind_eq_ok.mp hseal
    exact ⟨override, hover, signer, hsigner⟩
  | false =>
    rw [hbg, if_neg Bool.false_ne_true] at h
    rw [if_neg Bool.false_ne_true]
    obtain ⟨_, -, hseal⟩ := bind_eq_ok.mp h
    obtain ⟨_, -, hseal⟩ := bind_eq_ok.mp hseal
    obtain ⟨signer, hsigner, -⟩ := bind_eq_ok.mp hseal
    exact ⟨signer, hsigner⟩

/-- On a plain header the entries that `apply` finds after its deletion are the ones
inside the window that `verifySeal` looks at. -/
lemma enter_recents_iff_waiting (h : RecencyWindow n s) :
    (∃ k, (enter config s (n + 1) none).recents.lookup k = some signer) ↔
      Waiting s (n + 1) signer := by
  have hlookup : ∀ k, (enter config s (n + 1) none).recents.lookup k =
      if k + recencyLimit s.signers.card = n + 1 then none else s.recents.lookup k := by
    intro k
    by_cases hepoch : (n + 1) % config.epoch = 0 <;>
      simp [enter, hepoch, lookup_expireRecent, resetVotes]
  constructor
  · rintro ⟨k, hk⟩
    have hwin := enter_window h none k signer hk
    refine ⟨k, ?_, hwin.2⟩
    rw [hlookup] at hk
    split at hk
    · cases hk
    · exact hk
  · rintro ⟨k, hk, hlt⟩
    refine ⟨k, ?_⟩
    rw [hlookup, if_neg (by omega)]
    exact hk

/-- A header is applied exactly if it is authorised against the same snapshot and its
nonce is a vote. -/
lemma applyHeader_returns_iff (h : RecencyWindow n s) (hnum : header.number = n + 1)
    (hlim : recencyLimit s.signers.card ≤ header.number) :
    Returns (applyHeader K c.config c.breakGlass s header) ↔
      Returns (authorizeHeader K c s header) ∧ Returns (voteOf header.nonce) := by
  have hinv : Returns (applyHeader K c.config c.breakGlass s header) ↔
      ∃ override signer, breakGlassOverrideOf K c.breakGlass header = .ok override ∧
        ecrecover K header = .ok signer ∧ signer ∈ s.inForce override ∧
        (override = none → ¬ ∃ k,
          (enter c.config s header.number override).recents.lookup k = some signer) ∧
        Returns (voteOf header.nonce) := by
    simp only [Returns, applyHeader_ok_iff, not_exists]
    constructor
    · rintro ⟨_, override, signer, authorize, hover, hsigner, hmem, hrec, hvote, -⟩
      exact ⟨override, signer, hover, hsigner, hmem, hrec, authorize, hvote⟩
    · rintro ⟨override, signer, hover, hsigner, hmem, hrec, authorize, hvote⟩
      exact ⟨_, override, signer, authorize, hover, hsigner, hmem, hrec, hvote, rfl⟩
  rw [hinv]
  unfold authorizeHeader
  cases hbg : isBreakGlassExtra header.extra with
  | true =>
    rw [if_pos rfl, returns_bind]
    constructor
    · rintro ⟨override, signer, hover, hsigner, hmem, -, hvote⟩
      refine ⟨⟨override, hover, authorizeBreakGlassSeal_returns_iff.mpr ⟨signer, hsigner, ?_⟩⟩,
        hvote⟩
      cases override with
      | none => exact absurd hover (breakGlassOverrideOf_ne_none hbg)
      | some => simpa [inForce] using hmem
    · rintro ⟨⟨override, hover, hseal⟩, hvote⟩
      obtain ⟨signer, hsigner, hmem⟩ := authorizeBreakGlassSeal_returns_iff.mp hseal
      cases override with
      | none => exact absurd hover (breakGlassOverrideOf_ne_none hbg)
      | some signers =>
        exact ⟨some signers, signer, hover, hsigner, by simpa [inForce] using hmem, by simp, hvote⟩
  | false =>
    rw [if_neg Bool.false_ne_true, authorizeSeal_returns_iff, breakGlassOverrideOf_none hbg]
    have hrule : ∀ signer, (¬ ∃ k,
        (enter c.config s header.number none).recents.lookup k = some signer) ↔
          recentlySigned s header.number signer = false := by
      intro signer
      rw [← Bool.not_eq_true, recentlySigned_iff hlim, hnum, enter_recents_iff_waiting h]
    constructor
    · rintro ⟨override, signer, ⟨⟩, hsigner, hmem, hrec, hvote⟩
      exact ⟨⟨signer, hsigner, hmem, (hrule signer).mp (hrec rfl)⟩, hvote⟩
    · rintro ⟨⟨signer, hsigner, hmem, hrec⟩, hvote⟩
      exact ⟨none, signer, rfl, hsigner, hmem, fun _ => (hrule signer).mpr hrec, hvote⟩

lemma voteOf_returns_iff {nonce : BlockNonce} :
    Returns (voteOf nonce) ↔ nonce = nonceAuthVote ∨ nonce = nonceDropVote := by
  constructor
  · rintro ⟨authorize, h⟩
    rw [voteOf_ok_iff] at h
    cases authorize <;> simp_all
  · rintro (rfl | rfl)
    · exact ⟨true, voteOf_ok_iff.mpr rfl⟩
    · exact ⟨false, voteOf_ok_iff.mpr rfl⟩

/-- The standalone checks of `verifyHeader` let only vote nonces through. -/
lemma verifyStandalone_nonce {chain : ChainHeaderReader} {now : Nat}
    (h : verifyStandalone K c chain now header = .ok ()) :
    header.nonce = nonceAuthVote ∨ header.nonce = nonceDropVote := by
  unfold verifyStandalone at h
  obtain ⟨_, -, h⟩ := bind_eq_ok.mp h
  obtain ⟨_, -, h⟩ := bind_eq_ok.mp h
  obtain ⟨_, hnonce, -⟩ := bind_eq_ok.mp h
  rw [guardErr_eq_ok, Bool.and_eq_false_iff, bne_eq_false_iff_eq, bne_eq_false_iff_eq] at hnonce
  exact hnonce

/-- **Header verification and snapshot replay agree.** On top of a reachable snapshot
the next header is authorised with a vote nonce exactly if `apply` takes it; so a
header that the engine accepts against its snapshot is never rejected by the
snapshot after it. -/
theorem verification_agrees_with_replay {K : Crypto} {c : Engine} {S : Snapshot}
    {header : Header} (hS : Reachable K c.config c.breakGlass S)
    (hnum : header.number = S.number + 1) (hlim : S.signers.card / 2 + 1 ≤ header.number) :
    (Returns (authorizeHeader K c S.toAuthState header) ∧
        (header.nonce = nonceAuthVote ∨ header.nonce = nonceDropVote) ↔
      Returns (S.apply K [header])) ∧
    ∀ (chain : ChainHeaderReader) (now : Nat), verifyStandalone K c chain now header = .ok () →
      verifyAgainst K c S.toAuthState header = .ok () → Returns (S.apply K [header]) := by
  have hiff : Returns (authorizeHeader K c S.toAuthState header) ∧
      (header.nonce = nonceAuthVote ∨ header.nonce = nonceDropVote) ↔
        Returns (S.apply K [header]) := by
    rw [← voteOf_returns_iff, ← applyHeader_returns_iff hS.recencyWindow hnum hlim]
    obtain ⟨hconfig, hbg⟩ := hS.config_eq
    simp only [Returns, apply_singleton_ok_iff, hconfig, hbg]
    constructor
    · rintro ⟨state, happly⟩
      exact ⟨_, hnum, state, happly, rfl⟩
    · rintro ⟨_, -, state, happly, -⟩
      exact ⟨state, happly⟩
  refine ⟨hiff, ?_⟩
  intro chain now halone hagainst
  exact hiff.mp ⟨authorizeHeader_of_verifyAgainst hagainst, verifyStandalone_nonce halone⟩

/-- The signer `2` may seal block 4, and the signer `1` has sealed too recently. -/
theorem verification_agrees_with_replay_third : ∃ S : Snapshot, S.signers.card = 3 ∧
    S.recents.lookup 3 = some (addressOf 1) ∧
      Returns (S.apply Crypto.transparent [fourthBy (addressOf 2)]) ∧
        ¬ Returns (S.apply Crypto.transparent [fourthBy (addressOf 1)]) := by
  obtain ⟨S, hrun, hS⟩ := third_joins
  simp only [Prod.mk.injEq] at hS
  obtain ⟨hnumber, hcard, hrecent, hfirst, hsecond⟩ := hS
  have hagrees : ∀ signer, _ ↔ Returns (S.apply Crypto.transparent [fourthBy signer]) :=
    fun signer => (verification_agrees_with_replay (K := Crypto.transparent) (c := soleEngine)
      (.apply (.bootstrap soleBootstrap zeroHash) hrun) (by rw [hnumber]; rfl)
      (by rw [hcard]; exact Nat.le_add_left 2 2)).1
  refine ⟨S, hcard, hrecent, (hagrees _).mp ⟨⟨_, hsecond⟩, .inr rfl⟩, fun hreturns => ?_⟩
  obtain ⟨⟨signer, hauth⟩, -⟩ := (hagrees _).mpr hreturns
  cases hfirst.symm.trans hauth

end Ferminux.Clique
