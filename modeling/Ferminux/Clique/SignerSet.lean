import Ferminux.Clique.Votes
import Ferminux.Clique.Engine

/-!
# Clique.SignerSet

**What a run of headers can do to the signer set.**

A header moves the set in two ways: an override that it carries replaces the set, and
the vote that it casts may turn around the membership of one account. The first is
authenticated by the owners (`breakGlassOverrideOf_some`), the second by a majority of
the signers in force (`AuthState.settleVote_signers`).

`run_votes` is the run lemma: every vote on record was cast by one header of the run,
has been on record ever since, and no block after that header cleared the votes. It
turns "the tally passed" into a statement about headers.
-/

namespace Ferminux.Clique

open Lib List AuthState Crypto

variable {K : Crypto} {config : CliqueConfig} {breakGlass : Option BreakGlassConfig}
  {header : Header} {s : AuthState} {signer : Address} {start S : Snapshot} {before : List Header}

/-! ### Votes along a run -/

/-- The header clears all votes cast before it: a checkpoint or a break-glass block. -/
def Resets (config : CliqueConfig) (header : Header) : Prop :=
  header.number % config.epoch = 0 ∨ isBreakGlassExtra header.extra = true

/-- The header is sealed by `voter` and names `account` as its beneficiary. -/
def SealedOn (K : Crypto) (header : Header) (voter account : Address) : Prop :=
  ecrecover K header = .ok voter ∧ header.coinbase = account

def Casts (K : Crypto) (header : Header) (vote : Vote) : Prop :=
  SealedOn K header vote.signer vote.address ∧ header.number = vote.block ∧
    voteOf header.nonce = .ok vote.authorize

/-- The vote was cast by a header of the run, no later header cleared the votes or
replaced it, and every snapshot since has it on record. -/
def Outstanding (K : Crypto) (start : Snapshot) (headers : List Header) (vote : Vote) : Prop :=
  ∃ before header after, headers = before ++ header :: after ∧ Casts K header vote ∧
    (∀ later ∈ after, ¬ Resets start.config later ∧ ¬ SealedOn K later vote.signer vote.address) ∧
    ∀ since S, since <+: after → start.apply K (before ++ header :: since) = .ok S → vote ∈ S.votes

lemma enter_book (config : CliqueConfig) (h : VoteBook s) (number : Nat)
    (override : Option (List Address)) : VoteBook (enter config s number override) ∧
      ∀ v ∈ (enter config s number override).votes,
        v ∈ s.votes ∧ number % config.epoch ≠ 0 ∧ override = none := by
  unfold enter
  cases override with
  | some =>
    refine ⟨VoteBook.of_no_votes ?_ ?_, ?_⟩
    · rw [expireRecent_votes]
      rfl
    · rw [expireRecent_tally]
      rfl
    · intro v hv
      rw [expireRecent_votes] at hv
      cases hv
  | none =>
    by_cases hepoch : number % config.epoch = 0
    · rw [if_pos hepoch]
      refine ⟨VoteBook.of_no_votes ?_ ?_, ?_⟩
      · rw [expireRecent_votes]
        rfl
      · rw [expireRecent_tally]
        rfl
      · intro v hv
        rw [expireRecent_votes] at hv
        cases hv
    · rw [if_neg hepoch]
      refine ⟨h.congr (expireRecent_signers _ _) (expireRecent_votes _ _)
        (expireRecent_tally _ _), ?_⟩
      intro v hv
      rw [expireRecent_votes] at hv
      exact ⟨hv, hepoch, rfl⟩

/-- One header: the votes it is decided on are the ones on record that it neither clears
nor replaces, and its own. -/
lemma polled_votes (config : CliqueConfig) (h : VoteBook s) (number : Nat)
    {override : Option (List Address)} (hsigner : signer ∈ s.inForce override)
    (coinbase : Address) (authorize : Bool) :
    VoteBook ((enter config s number override).polled number signer coinbase
        authorize) ∧ ∀ v ∈ ((enter config s number override).polled number signer coinbase
          authorize).votes,
        (v ∈ s.votes ∧ number % config.epoch ≠ 0 ∧ override = none ∧
            ¬ (v.signer = signer ∧ v.address = coinbase)) ∨
          v = ⟨signer, number, coinbase, authorize⟩ := by
  obtain ⟨hbook, hvotes⟩ := enter_book config h number override
  obtain ⟨hpolled, hnew⟩ := polled_book hbook
    (by rw [enter_signers]; exact hsigner) number coinbase authorize
  refine ⟨hpolled, ?_⟩
  intro v hv
  rcases hnew v hv with ⟨hv, hne⟩ | hv
  · obtain ⟨hold, hepoch, hnone⟩ := hvotes v hv
    exact .inl ⟨hold, hepoch, hnone, hne⟩
  · exact .inr hv

lemma not_resets_of_none (hover : breakGlassOverrideOf K breakGlass header = .ok none)
    (hepoch : header.number % config.epoch ≠ 0) : ¬ Resets config header := by
  intro hreset
  rcases hreset with h | h
  · exact hepoch h
  · exact breakGlassOverrideOf_ne_none h hover

lemma Outstanding.extend {headers : List Header} {vote : Vote}
    (h : Outstanding K start headers vote) (hreset : ¬ Resets start.config header)
    (hother : ¬ SealedOn K header vote.signer vote.address)
    (hrun : start.apply K (headers ++ [header]) = .ok S) (hmem : vote ∈ S.votes) :
    Outstanding K start (headers ++ [header]) vote := by
  obtain ⟨before, cast, after, rfl, hcast, hafter, hsince⟩ := h
  refine ⟨before, cast, after ++ [header], by simp, hcast, ?_, ?_⟩
  · intro later hlater
    rcases mem_append.mp hlater with hlater | hlater
    · exact hafter later hlater
    · rw [mem_singleton.mp hlater]
      exact ⟨hreset, hother⟩
  · intro since T hpre hT
    rcases prefix_concat_iff.mp hpre with rfl | hpre
    · -- the whole of the run: `T` is the snapshot after the header
      have heq : before ++ cast :: (after ++ [header]) = before ++ cast :: after ++ [header] := by
        simp
      rw [heq, hrun] at hT
      cases hT
      exact hmem
    · exact hsince since T hpre hT

/-- **The run lemma.** Along every run from a bootstrap snapshot the votes and the tally
belong together, and every vote on record is outstanding. -/
theorem run_votes (b : Bootstrap) (hash : Hash) {headers : List Header} {S : Snapshot}
    (hrun : (b.snapshot config breakGlass hash).apply K headers = .ok S) : VoteBook S.toAuthState ∧
      ∀ v ∈ S.votes, Outstanding K (b.snapshot config breakGlass hash) headers v := by
  induction headers using List.reverseRecOn generalizing S with
  | nil =>
    cases hrun
    refine ⟨VoteBook.of_no_votes rfl rfl, ?_⟩
    intro v hv
    cases hv
  | append_singleton headers header ih =>
    obtain ⟨mid, hmid, hlast⟩ := apply_append.mp hrun
    obtain ⟨hbook, hold⟩ := ih hmid
    obtain ⟨hconfig, hbg⟩ := (Reachable.apply (.bootstrap b hash) hmid).config_eq
    obtain ⟨-, state, happly, rfl⟩ := apply_singleton_ok_iff.mp hlast
    rw [hconfig, hbg] at happly
    obtain ⟨override, signer, authorize, hover, hsigner, hmem, -, hvote, rfl⟩ :=
      applyHeader_ok_iff.mp happly
    obtain ⟨hpolled, hvotes⟩ := polled_votes config hbook header.number hmem
      header.coinbase authorize
    obtain ⟨hnew, hsub⟩ := settleVote_book hpolled header.coinbase header.number
    refine ⟨hnew, ?_⟩
    intro v hv
    rcases hvotes v (hsub v hv) with ⟨hv', hepoch, rfl, hne⟩ | rfl
    · refine (hold v hv').extend (not_resets_of_none hover hepoch) ?_ hrun hv
      intro hsealed
      rw [SealedOn, hsigner, Except.ok.injEq] at hsealed
      exact hne ⟨hsealed.1.symm, hsealed.2.symm⟩
    · refine ⟨headers, header, [], by simp, ⟨⟨hsigner, rfl⟩, rfl, hvote⟩, by simp, ?_⟩
      intro since T hpre hT
      rw [prefix_nil.mp hpre, hrun] at hT
      cases hT
      exact hv

/-! ### Every change of the set is authenticated -/

/-- The set changed by exactly one account, on which more than half of the members of
`base` have a vote in the direction of the change: cast by `header`, or outstanding
before it and neither cleared nor replaced by it. -/
def MajorityChange (K : Crypto) (start : Snapshot) (before : List Header) (header : Header)
    (base new : Finset Address) : Prop :=
  ∃ account, new = AuthState.toggle base account ∧
    ∃ voters ⊆ base, base.card < 2 * voters.card ∧ ∀ voter ∈ voters, ∃ vote : Vote,
      vote.signer = voter ∧ vote.address = account ∧ vote.authorize = decide (account ∉ base) ∧
        (Casts K header vote ∨ (Outstanding K start before vote ∧ ¬ Resets start.config header ∧
            ¬ SealedOn K header voter account))

/-- One header: the set after it is the set in force for it, or that set changed by a
majority. -/
lemma apply_signers {b : Bootstrap} {hash : Hash} {S' : Snapshot}
    (hbefore : (b.snapshot config breakGlass hash).apply K before = .ok S)
    (hheader : S.apply K [header] = .ok S') :
    ∃ override, breakGlassOverrideOf K breakGlass header = .ok override ∧
      (S'.signers = S.inForce override ∨
        MajorityChange K (b.snapshot config breakGlass hash) before header (S.inForce override)
          S'.signers) := by
  obtain ⟨hbook, hold⟩ := run_votes b hash hbefore
  obtain ⟨hconfig, hbg⟩ := (Reachable.apply (.bootstrap b hash) hbefore).config_eq
  obtain ⟨-, state, happly, rfl⟩ := apply_singleton_ok_iff.mp hheader
  rw [hconfig, hbg] at happly
  obtain ⟨override, signer, authorize, hover, hsigner, hmem, -, hvote, rfl⟩ :=
    applyHeader_ok_iff.mp happly
  refine ⟨override, hover, ?_⟩
  obtain ⟨hpolled, hvotes⟩ := polled_votes config hbook header.number hmem header.coinbase authorize
  have hforce : ((enter config S.toAuthState header.number override).polled header.number
      signer header.coinbase authorize).signers = S.inForce override := by
    rw [polled_signers, enter_signers]
  have hsettle := settleVote_signers hpolled header.coinbase header.number
  rw [hforce] at hsettle
  rcases hsettle with heq | ⟨heq, hmaj⟩
  · exact .inl heq
  · refine .inr ⟨header.coinbase, heq, _, ?_, hmaj, ?_⟩
    · intro voter hvoter
      obtain ⟨v, hv, -, rfl⟩ := mem_votersOn.mp hvoter
      rw [← hforce]
      exact hpolled.voters v hv
    · intro voter hvoter
      obtain ⟨v, hv, haddr, rfl⟩ := mem_votersOn.mp hvoter
      have hdir := hpolled.meaningful v hv
      rw [direction, hforce, haddr] at hdir
      refine ⟨v, rfl, haddr, hdir, ?_⟩
      rcases hvotes v hv with ⟨hv', hepoch, rfl, hne⟩ | rfl
      · refine .inr ⟨hold v hv', not_resets_of_none hover hepoch, ?_⟩
        intro hsealed
        rw [SealedOn, hsigner, Except.ok.injEq] at hsealed
        exact hne ⟨hsealed.1.symm, by rw [haddr]⟩
      · exact .inl ⟨⟨hsigner, rfl⟩, rfl, hvote⟩

lemma MajorityChange.vote_of_resets {base new : Finset Address}
    (h : MajorityChange K start before header base new) (hreset : Resets start.config header) :
    voteOf header.nonce = .ok (decide (header.coinbase ∉ base)) := by
  obtain ⟨account, -, voters, -, hmaj, hvotes⟩ := h
  obtain ⟨voter, hvoter⟩ : voters.Nonempty := by
    rw [← Finset.card_pos]
    omega
  obtain ⟨vote, -, rfl, hdir, hcast | ⟨-, hno, -⟩⟩ := hvotes voter hvoter
  · obtain ⟨⟨-, hcoinbase⟩, -, hvote⟩ := hcast
    rw [hvote, hdir, hcoinbase]
  · exact absurd hreset hno

/-- **Signer-set authenticity.** Whenever a header changes the set, one of two things
happened. Without an override the set changed by one account, backed by a majority of
the signers before it. With an override, its list is approved by the owners for this
very slot and is the new set, unless the same header also counts a vote; then it is
the list that changed by one account under the majority rule. A header that casts no
vote, as `verifyHeader` demands of a break-glass block, installs exactly the list. -/
theorem signer_set_authentic {K : Crypto} {config : CliqueConfig}
    {breakGlass : Option BreakGlassConfig} {b : Bootstrap} {hash : Hash} {before : List Header}
    {header : Header} {S S' : Snapshot}
    (hbefore : (b.snapshot config breakGlass hash).apply K before = .ok S)
    (hheader : S.apply K [header] = .ok S') (hne : S'.signers ≠ S.signers) :
    (∃ c signers sigs, breakGlass = some c ∧
        parseCheckpointExtra header.extra = .ok (signers, sigs, true) ∧
        ApprovedOverride K c header.number header.parentHash signers sigs ∧
        (S'.signers = signers.toFinset ∨
          MajorityChange K (b.snapshot config breakGlass hash) before header signers.toFinset
            S'.signers) ∧
        (header.coinbase = zeroAddress → header.nonce = nonceDropVote →
          S'.signers = signers.toFinset)) ∨
      (isBreakGlassExtra header.extra = false ∧
        MajorityChange K (b.snapshot config breakGlass hash) before header S.signers
          S'.signers) := by
  obtain ⟨override, hover, hset⟩ := apply_signers hbefore hheader
  cases override with
  | none =>
    refine .inr ⟨?_, ?_⟩
    · rw [← Bool.not_eq_true]
      intro hbg
      exact breakGlassOverrideOf_ne_none hbg hover
    · rcases hset with heq | hmaj
      · exact absurd heq hne
      · exact hmaj
  | some signers =>
    obtain ⟨hbg, c, sigs, hc, hparse, happroved⟩ := breakGlassOverrideOf_some hover
    refine .inl ⟨c, signers, sigs, hc, hparse, happroved, hset, ?_⟩
    intro hcoinbase hnonce
    rcases hset with heq | hmaj
    · exact heq
    · -- the only vote is the header's own, and it would have to add the zero address
      have hvote := hmaj.vote_of_resets (.inr hbg)
      have hzero : header.coinbase ∉ signers.toFinset := by
        rw [hcoinbase, mem_toFinset]
        exact happroved.noZero
      rw [inForce, decide_eq_true hzero, voteOf_ok_iff, hnonce] at hvote
      exact absurd hvote (by decide)

lemma second_joins : ∃ S, (soleBootstrap.snapshot sampleConfig none zeroHash).apply transparent
      [sampleHeader 1 2 (addressOf 2) nonceAuthVote [] (addressOf 1)] = .ok S ∧
    S.signersAscending = [addressOf 1, addressOf 2] := map_eq_ok.mp (by decide +kernel)

/-- A sole signer votes a second one in. -/
theorem signer_set_authentic_second : ∃ S',
    (soleBootstrap.snapshot sampleConfig none zeroHash).apply Crypto.transparent
      [sampleHeader 1 2 (addressOf 2) nonceAuthVote [] (addressOf 1)] = .ok S' ∧
    S'.signers = {addressOf 1, addressOf 2} ∧
    MajorityChange Crypto.transparent (soleBootstrap.snapshot sampleConfig none zeroHash) []
      (sampleHeader 1 2 (addressOf 2) nonceAuthVote [] (addressOf 1)) {addressOf 1} S'.signers := by
  have hbefore : (soleBootstrap.snapshot sampleConfig none zeroHash).apply transparent [] =
      .ok (soleBootstrap.snapshot sampleConfig none zeroHash) := rfl
  obtain ⟨S', hrun, hS'⟩ := second_joins
  replace hS' : S'.signers = {addressOf 1, addressOf 2} := eq_toFinset_of_ascending hS'
  refine ⟨S', hrun, hS', ?_⟩
  rcases signer_set_authentic hbefore hrun (by rw [hS']; decide +kernel) with
    ⟨c, _, _, hc, -⟩ | ⟨-, hmaj⟩
  · cases hc
  · exact hmaj

/-- **The tally counts signers.** In every reachable snapshot the entry of an account goes against
its membership and counts the members that have a vote on it; without any there is no entry. -/
theorem tally_counts_signers (h : Reachable K config breakGlass S) (account : Address) :
    S.votersOn account ⊆ S.signers ∧
    S.tally.lookup account =
      tallyEntry (decide (account ∉ S.signers)) (S.votersOn account).card := by
  obtain ⟨b, hash, headers, hrun⟩ := reachable_iff.mp h
  obtain ⟨hbook, -⟩ := run_votes b hash hrun
  refine ⟨fun voter hvoter => ?_, ?_⟩
  · obtain ⟨v, hv, -, rfl⟩ := mem_votersOn.mp hvoter
    exact hbook.voters v hv
  · rw [card_votersOn hbook]
    exact hbook.counts account

/-- Of two signers one votes for a third. -/
theorem tally_counts_signers_third : ∃ S : Snapshot,
    S.tally.lookup (addressOf 3) = some ⟨true, 1⟩ ∧ S.votersOn (addressOf 3) ⊆ S.signers := by
  obtain ⟨S, hrun, hS⟩ : ∃ S, (soleBootstrap.snapshot sampleConfig none zeroHash).apply transparent
      [sampleHeader 1 2 (addressOf 2) nonceAuthVote [] (addressOf 1),
        sampleHeader 2 2 (addressOf 3) nonceAuthVote [] (addressOf 2)] = .ok S ∧
      S.tally.lookup (addressOf 3) = some ⟨true, 1⟩ := map_eq_ok.mp (by decide +kernel)
  exact ⟨S, hS, (tally_counts_signers (.apply (.bootstrap _ _) hrun) _).1⟩

def soleOwner : BreakGlassConfig := ⟨3961, [addressOf 9], 1⟩

/-- A header that carries an approved override to the signer `2`, is sealed by it, and
also votes for the account `3`. -/
def overrideWithVote : Header :=
  sampleHeader 1 2 (addressOf 3) nonceAuthVote
    (encodeBreakGlassPayload [addressOf 2] [transparentSignature (addressOf 9)]) (addressOf 2)

/-- `apply` alone counts a vote on a break-glass block, against the set just installed:
the new set is neither the list nor the old set changed by one account. It is
`verifyHeader` that refuses such a header. -/
theorem override_with_vote_installs_more : ∃ S',
    (soleBootstrap.snapshot sampleConfig (some soleOwner) zeroHash).apply Crypto.transparent
      [overrideWithVote] = .ok S' ∧
    breakGlassOverrideOf Crypto.transparent (some soleOwner) overrideWithVote =
      .ok (some [addressOf 2]) ∧
    verifyStandalone Crypto.transparent { soleEngine with breakGlass := some soleOwner }
      genesisChain 4 overrideWithVote = .error .errBreakGlassVote ∧
    S'.signers = {addressOf 2, addressOf 3} ∧ S'.signers ≠ [addressOf 2].toFinset ∧
    ∀ account, S'.signers ≠ AuthState.toggle
      (soleBootstrap.snapshot sampleConfig (some soleOwner) zeroHash).signers account := by
  obtain ⟨S', hrun, hS'⟩ := map_eq_ok.mp (show
    ((soleBootstrap.snapshot sampleConfig (some soleOwner) zeroHash).apply transparent
      [overrideWithVote]).map (fun S => S.signersAscending) = .ok [addressOf 2, addressOf 3] by
        decide +kernel)
  replace hS' : S'.signers = {addressOf 2, addressOf 3} := eq_toFinset_of_ascending hS'
  refine ⟨S', hrun, by decide +kernel, by decide +kernel, hS', by rw [hS']; decide, ?_⟩
  intro account
  rw [hS', toggle]
  split
  · -- removing a signer leaves none, the new set has two
    next hmem =>
      have hone : account = addressOf 1 := by
        simpa [Bootstrap.snapshot, newSnapshot, soleBootstrap] using hmem
      rw [hone]
      decide +kernel
  · -- letting one in keeps the old signer, who is gone
    intro heq
    have hold : addressOf 1 ∈ ({addressOf 2, addressOf 3} : Finset Address) := by
      rw [heq]
      exact Finset.mem_insert_of_mem (by decide +kernel)
    exact absurd hold (by decide)

/-! ### The last signer -/

/-- The header is a drop vote on the only member of the set in force for it. -/
def DropsLast (K : Crypto) (breakGlass : Option BreakGlassConfig) (s : AuthState)
    (header : Header) : Prop :=
  header.nonce = nonceDropVote ∧ ∃ override,
    breakGlassOverrideOf K breakGlass header = .ok override ∧ s.inForce override = {header.coinbase}

/-- The one signer of a set has no vote on the account of its header but the header's
own, so a change of the set goes the way the nonce says. -/
lemma polled_vote_of_sole (h : VoteBook s)
    (hsole : s.signers = {signer}) (number : Nat) (coinbase : Address) (authorize : Bool)
    {v : Vote} (hv : v ∈ (s.polled number signer coinbase authorize).votes)
    (haddr : v.address = coinbase) : v = ⟨signer, number, coinbase, authorize⟩ := by
  have hmem : signer ∈ s.signers := by
    rw [hsole]
    exact Finset.mem_singleton_self signer
  obtain ⟨-, hvotes⟩ := polled_book h hmem number coinbase authorize
  rcases hvotes v hv with ⟨hold, hne⟩ | hnew
  · have hvoter := h.voters v hold
    rw [hsole, Finset.mem_singleton] at hvoter
    exact absurd ⟨hvoter, haddr⟩ hne
  · exact hnew

lemma applyHeader_empty_iff {s' : AuthState} (h : VoteBook s)
    (happly : applyHeader K config breakGlass s header = .ok s') :
    s'.signers = ∅ ↔ DropsLast K breakGlass s header := by
  obtain ⟨override, signer, authorize, hover, -, hmem, -, hvote, rfl⟩ :=
    applyHeader_ok_iff.mp happly
  obtain ⟨hbook, -⟩ := enter_book config h header.number override
  have hforce := enter_signers config s header.number override
  rw [← hforce] at hmem
  obtain ⟨hpolled, -⟩ := polled_book hbook hmem header.number header.coinbase authorize
  have hdrops : DropsLast K breakGlass s header ↔ authorize = false ∧
      (enter config s header.number override).signers = {header.coinbase} := by
    rw [hforce]
    constructor
    · intro hd
      obtain ⟨hnonce, override', hover', hsole⟩ := hd
      rw [hover] at hover'
      cases hover'
      refine ⟨?_, hsole⟩
      rw [voteOf_ok_iff, hnonce] at hvote
      cases authorize with
      | false => rfl
      | true => exact absurd hvote (by decide)
    · intro hd
      obtain ⟨rfl, hsole⟩ := hd
      exact ⟨voteOf_ok_iff.mp hvote, override, hover, hsole⟩
  rw [hdrops, count_eq]
  generalize enter config s header.number override = e at hbook hmem hpolled
  have hset := polled_signers e header.number signer header.coinbase authorize
  constructor
  · intro hempty
    rcases settleVote_signers hpolled header.coinbase header.number with heq | ⟨heq, hmaj⟩
    · rw [heq, hset] at hempty
      rw [hempty] at hmem
      cases hmem
    · -- the set was turned around at the beneficiary and is empty: that was its only member
      rw [hset] at heq
      rw [heq, toggle] at hempty
      split at hempty
      · next hcoin =>
          have hsole : e.signers = {header.coinbase} := by
            rw [← Finset.insert_erase hcoin, hempty]
            rfl
          rw [hsole, Finset.mem_singleton] at hmem
          obtain ⟨voter, hvoter⟩ :
              ((e.polled header.number signer header.coinbase authorize).votersOn
                header.coinbase).Nonempty := by
            rw [← Finset.card_pos]
            omega
          obtain ⟨v, hv, haddr, -⟩ := mem_votersOn.mp hvoter
          have hown := polled_vote_of_sole hbook (by rw [hsole, hmem]) header.number
            header.coinbase authorize hv haddr
          have hdir := hpolled.meaningful v hv
          rw [hown, direction, hset] at hdir
          simp only [hcoin, not_true_eq_false, decide_false] at hdir
          exact ⟨hdir, hsole⟩
      · exact absurd hempty (Finset.insert_ne_empty _ _)
  · intro hd
    obtain ⟨rfl, hsole⟩ := hd
    rw [hsole, Finset.mem_singleton] at hmem
    -- the vote is valid and alone outweighs half of one signer
    have hown := mem_polled_votes e header.number signer header.coinbase false
      (by simp [direction, hsole])
    have hcount : 0 < votesOn (e.polled header.number signer header.coinbase false).votes
        header.coinbase := countP_pos_iff.mpr ⟨_, hown, by simp⟩
    have htally := hpolled.counts header.coinbase
    rw [tallyEntry, if_neg (by omega), direction, hset, hsole] at htally
    rcases settleVote_cases (e.polled header.number signer header.coinbase false)
      header.coinbase header.number with ⟨-, hle⟩ | ⟨t, ht, -, hauth, -⟩ | ⟨t, -, -, -, heq⟩
    · have := hle _ htally
      rw [hset, hsole] at this
      simp at this
      omega
    · rw [htally] at ht
      cases ht
      simp at hauth
    · rw [heq]
      simp only [discardVotesOn, discardVotesBy_signers,
        expireRecent_signers, hset, hsole]
      exact Finset.erase_singleton _

/-- **When the set stays inhabited.** Along a run from a bootstrap snapshot every snapshot
has a signer, and so a defined turn, exactly if no header of the run drops the last
member of the set in force for it. -/
theorem signers_nonempty_iff {K : Crypto} {config : CliqueConfig}
    {breakGlass : Option BreakGlassConfig} {b : Bootstrap} {hash : Hash} {headers : List Header}
    {S : Snapshot} (hrun : (b.snapshot config breakGlass hash).apply K headers = .ok S) :
    (∀ done rest T, headers = done ++ rest →
        (b.snapshot config breakGlass hash).apply K done = .ok T →
          T.signers.Nonempty ∧ ∀ number signer, Returns (T.inturn number signer)) ↔
      ∀ done header rest T, headers = done ++ header :: rest →
        (b.snapshot config breakGlass hash).apply K done = .ok T →
          ¬ DropsLast K breakGlass T.toAuthState header := by
  have hstep : ∀ done header T T', (b.snapshot config breakGlass hash).apply K done = .ok T →
      T.apply K [header] = .ok T' →
        (T'.signers = ∅ ↔ DropsLast K breakGlass T.toAuthState header) := by
    intro done header T T' hdone hT'
    obtain ⟨hconfig, hbg⟩ := (Reachable.apply (.bootstrap b hash) hdone).config_eq
    obtain ⟨-, state, happly, rfl⟩ := apply_singleton_ok_iff.mp hT'
    rw [hbg] at happly
    exact applyHeader_empty_iff (run_votes b hash hdone).1 happly
  constructor
  · intro hall done header rest T hsplit hT hdrop
    obtain ⟨T', hT', -⟩ : ∃ T', (b.snapshot config breakGlass hash).apply K (done ++ [header]) =
        .ok T' ∧ T'.apply K rest = .ok S := by
      rw [← apply_append, append_assoc, singleton_append, ← hsplit]
      exact hrun
    obtain ⟨mid, hmid, hlast⟩ := apply_append.mp hT'
    rw [hT] at hmid
    cases hmid
    have hne := (hall (done ++ [header]) rest T' (by simp [hsplit]) hT').1
    rw [(hstep done header T T' hT hlast).mpr hdrop] at hne
    exact Finset.not_nonempty_empty hne
  · intro hall done rest T hsplit hT
    have hne : T.signers.Nonempty := by
      rcases eq_nil_or_concat done with rfl | ⟨before, header, rfl⟩
      · cases hT
        exact toFinset_nonempty_iff _ |>.mpr b.nonempty
      · rw [concat_eq_append] at hT hsplit
        obtain ⟨mid, hmid, hlast⟩ := apply_append.mp hT
        rw [Finset.nonempty_iff_ne_empty, Ne, hstep before header mid T hmid hlast]
        exact hall before header rest mid (by simpa using hsplit) hmid
    exact ⟨hne, inturn_returns hne⟩

/-- A vote for a second signer leaves the set nonempty. -/
theorem signers_nonempty_iff_second : ∃ S,
    (soleBootstrap.snapshot sampleConfig none zeroHash).apply Crypto.transparent
      [sampleHeader 1 2 (addressOf 2) nonceAuthVote [] (addressOf 1)] = .ok S ∧
        S.signers.Nonempty := by
  obtain ⟨S, hrun, -⟩ := second_joins
  refine ⟨S, hrun, ((signers_nonempty_iff hrun).mpr ?_ _ [] S (append_nil _).symm hrun).1⟩
  intro done header rest T hsplit _ hdrop
  have hmem : header ∈ [sampleHeader 1 2 (addressOf 2) nonceAuthVote [] (addressOf 1)] := by
    rw [hsplit]
    simp
  rw [mem_singleton.mp hmem] at hdrop
  exact absurd hdrop.1 (by decide)

def selfRemoval : Header := sampleHeader 1 2 (addressOf 1) nonceDropVote [] (addressOf 1)

/-- The sole signer votes itself away: the header passes `verifyHeader`, the snapshot
after it has no signer, and the turn of the next block divides by zero. -/
theorem sole_signer_votes_itself_away :
    (verifyHeader Crypto.transparent noStore soleEngine genesisChain 4 selfRemoval [] ()).1 =
        .ok () ∧ ∃ S, (soleBootstrap.snapshot sampleConfig none zeroHash).apply Crypto.transparent
          [selfRemoval] = .ok S ∧ S.signers = ∅ ∧
        S.inturn 2 (addressOf 1) = .error .divideByZero := by
  refine ⟨by decide +kernel, ?_⟩
  obtain ⟨S, hrun, hS⟩ := map_eq_ok.mp (show
    ((soleBootstrap.snapshot sampleConfig none zeroHash).apply transparent
      [selfRemoval]).map (fun S => S.signersAscending) = .ok [] by decide +kernel)
  refine ⟨S, hrun, eq_toFinset_of_ascending hS, ?_⟩
  rw [inturn, hS]
  rfl

end Ferminux.Clique
