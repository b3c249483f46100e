import Ferminux.Clique.Run

/-!
# Clique.Votes

**The tally is a count of the votes.** A snapshot keeps the outstanding votes twice:
as a chronological list, and as a tally per account that is moved up and down by
`cast` and `uncast`. Whether the signer set changes is decided by the tally alone, so
that a change is backed by a majority rests on the two never drifting apart.

`VoteBook` is the invariant that ties them together:

* a signer has at most one outstanding vote on an account, and is still a signer;
* every vote on an account goes the same way: against a member, for a non-member;
* the tally of an account is the number of votes on it, and absent when there is none.

Each stage of the loop body keeps it. The removal of a signer is the delicate one: its votes are
uncast while the set has already shrunk, so the count is carried through that loop
for the direction each account had *before* (`Counts` takes the direction as a
parameter).
-/

namespace Ferminux.Clique

open Lib List Lib.Map

variable {s : AuthState} {votes : List Vote}

/-! ### Counting votes -/

def votesOn (votes : List Vote) (account : Address) : Nat :=
  votes.countP fun vote => vote.address = account

/-- The tally of `n` votes in the direction `authorize`. -/
def tallyEntry (authorize : Bool) (n : Nat) : Option Tally :=
  if n = 0 then none else some ⟨authorize, n⟩

/-- `tally` counts `votes`, where the votes on an account all go in its direction. -/
def Counts (direction : Address → Bool) (tally : Map Address Tally) (votes : List Vote) : Prop :=
  ∀ account, tally.lookup account = tallyEntry (direction account) (votesOn votes account)

lemma votesOn_cons (vote : Vote) (votes : List Vote) (account : Address) :
    votesOn (vote :: votes) account =
      votesOn votes account + if account = vote.address then 1 else 0 := by
  unfold votesOn
  rw [countP_cons]
  by_cases h : vote.address = account
  · simp [h]
  · simp [h, Ne.symm h]

lemma votesOn_filter_ne (votes : List Vote) (account : Address) (other : Address) :
    votesOn (votes.filter fun vote => vote.address ≠ account) other =
      if other = account then 0 else votesOn votes other := by
  unfold votesOn
  rw [countP_filter]
  by_cases h : other = account
  · rw [if_pos h, countP_eq_zero]
    intro vote _
    simp [h]
  · rw [if_neg h]
    apply countP_congr
    intro vote _
    simp only [Bool.and_eq_true, decide_eq_true_eq]
    constructor
    · intro hv
      exact hv.1
    · intro hv
      exact ⟨hv, by rw [hv]; exact h⟩

lemma Counts.perm {direction : Address → Bool} {tally : Map Address Tally}
    {votes' : List Vote} (h : Counts direction tally votes) (hperm : votes.Perm votes') :
    Counts direction tally votes' := by
  intro account
  rw [h account, votesOn, hperm.countP_eq]
  rfl

lemma uncast_counts {direction : Address → Bool} {vote : Vote}
    (h : Counts direction s.tally (vote :: votes))
    (hdir : vote.authorize = direction vote.address) :
    Counts direction (s.uncast vote.address vote.authorize).2.tally votes := by
  have hentry : s.tally.lookup vote.address =
      some ⟨direction vote.address, votesOn votes vote.address + 1⟩ := by
    rw [h vote.address, votesOn_cons, if_pos rfl]
    rfl
  have hother : ∀ account, account ≠ vote.address →
      s.tally.lookup account = tallyEntry (direction account) (votesOn votes account) := by
    intro account hne
    rw [h account, votesOn_cons, if_neg hne, Nat.add_zero]
  intro account
  simp only [AuthState.uncast, hentry, hdir, ne_eq, not_true_eq_false, if_false]
  by_cases hlast : votesOn votes vote.address = 0
  · rw [hlast, if_neg (by omega), lookup_erase_eq]
    split
    · next heq => rw [heq, hlast]; rfl
    · next hne => exact hother account hne
  · rw [if_pos (by omega), lookup_insert_eq]
    split
    · next heq => rw [heq, tallyEntry, if_neg hlast]; rfl
    · next hne => exact hother account hne

/-- Uncasting every vote of `signer`, in the order of the list, leaves a count of the
votes of the others. -/
lemma uncast_loop_counts {direction : Address → Bool} (signer : Address)
    (votes kept : List Vote) (s : AuthState) (h : Counts direction s.tally (kept ++ votes))
    (hdir : ∀ vote ∈ votes, vote.authorize = direction vote.address) :
    Counts direction (votes.foldl (fun s vote =>
        if vote.signer = signer then (s.uncast vote.address vote.authorize).2 else s) s).tally
      (kept ++ votes.filter fun vote => vote.signer ≠ signer) := by
  induction votes generalizing kept s with
  | nil => simpa using h
  | cons vote rest ih =>
    have hrest : ∀ v ∈ rest, v.authorize = direction v.address := by
      intro v hv
      exact hdir v (mem_cons_of_mem _ hv)
    rw [foldl_cons]
    by_cases hsig : vote.signer = signer
    · rw [if_pos hsig, filter_cons_of_neg (by simpa using hsig)]
      refine ih kept _ ?_ hrest
      exact uncast_counts (h.perm perm_middle) (hdir vote mem_cons_self)
    · rw [if_neg hsig, filter_cons_of_pos (by simpa using hsig)]
      have := ih (kept ++ [vote]) s (by simpa using h) hrest
      simpa using this

/-! ### The invariant -/

/-- The direction in which a vote on `account` makes sense: for a non-member, against
a member. -/
def AuthState.direction (s : AuthState) (account : Address) : Bool := decide (account ∉ s.signers)

/-- The votes of a snapshot and its tally belong together. -/
structure VoteBook (s : AuthState) : Prop where
  /-- One outstanding vote per signer and account. -/
  distinct : s.votes.Pairwise fun v w => ¬ (v.signer = w.signer ∧ v.address = w.address)
  voters : ∀ v ∈ s.votes, v.signer ∈ s.signers
  meaningful : ∀ v ∈ s.votes, v.authorize = s.direction v.address
  counts : Counts s.direction s.tally s.votes

lemma VoteBook.of_no_votes (hvotes : s.votes = []) (htally : s.tally = ∅) : VoteBook s where
  distinct := by rw [hvotes]; exact List.Pairwise.nil
  voters := by simp [hvotes]
  meaningful := by simp [hvotes]
  counts := by
    intro account
    simp [hvotes, htally, votesOn, tallyEntry]

lemma VoteBook.congr {t : AuthState} (h : VoteBook s) (hsigners : t.signers = s.signers)
    (hvotes : t.votes = s.votes) (htally : t.tally = s.tally) : VoteBook t where
  distinct := by rw [hvotes]; exact h.distinct
  voters := by rw [hvotes, hsigners]; exact h.voters
  meaningful := by
    simp only [AuthState.direction, hvotes, hsigners]
    exact h.meaningful
  counts := by
    have hdir : t.direction = s.direction := by
      funext account
      simp [AuthState.direction, hsigners]
    rw [hvotes, htally, hdir]
    exact h.counts

/-! ### The stages keep it -/

namespace AuthState

variable {account : Address}

lemma validVote_iff {authorize : Bool} :
    s.validVote account authorize = true ↔ authorize = s.direction account := by
  unfold validVote direction
  by_cases h : account ∈ s.signers <;> cases authorize <;> simp [h]

/-- `discardVote` drops the one vote of the signer on the account. -/
lemma discardVote_book (h : VoteBook s) (signer account : Address) :
    VoteBook (s.discardVote signer account) ∧ ∀ v ∈ (s.discardVote signer account).votes,
      v ∈ s.votes ∧ ¬ (v.signer = signer ∧ v.address = account) := by
  unfold discardVote
  cases hfind : s.votes.find? (fun v => v.signer = signer ∧ v.address = account) with
  | none =>
    refine ⟨h, ?_⟩
    intro v hv
    exact ⟨hv, by simpa using List.find?_eq_none.mp hfind v hv⟩
  | some vote =>
    obtain ⟨hvote, l1, l2, hl, hl1⟩ := List.find?_eq_some_iff_append.mp hfind
    have herase : s.votes.eraseP (fun v => v.signer = signer ∧ v.address = account) =
        l1 ++ l2 := by
      rw [hl, eraseP_append_right, eraseP_cons_of_pos (by exact hvote)]
      intro b hb
      simpa only [Bool.not_eq_true', decide_eq_false_iff_not, decide_eq_true_eq] using hl1 b hb
    have hvote' : vote.signer = signer ∧ vote.address = account := by simpa using hvote
    have hdist := h.distinct
    rw [hl, pairwise_append, pairwise_cons] at hdist
    have hsub : ∀ v ∈ l1 ++ l2, v ∈ s.votes := by
      intro v hv
      rw [hl]
      rcases mem_append.mp hv with hv | hv
      · exact mem_append_left _ hv
      · exact mem_append_right _ (mem_cons_of_mem _ hv)
    simp only [herase]
    rw [uncast_eq]
    refine ⟨?_, ?_⟩
    · refine ⟨?_, ?_, ?_, ?_⟩
      · refine pairwise_append.mpr ⟨hdist.1, hdist.2.1.2, ?_⟩
        intro a ha b hb
        exact hdist.2.2 a ha b (mem_cons_of_mem _ hb)
      · intro v hv
        exact h.voters v (hsub v hv)
      · intro v hv
        exact h.meaningful v (hsub v hv)
      · refine uncast_counts (Counts.perm h.counts ?_) (h.meaningful vote ?_)
        · rw [hl]
          exact perm_middle
        · rw [hl]
          exact mem_append_right _ mem_cons_self
    · intro v hv
      refine ⟨hsub v hv, ?_⟩
      rw [← hvote'.1, ← hvote'.2]
      rcases mem_append.mp hv with hv | hv
      · exact hdist.2.2 v hv vote mem_cons_self
      · intro heq
        exact hdist.2.1.1 v hv ⟨heq.1.symm, heq.2.symm⟩

variable {signer : Address}

/-- `castVote` counts the new vote if it makes sense and is the signer's only one. -/
lemma castVote_book (h : VoteBook s) (hsigner : signer ∈ s.signers)
    (hnew : ∀ v ∈ s.votes, ¬ (v.signer = signer ∧ v.address = account)) (number : Nat)
    (authorize : Bool) : VoteBook (s.castVote signer number account authorize) ∧
      ∀ v ∈ (s.castVote signer number account authorize).votes,
        v ∈ s.votes ∨ v = ⟨signer, number, account, authorize⟩ := by
  unfold castVote cast
  by_cases hvalid : s.validVote account authorize = true
  · have hdir := validVote_iff.mp hvalid
    have hmem : ∀ v ∈ s.votes ++ [⟨signer, number, account, authorize⟩],
        v ∈ s.votes ∨ v = ⟨signer, number, account, authorize⟩ := by
      intro v hv
      rcases mem_append.mp hv with hv | hv
      · exact .inl hv
      · exact .inr (mem_singleton.mp hv)
    have hcounts : ∀ tally : Map Address Tally,
        tally.lookup account = some ⟨s.direction account, votesOn s.votes account + 1⟩ →
        (∀ other, other ≠ account → tally.lookup other = s.tally.lookup other) →
        VoteBook { s with
          tally := tally, votes := s.votes ++ [⟨signer, number, account, authorize⟩] } := by
      intro tally hself hother
      refine ⟨?_, ?_, ?_, ?_⟩
      · refine pairwise_append.mpr ⟨h.distinct, pairwise_singleton _ _, ?_⟩
        intro a ha b hb
        rw [mem_singleton.mp hb]
        exact hnew a ha
      · intro v hv
        rcases hmem v hv with hv | rfl
        · exact h.voters v hv
        · exact hsigner
      · intro v hv
        rcases hmem v hv with hv | rfl
        · exact h.meaningful v hv
        · exact hdir
      · refine Counts.perm ?_ (perm_append_singleton _ _).symm
        intro other
        rw [votesOn_cons]
        by_cases hother' : other = account
        · rw [if_pos hother', hother', hself]
          rfl
        · rw [if_neg hother', hother other hother', h.counts other]
          rfl
    simp only [hvalid, Bool.not_true, Bool.false_eq_true, if_false]
    have hlookup := h.counts account
    cases htally : s.tally.lookup account with
    | some =>
      rw [htally, tallyEntry] at hlookup
      split at hlookup
      · cases hlookup
      · cases hlookup
        refine ⟨hcounts _ ?_ ?_, hmem⟩
        · rw [lookup_insert_eq, if_pos rfl]
        · intro other hne
          rw [lookup_insert_eq, if_neg hne]
    | none =>
      rw [htally, tallyEntry] at hlookup
      split at hlookup
      · next hzero =>
          refine ⟨hcounts _ ?_ ?_, hmem⟩
          · rw [lookup_insert_eq, if_pos rfl, hdir, hzero]
          · intro other hne
            rw [lookup_insert_eq, if_neg hne]
      · cases hlookup
  · simp only [hvalid, Bool.not_false, if_true, Bool.false_eq_true, if_false]
    exact ⟨h, fun v hv => .inl hv⟩

/-- Dropping every vote on an account whose membership changed. The other accounts keep
their direction, so what is left is a vote book of the new set. -/
lemma discardVotesOn_book {t : AuthState}
    (hdist : t.votes.Pairwise fun v w => ¬ (v.signer = w.signer ∧ v.address = w.address))
    (hvoters : ∀ v ∈ t.votes, v.signer ∈ t.signers)
    (hmeaning : ∀ v ∈ t.votes, v.authorize = s.direction v.address)
    (hcounts : Counts s.direction t.tally t.votes)
    (hdir : ∀ other, other ≠ account → t.direction other = s.direction other) :
    VoteBook (t.discardVotesOn account) where
  distinct := hdist.filter _
  voters := by
    intro v hv
    exact hvoters v (mem_filter.mp hv).1
  meaningful := by
    intro v hv
    obtain ⟨hv, hne⟩ := mem_filter.mp hv
    rw [hmeaning v hv]
    exact (hdir v.address (by simpa using hne)).symm
  counts := by
    intro other
    show (t.tally.erase account).lookup other = tallyEntry (t.direction other)
      (votesOn (t.votes.filter fun v => v.address ≠ account) other)
    rw [lookup_erase_eq, votesOn_filter_ne]
    by_cases h : other = account
    · rw [if_pos h, if_pos h]
      rfl
    · rw [if_neg h, if_neg h, hcounts other, hdir other h]

/-- `settleVote` keeps the vote book, and only ever drops votes. -/
lemma settleVote_book (h : VoteBook s) (account : Address) (number : Nat) :
    VoteBook (s.settleVote account number) ∧
      ∀ v ∈ (s.settleVote account number).votes, v ∈ s.votes := by
  rcases settleVote_cases s account number with
    ⟨heq, -⟩ | ⟨t, -, -, -, heq⟩ | ⟨t, -, -, -, heq⟩
  · rw [heq]
    exact ⟨h, fun v hv => hv⟩
  · rw [heq]
    refine ⟨discardVotesOn_book h.distinct ?_ h.meaningful h.counts ?_, ?_⟩
    · intro v hv
      exact Finset.mem_insert_of_mem (h.voters v hv)
    · intro other hne
      simp [direction, hne]
    · intro v hv
      exact (mem_filter.mp hv).1
  · rw [heq]
    -- the votes of the removed signer are uncast in the directions of the old set
    have hloop := uncast_loop_counts account s.votes []
      ({ s with signers := s.signers.erase account }.expireRecent number)
      (by rw [expireRecent_tally]; exact h.counts) h.meaningful
    have hmem : ∀ v ∈ s.votes.filter (fun v => v.signer ≠ account),
        v ∈ s.votes ∧ v.signer ≠ account := by
      intro v hv
      obtain ⟨hv, hne⟩ := mem_filter.mp hv
      exact ⟨hv, by simpa using hne⟩
    have hvotes : (({ s with signers := s.signers.erase account }.expireRecent
        number).discardVotesBy account).votes = s.votes.filter (fun v => v.signer ≠ account) := by
      simp [discardVotesBy, expireRecent_votes]
    refine ⟨discardVotesOn_book (s := s) ?_ ?_ ?_ ?_ ?_, ?_⟩
    · rw [hvotes]
      exact h.distinct.filter _
    · intro v hv
      rw [hvotes] at hv
      rw [discardVotesBy_signers, expireRecent_signers]
      exact Finset.mem_erase.mpr ⟨(hmem v hv).2, h.voters v (hmem v hv).1⟩
    · intro v hv
      rw [hvotes] at hv
      exact h.meaningful v (hmem v hv).1
    · simpa only [discardVotesBy, expireRecent_votes, nil_append] using hloop
    · intro other hne
      simp [direction, hne]
    · intro v hv
      have hv := (mem_filter.mp hv).1
      rw [hvotes] at hv
      exact (hmem v hv).1

/-! ### A change is backed by a majority -/

/-- The state in which the tally is read: the signer is recorded and its vote is in. -/
def polled (s : AuthState) (number : Nat) (signer coinbase : Address) (authorize : Bool) :
    AuthState :=
  ((s.recordSigner number signer).discardVote signer coinbase).castVote signer number coinbase
    authorize

lemma polled_book (h : VoteBook s)
    (hsigner : signer ∈ s.signers) (number : Nat) (coinbase : Address) (authorize : Bool) :
    VoteBook (s.polled number signer coinbase authorize) ∧
      ∀ v ∈ (s.polled number signer coinbase authorize).votes,
        (v ∈ s.votes ∧ ¬ (v.signer = signer ∧ v.address = coinbase)) ∨
          v = ⟨signer, number, coinbase, authorize⟩ := by
  have hrec : VoteBook (s.recordSigner number signer) := h.congr rfl rfl rfl
  obtain ⟨hdis, hdisv⟩ := discardVote_book hrec signer coinbase
  obtain ⟨hcast, hcastv⟩ := castVote_book hdis
    (by rw [discardVote_signers]; exact hsigner) (fun v hv => (hdisv v hv).2) number authorize
  refine ⟨hcast, ?_⟩
  intro v hv
  rcases hcastv v hv with hv | hv
  · exact .inl (hdisv v hv)
  · exact .inr hv

lemma mem_polled_votes (s : AuthState) (number : Nat) (signer coinbase : Address)
    (authorize : Bool) (h : authorize = s.direction coinbase) :
    ⟨signer, number, coinbase, authorize⟩ ∈ (s.polled number signer coinbase authorize).votes := by
  have hvalid : ((s.recordSigner number signer).discardVote signer coinbase).validVote coinbase
      authorize = true := by
    rw [validVote_iff, h, direction, direction, discardVote_signers, recordSigner]
  unfold polled castVote cast
  simp only [hvalid, Bool.not_true, Bool.false_eq_true, if_false]
  split <;> simp

@[simp] lemma polled_signers (s : AuthState) (number : Nat) (signer coinbase : Address)
    (authorize : Bool) : (s.polled number signer coinbase authorize).signers = s.signers := by
  rw [polled, castVote_signers, discardVote_signers, recordSigner]

lemma count_eq (s : AuthState) (number : Nat) (signer coinbase : Address) (authorize : Bool) :
    s.count number signer coinbase authorize =
      (s.polled number signer coinbase authorize).settleVote coinbase number := rfl

def votersOn (s : AuthState) (account : Address) : Finset Address :=
  ((s.votes.filter fun v => v.address = account).map Vote.signer).toFinset

lemma mem_votersOn {voter : Address} :
    voter ∈ s.votersOn account ↔ ∃ v ∈ s.votes, v.address = account ∧ v.signer = voter := by
  simp [votersOn, and_assoc]

lemma card_votersOn (h : VoteBook s) (account : Address) :
    (s.votersOn account).card = votesOn s.votes account := by
  have hnodup : ((s.votes.filter fun v => v.address = account).map Vote.signer).Nodup := by
    rw [List.Nodup, pairwise_map, pairwise_filter]
    refine h.distinct.imp ?_
    intro v w hvw hv hw heq
    exact hvw ⟨heq, by rw [of_decide_eq_true hv, of_decide_eq_true hw]⟩
  rw [votersOn, toFinset_card_of_nodup hnodup, length_map, votesOn, countP_eq_length_filter]

/-- The set with the membership of `account` turned around. -/
def toggle (signers : Finset Address) (account : Address) : Finset Address :=
  if account ∈ signers then signers.erase account else insert account signers

/-- **A passing tally is a majority of distinct signers**, and then the membership of
the account is turned around. -/
theorem settleVote_signers (h : VoteBook s) (account : Address) (number : Nat) :
    (s.settleVote account number).signers = s.signers ∨
      (s.settleVote account number).signers = toggle s.signers account ∧
        s.signers.card < 2 * (s.votersOn account).card := by
  have hpass : ∀ t, s.tally.lookup account = some t → s.signers.card / 2 < t.votes →
      t.authorize = s.direction account ∧ s.signers.card < 2 * (s.votersOn account).card := by
    intro t ht hlt
    have hcounts := h.counts account
    rw [ht, tallyEntry] at hcounts
    split at hcounts
    · cases hcounts
    · cases hcounts
      rw [card_votersOn h]
      exact ⟨rfl, by simp only at hlt; omega⟩
  rcases settleVote_cases s account number with
    ⟨heq, -⟩ | ⟨t, ht, hlt, hauth, heq⟩ | ⟨t, ht, hlt, hauth, heq⟩
  · exact .inl (by rw [heq])
  · obtain ⟨hdir, hmaj⟩ := hpass t ht hlt
    have hnot : account ∉ s.signers := by
      rw [hauth] at hdir
      exact of_decide_eq_true hdir.symm
    exact .inr ⟨by rw [heq, toggle, if_neg hnot]; rfl, hmaj⟩
  · obtain ⟨hdir, hmaj⟩ := hpass t ht hlt
    have hmem : account ∈ s.signers := by
      rw [hauth] at hdir
      exact not_not.mp (of_decide_eq_false hdir.symm)
    refine .inr ⟨?_, hmaj⟩
    rw [heq, toggle, if_pos hmem]
    simp [discardVotesOn, discardVotesBy_signers, expireRecent_signers]

end AuthState

end Ferminux.Clique
