import Ferminux.Hub.Refine

/-!
# Hub.Batch

A batch of attestations as changes of the books. While a batch is open the pool and the counts of
its checkpoint are in memory and the storage is behind; `Batch.settled` are the books as they would
be if it were closed at once, and **every accepted signature is a change of those**.
-/

namespace Ferminux.Hub

open Lib Relation Books Batch Nat

variable {H : Type}

namespace Batch

variable (batch : Batch H)

/-- The books as they are once the batch is closed. -/
def settled (blockHash : H) (b : Books H) : Books H :=
  if batch.added = 0 then b
  else
    { b with
      checkpoints := b.withCheckpoint batch.height (batch.checkpoint blockHash)
      rewardPool := batch.pool
      acct := { b.acct with
                totalAllocated := b.acct.totalAllocated + batch.paid
                totalClaimable := b.acct.totalClaimable + batch.paid } }

/-- The working state of an open batch matches the books. -/
structure Matches (K : Deployment H) (number : Nat) (blockHash : H) (batch : Batch H)
    (b : Books H) : Prop where
  window : Window number batch.height
  blockHash : K.blockHash batch.height = blockHash
  cp : batch.cp = batch.height / CHECKPOINT_INTERVAL
  rate : batch.rate = currentRewardPerAttest b number
  pool : batch.pool + batch.paid = b.rewardPool
  none : batch.added = 0 → batch.paid = 0
  fresh : batch.fresh = true → (b.checkpoints batch.height).snapshotBlock = 0 ∧
    batch.snapshotBlock = number ∧ batch.eligible = b.eligibleCount ∧ b.Synced number ∧
    (batch.added = 0 → batch.count = 0 ∧ batch.total = 0)
  old : batch.fresh = false → (b.checkpoints batch.height).snapshotBlock ≠ 0 ∧
    batch.snapshotBlock = (b.checkpoints batch.height).snapshotBlock ∧
    batch.eligible = (b.checkpoints batch.height).eligible ∧
    (batch.added = 0 → batch.count = (b.checkpoints batch.height).count ∧
      batch.total = (b.checkpoints batch.height).total)

/-- The books with one attestation of a seat taken in, but for what the batch keeps. -/
def marked (number : Nat) (blockHash : H) (seatId : Nat) (b : Books H) : Books H :=
  { b with
    bits := Function.update b.bits seatId
      (markParticipation (b.bits seatId) (b.seats seatId).lastAttestedCp batch.cp)
    seats := b.withSeat seatId fun x =>
      { x with lastAttestedCp := batch.cp, claimable := x.claimable + batch.reward }
    log := (number, .Attested seatId batch.height batch.reward) ::
      if batch.added = 0 ∧ batch.fresh = true then
        (number, .CheckpointOpened batch.height blockHash batch.eligible) :: b.log
      else b.log }

/-- The books to which the next attestation is added. -/
def begun (number : Nat) (blockHash : H) (b : Books H) : Books H :=
  { b with
    checkpoints := b.withCheckpoint batch.height (batch.checkpoint blockHash)
    rewardPool := batch.pool
    acct := { b.acct with
              totalAllocated := b.acct.totalAllocated + batch.paid
              totalClaimable := b.acct.totalClaimable + batch.paid }
    log :=
      if batch.added = 0 ∧ batch.fresh = true then
        (number, .CheckpointOpened batch.height blockHash batch.eligible) :: b.log
      else b.log }

variable {K : Deployment H} {number : Nat} {blockHash : H} {batch : Batch H} {b : Books H}

/-! ### One signature -/

lemma reward_le : batch.reward ≤ batch.pool := by
  unfold reward
  split
  · rename_i h
    exact h.2
  · exact zero_le _

lemma settled_none (h : batch.added = 0) : batch.settled blockHash b = b := if_pos h

lemma settled_some (h : batch.added ≠ 0) : batch.settled blockHash b = { b with
      checkpoints := b.withCheckpoint batch.height (batch.checkpoint blockHash)
      rewardPool := batch.pool
      acct := { b.acct with
                totalAllocated := b.acct.totalAllocated + batch.paid
                totalClaimable := b.acct.totalClaimable + batch.paid } } := if_neg h

namespace Matches

variable (h : batch.Matches K number blockHash b)
include h

lemma pool_of_none (hnone : batch.added = 0) : batch.pool = b.rewardPool := by
  have hpool := h.pool
  rwa [h.none hnone, add_zero] at hpool

lemma number_ne_zero : number ≠ 0 := by
  have := h.window.start
  have : INCLUSION_DELAY = 64 := rfl
  omega

lemma checkpoint_eq : batch.checkpoint blockHash (b.checkpoints batch.height) =
    { b.checkpoints batch.height with
      blockHash := if batch.fresh then blockHash else (b.checkpoints batch.height).blockHash
      count := batch.count
      eligible := batch.eligible
      total := batch.total
      snapshotBlock := batch.snapshotBlock } := by
  unfold checkpoint
  cases hf : batch.fresh with
  | true => rfl
  | false =>
    obtain ⟨-, hsnap, helig, -⟩ := h.old hf
    simp [hsnap, helig]

/-- The books to which the next attestation is added come from those the batch settles to: the
first one opens the checkpoint. -/
lemma begun_changes :
    Changes K number (batch.settled blockHash b) (batch.begun number blockHash b) := by
  by_cases hnone : batch.added = 0
  · rw [settled_none hnone]
    have hpaid := h.none hnone
    have hpool := h.pool_of_none hnone
    cases hf : batch.fresh with
    | true =>
      obtain ⟨hclosed, hsnap, helig, hsynced, hzero⟩ := h.fresh hf
      have hc : Change K number b
          (b.checkpointOpened number batch.height (K.blockHash batch.height)) :=
        .openCheckpoint h.window hsynced hclosed
      refine .single ?_
      simpa only [begun, checkpointOpened, withCheckpoint, checkpoint, hf, hnone,
        hpaid, hpool, hsnap, helig, hzero hnone, h.blockHash, and_self, if_true,
        add_zero] using hc
    | false =>
      obtain ⟨hopen, hsnap, helig, hsame⟩ := h.old hf
      have hcp : b.withCheckpoint batch.height (batch.checkpoint blockHash) = b.checkpoints := by
        simp [withCheckpoint, checkpoint, hf, hsame hnone]
      have heq : batch.begun number blockHash b = b := by
        simp [begun, hcp, hpool, hpaid, hf]
      rw [heq]
  · have heq : batch.begun number blockHash b = batch.settled blockHash b := by
      simp [settled_some hnone, begun, hnone]
    rw [heq]

lemma rewardNow_begun : (batch.begun number blockHash b).rewardNow number = batch.reward := by
  have hrate : currentRewardPerAttest (batch.begun number blockHash b) number = batch.rate := by
    rw [h.rate]
    rfl
  simp only [rewardNow, hrate]
  rfl

lemma accept (seatId : Nat) : (batch.accept (b.seats seatId)).Matches K number blockHash
    (batch.marked number blockHash seatId b) where
  window := h.window
  blockHash := h.blockHash
  cp := h.cp
  rate := h.rate
  pool := by
    have hpool := h.pool
    have hle := batch.reward_le
    simp only [Batch.accept, marked]
    omega
  none h0 := absurd h0 (succ_ne_zero _)
  fresh hf := by
    obtain ⟨hclosed, hsnap, helig, hsynced, -⟩ := h.fresh hf
    refine ⟨hclosed, hsnap, helig, ?_, fun h0 => absurd h0 (succ_ne_zero _)⟩
    simp only [Books.Synced, marked]
    rwa [b.withSeat_same Seat.activationBlock rfl]
  old hf := by
    obtain ⟨hopen, hsnap, helig, -⟩ := h.old hf
    exact ⟨hopen, hsnap, helig, fun h0 => absurd h0 (succ_ne_zero _)⟩

lemma attestedBy_begun (seatId : Nat) :
    (batch.begun number blockHash b).attestedBy number seatId batch.height =
      (batch.accept (b.seats seatId)).settled blockHash (batch.marked number blockHash seatId b) := by
  have hcp := (h.accept seatId).checkpoint_eq
  rw [settled_some (succ_ne_zero _)]
  simp only [attestedBy, h.rewardNow_begun]
  simp only [Batch.accept, marked, h.cp] at hcp
  simp [begun, marked, Batch.accept, withSeat, withCheckpoint, h.checkpoint_eq, hcp,
    h.cp, Function.update_self, Function.update_idem, add_assoc]

lemma snapshotBlock_ne_zero : batch.snapshotBlock ≠ 0 := by
  cases hf : batch.fresh with
  | true =>
    rw [(h.fresh hf).2.1]
    exact h.number_ne_zero
  | false =>
    rw [(h.old hf).2.1]
    exact (h.old hf).1

/-- **An accepted signature is an attestation**, which opens the checkpoint if it is the first. -/
theorem changes {seatId : Nat} (hbonded : (b.seats seatId).status = .BONDED)
    (hjailed : (b.seats seatId).jailed = false) (hactive : (b.seats seatId).activationBlock ≤ number)
    (hnew : (b.seats seatId).lastAttestedCp < batch.cp) :
    Changes K number (batch.settled blockHash b) ((batch.accept (b.seats seatId)).settled blockHash
        (batch.marked number blockHash seatId b)) := by
  refine h.begun_changes.tail ?_
  rw [← h.attestedBy_begun]
  refine .attest h.window ?_ hbonded hjailed hactive (h.cp ▸ hnew)
  simp only [begun, withCheckpoint, h.checkpoint_eq, Function.update_self]
  exact h.snapshotBlock_ne_zero

end Matches

end Batch

/-! ### The batch -/

variable {K : Deployment H} {m : Context} {s : Store H} {height : Nat} {blockHash : H}
  {batch : Batch H} {b : Books H}

lemma batchOf_matches (hwindow : Window m.number height)
    (hhash : K.blockHash height = blockHash) (hsynced : b.Synced m.number) :
    (batchOf K m height blockHash b).Matches K m.number blockHash b ∧
      (batchOf K m height blockHash b).added = 0 := by
  by_cases hfresh : (b.checkpoints height).snapshotBlock = 0
  · simp only [batchOf, if_pos hfresh]
    exact ⟨⟨hwindow, hhash, rfl, rfl, rfl, fun _ => rfl,
      fun _ => ⟨hfresh, rfl, rfl, hsynced, fun _ => ⟨rfl, rfl⟩⟩, (fun h => by cases h)⟩, trivial⟩
  · simp only [batchOf, if_neg hfresh]
    exact ⟨⟨hwindow, hhash, rfl, rfl, rfl, fun _ => rfl, (fun h => by cases h),
      fun _ => ⟨hfresh, rfl, rfl, fun _ => ⟨rfl, rfl⟩⟩⟩, trivial⟩

lemma post_openBatch [DecidableEq H] [Zero H] :
    Post (openBatch K m height blockHash) (fun batch s' =>
      batch.Matches K m.number blockHash s'.toBooks ∧
        Changes K m.number s.toBooks (batch.settled blockHash s'.toBooks)) s := by
  simp only [openBatch, post_steps]
  rintro _ ⟨hne, hmul⟩ ⟨hstart, hstop⟩ ⟨hhash, hblock⟩
  refine (post_syncAll (K := K)).mono ?_
  rintro _ s' ⟨hadv, hsynced⟩
  have hchain : K.blockHash height = blockHash := by
    rw [Deployment.blockhash] at hblock
    split at hblock
    · exact hblock
    · exact absurd hblock.symm hhash
  obtain ⟨hmatches, hnone⟩ :=
    batchOf_matches (m := m) (b := s'.toBooks) ⟨hne, hmul, hstart, hstop⟩ hchain hsynced
  refine ⟨hmatches, ?_⟩
  rw [settled_none hnone]
  exact hadv

lemma attesterSeat_eq_ok {key : Address} {seatId : Nat}
    (h : attesterSeat m b batch key = .ok seatId) :
    (b.seats seatId).status = .BONDED ∧ (b.seats seatId).jailed = false ∧
      (b.seats seatId).activationBlock ≤ m.number ∧ (b.seats seatId).lastAttestedCp < batch.cp := by
  simp only [attesterSeat] at h
  split_ifs at h with _ _ hactive hdup
  obtain rfl := Except.ok.inj h
  simp only [not_or, not_not, Bool.not_eq_true, not_lt] at hactive
  exact ⟨hactive.1, hactive.2.1, hactive.2.2, not_le.mp hdup⟩

/-- The books that the batch settles to have come from `b` by changes. -/
def Follows (K : Deployment H) (m : Context) (blockHash : H) (b : Books H) (batch : Batch H)
    (s : Store H) : Prop :=
  batch.Matches K m.number blockHash s.toBooks ∧
    Changes K m.number b (batch.settled blockHash s.toBooks)

lemma post_attestOne (h : Follows K m blockHash b batch s) (sig : Bytes) :
    Post (attestOne K m batch blockHash sig) (fun r s' => Follows K m blockHash b r.2 s') s := by
  rw [attestOne, post_bind, post_get]
  cases hseat : attesterSeat m s.toBooks batch (K.recover batch.digest sig) with
  | error => exact post_pure.mpr h
  | ok seatId =>
    obtain ⟨hbonded, hjailed, hactive, hnew⟩ := attesterSeat_eq_ok hseat
    have hnext : ∀ t : Store H, t.toBooks = batch.marked m.number blockHash seatId s.toBooks →
        Follows K m blockHash b (batch.accept (s.seats seatId)) t := by
      intro t ht
      rw [Follows, ht]
      exact ⟨h.1.accept seatId, h.2.trans (h.1.changes hbonded hjailed hactive hnew)⟩
    simp only [post_steps, post_book, post_modifySeat, post_doIf, post_emit]
    refine ⟨fun hfirst => hnext _ ?_, fun hfirst => hnext _ ?_⟩
    · simp only [marked, if_pos hfirst]
      rfl
    · simp only [marked, if_neg hfirst]
      rfl

lemma post_attestAll (sigs : List Bytes) (accepted : Nat) (h : Follows K m blockHash b batch s) :
    Post (attestAll K m blockHash sigs accepted batch)
      (fun r s' => Follows K m blockHash b r.2 s') s := by
  induction sigs generalizing s accepted batch with
  | nil => exact post_pure.mpr h
  | cons sig _ ih =>
    rw [attestAll, post_bind]
    refine (post_attestOne h sig).mono fun r s' hr => ?_
    obtain ⟨code | seatId, batch'⟩ := r
    · exact ih accepted hr
    · exact ih (accepted + 1) hr

lemma post_certify (h : Follows K m blockHash b batch s) (hsome : batch.added ≠ 0)
    {t : Store H} (ht : t.toBooks = batch.settled blockHash s.toBooks) :
    Post (certify m batch blockHash) (fun _ s' => Changes K m.number b s'.toBooks) t := by
  simp only [certify, post_steps, post_doIf, post_book, post_emit]
  refine ⟨fun hcert => ?_, fun _ => ht ▸ h.2⟩
  have hcp : t.checkpoints batch.height =
      batch.checkpoint blockHash (s.checkpoints batch.height) := by
    rw [ht, settled_some hsome]
    exact Function.update_self ..
  rw [h.1.checkpoint_eq] at hcp
  have hb : Changes K m.number b t.toBooks := ht ▸ h.2
  have hc : Change K m.number t.toBooks (t.toBooks.certified m.number batch.height blockHash) := by
    refine .certify blockHash ?_ ?_ <;> rw [hcp]
    · exact h.1.snapshotBlock_ne_zero
    · exact hcert.2
  refine hb.tail ?_
  simpa only [certified, withCheckpoint, hcp] using hc

lemma post_closeBatch (h : Follows K m blockHash b batch s) :
    Post (closeBatch m batch blockHash) (fun _ s' => Changes K m.number b s'.toBooks) s := by
  refine post_doIf.mpr ⟨fun hsome => ?_, fun hnone => ?_⟩
  · rw [post_bind, post_book, post_bind]
    refine post_doIf.mpr ⟨fun hpaid => ?_, fun hpaid => ?_⟩
    · rw [post_book]
      refine post_certify h hsome ?_
      rw [settled_some hsome]
      rfl
    · -- nothing was paid, and the pool is as it was
      have hpool := h.1.pool
      rw [not_not.mp hpaid, add_zero] at hpool
      refine post_certify h hsome ?_
      simp only [settled_some hsome, not_not.mp hpaid, hpool, add_zero]
      rfl
  · have hb := h.2
    rwa [settled_none (not_not.mp hnone)] at hb

variable [DecidableEq H] [Zero H]

lemma post_attest {sig : Bytes} :
    Post (attest K m height blockHash sig) (fun _ => Advances K m s) s := by
  rw [attest, post_bind]
  refine post_openBatch.mono fun batch s1 h1 => ?_
  rw [post_bind]
  refine (post_attestOne (b := s.toBooks) h1 sig).mono fun r s2 h2 => ?_
  obtain ⟨code | seatId, batch'⟩ := r
  · exact post_throw.mpr trivial
  · rw [post_bind]
    exact (post_closeBatch h2).mono fun _ s3 h3 => post_pure.mpr h3

lemma post_attestBatch {sigs : Bytes} :
    Post (attestBatch K m height blockHash sigs) (fun _ => Advances K m s) s := by
  rw [attestBatch, post_bind, post_require]
  intro _
  rw [post_bind]
  refine post_openBatch.mono fun batch s1 h1 => ?_
  rw [post_bind]
  refine (post_attestAll (b := s.toBooks) _ 0 h1).mono fun r s2 h2 => ?_
  rw [post_bind]
  exact (post_closeBatch h2).mono fun _ s3 h3 => post_pure.mpr h3

end Ferminux.Hub
