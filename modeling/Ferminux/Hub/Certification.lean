import Ferminux.Hub.Budget

/-!
# Hub.Certification

**Who is counted for a checkpoint.** The first attestation of a checkpoint snapshots the eligible
count; a later one is counted if its seat has been counted since the block of the snapshot or
before. Blocks are too coarse for that: a seat that leaves the jail after the snapshot, in its very
block, is counted though it is not in the snapshot. Where that does not happen, the attestations
counted come from distinct seats of the snapshot.
-/

namespace Ferminux.Hub

open Lib Relation List Finset Books Seat

attribute [local irreducible] Books.withSeat

variable {H : Type} {K : Deployment H} {b b' b₀ : Books H} {number amount height : Nat}
  {seatId : Nat}

/-! ### A complete walk stays complete for the block -/

namespace Books.Synced

variable (h : b.Synced number)
include h

lemma frame (hseats : ∀ i, (b'.seats i).activationBlock = (b.seats i).activationBlock)
    (hcount : b'.seatCount = b.seatCount) (hcursor : b'.eligCursor = b.eligCursor) :
    b'.Synced number := by
  rwa [Synced, hcount, hcursor, hseats]

lemma not_eligible (hcursor : b.eligCursor ≤ b.seatCount) :
    ¬ (b.seats b.eligCursor).activationBlock + ELIGIBILITY_DELAY ≤ number := by
  rcases h with h | h
  · omega
  · exact Nat.not_le.mpr h

lemma change (hc : Change K number b b') : b'.Synced number := by
  cases hc with
  | pass hcursor heligible | count hcursor heligible =>
    exact absurd heligible (h.not_eligible hcursor)
  | _ => exact h.frame (by intro; first | rfl | exact b.withSeat_same _ rfl _) rfl rfl

lemma opened (hcounted : Counted b number) (sender attester : Address) :
    (b.opened number sender attester).Synced number := by
  by_cases hcursor : b.eligCursor = b.seatCount + 1
  · refine .inr ?_
    have hearliest := schedule_earliest number b.queueDay b.queueCount b.activationsPerDay
    simp only [Books.opened, hcursor, b.withSeat_self]
    unfold ACTIVATION_DELAY at hearliest
    omega
  · have hstop := hcounted.stop
    refine .inr ?_
    simp only [Books.opened, b.withSeat_of_ne hcursor]
    exact Nat.not_le.mp (h.not_eligible (by omega))

lemma receipt (hcounted : Counted b number)
    (hr : Receipt number amount b b') : b'.Synced number := by
  cases hr with
  | openSeat => exact h.opened hcounted _ _
  | _ => exact h.frame (fun _ => rfl) rfl rfl

lemma payout (hp : Payout amount b b') : b'.Synced number := by
  cases hp with
  | _ => exact h.frame (by intro; first | rfl | exact b.withSeat_same _ rfl _) rfl rfl

end Books.Synced

/-! ### The ballot of a checkpoint -/

/-- No seat leaves the jail in the block, by these events. -/
def NoUnjail (block : Nat) (events : Log H) : Prop :=
  ∀ seatId duty, (block, .Unjailed seatId duty) ∉ events

/-- The attestations counted for a checkpoint come from distinct seats that were counted in the
books `b₀` of its snapshot, behind which the log has grown by `newer`. -/
structure Elects (b₀ b : Books H) (number height : Nat) (newer : Log H) : Prop where
  synced : (b.checkpoints height).snapshotBlock = number → b.Synced number
  since : ∀ i, (b.seats i).countedSince ≠ 0 →
    (b.seats i).countedSince ≤ (b.checkpoints height).snapshotBlock → (b₀.seats i).countedSince ≠ 0
  voters : ∃ seats : Finset Nat, seats.card = (b.checkpoints height).count ∧ ∀ i ∈ seats,
    (b₀.seats i).countedSince ≠ 0 ∧ (∃ n reward, (n, .Attested i height reward) ∈ newer) ∧
      height / CHECKPOINT_INTERVAL ≤ (b.seats i).lastAttestedCp

/-- **The ballot of a checkpoint**: the books of its snapshot, and what has come since. -/
structure Ballot (K : Deployment H) [Zero H] (b₀ b : Books H) (number height : Nat)
    (newer : Log H) : Prop where
  reachable : Reachable K ⟨b₀, (b.checkpoints height).snapshotBlock⟩
  log : b.log = newer ++ ((b.checkpoints height).snapshotBlock,
    .CheckpointOpened height (K.blockHash height) b₀.eligibleCount) :: b₀.log
  blockHash : (b.checkpoints height).blockHash = K.blockHash height
  eligible : (b.checkpoints height).eligible = b₀.eligibleCount
  le : (b.checkpoints height).snapshotBlock ≤ number
  elects : NoUnjail (b.checkpoints height).snapshotBlock newer → Elects b₀ b number height newer

/-- What the ballot reads of a checkpoint. -/
def Checkpoint.tally (cp : Checkpoint H) : H × Nat × Nat × Nat :=
  (cp.blockHash, cp.count, cp.eligible, cp.snapshotBlock)

namespace Ballot

variable [Zero H] {newer : Log H} (h : Ballot K b₀ b number height newer)

include h in
lemma step (added : Log H) (hcp : (b'.checkpoints height).tally = (b.checkpoints height).tally)
    (hlog : b'.log = added ++ b.log) (hsynced : b.Synced number → b'.Synced number)
    (hseats : NoUnjail (b.checkpoints height).snapshotBlock added →
      ((b.checkpoints height).snapshotBlock = number → b.Synced number) →
      ∀ i, (b'.seats i).countedSince ≠ 0 →
        (b'.seats i).countedSince ≤ (b.checkpoints height).snapshotBlock →
        (b.seats i).countedSince = (b'.seats i).countedSince)
    (hlast : ∀ i, (b.seats i).lastAttestedCp ≤ (b'.seats i).lastAttestedCp) :
    Ballot K b₀ b' number height (added ++ newer) := by
  simp only [Checkpoint.tally, Prod.mk.injEq] at hcp
  obtain ⟨hhash, hcount, heligible, hsnapshot⟩ := hcp
  refine ⟨?_, ?_, ?_, ?_, ?_, ?_⟩ <;> simp only [hhash, hsnapshot, heligible]
  · exact h.reachable
  · rw [hlog, h.log, append_assoc]
  · exact h.blockHash
  · exact h.eligible
  · exact h.le
  · intro hquiet
    have helects := h.elects fun i duty hmem => hquiet i duty (mem_append_right _ hmem)
    refine ⟨?_, ?_, ?_⟩ <;> simp only [hsnapshot, hcount]
    · exact fun heq => hsynced (helects.synced heq)
    · intro i hne hle
      have hsame := hseats (fun i duty hmem => hquiet i duty (mem_append_left _ hmem))
        helects.synced i hne hle
      exact helects.since i (hsame ▸ hne) (hsame ▸ hle)
    · obtain ⟨seats, hcard, hvoters⟩ := helects.voters
      refine ⟨seats, hcard, fun i hi => ?_⟩
      obtain ⟨hin, ⟨n, reward, hmem⟩, hle⟩ := hvoters i hi
      exact ⟨hin, ⟨n, reward, mem_append_right _ hmem⟩, hle.trans (hlast i)⟩

lemma opened (hrun : Reachable K ⟨b, number⟩) (hsynced : b.Synced number) :
    Ballot K b (b.checkpointOpened number height (K.blockHash height)) number height [] := by
  have hcp : (b.checkpointOpened number height (K.blockHash height)).checkpoints height =
      { b.checkpoints height with
        blockHash := K.blockHash height
        count := 0
        eligible := b.eligibleCount
        total := 0
        snapshotBlock := number } := Function.update_self ..
  constructor <;> rw [hcp]
  · exact hrun
  · rfl
  · intro _
    refine ⟨fun _ => ?_, fun _ hne _ => hne, ∅, ?_, ?_⟩
    · exact hsynced.frame (fun _ => rfl) rfl rfl
    · rw [hcp]
      rfl
    · simp

include h in
lemma attested (hnew : (b.seats seatId).lastAttestedCp < height / CHECKPOINT_INTERVAL) :
    Ballot K b₀ (b.attestedBy number seatId height) number height
      ((number, .Attested seatId height (b.rewardNow number)) :: newer) := by
  have hcp : (b.attestedBy number seatId height).checkpoints height = { b.checkpoints height with
        count := if (b.seats seatId).countedSince ≠ 0 ∧
            (b.seats seatId).countedSince ≤ (b.checkpoints height).snapshotBlock then
          (b.checkpoints height).count + 1 else (b.checkpoints height).count
        total := (b.checkpoints height).total + 1 } := Function.update_self ..
  have hsince (i : Nat) : ((b.attestedBy number seatId height).seats i).countedSince =
      (b.seats i).countedSince := b.withSeat_same countedSince rfl i
  have hself : ((b.attestedBy number seatId height).seats seatId).lastAttestedCp =
      height / CHECKPOINT_INTERVAL := by simp [attestedBy]
  have hother {i : Nat} (hi : i ≠ seatId) :
      (b.attestedBy number seatId height).seats i = b.seats i := b.withSeat_of_ne hi _
  constructor <;> simp only [hcp]
  · exact h.reachable
  · exact congrArg (cons _) h.log
  · exact h.blockHash
  · exact h.eligible
  · exact h.le
  · intro hquiet
    have helects := h.elects fun i duty hmem => hquiet i duty (mem_cons_of_mem _ hmem)
    refine ⟨?_, ?_, ?_⟩ <;> simp only [hcp, hsince]
    · intro heq
      exact (helects.synced heq).frame (b.withSeat_same activationBlock rfl) rfl rfl
    · exact helects.since
    · obtain ⟨seats, hcard, hvoters⟩ := helects.voters
      have hkeep : ∀ i ∈ seats, i ≠ seatId ∧ (b₀.seats i).countedSince ≠ 0 ∧
          (∃ n reward, (n, .Attested i height reward) ∈
            (number, .Attested seatId height (b.rewardNow number)) :: newer) ∧
          height / CHECKPOINT_INTERVAL ≤
            ((b.attestedBy number seatId height).seats i).lastAttestedCp := by
        intro i hi
        obtain ⟨hin, ⟨n, reward, hmem⟩, hle⟩ := hvoters i hi
        have hne : i ≠ seatId := by
          rintro rfl
          omega
        rw [hother hne]
        exact ⟨hne, hin, ⟨n, reward, mem_cons_of_mem _ hmem⟩, hle⟩
      split
      · -- the seat has not been counted before, and it is in the snapshot
        rename_i hcounts
        refine ⟨insert seatId seats, ?_, fun i hi => ?_⟩
        · rw [card_insert_of_notMem fun hmem => (hkeep seatId hmem).1 rfl, hcard]
        · obtain rfl | hi := mem_insert.mp hi
          · exact ⟨helects.since i hcounts.1 hcounts.2, ⟨_, _, mem_cons_self⟩, hself.ge⟩
          · exact (hkeep i hi).2
      · exact ⟨seats, hcard, fun i hi => (hkeep i hi).2⟩

include h in
lemma tick : Ballot K b₀ b (number + 1) height newer := by
  refine ⟨h.reachable, h.log, h.blockHash, h.eligible, Nat.le_succ_of_le h.le, fun hquiet => ?_⟩
  obtain ⟨-, hsince, hvoters⟩ := h.elects hquiet
  refine ⟨fun heq => ?_, hsince, hvoters⟩
  have := h.le
  omega

end Ballot

/-- Every checkpoint that has been opened has its ballot, and a certified one has been opened and
has the attestations it needs. -/
structure Balloted (K : Deployment H) [Zero H] (b : Books H) (number : Nat) : Prop where
  ballot : ∀ height, (b.checkpoints height).snapshotBlock ≠ 0 →
    ∃ b₀ newer, Ballot K b₀ b number height newer
  certified : ∀ height, (b.checkpoints height).certified = true →
    (b.checkpoints height).snapshotBlock ≠ 0 ∧
      certifies (b.checkpoints height).count (b.checkpoints height).eligible = true

lemma certifies_mono {count count' eligible : Nat} (h : certifies count eligible = true)
    (hle : count ≤ count') : certifies count' eligible = true := by
  unfold certifies at h ⊢
  split at h
  · cases h
  · rename_i hmin
    rw [if_neg hmin]
    simp only [decide_eq_true_eq] at h ⊢
    exact h.trans hle

/-- What the ballots read of a seat. -/
def Seat.vote (x : Seat) : Nat × Nat := (x.countedSince, x.lastAttestedCp)

namespace Balloted

variable [Zero H]

variable (h : Balloted K b number) (added : Log H) (hcps : b'.checkpoints = b.checkpoints)
include h

include hcps in
lemma step (hlog : b'.log = added ++ b.log) (hsynced : b.Synced number → b'.Synced number)
    (hseats : ∀ snapshot ≤ number, NoUnjail snapshot added → (snapshot = number → b.Synced number) →
      ∀ i, (b'.seats i).countedSince ≠ 0 → (b'.seats i).countedSince ≤ snapshot →
        (b.seats i).countedSince = (b'.seats i).countedSince)
    (hlast : ∀ i, (b.seats i).lastAttestedCp ≤ (b'.seats i).lastAttestedCp) :
    Balloted K b' number := by
  refine ⟨fun height hopen => ?_, fun height => ?_⟩
  · rw [hcps] at hopen
    obtain ⟨b₀, newer, hballot⟩ := h.ballot height hopen
    exact ⟨b₀, _, hballot.step added (by rw [hcps]) hlog hsynced (hseats _ hballot.le) hlast⟩
  · rw [hcps]
    exact h.certified height

include hcps in
lemma same (hseats : ∀ i, (b'.seats i).vote = (b.seats i).vote) (hlog : b'.log = added ++ b.log)
    (hsynced : b.Synced number → b'.Synced number) : Balloted K b' number := by
  simp only [vote, Prod.mk.injEq] at hseats
  exact h.step added hcps hlog hsynced (fun _ _ _ _ i _ _ => (hseats i).1.symm) fun i => (hseats i).2.ge

include hcps in
lemma uncount {f : Seat → Seat} (hseats : b'.seats = b.withSeat seatId f)
    (hnone : (f (b.seats seatId)).countedSince = 0)
    (hlast : (f (b.seats seatId)).lastAttestedCp = (b.seats seatId).lastAttestedCp)
    (hlog : b'.log = added ++ b.log) (hsynced : b.Synced number → b'.Synced number) :
    Balloted K b' number := by
  refine h.step added hcps hlog hsynced (fun _ _ _ _ i hne _ => ?_) fun i => ?_
  · rw [hseats] at hne ⊢
    by_cases hi : i = seatId
    · rw [hi, b.withSeat_self] at hne
      exact absurd hnone hne
    · rw [b.withSeat_of_ne hi]
  · rw [hseats]
    exact (b.withSeat_same lastAttestedCp hlast i).ge

include hcps in
lemma count {f : Seat → Seat} (hseats : b'.seats = b.withSeat seatId f)
    (hnow : (f (b.seats seatId)).countedSince = number)
    (hlast : (f (b.seats seatId)).lastAttestedCp = (b.seats seatId).lastAttestedCp)
    (hlate : NoUnjail number added → b.Synced number → False)
    (hlog : b'.log = added ++ b.log) (hsynced : b.Synced number → b'.Synced number) :
    Balloted K b' number := by
  refine h.step added hcps hlog hsynced (fun snapshot hle hquiet hs i _ hsince => ?_) fun i => ?_
  · rw [hseats] at hsince ⊢
    by_cases hi : i = seatId
    · rw [hi, b.withSeat_self, hnow] at hsince
      have heq : snapshot = number := Nat.le_antisymm hle hsince
      exact (hlate (heq ▸ hquiet) (hs heq)).elim
    · rw [b.withSeat_of_ne hi]
  · rw [hseats]
    exact (b.withSeat_same lastAttestedCp hlast i).ge

lemma openCheckpoint (hrun : Reachable K ⟨b, number⟩)
    (hwindow : Window number height) (hsynced : b.Synced number)
    (hfresh : (b.checkpoints height).snapshotBlock = 0) :
    Balloted K (b.checkpointOpened number height (K.blockHash height)) number := by
  have hother {i : Nat} (hi : i ≠ height) :
      (b.checkpointOpened number height (K.blockHash height)).checkpoints i = b.checkpoints i :=
    Function.update_of_ne hi ..
  refine ⟨fun i hopen => ?_, fun i hcertified => ?_⟩
  · by_cases hi : i = height
    · subst hi
      exact ⟨b, [], .opened hrun hsynced⟩
    · rw [hother hi] at hopen
      obtain ⟨b₀, newer, hballot⟩ := h.ballot i hopen
      refine ⟨b₀, _, hballot.step [_] (by rw [hother hi]) rfl ?_ (fun _ _ _ _ _ => rfl)
        fun _ => le_rfl⟩
      exact fun hs => hs.frame (fun _ => rfl) rfl rfl
  · by_cases hi : i = height
    · subst hi
      have hold : (b.checkpoints i).certified = true := by
        simpa [checkpointOpened, withCheckpoint] using hcertified
      exact absurd hfresh (h.certified i hold).1
    · rw [hother hi] at hcertified ⊢
      exact h.certified i hcertified

lemma attest (hopen : (b.checkpoints height).snapshotBlock ≠ 0)
    (hnew : (b.seats seatId).lastAttestedCp < height / CHECKPOINT_INTERVAL) :
    Balloted K (b.attestedBy number seatId height) number := by
  have hother {i : Nat} (hi : i ≠ height) :
      (b.attestedBy number seatId height).checkpoints i = b.checkpoints i :=
    Function.update_of_ne hi ..
  refine ⟨fun i hopen => ?_, fun i hcertified => ?_⟩
  · by_cases hi : i = height
    · subst hi
      obtain ⟨b₀, newer, hballot⟩ := h.ballot i ‹_›
      exact ⟨b₀, _, hballot.attested hnew⟩
    · rw [hother hi] at hopen
      obtain ⟨b₀, newer, hballot⟩ := h.ballot i hopen
      refine ⟨b₀, _, hballot.step [_] (by rw [hother hi]) rfl ?_ ?_ fun j => ?_⟩
      · exact fun hs => hs.frame (b.withSeat_same activationBlock rfl) rfl rfl
      · exact fun _ _ j _ _ => (b.withSeat_same countedSince rfl j).symm
      · by_cases hj : j = seatId
        · subst hj
          simpa [attestedBy] using hnew.le
        · simp [attestedBy, b.withSeat_of_ne hj]
  · by_cases hi : i = height
    · subst hi
      simp only [attestedBy, withCheckpoint, Function.update_self] at hcertified ⊢
      obtain ⟨-, hcertifies⟩ := h.certified i hcertified
      refine ⟨hopen, certifies_mono hcertifies ?_⟩
      split <;> omega
    · rw [hother hi] at hcertified ⊢
      exact h.certified i hcertified

lemma certify (blockHash : H) (hopen : (b.checkpoints height).snapshotBlock ≠ 0) (hcertifies :
      certifies (b.checkpoints height).count (b.checkpoints height).eligible = true) :
    Balloted K (b.certified number height blockHash) number := by
  have htally (i : Nat) : ((b.certified number height blockHash).checkpoints i).tally =
      (b.checkpoints i).tally := by
    by_cases hi : i = height
    · subst hi
      simp [Books.certified, Books.withCheckpoint, Checkpoint.tally]
    · simp [Books.certified, Books.withCheckpoint, Function.update_of_ne hi]
  have hfields := htally
  simp only [Checkpoint.tally, Prod.mk.injEq] at hfields
  refine ⟨fun i hsnapshot => ?_, fun i hcertified => ?_⟩
  · rw [(hfields i).2.2.2] at hsnapshot
    obtain ⟨b₀, newer, hballot⟩ := h.ballot i hsnapshot
    refine ⟨b₀, _, hballot.step [_] (htally i) rfl ?_ (fun _ _ _ _ _ => rfl) fun _ => le_rfl⟩
    exact fun hs => hs.frame (fun _ => rfl) rfl rfl
  · rw [(hfields i).2.1, (hfields i).2.2.1, (hfields i).2.2.2]
    by_cases hi : i = height
    · subst hi
      exact ⟨hopen, hcertifies⟩
    · simp only [Books.certified, Books.withCheckpoint, Function.update_of_ne hi] at hcertified
      exact h.certified i hcertified

lemma change (hrun : Reachable K ⟨b, number⟩)
    (hc : Change K number b b') : Balloted K b' number := by
  have hsynced : b.Synced number → b'.Synced number := fun hs => hs.change hc
  cases hc with
  | exit | jail => exact h.uncount [_] rfl rfl rfl rfl rfl hsynced
  | unjailCount =>
    refine h.count [_, _] rfl rfl rfl rfl (fun hquiet _ => ?_) rfl hsynced
    exact hquiet _ _ mem_cons_self
  | pass => exact h.same [] rfl (fun _ => rfl) rfl hsynced
  | count hcursor heligible =>
    refine h.count [_] rfl rfl rfl rfl (fun _ hs => ?_) rfl hsynced
    exact hs.not_eligible hcursor heligible
  | openCheckpoint hwindow hs hfresh => exact h.openCheckpoint hrun hwindow hs hfresh
  | attest _ hopen _ _ _ hnew => exact h.attest hopen hnew
  | certify blockHash hopen hcertifies => exact h.certify blockHash hopen hcertifies
  | _ =>
    exact h.same [_] rfl
      (by intro; first | rfl | exact b.withSeat_same _ rfl _) rfl hsynced

lemma receipt (hcounted : Counted b number)
    (hr : Receipt number amount b b') : Balloted K b' number := by
  have hsynced : b.Synced number → b'.Synced number := fun hs => hs.receipt hcounted hr
  cases hr with
  | _ =>
    exact h.same [_] rfl
      (by intro; first | rfl | exact b.withSeat_same _ rfl _) rfl hsynced

lemma payout (hp : Payout amount b b') : Balloted K b' number := by
  have hsynced : b.Synced number → b'.Synced number := fun hs => hs.payout hp
  cases hp with
  | _ =>
    exact h.same [] rfl
      (by intro; first | rfl | exact b.withSeat_same _ rfl _) rfl hsynced

end Balloted

lemma Reachable.balloted [Zero H] {s : Stage H} (h : Reachable K s) :
    Balloted K s.books s.number := by
  refine h.induction ?change ?receipt ?payout ?tick ?new
  case new =>
    intro b hb
    rw [hb.rest]
    constructor <;> simp
  case change => exact fun hrun hb hc => hb.change hrun hc
  case receipt => exact fun hrun hb hr => hb.receipt hrun.counted hr
  case payout => exact fun _ hb hp => hb.payout hp
  case tick =>
    intro b number _ hb
    refine ⟨fun height hopen => ?_, hb.certified⟩
    obtain ⟨b₀, newer, hballot⟩ := hb.ballot height hopen
    exact ⟨b₀, newer, hballot.tick⟩

/-! ### Certification -/

/-- A certified checkpoint has at least 20 attestations, and two thirds of those it needs. -/
lemma le_of_certifies {count eligible : Nat} (h : certifies count eligible = true) :
    max 20 ((2 * eligible + 2) / 3) ≤ count := by
  unfold certifies at h
  split at h
  · cases h
  · replace h := of_decide_eq_true h
    unfold MIN_CERT_ATTESTATIONS at h
    split at h <;> omega

namespace Deployment

variable [DecidableEq H] [Zero H] {w : State H}

/-- **Certification counts the electorate of the snapshot**, for every checkpoint after whose
snapshot no seat has left the jail in the same block. There were books at which the checkpoint was
opened, whose eligible count was snapshotted and is the number of the seats that counted in them;
the attestations counted since have come from distinct ones of these seats, so that they are at
most as many, and a certified checkpoint has at least 20 of them and two thirds of all. -/
theorem certification_counts_electorate (K : Deployment H) (h : K.Moment w) (height : Nat) :
    let b := w.store.toBooks
    let cp := b.checkpoints height
    (cp.certified = true → cp.snapshotBlock ≠ 0) ∧
    (cp.snapshotBlock ≠ 0 → ∃ b₀ newer, Reachable K ⟨b₀, cp.snapshotBlock⟩ ∧
      b.log = newer ++ (cp.snapshotBlock,
        .CheckpointOpened height (K.blockHash height) b₀.eligibleCount) :: b₀.log ∧
      cp.blockHash = K.blockHash height ∧
      ((∀ seatId duty, (cp.snapshotBlock, .Unjailed seatId duty) ∉ newer) →
        let electorate := (Finset.Icc 1 b₀.seatCount).filter fun i => (b₀.seats i).countedSince ≠ 0
        cp.eligible = electorate.card ∧
        ∃ voters ⊆ electorate, voters.card = cp.count ∧
          (∀ i ∈ voters, ∃ n reward, (n, .Attested i height reward) ∈ newer) ∧
          cp.count ≤ cp.eligible ∧
          (cp.certified = true → max 20 ((2 * cp.eligible + 2) / 3) ≤ voters.card))) := by
  have hballoted : Balloted K w.store.toBooks w.env.number := h.reachable.balloted
  refine ⟨fun hcertified => (hballoted.certified height hcertified).1, fun hopen => ?_⟩
  obtain ⟨b₀, newer, hballot⟩ := hballoted.ballot height hopen
  refine ⟨b₀, newer, hballot.reachable, hballot.log, hballot.blockHash, fun hquiet => ?_⟩
  obtain ⟨voters, hcard, hvoters⟩ := (hballot.elects hquiet).voters
  have heligible := hballot.eligible.trans hballot.reachable.counted.card
  have hsub : voters ⊆ (Finset.Icc 1 b₀.seatCount).filter fun i =>
      (b₀.seats i).countedSince ≠ 0 := by
    intro i hi
    have hcounted := (hvoters i hi).1
    have hin : b₀.IsSeat i := hballot.reachable.blank.isSeat fun hblank => hcounted (by rw [hblank])
    exact mem_filter.mpr ⟨mem_Icc.mpr hin, hcounted⟩
  refine ⟨heligible, voters, hsub, hcard, fun i hi => (hvoters i hi).2.1, ?_, fun hcertified => ?_⟩
  · rw [← hcard, heligible]
    exact card_le_card hsub
  · rw [hcard]
    exact le_of_certifies (hballoted.certified height hcertified).2

/-- Two seats are opened. Both have matured when they attest checkpoint `98800`. -/
def sampleBallot : State Digest :=
  ([sampleSeat 21 41, sampleSeat 22 42, .wait 98863,
    .call 21 0 (.attest 98800 (.block 98800) (sampleSignature 41)),
    .call 22 0 (.attest 98800 (.block 98800) (sampleSignature 42))].foldlM sampleHub.perform
      sampleNew).get (by decide +kernel)

/-- Both attestations are counted, and are of the electorate of the snapshot. -/
theorem certification_counts_electorate_ballot :
    let cp := sampleBallot.store.checkpoints 98800
    cp.eligible = 2 ∧ cp.count = 2 ∧ ∃ (b₀ : Books Digest) (newer : Log Digest),
      sampleBallot.store.log = newer ++ (98864,
        .CheckpointOpened 98800 (.block 98800) b₀.eligibleCount) :: b₀.log ∧
      ∃ voters ⊆ (Finset.Icc 1 b₀.seatCount).filter fun i => (b₀.seats i).countedSince ≠ 0,
        voters.card = 2 ∧ ∀ i ∈ voters, ∃ n reward, (n, .Attested i 98800 reward) ∈ newer := by
  have hcp : (sampleBallot.store.checkpoints 98800).snapshotBlock = 98864 ∧
      (sampleBallot.store.checkpoints 98800).eligible = 2 ∧
      (sampleBallot.store.checkpoints 98800).count = 2 := by decide +kernel
  obtain ⟨hopen, heligible, hcount⟩ := hcp
  have hnever : ∀ ev ∈ sampleBallot.store.log, ∀ seatId duty,
      ev.2 ≠ Event.Unjailed seatId duty := by
    have hnone : ∀ ev ∈ sampleBallot.store.log,
        (match ev.2 with | .Unjailed _ _ => true | _ => false) = false := by decide +kernel
    intro ev hev seatId duty heq
    have := hnone ev hev
    rw [heq] at this
    cases this
  have h := (certification_counts_electorate sampleHub
    (moment_of_perform sampleNew_deployed (Option.some_get _).symm : sampleHub.Moment sampleBallot)
    98800).2
  simp only [hopen, hcount] at h
  obtain ⟨b₀, newer, -, hlog, -, helects⟩ := h (by decide)
  obtain ⟨-, voters, hsub, hcard, hattested, -⟩ := helects fun seatId duty hmem =>
    hnever _ (hlog ▸ mem_append_left _ hmem) seatId duty rfl
  exact ⟨heligible, hcount, b₀, newer, hlog, voters, hsub, hcard, hattested⟩

/-- Two seats are opened and one of them is jailed. After the first has attested checkpoint
`98800`, the second leaves the jail in the same block and attests it, too. -/
def sampleOvercounted : State Digest :=
  ([sampleSeat 21 41, sampleSeat 22 42, .wait 40000, .call 99 0 (.jail 2), .wait 58863,
    .call 21 0 (.attest 98800 (.block 98800) (sampleSignature 41)), .call 22 0 (.unjail 2),
    .call 22 0 (.attest 98800 (.block 98800) (sampleSignature 42))].foldlM sampleHub.perform
      sampleNew).get (by decide +kernel)

/-- **Two attestations are counted for a snapshot of one seat.** -/
theorem count_exceeds_eligible :
    sampleHub.Moment sampleOvercounted ∧ (sampleOvercounted.store.checkpoints 98800).eligible = 1 ∧
    (sampleOvercounted.store.checkpoints 98800).count = 2 :=
  ⟨moment_of_perform sampleNew_deployed (Option.some_get _).symm, by decide +kernel,
    by decide +kernel⟩

end Deployment

end Ferminux.Hub
