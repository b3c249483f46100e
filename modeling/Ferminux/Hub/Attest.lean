import Ferminux.Hub.Seats

/-!
# Hub.Attest

The **attestation path** of `ValidatorHub.sol`: a batch is opened for one checkpoint, one
signature after the other is taken into it, and it is closed. While it is open, the reward pool
and the counts of the checkpoint live in memory (`Batch`); only seats and their rings are written
at once.
-/

namespace Ferminux.Hub

open Lib Function

variable {H : Type}

/-! ### Rewards -/

def halvingActive (b : Books H) (number : Nat) : Prop :=
  HALVING_BLOCK ≤ number ∨ b.openSeatsBlock ≠ 0 ∧ b.openSeatsBlock ≤ number

instance (b : Books H) (number : Nat) : Decidable (halvingActive b number) :=
  inferInstanceAs (Decidable (_ ∨ _))

/-- Reward per accepted attestation right now: the base rate, halved from block 4,500,000 or
from V (whichever comes first), and never above the budget (halved likewise) over the seats. -/
def currentRewardPerAttest (b : Books H) (number : Nat) : Nat :=
  let (r, cap) :=
    if halvingActive b number then (b.rewardPerAttest / 2, BUDGET_PER_CHECKPOINT / 2)
    else (b.rewardPerAttest, BUDGET_PER_CHECKPOINT)
  let perSeat := cap / b.maxSeats
  if perSeat < r then perSeat else r

/-- Certification rule: at least 30 eligible seats, and at least max(20, ceil(2/3 x eligible)) of
them attested the same block. -/
def certifies (count eligible : Nat) : Bool :=
  if eligible < MIN_ELIGIBLE_FOR_CERT then false
  else
    let twoThirds := (2 * eligible + 2) / 3
    let need := if MIN_CERT_ATTESTATIONS < twoThirds then twoThirds else MIN_CERT_ATTESTATIONS
    need ≤ count

/-! ### Batches -/

/-- Working state of one attest/attestBatch call. -/
structure Batch (H : Type) where
  height : Nat
  cp : Nat
  digest : H
  rate : Nat
  pool : Nat
  paid : Nat := 0
  snapshotBlock : Nat
  eligible : Nat
  count : Nat := 0
  total : Nat := 0
  added : Nat := 0
  fresh : Bool

variable (K : Deployment H)

/-- The batch that is opened on the books, behind the checks. -/
def batchOf (m : Context) (height : Nat) (blockHash : H) (b : Books H) : Batch H :=
  let cp := b.checkpoints height
  let batch : Batch H :=
    { height
      cp := height / CHECKPOINT_INTERVAL
      digest := K.attestationDigest m.chainid height blockHash
      rate := currentRewardPerAttest b m.number
      pool := b.rewardPool
      snapshotBlock := m.number
      eligible := b.eligibleCount
      fresh := true }
  if cp.snapshotBlock = 0 then batch
  else
    { batch with
      fresh := false
      snapshotBlock := cp.snapshotBlock
      eligible := cp.eligible
      count := cp.count
      total := cp.total }

def openBatch [DecidableEq H] [Zero H] (m : Context) (height : Nat) (blockHash : H) :
    HubM H (Batch H) := do
  require ((← get).attestationsPaused = false) Error.Paused
  require (height ≠ 0 ∧ height % CHECKPOINT_INTERVAL = 0) Error.NotCheckpoint
  require (height + INCLUSION_DELAY ≤ m.number ∧ m.number ≤ height + INCLUSION_END)
    Error.OutsideWindow
  require (blockHash ≠ 0 ∧ K.blockhash m height = blockHash) Error.WrongBlockHash
  syncAll m
  return batchOf K m height blockHash (← get).toBooks

/-- What one accepted attestation pays: the rate, if the pool covers it. -/
def Batch.reward (batch : Batch H) : Nat :=
  if batch.rate ≠ 0 ∧ batch.rate ≤ batch.pool then batch.rate else 0

/-- The working state behind one accepted attestation of a seat. -/
def Batch.accept (batch : Batch H) (x : Seat) : Batch H :=
  { batch with
    pool := batch.pool - batch.reward
    paid := batch.paid + batch.reward
    count :=
      if x.countedSince ≠ 0 ∧ x.countedSince ≤ batch.snapshotBlock then batch.count + 1
      else batch.count
    total := batch.total + 1
    added := batch.added + 1 }

/-- The seat that a key may attest for now, or why not. -/
def attesterSeat (m : Context) (b : Books H) (batch : Batch H) (key : Address) :
    Except Code Nat :=
  let k := b.keys key
  let x := b.seats k.seatId
  if key = 0 then .error .R_BAD_SIGNATURE
  else if k.active = false ∨ k.role ≠ .ROLE_ATTESTER then .error .R_UNKNOWN_KEY
  else if x.status ≠ .BONDED ∨ x.jailed = true ∨ m.number < x.activationBlock then
    .error .R_NOT_ACTIVE
  else if batch.cp ≤ x.lastAttestedCp then .error .R_DUPLICATE
  else .ok k.seatId

/-- Take one signature into the batch: the seat it was accepted for, or the code of the
rejection. -/
def attestOne (m : Context) (batch : Batch H) (blockHash : H) (sig : Bytes) :
    HubM H (Except Code Nat × Batch H) := do
  let s ← get
  match attesterSeat m s.toBooks batch (K.recover batch.digest sig) with
  | .error code => return (.error code, batch)
  | .ok seatId =>
    let x := s.seats seatId
    book fun b =>
      { b with
        bits := update b.bits seatId (markParticipation (b.bits seatId) x.lastAttestedCp batch.cp) }
    modifySeat seatId fun x =>
      { x with lastAttestedCp := batch.cp, claimable := x.claimable + batch.reward }
    doIf (batch.added = 0 ∧ batch.fresh = true)
      (emit m (.CheckpointOpened batch.height blockHash batch.eligible))
    emit m (.Attested seatId batch.height batch.reward)
    return (.ok seatId, batch.accept x)

/-- The checkpoint behind a batch. -/
def Batch.checkpoint (batch : Batch H) (blockHash : H) (cp : Checkpoint H) : Checkpoint H :=
  let cp :=
    if batch.fresh then
      { cp with blockHash, eligible := batch.eligible, snapshotBlock := batch.snapshotBlock }
    else cp
  { cp with count := batch.count, total := batch.total }

/-- The end of `_closeBatch`: the checkpoint is certified, if that is due. -/
def certify (m : Context) (batch : Batch H) (blockHash : H) : HubM H Unit := do
  let s ← get
  doIf ((s.checkpoints batch.height).certified = false ∧
      certifies batch.count batch.eligible = true) do
    book fun b =>
      { b with
        checkpoints := update b.checkpoints batch.height
          { b.checkpoints batch.height with certified := true } }
    emit m (.CheckpointCertified batch.height blockHash batch.count batch.eligible)

def closeBatch (m : Context) (batch : Batch H) (blockHash : H) : HubM H Unit :=
  doIf (batch.added ≠ 0) do
    book fun b =>
      { b with
        checkpoints := update b.checkpoints batch.height
          (batch.checkpoint blockHash (b.checkpoints batch.height)) }
    doIf (batch.paid ≠ 0) <| book fun b =>
      { b with
        rewardPool := batch.pool
        acct := { b.acct with
                  totalAllocated := b.acct.totalAllocated + batch.paid
                  totalClaimable := b.acct.totalClaimable + batch.paid } }
    certify m batch blockHash

variable [DecidableEq H] [Zero H]

/-- Record one attestation. Anyone may submit it. -/
def attest (m : Context) (height : Nat) (blockHash : H) (sig : Bytes) : HubM H Nat := do
  let batch ← openBatch K m height blockHash
  match ← attestOne K m batch blockHash sig with
  | (.error code, _) => throw (Error.AttestationRejected code)
  | (.ok seatId, batch) =>
    closeBatch m batch blockHash
    return seatId

/-- Take the signatures into the batch one by one; the number of those accepted. -/
def attestAll (m : Context) (blockHash : H) : List Bytes → Nat → Batch H → HubM H (Nat × Batch H)
  | [], accepted, batch => return (accepted, batch)
  | sig :: rest, accepted, batch => do
    match ← attestOne K m batch blockHash sig with
    | (.error _, batch) => attestAll m blockHash rest accepted batch
    | (.ok _, batch) => attestAll m blockHash rest (accepted + 1) batch

/-- The 65-byte signatures that are packed back to back. -/
def signatures (sigs : Bytes) : List Bytes :=
  (List.range (sigs.length / 65)).map fun i => (sigs.drop (65 * i)).take 65

/-- Record many attestations for one checkpoint. A signature that is not accepted is skipped. -/
def attestBatch (m : Context) (height : Nat) (blockHash : H) (sigs : Bytes) : HubM H Nat := do
  require (sigs.length ≠ 0 ∧ sigs.length % 65 = 0) Error.BadSignatureBlob
  let batch ← openBatch K m height blockHash
  let (accepted, batch) ← attestAll K m blockHash (signatures sigs) 0 batch
  closeBatch m batch blockHash
  return accepted

end Ferminux.Hub
