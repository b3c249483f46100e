import Ferminux.Hub.World

/-!
# Hub.Change

The hub as a **transition system on its books**. Everything the contract does to them comes down
to the atomic changes listed here, each with the books it leads to: a call of the contract is a
sequence of them (`Hub.Refine`). A change keeps the books consistent on its own, which the writes
inside a function do not: a jail, for one, is the candidate list giving up the seat's key and
then the seat leaving the eligible count, with its mark and its event.

- A `Change` neither brings nor takes FMX, a `Receipt` books an amount that has come in, and a
  `Payout` is what is written before an amount is paid.
-/

open Function (update update_self update_of_ne)

namespace Ferminux.Hub

open Lib Relation Books

variable {H : Type} {b b' : Books H}

/-! ### Events that say nothing about the books -/

/-- The parameters that the books do not show. -/
def Param.inert : Param → Bool
  | .P_MAX_SEATS | .P_REWARD_PER_ATTEST | .P_ACTIVATIONS_PER_DAY | .P_OPEN_SEATS_BLOCK => false
  | _ => true

/-- What the event reports is not in the books. -/
def Event.inert : Event H → Bool
  | .EnodeSet _ _ _ | .Withdrawn _ _ _ | .Claimed _ _ _ | .CreditWithdrawn _ _ _
  | .BurnFlushed _ | .ExcessReturned _ _ | .ParamQueued _ _ _ | .ParamCancelled _ _
  | .SeatsPausedSet _ | .CommunitySeatsSet _ | .DenySet _ _ | .AllowlistSet _ _ | .OpenedToAll
  | .OwnershipTransferStarted _ _ | .OwnershipTransferred _ _ => true
  | .ParamApplied param _ => param.inert
  | _ => false

/-! ### The books behind a change -/

namespace Books

variable (b : Books H)

def withSeat (seatId : Nat) (f : Seat → Seat) : Nat → Seat :=
  update b.seats seatId (f (b.seats seatId))

@[simp] lemma withSeat_self (seatId : Nat) (f : Seat → Seat) :
    b.withSeat seatId f seatId = f (b.seats seatId) := update_self ..

lemma withSeat_of_ne {seatId i : Nat} (h : i ≠ seatId) (f : Seat → Seat) :
    b.withSeat seatId f i = b.seats i := update_of_ne h ..

lemma withSeat_same {α : Type} (p : Seat → α) {seatId : Nat} {f : Seat → Seat}
    (h : p (f (b.seats seatId)) = p (b.seats seatId)) (i : Nat) :
    p (b.withSeat seatId f i) = p (b.seats i) := by
  by_cases hi : i = seatId
  · rw [hi, withSeat_self, h]
  · rw [withSeat_of_ne b hi]

def withCheckpoint (height : Nat) (f : Checkpoint H → Checkpoint H) : Nat → Checkpoint H :=
  update b.checkpoints height (f (b.checkpoints height))

def without (key : Address) : Address → KeyInfo :=
  update b.keys key { b.keys key with active := false }

/-- The same, unless the key is the zero of a seat that has none. -/
def withoutSigning (key : Address) : Address → KeyInfo := if key = 0 then b.keys else b.without key

/-- How much the seat contributes to the eligible count. -/
def weight (seatId : Nat) : Nat := if (b.seats seatId).countedSince = 0 then 0 else 1

/-- The cursor has passed every seat that is eligible by now. -/
def Synced (number : Nat) : Prop :=
  b.seatCount < b.eligCursor ∨ number < (b.seats b.eligCursor).activationBlock + ELIGIBILITY_DELAY

/-- What an attestation accepted now pays. -/
def rewardNow (number : Nat) : Nat :=
  let rate := currentRewardPerAttest b number
  if rate ≠ 0 ∧ rate ≤ b.rewardPool then rate else 0

/-- All that the hub owes. -/
def owed : Nat :=
  b.bondedTotal + b.rewardPool + b.acct.totalClaimable + b.acct.totalCredits + b.acct.pendingBurn

variable (number : Nat)

/-- `fund`, or value sent without a call. -/
def funded (sender : Address) (amount : Nat) : Books H :=
  { b with
    rewardPool := b.rewardPool + amount
    acct := { b.acct with totalFunded := b.acct.totalFunded + amount }
    log := (number, .Funded sender amount) :: b.log }

/-- `openSeat`: a seat at the end of the activation queue. -/
def opened (sender attester : Address) : Books H :=
  let queue := schedule number b.queueDay b.queueCount b.activationsPerDay
  let seatId := b.seatCount + 1
  { b with
    queueDay := queue.2.1
    queueCount := queue.2.2
    seatCount := seatId
    seats := b.withSeat seatId fun x =>
      { x with
        owner := sender
        attester
        deposit := SEAT_DEPOSIT
        status := .BONDED
        activationBlock := queue.1
        dutyStartCp := queue.1 / CHECKPOINT_INTERVAL + 1 }
    keys := update b.keys attester { seatId, role := .ROLE_ATTESTER, active := true }
    occupiedSeats := b.occupiedSeats + 1
    bondedTotal := b.bondedTotal + SEAT_DEPOSIT
    acct := { b.acct with totalDeposited := b.acct.totalDeposited + SEAT_DEPOSIT }
    log := (number, .SeatOpened seatId sender attester queue.1 (queue.1 + ELIGIBILITY_DELAY)) ::
      b.log }

/-- `rotateAttester`: the new key is bound to the seat at once and used after a delay. -/
def rotated (seatId : Nat) (key : Address) : Books H :=
  { b with
    keys := update b.keys key { seatId, role := .ROLE_ATTESTER, active := false }
    seats := b.withSeat seatId fun x =>
      { x with pendingAttester := key, attesterRotateBlock := number + ROTATE_DELAY }
    log := (number, .AttesterRotationQueued seatId key (number + ROTATE_DELAY)) :: b.log }

/-- `applyAttesterRotation`: the old key stays bound to the seat, but is not active. -/
def rotationApplied (seatId : Nat) : Books H :=
  let old := (b.seats seatId).attester
  let next := (b.seats seatId).pendingAttester
  { b with
    keys := update (b.without old) next { b.without old next with active := true }
    seats := b.withSeat seatId fun x =>
      { x with attester := next, pendingAttester := 0, attesterRotateBlock := 0 }
    log := (number, .AttesterRotated seatId old next) :: b.log }

/-- `setRewardTo`, where signing rewards go. -/
def payeeSet (seatId : Nat) (payee : Address) : Books H :=
  { b with
    seats := b.withSeat seatId fun x => { x with rewardTo := payee }
    log := (number, .RewardToSet seatId payee) :: b.log }

/-- `setSigningKey` -/
def signingKeySet (seatId : Nat) (key : Address) : Books H :=
  { b with
    keys := update (b.withoutSigning (b.seats seatId).signingKey) key
      { seatId, role := .ROLE_SIGNING, active := true }
    seats := b.withSeat seatId fun x => { x with signingKey := key }
    log := (number, .SigningKeySet seatId key) :: b.log }

/-- `qualify`: the signing key joins the candidates. -/
def listed (seatId : Nat) : Books H :=
  let key := (b.seats seatId).signingKey
  { b with
    signingKeys := b.signingKeys ++ [key]
    signingIndex := update b.signingIndex key (b.signingKeys.length + 1)
    countedBond := update b.countedBond key SEAT_DEPOSIT
    seats := b.withSeat seatId fun x => { x with qualified := true }
    log := (number, .Qualified seatId key) :: b.log }

/-- A seat loses its place among the candidates. -/
def delisted (seatId : Nat) : Books H :=
  let key := (b.seats seatId).signingKey
  { b.removeKey key (b.signingIndex key - 1) (b.signingKeys.length - 1) with
    seats := b.withSeat seatId fun x => { x with qualified := false }
    log := (number, .Disqualified seatId key) :: b.log }

/-- `requestExit`: the seat stops attesting, and its deposit unbonds. -/
def exited (seatId : Nat) : Books H :=
  { b with
    seats := b.withSeat seatId fun x =>
      { x with status := .EXITING, unbondEndBlock := number + UNBONDING_PERIOD, countedSince := 0 }
    keys := b.without (b.seats seatId).attester
    occupiedSeats := b.occupiedSeats - 1
    eligibleCount := b.eligibleCount - b.weight seatId
    log := (number, .ExitRequested seatId (number + UNBONDING_PERIOD)) :: b.log }

/-- `jail`, for too few attestations. -/
def jailed (seatId hits : Nat) : Books H :=
  { b with
    seats := b.withSeat seatId fun x =>
      { x with jailed := true, unjailBlock := number + UNJAIL_DELAY, countedSince := 0 }
    eligibleCount := b.eligibleCount - b.weight seatId
    log := (number, .Jailed seatId hits JAIL_WINDOW (number + UNJAIL_DELAY)) :: b.log }

/-- The jail's end, for a seat that does not enter the eligible count by it. -/
def unjailed (seatId : Nat) : Books H :=
  let duty := number / CHECKPOINT_INTERVAL + 1
  { b with
    seats := b.withSeat seatId fun x =>
      { x with jailed := false, unjailBlock := 0, dutyStartCp := duty }
    log := (number, .Unjailed seatId duty) :: b.log }

/-- The jail's end, for a seat that enters the eligible count by it. -/
def unjailedCounted (seatId : Nat) : Books H :=
  let duty := number / CHECKPOINT_INTERVAL + 1
  { b with
    seats := b.withSeat seatId fun x =>
      { x with jailed := false, unjailBlock := 0, dutyStartCp := duty, countedSince := number }
    eligibleCount := b.eligibleCount + 1
    log := (number, .Unjailed seatId duty) ::
      (number, .SeatEligible seatId (b.eligibleCount + 1)) :: b.log }

/-- The cursor passes a seat that does not enter the eligible count. -/
def passed : Books H := { b with eligCursor := b.eligCursor + 1 }

/-- The cursor passes a seat, which enters the eligible count. -/
def counted : Books H :=
  { b with
    seats := b.withSeat b.eligCursor fun x => { x with countedSince := number }
    eligCursor := b.eligCursor + 1
    eligibleCount := b.eligibleCount + 1
    log := (number, .SeatEligible b.eligCursor (b.eligibleCount + 1)) :: b.log }

/-- The first attestation of a checkpoint snapshots the electorate. -/
def checkpointOpened (height : Nat) (blockHash : H) : Books H :=
  { b with
    checkpoints := b.withCheckpoint height fun cp =>
      { cp with
        blockHash
        count := 0
        eligible := b.eligibleCount
        total := 0
        snapshotBlock := number }
    log := (number, .CheckpointOpened height blockHash b.eligibleCount) :: b.log }

/-- An attestation is accepted, marked and paid. -/
def attestedBy (seatId height : Nat) : Books H :=
  let since := (b.seats seatId).countedSince
  let reward := b.rewardNow number
  { b with
    bits := update b.bits seatId (markParticipation (b.bits seatId)
      (b.seats seatId).lastAttestedCp (height / CHECKPOINT_INTERVAL))
    seats := b.withSeat seatId fun x =>
      { x with
        lastAttestedCp := height / CHECKPOINT_INTERVAL
        claimable := x.claimable + reward }
    checkpoints := b.withCheckpoint height fun cp =>
      { cp with
        count := if since ≠ 0 ∧ since ≤ cp.snapshotBlock then cp.count + 1 else cp.count
        total := cp.total + 1 }
    rewardPool := b.rewardPool - reward
    acct := { b.acct with
              totalAllocated := b.acct.totalAllocated + reward
              totalClaimable := b.acct.totalClaimable + reward }
    log := (number, .Attested seatId height reward) :: b.log }

/-- A checkpoint has the votes it needs. -/
def certified (height : Nat) (blockHash : H) : Books H :=
  let cp := b.checkpoints height
  { b with
    checkpoints := b.withCheckpoint height fun cp => { cp with certified := true }
    log := (number, .CheckpointCertified height blockHash cp.count cp.eligible) :: b.log }

/-- A tenth of the full deposit, or what is left of it. -/
def slashAmount (seatId : Nat) : Nat :=
  if (b.seats seatId).deposit < SEAT_DEPOSIT * SLASH_BPS / BPS then (b.seats seatId).deposit
  else SEAT_DEPOSIT * SLASH_BPS / BPS

/-- A slash is reported and waits for its window. -/
def proposed (seatId : Nat) (kind : Kind) (height sunset : Nat) (reporter : Address) : Books H :=
  let slashId := b.slashCount + 1
  { b with
    seats := b.withSeat seatId fun x => { x with slashState := .SLASH_PENDING }
    slashCount := slashId
    slashes := update b.slashes slashId
      { seatId
        kind
        status := .SLASH_PENDING
        executableBlock := number + SLASH_WINDOW
        vetoSunsetBlock := sunset % 2 ^ 40
        amount := b.slashAmount seatId
        reporter
        height }
    keys := { b with keys := b.without (b.seats seatId).attester }.withoutSigning
      (b.seats seatId).signingKey
    log := (number, .SlashProposed slashId seatId kind height reporter (b.slashAmount seatId)
      (number + SLASH_WINDOW)) :: b.log }

/-- `veto` -/
def vetoed (slashId : Nat) : Books H :=
  let sl := b.slashes slashId
  { b with
    seats := b.withSeat sl.seatId fun x => { x with slashState := .SLASH_NONE }
    slashes := update b.slashes slashId { sl with status := .SLASH_VETOED }
    log := (number, .SlashVetoed slashId sl.seatId) :: b.log }

/-- The burnt share of a slash has been paid. -/
def burnt (slashId : Nat) (x : Executed) : Books H :=
  { b with
    acct := { b.acct with totalBurned := b.acct.totalBurned + x.burned }
    log := (number, .SlashExecuted slashId x.seatId x.amount x.toReporter x.burned) :: b.log }

/-- The burn has failed, and is left to `flushBurn`. -/
def unburnt (slashId : Nat) (x : Executed) : Books H :=
  { b with
    acct := { b.acct with pendingBurn := b.acct.pendingBurn + x.burned }
    log := (number, .SlashExecuted slashId x.seatId x.amount x.toReporter x.burned) :: b.log }

/-- `setAttestationsPaused`: duties start anew when it ends. -/
def pauseSet (paused : Bool) : Books H :=
  let duty := if paused then b.globalDutyStartCp else number / CHECKPOINT_INTERVAL + 1
  { b with
    attestationsPaused := paused
    globalDutyStartCp := duty
    log := (number, .AttestationsPausedSet paused duty) :: b.log }

/-! ### The books behind what is written before a payment -/

/-- `returnExcess`: what the reserve does not need leaves the pool. -/
def givenBack (reserve : Nat) : Books H :=
  { b with
    rewardPool := reserve
    acct := { b.acct with totalReturned := b.acct.totalReturned + (b.rewardPool - reserve) } }

/-- `withdraw`, before its payment. -/
def withdrawn (seatId : Nat) : Books H :=
  let deposit := (b.seats seatId).deposit
  { b with
    seats := b.withSeat seatId fun x => { x with status := .WITHDRAWN, deposit := 0 }
    bondedTotal := b.bondedTotal - deposit
    acct := { b.acct with totalWithdrawn := b.acct.totalWithdrawn + deposit } }

/-- Rewards leave the books. -/
def claimed (seatId amount : Nat) : Books H :=
  { b with
    seats := b.withSeat seatId fun x => { x with claimable := x.claimable - amount }
    acct := { b.acct with
              totalClaimable := b.acct.totalClaimable - amount
              totalClaimed := b.acct.totalClaimed + amount } }

/-- The share of a slash that its reporter is credited with. -/
def toReporter (slashId : Nat) : Nat := (b.slashes slashId).amount * REPORTER_BPS / BPS

/-- `executeSlash`, before the burnt share is paid. -/
def slashed (slashId : Nat) : Books H :=
  let sl := b.slashes slashId
  { b with
    seats := b.withSeat sl.seatId fun x =>
      { x with deposit := x.deposit - sl.amount, slashState := .SLASH_EXECUTED }
    slashes := update b.slashes slashId { sl with status := .SLASH_EXECUTED }
    bondedTotal := b.bondedTotal - sl.amount
    credits := update b.credits sl.reporter (b.credits sl.reporter + b.toReporter slashId)
    acct := { b.acct with
              totalSlashed := b.acct.totalSlashed + sl.amount
              totalCredits := b.acct.totalCredits + b.toReporter slashId } }

/-- `withdrawCredit`, before its payment. -/
def creditTaken (account : Address) : Books H :=
  { b with
    credits := update b.credits account 0
    acct := { b.acct with totalCredits := b.acct.totalCredits - b.credits account } }

/-- `flushBurn`, before its payment. -/
def burnTaken : Books H :=
  { b with
    acct := { b.acct with
              pendingBurn := 0
              totalBurned := b.acct.totalBurned + b.acct.pendingBurn } }

end Books

/-! ### Steps -/

/-- Attestations of the checkpoint are taken in. -/
structure Window (number height : Nat) : Prop where
  ne_zero : height ≠ 0
  multiple : height % CHECKPOINT_INTERVAL = 0
  start : height + INCLUSION_DELAY ≤ number
  stop : number ≤ height + INCLUSION_END

/-- **What is written when FMX has come in.** -/
inductive Receipt (number : Nat) : Nat → Books H → Books H → Prop
  | fund {b : Books H} (sender : Address) (amount : Nat) :
      Receipt number amount b (b.funded number sender amount)
  | openSeat {b : Books H} {sender attester : Address} (hsender : sender ≠ 0)
      (hattester : attester ≠ 0) (hunused : (b.keys attester).seatId = 0)
      (hroom : b.occupiedSeats < b.maxSeats) :
      Receipt number SEAT_DEPOSIT b (b.opened number sender attester)
  /-- What was to be burnt has come back. -/
  | unburnt {b : Books H} (slashId : Nat) (x : Executed) :
      Receipt number x.burned b (b.unburnt number slashId x)

/-- **The atomic changes of the books in a block** that neither bring nor take FMX. -/
inductive Change (K : Deployment H) (number : Nat) : Books H → Books H → Prop
  /-- An event that says nothing about the books. -/
  | rest {b : Books H} (e : Event H) (he : e.inert = true) : Change K number b (b.emit number e)
  | rotate {b : Books H} {seatId : Nat} {key : Address} (hbonded : (b.seats seatId).status = .BONDED)
      (hkey : key ≠ 0) (hunused : (b.keys key).seatId = 0) :
      Change K number b (b.rotated number seatId key)
  | applyRotation {b : Books H} {seatId : Nat} (hbonded : (b.seats seatId).status = .BONDED)
      (hnext : (b.seats seatId).pendingAttester ≠ 0) :
      Change K number b (b.rotationApplied number seatId)
  | setPayee {b : Books H} {seatId : Nat} (payee : Address) (howner : (b.seats seatId).owner ≠ 0) :
      Change K number b (b.payeeSet number seatId payee)
  | setSigningKey {b : Books H} {seatId : Nat} {key : Address}
      (hbonded : (b.seats seatId).status = .BONDED) (hqualified : (b.seats seatId).qualified = false)
      (hkey : key ≠ 0) (hunused : (b.keys key).seatId = 0) :
      Change K number b (b.signingKeySet number seatId key)
  | list {b : Books H} {seatId : Nat} (hbonded : (b.seats seatId).status = .BONDED)
      (hjailed : (b.seats seatId).jailed = false) (hqualified : (b.seats seatId).qualified = false)
      (hslash : (b.seats seatId).slashState = .SLASH_NONE)
      (hkey : (b.seats seatId).signingKey ≠ 0)
      (hroom : b.signingKeys.length < MAX_SIGNING_CANDIDATES) :
      Change K number b (b.listed number seatId)
  | delist {b : Books H} {seatId : Nat} (hqualified : (b.seats seatId).qualified = true) :
      Change K number b (b.delisted number seatId)
  | exit {b : Books H} {seatId : Nat} (hbonded : (b.seats seatId).status = .BONDED)
      (hqualified : (b.seats seatId).qualified = false) :
      Change K number b (b.exited number seatId)
  | jail {b : Books H} {seatId : Nat} (hits : Nat) (hbonded : (b.seats seatId).status = .BONDED)
      (hjailed : (b.seats seatId).jailed = false) (hqualified : (b.seats seatId).qualified = false)
      (hactive : (b.seats seatId).activationBlock ≤ number) :
      Change K number b (b.jailed number seatId hits)
  | unjail {b : Books H} {seatId : Nat} (hbonded : (b.seats seatId).status = .BONDED)
      (hjailed : (b.seats seatId).jailed = true)
      (hcount : (b.seats seatId).activationBlock + ELIGIBILITY_DELAY ≤ number →
        (b.seats seatId).countedSince ≠ 0) :
      Change K number b (b.unjailed number seatId)
  | unjailCount {b : Books H} {seatId : Nat} (hbonded : (b.seats seatId).status = .BONDED)
      (hjailed : (b.seats seatId).jailed = true)
      (heligible : (b.seats seatId).activationBlock + ELIGIBILITY_DELAY ≤ number)
      (hcount : (b.seats seatId).countedSince = 0) :
      Change K number b (b.unjailedCounted number seatId)
  | pass {b : Books H} (hcursor : b.eligCursor ≤ b.seatCount)
      (heligible : (b.seats b.eligCursor).activationBlock + ELIGIBILITY_DELAY ≤ number)
      (hskip : (b.seats b.eligCursor).status = .BONDED → (b.seats b.eligCursor).jailed = false →
        (b.seats b.eligCursor).countedSince ≠ 0) :
      Change K number b b.passed
  | count {b : Books H} (hcursor : b.eligCursor ≤ b.seatCount)
      (heligible : (b.seats b.eligCursor).activationBlock + ELIGIBILITY_DELAY ≤ number)
      (hbonded : (b.seats b.eligCursor).status = .BONDED)
      (hjailed : (b.seats b.eligCursor).jailed = false)
      (hcount : (b.seats b.eligCursor).countedSince = 0) :
      Change K number b (b.counted number)
  | openCheckpoint {b : Books H} {height : Nat} (hwindow : Window number height)
      (hsynced : b.Synced number) (hfresh : (b.checkpoints height).snapshotBlock = 0) :
      Change K number b (b.checkpointOpened number height (K.blockHash height))
  | attest {b : Books H} {seatId height : Nat} (hwindow : Window number height)
      (hopen : (b.checkpoints height).snapshotBlock ≠ 0)
      (hbonded : (b.seats seatId).status = .BONDED) (hjailed : (b.seats seatId).jailed = false)
      (hactive : (b.seats seatId).activationBlock ≤ number)
      (hnew : (b.seats seatId).lastAttestedCp < height / CHECKPOINT_INTERVAL) :
      Change K number b (b.attestedBy number seatId height)
  | certify {b : Books H} {height : Nat} (blockHash : H)
      (hopen : (b.checkpoints height).snapshotBlock ≠ 0)
      (hcertifies :
        certifies (b.checkpoints height).count (b.checkpoints height).eligible = true) :
      Change K number b (b.certified number height blockHash)
  | propose {b : Books H} {seatId : Nat} (kind : Kind) (height sunset : Nat) (reporter : Address)
      (hexiting : (b.seats seatId).status = .EXITING)
      (hslash : (b.seats seatId).slashState = .SLASH_NONE) :
      Change K number b (b.proposed number seatId kind height sunset reporter)
  | veto {b : Books H} {slashId : Nat} (hpending : (b.slashes slashId).status = .SLASH_PENDING) :
      Change K number b (b.vetoed number slashId)
  | bookBurn {b : Books H} (slashId : Nat) (x : Executed) :
      Change K number b (b.burnt number slashId x)
  | pause {b : Books H} (paused : Bool) : Change K number b (b.pauseSet number paused)
  | setMaxSeats {b : Books H} {value : Nat} (hpos : value ≠ 0) (hroom : b.occupiedSeats ≤ value) :
      Change K number b
        { b with maxSeats := value, log := (number, .ParamApplied .P_MAX_SEATS value) :: b.log }
  | setReward {b : Books H} (value : Nat) :
      Change K number b
        { b with
          rewardPerAttest := value
          log := (number, .ParamApplied .P_REWARD_PER_ATTEST value) :: b.log }
  | setActivations {b : Books H} (value : Nat) :
      Change K number b
        { b with
          activationsPerDay := value
          log := (number, .ParamApplied .P_ACTIVATIONS_PER_DAY value) :: b.log }
  | setOpenSeats {b : Books H} {value : Nat} (hunset : b.openSeatsBlock = 0)
      (hlater : number < value) :
      Change K number b
        { b with
          openSeatsBlock := value
          log := (number, .ParamApplied .P_OPEN_SEATS_BLOCK value) :: b.log }

/-- **What is written before FMX is paid.** -/
inductive Payout : Nat → Books H → Books H → Prop
  | giveBack {b : Books H} {reserve : Nat} (h : reserve ≤ b.rewardPool) :
      Payout (b.rewardPool - reserve) b (b.givenBack reserve)
  | withdraw {b : Books H} {seatId : Nat} (hexiting : (b.seats seatId).status = .EXITING)
      (hslash : (b.seats seatId).slashState ≠ .SLASH_PENDING)
      (htotal : (b.seats seatId).deposit ≤ b.bondedTotal) :
      Payout (b.seats seatId).deposit b (b.withdrawn seatId)
  | claim {b : Books H} {seatId amount : Nat} (hpos : amount ≠ 0)
      (hamount : amount ≤ (b.seats seatId).claimable) (htotal : amount ≤ b.acct.totalClaimable) :
      Payout amount b (b.claimed seatId amount)
  | slash {b : Books H} {slashId : Nat} (hpending : (b.slashes slashId).status = .SLASH_PENDING)
      (hamount : (b.slashes slashId).amount ≤ (b.seats (b.slashes slashId).seatId).deposit)
      (htotal : (b.slashes slashId).amount ≤ b.bondedTotal) :
      Payout ((b.slashes slashId).amount - b.toReporter slashId) b (b.slashed slashId)
  | credit {b : Books H} {account : Address} (htotal : b.credits account ≤ b.acct.totalCredits) :
      Payout (b.credits account) b (b.creditTaken account)
  | flush {b : Books H} : Payout b.acct.pendingBurn b b.burnTaken

/-- The books at a block. -/
structure Stage (H : Type) where
  books : Books H
  number : Nat

def stage (w : State H) : Stage H := ⟨w.store.toBooks, w.env.number⟩

/-- What happens to the books: a change, a payment in or out, or a new block. -/
inductive Step (K : Deployment H) : Stage H → Stage H → Prop
  | change {b b' : Books H} {number : Nat} (h : Change K number b b') : Step K ⟨b, number⟩ ⟨b', number⟩
  | receipt {b b' : Books H} {number amount : Nat} (h : Receipt number amount b b') :
      Step K ⟨b, number⟩ ⟨b', number⟩
  | payout {b b' : Books H} {number amount : Nat} (h : Payout amount b b') :
      Step K ⟨b, number⟩ ⟨b', number⟩
  | tick (b : Books H) (number : Nat) : Step K ⟨b, number⟩ ⟨b, number + 1⟩

abbrev Steps (K : Deployment H) : Stage H → Stage H → Prop := ReflTransGen (Step K)

/-- Any number of changes in one block. -/
abbrev Changes (K : Deployment H) (number : Nat) : Books H → Books H → Prop :=
  ReflTransGen (Change K number)

lemma Changes.steps {K : Deployment H} {number : Nat}
    (h : Changes K number b b') : Steps K ⟨b, number⟩ ⟨b', number⟩ := by
  induction h with
  | refl => exact .refl
  | tail _ hc ih => exact ih.tail (.change hc)

/-- The books of a hub that has just been deployed. -/
structure New (K : Deployment H) [Zero H] (b : Books H) : Prop where
  maxSeats : b.maxSeats ≠ 0
  log : ∀ e ∈ b.log, e.1 = K.deployBlock ∧ e.2.inert = true
  rest : b = { maxSeats := b.maxSeats, checkpoints := fun _ => { blockHash := 0 }, log := b.log }

/-- **The stages of all runs of the hub.** -/
def Reachable (K : Deployment H) [Zero H] (s : Stage H) : Prop :=
  ∃ b, New K b ∧ Steps K ⟨b, K.deployBlock⟩ s

namespace Reachable

variable {K : Deployment H} [Zero H]

lemma steps {s s' : Stage H} (h : Reachable K s) (hsteps : Steps K s s') : Reachable K s' := by
  obtain ⟨b, hb, hrun⟩ := h
  exact ⟨b, hb, hrun.trans hsteps⟩

section Induction

variable {P : Books H → Nat → Prop}
  (change : ∀ {b b' number}, Reachable K ⟨b, number⟩ → P b number → Change K number b b' → P b' number)
  (receipt : ∀ {b b' number amount}, Reachable K ⟨b, number⟩ → P b number →
    Receipt number amount b b' → P b' number)
  (payout : ∀ {b b' number amount}, Reachable K ⟨b, number⟩ → P b number →
    Payout amount b b' → P b' number)
  (tick : ∀ {b number}, Reachable K ⟨b, number⟩ → P b number → P b (number + 1)) {s : Stage H}
include change receipt payout tick

lemma induction_new {b0 : Books H} (hb0 : New K b0) (new : P b0 K.deployBlock)
    (hrun : Steps K ⟨b0, K.deployBlock⟩ s) : P s.books s.number := by
  induction hrun with
  | refl => exact new
  | tail hrun hstep ih =>
    cases hstep with
    | change hc => exact change ⟨b0, hb0, hrun⟩ ih hc
    | receipt hr => exact receipt ⟨b0, hb0, hrun⟩ ih hr
    | payout hp => exact payout ⟨b0, hb0, hrun⟩ ih hp
    | tick => exact tick ⟨b0, hb0, hrun⟩ ih

/-- **Invariants of all runs**: true of a new hub, and kept by every change, receipt and payout and
by a new block. -/
theorem induction (new : ∀ b, New K b → P b K.deployBlock) (h : Reachable K s) :
    P s.books s.number := by
  obtain ⟨b, hb, hrun⟩ := h
  exact induction_new change receipt payout tick hb (new b hb) hrun

end Induction

/-- Invariants of the books alone need nothing of a new block. -/
lemma invariant {P : Books H → Prop}
    (change : ∀ {b b' number}, Reachable K ⟨b, number⟩ → P b → Change K number b b' → P b')
    (receipt : ∀ {b b' number amount}, Reachable K ⟨b, number⟩ → P b →
      Receipt number amount b b' → P b')
    (payout : ∀ {b b' number amount}, Reachable K ⟨b, number⟩ → P b → Payout amount b b' → P b')
    (new : ∀ b, New K b → P b) {s : Stage H} (h : Reachable K s) : P s.books :=
  induction (P := fun b _ => P b) change receipt payout (fun _ hb => hb) new h

end Reachable

/-! ### What the hub owes -/

lemma Books.rewardNow_le (b : Books H) (number : Nat) : b.rewardNow number ≤ b.rewardPool := by
  simp only [rewardNow]
  split
  · rename_i h
    exact h.2
  · exact Nat.zero_le _

namespace Books

lemma owed_congr (hbonded : b'.bondedTotal = b.bondedTotal)
    (hpool : b'.rewardPool = b.rewardPool) (hacct : b'.acct = b.acct) : b'.owed = b.owed := by
  rw [owed, hbonded, hpool, hacct, owed]

end Books

lemma Change.owed {K : Deployment H} {number : Nat} (h : Change K number b b') :
    b'.owed = b.owed := by
  cases h with
  | attest =>
    -- the reward moves from the pool to the seat
    have hle := b.rewardNow_le number
    simp only [owed, attestedBy]
    omega
  | bookBurn => rfl
  | _ => exact owed_congr rfl rfl rfl

lemma Receipt.owed {number amount : Nat} (h : Receipt number amount b b') :
    b'.owed = b.owed + amount := by
  cases h with
  | fund =>
    simp only [owed, funded]
    omega
  | openSeat =>
    simp only [owed, opened]
    omega
  | unburnt =>
    simp only [Books.owed, Books.unburnt]
    omega

lemma Books.toReporter_le (b : Books H) (slashId : Nat) :
    b.toReporter slashId ≤ (b.slashes slashId).amount := by
  unfold toReporter REPORTER_BPS BPS
  omega

lemma Payout.owed {amount : Nat} (h : Payout amount b b') : b'.owed + amount = b.owed := by
  cases h with
  | giveBack =>
    simp only [owed, givenBack]
    omega
  | withdraw =>
    simp only [owed, withdrawn]
    omega
  | claim =>
    simp only [owed, claimed]
    omega
  | @slash _ slashId hpending hamount htotal =>
    have hle := b.toReporter_le slashId
    simp only [owed, slashed]
    omega
  | credit =>
    simp only [owed, creditTaken]
    omega
  | flush =>
    simp only [owed, burnTaken]
    omega

end Ferminux.Hub
