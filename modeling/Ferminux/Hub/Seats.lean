import Ferminux.Hub.HeaderRLP

/-!
# Hub.Seats

The storage of `ValidatorHub.sol`, and the functions about **seats**: opening one, its keys and
their rotation, the activation queue, the eligible count, jail and unjail, the candidate list of
signing keys, and the exit.

Functions are computations on the storage that return or revert. None of those here hands out
control.
-/

namespace Ferminux.Hub

open Lib Function Error

/-! ### Storage -/

/-- The storage that the money, the seats, certification and slashes are kept in, with the
events that were emitted. -/
structure Books (H : Type) where
  /-- Signing keys of seats currently qualified to sign. -/
  signingKeys : List Address := []
  /-- 2,000 FMX while the key's seat is qualified and bonded, else 0. -/
  countedBond : Address → Nat := fun _ => 0
  /-- Index in `signingKeys` + 1. -/
  signingIndex : Address → Nat := fun _ => 0
  maxSeats : Nat
  rewardPerAttest : Nat := INITIAL_REWARD_PER_ATTEST
  activationsPerDay : Nat := DEFAULT_ACTIVATIONS_PER_DAY
  /-- V; 0 until set once by timelock. -/
  openSeatsBlock : Nat := 0
  attestationsPaused : Bool := false
  /-- Participation is measured from here after an attestation pause. -/
  globalDutyStartCp : Nat := 0
  /-- Seat ids run 1..seatCount. -/
  seatCount : Nat := 0
  occupiedSeats : Nat := 0
  /-- Seats counted toward certification. -/
  eligibleCount : Nat := 0
  /-- Next seat id the eligibility cursor examines. -/
  eligCursor : Nat := 1
  queueDay : Nat := 0
  queueCount : Nat := 0
  /-- Funded, unallocated. -/
  rewardPool : Nat := 0
  /-- Sum of seat deposits not yet withdrawn or slashed. -/
  bondedTotal : Nat := 0
  acct : Accounting := {}
  seats : Nat → Seat := fun _ => {}
  keys : Address → KeyInfo := fun _ => {}
  /-- 512-checkpoint participation ring. -/
  bits : Nat → Word × Word := fun _ => (0, 0)
  /-- By height. -/
  checkpoints : Nat → Checkpoint H
  slashes : Nat → Slash := fun _ => {}
  slashCount : Nat := 0
  credits : Address → Nat := fun _ => 0
  log : Log H := []

/-- The storage of everything else: ownership, the gates of new seats, the timelock, marks on
keys and evidence, and the lock. -/
structure Settings (H : Type) where
  qualifiedAt : Address → Nat := fun _ => 0
  /-- Payee for the key's Step 2 signing rewards. -/
  rewardTo : Address → Address := fun _ => 0
  /-- Bit 0 = communitySeatsOpen. -/
  flags : Word := 0
  owner : Address
  pendingOwner : Address := 0
  seatsPaused : Bool := false
  allowlistOnly : Bool
  /-- 64-byte devp2p public key. -/
  enode : Nat → Bytes := fun _ => List.replicate 64 0
  evidenceUsed : H → Bool := fun _ => false
  denied : Address → Bool := fun _ => false
  /-- Executable block by the hash of a parameter and its value. -/
  timelockEta : H → Nat := fun _ => 0
  /-- `1` when no guarded function is running, `2` while one is. -/
  lock : Nat := 1
  /-- Block at which a hot key stopped being the seat's key through replacement. -/
  retiredAt : Address → Nat := fun _ => 0
  allowlisted : Address → Bool := fun _ => false

/-- The hub's storage: what the books say, and what the owner has set. -/
structure Store (H : Type) extends Books H, Settings H

/-- A part of a call that pays nobody. -/
abbrev HubM (H : Type) := StateT (Store H) (Except Error)

def checkedSub (a b : Nat) : Except Error Nat := if b ≤ a then .ok (a - b) else .error .Panic

@[simp] lemma checkedSub_eq_ok {a b c : Nat} : checkedSub a b = .ok c ↔ b ≤ a ∧ a - b = c := by
  by_cases h : b ≤ a <;> simp [checkedSub, h]

namespace Books

variable {H : Type}

/-- One seat changes. -/
def setSeat (b : Books H) (seatId : Nat) (f : Seat → Seat) : Books H :=
  { b with seats := update b.seats seatId (f (b.seats seatId)) }

/-- One key changes. -/
def setKey (b : Books H) (key : Address) (f : KeyInfo → KeyInfo) : Books H :=
  { b with keys := update b.keys key (f (b.keys key)) }

/-- An event, with the number of its block. -/
def emit (b : Books H) (number : Nat) (e : Event H) : Books H :=
  { b with log := (number, e) :: b.log }

end Books

variable {H : Type}

/-- A change of the books. -/
def book (f : Books H → Books H) : HubM H Unit := modify fun s => { s with toBooks := f s.toBooks }

def modifySeat (seatId : Nat) (f : Seat → Seat) : HubM H Unit := book (·.setSeat seatId f)

def modifyKey (key : Address) (f : KeyInfo → KeyInfo) : HubM H Unit := book (·.setKey key f)

def emit (m : Context) (e : Event H) : HubM H Unit := book (·.emit m.number e)

/-- A step that is only made under a condition. -/
def doIf (p : Prop) [Decidable p] (body : HubM H Unit) : HubM H Unit := if p then body else pure ()

/-! ### Opening a seat -/

/-- `_scheduleActivation`: a seat activates 24 h after deposit, in a day bucket that has fewer than
`limit` activations; buckets only move forward. The block of activation, and the bucket with its
number of activations, which the queue goes on from. -/
def schedule (number queueDay queueCount limit : Nat) : Nat × Nat × Nat :=
  let earliest := number + ACTIVATION_DELAY
  let today := earliest / BLOCKS_PER_DAY
  let day :=
    if today ≤ queueDay then if limit ≤ queueCount then queueDay + 1 else queueDay else today
  let qc := if today ≤ queueDay then if limit ≤ queueCount then 0 else queueCount else 0
  let act := day * BLOCKS_PER_DAY
  (if act < earliest then earliest else act, day, qc + 1)

variable (K : Deployment H)

/-- A new attester key: unused, not the owner's, and its holder has signed for it. -/
def checkAttester (m : Context) (seatOwner attester : Address) (sig : Bytes) : HubM H Unit := do
  let s ← get
  require (attester ≠ 0 ∧ attester ≠ seatOwner) BadKey
  require ((s.keys attester).seatId = 0) KeyUsed
  require (K.recover (K.attesterKeyDigest m.chainid seatOwner attester) sig = attester)
    BadPossession

/-- The node key of a seat, whose holder has signed for it. -/
def storeEnode (m : Context) (seatId : Nat) (seatOwner attester : Address) (pubkey sig : Bytes) :
    HubM H Unit := do
  require (pubkey.length = 64) BadEnode
  let nodeAddress := K.toAddress (K.keccak256 (.bytes pubkey))
  require (K.recover (K.enodeDigest m.chainid seatOwner attester) sig = nodeAddress)
    BadPossession
  modify fun s => { s with enode := update s.enode seatId pubkey }
  emit m (.EnodeSet seatId nodeAddress pubkey)

/-- Open one seat with exactly 2,000 FMX. The caller becomes the seat owner. -/
def openSeat (m : Context) (attester : Address) (attesterSig enodePubkey enodeSig : Bytes) :
    HubM H Nat := do
  let s ← get
  require (s.seatsPaused = false) Paused
  require (m.value = SEAT_DEPOSIT) WrongDeposit
  require (s.denied m.sender = false) Denied
  require (s.allowlistOnly = true → s.allowlisted m.sender = true) NotAllowlisted
  require (s.occupiedSeats < s.maxSeats) SeatsFull
  checkAttester K m m.sender attester attesterSig
  let queue := schedule m.number s.queueDay s.queueCount s.activationsPerDay
  let act := queue.1
  let seatId := s.seatCount + 1
  book fun b =>
    { b with
      queueDay := queue.2.1
      queueCount := queue.2.2
      seatCount := seatId
      seats := update b.seats seatId { b.seats seatId with
          owner := m.sender
          attester
          deposit := SEAT_DEPOSIT
          status := .BONDED
          activationBlock := act
          dutyStartCp := act / CHECKPOINT_INTERVAL + 1 }
      keys := update b.keys attester { seatId, role := .ROLE_ATTESTER, active := true }
      occupiedSeats := b.occupiedSeats + 1
      bondedTotal := b.bondedTotal + SEAT_DEPOSIT
      acct := { b.acct with totalDeposited := b.acct.totalDeposited + SEAT_DEPOSIT } }
  emit m (.SeatOpened seatId m.sender attester act (act + ELIGIBILITY_DELAY))
  storeEnode K m seatId m.sender attester enodePubkey enodeSig
  return seatId

/-! ### Keys of a seat -/

/-- The seat, which must be the caller's. -/
def ownedSeat (m : Context) (seatId : Nat) : HubM H Seat := do
  let s ← get
  require ((s.seats seatId).owner = m.sender) NotSeatOwner
  return s.seats seatId

/-- The owner of a bonded seat replaces its node key. -/
def setEnode (m : Context) (seatId : Nat) (enodePubkey enodeSig : Bytes) : HubM H Unit := do
  let x ← ownedSeat m seatId
  require (x.status = .BONDED) BadStatus
  storeEnode K m seatId x.owner x.attester enodePubkey enodeSig

/-- The block is kept: evidence against a retired key is accepted for the unbonding period only. -/
def retire (m : Context) (key : Address) : HubM H Unit :=
  modify fun s => { s with retiredAt := update s.retiredAt key m.number }

/-- Queue a new attester key; it replaces the current one after 24 h. -/
def rotateAttester (m : Context) (seatId : Nat) (newAttester : Address) (attesterSig : Bytes) :
    HubM H Unit := do
  let x ← ownedSeat m seatId
  require (x.status = .BONDED) BadStatus
  checkAttester K m x.owner newAttester attesterSig
  modifyKey newAttester fun _ => { seatId, role := .ROLE_ATTESTER, active := false }
  doIf (x.pendingAttester ≠ 0) (retire m x.pendingAttester)
  let eff := m.number + ROTATE_DELAY
  modifySeat seatId fun x => { x with pendingAttester := newAttester, attesterRotateBlock := eff }
  emit m (.AttesterRotationQueued seatId newAttester eff)

/-- Complete a queued attester rotation after its 24 h delay. Permissionless. -/
def applyAttesterRotation (m : Context) (seatId : Nat) : HubM H Unit := do
  let x := (← get).seats seatId
  require (x.pendingAttester ≠ 0 ∧ x.status = .BONDED) BadStatus
  require (x.attesterRotateBlock ≤ m.number) TooEarly
  modifyKey x.attester fun k => { k with active := false }
  retire m x.attester
  modifyKey x.pendingAttester fun k => { k with active := true }
  modifySeat seatId fun y =>
    { y with attester := x.pendingAttester, pendingAttester := 0, attesterRotateBlock := 0 }
  emit m (.AttesterRotated seatId x.attester x.pendingAttester)

/-- Payee for Step 2 signing rewards (zero = the seat owner). -/
def setRewardTo (m : Context) (seatId : Nat) (payee : Address) : HubM H Unit := do
  let x ← ownedSeat m seatId
  modifySeat seatId fun x => { x with rewardTo := payee }
  doIf (x.qualified = true) <| modify fun s =>
    { s with rewardTo := update s.rewardTo x.signingKey (if payee = 0 then x.owner else payee) }
  emit m (.RewardToSet seatId payee)

/-- A bonded seat that is not qualified names the key it would seal with. -/
def setSigningKey (m : Context) (seatId : Nat) (key : Address) (pop : Bytes) : HubM H Unit := do
  let x ← ownedSeat m seatId
  require (x.status = .BONDED ∧ x.qualified = false) BadStatus
  require (key ≠ 0 ∧ key ≠ x.owner) BadKey
  require (((← get).keys key).seatId = 0) KeyUsed
  require (K.recover (K.signingKeyDigest m.chainid seatId key x.owner) pop = key)
    BadPossession
  doIf (x.signingKey ≠ 0) do
    modifyKey x.signingKey fun k => { k with active := false }
    retire m x.signingKey
  modifyKey key fun _ => { seatId, role := .ROLE_SIGNING, active := true }
  modifySeat seatId fun x => { x with signingKey := key }
  emit m (.SigningKeySet seatId key)

/-! ### The eligible count -/

namespace Books

/-- `_count`: the seat enters the eligible count, unless it is in it. -/
def countSeat (b : Books H) (number seatId : Nat) : Books H :=
  if (b.seats seatId).countedSince ≠ 0 then b
  else
    let b := b.setSeat seatId fun x => { x with countedSince := number }
    { b with eligibleCount := b.eligibleCount + 1 }.emit number
      (.SeatEligible seatId (b.eligibleCount + 1))

/-- The cursor passes a seat, which counts if it is bonded and not jailed. -/
def passSeat (b : Books H) (number : Nat) : Books H :=
  let x := b.seats b.eligCursor
  let b' := if x.status = .BONDED ∧ x.jailed = false then b.countSeat number b.eligCursor else b
  { b' with eligCursor := b.eligCursor + 1 }

/-- The cursor walks up to `steps` seats, and stops before one that is not eligible yet. -/
def walk (number : Nat) : Nat → Books H → Books H
  | 0, b => b
  | steps + 1, b =>
    if number < (b.seats b.eligCursor).activationBlock + ELIGIBILITY_DELAY then b
    else walk number steps (b.passSeat number)

end Books

/-- `_sync`: advance the eligibility cursor by up to `maxSteps` seats. -/
def syncSeats (m : Context) (maxSteps : Nat) : HubM H Unit :=
  book fun b => b.walk m.number (min maxSteps (b.seatCount + 1 - b.eligCursor))

/-- Lets seats whose delay is over become eligible, at most `maxSteps` of them. -/
def sync (m : Context) (maxSteps : Nat) : HubM H Unit := syncSeats m maxSteps

/-- `_sync(type(uint256).max)`, which is more than there are seats: the cursor walks as far as it
can. -/
def syncAll (m : Context) : HubM H Unit :=
  book fun b => b.walk m.number (b.seatCount + 1 - b.eligCursor)

/-- `_uncount`: the seat leaves the eligible count, if it is in it. -/
def uncountSeat (seatId : Nat) : HubM H Unit := do
  let s ← get
  doIf ((s.seats seatId).countedSince ≠ 0) do
    modifySeat seatId fun x => { x with countedSince := 0 }
    let n ← checkedSub s.eligibleCount 1
    book fun b => { b with eligibleCount := n }

/-! ### The candidate list -/

namespace Books

/-- Swap-and-pop: the last key moves to where `key` was, unless it is the last itself. -/
def removeKey (b : Books H) (key : Address) (idx lastIdx : Nat) : Books H :=
  let moved := b.signingKeys.getD lastIdx 0
  let keys := if idx ≠ lastIdx then b.signingKeys.set idx moved else b.signingKeys
  let index := if idx ≠ lastIdx then update b.signingIndex moved (idx + 1) else b.signingIndex
  { b with
    signingKeys := keys.dropLast
    signingIndex := update index key 0
    countedBond := update b.countedBond key 0 }

end Books

/-- `_disqualify`: take the seat off the candidate list, if it is on it. -/
def disqualifySeat (m : Context) (seatId : Nat) : HubM H Unit := do
  let s ← get
  let key := (s.seats seatId).signingKey
  doIf ((s.seats seatId).qualified = true) do
    let idx ← checkedSub (s.signingIndex key) 1
    let lastIdx ← checkedSub s.signingKeys.length 1
    require (idx < s.signingKeys.length) Panic
    book (·.removeKey key idx lastIdx)
    modify fun s => { s with qualifiedAt := update s.qualifiedAt key 0 }
    modifySeat seatId fun x => { x with qualified := false }
    emit m (.Disqualified seatId key)

/-! ### Participation -/

/-- Latest checkpoint index whose inclusion window has closed. -/
def lastClosedCheckpoint (number : Nat) : Nat :=
  if number ≤ INCLUSION_END then 0 else (number - INCLUSION_END - 1) / CHECKPOINT_INTERVAL

/-- Participation over the last `window` closed checkpoints; not covered unless the seat was on
duty for the whole window. -/
def participationCheck (b : Books H) (number seatId window : Nat) : Bool × Nat :=
  let x := b.seats seatId
  if number < x.activationBlock then (false, 0)
  else
    let last := lastClosedCheckpoint number
    if last < window then (false, 0)
    else
      let start := last - window + 1
      let duty := if x.dutyStartCp < b.globalDutyStartCp then b.globalDutyStartCp else x.dutyStartCp
      if start < duty then (false, 0)
      else (true, countBits (b.bits seatId) x.lastAttestedCp start last)

/-- Below 50% of the last 124 closed checkpoints, all of them on duty. -/
def belowHalf (b : Books H) (number seatId : Nat) : Prop :=
  (participationCheck b number seatId JAIL_WINDOW).1 = true ∧
    (participationCheck b number seatId JAIL_WINDOW).2 * BPS < JAIL_WINDOW * JAIL_BPS

instance (b : Books H) (number seatId : Nat) : Decidable (belowHalf b number seatId) :=
  inferInstanceAs (Decidable (_ ∧ _))

/-- Checkpoints attested among the last `n` closed checkpoints (n <= 511). -/
def participation (b : Books H) (number seatId n : Nat) : Except Error Nat :=
  if n = 0 ∨ MAX_PARTICIPATION_WINDOW < n then .error .BadWindow
  else
    let last := lastClosedCheckpoint number
    if last = 0 then .ok 0
    else
      let start := if n ≤ last then last - n + 1 else 1
      .ok (countBits (b.bits seatId) (b.seats seatId).lastAttestedCp start last)

/-- Whether the ring still shows that the seat attested the checkpoint. -/
def attested (b : Books H) (seatId height : Nat) : Bool :=
  if height % CHECKPOINT_INTERVAL ≠ 0 then false
  else
    let c := height / CHECKPOINT_INTERVAL
    let last := (b.seats seatId).lastAttestedCp
    if c = 0 ∨ last < c ∨ c + RING ≤ last then false
    else
      let pos := c % RING
      if pos < 256 then (b.bits seatId).1.getLsbD pos else (b.bits seatId).2.getLsbD (pos - 256)

/-! ### Jail -/

/-- Jail a seat that attested to fewer than 50% of the last 124 closed checkpoints.
Permissionless. -/
def jail (m : Context) (seatId : Nat) : HubM H Unit := do
  let s ← get
  require (s.attestationsPaused = false) Paused
  let x := s.seats seatId
  require (x.status = .BONDED ∧ x.jailed = false) NotJailable
  require (belowHalf s.toBooks m.number seatId) NotJailable
  let hits := (participationCheck s.toBooks m.number seatId JAIL_WINDOW).2
  let unjailAt := m.number + UNJAIL_DELAY
  modifySeat seatId fun x => { x with jailed := true, unjailBlock := unjailAt }
  uncountSeat seatId
  disqualifySeat m seatId
  emit m (.Jailed seatId hits JAIL_WINDOW unjailAt)

/-- Resume a jailed seat, 24 h after it was jailed. -/
def unjail (m : Context) (seatId : Nat) : HubM H Unit := do
  let x ← ownedSeat m seatId
  require (x.jailed = true ∧ x.status = .BONDED) BadStatus
  require (x.unjailBlock ≤ m.number) TooEarly
  let duty := m.number / CHECKPOINT_INTERVAL + 1
  modifySeat seatId fun x => { x with jailed := false, unjailBlock := 0, dutyStartCp := duty }
  doIf (x.activationBlock + ELIGIBILITY_DELAY ≤ m.number) (book (·.countSeat m.number seatId))
  emit m (.Unjailed seatId duty)

/-! ### Qualification -/

/-- Put a seat's signing key into the candidate list. Permissionless. -/
def qualify (m : Context) (seatId : Nat) : HubM H Unit := do
  let s ← get
  let x := s.seats seatId
  require (x.status = .BONDED ∧ x.jailed = false ∧ x.qualified = false ∧
      x.slashState = .SLASH_NONE ∧ x.signingKey ≠ 0 ∧
      x.activationBlock + QUALIFY_ACTIVE_PERIOD ≤ m.number ∧
      s.signingKeys.length < MAX_SIGNING_CANDIDATES)
    NotQualifiable
  let check := participationCheck s.toBooks m.number seatId QUALIFY_WINDOW
  require (check.1 = true ∧ QUALIFY_WINDOW * QUALIFY_BPS ≤ check.2 * BPS) NotQualifiable
  let key := x.signingKey
  book fun b =>
    { b with
      signingKeys := b.signingKeys ++ [key]
      signingIndex := update b.signingIndex key (b.signingKeys.length + 1)
      countedBond := update b.countedBond key SEAT_DEPOSIT }
  modify fun s =>
    { s with
      qualifiedAt := update s.qualifiedAt key m.number
      rewardTo := update s.rewardTo key (if x.rewardTo = 0 then x.owner else x.rewardTo) }
  modifySeat seatId fun x => { x with qualified := true }
  emit m (.Qualified seatId key)

/-- Remove a seat from the candidate list. The seat owner may always do it; anyone may once
participation fell below 50%. -/
def disqualify (m : Context) (seatId : Nat) : HubM H Unit := do
  let s ← get
  let x := s.seats seatId
  require (x.qualified = true) NotDisqualifiable
  doIf (m.sender ≠ x.owner) do
    require (s.attestationsPaused = false) Paused
    require (belowHalf s.toBooks m.number seatId) NotDisqualifiable
  disqualifySeat m seatId

/-! ### Exit -/

/-- `_eject`: move a bonded seat into the 14-day unbond. -/
def eject (m : Context) (seatId : Nat) : HubM H Unit := do
  let stop := m.number + UNBONDING_PERIOD
  modifySeat seatId fun x => { x with status := .EXITING, unbondEndBlock := stop }
  let s ← get
  let n ← checkedSub s.occupiedSeats 1
  book fun b => { b with occupiedSeats := n }
  modifyKey (s.seats seatId).attester fun k => { k with active := false }
  uncountSeat seatId
  disqualifySeat m seatId
  emit m (.ExitRequested seatId stop)

/-- Start the 14-day unbond. -/
def requestExit (m : Context) (seatId : Nat) : HubM H Unit := do
  let x ← ownedSeat m seatId
  require (x.status = .BONDED) BadStatus
  eject m seatId

end Ferminux.Hub
