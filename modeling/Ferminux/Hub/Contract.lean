import Ferminux.Hub.Attest
import Ferminux.Lib.Prog

/-!
# Hub.Contract

The rest of `ValidatorHub.sol`: the reward pool, claims and withdrawals, slashes, the owner's
functions and the timelocked parameters, and the **programs** of all external functions.

Paying out is the only call the hub makes, and hands control to the receiver. It comes last in
every function, but for the burn of a slash, whose outcome is booked behind the call.
-/

namespace Ferminux.Hub

open Lib Function Error

variable {H : Type}

/-! ### Money -/

/-- The value goes to the reward pool. -/
def fund (m : Context) : HubM H Unit :=
  doIf (m.value ≠ 0) do
    book fun b =>
      { b with
        rewardPool := b.rewardPool + m.value
        acct := { b.acct with totalFunded := b.acct.totalFunded + m.value } }
    emit m (.Funded m.sender m.value)

/-- Take unallocated FMX beyond 180 days of maximum spend from the pool. -/
def takeExcess (m : Context) : HubM H Nat := do
  let s ← get
  let reserve := s.maxSeats * currentRewardPerAttest s.toBooks m.number * RESERVE_CHECKPOINTS
  require (reserve < s.rewardPool) NothingToPay
  let excess := s.rewardPool - reserve
  book fun b =>
    { b with
      rewardPool := reserve
      acct := { b.acct with totalReturned := b.acct.totalReturned + excess } }
  return excess

/-- Close the books of a seat whose unbond has ended; the deposit that is left. -/
def takeDeposit (m : Context) (seatId : Nat) (payee : Address) : HubM H Nat := do
  let x ← ownedSeat m seatId
  require (payee ≠ 0) ZeroAddress
  require (x.status = .EXITING) BadStatus
  require (x.unbondEndBlock ≤ m.number ∧ x.slashState ≠ .SLASH_PENDING) TooEarly
  modifySeat seatId fun x => { x with status := .WITHDRAWN, deposit := 0 }
  let bonded ← checkedSub (← get).bondedTotal x.deposit
  book fun b =>
    { b with
      bondedTotal := bonded
      acct := { b.acct with totalWithdrawn := b.acct.totalWithdrawn + x.deposit } }
  return x.deposit

/-- The part of `_payClaim` before the payment. -/
def takeClaim (seatId amount : Nat) : HubM H Unit := do
  require (amount ≠ 0) NothingToPay
  let s ← get
  let claimable ← checkedSub (s.seats seatId).claimable amount
  modifySeat seatId fun x => { x with claimable }
  let total ← checkedSub s.acct.totalClaimable amount
  book fun b =>
    { b with
      acct := { b.acct with totalClaimable := total, totalClaimed := b.acct.totalClaimed + amount } }

/-- `withdrawCredit` before its payment. -/
def takeCredit (m : Context) (payee : Address) : HubM H Nat := do
  require (payee ≠ 0) ZeroAddress
  let s ← get
  let amount := s.credits m.sender
  require (amount ≠ 0) NothingToPay
  book fun b => { b with credits := update b.credits m.sender 0 }
  let total ← checkedSub s.acct.totalCredits amount
  book fun b => { b with acct := { b.acct with totalCredits := total } }
  return amount

/-- `flushBurn` before its payment. -/
def takePendingBurn : HubM H Nat := do
  let amount := (← get).acct.pendingBurn
  require (amount ≠ 0) NothingToPay
  book fun b =>
    { b with
      acct := { b.acct with pendingBurn := 0, totalBurned := b.acct.totalBurned + amount } }
  return amount

/-! ### Slashes -/

section Slashes

variable (K : Deployment H) [DecidableEq H] (m : Context)

/-- `_proposeSlash`: start a slash of the seat that a key is bound to. -/
def proposeSlash (key : Address) (seatId : Nat) (kind : Kind) (height sunset : Nat) :
    HubM H Nat := do
  let s ← get
  let retired := s.retiredAt key
  require (¬ (retired ≠ 0 ∧ retired + UNBONDING_PERIOD ≤ m.number)) BadEvidence
  let ev := K.keccak256 (.evidence kind seatId height)
  require (s.evidenceUsed ev = false) EvidenceUsed
  let x := s.seats seatId
  require ((x.status = .BONDED ∨ x.status = .EXITING) ∧ x.slashState = .SLASH_NONE) BadStatus
  modify fun s => { s with evidenceUsed := update s.evidenceUsed ev true }
  let full := SEAT_DEPOSIT * SLASH_BPS / BPS
  let amount := if x.deposit < full then x.deposit else full
  let exec := m.number + SLASH_WINDOW
  let slashId := s.slashCount + 1
  book fun b =>
    { b with
      slashCount := slashId
      slashes := update b.slashes slashId
        { seatId
          kind
          status := .SLASH_PENDING
          executableBlock := exec
          vetoSunsetBlock := sunset % 2 ^ 40
          amount
          reporter := m.sender
          height } }
  modifySeat seatId fun x => { x with slashState := .SLASH_PENDING }
  modifyKey x.attester fun k => { k with active := false }
  doIf (x.signingKey ≠ 0) (modifyKey x.signingKey fun k => { k with active := false })
  doIf (x.status = .BONDED) (eject m seatId)
  emit m (.SlashProposed slashId seatId kind height m.sender amount exec)
  return slashId

/-- Prove that one attester key signed two different block hashes for one checkpoint height. -/
def proveDoubleAttestation (height : Nat) (hashA : H) (sigA : Bytes) (hashB : H)
    (sigB : Bytes) : HubM H Nat := do
  require (height ≠ 0 ∧ height % CHECKPOINT_INTERVAL = 0 ∧ hashA ≠ hashB) BadEvidence
  let key := K.recover (K.attestationDigest m.chainid height hashA) sigA
  require (key ≠ 0 ∧ K.recover (K.attestationDigest m.chainid height hashB) sigB = key)
    BadEvidence
  let k := (← get).keys key
  require (k.seatId ≠ 0 ∧ k.role = .ROLE_ATTESTER) BadEvidence
  proposeSlash K m key k.seatId .KIND_DOUBLE_ATTESTATION height K.vetoSunsetBlock

/-- Prove that one signing key confirmed two different headers with the same number and
parent. -/
def proveDoubleSeal (preimageA sigA preimageB sigB : Bytes) : HubM H Nat := do
  let v := (← get).openSeatsBlock
  require (v ≠ 0) BadEvidence
  let (number, sealA, sealB) ← HeaderRLP.check K preimageA preimageB
  require (v ≤ number) BadEvidence
  let key := K.recover sealA sigA
  require (key ≠ 0 ∧ K.recover sealB sigB = key) BadEvidence
  let k := (← get).keys key
  require (k.seatId ≠ 0 ∧ k.role = .ROLE_SIGNING) BadEvidence
  proposeSlash K m key k.seatId .KIND_DOUBLE_SEAL number (v + VETO_SUNSET_PERIOD)

/-- What an executed slash comes to. -/
structure Executed where
  seatId : Nat
  amount : Nat
  toReporter : Nat
  burned : Nat

/-- The part of `executeSlash` before the burn. -/
def bookSlash (slashId : Nat) : HubM H Executed := do
  let s ← get
  let sl := s.slashes slashId
  require (sl.status = .SLASH_PENDING) SlashNotPending
  require (sl.executableBlock ≤ m.number) TooEarly
  let deposit ← checkedSub (s.seats sl.seatId).deposit sl.amount
  let bonded ← checkedSub s.bondedTotal sl.amount
  let toReporter := sl.amount * REPORTER_BPS / BPS
  book fun b =>
    { b.setSeat sl.seatId fun x => { x with deposit, slashState := .SLASH_EXECUTED } with
      slashes := update b.slashes slashId { sl with status := .SLASH_EXECUTED }
      bondedTotal := bonded
      credits := update b.credits sl.reporter (b.credits sl.reporter + toReporter)
      acct := { b.acct with
                totalSlashed := b.acct.totalSlashed + sl.amount
                totalCredits := b.acct.totalCredits + toReporter } }
  return { seatId := sl.seatId, amount := sl.amount, toReporter, burned := sl.amount - toReporter }

/-- The part of `executeSlash` behind the burn. -/
def bookBurn (slashId : Nat) (x : Executed) (ok : Bool) : HubM H Unit := do
  book fun b =>
    { b with
      acct := if ok then { b.acct with totalBurned := b.acct.totalBurned + x.burned }
        else { b.acct with pendingBurn := b.acct.pendingBurn + x.burned } }
  emit m (.SlashExecuted slashId x.seatId x.amount x.toReporter x.burned)

def onlyOwner : HubM H Unit := do
  require (m.sender = (← get).owner) NotOwner

/-- Cancel a pending slash caused by a software bug. -/
def veto (slashId : Nat) : HubM H Unit := do
  onlyOwner m
  let sl := (← get).slashes slashId
  require (sl.status = .SLASH_PENDING) SlashNotPending
  require (m.number < sl.executableBlock ∧ m.number < sl.vetoSunsetBlock) VetoClosed
  book fun b =>
    { b.setSeat sl.seatId fun x => { x with slashState := .SLASH_NONE } with
      slashes := update b.slashes slashId { sl with status := .SLASH_VETOED } }
  emit m (.SlashVetoed slashId sl.seatId)

end Slashes

/-! ### The owner -/

/-- Stops the opening of seats. -/
def setSeatsPaused (m : Context) (paused : Bool) : HubM H Unit := do
  onlyOwner m
  modify fun s => { s with seatsPaused := paused }
  emit m (.SeatsPausedSet paused)

/-- Stop or resume attestations. On resume participation is measured afresh from the next
checkpoint for every seat. -/
def setAttestationsPaused (m : Context) (paused : Bool) : HubM H Unit := do
  onlyOwner m
  let s ← get
  let duty := if paused then s.globalDutyStartCp else m.number / CHECKPOINT_INTERVAL + 1
  book fun b => { b with attestationsPaused := paused, globalDutyStartCp := duty }
  emit m (.AttestationsPausedSet paused duty)

/-- Kill switch for Step 2. -/
def closeCommunitySeats (m : Context) : HubM H Unit := do
  onlyOwner m
  modify fun s => { s with flags := s.flags &&& ~~~1 }
  emit m (.CommunitySeatsSet false)

/-- One account of `setAllowlist`; an unchanged one logs nothing. -/
def setAllowed (m : Context) (allowed : Bool) (account : Address) : HubM H Unit := do
  require (account ≠ 0) ZeroAddress
  let s ← get
  doIf (s.allowlisted account ≠ allowed) do
    modify fun s => { s with allowlisted := update s.allowlisted account allowed }
    emit m (.AllowlistSet account allowed)

/-- Only while the hub is restricted to its allowlist. -/
def setAllowlist (m : Context) (accounts : List Address) (allowed : Bool) : HubM H Unit := do
  onlyOwner m
  require ((← get).allowlistOnly = true) BadStatus
  accounts.forM (setAllowed m allowed)

/-- The new owner has to accept. -/
def transferOwnership (m : Context) (newOwner : Address) : HubM H Unit := do
  onlyOwner m
  require (newOwner ≠ 0) ZeroAddress
  modify fun s => { s with pendingOwner := newOwner }
  emit m (.OwnershipTransferStarted (← get).owner newOwner)

def acceptOwnership (m : Context) : HubM H Unit := do
  let s ← get
  require (m.sender = s.pendingOwner) NotOwner
  emit m (.OwnershipTransferred s.owner m.sender)
  modify fun s => { s with owner := m.sender, pendingOwner := 0 }

/-! ### Timelocked parameters -/

section Params

variable (K : Deployment H) [DecidableEq H] (m : Context)

/-- Hard caps on a parameter that takes effect at a block. -/
def validParam (s : Store H) (atBlock : Nat) : Param → Nat → Prop
  | .P_MAX_SEATS, value =>
    ¬ (value = 0 ∨ HARD_MAX_SEATS < value ∨ value < s.occupiedSeats) ∧
      ¬ (atBlock < K.deployBlock + LAUNCH_PERIOD ∧ LAUNCH_MAX_SEATS < value) ∧
      value * s.rewardPerAttest ≤ BUDGET_PER_CHECKPOINT
  | .P_REWARD_PER_ATTEST, value =>
    value ≤ MAX_REWARD_PER_ATTEST ∧ s.maxSeats * value ≤ BUDGET_PER_CHECKPOINT
  | .P_ACTIVATIONS_PER_DAY, value => value ≠ 0 ∧ value ≤ MAX_ACTIVATIONS_PER_DAY
  | .P_OPEN_SEATS_BLOCK, value =>
    s.openSeatsBlock = 0 ∧ value ≠ 0 ∧ value % OPEN_SEATS_EPOCH = 0 ∧ atBlock < value
  | .P_OPEN_COMMUNITY_SEATS, value => value = 1
  | .P_OPEN_TO_ALL, value => value = 1 ∧ s.allowlistOnly = true
  | .P_DENY, value => value ≠ 0 ∧ value < 2 ^ 160
  | .P_ALLOW, value => value ≠ 0 ∧ value < 2 ^ 160
  | .unknown _, _ => False

instance (s : Store H) (atBlock : Nat) (param : Param) (value : Nat) :
    Decidable (validParam K s atBlock param value) :=
  match param with
  | .P_MAX_SEATS => inferInstanceAs (Decidable (_ ∧ _))
  | .P_REWARD_PER_ATTEST => inferInstanceAs (Decidable (_ ∧ _))
  | .P_ACTIVATIONS_PER_DAY => inferInstanceAs (Decidable (_ ∧ _))
  | .P_OPEN_SEATS_BLOCK => inferInstanceAs (Decidable (_ ∧ _))
  | .P_OPEN_COMMUNITY_SEATS => inferInstanceAs (Decidable (_ = _))
  | .P_OPEN_TO_ALL => inferInstanceAs (Decidable (_ ∧ _))
  | .P_DENY => inferInstanceAs (Decidable (_ ∧ _))
  | .P_ALLOW => inferInstanceAs (Decidable (_ ∧ _))
  | .unknown _ => inferInstanceAs (Decidable False)

/-- Announces a value of a parameter, which may be applied after the timelock. -/
def queueParam (param : Param) (value : Nat) : HubM H Unit := do
  onlyOwner m
  let s ← get
  let eta := m.number + TIMELOCK
  require (validParam K s eta param value) BadParam
  let key := K.keccak256 (.param param value)
  require (s.timelockEta key = 0) AlreadyQueued
  modify fun s => { s with timelockEta := update s.timelockEta key eta }
  emit m (.ParamQueued param value eta)

/-- Takes the announcement back. -/
def cancelParam (param : Param) (value : Nat) : HubM H Unit := do
  onlyOwner m
  let key := K.keccak256 (.param param value)
  require ((← get).timelockEta key ≠ 0) NotQueued
  modify fun s => { s with timelockEta := update s.timelockEta key 0 }
  emit m (.ParamCancelled param value)

/-- What the parameter sets. -/
def writeParam (value : Nat) : Param → HubM H Unit
  | .P_MAX_SEATS => book fun b => { b with maxSeats := value }
  | .P_REWARD_PER_ATTEST => book fun b => { b with rewardPerAttest := value }
  | .P_ACTIVATIONS_PER_DAY => book fun b => { b with activationsPerDay := value }
  | .P_OPEN_SEATS_BLOCK => book fun b => { b with openSeatsBlock := value }
  | .P_OPEN_COMMUNITY_SEATS => do
    modify fun s => { s with flags := s.flags ||| 1 }
    emit m (.CommunitySeatsSet true)
  | .P_OPEN_TO_ALL => do
    modify fun s => { s with allowlistOnly := false }
    emit m .OpenedToAll
  | .P_DENY => deny true
  | .P_ALLOW => deny false
  | .unknown _ => deny false
where
  /-- Refuse an owner, or stop to. -/
  deny (d : Bool) : HubM H Unit := do
    let account := BitVec.ofNat 160 value
    modify fun s => { s with denied := update s.denied account d }
    emit m (.DenySet account d)

/-- Sets an announced value, which is checked again. -/
def applyParam (param : Param) (value : Nat) : HubM H Unit := do
  onlyOwner m
  let key := K.keccak256 (.param param value)
  let eta := (← get).timelockEta key
  require (eta ≠ 0) NotQueued
  require (eta ≤ m.number) TooEarly
  modify fun s => { s with timelockEta := update s.timelockEta key 0 }
  require (validParam K (← get) m.number param value) BadParam
  writeParam m value param
  emit m (.ParamApplied param value)

end Params

/-! ### Programs -/

/-- The only calls the hub makes: payments. -/
inductive ExtCall where
  | call (dest : Address) (amount : Nat)
  deriving Repr, DecidableEq

/-- Whether the payment went through. -/
abbrev Answer : ExtCall → Type
  | .call _ _ => Bool

/-- A call, with the payments in it. -/
abbrev Contract (H : Type) := Prog (Store H) Answer

/-- A computation on the storage, as a part of a program. -/
def segment {α : Type} (x : HubM H α) : Contract H α := fun s =>
  match x s with
  | .ok (a, s') => .done a s'
  | .error e => .revert (reprStr e)

/-- `_send`: pay, or revert. -/
def send (dest : Address) (amount : Nat) : Contract H Unit := do
  let ok ← (Prog.call (.call dest amount) : Contract H Bool)
  if ok then pure () else segment (throw TransferFailed)

/-- The first half of `nonReentrant`. -/
def enter : HubM H Unit := do
  require ((← get).lock = 1) Reentrancy
  modify fun s => { s with lock := 2 }

def nonReentrant (body : Contract H Unit) : Contract H Unit := do
  segment enter
  body
  segment (modify fun s => { s with lock := 1 })

/-- Send unallocated FMX beyond 180 days of maximum spend back to the sink. -/
def returnExcess (K : Deployment H) (m : Context) : Contract H Unit :=
  nonReentrant do
    let excess ← segment (takeExcess m)
    send K.rewardSink excess
    segment (emit m (.ExcessReturned K.rewardSink excess))

/-- Pays the deposit of a seat that has unbonded. -/
def withdraw (m : Context) (seatId : Nat) (payee : Address) : Contract H Unit :=
  nonReentrant do
    let amount ← segment (takeDeposit m seatId payee)
    send payee amount
    segment (emit m (.Withdrawn seatId payee amount))

/-- Rewards that were taken from the books are paid. -/
def payClaim (m : Context) (seatId : Nat) (payee : Address) (amount : Nat) : Contract H Unit := do
  segment (takeClaim seatId amount)
  send payee amount
  segment (emit m (.Claimed seatId payee amount))

/-- Pays the rewards of the caller's seat to `payee`. -/
def claim (m : Context) (seatId : Nat) (payee : Address) : Contract H Unit :=
  nonReentrant do
    let x ← segment do
      let x ← ownedSeat m seatId
      require (payee ≠ 0) ZeroAddress
      return x
    payClaim m seatId payee x.claimable

/-- Send part of the seat's rewards to its attester key. -/
def claimToAttester (m : Context) (seatId amount : Nat) : Contract H Unit :=
  nonReentrant do
    let x ← segment do
      let x ← ownedSeat m seatId
      require (amount ≤ x.claimable) NothingToPay
      return x
    payClaim m seatId x.attester amount

/-- Execute a slash after its 48 h window. Permissionless. -/
def executeSlash (m : Context) (slashId : Nat) : Contract H Unit :=
  nonReentrant do
    let x ← segment (bookSlash m slashId)
    let ok ← (Prog.call (.call BURN_ADDRESS x.burned) : Contract H Bool)
    segment (bookBurn m slashId x ok)

/-- Pays what the caller earned by reporting offences. -/
def withdrawCredit (m : Context) (payee : Address) : Contract H Unit :=
  nonReentrant do
    let amount ← segment (takeCredit m payee)
    send payee amount
    segment (emit m (.CreditWithdrawn m.sender payee amount))

/-- Retry sending burned FMX whose first transfer failed. Permissionless. -/
def flushBurn (m : Context) : Contract H Unit :=
  nonReentrant do
    let amount ← segment takePendingBurn
    send BURN_ADDRESS amount
    segment (emit m (.BurnFlushed amount))

/-- The external functions. A call without data is `receive`. -/
inductive Function (H : Type) where
  | fund
  | receive
  | returnExcess
  | openSeat (attester : Address) (attesterSig enodePubkey enodeSig : Bytes)
  | setEnode (seatId : Nat) (enodePubkey enodeSig : Bytes)
  | rotateAttester (seatId : Nat) (newAttester : Address) (attesterSig : Bytes)
  | applyAttesterRotation (seatId : Nat)
  | setRewardTo (seatId : Nat) (payee : Address)
  | requestExit (seatId : Nat)
  | withdraw (seatId : Nat) (payee : Address)
  | claim (seatId : Nat) (payee : Address)
  | claimToAttester (seatId amount : Nat)
  | attest (height : Nat) (blockHash : H) (sig : Bytes)
  | attestBatch (height : Nat) (blockHash : H) (sigs : Bytes)
  | jail (seatId : Nat)
  | unjail (seatId : Nat)
  | setSigningKey (seatId : Nat) (key : Address) (pop : Bytes)
  | qualify (seatId : Nat)
  | disqualify (seatId : Nat)
  | proveDoubleAttestation (height : Nat) (hashA : H) (sigA : Bytes) (hashB : H) (sigB : Bytes)
  | proveDoubleSeal (preimageA sigA preimageB sigB : Bytes)
  | executeSlash (slashId : Nat)
  | veto (slashId : Nat)
  | withdrawCredit (payee : Address)
  | flushBurn
  | sync (maxSteps : Nat)
  | setSeatsPaused (paused : Bool)
  | setAttestationsPaused (paused : Bool)
  | closeCommunitySeats
  | setAllowlist (accounts : List Address) (allowed : Bool)
  | queueParam (param : Param) (value : Nat)
  | cancelParam (param : Param) (value : Nat)
  | applyParam (param : Param) (value : Nat)
  | transferOwnership (newOwner : Address)
  | acceptOwnership

/-- The functions that accept value. -/
def Function.payable : Function H → Bool
  | .fund | .receive | .openSeat _ _ _ _ => true
  | _ => false

namespace Deployment

variable (K : Deployment H) [DecidableEq H] [Zero H]

/-- The function behind a call. -/
def body (m : Context) : Function H → Contract H Unit
  | .fund => segment (Hub.fund m)
  | .receive => segment (Hub.fund m)
  | .returnExcess => Hub.returnExcess K m
  | .openSeat attester attesterSig enodePubkey enodeSig =>
    segment (discard (Hub.openSeat K m attester attesterSig enodePubkey enodeSig))
  | .setEnode seatId enodePubkey enodeSig => segment (Hub.setEnode K m seatId enodePubkey enodeSig)
  | .rotateAttester seatId newAttester sig =>
    segment (Hub.rotateAttester K m seatId newAttester sig)
  | .applyAttesterRotation seatId => segment (Hub.applyAttesterRotation m seatId)
  | .setRewardTo seatId payee => segment (Hub.setRewardTo m seatId payee)
  | .requestExit seatId => segment (Hub.requestExit m seatId)
  | .withdraw seatId payee => Hub.withdraw m seatId payee
  | .claim seatId payee => Hub.claim m seatId payee
  | .claimToAttester seatId amount => Hub.claimToAttester m seatId amount
  | .attest height blockHash sig => segment (discard (Hub.attest K m height blockHash sig))
  | .attestBatch height blockHash sigs =>
    segment (discard (Hub.attestBatch K m height blockHash sigs))
  | .jail seatId => segment (Hub.jail m seatId)
  | .unjail seatId => segment (Hub.unjail m seatId)
  | .setSigningKey seatId key pop => segment (Hub.setSigningKey K m seatId key pop)
  | .qualify seatId => segment (Hub.qualify m seatId)
  | .disqualify seatId => segment (Hub.disqualify m seatId)
  | .proveDoubleAttestation height hashA sigA hashB sigB =>
    segment (discard (Hub.proveDoubleAttestation K m height hashA sigA hashB sigB))
  | .proveDoubleSeal preimageA sigA preimageB sigB =>
    segment (discard (Hub.proveDoubleSeal K m preimageA sigA preimageB sigB))
  | .executeSlash slashId => Hub.executeSlash m slashId
  | .veto slashId => segment (Hub.veto m slashId)
  | .withdrawCredit payee => Hub.withdrawCredit m payee
  | .flushBurn => Hub.flushBurn m
  | .sync maxSteps => segment (Hub.sync m maxSteps)
  | .setSeatsPaused paused => segment (Hub.setSeatsPaused m paused)
  | .setAttestationsPaused paused => segment (Hub.setAttestationsPaused m paused)
  | .closeCommunitySeats => segment (Hub.closeCommunitySeats m)
  | .setAllowlist accounts allowed => segment (Hub.setAllowlist m accounts allowed)
  | .queueParam param value => segment (Hub.queueParam K m param value)
  | .cancelParam param value => segment (Hub.cancelParam K m param value)
  | .applyParam param value => segment (Hub.applyParam K m param value)
  | .transferOwnership newOwner => segment (Hub.transferOwnership m newOwner)
  | .acceptOwnership => segment (Hub.acceptOwnership m)

/-- **One call of the contract.** A function that takes no value refuses it. -/
def run (m : Context) (f : Function H) : Contract H Unit := do
  segment (require (m.value = 0 ∨ f.payable = true) NonPayable)
  K.body m f

/-- What the contract is deployed with, the reward sink apart. -/
structure Arguments where
  owner : Address
  /-- Seat owners refused as policy. -/
  denied : List Address
  /-- Seats at launch. -/
  maxSeats : Nat
  /-- Only allowlisted owners open seats. -/
  allowlistOnly : Bool

/-- `constructor` -/
def construct (a : Arguments) : Except Error (Store H) := do
  require (a.owner ≠ 0 ∧ K.rewardSink ≠ 0) ZeroAddress
  require (a.maxSeats ≠ 0 ∧ a.maxSeats ≤ LAUNCH_MAX_SEATS) BadParam
  let refused : Log H := a.denied.reverse.map fun account => (K.deployBlock, .DenySet account true)
  return {
    maxSeats := a.maxSeats
    checkpoints := fun _ => { blockHash := 0 }
    log := (K.deployBlock, .OwnershipTransferred 0 a.owner) :: refused
    owner := a.owner
    allowlistOnly := a.allowlistOnly
    denied := fun account => decide (account ∈ a.denied) }

end Deployment

end Ferminux.Hub
