import Ferminux.Agents.Registry
import Ferminux.Lib.Prog

/-!
# Agents.ServiceEscrow

`ServiceEscrow.sol`: **pay-per-job escrow** between clients and registered agents. A client locks
FMX for a job; the agent delivers; the client releases or disputes; governance resolves disputes.
What is paid goes to `credits`, and `withdraw` is the only function that moves FMX out.

The escrow and the registry it names share one store here: the calls between them make no call of
their own. Code that is not theirs runs when one of them pays. Amounts are unbounded; additions
that would overflow a word revert in the source, and are taken here.
-/

namespace Ferminux.Agents

open Lib Function Error

/-- Where a job stands; `None` is the status of an id that was never used. -/
inductive JobStatus where
  | None | Open | Delivered | Completed | Refunded | Disputed | Resolved
  deriving Repr, DecidableEq

/-- A job, and what the escrow holds for it. -/
structure Job where
  agentId : Nat := 0
  client : Address := 0
  amount : Nat := 0
  inputHash : Hash := 0
  outputHash : Hash := 0
  inputURI : Text := []
  outputURI : Text := []
  createdAt : Nat := 0
  deliveredAt : Nat := 0
  status : JobStatus := .None
  deriving Repr, DecidableEq

def MAX_FEE_BPS : Nat := 1000
def BPS : Nat := 10000

/-- The events of the escrow. -/
inductive Event where
  | JobRequested (jobId agentId : Nat) (client : Address) (amount : Nat) (inputHash : Hash)
      (inputURI : Text)
  | JobDelivered (jobId : Nat) (outputHash : Hash) (outputURI : Text)
  | JobCompleted (jobId agentPayout fee rating : Nat)
  | JobRefunded (jobId amount : Nat) (byAgent : Bool)
  | JobDisputed (jobId : Nat)
  | JobResolved (jobId clientAmount agentPayout fee : Nat)
  | Withdrawn (dest : Address) (amount : Nat)
  | FeeChanged (feeBps : Nat)
  | WindowsChanged (deliveryWindow reviewWindow : Nat)
  | FeeRecipientChanged (feeRecipient : Address)
  | GovernanceChanged (previous current : Address)
  deriving Repr, DecidableEq

/-- The storage of the escrow, and of the registry it names. -/
structure Store where
  registry : Registry
  governance : Address
  feeRecipient : Address
  feeBps : Nat := 250
  /-- The agent must deliver within it, else the client may refund. -/
  deliveryWindow : Nat := 86400
  /-- The client may dispute within it, else the agent may claim. -/
  reviewWindow : Nat := 86400
  /-- Pull payments. -/
  credits : Address → Nat := fun _ => 0
  nextJobId : Nat := 0
  jobs : Nat → Job := fun _ => {}
  lock : Nat := 0
  /-- The escrow's events, newest first. -/
  log : List Event := []

/-- A part of a call that pays nobody. -/
abbrev EscrowM := StateT Store (Except Error)

/-- A call of the registry, whose revert is passed on. -/
def onRegistry {α : Type} (x : Registry.RegistryM α) : EscrowM α := fun s =>
  match x s.registry with
  | .ok (a, r) => .ok (a, { s with registry := r })
  | .error e => .error e

def emit (e : Event) : EscrowM Unit := modify fun s => { s with log := e :: s.log }

def modifyJob (jobId : Nat) (f : Job → Job) : EscrowM Unit :=
  modify fun s => { s with jobs := update s.jobs jobId (f (s.jobs jobId)) }

/-- What the account may withdraw grows. -/
def credit (account : Address) (amount : Nat) : EscrowM Unit :=
  modify fun s => { s with credits := update s.credits account (s.credits account + amount) }

/-- No entry is made for nothing. -/
def creditIf (account : Address) (amount : Nat) : EscrowM Unit :=
  if amount ≠ 0 then credit account amount else pure ()

def onlyGovernance (m : Context) : EscrowM Unit := do
  require (m.sender = (← get).governance) NotGovernance

/-- The owner is the one the registry has now. -/
def requireAgentOwner (m : Context) (agentId : Nat) : EscrowM Unit := do
  require (((← get).registry.agents agentId).owner = m.sender) NotAgentOwner

/-- The job, which must have this status. -/
def jobIn (jobId : Nat) (status : JobStatus) : EscrowM Job := do
  let j := (← get).jobs jobId
  require (j.status = status) WrongStatus
  return j

section

variable (this : Address) (m : Context)

/-- Tells the registry how a job ended. -/
def recordOutcome (agentId : Nat) (success : Bool) (rating : Nat) : EscrowM Unit :=
  onRegistry (Registry.recordOutcome ⟨this, 0, m.timestamp⟩ agentId success rating)

/-! ### The life of a job -/

/-- Open a job on an agent, locking the value. -/
def requestJob (agentId : Nat) (inputHash : Hash) (inputURI : Text) :
    EscrowM Nat := do
  let s ← get
  require (s.registry.isActive agentId) AgentNotActive
  let a := s.registry.agents agentId
  require (m.sender ≠ a.owner) CannotHireOwnAgent
  require (a.pricePerJob ≤ m.value) InsufficientPayment
  require (inputURI.length ≤ 256) StringTooLong
  let jobId := s.nextJobId + 1
  modify fun s => { s with nextJobId := jobId }
  modifyJob jobId fun j =>
    { j with
      agentId
      client := m.sender
      amount := m.value
      inputHash
      inputURI
      createdAt := m.timestamp
      status := .Open }
  emit (.JobRequested jobId agentId m.sender m.value inputHash inputURI)
  return jobId

/-- The agent's owner hands in the result of an open job. -/
def deliver (jobId : Nat) (outputHash : Hash) (outputURI : Text) :
    EscrowM Unit := do
  let j ← jobIn jobId .Open
  requireAgentOwner m j.agentId
  require (outputURI.length ≤ 256) StringTooLong
  modifyJob jobId fun j =>
    { j with outputHash, outputURI, deliveredAt := m.timestamp, status := .Delivered }
  emit (.JobDelivered jobId outputHash outputURI)

/-- `_complete`, shared by `release` and `claim`. -/
def complete (jobId : Nat) (rating : Nat) : EscrowM Unit := do
  let s ← get
  let j := s.jobs jobId
  let fee := j.amount * s.feeBps / BPS
  let agentPayout := j.amount - fee
  let agentOwner := (s.registry.agents j.agentId).owner
  modifyJob jobId fun j => { j with status := .Completed }
  credit agentOwner agentPayout
  creditIf s.feeRecipient fee
  emit (.JobCompleted jobId agentPayout fee rating)
  recordOutcome this m j.agentId true rating

/-- `_refund`, shared by `refund` and `cancel`. -/
def refundTo (jobId : Nat) (byAgent : Bool) : EscrowM Unit := do
  let j := (← get).jobs jobId
  modifyJob jobId fun j => { j with status := .Refunded }
  credit j.client j.amount
  emit (.JobRefunded jobId j.amount byAgent)
  recordOutcome this m j.agentId false 0

/-- The client accepts the delivery. -/
def release (jobId rating : Nat) : EscrowM Unit := do
  let j ← jobIn jobId .Delivered
  require (m.sender = j.client) NotClient
  require (rating ≤ 5) InvalidRating
  complete this m jobId rating

/-- The agent claims payment after the review window. -/
def claim (jobId : Nat) : EscrowM Unit := do
  let j ← jobIn jobId .Delivered
  requireAgentOwner m j.agentId
  require (j.deliveredAt + (← get).reviewWindow ≤ m.timestamp) TooEarly
  complete this m jobId 0

/-- The client takes the amount back when the agent failed to deliver in time. -/
def refund (jobId : Nat) : EscrowM Unit := do
  let j ← jobIn jobId .Open
  require (m.sender = j.client) NotClient
  require (j.createdAt + (← get).deliveryWindow ≤ m.timestamp) TooEarly
  refundTo this m jobId false

/-- The agent declines an open job. -/
def cancel (jobId : Nat) : EscrowM Unit := do
  let j ← jobIn jobId .Open
  requireAgentOwner m j.agentId
  refundTo this m jobId true

/-- The client disputes a delivery within the review window. -/
def dispute (jobId : Nat) : EscrowM Unit := do
  let j ← jobIn jobId .Delivered
  require (m.sender = j.client) NotClient
  require (m.timestamp < j.deliveredAt + (← get).reviewWindow) TooLate
  modifyJob jobId fun j => { j with status := .Disputed }
  emit (.JobDisputed jobId)

/-- Governance divides a disputed amount; the fee is taken of the agent's share. -/
def resolve (jobId clientBps : Nat) : EscrowM Unit := do
  onlyGovernance m
  let j ← jobIn jobId .Disputed
  require (clientBps ≤ BPS) InvalidBps
  let s ← get
  let clientShare := j.amount * clientBps / BPS
  let agentGross := j.amount - clientShare
  let fee := agentGross * s.feeBps / BPS
  let agentPayout := agentGross - fee
  let agentOwner := (s.registry.agents j.agentId).owner
  modifyJob jobId fun j => { j with status := .Resolved }
  creditIf j.client clientShare
  creditIf agentOwner agentPayout
  creditIf s.feeRecipient fee
  emit (.JobResolved jobId clientShare agentPayout fee)
  recordOutcome this m j.agentId (decide (clientBps < 5000)) 0

end

/-- `withdraw`, up to the payment; the amount. -/
def takeCredits (m : Context) : EscrowM Nat := do
  require ((← get).lock ≠ 1) Reentrancy
  modify fun s => { s with lock := 1 }
  let amount := (← get).credits m.sender
  require (amount ≠ 0) NothingToWithdraw
  modify fun s => { s with credits := update s.credits m.sender 0 }
  emit (.Withdrawn m.sender amount)
  return amount

/-! ### Governance -/

/-- Of later payouts; at most `MAX_FEE_BPS`. -/
def setFee (m : Context) (bps : Nat) : EscrowM Unit := do
  onlyGovernance m
  require (bps ≤ MAX_FEE_BPS) FeeTooHigh
  modify fun s => { s with feeBps := bps }
  emit (.FeeChanged bps)

/-- Until when a job must be delivered, and then reviewed. -/
def setWindows (m : Context) (delivery review : Nat) : EscrowM Unit := do
  onlyGovernance m
  require (delivery ≠ 0 ∧ review ≠ 0) InvalidWindow
  modify fun s => { s with deliveryWindow := delivery, reviewWindow := review }
  emit (.WindowsChanged delivery review)

def setFeeRecipient (m : Context) (recipient : Address) : EscrowM Unit := do
  onlyGovernance m
  require (recipient ≠ 0) ZeroAddress
  modify fun s => { s with feeRecipient := recipient }
  emit (.FeeRecipientChanged recipient)

def setGovernance (m : Context) (newGovernance : Address) : EscrowM Unit := do
  onlyGovernance m
  require (newGovernance ≠ 0) ZeroAddress
  emit (.GovernanceChanged (← get).governance newGovernance)
  modify fun s => { s with governance := newGovernance }

/-- The constructor, with the registry as it is then. -/
def construct (registry : Registry) (registryAddress governance feeRecipient : Address) :
    Except Error Store := do
  require (registryAddress ≠ 0 ∧ governance ≠ 0 ∧ feeRecipient ≠ 0) ZeroAddress
  return {
    registry
    governance
    feeRecipient
    log := [.FeeRecipientChanged feeRecipient, .GovernanceChanged 0 governance] }

/-! ### Programs -/

/-- A payment: by the escrow, or by the registry. -/
inductive Call where
  | pay (dest : Address) (amount : Nat)
  | payBond (dest : Address) (amount : Nat)

/-- Whether the payment went through. -/
abbrev Answer : Call → Type := fun _ => Bool

/-- A call, with the payments in it. -/
abbrev Contract := Prog Store Answer

/-- What a call does between two payments. -/
def segment {α : Type} (x : EscrowM α) : Contract α := fun s =>
  match x s with
  | .ok (a, s') => .done a s'
  | .error e => .revert (reprStr e)

/-- A payment that has to succeed. -/
def mustPay (c : Call) : Contract Unit := do
  let ok ← (Prog.call c : Contract Bool)
  segment (require (ok = true) TransferFailed)

/-- Pays the caller's credits; the entry is cleared first. -/
def withdraw (m : Context) : Contract Unit := do
  let amount ← segment (takeCredits m)
  mustPay (.pay m.sender amount)
  segment (modify fun s => { s with lock := 0 })

/-- Pays the bond of a retired agent; it is cleared first. -/
def withdrawBond (m : Context) (id : Nat) : Contract Unit := do
  let amount ← segment (onRegistry (Registry.takeBond m id))
  mustPay (.payBond m.sender amount)
  segment (onRegistry (modify fun r => { r with lock := 0 }))

/-- Pays a part of an agent's bond to `dest`. -/
def slash (m : Context) (id amount : Nat) (dest : Address) : Contract Unit := do
  segment (onRegistry (Registry.takeSlash m id amount dest))
  mustPay (.payBond dest amount)
  segment (onRegistry (modify fun r => { r with lock := 0 }))

/-- The external functions of the escrow and of the registry. -/
inductive Method where
  | requestJob (agentId : Nat) (inputHash : Hash) (inputURI : Text)
  | deliver (jobId : Nat) (outputHash : Hash) (outputURI : Text)
  | release (jobId rating : Nat)
  | claim (jobId : Nat)
  | refund (jobId : Nat)
  | cancel (jobId : Nat)
  | dispute (jobId : Nat)
  | resolve (jobId clientBps : Nat)
  | withdraw
  | setFee (bps : Nat)
  | setWindows (delivery review : Nat)
  | setFeeRecipient (recipient : Address)
  | setGovernance (newGovernance : Address)
  | register (name endpoint metadataURI : Text) (pricePerJob : Nat)
  | update (id : Nat) (endpoint metadataURI : Text) (pricePerJob : Nat)
  | setStatus (id : Nat) (status : AgentStatus)
  | retire (id : Nat)
  | withdrawBond (id : Nat)
  | topUpBond (id : Nat)
  | transferOwnership (id : Nat) (newOwner : Address)
  | slash (id amount : Nat) (dest : Address)
  | setMinBond (newMinBond : Nat)
  | setEscrow (escrow : Address)
  | setRegistryGovernance (newGovernance : Address)
  | recordOutcome (id : Nat) (success : Bool) (rating : Nat)

/-- The value of the call goes to the escrow. -/
def Method.paysEscrow : Method → Bool
  | .requestJob _ _ _ => true
  | _ => false

/-- The methods that accept value. -/
def Method.payable : Method → Bool
  | .requestJob _ _ _ | .register _ _ _ _ | .topUpBond _ => true
  | _ => false

/-- The method behind a call. -/
def body (this : Address) (m : Context) : Method → Contract Unit
  | .requestJob agentId inputHash inputURI =>
    segment (discard (Agents.requestJob m agentId inputHash inputURI))
  | .deliver jobId outputHash outputURI => segment (Agents.deliver m jobId outputHash outputURI)
  | .release jobId rating => segment (Agents.release this m jobId rating)
  | .claim jobId => segment (Agents.claim this m jobId)
  | .refund jobId => segment (Agents.refund this m jobId)
  | .cancel jobId => segment (Agents.cancel this m jobId)
  | .dispute jobId => segment (Agents.dispute m jobId)
  | .resolve jobId clientBps => segment (Agents.resolve this m jobId clientBps)
  | .withdraw => Agents.withdraw m
  | .setFee bps => segment (Agents.setFee m bps)
  | .setWindows delivery review => segment (Agents.setWindows m delivery review)
  | .setFeeRecipient recipient => segment (Agents.setFeeRecipient m recipient)
  | .setGovernance newGovernance => segment (Agents.setGovernance m newGovernance)
  | .register name endpoint metadataURI pricePerJob =>
    segment (onRegistry (discard (Registry.register m name endpoint metadataURI pricePerJob)))
  | .update id endpoint metadataURI pricePerJob =>
    segment (onRegistry (Registry.update m id endpoint metadataURI pricePerJob))
  | .setStatus id status => segment (onRegistry (Registry.setStatus m id status))
  | .retire id => segment (onRegistry (Registry.retire m id))
  | .withdrawBond id => Agents.withdrawBond m id
  | .topUpBond id => segment (onRegistry (Registry.topUpBond m id))
  | .transferOwnership id newOwner =>
    segment (onRegistry (Registry.transferOwnership m id newOwner))
  | .slash id amount dest => Agents.slash m id amount dest
  | .setMinBond newMinBond => segment (onRegistry (Registry.setMinBond m newMinBond))
  | .setEscrow escrow => segment (onRegistry (Registry.setEscrow m escrow))
  | .setRegistryGovernance newGovernance =>
    segment (onRegistry (Registry.setGovernance m newGovernance))
  | .recordOutcome id success rating =>
    segment (onRegistry (Registry.recordOutcome m id success rating))

/-- A call: value is only accepted where the method is payable. -/
def run (this : Address) (m : Context) (f : Method) : Contract Unit := do
  segment (require (m.value = 0 ∨ f.payable = true) NonPayable)
  body this m f

end Ferminux.Agents
