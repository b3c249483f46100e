import Ferminux.Lib.Except
import Mathlib.Algebra.Order.Ring.Nat

/-!
# Agents.Registry

`AgentRegistry.sol`: the directory of the agents, with their bonds and the **record of outcomes**
that the escrow keeps there. Texts are byte strings. The registry's events and its own balance are
left out: nothing in the escrow reads them.
-/

namespace Ferminux.Agents

open Lib

abbrev Address := BitVec 160

abbrev Hash := BitVec 256

abbrev Text := List UInt8

instance : LawfulBEq Address := inferInstance

/-- The errors of the registry and of the escrow. -/
inductive Error where
  | NotGovernance | NotEscrow | NotOwner | UnknownAgent | ZeroAddress | InsufficientBond
  | InvalidName | StringTooLong | InvalidStatusTransition | NotRetired | CooldownActive
  | NothingToWithdraw | ZeroValue | InvalidRating | SlashExceedsBond | TransferFailed | Reentrancy
  | EscrowAlreadySet | NotClient | NotAgentOwner | AgentNotActive | CannotHireOwnAgent
  | InsufficientPayment | WrongStatus | TooEarly | TooLate | InvalidBps | FeeTooHigh
  | InvalidWindow | NonPayable | Panic
  deriving Repr, DecidableEq

open Error

/-- What a call sees of its transaction and block. -/
structure Context where
  sender : Address
  value : Nat := 0
  timestamp : Nat
  deriving Repr, DecidableEq

/-- `None` is the status of an id that was never registered. -/
inductive AgentStatus where
  | None | Active | Paused | Retired
  deriving Repr, DecidableEq

/-- An agent, with its bond and the outcomes of its jobs. -/
structure Agent where
  owner : Address := 0
  name : Text := []
  endpoint : Text := []
  metadataURI : Text := []
  pricePerJob : Nat := 0
  bond : Nat := 0
  registeredAt : Nat := 0
  retiredAt : Nat := 0
  status : AgentStatus := .None
  jobsCompleted : Nat := 0
  jobsFailed : Nat := 0
  ratingCount : Nat := 0
  ratingSum : Nat := 0
  deriving Repr, DecidableEq

/-- From retirement to the withdrawal of the bond. -/
def BOND_COOLDOWN : Nat := 7 * 86400

/-- The contract's storage. -/
structure Registry where
  minBond : Nat
  governance : Address
  /-- Set once by governance. -/
  escrow : Address := 0
  nextId : Nat := 0
  agents : Nat → Agent := fun _ => {}
  /-- 0 = unlocked, 1 = locked. -/
  lock : Nat := 0

namespace Registry

/-- A call: it reverts, or leaves a new state. -/
abbrev RegistryM := StateT Registry (Except Error)

def modifyAgent (id : Nat) (f : Agent → Agent) : RegistryM Unit :=
  modify fun r => { r with agents := Function.update r.agents id (f (r.agents id)) }

variable (m : Context)

def onlyGovernance : RegistryM Unit := do
  require (m.sender = (← get).governance) NotGovernance

/-- The agent, which must be the caller's. -/
def onlyAgentOwner (id : Nat) : RegistryM Agent := do
  let a := (← get).agents id
  require (a.status ≠ .None) UnknownAgent
  require (a.owner = m.sender) NotOwner
  return a

/-- The first half of `nonReentrant`. -/
def enter : RegistryM Unit := do
  require ((← get).lock ≠ 1) Reentrancy
  modify fun r => { r with lock := 1 }

/-- Register a new agent. The value becomes the bond. -/
def register (name endpoint metadataURI : Text) (pricePerJob : Nat) :
    RegistryM Nat := do
  let r ← get
  require (r.minBond ≤ m.value) InsufficientBond
  require (name.length ≠ 0 ∧ name.length ≤ 64) InvalidName
  require (endpoint.length ≤ 256 ∧ metadataURI.length ≤ 256) StringTooLong
  let id := r.nextId + 1
  modify fun r => { r with nextId := id }
  modifyAgent id fun a =>
    { a with
      owner := m.sender
      name
      endpoint
      metadataURI
      pricePerJob
      bond := m.value
      registeredAt := m.timestamp
      status := .Active }
  return id

/-- The owner changes what clients see of the agent. -/
def update (id : Nat) (endpoint metadataURI : Text) (pricePerJob : Nat) :
    RegistryM Unit := do
  let _ ← onlyAgentOwner m id
  require (endpoint.length ≤ 256 ∧ metadataURI.length ≤ 256) StringTooLong
  modifyAgent id fun a => { a with endpoint, metadataURI, pricePerJob }

/-- Between active and paused only; `retire` is final. -/
def setStatus (id : Nat) (s : AgentStatus) : RegistryM Unit := do
  let a ← onlyAgentOwner m id
  require (a.status = .Active ∧ s = .Paused ∨ a.status = .Paused ∧ s = .Active)
    InvalidStatusTransition
  modifyAgent id fun a => { a with status := s }

/-- Retire the agent and start the bond cooldown. -/
def retire (id : Nat) : RegistryM Unit := do
  let a ← onlyAgentOwner m id
  require (a.status = .Active ∨ a.status = .Paused) InvalidStatusTransition
  modifyAgent id fun a => { a with status := .Retired, retiredAt := m.timestamp }

/-- `withdrawBond`, up to the payment; the bond. -/
def takeBond (id : Nat) : RegistryM Nat := do
  let a ← onlyAgentOwner m id
  enter
  require (a.status = .Retired) NotRetired
  require (a.retiredAt + BOND_COOLDOWN ≤ m.timestamp) CooldownActive
  require (a.bond ≠ 0) NothingToWithdraw
  modifyAgent id fun a => { a with bond := 0 }
  return a.bond

/-- Anyone may add to a bond. -/
def topUpBond (id : Nat) : RegistryM Unit := do
  require (((← get).agents id).status ≠ .None) UnknownAgent
  require (m.value ≠ 0) ZeroValue
  modifyAgent id fun a => { a with bond := a.bond + m.value }

/-- The owner hands the agent over, with its bond. -/
def transferOwnership (id : Nat) (newOwner : Address) : RegistryM Unit := do
  let _ ← onlyAgentOwner m id
  require (newOwner ≠ 0) ZeroAddress
  modifyAgent id fun a => { a with owner := newOwner }

/-- `slash`, up to the payment. -/
def takeSlash (id amount : Nat) (dest : Address) : RegistryM Unit := do
  onlyGovernance m
  enter
  let a := (← get).agents id
  require (a.status ≠ .None) UnknownAgent
  require (dest ≠ 0) ZeroAddress
  require (amount ≤ a.bond) SlashExceedsBond
  modifyAgent id fun a => { a with bond := a.bond - amount }

/-- Agents whose bond falls short are no longer active. -/
def setMinBond (newMinBond : Nat) : RegistryM Unit := do
  onlyGovernance m
  modify fun r => { r with minBond := newMinBond }

/-- The escrow is set once. -/
def setEscrow (escrow : Address) : RegistryM Unit := do
  onlyGovernance m
  require (escrow ≠ 0) ZeroAddress
  require ((← get).escrow = 0) EscrowAlreadySet
  modify fun r => { r with escrow }

def setGovernance (newGovernance : Address) : RegistryM Unit := do
  onlyGovernance m
  require (newGovernance ≠ 0) ZeroAddress
  modify fun r => { r with governance := newGovernance }

/-- The agent behind an outcome. -/
def outcome (success : Bool) (rating : Nat) (a : Agent) : Agent :=
  { a with
    jobsCompleted := if success then a.jobsCompleted + 1 else a.jobsCompleted
    jobsFailed := if success then a.jobsFailed else a.jobsFailed + 1
    ratingCount := if rating = 0 then a.ratingCount else a.ratingCount + 1
    ratingSum := a.ratingSum + rating }

/-- The counters have 32 bits, and adding to them is checked. -/
def Fits (a : Agent) : Prop :=
  a.jobsCompleted < 2 ^ 32 ∧ a.jobsFailed < 2 ^ 32 ∧ a.ratingCount < 2 ^ 32 ∧ a.ratingSum < 2 ^ 32

instance (a : Agent) : Decidable (Fits a) := inferInstanceAs (Decidable (_ ∧ _ ∧ _ ∧ _))

/-- Record a job outcome. Escrow only. -/
def recordOutcome (id : Nat) (success : Bool) (rating : Nat) : RegistryM Unit := do
  let r ← get
  require (m.sender = r.escrow ∧ r.escrow ≠ 0) NotEscrow
  require ((r.agents id).status ≠ .None) UnknownAgent
  require (rating ≤ 5) InvalidRating
  require (Fits (outcome success rating (r.agents id))) Panic
  modifyAgent id (outcome success rating)

/-- What the escrow requires of an agent that is hired. -/
def isActive (r : Registry) (id : Nat) : Prop :=
  (r.agents id).status = .Active ∧ r.minBond ≤ (r.agents id).bond

instance (r : Registry) (id : Nat) : Decidable (isActive r id) := inferInstanceAs (Decidable (_ ∧ _))

/-- How many jobs of the agent were recorded. -/
def outcomes (r : Registry) (id : Nat) : Nat := (r.agents id).jobsCompleted + (r.agents id).jobsFailed

end Registry

end Ferminux.Agents
