import Ferminux.Hub.Ring
import Ferminux.Lib.Except

/-!
# Hub.Types

The data of `ValidatorHub.sol`: seats, keys, checkpoints, slashes and running totals, the
events and errors, and the digests that keys sign.

Block numbers, checkpoint indices, counters and amounts of FMX are natural numbers. The
source stores them in 32 to 96 bits, and adds in 256 bits; no chain of 7-second blocks and no
supply of FMX comes near those ranges. A subtraction can underflow, and reverts
(`Error.Panic`). A cast that a caller can bring to truncate is an explicit `%`.

Digests (`bytes32`) are an abstract type `H` with a zero, and `keccak256` is a function on what
is encoded.
-/

namespace Ferminux.Hub

open Lib

abbrev Address := BitVec 160

instance : LawfulBEq Address := inferInstance

abbrev Bytes := List UInt8

/-! ### Constants -/

/-- The bond of a seat; the periods that follow are in blocks. -/
def SEAT_DEPOSIT : Nat := 2000 * 10 ^ 18
def BLOCKS_PER_DAY : Nat := 12343
def ACTIVATION_DELAY : Nat := 12343
def ELIGIBILITY_DELAY : Nat := 86400
def UNBONDING_PERIOD : Nat := 172800
def UNJAIL_DELAY : Nat := 12343
def ROTATE_DELAY : Nat := 12343
def TIMELOCK : Nat := 24686
def SLASH_WINDOW : Nat := 24686
def VETO_SUNSET_PERIOD : Nat := 2221715
def LAUNCH_PERIOD : Nat := 370286
def QUALIFY_ACTIVE_PERIOD : Nat := 370286
def RESERVE_CHECKPOINTS : Nat := 11109

/-- Every 200th block is a checkpoint; the windows that follow count checkpoints or blocks. -/
def CHECKPOINT_INTERVAL : Nat := 200
def INCLUSION_DELAY : Nat := 64
def INCLUSION_END : Nat := 250
def MIN_CERT_ATTESTATIONS : Nat := 20
def MIN_ELIGIBLE_FOR_CERT : Nat := 30
def JAIL_WINDOW : Nat := 124
def JAIL_BPS : Nat := 5000
def QUALIFY_WINDOW : Nat := 432
def QUALIFY_BPS : Nat := 9000
def MAX_PARTICIPATION_WINDOW : Nat := 511

def LAUNCH_MAX_SEATS : Nat := 100
def HARD_MAX_SEATS : Nat := 1000
def DEFAULT_ACTIVATIONS_PER_DAY : Nat := 10
def MAX_ACTIVATIONS_PER_DAY : Nat := 50
def INITIAL_REWARD_PER_ATTEST : Nat := 25 * 10 ^ 15
def MAX_REWARD_PER_ATTEST : Nat := 50 * 10 ^ 15
def BUDGET_PER_CHECKPOINT : Nat := 75 * 10 ^ 17
def HALVING_BLOCK : Nat := 4500000

def SLASH_BPS : Nat := 1000
def REPORTER_BPS : Nat := 1000
def BPS : Nat := 10000
def BURN_ADDRESS : Address := 0xdEaD

def MAX_SIGNING_CANDIDATES : Nat := 1000
def OPEN_SEATS_EPOCH : Nat := 30000

def HALF_CURVE_ORDER : Nat := 0x7FFFFFFFFFFFFFFFFFFFFFFFFFFFFFFF5D576E7357A4501DDFE92F46681B20A0

/-! ### Seats, keys, checkpoints, slashes -/

/-- The status of a seat. -/
inductive Status where
  | NONE
  | BONDED
  | EXITING
  | WITHDRAWN
  deriving Repr, DecidableEq

/-- The slash of a seat, and the status of a slash record. -/
inductive SlashStatus where
  | SLASH_NONE
  | SLASH_PENDING
  | SLASH_EXECUTED
  | SLASH_VETOED
  deriving Repr, DecidableEq

/-- What a key does for its seat. -/
inductive Role where
  /-- The zero of a key that was never registered. -/
  | NONE
  | ROLE_ATTESTER
  | ROLE_SIGNING
  deriving Repr, DecidableEq

/-- The two offences. -/
inductive Kind where
  | KIND_DOUBLE_ATTESTATION
  | KIND_DOUBLE_SEAL
  deriving Repr, DecidableEq

/-- What became of one attestation. -/
inductive Code where
  | OK
  | R_BAD_SIGNATURE
  | R_UNKNOWN_KEY
  | R_NOT_ACTIVE
  | R_DUPLICATE
  deriving Repr, DecidableEq

/-- The parameters under the timelock. -/
inductive Param where
  | P_MAX_SEATS
  | P_REWARD_PER_ATTEST
  | P_ACTIVATIONS_PER_DAY
  | P_OPEN_SEATS_BLOCK
  | P_OPEN_COMMUNITY_SEATS
  | P_DENY
  | P_ALLOW
  | P_OPEN_TO_ALL
  /-- Any other byte, which names no parameter. -/
  | unknown (code : Nat)
  deriving Repr, DecidableEq

/-- A seat, which is never removed. -/
structure Seat where
  /-- Allocated, unclaimed rewards. -/
  claimable : Nat := 0
  /-- Checkpoint index of the last accepted attestation; 0 = none. -/
  lastAttestedCp : Nat := 0
  /-- Participation is measured from this checkpoint index. -/
  dutyStartCp : Nat := 0
  /-- Attestations are accepted from this block. -/
  activationBlock : Nat := 0
  /-- Block the seat entered the eligible count; 0 = not counted. -/
  countedSince : Nat := 0
  status : Status := .NONE
  jailed : Bool := false
  /-- The only account that can claim, exit, withdraw or change keys. -/
  owner : Address := 0
  unjailBlock : Nat := 0
  unbondEndBlock : Nat := 0
  slashState : SlashStatus := .SLASH_NONE
  /-- The signing key is in the candidate list. -/
  qualified : Bool := false
  attester : Address := 0
  /-- FMX still bonded for this seat. -/
  deposit : Nat := 0
  pendingAttester : Address := 0
  attesterRotateBlock : Nat := 0
  signingKey : Address := 0
  rewardTo : Address := 0
  deriving Repr, DecidableEq

/-- What is known of a key. -/
structure KeyInfo where
  /-- 0 = never registered. A key is bound to one seat for ever and never reused. -/
  seatId : Nat := 0
  role : Role := .NONE
  /-- Current attester (or current signing key) of a bonded seat. -/
  active : Bool := false
  deriving Repr, DecidableEq

/-- The votes on a checkpoint. -/
structure Checkpoint (H : Type) where
  blockHash : H
  /-- Attestations by seats that were eligible at the snapshot. -/
  count : Nat := 0
  /-- Eligible seats, snapshotted at the first accepted attestation. -/
  eligible : Nat := 0
  total : Nat := 0
  snapshotBlock : Nat := 0
  certified : Bool := false
  deriving Repr, DecidableEq

/-- A reported offence. -/
structure Slash where
  seatId : Nat := 0
  kind : Kind := .KIND_DOUBLE_ATTESTATION
  status : SlashStatus := .SLASH_NONE
  executableBlock : Nat := 0
  vetoSunsetBlock : Nat := 0
  amount : Nat := 0
  reporter : Address := 0
  height : Nat := 0
  deriving Repr, DecidableEq

/-- The running totals of the hub. -/
structure Accounting where
  totalDeposited : Nat := 0
  totalWithdrawn : Nat := 0
  totalSlashed : Nat := 0
  totalBurned : Nat := 0
  /-- Burn share whose transfer to the burn address failed. -/
  pendingBurn : Nat := 0
  /-- Reporter credits not yet withdrawn. -/
  totalCredits : Nat := 0
  totalFunded : Nat := 0
  totalAllocated : Nat := 0
  totalClaimable : Nat := 0
  totalClaimed : Nat := 0
  totalReturned : Nat := 0
  deriving Repr, DecidableEq

/-! ### Errors and events -/

/-- How a call of the hub reverts. -/
inductive Error where
  | NotOwner | NotSeatOwner | ZeroAddress | Reentrancy | WrongDeposit | Denied | NotAllowlisted
  | SeatsFull | Paused | BadKey | KeyUsed | BadPossession | BadEnode | BadStatus | TooEarly
  | NotCheckpoint | OutsideWindow | WrongBlockHash | BadSignatureBlob
  | AttestationRejected (code : Code)
  | NotJailable | NotQualifiable | NotDisqualifiable | BadEvidence | EvidenceUsed
  | SlashNotPending | VetoClosed | NothingToPay | TransferFailed | BadParam | NotQueued
  | AlreadyQueued | BadWindow
  /-- Of the library that reads headers. -/
  | BadHeader
  /-- Of the contract that checks header evidence. -/
  | NotADoubleSeal
  /-- An arithmetic underflow, or an index out of bounds. -/
  | Panic
  /-- Value was sent to a function that takes none. -/
  | NonPayable
  deriving Repr, DecidableEq

/-- The events of the hub. -/
inductive Event (H : Type) where
  | SeatOpened (seatId : Nat) (owner attester : Address) (activationBlock eligibleBlock : Nat)
  | EnodeSet (seatId : Nat) (nodeAddress : Address) (pubkey : Bytes)
  | SeatEligible (seatId eligibleCount : Nat)
  | AttesterRotationQueued (seatId : Nat) (newAttester : Address) (effectiveBlock : Nat)
  | AttesterRotated (seatId : Nat) (oldAttester newAttester : Address)
  | RewardToSet (seatId : Nat) (rewardTo : Address)
  | SigningKeySet (seatId : Nat) (signingKey : Address)
  | Qualified (seatId : Nat) (signingKey : Address)
  | Disqualified (seatId : Nat) (signingKey : Address)
  | ExitRequested (seatId unbondEndBlock : Nat)
  | Withdrawn (seatId : Nat) (payee : Address) (amount : Nat)
  | Claimed (seatId : Nat) (payee : Address) (amount : Nat)
  | Funded (sender : Address) (amount : Nat)
  | CheckpointOpened (height : Nat) (blockHash : H) (eligible : Nat)
  | Attested (seatId height reward : Nat)
  | CheckpointCertified (height : Nat) (blockHash : H) (count eligible : Nat)
  | Jailed (seatId attested window unjailBlock : Nat)
  | Unjailed (seatId dutyStartCheckpoint : Nat)
  | SlashProposed (slashId seatId : Nat) (kind : Kind) (height : Nat) (reporter : Address)
      (amount executableBlock : Nat)
  | SlashVetoed (slashId seatId : Nat)
  | SlashExecuted (slashId seatId amount toReporter burned : Nat)
  | CreditWithdrawn (account payee : Address) (amount : Nat)
  | BurnFlushed (amount : Nat)
  | ExcessReturned (sink : Address) (amount : Nat)
  | ParamQueued (param : Param) (value eta : Nat)
  | ParamCancelled (param : Param) (value : Nat)
  | ParamApplied (param : Param) (value : Nat)
  | SeatsPausedSet (paused : Bool)
  | AttestationsPausedSet (paused : Bool) (dutyStartCheckpoint : Nat)
  | CommunitySeatsSet (isOpen : Bool)
  | DenySet (account : Address) (denied : Bool)
  | AllowlistSet (account : Address) (allowed : Bool)
  | OpenedToAll
  | OwnershipTransferStarted (previousOwner newOwner : Address)
  | OwnershipTransferred (previousOwner newOwner : Address)
  deriving Repr, DecidableEq

/-- The events, newest first, each with the block it was emitted in. -/
abbrev Log (H : Type) := List (Nat × Event H)

/-! ### Digests and signatures -/

/-- What the hub hashes. Packed encodings start with a tag of their own and have fixed widths. -/
inductive Preimage (H : Type) where
  | text (s : String)
  | domain (typehash name version : H) (chainId : Nat) (verifyingContract : Address)
  /-- `0x1901`, the domain separator and the struct hash. -/
  | typed (domain structHash : H)
  | attestation (typehash : H) (height : Nat) (blockHash : H)
  | attesterKey (typehash : H) (owner attester : Address)
  /-- What the node key signs. -/
  | enode (chainId : Nat) (hub owner attester : Address)
  /-- What the signing key signs. -/
  | signingKey (chainId : Nat) (hub : Address) (seatId : Nat) (key owner : Address)
  | evidence (kind : Kind) (seatId height : Nat)
  | param (param : Param) (value : Nat)
  | bytes (b : Bytes)
  deriving Repr, DecidableEq

/-- One deployment of the contract: its address, its immutables, the primitives of the machine
it runs on, and the chain. -/
structure Deployment (H : Type) where
  this : Address
  deployBlock : Nat
  /-- Where `returnExcess` sends unallocated FMX. -/
  rewardSink : Address
  cachedChainId : Nat
  keccak256 : Preimage H → H
  /-- `address(uint160(uint256(h)))`. -/
  toAddress : H → Address
  /-- The precompile; `0` when no key matches. -/
  ecrecover : H → Nat → Nat → Nat → Address
  blockHash : Nat → H

/-- What a call is made with: the sender, the value, and the block it is in. -/
structure Context where
  sender : Address
  value : Nat := 0
  number : Nat
  chainid : Nat
  deriving Repr, DecidableEq

def ofBigEndian (b : Bytes) : Nat := b.foldl (fun v byte => v * 256 + byte.toNat) 0

namespace Deployment

variable {H : Type} (K : Deployment H)

/-- Veto of a double-attestation slash is impossible from this block. -/
def vetoSunsetBlock : Nat := K.deployBlock + VETO_SUNSET_PERIOD

/-- The `BLOCKHASH` instruction reaches 256 blocks back. -/
def blockhash [Zero H] (m : Context) (height : Nat) : H :=
  if height < m.number ∧ m.number ≤ height + 256 then K.blockHash height else 0

/-- The separator of EIP-712. -/
def buildDomain (chainid : Nat) : H :=
  K.keccak256 (.domain (K.keccak256 (.text
      "EIP712Domain(string name,string version,uint256 chainId,address verifyingContract)"))
    (K.keccak256 (.text "Ferminux Validator Hub")) (K.keccak256 (.text "1")) chainid K.this)

def domainSeparator (chainid : Nat) : H :=
  if chainid = K.cachedChainId then K.buildDomain K.cachedChainId else K.buildDomain chainid

/-- What an attester signs for a checkpoint. -/
def attestationDigest (chainid height : Nat) (blockHash : H) : H :=
  K.keccak256 (.typed (K.domainSeparator chainid) (K.keccak256 (.attestation
      (K.keccak256 (.text "Attestation(uint64 height,bytes32 blockHash)")) height blockHash)))

/-- What an attester key signs to be bound to a seat. -/
def attesterKeyDigest (chainid : Nat) (seatOwner attester : Address) : H :=
  K.keccak256 (.typed (K.domainSeparator chainid) (K.keccak256 (.attesterKey
      (K.keccak256 (.text "AttesterKey(address owner,address attester)")) seatOwner attester)))

/-- What a node key signs to be bound to a seat. -/
def enodeDigest (chainid : Nat) (seatOwner attester : Address) : H :=
  K.keccak256 (.enode chainid K.this seatOwner attester)

/-- What a signing key signs to be bound to a seat. -/
def signingKeyDigest (chainid seatId : Nat) (key seatOwner : Address) : H :=
  K.keccak256 (.signingKey chainid K.this seatId key seatOwner)

/-- `Sig.recover`: the signer, or `0` when the signature is malformed. -/
def recover (digest : H) (sig : Bytes) : Address :=
  if sig.length ≠ 65 then 0
  else
    let r := ofBigEndian (sig.take 32)
    let s := ofBigEndian ((sig.drop 32).take 32)
    let v := (sig.getD 64 0).toNat
    if HALF_CURVE_ORDER < s then 0
    else
      let v := if v < 27 then v + 27 else v
      if v ≠ 27 ∧ v ≠ 28 then 0 else K.ecrecover digest v r s

end Deployment

/-! ### Symbolic digests -/

/-- Digests for which hashing is injective: a hash is the term that was hashed. -/
inductive Digest where
  | zero
  | text (s : String)
  | domain (typehash name version : Digest) (chainId : Nat) (verifyingContract : Address)
  | typed (domain structHash : Digest)
  | attestation (typehash : Digest) (height : Nat) (blockHash : Digest)
  | attesterKey (typehash : Digest) (owner attester : Address)
  | enode (chainId : Nat) (hub owner attester : Address)
  | signingKey (chainId : Nat) (hub : Address) (seatId : Nat) (key owner : Address)
  | evidence (kind : Kind) (seatId height : Nat)
  | param (param : Param) (value : Nat)
  | bytes (b : Bytes)
  | block (number : Nat)
  deriving Repr, DecidableEq

namespace Digest

instance : Zero Digest := ⟨zero⟩

def keccak256 : Preimage Digest → Digest
  | .text s => text s
  | .domain typehash name version chainId hub => domain typehash name version chainId hub
  | .typed separator structHash => typed separator structHash
  | .attestation typehash height blockHash => attestation typehash height blockHash
  | .attesterKey typehash owner attester => attesterKey typehash owner attester
  | .enode chainId hub owner attester => enode chainId hub owner attester
  | .signingKey chainId hub seatId key owner => signingKey chainId hub seatId key owner
  | .evidence kind seatId height => evidence kind seatId height
  | .param p value => param p value
  | .bytes b => bytes b

end Digest

end Ferminux.Hub
