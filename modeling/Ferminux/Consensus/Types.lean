import Ferminux.Lib.Bytes

/-!
# Consensus.Types

The data the consensus engines work on: addresses, hashes, block headers, the
chain configuration, the header reader, and the errors the engines return.

Three modelling choices hold throughout.

* Block numbers, times and gas are naturals. `Number` and `Difficulty` are
  `*big.Int` in the source; a header decoded from the wire carries both, so the
  `nil` checks on them have no counterpart. The one subtraction on block numbers
  that can wrap (`number-limit` in `verifySeal`) is written with `subUint64`.
* What lies outside the repository's own logic (Keccak, RLP, secp256k1) is the
  parameter `Crypto`. Results that need something of it say so in a hypothesis.
* A Go runtime panic is an error like any other (`Err.divideByZero`,
  `Err.nilPointer`), so that "it
  does not panic" is a statement about the returned value.
-/

namespace Ferminux

open Lib

/-- `common.Address`, `[20]byte`. -/
abbrev Address := FixedBytes 20

instance : LawfulBEq Address := inferInstance

/-- `common.Hash`, `[32]byte`. -/
abbrev Hash := FixedBytes 32

/-- `types.BlockNonce`, `[8]byte`. -/
abbrev BlockNonce := FixedBytes 8

/-- `common.Address{}`. -/
def zeroAddress : Address := FixedBytes.zero 20

/-- `common.Hash{}`. -/
def zeroHash : Hash := FixedBytes.zero 32

/-- `crypto.SignatureLength`: 64 bytes of `r`, `s` and one of recovery id. -/
def signatureLength : Nat := 65

/-- `a - b` on `uint64` operands: it wraps around below zero. -/
def subUint64 (a b : Nat) : Nat := if b ≤ a then a - b else a + 2 ^ 64 - b

lemma subUint64_of_le {a b : Nat} (h : b ≤ a) : subUint64 a b = a - b := if_pos h

/-- `types.Header` -/
structure Header where
  parentHash : Hash
  uncleHash : Hash
  coinbase : Address
  root : Hash
  txHash : Hash
  receiptHash : Hash
  bloom : FixedBytes 256
  difficulty : Nat
  number : Nat
  gasLimit : Nat
  gasUsed : Nat
  time : Nat
  extra : List UInt8
  mixDigest : Hash
  nonce : BlockNonce
  /-- `nil` before the London fork. -/
  baseFee : Option Nat
  deriving DecidableEq

/-- The hash functions and signature recovery the engines call. -/
structure Crypto where
  /-- `crypto.Keccak256`. -/
  keccak256 : List UInt8 → Hash
  headerHash : Header → Hash
  /-- The RLP encoding of a header, as `encodeSigHeader` feeds it to the hasher. -/
  rlpHeader : Header → List UInt8
  /-- `crypto.Ecrecover` (and `crypto.SigToPub`) on a digest and a 65-byte
  signature, followed by the address of the recovered key. -/
  ecrecover : Hash → List UInt8 → Option Address

/-- `types.CalcUncleHash(nil)`, the Keccak hash of the RLP empty list. -/
def Crypto.emptyUncleHash (K : Crypto) : Hash := K.keccak256 [0xc0]

/-- The fields of `params.ChainConfig` the engines read. -/
structure ChainConfig where
  chainID : Nat
  eip150Block : Option Nat
  eip150Hash : Hash
  eip158Block : Option Nat
  londonBlock : Option Nat
  posaBlock : Option Nat
  terminalTotalDifficulty : Option Nat

/-- A fork without a block is never active. -/
def isForked (s : Option Nat) (head : Nat) : Bool :=
  match s with
  | none => false
  | some n => n ≤ head

def ChainConfig.isEIP158 (c : ChainConfig) (num : Nat) : Bool := isForked c.eip158Block num

def ChainConfig.isLondon (c : ChainConfig) (num : Nat) : Bool := isForked c.londonBlock num

def ChainConfig.isPosa (c : ChainConfig) (num : Nat) : Bool := isForked c.posaBlock num

/-- The chain: PoSA takes over at block 160000. -/
def ferminuxChainConfig : ChainConfig where
  chainID := 3961
  eip150Block := some 0
  eip150Hash := zeroHash
  eip158Block := some 0
  londonBlock := some 0
  posaBlock := some 160000
  terminalTotalDifficulty := none

/-- `consensus.ChainHeaderReader`: stored headers by hash and number, canonical
headers by number. -/
structure ChainHeaderReader where
  config : ChainConfig
  getHeader : Hash → Nat → Option Header
  getHeaderByNumber : Nat → Option Header

/-- The errors of verification. -/
inductive Err
  /-- "unknown block" -/
  | errUnknownBlock
  /-- "beneficiary in checkpoint block non-zero" -/
  | errInvalidCheckpointBeneficiary
  /-- "vote nonce not 0x00..0 or 0xff..f" -/
  | errInvalidVote
  /-- "vote nonce in checkpoint block non-zero" -/
  | errInvalidCheckpointVote
  /-- "extra-data 32 byte vanity prefix missing" -/
  | errMissingVanity
  /-- "extra-data 65 byte signature suffix missing" -/
  | errMissingSignature
  /-- "non-checkpoint block contains extra signer list" -/
  | errExtraSigners
  /-- "invalid signer list on checkpoint block" -/
  | errInvalidCheckpointSigners
  /-- "mismatching signer list on checkpoint block" -/
  | errMismatchingCheckpointSigners
  /-- "non-zero mix digest" -/
  | errInvalidMixDigest
  /-- "non empty uncle hash" -/
  | errInvalidUncleHash
  /-- "invalid difficulty" -/
  | errInvalidDifficulty
  /-- "wrong difficulty" -/
  | errWrongDifficulty
  /-- "invalid timestamp" -/
  | errInvalidTimestamp
  /-- "invalid voting chain" -/
  | errInvalidVotingChain
  /-- "unauthorized signer" -/
  | errUnauthorizedSigner
  /-- "recently signed" -/
  | errRecentlySigned
  /-- "authority snapshot requested below the PoSA bootstrap block" -/
  | errBelowBootstrap
  /-- "break-glass override on block but break-glass is not configured" -/
  | errBreakGlassDisabled
  /-- "malformed break-glass payload" -/
  | errBreakGlassMalformed
  /-- "break-glass signer list empty, unsorted or duplicated" -/
  | errBreakGlassSignerList
  /-- "break-glass signature invalid, duplicated or not from a multisig owner" -/
  | errBreakGlassBadSignature
  /-- "break-glass override below the owner-signature threshold" -/
  | errBreakGlassThreshold
  /-- "break-glass override must target a block above the genesis" -/
  | errBreakGlassNumber
  /-- "vote in break-glass block non-zero" -/
  | errBreakGlassVote
  /-- "break-glass block not sealed by a member of the override list" -/
  | errBreakGlassUnauthorizedSealer
  /-- "clique bootstrap requires at least one signer" -/
  | errBootstrapEmpty
  /-- "clique bootstrap signer is the zero address" -/
  | errBootstrapZeroSigner
  /-- "block in the future" (`consensus.ErrFutureBlock`) -/
  | errFutureBlock
  /-- "unknown ancestor" (`consensus.ErrUnknownAncestor`) -/
  | errUnknownAncestor
  /-- "invalid gasLimit: have %v, max %v" -/
  | errGasLimitTooHigh
  /-- "invalid gasUsed: have %d, gasLimit %d" -/
  | errGasUsed
  /-- "invalid gas limit: have %d, want %d +-= %d" -/
  | errGasLimitBound
  /-- "invalid gas limit below 5000" -/
  | errGasLimitTooLow
  /-- "invalid baseFee before fork: have %d, want <nil>" -/
  | errBaseFeeBeforeFork
  /-- "header is missing baseFee" -/
  | errBaseFeeMissing
  /-- "invalid baseFee: have %s, want %s, parentBaseFee %s, parentGasUsed %d" -/
  | errBaseFee
  /-- "homestead gas reprice fork: have %#x, want %#x" -/
  | errForkHash
  /-- The error of a failed `crypto.Ecrecover`. -/
  | errEcrecover
  /-- "sealing paused while waiting for transactions" -/
  | errSealingPaused
  /-- "signed recently, must wait for others" -/
  | errMustWait
  /-- "header does not match the hardcoded Ferminux authority checkpoint" -/
  | errCheckpointMismatch
  /-- "authority block assembly requires an authorized signer (Authorize not called)" -/
  | errNotAuthorized
  /-- The runtime panic "integer divide by zero". -/
  | divideByZero
  /-- The runtime panic "invalid memory address or nil pointer dereference". -/
  | nilPointer
  deriving DecidableEq, Repr

/-- `if bad { return err }`. -/
def guardErr (bad : Bool) (e : Err) : Except Err Unit := if bad then .error e else .ok ()

@[simp] lemma guardErr_eq_ok {bad : Bool} {e : Err} {u : Unit} :
    guardErr bad e = .ok u ↔ bad = false := by
  cases bad <;> simp [guardErr]

/-! ### An instance that evaluates -/

/-- The address that ends in the byte `n`. -/
def addressOf (n : UInt8) : Address := ⟨List.replicate 19 0 ++ [n], by simp⟩

/-- A stand-in for the cryptography under which runs can be evaluated: a signature is
the signer's address filled up to 65 bytes, and a hash the front of its input. -/
def Crypto.transparent : Crypto where
  keccak256 := FixedBytes.copyFrom 32
  headerHash header :=
    FixedBytes.copyFrom 32 (bigEndian 8 header.number ++ bigEndian 4 header.difficulty ++
      header.coinbase.bytes)
  rlpHeader header := header.extra
  ecrecover _ sig :=
    if FixedBytes.copyFrom 20 sig = zeroAddress then none else some (FixedBytes.copyFrom 20 sig)

/-- What `Crypto.transparent` takes for a signature of `signer`. -/
def transparentSignature (signer : Address) : List UInt8 := signer.bytes ++ List.replicate 45 0

end Ferminux
