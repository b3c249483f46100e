import Ferminux.Lib.Except
import Mathlib.Algebra.Group.Nat.Defs

/-!
# Relayer.Transfer

The wire protocol as the relayer recomputes it (`transfer.ts`): the eight fields of a
transfer, its id, the digest a validator signs, the decoding of a `Sent` log and the
checks a stored transfer passes when it is read back.

Addresses, hashes and ids are hex **strings**, as in the source. What the relayer takes
from its libraries is a parameter (`Ethers`): `getAddress`, which puts an address into its
checksummed form or throws, and `keccak256`, a function on what is encoded. The encoding
of the static types used here is injective, so a preimage is represented by the values it
encodes. A `number` is a natural; a `bigint` that is written as decimal text and read back
is the number it denotes.
-/

namespace Ferminux.Relayer

open Lib

/-- `FerminuxBridge.BridgeTransfer`. `amount` is the net credited amount. -/
structure BridgeTransfer where
  srcChainId : Nat
  dstChainId : Nat
  nonce : Nat
  srcToken : String
  dstToken : String
  sender : String
  recipient : String
  amount : Nat
  deriving Repr, DecidableEq

/-- A `Sent` log, decoded and anchored to the block it was mined in. -/
structure SentEvent where
  transfer : BridgeTransfer
  transferId : String
  fee : Nat
  blockNumber : Nat
  blockHash : String
  txHash : String
  logIndex : Nat
  deriving Repr, DecidableEq

inductive Preimage where
  /-- The fields of a transfer, as `transferIdOf` encodes them. -/
  | transfer (t : BridgeTransfer)
  /-- The domain of a destination bridge. -/
  | domain (name version : String) (chainId : Nat) (verifyingContract : String)
  /-- The typed data of a transfer: its domain and its value. -/
  | typedData (name version : String) (chainId : Nat) (verifyingContract : String)
      (transferId : String) (t : BridgeTransfer)
  deriving Repr, DecidableEq

/-- What the relayer takes from `ethers`. -/
structure Ethers where
  /-- The checksummed form of an address, or an exception. -/
  getAddress : String → Except String String
  keccak256 : Preimage → String

def EIP712_DOMAIN_NAME : String := "FerminuxBridge"
def EIP712_DOMAIN_VERSION : String := "1"

def MAX_SAFE_INTEGER : Nat := 2 ^ 53 - 1

namespace Ethers

variable (E : Ethers)

def checksummed (t : BridgeTransfer) : Except String BridgeTransfer := do
  let srcToken ← E.getAddress t.srcToken
  let dstToken ← E.getAddress t.dstToken
  let sender ← E.getAddress t.sender
  let recipient ← E.getAddress t.recipient
  return { t with srcToken, dstToken, sender, recipient }

def transferIdOf (t : BridgeTransfer) : Except String String := do
  return E.keccak256 (.transfer (← E.checksummed t))

/-- The domain separator of a destination bridge, derived locally. -/
def domainSeparatorFor (dstChainId : Nat) (dstBridgeAddress : String) : Except String String := do
  let verifyingContract ← E.getAddress dstBridgeAddress
  return E.keccak256 (.domain EIP712_DOMAIN_NAME EIP712_DOMAIN_VERSION dstChainId verifyingContract)

/-- The digest a validator signs, for the destination bridge of the pinned
configuration. -/
def digestFor (t : BridgeTransfer) (dstBridgeAddress : String) : Except String String := do
  let verifyingContract ← E.getAddress dstBridgeAddress
  let transferId ← E.transferIdOf t
  return E.keccak256 (.typedData EIP712_DOMAIN_NAME EIP712_DOMAIN_VERSION t.dstChainId
    verifyingContract transferId (← E.checksummed t))

end Ethers

/-- A library for which every address is in checksummed form and nothing is hashed. -/
def plainEthers : Ethers := ⟨.ok, fun _ => "0x01"⟩

/-! ### Decoding and checking -/

/-- A uint64 protocol field as a number, or a refusal. -/
def u64ToNumber (v : Nat) (what : String) : Except String Nat :=
  if MAX_SAFE_INTEGER < v then
    .error s!"{what} {v} is outside 0..2^53-1 and cannot be represented exactly — refusing rather than rounding"
  else .ok v

/-- A log as an endpoint returns it, with the arguments the interface decoded. -/
structure Log where
  transferId : String
  dstChainId : Nat
  localToken : String
  srcChainId : Nat
  nonce : Nat
  remoteToken : String
  sender : String
  recipient : String
  amount : Nat
  fee : Nat
  blockNumber : Nat
  blockHash : String
  transactionHash : String
  index : Nat
  deriving Repr, DecidableEq

/-- The eight fields of the transfer, as the log has them. -/
def Log.payload (log : Log) : BridgeTransfer :=
  { srcChainId := log.srcChainId, dstChainId := log.dstChainId, nonce := log.nonce
    srcToken := log.localToken, dstToken := log.remoteToken, sender := log.sender
    recipient := log.recipient, amount := log.amount }

namespace Ethers

variable (E : Ethers) {v n : Nat} {t x : BridgeTransfer}

/-- Decode a `Sent` log, and verify that the transfer id the contract indexed is the one
computed from the payload. -/
def decodeSentLog (log : Log) : Except String SentEvent := do
  let srcChainId ← u64ToNumber log.srcChainId "Sent.srcChainId"
  let dstChainId ← u64ToNumber log.dstChainId "Sent.dstChainId"
  let nonce ← u64ToNumber log.nonce "Sent.nonce"
  let srcToken ← E.getAddress log.localToken
  let dstToken ← E.getAddress log.remoteToken
  let sender ← E.getAddress log.sender
  let recipient ← E.getAddress log.recipient
  let transfer : BridgeTransfer :=
    { srcChainId, dstChainId, nonce, srcToken, dstToken, sender, recipient, amount := log.amount }
  let computed ← E.transferIdOf transfer
  if computed ≠ log.transferId then
    throw s!"transferId mismatch: event says {log.transferId}, recomputed {computed} (tx {log.transactionHash} log {log.index})"
  return { transfer, transferId := computed, fee := log.fee, blockNumber := log.blockNumber
           blockHash := log.blockHash, txHash := log.transactionHash, logIndex := log.index }

/-- **What a decoded log says**: its payload with the addresses in checksummed form, under the
id that both the contract and the relayer computed from it. -/
structure Decodes (log : Log) (ev : SentEvent) : Prop where
  transfer : E.checksummed log.payload = .ok ev.transfer
  computed : E.transferIdOf ev.transfer = .ok ev.transferId
  transferId : ev.transferId = log.transferId
  blockNumber : ev.blockNumber = log.blockNumber
  blockHash : ev.blockHash = log.blockHash

/-- A chain id or nonce of a stored transfer: a number that is held exactly. -/
def parseNumber (key : String) (v : Nat) : Except String Nat :=
  if MAX_SAFE_INTEGER < v then .error s!"transfer.{key} invalid" else .ok v

/-- The amount of a stored transfer: at most 78 decimal digits, positive, and a uint256. -/
def parseAmount (v : Nat) : Except String Nat :=
  if 10 ^ 78 ≤ v then .error "transfer.amount invalid"
  else if v = 0 ∨ 2 ^ 256 - 1 < v then .error "transfer.amount out of range"
  else .ok v

/-- Check a transfer that was stored as JSON. `serializeTransfer` keeps every field and
writes the amount as decimal text, so a stored transfer is read as its own fields. -/
def parseTransfer (t : BridgeTransfer) : Except String BridgeTransfer := do
  let amount ← parseAmount t.amount
  let srcChainId ← parseNumber "srcChainId" t.srcChainId
  let dstChainId ← parseNumber "dstChainId" t.dstChainId
  let nonce ← parseNumber "nonce" t.nonce
  let t' ← E.checksummed t
  return { t' with srcChainId, dstChainId, nonce, amount }

lemma eq_of_parseNumber {key : String} (h : parseNumber key v = .ok n) : n = v := by
  unfold parseNumber at h
  split at h <;> cases h
  rfl

lemma eq_of_parseAmount (h : parseAmount v = .ok n) : n = v := by
  unfold parseAmount at h
  split at h
  · cases h
  · split at h <;> cases h
    rfl

lemma eq_of_u64ToNumber {what : String} (h : u64ToNumber v what = .ok n) : n = v := by
  unfold u64ToNumber at h
  split at h <;> cases h
  rfl

lemma checksummed_eq_ok {E : Ethers} : E.checksummed t = .ok x ↔
      ∃ srcToken dstToken sender recipient,
        E.getAddress t.srcToken = .ok srcToken ∧ E.getAddress t.dstToken = .ok dstToken ∧
        E.getAddress t.sender = .ok sender ∧ E.getAddress t.recipient = .ok recipient ∧
        { t with srcToken, dstToken, sender, recipient } = x := by
  simp only [checksummed, bind_eq_ok, pure_eq_ok, exists_and_left]

/-- What `parseTransfer` changes is the form of the addresses. -/
lemma checksummed_of_parseTransfer {E : Ethers}
    (h : E.parseTransfer t = .ok x) : E.checksummed t = .ok x := by
  simp only [parseTransfer, bind_eq_ok, pure_eq_ok] at h
  obtain ⟨amount, hamount, srcChainId, hsrc, dstChainId, hdst, nonce, hnonce, x', hx', rfl⟩ := h
  rw [hx', eq_of_parseAmount hamount, eq_of_parseNumber hsrc, eq_of_parseNumber hdst,
    eq_of_parseNumber hnonce]
  obtain ⟨_, _, _, _, -, -, -, -, rfl⟩ := checksummed_eq_ok.mp hx'
  rfl

lemma decodes_of_decodeSentLog {E : Ethers} {log : Log} {ev : SentEvent}
    (h : E.decodeSentLog log = .ok ev) : E.Decodes log ev := by
  simp only [decodeSentLog, bind_eq_ok] at h
  obtain ⟨srcChainId, hsrc, dstChainId, hdst, nonce, hnonce, srcToken, hsrcToken, dstToken,
    hdstToken, sender, hsender, recipient, hrecipient, computed, hcomputed, h⟩ := h
  split at h
  · cases h
  · next heq =>
    cases h
    rw [eq_of_u64ToNumber hsrc, eq_of_u64ToNumber hdst, eq_of_u64ToNumber hnonce] at hcomputed ⊢
    refine ⟨?_, hcomputed, Decidable.not_not.mp heq, rfl, rfl⟩
    exact checksummed_eq_ok.mpr
      ⟨srcToken, dstToken, sender, recipient, hsrcToken, hdstToken, hsender, hrecipient, rfl⟩

end Ethers

end Ferminux.Relayer
