import Ferminux.Lib.Table
import Ferminux.Relayer.Transfer

/-!
# Relayer.Store

The records of the relayer's durable state and the interface both backends implement
(`db.ts`). Every mutation reads the clock, so a mutation comes with the time at which it
was called.

Left out: the `updated_at` column of the cursor table, which nothing reads.
-/

namespace Ferminux.Relayer

open Lib

/-- How far a transfer has got. -/
inductive TransferStatus where
  /-- Log observed, not yet deep enough to trust. -/
  | seen
  /-- Survived `confirmations` and a re-read of the log. -/
  | confirmed
  | signed
  /-- This node refused it. -/
  | rejected
  /-- Observed as processed on the destination chain. -/
  | executed
  /-- The log disappeared or changed. -/
  | orphaned
  deriving Repr, DecidableEq

/-- A row of the transfers. -/
structure StoredTransfer where
  transferId : String
  transfer : BridgeTransfer
  fee : Nat
  srcBlockNumber : Nat
  srcBlockHash : String
  srcTxHash : String
  srcLogIndex : Nat
  status : TransferStatus
  reason : Option String
  firstSeenAt : Nat
  confirmedAt : Option Nat
  executedAt : Option Nat
  executedTxHash : Option String
  updatedAt : Nat
  deriving Repr, DecidableEq

structure StoredSignature where
  transferId : String
  /-- Checksummed address recovered from the signature. -/
  signer : String
  signature : String
  /-- `local`, or the peer it was fetched from. -/
  origin : String
  createdAt : Nat
  deriving Repr, DecidableEq

/-- A signed transaction, in place of its bytes. -/
structure RawTransaction where
  chainId : Nat
  nonce : Nat
  transferId : String
  gasLimit : Nat
  maxFeePerGas : Nat
  maxPriorityFeePerGas : Nat
  signers : List String
  deriving Repr, DecidableEq

/-- A transaction that was signed for a submission. -/
structure SubmissionAttempt where
  txHash : String
  raw : RawTransaction
  maxFeePerGas : Nat
  maxPriorityFeePerGas : Nat
  gasLimit : Nat
  sentAt : Nat
  /-- The validators whose signatures are inside `raw`; missing in old rows. -/
  signers : Option (List String)
  deriving Repr, DecidableEq

inductive SubmissionStatus where
  | pending
  | mined
  | failed
  | abandoned
  deriving Repr, DecidableEq

/-- The submission of a transfer, with all its attempts. -/
structure StoredSubmission where
  transferId : String
  dstChainId : Nat
  /-- Meant to be shared by every attempt; `-1` before the first one. -/
  accountNonce : Int
  attempts : List SubmissionAttempt
  status : SubmissionStatus
  minedTxHash : Option String
  lastError : Option String
  createdAt : Nat
  updatedAt : Nat
  deriving Repr, DecidableEq

/-- How much of a daily cap is used. -/
structure StoredWindow where
  key : String
  used : Nat
  updatedAt : Nat
  deriving Repr, DecidableEq

/-- Which transfers are listed. -/
structure TransferFilter where
  status : Option (List TransferStatus) := none
  srcChainId : Option Nat := none
  dstChainId : Option Nat := none
  /-- Rows whose `reason` starts with this text. -/
  reasonPrefix : Option String := none
  limit : Option Nat := none
  deriving Repr, DecidableEq

/-- The number of rows `listTransfers` returns when the filter names none. -/
def TransferFilter.rowLimit (filter : TransferFilter) : Nat := filter.limit.getD 500

/-- The statuses asked for; an empty list is no condition. -/
def TransferFilter.statuses (filter : TransferFilter) : Option (List TransferStatus) :=
  match filter.status with
  | some (status :: rest) => some (status :: rest)
  | _ => none

inductive CountKey where
  | transfers (status : TransferStatus)
  | submissions (status : SubmissionStatus)
  | signatures
  deriving Repr, DecidableEq

/-- The writes of a store. -/
inductive Mutation where
  | setCursor (chainId block : Nat)
  | putTransfer (t : StoredTransfer)
  | setTransferStatus (transferId : String) (status : TransferStatus) (reason : Option String)
  | markExecuted (transferId : String) (txHash : Option String)
  | putSignature (sig : StoredSignature)
  | putSubmission (sub : StoredSubmission)
  | putWindow (w : StoredWindow)
  deriving Repr, DecidableEq

namespace StoredTransfer

/-- The time of the first confirmation stays. -/
def withStatus (t : StoredTransfer) (status : TransferStatus) (reason : Option String)
    (now : Nat) : StoredTransfer :=
  { t with
    status
    reason
    confirmedAt := if status = .confirmed ∧ t.confirmedAt = none then some now else t.confirmedAt
    updatedAt := now }

def asExecuted (t : StoredTransfer) (txHash : Option String) (now : Nat) : StoredTransfer :=
  { t with status := .executed, executedAt := some now, executedTxHash := txHash, updatedAt := now }

end StoredTransfer

end Ferminux.Relayer
