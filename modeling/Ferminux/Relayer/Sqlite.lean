import Ferminux.Relayer.Store
import Mathlib.Data.String.Basic

/-!
# Relayer.Sqlite

The sqlite backend (`SqliteStore`). A table is a `Table` under its primary key, an insert
with `ON CONFLICT DO UPDATE` an `upsert` that names the **columns it takes over** from the
new row, and an update with a condition on the key a `modify`.

A `SELECT` without an order, or with an order that leaves ties, may return its rows in any
order that is consistent with it. The order the engine reads a table in is a parameter
(`Scan`), a permutation of the rows.
-/

namespace Ferminux.Relayer

open Lib

/-- The order in which a query reads rows. -/
structure Scan (α : Type) where
  order : List α → List α
  perm : ∀ rows, (order rows).Perm rows

/-- The orders in which the engine reads the rows of a query. -/
structure Scans where
  transfers : Scan StoredTransfer
  signatures : Scan StoredSignature
  submissions : Scan StoredSubmission

/-- An engine that reads rows in the order of insertion. -/
def plainScans : Scans := ⟨⟨id, fun _ => .rfl⟩, ⟨id, fun _ => .rfl⟩, ⟨id, fun _ => .rfl⟩⟩

structure Sqlite where
  cursors : Table Nat Nat := .empty
  transfers : Table String StoredTransfer := .empty
  signatures : Table (String × String) StoredSignature := .empty
  submissions : Table String StoredSubmission := .empty
  windows : Table String StoredWindow := .empty
  deriving DecidableEq

namespace Sqlite

/-! ### Mutations -/

/-- The row after `INSERT INTO transfers … ON CONFLICT(transfer_id) DO UPDATE`: the
transfer, the fee and the time it was first seen stay those of the row that is there. -/
def mergeTransfer (t : StoredTransfer) : Option StoredTransfer → StoredTransfer
  | none => t
  | some old =>
    { old with
      srcBlockNumber := t.srcBlockNumber
      srcBlockHash := t.srcBlockHash
      srcTxHash := t.srcTxHash
      srcLogIndex := t.srcLogIndex
      status := t.status
      reason := t.reason
      confirmedAt := t.confirmedAt
      executedAt := t.executedAt
      executedTxHash := t.executedTxHash
      updatedAt := t.updatedAt }

/-- The row after `INSERT INTO submissions … ON CONFLICT(transfer_id) DO UPDATE`: the
destination, the account nonce and the creation time stay those of the row that is there. -/
def mergeSubmission (sub : StoredSubmission) : Option StoredSubmission → StoredSubmission
  | none => sub
  | some old =>
    { old with
      attempts := sub.attempts
      status := sub.status
      minedTxHash := sub.minedTxHash
      lastError := sub.lastError
      updatedAt := sub.updatedAt }

variable (s : Sqlite)

def setCursor (chainId block : Nat) : Sqlite :=
  { s with cursors := s.cursors.set chainId block }

def putTransfer (t : StoredTransfer) : Sqlite :=
  { s with transfers := s.transfers.upsert t.transferId (mergeTransfer t) }

def setTransferStatus (transferId : String) (status : TransferStatus)
    (reason : Option String) (now : Nat) : Sqlite :=
  { s with transfers := s.transfers.modify transferId (·.withStatus status reason now) }

def markExecuted (transferId : String) (txHash : Option String) (now : Nat) :
    Sqlite :=
  { s with transfers := s.transfers.modify transferId (·.asExecuted txHash now) }

/-- `ON CONFLICT(transfer_id, signer) DO NOTHING`. -/
def putSignature (sig : StoredSignature) : Sqlite :=
  { s with signatures := s.signatures.upsert (sig.transferId, sig.signer) (·.getD sig) }

def putSubmission (sub : StoredSubmission) : Sqlite :=
  { s with submissions := s.submissions.upsert sub.transferId (mergeSubmission sub) }

def putWindow (w : StoredWindow) : Sqlite :=
  { s with windows := s.windows.set w.key w }

def mutate (now : Nat) : Mutation → Sqlite
  | .setCursor chainId block => s.setCursor chainId block
  | .putTransfer t => s.putTransfer t
  | .setTransferStatus transferId status reason => s.setTransferStatus transferId status reason now
  | .markExecuted transferId txHash => s.markExecuted transferId txHash now
  | .putSignature sig => s.putSignature sig
  | .putSubmission sub => s.putSubmission sub
  | .putWindow w => s.putWindow w

/-! ### Reads -/

def getCursor (chainId : Nat) : Option Nat := s.cursors.get chainId

def getTransfer (transferId : String) : Option StoredTransfer :=
  s.transfers.get transferId

/-- The length JavaScript gives a string: the number of its UTF-16 code units. -/
def utf16Length (text : String) : Nat :=
  (text.toList.map fun c => if c.val < 0x10000 then 1 else 2).sum

/-- `substr(reason, 1, n) = prefix`. The engine counts characters, while the `n` it is
given counts UTF-16 code units. -/
def hasPrefix (reasonPrefix : String) : Option String → Bool
  | none => false
  | some reason => reason.toList.take (utf16Length reasonPrefix) == reasonPrefix.toList

/-- One condition of the `WHERE` clause, if the filter has it. -/
def condition {α : Type} (asked : Option α) (p : α → StoredTransfer → Bool) (t : StoredTransfer) :
    Bool :=
  match asked with
  | none => true
  | some a => p a t

def selects (filter : TransferFilter) (t : StoredTransfer) : Bool :=
  condition filter.statuses (fun statuses t => statuses.contains t.status) t &&
  condition filter.srcChainId (fun chainId t => t.transfer.srcChainId == chainId) t &&
  condition filter.dstChainId (fun chainId t => t.transfer.dstChainId == chainId) t &&
  condition filter.reasonPrefix (fun text t => hasPrefix text t.reason) t

/-- `ORDER BY first_seen_at ASC LIMIT ?`. -/
def listTransfers (scan : Scan StoredTransfer) (filter : TransferFilter) :
    List StoredTransfer :=
  (((scan.order s.transfers.values).filter (selects filter)).mergeSort
    (fun a b => decide (a.firstSeenAt ≤ b.firstSeenAt))).take filter.rowLimit

/-- `ORDER BY signer ASC`: the engine compares the bytes of the text. -/
def getSignatures (scan : Scan StoredSignature) (transferId : String) :
    List StoredSignature :=
  ((scan.order s.signatures.values).filter (·.transferId == transferId)).mergeSort
    (fun a b => decide (a.signer ≤ b.signer))

def getSubmission (transferId : String) : Option StoredSubmission :=
  s.submissions.get transferId

def listSubmissions (scan : Scan StoredSubmission) (status : SubmissionStatus) :
    List StoredSubmission :=
  (scan.order s.submissions.values).filter (·.status == status)

def getWindow (key : String) : Option StoredWindow := s.windows.get key

/-- `GROUP BY status`: a status without rows has no group. -/
def group {α κ : Type} [DecidableEq κ] (f : α → κ) (rows : List α) (k : κ) : Option Nat :=
  let n := (rows.filter fun row => decide (f row = k)).length
  if n = 0 then none else some n

def counts : CountKey → Option Nat
  | .transfers status => group StoredTransfer.status s.transfers.values status
  | .submissions status => group StoredSubmission.status s.submissions.values status
  | .signatures => some s.signatures.size

end Sqlite

end Ferminux.Relayer
