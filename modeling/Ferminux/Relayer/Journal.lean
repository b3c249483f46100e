import Ferminux.Relayer.Store
import Mathlib.Data.String.Basic

/-!
# Relayer.Journal

The journal backend (`JournalStore`) in memory: the records it appends, what replaying one
does to the five maps, and the reads. The file the records go to is in
`Relayer.JournalFile`.

`apply` **replaces** a transfer or a submission as a whole. It can throw: a stored transfer
is checked by `parseTransfer` before it is put into its map, after its line was written.

How `localeCompare` orders two strings is the host's affair and a parameter (`Collation`).
-/

namespace Ferminux.Relayer

open Lib Lib.Table

/-- The order `localeCompare` puts strings in: `le a b` if `a.localeCompare(b) <= 0`. -/
structure Collation where
  le : String → String → Bool

/-- A host that sorts by code points. -/
def plainCollation : Collation := ⟨fun a b => decide (a ≤ b)⟩

/-- One line of the journal. `serializeStored` keeps every field of a transfer. -/
inductive JournalRecord where
  | cursor (chainId block : Nat)
  | transfer (v : StoredTransfer)
  | status (transferId : String) (status : TransferStatus) (reason : Option String) (at_ : Nat)
  | executed (transferId : String) (txHash : Option String) (at_ : Nat)
  | signature (v : StoredSignature)
  | submission (v : StoredSubmission)
  | window (key : String) (used updatedAt : Nat)
  deriving Repr, DecidableEq

structure Journal where
  cursors : Table Nat Nat := .empty
  transfers : Table String StoredTransfer := .empty
  signatures : Table String (Table String StoredSignature) := .empty
  submissions : Table String StoredSubmission := .empty
  windows : Table String StoredWindow := .empty
  deriving DecidableEq

namespace Journal

/-! ### Replaying and writing records -/

def deserializeTransfer (E : Ethers) (v : StoredTransfer) : Except String StoredTransfer := do
  return { v with transfer := ← E.parseTransfer v.transfer }

/-- Put a signature into the bucket of its transfer, unless its signer is there. -/
def addSignature (sig : StoredSignature) (bucket : Option (Table String StoredSignature)) :
    Table String StoredSignature :=
  (bucket.getD .empty).upsert sig.signer (·.getD sig)

def apply (E : Ethers) (j : Journal) : JournalRecord → Except String Journal
  | .cursor chainId block => .ok { j with cursors := j.cursors.set chainId block }
  | .transfer v => do
    let t ← deserializeTransfer E v
    return { j with transfers := j.transfers.set t.transferId t }
  | .status transferId status reason at_ =>
    .ok { j with transfers := j.transfers.modify transferId (·.withStatus status reason at_) }
  | .executed transferId txHash at_ =>
    .ok { j with transfers := j.transfers.modify transferId (·.asExecuted txHash at_) }
  | .signature v => .ok { j with signatures := j.signatures.upsert v.transferId (addSignature v) }
  | .submission v => .ok { j with submissions := j.submissions.set v.transferId v }
  | .window key used updatedAt =>
    .ok { j with windows := j.windows.set key { key, used, updatedAt } }

variable (j : Journal)

def hasSignature (transferId signer : String) : Bool :=
  ((j.signatures.get transferId).bind (·.get signer)).isSome

/-- The record a mutation writes when it is called at the time `now`. -/
def recordOf (now : Nat) : Mutation → JournalRecord
  | .setCursor chainId block => .cursor chainId block
  | .putTransfer t => .transfer t
  | .setTransferStatus transferId status reason => .status transferId status reason now
  | .markExecuted transferId txHash => .executed transferId txHash now
  | .putSignature sig => .signature sig
  | .putSubmission sub => .submission sub
  | .putWindow w => .window w.key w.used w.updatedAt

/-- The mutation returns without writing: the signature is there. -/
def isStored : Mutation → Bool
  | .putSignature sig => j.hasSignature sig.transferId sig.signer
  | _ => false

def mutate (E : Ethers) (j : Journal) (now : Nat) (m : Mutation) : Except String Journal :=
  if j.isStored m then .ok j else j.apply E (recordOf now m)

lemma size_addSignature {sig : StoredSignature} {bucket : Option (Table String StoredSignature)}
    (h : bucket.bind (·.get sig.signer) = none) :
    (addSignature sig bucket).size = ((bucket.map size).getD 0) + 1 := by
  unfold addSignature
  cases bucket with
  | none => rfl
  | some => exact size_upsert_of_new h

lemma get_addSignature (sig : StoredSignature) (bucket : Option (Table String StoredSignature))
    (signer : String) : (addSignature sig bucket).get signer =
      if signer = sig.signer then some ((bucket.bind (·.get sig.signer)).getD sig)
      else bucket.bind (·.get signer) := by
  unfold addSignature
  rw [get_upsert]
  cases bucket <;> rfl

lemma apply_of_isStored (E : Ethers) {j : Journal} {m : Mutation} (h : j.isStored m = true)
    (now : Nat) : j.apply E (recordOf now m) = .ok j := by
  cases m with
  | putSignature sig =>
    obtain ⟨old, hold⟩ := Option.isSome_iff_exists.mp h
    obtain ⟨bucket, hbucket, hget⟩ := Option.bind_eq_some_iff.mp hold
    have hsame : addSignature sig (some bucket) = bucket := upsert_eq_self hget rfl
    simp [recordOf, apply, upsert_eq_self hbucket hsame]
  | _ => cases h

/-! ### Reads -/

def getCursor (chainId : Nat) : Option Nat := j.cursors.get chainId

def getTransfer (transferId : String) : Option StoredTransfer :=
  j.transfers.get transferId

/-- `if (asked !== undefined) out = out.filter(…)`. -/
def narrow {α : Type} (asked : Option α) (p : α → StoredTransfer → Bool)
    (out : List StoredTransfer) : List StoredTransfer :=
  match asked with
  | none => out
  | some a => out.filter (p a)

/-- `reason !== null && reason.startsWith(prefix)`. -/
def startsWith (text : String) : Option String → Bool
  | none => false
  | some reason => text.toList.isPrefixOf reason.toList

def listTransfers (filter : TransferFilter) : List StoredTransfer :=
  let out := j.transfers.values
  let out := narrow filter.statuses (fun statuses t => statuses.contains t.status) out
  let out := narrow filter.srcChainId (fun chainId t => t.transfer.srcChainId == chainId) out
  let out := narrow filter.dstChainId (fun chainId t => t.transfer.dstChainId == chainId) out
  let out := narrow filter.reasonPrefix (fun text t => startsWith text t.reason) out
  (out.mergeSort fun a b => decide (a.firstSeenAt ≤ b.firstSeenAt)).take filter.rowLimit

def getSignatures (C : Collation) (j : Journal) (transferId : String) : List StoredSignature :=
  (((j.signatures.get transferId).getD .empty).values).mergeSort fun a b => C.le a.signer b.signer

def getSubmission (transferId : String) : Option StoredSubmission :=
  j.submissions.get transferId

def listSubmissions (status : SubmissionStatus) : List StoredSubmission :=
  j.submissions.values.filter (·.status == status)

def getWindow (key : String) : Option StoredWindow := j.windows.get key

/-- `out[k] = (out[k] ?? 0) + 1`. -/
def tally (out : CountKey → Option Nat) (k : CountKey) : CountKey → Option Nat :=
  fun k' => if k' = k then some ((out k).getD 0 + 1) else out k'

def counts : CountKey → Option Nat :=
  let out : CountKey → Option Nat := fun _ => none
  let out := j.transfers.values.foldl (fun out t => tally out (.transfers t.status)) out
  let out := j.submissions.values.foldl (fun out s => tally out (.submissions s.status)) out
  let sigs := j.signatures.values.foldl (fun n bucket => n + bucket.size) 0
  fun k => if k = .signatures then some sigs else out k

end Journal

end Ferminux.Relayer
