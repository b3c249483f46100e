import Ferminux.Lib.Async
import Ferminux.Lib.Table

/-!
# Gateway.X402

The **x402 facilitator** (`X402Facilitator`): vouchers are accepted against the deposit of their payer
in the vault (`settle`), queued in a table, and settled on the chain in batches (`flush`).

`settle` runs one at a time per payer. It reads the balance of the payer from the vault, which takes
time: the vault answers at one moment (`Effect.balance`) and the answer arrives at a later one
(`Effect.arrive`). `flush` runs one at a time as well, but not under the locks of the payers, and it
works on rows it has read before it waits for the node. Requests that give up a voucher
(`voidQueued`) and the indexer (`applyLog`) write to the same rows.

The vault settles or refuses every voucher of a batch that is included.
-/

namespace Ferminux.Gateway.X402

open Lib

/-! ### The table of vouchers -/

/-- The payer and the nonce of a voucher. -/
abbrev Key := Nat × Nat

/-- From the queue to the chain, and the ways out of it. -/
inductive Status where
  | queued
  | submitted
  | settled
  | skipped
  | failed
  | unsettleable
  | voided
  deriving Repr, DecidableEq

/-- A row of `x402_vouchers`. -/
structure VoucherRow where
  payee : Nat
  amount : Nat
  ref : Nat := 0
  expiry : Nat
  sig : Nat := 0
  resource : String := ""
  status : Status := .queued
  txHash : Option Nat := none
  error : Option String := none
  createdAt : Nat := 0
  settledAt : Option Nat := none
  attempts : Nat := 0
  batchCap : Option Nat := none
  deriving Repr, DecidableEq

/-- `status IN ('queued','submitted')` -/
def VoucherRow.pending (r : VoucherRow) : Bool := r.status = .queued || r.status = .submitted

def X402_MIN_EXPIRY_S : Nat := 90
def X402_BATCH_SIZE : Nat := 50
def X402_MAX_SETTLE_ATTEMPTS : Nat := 3
def X402_SETTLE_GAS_MARGIN_PER_VOUCHER : Nat := 75_000
def X402_SUBMITTED_STALE_S : Nat := 600

def slice (text : String) (n : Nat) : String := String.ofList (text.toList.take n)

/-! ### The vault -/

/-- What `settleBatch` logs for a voucher. -/
inductive Log where
  | settled (key : Key)
  | skipped (key : Key) (reason : String)
  deriving Repr, DecidableEq

def Log.key : Log → Key
  | .settled key => key
  | .skipped key _ => key

/-- What the gateway reads of the vault. -/
structure Vault where
  balance : Nat → Nat
  /-- The nonces that are used up: the vault has debited the payer for them. -/
  used : List Key := []

/-- `X402Vault._verify`: why a voucher is refused. What an account answers about a signature is not
known before. -/
def Vault.verify (v : Vault) (time : Nat) (valid : Key → Bool) (key : Key) (r : VoucherRow) :
    Option String :=
  if key.1 = 0 then some "zero payer"
  else if r.payee = 0 then some "zero payee"
  else if r.amount = 0 then some "zero amount"
  else if time > r.expiry then some "expired"
  else if key ∈ v.used then some "nonce used"
  else if v.balance key.1 < r.amount then some "insufficient balance"
  else if valid key then none
  else some "bad signature"

/-- A voucher is paid on the chain. -/
def Vault.settle (v : Vault) (key : Key) (r : VoucherRow) : Vault where
  balance := Function.update v.balance key.1 (v.balance key.1 - r.amount)
  used := key :: v.used

/-- `X402Vault.settleBatch`: vouchers that are refused are skipped. -/
def Vault.settleBatch (time : Nat) (valid : Key → Bool) :
    Vault → List (Key × VoucherRow) → Vault × List Log
  | v, [] => (v, [])
  | v, (key, r) :: rest =>
    match v.verify time valid key r with
    | some reason =>
      let (v', logs) := settleBatch time valid v rest
      (v', .skipped key reason :: logs)
    | none =>
      let (v', logs) := settleBatch time valid (v.settle key r) rest
      (v', .settled key :: logs)

/-- Of a batch; one that reverted has no logs. -/
structure Receipt where
  status : Bool
  logs : List Log

/-- What becomes of a transaction. -/
inductive Fate where
  | waiting
  | mined (receipt : Receipt)
  | dropped

/-- A `settleBatch` transaction that the node accepted. -/
structure Batch where
  vouchers : List (Key × VoucherRow)
  fate : Fate := .waiting

/-! ### The program -/

/-- How the node answers an estimate: an error of the batch itself, or of the way to the node. -/
inductive Estimate where
  | gas (amount : Nat)
  | batchFailed (message : String)
  | unreachable (message : String)

/-- What the gateway asks of the database and of the node. -/
inductive Effect where
  | now
  /-- The checks of the voucher itself, and why it is rejected. -/
  | authenticate (key : Key) (v : VoucherRow)
  | lock (payer thread : Nat)
  | unlock (payer : Nat)
  | getVoucher (key : Key)
  /-- The vault answers a read of the balance. -/
  | balance (payer : Nat)
  /-- The answer arrives. -/
  | arrive (payer : Nat)
  | pendingSum (payer : Nat)
  | unlockAt (payer : Nat)
  | insert (key : Key) (row : VoucherRow)
  | beginFlush (thread : Nat)
  | endFlush
  | staleHashes (before : Nat)
  | getTransactionReceipt (hash : Nat)
  | submittedRows (hash : Nat)
  | update (key : Key) (f : VoucherRow → VoucherRow)
  | expire (now : Nat)
  | queuedRows (limit : Nat)
  | estimateGas (rows : List (Key × VoucherRow))
  | blockGasLimit
  | send (rows : List (Key × VoucherRow)) (gasLimit : Nat)
  | sent (hash : Nat)
  | wait (hash : Nat)
  | voidQueued (key : Key) (reason : String)
  /-- The indexer applies the next log of the vault. -/
  | applyLog

abbrev Answer : Effect → Type
  | .now | .balance _ | .pendingSum _ | .unlockAt _ | .send _ _ => Nat
  | .authenticate _ _ => Option String
  | .getVoucher _ | .insert _ _ | .beginFlush _ | .voidQueued _ _ => Bool
  | .staleHashes _ => List Nat
  | .getTransactionReceipt _ | .wait _ => Option Receipt
  | .submittedRows _ | .queuedRows _ => List (Key × VoucherRow)
  | .estimateGas _ => Estimate
  | .blockGasLimit => Option Nat
  | .lock _ _ | .unlock _ | .arrive _ | .endFlush | .sent _ | .update _ _ | .expire _ | .applyLog => Unit

/-- The statements of the database and the variables of the process are synchronous. -/
def Effect.awaits : Effect → Bool
  | .authenticate _ _ | .lock _ _ | .balance _ | .arrive _ | .unlockAt _
  | .getTransactionReceipt _ | .estimateGas _ | .blockGasLimit | .send _ _ | .sent _
  | .wait _ => true
  | _ => false

abbrev Prog := Task Answer

def ask (e : Effect) : Prog (Answer e) := Task.call e

/-! #### Accepting a voucher -/

/-- `message.toLowerCase().includes(word)` -/
def mentions (message word : String) : Bool :=
  message.toLower.toList.tails.any word.toList.isPrefixOf

/-- Known reasons are passed on; others are shortened. -/
def vaultFailure (message : String) : String :=
  if ["insufficient", "rejected", "expired", "used"].any (mentions message) then message
  else "vault check failed: " ++ slice message 120

section Settle

variable (key : Key) (v : VoucherRow)

/-- The deposit of the payer covers the voucher on top of everything pending, and does not unlock
before settlement: why not. -/
def checkFunds : Prog (Option String) := do
  let nowS ← ask .now
  tryCatch (do
    let balance ← ask (.balance key.1)
    ask (.arrive key.1)
    let pending ← ask (.pendingSum key.1)
    if balance < pending + v.amount then
      let total := pending + v.amount
      pure (some s!"insufficient vault balance: {balance} < {total} (incl. {pending} pending)")
    else do
      let unlockAt ← ask (.unlockAt key.1)
      if unlockAt ≠ 0 ∧ unlockAt ≤ nowS + X402_MIN_EXPIRY_S then
        pure (some (s!"payer's vault deposit unlocks at {unlockAt} — a deposit does not re-lock it: " ++
          "call withdraw() once that time has passed (it re-locks the vault), or requestUnlock() " ++
          "again to move the unlock 1 h out, before paying"))
      else pure none) fun message => pure (some (vaultFailure message))

/-- The row of an accepted voucher. -/
def queuedRow (nowS : Nat) : VoucherRow :=
  { v with
    resource := slice v.resource 512, status := .queued, txHash := none, error := none
    createdAt := nowS, settledAt := none, attempts := 0, batchCap := none }

/-- The primary key decides between two requests with one nonce. -/
def insertQueued : Prog (Option String) := do
  let nowS ← ask .now
  let inserted ← ask (.insert key (queuedRow v nowS))
  if inserted then pure none else pure (some "nonce already used")

/-- `settle` under the lock of the payer. -/
def settleLocked : Prog (Option String) := do
  let used ← ask (.getVoucher key)
  if used then pure (some "nonce already used")
  else do
    match ← checkFunds key v with
    | some reason => pure (some reason)
    | none => insertQueued key v

/-- One at a time per payer. The answer is why the voucher is not accepted. -/
def settle (thread : Nat) : Prog (Option String) := do
  match ← ask (.authenticate key v) with
  | some reason => pure (some reason)
  | none => do
    ask (.lock key.1 thread)
    let res ← tryCatch (settleLocked key v) fun message => do
      ask (.unlock key.1)
      throw message
    ask (.unlock key.1)
    pure res

end Settle

/-! #### Settling in batches -/

/-- The last reason for which the logs skip a voucher. -/
def skippedReason (logs : List Log) (key : Key) : Option String :=
  logs.foldl (fun found log =>
    match log with
    | .skipped k reason => if k = key then some reason else found
    | .settled _ => found) none

/-- How `finalize` writes a row of a batch of `n`, from the receipt and from what was read of the row
before. -/
def finalized (n hash : Nat) (receipt : Receipt) (t : Nat) (r : Key × VoucherRow)
    (row : VoucherRow) : VoucherRow :=
  if receipt.status = false then
    if n > 1 then
      let half := (n + 1) / 2
      { row with
        status := .queued, txHash := some hash, settledAt := none, batchCap := some half
        error := some (s!"batch of {n} reverted — re-queued in batches of at most {half} " ++
          "to find the voucher at fault") }
    else if r.2.attempts + 1 ≥ X402_MAX_SETTLE_ATTEMPTS then
      { row with
        status := .failed, txHash := some hash, settledAt := some t
        attempts := row.attempts + 1, batchCap := some 1
        error := some (s!"settleBatch reverted with this voucher alone {X402_MAX_SETTLE_ATTEMPTS}× " ++
          "— needs operator review") }
    else
      { row with
        status := .queued, txHash := some hash, settledAt := none
        attempts := row.attempts + 1, batchCap := some 1
        error := some "settleBatch reverted with this voucher alone — re-queued" }
  else
    match skippedReason receipt.logs r.1 with
    | some reason =>
      { row with
        status := .skipped, txHash := some hash, error := some reason, settledAt := some t
        attempts := row.attempts + 1 }
    | none =>
      { row with
        status := .settled, txHash := some hash, error := none, settledAt := some t
        attempts := row.attempts + 1 }

/-- The rows of a batch take over what its receipt says. -/
def finalize (rows : List (Key × VoucherRow)) (hash : Nat) (receipt : Receipt) : Prog Unit := do
  let t ← ask .now
  Task.each rows fun r => ask (.update r.1 (finalized rows.length hash receipt t r))

/-- The transaction of the batch is gone. -/
def requeued (row : VoucherRow) : VoucherRow :=
  { row with
    status := .queued, txHash := none, error := some "batch tx not found — re-queued"
    settledAt := none }

/-- Look up one transaction that has been submitted for long. -/
def reconcileOne (hash : Nat) : Prog Unit := do
  let receipt ← ask (.getTransactionReceipt hash)
  let rows ← ask (.submittedRows hash)
  match receipt with
  | some receipt => finalize rows hash receipt
  | none => Task.each rows fun r => ask (.update r.1 requeued)

/-- Batches whose fate was never seen are looked up. -/
def reconcileSubmitted : Prog Unit := do
  let t ← ask .now
  let stale ← ask (.staleHashes (t - X402_SUBMITTED_STALE_S))
  Task.each stale reconcileOne

/-- The node cannot run a batch: its error. -/
def fails (rows : List (Key × VoucherRow)) : Prog (Option String) := do
  match ← ask (.estimateGas rows) with
  | .gas _ => pure none
  | .batchFailed message => pure (some message)
  | .unreachable message => throw message

/-- A voucher that cannot even be settled alone is given up after three attempts. -/
def failedAlone (why : String) (t : Nat) (r : Key × VoucherRow) (row : VoucherRow) : VoucherRow :=
  if r.2.attempts + 1 ≥ X402_MAX_SETTLE_ATTEMPTS then
    { row with
      status := .failed, settledAt := some t, attempts := row.attempts + 1
      error := some (s!"settleBatch cannot run with this voucher ({X402_MAX_SETTLE_ATTEMPTS}× alone) " ++
        s!"— needs operator review: {why}") }
  else
    { row with
      status := .queued, settledAt := none, attempts := row.attempts + 1
      error := some s!"settleBatch cannot run with this voucher — re-queued: {why}" }

/-- A voucher the node cannot run a batch with on its own. -/
def failAlone (r : Key × VoucherRow) (message : String) : Prog Unit := do
  let t ← ask .now
  ask (.update r.1 (failedAlone (slice message 120) t r))

/-- Split vouchers until the parts can be run. The fuel is more than the length of the list. -/
def isolate : Nat → List (Key × VoucherRow) → List (Key × VoucherRow) →
    Prog (List (Key × VoucherRow))
  | 0, ok, _ => pure ok
  | fuel + 1, ok, part =>
    if part = [] then pure ok
    else do
      match ← fails part with
      | none => pure (ok ++ part)
      | some message =>
        match part with
        | [r] => do
          failAlone r message
          pure ok
        | _ => do
          let half := (part.length + 1) / 2
          let ok' ← isolate fuel ok (part.take half)
          isolate fuel ok' (part.drop half)

/-- A batch fails with a voucher behind the answers already added: does it also fail without them? -/
def failsBehind (plain ok : List (Key × VoucherRow)) (r : Key × VoucherRow) (message : String) :
    Prog (Option String) :=
  if ok.length = plain.length then pure (some message) else fails (plain ++ [r])

/-- Add the vouchers that need the answer of their payer, each at the end. -/
def addUnsigned (plain : List (Key × VoucherRow)) :
    List (Key × VoucherRow) → List (Key × VoucherRow) → Prog (List (Key × VoucherRow))
  | ok, [] => pure ok
  | ok, r :: rest => do
    match ← fails (ok ++ [r]) with
    | none => addUnsigned plain (ok ++ [r]) rest
    | some message =>
      match ← failsBehind plain ok r message with
      | none => pure ok
      | some message => do
        failAlone r message
        addUnsigned plain ok rest

section Flush

-- the signature of a voucher recovers to its payer
variable (signedByPayer : Key × VoucherRow → Bool)

/-- The queued vouchers a batch can be run with, in the order to send them. -/
def settleable (queued : List (Key × VoucherRow)) : Prog (List (Key × VoucherRow)) := do
  match ← fails queued with
  | none => pure queued
  | some _ => do
    let signed := queued.filter signedByPayer
    let plain ← isolate (signed.length + 1) [] signed
    addUnsigned plain plain (queued.filter fun r => !signedByPayer r)

/-- A batch holds no more vouchers than the cap of any voucher in it. -/
def capped : Nat → List (Key × VoucherRow) → List (Key × VoucherRow) → List (Key × VoucherRow)
  | _, queued, [] => queued
  | cap, queued, r :: rest =>
    let cap := min cap (r.2.batchCap.getD X402_BATCH_SIZE)
    if queued.length ≥ cap then queued else capped cap (queued ++ [r]) rest

/-- The batch was not sent. -/
def queuedAgain (message : String) (row : VoucherRow) : VoucherRow :=
  { row with status := .queued, txHash := none, error := some message, settledAt := none }

/-- The batch was sent. -/
def submittedIn (hash t : Nat) (row : VoucherRow) : VoucherRow :=
  { row with status := .submitted, txHash := some hash, error := none, settledAt := some t }

/-- `UPDATE … SET error = ? WHERE status = 'queued'` -/
def noted (message : String) (row : VoucherRow) : VoucherRow :=
  if row.status = .queued then { row with error := some message } else row

/-- A queued voucher that the vault would skip anyway. -/
def expiredAt (now : Nat) (row : VoucherRow) : VoucherRow :=
  if row.status = .queued ∧ row.expiry ≤ now then
    { row with status := .skipped, error := some "expired before settlement", settledAt := some now }
  else row

/-- Sends a batch with a margin of gas for each voucher, within the limit of the block. -/
def submit (rows : List (Key × VoucherRow)) : Prog Nat := do
  match ← ask (.estimateGas rows) with
  | .gas estimate => do
    let block ← ask .blockGasLimit
    let padded := estimate + X402_SETTLE_GAS_MARGIN_PER_VOUCHER * rows.length
    let hash ← ask (.send rows (match block with
      | some limit => if padded > limit then max limit estimate else padded
      | none => padded))
    ask (.sent hash)
    pure hash
  | .batchFailed message => throw message
  | .unreachable message => throw message

/-- The rows are marked before the wait; a timeout leaves them submitted. -/
def awaitBatch (rows : List (Key × VoucherRow)) (hash : Nat) : Prog Unit := do
  Task.each rows fun r => do
    let t ← ask .now
    ask (.update r.1 (submittedIn hash t))
  match ← ask (.wait hash) with
  | some receipt => finalize rows hash receipt
  | none => pure ()

/-- A batch that is refused goes back into the queue. -/
def sendBatch (rows : List (Key × VoucherRow)) : Prog Unit := do
  let sent ← tryCatch (submit rows >>= fun hash => pure (some hash)) fun message => do
    Task.each rows fun r => ask (.update r.1 (queuedAgain (slice message 200)))
    pure none
  match sent with
  | some hash => awaitBatch rows hash
  | none => pure ()

/-- The queued vouchers that can be settled, unless the node cannot be asked. -/
def chooseBatch (queued : List (Key × VoucherRow)) : Prog (List (Key × VoucherRow)) :=
  tryCatch (settleable signedByPayer queued) fun message => do
    Task.each queued fun r => ask (.update r.1 (noted (slice message 200)))
    pure []

/-- One round: old batches, expired vouchers, and then the next batch. -/
def flushQueue : Prog Unit := do
  reconcileSubmitted
  let t0 ← ask .now
  ask (.expire t0)
  let first ← ask (.queuedRows X402_BATCH_SIZE)
  let queued := capped X402_BATCH_SIZE [] first
  if queued = [] then pure ()
  else do
    let rows ← chooseBatch signedByPayer queued
    if rows = [] then pure () else sendBatch rows

/-- Only one round at a time. -/
def flush (thread : Nat) : Prog Unit := do
  let began ← ask (.beginFlush thread)
  if began then do
    tryCatch (flushQueue signedByPayer) fun message => do
      ask .endFlush
      throw message
    ask .endFlush
  else pure ()

end Flush

/-- A voucher that will not be settled. -/
def voidedAt (now : Nat) (reason : String) (row : VoucherRow) : VoucherRow :=
  { row with status := .voided, error := some (slice reason 200), settledAt := some now }

/-! ### The world -/

/-- The database, the locks of the process, and the chain. -/
structure World where
  vouchers : Table Key VoucherRow := .empty
  flushing : Option Nat := none
  /-- The thread that holds the lock of a payer. -/
  locks : Nat → Option Nat := fun _ => none
  /-- An answer about the balance of a payer is on its way to the holder of the lock. -/
  reading : Nat → Bool := fun _ => false
  vault : Vault
  /-- The transactions the node has accepted; the hash is the place in the list. -/
  txs : List Batch := []
  /-- The logs of the vault, with the transactions they are from. -/
  logs : List (Nat × Log) := []
  /-- How many of them the indexer has applied. -/
  indexed : Nat := 0
  /-- The vouchers that were given up, and how many transactions had been sent then. -/
  givenUp : List (Key × Nat) := []

/-- What the surroundings decide. -/
inductive Choice where
  /-- A statement of the database, at a time. -/
  | statement (now : Nat)
  | answer
  /-- The voucher passes or fails its checks; the deposit unlocks then; the block has this limit. -/
  | verdict (reason : Option String)
  | number (n : Nat)
  | estimate (e : Estimate)
  | limit (gas : Option Nat)
  /-- A request to the node fails before it has an effect, or its answer is lost. -/
  | fails (message : String)
  | settle (hash time : Nat) (valid : Key → Bool)
  | revert (hash : Nat)
  | drop (hash : Nat)
  | deposit (payer amount : Nat)

namespace World

variable (w : World)

def mapRows (f : Key → VoucherRow → VoucherRow) : World :=
  { w with vouchers := w.vouchers.mapRows f }

def update (key : Key) (f : VoucherRow → VoucherRow) : World :=
  w.mapRows fun k r => if k = key then f r else r

def expire (now : Nat) : World := w.mapRows fun _ => expiredAt now

/-- What vouchers that may still be settled will take from the payer. -/
def pendingSum (payer : Nat) : Nat :=
  w.vouchers.sum fun k r => if k.1 = payer ∧ r.pending then r.amount else 0

/-- Those with fewer attempts come first, then the oldest. -/
def queuedRows (limit : Nat) : List (Key × VoucherRow) :=
  ((w.vouchers.rows.filter (·.2.status = .queued)).insertionSort fun a b =>
    a.2.attempts < b.2.attempts ∨ a.2.attempts = b.2.attempts ∧ a.2.createdAt ≤ b.2.createdAt).take
      limit

/-- Batches that were sent before this time and are still open. -/
def staleHashes (before : Nat) : List Nat :=
  (w.vouchers.values.filterMap fun r =>
    if r.status = .submitted ∧ r.settledAt.any (decide <| · < before) then r.txHash else none).dedup

/-- The rows of a batch. -/
def submittedRows (hash : Nat) : List (Key × VoucherRow) :=
  w.vouchers.rows.filter fun r => r.2.status = .submitted && r.2.txHash = some hash

def receipt (hash : Nat) : Option Receipt :=
  match w.txs[hash]? with
  | some { fate := .mined receipt, .. } => some receipt
  | _ => none

/-- Not on its way to the chain. -/
def voidable (key : Key) : Bool :=
  (w.vouchers.get key).any fun r => r.status = .queued || r.status = .unsettleable

def voidQueued (now : Nat) (key : Key) (reason : String) : World :=
  { w.update key (voidedAt now reason) with givenUp := (key, w.txs.length) :: w.givenUp }

/-- `applyV3Event` for a log of the vault. -/
def applyLog (ts hash : Nat) : Log → World
  | .settled key => w.update key fun r =>
    { r with status := .settled, txHash := some hash, settledAt := some ts, error := none }
  | .skipped key reason => w.update key fun r =>
    if r.status = .settled then r
    else { r with status := .skipped, txHash := some hash, error := some reason }

def accept (rows : List (Key × VoucherRow)) : World :=
  { w with txs := w.txs ++ [{ vouchers := rows }] }

def setFate (hash : Nat) (tx : Batch) (fate : Fate) : World :=
  { w with txs := w.txs.set hash { tx with fate } }

/-- A transaction is included: the vault runs its batch. -/
def mine (hash time : Nat) (valid : Key → Bool) (tx : Batch) : World :=
  let run := w.vault.settleBatch time valid tx.vouchers
  { w.setFate hash tx (.mined { status := true, logs := run.2 }) with
    vault := run.1, logs := w.logs ++ run.2.map fun log => (hash, log) }

/-- How each effect is carried out. -/
def act : (e : Effect) → Choice → Option (Except String (Answer e) × World)
  | .now, .statement now => some (.ok now, w)
  | .authenticate _ _, .verdict reason => some (.ok reason, w)
  | .lock payer thread, .answer =>
    if w.locks payer = none then
      some (.ok (), { w with locks := Function.update w.locks payer (some thread) })
    else none
  | .unlock payer, .statement _ =>
    some (.ok (), { w with
      locks := Function.update w.locks payer none
      reading := Function.update w.reading payer false })
  | .getVoucher key, .statement _ => some (.ok (w.vouchers.get key).isSome, w)
  | .balance payer, .answer =>
    some (.ok (w.vault.balance payer), { w with reading := Function.update w.reading payer true })
  | .balance _, .fails message => some (.error message, w)
  | .arrive payer, .answer =>
    some (.ok (), { w with reading := Function.update w.reading payer false })
  | .arrive payer, .fails message =>
    some (.error message, { w with reading := Function.update w.reading payer false })
  | .pendingSum payer, .statement _ => some (.ok (w.pendingSum payer), w)
  | .unlockAt _, .number n => some (.ok n, w)
  | .unlockAt _, .fails message => some (.error message, w)
  | .insert key row, .statement _ =>
    if (w.vouchers.get key).isSome then some (.ok false, w)
    else some (.ok true, { w with vouchers := w.vouchers.set key row })
  | .beginFlush thread, .statement _ =>
    if w.flushing.isSome then some (.ok false, w)
    else some (.ok true, { w with flushing := some thread })
  | .endFlush, .statement _ => some (.ok (), { w with flushing := none })
  | .staleHashes before, .statement _ => some (.ok (w.staleHashes before), w)
  | .getTransactionReceipt hash, .answer => some (.ok (w.receipt hash), w)
  | .getTransactionReceipt _, .fails _ => some (.ok none, w)
  | .submittedRows hash, .statement _ => some (.ok (w.submittedRows hash), w)
  | .update key f, .statement _ => some (.ok (), w.update key f)
  | .expire now, .statement _ => some (.ok (), w.expire now)
  | .queuedRows limit, .statement _ => some (.ok (w.queuedRows limit), w)
  | .estimateGas _, .estimate e => some (.ok e, w)
  | .blockGasLimit, .limit gas => some (.ok gas, w)
  | .blockGasLimit, .fails message => some (.error message, w)
  | .send rows _, .answer => some (.ok w.txs.length, w.accept rows)
  | .send _ _, .fails message => some (.error message, w)
  | .sent _, .answer => some (.ok (), w)
  | .sent _, .fails message => some (.error message, w)
  | .wait hash, .answer => (w.receipt hash).map fun receipt => (.ok (some receipt), w)
  | .wait _, .fails _ => some (.ok none, w)
  | .voidQueued key reason, .statement now =>
    if w.voidable key then some (.ok true, w.voidQueued now key reason) else some (.ok false, w)
  | .applyLog, .statement now =>
    match w.logs[w.indexed]? with
    | some (hash, log) => some (.ok (), { w.applyLog now hash log with indexed := w.indexed + 1 })
    | none => some (.ok (), w)
  | _, _ => none

/-- A batch that the chain has not decided. -/
def waiting (hash : Nat) : Option Batch :=
  match w.txs[hash]? with
  | some { vouchers, fate := .waiting } => some { vouchers }
  | _ => none

/-- Transactions are included, and payers deposit. -/
def drift : Choice → Option World
  | .settle hash time valid => (w.waiting hash).map (w.mine hash time valid)
  | .revert hash => (w.waiting hash).map fun tx =>
    w.setFate hash tx (.mined { status := false, logs := [] })
  | .drop hash => (w.waiting hash).map fun tx => w.setFate hash tx .dropped
  | .deposit payer amount =>
    some { w with vault :=
      { w.vault with balance := Function.update w.vault.balance payer (w.vault.balance payer + amount) } }
  | _ => none

end World

/-- The tasks of the gateway. -/
inductive Job where
  | settle (key : Key) (v : VoucherRow)
  | flush
  | voidQueued (key : Key) (reason : String)
  | index

/-- The facilitator in its world. A crash leaves the database and the chain. -/
def runtime (signedByPayer : Key × VoucherRow → Bool) : Runtime Nat Job Answer World Choice where
  act := World.act
  awaits := Effect.awaits
  drift := World.drift
  reboot w := { w with flushing := none, locks := fun _ => none, reading := fun _ => false }
  task i j :=
    match j with
    | .settle key v => settle key v i >>= fun _ => pure ()
    | .flush => flush signedByPayer i
    | .voidQueued key reason => ask (.voidQueued key reason) >>= fun _ => pure ()
    | .index => ask .applyLog

/-- Nothing has happened yet. -/
structure World.Fresh (w : World) : Prop where
  vouchers : w.vouchers = .empty
  txs : w.txs = []
  logs : w.logs = []
  indexed : w.indexed = 0
  used : w.vault.used = []
  idle : w.flushing = none ∧ w.locks = (fun _ => none) ∧ w.reading = (fun _ => false)
  givenUp : w.givenUp = []

end Ferminux.Gateway.X402
