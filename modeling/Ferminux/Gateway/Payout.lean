import Ferminux.Lib.Async
import Ferminux.Lib.Table

/-!
# Gateway.Payout

The **payout of pay-ins** (`PayinWatcher.payout`): every confirmed quote is paid its `fmxOut` from
the hot wallet. The nonce of a payout is written to the row of the quote before the transaction is
sent, and a later pass that finds the chain past this nonce takes the quote as paid.

The passes run against a node that accepts the transactions of the wallet one nonce after the other
and drops none, while sends fail or are reported to fail, the rest of the gateway writes to the table
of quotes, and crashes hit anywhere.
-/

namespace Ferminux.Gateway.Payin

open Lib

/-! ### The table of quotes -/

/-- The states of a payin. -/
inductive Status where
  | quoted
  | superseded
  | expired
  | seen
  | confirmed
  | failed
  | paid
  deriving Repr, DecidableEq

/-- A transaction from the hot wallet, and the quote it was sent for. -/
structure Transfer where
  quoteId : Nat
  target : Nat
  value : Nat
  nonce : Nat
  deriving Repr, DecidableEq

/-- The recorded transaction; one that was recovered is known by its nonce. -/
inductive TxHashOut where
  | sent (tx : Transfer)
  | recovered (nonce : Nat)
  deriving Repr, DecidableEq

/-- The columns of a row of `payins` that the payout reads and writes. -/
structure PayinRow where
  status : Status
  target : Nat
  fmxOut : Nat
  seenAt : Nat := 0
  payoutNonce : Option Nat := none
  txHashOut : Option TxHashOut := none
  paidAt : Option Nat := none
  error : Option String := none
  deriving Repr, DecidableEq

/-- What the payout of a quote depends on: nobody else writes it. -/
def PayinRow.columns (r : PayinRow) : Option Nat × Nat × Nat × Bool :=
  (r.payoutNonce, r.target, r.fmxOut, r.status = .paid)

/-- An amount with a number of decimals, as text. -/
def formatUnits (value decimals : Nat) : String :=
  let digits := (Nat.toDigits 10 (value % 10 ^ decimals)).leftpad decimals '0'
  let fraction := (digits.reverse.dropWhile (· = '0')).reverse
  String.ofList (Nat.toDigits 10 (value / 10 ^ decimals) ++ '.' ::
    if fraction = [] then ['0'] else fraction)

def fmt18 (value : Nat) : String := formatUnits value 18

/-! ### The program -/

inductive BlockTag where
  | latest
  | pending
  deriving Repr, DecidableEq

/-- What the worker asks of the database and of the node. -/
inductive Effect where
  /-- `SELECT * FROM payins WHERE status = 'confirmed' ORDER BY seenAt ASC LIMIT 10` -/
  | confirmedRows
  | getTransactionCount (tag : BlockTag)
  | getBalance
  | reserve (quoteId nonce : Nat)
  | sendTransaction (tx : Transfer)
  | markPaid (quoteId : Nat) (hash : TxHashOut)
  | setError (quoteId : Nat) (message : String)

abbrev Answer : Effect → Type
  | .confirmedRows => List (Nat × PayinRow)
  | .getTransactionCount _ => Nat
  | .getBalance => Nat
  | .sendTransaction _ => TxHashOut
  | _ => Unit

/-- The node is asked over the network; the database answers at once. -/
def Effect.awaits : Effect → Bool
  | .getTransactionCount _ | .getBalance | .sendTransaction _ => true
  | _ => false

abbrev Prog := Task Answer

def ask (e : Effect) : Prog (Answer e) := Task.call e

/-- The nonce a row has, or a new one that is written to it. -/
def reserveNonce (id : Nat) (r : PayinRow) : Prog Nat :=
  match r.payoutNonce with
  | some nonce => pure nonce
  | none => do
    let nonce ← ask (.getTransactionCount .pending)
    ask (.reserve id nonce)
    pure nonce

/-- Reserves a nonce before it sends, so that a crash can be recovered. -/
def send (id : Nat) (r : PayinRow) : Prog Unit := do
  let bal ← ask .getBalance
  if bal < r.fmxOut + 10 ^ 16 then
    ask (.setError id s!"hot wallet underfunded: {fmt18 bal} FMX < {fmt18 r.fmxOut} FMX")
  else do
    let nonce ← reserveNonce id r
    let hash ← ask (.sendTransaction { quoteId := id, target := r.target, value := r.fmxOut, nonce })
    ask (.markPaid id hash)

/-- A quote whose reserved nonce the chain has gone past counts as paid. -/
def payoutOne (id : Nat) (r : PayinRow) : Prog Unit :=
  match r.payoutNonce with
  | some reserved => do
    let latest ← ask (.getTransactionCount .latest)
    if latest > reserved then ask (.markPaid id (.recovered reserved)) else send id r
  | none => send id r

/-- A round of the worker. The error of one row does not stop the others. -/
def payout : Prog Unit := do
  let rows ← ask .confirmedRows
  Task.each rows fun r =>
    tryCatch (payoutOne r.1 r.2) fun message =>
      ask (.setError r.1 (String.ofList (message.toList.take 200)))

/-! ### The world -/

/-- The database, and the hot wallet's account. -/
structure World where
  payins : Table Nat PayinRow
  /-- The transactions of the hot wallet that the node has accepted, by nonce. -/
  accepted : List Transfer := []
  /-- How many of them are on the chain. -/
  mined : Nat := 0

/-- What the surroundings decide. -/
inductive Choice where
  /-- A statement of the database, at a time. -/
  | statement (now : Nat)
  /-- The node answers; the balance is whatever it says. -/
  | answer (balance : Nat)
  /-- A request to the node fails, and had no effect. -/
  | fails (message : String)
  /-- A transaction is accepted, but an error is reported. -/
  | lost (message : String)
  | mine
  | insert (quoteId : Nat) (row : PayinRow)
  /-- The rest of the gateway changes a row. -/
  | update (quoteId : Nat) (row : PayinRow)

namespace World

variable (w : World)

def confirmedRows : List (Nat × PayinRow) :=
  ((w.payins.rows.filter (·.2.status = .confirmed)).insertionSort (·.2.seenAt ≤ ·.2.seenAt)).take 10

def reserve (id nonce : Nat) : World :=
  { w with payins := w.payins.modify id fun r => { r with payoutNonce := some nonce } }

def markPaid (now id : Nat) (hash : TxHashOut) : World :=
  { w with
    payins := w.payins.modify id fun r =>
      { r with status := .paid, txHashOut := some hash, paidAt := some now, error := none } }

def setError (id : Nat) (message : String) : World :=
  { w with payins := w.payins.modify id fun r => { r with error := some message } }

def transactionCount : BlockTag → Nat
  | .latest => w.mined
  | .pending => w.accepted.length

/-- The node takes a transaction at its next nonce. A smaller nonce is used up, and a larger one is
never sent: reserved nonces are pending counts of the past. -/
def accept (tx : Transfer) : Option World :=
  if tx.nonce = w.accepted.length then some { w with accepted := w.accepted ++ [tx] } else none

/-- How each effect is carried out. -/
def act : (e : Effect) → Choice → Option (Except String (Answer e) × World)
  | .confirmedRows, .statement _ => some (.ok w.confirmedRows, w)
  | .reserve id nonce, .statement _ => some (.ok (), w.reserve id nonce)
  | .markPaid id hash, .statement now => some (.ok (), w.markPaid now id hash)
  | .setError id message, .statement _ => some (.ok (), w.setError id message)
  | .getTransactionCount tag, .answer _ => some (.ok (w.transactionCount tag), w)
  | .getTransactionCount _, .fails message => some (.error message, w)
  | .getBalance, .answer balance => some (.ok balance, w)
  | .getBalance, .fails message => some (.error message, w)
  | .sendTransaction tx, .answer _ => (w.accept tx).map fun w' => (.ok (.sent tx), w')
  | .sendTransaction tx, .lost message => (w.accept tx).map fun w' => (.error message, w')
  | .sendTransaction _, .fails message => some (.error message, w)
  | _, _ => none

/-- The chain grows, and the rest of the gateway writes quotes: never what a payout depends on. -/
def drift : Choice → Option World
  | .mine => if w.mined < w.accepted.length then some { w with mined := w.mined + 1 } else none
  | .insert id row =>
    if w.payins.get id = none ∧ row.payoutNonce = none ∧ row.status ≠ .paid then
      some { w with payins := w.payins.set id row }
    else none
  | .update id row =>
    if (w.payins.get id).map PayinRow.columns = some row.columns then
      some { w with payins := w.payins.set id row }
    else none
  | _ => none

/-- Nothing was reserved or sent. -/
structure Fresh (w : World) : Prop where
  rows : ∀ {id row}, w.payins.get id = some row → row.payoutNonce = none ∧ row.status ≠ .paid
  accepted : w.accepted = []
  mined : w.mined = 0

end World

/-- The watcher in its world. A crash leaves the database and the node. -/
def runtime : Runtime Unit Unit Answer World Choice where
  act := World.act
  awaits := Effect.awaits
  drift := World.drift
  reboot w := w
  task _ _ := payout

/-- A nonce is reserved for a quote only when no other quote holds it. -/
def Unshared (w : World) (e : Effect) (_ : Choice) : Prop :=
  match e with
  | .reserve id nonce => ∀ r ∈ w.payins.rows, r.2.payoutNonce = some nonce → r.1 = id
  | _ => True

instance (w : World) (e : Effect) (o : Choice) : Decidable (Unshared w e o) :=
  match e with
  | .reserve id nonce =>
    inferInstanceAs (Decidable (∀ r ∈ w.payins.rows, r.2.payoutNonce = some nonce → r.1 = id))
  | .confirmedRows | .getTransactionCount _ | .getBalance | .sendTransaction _ | .markPaid _ _
  | .setError _ _ => inferInstanceAs (Decidable True)

end Ferminux.Gateway.Payin
