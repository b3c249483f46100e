import Ferminux.Gateway.Payout

/-!
# Gateway.Referrals

The **payout of referrals** (`ReferralPayout`): an eligible referral pays the owner of the new agent
and the owner of the agent that referred it, one transfer each (a *leg*), from the growth wallet. As
for pay-ins, the nonce of a transfer is written to the row before it is sent, and the chain having
gone past it counts as the transfer. Here a nonce that another leg has recorded its transaction on is
given up for a fresh one.

The rows become eligible and lose their eligibility by what the indexer does between the steps of a
tick (`revertJob`); the daily caps count what was paid.
-/

namespace Ferminux.Gateway.Referral

open Lib
open Payin (BlockTag formatUnits)

/-! ### The table of referrals -/

/-- The two payments of a referral: to the new agent's owner, and to the referrer's. -/
inductive Leg where
  | new
  | ref
  deriving Repr, DecidableEq

/-- A transaction from the growth wallet, and the leg of the referral it was sent for. -/
structure Transfer where
  newAgentId : Nat
  leg : Leg
  target : Nat
  value : Nat
  nonce : Nat
  deriving Repr, DecidableEq

/-- What is written as the hash of a transfer. -/
inductive TxHash where
  | sent (tx : Transfer)
  | recovered (nonce : Nat)
  deriving Repr, DecidableEq

/-- The columns of a leg. -/
structure LegColumns where
  tx : Option TxHash := none
  nonce : Option Nat := none
  sender : Option Nat := none
  deriving Repr, DecidableEq

/-- A row of `referrals`. -/
structure ReferralRow where
  newOwner : Nat
  refOwner : Nat
  new : LegColumns := {}
  ref : LegColumns := {}
  paid : Bool := false
  paidAt : Option Nat := none
  rewardWei : Option Nat := none
  eligibleAt : Option Nat := none
  jobId : Option Nat := none
  eligibleBlock : Option Nat := none
  reorgFlag : Option String := none
  error : Option String := none
  deriving Repr, DecidableEq

namespace ReferralRow

variable (r : ReferralRow)

def leg : Leg → LegColumns
  | .new => r.new
  | .ref => r.ref

def owner : Leg → Nat
  | .new => r.newOwner
  | .ref => r.refOwner

def modifyLeg (leg : Leg) (f : LegColumns → LegColumns) : ReferralRow :=
  match leg with
  | .new => { r with new := f r.new }
  | .ref => { r with ref := f r.ref }

/-- `eligibleAt IS NOT NULL AND reorgFlag IS NULL` -/
def payable : Bool := r.eligibleAt.isSome && r.reorgFlag.isNone

/-- Something was reserved, sent or recorded for the referral. -/
def started : Bool :=
  r.paid || r.new.tx.isSome || r.ref.tx.isSome || r.new.nonce.isSome || r.ref.nonce.isSome

/-- `revertJobOnReferrals` on one row: the completion of a job was reorged out. -/
def revertJob (jobId blockNumber : Nat) (r : ReferralRow) : ReferralRow :=
  if r.jobId = some jobId ∧ r.eligibleAt.isSome then
    if r.started then
      let what := if r.paid then "was sent" else "started"
      { r with
        reorgFlag := some
          s!"the completion of job {jobId} (block {blockNumber}) was reorged out after this payout {what}" }
    else { r with eligibleAt := none, jobId := none, eligibleBlock := none, error := none }
  else r

/-- What the transfer of a leg depends on: nobody else writes it. -/
def slot (leg : Leg) : LegColumns × Nat := (r.leg leg, r.owner leg)

/-- What both transfers of the row depend on. The reward is fixed as the row is inserted. -/
def slots : (LegColumns × Nat) × (LegColumns × Nat) × Option Nat :=
  (r.slot .new, r.slot .ref, r.rewardWei)

end ReferralRow

/-! ### The program -/

/-- What the worker asks of the database and of the node. -/
inductive Effect where
  /-- Rows to be paid whose block of completion is not known. -/
  | unplacedRows
  /-- The block of the latest `JobCompleted` log of a job. -/
  | completionBlock (jobId : Nat)
  | setEligibleBlock (newAgentId : Nat) (block : Option Nat)
  | indexedHead
  | dueRows (deep : Int)
  | now
  | paidToday (day : Nat)
  | paidTodayBy (day owner : Nat)
  | getBalance
  | getTransactionCount (tag : BlockTag)
  /-- Some leg has recorded its transaction on the nonce. -/
  | taken (nonce : Nat) (sender : Option Nat) (wallet : Nat)
  /-- Write a nonce if the row is payable. -/
  | reserve (newAgentId : Nat) (leg : Leg) (nonce wallet : Nat)
  /-- Write the wallet if the row is payable. -/
  | recordSender (newAgentId : Nat) (leg : Leg) (wallet : Nat)
  | send (tx : Transfer)
  | setTx (newAgentId : Nat) (leg : Leg) (hash : TxHash)
  | markPaid (newAgentId paidAt reward : Nat)
  | setError (newAgentId : Nat) (message : String)

abbrev Answer : Effect → Type
  | .unplacedRows | .dueRows _ => List (Nat × ReferralRow)
  | .completionBlock _ => Option Nat
  | .indexedHead | .now | .paidToday _ | .paidTodayBy _ _ | .getBalance
  | .getTransactionCount _ => Nat
  | .taken _ _ _ | .reserve _ _ _ _ | .recordSender _ _ _ => Bool
  | .send _ => TxHash
  | .setEligibleBlock _ _ | .setTx _ _ _ | .markPaid _ _ _ | .setError _ _ => Unit

/-- The node is asked over the network; the database answers at once. -/
def Effect.awaits : Effect → Bool
  | .getBalance | .getTransactionCount _ | .send _ => true
  | _ => false

abbrev Prog := Task Answer

def ask (e : Effect) : Prog (Answer e) := Task.call e

/-- How the worker is configured. -/
structure Options where
  wallet : Nat
  rewardWei : Nat
  maxPerReferrerPerDay : Nat := 5
  maxPerDay : Nat := 50

/-- A completion this deep is not expected to be reorged out. -/
def REORG_DEPTH : Nat := 64

def dayStart (now : Nat) : Nat := now - now % 86400

/-- The counts at the pending and at the latest block, asked for one after the other. -/
def txCounts : Prog (Nat × Nat) := do
  let pending ← ask (.getTransactionCount .pending)
  let latest ← ask (.getTransactionCount .latest)
  pure (pending, latest)

def notPayable : String := "not payable: the job completion behind it was reorged out"

section Transfer

variable (o : Options) (id : Nat) (r : ReferralRow) (leg : Leg) (target value : Nat)

/-- Sends at a reserved nonce and records the transaction. -/
def sendAt (nonce : Nat) : Prog TxHash := do
  let hash ← ask (.send { newAgentId := id, leg, target, value, nonce })
  ask (.setTx id leg hash)
  pure hash

/-- Reserves the next nonce, unless the row is no longer payable, and sends. -/
def sendFresh : Prog TxHash := do
  let counts ← txCounts
  let reserved ← ask (.reserve id leg counts.1 o.wallet)
  if reserved then sendAt id leg target value counts.1 else throw notPayable

/-- A leg with a nonce: it was taken by another leg, was spent on this one, or is sent again. -/
def resume (nonce : Nat) : Prog TxHash := do
  let counts ← txCounts
  let taken ← ask (.taken nonce (r.leg leg).sender o.wallet)
  if taken then sendFresh o id leg target value
  else if counts.2 > nonce then do
    ask (.setTx id leg (.recovered nonce))
    pure (.recovered nonce)
  else do
    let resent ← ask (.recordSender id leg o.wallet)
    if resent then sendAt id leg target value nonce else throw notPayable

/-- One leg. A nonce that was reserved for another wallet is left alone. -/
def transfer : Prog TxHash :=
  match (r.leg leg).nonce with
  | none => sendFresh o id leg target value
  | some nonce =>
    match (r.leg leg).sender with
    | some sender =>
      if sender ≠ o.wallet then
        throw (s!"nonce {nonce} was reserved on GROWTH_KEY {sender}, not {o.wallet}: " ++
          "held until that wallet's transfer is checked")
      else resume o id r leg target value nonce
    | none => resume o id r leg target value nonce

/-- The recorded transaction of a leg, or its transfer. -/
def transferIfMissing : Prog TxHash :=
  match (r.leg leg).tx with
  | some hash => pure hash
  | none => transfer o id r leg target value

end Transfer

/-- The payouts of the day, and of this tick. -/
structure Counters where
  paidAll : Nat
  paidBy : Nat → Option Nat := fun _ => none
  paid : Nat := 0

/-- How a turn of the loop over the rows ends. -/
inductive Turn where
  | next (k : Counters)
  | stop (k : Counters)

section Tick

variable (o : Options) (deep : Int) (day id : Nat) (r : ReferralRow) (k : Counters)

/-- The block of the completion behind a referral, if the indexer has it. -/
def completionOf : Option Nat → Prog (Option Nat)
  | none => pure none
  | some jobId => ask (.completionBlock jobId)

/-- The payouts of the day to an owner: counted in this tick, or else read. -/
def countOf (owner : Nat) : Prog Nat :=
  match k.paidBy owner with
  | some count => pure count
  | none => ask (.paidTodayBy day owner)

/-- Both legs. The first row that the wallet cannot fund ends the tick. -/
def payBoth (reward byOwner : Nat) : Prog Turn := do
  let bal ← ask .getBalance
  if bal < reward * 2 + 10 ^ 16 then do
    let has := formatUnits bal 18
    let needs := formatUnits (reward * 2) 18
    ask (.setError id s!"GROWTH_KEY {o.wallet} underfunded: {has} FMX < {needs} FMX")
    pure (.stop k)
  else do
    let _ ← transferIfMissing o id r .new r.newOwner reward
    let _ ← transferIfMissing o id r .ref r.refOwner reward
    let t ← ask .now
    ask (.markPaid id t reward)
    pure (.next { k with
      paid := k.paid + 1, paidAll := k.paidAll + 1
      paidBy := Function.update k.paidBy r.refOwner (some (byOwner + 1)) })

/-- A referral within the caps. One that has begun is finished regardless of them. -/
def payCapped (reward : Nat) : Prog Turn := do
  let inFlight := r.new.tx.isSome || r.new.nonce.isSome
  let byOwner ← countOf day k r.refOwner
  if inFlight = false ∧ k.paidAll ≥ o.maxPerDay then do
    ask (.setError id s!"daily payout cap ({o.maxPerDay}) reached — deferred")
    pure (.next k)
  else if inFlight = false ∧ byOwner ≥ o.maxPerReferrerPerDay then do
    ask (.setError id s!"referrer's daily payout cap ({o.maxPerReferrerPerDay}) reached — deferred")
    pure (.next k)
  else
    tryCatch (payBoth o id r k reward byOwner) fun message => do
      ask (.setError id (String.ofList (message.toList.take 200)))
      pure (.next k)

/-- One row: it is paid only on a completion that is deep enough. -/
def payRow : Prog Turn := do
  let completed ← completionOf r.jobId
  if completed.all (fun block => decide (deep < block)) then do
    ask (.setEligibleBlock id completed)
    pure (.next k)
  else payCapped o day id r k (r.rewardWei.getD o.rewardWei)

/-- The loop over the rows, which the first row that cannot be funded ends. -/
def payRows : List (Nat × ReferralRow) → Counters → Prog Nat
  | [], k => pure k.paid
  | row :: rest, k => do
    match ← payRow o deep day row.1 row.2 k with
    | .next k => payRows rest k
    | .stop k => pure k.paid

/-- A row learns the block of its completion. -/
def place (row : Nat × ReferralRow) : Prog Unit := do
  match ← completionOf row.2.jobId with
  | none => pure ()
  | some block => ask (.setEligibleBlock row.1 (some block))

/-- A round of the worker over the rows that are due. -/
def tick : Prog Nat := do
  let unplaced ← ask .unplacedRows
  Task.each unplaced place
  let head ← ask .indexedHead
  let deep : Int := head - REORG_DEPTH
  let rows ← ask (.dueRows deep)
  let now ← ask .now
  let paidAll ← ask (.paidToday (dayStart now))
  payRows o deep (dayStart now) rows { paidAll }

end Tick

/-! ### The world -/

/-- The database, and the growth wallet's account. -/
structure World where
  referrals : Table Nat ReferralRow
  /-- The transactions of the growth wallet that the node has accepted, by nonce. -/
  accepted : List Transfer := []
  /-- How many of them are on the chain. -/
  mined : Nat := 0

/-- What the surroundings decide. -/
inductive Choice where
  /-- A statement of the database: the clock, and what the indexer has recorded. -/
  | statement (now head : Nat) (block : Option Nat)
  /-- The node answers; the balance is whatever it says. -/
  | answer (balance : Nat)
  /-- A request to the node fails, and had no effect. -/
  | fails (message : String)
  /-- A transaction is accepted, but an error is reported. -/
  | lost (message : String)
  | mine
  /-- The indexer rolls back the completion of a job. -/
  | revertJob (jobId blockNumber : Nat)
  /-- The rest of the gateway inserts a referral. -/
  | insert (newAgentId : Nat) (row : ReferralRow)
  /-- The rest of the gateway changes a row: it becomes eligible, or its flag is cleared. -/
  | update (newAgentId : Nat) (row : ReferralRow)

namespace World

variable (w : World)

def modify (id : Nat) (f : ReferralRow → ReferralRow) : World :=
  { w with referrals := w.referrals.modify id f }

/-- Eligible rows without a block. -/
def unplacedRows : List (Nat × ReferralRow) :=
  w.referrals.rows.filter fun r => !r.2.paid && r.2.eligibleAt.isSome && r.2.eligibleBlock.isNone

/-- The oldest twenty that are deep enough. -/
def dueRows (deep : Int) : List (Nat × ReferralRow) :=
  ((w.referrals.rows.filter fun r => !r.2.paid && r.2.payable &&
      r.2.eligibleBlock.any fun block => decide ((block : Int) ≤ deep)).insertionSort
    (·.2.eligibleAt.getD 0 ≤ ·.2.eligibleAt.getD 0)).take 20

def paidToday (day : Nat) : Nat :=
  w.referrals.values.countP fun r => r.paid && r.paidAt.any (decide <| day ≤ ·)

def paidTodayBy (day owner : Nat) : Nat :=
  w.referrals.values.countP fun r =>
    r.paid && r.paidAt.any (decide <| day ≤ ·) && r.refOwner = owner

/-- Another leg has recorded a transaction at the nonce. -/
def taken (nonce : Nat) (sender : Option Nat) (wallet : Nat) : Bool :=
  w.referrals.values.any fun r => [Leg.new, .ref].any fun leg =>
    (r.leg leg).nonce = some nonce &&
      ((r.leg leg).sender = sender || (r.leg leg).sender = some (sender.getD wallet)) &&
      (r.leg leg).tx.isSome

def payable (id : Nat) : Bool := (w.referrals.get id).any (·.payable)

def reserve (id : Nat) (leg : Leg) (nonce wallet : Nat) : World :=
  w.modify id (·.modifyLeg leg fun c => { c with nonce := some nonce, sender := some wallet })

/-- An old row learns the wallet that its nonce belongs to. -/
def recordSender (id : Nat) (leg : Leg) (wallet : Nat) : World :=
  w.modify id (·.modifyLeg leg fun c => { c with sender := some (c.sender.getD wallet) })

def setTx (id : Nat) (leg : Leg) (hash : TxHash) : World :=
  w.modify id fun r => { r.modifyLeg leg fun c => { c with tx := some hash } with error := none }

/-- The node takes a transaction at its next nonce. A smaller nonce is used up, and a larger one is
never sent: reserved nonces are pending counts of the past. -/
def accept (tx : Transfer) : Option World :=
  if tx.nonce = w.accepted.length then some { w with accepted := w.accepted ++ [tx] } else none

def transactionCount : BlockTag → Nat
  | .latest => w.mined
  | .pending => w.accepted.length

/-- The statements of the database. -/
def query (now head : Nat) (block : Option Nat) :
    (e : Effect) → Option (Answer e × World)
  | .unplacedRows => some (w.unplacedRows, w)
  | .completionBlock _ => some (block, w)
  | .setEligibleBlock id block => some ((), w.modify id ({ · with eligibleBlock := block }))
  | .indexedHead => some (head, w)
  | .dueRows deep => some (w.dueRows deep, w)
  | .now => some (now, w)
  | .paidToday day => some (w.paidToday day, w)
  | .paidTodayBy day owner => some (w.paidTodayBy day owner, w)
  | .taken nonce sender wallet => some (w.taken nonce sender wallet, w)
  | .reserve id leg nonce wallet =>
    some (w.payable id, if w.payable id then w.reserve id leg nonce wallet else w)
  | .recordSender id leg wallet =>
    some (w.payable id, if w.payable id then w.recordSender id leg wallet else w)
  | .setTx id leg hash => some ((), w.setTx id leg hash)
  | .markPaid id t reward =>
    some ((), w.modify id fun r =>
      { r with paid := true, paidAt := some t, rewardWei := some reward, error := none })
  | .setError id message => some ((), w.modify id ({ · with error := some message }))
  | .getBalance | .getTransactionCount _ | .send _ => none

/-- How each effect is carried out. -/
def act : (e : Effect) → Choice → Option (Except String (Answer e) × World)
  | .getTransactionCount tag, .answer _ => some (.ok (w.transactionCount tag), w)
  | .getTransactionCount _, .fails message => some (.error message, w)
  | .getBalance, .answer balance => some (.ok balance, w)
  | .getBalance, .fails message => some (.error message, w)
  | .send tx, .answer _ => (w.accept tx).map fun w' => (.ok (.sent tx), w')
  | .send tx, .lost message => (w.accept tx).map fun w' => (.error message, w')
  | .send _, .fails message => some (.error message, w)
  | e, .statement now head block => (w.query now head block e).map fun r => (.ok r.1, r.2)
  | _, _ => none

/-- The chain grows, the indexer rolls back, and the rest of the gateway writes referrals: never
what a transfer depends on. -/
def drift : Choice → Option World
  | .mine => if w.mined < w.accepted.length then some { w with mined := w.mined + 1 } else none
  | .revertJob jobId blockNumber =>
    some { w with referrals := w.referrals.mapRows fun _ => (·.revertJob jobId blockNumber) }
  | .insert id row =>
    if w.referrals.get id = none ∧ row.new = {} ∧ row.ref = {} then
      some { w with referrals := w.referrals.set id row }
    else none
  | .update id row =>
    if (w.referrals.get id).map ReferralRow.slots = some row.slots then
      some { w with referrals := w.referrals.set id row }
    else none
  | _ => none

/-- Nothing was reserved or sent. -/
structure Fresh (w : World) : Prop where
  rows : ∀ {id row}, w.referrals.get id = some row → row.new = {} ∧ row.ref = {}
  accepted : w.accepted = []
  mined : w.mined = 0

end World

/-- The payout worker in its world. A crash leaves the database and the node. -/
def runtime (o : Options) : Runtime Unit Unit Answer World Choice where
  act := World.act
  awaits := Effect.awaits
  drift := World.drift
  reboot w := w
  task _ _ := tick o >>= fun _ => pure ()

/-- A nonce is reserved for a leg only when no other leg holds it. -/
def Unshared (w : World) (e : Effect) (_ : Choice) : Prop :=
  match e with
  | .reserve id leg nonce _ => ∀ r ∈ w.referrals.rows, ∀ leg' ∈ [Leg.new, .ref],
      (r.2.leg leg').nonce = some nonce → r.1 = id ∧ leg' = leg
  | _ => True

instance (w : World) (e : Effect) (o : Choice) : Decidable (Unshared w e o) :=
  match e with
  | .reserve id leg nonce _ =>
    inferInstanceAs (Decidable (∀ r ∈ w.referrals.rows, ∀ leg' ∈ [Leg.new, .ref],
      (r.2.leg leg').nonce = some nonce → r.1 = id ∧ leg' = leg))
  | .unplacedRows | .completionBlock _ | .setEligibleBlock _ _ | .indexedHead | .dueRows _ | .now
  | .paidToday _ | .paidTodayBy _ _ | .getBalance | .getTransactionCount _ | .taken _ _ _
  | .recordSender _ _ _ | .send _ | .setTx _ _ _ | .markPaid _ _ _ | .setError _ _ =>
    inferInstanceAs (Decidable True)

end Ferminux.Gateway.Referral
