import Ferminux.Relayer.ChainClient

/-!
# Relayer.Watcher

The **watcher** of a source chain (`watcher.ts`): it scans the blocks behind its cursor for
`Sent` logs, stores them as `seen`, moves the cursor over what is scanned and settled, and
promotes a stored transfer to `confirmed` once its block is settled and the endpoints agree
about its log.
-/

namespace Ferminux.Relayer

open Lib Lib.Task Uses

/-- What a node is configured with and takes from its libraries. -/
structure NodeConfig where
  host : Host
  chains : Nat → Option ChainConfig
  requireRpcQuorum : Bool
  /-- A message with which an endpoint refuses the range of a log read. -/
  isRangeRefusal : String → Bool

namespace Node

variable (N : NodeConfig) (chain : ChainConfig) (chainId : Nat)

/-- Where a watcher without a cursor starts: the configured block, else the head. -/
def startingBlock : Prog Nat :=
  if 0 < chain.startBlock then pure (chain.startBlock - 1)
  else do
    let head ← getBlockNumber chain chainId
    pure (head - 1)

/-- Resume point: the persisted cursor, else a new one. -/
def initCursor : Prog Nat := do
  match ← ask (.getCursor chainId) with
  | some stored => pure stored
  | none => do
    let start ← startingBlock chain chainId
    write (.setCursor chainId start)
    pure start

/-- `getCursor(…) ?? (await this.initCursor())`. -/
def currentCursor : Prog Nat := do
  match ← ask (.getCursor chainId) with
  | some cursor => pure cursor
  | none => initCursor chain chainId

/-- The row of a transfer that is seen for the first time. -/
def newRow (ev : SentEvent) (now : Nat) : StoredTransfer :=
  { transferId := ev.transferId, transfer := ev.transfer, fee := ev.fee
    srcBlockNumber := ev.blockNumber, srcBlockHash := ev.blockHash, srcTxHash := ev.txHash
    srcLogIndex := ev.logIndex, status := .seen, reason := none, firstSeenAt := now
    confirmedAt := none, executedAt := none, executedTxHash := none, updatedAt := now }

/-- The row of a transfer that a reorganisation moved. -/
def reanchored (existing : StoredTransfer) (ev : SentEvent) (now : Nat) : StoredTransfer :=
  { existing with
    srcBlockNumber := ev.blockNumber
    srcBlockHash := ev.blockHash
    srcTxHash := ev.txHash
    srcLogIndex := ev.logIndex
    updatedAt := now }

/-- Insert a newly observed `Sent`, or refresh the anchor of one still `seen`. That the event
names the chain that is watched as its source is not checked. -/
def record (ev : SentEvent) : Prog Unit := do
  let existing ← ask (.getTransfer ev.transferId)
  let now ← now
  match existing with
  | none => ask (.record chainId (newRow ev now))
  | some existing =>
    if existing.status ≠ .seen then pure ()
    else if existing.srcBlockHash.toLower ≠ ev.blockHash.toLower then
      ask (.record chainId (reanchored existing ev now))
    else pure ()

/-- Scan chunk by chunk: record what is found, then move the cursor over what is scanned and
settled. Returns the cursor that was saved last. -/
def scanChunks (settled : Int) : List (Nat × Nat) → Nat → Prog Nat
  | [], saved => pure saved
  | (start, stop) :: rest, saved => do
    let logs ← logsWithFailover chain chainId N.isRangeRefusal start stop
    let events ← Task.lift (decodeSent N.host.ethers logs)
    Task.each events (record chainId)
    let safe := min (stop : Int) settled
    if (saved : Int) < safe then do
      write (.setCursor chainId safe.toNat)
      scanChunks settled rest safe.toNat
    else scanChunks settled rest saved

/-- Promote one `seen` transfer that is buried deep enough, or bury it. -/
def confirmOne (settled : Int) (t : StoredTransfer) : Prog Unit := do
  if settled < (t.srcBlockNumber : Int) then pure ()
  else do
    match ← confirmSentAcrossEndpoints chain chainId N.host.ethers N.requireRpcQuorum t.transferId
        t.srcBlockNumber t.srcBlockHash with
    | .vanished reason => write (.setTransferStatus t.transferId .orphaned (some reason))
    | .quorum_failed _ => pure ()
    | .unavailable _ => pure ()
    | .ok => ask (.confirm chainId t)

/-- The transfers that were seen, one after the other. -/
def confirmPending (settled : Int) : Prog Unit := do
  let pending ← ask (.listTransfers
    { status := some [.seen], srcChainId := some chainId, limit := some 1000 })
  Task.each pending (confirmOne N chain chainId settled)

/-- The chunks of a scan from behind the cursor to the head. -/
def scanned (cursor head : Nat) : List (Nat × Nat) :=
  chunks chain.maxBlockRange (head - cursor) (cursor + 1) head

/-- A round of the watcher: health, new logs, and then confirmations. -/
def poll : Prog Unit := do
  healthCheck chainId
  let healthy ← healthyEndpoints chainId
  if healthy.isEmpty then pure ()
  else do
    let cursor ← currentCursor chain chainId
    let head ← getBlockNumber chain chainId
    let settled ← settledHeight chain chainId
    let saved ← scanChunks N chain chainId settled (scanned chain cursor head) cursor
    confirmPending N chain chainId settled
    if (saved : Int) < settled then write (.setCursor chainId settled.toNat)

/-- One full scan and confirmation pass. What a pass throws is logged. -/
def pollOnce : Prog Unit := tryCatch (poll N chain chainId) fun _ => pure ()

/-! ### The effects of a watcher -/

def rereading : Effect → Prop
  | .getLogs _ _ _ _ => True
  | e => probing e

instance : Within probing rereading := {}

def scanning : Effect → Prop
  | .getLogs _ _ _ _ => True
  | .getTransfer _ => True
  | .record source _ => source = chainId
  | .write (.setCursor _ _) => True
  | e => probing e

instance : Within rereading (scanning chainId) := {}

def confirming : Effect → Prop
  | .getLogs _ _ _ _ => True
  | .listTransfers _ => True
  | .write (.setTransferStatus _ .orphaned _) => True
  | .confirm source _ => source = chainId
  | e => probing e

instance : Within rereading (confirming chainId) := {}

variable {chainId}

variable {N} {chain} {transferId blockHash : String} {blockNumber : Nat}
  {isRangeRefusal : String → Bool} {q : Effect → Prop} {start stop : Nat} {E : Ethers}

lemma uses_currentCursor (hq : ∀ e, probing e → q e)
    (hhead : ∀ i, q (.blockNumber chainId i)) (hget : q (.getCursor chainId))
    (hset : ∀ block, q (.write (.setCursor chainId block))) :
    (currentCursor chain chainId).Uses q := by
  have hstart : (startingBlock chain chainId).Uses q :=
    ite uses_pure ((uses_getBlockNumber chain chainId hq hhead).bind fun _ => uses_pure)
  refine bind (uses_call.mpr hget) fun stored => ?_
  cases stored with
  | some => exact uses_pure
  | none =>
    refine bind (uses_call.mpr hget) fun stored => ?_
    cases stored with
    | some => exact uses_pure
    | none =>
      refine hstart.bind fun start => ?_
      exact bind (uses_call.mpr (hset start)) fun _ => uses_pure

lemma uses_firstLogs {failure : String} (endpoints : List Nat) :
    (firstLogs chainId isRangeRefusal start stop failure endpoints).Uses rereading := by
  induction endpoints with
  | nil => exact uses_throw
  | cons endpoint rest ih =>
    refine catching ?_ fun reason => ?_
    · exact next trivial fun _ => next trivial fun _ => uses_pure
    · refine ite (bind ?_ fun _ => ih) ih
      exact .one trivial

lemma uses_logsWithFailover :
    (logsWithFailover chain chainId isRangeRefusal start stop).Uses rereading := by
  refine bind ((uses_logEndpoints chainId).within)
    fun endpoints => ?_
  exact ite uses_throw (uses_firstLogs endpoints)

lemma uses_record (ev : SentEvent) : (record chainId ev).Uses (scanning chainId) := by
  refine next trivial fun existing => ?_
  refine next trivial fun now => ?_
  cases existing with
  | none => exact .one rfl
  | some =>
    refine ite uses_pure (ite ?_ uses_pure)
    exact .one rfl

lemma uses_scanChunks (settled : Int) (chunks : List (Nat × Nat)) (saved : Nat) :
    (scanChunks N chain chainId settled chunks saved).Uses (scanning chainId) := by
  induction chunks generalizing saved with
  | nil => exact uses_pure
  | cons _ _ ih =>
    refine bind uses_logsWithFailover.within fun logs => ?_
    refine bind uses_lift fun events => ?_
    refine bind (each fun ev _ => uses_record ev) fun _ => ?_
    refine ite (bind ?_ fun _ => ih _) (ih saved)
    exact .one trivial

lemma uses_askEndpoint (tally : Tally) (endpoint : Nat) :
    (askEndpoint chain chainId E transferId blockNumber blockHash tally endpoint).Uses
      rereading := by
  refine catching ?_ fun reason => ?_
  · exact next trivial fun _ => next trivial fun _ => bind uses_lift fun _ => uses_pure
  · exact next trivial fun _ => uses_pure

lemma uses_askEndpoints (endpoints : List Nat) (tally : Tally) :
    (askEndpoints chain chainId E transferId blockNumber blockHash endpoints tally).Uses
      rereading := by
  induction endpoints generalizing tally with
  | nil => exact uses_pure
  | cons endpoint _ ih => exact (uses_askEndpoint tally endpoint).bind ih

lemma uses_confirmSent {requireAll : Bool} :
    (confirmSentAcrossEndpoints chain chainId E requireAll transferId blockNumber blockHash).Uses
      rereading := by
  refine bind ((uses_logEndpoints chainId).within)
    fun endpoints => ?_
  refine ite uses_pure (ite uses_pure ?_)
  exact (uses_askEndpoints endpoints {}).bind fun _ => uses_pure

lemma uses_confirmOne (settled : Int) (t : StoredTransfer) :
    (confirmOne N chain chainId settled t).Uses (confirming chainId) := by
  refine ite uses_pure
    (bind uses_confirmSent.within fun confirmation => ?_)
  cases confirmation with
  | ok => exact .one rfl
  | vanished => exact .one trivial
  | quorum_failed | unavailable => exact uses_pure

lemma uses_confirmPending (settled : Int) :
    (confirmPending N chain chainId settled).Uses (confirming chainId) :=
  next trivial fun _ => each fun t _ => uses_confirmOne settled t

end Node

end Ferminux.Relayer
