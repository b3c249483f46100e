import Ferminux.Lib.Async
import Ferminux.Relayer.Backend

/-!
# Relayer.ChainClient

The **effects of a node** of the bridge and its client of a source chain (`chain.ts`): a set
of RPC endpoints, which of them are healthy and serve logs, reads that fail over from one
endpoint to the next, and the re-read of a single log on all of them.

Every call of an endpoint waits, and may be answered with anything; what can be assumed of
the answers is said by whoever runs the node. Four writes of the store carry, besides what
they write, the row or the chain they are about (`record`, `confirm`, `putOwnSignature`,
`publish`), so that runs can be spoken about.

Left out: alerts, logs and statistics, the texts of an endpoint's last error, and the check
for a head that went backwards, which only alerts.
-/

namespace Ferminux.Relayer

open Lib List Lib.Task Uses

/-! ### Configuration -/

/-- The validator's own caps on a token. -/
structure TokenLimit where
  maxPerTransfer : Nat
  dailyCap : Nat
  deriving Repr, DecidableEq

/-- Why a transfer is not signed. -/
inductive RefusalCode where
  | not_confirmed
  | src_chain_unconfigured
  | dst_chain_unconfigured
  | same_chain
  | transfer_id_mismatch
  | digest_mismatch
  | domain_mismatch
  | already_processed
  | dst_token_unregistered
  | dst_token_paused
  | route_mismatch
  | over_contract_cap
  | over_local_per_transfer_cap
  | over_local_daily_cap
  | too_old
  | bridge_paused
  | rpc_error
  | not_final
  | pace_degraded
  | pace_unknown
  | checkpoint_unavailable
  | checkpoint_missing
  | checkpoint_stale
  | checkpoint_behind
  | checkpoint_mismatch
  | src_block_reorged
  | finality_unverifiable
  deriving Repr, DecidableEq

/-- A chain of the configuration. -/
structure ChainConfig where
  name : String
  rpcUrls : List String
  bridgeAddress : String
  confirmations : Nat
  /-- `finalized` or `safe`, on a chain with a finality gadget. -/
  finalityTag : Option String
  minAgreeingEndpoints : Nat
  maxBlockRange : Nat
  startBlock : Nat
  /-- The domain separator that is pinned, if one is. -/
  domainSeparator : Option String
  enabled : Bool
  /-- `needsFinalityMonitor`: the chain is configured for more than a count of blocks. -/
  needsMonitor : Bool
  defaultLimit : TokenLimit
  /-- Keyed by the token address in lower case. -/
  tokenLimits : List (String × TokenLimit)
  range_pos : 0 < maxBlockRange

def ChainConfig.limitFor (chain : ChainConfig) (token : String) : TokenLimit :=
  (chain.tokenLimits.lookup token.toLower).getD chain.defaultLimit

/-- What the client remembers of an endpoint. -/
structure Health where
  healthy : Bool := false
  logsOk : Bool := true
  logsFailedAt : Nat := 0
  deriving Repr, DecidableEq

/-- What a request tells about an endpoint. -/
inductive Mark where
  | healthy
  | unhealthy
  | logsOk
  | logsUnusable
  deriving Repr, DecidableEq

def Health.mark (h : Health) (now : Nat) : Mark → Health
  | .healthy => { h with healthy := true }
  | .unhealthy => { h with healthy := false }
  | .logsOk => { h with logsOk := true }
  | .logsUnusable => { h with logsOk := false, logsFailedAt := now }

/-- The bridge's configuration of a token. -/
structure OnChainTokenConfig where
  /-- 0 if the token is not registered. -/
  kind : Nat
  paused : Bool
  remoteChainId : Nat
  remoteToken : String
  maxPerTransfer : Nat
  deriving Repr, DecidableEq

/-- Whether a block is final enough. -/
structure FinalityVerdict where
  ok : Bool
  code : Option RefusalCode
  reason : Option String
  deriving Repr, DecidableEq

/-- What `verifyDomainSeparator` found; `onChain` is `none` if nothing could be read. -/
structure DomainCheck where
  ok : Bool
  onChain : Option String
  reason : Option String
  deriving Repr, DecidableEq

namespace Node

/-! ### Effects -/

/-- What the node asks of the chains, of its store and of its clock. -/
inductive Effect where
  | now
  | health (chainId : Nat)
  | mark (chainId endpoint : Nat) (m : Mark)
  /-- `eth_chainId`, `eth_blockNumber`, `getBlock(tag)` and `eth_getLogs` for the `Sent` logs
  of the bridge, on one endpoint. -/
  | chainIdOf (chainId endpoint : Nat)
  | blockNumber (chainId endpoint : Nat)
  | taggedBlock (chainId endpoint : Nat) (tag : String)
  | getLogs (chainId endpoint fromBlock toBlock : Nat)
  /-- `tokenConfig` of the bridge, on one endpoint. -/
  | tokenConfig (chainId endpoint : Nat) (token : String)
  /-- Reads of the bridge on the first healthy endpoint. -/
  | processed (chainId : Nat) (transferId : String)
  | paused (chainId : Nat)
  | hashTransfer (chainId : Nat) (t : BridgeTransfer)
  | domainSeparator (chainId : Nat)
  /-- The finality monitor of a source chain. -/
  | assess (chainId srcBlockNumber : Nat) (srcBlockHash : String)
  | signTypedData (dstChainId : Nat) (bridgeAddress : String) (t : BridgeTransfer)
  | getCursor (chainId : Nat)
  | getTransfer (transferId : String)
  | listTransfers (filter : TransferFilter)
  | getSignatures (transferId : String)
  | getWindow (key : String)
  | write (m : Mutation)
  /-- `putTransfer`, by the watcher of a chain. -/
  | record (chainId : Nat) (t : StoredTransfer)
  /-- `setTransferStatus(t.transferId, 'confirmed')`, by the watcher of a chain that re-read
  the log of `t`. -/
  | confirm (chainId : Nat) (t : StoredTransfer)
  /-- `putSignature`, by a validator that considered `t`. -/
  | putOwnSignature (t : StoredTransfer) (sig : StoredSignature)
  /-- The signature of `t` goes to the shared directory. -/
  | publish (t : StoredTransfer) (signature : String)
  | capRecheckedAt
  | setCapRecheckedAt (time : Nat)

abbrev Answer : Effect → Type
  | .now => Nat
  | .health _ => List Health
  | .mark _ _ _ => Unit
  | .chainIdOf _ _ => Nat
  | .blockNumber _ _ => Nat
  | .taggedBlock _ _ _ => Option Nat
  | .getLogs _ _ _ _ => List Log
  | .tokenConfig _ _ _ => OnChainTokenConfig
  | .processed _ _ => Bool
  | .paused _ => Bool
  | .hashTransfer _ _ => String
  | .domainSeparator _ => String
  | .assess _ _ _ => FinalityVerdict
  | .signTypedData _ _ _ => String
  | .getCursor _ => Option Nat
  | .getTransfer _ => Option StoredTransfer
  | .listTransfers _ => List StoredTransfer
  | .getSignatures _ => List StoredSignature
  | .getWindow _ => Option StoredWindow
  | .write _ => Unit
  | .record _ _ => Unit
  | .confirm _ _ => Unit
  | .putOwnSignature _ _ => Unit
  | .publish _ _ => Unit
  | .capRecheckedAt => Nat
  | .setCapRecheckedAt _ => Unit

/-- Requests over the network; the store answers at once. -/
def Effect.awaits : Effect → Bool
  | .chainIdOf _ _ | .blockNumber _ _ | .taggedBlock _ _ _ | .getLogs _ _ _ _
  | .tokenConfig _ _ _ | .processed _ _ | .paused _ | .hashTransfer _ _ | .domainSeparator _
  | .assess _ _ _ | .signTypedData _ _ _ => true
  | _ => false

abbrev Prog (α : Type) := Task Answer α

def ask (e : Effect) : Prog (Answer e) := Task.call e

def now : Prog Nat := ask .now

def write (m : Mutation) : Prog Unit := ask (.write m)

/-! ### Endpoints -/

def endpointsWhere (p : Health → Bool) (endpoints : List Health) : List Nat :=
  (List.range endpoints.length).filter fun i => (endpoints[i]?).any p

def healthyEndpoints (chainId : Nat) : Prog (List Nat) := do
  let endpoints ← ask (.health chainId)
  pure (endpointsWhere (·.healthy) endpoints)

/-- An endpoint that refused logs is tried again after this time. -/
def LOGS_RETRY_MS : Nat := 5 * 60_000

/-- The healthy endpoints that serve logs, and those that are due one more try. -/
def logEndpoints (chainId : Nat) : Prog (List Nat) := do
  let now ← now
  let endpoints ← ask (.health chainId)
  pure (endpointsWhere
    (fun h => h.healthy && (h.logsOk || decide (h.logsFailedAt + LOGS_RETRY_MS ≤ now))) endpoints)

/-- Probe an endpoint, at most twice. -/
def probeEndpoint (chainId endpoint : Nat) : Nat → Prog Unit
  | 0 => ask (.mark chainId endpoint .unhealthy)
  | attempts + 1 => do
    match ← (ask (.chainIdOf chainId endpoint)).attempt with
    | some reported =>
      ask (.mark chainId endpoint (if reported = chainId then .healthy else .unhealthy))
    | none => probeEndpoint chainId endpoint attempts

/-- Every endpoint is probed, also those that were healthy. -/
def healthCheck (chainId : Nat) : Prog Unit := do
  let endpoints ← ask (.health chainId)
  Task.each (List.range endpoints.length) fun i => probeEndpoint chainId i 2

/-- Ask the endpoints in order until one answers; one that throws is demoted. -/
def firstAnswer {α : Type} (chainId : Nat) (fn : Nat → Prog α) (demote : Bool) (failure : String) :
    List Nat → Prog α
  | [] => throw failure
  | endpoint :: rest => do
    match ← (fn endpoint).attempt with
    | some answer => pure answer
    | none => do
      if demote then ask (.mark chainId endpoint .unhealthy)
      firstAnswer chainId fn demote failure rest

variable (chain : ChainConfig) (chainId : Nat) {q : Effect → Prop}

/-- Run a read on the healthy endpoints in order. -/
def withFailover {α : Type} (what : String) (fn : Nat → Prog α) (demote : Bool) : Prog α := do
  let endpoints ← healthyEndpoints chainId
  if endpoints.isEmpty then throw s!"chain {chain.name}: no healthy RPC endpoint"
  else
    firstAnswer chainId fn demote
      s!"chain {chain.name}: {what} failed on all {endpoints.length} healthy endpoint(s)" endpoints

def getBlockNumber : Prog Nat :=
  withFailover chain chainId "eth_blockNumber" (fun i => ask (.blockNumber chainId i)) true

/-- Reads of the bridge go to the first healthy endpoint. -/
def requireEndpoint : Prog Unit := do
  let endpoints ← healthyEndpoints chainId
  if endpoints.isEmpty then throw s!"chain {chain.name}: no healthy RPC endpoint"

def readTokenConfig (localToken : String) : Prog OnChainTokenConfig :=
  withFailover chain chainId "tokenConfig" (fun i => ask (.tokenConfig chainId i localToken)) true

/-- Compare a domain separator with the one that is expected, and with the one that is
pinned. -/
def compareDomain (onChain expected : String) : DomainCheck :=
  if onChain ≠ expected then
    { ok := false, onChain := some onChain
      reason := some s!"on-chain {onChain} != locally derived {expected}" }
  else
    match chain.domainSeparator with
    | some pinned =>
      if pinned ≠ onChain then
        { ok := false, onChain := some onChain
          reason := some s!"on-chain {onChain} != pinned {pinned}" }
      else { ok := true, onChain := some onChain, reason := none }
    | none => { ok := true, onChain := some onChain, reason := none }

/-- Check the domain separator of the bridge. What cannot be read is no mismatch. -/
def verifyDomainSeparator (expected : String) : Prog DomainCheck :=
  tryCatch (do
    requireEndpoint chain chainId
    let answer ← ask (.domainSeparator chainId)
    pure (compareDomain chain answer.toLower expected.toLower))
    fun reason => pure { ok := false, onChain := none, reason := some reason }

/-- The block of the finality tag, if there is a tag and it can be read. -/
def finalityBlock : Prog (Option Nat) :=
  match chain.finalityTag with
  | none => pure none
  | some tag => do
    let tagged ← (withFailover chain chainId s!"getBlock({tag})"
      (fun i => ask (.taggedBlock chainId i tag)) false).attempt
    pure tagged.join

/-- The height a block must be at or below to count as settled. If the finality tag cannot be
read, this is the count of confirmations alone. -/
def settledHeight : Prog Int := do
  let head ← getBlockNumber chain chainId
  let settled := (head : Int) - chain.confirmations
  let tagged ← finalityBlock chain chainId
  pure (match tagged with
    | some number => min (number : Int) settled
    | none => settled)

/-! ### Logs -/

/-- The first answer of the endpoints that serve logs. One whose failure is not a refusal of
the range is taken out of the log reads. -/
def firstLogs (isRangeRefusal : String → Bool) (fromBlock toBlock : Nat) (failure : String) :
    List Nat → Prog (List Log)
  | [] => throw failure
  | endpoint :: rest =>
    tryCatch (do
      let logs ← ask (.getLogs chainId endpoint fromBlock toBlock)
      ask (.mark chainId endpoint .logsOk)
      pure logs) fun reason => do
        if ¬ isRangeRefusal reason then ask (.mark chainId endpoint .logsUnusable)
        firstLogs isRangeRefusal fromBlock toBlock failure rest

/-- The logs of a range from the first endpoint that serves them. -/
def logsWithFailover (isRangeRefusal : String → Bool) (start stop : Nat) : Prog (List Log) := do
  let endpoints ← logEndpoints chainId
  if endpoints.isEmpty then
    throw s!"chain {chain.name}: no healthy endpoint serves eth_getLogs"
  else
    firstLogs chainId isRangeRefusal start stop
      s!"chain {chain.name}: getLogs({start}..{stop}) failed on all {endpoints.length} log-serving endpoint(s)"
      endpoints

/-- Decode `Sent` logs, all or none. -/
def decodeSent (E : Ethers) (logs : List Log) : Except String (List SentEvent) :=
  logs.mapM E.decodeSentLog

lemma decodeSent_ok {E : Ethers} {logs : List Log} {events : List SentEvent}
    (h : decodeSent E logs = .ok events) :
    (∀ log ∈ logs, ∃ ev ∈ events, E.decodeSentLog log = .ok ev) ∧
      ∀ ev ∈ events, ∃ log ∈ logs, E.decodeSentLog log = .ok ev := by
  unfold decodeSent at h
  induction logs generalizing events with
  | nil =>
    cases h
    exact ⟨nofun, nofun⟩
  | cons first rest ih =>
    rw [mapM_cons] at h
    simp only [bind_eq_ok, pure_eq_ok] at h
    obtain ⟨ev, hev, others, hothers, rfl⟩ := h
    obtain ⟨hlogs, hevents⟩ := ih hothers
    grind

/-- The chunks of at most `range` blocks from `start` to `stop`. -/
def chunks (range : Nat) : Nat → Nat → Nat → List (Nat × Nat)
  | 0, _, _ => []
  | fuel + 1, start, stop =>
    if start ≤ stop then
      (start, min (start + range - 1) stop) :: chunks range fuel (start + range) stop
    else []

/-! ### Re-reading one log on every endpoint -/

/-- How the endpoints answered about one log. -/
structure Tally where
  agreed : Nat := 0
  missing : Nat := 0
  errored : Nat := 0
  disagreements : List String := []
  deriving Repr, DecidableEq

/-- What the answers amount to. -/
inductive Confirmation where
  | ok
  /-- Every endpoint answered, and none has the log any more. -/
  | vanished (reason : String)
  | quorum_failed (reason : String)
  /-- Too few endpoints could answer to decide anything. -/
  | unavailable (reason : String)
  deriving Repr, DecidableEq

def urlOf (endpoint : Nat) : String := (chain.rpcUrls[endpoint]?).getD ""

/-- One endpoint's answer about the log of a transfer. -/
def countAnswer (transferId : String) (blockNumber : Nat) (blockHash : String) (endpoint : Nat)
    (tally : Tally) (events : List SentEvent) : Tally :=
  match events.find? fun ev => ev.transferId.toLower == transferId.toLower with
  | none =>
    { tally with
      missing := tally.missing + 1
      disagreements := tally.disagreements ++
        [s!"{urlOf chain endpoint}: log absent at block {blockNumber}"] }
  | some ev =>
    if ev.blockHash.toLower ≠ blockHash.toLower then
      { tally with
        missing := tally.missing + 1
        disagreements := tally.disagreements ++
          [s!"{urlOf chain endpoint}: block hash {ev.blockHash} != {blockHash}"] }
    else { tally with agreed := tally.agreed + 1 }

/-- One endpoint: an error is counted and is not an answer. -/
def askEndpoint (E : Ethers) (transferId : String) (blockNumber : Nat) (blockHash : String)
    (tally : Tally) (endpoint : Nat) : Prog Tally :=
  tryCatch (do
    let logs ← ask (.getLogs chainId endpoint blockNumber blockNumber)
    ask (.mark chainId endpoint .logsOk)
    let events ← Task.lift (decodeSent E logs)
    pure (countAnswer chain transferId blockNumber blockHash endpoint tally events))
    fun reason => do
      ask (.mark chainId endpoint .logsUnusable)
      pure { tally with
             errored := tally.errored + 1
             disagreements := tally.disagreements ++ [s!"{urlOf chain endpoint}: {reason}"] }

/-- One endpoint after the other. -/
def askEndpoints (E : Ethers) (transferId : String) (blockNumber : Nat) (blockHash : String) :
    List Nat → Tally → Prog Tally
  | [], tally => pure tally
  | endpoint :: rest, tally => do
    let tally ← askEndpoint chain chainId E transferId blockNumber blockHash tally endpoint
    askEndpoints E transferId blockNumber blockHash rest tally

/-- **The counting rule**: at least `minAgree` endpoints showed the log, and none
contradicted it. -/
def decideConfirmation (minAgree : Nat) (requireAll : Bool) (tally : Tally) : Confirmation :=
  let text := "; ".intercalate tally.disagreements
  if 0 < tally.agreed ∧ 0 < tally.missing then .quorum_failed s!"endpoints disagree: {text}"
  else if tally.agreed = 0 ∧ 0 < tally.missing ∧ tally.errored = 0 then .vanished text
  else if tally.agreed = 0 then
    .unavailable (if text = "" then "no endpoint answered" else text)
  else if tally.agreed < minAgree then
    .unavailable (s!"only {tally.agreed} endpoint(s) confirmed, {minAgree} required" ++
      if tally.disagreements.isEmpty then "" else s!": {text}")
  else if 0 < tally.errored ∧ requireAll then .unavailable s!"waiting for all endpoints: {text}"
  else .ok

/-- Re-read one transfer's log across every endpoint that serves logs. -/
def confirmSentAcrossEndpoints (E : Ethers) (requireAll : Bool) (transferId : String)
    (blockNumber : Nat) (blockHash : String) : Prog Confirmation := do
  let endpoints ← logEndpoints chainId
  let minAgree := chain.minAgreeingEndpoints
  if endpoints.isEmpty then pure (.unavailable "no healthy endpoint")
  else if endpoints.length < minAgree then
    pure (.unavailable s!"only {endpoints.length} of {chain.rpcUrls.length} endpoints are healthy; {minAgree} independent confirmations are required")
  else do
    let tally ← askEndpoints chain chainId E transferId blockNumber blockHash endpoints {}
    pure (decideConfirmation minAgree requireAll tally)

lemma decideConfirmation_ok {minAgree : Nat} {requireAll : Bool} {tally : Tally}
    (h : decideConfirmation minAgree requireAll tally = .ok) :
    0 < tally.agreed ∧ minAgree ≤ tally.agreed := by
  unfold decideConfirmation at h
  dsimp only at h
  split at h
  · cases h
  split at h
  · cases h
  split at h
  · cases h
  · next hagreed =>
    split at h
    · cases h
    · next hmin => omega

lemma agreed_countAnswer (transferId : String) (blockNumber : Nat) (blockHash : String)
    (endpoint : Nat) (tally : Tally) (events : List SentEvent) :
    (countAnswer chain transferId blockNumber blockHash endpoint tally events).agreed =
        tally.agreed ∨
      (countAnswer chain transferId blockNumber blockHash endpoint tally events).agreed =
          tally.agreed + 1 ∧ ∃ ev ∈ events, ev.transferId.toLower = transferId.toLower ∧
          ev.blockHash.toLower = blockHash.toLower := by
  unfold countAnswer
  split
  · exact .inl rfl
  · next ev hfind =>
    split
    · exact .inl rfl
    · next hhash =>
      have hid := List.find?_some hfind
      exact .inr ⟨rfl, ev, mem_of_find?_eq_some hfind, beq_iff_eq.mp hid,
        Decidable.not_not.mp hhash⟩

lemma yields_logEndpoints : (logEndpoints chainId).Yields List.Nodup := by
  refine Yields.bind yields_true fun time _ => ?_
  refine Yields.bind yields_true fun endpoints _ => ?_
  exact List.Nodup.filter _ nodup_range

/-! ### Probing -/

/-- The effects that look at the endpoints, but for their heads and their logs. -/
def probing : Effect → Prop
  | .now => True
  | .health _ => True
  | .mark _ _ _ => True
  | .chainIdOf _ _ => True
  | .taggedBlock _ _ _ => True
  | _ => False

lemma uses_healthyEndpoints : (healthyEndpoints chainId).Uses probing :=
  next trivial fun _ => uses_pure

lemma uses_requireEndpoint : (requireEndpoint chain chainId).Uses probing :=
  (uses_healthyEndpoints chainId).bind fun _ => ite uses_throw uses_pure

lemma uses_logEndpoints : (logEndpoints chainId).Uses probing :=
  next trivial fun _ => next trivial fun _ => uses_pure

lemma uses_probeEndpoint (endpoint attempts : Nat) :
    (probeEndpoint chainId endpoint attempts).Uses probing := by
  induction attempts with
  | zero => exact .one trivial
  | succ _ ih =>
    refine bind (attempt (.one trivial)) fun answer => ?_
    cases answer with
    | some => exact .one trivial
    | none => exact ih

lemma uses_healthCheck : (healthCheck chainId).Uses probing :=
  next trivial fun _ => each fun i _ => uses_probeEndpoint chainId i 2

lemma uses_withFailover {α : Type} (hq : ∀ e, probing e → q e)
    {what : String} {fn : Nat → Prog α} {demote : Bool} (hfn : ∀ i, (fn i).Uses q) :
    (withFailover chain chainId what fn demote).Uses q := by
  have hfirst : ∀ failure endpoints, (firstAnswer chainId fn demote failure endpoints).Uses q := by
    intro failure endpoints
    induction endpoints with
    | nil => exact uses_throw
    | cons endpoint _ ih =>
      refine bind (hfn endpoint).attempt fun answer => ?_
      cases answer with
      | some => exact uses_pure
      | none =>
        refine ite (bind ?_ fun _ => ih) ih
        exact uses_call.mpr (hq _ (by trivial))
  refine bind ((uses_healthyEndpoints chainId).mono hq) fun endpoints => ?_
  exact ite uses_throw (hfirst _ endpoints)

lemma uses_finalityBlock : (finalityBlock chain chainId).Uses probing := by
  unfold finalityBlock
  split
  · exact uses_pure
  · refine bind (attempt ?_) fun _ => uses_pure
    exact uses_withFailover chain chainId (fun _ he => he) fun i => .one trivial

lemma uses_getBlockNumber (hq : ∀ e, probing e → q e)
    (hhead : ∀ i, q (.blockNumber chainId i)) : (getBlockNumber chain chainId).Uses q :=
  uses_withFailover chain chainId hq fun i => uses_call.mpr (hhead i)

lemma uses_settledHeight (hq : ∀ e, probing e → q e)
    (hhead : ∀ i, q (.blockNumber chainId i)) : (settledHeight chain chainId).Uses q :=
  bind (uses_getBlockNumber chain chainId hq hhead) fun _ =>
    bind ((uses_finalityBlock chain chainId).mono hq) fun _ => uses_pure

end Node

end Ferminux.Relayer
