import Ferminux.Relayer.Node

/-!
# Relayer.Validator

The **validator** (`validator.ts`), the checks it makes before it signs (`verify.ts`) and its
own volume caps (`limits.ts`).

A confirmed transfer is verified, which spends capacity of two volume windows, and then
signed; whatever is thrown from there on gives the capacity back. The windows are rows of
the store: they survive restarts, unless a journal is compacted.

The typed data are built from the fields that `digestFor` hashes, so a signing call is an
effect on those fields. The four reads of the destination are made at the same time in the
source and one after the other here: nothing is done with any of them before all are there.
The verdict of a finality monitor is an effect.

Left out: alerts, logs and counters, and the dry run of the verification, which the
validator does not make.
-/

namespace Ferminux.Relayer

open Lib Lib.Task Uses

/-! ### Codes -/

def RefusalCode.text : RefusalCode → String
  | .not_confirmed => "not_confirmed"
  | .src_chain_unconfigured => "src_chain_unconfigured"
  | .dst_chain_unconfigured => "dst_chain_unconfigured"
  | .same_chain => "same_chain"
  | .transfer_id_mismatch => "transfer_id_mismatch"
  | .digest_mismatch => "digest_mismatch"
  | .domain_mismatch => "domain_mismatch"
  | .already_processed => "already_processed"
  | .dst_token_unregistered => "dst_token_unregistered"
  | .dst_token_paused => "dst_token_paused"
  | .route_mismatch => "route_mismatch"
  | .over_contract_cap => "over_contract_cap"
  | .over_local_per_transfer_cap => "over_local_per_transfer_cap"
  | .over_local_daily_cap => "over_local_daily_cap"
  | .too_old => "too_old"
  | .bridge_paused => "bridge_paused"
  | .rpc_error => "rpc_error"
  | .not_final => "not_final"
  | .pace_degraded => "pace_degraded"
  | .pace_unknown => "pace_unknown"
  | .checkpoint_unavailable => "checkpoint_unavailable"
  | .checkpoint_missing => "checkpoint_missing"
  | .checkpoint_stale => "checkpoint_stale"
  | .checkpoint_behind => "checkpoint_behind"
  | .checkpoint_mismatch => "checkpoint_mismatch"
  | .src_block_reorged => "src_block_reorged"
  | .finality_unverifiable => "finality_unverifiable"

/-- Refusals that describe the source chain's state rather than the transfer. -/
def FINALITY_CODES : List RefusalCode :=
  [.not_final, .pace_degraded, .pace_unknown, .checkpoint_unavailable, .checkpoint_missing,
    .checkpoint_stale, .checkpoint_behind, .checkpoint_mismatch, .src_block_reorged,
    .finality_unverifiable]

/-- Refusals that can clear on their own. -/
def RETRYABLE : List RefusalCode :=
  [.rpc_error, .bridge_paused, .dst_token_paused, .over_local_daily_cap, .not_confirmed] ++
    FINALITY_CODES

def TOKEN_KIND_UNREGISTERED : Nat := 0

/-- Between two looks at a transfer over the bridge's own cap. -/
def CONTRACT_CAP_RECHECK_MS : Nat := 60_000

/-- How the reason of a refusal starts that a raised cap clears. -/
def OVER_CONTRACT_CAP_PREFIX : String := "over_contract_cap:"

/-- What a signature takes of the two windows. -/
structure ConsumedCapacity where
  outKey : String
  inKey : String
  amount : Nat
  deriving Repr, DecidableEq

/-- What comes of the checks of a transfer. -/
inductive VerifyResult where
  | refused (code : RefusalCode) (reason : String)
  /-- The destination reports the transfer as executed. -/
  | alreadyProcessed
  | passed (digest : String) (consumed : ConsumedCapacity)
  deriving Repr, DecidableEq

/-- How a validator is configured. -/
structure ValidatorConfig where
  node : NodeConfig
  address : String
  /-- 0 for no limit. -/
  maxTransferAgeMs : Nat
  /-- Signatures are published in a shared directory. -/
  sharedDir : Bool
  recoverSigner : String → String → Except String String

namespace Node

/-! ### Volume limits -/

def WINDOW_MS : Nat := 24 * 60 * 60 * 1000

/-- A token has a window in each direction. -/
inductive Direction where
  | outbound
  | inbound
  deriving Repr, DecidableEq

def Direction.text : Direction → String
  | .outbound => "out"
  | .inbound => "in"

def windowKey (chainId : Nat) (token : String) (direction : Direction) : String :=
  s!"{chainId}:{token.toLower}:{direction.text}"

/-- The use of a window fades over its length. -/
def decayedUsage (used updatedAt now : Nat) : Nat :=
  if used = 0 then 0
  else if now ≤ updatedAt then used
  else if WINDOW_MS ≤ now - updatedAt then 0
  else used - used * (now - updatedAt) / WINDOW_MS

def windowUsage (window : Option StoredWindow) (now : Nat) : Nat :=
  match window with
  | none => 0
  | some w => decayedUsage w.used w.updatedAt now

def usage (key : String) (now : Nat) : Prog Nat := do
  let window ← ask (.getWindow key)
  pure (windowUsage window now)

/-- What came of an attempt to use a window. -/
structure CapCheck where
  ok : Bool
  reason : Option String
  usedBefore : Nat
  usedAfter : Nat
  cap : Nat
  deriving Repr, DecidableEq

/-- Check an amount against a cap and, if it fits, consume it durably. -/
def tryConsume (key : String) (cap amount : Nat) : Prog CapCheck := do
  let now ← now
  let usedBefore ← usage key now
  let usedAfter := usedBefore + amount
  if cap = 0 then
    pure { ok := false, reason := some "no cap configured for this token (refusing by default)"
           usedBefore, usedAfter, cap }
  else if cap < usedAfter then
    pure { ok := false, reason := some s!"24h volume cap exceeded: {usedAfter} > {cap}"
           usedBefore, usedAfter, cap }
  else do
    write (.putWindow { key, used := usedAfter, updatedAt := now })
    pure { ok := true, reason := none, usedBefore, usedAfter, cap }

/-- Gives capacity back, as of now. -/
def release (key : String) (amount : Nat) : Prog Unit := do
  let now ← now
  let current ← usage key now
  write (.putWindow { key, used := current - amount, updatedAt := now })

/-- In both windows. -/
def releaseCapacity (consumed : ConsumedCapacity) : Prog Unit := do
  release consumed.outKey consumed.amount
  release consumed.inKey consumed.amount

/-! ### Verification -/

variable (V : ValidatorConfig)

/-- The checks go on until one decides. -/
def unlessRefused (check : Prog (Option VerifyResult)) (next : Prog VerifyResult) :
    Prog VerifyResult := do
  match ← check with
  | some result => pure result
  | none => next

/-- The source block must be final by the source chain's own rule. -/
def checkFinality (src : ChainConfig) (stored : StoredTransfer) : Prog (Option VerifyResult) :=
  if src.needsMonitor then
    tryCatch (do
      let verdict ← ask (.assess stored.transfer.srcChainId stored.srcBlockNumber stored.srcBlockHash)
      if verdict.ok then pure none
      else
        pure (some (.refused (verdict.code.getD .finality_unverifiable)
          (verdict.reason.getD "source block is not final"))))
      fun reason => pure (some (.refused .finality_unverifiable s!"finality check threw: {reason}"))
  else pure none

/-- Transfers that were seen too long ago are refused, if there is a limit. -/
def checkAge (stored : StoredTransfer) : Prog (Option VerifyResult) :=
  if 0 < V.maxTransferAgeMs then do
    let now ← now
    let age := now - stored.firstSeenAt
    if V.maxTransferAgeMs < age then
      let seconds := (age + 500) / 1000
      let limit := (V.maxTransferAgeMs + 500) / 1000
      pure (some (.refused .too_old s!"first seen {seconds}s ago, limit {limit}s"))
    else pure none
  else pure none

/-- The destination bridge must be the deployment we think it is. -/
def checkDomain (dst : ChainConfig) (t : BridgeTransfer) : Prog (Option VerifyResult) := do
  let expected ← Task.lift (V.node.host.ethers.domainSeparatorFor t.dstChainId dst.bridgeAddress)
  let domain ← verifyDomainSeparator dst t.dstChainId expected
  if domain.ok then pure none
  else if domain.onChain = none then
    let reason := domain.reason.getD "no answer"
    pure (some (.refused .rpc_error s!"destination domain separator unreadable: {reason}"))
  else
    pure (some (.refused .domain_mismatch (domain.reason.getD "domain separator mismatch")))

/-- What the destination says about a transfer. -/
structure Destination where
  processed : Bool
  paused : Bool
  token : OnChainTokenConfig
  digest : String

/-- One request after the other; any failure fails all. -/
def readDestination (dst : ChainConfig) (stored : StoredTransfer) :
    Prog (Except String Destination) :=
  tryCatch (do
    requireEndpoint dst stored.transfer.dstChainId
    let processed ← ask (.processed stored.transfer.dstChainId stored.transferId)
    let paused ← ask (.paused stored.transfer.dstChainId)
    let token ← readTokenConfig dst stored.transfer.dstChainId stored.transfer.dstToken
    let digest ← ask (.hashTransfer stored.transfer.dstChainId stored.transfer)
    pure (.ok { processed, paused, token, digest }))
    fun reason => pure (.error reason)

/-- The checks against the destination's bridge. -/
def refusesDestination (t : BridgeTransfer) (d : Destination) :
    Except String (Option VerifyResult) :=
  if d.processed then .ok (some .alreadyProcessed)
  else if d.paused then .ok (some (.refused .bridge_paused "destination bridge is paused"))
  else if d.token.kind = TOKEN_KIND_UNREGISTERED then
    .ok (some (.refused .dst_token_unregistered
      s!"destination token {t.dstToken} is not registered on the destination bridge"))
  else if d.token.paused then
    .ok (some (.refused .dst_token_paused s!"destination token {t.dstToken} is paused"))
  else if d.token.remoteChainId ≠ t.srcChainId then
    .ok (some (.refused .route_mismatch
      s!"destination registry says remoteChainId {d.token.remoteChainId}, transfer says {t.srcChainId}"))
  else do
    let remoteToken ← V.node.host.ethers.getAddress d.token.remoteToken
    let srcToken ← V.node.host.ethers.getAddress t.srcToken
    if remoteToken ≠ srcToken then
      return some (.refused .route_mismatch
        s!"destination registry says remoteToken {d.token.remoteToken}, transfer says {t.srcToken}")
    else if d.token.maxPerTransfer < t.amount then
      return some (.refused .over_contract_cap
        s!"amount {t.amount} exceeds the destination contract's maxPerTransfer {d.token.maxPerTransfer}")
    else return none

def capBreach (side : String) (amount cap : Nat) : VerifyResult :=
  .refused .over_local_per_transfer_cap
    s!"amount {amount} exceeds the local {side} per-transfer cap {cap}"

/-- The node's own limit for one transfer. -/
def refusesAmount (src dst : ChainConfig) (t : BridgeTransfer) : Option VerifyResult :=
  let srcLimit := (src.limitFor t.srcToken).maxPerTransfer
  let dstLimit := (dst.limitFor t.dstToken).maxPerTransfer
  if 0 < srcLimit ∧ srcLimit < t.amount then some (capBreach "source" t.amount srcLimit)
  else if 0 < dstLimit ∧ dstLimit < t.amount then some (capBreach "destination" t.amount dstLimit)
  else if srcLimit = 0 ∨ dstLimit = 0 then
    some (.refused .over_local_per_transfer_cap
      "no local limit configured for this token on one side — refusing by default")
  else none

/-- Outbound at the source, inbound at the destination. -/
def capacityFor (t : BridgeTransfer) : ConsumedCapacity :=
  { outKey := windowKey t.srcChainId t.srcToken .outbound
    inKey := windowKey t.dstChainId t.dstToken .inbound
    amount := t.amount }

/-- Both windows, or none. -/
def consumeCapacity (src dst : ChainConfig) (t : BridgeTransfer) (digest : String) :
    Prog VerifyResult := do
  let capacity := capacityFor t
  let out ← tryConsume capacity.outKey (src.limitFor t.srcToken).dailyCap t.amount
  if out.ok then do
    let inbound ← tryConsume capacity.inKey (dst.limitFor t.dstToken).dailyCap t.amount
    if inbound.ok then pure (.passed digest capacity)
    else do
      release capacity.outKey t.amount
      pure (.refused .over_local_daily_cap (inbound.reason.getD "inbound cap"))
  else pure (.refused .over_local_daily_cap (out.reason.getD "outbound cap"))

/-- The checks behind those of the destination: the digest and the node's own caps. -/
def checkDigest (src dst : ChainConfig) (t : BridgeTransfer) (onChainDigest : String) :
    Prog VerifyResult := do
  let digest ← Task.lift (V.node.host.ethers.digestFor t dst.bridgeAddress)
  if digest.toLower ≠ onChainDigest.toLower then
    pure (.refused .digest_mismatch s!"local digest {digest} != contract {onChainDigest}")
  else
    match refusesAmount src dst t with
    | some result => pure result
    | none => consumeCapacity src dst t digest

/-- The destination, and then the digest it computes. -/
def checkDestination (src dst : ChainConfig) (stored : StoredTransfer) : Prog VerifyResult := do
  match ← readDestination dst stored with
  | .error reason => pure (.refused .rpc_error s!"destination read failed: {reason}")
  | .ok d =>
    unlessRefused (Task.lift (refusesDestination V stored.transfer d))
      (checkDigest V src dst stored.transfer d.digest)

/-- The checks between two configured chains. -/
def verifyRoute (src dst : ChainConfig) (stored : StoredTransfer) : Prog VerifyResult := do
  let recomputed ← Task.lift (V.node.host.ethers.transferIdOf stored.transfer)
  if recomputed.toLower ≠ stored.transferId.toLower then
    pure (.refused .transfer_id_mismatch s!"recomputed id {recomputed} != {stored.transferId}")
  else
    unlessRefused (checkFinality src stored) <|
      unlessRefused (checkAge V stored) <|
        unlessRefused (checkDomain V dst stored.transfer) <|
          checkDestination V src dst stored

def enabledChain (chainId : Nat) : Option ChainConfig := (V.node.chains chainId).filter (·.enabled)

def statusText : TransferStatus → String
  | .seen => "seen"
  | .confirmed => "confirmed"
  | .signed => "signed"
  | .rejected => "rejected"
  | .executed => "executed"
  | .orphaned => "orphaned"

/-- All checks of a transfer, in the order of the source. -/
def verifyForSigning (stored : StoredTransfer) : Prog VerifyResult :=
  let t := stored.transfer
  if stored.status ≠ .confirmed then
    let status := statusText stored.status
    pure (.refused .not_confirmed s!"transfer status is \"{status}\", not \"confirmed\"")
  else
    match enabledChain V t.srcChainId, enabledChain V t.dstChainId with
    | none, _ =>
      pure (.refused .src_chain_unconfigured
        s!"source chain {t.srcChainId} is not configured on this validator")
    | some _, none =>
      pure (.refused .dst_chain_unconfigured
        s!"destination chain {t.dstChainId} is not configured on this validator")
    | some src, some dst =>
      if t.srcChainId = t.dstChainId then
        pure (.refused .same_chain "src and dst chain ids are equal")
      else verifyRoute V src dst stored

/-! ### Signing -/

/-- The signature is checked against the own address before it is stored. -/
def signAndStore (dst : ChainConfig) (stored : StoredTransfer) (digest : String)
    (consumed : ConsumedCapacity) : Prog Unit := do
  let t := stored.transfer
  let _ ← Task.lift (V.node.host.ethers.digestFor t dst.bridgeAddress)
  let signature ← ask (.signTypedData t.dstChainId dst.bridgeAddress t)
  let recovered ← Task.lift (V.recoverSigner digest signature)
  if recovered ≠ V.address then do
    releaseCapacity consumed
    write (.setTransferStatus stored.transferId .rejected
      (some "self-check failed: signature does not recover to this validator"))
  else do
    let again ← Task.lift (V.node.host.ethers.digestFor t dst.bridgeAddress)
    if again ≠ digest then do
      releaseCapacity consumed
      write (.setTransferStatus stored.transferId .rejected
        (some "digest changed between verification and signing"))
    else do
      let now ← now
      ask (.putOwnSignature stored
        { transferId := stored.transferId, signer := V.address, signature, origin := "local"
          createdAt := now })
      write (.setTransferStatus stored.transferId .signed none)
      if V.sharedDir then ask (.publish stored signature)

/-- Whatever signing throws gives the capacity back. -/
def sign (stored : StoredTransfer) (digest : String) (consumed : ConsumedCapacity) : Prog Unit :=
  match V.node.chains stored.transfer.dstChainId with
  | none => releaseCapacity consumed
  | some dst =>
    tryCatch (signAndStore V dst stored digest consumed) fun reason => do
      releaseCapacity consumed
      throw reason

/-- A confirmed transfer is signed, refused or left for later. -/
def consider (stored : StoredTransfer) : Prog Unit := do
  let signatures ← ask (.getSignatures stored.transferId)
  if signatures.any (fun s => s.signer = V.address) then
    if stored.status = .confirmed then write (.setTransferStatus stored.transferId .signed none)
    else pure ()
  else do
    match ← verifyForSigning V stored with
    | .alreadyProcessed => write (.markExecuted stored.transferId none)
    | .refused code reason =>
      if code ∈ RETRYABLE then pure ()
      else
        write (.setTransferStatus stored.transferId .rejected (some s!"{code.text}: {reason}"))
    | .passed digest consumed => sign V stored digest consumed

/-! ### Ticks -/

/-- The caps that were read in one pass, by destination token; `none` if a read failed. -/
abbrev Caps := List (String × Option Nat)

/-- The cap of a destination token, read once per pass. -/
def capOf (dst : ChainConfig) (t : BridgeTransfer) (caps : Caps) : Prog (Option Nat × Caps) :=
  let key := s!"{t.dstChainId}:{t.dstToken.toLower}"
  match caps.lookup key with
  | some cap => pure (cap, caps)
  | none => do
    let read ← (readTokenConfig dst t.dstChainId t.dstToken).attempt
    let cap := read.map (·.maxPerTransfer)
    pure (cap, (key, cap) :: caps)

/-- Put one rejected transfer back in line if the destination's cap covers it now. -/
def revisitOne (t : StoredTransfer) (caps : Caps) : Prog Caps :=
  match V.node.chains t.transfer.dstChainId with
  | none => pure caps
  | some dst => do
    let healthy ← healthyEndpoints t.transfer.dstChainId
    if healthy.isEmpty then pure caps
    else do
      let (cap, caps) ← capOf dst t.transfer caps
      if cap.any (t.transfer.amount ≤ ·) then do
        write (.setTransferStatus t.transferId .confirmed none)
        pure caps
      else pure caps

/-- The transfers that were refused over a cap. -/
def revisitAll : List StoredTransfer → Caps → Prog Unit
  | [], _ => pure ()
  | t :: rest, caps => do
    let caps ← revisitOne V t caps
    revisitAll rest caps

/-- Put back in line every transfer that was rejected only because of the destination
contract's cap, once that cap covers it. -/
def revisitContractCapRejections : Prog Unit := do
  let rows ← ask (.listTransfers
    { status := some [.rejected], reasonPrefix := some OVER_CONTRACT_CAP_PREFIX, limit := some 1000 })
  revisitAll V rows []

/-- Revisit rejections, but not more than once a minute. -/
def revisit : Prog Unit := do
  let time ← now
  let recheckedAt ← ask .capRecheckedAt
  if recheckedAt + CONTRACT_CAP_RECHECK_MS ≤ time then do
    let again ← now
    ask (.setCapRecheckedAt again)
    revisitContractCapRejections V
  else pure ()

/-- A signed transfer that the destination has executed is done. -/
def reconcile (t : StoredTransfer) : Prog Unit :=
  match V.node.chains t.transfer.dstChainId with
  | none => pure ()
  | some dst => do
    let healthy ← healthyEndpoints t.transfer.dstChainId
    if healthy.isEmpty then pure ()
    else
      tryCatch (do
        requireEndpoint dst t.transfer.dstChainId
        let processed ← ask (.processed t.transfer.dstChainId t.transferId)
        if processed then write (.markExecuted t.transferId none) else pure ())
        fun _ => pure ()

/-- Process everything that is confirmed, and reconcile what was signed. -/
def tick : Prog Unit := do
  revisit V
  let confirmed ← ask (.listTransfers { status := some [.confirmed], limit := some 200 })
  Task.each confirmed (consider V)
  let signed ← ask (.listTransfers { status := some [.signed], limit := some 200 })
  Task.each signed (reconcile V)

/-- What the service does about a transfer that a watcher confirmed: the row is read again
when its turn comes. -/
def onConfirmed (transferId : String) : Prog Unit := do
  let current ← ask (.getTransfer transferId)
  match current with
  | some row => if row.status = .confirmed then consider V row else pure ()
  | none => pure ()

/-- The role of a validator. What its work throws is logged. -/
def validatorRole : Job → Prog Unit
  | .tick => tryCatch (tick V) fun _ => pure ()
  | .confirmed transferId => tryCatch (onConfirmed V transferId) fun _ => pure ()
  | .poll => pure ()

/-! ### The effects of a verification -/

/-- The effects of the checks, which write nothing. -/
def checking : Effect → Prop
  | .tokenConfig _ _ _ => True
  | .processed _ _ => True
  | .paused _ => True
  | .hashTransfer _ _ => True
  | .domainSeparator _ => True
  | .assess _ _ _ => True
  | e => probing e

instance : Within probing checking := {}

/-- The effects of a verification: the checks, and the volume windows. -/
def verifying : Effect → Prop
  | .getWindow _ => True
  | .write (.putWindow _) => True
  | e => checking e

instance : Within checking verifying := {}

variable {V} {src dst : ChainConfig} {stored : StoredTransfer} {consumed : ConsumedCapacity}
  (t : BridgeTransfer) {key : String} {amount : Nat}

lemma uses_readTokenConfig {chainId : Nat} {token : String} :
    (readTokenConfig dst chainId token).Uses checking :=
  uses_withFailover dst chainId Within.of fun _ => .one trivial

lemma uses_unlessRefused {q : Effect → Prop} {check : Prog (Option VerifyResult)}
    {next : Prog VerifyResult} (hcheck : check.Uses q) (hnext : next.Uses q) :
    (unlessRefused check next).Uses q := by
  refine hcheck.bind fun result => ?_
  cases result with
  | some => exact uses_pure
  | none => exact hnext

lemma uses_checkFinality : (checkFinality src stored).Uses checking := by
  refine ite (catching ?_ fun _ => uses_pure) uses_pure
  exact next trivial fun _ => ite uses_pure uses_pure

lemma uses_checkAge : (checkAge V stored).Uses checking :=
  ite
    (next trivial fun _ => ite uses_pure uses_pure)
    uses_pure

lemma uses_checkDomain : (checkDomain V dst t).Uses checking := by
  refine bind uses_lift fun expected => bind ?_ fun domain => ?_
  · refine catching ?_ fun _ => uses_pure
    refine ((uses_requireEndpoint dst t.dstChainId).within).bind
      fun _ => ?_
    exact next trivial fun _ => uses_pure
  · exact ite uses_pure (ite uses_pure uses_pure)

lemma uses_readDestination : (readDestination dst stored).Uses checking := by
  refine catching ?_ fun _ => uses_pure
  refine ((uses_requireEndpoint dst _).within).bind fun _ => ?_
  refine next trivial fun _ => ?_
  refine next trivial fun _ => ?_
  refine uses_readTokenConfig.bind fun _ => ?_
  exact next trivial fun _ => uses_pure

lemma uses_usage (key : String) (now : Nat) : (usage key now).Uses verifying :=
  next trivial fun _ => uses_pure

lemma uses_tryConsume {cap : Nat} : (tryConsume key cap amount).Uses verifying := by
  refine next trivial fun now => ?_
  refine (uses_usage key now).bind fun used => ?_
  refine ite uses_pure (ite uses_pure ?_)
  exact next trivial fun _ => uses_pure

lemma uses_release : (release key amount).Uses verifying := by
  refine next trivial fun now => ?_
  exact (uses_usage key now).bind fun _ => .one trivial

lemma uses_releaseCapacity : (releaseCapacity consumed).Uses verifying :=
  uses_release.bind fun _ => uses_release

lemma uses_consumeCapacity (digest : String) :
    (consumeCapacity src dst t digest).Uses verifying := by
  refine uses_tryConsume.bind fun out => ite ?_ uses_pure
  refine uses_tryConsume.bind fun inbound => ite uses_pure ?_
  exact uses_release.bind fun _ => uses_pure

lemma uses_checkDigest {onChainDigest : String} :
    (checkDigest V src dst t onChainDigest).Uses verifying := by
  refine bind uses_lift fun digest => ite uses_pure ?_
  split
  · exact uses_pure
  · exact uses_consumeCapacity t digest

lemma uses_checkDestination : (checkDestination V src dst stored).Uses verifying := by
  refine uses_readDestination.within.bind fun read => ?_
  cases read with
  | error => exact uses_pure
  | ok => exact uses_unlessRefused uses_lift (uses_checkDigest _)

lemma uses_verifyRoute : (verifyRoute V src dst stored).Uses verifying := by
  refine bind uses_lift fun recomputed => ite uses_pure ?_
  refine uses_unlessRefused uses_checkFinality.within ?_
  refine uses_unlessRefused uses_checkAge.within ?_
  refine uses_unlessRefused ((uses_checkDomain _).within) ?_
  exact uses_checkDestination

lemma uses_verifyForSigning : (verifyForSigning V stored).Uses verifying := by
  refine ite uses_pure ?_
  split
  · exact uses_pure
  · exact uses_pure
  · exact ite uses_pure uses_verifyRoute

/-! ### The effects of the role -/

/-- The effects of a tick, but for the transfers it considers. -/
def attending : Effect → Prop
  | .getTransfer _ => True
  | .listTransfers _ => True
  | .capRecheckedAt => True
  | .setCapRecheckedAt _ => True
  | .write (.setTransferStatus _ _ _) => True
  | .write (.markExecuted _ _) => True
  | e => checking e

instance : Within checking attending := {}
instance : Within probing attending := {}

lemma uses_capOf {caps : Caps} : (capOf dst t caps).Uses checking := by
  unfold capOf
  dsimp only
  split
  · exact uses_pure
  · exact uses_readTokenConfig.attempt.bind fun _ => uses_pure

lemma uses_revisitOne (caps : Caps) : (revisitOne V stored caps).Uses attending := by
  unfold revisitOne
  split
  · exact uses_pure
  · refine ((uses_healthyEndpoints _).within).bind fun _ => ?_
    refine ite uses_pure ?_
    refine ((uses_capOf _).within).bind fun read => ?_
    exact ite
      (next trivial fun _ => uses_pure) uses_pure

lemma uses_revisit : (revisit V).Uses attending := by
  have hall : ∀ rows caps, (revisitAll V rows caps).Uses attending := by
    intro rows
    induction rows with
    | nil => exact fun _ => uses_pure
    | cons _ _ ih => exact fun caps => (uses_revisitOne caps).bind ih
  refine next trivial fun time => ?_
  refine next trivial fun recheckedAt => ?_
  refine ite ?_ uses_pure
  refine next trivial fun again => ?_
  refine next trivial fun _ => ?_
  exact next trivial fun rows => hall rows []

lemma uses_reconcile : (reconcile V stored).Uses attending := by
  unfold reconcile
  split
  · exact uses_pure
  · refine ((uses_healthyEndpoints _).within).bind fun _ => ?_
    refine ite uses_pure (catching ?_ fun _ => uses_pure)
    refine ((uses_requireEndpoint _ _).within).bind fun _ => ?_
    refine next trivial fun processed => ?_
    exact ite (.one trivial) uses_pure

/-- The effects of the role. -/
def acting : Effect → Prop
  | .getSignatures _ => True
  | .getWindow _ => True
  | .signTypedData _ _ _ => True
  | .putOwnSignature _ _ => True
  | .publish _ _ => True
  | .write (.putWindow _) => True
  | e => attending e

instance : Within attending acting := {}
instance : Within verifying acting := {}

lemma uses_sign {digest : String} : (sign V stored digest consumed).Uses acting := by
  unfold sign
  split
  · exact uses_releaseCapacity.within
  · refine catching ?_ fun _ => uses_releaseCapacity.within.bind fun _ => uses_throw
    refine bind uses_lift fun _ => next trivial fun _ => bind uses_lift fun _ => ite ?_ ?_
    · exact uses_releaseCapacity.within.bind fun _ => .one trivial
    · refine bind uses_lift fun _ => ite ?_ ?_
      · exact uses_releaseCapacity.within.bind fun _ => .one trivial
      · refine next trivial fun _ => next trivial fun _ => next trivial fun _ => ?_
        exact ite (.one trivial) uses_pure

lemma uses_consider : (consider V stored).Uses acting := by
  refine next trivial fun _ => ite (ite (.one trivial) uses_pure) ?_
  refine uses_verifyForSigning.within.bind fun result => ?_
  cases result with
  | alreadyProcessed => exact .one trivial
  | refused => exact ite uses_pure (.one trivial)
  | passed => exact uses_sign

lemma uses_validatorRole (job : Job) : (validatorRole V job).Uses acting := by
  cases job with
  | poll => exact uses_pure
  | tick =>
    refine catching (uses_revisit.within.bind fun _ => ?_) fun _ => uses_pure
    refine next trivial fun _ => (each fun _ _ => uses_consider).bind fun _ => ?_
    exact next trivial fun _ => each fun _ _ => uses_reconcile.within
  | confirmed =>
    refine catching (next trivial fun current => ?_) fun _ => uses_pure
    cases current with
    | none => exact uses_pure
    | some => exact ite uses_consider uses_pure

end Node

end Ferminux.Relayer
