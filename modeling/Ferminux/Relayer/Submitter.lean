import Ferminux.Lib.Async
import Ferminux.Relayer.Backend

/-!
# Relayer.Submitter

The **submitter** role (`submitter.ts`, `gas.ts`): it collects the signatures of the
validators, asks the destination whether a transfer was executed, simulates, and relays
`execute()` with escalating fees.

The role is a program of the event loop (`Lib.Task`). It reads the clock and the store, and
waits for the answers of the destination's node, which are the outside's to choose. `submit`
and `pollSubmission` call each other; a submission of the configured number of attempts is
not escalated, so `pollSubmission` is given that much fuel (`pollSubmission_fuel`).

Left out: logs, metrics and alerts, and the pings of the peers' health. The calldata of
`execute()` is represented by the id of the transfer and the signers of the bundle. How a
payload of a peer is verified is a parameter: it decides which signatures are stored.
-/

namespace Ferminux.Relayer

open Lib Nat
open Lib.Task (Yields yields_true)

/-! ### Fees -/

inductive TxType where
  | legacy
  | eip1559
  deriving Repr, DecidableEq

/-- How the fees on a chain are chosen. -/
structure GasConfig where
  maxFeePerGasGwei : Nat
  priorityFeeGwei : Nat
  baseFeeMultiplier : Nat
  /-- `gasLimitMultiplier` in percent, rounded. -/
  gasLimitPercent : Nat
  gasLimitCap : Nat
  escalationPct : Nat
  maxAttempts : Nat
  receiptTimeoutMs : Nat
  txType : TxType
  deriving Repr, DecidableEq

/-- The fees of an attempt. -/
structure FeePlan where
  txType : TxType
  maxFeePerGas : Nat
  maxPriorityFeePerGas : Nat
  gasPrice : Nat
  baseFee : Option Nat
  /-- The ceiling clipped the plan. -/
  atCeiling : Bool
  deriving Repr, DecidableEq

def GWEI : Nat := 1_000_000_000

/-- `value * percent / 100`, as the source rounds it. -/
def pct (value percent : Nat) : Nat := value * (percent * 100) / 10_000

/-- `attempt` times `escalationPct` more. -/
def escalate (gas : GasConfig) : Nat → Nat → Nat
  | 0, value => value
  | attempt + 1, value => escalate gas attempt (pct value (100 + gas.escalationPct))

/-- The fee plan for attempt `attempt`, from the base fee of the latest block and the tip
the node suggests, if it does. -/
def planFees (gas : GasConfig) (attempt : Nat) (baseFee suggested : Option Nat) : FeePlan :=
  let ceiling := gas.maxFeePerGasGwei * GWEI
  let floorTip := gas.priorityFeeGwei * GWEI
  let tip := max (suggested.getD floorTip) floorTip
  let tip := if tip = 0 then GWEI else tip
  let base := baseFee.getD GWEI
  match gas.txType with
  | .legacy =>
    let price := escalate gas attempt (base + tip)
    let gasPrice := min price ceiling
    { txType := .legacy, maxFeePerGas := gasPrice, maxPriorityFeePerGas := 0, gasPrice, baseFee
      atCeiling := decide (ceiling < price) }
  | .eip1559 =>
    let fee := escalate gas attempt (base * gas.baseFeeMultiplier + tip)
    let maxFee := min fee ceiling
    { txType := .eip1559, maxFeePerGas := maxFee
      maxPriorityFeePerGas := min (escalate gas attempt tip) maxFee, gasPrice := 0, baseFee
      atCeiling := decide (ceiling < fee) }

/-- The gas limit with head-room, clamped. -/
def planGasLimit (estimate : Nat) (gas : GasConfig) : Nat :=
  min (estimate * gas.gasLimitPercent / 100) gas.gasLimitCap

/-- `next` beats `prev` by enough that the mempool takes it in its place. -/
def isValidReplacement (prev next : FeePlan) (minBumpPct : Nat) : Bool :=
  let need := fun v => pct v (100 + minBumpPct)
  match next.txType with
  | .legacy => need prev.gasPrice ≤ next.gasPrice
  | .eip1559 =>
    need prev.maxFeePerGas ≤ next.maxFeePerGas &&
      need prev.maxPriorityFeePerGas ≤ next.maxPriorityFeePerGas

section Replacement

variable {gas : GasConfig} {attempt : Nat} {v v' : Nat}

lemma pct_mono {p p' : Nat} (hv : v ≤ v') (hp : p ≤ p') : pct v p ≤ pct v' p' :=
  Nat.div_le_div_right (Nat.mul_le_mul hv (Nat.mul_le_mul_right _ hp))

lemma escalate_mono (h : v ≤ v') : escalate gas attempt v ≤ escalate gas attempt v' := by
  induction attempt generalizing v v' with
  | zero => exact h
  | succ _ ih => exact ih (pct_mono h le_rfl)

lemma escalate_succ (v : Nat) :
    escalate gas (attempt + 1) v = pct (escalate gas attempt v) (100 + gas.escalationPct) := by
  induction attempt generalizing v with
  | zero => rfl
  | succ _ ih => exact ih _

/-- `next`, escalated for the next attempt, beats `prev` by a tenth. -/
def Bumps (gas : GasConfig) (attempt prev next : Nat) : Prop :=
  pct (escalate gas attempt prev) (100 + 10) ≤ escalate gas (attempt + 1) next

instance (gas : GasConfig) (attempt prev next : Nat) : Decidable (Bumps gas attempt prev next) :=
  inferInstanceAs (Decidable (_ ≤ _))

lemma bumps_of_le (h : 10 ≤ gas.escalationPct) (attempt : Nat) (hv : v ≤ v') :
    Bumps gas attempt v v' := by
  rw [Bumps, escalate_succ]
  exact pct_mono (escalate_mono hv) (Nat.add_le_add_left h 100)

/-- The tip that a plan starts from. -/
def plannedTip (gas : GasConfig) (suggested : Option Nat) : Nat :=
  let floorTip := gas.priorityFeeGwei * GWEI
  let tip := max (suggested.getD floorTip) floorTip
  if tip = 0 then GWEI else tip

/-- The fee that a plan starts from. -/
def plannedFee (gas : GasConfig) (baseFee suggested : Option Nat) : Nat :=
  let base := baseFee.getD GWEI
  match gas.txType with
  | .legacy => base + plannedTip gas suggested
  | .eip1559 => base * gas.baseFeeMultiplier + plannedTip gas suggested

lemma planFees_legacy {base tip : Option Nat} (htype : gas.txType = .legacy)
    (h : (planFees gas attempt base tip).atCeiling = false) :
    (planFees gas attempt base tip).gasPrice = escalate gas attempt (plannedFee gas base tip) := by
  simp only [planFees, htype, decide_eq_false_iff_not, not_lt] at h
  simp only [planFees, htype, min_eq_left h, plannedFee, plannedTip]

lemma planFees_eip1559 {base tip : Option Nat} (htype : gas.txType = .eip1559)
    (h : (planFees gas attempt base tip).atCeiling = false) :
    (planFees gas attempt base tip).maxFeePerGas = escalate gas attempt (plannedFee gas base tip) ∧
      (planFees gas attempt base tip).maxPriorityFeePerGas =
        escalate gas attempt (plannedTip gas tip) := by
  simp only [planFees, htype, decide_eq_false_iff_not, not_lt] at h
  simp only [planFees, htype, min_eq_left h, plannedFee, plannedTip, true_and]
  -- the tip is part of the fee
  exact min_eq_left (escalate_mono (Nat.le_add_left _ _))

lemma txType_planFees (attempt : Nat) (base tip : Option Nat) :
    (planFees gas attempt base tip).txType = gas.txType := by
  unfold planFees
  split <;> simp_all

def defaultGas : GasConfig := ⟨200, 1, 2, 130, 1_500_000, 25, 4, 180_000, .eip1559⟩

end Replacement

/-! ### The bundle of signatures -/

/-- A signature that can go into a bundle. -/
structure Sig where
  signer : String
  signature : String
  deriving Repr, DecidableEq

namespace Ethers

variable (E : Ethers)

/-- The validators whose addresses can be read. -/
def currentSet (validators : List String) : List String :=
  validators.filterMap fun v => (E.getAddress v).toOption

/-- One stored signature: dropped, a repetition, or usable. -/
def selectStep (current : List String) (acc : List Sig × List String) (s : Sig) :
    List Sig × List String :=
  match E.getAddress s.signer with
  | .error _ => (acc.1, acc.2 ++ [s.signer])
  | .ok signer =>
    if signer ∈ acc.1.map Sig.signer then acc
    else if signer ∉ current then (acc.1, acc.2 ++ [signer])
    else (acc.1 ++ [{ signer, signature := s.signature }], acc.2)

/-- The signatures that go into one `execute()` bundle, in the order of the addresses,
and those that are dropped. -/
def selectSignatures (addressValue : String → Nat) (stored : List Sig)
    (validators : List String) (threshold : Nat) : List Sig × List String :=
  let (usable, dropped) := stored.foldl (E.selectStep (E.currentSet validators)) ([], [])
  let sorted := usable.mergeSort fun a b => decide (addressValue a.signer ≤ addressValue b.signer)
  (if 0 < threshold then sorted.take threshold else sorted, dropped)

/-- The signers of a bundle in the mempool that are no longer validators. -/
def staleSigners (signers : Option (List String)) (validators : List String) : List String :=
  (signers.getD []).filter fun s =>
    match E.getAddress s with
    | .ok signer => decide (signer ∉ E.currentSet validators)
    | .error _ => true

end Ethers

/-! ### The program -/

/-- What a peer answers when it is asked for signatures of a transfer. -/
structure Payload where
  peer : String
  transferId : Option String
  body : String
  deriving Repr, DecidableEq

/-- A chain that transfers are submitted to. -/
structure DstChain where
  bridgeAddress : String
  gas : GasConfig
  deriving Repr, DecidableEq

/-- The configuration of a submitter and what it takes from its libraries. -/
structure Setup where
  host : Host
  chains : Nat → Option DstChain
  skipWhenPaused : Bool
  http : Bool
  sharedDir : Bool
  /-- The signer and the signature of a payload that verifies against the transfer. -/
  verifyPayload : Payload → StoredTransfer → DstChain → Except String Sig
  /-- `parseSignature` throws on a malformed signature. -/
  toSolidityTuple : String → Except String Unit
  /-- `BigInt(address)`. -/
  addressValue : String → Nat
  /-- `Transaction.from(raw).hash`. -/
  hashOf : RawTransaction → String
  /-- The destination of a transfer, which its id determines. -/
  dstOf : String → Nat

namespace Submitter

/-- What the submitter asks of the chains, of its peers and of its store. -/
inductive Effect where
  | now
  /-- Whether the client of the chain has a healthy endpoint. -/
  | healthy (chainId : Nat)
  | processed (chainId : Nat) (transferId : String)
  | paused (chainId : Nat)
  | httpCollect (transferId : String)
  | dirCollect (transferId : String)
  /-- `threshold()` and `getValidators()`. -/
  | validatorSet (chainId : Nat)
  /-- `execute.staticCall`, which throws what the call reverts with. -/
  | staticCall (chainId : Nat) (transferId : String) (signers : List String)
  | latestBaseFee (chainId : Nat)
  | maxPriorityFee (chainId : Nat)
  | estimateGas (chainId : Nat) (transferId : String) (signers : List String)
  | populate (chainId : Nat) (transferId : String) (signers : List String)
  /-- `getTransactionCount(key.address, 'pending')`. -/
  | transactionCount (chainId : Nat)
  | signTransaction (tx : RawTransaction)
  | broadcast (tx : RawTransaction)
  | receipt (chainId : Nat) (txHash : String)
  | getTransfer (transferId : String)
  | listTransfers (filter : TransferFilter)
  | getSignatures (transferId : String)
  | getSubmission (transferId : String)
  | listSubmissions (status : SubmissionStatus)
  | write (m : Mutation)
  deriving Repr, DecidableEq

abbrev Answer : Effect → Type
  | .now => Nat
  | .healthy _ => Bool
  | .processed _ _ => Bool
  | .paused _ => Bool
  | .httpCollect _ => List Payload
  | .dirCollect _ => List Payload
  | .validatorSet _ => Nat × List String
  | .staticCall _ _ _ => Unit
  | .latestBaseFee _ => Option Nat
  | .maxPriorityFee _ => Nat
  | .estimateGas _ _ _ => Nat
  | .populate _ _ _ => Unit
  | .transactionCount _ => Nat
  | .signTransaction _ => Unit
  | .broadcast _ => Unit
  | .receipt _ _ => Option Bool
  | .getTransfer _ => Option StoredTransfer
  | .listTransfers _ => List StoredTransfer
  | .getSignatures _ => List StoredSignature
  | .getSubmission _ => Option StoredSubmission
  | .listSubmissions _ => List StoredSubmission
  | .write _ => Unit

/-- Reads of the clock and of the store, and writes, are answered at once. -/
def Effect.awaits : Effect → Bool
  | .now | .healthy _ | .dirCollect _ | .getTransfer _ | .listTransfers _ | .getSignatures _
  | .getSubmission _ | .listSubmissions _ | .write _ => false
  | _ => true

abbrev Prog (α : Type) := Task Answer α

def ask (e : Effect) : Prog (Answer e) := Task.call e

def now : Prog Nat := ask .now

def write (m : Mutation) : Prog Unit := ask (.write m)

variable (S : Setup)

/-- Backoff before retrying a submission whose simulation failed. -/
def FAILED_RETRY_MS : Nat := 60_000

/-- One payload of a peer: kept if it verifies and its signer is new. -/
def acceptPayload (t : StoredTransfer) (dst : DstChain) (known : List String) (payload : Payload) :
    Prog (List String) := do
  -- a peer that answers with a different transfer is alerted about and skipped
  if payload.transferId.any fun offered => offered.toLower != t.transferId.toLower then
    pure known
  else
    match S.verifyPayload payload t dst with
    | .error _ => pure known
    | .ok sig =>
      if sig.signer ∈ known then pure known
      else do
        let createdAt ← now
        -- a write that throws is caught like a payload that does not verify
        let _ ← (write (.putSignature { transferId := t.transferId, signer := sig.signer
                                        signature := sig.signature, origin := payload.peer
                                        createdAt })).attempt
        pure (known ++ [sig.signer])

/-- The signatures that others sent, one after the other. -/
def acceptPayloads (t : StoredTransfer) (dst : DstChain) : List Payload → List String → Prog Unit
  | [], _ => pure ()
  | payload :: rest, known => do
    let known ← acceptPayload S t dst known payload
    acceptPayloads t dst rest known

def fromPeers (transferId : String) : Prog (List Payload) :=
  if S.http then ask (.httpCollect transferId) else pure []

def fromSharedDir (transferId : String) : Prog (List Payload) :=
  if S.sharedDir then ask (.dirCollect transferId) else pure []

/-- Pull signatures from every configured source and keep the ones that verify. -/
def collectSignatures (t : StoredTransfer) (dst : DstChain) : Prog Unit := do
  let fromPeers ← fromPeers S t.transferId
  let fromDir ← fromSharedDir S t.transferId
  let payloads := fromPeers ++ fromDir
  if payloads.isEmpty then pure ()
  else do
    let stored ← ask (.getSignatures t.transferId)
    acceptPayloads S t dst payloads (stored.map (·.signer))

/-- The signatures that the bridge would count. -/
structure Usable where
  threshold : Nat
  validators : List String
  sigs : List Sig
  dropped : List String
  deriving Repr, DecidableEq

/-- The signatures currently usable, against the validator set read now. -/
def usableSignatures (chainId : Nat) (t : StoredTransfer) : Prog Usable := do
  let (threshold, validatorsRaw) ← ask (.validatorSet chainId)
  let validators ← Task.lift (validatorsRaw.mapM S.host.ethers.getAddress)
  let stored ← ask (.getSignatures t.transferId)
  let (sigs, dropped) := S.host.ethers.selectSignatures S.addressValue
    (stored.map fun s => { signer := s.signer, signature := s.signature }) validators threshold
  pure { threshold, validators, sigs, dropped }

/-- One pending submission: a nonce of the chain that is larger than those before. -/
def raiseMax (chainId : Nat) (localMax : Int) (s : StoredSubmission) : Int :=
  if s.dstChainId = chainId ∧ localMax < s.accountNonce then s.accountNonce else localMax

/-- Nonce allocation, meant not to collide with our own in-flight submissions. -/
def allocateNonce (chainId : Nat) : Prog Nat := do
  let chainNonce ← ask (.transactionCount chainId)
  let pending ← ask (.listSubmissions .pending)
  let localMax := pending.foldl (raiseMax chainId) (-1)
  pure (max (chainNonce : Int) (localMax + 1)).toNat

/-- The submission as it is stored when it fails for good. -/
def failedRow (t : StoredTransfer) (chainId : Nat) (existing : Option StoredSubmission)
    (reason : String) (now : Nat) : StoredSubmission :=
  { transferId := t.transferId
    dstChainId := chainId
    accountNonce := (existing.map (·.accountNonce)).getD (-1)
    attempts := (existing.map (·.attempts)).getD []
    status := .failed
    minedTxHash := none
    lastError := some s!"simulation: {reason}"
    createdAt := (existing.map (·.createdAt)).getD now
    updatedAt := now }

/-- The row of a new attempt at the account nonce `nonce`. -/
def attemptRow (t : StoredTransfer) (chainId : Nat) (existing : Option StoredSubmission)
    (nonce : Nat) (attempt : SubmissionAttempt) (now : Nat) : StoredSubmission :=
  { transferId := t.transferId
    dstChainId := chainId
    accountNonce := nonce
    attempts := (existing.map (·.attempts)).getD [] ++ [attempt]
    status := .pending
    minedTxHash := none
    lastError := none
    createdAt := (existing.map (·.createdAt)).getD now
    updatedAt := now }

/-- The messages of a broadcast that is handled by polling. -/
def isDuplicate (message : String) : Bool :=
  ["already known", "known transaction", "nonce too low", "replacement"].any fun text =>
    (message.toList.map Char.toLower).tails.any text.toList.isPrefixOf

/-- Escalating an unmined attempt reuses its nonce. -/
def reusedNonce : Option StoredSubmission → Option Nat
  | some sub => if sub.status = .pending ∧ 0 ≤ sub.accountNonce then some sub.accountNonce.toNat
      else none
  | none => none

/-- A transfer that has a nonce keeps it. -/
def chooseNonce (chainId : Nat) (existing : Option StoredSubmission) : Prog Nat :=
  match reusedNonce existing with
  | some nonce => pure nonce
  | none => allocateNonce chainId

/-- A node that suggests no tip is no error. -/
def readFees (chainId : Nat) (gas : GasConfig) (attempt : Nat) : Prog FeePlan := do
  let baseFee ← ask (.latestBaseFee chainId)
  let suggested ← (ask (.maxPriorityFee chainId)).attempt
  pure (planFees gas attempt baseFee suggested)

/-- The gas limit, or the cap if the estimate throws. -/
def readGasLimit (chainId : Nat) (gas : GasConfig) (transferId : String) (signers : List String) :
    Prog Nat := do
  let estimate ← (ask (.estimateGas chainId transferId signers)).attempt
  pure ((estimate.map (planGasLimit · gas)).getD gas.gasLimitCap)

/-- Send an attempt that is on disk, and note why if that fails. -/
def send (record : StoredSubmission) (tx : RawTransaction) : Prog StoredSubmission :=
  tryCatch (do ask (.broadcast tx); pure record) fun message =>
    if isDuplicate message then pure record
    else do
      let updatedAt ← now
      let record := { record with lastError := some s!"broadcast: {message}", updatedAt }
      write (.putSubmission record)
      pure record

/-- Sign an attempt and put it on disk: **durable before broadcast**. -/
def signAttempt (t : StoredTransfer) (chainId : Nat) (gas : GasConfig) (fees : FeePlan)
    (gasLimit : Nat) (signers : List String) (existing : Option StoredSubmission) (nonce : Nat) :
    Prog (StoredSubmission × RawTransaction) := do
  let tx : RawTransaction :=
    { chainId, nonce, transferId := t.transferId, gasLimit
      maxFeePerGas := if gas.txType = .legacy then fees.gasPrice else fees.maxFeePerGas
      maxPriorityFeePerGas := fees.maxPriorityFeePerGas, signers }
  ask (.signTransaction tx)
  let now ← now
  let attempt : SubmissionAttempt :=
    { txHash := S.hashOf tx, raw := tx, maxFeePerGas := tx.maxFeePerGas
      maxPriorityFeePerGas := tx.maxPriorityFeePerGas, gasLimit, sentAt := now
      signers := some signers }
  let record := attemptRow t chainId existing nonce attempt now
  write (.putSubmission record)
  pure (record, tx)

/-- Why the call would revert, if it would. -/
def simulate (chainId : Nat) (transferId : String) (signers : List String) :
    Prog (Option String) :=
  tryCatch (do ask (.staticCall chainId transferId signers); pure none) fun reason =>
    pure (some reason)

/-- Simulate, sign and send one attempt, then poll it (`again`). -/
def submit (again : StoredSubmission → Prog Unit) (t : StoredTransfer) (chainId : Nat)
    (dst : DstChain) (sigs : List Sig) (existing : Option StoredSubmission) : Prog Unit := do
  let _ ← Task.lift (sigs.mapM fun s => S.toSolidityTuple s.signature)
  let signers := sigs.map (·.signer)
  match ← simulate chainId t.transferId signers with
  | some reason => do
    let now ← now
    write (.putSubmission (failedRow t chainId existing reason now))
  | none => do
    let attemptIndex := (existing.map (·.attempts.length)).getD 0
    let fees ← readFees chainId dst.gas attemptIndex
    if fees.atCeiling ∧ 0 < attemptIndex then pure ()
    else do
      let gasLimit ← readGasLimit chainId dst.gas t.transferId signers
      ask (.populate chainId t.transferId signers)
      let nonce ← chooseNonce chainId existing
      let (record, tx) ← signAttempt S t chainId dst.gas fees gasLimit signers existing nonce
      let record ← send record tx
      again record

/-- Of any attempt; a failed request counts as no receipt. -/
def findReceipt (chainId : Nat) : List SubmissionAttempt → Prog (Option (String × Bool))
  | [] => pure none
  | attempt :: rest => do
    match ← (ask (.receipt chainId attempt.txHash)).attempt with
    | some (some status) => pure (some (attempt.txHash, status))
    | _ => findReceipt chainId rest

/-- Before a bundle is rebuilt, the peers are asked again. -/
def refresh (chainId : Nat) (dst : DstChain) (transfer : StoredTransfer)
    (staleInFlight : List String) (current : Usable) : Prog Usable :=
  if ¬ staleInFlight.isEmpty ∨ current.sigs.length < current.threshold then do
    collectSignatures S transfer dst
    usableSignatures S chainId transfer
  else pure current

/-- A submission without a receipt: wait, give up, or escalate. -/
def rebuild (again : StoredSubmission → Prog Unit) (dst : DstChain) (sub : StoredSubmission)
    (last : SubmissionAttempt) : Prog Unit := do
  let now ← now
  match ← ask (.getTransfer sub.transferId) with
  | none => pure ()
  | some transfer => do
    let current ← usableSignatures S sub.dstChainId transfer
    let staleInFlight := S.host.ethers.staleSigners last.signers current.validators
    if staleInFlight.isEmpty ∧ now < last.sentAt + dst.gas.receiptTimeoutMs then pure ()
    else do
      let usable ← refresh S sub.dstChainId dst transfer staleInFlight current
      if usable.sigs.length < usable.threshold then pure ()
      else if dst.gas.maxAttempts ≤ sub.attempts.length then do
        let updatedAt ← Submitter.now
        write (.putSubmission { sub with
            status := .abandoned
            lastError := some "no receipt after the final attempt"
            updatedAt })
      else submit S again transfer sub.dstChainId dst usable.sigs (some sub)

/-- Check a pending submission's attempts; mark, escalate or give up. -/
def pollSubmission : Nat → StoredSubmission → Prog Unit
  | 0, _ => pure ()
  | fuel + 1, sub => do
    match S.chains sub.dstChainId with
    | none => pure ()
    | some dst => do
      if ← ask (.healthy sub.dstChainId) then
        match ← findReceipt sub.dstChainId sub.attempts with
        | some (txHash, true) => do
          let updatedAt ← now
          write (.putSubmission
            { sub with status := .mined, minedTxHash := some txHash, updatedAt })
          write (.markExecuted sub.transferId (some txHash))
        | some (txHash, false) => do
          let updatedAt ← now
          write (.putSubmission
            { sub with
              status := .failed
              minedTxHash := some txHash
              lastError := some "reverted on chain"
              updatedAt })
        | none =>
          match sub.attempts.getLast? with
          | none => pure ()
          | some last => rebuild S (pollSubmission fuel) dst sub last

/-- Enough fuel for every submission of the chain. -/
def pollFuel (chainId : Nat) : Nat := ((S.chains chainId).map (·.gas.maxAttempts)).getD 0 + 1

/-- Whether a destination that is paused, or cannot be asked, holds the transfer back. -/
def held (chainId : Nat) : Prog Bool :=
  if S.skipWhenPaused then do
    let paused ← (ask (.paused chainId)).attempt
    pure (paused.getD true)
  else pure false

/-- A submission that `advance` leaves alone: it is polled, exhausted, or backing off. -/
def leaves (dst : DstChain) (now : Nat) : Option StoredSubmission → Bool
  | none => false
  | some existing =>
    decide (existing.status = .pending) ||
    decide (dst.gas.maxAttempts ≤ existing.attempts.length ∧ existing.status ≠ .mined) ||
    decide (existing.status = .failed ∧ now < existing.updatedAt + FAILED_RETRY_MS)

/-- Takes a transfer one step on: it is executed, waits for signatures, or is submitted. -/
def advance (t : StoredTransfer) : Prog Unit := do
  let chainId := t.transfer.dstChainId
  match S.chains chainId with
  | none => pure ()
  | some dst => do
    if ← ask (.healthy chainId) then
      match ← (ask (.processed chainId t.transferId)).attempt with
      | none => pure ()
      | some true => do
        let sub ← ask (.getSubmission t.transferId)
        write (.markExecuted t.transferId (sub.bind (·.minedTxHash)))
      | some false => do
        if ← held S chainId then pure ()
        else do
          collectSignatures S t dst
          let usable ← usableSignatures S chainId t
          if usable.sigs.length < usable.threshold then pure ()
          else do
            let existing ← ask (.getSubmission t.transferId)
            let now ← now
            if leaves dst now existing then pure ()
            else
              submit S (pollSubmission S (pollFuel S chainId)) t chainId dst usable.sigs existing

/-! ### The fuel is enough -/

lemma yields_signAttempt (t : StoredTransfer) (chainId : Nat) (gas : GasConfig) (fees : FeePlan)
    (gasLimit : Nat) (signers : List String) (sub : StoredSubmission) (nonce : Nat) :
    (signAttempt S t chainId gas fees gasLimit signers (some sub) nonce).Yields fun out =>
      out.1.dstChainId = chainId ∧ out.1.attempts.length = sub.attempts.length + 1 := by
  refine yields_true.bind fun _ _ => yields_true.bind fun now _ => yields_true.bind fun _ _ => ?_
  exact ⟨rfl, by simp [attemptRow]⟩

lemma yields_send (record : StoredSubmission) (tx : RawTransaction) :
    (send record tx).Yields fun out =>
      out.dstChainId = record.dstChainId ∧ out.attempts = record.attempts := by
  refine Yields.catching (yields_true.bind fun _ _ => ⟨rfl, rfl⟩) fun message => ?_
  split
  · exact ⟨rfl, rfl⟩
  · exact yields_true.bind fun _ _ => yields_true.bind fun _ _ => ⟨rfl, rfl⟩

lemma submit_congr {again again' : StoredSubmission → Prog Unit} {sub : StoredSubmission}
    (h : ∀ record, record.dstChainId = sub.dstChainId →
      record.attempts.length = sub.attempts.length + 1 → again record = again' record)
    (t : StoredTransfer) (dst : DstChain) (sigs : List Sig) :
    submit S again t sub.dstChainId dst sigs (some sub) =
      submit S again' t sub.dstChainId dst sigs (some sub) := by
  refine yields_true.bind_congr fun _ _ => yields_true.bind_congr fun failed _ => ?_
  cases failed with
  | some => rfl
  | none =>
    refine yields_true.bind_congr fun fees _ => ?_
    split
    · rfl
    · refine yields_true.bind_congr fun gasLimit _ =>
        yields_true.bind_congr fun _ _ => yields_true.bind_congr fun nonce _ => ?_
      refine (yields_signAttempt S t sub.dstChainId dst.gas fees gasLimit _ sub
        nonce).bind_congr fun out hout => ?_
      refine (yields_send out.1 out.2).bind_congr fun record hrecord => ?_
      exact h record (hrecord.1.trans hout.1) (by rw [hrecord.2, hout.2])

/-- **More fuel changes nothing**: an escalated submission has one attempt more, and one of
`maxAttempts` attempts is not escalated. -/
theorem pollSubmission_fuel {m n : Nat} {sub : StoredSubmission} (hm : 0 < m) (hn : 0 < n)
    (hmfuel : pollFuel S sub.dstChainId ≤ m + sub.attempts.length)
    (hnfuel : pollFuel S sub.dstChainId ≤ n + sub.attempts.length) :
    pollSubmission S m sub = pollSubmission S n sub := by
  induction m generalizing n sub with
  | zero => exact absurd hm (lt_irrefl 0)
  | succ m ih =>
    obtain ⟨n, rfl⟩ := exists_eq_add_one_of_ne_zero (ne_of_gt hn)
    unfold pollSubmission
    cases hdst : S.chains sub.dstChainId with
    | none => rfl
    | some dst =>
      have hfuel : pollFuel S sub.dstChainId = dst.gas.maxAttempts + 1 := by simp [pollFuel, hdst]
      refine yields_true.bind_congr fun healthy _ => ?_
      split
      · refine yields_true.bind_congr fun receipt _ => ?_
        split
        · rfl
        · rfl
        · split
          · rfl
          · next last hlast =>
            refine yields_true.bind_congr fun now _ => yields_true.bind_congr fun transfer _ => ?_
            cases transfer with
            | none => rfl
            | some =>
              refine yields_true.bind_congr fun current _ => ?_
              dsimp only
              split
              · rfl
              · refine yields_true.bind_congr fun usable _ => ?_
                split
                · rfl
                · split
                  · rfl
                  · refine submit_congr S (fun record hchain hlength => ?_) _ _ _
                    refine ih (by omega) (by omega) ?_ ?_ <;> rw [hchain, hlength] <;> omega
      · rfl

/-! ### Jobs -/

/-- What the service gives the role to do, one after the other. -/
inductive Job where
  | tick
  | confirmed (transferId : String)
  deriving Repr, DecidableEq

/-- A round: first the pending submissions, then the transfers. -/
def tick : Prog Unit := do
  let pending ← ask (.listSubmissions .pending)
  Task.each pending fun sub => pollSubmission S (pollFuel S sub.dstChainId) sub
  let transfers ← ask (.listTransfers { status := some [.confirmed, .signed], limit := some 200 })
  Task.each transfers fun t =>
    if (S.chains t.transfer.dstChainId).isSome then advance S t else pure ()

/-- `onConfirmed`: the row is read again, and still has to be confirmed. -/
def onConfirmed (transferId : String) : Prog Unit := do
  match ← ask (.getTransfer transferId) with
  | none => pure ()
  | some t => if t.status = .confirmed then advance S t else pure ()

/-- The jobs of the submitter. -/
def task : Job → Prog Unit
  | .tick => tick S
  | .confirmed transferId => onConfirmed S transferId

end Submitter

end Ferminux.Relayer
