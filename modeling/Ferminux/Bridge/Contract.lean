import Ferminux.Bridge.Governance
import Ferminux.Lib.Prog

/-!
# Bridge.Contract

The programs of `FerminuxBridge.sol`: `send`, `execute`, the fee sweep, the rescue, the
registrations, the wrapper rotation and the execution of queued actions.

Every read of another contract and every call of one is an `ExtCall`. **Storage is read
again after a call** wherever the source reads it through a storage reference, since the
callee may have called back and changed it.
-/

namespace Ferminux.Bridge

open Lib Function Lib.Prog

/-! ### Storage and calls -/

/-- The events. The fields of `Sent` besides the fee are those of the transfer. -/
inductive Event (H : Type) where
  | Sent (transferId : H) (t : BridgeTransfer) (fee : Nat)
  | Executed (transferId : H) (srcChainId : Nat) (localToken remoteToken recipient : Address)
      (amount signatureCount : Nat)
  | ShortDelivery (transferId : H) (owed paid delivered : Nat)
  | FeesWithdrawn (token dest : Address) (amount : Nat)
  | Rescued (token dest : Address) (amount : Nat)
  | NativeReceived (sender : Address) (amount : Nat)
  | gov (event : GovEvent H)

/-- The storage of the contract, with the events it has emitted. -/
structure Store (H : Type) where
  config : Config H
  lockedBalance : Address → Nat := fun _ => 0
  accruedFees : Address → Nat := fun _ => 0
  outboundWindow : Address → Window := fun _ => {}
  inboundWindow : Address → Window := fun _ => {}
  processed : H → Bool := fun _ => false
  outboundNonce : Nat := 0
  /-- `1` when no guarded function is running, `2` while one is. -/
  reentrancy : Nat := 1
  logs : List (Event H) := []

/-- What a token answered to `transfer` or `transferFrom`. -/
inductive Returned where
  | empty
  | bool (b : Bool)
  /-- Data that does not decode as a `bool`. -/
  | malformed
  deriving Repr, DecidableEq

/-- The calls that leave the bridge. -/
inductive ExtCall where
  | hasCode (account : Address)
  | codehash (account : Address)
  | selfBalance
  | balanceOf (token who : Address)
  | totalSupply (token : Address)
  | bridge (token : Address)
  | interfaceId (candidate : Address)
  | transfer (token dest : Address) (amount : Nat)
  | transferFrom (token src dest : Address) (amount : Nat)
  | sendValue (dest : Address) (amount : Nat)
  | mint (token dest : Address) (amount : Nat)
  | burn (token src : Address) (amount : Nat)
  | proposeBridge (token newBridge : Address)
  | cancelBridgeRotation (token : Address)
  | acceptBridge (token : Address)
  deriving Repr, DecidableEq

/-- The answers. An error is a failed call, with the reason it reverted with. -/
abbrev Answer (H : Type) : ExtCall → Type
  | .hasCode _ => Bool
  | .codehash _ => H
  | .selfBalance => Nat
  | .balanceOf _ _ => Except String Nat
  | .totalSupply _ => Except String Nat
  | .bridge _ => Except String Address
  /- The identity a candidate claims, if it answered with 32 bytes. -/
  | .interfaceId _ => Option H
  | .transfer _ _ _ => Except String Returned
  | .transferFrom _ _ _ _ => Except String Returned
  | .sendValue _ _ => Except String Unit
  | .mint _ _ _ => Except String Unit
  | .burn _ _ _ => Except String Unit
  | .proposeBridge _ _ => Except String Unit
  | .cancelBridgeRotation _ => Except String Unit
  | .acceptBridge _ => Except String Unit

/-- A call, with the calls that leave it. -/
abbrev Contract (H : Type) := Prog (Store H) (Answer H)

variable {H : Type}

/-- A governance computation, run on the configuration. -/
def gov {α : Type} (g : Gov H α) : Contract H α :=
  embed (fun s => ⟨s.config, []⟩)
    (fun s x => { s with config := x.config, logs := s.logs ++ x.emitted.map .gov }) g

def emit (e : Event H) : Contract H Unit := modify fun s => { s with logs := s.logs ++ [e] }

def enter : Contract H Unit := do
  require ((← get).reentrancy = 1) "BRIDGE: reentrant"
  modify fun s => { s with reentrancy := 2 }

/-- The second half of `nonReentrant`. -/
def exit : Contract H Unit := modify fun s => { s with reentrancy := 1 }

def nonReentrant {α : Type} (body : Contract H α) : Contract H α := do
  enter
  let a ← body
  exit
  return a

/-! ### Calls to other contracts -/

def ask (c : ExtCall) : Contract H (Answer H c) := call c

lemma wp_ask {E : Type} {X : Callee (Store H) E (Answer H)} {J : World (Store H) E → Prop}
    {c : ExtCall} {R : Answer H c → World (Store H) E → Prop} {w : World (Store H) E} :
    (ask c).Wp X J R w ↔
      (∀ w', X.yields c w w' → J w') ∧ ∀ ans w', X.answers c w ans w' → R ans w' :=
  wp_call

-- calls made through an interface pass a failure on
def balanceOf (token who : Address) : Contract H Nat := do
  lift (← ask (.balanceOf token who))

def totalSupply (token : Address) : Contract H Nat := do lift (← ask (.totalSupply token))

def bridgeOf (token : Address) : Contract H Address := do lift (← ask (.bridge token))

def mint (token dest : Address) (amount : Nat) : Contract H Unit := do
  lift (← ask (.mint token dest amount))

def burn (token src : Address) (amount : Nat) : Contract H Unit := do
  lift (← ask (.burn token src amount))

def proposeBridge (token newBridge : Address) : Contract H Unit := do
  lift (← ask (.proposeBridge token newBridge))

def cancelBridgeRotation (token : Address) : Contract H Unit := do
  lift (← ask (.cancelBridgeRotation token))

def acceptBridge (token : Address) : Contract H Unit := do
  lift (← ask (.acceptBridge token))

def requireCode (account : Address) (reason : String) : Contract H Unit := do
  let code : Bool ← ask (.hasCode account)
  require (code = true) reason

/-- `ok && (ret.length == 0 || abi.decode(ret, (bool)))`. -/
def succeeded : Except String Returned → Except String Bool
  | .error _ => .ok false
  | .ok .empty => .ok true
  | .ok (.bool b) => .ok b
  | .ok .malformed => .error ""

namespace Deployment

variable [DecidableEq H] [Zero H] (D : Deployment H) (m : Context)

/-- What the bridge holds; the zero address is the native coin. -/
def heldBalance (token : Address) : Contract H Nat :=
  if token = 0 then ask .selfBalance else balanceOf token D.this

/-- What the bridge holds beyond what is locked or accrued as fees. -/
def surplusOf (token : Address) : Contract H Nat := do
  let s ← get
  let reserved ← checkedAdd 256 (s.lockedBalance token) (s.accruedFees token)
  let bal ← D.heldBalance token
  return if reserved < bal then bal - reserved else 0

/-- Transfer out and measure both sides. -/
def settle (token dest : Address) (amount : Nat) : Contract H (Nat × Nat) := do
  requireCode token "BRIDGE: token has no code"
  let fromBefore ← balanceOf token D.this
  let toBefore ← balanceOf token dest
  let ret : Except String Returned ← ask (.transfer token dest amount)
  require ((← succeeded ret) = true) "BRIDGE: transfer failed"
  let fromAfter ← balanceOf token D.this
  let toAfter ← balanceOf token dest
  require (fromAfter < fromBefore ∧ toBefore < toAfter) "BRIDGE: transfer not settled"
  let paid := fromBefore - fromAfter
  let delivered := toAfter - toBefore
  require (paid ≤ amount) "BRIDGE: inexact transfer"
  return (paid, delivered)

/-- Exactly this amount must leave the bridge and arrive. -/
def safeTransfer (token dest : Address) (amount : Nat) : Contract H Unit := do
  let (paid, delivered) ← D.settle token dest amount
  require (paid = amount ∧ delivered = amount) "BRIDGE: inexact transfer"

/-- A token may return nothing. -/
def safeTransferFrom (token src dest : Address) (amount : Nat) : Contract H Unit := do
  requireCode token "BRIDGE: token has no code"
  let ret : Except String Returned ← ask (.transferFrom token src dest amount)
  require ((← succeeded ret) = true) "BRIDGE: transferFrom failed"

/-- A payment in the native coin. -/
def safeTransferNative (dest : Address) (amount : Nat) : Contract H Unit := do
  let ok : Except String Unit ← ask (.sendValue dest amount)
  require (ok.isOk = true) "BRIDGE: native transfer failed"

/-- The one place value leaves the contract. -/
def payOut (token dest : Address) (amount : Nat) : Contract H Unit :=
  if token = 0 then safeTransferNative dest amount else D.safeTransfer token dest amount

/-! ### Outbound -/

/-- Pull the value in; what arrived is measured. -/
def pullIn (localToken : Address) (kind : TokenKind) (amount : Nat) :
    Contract H Unit :=
  if localToken = 0 then
    require (m.value = amount) "BRIDGE: bad msg.value"
  else do
    require (m.value = 0) "BRIDGE: unexpected value"
    if kind = .CANONICAL then
      let balBefore ← balanceOf localToken D.this
      safeTransferFrom localToken m.sender D.this amount
      let balAfter ← balanceOf localToken D.this
      require ((← checkedSub balAfter balBefore) = amount) "BRIDGE: inexact transfer"

/-- The rails of `send`: the cap per transfer and the outbound window. -/
def outboundRails (localToken : Address) (amount : Nat) : Contract H Unit := do
  let s ← get
  let cfg := s.config.tokenConfig localToken
  require (amount ≤ cfg.maxPerTransfer) "BRIDGE: over per-transfer cap"
  let window ← consume m.timestamp (s.outboundWindow localToken) cfg.dailyCap amount
  modify fun s => { s with outboundWindow := update s.outboundWindow localToken window }

/-- What is delivered of an amount, and the fee. -/
def splitFee (amount : Nat) : Contract H (Nat × Nat) := do
  let fee := (← checkedMul 256 amount (← get).config.feeBps) / BPS_DENOMINATOR
  let net ← checkedSub amount fee
  require (0 < net) "BRIDGE: amount too small"
  return (net, fee)

/-- Canonical tokens become collateral. Wrapped tokens are burned and the fee is minted
again to the bridge; the supply is the receipt. -/
def lockOrBurn (localToken : Address) (amount net fee : Nat) :
    Contract H Unit := do
  let s ← get
  if (s.config.tokenConfig localToken).kind = .CANONICAL then
    let locked ← checkedAdd 256 (s.lockedBalance localToken) net
    modify fun s => { s with lockedBalance := update s.lockedBalance localToken locked }
  else
    let supplyBefore ← totalSupply localToken
    burn localToken m.sender amount
    mintFee localToken fee
    let supplyAfter ← totalSupply localToken
    require ((← checkedSub supplyBefore supplyAfter) = net) "BRIDGE: burn not settled"
where
  mintFee (localToken : Address) (fee : Nat) : Contract H Unit :=
    if 0 < fee then mint localToken D.this fee else pure ()

/-- The fee stays in the bridge until it is withdrawn. -/
def accrueFee (localToken : Address) (fee : Nat) : Contract H Unit :=
  if 0 < fee then do
    let accrued ← checkedAdd 256 ((← get).accruedFees localToken) fee
    modify fun s => { s with accruedFees := update s.accruedFees localToken accrued }
  else pure ()

/-- The transfer under the next nonce, its id and its `Sent` event. -/
def announce (localToken : Address) (dstChainId : Nat) (recipient : Address)
    (net fee : Nat) : Contract H H := do
  let s ← get
  let n ← checkedAdd 64 s.outboundNonce 1
  modify fun s => { s with outboundNonce := n }
  let t : BridgeTransfer :=
    { srcChainId := m.chainid % 2 ^ 64
      dstChainId
      nonce := n
      srcToken := localToken
      dstToken := (s.config.tokenConfig localToken).remoteToken
      sender := m.sender
      recipient
      amount := net }
  let transferId := D.transferIdOf t
  emit (.Sent transferId t fee)
  return transferId

/-- Locks or burns the amount here, to be delivered on the remote chain. -/
def send (localToken : Address) (amount dstChainId : Nat) (recipient : Address) :
    Contract H H := nonReentrant do
  let c := (← get).config
  require (c.paused = false) "BRIDGE: paused"
  require (recipient ≠ 0) "BRIDGE: zero recipient"
  require (0 < amount) "BRIDGE: zero amount"
  let cfg ← gov (registeredConfig localToken)
  require (cfg.paused = false) "BRIDGE: token paused"
  require (dstChainId = cfg.remoteChainId) "BRIDGE: bad dst chain"
  require (recipient ≠ c.remoteBridge dstChainId ∧ recipient ≠ D.this)
    "BRIDGE: recipient is bridge"
  D.pullIn m localToken cfg.kind amount
  outboundRails m localToken amount
  let (net, fee) ← splitFee amount
  D.lockOrBurn m localToken amount net fee
  accrueFee localToken fee
  D.announce m localToken dstChainId recipient net fee

/-! ### Inbound -/

/-- The rails of `execute`. -/
def inboundRails (localToken : Address) (amount : Nat) : Contract H Unit := do
  let s ← get
  let cfg := s.config.tokenConfig localToken
  require (amount ≤ cfg.maxPerTransfer) "BRIDGE: over per-transfer cap"
  let window ← consume m.timestamp (s.inboundWindow localToken) cfg.dailyCap amount
  modify fun s => { s with inboundWindow := update s.inboundWindow localToken window }

/-- Release collateral; a transfer that is armed may settle short, once. -/
def release (t : BridgeTransfer) (transferId : H) : Contract H Unit := do
  let s ← get
  let locked ← checkedSub (s.lockedBalance t.dstToken) t.amount
  modify fun s => { s with lockedBalance := update s.lockedBalance t.dstToken locked }
  if s.config.shortDeliveryArmed = transferId then
    modify fun s => { s with config := { s.config with shortDeliveryArmed := 0 } }
    let (paid, delivered) ← D.settle t.dstToken t.recipient t.amount
    emit (.ShortDelivery transferId t.amount paid delivered)
  else
    D.payOut t.dstToken t.recipient t.amount

/-- Mint; the recipient's balance is the receipt. -/
def mintOut (t : BridgeTransfer) : Contract H Unit := do
  let recipientBefore ← balanceOf t.dstToken t.recipient
  mint t.dstToken t.recipient t.amount
  let recipientAfter ← balanceOf t.dstToken t.recipient
  require ((← checkedSub recipientAfter recipientBefore) = t.amount) "BRIDGE: mint not settled"

/-- Canonical tokens are released, wrapped ones minted. -/
def deliver (kind : TokenKind) (t : BridgeTransfer) (transferId : H) : Contract H Unit :=
  if kind = .CANONICAL then D.release t transferId else mintOut t

/-- Delivers a transfer that enough validators have signed, once. -/
def execute (t : BridgeTransfer) (sigs : List Signature) : Contract H Unit :=
  nonReentrant do
    let s ← get
    require (s.config.paused = false) "BRIDGE: paused"
    require (t.dstChainId = m.chainid % 2 ^ 64) "BRIDGE: wrong dst chain"
    require (t.srcChainId ≠ t.dstChainId) "BRIDGE: same chain"
    require (t.recipient ≠ 0) "BRIDGE: zero recipient"
    require (t.recipient ≠ D.this) "BRIDGE: recipient is bridge"
    require (0 < t.amount) "BRIDGE: zero amount"
    let transferId := D.transferIdOf t
    require (s.processed transferId = false) "BRIDGE: already processed"
    let cfg ← gov (registeredConfig t.dstToken)
    require (cfg.paused = false) "BRIDGE: token paused"
    require (cfg.remoteChainId = t.srcChainId) "BRIDGE: bad src chain"
    require (cfg.remoteToken = t.srcToken) "BRIDGE: token mismatch"
    inboundRails m t.dstToken t.amount
    D.verifySignatures s.config.isValidator s.config.threshold (D.hashTransfer m.chainid t) sigs
    modify fun s => { s with processed := update s.processed transferId true }
    D.deliver cfg.kind t transferId
    emit (.Executed transferId t.srcChainId t.dstToken t.srcToken t.recipient t.amount sigs.length)

/-! ### Fee sink and rescue -/

/-- Pays all accrued fees of a token to the collector. -/
def withdrawFees (token : Address) : Contract H Unit := nonReentrant do
  let s ← get
  require (m.sender = s.config.owner ∨ m.sender = s.config.feeCollector)
    "BRIDGE: not fee authority"
  let amount := s.accruedFees token
  require (0 < amount) "BRIDGE: no fees"
  let held ← D.heldBalance token
  require ((← checkedAdd 256 (s.lockedBalance token) amount) ≤ held) "BRIDGE: impairs collateral"
  modify fun s => { s with accruedFees := update s.accruedFees token 0 }
  let dest := (← get).config.feeCollector
  D.payOut token dest amount
  emit (.FeesWithdrawn token dest amount)

/-- Unregistered tokens: the owner, at once. Registered ones: only the bridge itself,
through the timelock. -/
def rescueAllowed (token : Address) : Gov H Unit :=
  if m.sender ≠ D.this then do
    onlyOwner m
    require (((← Gov.config).tokenConfig token).kind = .UNREGISTERED) "BRIDGE: timelocked"
  else pure ()

/-- The timelock may only take what is surplus. -/
def rescue (token dest : Address) (amount : Nat) : Contract H Unit :=
  nonReentrant do
    gov (D.rescueAllowed m token)
    require (dest ≠ 0) "BRIDGE: zero to"
    require (dest ≠ D.this) "BRIDGE: to is bridge"
    require (0 < amount) "BRIDGE: zero amount"
    require (amount ≤ (← D.surplusOf token)) "BRIDGE: exceeds surplus"
    D.payOut token dest amount
    emit (.Rescued token dest amount)

/-! ### Registration and wrapper rotation -/

/-- A token that is not the native coin must have code and answer `balanceOf`. -/
def probe (localToken : Address) : Contract H Unit :=
  if localToken ≠ 0 then do
    requireCode localToken "BRIDGE: token not a contract"
    let _ ← balanceOf localToken D.this
  else pure ()

/-- A token of this chain, which is locked here and wrapped on the remote chain. -/
def registerCanonical (localToken : Address) (remoteChainId : Nat)
    (remoteToken : Address) (maxPerTransfer dailyCap : Nat) : Contract H Unit := do
  gov (D.onlySelf m)
  D.probe localToken
  gov (register m localToken .CANONICAL remoteChainId remoteToken maxPerTransfer dailyCap)

/-- The code of a wrapper must be the reviewed one. -/
def requirePinned (localToken : Address) : Contract H Unit := do
  let pin := (← get).config.bridgeTokenCodehash
  require (pin ≠ 0) "BRIDGE: wrapper pin unset"
  let codehash : H ← ask (.codehash localToken)
  require (codehash = pin) "BRIDGE: wrapper not pinned"

/-- A token of the remote chain, which this bridge mints. -/
def registerWrapped (localToken : Address) (remoteChainId : Nat)
    (remoteToken : Address) (maxPerTransfer dailyCap : Nat) : Contract H Unit := do
  gov (D.onlySelf m)
  require (localToken ≠ 0) "BRIDGE: wrapped is not native"
  requireCode localToken "BRIDGE: token not a contract"
  requirePinned localToken
  require ((← bridgeOf localToken) = D.this) "BRIDGE: not the minter"
  gov (register m localToken .WRAPPED remoteChainId remoteToken maxPerTransfer dailyCap)

/-- Offers the minting of a wrapper to a later bridge. -/
def proposeWrapperBridge (localToken newBridge : Address) : Contract H Unit := do
  gov (D.onlySelf m)
  nonReentrant do
    require (newBridge ≠ 0) "BRIDGE: zero bridge"
    require (newBridge ≠ D.this) "BRIDGE: same bridge"
    let identity : Option H ← ask (.interfaceId newBridge)
    require (identity = some D.BRIDGE_INTERFACE_ID) "BRIDGE: not a bridge"
    requirePinned localToken
    proposeBridge localToken newBridge
    emit (.gov (.WrapperBridgeRotationProposed localToken newBridge))

def cancelWrapperBridgeRotation (localToken : Address) : Contract H Unit := do
  gov (onlyOwner m)
  nonReentrant do
    cancelBridgeRotation localToken
    emit (.gov (.WrapperBridgeRotationCanceled localToken))

/-- Takes over the minting of a wrapper that was offered. -/
def adoptWrapper (localToken : Address) : Contract H Unit := do
  gov (onlyOwner m)
  nonReentrant do
    requirePinned localToken
    acceptBridge localToken
    emit (.gov (.WrapperAdopted localToken))

/-! ### Timelock and dispatch -/

/-- The functions that only the bridge itself may call. -/
def timelocked : Timelocked H → Contract H Unit
  | .setter call => gov (D.setter m call)
  | .registerCanonical localToken remoteChainId remoteToken maxPerTransfer dailyCap =>
    D.registerCanonical m localToken remoteChainId remoteToken maxPerTransfer dailyCap
  | .registerWrapped localToken remoteChainId remoteToken maxPerTransfer dailyCap =>
    D.registerWrapped m localToken remoteChainId remoteToken maxPerTransfer dailyCap
  | .proposeWrapperBridge localToken newBridge => D.proposeWrapperBridge m localToken newBridge
  | .rescue token dest amount => D.rescue m token dest amount

/-- The bridge calling itself. There is no fallback: what does not decode reverts. -/
def selfCall : CallData H → Contract H Unit
  | .encoded call => D.timelocked { m with sender := D.this, value := 0 } call
  | .short | .raw _ => revert ""

/-- Calls the bridge with the data of an action that is due. -/
def executeAction (actionId : Nat) : Contract H Unit := do
  let data ← gov (startAction m actionId)
  D.selfCall m data
  emit (.gov (.ActionExecuted actionId data.selector?))

end Deployment

/-- The calls from outside. -/
inductive Function (H : Type) where
  | send (localToken : Address) (amount dstChainId : Nat) (recipient : Address)
  | execute (t : BridgeTransfer) (sigs : List Signature)
  | withdrawFees (token : Address)
  | timelocked (call : Timelocked H)
  | instant (call : Instant H)
  | executeAction (actionId : Nat)
  | cancelWrapperBridgeRotation (localToken : Address)
  | adoptWrapper (localToken : Address)
  /-- A transfer of the native coin with no data. -/
  | receive

namespace Deployment

variable [DecidableEq H] [Zero H] (D : Deployment H) (m : Context)

/-- The functions that are not payable refuse value before anything else. -/
def nonPayable (body : Contract H Unit) : Contract H Unit := do
  require (m.value = 0) ""
  body

/-- The function behind a call. -/
def run : Function H → Contract H Unit
  | .send localToken amount dstChainId recipient => do
    let _ ← D.send m localToken amount dstChainId recipient
  | .execute t sigs => nonPayable m (D.execute m t sigs)
  | .withdrawFees token => nonPayable m (D.withdrawFees m token)
  | .timelocked call => nonPayable m (D.timelocked m call)
  | .instant call => nonPayable m (gov (call.run m))
  | .executeAction actionId => nonPayable m (D.executeAction m actionId)
  | .cancelWrapperBridgeRotation localToken =>
    nonPayable m (cancelWrapperBridgeRotation m localToken)
  | .adoptWrapper localToken => nonPayable m (adoptWrapper m localToken)
  | .receive => emit (.NativeReceived m.sender m.value)

/-! ### Constructor -/

/-- The arguments of the constructor. -/
structure Arguments where
  owner : Address
  validators : List Address
  threshold : Nat
  feeCollector : Address
  feeBps : Nat
  timelockDelay : Nat
  pauser : Address

/-- The body of the constructor's loop. -/
def seat (isValidator : Address → Bool) (v : Address) : Except String (Address → Bool) := do
  require (v ≠ 0) "BRIDGE: zero validator"
  require (isValidator v = false) "BRIDGE: duplicate validator"
  return update isValidator v true

/-- `constructor` -/
def construct (args : Arguments) : Except String (Store H) := do
  require (args.owner ≠ 0) "BRIDGE: zero owner"
  require (args.feeCollector ≠ 0) "BRIDGE: zero collector"
  require (args.feeCollector ≠ D.this) "BRIDGE: collector is bridge"
  require (args.feeBps ≤ MAX_FEE_BPS) "BRIDGE: fee too high"
  require (MIN_TIMELOCK_DELAY ≤ args.timelockDelay ∧ args.timelockDelay ≤ MAX_TIMELOCK_DELAY)
    "BRIDGE: bad delay"
  require (0 < args.validators.length ∧ args.validators.length ≤ MAX_VALIDATORS)
    "BRIDGE: bad validator count"
  require (1 ≤ args.threshold ∧ args.threshold ≤ args.validators.length) "BRIDGE: bad threshold"
  let isValidator ← args.validators.foldlM seat fun _ => false
  let pausers := if args.pauser ≠ 0 then [args.pauser] else []
  let events : List (GovEvent H) :=
    args.validators.map .ValidatorAdded ++ pausers.map (.PauserSet · true) ++
      [.OwnershipTransferred 0 args.owner, .ThresholdChanged args.threshold,
        .FeeCollectorChanged args.feeCollector, .FeeBpsChanged args.feeBps,
        .TimelockDelayChanged args.timelockDelay]
  return {
    config := {
      owner := args.owner
      isPauser := fun account => account ∈ pausers
      validators := args.validators
      isValidator
      threshold := args.threshold
      feeCollector := args.feeCollector
      feeBps := args.feeBps
      timelockDelay := args.timelockDelay
      bridgeTokenCodehash := 0
      shortDeliveryArmed := 0 }
    logs := events.map .gov }

end Deployment

end Ferminux.Bridge
