import Ferminux.Bridge.Types

/-!
# Bridge.Governance

The configuration of the bridge and everything that changes it: the instant safety
operations, the ownership handover, the timelock queue, and the setters that only the
bridge itself may call.

These functions see a `Config` and nothing else of the contract's storage, so **no
governance operation can touch a balance, a replay flag or the reentrancy guard**; what
they can do to the token registry is `RoutesKept`: a registered token keeps its kind and
its counterpart for ever.
-/

namespace Ferminux.Bridge

open Lib Function

/-! ### What can be queued -/

/-- A call of a function behind the timelock that only writes the configuration. -/
inductive Setter (H : Type) where
  | setTokenLimits (localToken : Address) (newMaxPerTransfer newDailyCap : Nat)
  | addValidator (validator : Address)
  | removeValidator (validator : Address)
  | setThreshold (newThreshold : Nat)
  | setFeeBps (newFeeBps : Nat)
  | setFeeCollector (newCollector : Address)
  | setTimelockDelay (newDelay : Nat)
  | transferOwnership (newOwner : Address)
  | setBridgeTokenCodehash (newCodehash : H)
  | setRemoteBridge (remoteChainId : Nat) (remoteBridgeAddress : Address)
  | allowShortDelivery (t : BridgeTransfer)
  deriving Repr, DecidableEq

/-- A call of one of the functions behind the timelock. -/
inductive Timelocked (H : Type) where
  | setter (call : Setter H)
  | registerCanonical (localToken : Address) (remoteChainId : Nat) (remoteToken : Address)
      (maxPerTransfer dailyCap : Nat)
  | registerWrapped (localToken : Address) (remoteChainId : Nat) (remoteToken : Address)
      (maxPerTransfer dailyCap : Nat)
  | proposeWrapperBridge (localToken newBridge : Address)
  | rescue (token dest : Address) (amount : Nat)
  deriving Repr, DecidableEq

/-- The first four bytes of a call. -/
inductive Selector where
  | registerCanonical | registerWrapped | setTokenLimits | addValidator | removeValidator
  | setThreshold | setFeeBps | setFeeCollector | setTimelockDelay | transferOwnership
  | proposeWrapperBridge | setBridgeTokenCodehash | setRemoteBridge | allowShortDelivery
  | rescue
  | other (bytes : Nat)
  deriving Repr, DecidableEq

def Setter.selector {H : Type} : Setter H → Selector
  | .setTokenLimits .. => .setTokenLimits
  | .addValidator .. => .addValidator
  | .removeValidator .. => .removeValidator
  | .setThreshold .. => .setThreshold
  | .setFeeBps .. => .setFeeBps
  | .setFeeCollector .. => .setFeeCollector
  | .setTimelockDelay .. => .setTimelockDelay
  | .transferOwnership .. => .transferOwnership
  | .setBridgeTokenCodehash .. => .setBridgeTokenCodehash
  | .setRemoteBridge .. => .setRemoteBridge
  | .allowShortDelivery .. => .allowShortDelivery

def Timelocked.selector {H : Type} : Timelocked H → Selector
  | .setter call => call.selector
  | .registerCanonical .. => .registerCanonical
  | .registerWrapped .. => .registerWrapped
  | .proposeWrapperBridge .. => .proposeWrapperBridge
  | .rescue .. => .rescue

/-- What may be queued. -/
def isTimelocked : Selector → Bool
  | .registerCanonical | .registerWrapped | .setTokenLimits | .addValidator
  | .removeValidator | .setThreshold | .setFeeBps | .setFeeCollector | .setTimelockDelay
  | .transferOwnership | .proposeWrapperBridge | .setBridgeTokenCodehash
  | .setRemoteBridge | .allowShortDelivery | .rescue => true
  | .other _ => false

/-- The data of a queued action, as far as the bridge looks at it. -/
inductive CallData (H : Type) where
  /-- Fewer than four bytes. -/
  | short
  /-- A call of a timelocked function with arguments that decode. -/
  | encoded (call : Timelocked H)
  /-- A selector followed by anything else. -/
  | raw (selector : Selector)
  deriving Repr, DecidableEq

def CallData.selector? {H : Type} : CallData H → Option Selector
  | .short => none
  | .encoded call => some call.selector
  | .raw selector => some selector

/-- A queued call of the bridge to itself. -/
structure Action (H : Type) where
  data : CallData H
  eta : Nat
  executed : Bool
  canceled : Bool
  deriving Repr, DecidableEq

/-! ### Configuration -/

/-- The part of the storage that governance writes. -/
structure Config (H : Type) where
  owner : Address
  pendingOwner : Address := 0
  pendingOwnerExpiry : Nat := 0
  isPauser : Address → Bool := fun _ => false
  validators : List Address := []
  isValidator : Address → Bool := fun _ => false
  threshold : Nat
  feeCollector : Address
  feeBps : Nat
  timelockDelay : Nat
  paused : Bool := false
  tokenConfig : Address → TokenConfig := fun _ => {}
  registeredTokens : List Address := []
  /-- Reverse index of the registry, with `NATIVE_ROUTE` for the native coin. -/
  localTokenFor : Nat → Address → Address := fun _ _ => 0
  remoteBridge : Nat → Address := fun _ => 0
  bridgeTokenCodehash : H
  /-- The one transfer that may settle short, or zero. -/
  shortDeliveryArmed : H
  actions : List (Action H) := []

/-- The events of governance. -/
inductive GovEvent (H : Type) where
  | TokenRegistered (localToken : Address) (kind : TokenKind) (remoteChainId : Nat)
      (remoteToken : Address) (maxPerTransfer dailyCap : Nat)
  | TokenLimitsChanged (localToken : Address) (maxPerTransfer dailyCap : Nat) (immediate : Bool)
  | RemoteBridgeChanged (remoteChainId : Nat) (remoteBridgeAddress : Address)
  | ShortDeliveryAllowed (transferId : H) (localToken recipient : Address) (owed : Nat)
  | ShortDeliveryRevoked (transferId : H)
  | ValidatorAdded (validator : Address)
  | ValidatorRemoved (validator : Address)
  | ThresholdChanged (threshold : Nat)
  | FeeBpsChanged (feeBps : Nat)
  | FeeCollectorChanged (feeCollector : Address)
  | Paused (account : Address)
  | Unpaused (account : Address)
  | TokenPaused (localToken account : Address)
  | TokenUnpaused (localToken account : Address)
  | PauserSet (account : Address) (allowed : Bool)
  | ActionQueued (actionId : Nat) (selector : Selector) (data : CallData H) (eta : Nat)
  | ActionExecuted (actionId : Nat) (selector : Option Selector)
  | ActionCanceled (actionId : Nat) (selector : Option Selector)
  | TimelockDelayChanged (delay : Nat)
  | OwnershipTransferStarted (newOwner : Address) (expiry : Nat)
  | OwnershipTransferCanceled (canceledOwner : Address)
  | OwnershipTransferred (oldOwner newOwner : Address)
  | BridgeTokenCodehashChanged (codehash : H)
  | WrapperBridgeRotationProposed (localToken newBridge : Address)
  | WrapperBridgeRotationCanceled (localToken : Address)
  | WrapperAdopted (localToken : Address)

/-- The configuration, and what was logged. -/
structure GovState (H : Type) where
  config : Config H
  emitted : List (GovEvent H) := []

/-- Computations of governance: they see the configuration, emit events, and may revert. -/
abbrev Gov (H α : Type) := StateT (GovState H) (Except String) α

namespace Gov

variable {H : Type}

def config : Gov H (Config H) := do return (← get).config

def update (f : Config H → Config H) : Gov H Unit := modify fun s => { s with config := f s.config }

def emit (e : GovEvent H) : Gov H Unit := modify fun s => { s with emitted := s.emitted ++ [e] }

variable {s : GovState H} {R : Unit → GovState H → Prop}

@[simp] lemma post_config {R : Config H → GovState H → Prop} : Post config R s ↔ R s.config s := by
  show Post (get >>= fun s => pure s.config) R s ↔ R s.config s
  simp

@[simp] lemma post_update {f : Config H → Config H} :
    Post (update f) R s ↔ R () { s with config := f s.config } := by
  simp [update]

@[simp] lemma post_emit {e : GovEvent H} :
    Post (emit e) R s ↔ R () { s with emitted := s.emitted ++ [e] } := by
  simp [emit]

end Gov

/-! ### The functions -/

namespace Deployment

open Gov

variable {H : Type} [DecidableEq H] [Zero H] (D : Deployment H) (m : Context)

def onlyOwner : Gov H Unit := do
  require (m.sender = (← config).owner) "BRIDGE: not owner"

/-- Only an executed action gets here. -/
def onlySelf : Gov H Unit := require (m.sender = D.this) "BRIDGE: timelocked"

/-- The owner is one too. -/
def onlyPauser : Gov H Unit := do
  let c ← config
  require (c.isPauser m.sender ∨ m.sender = c.owner) "BRIDGE: not pauser"

def setTokenConfig (localToken : Address) (cfg : TokenConfig) : Gov H Unit :=
  update fun c => { c with tokenConfig := update c.tokenConfig localToken cfg }

/-- The registry read every live path starts from. -/
def registeredConfig (localToken : Address) : Gov H TokenConfig := do
  let cfg := (← config).tokenConfig localToken
  require (cfg.kind ≠ .UNREGISTERED) "BRIDGE: token not registered"
  return cfg

/-- Stops sending and executing. -/
def pause : Gov H Unit := do
  onlyPauser m
  require ((← config).paused = false) "BRIDGE: already paused"
  update fun c => { c with paused := true }
  emit (.Paused m.sender)

def pauseToken (localToken : Address) : Gov H Unit := do
  onlyPauser m
  let cfg ← registeredConfig localToken
  require (cfg.paused = false) "BRIDGE: already paused"
  setTokenConfig localToken { cfg with paused := true }
  emit (.TokenPaused localToken m.sender)

/-- Pausers cannot undo a pause. -/
def unpause : Gov H Unit := do
  onlyOwner m
  require ((← config).paused = true) "BRIDGE: not paused"
  update fun c => { c with paused := false }
  emit (.Unpaused m.sender)

def unpauseToken (localToken : Address) : Gov H Unit := do
  onlyOwner m
  let cfg := (← config).tokenConfig localToken
  require (cfg.paused = true) "BRIDGE: not paused"
  setTokenConfig localToken { cfg with paused := false }
  emit (.TokenUnpaused localToken m.sender)

def writeLimits (cfg : TokenConfig) (localToken : Address)
    (newMaxPerTransfer newDailyCap : Nat) (immediate : Bool) : Gov H Unit := do
  setTokenConfig localToken
    { cfg with maxPerTransfer := newMaxPerTransfer, dailyCap := newDailyCap }
  emit (.TokenLimitsChanged localToken newMaxPerTransfer newDailyCap immediate)

/-- Lower limits need no timelock. -/
def decreaseTokenLimits (localToken : Address) (newMaxPerTransfer newDailyCap : Nat) :
    Gov H Unit := do
  onlyOwner m
  let cfg ← registeredConfig localToken
  require (newMaxPerTransfer ≤ cfg.maxPerTransfer ∧ newDailyCap ≤ cfg.dailyCap)
    "BRIDGE: not a decrease"
  writeLimits cfg localToken newMaxPerTransfer newDailyCap true

def setPauser (account : Address) (allowed : Bool) : Gov H Unit := do
  onlyOwner m
  require (account ≠ 0) "BRIDGE: zero pauser"
  update fun c => { c with isPauser := update c.isPauser account allowed }
  emit (.PauserSet account allowed)

/-! #### Ownership -/

/-- An offer, which expires. -/
def transferOwnership (newOwner : Address) : Gov H Unit := do
  D.onlySelf m
  require (newOwner ≠ 0) "BRIDGE: zero owner"
  let expiry ← checkedAdd 64 (m.timestamp % 2 ^ 64) OWNERSHIP_ACCEPT_WINDOW
  update fun c => { c with pendingOwner := newOwner, pendingOwnerExpiry := expiry }
  emit (.OwnershipTransferStarted newOwner expiry)

def cancelOwnershipTransfer : Gov H Unit := do
  onlyOwner m
  let canceled := (← config).pendingOwner
  require (canceled ≠ 0) "BRIDGE: no pending owner"
  update fun c => { c with pendingOwner := 0, pendingOwnerExpiry := 0 }
  emit (.OwnershipTransferCanceled canceled)

def acceptOwnership : Gov H Unit := do
  let c ← config
  require (m.sender = c.pendingOwner) "BRIDGE: not pending owner"
  require (m.timestamp ≤ c.pendingOwnerExpiry) "BRIDGE: offer expired"
  emit (.OwnershipTransferred c.owner c.pendingOwner)
  update fun c => { c with owner := c.pendingOwner, pendingOwner := 0, pendingOwnerExpiry := 0 }

/-! #### Timelock -/

/-- An action is due after the delay. -/
def queue (data : CallData H) : Gov H Unit := do
  onlyOwner m
  match data.selector? with
  | none => throw "BRIDGE: bad action data"
  | some selector =>
    require (isTimelocked selector = true) "BRIDGE: not timelockable"
    let c ← config
    let eta ← checkedAdd 64 (m.timestamp % 2 ^ 64) c.timelockDelay
    update fun c => { c with actions := c.actions ++ [⟨data, eta, false, false⟩] }
    emit (.ActionQueued c.actions.length selector data eta)

/-- An action that exists and has neither fired nor been revoked. -/
def pendingActionAt (actionId : Nat) : Gov H (Action H) := do
  match (← config).actions[actionId]? with
  | none => throw "BRIDGE: no such action"
  | some a =>
    require (a.executed = false) "BRIDGE: action executed"
    require (a.canceled = false) "BRIDGE: action canceled"
    return a

/-- The part of `executeAction` before the call to itself: the action is due, and is
marked as executed. -/
def startAction (actionId : Nat) : Gov H (CallData H) := do
  onlyOwner m
  let a ← pendingActionAt actionId
  require (a.eta ≤ m.timestamp) "BRIDGE: timelock not elapsed"
  require (m.timestamp ≤ a.eta + GRACE_PERIOD) "BRIDGE: action stale"
  update fun c => { c with actions := c.actions.set actionId { a with executed := true } }
  return a.data

def cancelAction (actionId : Nat) : Gov H Unit := do
  onlyOwner m
  let a ← pendingActionAt actionId
  update fun c => { c with actions := c.actions.set actionId { a with canceled := true } }
  emit (.ActionCanceled actionId a.data.selector?)

/-! #### Timelocked setters -/

/-- The daily cap fits into 128 bits. -/
def requireSaneLimits (maxPerTransfer dailyCap : Nat) : Except String Unit := do
  require (0 < maxPerTransfer) "BRIDGE: zero per-transfer cap"
  require (0 < dailyCap) "BRIDGE: zero daily cap"
  require (dailyCap ≤ 2 ^ 128 - 1) "BRIDGE: cap too large"

/-- A route is written once. -/
def register (localToken : Address) (kind : TokenKind) (remoteChainId : Nat)
    (remoteToken : Address) (maxPerTransfer dailyCap : Nat) : Gov H Unit := do
  let c ← config
  let cfg := c.tokenConfig localToken
  require (cfg.kind = .UNREGISTERED) "BRIDGE: already registered"
  require (remoteChainId ≠ 0) "BRIDGE: zero remote chain"
  require (remoteChainId ≠ m.chainid) "BRIDGE: remote is local"
  require (c.remoteBridge remoteChainId ≠ 0) "BRIDGE: remote bridge unset"
  requireSaneLimits maxPerTransfer dailyCap
  require (c.localTokenFor remoteChainId remoteToken = 0) "BRIDGE: remote already routed"
  update fun c => { c with
    localTokenFor := update c.localTokenFor remoteChainId
      (update (c.localTokenFor remoteChainId) remoteToken
        (if localToken = 0 then NATIVE_ROUTE else localToken)) }
  setTokenConfig localToken { cfg with kind, remoteChainId, remoteToken, maxPerTransfer, dailyCap }
  update fun c => { c with registeredTokens := c.registeredTokens ++ [localToken] }
  emit (.TokenRegistered localToken kind remoteChainId remoteToken maxPerTransfer dailyCap)

/-- The bridge of a remote chain, which cannot be a recipient there. -/
def setRemoteBridge (remoteChainId : Nat) (remoteBridgeAddress : Address) : Gov H Unit := do
  D.onlySelf m
  require (remoteChainId ≠ 0) "BRIDGE: zero remote chain"
  require (remoteChainId ≠ m.chainid) "BRIDGE: remote is local"
  require (remoteBridgeAddress ≠ 0) "BRIDGE: zero bridge"
  require (remoteBridgeAddress ≠ D.this) "BRIDGE: same bridge"
  update fun c => { c with
    remoteBridge := update c.remoteBridge remoteChainId remoteBridgeAddress }
  emit (.RemoteBridgeChanged remoteChainId remoteBridgeAddress)

/-- Lets one transfer be executed with a token that delivers less. -/
def allowShortDelivery (t : BridgeTransfer) : Gov H Unit := do
  D.onlySelf m
  require (t.dstToken ≠ 0 ∧ ((← config).tokenConfig t.dstToken).kind = .CANONICAL)
    "BRIDGE: not canonical"
  let transferId := D.transferIdOf t
  update fun c => { c with shortDeliveryArmed := transferId }
  emit (.ShortDeliveryAllowed transferId t.dstToken t.recipient t.amount)

def cancelShortDelivery : Gov H Unit := do
  onlyOwner m
  let armed := (← config).shortDeliveryArmed
  require (armed ≠ 0) "BRIDGE: not allowed"
  update fun c => { c with shortDeliveryArmed := 0 }
  emit (.ShortDeliveryRevoked armed)

/-- Under the timelock, in both directions. -/
def setTokenLimits (localToken : Address) (newMaxPerTransfer newDailyCap : Nat) :
    Gov H Unit := do
  D.onlySelf m
  let cfg ← registeredConfig localToken
  requireSaneLimits newMaxPerTransfer newDailyCap
  writeLimits cfg localToken newMaxPerTransfer newDailyCap false

def addValidator (validator : Address) : Gov H Unit := do
  D.onlySelf m
  require (validator ≠ 0) "BRIDGE: zero validator"
  let c ← config
  require (c.isValidator validator = false) "BRIDGE: already a validator"
  require (c.validators.length < MAX_VALIDATORS) "BRIDGE: too many validators"
  update fun c => { c with
    isValidator := update c.isValidator validator true
    validators := c.validators ++ [validator] }
  emit (.ValidatorAdded validator)

/-- The first occurrence is overwritten with the last element, which is then popped. -/
def swapRemove (validators : List Address) (validator : Address) : List Address :=
  match validators.idxOf? validator with
  | some i => (validators.set i (validators.getLastD 0)).dropLast
  | none => validators

/-- The rest must still reach the threshold. -/
def removeValidator (validator : Address) : Gov H Unit := do
  D.onlySelf m
  let c ← config
  require (c.isValidator validator = true) "BRIDGE: not a validator"
  require (c.threshold ≤ (← checkedSub c.validators.length 1)) "BRIDGE: threshold unreachable"
  update fun c => { c with
    isValidator := update c.isValidator validator false
    validators := swapRemove c.validators validator }
  emit (.ValidatorRemoved validator)

def setThreshold (newThreshold : Nat) : Gov H Unit := do
  D.onlySelf m
  require (1 ≤ newThreshold ∧ newThreshold ≤ (← config).validators.length) "BRIDGE: bad threshold"
  update fun c => { c with threshold := newThreshold }
  emit (.ThresholdChanged newThreshold)

def setFeeBps (newFeeBps : Nat) : Gov H Unit := do
  D.onlySelf m
  require (newFeeBps ≤ MAX_FEE_BPS) "BRIDGE: fee too high"
  update fun c => { c with feeBps := newFeeBps }
  emit (.FeeBpsChanged newFeeBps)

def setFeeCollector (newCollector : Address) : Gov H Unit := do
  D.onlySelf m
  require (newCollector ≠ 0) "BRIDGE: zero collector"
  require (newCollector ≠ D.this) "BRIDGE: collector is bridge"
  update fun c => { c with feeCollector := newCollector }
  emit (.FeeCollectorChanged newCollector)

def setTimelockDelay (newDelay : Nat) : Gov H Unit := do
  D.onlySelf m
  require (MIN_TIMELOCK_DELAY ≤ newDelay ∧ newDelay ≤ MAX_TIMELOCK_DELAY) "BRIDGE: bad delay"
  update fun c => { c with timelockDelay := newDelay }
  emit (.TimelockDelayChanged newDelay)

/-- The code that wrappers must have. -/
def setBridgeTokenCodehash (newCodehash : H) : Gov H Unit := do
  D.onlySelf m
  require (newCodehash ≠ 0) "BRIDGE: zero codehash"
  update fun c => { c with bridgeTokenCodehash := newCodehash }
  emit (.BridgeTokenCodehashChanged newCodehash)

/-- The timelocked functions that only write the configuration. -/
def setter : Setter H → Gov H Unit
  | .setTokenLimits localToken newMaxPerTransfer newDailyCap =>
    D.setTokenLimits m localToken newMaxPerTransfer newDailyCap
  | .addValidator validator => D.addValidator m validator
  | .removeValidator validator => D.removeValidator m validator
  | .setThreshold newThreshold => D.setThreshold m newThreshold
  | .setFeeBps newFeeBps => D.setFeeBps m newFeeBps
  | .setFeeCollector newCollector => D.setFeeCollector m newCollector
  | .setTimelockDelay newDelay => D.setTimelockDelay m newDelay
  | .transferOwnership newOwner => D.transferOwnership m newOwner
  | .setBridgeTokenCodehash newCodehash => D.setBridgeTokenCodehash m newCodehash
  | .setRemoteBridge remoteChainId remoteBridgeAddress =>
    D.setRemoteBridge m remoteChainId remoteBridgeAddress
  | .allowShortDelivery t => D.allowShortDelivery m t

end Deployment

/-- A call of a governance function that is not behind the timelock. -/
inductive Instant (H : Type) where
  | pause
  | pauseToken (localToken : Address)
  | unpause
  | unpauseToken (localToken : Address)
  | decreaseTokenLimits (localToken : Address) (newMaxPerTransfer newDailyCap : Nat)
  | setPauser (account : Address) (allowed : Bool)
  | cancelOwnershipTransfer
  | acceptOwnership
  | queue (data : CallData H)
  | cancelAction (actionId : Nat)
  | cancelShortDelivery
  deriving Repr, DecidableEq

/-- The functions of governance that need no timelock. -/
def Instant.run {H : Type} [DecidableEq H] [Zero H] (m : Context) : Instant H → Gov H Unit
  | .pause => Deployment.pause m
  | .pauseToken localToken => Deployment.pauseToken m localToken
  | .unpause => Deployment.unpause m
  | .unpauseToken localToken => Deployment.unpauseToken m localToken
  | .decreaseTokenLimits localToken newMaxPerTransfer newDailyCap =>
    Deployment.decreaseTokenLimits m localToken newMaxPerTransfer newDailyCap
  | .setPauser account allowed => Deployment.setPauser m account allowed
  | .cancelOwnershipTransfer => Deployment.cancelOwnershipTransfer m
  | .acceptOwnership => Deployment.acceptOwnership m
  | .queue data => Deployment.queue m data
  | .cancelAction actionId => Deployment.cancelAction m actionId
  | .cancelShortDelivery => Deployment.cancelShortDelivery m

/-! ### The registry only grows -/

/-- A registered token keeps its kind and its counterpart. -/
def SameRoute (cfg cfg' : TokenConfig) : Prop :=
  cfg.kind ≠ .UNREGISTERED → cfg'.kind = cfg.kind ∧
    cfg'.remoteChainId = cfg.remoteChainId ∧ cfg'.remoteToken = cfg.remoteToken

/-- No token changes its kind or its remote token. -/
def RoutesKept (f f' : Address → TokenConfig) : Prop := ∀ token, SameRoute (f token) (f' token)

lemma SameRoute.trans {a b c : TokenConfig} (hab : SameRoute a b) (hbc : SameRoute b c) :
    SameRoute a c := by
  intro ha
  obtain ⟨hk, hc, ht⟩ := hab ha
  obtain ⟨hk', hc', ht'⟩ := hbc (hk ▸ ha)
  exact ⟨hk'.trans hk, hc'.trans hc, ht'.trans ht⟩

namespace RoutesKept

variable {f f' f'' : Address → TokenConfig}

@[simp] lemma refl : RoutesKept f f := fun _ _ => ⟨rfl, rfl, rfl⟩

lemma trans (h : RoutesKept f f') (h' : RoutesKept f' f'') : RoutesKept f f'' :=
  fun token => (h token).trans (h' token)

@[simp] lemma update_iff {token : Address} {cfg : TokenConfig} :
    RoutesKept f (update f token cfg) ↔ SameRoute (f token) cfg := by
  constructor
  · intro h
    simpa using h token
  · intro h token'
    by_cases htoken : token' = token
    · subst htoken
      simpa using h
    · rw [update_of_ne htoken]
      exact refl token'

end RoutesKept

/-- What no governance operation undoes: the routes, and that transfers need a
signature. -/
structure Config.Kept {H : Type} (c c' : Config H) : Prop where
  routes : RoutesKept c.tokenConfig c'.tokenConfig
  threshold : 1 ≤ c.threshold → 1 ≤ c'.threshold

namespace Config.Kept

variable {H : Type} {c c' c'' : Config H}

lemma refl (c : Config H) : c.Kept c := ⟨RoutesKept.refl, id⟩

lemma trans (h : c.Kept c') (h' : c'.Kept c'') : c.Kept c'' :=
  ⟨h.routes.trans h'.routes, h'.threshold ∘ h.threshold⟩

@[simp] lemma iff_routes_threshold :
    c.Kept c' ↔ RoutesKept c.tokenConfig c'.tokenConfig ∧ (1 ≤ c.threshold → 1 ≤ c'.threshold) :=
  ⟨fun h => ⟨h.routes, h.threshold⟩, fun h => ⟨h.1, h.2⟩⟩

end Config.Kept

namespace Deployment

variable {H : Type} (m : Context) {s : GovState H}

lemma post_pendingActionAt {actionId : Nat} {R : Action H → GovState H → Prop} :
    Post (pendingActionAt actionId) R s ↔
      ∀ a, s.config.actions[actionId]? = some a → a.executed = false → a.canceled = false →
        R a s := by
  cases h : s.config.actions[actionId]? <;> simp [pendingActionAt, h]

lemma post_startAction (actionId : Nat) : Post (startAction m actionId)
      (fun data s' => s.config.Kept s'.config ∧
        ∃ a, s.config.actions[actionId]? = some a ∧ a.data = data) s := by
  simp only [startAction, onlyOwner, post_steps, Gov.post_config, post_lift, post_pendingActionAt,
    Gov.post_update]
  intro _ _ a ha _ _ _ _ _ _
  exact ⟨⟨RoutesKept.refl, id⟩, a, ha, rfl⟩

lemma register_kept (localToken : Address) (kind : TokenKind) (remoteChainId : Nat)
    (remoteToken : Address) (maxPerTransfer dailyCap : Nat) :
    Post (register m localToken kind remoteChainId remoteToken maxPerTransfer dailyCap)
      (fun _ s' => s.config.Kept s'.config) s := by
  simp +contextual [register, setTokenConfig, SameRoute]

variable [DecidableEq H] [Zero H] (D : Deployment H)

lemma setter_kept (call : Setter H) :
    Post (D.setter m call) (fun _ s' => s.config.Kept s'.config) s := by
  cases call with
  | setThreshold =>
    simp only [setter, setThreshold, onlySelf, post_bind, post_lift, Gov.post_config,
      Gov.post_update, Gov.post_emit, require_eq_ok, forall_unit]
    exact fun _ hthreshold => ⟨RoutesKept.refl, fun _ => hthreshold.1⟩
  | _ =>
    simp [setter, setTokenLimits, addValidator, removeValidator, setFeeBps, setFeeCollector,
      setTimelockDelay, transferOwnership, setBridgeTokenCodehash, setRemoteBridge,
      allowShortDelivery, onlySelf, registeredConfig, writeLimits, setTokenConfig, SameRoute]

end Deployment

lemma Instant.run_kept {H : Type} [DecidableEq H] [Zero H] (m : Context)
    {s : GovState H} (call : Instant H) :
    Post (call.run m) (fun _ s' => s.config.Kept s'.config) s := by
  cases call with
  | queue data =>
    cases h : data.selector? <;> simp [run, Deployment.queue, Deployment.onlyOwner, h]
  | _ =>
    simp [run, Deployment.pause, Deployment.pauseToken, Deployment.unpause,
      Deployment.unpauseToken, Deployment.decreaseTokenLimits, Deployment.setPauser,
      Deployment.cancelOwnershipTransfer, Deployment.acceptOwnership, Deployment.cancelAction,
      Deployment.cancelShortDelivery, Deployment.onlyOwner, Deployment.onlyPauser,
      Deployment.registeredConfig, Deployment.writeLimits, Deployment.setTokenConfig,
      Deployment.post_pendingActionAt, SameRoute]

end Ferminux.Bridge
