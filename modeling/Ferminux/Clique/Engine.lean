import Ferminux.Clique.Run
import Ferminux.Consensus.Misc

/-!
# Clique.Engine

The **verifier's path** of the proof-of-authority engine (`consensus/clique/clique.go`):
`verifyHeader`, `verifyCascadingFields`, the retrieval of a snapshot, and
`verifySeal`.

* The in-memory snapshot cache and the database are a parameter (`SnapshotStore`):
  the cache may evict as it likes and the database may fail. They are threaded
  through as state, which an error does not roll back.
* `verifyCascadingFields` is cut in three: what is checked before the snapshot is
  fetched, the fetch, and what is checked against it (`verifyAgainst`).
* The clock (`now`, Unix seconds) is an argument.
-/

namespace Ferminux.Clique

open Lib

/-- Number of blocks after which the vote snapshot is saved to the database. -/
def checkpointInterval : Nat := 1024

def fullImmutabilityThreshold : Nat := 90000

def diffInTurn : Nat := 2

def diffNoTurn : Nat := 1

/-- The fields of `Clique` apart from the caches. The map of proposals is listed in
the order an iteration visits it. -/
structure Engine where
  config : CliqueConfig
  breakGlass : Option BreakGlassConfig
  bootstrap : Option Bootstrap
  proposals : List (Address × Bool)
  signer : Address
  bgPending : Option BreakGlassOverride
  fakeDiff : Bool

/-- The snapshot cache and the database of an engine, over their joint state `σ`. -/
structure SnapshotStore (σ : Type) where
  /-- `recents.Get`, which also refreshes the entry. -/
  get : σ → Hash → Option Snapshot × σ
  /-- `recents.Add`, which may evict. -/
  add : σ → Hash → Snapshot → σ
  /-- `loadSnapshot`, `none` if nothing that decodes is stored. -/
  load : σ → Hash → Option Snapshot
  put : σ → Snapshot → Except Err σ

/-- Computations over the caches; what they did before an error stays done. -/
abbrev StoreM (σ : Type) := ExceptT Err (StateM σ)

lemma StoreM.bind_eq_ok {σ α β : Type} {x : StoreM σ α} {f : α → StoreM σ β} {st : σ} {b : β} :
    ((x >>= f) st).1 = .ok b ↔ ∃ a, (x st).1 = .ok a ∧ (f a (x st).2).1 = .ok b := by
  rcases hx : x st with ⟨result, st'⟩
  have hbind : (x >>= f) st = ExceptT.bindCont f result st' := by
    show ExceptT.bindCont f (x st).1 (x st).2 = _
    rw [hx]
  rw [hbind]
  cases result with
  | error =>
    constructor
    · intro h
      cases h
    · rintro ⟨a, ha, -⟩
      cases ha
  | ok => simp [ExceptT.bindCont]

lemma StoreM.liftM_apply {σ α : Type} (x : Except Err α) (st : σ) :
    (liftM x : StoreM σ α) st = (x, st) := rfl

/-! ### The seal -/

/-- The recently-signed rule of `verifySeal`: some recent block of the signer is not
shifted out by block `number`. -/
def recentlySigned (s : AuthState) (number : Nat) (signer : Address) : Bool :=
  Map.anyEntry (fun seen recent => recent == signer &&
    decide (subUint64 number (recencyLimit s.signers.card) < seen)) s.recents

/-- Who sealed the header, if the snapshot lets them seal it: the first half of
`verifySeal`. -/
def authorizeSeal (K : Crypto) (s : AuthState) (header : Header) : Except Err Address := do
  let signer ← ecrecover K header
  guardErr (decide (signer ∉ s.signers)) .errUnauthorizedSigner
  guardErr (recentlySigned s header.number signer) .errRecentlySigned
  .ok signer

/-- The difficulty corresponds to the turn-ness of the signer. -/
def verifyTurn (fakeDiff : Bool) (inturn : Except Err Bool) (difficulty : Nat) :
    Except Err Unit :=
  if fakeDiff then .ok ()
  else do
    let turn ← inturn
    guardErr (difficulty != if turn then diffInTurn else diffNoTurn) .errWrongDifficulty

/-- Whether the seal of the header satisfies the consensus protocol requirements. -/
def verifySeal (K : Crypto) (c : Engine) (snap : AuthState) (header : Header) :
    Except Err Unit := do
  guardErr (header.number == 0) .errUnknownBlock
  let signer ← authorizeSeal K snap header
  verifyTurn c.fakeDiff (snap.inturn header.number signer) header.difficulty

/-- Who sealed a break-glass header, if its own list lets them. -/
def authorizeBreakGlassSeal (K : Crypto) (header : Header) (override : List Address) :
    Except Err Address := do
  let signer ← ecrecover K header
  guardErr (!containsAddress override signer) .errBreakGlassUnauthorizedSealer
  .ok signer

/-- The seal of a break-glass header: a member of the override list, with the
difficulty of its turn there. The recently-signed rule is not applied. -/
def verifyBreakGlassSeal (K : Crypto) (c : Engine) (header : Header) (override : List Address) :
    Except Err Unit := do
  let signer ← authorizeBreakGlassSeal K header override
  verifyTurn c.fakeDiff (inturnAmong override header.number signer) header.difficulty

/-- The authorisation part of `verifyCascadingFields`: who sealed the header, if it
is authenticated by the owners' override or permitted by the snapshot. -/
def authorizeHeader (K : Crypto) (c : Engine) (snap : AuthState) (header : Header) :
    Except Err Address :=
  if isBreakGlassExtra header.extra then do
    let override ← breakGlassOverrideOf K c.breakGlass header
    authorizeBreakGlassSeal K header (override.getD [])
  else authorizeSeal K snap header

/-- What `verifyCascadingFields` checks against the snapshot of the parent. -/
def verifyAgainst (K : Crypto) (c : Engine) (snap : AuthState) (header : Header) :
    Except Err Unit :=
  if isBreakGlassExtra header.extra then do
    let override ← breakGlassOverrideOf K c.breakGlass header
    verifyBreakGlassSeal K c header (override.getD [])
  else do
    guardErr (header.number % c.config.epoch == 0 &&
      payloadOf header.extra != FixedBytes.concat snap.signersAscending)
      .errMismatchingCheckpointSigners
    verifySeal K c snap header

/-! ### Retrieving a snapshot -/

section Snapshot

variable {σ : Type} (K : Crypto) (D : SnapshotStore σ) (c : Engine) (chain : ChainHeaderReader)

/-- `recents.Get`. -/
def recentSnapshot (hash : Hash) : StoreM σ (Option Snapshot) := fun st =>
  let (found, st) := D.get st hash
  (.ok found, st)

/-- `recents.Add`. -/
def addRecent (snap : Snapshot) : StoreM σ Unit := fun st => (.ok (), D.add st snap.hash snap)

/-- `loadSnapshot`: what is stored, under the engine's own configuration. -/
def loadSnapshot (hash : Hash) : StoreM σ (Option Snapshot) := fun st =>
  (.ok ((D.load st hash).map fun snap =>
    { snap with config := c.config, breakGlass := c.breakGlass }), st)

/-- `Snapshot.store`. -/
def storeSnapshot (snap : Snapshot) : StoreM σ Unit := fun st =>
  match D.put st snap with
  | .ok st' => (.ok (), st')
  | .error e => (.error e, st)

/-- A fresh snapshot that is stored at once, as at the anchor and at a trusted
checkpoint. -/
def seedSnapshot (number : Nat) (hash : Hash) (signers : List Address) :
    StoreM σ (Option Snapshot) := do
  let snap := newSnapshot c.config c.breakGlass number hash signers
  storeSnapshot D snap
  pure (some snap)

/-- The signer list of a checkpoint block; an override list is never trusted without
its owner signatures. -/
def checkpointSigners (checkpoint : Header) : Except Err (List Address) := do
  let (signers, _, isBreakGlass) ← parseCheckpointExtra checkpoint.extra
  if isBreakGlass then do
    let override ← breakGlassOverrideOf K c.breakGlass checkpoint
    .ok (override.getD [])
  else .ok signers

/-- A snapshot at this very block, if one can be had without its header: from memory,
from disk, at the bootstrap anchor, or at a checkpoint that is considered trusted.
`gathered` is the number of headers collected so far. -/
def snapshotHere (number : Nat) (hash : Hash) (gathered : Nat) : StoreM σ (Option Snapshot) := do
  if let some snap ← recentSnapshot D hash then
    return some snap
  if number % checkpointInterval = 0 then
    if let some snap ← loadSnapshot D c hash then
      return some snap
  if let some bootstrap := c.bootstrap then
    if number < bootstrap.anchor then
      throw .errBelowBootstrap
    if number = bootstrap.anchor then
      return ← seedSnapshot D c number hash bootstrap.signers
  if number = 0 ∨ (number % c.config.epoch = 0 ∧ (fullImmutabilityThreshold < gathered ∨
      chain.getHeaderByNumber (number - 1) = none)) then
    if let some checkpoint := chain.getHeaderByNumber number then
      let signers ← checkpointSigners K c checkpoint
      return ← seedSnapshot D c number (K.headerHash checkpoint) signers
  return none

/-- The header to gather next: the last explicit parent (enforced), or from the
database once there are none. -/
def gatherHeader (number : Nat) (hash : Hash) (parents : List Header) : Except Err Header :=
  match parents.getLast? with
  | some header =>
    if K.headerHash header ≠ hash ∨ header.number ≠ number then .error .errUnknownAncestor
    else .ok header
  | none =>
    match chain.getHeader hash number with
    | none => .error .errUnknownAncestor
    | some header => .ok header

/-- The backward walk of `snapshot`: the first snapshot found and the headers gathered
on the way, oldest first. Below block 0 the number wraps around to `2^64-1`, where
nothing is stored. -/
def findSnapshot : Nat → Hash → List Header → List Header → StoreM σ (Snapshot × List Header)
  | number, hash, parents, headers => do
    match ← snapshotHere K D c chain number hash headers.length with
    | some snap => pure (snap, headers)
    | none =>
      let header ← gatherHeader K chain number hash parents
      match number with
      | 0 => throw .errUnknownAncestor
      | n + 1 => findSnapshot n header.parentHash parents.dropLast (header :: headers)

/-- The signers after a block: back to one that is known, then forward over the headers. -/
def snapshot (number : Nat) (hash : Hash) (parents : List Header) : StoreM σ Snapshot := do
  let (found, headers) ← findSnapshot K D c chain number hash parents []
  let snap ← found.apply K headers
  addRecent D snap
  if snap.number % checkpointInterval = 0 ∧ 0 < headers.length then
    storeSnapshot D snap
  pure snap

/-! ### Verifying a header -/

/-- The checks of `verifyHeader` on the header alone. -/
def verifyStandalone (now : Nat) (header : Header) : Except Err Unit := do
  guardErr (now < header.time) .errFutureBlock
  let checkpoint := header.number % c.config.epoch == 0
  guardErr (checkpoint && header.coinbase != zeroAddress) .errInvalidCheckpointBeneficiary
  guardErr (header.nonce != nonceAuthVote && header.nonce != nonceDropVote) .errInvalidVote
  guardErr (checkpoint && header.nonce != nonceDropVote) .errInvalidCheckpointVote
  guardErr (header.extra.length < extraVanity) .errMissingVanity
  guardErr (header.extra.length < extraVanity + extraSeal) .errMissingSignature
  let signersBytes := header.extra.length - extraVanity - extraSeal
  let breakGlass := isBreakGlassExtra header.extra
  guardErr (!checkpoint && signersBytes != 0 && !breakGlass) .errExtraSigners
  if checkpoint || breakGlass then
    let _ ← parseCheckpointExtra header.extra
  guardErr (breakGlass && (header.coinbase != zeroAddress || header.nonce != nonceDropVote))
    .errBreakGlassVote
  guardErr (header.mixDigest != zeroHash) .errInvalidMixDigest
  guardErr (header.uncleHash != K.emptyUncleHash) .errInvalidUncleHash
  guardErr (decide (0 < header.number) && header.difficulty != diffInTurn &&
    header.difficulty != diffNoTurn) .errInvalidDifficulty
  guardErr (maxGasLimit < header.gasLimit) .errGasLimitTooHigh
  verifyForkHashes K chain.config header

/-- The parent of a header: the last of the explicit parents, or from the database. -/
def parentOf (header : Header) (parents : List Header) : Option Header :=
  match parents.getLast? with
  | some parent => some parent
  | none => chain.getHeader header.parentHash (header.number - 1)

/-- What `verifyCascadingFields` checks against the parent header. -/
def verifyParent (parent header : Header) : Except Err Unit := do
  guardErr (parent.number != header.number - 1 || K.headerHash parent != header.parentHash)
    .errUnknownAncestor
  guardErr (header.time < parent.time + c.config.period) .errInvalidTimestamp
  verifyGasFields chain.config parent header

/-- The header fields that depend on a batch of previous headers. -/
def verifyCascadingFields (header : Header) (parents : List Header) : StoreM σ Unit :=
  -- the genesis block is the always valid dead-end
  if header.number = 0 then pure ()
  else
    match parentOf chain header parents with
    | none => throw .errUnknownAncestor
    | some parent => do
      verifyParent K c chain parent header
      let snap ← snapshot K D c chain (header.number - 1) header.parentHash parents
      verifyAgainst K c snap.toAuthState header

/-- Whether a header conforms to the consensus rules. The caller may pass in a batch
of parents (ascending order) that are not in the database yet. -/
def verifyHeader (now : Nat) (header : Header) (parents : List Header) : StoreM σ Unit := do
  verifyStandalone K c chain now header
  verifyCascadingFields K D c chain header parents

end Snapshot

/-- An engine that runs on `soleBootstrap`, without break-glass owners. -/
def soleEngine : Engine where
  config := sampleConfig
  breakGlass := none
  bootstrap := some soleBootstrap
  proposals := []
  signer := addressOf 1
  bgPending := none
  fakeDiff := false

def noStore : SnapshotStore Unit where
  get _ _ := (none, ())
  add _ _ _ := ()
  load _ _ := none
  put _ _ := .ok ()

def genesisChain : ChainHeaderReader where
  config := ferminuxChainConfig
  getHeader _ number :=
    if number = 0 then some (sampleHeader 0 0 zeroAddress nonceDropVote [] zeroAddress) else none
  getHeaderByNumber number :=
    if number = 0 then some (sampleHeader 0 0 zeroAddress nonceDropVote [] zeroAddress) else none

end Ferminux.Clique
