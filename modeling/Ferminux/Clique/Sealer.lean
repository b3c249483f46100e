import Ferminux.Clique.Engine

/-!
# Clique.Sealer

The **producer's path** of the proof-of-authority engine: `Prepare` fills in the
consensus fields of a new header, `Seal` decides whether the local signer may seal
it, signs it and hands it over when its time has come. `ArmBreakGlass` is how an
override gets into the engine.

What `math/rand` draws is an argument, as is the clock (in nanoseconds for `Seal`,
whose delay has that resolution).
-/

namespace Ferminux.Clique

open Lib

/-- The random delay (per signer) to allow concurrent signers, 500 ms. -/
def wiggleTime : Nat := 500000000

def second : Nat := 1000000000

/-! ### Arming an override -/

/-- `ArmBreakGlass`: validate and store an override to be embedded in the header this
node seals at `number` on top of `parentHash`. -/
def armBreakGlass (K : Crypto) (c : Engine) (number : Nat) (parentHash : Hash)
    (signers : List Address) (signatures : List (List UInt8)) : Except Err Engine :=
  match c.breakGlass with
  | none => .error .errBreakGlassDisabled
  | some bg => do
    guardErr (number == 0) .errBreakGlassNumber
    let sorted ← sortedUniqueSigners signers
    verifyBreakGlass K (some bg) number parentHash sorted signatures
    .ok { c with bgPending := some ⟨number, parentHash, sorted, signatures⟩ }

/-! ### Prepare -/

/-- `calcDifficulty`: the difficulty of the block after the snapshot. -/
def calcDifficulty (snap : Snapshot) (signer : Address) : Except Err Nat := do
  let turn ← snap.inturn (snap.number + 1) signer
  .ok (if turn then diffInTurn else diffNoTurn)

/-- `calcDifficultyAmong`: the turn is taken in the override list. -/
def calcDifficultyAmong (signers : List Address) (number : Nat) (signer : Address) :
    Except Err Nat := do
  let turn ← inturnAmong signers number signer
  .ok (if turn then diffInTurn else diffNoTurn)

variable (c : Engine)

/-- The armed override, if it is bound to exactly this slot. -/
def embedded (header : Header) : Option BreakGlassOverride :=
  c.bgPending.filter fun pending =>
    pending.number == header.number && pending.parentHash == header.parentHash

/-- The vote `Prepare` casts: one of the proposals that make sense, at random. -/
def chooseVote (snap : AuthState) (rand : Nat) : Address × BlockNonce :=
  let addresses := (c.proposals.filter fun p => snap.validVote p.1 p.2).map Prod.fst
  match addresses[rand % addresses.length]? with
  | none => (zeroAddress, FixedBytes.zero 8)
  | some coinbase =>
    (coinbase, if c.proposals.lookup coinbase = some true then nonceAuthVote else nonceDropVote)

/-- The first 32 bytes of the extra-data, filled up with zeros. -/
def vanityOf (extra : List UInt8) : List UInt8 :=
  (extra ++ List.replicate (extraVanity - extra.length) 0).take extraVanity

/-- Beneficiary and nonce: a vote, but none on a checkpoint or with an override. -/
def preparedVote (snap : AuthState) (rand : Nat) (header : Header) :
    Address × BlockNonce :=
  if header.number % c.config.epoch ≠ 0 ∧ embedded c header = none then chooseVote c snap rand
  else (zeroAddress, FixedBytes.zero 8)

/-- The difficulty: a break-glass block takes its turn in the override list, which is the
set it is verified against. -/
def preparedDifficulty (snap : Snapshot) (header : Header) : Except Err Nat :=
  match embedded c header with
  | some pending => calcDifficultyAmong pending.signers header.number c.signer
  | none => calcDifficulty snap c.signer

/-- What goes between vanity and seal. -/
def preparedPayload (snap : AuthState) (header : Header) : List UInt8 :=
  match embedded c header with
  | some pending => encodeBreakGlassPayload pending.signers pending.signatures
  | none =>
    if header.number % c.config.epoch = 0 then FixedBytes.concat snap.signersAscending else []

/-- The fields of the header that `Prepare` takes from the snapshot. -/
def prepareWith (snap : Snapshot) (rand : Nat) (header : Header) :
    Except Err Header := do
  let difficulty ← preparedDifficulty c snap header
  .ok { header with
    coinbase := (preparedVote c snap.toAuthState rand header).1
    nonce := (preparedVote c snap.toAuthState rand header).2
    difficulty := difficulty
    extra := vanityOf header.extra ++ preparedPayload c snap.toAuthState header ++
      List.replicate extraSeal 0
    mixDigest := zeroHash }

/-- The armed override after `Prepare`: dropped once its slot has passed. -/
def pendingAfter (header : Header) : Option BreakGlassOverride :=
  c.bgPending.filter fun pending => decide (header.number ≤ pending.number)

variable {σ : Type} (K : Crypto) (D : SnapshotStore σ) (c : Engine) (chain : ChainHeaderReader)

/-- `Prepare`: all the consensus fields of the header for running the transactions on
top, and the engine with an expired override dropped. -/
def prepare (now rand : Nat) (header : Header) : StoreM σ (Header × Engine) := do
  let snap ← snapshot K D c chain (header.number - 1) header.parentHash []
  let prepared ← prepareWith c snap rand header
  match chain.getHeader header.parentHash (header.number - 1) with
  | none => throw .errUnknownAncestor
  | some parent =>
    pure ({ prepared with time := max (parent.time + c.config.period) now },
      { c with bgPending := pendingAfter c header })

/-! ### Seal -/

/-- The recently-signed rule of `Seal`: some recent block of the signer is not shifted
out by block `number`. -/
def mustWait (s : AuthState) (number : Nat) (signer : Address) : Bool :=
  Map.anyEntry (fun seen recent => recent == signer &&
    (decide (number < recencyLimit s.signers.card) ||
      decide (number - recencyLimit s.signers.card < seen))) s.recents

/-- Whether the protocol permits the local signer to sign the block. -/
def sealPermit (snap : AuthState) (header : Header) : Except Err Unit :=
  if isBreakGlassExtra header.extra then do
    let override ← breakGlassOverrideOf K c.breakGlass header
    guardErr (!containsAddress (override.getD []) c.signer) .errBreakGlassUnauthorizedSealer
  else do
    guardErr (decide (c.signer ∉ snap.signers)) .errUnauthorizedSigner
    guardErr (mustWait snap header.number c.signer) .errMustWait

/-- `copy(header.Extra[len(header.Extra)-extraSeal:], sighash)`. -/
def withSignature (header : Header) (sighash : List UInt8) : Header :=
  let start := header.extra.length - extraSeal
  let written := sighash.take (header.extra.length - start)
  { header with
    extra := header.extra.take start ++ written ++ header.extra.drop (start + written.length) }

/-- The moment `Seal` hands the block over, in nanoseconds: not before its time, and
somewhat later out of turn. -/
def deliveryTime (snap : AuthState) (header : Header) (nowNs rand : Nat) : Nat :=
  let wiggle :=
    if header.difficulty = diffNoTurn then rand % (recencyLimit snap.signers.card * wiggleTime)
    else 0
  max nowNs (header.time * second + wiggle)

/-- `Seal`: the sealed header and the moment it is handed over. `txs` is the number of
transactions in the block. -/
def sealBlock (signFn : List UInt8 → Except Err (List UInt8)) (nowNs rand txs : Nat)
    (header : Header) : StoreM σ (Header × Nat) := do
  guardErr (header.number == 0) .errUnknownBlock
  guardErr (c.config.period == 0 && txs == 0) .errSealingPaused
  let snap ← snapshot K D c chain (header.number - 1) header.parentHash []
  sealPermit K c snap.toAuthState header
  let sighash ← signFn (cliqueRLP K header)
  pure (withSignature header sighash, deliveryTime snap.toAuthState header nowNs rand)

end Ferminux.Clique
