import Ferminux.Clique.Sealer

/-!
# Posa.Engine

The **dispatching engine** (`consensus/posa/posa.go`): proof of work below the fork
block, proof of authority from it on, with the block before the fork pinned by a
hardcoded hash.

* The inner proof-of-work engine is a parameter (`PowEngine`).
* `VerifyHeaders` delivers its results over channels; here it returns them as a list,
  in the same order. An abort, which only cuts the delivery short, is left out.
* The state a block's transactions ran on is a parameter with the two operations
  `finalize` uses (`StateOps`).
-/

namespace Ferminux.Posa

open Lib Clique

/-- The proof-of-work engine, used below the fork block. -/
structure PowEngine where
  /-- `VerifyHeader(chain, header, seal)`. -/
  verifyHeader : ChainHeaderReader → Header → Bool → Except Err Unit
  verifyHeaders : ChainHeaderReader → List Header → List Bool → List (Except Err Unit)
  prepare : ChainHeaderReader → Header → Except Err Header

/-- The parameters of `posa.Config` that outlive `New`. -/
structure Config where
  /-- Required hash of the block before the fork; zero disables the check. -/
  checkpointHash : Hash
  /-- Receives 50% of the block reward. -/
  rewardSink : Address
  /-- Receives 10% of the block reward. -/
  treasury : Address

/-- The dispatching engine. Without a fork block everything delegates to `pow`. -/
structure Engine where
  forkBlock : Option Nat
  config : Config
  pow : PowEngine
  poa : Clique.Engine
  /-- The local signer, set by `Authorize` together with the one of `poa`. -/
  signer : Address
  signer_eq : poa.signer = signer
  /-- `New` refuses a fork at the genesis block. -/
  forkBlock_pos : ∀ fork, forkBlock = some fork → 0 < fork

namespace Engine

/-- Whether block `num` is sealed by the authority engine. -/
def isPosa (p : Engine) (num : Nat) : Bool := isForked p.forkBlock num

def isPosaHeader (p : Engine) (header : Header) : Bool := p.isPosa header.number

/-! ### The "finalized" tag -/

/-- `below`: `n - depth`, floored at the genesis. -/
def below (n depth : Nat) : Nat := if n < depth then 0 else n - depth

/-- `FinalizedNumber`: the block that the "finalized" tag names when the head is block
`head` and the node enforces a reorg-depth cap, if the rule applies. -/
def finalizedNumber (p : Engine) (head : Nat) (maxReorgDepth : Int) : Option Nat :=
  if !p.isPosa head || decide (maxReorgDepth ≤ 0) then none
  else some (below head maxReorgDepth.toNat)

/-! ### The pinned checkpoint -/

/-- The header before the fork block must hash to the checkpoint and the header at the
fork block must build on it. -/
def verifyCheckpoint (K : Crypto) (p : Engine) (header : Header) : Except Err Unit :=
  match p.forkBlock with
  | none => .ok ()
  | some fork =>
    if p.config.checkpointHash = zeroHash then .ok ()
    else if header.number + 1 = fork then
      guardErr (K.headerHash header != p.config.checkpointHash) .errCheckpointMismatch
    else if header.number = fork then
      guardErr (header.parentHash != p.config.checkpointHash) .errCheckpointMismatch
    else .ok ()

/-- Whether an ascending header batch touches the fork block or the one before it while
a checkpoint is pinned. -/
def needsCheckpointFilter (p : Engine) (headers : List Header) : Bool :=
  match p.forkBlock, headers.head?, headers.getLast? with
  | some fork, some first, some last =>
    p.config.checkpointHash != zeroHash && decide (first.number ≤ fork) &&
      decide (fork - 1 ≤ last.number)
  | _, _, _ => false

/-- A nil result is overridden by the checkpoint verdict. -/
def relayOne (K : Crypto) (p : Engine) (header : Header) (result : Except Err Unit) :
    Except Err Unit := do
  result
  p.verifyCheckpoint K header

/-- Forward an inner engine's results, overriding a nil result with the checkpoint
verdict. -/
def relay (K : Crypto) (p : Engine) (headers : List Header) (results : List (Except Err Unit)) :
    List (Except Err Unit) :=
  List.zipWith (p.relayOne K) headers results

/-! ### Verifying headers -/

section Verify

variable {σ : Type} (K : Crypto) (D : SnapshotStore σ)

/-- The pinned checkpoint, and then the engine that is in force at the height. -/
def verifyHeader (p : Engine) (chain : ChainHeaderReader) (now : Nat) (header : Header)
    (sealFlag : Bool) : StoreM σ Unit := do
  p.verifyCheckpoint K header
  if p.isPosaHeader header then Clique.verifyHeader K D p.poa chain now header []
  else p.pow.verifyHeader chain header sealFlag

/-- `VerifyHeadersWithAncestors`, and `VerifyHeaders` when there are none: one header
after the other, each with the ones before it as its parents. `now i` is the clock when
the header with `i` predecessors has its turn. -/
def verifyHeadersWithAncestors (c : Clique.Engine) (chain : ChainHeaderReader) (now : Nat → Nat) :
    List Header → List Header → σ → List (Except Err Unit) × σ
  | _, [], st => ([], st)
  | ancestors, header :: rest, st =>
    let (result, st') := Clique.verifyHeader K D c chain (now ancestors.length) header ancestors st
    let (results, st'') := verifyHeadersWithAncestors c chain now (ancestors ++ [header]) rest st'
    (result :: results, st'')

/-- The index of the first authority header, or the length of the batch. -/
def split (p : Engine) (headers : List Header) : Nat := headers.findIdx p.isPosaHeader

/-- `VerifyHeaders` for an ascending, contiguous batch. A batch straddling the fork is
split: the front goes to the proof-of-work engine and the rest to the authority engine
with the front supplied as ancestors. -/
def verifyHeaders (p : Engine) (chain : ChainHeaderReader) (now : Nat → Nat)
    (headers : List Header) (seals : List Bool) (st : σ) : List (Except Err Unit) × σ :=
  if headers.length = 0 then (p.pow.verifyHeaders chain headers seals, st)
  else
    let filter := p.needsCheckpointFilter headers
    if p.split headers = headers.length then
      let results := p.pow.verifyHeaders chain headers seals
      (if filter then p.relay K headers results else results, st)
    else if p.split headers = 0 then
      let (results, st') := verifyHeadersWithAncestors K D p.poa chain now [] headers st
      (if filter then p.relay K headers results else results, st')
    else
      let powResults := p.pow.verifyHeaders chain (headers.take (p.split headers))
        (seals.take (p.split headers))
      let (poaResults, st') := verifyHeadersWithAncestors K D p.poa chain now
        (headers.take (p.split headers)) (headers.drop (p.split headers)) st
      (p.relay K headers (powResults ++ poaResults), st')

end Verify

/-! ### Rewards -/

/-- One FMX in wei. -/
def ether : Nat := 1000000000000000000

/-- `powhash.FerminuxBlockReward`, the pre-authority schedule: 6 FMX before block 20,000,
then 1 FMX, halved every 4,500,000 blocks. -/
def ferminuxBlockReward (num : Nat) : Nat :=
  if num < 20000 then 6 * ether
  else
    let era := num / 4500000
    if 60 < era then 0 else ether >>> era

/-- The authority block reward: a quarter of the pre-authority schedule. -/
def blockReward (num : Nat) : Nat := ferminuxBlockReward num / 4

/-- The shares of an authority block reward. -/
structure Shares where
  signer : Nat
  sink : Nat
  treasury : Nat

/-- `SplitReward`: 50% sink, 10% treasury, the rest to the signer. -/
def splitReward (total : Nat) : Shares where
  sink := total * 50 / 100
  treasury := total * 10 / 100
  signer := total - total * 50 / 100 - total * 10 / 100

/-- The accounts `finalize` credits, in order; a zero share is skipped. -/
def credits (p : Engine) (number : Nat) (signer : Address) : List (Address × Nat) :=
  let shares := splitReward (blockReward number)
  [(signer, shares.signer), (p.config.rewardSink, shares.sink),
    (p.config.treasury, shares.treasury)].filter fun credit => decide (0 < credit.2)

/-! ### Producing a block -/

/-- What the engine needs of the state the transactions ran on. -/
structure StateOps (τ : Type) where
  addBalance : τ → Address → Nat → τ
  /-- `IntermediateRoot(deleteEmptyObjects)`. -/
  intermediateRoot : τ → Bool → Hash
  /-- `Finalize` of the proof-of-work engine. -/
  powFinalize : Header → τ → Header × τ
  /-- `FinalizeAndAssemble` of the proof-of-work engine. -/
  powFinalizeAndAssemble : Header → τ → Except Err (Header × τ)

/-- The parts of a block that `types.NewBlock` derives header fields from: the number of
transactions, their root, and root and bloom of the receipts (no bloom without any). -/
structure Body where
  txs : Nat
  txHash : Hash
  receiptHash : Hash
  bloom : Option (FixedBytes 256)

/-- `types.NewBlock` without uncles. -/
def newBlock (K : Crypto) (header : Header) (body : Body) : Header :=
  { header with
    txHash := body.txHash
    receiptHash := body.receiptHash
    bloom := body.bloom.getD header.bloom
    uncleHash := K.emptyUncleHash }

variable {σ τ : Type} (K : Crypto) (D : SnapshotStore σ) (A : StateOps τ) (p : Engine)
  (chain : ChainHeaderReader)

/-- By the engine that is in force at the height. -/
def prepare (now rand : Nat) (header : Header) : StoreM σ (Header × Clique.Engine) :=
  if p.isPosaHeader header then Clique.prepare K D p.poa chain now rand header
  else do
    let prepared ← p.pow.prepare chain header
    pure (prepared, p.poa)

/-- Set the state root and the uncle hash. -/
def sealState (header : Header) (state : τ) : Header :=
  { header with
    root := A.intermediateRoot state (chain.config.isEIP158 header.number)
    uncleHash := K.emptyUncleHash }

/-- `finalize`: pay the authority reward to signer, sink and treasury and seal the state
root. -/
def payReward (header : Header) (state : τ) (signer : Address) : Header × τ :=
  let state := (p.credits header.number signer).foldl
    (fun state credit => A.addBalance state credit.1 credit.2) state
  (sealState K A chain header state, state)

/-- `Finalize`: on the authority path the reward goes to the recovered signer; without one
nothing is paid. -/
def finalizeBlock (header : Header) (state : τ) : Header × τ :=
  if !p.isPosaHeader header then A.powFinalize header state
  else
    match ecrecover K header with
    | .error _ => (sealState K A chain header state, state)
    | .ok signer => payReward K A p chain header state signer

/-- `FinalizeAndAssemble`: an unsealed header's reward goes to the local signer. -/
def finalizeAndAssemble (header : Header) (state : τ) (body : Body) : Except Err (Header × τ) :=
  if !p.isPosaHeader header then A.powFinalizeAndAssemble header state
  else do
    let signer ←
      match ecrecover K header with
      | .ok signer => .ok signer
      | .error _ => if p.signer = zeroAddress then .error .errNotAuthorized else .ok p.signer
    let (header, state) := payReward K A p chain header state signer
    .ok (newBlock K header body, state)

end Engine

def acceptingPow : PowEngine where
  verifyHeader _ _ _ := .ok ()
  verifyHeaders _ headers _ := headers.map fun _ => .ok ()
  prepare _ header := .ok header

/-- A fork at block `n + 1` with the signer `1` alone. -/
def sampleEngine (checkpointHash : Hash) (n : Nat) : Engine where
  forkBlock := some (n + 1)
  config := ⟨checkpointHash, addressOf 7, addressOf 8⟩
  pow := acceptingPow
  poa := soleEngine
  signer := addressOf 1
  signer_eq := rfl
  forkBlock_pos := by
    intro fork hfork
    cases hfork
    exact Nat.succ_pos n

end Ferminux.Posa
