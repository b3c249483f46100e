import Ferminux.Core.ForkChoice
import Ferminux.Lib.Map
import Ferminux.Lib.Tree

/-!
# Core.BlockChain

The **block chain's indexes** (`core/blockchain.go`): the stored blocks with their total
difficulties, the canonical number-to-hash map, the head, and the functions that move
it: `writeHeadBlock`, `reorg`, `writeKnownBlock` and `writeBlockAndSetHead`.

* What hangs on a block but not on the choice of the head is left out: state, receipts,
  transaction lookups, logs, the head header and the fast-sync head.
* The parent of a stored block is looked up by hash and number. Below block 0 the
  number wraps around to `2^64-1`, where nothing is stored.
* A missing entry of the canonical map reads as the zero hash.
* `reorg` writes nothing before its last check, so it returns the new chain or an error.
  `writeBlockAndSetHead` has stored the block by then; it returns the chain either way.
-/

namespace Ferminux.Core

open Lib

/-- What a node is configured with: the fork choice and `FerminuxMaxReorgDepth`. -/
structure Node extends ForkChoice where
  maxReorgDepth : Int

/-- The indexes of `BlockChain` and its database. -/
structure BlockChain where
  blocks : Map (Hash × Nat) Block
  tds : Map (Hash × Nat) Nat
  canonical : Map Nat Hash
  currentBlock : Block

namespace BlockChain

def getBlock (bc : BlockChain) (hash : Hash) (number : Nat) : Option Block :=
  bc.blocks.lookup (hash, number)

/-- The total difficulty up to a block. -/
def getTd (bc : BlockChain) (block : Block) : Option Nat := bc.tds.lookup (block.hash, block.number)

/-- `GetBlock(block.ParentHash(), block.NumberU64()-1)`. -/
def parent (bc : BlockChain) (block : Block) : Option Block :=
  match block.number with
  | 0 => none
  | n + 1 => bc.getBlock block.parentHash n

/-- `GetTd(block.ParentHash(), block.NumberU64()-1)`. -/
def parentTd (bc : BlockChain) (block : Block) : Option Nat :=
  match block.number with
  | 0 => none
  | n + 1 => bc.tds.lookup (block.parentHash, n)

/-- The zero hash where no block is canonical. -/
def readCanonicalHash (bc : BlockChain) (number : Nat) : Hash :=
  (bc.canonical.lookup number).getD zeroHash

/-! ### Writing -/

/-- `writeHeadBlock`: add the block to the canonical chain number scheme and mark it as
the head. -/
def writeHeadBlock (bc : BlockChain) (block : Block) : BlockChain :=
  { bc with
    canonical := bc.canonical.insert block.number block.hash
    currentBlock := block }

/-- `writeBlockWithState`: write the block and its total difficulty, irrelevant of the
canonical status. -/
def writeBlockWithState (bc : BlockChain) (block : Block) : Except Err BlockChain :=
  match bc.parentTd block with
  | none => .error .errUnknownAncestor
  | some ptd =>
    .ok { bc with
      blocks := bc.blocks.insert (block.hash, block.number) block
      tds := bc.tds.insert (block.hash, block.number) (block.difficulty + ptd) }

/-- The loop that deletes hash markers from number `i` up to the first gap. A turn deletes
an entry, so there are at most as many turns as entries (`fuel`). -/
def deleteMarkers : Nat → Map Nat Hash → Nat → Map Nat Hash
  | 0, canonical, _ => canonical
  | fuel + 1, canonical, i =>
    if (canonical.lookup i).getD zeroHash = zeroHash then canonical
    else deleteMarkers fuel (canonical.erase i) (i + 1)

/-! ### Reorganising -/

/-- The loop that reduces the longer chain by `k` blocks: where it ends and the blocks on
the way, from the top. -/
def reduce (bc : BlockChain) : Nat → Block → Option (Block × List Block)
  | 0, block => some (block, [])
  | k + 1, block => do
    let next ← bc.parent block
    let (last, chain) ← bc.reduce k next
    some (last, block :: chain)

/-- The loop that steps back with both chains, which are at the same number `n`, until the
common ancestor is found. -/
def findCommon (bc : BlockChain) : Nat → Block → Block → Except Err (Block × List Block × List Block)
  | n, oldBlock, newBlock =>
    if oldBlock.hash = newBlock.hash then .ok (oldBlock, [], [])
    else
      match n, bc.parent oldBlock, bc.parent newBlock with
      | n + 1, some oldNext, some newNext => do
        let (common, oldChain, newChain) ← bc.findCommon n oldNext newNext
        .ok (common, oldBlock :: oldChain, newBlock :: newChain)
      | _, some _, none => .error .invalidNewChain
      | _, _, _ => .error .invalidOldChain

/-- The first half of `reorg`: the common ancestor, the blocks to drop and the blocks to
add, from the top. -/
def findFork (bc : BlockChain) (oldBlock newBlock : Block) :
    Except Err (Block × List Block × List Block) :=
  if newBlock.number < oldBlock.number then
    match bc.reduce (oldBlock.number - newBlock.number) oldBlock with
    | none => .error .invalidOldChain
    | some (oldBlock, oldTop) => do
      let (common, oldChain, newChain) ← bc.findCommon newBlock.number oldBlock newBlock
      .ok (common, oldTop ++ oldChain, newChain)
  else
    match bc.reduce (newBlock.number - oldBlock.number) newBlock with
    | none => .error .invalidNewChain
    | some (newBlock, newTop) => do
      let (common, oldChain, newChain) ← bc.findCommon oldBlock.number oldBlock newBlock
      .ok (common, oldChain, newTop ++ newChain)

/-- The second half of `reorg`: insert the new chain except its head, and delete all hash
markers above. -/
def adopt (bc : BlockChain) (common : Block) (newChain : List Block) : BlockChain :=
  -- the lowest block comes first
  let bc := newChain.tail.foldr (fun block bc => bc.writeHeadBlock block) bc
  let number :=
    match newChain with
    | _ :: next :: _ => next.number
    | _ => common.number
  { bc with canonical := deleteMarkers bc.canonical.keys.card bc.canonical (number + 1) }

/-- `reorg`: make the chain below `newBlock` canonical instead of the one below `oldBlock`.
While the head is an authority block, no more than `maxReorgDepth` blocks are dropped. -/
def reorg (node : Node) (bc : BlockChain) (oldBlock newBlock : Block) : Except Err BlockChain := do
  let (common, oldChain, newChain) ← bc.findFork oldBlock newBlock
  match oldChain with
  | [] => .ok (bc.adopt common newChain)
  | dropped :: _ =>
    if 0 < node.maxReorgDepth ∧ node.maxReorgDepth < oldChain.length ∧
        node.config.isPosa dropped.number then
      .error (.refusedReorg oldChain.length node.maxReorgDepth common.number)
    else .ok (bc.adopt common newChain)

/-- Reorganise the chain if the parent is not the head block, and set the new head. -/
def setHead (node : Node) (bc : BlockChain) (block : Block) : Except Err BlockChain := do
  if block.parentHash = bc.currentBlock.hash then
    .ok (bc.writeHeadBlock block)
  else
    let bc ← bc.reorg node bc.currentBlock block
    .ok (bc.writeHeadBlock block)

/-! ### The two insertions -/

/-- `writeKnownBlock`: update the head with a known block. The fork choice is not asked. -/
def writeKnownBlock (node : Node) (bc : BlockChain) (block : Block) : Except Err BlockChain :=
  bc.setHead node block

/-- Whether a written block became the head. -/
inductive WriteStatus
  | canonStatTy
  | sideStatTy
  deriving DecidableEq

/-- `writeBlockAndSetHead`: write the block and, if the fork choice says so, apply it as the
new head. -/
def writeBlockAndSetHead (node : Node) (coin : Bool) (bc : BlockChain) (block : Block) :
    Except Err WriteStatus × BlockChain :=
  match bc.writeBlockWithState block with
  | .error e => (.error e, bc)
  | .ok stored =>
    match node.reorgNeeded stored.getTd coin stored.currentBlock block with
    | .error e => (.error e, stored)
    | .ok false => (.ok .sideStatTy, stored)
    | .ok true =>
      match stored.setHead node block with
      | .error e => (.error e, stored)
      | .ok adopted => (.ok .canonStatTy, adopted)

/-- A chain that consists of its genesis block (`ResetWithGenesisBlock`). -/
def ofGenesis (genesis : Block) : BlockChain where
  blocks := (∅ : Map (Hash × Nat) Block).insert (genesis.hash, genesis.number) genesis
  tds := (∅ : Map (Hash × Nat) Nat).insert (genesis.hash, genesis.number) genesis.difficulty
  canonical := (∅ : Map Nat Hash).insert genesis.number genesis.hash
  currentBlock := genesis

end BlockChain

/-! ### Runs -/

/-- The ways in which a block gets into the chain. -/
inductive Insertion
  | writeBlockAndSetHead (block : Block) (coin : Bool)
  | writeKnownBlock (block : Block)

/-- The error of a step, if it fails, and the chain after it. -/
def Insertion.apply (node : Node) (bc : BlockChain) : Insertion → Option Err × BlockChain
  | .writeBlockAndSetHead block coin =>
    match bc.writeBlockAndSetHead node coin block with
    | (.error e, bc) => (some e, bc)
    | (.ok _, bc) => (none, bc)
  | .writeKnownBlock block =>
    match bc.writeKnownBlock node block with
    | .error e => (some e, bc)
    | .ok bc => (none, bc)

/-! ### Blocks to evaluate on -/

def hashOf (n : UInt8) : Hash := ⟨List.replicate 31 0 ++ [n], by simp⟩

def sampleBlock (id parent : UInt8) (number difficulty : Nat) : Block :=
  ⟨hashOf id, hashOf parent, number, difficulty⟩

/-- A node with the given fork block and cap that preserves no blocks of its own. -/
def sampleNode (fork : Nat) (cap : Int) : Node where
  config := { ferminuxChainConfig with posaBlock := some fork }
  preserve _ := false
  maxReorgDepth := cap

def sampleChain : BlockChain := .ofGenesis (sampleBlock 1 0 0 1)

/-- Insert the blocks one after the other with `writeBlockAndSetHead`. -/
def insertBlocks (node : Node) (bc : BlockChain) (blocks : List Block) : BlockChain :=
  blocks.foldl (fun bc block => ((Insertion.writeBlockAndSetHead block false).apply node bc).2) bc

end Ferminux.Core
