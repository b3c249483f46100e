import Ferminux.Core.Run

/-!
# Core.Dominance

**The authority chain dominates.** Heads are ranked by kind first, authority over proof of
work, and by total difficulty second. The fork choice never steps down in this order. The
two functions that move the head differ in whether they ask it: `writeBlockAndSetHead`
does, `writeKnownBlock` leaves it to its callers.

* `authority_dominates`: as long as known blocks are vetted, no step steps down.
* `known_block_displaces_authority`: a known block in the middle of a batch is written
  without being vetted, and takes the head from the authority chain.
-/

namespace Ferminux.Core

open Lib Tree BlockChain List

variable {node : Node} {bc : BlockChain} {block : Block}

/-- The kind of the head first, its total difficulty second. -/
def headRank (node : Node) (bc : BlockChain) : Bool ×ₗ Nat :=
  rank node.config bc.currentBlock.number ((bc.getTd bc.currentBlock).getD 0)

/-- A known block extends the head or is one the fork choice wants. -/
def Vetted (node : Node) (bc : BlockChain) : Insertion → Prop
  | .writeBlockAndSetHead _ _ => True
  | .writeKnownBlock block => block.parentHash = bc.currentBlock.hash ∨
      ∃ coin, node.reorgNeeded bc.getTd coin bc.currentBlock block = .ok true

lemma rank_le_of_parent (hwf : bc.WellFormed)
    (hblock : bc.Stored block) (hparent : bc.parent block = some bc.currentBlock) :
    headRank node bc ≤ rank node.config block.number ((bc.getTd block).getD 0) := by
  obtain ⟨td, htd⟩ := hwf.weighed hwf.headStored
  have hnumber : block.number = bc.currentBlock.number + 1 := hwf.graded _ _ hparent
  unfold headRank
  rw [hwf.cumulative hblock hparent htd, htd]
  exact rank_mono (by omega) (Nat.le_add_left _ _)

lemma rank_le_of_reorgNeeded {coin : Bool} (httd : node.config.terminalTotalDifficulty = none)
    (h : node.reorgNeeded bc.getTd coin bc.currentBlock block = .ok true) :
    headRank node bc ≤ rank node.config block.number ((bc.getTd block).getD 0) := by
  obtain ⟨localTD, externTd, hlocal, hextern, hrank⟩ := ForkChoice.rank_le_of_reorgNeeded httd h
  unfold headRank
  rw [hlocal, hextern]
  exact hrank

/-- The rank of a head that was set over the database `mid`. -/
lemma headRank_setHead {mid bc' : BlockChain}
    (hwf : mid.WellFormed) (hblock : mid.Stored block) (hparent : ∃ p, mid.parent block = some p)
    (h : mid.setHead node block = .ok bc') :
    headRank node bc' = rank node.config block.number ((mid.getTd block).getD 0) := by
  obtain ⟨-, hhead, -, htds, -⟩ := setHead_spec hwf hblock hparent h
  unfold headRank BlockChain.getTd
  rw [hhead, htds]

/-- A vetted step never lowers the rank of the head. -/
theorem headRank_le {bc bc' : BlockChain} {step : Insertion} {err : Option Err}
    (httd : node.config.terminalTotalDifficulty = none) (hwf : bc.WellFormed)
    (hstep : step.Admissible bc) (hvetted : Vetted node bc step)
    (h : Insertion.Outcome node bc step err bc') : headRank node bc ≤ headRank node bc' := by
  have hdb := hwf.toDatabase
  -- storing a block does not touch the rank of the head
  have hstored : ∀ {block coin stored}, step = .writeBlockAndSetHead block coin →
      bc.writeBlockWithState block = .ok stored → headRank node stored = headRank node bc := by
    intro block coin stored heq hstore
    subst heq
    obtain ⟨-, hhead, -⟩ := hwf.store hstep hstore
    unfold headRank
    rw [hhead, getTd_store hdb hstep hstore hwf.headStored]
  cases h with
  | rejected => exact le_rfl
  | stored _ hstore => rw [hstored rfl hstore]
  | adopted hstore hneeded hset =>
    obtain ⟨hwf', -⟩ := hwf.store hstep hstore
    obtain ⟨p, -, -, hp, -⟩ := parent_of_store hdb hstep hstore
    rw [headRank_setHead hwf' ((stored_store_iff hdb hstep hstore).mpr (.inr rfl)) ⟨p, hp⟩ hset,
      ← hstored rfl hstore]
    exact rank_le_of_reorgNeeded httd hneeded
  | known hset =>
    rw [headRank_setHead hwf hstep.1 hstep.2 hset]
    rcases hvetted with hchild | ⟨coin, hneeded⟩
    · obtain ⟨p, hp⟩ := hstep.2
      exact rank_le_of_parent hwf hstep.1 (hdb.parent_eq_of_parentHash hstep.1
        (parent_eq_some_iff.mp hp).1 hwf.headStored hchild)
    · exact rank_le_of_reorgNeeded httd hneeded

/-- **Authority dominance.** In every run whose known blocks are vetted, the rank of the
head never goes down, so an authority head never gives way to proof of work; and a step
that the depth cap refuses, wherever it is tried, changes neither head nor map. -/
theorem authority_dominates {node : Node} {bc bc' : BlockChain}
    (httd : node.config.terminalTotalDifficulty = none) (hwf : bc.WellFormed)
    (hrun : Run node (Vetted node) bc bc') :
    headRank node bc ≤ headRank node bc' ∧
    (node.config.isPosa bc.currentBlock.number = true →
      node.config.isPosa bc'.currentBlock.number = true) ∧
    ∀ (step : Insertion) (depth : Nat) (cap : Int) (common : Nat),
      (step.apply node bc').1 = some (.refusedReorg depth cap common) →
      (step.apply node bc').2.canonical = bc'.canonical ∧
        (step.apply node bc').2.currentBlock = bc'.currentBlock := by
  have hrank : headRank node bc ≤ headRank node bc' := by
    refine (hrun.invariant (P := fun mid => headRank node bc ≤ headRank node mid) hwf le_rfl ?_).2
    intro mid step hmid hadm hvetted hle
    exact hle.trans (headRank_le httd hmid hadm hvetted (step.apply_outcome node mid))
  refine ⟨hrank, ?_, ?_⟩
  · intro hposa
    unfold headRank rank at hrank
    rw [Prod.Lex.toLex_le_toLex, hposa] at hrank
    rcases hrank with hlt | ⟨heq, -⟩
    · exact absurd hlt (by simp)
    · exact heq.symm
  · intro step depth cap common hrefused
    have houtcome := step.apply_outcome node bc'
    rw [hrefused] at houtcome
    exact houtcome.failed.symm

/-- A proof-of-work chain at the fork takes up an authority block, and keeps it as its head
when a heavier proof-of-work block comes along. -/
theorem authority_dominates_fork :
    (sampleNode 2 64).config.isPosa (insertBlocks (sampleNode 2 64) sampleChain
      [sampleBlock 2 1 1 100, sampleBlock 3 2 2 2, sampleBlock 4 1 1 900]).currentBlock.number =
        true := by
  have hbefore : Run (sampleNode 2 64) (Vetted (sampleNode 2 64)) sampleChain
      (insertBlocks (sampleNode 2 64) sampleChain [sampleBlock 2 1 1 100, sampleBlock 3 2 2 2]) :=
    run_insertBlocks (by decide +kernel) (fun _ => trivial)
  have hwf := hbefore.wellFormed (ofGenesis_wellFormed rfl (by decide))
  exact (authority_dominates rfl hwf (.step (.writeBlockAndSetHead (sampleBlock 4 1 1 900) false)
    .start (writable_of_fresh (by decide) (by decide +kernel)) trivial)).2.1 (by decide +kernel)

/-! ### Batches -/

/-- The known blocks that a batch starts with are skipped, up to the first one that the fork
choice wants and that is not canonical already. That one is imported like a new block: the answer
of the fork choice has replaced the error that said it is known, so that the loop of `insertChain`
that would write such blocks never runs. -/
def skipKnown (node : Node) (coin : Block → Bool) (bc : BlockChain) :
    List (Block × Bool) → Except Err (List (Block × Bool))
  | (block, true) :: rest => do
    let reorg ← node.reorgNeeded bc.getTd (coin block) bc.currentBlock block
    if reorg ∧ (bc.currentBlock.number < block.number ∨
        bc.readCanonicalHash block.number ≠ block.hash) then
      .ok ((block, false) :: rest)
    else skipKnown node coin bc rest
  | batch => .ok batch

/-- The import loop of `insertChain`. The flag of a block says whether it is known, with its
state; such a block is written as it comes. -/
def importBlocks (node : Node) (coin : Block → Bool) :
    BlockChain → List (Block × Bool) → Option Err × BlockChain
  | bc, [] => (none, bc)
  | bc, (block, known) :: rest =>
    let step : Insertion :=
      if known then .writeKnownBlock block else .writeBlockAndSetHead block (coin block)
    match step.apply node bc with
    | (some e, bc) => (some e, bc)
    | (none, bc) => importBlocks node coin bc rest

/-- `insertChain`, for a batch of blocks that verify. -/
def insertChain (node : Node) (coin : Block → Bool) (bc : BlockChain) (batch : List (Block × Bool)) :
    Option Err × BlockChain :=
  match skipKnown node coin bc batch with
  | .error e => (some e, bc)
  | .ok batch => importBlocks node coin bc batch

/-- **A known block can displace the authority chain.** The fork is at block 3 and the head
an authority block. A batch brings block 1, whose state is gone, and a stored sibling of
block 2. Block 1 is processed and stays where it is; its known child is written unvetted
and becomes the head. -/
theorem known_block_displaces_authority :
    ∃ bc₁ bc₂, Run (sampleNode 3 64) (fun _ _ => True) sampleChain bc₁ ∧
      Run (sampleNode 3 64) (fun _ _ => True) bc₁ bc₂ ∧
      bc₂ = (insertChain (sampleNode 3 64) (fun _ => false) bc₁
        [(sampleBlock 2 1 1 100, false), (sampleBlock 5 2 2 100, true)]).2 ∧
      (sampleNode 3 64).config.isPosa bc₁.currentBlock.number = true ∧
      (sampleNode 3 64).config.isPosa bc₂.currentBlock.number = false := by
  have hbefore : Run (sampleNode 3 64) (fun _ _ => True) sampleChain
      (insertBlocks (sampleNode 3 64) sampleChain [sampleBlock 2 1 1 100, sampleBlock 3 2 2 100,
        sampleBlock 4 3 3 2, sampleBlock 5 2 2 100]) :=
    run_insertBlocks (by decide +kernel) (fun _ => trivial)
  have hwf := hbefore.wellFormed (ofGenesis_wellFormed rfl (by decide))
  have hstored : (insertBlocks (sampleNode 3 64) sampleChain [sampleBlock 2 1 1 100,
      sampleBlock 3 2 2 100, sampleBlock 4 3 3 2, sampleBlock 5 2 2 100]).Stored
        (sampleBlock 2 1 1 100) := by
    unfold Stored
    decide +kernel
  refine ⟨_, _, hbefore, .step (.writeKnownBlock (sampleBlock 5 2 2 100))
    (.step (.writeBlockAndSetHead (sampleBlock 2 1 1 100) false) .start
      ⟨by decide, fun b hb hhash => hwf.collisionFree hb hstored hhash⟩ trivial)
    ⟨?_, sampleBlock 2 1 1 100, ?_⟩ trivial, rfl, ?_, ?_⟩
  · unfold Stored
    decide +kernel
  · decide +kernel
  · decide +kernel
  · decide +kernel

end Ferminux.Core
