import Ferminux.Core.Run
import Ferminux.Posa.Engine

/-!
# Core.Finality

**Finality under the reorg cap.** A single reorg of an authority head drops at most
`maxReorgDepth` blocks, so it cannot reach the block that the "finalized" tag names. Over
a run this is only true as long as the head does not sink: the cap is measured from the
head of the moment, and a tie of total difficulties, or a shorter and heavier branch, can
take the head to a lower number. From there the next reorg reaches deeper.

* `finalized_stays`: no authority head is undercut, so what was finalized stays
  canonical.
* `finalized_block_dropped`: with a cap of 2, two reorgs that drop two blocks each drop a
  finalized block.
-/

namespace Ferminux.Core

open Lib Tree BlockChain

/-- The step offers an authority head a lower-numbered block that it gives way to: an
authority block that is at least as heavy, or any known block. -/
def Undercuts (node : Node) (bc : BlockChain) : Insertion → Prop
  | .writeBlockAndSetHead block _ =>
    node.config.isPosa bc.currentBlock.number = true ∧ block.number < bc.currentBlock.number ∧
      node.config.isPosa block.number = true ∧
      ∃ td ptd, bc.getTd bc.currentBlock = some td ∧ bc.parentTd block = some ptd ∧
        td ≤ block.difficulty + ptd
  | .writeKnownBlock block =>
    node.config.isPosa bc.currentBlock.number = true ∧ block.number < bc.currentBlock.number

lemma number_le_of_moves {node : Node} {bc bc' : BlockChain} {step : Insertion}
    {err : Option Err} (httd : node.config.terminalTotalDifficulty = none) (hwf : bc.WellFormed)
    (hstep : step.Admissible bc) (hcut : ¬ Undercuts node bc step)
    (hposa : node.config.isPosa bc.currentBlock.number = true)
    (h : Insertion.Outcome node bc step err bc') :
    bc'.currentBlock = bc.currentBlock ∧ bc'.canonical = bc.canonical ∨
      bc.currentBlock.number ≤ step.block.number := by
  have hdb := hwf.toDatabase
  cases h with
  | rejected => exact .inl ⟨rfl, rfl⟩
  | stored _ hstore =>
    obtain ⟨-, hhead, hmap⟩ := hwf.store hstep hstore
    exact .inl ⟨hhead, hmap⟩
  | known =>
    right
    by_contra hlt
    exact hcut ⟨hposa, Nat.lt_of_not_le hlt⟩
  | @adopted block coin stored _ hstore hneeded =>
    right
    by_contra hlt
    -- the fork choice only gives way to an authority block that is as heavy
    obtain ⟨localTD, externTd, hlocal, hextern, hrank⟩ :=
      ForkChoice.rank_le_of_reorgNeeded httd hneeded
    obtain ⟨-, hhead, -⟩ := hwf.store hstep hstore
    obtain ⟨ptd, hptd, hstored⟩ := writeBlockWithState_ok hstore
    have hblockTd : stored.getTd block = some (block.difficulty + ptd) := by
      rw [hstored]
      exact (Map.lookup_insert_eq _ _ _ _).trans (if_pos rfl)
    rw [hblockTd] at hextern
    cases hextern
    rw [hhead] at hrank hlocal
    rw [getTd_store hdb hstep hstore hwf.headStored] at hlocal
    unfold rank at hrank
    rw [Prod.Lex.toLex_le_toLex, hposa] at hrank
    rcases hrank with hkind | ⟨hkind, htd⟩
    · exact absurd hkind (by simp)
    · exact hcut ⟨hposa, Nat.lt_of_not_le hlt, hkind.symm, localTD, ptd, hlocal, hptd, htd⟩

/-- **One step of finality.** Under an authority head, nothing at or below the cap leaves
the canonical map. -/
theorem canonical_of_headMove {node : Node} {bc bc' : BlockChain} {block : Block} {number : Nat}
    {hash : Hash} (hwf : bc.WellFormed) (hwf' : bc'.WellFormed) (hgrows : Insertion.Grows bc bc')
    (hmove : Insertion.HeadMove node bc bc' block) (hcap : 0 < node.maxReorgDepth)
    (hposa : node.config.isPosa bc.currentBlock.number = true)
    (hnumber : number = 0 ∨ (number : Int) + node.maxReorgDepth ≤ bc.currentBlock.number)
    (hcanonical : bc.canonical.lookup number = some hash) :
    bc'.canonical.lookup number = some hash := by
  cases hmove with
  | stays _ hmap => rw [hmap, hcanonical]
  | moves hhead common hold hnew hdepth =>
    obtain ⟨b, hanc, rfl, rfl⟩ := hwf.canonical_iff.mp hcanonical
    have hle : b.number ≤ common.number := by
      have := hdepth hcap hposa
      omega
    have hcommon : Ancestor bc'.parent b common :=
      (hgrows.ancestor hwf.headStored hanc).of_height_le hwf'.graded hold hle
    rw [← hhead] at hnew
    exact hwf'.index.below (hcommon.trans hnew)

/-- **Finality.** In every run that undercuts no authority head, a block that was finalized
under an authority head stays canonical. -/
theorem finalized_stays {node : Node} {p : Posa.Engine} {bc₀ bc₁ bc₂ : BlockChain}
    (hfork : p.forkBlock = node.config.posaBlock)
    (httd : node.config.terminalTotalDifficulty = none) (hwf : bc₀.WellFormed)
    (hbefore : Run node (fun _ _ => True) bc₀ bc₁) {number : Nat} {hash : Hash}
    (hfinal : p.finalizedNumber bc₁.currentBlock.number node.maxReorgDepth = some number)
    (hcanonical : bc₁.canonical.lookup number = some hash)
    (hafter : Run node (fun bc step => ¬ Undercuts node bc step) bc₁ bc₂) :
    bc₂.canonical.lookup number = some hash := by
  have hwf1 := hbefore.wellFormed hwf
  have hrule : node.config.isPosa bc₁.currentBlock.number = true ∧ 0 < node.maxReorgDepth ∧
      (number = 0 ∨ (number : Int) + node.maxReorgDepth ≤ bc₁.currentBlock.number) := by
    unfold Posa.Engine.finalizedNumber Posa.Engine.isPosa at hfinal
    rw [hfork] at hfinal
    split at hfinal
    · cases hfinal
    · rename_i happlies
      simp only [Bool.or_eq_true, Bool.not_eq_true', decide_eq_true_eq, not_or,
        Bool.not_eq_false] at happlies
      refine ⟨happlies.1, by omega, ?_⟩
      have hnumber := Option.some.inj hfinal
      unfold Posa.Engine.below at hnumber
      split at hnumber
      · exact .inl hnumber.symm
      · exact .inr (by omega)
  obtain ⟨hposa, hcap, hdeep⟩ := hrule
  -- the block stays canonical and stays at least `maxReorgDepth` below an authority head
  have hinv := hafter.invariant (P := fun bc => node.config.isPosa bc.currentBlock.number = true ∧
    (number = 0 ∨ (number : Int) + node.maxReorgDepth ≤ bc.currentBlock.number) ∧
    bc.canonical.lookup number = some hash) hwf1 ⟨hposa, hdeep, hcanonical⟩ ?_
  · exact hinv.2.2.2
  · intro mid step hmid hadm hcut hP
    obtain ⟨hposa', hdeep', hcanonical'⟩ := hP
    have houtcome := step.apply_outcome node mid
    obtain ⟨hwf', hgrows, hmove⟩ := houtcome.spec hmid hadm
    have hstays := canonical_of_headMove hmid hwf' hgrows hmove hcap hposa' hdeep' hcanonical'
    have hclimbs : mid.currentBlock.number ≤ (step.apply node mid).2.currentBlock.number := by
      rcases number_le_of_moves httd hmid hadm hcut hposa' houtcome with ⟨hhead, -⟩ | hle
      · rw [hhead]
      · cases hmove with
        | stays hhead => rw [hhead]
        | moves hhead =>
          rw [hhead]
          exact hle
    refine ⟨isPosa_mono node.config hclimbs hposa', ?_, hstays⟩
    omega

/-- A fork at block 1, a cap of 2, and three authority blocks: the block at height 1 is
finalized, and stays when the chain grows. -/
theorem finalized_stays_third :
    (insertBlocks (sampleNode 1 2) sampleChain [sampleBlock 2 1 1 1, sampleBlock 3 2 2 1,
      sampleBlock 4 3 3 1, sampleBlock 5 4 4 2]).canonical.lookup 1 = some (hashOf 2) := by
  have hbefore : Run (sampleNode 1 2) (fun _ _ => True) sampleChain
      (insertBlocks (sampleNode 1 2) sampleChain
        [sampleBlock 2 1 1 1, sampleBlock 3 2 2 1, sampleBlock 4 3 3 1]) :=
    run_insertBlocks (by decide +kernel) (fun _ => trivial)
  refine finalized_stays (p := Posa.sampleEngine zeroHash 0) rfl rfl
    (ofGenesis_wellFormed rfl (by decide)) hbefore (by decide +kernel) (by decide +kernel)
    (.step (.writeBlockAndSetHead (sampleBlock 5 4 4 2) false) .start
      (writable_of_fresh (by decide) (by decide +kernel)) ?_)
  intro hcut
  exact absurd hcut.2.1 (by decide +kernel)

/-- **A finalized block can leave the canonical chain.** With a cap of 2, three authority
blocks of difficulty 1 finalize the one at height 1. A sibling of the second one with
difficulty 2 ties with the head and wins by its lower number; from there, a branch of two
blocks of difficulty 2 below the finalized block is heavier and only two blocks away. -/
theorem finalized_block_dropped :
    ∃ bc₁ bc₂,
      Run (sampleNode 1 2) (fun _ step => step.block.difficulty = 1 ∨ step.block.difficulty = 2)
        sampleChain bc₁ ∧
      Run (sampleNode 1 2) (fun _ step => step.block.difficulty = 1 ∨ step.block.difficulty = 2)
        bc₁ bc₂ ∧
      (Posa.sampleEngine zeroHash 0).finalizedNumber bc₁.currentBlock.number 2 = some 1 ∧
      bc₁.canonical.lookup 1 = some (hashOf 2) ∧ bc₂.canonical.lookup 1 = some (hashOf 6) := by
  refine ⟨insertBlocks (sampleNode 1 2) sampleChain
      [sampleBlock 2 1 1 1, sampleBlock 3 2 2 1, sampleBlock 4 3 3 1],
    insertBlocks (sampleNode 1 2) (insertBlocks (sampleNode 1 2) sampleChain
      [sampleBlock 2 1 1 1, sampleBlock 3 2 2 1, sampleBlock 4 3 3 1])
      [sampleBlock 5 2 2 2, sampleBlock 6 1 1 2, sampleBlock 7 6 2 2], ?_, ?_, ?_, ?_, ?_⟩
  · exact run_insertBlocks (by decide +kernel) (by decide)
  · exact run_insertBlocks (by decide +kernel) (by decide)
  · decide +kernel
  · decide +kernel
  · decide +kernel

end Ferminux.Core
