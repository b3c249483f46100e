import Ferminux.Core.Canonical

/-!
# Core.Run

**Runs of insertions**, in any order, successful or not. `apply_outcome` says once what a
step can do, and `Outcome.spec` what that means: it keeps the chain well formed, it
forgets nothing, and it leaves the head alone or moves it to its block under the cap. The
results on whole runs (`Core.Finality`, `Core.Dominance`) use nothing else of the code.
-/

namespace Ferminux.Core

open Lib Tree BlockChain List

namespace Insertion

def block : Insertion → Block
  | .writeBlockAndSetHead block _ => block
  | .writeKnownBlock block => block

/-- What the callers promise: a new block's hash is nobody else's, and a known block is
stored with its parent. -/
def Admissible (bc : BlockChain) : Insertion → Prop
  | .writeBlockAndSetHead block _ => bc.Writable block
  | .writeKnownBlock block => bc.Stored block ∧ ∃ p, bc.parent block = some p

inductive Outcome (node : Node) (bc : BlockChain) : Insertion → Option Err → BlockChain → Prop
  /-- It failed before anything was written. -/
  | rejected (step : Insertion) (e : Err) : Outcome node bc step (some e) bc
  /-- The block was stored; the fork choice kept the head, or the reorg failed. -/
  | stored {block : Block} {coin : Bool} {stored : BlockChain} (err : Option Err)
      (hstore : bc.writeBlockWithState block = .ok stored) :
      Outcome node bc (.writeBlockAndSetHead block coin) err stored
  /-- The block was stored and is the new head, as the fork choice said. -/
  | adopted {block : Block} {coin : Bool} {stored bc' : BlockChain}
      (hstore : bc.writeBlockWithState block = .ok stored)
      (hneeded : node.reorgNeeded stored.getTd coin stored.currentBlock block = .ok true)
      (hset : stored.setHead node block = .ok bc') :
      Outcome node bc (.writeBlockAndSetHead block coin) none bc'
  | known {block : Block} {bc' : BlockChain} (hset : bc.setHead node block = .ok bc') :
      Outcome node bc (.writeKnownBlock block) none bc'

lemma apply_outcome (node : Node) (bc : BlockChain) (step : Insertion) :
    Outcome node bc step (step.apply node bc).1 (step.apply node bc).2 := by
  cases step with
  | writeKnownBlock block =>
    rw [apply]
    cases hset : bc.writeKnownBlock node block with
    | error e => exact .rejected _ e
    | ok => exact .known hset
  | writeBlockAndSetHead block coin =>
    rw [apply, BlockChain.writeBlockAndSetHead]
    cases hstore : bc.writeBlockWithState block with
    | error e => exact .rejected _ e
    | ok stored =>
      dsimp only
      cases hneeded : node.reorgNeeded stored.getTd coin stored.currentBlock block with
      | error => exact .stored _ hstore
      | ok reorg =>
        cases reorg with
        | false => exact .stored _ hstore
        | true =>
          dsimp only
          cases hset : stored.setHead node block with
          | error => exact .stored _ hstore
          | ok => exact .adopted hstore hneeded hset

variable {node : Node} {bc bc' : BlockChain} {step : Insertion} {err : Option Err}

/-- **A failed step** leaves the head and the canonical map exactly as they were. -/
theorem Outcome.failed {e : Err} (h : Outcome node bc step (some e) bc') :
    bc'.currentBlock = bc.currentBlock ∧ bc'.canonical = bc.canonical := by
  cases h with
  | rejected => exact ⟨rfl, rfl⟩
  | stored _ hstore =>
    obtain ⟨_, -, rfl⟩ := writeBlockWithState_ok hstore
    exact ⟨rfl, rfl⟩

/-- The head stays, with the map, or moves to the block under the cap. -/
inductive HeadMove (node : Node) (bc bc' : BlockChain) (block : Block) : Prop
  | stays (hhead : bc'.currentBlock = bc.currentBlock) (hmap : bc'.canonical = bc.canonical)
  | moves (hhead : bc'.currentBlock = block) (common : Block)
      (hold : Ancestor bc'.parent common bc.currentBlock) (hnew : Ancestor bc'.parent common block)
      (hcap : 0 < node.maxReorgDepth → node.config.isPosa bc.currentBlock.number = true →
        (bc.currentBlock.number : Int) ≤ common.number + node.maxReorgDepth)

/-- What is stored stays, with its parent and its total difficulty. -/
structure Grows (bc bc' : BlockChain) : Prop where
  getTd : ∀ {b}, bc.Stored b → bc'.getTd b = bc.getTd b
  ancestor : ∀ {a b}, bc.Stored b → Ancestor bc.parent a b → Ancestor bc'.parent a b

/-- A new head over a database `mid` that is the old one or has the new block on top. -/
lemma setHead_move {mid : BlockChain} {block : Block} (hwf : mid.WellFormed)
    (hhead : mid.currentBlock = bc.currentBlock) (hblock : mid.Stored block)
    (hparent : ∃ p, mid.parent block = some p) (h : mid.setHead node block = .ok bc') :
    bc'.WellFormed ∧ HeadMove node bc bc' block ∧ bc'.parent = mid.parent ∧
      bc'.getTd = mid.getTd := by
  obtain ⟨hwf', hhead', hblocks, htds, common, hold, hnew, hcap⟩ := setHead_spec hwf hblock hparent h
  have hforest := parent_congr hblocks
  have htd : bc'.getTd = mid.getTd := by
    funext b
    unfold getTd
    rw [htds]
  rw [hhead] at hold hcap
  refine ⟨hwf', .moves hhead' common ?_ ?_ hcap, hforest, htd⟩
  · rw [hforest]
    exact hold
  · rw [hforest]
    exact hnew

/-- What a step can do, whether it succeeds, fails or stops halfway. -/
theorem Outcome.spec (hwf : bc.WellFormed) (hstep : step.Admissible bc)
    (h : Outcome node bc step err bc') :
    bc'.WellFormed ∧ Grows bc bc' ∧ HeadMove node bc bc' step.block := by
  have hdb := hwf.toDatabase
  cases h with
  | rejected => exact ⟨hwf, ⟨fun _ => rfl, fun _ h => h⟩, .stays rfl rfl⟩
  | stored _ hstore =>
    obtain ⟨hwf', hhead, hmap⟩ := hwf.store hstep hstore
    exact ⟨hwf', ⟨getTd_store hdb hstep hstore,
      fun hb hab => (ancestor_store_iff hdb hstep hstore hb).mpr hab⟩, .stays hhead hmap⟩
  | adopted hstore _ hset =>
    obtain ⟨hwf', hhead, -⟩ := hwf.store hstep hstore
    obtain ⟨p, -, -, hp, -⟩ := parent_of_store hdb hstep hstore
    obtain ⟨hwf'', hmove, hforest, htd⟩ := setHead_move hwf' hhead
      ((stored_store_iff hdb hstep hstore).mpr (.inr rfl)) ⟨p, hp⟩ hset
    refine ⟨hwf'', ⟨?_, ?_⟩, hmove⟩
    · intro b hb
      rw [htd, getTd_store hdb hstep hstore hb]
    · intro a b hb hab
      rw [hforest]
      exact (ancestor_store_iff hdb hstep hstore hb).mpr hab
  | known hset =>
    obtain ⟨hwf', hmove, hforest, htd⟩ := setHead_move hwf rfl hstep.1 hstep.2 hset
    exact ⟨hwf', ⟨fun _ => by rw [htd], fun _ hab => by rw [hforest]; exact hab⟩, hmove⟩

end Insertion

/-! ### Runs -/

/-- The chains a run can reach whose steps are admissible and meet the condition `C`. -/
inductive Run (node : Node) (C : BlockChain → Insertion → Prop) (bc : BlockChain) :
    BlockChain → Prop
  | start : Run node C bc bc
  | step {bc' : BlockChain} (step : Insertion) : Run node C bc bc' → step.Admissible bc' →
      C bc' step → Run node C bc (step.apply node bc').2

/-- **Invariants of a run**: what one step from a well-formed chain preserves holds at the
end. -/
theorem Run.invariant {node : Node} {C : BlockChain → Insertion → Prop} {bc bc' : BlockChain}
    {P : BlockChain → Prop} (hrun : Run node C bc bc') (hwf : bc.WellFormed) (h0 : P bc)
    (hstep : ∀ mid step, mid.WellFormed → step.Admissible mid → C mid step → P mid →
      P (step.apply node mid).2) : bc'.WellFormed ∧ P bc' := by
  induction hrun with
  | start => exact ⟨hwf, h0⟩
  | step step _ hadm hC ih =>
    obtain ⟨hmid, hP⟩ := ih
    exact ⟨((step.apply_outcome node _).spec hmid hadm).1, hstep _ step hmid hadm hC hP⟩

variable {C : BlockChain → Insertion → Prop}

lemma Run.wellFormed {node : Node} {bc bc' : BlockChain}
    (hrun : Run node C bc bc') (hwf : bc.WellFormed) : bc'.WellFormed :=
  (hrun.invariant (P := fun _ => True) hwf trivial fun _ _ _ _ _ _ => trivial).1

lemma ofGenesis_wellFormed {genesis : Block} (hnumber : genesis.number = 0)
    (hhash : genesis.hash ≠ zeroHash) : (ofGenesis genesis).WellFormed := by
  have hget : ∀ hash number, (ofGenesis genesis).getBlock hash number =
      if (hash, number) = (genesis.hash, genesis.number) then some genesis else none := by
    intro hash number
    exact Map.lookup_insert_eq _ _ _ _
  have hstored : ∀ {b}, (ofGenesis genesis).Stored b → b = genesis := by
    intro b hb
    unfold Stored at hb
    rw [hget] at hb
    split at hb
    · exact (Option.some.inj hb).symm
    · cases hb
  have hparent : (ofGenesis genesis).parent genesis = none := by
    unfold parent
    rw [hnumber]
  have htd : ∀ hash number, (ofGenesis genesis).tds.lookup (hash, number) =
      if (hash, number) = (genesis.hash, genesis.number) then some genesis.difficulty else none := by
    intro hash number
    exact Map.lookup_insert_eq _ _ _ _
  refine ⟨⟨?_, ?_, ?_, ?_, ?_, ?_, ?_⟩, ?_, ?_, ?_⟩
  · intro hash number block hblock
    rw [hget] at hblock
    split at hblock
    · rename_i hkey
      cases hblock
      exact ⟨(Prod.mk.inj hkey).1.symm, (Prod.mk.inj hkey).2.symm⟩
    · cases hblock
  · intro b hb
    rw [hstored hb]
    exact hhash
  · intro a b ha hb _
    rw [hstored ha, hstored hb]
  · intro b hb hpos
    rw [hstored hb, hnumber] at hpos
    cases hpos
  · intro b hb
    rw [hstored hb]
    exact ⟨genesis.difficulty, (htd _ _).trans (if_pos rfl)⟩
  · intro b p td hb hp _
    rw [hstored hb, hparent] at hp
    cases hp
  · intro hash number td h
    rw [htd] at h
    split at h
    · rename_i hkey
      exact ⟨genesis, (hget _ _).trans (if_pos hkey)⟩
    · cases h
  · exact (hget _ _).trans (if_pos rfl)
  · intro b hb
    rcases ancestor_iff.mp hb with rfl | ⟨q, hq, -⟩
    · exact (Map.lookup_insert_eq _ _ _ _).trans (if_pos rfl)
    · exact absurd (hparent.symm.trans hq) (by simp)
  · intro i hi
    refine (Map.lookup_insert_eq _ _ _ _).trans (if_neg ?_)
    intro heq
    rw [heq] at hi
    exact lt_irrefl _ hi

lemma writable_of_fresh {bc : BlockChain} {block : Block} (hzero : block.hash ≠ zeroHash)
    (hfresh : ∀ key ∈ bc.blocks.keys, key.1 ≠ block.hash) : bc.Writable block := by
  refine ⟨hzero, ?_⟩
  intro b hb hhash
  refine absurd hhash (hfresh (b.hash, b.number) ?_)
  rw [Finmap.mem_keys, ← Finmap.lookup_isSome]
  unfold Stored getBlock at hb
  rw [hb]
  rfl

lemma run_insertBlocks {node : Node} {bc : BlockChain}
    {blocks : List Block} (hfresh : ∀ i : Fin blocks.length, (blocks.get i).hash ≠ zeroHash ∧
      ∀ key ∈ (insertBlocks node bc (blocks.take i)).blocks.keys, key.1 ≠ (blocks.get i).hash)
    (hC : ∀ i : Fin blocks.length, C (insertBlocks node bc (blocks.take i))
      (.writeBlockAndSetHead (blocks.get i) false)) :
    Run node C bc (insertBlocks node bc blocks) := by
  -- up to every prefix of the blocks
  have hprefix : ∀ n, n ≤ blocks.length →
      Run node C bc (insertBlocks node bc (blocks.take n)) := by
    intro n hn
    induction n with
    | zero => exact .start
    | succ n ih =>
      have hget : blocks.take (n + 1) = blocks.take n ++ [blocks.get ⟨n, hn⟩] := by
        rw [take_add_one, getElem?_eq_getElem hn]
        rfl
      rw [hget, insertBlocks, foldl_append]
      exact .step (.writeBlockAndSetHead (blocks.get ⟨n, hn⟩) false) (ih (by omega))
        (writable_of_fresh (hfresh ⟨n, hn⟩).1 (hfresh ⟨n, hn⟩).2) (hC ⟨n, hn⟩)
  have hall := hprefix blocks.length le_rfl
  rw [take_length] at hall
  exact hall

/-- **The canonical map is exact.** After every run from a genesis block it holds under each number
the ancestor of the head with that number, and nothing else. -/
theorem canonical_exact {node : Node} {genesis : Block} {bc : BlockChain}
    (hnumber : genesis.number = 0) (hhash : genesis.hash ≠ zeroHash)
    (hrun : Run node C (ofGenesis genesis) bc) (number : Nat) (hash : Hash) :
    bc.canonical.lookup number = some hash ↔ ∃ block, Ancestor bc.parent block bc.currentBlock ∧
      block.number = number ∧ block.hash = hash :=
  (hrun.wellFormed (ofGenesis_wellFormed hnumber hhash)).canonical_iff

/-- Block `4` has displaced a chain of two. -/
theorem canonical_exact_reorg :
    let bc := insertBlocks (sampleNode 9 64) sampleChain
      [sampleBlock 2 1 1 1, sampleBlock 3 2 2 1, sampleBlock 4 1 1 9]
    ∃ block, Ancestor bc.parent block bc.currentBlock ∧ block.number = 1 ∧ block.hash = hashOf 4 :=
  (canonical_exact (C := fun _ _ => True) rfl (by decide)
    (run_insertBlocks (by decide +kernel) fun _ => trivial) 1 _).mp (by decide +kernel)

end Ferminux.Core
