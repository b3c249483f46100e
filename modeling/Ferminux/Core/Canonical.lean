import Mathlib.Order.Interval.Finset.Nat
import Ferminux.Core.BlockChain
import Ferminux.Lib.Except

/-!
# Core.Canonical

**The canonical map is the path to the head.** `WellFormed` says what the database and the
indexes are like between two insertions; every insertion keeps it, whether it succeeds,
fails, or is refused halfway.

The proofs see the database as a forest: `BlockChain.parent` is its parent function and
the block number its height. What `reorg` computes are then two paths to a common
ancestor (`findFork_path`), and what it leaves of the map is read off them
(`adopt_index`). The results on whole runs rest on `setHead_spec`: a new head has an
ancestor in common with the old one, not further down than the cap.
-/

namespace Ferminux.Core

open Lib Tree Option List Map Ancestor

variable {m : Map Nat Hash} {oldBlock newBlock common : Block} {b : Block}

namespace BlockChain

def Stored (bc : BlockChain) (block : Block) : Prop :=
  bc.getBlock block.hash block.number = some block

/-- The database: blocks are filed under their own hash and number, different blocks under
different hashes, parents and total difficulties are there. -/
structure Database (bc : BlockChain) : Prop where
  keyed : ∀ {hash number block}, bc.getBlock hash number = some block →
    block.hash = hash ∧ block.number = number
  nonzero : ∀ {block}, bc.Stored block → block.hash ≠ zeroHash
  collisionFree : ∀ {a b}, bc.Stored a → bc.Stored b → a.hash = b.hash → a = b
  rooted : ∀ {block}, bc.Stored block → 0 < block.number → ∃ p, bc.parent block = some p
  weighed : ∀ {block}, bc.Stored block → ∃ td, bc.getTd block = some td
  cumulative : ∀ {block p td}, bc.Stored block → bc.parent block = some p → bc.getTd p = some td →
    bc.getTd block = some (block.difficulty + td)
  tdStored : ∀ {hash number td}, bc.tds.lookup (hash, number) = some td →
    ∃ block, bc.getBlock hash number = some block

/-- The map holds the ancestors of `top` and nothing above it. -/
structure Index (bc : BlockChain) (canonical : Map Nat Hash) (top : Block) : Prop where
  below : ∀ {block}, Ancestor bc.parent block top → canonical.lookup block.number = some block.hash
  above : ∀ {i}, top.number < i → canonical.lookup i = none

/-- What holds between two insertions. -/
structure WellFormed (bc : BlockChain) : Prop extends bc.Database where
  headStored : bc.Stored bc.currentBlock
  index : bc.Index bc.canonical bc.currentBlock

/-! ### The database as a forest -/

section Forest

variable {bc : BlockChain}

lemma parent_eq_some_iff {block p : Block} : bc.parent block = some p ↔
      0 < block.number ∧ bc.getBlock block.parentHash (block.number - 1) = some p := by
  unfold parent
  cases hnumber : block.number with
  | zero => simp
  | succ => simp

section

variable (h : bc.Database)
include h

lemma Database.graded : Graded bc.parent Block.number := by
  intro block p hp
  obtain ⟨hpos, hget⟩ := parent_eq_some_iff.mp hp
  have := (h.keyed hget).2
  omega

lemma Database.stored_of_getBlock {hash : Hash} {number : Nat} {block : Block}
    (hget : bc.getBlock hash number = some block) : bc.Stored block := by
  obtain ⟨rfl, rfl⟩ := h.keyed hget
  exact hget

lemma Database.parent_stored {block p : Block} (hp : bc.parent block = some p) : bc.Stored p :=
  h.stored_of_getBlock (parent_eq_some_iff.mp hp).2

lemma Database.ancestor_stored {a : Block} (hab : Ancestor bc.parent a b)
    (hb : bc.Stored b) : bc.Stored a := by
  obtain ⟨k, hk⟩ := hab
  induction k generalizing b with
  | zero =>
    cases hk
    exact hb
  | succ _ ih =>
    obtain ⟨p, hp, hback⟩ := back_succ_iff.mp hk
    exact ih (h.parent_stored hp) hback

lemma Database.exists_ancestor {block : Block} (hb : bc.Stored block) {n : Nat}
    (hn : n ≤ block.number) : ∃ p, Ancestor bc.parent p block ∧ p.number = n := by
  refine Tree.exists_ancestor h.graded bc.Stored ?_ hb hn
  intro a ha hpos
  obtain ⟨p, hp⟩ := h.rooted ha hpos
  exact ⟨p, hp, h.parent_stored hp⟩

lemma Database.parent_eq_of_parentHash {block head : Block}
    (hb : bc.Stored block) (hpos : 0 < block.number) (hhead : bc.Stored head)
    (hhash : block.parentHash = head.hash) : bc.parent block = some head := by
  obtain ⟨p, hp⟩ := h.rooted hb hpos
  have hphash := (h.keyed (parent_eq_some_iff.mp hp).2).1
  rw [h.collisionFree (h.parent_stored hp) hhead (hphash.trans hhash)] at hp
  exact hp

end

lemma WellFormed.canonical_iff (h : bc.WellFormed) {number : Nat} {hash : Hash} :
    bc.canonical.lookup number = some hash ↔
      ∃ block, Ancestor bc.parent block bc.currentBlock ∧ block.number = number ∧
        block.hash = hash := by
  constructor
  · intro hlookup
    by_cases hle : number ≤ bc.currentBlock.number
    · obtain ⟨block, hanc, rfl⟩ := h.exists_ancestor h.headStored hle
      rw [h.index.below hanc] at hlookup
      exact ⟨block, hanc, rfl, some.inj hlookup⟩
    · rw [h.index.above (Nat.lt_of_not_le hle)] at hlookup
      cases hlookup
  · intro hblock
    obtain ⟨block, hanc, rfl, rfl⟩ := hblock
    exact h.index.below hanc

end Forest

/-! ### The loops of `reorg` -/

section Reorg

variable {bc : BlockChain}

lemma reduce_path {k : Nat} {block last : Block} {chain : List Block}
    (h : bc.reduce k block = some (last, chain)) : Path bc.parent block chain last := by
  induction k generalizing block chain with
  | zero =>
    cases h
    exact .nil _
  | succ k ih =>
    obtain ⟨next, hnext, h⟩ := bind_eq_some_iff.mp h
    obtain ⟨⟨last', chain'⟩, hreduce, h⟩ := bind_eq_some_iff.mp h
    cases h
    exact .cons hnext (ih hreduce)

lemma findCommon_path (hdb : bc.Database) {n : Nat}
    {oldChain newChain : List Block} (hold : bc.Stored oldBlock) (hnew : bc.Stored newBlock)
    (h : bc.findCommon n oldBlock newBlock = .ok (common, oldChain, newChain)) :
    Path bc.parent oldBlock oldChain common ∧ Path bc.parent newBlock newChain common := by
  induction n generalizing oldBlock newBlock oldChain newChain with
  | zero =>
    unfold findCommon at h
    split at h
    · rename_i hhash
      cases h
      rw [hdb.collisionFree hold hnew hhash]
      exact ⟨.nil _, .nil _⟩
    · split at h
      · rename_i hzero _ _
        cases hzero
      · cases h
      · cases h
  | succ n ih =>
    unfold findCommon at h
    split at h
    · rename_i hhash
      cases h
      rw [hdb.collisionFree hold hnew hhash]
      exact ⟨.nil _, .nil _⟩
    · split at h
      · rename_i oldNext newNext hm hp hq
        cases hm
        obtain ⟨⟨common', oldRest, newRest⟩, hrec, h⟩ := bind_eq_ok.mp h
        cases h
        obtain ⟨hpath, hpath'⟩ := ih (hdb.parent_stored hp) (hdb.parent_stored hq) hrec
        exact ⟨.cons hp hpath, .cons hq hpath'⟩
      · cases h
      · cases h

/-- **What `reorg` finds**: the paths from both blocks to a common ancestor. -/
theorem findFork_path (hdb : bc.Database)
    {oldChain newChain : List Block} (hold : bc.Stored oldBlock) (hnew : bc.Stored newBlock)
    (h : bc.findFork oldBlock newBlock = .ok (common, oldChain, newChain)) :
    Path bc.parent oldBlock oldChain common ∧ Path bc.parent newBlock newChain common := by
  unfold findFork at h
  split at h
  · split at h
    · cases h
    · rename_i oldBlock' oldTop hreduce
      obtain ⟨⟨common', oldChain', newChain'⟩, hcommon, h⟩ := bind_eq_ok.mp h
      cases h
      have htop := reduce_path hreduce
      obtain ⟨hpath, hpath'⟩ :=
        findCommon_path hdb (hdb.ancestor_stored htop.bottom hold) hnew hcommon
      exact ⟨htop.append hpath, hpath'⟩
  · split at h
    · cases h
    · rename_i newBlock' newTop hreduce
      obtain ⟨⟨common', oldChain', newChain'⟩, hcommon, h⟩ := bind_eq_ok.mp h
      cases h
      have htop := reduce_path hreduce
      obtain ⟨hpath, hpath'⟩ :=
        findCommon_path hdb hold (hdb.ancestor_stored htop.bottom hnew) hcommon
      exact ⟨hpath, htop.append hpath'⟩

/-! ### What is left of the map -/

/-- The deletion loop, on a map without gaps from `start` up to `top`: everything from
`start` on is deleted. -/
lemma deleteMarkers_lookup {fuel start top : Nat} (hfuel : top + 1 ≤ start + fuel)
    (hpresent : ∀ i, start ≤ i → i ≤ top → (m.lookup i).getD zeroHash ≠ zeroHash)
    (habsent : ∀ i, start ≤ i → top < i → m.lookup i = none) (i : Nat) :
    (deleteMarkers fuel m start).lookup i = if start ≤ i then none else m.lookup i := by
  induction fuel generalizing start m with
  | zero =>
    rw [deleteMarkers]
    by_cases hi : start ≤ i
    · rw [if_pos hi, habsent i hi (by omega)]
    · rw [if_neg hi]
  | succ _ ih =>
    rw [deleteMarkers]
    by_cases htop : start ≤ top
    · rw [if_neg (hpresent start le_rfl htop), ih (by omega)]
      · rw [lookup_erase_eq]
        by_cases hi : start ≤ i
        · rw [if_pos hi]
          by_cases heq : i = start
          · rw [if_neg (by omega), if_pos heq]
          · rw [if_pos (by omega)]
        · rw [if_neg hi, if_neg (by omega), if_neg (by omega)]
      · intro j hj hjtop
        rw [lookup_erase_eq, if_neg (by omega)]
        exact hpresent j (by omega) hjtop
      · intro j hj hjtop
        rw [lookup_erase_eq, if_neg (by omega)]
        exact habsent j (by omega) hjtop
    · rw [if_pos (by rw [habsent start le_rfl (by omega)]; rfl)]
      by_cases hi : start ≤ i
      · rw [if_pos hi, habsent i hi (by omega)]
      · rw [if_neg hi]

lemma top_le_card {start top : Nat}
    (hpresent : ∀ i, start ≤ i → i ≤ top → (m.lookup i).getD zeroHash ≠ zeroHash) :
    top + 1 ≤ start + m.keys.card := by
  have hsub : Finset.Icc start top ⊆ m.keys := by
    intro i hi
    rw [Finset.mem_Icc] at hi
    rw [Finmap.mem_keys, ← Finmap.lookup_isSome]
    cases hlookup : m.lookup i with
    | none => exact absurd (by rw [hlookup]; rfl) (hpresent i hi.1 hi.2)
    | some => rfl
  have hcard := Finset.card_le_card hsub
  rw [Nat.card_Icc] at hcard
  omega

/-- Writing blocks one above the other only touches the map, the head, and their numbers. -/
lemma writeHeadBlocks_frame (bc : BlockChain) (chain : List Block) :
    (chain.foldr (fun block bc => bc.writeHeadBlock block) bc).blocks = bc.blocks ∧
      (chain.foldr (fun block bc => bc.writeHeadBlock block) bc).tds = bc.tds := by
  induction chain with
  | nil => exact ⟨rfl, rfl⟩
  | cons _ _ ih => exact ih

lemma writeHeadBlocks_lookup (bc : BlockChain) (chain : List Block) (i : Nat) :
    (chain.foldr (fun block bc => bc.writeHeadBlock block) bc).canonical.lookup i =
      match chain.find? (fun block => block.number == i) with
      | some block => some block.hash
      | none => bc.canonical.lookup i := by
  induction chain with
  | nil => rfl
  | cons block _ ih =>
    rw [foldr_cons, writeHeadBlock, lookup_insert_eq, find?_cons]
    by_cases hi : i = block.number
    · rw [if_pos hi, beq_iff_eq.mpr hi.symm]
    · rw [if_neg hi, beq_false_of_ne (Ne.symm hi), ih]

lemma adopt_frame (bc : BlockChain) (common : Block) (newChain : List Block) :
    (bc.adopt common newChain).blocks = bc.blocks ∧ (bc.adopt common newChain).tds = bc.tds :=
  writeHeadBlocks_frame bc newChain.tail

/-- The markers up to the new head's parent (or up to the new head, if it is on the old
chain) are those of its ancestors, and the rest is gone. -/
lemma adopt_lookup (hdb : bc.Database) {low : Block} {rest : List Block}
    (hold : bc.Stored oldBlock) (hindex : bc.Index bc.canonical oldBlock)
    (hcommon : Ancestor bc.parent common oldBlock) (hlow : Path bc.parent low rest common)
    {canonical : Map Nat Hash} (hcanonical : canonical = deleteMarkers
      (rest.foldr (fun block bc => bc.writeHeadBlock block) bc).canonical.keys.card
      (rest.foldr (fun block bc => bc.writeHeadBlock block) bc).canonical (low.number + 1)) :
    bc.Index canonical low := by
  have hupper : ∀ i, low.number + 1 ≤ i →
      (rest.foldr (fun block bc => bc.writeHeadBlock block) bc).canonical.lookup i =
        bc.canonical.lookup i := by
    intro i hi
    rw [writeHeadBlocks_lookup]
    cases hfind : rest.find? (fun block => block.number == i) with
    | none => rfl
    | some block =>
      have hnumber : block.number = i := by simpa using find?_some hfind
      have hle := (hlow.ancestor_iff.mpr (.inl (mem_of_find?_eq_some hfind))).height_le
        hdb.graded
      omega
  have hpresent : ∀ i, low.number + 1 ≤ i → i ≤ oldBlock.number →
      ((rest.foldr (fun block bc => bc.writeHeadBlock block) bc).canonical.lookup i).getD zeroHash ≠
        zeroHash := by
    intro i hi hle
    obtain ⟨block, hanc, rfl⟩ := hdb.exists_ancestor hold hle
    rw [hupper _ hi, hindex.below hanc]
    exact hdb.nonzero (hdb.ancestor_stored hanc hold)
  have habsent : ∀ i, low.number + 1 ≤ i → oldBlock.number < i →
      (rest.foldr (fun block bc => bc.writeHeadBlock block) bc).canonical.lookup i = none := by
    intro i hi hlt
    rw [hupper _ hi, hindex.above hlt]
  have hlookup := deleteMarkers_lookup (top_le_card hpresent) hpresent habsent
  subst hcanonical
  refine ⟨?_, ?_⟩
  · intro block hblock
    have hle := hblock.height_le hdb.graded
    rw [hlookup, if_neg (by omega), writeHeadBlocks_lookup]
    cases hfind : rest.find? (fun b => b.number == block.number) with
    | some found =>
      have hnumber : found.number = block.number := by simpa using find?_some hfind
      have hfound := hlow.ancestor_iff.mpr (.inl (mem_of_find?_eq_some hfind))
      rw [hfound.eq_of_height_eq hdb.graded hblock hnumber]
    | none =>
      rcases hlow.ancestor_iff.mp hblock with hmem | hanc
      · exact absurd (find?_eq_none.mp hfind block hmem) (by simp)
      · exact hindex.below (hanc.trans hcommon)
  · intro i hi
    rw [hlookup, if_pos (by omega)]

lemma Index.extend (hdb : bc.Database) {top block : Block}
    (h : bc.Index m top) (hp : bc.parent block = some top) :
    bc.Index (m.insert block.number block.hash) block := by
  have hnumber : block.number = top.number + 1 := hdb.graded _ _ hp
  refine ⟨?_, ?_⟩
  · intro b hb
    rw [lookup_insert_eq]
    rcases Tree.ancestor_iff.mp hb with rfl | ⟨q, hq, hanc⟩
    · rw [if_pos rfl]
    · obtain rfl : q = top := some.inj (hq.symm.trans hp)
      have := hanc.height_le hdb.graded
      rw [if_neg (by omega)]
      exact h.below hanc
  · intro i hi
    rw [lookup_insert_eq, if_neg (by omega)]
    exact h.above (by omega)

lemma Index.rewrite {top : Block} (h : bc.Index m top) :
    bc.Index (m.insert top.number top.hash) top := by
  refine ⟨?_, ?_⟩
  · intro b hb
    rw [lookup_insert_eq]
    by_cases hnumber : b.number = top.number
    · rw [if_pos hnumber, ← h.below hb, hnumber]
      exact (h.below (refl top)).symm
    · rw [if_neg hnumber]
      exact h.below hb
  · intro i hi
    rw [lookup_insert_eq, if_neg (by omega)]
    exact h.above hi

/-- **What `reorg` leaves**, once the new head is written: the path to the new head. -/
theorem adopt_index (hdb : bc.Database) {newChain : List Block} (hold : bc.Stored oldBlock)
    (hindex : bc.Index bc.canonical oldBlock) (hcommon : Ancestor bc.parent common oldBlock)
    (hnew : Path bc.parent newBlock newChain common) :
    bc.Index ((bc.adopt common newChain).canonical.insert newBlock.number newBlock.hash)
      newBlock := by
  cases hnew with
  | nil => exact (adopt_lookup hdb hold hindex hcommon (.nil _) rfl).rewrite
  | @cons _ next _ rest hp hrest =>
    have hlow : bc.Index (bc.adopt common (newBlock :: rest)).canonical next := by
      refine adopt_lookup hdb hold hindex hcommon hrest ?_
      cases hrest with
      | nil => rfl
      | cons => rfl
    exact hlow.extend hdb hp

end Reorg

/-! ### Setting the head -/

section SetHead

variable {bc bc' : BlockChain} {node : Node}

lemma parent_congr (h : bc'.blocks = bc.blocks) : bc'.parent = bc.parent := by
  funext block
  unfold parent getBlock
  rw [h]

lemma Database.congr (hdb : bc.Database) (hblocks : bc'.blocks = bc.blocks)
    (htds : bc'.tds = bc.tds) : bc'.Database := by
  obtain ⟨blocks, tds, canonical, head⟩ := bc
  obtain ⟨blocks', tds', canonical', head'⟩ := bc'
  cases hblocks
  cases htds
  exact ⟨hdb.keyed, hdb.nonzero, hdb.collisionFree, hdb.rooted, hdb.weighed, hdb.cumulative,
    hdb.tdStored⟩

lemma Index.congr {top : Block} (h : bc.Index m top)
    (hblocks : bc'.blocks = bc.blocks) : bc'.Index m top := by
  refine ⟨?_, h.above⟩
  rw [parent_congr hblocks]
  exact h.below

/-- The new head branches off the old one, and while the old one is an authority block, no
further down than the cap. -/
def Branches (node : Node) (bc : BlockChain) (block : Block) : Prop :=
  ∃ common, Ancestor bc.parent common bc.currentBlock ∧ Ancestor bc.parent common block ∧
    (0 < node.maxReorgDepth → node.config.isPosa bc.currentBlock.number = true →
      (bc.currentBlock.number : Int) ≤ common.number + node.maxReorgDepth)

lemma reorg_ok (h : bc.reorg node oldBlock newBlock = .ok bc') :
    ∃ common oldChain newChain, bc.findFork oldBlock newBlock = .ok (common, oldChain, newChain) ∧
      bc' = bc.adopt common newChain ∧
      (0 < node.maxReorgDepth → (∀ b ∈ oldChain.head?, node.config.isPosa b.number = true) →
        (oldChain.length : Int) ≤ node.maxReorgDepth) := by
  obtain ⟨⟨common, oldChain, newChain⟩, hfork, h⟩ := bind_eq_ok.mp h
  refine ⟨common, oldChain, newChain, hfork, ?_⟩
  cases oldChain with
  | nil =>
    cases h
    refine ⟨rfl, fun hpos _ => ?_⟩
    simpa using hpos.le
  | cons dropped rest =>
    dsimp only at h
    split at h
    · cases h
    · rename_i hcap
      cases h
      refine ⟨rfl, fun hpos hposa => ?_⟩
      by_contra hdeep
      exact hcap ⟨hpos, Int.not_le.mp hdeep, hposa dropped rfl⟩

/-- **Setting the head.** Whatever the old head was, a stored child of a stored block
becomes the head of a well-formed chain over the same database. -/
theorem setHead_spec (hwf : bc.WellFormed) {block : Block} (hblock : bc.Stored block)
    (hparent : ∃ p, bc.parent block = some p) (h : bc.setHead node block = .ok bc') :
    bc'.WellFormed ∧ bc'.currentBlock = block ∧ bc'.blocks = bc.blocks ∧ bc'.tds = bc.tds ∧
      Branches node bc block := by
  have hdb := hwf.toDatabase
  unfold setHead at h
  split at h
  · rename_i hhash
    cases h
    obtain ⟨p, hp⟩ := hparent
    have hchild := hdb.parent_eq_of_parentHash hblock (parent_eq_some_iff.mp hp).1 hwf.headStored
      hhash
    refine ⟨⟨hdb.congr rfl rfl, hblock, (hwf.index.extend hdb hchild).congr rfl⟩, rfl, rfl, rfl, ?_⟩
    refine ⟨bc.currentBlock, refl _, of_parent hchild, ?_⟩
    intro hpos _
    omega
  · obtain ⟨reorged, hreorg, h⟩ := bind_eq_ok.mp h
    cases h
    obtain ⟨common, oldChain, newChain, hfork, rfl, hcap⟩ := reorg_ok hreorg
    obtain ⟨hold, hnew⟩ := findFork_path hdb hwf.headStored hblock hfork
    obtain ⟨hblocks, htds⟩ := adopt_frame bc common newChain
    have hindex := adopt_index hdb hwf.headStored hwf.index hold.bottom hnew
    refine ⟨⟨hdb.congr hblocks htds, ?_, hindex.congr hblocks⟩, rfl, hblocks, htds, common,
      hold.bottom, hnew.bottom, ?_⟩
    · show (bc.adopt common newChain).blocks.lookup _ = _
      rw [hblocks]
      exact hblock
    · intro hpos hposa
      have hheight := hold.height_eq hdb.graded
      have hlen : (oldChain.length : Int) ≤ node.maxReorgDepth := by
        refine hcap hpos fun b hb => ?_
        cases hold with
        | nil => cases hb
        | cons =>
          cases hb
          exact hposa
      omega

end SetHead

/-! ### Storing a block -/

variable {bc stored : BlockChain} {block : Block}

/-- The block may be written: its hash is not zero and nobody else's. -/
def Writable (bc : BlockChain) (block : Block) : Prop :=
  block.hash ≠ zeroHash ∧ ∀ b, bc.Stored b → b.hash = block.hash → b = block

lemma writeBlockWithState_ok (h : bc.writeBlockWithState block = .ok stored) :
    ∃ ptd, bc.parentTd block = some ptd ∧ stored = { bc with
        blocks := bc.blocks.insert (block.hash, block.number) block
        tds := bc.tds.insert (block.hash, block.number) (block.difficulty + ptd) } := by
  unfold writeBlockWithState at h
  split at h
  · cases h
  · rename_i ptd hptd
    cases h
    exact ⟨ptd, hptd, rfl⟩

lemma getBlock_store (h : bc.writeBlockWithState block = .ok stored) (hash : Hash)
    (number : Nat) : stored.getBlock hash number =
      if (hash, number) = (block.hash, block.number) then some block
      else bc.getBlock hash number := by
  obtain ⟨ptd, -, rfl⟩ := writeBlockWithState_ok h
  exact lookup_insert_eq _ _ _ _

section

variable (hdb : bc.Database)
include hdb

section

variable (hw : bc.Writable block)
include hw

section

variable (h : bc.writeBlockWithState block = .ok stored)
include h

lemma getBlock_store_of_some
 {hash : Hash} {number : Nat}
    (hb : bc.getBlock hash number = some b) : stored.getBlock hash number = some b := by
  rw [getBlock_store h]
  by_cases hkey : (hash, number) = (block.hash, block.number)
  · rw [if_pos hkey, hw.2 b (hdb.stored_of_getBlock hb)
      ((hdb.keyed hb).1.trans (Prod.mk.inj hkey).1)]
  · rw [if_neg hkey, hb]

lemma stored_store_iff : stored.Stored b ↔ bc.Stored b ∨ b = block := by
  constructor
  · intro hb
    unfold Stored at hb
    rw [getBlock_store h] at hb
    split at hb
    · exact .inr (some.inj hb).symm
    · exact .inl hb
  · intro hb
    rcases hb with hb | rfl
    · exact getBlock_store_of_some hdb hw h hb
    · unfold Stored
      rw [getBlock_store h, if_pos rfl]

lemma parent_store (hb : bc.Stored b) : stored.parent b = bc.parent b := by
  cases hp : bc.parent b with
  | some =>
    obtain ⟨hpos, hget⟩ := parent_eq_some_iff.mp hp
    exact parent_eq_some_iff.mpr ⟨hpos, getBlock_store_of_some hdb hw h hget⟩
  | none =>
    by_cases hpos : 0 < b.number
    · obtain ⟨p, hp'⟩ := hdb.rooted hb hpos
      rw [hp] at hp'
      cases hp'
    · obtain hzero : b.number = 0 := by omega
      unfold parent
      rw [hzero]

lemma parent_of_store :
    ∃ p, bc.Stored p ∧ bc.parent block = some p ∧ stored.parent block = some p ∧
      ∃ ptd, bc.getTd p = some ptd ∧ stored.getTd block = some (block.difficulty + ptd) := by
  obtain ⟨ptd, hptd, hstored⟩ := writeBlockWithState_ok h
  unfold parentTd at hptd
  cases hnumber : block.number with
  | zero => rw [hnumber] at hptd; cases hptd
  | succ n =>
    rw [hnumber] at hptd
    obtain ⟨p, hp⟩ := hdb.tdStored hptd
    obtain ⟨hphash, hpnumber⟩ := hdb.keyed hp
    have hparent : bc.parent block = some p := by
      rw [parent_eq_some_iff, hnumber]
      exact ⟨Nat.succ_pos n, hp⟩
    refine ⟨p, hdb.stored_of_getBlock hp, hparent, ?_, ptd, ?_, ?_⟩
    · rw [parent_eq_some_iff] at hparent ⊢
      exact ⟨hparent.1, getBlock_store_of_some hdb hw h hparent.2⟩
    · rw [getTd, hphash, hpnumber]
      exact hptd
    · rw [hstored]
      exact (lookup_insert_eq _ _ _ _).trans (if_pos rfl)

lemma getTd_store (hb : bc.Stored b) : stored.getTd b = bc.getTd b := by
  by_cases hkey : (b.hash, b.number) = (block.hash, block.number)
  · obtain rfl := hw.2 b hb (Prod.mk.inj hkey).1
    obtain ⟨p, -, hp, -, ptd, hptd, htd⟩ := parent_of_store hdb hw h
    rw [htd, hdb.cumulative hb hp hptd]
  · obtain ⟨ptd, -, rfl⟩ := writeBlockWithState_ok h
    exact (lookup_insert_eq _ _ _ _).trans (if_neg hkey)

lemma Database.store : stored.Database := by
  have hstored : ∀ {b}, stored.Stored b → bc.Stored b ∨ b = block := (stored_store_iff hdb hw h).mp
  obtain ⟨p, hp, -, hparent, ptd, hptd, htd⟩ := parent_of_store hdb hw h
  refine ⟨?_, ?_, ?_, ?_, ?_, ?_, ?_⟩
  · intro hash number b hb
    rw [getBlock_store h] at hb
    split at hb
    · rename_i hkey
      cases hb
      exact ⟨(Prod.mk.inj hkey).1.symm, (Prod.mk.inj hkey).2.symm⟩
    · exact hdb.keyed hb
  · intro b hb
    rcases hstored hb with hb | rfl
    · exact hdb.nonzero hb
    · exact hw.1
  · intro a b ha hb hhash
    rcases hstored ha with ha | rfl <;> rcases hstored hb with hb | rfl
    · exact hdb.collisionFree ha hb hhash
    · exact hw.2 a ha hhash
    · exact (hw.2 b hb hhash.symm).symm
    · rfl
  · intro b hb hpos
    rcases hstored hb with hb | rfl
    · rw [parent_store hdb hw h hb]
      exact hdb.rooted hb hpos
    · exact ⟨p, hparent⟩
  · intro b hb
    rcases hstored hb with hb | rfl
    · rw [getTd_store hdb hw h hb]
      exact hdb.weighed hb
    · exact ⟨_, htd⟩
  · intro b q td hb hq hqtd
    rcases hstored hb with hb | rfl
    · rw [parent_store hdb hw h hb] at hq
      rw [getTd_store hdb hw h (hdb.parent_stored hq)] at hqtd
      rw [getTd_store hdb hw h hb]
      exact hdb.cumulative hb hq hqtd
    · obtain rfl : q = p := some.inj (hq.symm.trans hparent)
      rw [getTd_store hdb hw h hp, hptd] at hqtd
      cases hqtd
      exact htd
  · intro hash number td htds
    rw [getBlock_store h]
    by_cases hkey : (hash, number) = (block.hash, block.number)
    · exact ⟨block, if_pos hkey⟩
    · rw [if_neg hkey]
      obtain ⟨_, -, rfl⟩ := writeBlockWithState_ok h
      exact hdb.tdStored (((lookup_insert_eq _ _ _ _).trans (if_neg hkey)).symm.trans htds)

lemma ancestor_store_iff
 {a : Block} (hb : bc.Stored b) : Ancestor stored.parent a b ↔ Ancestor bc.parent a b := by
  constructor
  · intro hab
    obtain ⟨k, hk⟩ := hab
    refine ⟨k, ?_⟩
    induction k generalizing b with
    | zero => exact hk
    | succ _ ih =>
      obtain ⟨p, hp, hback⟩ := back_succ_iff.mp hk
      rw [parent_store hdb hw h hb] at hp
      exact back_succ_iff.mpr ⟨p, hp, ih (hdb.parent_stored hp) hback⟩
  · refine mono ?_
    intro c p hp
    obtain ⟨hpos, hget⟩ := parent_eq_some_iff.mp hp
    exact parent_eq_some_iff.mpr ⟨hpos, getBlock_store_of_some hdb hw h hget⟩

end

end

end

/-- **Storing a block** leaves a well-formed chain with the same head and the same map. -/
theorem WellFormed.store (hwf : bc.WellFormed) (hw : bc.Writable block)
    (h : bc.writeBlockWithState block = .ok stored) :
    stored.WellFormed ∧ stored.currentBlock = bc.currentBlock ∧
      stored.canonical = bc.canonical := by
  have hdb := hwf.toDatabase
  have hframe : stored.currentBlock = bc.currentBlock ∧ stored.canonical = bc.canonical := by
    obtain ⟨_, -, rfl⟩ := writeBlockWithState_ok h
    exact ⟨rfl, rfl⟩
  refine ⟨⟨hdb.store hw h, ?_, ?_⟩, hframe⟩
  · rw [hframe.1]
    exact (stored_store_iff hdb hw h).mpr (.inl hwf.headStored)
  · rw [hframe.1, hframe.2]
    refine ⟨?_, hwf.index.above⟩
    intro b hb
    exact hwf.index.below ((ancestor_store_iff hdb hw h hwf.headStored).mp hb)

end BlockChain

end Ferminux.Core
