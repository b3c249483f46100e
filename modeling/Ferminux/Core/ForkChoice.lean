import Ferminux.Consensus.Types
import Mathlib.Data.Prod.Lex

/-!
# Core.ForkChoice

The **fork choice** (`core/forkchoice.go`): total difficulty decides between heads of
the same kind, and an authority head dominates a proof-of-work head.

Of a block only what the choice and the chain indexes depend on is kept: its hash, its
parent's hash, its number and its difficulty. The draw of the random generator is an
argument.
-/

namespace Ferminux.Core

/-- The parts of `types.Block` (and of its header) the chain indexes depend on. -/
structure Block where
  hash : Hash
  parentHash : Hash
  number : Nat
  difficulty : Nat
  deriving DecidableEq

inductive Err
  /-- "missing td" -/
  | missingTd
  /-- "unknown ancestor" (`consensus.ErrUnknownAncestor`) -/
  | errUnknownAncestor
  /-- "invalid old chain" -/
  | invalidOldChain
  /-- "invalid new chain" -/
  | invalidNewChain
  /-- "refusing chain reorg of depth %d (> Ferminux cap %d) from common block %d; restart
  with --ferminux.allowdeepreorg to accept" -/
  | refusedReorg (depth : Nat) (cap : Int) (common : Nat)
  deriving DecidableEq

/-- `ForkChoice`, without the generator: the chain's configuration and the helper by which
a miner prefers its own blocks (never, if there is none). -/
structure ForkChoice where
  config : ChainConfig
  preserve : Block → Bool

namespace ForkChoice

/-- The choice between two heads of the same kind, by their total difficulties. The lower
head wins a tie; on a tie at the same number the local block is preserved or a coin is
tossed. -/
def heavier (f : ForkChoice) (coin : Bool) (current header : Block) (localTD externTd : Nat) :
    Bool :=
  if localTD < externTd then true
  else if externTd = localTD then
    if header.number < current.number then true
    else if header.number = current.number then
      !f.preserve current && (f.preserve header || coin)
    else false
  else false

/-- `ReorgNeeded`: whether the reorg should be applied, based on the given external header
and the local canonical chain. -/
def reorgNeeded (f : ForkChoice) (getTd : Block → Option Nat) (coin : Bool)
    (current header : Block) : Except Err Bool :=
  match getTd current, getTd header with
  | some localTD, some externTd =>
    -- the external fork choice, once the transition is triggered
    if f.config.terminalTotalDifficulty.any (· ≤ externTd) then .ok true
    -- the authority chain dominates proof of work
    else if f.config.posaBlock.isSome ∧
        f.config.isPosa current.number ≠ f.config.isPosa header.number then
      .ok (f.config.isPosa header.number)
    else .ok (f.heavier coin current header localTD externTd)
  | _, _ => .error .missingTd

end ForkChoice

/-- Heads are ranked by kind first and by total difficulty second. -/
def rank (config : ChainConfig) (number td : Nat) : Bool ×ₗ Nat := toLex (config.isPosa number, td)

lemma isPosa_mono (config : ChainConfig) {m n : Nat} (h : m ≤ n)
    (hm : config.isPosa m = true) : config.isPosa n = true := by
  unfold ChainConfig.isPosa isForked at hm ⊢
  cases hfork : config.posaBlock with
  | none => rw [hfork] at hm; cases hm
  | some =>
    rw [hfork] at hm
    simp only [decide_eq_true_eq] at hm ⊢
    omega

lemma rank_mono {config : ChainConfig} {m n td td' : Nat} (hn : m ≤ n) (htd : td ≤ td') :
    rank config m td ≤ rank config n td' := by
  unfold rank
  rw [Prod.Lex.toLex_le_toLex]
  cases hm : config.isPosa m with
  | true =>
    rw [isPosa_mono config hn hm]
    exact .inr ⟨rfl, htd⟩
  | false =>
    cases config.isPosa n with
    | true => exact .inl Bool.false_lt_true
    | false => exact .inr ⟨rfl, htd⟩

/-- **The fork choice only climbs.** With the transition unset, a head it adopts ranks at
least as high as the one it abandons. -/
theorem ForkChoice.rank_le_of_reorgNeeded {f : ForkChoice} {getTd : Block → Option Nat}
    {coin : Bool} {current header : Block} (httd : f.config.terminalTotalDifficulty = none)
    (h : f.reorgNeeded getTd coin current header = .ok true) :
    ∃ localTD externTd, getTd current = some localTD ∧ getTd header = some externTd ∧
      rank f.config current.number localTD ≤ rank f.config header.number externTd := by
  unfold reorgNeeded at h
  cases hlocal : getTd current with
  | none => rw [hlocal] at h; cases h
  | some localTD =>
    cases hextern : getTd header with
    | none => rw [hlocal, hextern] at h; cases h
    | some externTd =>
      rw [hlocal, hextern] at h
      refine ⟨localTD, externTd, rfl, rfl, ?_⟩
      simp only [httd, Option.any_none, Bool.false_eq_true, if_false] at h
      unfold rank
      rw [Prod.Lex.toLex_le_toLex]
      by_cases hkind : f.config.isPosa current.number = f.config.isPosa header.number
      · rw [if_neg (by simp [hkind])] at h
        refine .inr ⟨hkind, ?_⟩
        unfold heavier at h
        show localTD ≤ externTd
        by_cases hlt : localTD < externTd
        · omega
        · by_cases heq : externTd = localTD
          · omega
          · simp [hlt, heq] at h
      · -- kinds only differ where a fork block is set
        have hset : f.config.posaBlock.isSome = true := by
          cases hfork : f.config.posaBlock with
          | none => simp [ChainConfig.isPosa, isForked, hfork] at hkind
          | some => rfl
        rw [if_pos ⟨hset, hkind⟩] at h
        have hheader : f.config.isPosa header.number = true := by simpa using h
        rw [hheader] at hkind ⊢
        rw [Bool.eq_false_of_not_eq_true hkind]
        exact .inl Bool.false_lt_true

end Ferminux.Core
