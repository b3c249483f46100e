import Ferminux.Lib.Calls
import Ferminux.Lib.Indexed
import Mathlib.Data.Prod.Lex

/-!
# Staking.NodeRegistry

`NodeRegistry.sol`: **nodes bonded by positions** of the staking vault, and the ranking of the
validators; the epochs of the watchtower, which **anyone may finalise in any order**. What else
happens in the vault (stakes, exits, slashes) gives it other positions, of the same tiers.
-/

namespace Ferminux.Staking

open Function Lib

abbrev Address := BitVec 160

/-- The tiers of a stake, as the vault numbers them. -/
inductive Tier where
  | Flexible | Locked90 | Locked180 | Validator
  deriving DecidableEq

/-- How far a stake is on its way out. -/
inductive PositionState where
  | Active | Cooldown | Withdrawn
  deriving DecidableEq

/-- A stake in the vault, with what the registry reads of it. -/
structure Position where
  owner : Address
  tier : Tier
  state : PositionState
  amount : Nat

/-- A registered node. Its record stays when it is deregistered. -/
structure Node where
  operator : Address := 0
  consensusAddr : Address := 0
  nodeAddress : Address := 0
  active : Bool := false
  positionId : Nat := 0

/-- What was posted for a day of uptime scores. -/
structure Epoch where
  postedAt : Nat := 0
  voided : Bool := false
  finalized : Bool := false

/-- What the epochs have brought a node. -/
@[ext] structure Record where
  nodeScore : Nat → Nat := fun _ => 0
  lastSeen : Nat := 0
  lastUptimeBps : Nat := 0
  appliedEpochPlus1 : Nat := 0

/-- What a finalisation writes, the boosts of the vault among it. -/
structure Oracle where
  epochs : Nat → Epoch := fun _ => {}
  /-- `none` without `hasFinalizedEpoch`. -/
  latestFinalizedEpoch : Option Nat := none
  records : Nat → Record := fun _ => {}
  boosted : Nat → Bool := fun _ => false

/-- The registry, with the vault's positions and the oracle's books. -/
structure Registry where
  /-- Of the vault. -/
  positions : List Position := []
  nodeCount : Nat := 0
  activeNodeIds : List Nat := []
  activeIndexPlus1 : Nat → Nat := fun _ => 0
  nodes : Nat → Node := fun _ => {}
  nodeIdByNodeAddress : Address → Nat := fun _ => 0
  nodeIdByConsensusAddr : Address → Nat := fun _ => 0
  nodeIdByPosition : Nat → Nat := fun _ => 0
  /-- The node ids of an epoch with their scores. -/
  epochScores : Nat → List (Nat × Nat) := fun _ => []
  oracle : Oracle := {}

/-- A call: it reverts with a reason, or leaves a new state. -/
abbrev RegistryM := StateT Registry (Except String)

/-- The minimum of the vault, the hash of a key, and the signer of a registration. -/
structure Deployment where
  minBond : Nat
  addressOf : List UInt8 → Address
  recover : Address → Address → Nat → List UInt8 → Address

def EPOCH_LENGTH : Nat := 86400
def DISPUTE_WINDOW : Nat := 7 * 86400
def BOOST_THRESHOLD_BPS : Nat := 9500
def QUAL_WINDOW : Nat := 90
def QUAL_THRESHOLD_BPS : Nat := 9500
def MAX_VALIDATORS : Nat := 21

/-- `StakingVault.getPosition` -/
def Registry.getPosition (s : Registry) (positionId : Nat) : Except String Position :=
  match s.positions[positionId]? with
  | some p => .ok p
  | none => .error "STK: no such position"

/-- `StakingVault.setBoost`: only an active position of the validator tier is boosted. -/
def Registry.setBoost (s : Registry) (o : Oracle) (positionId : Nat) (boosted : Bool) :
    Except String Oracle := do
  let p ← s.getPosition positionId
  require (p.tier = .Validator) "STK: not validator tier"
  return if p.state = .Active ∧ o.boosted positionId ≠ boosted then
    { o with boosted := update o.boosted positionId boosted } else o

/-- Binds a node key, which signs for it, to a position of the validator tier. -/
def registerNode (K : Deployment) (sender : Address) (pubkey : List UInt8) (consensusAddr : Address)
    (positionId : Nat) (sig : List UInt8) : RegistryM Unit := do
  require (pubkey.length = 64) "NR: pubkey must be 64 bytes"
  require (consensusAddr ≠ 0) "NR: zero consensus addr"
  let nodeAddress := K.addressOf pubkey
  let s ← get
  require (s.nodeIdByNodeAddress nodeAddress = 0) "NR: node key already registered"
  require (s.nodeIdByConsensusAddr consensusAddr = 0) "NR: consensus addr already registered"
  require (s.nodeIdByPosition positionId = 0) "NR: position already bonds a node"
  let p ← s.getPosition positionId
  require (p.owner = sender) "NR: not position owner"
  require (p.tier = .Validator) "NR: not a validator-track position"
  require (p.state = .Active) "NR: position not active"
  require (K.minBond ≤ p.amount) "NR: bond below minimum"
  let recovered := K.recover sender consensusAddr positionId sig
  require (recovered ≠ 0 ∧ recovered = nodeAddress) "NR: invalid possession signature"
  let nodeId := s.nodeCount + 1
  modify fun s => { s with
    nodeCount := nodeId
    nodes := update s.nodes nodeId ⟨sender, consensusAddr, nodeAddress, true, positionId⟩
    nodeIdByNodeAddress := update s.nodeIdByNodeAddress nodeAddress nodeId
    nodeIdByConsensusAddr := update s.nodeIdByConsensusAddr consensusAddr nodeId
    nodeIdByPosition := update s.nodeIdByPosition positionId nodeId
    activeNodeIds := s.activeNodeIds ++ [nodeId]
    activeIndexPlus1 := update s.activeIndexPlus1 nodeId (s.activeNodeIds.length + 1) }

/-- Takes the node off the active list: the last one moves into its place. -/
def deregisterNode (sender : Address) (nodeId : Nat) : RegistryM Unit := do
  let s ← get
  require (1 ≤ nodeId ∧ nodeId ≤ s.nodeCount) "NR: no such node"
  let n := s.nodes nodeId
  require (n.operator = sender) "NR: not node operator"
  require (n.active = true) "NR: node not active"
  let lastIdx := s.activeNodeIds.length - 1
  match s.activeIndexPlus1 nodeId, s.activeNodeIds[lastIdx]? with
  | idx + 1, some movedId =>
    let oracle ← s.setBoost s.oracle n.positionId false
    modify fun s => { s with
      nodes := update s.nodes nodeId { n with active := false }
      nodeIdByNodeAddress := update s.nodeIdByNodeAddress n.nodeAddress 0
      nodeIdByConsensusAddr := update s.nodeIdByConsensusAddr n.consensusAddr 0
      nodeIdByPosition := update s.nodeIdByPosition n.positionId 0
      activeNodeIds := swapPop s.activeNodeIds idx movedId
      activeIndexPlus1 := update (if idx ≠ lastIdx then update s.activeIndexPlus1 movedId (idx + 1)
        else s.activeIndexPlus1) nodeId 0
      oracle }
  | _, _ => throw "panic"

/-- The epoch is finalised, and the latest one if no later one is. -/
def Oracle.finalize (o : Oracle) (epoch : Nat) : Oracle :=
  { o with
    epochs := update o.epochs epoch { o.epochs epoch with finalized := true }
    latestFinalizedEpoch := match o.latestFinalizedEpoch with
      | some last => if last < epoch then epoch else last
      | none => epoch }

/-- The score of one epoch goes into a node's record. Only the newest epoch sets the uptime. -/
def Record.attest (epoch score : Nat) (r : Record) : Record :=
  let epochEnd := (epoch + 1) * EPOCH_LENGTH % UInt64.size
  let fresh := r.appliedEpochPlus1 ≤ epoch
  { nodeScore := update r.nodeScore epoch score
    lastSeen := if 0 < score ∧ r.lastSeen < epochEnd then epochEnd else r.lastSeen
    lastUptimeBps := if fresh then score else r.lastUptimeBps
    appliedEpochPlus1 := if fresh then epoch + 1 else r.appliedEpochPlus1 }

/-- A turn of the loop of `finalizeEpoch`. -/
def Registry.attestNode (s : Registry) (epoch : Nat) (o : Oracle) (x : Nat × Nat) :
    Except String Oracle :=
  if (s.nodes x.1).active then
    let r := o.records x.1
    let o := { o with records := update o.records x.1 (r.attest epoch x.2) }
    if r.appliedEpochPlus1 ≤ epoch then
      s.setBoost o (s.nodes x.1).positionId (BOOST_THRESHOLD_BPS ≤ x.2)
    else return o
  else return o

/-- After the dispute window anyone may apply the scores of an epoch. -/
def Registry.finalizeEpoch (s : Registry) (timestamp : Nat) (o : Oracle) (epoch : Nat) :
    Except String Oracle := do
  let e := o.epochs epoch
  require (e.postedAt ≠ 0) "NR: epoch not posted"
  require (e.voided = false) "NR: epoch voided"
  require (e.finalized = false) "NR: epoch already finalized"
  require (e.postedAt + DISPUTE_WINDOW ≤ timestamp) "NR: dispute window open"
  (s.epochScores epoch).foldlM (s.attestNode epoch) (o.finalize epoch)

/-- Epochs are finalised one after the other; a call that reverts changes nothing. -/
def Registry.finalizeEpochs (s : Registry) (timestamp : Nat) (epochs : List Nat) : Oracle :=
  epochs.foldl (fun o e => (s.finalizeEpoch timestamp o e).toOption.getD o) s.oracle

/-- The calls of the two contracts. -/
inductive Call where
  | registerNode (sender : Address) (pubkey : List UInt8) (consensusAddr : Address)
      (positionId : Nat) (sig : List UInt8)
  | deregisterNode (sender : Address) (nodeId : Nat)
  /-- The vault or the watchtower goes on; epochs are posted, voided, finalised. -/
  | others (positions : List Position) (epochScores : Nat → List (Nat × Nat)) (oracle : Oracle)

/-- A call on the registry's state. -/
def perform (K : Deployment) : Call → RegistryM Unit
  | .registerNode sender pubkey consensusAddr positionId sig =>
    Staking.registerNode K sender pubkey consensusAddr positionId sig
  | .deregisterNode sender nodeId => Staking.deregisterNode sender nodeId
  | .others positions epochScores oracle => do
    require ((← get).positions.map (·.tier) <+: positions.map (·.tier)) "a tier changes"
    modify fun s => { s with positions, epochScores, oracle }

/-! ### Validators -/

/-- A bond and the id of its node: the larger bond first, ties to the lower id. -/
abbrev Candidate := Natᵒᵈ ×ₗ Nat

/-- The outer loop: the best of what is left, which the inner loop finds, changes places with
the first. -/
def select : Nat → List Candidate → List Candidate
  | k + 1, x :: rest =>
    let best := rest.foldl min x
    best :: select k (rest.replace best x)
  | _, _ => []

namespace Registry

variable (K : Deployment) (s : Registry)

/-- Registered, with an active position that still has the minimal bond. -/
def isLive (nodeId : Nat) : Except String Bool := do
  if (s.nodes nodeId).active then
    let p ← s.getPosition (s.nodes nodeId).positionId
    return p.state = .Active ∧ K.minBond ≤ p.amount
  else return false

/-- The mean score of the last 90 finalised days; a day without a score counts as 0. -/
def uptimeOver90Epochs (nodeId : Nat) : Nat :=
  match s.oracle.latestFinalizedEpoch with
  | none => 0
  | some last =>
    let start := last - (QUAL_WINDOW - 1)
    ((List.range (last + 1)).drop start).foldl (· + (s.oracle.records nodeId).nodeScore ·) 0 /
      QUAL_WINDOW

/-- Live, and up for 95% of the time. -/
def isQualified (nodeId : Nat) : Except String Bool := do
  return (← s.isLive K nodeId) && QUAL_THRESHOLD_BPS ≤ s.uptimeOver90Epochs nodeId

/-- A turn of the first loop of `getValidators`. -/
def candidate (id : Nat) : Except String (Option Candidate) := do
  if ← s.isQualified K id then
    return some (toLex (.toDual (← s.getPosition (s.nodes id).positionId).amount, id))
  else return none

/-- The best qualified nodes, by stake: their consensus addresses and stakes. -/
def getValidators : Except String (List Address × List Nat) := do
  let cands ← s.activeNodeIds.mapM (s.candidate K)
  let chosen := select MAX_VALIDATORS (cands.filterMap id)
  return (chosen.map fun x => (s.nodes (ofLex x).2).consensusAddr,
    chosen.map fun x => (ofLex x).1.ofDual)

end Registry

open Registry List

lemma Registry.getPosition_eq_ok {s : Registry} {i : Nat} {p : Position} :
    s.getPosition i = .ok p ↔ s.positions[i]? = some p := by
  unfold getPosition
  split <;> simp_all

/-! ### The bindings -/

section

variable {κ : Type} {nodes : Nat → Node} {field : Node → κ} {map : κ → Nat} {n : Node} {id : Nat}

/-- The keys that are bound, and the active nodes, **one to one**. -/
def Binds (nodes : Nat → Node) (field : Node → κ) (map : κ → Nat) : Prop :=
  ∀ k id, id ≠ 0 → (map k = id ↔ (nodes id).active ∧ field (nodes id) = k)

variable [DecidableEq κ] (h : Binds nodes field map)

include h

lemma Binds.register (hnew : (nodes id).active = false) (hfree : map (field n) = 0)
    (hn : n.active) : Binds (update nodes id n) field (update map (field n) id) := by
  intro k i hi
  have hk := h k i hi
  have hbound := h (field n) i hi
  simp only [update_apply]
  grind

lemma Binds.deregister (hid : id ≠ 0) (hactive : (nodes id).active) (hn : n.active = false) :
    Binds (update nodes id n) field (update map (field (nodes id)) 0) := by
  intro k i hi
  have hk := h k i hi
  have hbound := (h (field (nodes id)) id hid).mpr ⟨hactive, rfl⟩
  simp only [update_apply]
  grind

end

/-- The active array, its index and the three maps **agree with the active nodes**. -/
structure Sound (s : Registry) : Prop where
  indexed : Indexed s.activeNodeIds s.activeIndexPlus1
  active : ∀ id, id ∈ s.activeNodeIds ↔ (s.nodes id).active
  nodeAddress : Binds s.nodes (·.nodeAddress) s.nodeIdByNodeAddress
  consensusAddr : Binds s.nodes (·.consensusAddr) s.nodeIdByConsensusAddr
  position : Binds s.nodes (·.positionId) s.nodeIdByPosition
  known : ∀ id, (s.nodes id).active →
    1 ≤ id ∧ id ≤ s.nodeCount ∧
      (s.positions.map (·.tier))[(s.nodes id).positionId]? = some .Validator

namespace Sound

variable {s : Registry} {K : Deployment} {sender : Address}

lemma bond (h : Sound s) {id : Nat} (hid : (s.nodes id).active) :
    ∃ p, s.positions[(s.nodes id).positionId]? = some p ∧ p.tier = .Validator := by
  simpa using (h.known id hid).2.2

lemma init : Sound {} := by
  refine ⟨Indexed.nil, by simp, ?_, ?_, ?_, by simp⟩ <;>
  · intro k id hid
    simp [Ne.symm hid]

lemma registerNode (h : Sound s) {pubkey sig : List UInt8} {a : Address} {positionId : Nat} :
    Post (registerNode K sender pubkey a positionId sig) (fun _ => Sound) s := by
  simp only [Staking.registerNode, post_steps, post_lift, require_eq_ok, forall_unit]
  intro _ _ hkey hcons hpos p hp _ htier _ _ _
  have hnew : (s.nodes (s.nodeCount + 1)).active = false := by
    by_contra hact
    have := (h.known _ (by simpa using hact)).2.1
    omega
  have hmem : s.nodeCount + 1 ∉ s.activeNodeIds := by simp [h.active, hnew]
  refine ⟨h.indexed.push hmem, fun id => ?_, h.nodeAddress.register hnew hkey rfl,
    h.consensusAddr.register hnew hcons rfl, h.position.register hnew hpos rfl, fun id => ?_⟩
  · by_cases hid : id = s.nodeCount + 1 <;> simp [h.active, hid]
  · by_cases hid : id = s.nodeCount + 1
    · simp [hid, getPosition_eq_ok.mp hp, htier]
    · simp only [update_of_ne hid]
      intro hact
      obtain ⟨hpos, hle, hbond⟩ := h.known id hact
      exact ⟨hpos, by omega, hbond⟩

lemma deregisterNode (h : Sound s) {id : Nat} :
    Post (deregisterNode sender id) (fun _ => Sound) s := by
  simp only [Staking.deregisterNode, post_steps]
  intro hid _ hactive
  have hne : id ≠ 0 := by omega
  split
  · next idx movedId hindex hlast =>
    simp only [post_steps, post_lift]
    intro _ _
    refine ⟨h.indexed.swapPop hindex hlast, fun i => ?_, h.nodeAddress.deregister hne hactive rfl,
      h.consensusAddr.deregister hne hactive rfl, h.position.deregister hne hactive rfl, ?_⟩
    · rw [h.indexed.mem_swapPop hindex hlast, h.active]
      by_cases hi : i = id <;> simp [hi]
    · intro i
      by_cases hi : i = id
      · simp [hi]
      · simpa only [update_of_ne hi] using h.known i
  · exact post_throw.mpr trivial

lemma perform (h : Sound s) (call : Call) : Post (perform K call) (fun _ => Sound) s := by
  cases call with
  | registerNode => exact h.registerNode
  | deregisterNode => exact h.deregisterNode
  | others =>
    simp only [Staking.perform, post_steps]
    rintro ⟨rest, hrest⟩
    refine { h with known := fun id hid => ?_ }
    obtain ⟨hpos, hle, hbond⟩ := h.known id hid
    obtain ⟨hlt, -⟩ := List.getElem?_eq_some_iff.mp hbond
    exact ⟨hpos, hle, by rw [← hrest, getElem?_append_left hlt, hbond]⟩

end Sound

/-! ### The selection -/

section

variable {x : Candidate} {rest : List Candidate}

lemma replace_perm {b : Candidate} (h : b ∈ x :: rest) :
    (b :: rest.replace b x).Perm (x :: rest) := by
  induction rest with
  | nil => simp_all
  | cons z rest ih =>
    rw [replace_cons]
    split
    · next hz =>
      rw [eq_of_beq hz]
      exact .swap ..
    · next hz =>
      have hmem : b ∈ x :: rest := by grind
      exact (List.Perm.swap ..).trans (((ih hmem).cons z).trans (.swap ..))

/-- However many are chosen, they come from **one order** of the candidates. -/
lemma exists_ranked (l : List Candidate) : ∃ ranked : List Candidate,
    ranked.Perm l ∧ ranked.Pairwise (· ≤ ·) ∧ ∀ k, select k l = ranked.take k := by
  induction hn : l.length generalizing l with
  | zero =>
    obtain rfl := length_eq_zero_iff.mp hn
    exact ⟨[], .nil, .nil, fun k => by cases k <;> rfl⟩
  | succ n ih =>
    obtain ⟨x, rest, rfl⟩ := exists_cons_of_length_eq_add_one hn
    have hmin : (x :: rest).min? = some (rest.foldl min x) := min?_cons'
    obtain ⟨hbest, hle⟩ := min?_eq_some_iff.mp hmin
    have hperm := replace_perm hbest
    obtain ⟨ranked, hr, hsorted, htake⟩ := ih (rest.replace _ x) (by simpa using hn)
    refine ⟨_ :: ranked, (hr.cons _).trans hperm, .cons (fun y hy => ?_) hsorted, ?_⟩
    · exact hle y (hperm.mem_iff.mp (mem_cons_of_mem _ (hr.mem_iff.mp hy)))
    · rintro (_ | k)
      · rfl
      · rw [select, htake k, take_succ_cons]

end

/-- The key by which a node is ranked, if it is qualified. -/
def Registry.rank (K : Deployment) (s : Registry) (id : Nat) : Option Candidate := do
  let p ← s.positions[(s.nodes id).positionId]?
  if (p.state = .Active ∧ K.minBond ≤ p.amount) ∧ QUAL_THRESHOLD_BPS ≤ s.uptimeOver90Epochs id then
    some (toLex (.toDual p.amount, id)) else none

lemma Registry.id_of_rank {K : Deployment} {s : Registry} {id : Nat} {x : Candidate}
    (h : s.rank K id = some x) : (ofLex x).2 = id := by
  obtain ⟨p, -, h⟩ := Option.bind_eq_some_iff.mp h
  split at h <;> cases h
  rfl

namespace Sound

variable {s : Registry} {K : Deployment}

lemma candidate_eq (h : Sound s) {id : Nat} (hid : (s.nodes id).active) :
    s.candidate K id = .ok (s.rank K id) := by
  obtain ⟨p, hp, -⟩ := h.bond hid
  simp only [candidate, isQualified, isLive, getPosition, rank, if_pos hid, hp, bind, Except.bind,
    pure, Except.pure, Bool.and_eq_true, decide_eq_true_eq]
  exact (apply_ite Except.ok ..).symm

lemma mapM_candidate (h : Sound s) {ids : List Nat} (hids : ∀ id ∈ ids, (s.nodes id).active) :
    ids.mapM (s.candidate K) = .ok (ids.map (s.rank K)) := by
  induction ids with
  | nil => rfl
  | cons id ids ih =>
    rw [mapM_cons, h.candidate_eq (hids id mem_cons_self),
      ih fun i hi => hids i (mem_cons_of_mem id hi)]
    rfl

end Sound

lemma sound_attempts (K : Deployment) (calls : List Call) : Sound (attempts (perform K) calls {}) :=
  (attempts_rel (R := fun _ _ => True) (fun _ => trivial) (fun _ _ => trivial)
    (fun c _ _ hs => (hs.perform c).mono fun _ _ h => ⟨h, trivial⟩) Sound.init).1

/-- **The validators are canonical.** After any calls the bindings are one to one, and the answer
is read off the front of the active nodes that qualify, by bond downwards and then by id. -/
theorem getValidators_ranked (K : Deployment) (calls : List Call) :
    let s := attempts (perform K) calls {}
    Sound s ∧ ∃ ranked : List Candidate, ranked.Pairwise (· < ·) ∧
      (∀ x, x ∈ ranked ↔ ∃ id, (s.nodes id).active ∧ s.rank K id = some x) ∧
      s.getValidators K = .ok
        ((ranked.take MAX_VALIDATORS).map fun x => (s.nodes (ofLex x).2).consensusAddr,
          (ranked.take MAX_VALIDATORS).map fun x => (ofLex x).1.ofDual) := by
  intro s
  have h : Sound s := sound_attempts K calls
  obtain ⟨ranked, hperm, hsorted, htake⟩ := exists_ranked (s.activeNodeIds.filterMap (s.rank K))
  refine ⟨h, ranked, ?_, fun x => ?_, ?_⟩
  · have hnodup : ranked.Nodup := hperm.nodup_iff.mpr (h.indexed.nodup.filterMap fun i j x hi hj =>
      (id_of_rank hi).symm.trans (id_of_rank hj))
    exact (hsorted.and hnodup).imp fun hxy => lt_of_le_of_ne hxy.1 hxy.2
  · simp only [hperm.mem_iff, List.mem_filterMap, h.active]
  · rw [getValidators, h.mapM_candidate fun id hid => (h.active id).mp hid, ← htake,
      ← Function.id_comp (s.rank K), ← List.filterMap_map]
    rfl

/-! ### The order of the finalisations -/

/-- What `finalizeEpoch` requires of an epoch. -/
def Epoch.ready (e : Epoch) (timestamp : Nat) : Bool :=
  e.postedAt ≠ 0 ∧ e.voided = false ∧ e.finalized = false ∧ e.postedAt + DISPUTE_WINDOW ≤ timestamp

namespace Registry

/-- What `finalizeEpoch` does with one score. -/
def attest (s : Registry) (epoch : Nat) (o : Oracle) (x : Nat × Nat) : Oracle :=
  if (s.nodes x.1).active then
    { o with
      records := update o.records x.1 ((o.records x.1).attest epoch x.2)
      boosted := if (o.records x.1).appliedEpochPlus1 ≤ epoch ∧
          (s.positions[(s.nodes x.1).positionId]?).any (·.state = .Active) then
        update o.boosted (s.nodes x.1).positionId (BOOST_THRESHOLD_BPS ≤ x.2) else o.boosted }
  else o

/-- The books of the oracle after `finalizeEpoch`. -/
def finalized (s : Registry) (timestamp : Nat) (o : Oracle) (epoch : Nat) : Oracle :=
  if (o.epochs epoch).ready timestamp then
    (s.epochScores epoch).foldl (s.attest epoch) (o.finalize epoch)
  else o

end Registry

section

variable {s : Registry} {o : Oracle} {a b now : Nat} {x y : Nat × Nat}

lemma Record.attest_comm (hab : a ≠ b) (r : Record) (m n : Nat) :
    (r.attest a m).attest b n = (r.attest b n).attest a m := by
  ext <;>
  · simp only [Record.attest, update_apply]
    grind

lemma Oracle.finalize_comm (hab : a ≠ b) :
    (o.finalize a).finalize b = (o.finalize b).finalize a := by
  simp only [Oracle.finalize, update_of_ne hab, update_of_ne hab.symm, Oracle.mk.injEq, and_true]
  refine ⟨update_comm hab .., ?_⟩
  grind

lemma finalize_attest : (s.attest a o x).finalize b = s.attest a (o.finalize b) x := by
  unfold attest
  split <;> rfl

lemma attest_comm (h : Sound s) (hab : a ≠ b) :
    s.attest b (s.attest a o x) y = s.attest a (s.attest b o y) x := by
  unfold attest
  by_cases hx : (s.nodes x.1).active
  · by_cases hy : (s.nodes y.1).active
    · simp only [hx, hy, if_true]
      by_cases hxy : x.1 = y.1
      · -- one node: the newer epoch has the last word, in either order
        simp only [hxy, update_self, update_idem, Record.attest_comm hab, Oracle.mk.injEq, true_and]
        funext i
        simp only [Record.attest]
        grind
      · -- two nodes have two positions
        have hpos : (s.nodes x.1).positionId ≠ (s.nodes y.1).positionId := by
          intro heq
          have hx' := (h.position _ x.1 (by have := h.known _ hx; omega)).mpr ⟨hx, rfl⟩
          have hy' := (h.position _ y.1 (by have := h.known _ hy; omega)).mpr ⟨hy, rfl⟩
          exact hxy (hx'.symm.trans ((congrArg _ heq).trans hy'))
        simp only [update_of_ne hxy, update_of_ne (Ne.symm hxy), update_comm hxy, Oracle.mk.injEq,
          true_and]
        funext i
        grind
    · simp only [hy]
      rfl
  · simp only [hx]
    rfl

lemma foldl_attest_comm (h : Sound s) (hab : a ≠ b) {l l' : List (Nat × Nat)} :
    l'.foldl (s.attest b) (l.foldl (s.attest a) o) =
      l.foldl (s.attest a) (l'.foldl (s.attest b) o) := by
  refine foldl_hom (fun o => l.foldl (s.attest a) o) fun o y => ?_
  exact (foldl_hom (fun o => s.attest b o y) fun o x => (attest_comm h hab).symm).symm

lemma finalize_foldl {l : List (Nat × Nat)} :
    (l.foldl (s.attest a) o).finalize b = l.foldl (s.attest a) (o.finalize b) :=
  (foldl_hom (Oracle.finalize · b) fun _ _ => finalize_attest.symm).symm

lemma epochs_foldl {l : List (Nat × Nat)} : (l.foldl (s.attest a) o).epochs = o.epochs := by
  induction l generalizing o with
  | nil => rfl
  | cons x l ih =>
    rw [foldl_cons, ih, attest]
    split <;> rfl

lemma epochs_finalized : (s.finalized now o a).epochs b =
    if a = b ∧ (o.epochs b).ready now then { o.epochs b with finalized := true }
    else o.epochs b := by
  unfold finalized
  split
  · simp only [epochs_foldl, Oracle.finalize, update_apply]
    grind
  · grind

/-- An epoch that is due is finalised when its turn comes, and stays so. -/
lemma epochs_foldl_finalized {es : List Nat} {e : Nat}
    (he : e ∈ es ∧ (o.epochs e).ready now ∨ (o.epochs e).finalized) :
    ((es.foldl (s.finalized now) o).epochs e).finalized := by
  induction es generalizing o with
  | nil => simpa using he
  | cons e' es ih =>
    apply ih
    rw [epochs_finalized]
    grind

lemma finalized_comm (h : Sound s) (o : Oracle) (a b : Nat) :
    s.finalized now (s.finalized now o a) b = s.finalized now (s.finalized now o b) a := by
  rcases eq_or_ne a b with rfl | hab
  · rfl
  have hb : (s.finalized now o a).epochs b = o.epochs b := by simp [epochs_finalized, hab]
  have ha : (s.finalized now o b).epochs a = o.epochs a := by simp [epochs_finalized, hab.symm]
  rw [finalized, hb, finalized.eq_def (s := s) now (s.finalized now o b) a, ha]
  by_cases hra : (o.epochs a).ready now
  · by_cases hrb : (o.epochs b).ready now
    · simp only [finalized, hra, hrb, if_true]
      rw [finalize_foldl, finalize_foldl, foldl_attest_comm h hab, Oracle.finalize_comm hab]
    · simp [finalized, hrb]
  · simp [finalized, hra]

lemma getD_require {p : Prop} [Decidable p] {reason : String} {f : Unit → Except String Oracle} :
    (require p reason >>= f).toOption.getD o = if p then (f ()).toOption.getD o else o := by
  by_cases hp : p <;> simp only [require, hp, if_true, if_false] <;> rfl

variable (h : Sound s)
include h

/-- The vault does not refuse the boost of an active node. -/
lemma attestNode_eq : s.attestNode a o x = .ok (s.attest a o x) := by
  unfold attestNode attest
  split
  · next hactive =>
    obtain ⟨p, hp, ht⟩ := h.bond hactive
    simp only [setBoost, getPosition_eq_ok.mpr hp, hp, Option.any_some, require, ht, bind,
      Except.bind, pure, Except.pure, if_true]
    grind [update_eq_self]
  · rfl

lemma finalizeEpoch_eq : (s.finalizeEpoch now o a).toOption.getD o = s.finalized now o a := by
  have hturns : s.attestNode a = fun o x => pure (s.attest a o x) :=
    funext₂ fun _ _ => attestNode_eq h
  unfold finalizeEpoch finalized Epoch.ready
  simp only [hturns, foldlM_pure, getD_require, decide_eq_true_eq, ite_and]
  rfl

end

/-- **The order does not matter.** In any state that calls lead to, epochs are finalised in any
two orders at one time with the same outcome, and those that are due are finalised. -/
theorem finalizeEpochs_perm (K : Deployment) (calls : List Call) (timestamp : Nat)
    {epochs epochs' : List Nat} (hperm : epochs.Perm epochs') :
    let s := attempts (perform K) calls {}
    s.finalizeEpochs timestamp epochs = s.finalizeEpochs timestamp epochs' ∧
      ∀ e ∈ epochs, (s.oracle.epochs e).ready timestamp →
        ((s.finalizeEpochs timestamp epochs).epochs e).finalized := by
  intro s
  have h : Sound s := sound_attempts K calls
  have hcall : (fun o e => (s.finalizeEpoch timestamp o e).toOption.getD o) =
      s.finalized timestamp := funext₂ fun _ _ => finalizeEpoch_eq h
  simp only [finalizeEpochs, hcall]
  refine ⟨?_, fun e he hr => epochs_foldl_finalized (.inl ⟨he, hr⟩)⟩
  exact hperm.foldl_eq' (fun a _ b _ o => finalized_comm h o a b) _

def sampleDeployment : Deployment := ⟨5, fun _ => 1, fun _ _ _ _ => 1⟩

/-- A node on the only position, with a bad epoch and a good one that are due. -/
def sampleCalls : List Call :=
  [.others [⟨3, .Validator, .Active, 5⟩] (fun e => [(1, if e = 2 then 9600 else 9000)])
    { epochs := fun _ => { postedAt := 1 } },
    .registerNode 3 (replicate 64 0) 2 0 []]

/-- Two posted epochs, finalised in either order. -/
theorem finalizeEpochs_perm_posted : let s := attempts (perform sampleDeployment) sampleCalls {}
    s.finalizeEpochs (DISPUTE_WINDOW + 1) [1, 2] = s.finalizeEpochs (DISPUTE_WINDOW + 1) [2, 1] ∧
      (s.finalizeEpochs (DISPUTE_WINDOW + 1) [1, 2]).boosted 0 = true :=
  ⟨(finalizeEpochs_perm _ _ _ (.swap 2 1 [])).1, by decide +kernel⟩

end Ferminux.Staking
