import Ferminux.Agents.ServiceEscrow

/-!
# Agents.Endorsements

`Endorsements.sol`: the checks of an endorsement. The registry, the escrow and the accounts of the
factory are what they answer. Behind the checks the contract only writes, which is left out.
The **arms-length test** follows ownership one step on either side (`related_iff_close`): whoever
holds accounts through accounts passes it.
-/

namespace Ferminux.Agents.Endorsements

open Lib Relation

inductive Basis where
  | Unbacked | PaidWork
  deriving Repr, DecidableEq

inductive Error where
  | NotAuthorized | SelfEndorsement | InvalidCapability | StringTooLong
  | UnknownAgent (agentId : Nat)
  | AlreadyEndorsed (existingId : Nat)
  | EvidenceNotCompleted (status : JobStatus)
  | EvidenceNotOwnWork (jobAgentId : Nat)
  | EvidenceTooSmall (amount required : Nat)
  | EvidenceNotArmsLength (client : Address)
  deriving Repr, DecidableEq

def WEIGHT_UNIT_WEI : Nat := 10 ^ 18
def RATING_PRIOR : Nat := 3

/-- What the contract reads. -/
structure World where
  getAgent : Nat → Agent := fun _ => {}
  getJob : Nat → Job := fun _ => {}
  accountFactory : Bool := true
  hasCode : Address → Bool
  isAccount : Address → Bool
  hasCode_of_isAccount : ∀ a, isAccount a → hasCode a
  owner : Address → Address
  keccak256 : Text → Hash
  minPaidWei : Nat := 10 ^ 18
  weightCap : Nat := 1000
  maxUriBytes : Nat := 256
  edgeOf : Nat → Nat → Hash → Nat := fun _ _ _ => 0

/-- What is resolved before the endorsement is written. -/
structure Pending where
  fromAgentId : Nat
  toAgentId : Nat
  evidenceJobId : Nat
  weight : Nat
  fromOwner : Address
  basis : Basis
  evidenceAmountWei : Nat
  capabilityId : Hash
  deriving Repr, DecidableEq

namespace World

variable (w : World)

/-- An account of the factory, which this address owns. -/
def isAccountOf (account owner : Address) : Bool :=
  w.accountFactory && w.hasCode account && w.isAccount account && w.owner account = owner

/-- The arms-length test. -/
def related (a b : Address) : Bool :=
  if a = 0 ∨ b = 0 then false
  else if a = b then true
  else if ¬ w.accountFactory then false
  else if w.isAccountOf a b then true
  else if w.isAccountOf b a then true
  else if w.hasCode a && w.hasCode b && w.isAccount a && w.isAccount b then w.owner a = w.owner b
  else false

def ownerOf (agentId : Nat) : Except Error Address := do
  let o := (w.getAgent agentId).owner
  require (o ≠ 0) (Error.UnknownAgent agentId)
  return o

def authorized (agentId : Nat) (who : Address) : Except Error Bool := do
  let o ← w.ownerOf agentId
  return who = o || w.isAccountOf who o

variable (fromAgentId : Nat)

/-- The weight of a completed job that a third party paid, scaled by the endorser's rating. -/
def weigh (fromOwner toOwner : Address) (evidenceJobId : Nat) :
    Except Error (Nat × Basis × Nat) := do
  if evidenceJobId = 0 then return (0, .Unbacked, 0)
  let j := w.getJob evidenceJobId
  require (j.status = .Completed) (Error.EvidenceNotCompleted j.status)
  require (j.agentId = fromAgentId) (Error.EvidenceNotOwnWork j.agentId)
  require (w.minPaidWei ≤ j.amount ∧ WEIGHT_UNIT_WEI ≤ j.amount)
    (Error.EvidenceTooSmall j.amount (max w.minPaidWei WEIGHT_UNIT_WEI))
  require (¬ (w.related j.client fromOwner || w.related j.client toOwner))
    (Error.EvidenceNotArmsLength j.client)
  let a := w.getAgent fromAgentId
  let rating := if a.ratingCount = 0 then RATING_PRIOR else a.ratingSum / a.ratingCount
  let rating := if rating = 0 then 1 else rating
  return (min (j.amount / WEIGHT_UNIT_WEI * rating) w.weightCap, .PaidWork, j.amount)

variable (toAgentId : Nat) (capability uri : Text) (evidenceJobId : Nat)

/-- `_prepare`: the checks, and the weight of the evidence. -/
def prepare : Except Error Pending := do
  require (fromAgentId ≠ toAgentId) Error.SelfEndorsement
  require (capability.length ≠ 0 ∧ capability.length ≤ 64) Error.InvalidCapability
  require (uri.length ≤ w.maxUriBytes) Error.StringTooLong
  let fromOwner ← w.ownerOf fromAgentId
  let toOwner ← w.ownerOf toAgentId
  require (¬ w.related fromOwner toOwner) Error.SelfEndorsement
  let capabilityId := w.keccak256 capability
  let existing := w.edgeOf fromAgentId toAgentId capabilityId
  require (existing = 0) (Error.AlreadyEndorsed existing)
  let (weight, basis, evidenceAmountWei) ← w.weigh fromAgentId fromOwner toOwner evidenceJobId
  return { fromAgentId := fromAgentId % 2 ^ 64, toAgentId := toAgentId % 2 ^ 64,
           evidenceJobId := evidenceJobId % 2 ^ 64, weight, fromOwner, basis, evidenceAmountWei,
           capabilityId }

/-- Up to `_store`: who may endorse, and what would be stored. -/
def endorse (sender : Address) : Except Error Pending := do
  require (← w.authorized fromAgentId sender) Error.NotAuthorized
  w.prepare fromAgentId toAgentId capability uri evidenceJobId

/-! ### Ownership -/

/-- `b` owns the account `a`. -/
def Owned (a b : Address) : Prop := w.isAccount a ∧ w.owner a = b

/-- The ultimate owner: through accounts, up to somebody who is none. -/
def Ultimate (a b : Address) : Prop := ReflTransGen w.Owned a b ∧ ¬ w.isAccount b

/-- `a` and `b` are the same, or one step of ownership leads to the same. -/
def Close (a b : Address) : Prop := ∃ c, ReflGen w.Owned a c ∧ ReflGen w.Owned b c

variable {w fromAgentId toAgentId capability uri evidenceJobId} {a b : Address}

lemma related_iff_close (hfactory : w.accountFactory) (ha : a ≠ 0) (hb : b ≠ 0) :
    w.related a b ↔ w.Close a b := by
  have hcode := w.hasCode_of_isAccount
  constructor
  · intro h
    simp only [related, isAccountOf, hfactory, ha, hb, or_self, if_false, not_true_eq_false,
      Bool.true_and, Bool.and_eq_true, decide_eq_true_eq] at h
    split at h
    · next heq => exact ⟨b, heq ▸ .refl, .refl⟩
    split at h
    · next howner => exact ⟨b, .single ⟨howner.1.2, howner.2⟩, .refl⟩
    split at h
    · next howner => exact ⟨a, .refl, .single ⟨howner.1.2, howner.2⟩⟩
    split at h
    · next haccounts =>
      exact ⟨w.owner a, .single ⟨haccounts.1.2, rfl⟩,
        .single ⟨haccounts.2, (of_decide_eq_true h).symm⟩⟩
    · cases h
  · rintro ⟨c, hac, hbc⟩
    unfold related isAccountOf
    rcases hac with _ | ⟨haccount, rfl⟩ <;> rcases hbc with _ | ⟨haccount', howner⟩ <;> simp_all

lemma weigh_ok {fromOwner toOwner : Address} {r : Nat × Basis × Nat}
    (h : w.weigh fromAgentId fromOwner toOwner evidenceJobId = .ok r) (hjob : evidenceJobId ≠ 0) :
    ¬ w.related (w.getJob evidenceJobId).client fromOwner ∧
      ¬ w.related (w.getJob evidenceJobId).client toOwner := by
  simp only [weigh, if_neg hjob, bind_eq_ok, require_eq_ok] at h
  obtain ⟨-, -, -, -, -, -, -, hclient, -⟩ := h
  simpa using hclient

/-- **Related parties do not endorse.** If one step of ownership on either side leads from the
owners of two agents to the same party, an endorsement between them is refused, and so is evidence
paid by a client that is as close to one of them. Parties that meet only further up pass the
test. -/
theorem endorse_refused (hfactory : w.accountFactory) (sender : Address) :
    (w.Close (w.getAgent fromAgentId).owner (w.getAgent toAgentId).owner ∨
      evidenceJobId ≠ 0 ∧ (w.getJob evidenceJobId).client ≠ 0 ∧
        (w.Close (w.getJob evidenceJobId).client (w.getAgent fromAgentId).owner ∨
          w.Close (w.getJob evidenceJobId).client (w.getAgent toAgentId).owner) →
      ¬ Returns (w.endorse fromAgentId toAgentId capability uri evidenceJobId sender)) ∧
    ∀ a b, a ≠ 0 → b ≠ 0 → ¬ w.Close a b → w.related a b = false := by
  refine ⟨?_, fun a b ha hb hnot =>
    Bool.eq_false_iff.mpr (mt (related_iff_close hfactory ha hb).mp hnot)⟩
  rintro hclose ⟨p, h⟩
  simp only [endorse, prepare, ownerOf, bind_eq_ok, require_eq_ok, pure_eq_ok] at h
  obtain ⟨-, -, -, -, -, -, -, -, -, -, -, ⟨-, hfrom, rfl⟩, -, ⟨-, hto, rfl⟩, -, hrelated, -, -, _,
    hweigh, -⟩ := h
  rcases hclose with hclose | ⟨hjob, hclient, hclose | hclose⟩
  · exact hrelated ((related_iff_close hfactory hfrom hto).mpr hclose)
  · exact (weigh_ok hweigh hjob).1 ((related_iff_close hfactory hclient hfrom).mpr hclose)
  · exact (weigh_ok hweigh hjob).2 ((related_iff_close hfactory hclient hto).mpr hclose)

end World

/-- Account `9` is owned by account `8`, which is owned by `7`. -/
def nested : World where
  getAgent id := { owner := [0, 7, 9, 8, 11].getD id 0 }
  getJob _ := { agentId := 1, client := 9, amount := 10 ^ 18, status := .Completed }
  hasCode a := a = 8 ∨ a = 9
  isAccount a := a = 8 ∨ a = 9
  hasCode_of_isAccount _ h := h
  owner a := if a = 9 then 8 else 7
  keccak256 _ := 0

/-- The owner of agent `3` is an account of the owner of agent `1`. -/
theorem endorse_refused_account :
    ¬ Returns (nested.endorse 1 3 [97] [] 0 7) := by
  refine (World.endorse_refused rfl 7).1 (.inl ⟨7, .refl, .single ?_⟩)
  exact ⟨by decide, by decide⟩

/-- Two steps up, agent `2` and the client of the job belong to the owner of agent `1` as well. -/
theorem endorse_nested : nested.Ultimate 7 7 ∧ nested.Ultimate 9 7 ∧
    (nested.getAgent 1).owner = 7 ∧ (nested.getAgent 2).owner = 9 ∧ (nested.getJob 5).client = 9 ∧
    Returns (nested.endorse 1 2 [97] [] 0 7) ∧ Returns (nested.endorse 1 4 [97] [] 5 7) := by
  have hnine : nested.Owned 9 8 := ⟨by decide, by decide⟩
  have height : nested.Owned 8 7 := ⟨by decide, by decide⟩
  refine ⟨⟨.refl, by decide⟩, ⟨.tail (.single hnine) height, by decide⟩, by decide, by decide,
    by decide, ⟨_, rfl⟩, ⟨_, rfl⟩⟩

end Ferminux.Agents.Endorsements
