import Ferminux.Agents.ServiceEscrow
import Ferminux.Lib.Sums
import Mathlib.Data.FinEnum

/-!
# Agents.EscrowSafety

**The escrow covers what it owes and settles a job at most once.** Whatever a function does to the
escrow's money is one of four things: nothing, the request of a job, the settlement of one, or the
withdrawal of credits. Each keeps the sum of the credits and of the jobs that are not settled equal
to what the escrow holds, and the registry's outcomes equal to the jobs that are settled.
-/

namespace Ferminux.Agents

open Lib Relation Finset Option Lib.Prog Function Registry Store JobStatus Job

/-! ### What the escrow owes -/

/-- The amount is held for the job. -/
def JobStatus.held : JobStatus → Bool
  | .Open | .Delivered | .Disputed => true
  | _ => false

def JobStatus.settled : JobStatus → Bool
  | .Completed | .Refunded | .Resolved => true
  | _ => false

def Job.locked (j : Job) : Nat := if j.status.held then j.amount else 0

/-- What the escrow owes: the credits, and the amounts of the jobs that are not settled. -/
def Store.owed (s : Store) : Nat :=
  ∑ a, s.credits a + ∑ i ∈ Finset.Icc 1 s.nextJobId, (s.jobs i).locked

/-- The client's, the agent's and the treasury's share of a job. -/
abbrev Shares := Nat × Nat × Nat

def Shares.total (x : Shares) : Nat := x.1 + x.2.1 + x.2.2

def Event.settles (jobId : Nat) : Event → Option Shares
  | .JobCompleted id agentPayout fee _ => if id = jobId then some (0, agentPayout, fee) else none
  | .JobRefunded id amount _ => if id = jobId then some (amount, 0, 0) else none
  | .JobResolved id clientAmount agentPayout fee =>
    if id = jobId then some (clientAmount, agentPayout, fee) else none
  | _ => none

def settlements (log : List Event) (jobId : Nat) : List Shares :=
  log.filterMap (Event.settles jobId)

/-- A job that is settled has been so once, for its whole amount; any other never. -/
def Job.SettledOnce (j : Job) (past : List Shares) : Prop :=
  if j.status.settled then ∃ x : Shares, past = [x] ∧ x.total = j.amount else past = []

def Store.settledJobs (s : Store) (agentId : Nat) : Finset Nat :=
  (Finset.Icc 1 s.nextJobId).filter fun i =>
    (s.jobs i).status.settled = true ∧ (s.jobs i).agentId = agentId

/-- **What holds of the stores**, where `past` are the outcomes recorded before. -/
structure Kept (this : Address) (past : Nat → Nat) (s : Store) : Prop where
  escrow : s.registry.escrow = this
  blank : ∀ i, ¬ (1 ≤ i ∧ i ≤ s.nextJobId) → s.jobs i = {}
  once : ∀ i, (s.jobs i).SettledOnce (settlements s.log i)
  outcomes : ∀ a, s.registry.outcomes a = past a + (s.settledJobs a).card
  fee : s.feeBps ≤ MAX_FEE_BPS

variable {this : Address} {past : Nat → Nat} {s s' : Store}
  {jobId : Nat} {id : Nat} {R : Unit → Store → Prop} {status : JobStatus}
 {x : Shares} {e : Event} {account : Address} {agentId : Nat}

/-! ### Steps -/

/-- What the invariant reads of a job. -/
def Job.standing (j : Job) : Nat × Nat × Bool × Bool :=
  (j.agentId, j.amount, j.status.held, j.status.settled)

/-- Nothing that is owed or recorded changes. -/
structure Quiet (s s' : Store) : Prop where
  escrow : s'.registry.escrow = s.registry.escrow
  outcomes : ∀ a, s'.registry.outcomes a = s.registry.outcomes a
  jobs : ∀ i, (s'.jobs i).standing = (s.jobs i).standing
  blank : ∀ i, s.jobs i = {} → s'.jobs i = {}
  nextJobId : s'.nextJobId = s.nextJobId
  credits : s'.credits = s.credits
  log : ∀ i, settlements s'.log i = settlements s.log i
  fee : s.feeBps ≤ MAX_FEE_BPS → s'.feeBps ≤ MAX_FEE_BPS

structure Settles (s s' : Store) (jobId : Nat) (x : Shares) : Prop where
  held : (s.jobs jobId).status.held = true
  total : x.total = (s.jobs jobId).amount
  status : ∃ status : JobStatus, status.settled = true ∧
    s'.jobs = Function.update s.jobs jobId { s.jobs jobId with status }
  nextJobId : s'.nextJobId = s.nextJobId
  credits : ∑ a, s'.credits a = ∑ a, s.credits a + x.total
  log : ∀ i, settlements s'.log i =
    if i = jobId then x :: settlements s.log i else settlements s.log i
  escrow : s'.registry.escrow = s.registry.escrow
  outcomes : ∀ a, s'.registry.outcomes a =
    s.registry.outcomes a + if a = (s.jobs jobId).agentId then 1 else 0
  fee : s'.feeBps = s.feeBps

structure Requests (s s' : Store) (amount : Nat) : Prop where
  registry : s'.registry = s.registry
  nextJobId : s'.nextJobId = s.nextJobId + 1
  credits : s'.credits = s.credits
  job : ∃ j : Job, j.status = .Open ∧ j.amount = amount ∧
    s'.jobs = Function.update s.jobs (s.nextJobId + 1) j
  log : ∀ i, settlements s'.log i = settlements s.log i
  fee : s'.feeBps = s.feeBps

namespace Quiet

lemma owed (h : Quiet s s') : s'.owed = s.owed := by
  have hlocked (i : Nat) : (s'.jobs i).locked = (s.jobs i).locked := by
    have hi := h.jobs i
    simp only [standing, Prod.mk.injEq] at hi
    rw [locked, hi.2.1, hi.2.2.1, locked]
  simp [Store.owed, h.credits, h.nextJobId, hlocked]

lemma kept (h : Quiet s s') (hs : Kept this past s) : Kept this past s' := by
  have hjobs := h.jobs
  simp only [standing, Prod.mk.injEq] at hjobs
  refine ⟨h.escrow.trans hs.escrow, fun i hi => ?_, fun i => ?_, fun a => ?_, h.fee hs.fee⟩
  · rw [h.nextJobId] at hi
    exact h.blank i (hs.blank i hi)
  · have hold := hs.once i
    rwa [Job.SettledOnce, (hjobs i).2.2.2, (hjobs i).2.1, h.log, ← Job.SettledOnce]
  · have hcard : s'.settledJobs a = s.settledJobs a := by
      simp [settledJobs, h.nextJobId, (hjobs _).2.2.2, (hjobs _).1]
    rw [h.outcomes, hcard]
    exact hs.outcomes a

end Quiet

namespace Kept

variable {i : Nat}

lemma mem_of_ne (h : Kept this past s) (hi : s.jobs i ≠ {}) : i ∈ Finset.Icc 1 s.nextJobId :=
  mem_Icc.mpr (not_not.mp fun hout => hi (h.blank i hout))

lemma mem_of_held (h : Kept this past s) (hheld : (s.jobs i).status.held = true) :
    i ∈ Finset.Icc 1 s.nextJobId := by
  refine h.mem_of_ne fun hblank => ?_
  rw [hblank] at hheld
  cases hheld

lemma not_settled_of_held (h : status.held = true) : status.settled = false := by
  cases status <;> first | rfl | cases h

lemma not_held_of_settled (h : status.settled = true) : status.held = false := by
  cases status <;> first | rfl | cases h

lemma settle (hs : Kept this past s) (h : Settles s s' jobId x) : Kept this past s' := by
  obtain ⟨status, hsettled, hjobs⟩ := h.status
  have hmem := hs.mem_of_held h.held
  have hself : s'.jobs jobId = { s.jobs jobId with status } := by rw [hjobs, update_self]
  have hother {i : Nat} (hi : i ≠ jobId) : s'.jobs i = s.jobs i := by
    rw [hjobs, update_of_ne hi]
  have hopen := not_settled_of_held h.held
  refine ⟨h.escrow.trans hs.escrow, fun i hi => ?_, fun i => ?_, fun a => ?_, h.fee ▸ hs.fee⟩
  · rw [h.nextJobId] at hi
    have hne : i ≠ jobId := fun heq => hi (mem_Icc.mp (heq ▸ hmem))
    rw [hother hne]
    exact hs.blank i hi
  · rw [h.log]
    by_cases hi : i = jobId
    · subst hi
      have hold := hs.once i
      rw [Job.SettledOnce, hopen] at hold
      rw [if_pos rfl, hself, Job.SettledOnce, if_pos hsettled]
      exact ⟨x, congrArg (x :: ·) hold, h.total⟩
    · rw [if_neg hi, hother hi]
      exact hs.once i
  · -- the job joins the settled ones of its agent
    have hcard : (s'.settledJobs a).card =
        (s.settledJobs a).card + if a = (s.jobs jobId).agentId then 1 else 0 := by
      have hset : s'.settledJobs a = if a = (s.jobs jobId).agentId then
          insert jobId (s.settledJobs a) else s.settledJobs a := by
        ext i
        simp only [settledJobs, h.nextJobId]
        by_cases hi : i = jobId
        · subst hi
          split
          · rename_i heq
            simp [hself, hsettled, heq, hmem]
          · rename_i hne
            simp [hself, hopen, Ne.symm hne]
        · split <;> simp [hother hi, hi]
      rw [hset]
      split
      · refine card_insert_of_notMem fun hin => ?_
        have := (mem_filter.mp hin).2.1
        rw [hopen] at this
        cases this
      · rfl
    rw [h.outcomes, hs.outcomes, hcard]
    exact Nat.add_assoc _ _ _

lemma request (hs : Kept this past s) {amount : Nat} (h : Requests s s' amount) :
    Kept this past s' := by
  obtain ⟨j, hstatus, -, hjobs⟩ := h.job
  have hnew : s.jobs (s.nextJobId + 1) = {} := hs.blank _ (by omega)
  have hother {i : Nat} (hi : i ≠ s.nextJobId + 1) : s'.jobs i = s.jobs i := by
    rw [hjobs, update_of_ne hi]
  refine ⟨h.registry ▸ hs.escrow, fun i hi => ?_, fun i => ?_, fun a => ?_, h.fee ▸ hs.fee⟩
  · rw [h.nextJobId] at hi
    rw [hother (by omega)]
    exact hs.blank i (by omega)
  · rw [h.log]
    have hold := hs.once i
    by_cases hi : i = s.nextJobId + 1
    · subst hi
      rw [hnew] at hold
      rw [hjobs, update_self, Job.SettledOnce, hstatus]
      exact hold
    · rw [hother hi]
      exact hold
  · have hset : s'.settledJobs a = s.settledJobs a := by
      ext i
      simp only [settledJobs, h.nextJobId, mem_filter, mem_Icc]
      by_cases hi : i = s.nextJobId + 1
      · subst hi
        simp [hjobs, hstatus, settled]
      · rw [hother hi]
        refine and_congr_left fun _ => ?_
        omega
    rw [h.registry, hset]
    exact hs.outcomes a

end Kept

lemma Settles.owed (h : Settles s s' jobId x) (hs : Kept this past s) : s'.owed = s.owed := by
  obtain ⟨status, hsettled, hjobs⟩ := h.status
  have hsum := sum_update_add (hs.mem_of_held h.held) locked s.jobs { s.jobs jobId with status }
  have hnone : ({ s.jobs jobId with status } : Job).locked = 0 := by
    simp [locked, Kept.not_held_of_settled hsettled]
  have hall : (s.jobs jobId).locked = (s.jobs jobId).amount := if_pos h.held
  have htotal := h.total
  have hcredits := h.credits
  rw [Store.owed, h.nextJobId, hjobs, Store.owed]
  omega

lemma Requests.owed {amount : Nat} (h : Requests s s' amount) : s'.owed = s.owed + amount := by
  obtain ⟨j, hstatus, hamount, hjobs⟩ := h.job
  have hlocked : j.locked = amount := by
    rw [locked, hstatus]
    exact hamount
  rw [Store.owed, h.credits, h.nextJobId, hjobs, sum_update_succ, hlocked, Store.owed]
  omega

/-! ### What the functions do -/

@[simp] lemma post_onRegistry {α : Type} {x : Registry.RegistryM α} {R : α → Store → Prop} :
    Post (onRegistry x) R s ↔ Post x (fun a r => R a { s with registry := r }) s.registry := by
  unfold Post
  constructor
  · intro h a r hx
    exact h a _ (by rw [onRegistry, hx])
  · intro h a s' hs'
    unfold onRegistry at hs'
    cases hx : x s.registry with
    | error =>
      rw [hx] at hs'
      cases hs'
    | ok =>
      rw [hx] at hs'
      cases hs'
      exact h _ _ hx

@[simp] lemma post_emit : Post (emit e) R s ↔ R () { s with log := e :: s.log } := post_modify

@[simp] lemma post_modifyJob {f : Job → Job} :
    Post (modifyJob jobId f) R s ↔
      R () { s with jobs := update s.jobs jobId (f (s.jobs jobId)) } := post_modify

@[simp] lemma post_credit {amount : Nat} : Post (credit account amount) R s ↔
      R () { s with credits := update s.credits account (s.credits account + amount) } :=
  post_modify

@[simp] lemma post_jobIn {R : Job → Store → Prop} :
    Post (jobIn jobId status) R s ↔ ((s.jobs jobId).status = status → R (s.jobs jobId) s) := by
  simp [jobIn]

@[simp] lemma post_requireAgentOwner {m : Context} : Post (requireAgentOwner m agentId) R s ↔
      ((s.registry.agents agentId).owner = m.sender → R () s) := by
  simp [requireAgentOwner]

@[simp] lemma post_onlyGovernance {m : Context} :
    Post (onlyGovernance m) R s ↔ (m.sender = s.governance → R () s) := by
  simp [onlyGovernance]

variable {m : Context} {rating : Nat} {success : Bool}

def Registry.recorded (r : Registry) (agentId : Nat) (success : Bool) (rating : Nat) : Registry :=
  { r with
    agents := Function.update r.agents agentId (outcome success rating (r.agents agentId)) }

lemma post_recordOutcome
    (h : R () { s with registry := s.registry.recorded agentId success rating }) :
    Post (recordOutcome this m agentId success rating) R s := by
  simp only [recordOutcome, post_onRegistry, Registry.recordOutcome, Registry.modifyAgent,
    post_steps]
  exact fun _ _ _ _ => h

lemma outcomes_recorded {r : Registry} (a : Nat) : (r.recorded agentId success rating).outcomes a =
      r.outcomes a + if a = agentId then 1 else 0 := by
  unfold outcomes recorded
  by_cases ha : a = agentId
  · subst ha
    cases success <;> simp [outcome] <;> omega
  · simp [ha]

lemma sum_credit (credits : Address → Nat) (account : Address) (n : Nat) :
    ∑ a, update credits account (credits account + n) a = ∑ a, credits a + n := by
  have h := sum_update credits account (credits account + n)
  omega

@[simp] lemma post_creditIf {n : Nat} : Post (creditIf account n) R s ↔
      R () { s with credits := update s.credits account (s.credits account + n) } := by
  by_cases hn : n = 0 <;> simp [creditIf, hn]

lemma fee_le {a feeBps : Nat} (h : feeBps ≤ MAX_FEE_BPS) : a * feeBps / BPS ≤ a := by
  have hle : a * feeBps ≤ a * BPS := Nat.mul_le_mul_left _ (h.trans (by decide))
  exact (Nat.div_le_div_right hle).trans (Nat.mul_div_cancel _ (by decide)).le

lemma settlements_cons {log : List Event} {i : Nat}
    (h : e.settles i = if i = jobId then some x else none) :
    settlements (e :: log) i = if i = jobId then x :: settlements log i else settlements log i := by
  simp only [settlements, List.filterMap_cons, h]
  by_cases hi : i = jobId <;> simp [hi]

/-- **A job is completed**: the agent gets the amount without the fee. -/
theorem post_complete {jobId rating : Nat} (hs : Kept this past s)
    (hheld : (s.jobs jobId).status.held = true) :
    Post (complete this m jobId rating) (fun _ s' => ∃ x, Settles s s' jobId x) s := by
  have hfee := fee_le (a := (s.jobs jobId).amount) hs.fee
  simp only [complete, post_steps, post_modifyJob, post_credit, post_creditIf, post_emit]
  refine post_recordOutcome ⟨(0, (s.jobs jobId).amount - (s.jobs jobId).amount * s.feeBps / BPS,
    (s.jobs jobId).amount * s.feeBps / BPS), hheld, ?_, ⟨.Completed, rfl, rfl⟩, rfl, ?_,
    fun i => ?_, rfl, fun a => outcomes_recorded a, rfl⟩
  · simp only [Shares.total]
    omega
  · simp only [sum_credit, Shares.total]
    omega
  · exact settlements_cons (by simp [Event.settles, eq_comm])

/-- **A job is refunded**: the client gets the amount. -/
theorem post_refundTo {byAgent : Bool} (hheld : (s.jobs jobId).status.held = true) :
    Post (refundTo this m jobId byAgent) (fun _ s' => ∃ x, Settles s s' jobId x) s := by
  simp only [refundTo, post_steps, post_modifyJob, post_credit, post_emit]
  refine post_recordOutcome ⟨((s.jobs jobId).amount, 0, 0), hheld, ?_, ⟨.Refunded, rfl, rfl⟩,
    rfl, ?_, fun i => ?_, rfl, fun a => outcomes_recorded a, rfl⟩
  · simp only [Shares.total]
    omega
  · simp only [sum_credit, Shares.total]
    omega
  · exact settlements_cons (by simp [Event.settles, eq_comm])

/-- **A dispute is resolved**: the amount is split between the client, the agent and the fee. -/
theorem post_resolve {jobId clientBps : Nat} (hs : Kept this past s) :
    Post (resolve this m jobId clientBps) (fun _ s' => ∃ x, Settles s s' jobId x) s := by
  simp only [resolve, post_steps, post_onlyGovernance, post_jobIn, post_modifyJob, post_creditIf,
    post_emit]
  intro _ hdisputed hbps
  have hheld : (s.jobs jobId).status.held = true := by rw [hdisputed]; rfl
  have hshare : (s.jobs jobId).amount * clientBps / BPS ≤ (s.jobs jobId).amount :=
    (Nat.div_le_div_right (Nat.mul_le_mul_left _ hbps)).trans (Nat.mul_div_cancel _ (by decide)).le
  generalize (s.jobs jobId).amount * clientBps / BPS = clientShare at hshare ⊢
  have hfee := fee_le (a := (s.jobs jobId).amount - clientShare) hs.fee
  generalize ((s.jobs jobId).amount - clientShare) * s.feeBps / BPS = fee at hfee ⊢
  refine post_recordOutcome ⟨(clientShare, (s.jobs jobId).amount - clientShare - fee, fee), hheld,
    ?_, ⟨.Resolved, rfl, rfl⟩, rfl, ?_, fun i => ?_, rfl, fun a => outcomes_recorded a, rfl⟩
  · simp only [Shares.total]
    omega
  · simp only [sum_credit, Shares.total]
    omega
  · exact settlements_cons (by simp [Event.settles, eq_comm])

lemma post_release (hs : Kept this past s) :
    Post (release this m jobId rating) (fun _ s' => ∃ x, Settles s s' jobId x) s := by
  simp only [release, post_steps, post_jobIn]
  intro hdelivered _ _
  exact post_complete hs (by rw [hdelivered]; rfl)

lemma post_claim (hs : Kept this past s) :
    Post (claim this m jobId) (fun _ s' => ∃ x, Settles s s' jobId x) s := by
  simp only [claim, post_steps, post_jobIn, post_requireAgentOwner]
  intro hdelivered _ _
  exact post_complete hs (by rw [hdelivered]; rfl)

lemma post_refund : Post (refund this m jobId) (fun _ s' => ∃ x, Settles s s' jobId x) s := by
  simp only [refund, post_steps, post_jobIn]
  intro hopen _ _
  exact post_refundTo (by rw [hopen]; rfl)

lemma post_cancel : Post (cancel this m jobId) (fun _ s' => ∃ x, Settles s s' jobId x) s := by
  simp only [cancel, post_bind, post_jobIn, post_requireAgentOwner]
  intro hopen _
  exact post_refundTo (by rw [hopen]; rfl)

lemma post_requestJob {inputHash : Hash} {inputURI : Text} :
    Post (requestJob m agentId inputHash inputURI) (fun _ s' => Requests s s' m.value) s := by
  simp only [requestJob, post_steps, post_modifyJob, post_emit]
  intro _ _ _ _
  exact ⟨rfl, rfl, rfl, ⟨_, rfl, rfl, rfl⟩, fun _ => rfl, rfl⟩

lemma quiet_job {j : Job} (hold : (s.jobs jobId).status.held = true)
    (hjob : j.standing = (s.jobs jobId).standing) (he : ∀ i, e.settles i = none) :
    Quiet s { s with jobs := update s.jobs jobId j, log := e :: s.log } := by
  refine ⟨rfl, fun _ => rfl, fun i => ?_, fun i hi => ?_, rfl, rfl, fun i => ?_, id⟩ <;> dsimp only
  · by_cases h : i = jobId
    · rw [h, update_self]
      exact hjob
    · rw [update_of_ne h]
  · by_cases h : i = jobId
    · rw [h] at hi
      rw [hi] at hold
      cases hold
    · rw [update_of_ne h]
      exact hi
  · rw [settlements, List.filterMap_cons, he]
    rfl

lemma post_deliver {outputHash : Hash} {outputURI : Text} :
    Post (deliver m jobId outputHash outputURI) (fun _ => Quiet s) s := by
  simp only [deliver, post_steps, post_jobIn, post_requireAgentOwner, post_modifyJob, post_emit]
  intro hopen _ _
  refine quiet_job (by rw [hopen]; rfl) ?_ fun _ => rfl
  simp [standing, hopen, held, settled]

lemma post_dispute : Post (dispute m jobId) (fun _ => Quiet s) s := by
  simp only [dispute, post_steps, post_jobIn, post_modifyJob, post_emit]
  intro hdelivered _ _
  refine quiet_job (by rw [hdelivered]; rfl) ?_ fun _ => rfl
  simp [standing, hdelivered, held, settled]

lemma post_setFee {bps : Nat} : Post (setFee m bps) (fun _ => Quiet s) s := by
  simp only [setFee, post_steps, post_onlyGovernance, post_emit]
  exact fun _ hle => ⟨rfl, fun _ => rfl, fun _ => rfl, fun _ h => h, rfl, rfl, fun _ => rfl,
    fun _ => hle⟩

lemma post_setWindows {delivery review : Nat} :
    Post (setWindows m delivery review) (fun _ => Quiet s) s := by
  simp only [setWindows, post_steps, post_onlyGovernance, post_emit]
  exact fun _ _ => ⟨rfl, fun _ => rfl, fun _ => rfl, fun _ h => h, rfl, rfl, fun _ => rfl, id⟩

lemma post_setFeeRecipient {recipient : Address} :
    Post (setFeeRecipient m recipient) (fun _ => Quiet s) s := by
  simp only [setFeeRecipient, post_steps, post_onlyGovernance, post_emit]
  exact fun _ _ => ⟨rfl, fun _ => rfl, fun _ => rfl, fun _ h => h, rfl, rfl, fun _ => rfl, id⟩

lemma post_setGovernance {newGovernance : Address} :
    Post (setGovernance m newGovernance) (fun _ => Quiet s) s := by
  simp only [setGovernance, post_steps, post_onlyGovernance, post_emit]
  exact fun _ _ => ⟨rfl, fun _ => rfl, fun _ => rfl, fun _ h => h, rfl, rfl, fun _ => rfl, id⟩

/-! ### What the registry does on its own -/

/-- The registry names the same escrow and has the same outcomes. -/
structure Registry.Same (r r' : Registry) : Prop where
  escrow : r'.escrow = r.escrow
  outcomes : ∀ a, r'.outcomes a = r.outcomes a

namespace Registry

variable {r : Registry} {R : Unit → Registry → Prop}
  {endpoint metadataURI : Text} {pricePerJob : Nat}

lemma Same.quiet {r' : Registry} (h : Same s.registry r') : Quiet s { s with registry := r' } :=
  ⟨h.escrow, h.outcomes, fun _ => rfl, fun _ h => h, rfl, rfl, fun _ => rfl, id⟩

lemma same_modifyAgent {x : Agent} {nextId lock : Nat}
    (hcompleted : x.jobsCompleted = (r.agents id).jobsCompleted)
    (hfailed : x.jobsFailed = (r.agents id).jobsFailed) :
    Same r { r with nextId, agents := Function.update r.agents id x, lock } := by
  refine ⟨rfl, fun a => ?_⟩
  unfold outcomes
  by_cases ha : a = id
  · subst ha
    simp [hcompleted, hfailed]
  · simp [ha]

@[simp] lemma post_onlyAgentOwner {R : Agent → Registry → Prop} : Post (onlyAgentOwner m id) R r ↔
      ((r.agents id).status ≠ .None → (r.agents id).owner = m.sender → R (r.agents id) r) := by
  simp [onlyAgentOwner]

@[simp] lemma post_modifyAgent {f : Agent → Agent} :
    Post (modifyAgent id f) R r ↔
      R () { r with agents := Function.update r.agents id (f (r.agents id)) } := post_modify

@[simp] lemma post_onlyGovernance :
    Post (onlyGovernance m) R r ↔ (m.sender = r.governance → R () r) := by
  simp [onlyGovernance]

@[simp] lemma post_enter : Post enter R r ↔ (r.lock ≠ 1 → R () { r with lock := 1 }) := by
  simp [enter]

lemma post_register {name : Text} :
    Post (register m name endpoint metadataURI pricePerJob) (fun _ => Same r) r := by
  simp only [register, post_steps, post_modifyAgent]
  exact fun _ _ _ => same_modifyAgent rfl rfl

lemma post_update : Post (update m id endpoint metadataURI pricePerJob) (fun _ => Same r) r := by
  simp only [update, post_steps, post_onlyAgentOwner, post_modifyAgent]
  exact fun _ _ _ => same_modifyAgent rfl rfl

lemma post_setStatus {status : AgentStatus} : Post (setStatus m id status) (fun _ => Same r) r := by
  simp only [setStatus, post_steps, post_onlyAgentOwner, post_modifyAgent]
  exact fun _ _ _ => same_modifyAgent rfl rfl

lemma post_retire : Post (retire m id) (fun _ => Same r) r := by
  simp only [retire, post_steps, post_onlyAgentOwner, post_modifyAgent]
  exact fun _ _ _ => same_modifyAgent rfl rfl

lemma post_takeBond : Post (takeBond m id) (fun _ => Same r) r := by
  simp only [takeBond, post_steps, post_onlyAgentOwner, post_enter, post_modifyAgent]
  exact fun _ _ _ _ _ _ => same_modifyAgent rfl rfl

lemma post_topUpBond : Post (topUpBond m id) (fun _ => Same r) r := by
  simp only [topUpBond, post_steps, post_modifyAgent]
  exact fun _ _ => same_modifyAgent rfl rfl

lemma post_transferOwnership {newOwner : Address} :
    Post (transferOwnership m id newOwner) (fun _ => Same r) r := by
  simp only [transferOwnership, post_steps, post_onlyAgentOwner, post_modifyAgent]
  exact fun _ _ _ => same_modifyAgent rfl rfl

lemma post_takeSlash {amount : Nat} {dest : Address} :
    Post (takeSlash m id amount dest) (fun _ => Same r) r := by
  simp only [takeSlash, post_steps, post_onlyGovernance, post_enter, post_modifyAgent]
  exact fun _ _ _ _ _ => same_modifyAgent rfl rfl

lemma post_setMinBond {newMinBond : Nat} : Post (setMinBond m newMinBond) (fun _ => Same r) r := by
  simp only [setMinBond, post_steps, post_onlyGovernance]
  exact fun _ => ⟨rfl, fun _ => rfl⟩

lemma post_setGovernance {newGovernance : Address} :
    Post (setGovernance m newGovernance) (fun _ => Same r) r := by
  simp only [setGovernance, post_steps, post_onlyGovernance]
  exact fun _ _ => ⟨rfl, fun _ => rfl⟩

lemma post_setEscrow {escrow : Address} (h : r.escrow ≠ 0) :
    Post (setEscrow m escrow) (fun _ => Same r) r := by
  simp only [setEscrow, post_steps, post_onlyGovernance]
  exact fun _ _ hunset => absurd hunset h

lemma post_recordOutcome (h : m.sender ≠ r.escrow) :
    Post (recordOutcome m id success rating) (fun _ => Same r) r := by
  simp only [recordOutcome, post_steps]
  exact fun hescrow => absurd hescrow.1 h

end Registry

/-! ### Where the escrow lives -/

/-- Everything outside the two stores that they can observe. -/
structure Env where
  timestamp : Nat
  balance : Nat
  /-- How much of it came without a call. -/
  forced : Nat
  deriving Repr, DecidableEq

def Env.receive (e : Env) (n : Nat) : Env := { e with balance := e.balance + n }

def Env.spend (e : Env) (n : Nat) : Env := { e with balance := e.balance - n }

abbrev State := World Store Env

/-- Code that is not theirs, on its own: FMX may be forced on the escrow, and time passes. -/
inductive Foreign : State → State → Prop
  | force (s : Store) (e : Env) (n : Nat) :
      Foreign ⟨s, e⟩ ⟨s, { e with balance := e.balance + n, forced := e.forced + n }⟩
  | wait (s : Store) (e : Env) (n : Nat) : Foreign ⟨s, e⟩ ⟨s, { e with timestamp := e.timestamp + n }⟩

/-- How a payment is answered, when the code that runs during it acts by `act`: it may fail, and a
failure is undone. The escrow has no function that receives a plain payment. -/
def callee (this : Address) (act : State → State → Prop) : Callee Store Env Answer where
  answers
    | .pay dest n, w, ok, w' =>
      ok = true ∧ dest ≠ this ∧ n ≤ w.env.balance ∧ act ⟨w.store, w.env.spend n⟩ w' ∨
        ok = false ∧ w' = w
    | .payBond dest _, w, ok, w' => ok = true ∧ dest ≠ this ∧ act w w' ∨ ok = false ∧ w' = w
  yields
    | .pay dest n, w, w' => dest ≠ this ∧ n ≤ w.env.balance ∧ w' = ⟨w.store, w.env.spend n⟩
    | .payBond dest _, w, w' => dest ≠ this ∧ w' = w

lemma callee_mono {act act' : State → State → Prop} (h : ∀ w w', act w w' → act' w w') :
    (callee this act).Le (callee this act') where
  answers := by
    rintro (⟨dest, n⟩ | ⟨dest, n⟩) w ok w' (hok | hfail)
    · exact .inl ⟨hok.1, hok.2.1, hok.2.2.1, h _ _ hok.2.2.2⟩
    · exact .inr hfail
    · exact .inl ⟨hok.1, hok.2.1, h _ _ hok.2.2⟩
    · exact .inr hfail
  yields := by rintro (⟨dest, n⟩ | ⟨dest, n⟩) w w' hy <;> exact hy

/-- The value of a call arrives before the code runs. -/
def arrive (w : State) (m : Context) (f : Method) : State :=
  ⟨w.store, if f.paysEscrow then w.env.receive m.value else w.env⟩

/-- **The escrow and the registry on their chain.** Anybody but the escrow may call them. -/
def host (this : Address) : Host Store Env Answer where
  foreign := Foreign
  callee := callee this
  callee_mono := callee_mono
  entry := fun w p w₀ => ∃ m f, m.sender ≠ this ∧ m.timestamp = w.env.timestamp ∧
    p = run this m f ∧ w₀ = arrive w m f

/-- The escrow has just been deployed, with a registry that names it. -/
structure Deployed (this : Address) (w : State) : Prop where
  store : ∃ registryAddress governance feeRecipient,
    construct w.store.registry registryAddress governance feeRecipient = .ok w.store
  balance : w.env.balance = w.env.forced
  ne_zero : this ≠ 0
  names : w.store.registry.escrow = this

/-- **The worlds in which somebody else has control**, from a deployment on. -/
def Moment (this : Address) (w₀ w : State) : Prop := (host this).Moment (· = w₀) w

/-! ### The invariant of all runs -/

/-- The stores are consistent, and the balance is what the escrow owes, `extra` and what was forced
on it. -/
structure Sound (this : Address) (past : Nat → Nat) (extra : Nat) (w : State) : Prop where
  kept : Kept this past w.store
  balance : w.env.balance = w.store.owed + extra + w.env.forced

section

variable {X : Callee Store Env Answer} {J : State → Prop} {w : State} {extra : Nat}
  {α : Type} {x : EscrowM Unit}

@[simp] lemma wp_segment {x : EscrowM α} {Q : α → State → Prop} :
    (segment x).Wp X J Q w ↔ Post x (fun r s' => Q r ⟨s', w.env⟩) w.store := by
  unfold Prog.Wp segment Post
  cases hx : x w.store with
  | error => simp [Script.Wp]
  | ok r =>
    obtain ⟨a, s'⟩ := r
    simp [Script.Wp]

lemma Sound.quiet (h : Sound this past extra w) (hq : Quiet w.store s') :
    Sound this past extra ⟨s', w.env⟩ :=
  ⟨hq.kept h.kept, by rw [hq.owed]; exact h.balance⟩

lemma Sound.settle (h : Sound this past extra w)
    (hs : ∃ x, Settles w.store s' jobId x) : Sound this past extra ⟨s', w.env⟩ := by
  obtain ⟨x, hx⟩ := hs
  exact ⟨h.kept.settle hx, by rw [hx.owed h.kept]; exact h.balance⟩

lemma Sound.request (h : Sound this past extra w) (hr : Requests w.store s' extra) :
    Sound this past 0 ⟨s', w.env⟩ := by
  refine ⟨h.kept.request hr, ?_⟩
  have hbalance := h.balance
  rw [hr.owed]
  dsimp only
  omega

lemma wp_quiet (h : Sound this past 0 w) (hx : Post x (fun _ => Quiet w.store) w.store) :
    (segment x).Wp X J (fun _ => Sound this past 0) w :=
  wp_segment.mpr (hx.mono fun _ _ hq => h.quiet hq)

lemma wp_registry {x : Registry.RegistryM α} (h : Sound this past 0 w)
    (hx : Post x (fun _ => Registry.Same w.store.registry) w.store.registry) :
    (segment (onRegistry x)).Wp X J (fun _ => Sound this past 0) w := by
  rw [wp_segment, post_onRegistry]
  exact hx.mono fun _ _ hs => h.quiet hs.quiet

lemma wp_settle (h : Sound this past 0 w)
    (hx : Post x (fun _ s' => ∃ x, Settles w.store s' jobId x) w.store) :
    (segment x).Wp X J (fun _ => Sound this past 0) w :=
  wp_segment.mpr (hx.mono fun _ _ hs => h.settle hs)

lemma post_takeCredits (h : Sound this past 0 w) :
    Post (takeCredits m) (fun amount s' => Sound this past amount ⟨s', w.env⟩) w.store := by
  simp only [takeCredits, post_steps, post_emit]
  intro _ _
  have hsum := sum_update w.store.credits m.sender 0
  have hbalance := h.balance
  refine ⟨⟨h.kept.escrow, h.kept.blank, h.kept.once, h.kept.outcomes, h.kept.fee⟩, ?_⟩
  simp only [owed] at hbalance ⊢
  omega

end

/-- What outsiders keep. -/
abbrev keepers (this : Address) (past : Nat → Nat) : Callee Store Env Answer :=
  callee this (Host.Keeps (Sound this past 0) fun _ _ => True)

section

variable {w : State} {amount : Nat} {dest : Address} {Q : Unit → State → Prop}

/-- **The escrow pays**: what has been taken from the books leaves it. -/
theorem wp_pay (h : Sound this past amount w) (hQ : ∀ w', Sound this past 0 w' → Q () w') :
    (mustPay (.pay dest amount)).Wp (keepers this past) (Sound this past 0) Q w := by
  have hspent : amount ≤ w.env.balance → Sound this past 0 ⟨w.store, w.env.spend amount⟩ := by
    intro hle
    have hbalance := h.balance
    refine ⟨h.kept, ?_⟩
    simp only [Env.spend]
    omega
  simp only [mustPay, wp_bind, wp_call, wp_segment, post_steps]
  refine ⟨?_, ?_⟩
  · rintro w' ⟨-, hle, rfl⟩
    exact hspent hle
  · rintro ok w' (⟨-, -, hle, hact⟩ | ⟨rfl, -⟩) hok
    · exact hQ _ (hact (hspent hle)).1
    · cases hok

lemma wp_payBond (h : Sound this past 0 w) (hQ : ∀ w', Sound this past 0 w' → Q () w') :
    (mustPay (.payBond dest amount)).Wp (keepers this past) (Sound this past 0) Q w := by
  simp only [mustPay, wp_bind, wp_call, wp_segment, post_steps]
  refine ⟨?_, ?_⟩
  · rintro w' ⟨-, rfl⟩
    exact h
  · rintro ok w' (⟨-, -, hact⟩ | ⟨rfl, -⟩) hok
    · exact hQ _ (hact h).1
    · cases hok

lemma quiet_lock {lock : Nat} : Quiet s { s with lock } :=
  ⟨rfl, fun _ => rfl, fun _ => rfl, fun _ h => h, rfl, rfl, fun _ => rfl, id⟩

variable {m : Context}

variable (h : Sound this past 0 w)
include h

lemma wp_unlockRegistry :
    (segment (onRegistry (modify fun r => { r with lock := 0 }))).Wp (keepers this past)
      (Sound this past 0) (fun _ => Sound this past 0) w :=
  wp_registry h (post_modify.mpr ⟨rfl, fun _ => rfl⟩)

lemma wp_withdraw :
    (withdraw m).Wp (keepers this past) (Sound this past 0) (fun _ => Sound this past 0) w := by
  rw [withdraw, wp_bind, wp_segment]
  refine (post_takeCredits h).mono fun amount s' hs => ?_
  rw [wp_bind]
  refine wp_pay hs fun w' hw' => ?_
  exact wp_quiet hw' (post_modify.mpr quiet_lock)

lemma wp_withdrawBond : (withdrawBond m id).Wp (keepers this past) (Sound this past 0)
      (fun _ => Sound this past 0) w := by
  rw [withdrawBond, wp_bind]
  refine (wp_registry h post_takeBond).mono fun amount w' hw' => ?_
  rw [wp_bind]
  exact wp_payBond hw' fun w'' hw'' => wp_unlockRegistry hw''

lemma wp_slash : (slash m id amount dest).Wp (keepers this past) (Sound this past 0)
      (fun _ => Sound this past 0) w := by
  rw [slash, wp_bind]
  refine (wp_registry h post_takeSlash).mono fun _ w' hw' => ?_
  rw [wp_bind]
  exact wp_payBond hw' fun w'' hw'' => wp_unlockRegistry hw''

/-- **Every function keeps the invariant**, if the code it pays does. -/
theorem wp_body (hthis : this ≠ 0) (hsender : m.sender ≠ this) (f : Method) :
    (body this m f).Wp (keepers this past) (Sound this past 0) (fun _ w' => Sound this past 0 w')
      (arrive w m f) := by
  cases f with
  | requestJob =>
    have harrived : Sound this past m.value ⟨w.store, w.env.receive m.value⟩ := by
      have hbalance := h.balance
      refine ⟨h.kept, ?_⟩
      simp only [Env.receive]
      omega
    refine wp_segment.mpr (post_map.mpr ?_)
    exact post_requestJob.mono fun _ _ hr => harrived.request hr
  | deliver => exact wp_quiet h post_deliver
  | release => exact wp_settle h (post_release h.kept)
  | claim => exact wp_settle h (post_claim h.kept)
  | refund => exact wp_settle h post_refund
  | cancel => exact wp_settle h post_cancel
  | dispute => exact wp_quiet h post_dispute
  | resolve => exact wp_settle h (post_resolve h.kept)
  | withdraw => exact wp_withdraw h
  | setFee => exact wp_quiet h post_setFee
  | setWindows => exact wp_quiet h post_setWindows
  | setFeeRecipient => exact wp_quiet h post_setFeeRecipient
  | setGovernance => exact wp_quiet h post_setGovernance
  | register => exact wp_registry h (post_map.mpr post_register)
  | update => exact wp_registry h post_update
  | setStatus => exact wp_registry h post_setStatus
  | retire => exact wp_registry h post_retire
  | withdrawBond => exact wp_withdrawBond h
  | topUpBond => exact wp_registry h post_topUpBond
  | transferOwnership => exact wp_registry h post_transferOwnership
  | slash => exact wp_slash h
  | setMinBond => exact wp_registry h post_setMinBond
  | setEscrow => exact wp_registry h (Registry.post_setEscrow (h.kept.escrow ▸ hthis))
  | setRegistryGovernance => exact wp_registry h Registry.post_setGovernance
  | recordOutcome =>
    exact wp_registry h (Registry.post_recordOutcome (h.kept.escrow.symm ▸ hsender))

end

lemma host_sound (hthis : this ≠ 0) : (host this).Sound (Sound this past 0) fun _ _ => True where
  refl _ := trivial
  trans _ _ := trivial
  foreign := by
    rintro w w' (⟨s, e, n⟩ | ⟨s, e, n⟩) hw
    · have hbalance := hw.balance
      refine ⟨⟨hw.kept, ?_⟩, trivial⟩
      dsimp only at hbalance ⊢
      omega
    · exact ⟨⟨hw.kept, hw.balance⟩, trivial⟩
  entry := by
    rintro w p w₀ hw ⟨m, f, hsender, -, rfl, rfl⟩
    rw [run, wp_bind, wp_segment, post_require]
    intro _
    exact (wp_body hw hthis hsender f).mono fun _ _ h => ⟨h, trivial⟩

lemma Deployed.sound {w : State} (h : Deployed this w) :
    Sound this w.store.registry.outcomes 0 w := by
  obtain ⟨⟨registryAddress, governance, feeRecipient, hconstruct⟩, hbalance, -, hnames⟩ := h
  simp only [construct, bind_eq_ok, require_eq_ok, pure_eq_ok] at hconstruct
  obtain ⟨-, -, hstore⟩ := hconstruct
  have hjobs : w.store.jobs = fun _ => {} := (congrArg jobs hstore).symm
  have hnext : w.store.nextJobId = 0 := (congrArg nextJobId hstore).symm
  have hcredits : w.store.credits = fun _ => 0 := (congrArg credits hstore).symm
  have hlog (i : Nat) : settlements w.store.log i = [] := by rw [← congrArg log hstore]; rfl
  have hfee : w.store.feeBps = 250 := (congrArg feeBps hstore).symm
  refine ⟨⟨hnames, fun i _ => by rw [hjobs], fun i => ?_, fun a => ?_, ?_⟩, ?_⟩
  · rw [hlog, hjobs]
    rfl
  · simp [settledJobs, hnext]
  · rw [hfee]
    decide
  · simp [owed, hcredits, hnext, hbalance]

/-- **The escrow is solvent and settles a job at most once.** At every moment of every run, with
any code running while the escrow or the registry pays, the escrow's balance is at least the sum of
all credits and of the amounts of all jobs that are open, delivered or disputed; a job has been
settled once if its status says so and never otherwise, and the shares of its client, its agent and
the treasury then sum to its amount; and for each agent the registry has recorded exactly one more
outcome for each settled job than it had before. -/
theorem escrow_solvent_and_settles_once {w₀ w : State} (h₀ : Deployed this w₀)
    (h : Moment this w₀ w) :
    let s := w.store
    ∑ a, s.credits a + ∑ i ∈ (Finset.Icc 1 s.nextJobId).filter fun i =>
        (s.jobs i).status = .Open ∨ (s.jobs i).status = .Delivered ∨
          (s.jobs i).status = .Disputed, (s.jobs i).amount ≤ w.env.balance ∧
    (∀ jobId, (settlements s.log jobId).length ≤ 1 ∧
      ((settlements s.log jobId).length = 1 ↔ (s.jobs jobId).status = .Completed ∨
        (s.jobs jobId).status = .Refunded ∨ (s.jobs jobId).status = .Resolved) ∧
      ∀ x ∈ settlements s.log jobId, x.1 + x.2.1 + x.2.2 = (s.jobs jobId).amount) ∧
    ∀ agentId,
      (s.registry.agents agentId).jobsCompleted + (s.registry.agents agentId).jobsFailed =
        (w₀.store.registry.agents agentId).jobsCompleted +
          (w₀.store.registry.agents agentId).jobsFailed +
        ((Finset.Icc 1 s.nextJobId).filter fun i => (settlements s.log i).length = 1 ∧
          (s.jobs i).agentId = agentId).card := by
  have hsound : Sound this w₀.store.registry.outcomes 0 w :=
    (host_sound h₀.ne_zero).moment (by rintro _ rfl; exact h₀.sound) h
  have honce (i : Nat) : (settlements w.store.log i).length = 1 ↔
      (w.store.jobs i).status.settled = true := by
    have hi := hsound.kept.once i
    unfold Job.SettledOnce at hi
    split at hi
    · rename_i hsettled
      obtain ⟨x, hx, -⟩ := hi
      simp [hx, hsettled]
    · rename_i hsettled
      simp [hi, hsettled]
  have hstatus (status : JobStatus) : status.settled = true ↔
      status = .Completed ∨ status = .Refunded ∨ status = .Resolved := by
    cases status <;> simp [settled]
  refine ⟨?_, fun jobId => ⟨?_, (honce jobId).trans (hstatus _), ?_⟩, fun agentId => ?_⟩
  · have hbalance := hsound.balance
    have hheld (status : JobStatus) : status.held = true ↔
        status = .Open ∨ status = .Delivered ∨ status = .Disputed := by
      cases status <;> simp [held]
    have hlocked : ∑ i ∈ Finset.Icc 1 w.store.nextJobId, (w.store.jobs i).locked =
        ∑ i ∈ (Finset.Icc 1 w.store.nextJobId).filter fun i => (w.store.jobs i).status = .Open ∨
          (w.store.jobs i).status = .Delivered ∨ (w.store.jobs i).status = .Disputed,
            (w.store.jobs i).amount := by
      simp only [← hheld, sum_filter]
      rfl
    rw [← hlocked]
    unfold owed at hbalance
    omega
  · have hi := hsound.kept.once jobId
    unfold Job.SettledOnce at hi
    split at hi
    · obtain ⟨x, hx, -⟩ := hi
      simp [hx]
    · simp [hi]
  · intro x hx
    have hi := hsound.kept.once jobId
    unfold Job.SettledOnce at hi
    split at hi
    · obtain ⟨y, hy, htotal⟩ := hi
      rw [hy, List.mem_singleton] at hx
      rw [hx]
      exact htotal
    · rw [hi] at hx
      cases hx
  · simp only [honce]
    exact hsound.kept.outcomes agentId

/-! ### A run -/

/-- A call of the escrow or the registry in a world where every payment fails. -/
def perform (this : Address) (w : State) (call : Context × Method) : Option State :=
  if call.1.sender ≠ this ∧ call.1.timestamp = w.env.timestamp then
    ((run this call.1 call.2).play (fun _ w => (false, w)) (arrive w call.1 call.2)).map Prod.snd
  else none

lemma moment_of_perform {w₀ w : State} {calls : List (Context × Method)}
    (h : calls.foldlM (perform this) w₀ = some w) : Moment this w₀ w := by
  have hall : ∀ (calls : List (Context × Method)) (w1 : State), Moment this w₀ w1 →
      calls.foldlM (perform this) w1 = some w → Moment this w₀ w := by
    intro calls
    induction calls with
    | nil =>
      intro w1 hw1 hrun
      obtain rfl := some.inj hrun
      exact hw1
    | cons call rest ih =>
      intro w1 hw1 hrun
      obtain ⟨w2, hcall, hrest⟩ := bind_eq_some_iff.mp hrun
      refine ih w2 ?_ hrest
      simp only [perform] at hcall
      split at hcall
      · rename_i hadm
        obtain ⟨⟨u, w3⟩, hplay, rfl⟩ := map_eq_some_iff.mp hcall
        refine .returned hw1 ⟨call.1, call.2, hadm.1, hadm.2, rfl, rfl⟩ ?_
        refine exec_of_play (fun c w => ?_) hplay
        cases c <;> exact .inr ⟨rfl, rfl⟩
      · cases hcall
  exact hall calls w₀ (.start rfl) h

/-- An escrow at address `100` whose registry has one agent. -/
def sampleDeployed : State where
  store :=
    { registry :=
        { minBond := 0
          governance := 11
          escrow := 100
          nextId := 1
          agents := Function.update (fun _ => {}) 1 { owner := 21, status := .Active, pricePerJob := 5 } }
      governance := 11
      feeRecipient := 12
      log := [.FeeRecipientChanged 12, .GovernanceChanged 0 11] }
  env := ⟨0, 0, 0⟩

lemma sampleDeployed_deployed : Deployed 100 sampleDeployed :=
  ⟨⟨99, 11, 12, rfl⟩, rfl, by decide, rfl⟩

def sampleReleased : State :=
  ([(⟨31, 1000, 0⟩, .requestJob 1 0 []), (⟨21, 0, 0⟩, .deliver 1 7 []),
    (⟨31, 0, 0⟩, .release 1 5)].foldlM (perform 100) sampleDeployed).get (by decide +kernel)

/-- The agent and the treasury have got their shares of the job, and its outcome is recorded. -/
theorem escrow_solvent_and_settles_once_released :
    (settlements sampleReleased.store.log 1).length = 1 ∧
    ∀ x ∈ settlements sampleReleased.store.log 1, x.1 + x.2.1 + x.2.2 = 1000 := by
  obtain ⟨-, hjobs, -⟩ := escrow_solvent_and_settles_once sampleDeployed_deployed
    (moment_of_perform (some_get (by decide +kernel)).symm : Moment 100 _ sampleReleased)
  have hamount : (sampleReleased.store.jobs 1).amount = 1000 := by decide +kernel
  rw [← hamount]
  exact ⟨(hjobs 1).2.1.mpr (by decide +kernel), (hjobs 1).2.2⟩

end Ferminux.Agents
