import Ferminux.Bridge.World

/-!
# Bridge.Books

**The books of the bridge.** A `Delta` says what a piece of a call does to one token: to
the bridge's balance of it, its supply, the collateral and the fees, and which transfers
it sends and executes. `Change` relates two worlds by a delta; everything about every
*other* honest token is unchanged, except that plain transfers may come in at any time.
Changes add up (`Change.trans`), so a call's delta is the sum of its steps'.

`Solvent` is the balance sheet. While a payout is under way the sheet has slack
(`SolventBy`): the counters are written down before the tokens move.
-/

namespace Ferminux.Bridge

open Lib Ledger List Env

variable {H : Type} {l : List (GovEvent H)}

/-! ### Deltas -/

/-- What a step does to one token, as signed amounts. -/
@[ext] structure Delta (H : Type) where
  /-- The bridge's balance, plain transfers not counted. -/
  held : Int := 0
  supply : Int := 0
  locked : Int := 0
  accrued : Int := 0
  sent : List BridgeTransfer := []
  executed : List H := []
  logged : List H := []

namespace Delta

instance : Zero (Delta H) := ⟨{}⟩

instance : Add (Delta H) where
  add a b :=
    { held := a.held + b.held
      supply := a.supply + b.supply
      locked := a.locked + b.locked
      accrued := a.accrued + b.accrued
      sent := a.sent ++ b.sent
      executed := a.executed ++ b.executed
      logged := a.logged ++ b.logged }

variable (a b : Delta H)

@[simp] lemma add_held : (a + b).held = a.held + b.held := rfl
@[simp] lemma add_supply : (a + b).supply = a.supply + b.supply := rfl
@[simp] lemma add_locked : (a + b).locked = a.locked + b.locked := rfl
@[simp] lemma add_accrued : (a + b).accrued = a.accrued + b.accrued := rfl
@[simp] lemma add_sent : (a + b).sent = a.sent ++ b.sent := rfl
@[simp] lemma add_executed : (a + b).executed = a.executed ++ b.executed := rfl
@[simp] lemma add_logged : (a + b).logged = a.logged ++ b.logged := rfl
@[simp] lemma zero_held : (0 : Delta H).held = 0 := rfl
@[simp] lemma zero_supply : (0 : Delta H).supply = 0 := rfl
@[simp] lemma zero_locked : (0 : Delta H).locked = 0 := rfl
@[simp] lemma zero_accrued : (0 : Delta H).accrued = 0 := rfl
@[simp] lemma zero_sent : (0 : Delta H).sent = [] := rfl
@[simp] lemma zero_executed : (0 : Delta H).executed = [] := rfl
@[simp] lemma zero_logged : (0 : Delta H).logged = [] := rfl

@[simp] lemma zero_add : 0 + a = a := by ext <;> simp

@[simp] lemma add_zero : a + 0 = a := by ext <;> simp

/-- What is left over after the new obligations: what arrived, less what is owed. -/
def margin : Int := a.held - a.locked - a.accrued

@[simp] lemma margin_zero : (0 : Delta H).margin = 0 := rfl

end Delta

def sents (logs : List (Event H)) : List BridgeTransfer :=
  logs.filterMap fun
    | .Sent _ t _ => some t
    | _ => none

@[simp] lemma sents_append (l1 l2 : List (Event H)) : sents (l1 ++ l2) = sents l1 ++ sents l2 :=
  filterMap_append

@[simp] lemma sents_gov : sents (l.map .gov) = [] := by
  simp [sents, filterMap_map]

/-- The ids of the transfers that have been executed here, in order. -/
def executions (logs : List (Event H)) : List H :=
  logs.filterMap fun
    | .Executed id .. => some id
    | _ => none

@[simp] lemma executions_append (l1 l2 : List (Event H)) :
    executions (l1 ++ l2) = executions l1 ++ executions l2 :=
  filterMap_append

@[simp] lemma executions_gov : executions (l.map .gov) = [] := by
  simp [executions, filterMap_map]

/-! ### Changes -/

namespace Chain

variable (K : Chain H)

/-- **From `w` to `w'` the books of token `u` change by `δ`**, and nothing else does. -/
structure Change (u : Address) (δ : Delta H) (w w' : State H) : Prop where
  guard : w'.store.reentrancy = w.store.reentrancy
  config : w.store.config.Kept w'.store.config
  locked : ∀ t, (w'.store.lockedBalance t : Int) = w.store.lockedBalance t + entry u δ.locked t
  accrued : ∀ t, (w'.store.accruedFees t : Int) = w.store.accruedFees t + entry u δ.accrued t
  sent : sents w'.store.logs = sents w.store.logs ++ δ.sent
  nonce : w'.store.outboundNonce = w.store.outboundNonce + δ.sent.length
  processed : ∀ id, w'.store.processed id = true ↔ w.store.processed id = true ∨ id ∈ δ.executed
  logged : executions w'.store.logs = executions w.store.logs ++ δ.logged
  donated : ∀ t, w.env.donated t ≤ w'.env.donated t
  held : ∀ t, K.honest t → (K.held w' t : Int) - w'.env.donated t =
    K.held w t - w.env.donated t + entry u δ.held t
  supply : ∀ t, K.honest t → t ≠ 0 → (w'.env.supply t : Int) = w.env.supply t + entry u δ.supply t

/-- Nothing changes on the books of any token. -/
abbrev Quiet (w w' : State H) : Prop := K.Change 0 0 w w'

namespace Change

variable {K} {u : Address} {δ δ' : Delta H} {w w₁ w' : State H}

lemma trans (h : K.Change u δ w w₁) (h' : K.Change u δ' w₁ w') : K.Change u (δ + δ') w w' where
  guard := h'.guard.trans h.guard
  config := h.config.trans h'.config
  locked t := by rw [h'.locked, h.locked, Delta.add_locked, entry_add, add_assoc]
  accrued t := by rw [h'.accrued, h.accrued, Delta.add_accrued, entry_add, add_assoc]
  sent := by rw [h'.sent, h.sent, Delta.add_sent, append_assoc]
  nonce := by rw [h'.nonce, h.nonce, Delta.add_sent, length_append, add_assoc]
  processed id := by rw [h'.processed, h.processed, Delta.add_executed, mem_append, or_assoc]
  logged := by rw [h'.logged, h.logged, Delta.add_logged, append_assoc]
  donated t := (h.donated t).trans (h'.donated t)
  held t ht := by rw [h'.held t ht, h.held t ht, Delta.add_held, entry_add, add_assoc]
  supply t ht h0 := by rw [h'.supply t ht h0, h.supply t ht h0, Delta.add_supply, entry_add, add_assoc]

lemma of_env {held supply : Int} {s : Store H} {e e' : Env}
    (hdonated : ∀ t, e.donated t ≤ e'.donated t)
    (hheld : ∀ t, K.honest t → (e'.balance t K.this : Int) - e'.donated t =
      e.balance t K.this - e.donated t + entry u held t)
    (hsupply : ∀ t, K.honest t → t ≠ 0 → (e'.supply t : Int) = e.supply t + entry u supply t) :
    K.Change u { held, supply } ⟨s, e⟩ ⟨s, e'⟩ where
  guard := rfl
  config := .refl _
  locked t := by simp
  accrued t := by simp
  sent := by simp
  nonce := by simp
  processed id := by simp
  logged := by simp
  donated := hdonated
  held := hheld
  supply := hsupply

lemma of_store {s s' : Store H} {e : Env} (hguard : s'.reentrancy = s.reentrancy)
    (hconfig : s.config.Kept s'.config)
    (hlocked : s'.lockedBalance = s.lockedBalance) (haccrued : s'.accruedFees = s.accruedFees)
    (hsent : sents s'.logs = sents s.logs) (hlogged : executions s'.logs = executions s.logs)
    (hnonce : s'.outboundNonce = s.outboundNonce)
    (hprocessed : s'.processed = s.processed) : K.Change u 0 ⟨s, e⟩ ⟨s', e⟩ where
  guard := hguard
  config := hconfig
  locked t := by simp [hlocked]
  accrued t := by simp [haccrued]
  sent := by simp [hsent]
  nonce := by simp [hnonce]
  processed id := by simp [hprocessed]
  logged := by simp [hlogged]
  donated t := le_rfl
  held t _ := by simp [Chain.held]
  supply t _ _ := by simp

lemma refl (w : State H) : K.Change u 0 w w := of_store rfl (.refl _) rfl rfl rfl rfl rfl rfl

lemma retarget (h : K.Change u 0 w w') (v : Address) : K.Change v 0 w w' where
  guard := h.guard
  config := h.config
  locked t := by simpa using h.locked t
  accrued t := by simpa using h.accrued t
  sent := h.sent
  nonce := h.nonce
  processed := h.processed
  logged := h.logged
  donated := h.donated
  held t ht := by simpa using h.held t ht
  supply t ht h0 := by simpa using h.supply t ht h0

lemma of_not_honest (hu : ¬ K.honest u) (h : K.Change u 0 w w') (held supply : Int) :
    K.Change u { held, supply } w w' where
  guard := h.guard
  config := h.config
  locked := h.locked
  accrued := h.accrued
  sent := h.sent
  nonce := h.nonce
  processed := h.processed
  logged := h.logged
  donated := h.donated
  held t ht := by
    have hne : t ≠ u := fun heq => hu (heq ▸ ht)
    rw [h.held t ht, entry_of_ne _ hne, entry_of_ne _ hne]
  supply t ht h0 := by
    have hne : t ≠ u := fun heq => hu (heq ▸ ht)
    rw [h.supply t ht h0, entry_of_ne _ hne, entry_of_ne _ hne]

end Change

/-! ### What the writes of the bridge change -/

section Store

variable {K} {u : Address} {w : State H} {v : Nat} {d : Int} {id : H}

lemma entry_update {f : Address → Nat} (hv : (v : Int) = f u + d)
    (t : Address) : (Function.update f u v t : Int) = f t + entry u d t := by
  by_cases h : t = u
  · subst h
    simpa using hv
  · simp [h, entry]

lemma change_locked (hv : (v : Int) = w.store.lockedBalance u + d) :
    K.Change u { locked := d } w ⟨{ w.store with
      lockedBalance := Function.update w.store.lockedBalance u v }, w.env⟩ :=
  { Change.refl (K := K) (u := u) w with locked := entry_update hv }

lemma change_accrued (hv : (v : Int) = w.store.accruedFees u + d) :
    K.Change u { accrued := d } w ⟨{ w.store with
      accruedFees := Function.update w.store.accruedFees u v }, w.env⟩ :=
  { Change.refl (K := K) (u := u) w with accrued := entry_update hv }

lemma change_processed [DecidableEq H] : K.Change u { executed := [id] } w ⟨{ w.store with
      processed := Function.update w.store.processed id true }, w.env⟩ :=
  { Change.refl (K := K) (u := u) w with
    processed := by
      intro id'
      by_cases h : id' = id
      · subst h
        simp
      · simp [h] }

lemma change_sent (id : H) (t : BridgeTransfer) (fee : Nat) {n : Nat}
    (hn : w.store.outboundNonce + 1 = n) : K.Change u { sent := [t] } w ⟨{ w.store with
      outboundNonce := n, logs := w.store.logs ++ [.Sent id t fee] }, w.env⟩ :=
  { Change.refl (K := K) (u := u) w with
    sent := by simp [sents]
    nonce := hn.symm
    logged := by simp [executions] }

lemma change_logged {src : Nat} {localToken remoteToken recipient : Address}
    {amount count : Nat} : K.Change u { logged := [id] } w ⟨{ w.store with logs := w.store.logs ++
      [.Executed id src localToken remoteToken recipient amount count] }, w.env⟩ :=
  { Change.refl (K := K) (u := u) w with
    sent := by simp [sents]
    logged := by simp [executions] }

end Store

/-! ### What the steps of the environment change -/

section Env

variable {K} {e : Env} {s : Store H} {u src dst : Address} {n : Nat}

lemma balance_withLedger (e : Env) (l : Ledger Address) (t who : Address) :
    (e.withLedger u l).balance t who = if t = u then l.balance who else e.balance t who := by
  by_cases h : t = u
  · subst h
    simp [Env.withLedger, Env.balance]
  · simp [Env.withLedger, Env.balance, h]

lemma supply_withLedger (e : Env) (l : Ledger Address) (t : Address) :
    (e.withLedger u l).supply t = if t = u then l.supply else e.supply t := by
  by_cases h : t = u
  · subst h
    simp [Env.withLedger, Env.supply]
  · simp [Env.withLedger, Env.supply, h]

lemma change_withLedger {l : Ledger Address} {held supply : Int}
    (hheld : (l.balance K.this : Int) = (e.ledger u).balance K.this + held)
    (hsupply : u ≠ 0 → (l.supply : Int) = (e.ledger u).supply + supply) :
    K.Change u { held, supply } ⟨s, e⟩ ⟨s, e.withLedger u l⟩ := by
  refine Change.of_env (fun t => le_rfl) (fun t _ => ?_) (fun t _ h0 => ?_)
  · rw [balance_withLedger]
    by_cases h : t = u
    · subst h
      rw [if_pos rfl, entry_self, hheld]
      show _ - (e.donated t : Int) = (e.ledger t).balance K.this - (e.donated t : Int) + held
      omega
    · rw [if_neg h, entry_of_ne _ h]
      show _ - (e.donated t : Int) = _ - (e.donated t : Int) + 0
      omega
  · rw [supply_withLedger]
    by_cases h : t = u
    · subst h
      rw [if_pos rfl, entry_self, hsupply h0]
      rfl
    · rw [if_neg h, entry_of_ne _ h]
      omega

lemma change_move (hn : n ≤ e.balance u src) :
    K.Change u { held := entry dst n K.this - entry src n K.this } ⟨s, e⟩
      ⟨s, e.move u src dst n⟩ := by
  refine change_withLedger ?_ fun _ => by simp
  rw [balance_move hn]
  omega

lemma change_mint :
    K.Change u { held := entry dst n K.this, supply := n } ⟨s, e⟩ ⟨s, e.mint u dst n⟩ :=
  change_withLedger (balance_mint dst n K.this) fun _ => by simp

lemma change_burn (hn : n ≤ e.balance u src) (hs : n ≤ e.supply u) :
    K.Change u { held := -entry src n K.this, supply := -n } ⟨s, e⟩ ⟨s, e.burn u src n⟩ := by
  refine change_withLedger ?_ fun _ => ?_
  · rw [balance_burn hn]
    omega
  · have : n ≤ (e.ledger u).supply := hs
    rw [supply_burn]
    omega

lemma change_donate {δ : Delta H} {e' : Env}
    (h : K.Change u { δ with held := δ.held + n } ⟨s, e⟩ ⟨s, e'⟩) :
    K.Change u δ ⟨s, e⟩ ⟨s, e'.donate u n⟩ := by
  have hdon (t : Address) : (e'.donate u n).donated t = e'.donated t + entry u n t := by
    by_cases ht : t = u
    · subst ht
      simp [donate]
    · simp [donate, ht, entry]
  refine ⟨h.guard, h.config, h.locked, h.accrued, h.sent, h.nonce, h.processed, h.logged,
    fun t => ?_, fun t ht => ?_, h.supply⟩
  · refine (h.donated t).trans ?_
    show e'.donated t ≤ (Function.update e'.donated u (e'.donated u + n)) t
    by_cases ht : t = u
    · subst ht
      simp
    · simp [ht]
  · have hheld := h.held t ht
    simp only [entry_add] at hheld
    have := hdon t
    show (K.held ⟨s, e'⟩ t : Int) - (e'.donate u n).donated t =
      K.held ⟨s, e⟩ t - e.donated t + entry u δ.held t
    omega

end Env

/-- **Other code on its own changes nothing on the books.** -/
theorem Foreign.quiet {K : Chain H} {w w' : State H} (h : K.Foreign w w') : K.Quiet w w' := by
  cases h with
  | transfer s e token src dst n hsrc hn hdst =>
    have h : K.Change token { held := entry dst n K.this - entry src n K.this } ⟨s, e⟩
        ⟨s, e.move token src dst n⟩ := change_move hn
    rw [entry_of_ne _ hsrc.symm, entry_of_ne _ hdst.symm] at h
    exact h.retarget 0
  | transferIn s e token src n hsrc hn =>
    have h : K.Change token { held := entry K.this n K.this - entry src n K.this } ⟨s, e⟩
        ⟨s, e.move token src K.this n⟩ := change_move hn
    rw [entry_of_ne _ hsrc.symm, entry_self] at h
    have h0 : K.Change token 0 ⟨s, e⟩ ⟨s, (e.move token src K.this n).donate token n⟩ :=
      change_donate (by simpa using h)
    exact h0.retarget 0
  | forced =>
    refine change_donate (change_withLedger ?_ fun h => absurd rfl h)
    rw [balance_mint, entry_self]
    simp
  | other _ e e' h =>
    refine Change.of_env (fun t => by rw [h.donated]) (fun t ht => ?_) (fun t ht h0 => ?_)
    · have hbal : e'.balance t K.this = e.balance t K.this := by
        by_cases h0 : t = 0
        · rw [h0]
          exact h.native
        · rw [Env.balance, h.ledger t ht h0]
          rfl
      rw [hbal, h.donated]
      simp
    · rw [Env.supply, h.ledger t ht h0]
      simp [Env.supply]

/-! ### The balance sheet -/

/-- The bridge holds what it owes, of every honest token. -/
def Solvent (w : State H) : Prop :=
  ∀ t, K.honest t → w.store.lockedBalance t + w.store.accruedFees t ≤ K.held w t

/-- The same with an amount `x` of token `u` to spare. -/
def SolventBy (u : Address) (x : Int) (w : State H) : Prop :=
  ∀ t, K.honest t →
    (w.store.lockedBalance t : Int) + w.store.accruedFees t + entry u x t ≤ K.held w t

variable {K} {u : Address} {x : Int} {δ : Delta H} {w w' : State H}

lemma Solvent.by (h : K.Solvent w) (u : Address) : K.SolventBy u 0 w := by
  intro t ht
  have := h t ht
  rw [entry_zero]
  omega

lemma Solvent.slack (h : K.Solvent w) {n : Nat}
    (hn : K.honest u → w.store.lockedBalance u + w.store.accruedFees u + n ≤ K.held w u) :
    K.SolventBy u n w := by
  intro t ht
  by_cases htu : t = u
  · subst htu
    have := hn ht
    rw [entry_self]
    omega
  · have := h t ht
    rw [entry_of_ne _ htu]
    omega

lemma SolventBy.solvent (h : K.SolventBy u x w) (hx : 0 ≤ x) : K.Solvent w := by
  intro t ht
  have hle := h t ht
  have hentry : 0 ≤ entry u x t := by
    unfold entry
    split <;> omega
  omega

lemma SolventBy.change (h : K.SolventBy u x w) (hc : K.Change u δ w w') :
    K.SolventBy u (x + δ.margin) w' := by
  intro t ht
  have hle := h t ht
  have hheld := hc.held t ht
  have hdonated := hc.donated t
  rw [hc.locked, hc.accrued, entry_add]
  have hmargin : entry u δ.margin t =
      entry u δ.held t - entry u δ.locked t - entry u δ.accrued t := by
    by_cases htu : t = u <;> simp [entry, htu, Delta.margin]
  omega

end Chain

end Ferminux.Bridge
