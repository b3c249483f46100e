import Ferminux.Bridge.Books

/-!
# Bridge.Spec

**What every program of the bridge does to the books**, with arbitrary code running in the
middle of it. The assumption on that code (`rely`) is what the bridge itself guarantees:
while the reentrancy guard is up nothing changes on the books, and the bridge stays
solvent. `Bridge.Solvency` discharges the assumption.

Each lemma has the form: from a world in which the guard is up and the bridge is solvent,
with enough slack for what is about to be paid, the program hands control out only in
consistent worlds, and if it returns, the books have changed by exactly this delta.
-/

namespace Ferminux.Bridge

open Lib Ledger Lib.Prog Deployment Delta

variable {H : Type} [DecidableEq H] [Zero H]

namespace Chain

/-! ### The assumption on other code -/

omit [DecidableEq H] [Zero H]

variable (K : Chain H)

/-- What holds whenever other code has control. -/
structure Consistent (w : State H) : Prop where
  guard : w.store.reentrancy = 1 ∨ w.store.reentrancy = 2
  solvent : K.Solvent w

/-- What other code, and the calls of the bridge it makes, cannot do: lower or raise the
guard, or change the books behind it. -/
def Guarantee (w w' : State H) : Prop :=
  w'.store.reentrancy = w.store.reentrancy ∧ (w.store.reentrancy = 2 → K.Quiet w w')

/-- Other contracts, if what they do keeps the guarantee. -/
abbrev rely : Callee (Store H) Env (Answer H) := K.callee (Host.Keeps K.Consistent K.Guarantee)

variable {K} {u : Address} {x : Int} {w w' : State H} {α : Type} {Q : Unit → State H → Prop}

lemma SolventBy.consistent (hs : K.SolventBy u x w) (hx : 0 ≤ x)
    (hg : w.store.reentrancy = 2) : K.Consistent w :=
  ⟨.inr hg, hs.solvent hx⟩

lemma Consistent.quiet (hw : K.Consistent w) (hg : w.store.reentrancy = 2)
    (hact : Host.Keeps K.Consistent K.Guarantee w w') : K.Quiet w w' :=
  (hact hw).2.2 hg

variable {c : ExtCall} {held supply : Int} {token : Address} (hg : w.store.reentrancy = 2)
  {src : Address}

/-- **A call that goes through changes the books by its effect**, whatever else runs. -/
theorem Performs.change (heff : ∀ w1 w2, K.effect c w1 w2 → K.Change c.token { held, supply } w1 w2)
    (hg : w.store.reentrancy = 2) (hs : K.SolventBy c.token x w) (hx : 0 ≤ x) (hpaid : 0 ≤ x + held)
    (hp : K.Performs (Host.Keeps K.Consistent K.Guarantee) c w w') :
    K.Change c.token { held, supply } w w' := by
  have hw := hs.consistent hx hg
  rcases hp with ⟨_, w1, w2, hbefore, heffect, hafter⟩ | ⟨hh, hact⟩
  · have hq1 := (hw.quiet hg hbefore).retarget c.token
    have hc := hq1.trans (heff w1 w2 heffect)
    rw [zero_add] at hc
    have hg2 : w2.store.reentrancy = 2 := hc.guard.trans hg
    have hs2 := hs.change hc
    have hw2 := hs2.consistent (by simpa [margin] using hpaid) hg2
    have hq2 := (hw2.quiet hg2 hafter).retarget c.token
    have hc' := hc.trans hq2
    rwa [add_zero] at hc'
  · exact Change.of_not_honest hh ((hw.quiet hg hact).retarget c.token) held supply

lemma HandsOver.consistent
    (heff : ∀ w1 w2, K.effect c w1 w2 → K.Change c.token { held, supply } w1 w2)
    (hg : w.store.reentrancy = 2) (hs : K.SolventBy c.token x w) (hx : 0 ≤ x) (hpaid : 0 ≤ x + held)
    (hy : K.HandsOver (Host.Keeps K.Consistent K.Guarantee) c w w') : K.Consistent w' := by
  have hw := hs.consistent hx hg
  rcases hy with rfl | ⟨_, w1, hbefore, heffect⟩
  · exact hw
  · have hc := ((hw.quiet hg hbefore).retarget c.token).trans (heff w1 w' heffect)
    rw [zero_add] at hc
    exact (hs.change hc).consistent (by simpa [margin] using hpaid) (hc.guard.trans hg)

/-! ### Reads -/

lemma wp_balanceOf {who : Address} {Q : Nat → State H → Prop}
    (hQ : ∀ n, (K.honest token → n = w.env.balance token who) → Q n w) :
    (balanceOf token who).Wp K.rely K.Consistent Q w := by
  rw [balanceOf, wp_bind, wp_ask]
  refine ⟨fun w' hy => hy.elim, ?_⟩
  rintro ans w' ⟨rfl, hans⟩
  rw [wp_lift]
  exact fun n hn => hQ n fun hh => hans hh n hn

lemma wp_totalSupply {Q : Nat → State H → Prop} (hQ : ∀ n, Q n w) :
    (totalSupply token).Wp K.rely K.Consistent Q w := by
  rw [totalSupply, wp_bind, wp_ask]
  refine ⟨fun w' hy => hy.elim, ?_⟩
  rintro ans w' ⟨rfl, hans⟩
  rw [wp_lift]
  exact fun n _ => hQ n

lemma wp_bridgeOf {Q : Address → State H → Prop} (hQ : ∀ a, Q a w) :
    (bridgeOf token).Wp K.rely K.Consistent Q w := by
  rw [bridgeOf, wp_bind, wp_ask]
  refine ⟨fun w' hy => hy.elim, ?_⟩
  rintro ans w' rfl
  rw [wp_lift]
  exact fun a _ => hQ a

lemma wp_requireCode {account : Address} {reason : String}
    (hQ : Q () w) : (requireCode account reason).Wp K.rely K.Consistent Q w := by
  rw [requireCode, wp_bind, wp_ask]
  refine ⟨fun w' hy => hy.elim, ?_⟩
  rintro code w' rfl
  rw [liftM_eq_lift, wp_lift]
  exact fun _ _ => hQ

/-! ### Calls -/

include hg in
lemma wp_mint {dst : Address} {n : Nat} (hs : K.SolventBy token x w) (hx : 0 ≤ x)
    (hQ : ∀ w', K.Change token { held := entry dst n K.this, supply := n } w w' → Q () w') :
    (mint token dst n).Wp K.rely K.Consistent Q w := by
  have heff (w1 w2 : State H) (h : K.effect (.mint token dst n) w1 w2) :
      K.Change token { held := entry dst n K.this, supply := n } w1 w2 := by
    rw [show w2 = _ from h]
    exact change_mint
  have hpaid : 0 ≤ x + entry dst (n : Int) K.this := by
    unfold entry
    split <;> omega
  rw [mint, wp_bind, wp_ask]
  refine ⟨fun w' hy => HandsOver.consistent heff hg hs hx hpaid hy, fun ans w' hans => ?_⟩
  rw [wp_lift]
  rintro ⟨⟩ rfl
  exact hQ w' (Performs.change heff hg hs hx hpaid hans)

lemma wp_burn {n : Nat}
    (hsrc : src ≠ K.this) (hg : w.store.reentrancy = 2) (hs : K.SolventBy token x w)
    (hx : 0 ≤ x) (hQ : ∀ w', K.Change token { supply := -n } w w' → Q () w') :
    (burn token src n).Wp K.rely K.Consistent Q w := by
  have heff (w1 w2 : State H) (h : K.effect (.burn token src n) w1 w2) :
      K.Change token { held := 0, supply := -n } w1 w2 := by
    obtain ⟨hn, hsup, rfl⟩ := h
    have hc : K.Change token { held := -entry src n K.this, supply := -n } w1
        ⟨w1.store, w1.env.burn token src n⟩ := change_burn hn hsup
    rwa [entry_of_ne _ hsrc.symm, neg_zero] at hc
  rw [burn, wp_bind, wp_ask]
  refine ⟨fun w' hy => HandsOver.consistent heff hg hs hx (by omega) hy, fun ans w' hans => ?_⟩
  rw [wp_lift]
  rintro ⟨⟩ rfl
  exact hQ w' (Performs.change heff hg hs hx (by omega) hans)

lemma quiet_call (heffect : K.effect c = Eq) (hg : w.store.reentrancy = 2) (hs : K.Solvent w)
    (hQ : ∀ w', K.Quiet w w' → Q () w') :
    (∀ w', K.HandsOver (Host.Keeps K.Consistent K.Guarantee) c w w' → K.Consistent w') ∧
      ∀ ans w', K.Finishes (Host.Keeps K.Consistent K.Guarantee) c w ans w' →
        ∀ u, ans = .ok u → Q u w' := by
  have heff (w1 w2 : State H) (h : K.effect c w1 w2) :
      K.Change c.token { held := 0, supply := 0 } w1 w2 := by
    rw [heffect] at h
    subst h
    exact Change.refl w1
  refine ⟨fun w' hy => HandsOver.consistent heff hg (hs.by _) le_rfl le_rfl hy, ?_⟩
  rintro ans w' hans ⟨⟩ rfl
  exact hQ w' ((Performs.change heff hg (hs.by _) le_rfl le_rfl hans).retarget 0)

include hg in
lemma wp_proposeBridge {newBridge : Address}
    (hs : K.Solvent w) (hQ : ∀ w', K.Quiet w w' → Q () w') :
    (proposeBridge token newBridge).Wp K.rely K.Consistent Q w := by
  simp only [proposeBridge, wp_bind, wp_lift]
  exact quiet_call rfl hg hs hQ

include hg in
lemma wp_cancelBridgeRotation (hs : K.Solvent w) (hQ : ∀ w', K.Quiet w w' → Q () w') :
    (cancelBridgeRotation token).Wp K.rely K.Consistent Q w := by
  simp only [cancelBridgeRotation, wp_bind, wp_lift]
  exact quiet_call rfl hg hs hQ

include hg in
lemma wp_acceptBridge (hs : K.Solvent w) (hQ : ∀ w', K.Quiet w w' → Q () w') :
    (acceptBridge token).Wp K.rely K.Consistent Q w := by
  simp only [acceptBridge, wp_bind, wp_lift]
  exact quiet_call rfl hg hs hQ

lemma Returns.performs {act : State H → State H → Prop} {ans : Except String Returned}
    (hr : K.Returns act c w ans w') (hs : succeeded ans = .ok true) : K.Performs act c w w' := by
  cases ans with
  | error => cases hs
  | ok => exact hr.1 hs

lemma wp_safeTransferFrom {n : Nat}
    (hsrc : src ≠ K.this) (hg : w.store.reentrancy = 2) (hs : K.SolventBy token x w)
    (hx : 0 ≤ x) (hQ : ∀ w', K.Change token { held := n } w w' → Q () w') :
    (safeTransferFrom token src K.this n).Wp K.rely K.Consistent Q w := by
  have heff (w1 w2 : State H) (h : K.effect (.transferFrom token src K.this n) w1 w2) :
      K.Change token { held := n, supply := 0 } w1 w2 := by
    obtain ⟨hn, rfl⟩ := h
    have hc : K.Change token { held := entry K.this n K.this - entry src n K.this } w1
        ⟨w1.store, w1.env.move token src K.this n⟩ := change_move hn
    rwa [entry_of_ne _ hsrc.symm, entry_self, sub_zero] at hc
  rw [safeTransferFrom, wp_bind]
  refine wp_requireCode ?_
  rw [wp_bind, wp_ask]
  refine ⟨fun w' hy => HandsOver.consistent heff hg hs hx (by omega) hy, fun ret w' hret => ?_⟩
  simp only [wp_bind, liftM_eq_lift, wp_lift, require_eq_ok, forall_unit]
  rintro b hb rfl
  exact hQ w' (Performs.change heff hg hs hx (by omega) (hret.performs hb))

variable {token dst : Address} {n : Nat} {X : Callee (Store H) Env (Answer H)} {J : State H → Prop}
  {δ : Delta H} {e : Event H}

/-- What the bridge's balance does when `n` is paid to `dst`. -/
def paid (K : Chain H) (dst : Address) (n : Nat) : Int := entry dst n K.this - n

lemma paid_of_ne (hdst : dst ≠ K.this) : K.paid dst n = -n := by
  rw [paid, entry_of_ne _ hdst.symm, zero_sub]

lemma neg_le_paid : -(n : Int) ≤ K.paid dst n := by
  unfold paid entry
  split <;> omega

lemma change_pay (hn : n ≤ w.env.balance token K.this) :
    K.Change token { held := K.paid dst n } w ⟨w.store, w.env.move token K.this dst n⟩ := by
  have hc : K.Change token { held := entry dst n K.this - entry K.this n K.this } w
      ⟨w.store, w.env.move token K.this dst n⟩ := change_move hn
  rwa [entry_self] at hc

include hg in
lemma wp_settle {Q : Nat × Nat → State H → Prop} (hs : K.SolventBy token x w) (hx : n ≤ x)
    (hQ : ∀ r w', K.Change token { held := K.paid dst n } w w' → Q r w') :
    (K.settle token dst n).Wp K.rely K.Consistent Q w := by
  have heff (w1 w2 : State H) (h : K.effect (.transfer token dst n) w1 w2) :
      K.Change token { held := K.paid dst n, supply := 0 } w1 w2 := by
    obtain ⟨hn, rfl⟩ := h
    exact change_pay hn
  have hpaid : 0 ≤ x + K.paid dst n := by
    have h : -(n : Int) ≤ K.paid dst n := neg_le_paid
    omega
  rw [settle, wp_bind]
  refine wp_requireCode ?_
  rw [wp_bind]
  refine wp_balanceOf fun fromBefore _ => ?_
  rw [wp_bind]
  refine wp_balanceOf fun toBefore _ => ?_
  rw [wp_bind, wp_ask]
  refine ⟨fun w' hy => HandsOver.consistent heff hg hs (by omega) hpaid hy, fun ret w' hret => ?_⟩
  simp only [wp_bind, liftM_eq_lift, wp_lift, require_eq_ok, forall_unit]
  rintro b hb rfl
  -- what is measured afterwards can only make the call revert
  refine wp_balanceOf fun fromAfter _ => wp_balanceOf fun toAfter _ => ?_
  intro _ _
  exact hQ _ w' (Performs.change heff hg hs (by omega) hpaid (hret.performs hb))

include hg in
/-- **The one place value leaves the contract.** -/
theorem wp_payOut (hs : K.SolventBy token x w) (hx : n ≤ x)
    (hQ : ∀ w', K.Change token { held := K.paid dst n } w w' → Q () w') :
    (K.payOut token dst n).Wp K.rely K.Consistent Q w := by
  rw [payOut, wp_ite]
  refine ⟨fun h0 => ?_, fun h0 => ?_⟩
  · subst h0
    rw [safeTransferNative, wp_bind, wp_ask]
    have hmoves (w1 : State H) (h : Moves 0 K.this dst n w w1) :
        K.Change 0 { held := K.paid dst n } w w1 ∧ K.Consistent w1 := by
      obtain ⟨hn, rfl⟩ := h
      have hc : K.Change 0 { held := K.paid dst n } w ⟨w.store, w.env.move 0 K.this dst n⟩ :=
        change_pay hn
      have hpaid : -(n : Int) ≤ K.paid dst n := neg_le_paid
      refine ⟨hc, (hs.change hc).consistent ?_ hg⟩
      simp only [margin]
      omega
    refine ⟨fun w' hy => (hmoves w' hy).2, ?_⟩
    rintro ans w' (⟨reason, rfl, rfl⟩ | ⟨rfl, w1, hm, hact⟩)
    · simp [Except.isOk, Except.toBool]
    · obtain ⟨hc, hw1⟩ := hmoves w1 hm
      have hc' := hc.trans (hw1.quiet (hc.guard.trans hg) hact)
      rw [add_zero] at hc'
      simpa [Except.isOk, Except.toBool] using hQ w' hc'
  · rw [safeTransfer, wp_bind]
    refine wp_settle hg hs hx fun r w' hc => ?_
    simp only [liftM_eq_lift, wp_lift]
    exact fun _ _ => hQ w' hc

/-! ### The guard, events and governance -/

def raised (w : State H) : State H := ⟨{ w.store with reentrancy := 2 }, w.env⟩

def lowered (w : State H) : State H := ⟨{ w.store with reentrancy := 1 }, w.env⟩

lemma wp_nonReentrant {body : Contract H α} {Q : α → State H → Prop}
    (hbody : w.store.reentrancy = 1 → body.Wp X J (fun a w' => Q a (lowered w')) (raised w)) :
    (nonReentrant body).Wp X J Q w := by
  simp only [nonReentrant, enter, exit, wp_bind, wp_get, liftM_eq_lift,
    wp_lift, require_eq_ok, forall_unit, wp_modify, wp_pure]
  exact hbody

lemma Change.guarded (h : K.Change u δ (raised w) w')
    (hg : w.store.reentrancy = 1) : K.Change u δ w (lowered w') :=
  ⟨hg.symm, h.config, h.locked, h.accrued, h.sent, h.nonce, h.processed, h.logged, h.donated,
    h.held, h.supply⟩

lemma SolventBy.raised (h : K.SolventBy u x w) : K.SolventBy u x (raised w) := h

lemma wp_emit :
    (emit e).Wp X J Q w ↔ Q () ⟨{ w.store with logs := w.store.logs ++ [e] }, w.env⟩ := Iff.rfl

lemma wp_write {f : Store H → Store H}
    (hf : K.Change u δ w ⟨f w.store, w.env⟩) (hQ : ∀ w', K.Change u δ w w' → Q () w') :
    (Prog.modify f : Contract H Unit).Wp K.rely K.Consistent Q w :=
  hQ _ hf

lemma wp_emit_quiet (u : Address)
    (he : sents [e] = []) (he' : executions [e] = []) (hQ : ∀ w', K.Change u 0 w w' → Q () w') :
    (emit e).Wp K.rely K.Consistent Q w :=
  hQ _ (Change.of_store rfl (.refl _) rfl rfl (by simp [he]) (by simp [he']) rfl rfl)

lemma wp_gov {g : Gov H α} {Q : α → State H → Prop} :
    (gov g).Wp X J Q w ↔ Post g (fun a s => Q a ⟨{ w.store with
      config := s.config, logs := w.store.logs ++ s.emitted.map .gov }, w.env⟩)
      ⟨w.store.config, []⟩ :=
  wp_embed

/-- **Governance is not on the books.** -/
theorem wp_gov_quiet {g : Gov H α} {Q : α → State H → Prop} (u : Address)
    (hg : Post g (fun _ s => w.store.config.Kept s.config) ⟨w.store.config, []⟩)
    (hQ : ∀ a w', K.Change u 0 w w' → Q a w') : (gov g).Wp K.rely K.Consistent Q w := by
  rw [wp_gov]
  exact hg.mono fun a s hkept =>
    hQ a _ (Change.of_store rfl hkept rfl rfl (by simp) (by simp) rfl rfl)

lemma wp_registeredConfig {Q : TokenConfig → State H → Prop}
    (hQ : (w.store.config.tokenConfig token).kind ≠ .UNREGISTERED →
      Q (w.store.config.tokenConfig token) w) : (gov (registeredConfig token)).Wp X J Q w := by
  rw [wp_gov]
  simpa [registeredConfig] using hQ

end Chain

end Ferminux.Bridge
