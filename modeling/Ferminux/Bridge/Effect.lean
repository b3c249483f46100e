import Ferminux.Bridge.Spec

/-!
# Bridge.Effect

**What a successful call of the bridge does**, function by function: `Booked` lists the
deltas, and `wp_run` proves that every call that succeeds, from any consistent world and
with any code running in the middle of it, changes the books by the delta listed for it
and by nothing else.
-/

namespace Ferminux.Bridge

open Lib Ledger Lib.Prog Deployment

variable {H : Type}

namespace Chain

variable {K : Chain H} {w w' : State H} {m : Context} {x : Int} {Q : Unit → State H → Prop}

/-! ### Outbound -/

section Outbound

variable {localToken : Address} {kind : TokenKind} {amount net fee : Nat}

/-- What a deposit of an ERC-20 token brings in; the native coin arrives with the call. -/
def pulled (localToken : Address) (kind : TokenKind) (amount : Nat) : Int :=
  if localToken ≠ 0 ∧ kind = .CANONICAL then amount else 0

lemma wp_pullIn (hsender : m.sender ≠ K.this)
    (hg : w.store.reentrancy = 2) (hs : K.SolventBy localToken x w) (hx : 0 ≤ x)
    (hQ : ∀ w', m.value = (if localToken = 0 then amount else 0) →
      K.Change localToken { held := pulled localToken kind amount } w w' → Q () w') :
    (K.pullIn m localToken kind amount).Wp K.rely K.Consistent Q w := by
  rw [pullIn, wp_ite]
  refine ⟨fun h0 => ?_, fun h0 => ?_⟩
  · rw [liftM_eq_lift, wp_lift]
    intro _ hvalue
    rw [require_eq_ok] at hvalue
    refine hQ w (by rw [if_pos h0, hvalue]) ?_
    rw [pulled, if_neg fun h => h.1 h0]
    exact Change.refl w
  · simp only [wp_bind, liftM_eq_lift, wp_lift, require_eq_ok, forall_unit, wp_ite]
    intro hvalue
    have hvalue' : m.value = if localToken = 0 then amount else 0 := by rw [if_neg h0, hvalue]
    refine ⟨fun hkind => ?_, fun hkind => ?_⟩
    · refine wp_balanceOf fun balBefore _ => ?_
      refine wp_safeTransferFrom hsender hg hs hx fun w' hc => ?_
      refine wp_balanceOf fun balAfter _ => ?_
      intro _ _ _
      refine hQ w' hvalue' ?_
      rwa [pulled, if_pos ⟨h0, hkind⟩]
    · refine hQ w hvalue' ?_
      rw [pulled, if_neg fun h => hkind h.2]
      exact Change.refl w

lemma wp_outboundRails (hQ : ∀ w', K.Change localToken 0 w w' → Q () w') :
    (outboundRails m localToken amount).Wp K.rely K.Consistent Q w := by
  simp only [outboundRails, wp_bind, wp_get, liftM_eq_lift, wp_lift, wp_modify]
  intro _ _ window _
  exact hQ _ (Change.of_store rfl (.refl _) rfl rfl rfl rfl rfl rfl)

lemma wp_splitFee {Q : Nat × Nat → State H → Prop}
    (hQ : ∀ net fee, net + fee = amount → 0 < net → Q (net, fee) w) :
    (splitFee amount).Wp K.rely K.Consistent Q w := by
  simp only [splitFee, wp_bind, wp_get, liftM_eq_lift, wp_lift,
    wp_pure, checkedMul_eq_ok, checkedSub_eq_ok, require_eq_ok, forall_unit]
  rintro product ⟨_, rfl⟩ net ⟨hle, rfl⟩ hpos
  exact hQ _ _ (Nat.sub_add_cancel hle) hpos

/-- Collateral for a canonical token; a burn and the minted fee for a wrapped one. -/
def lockDelta (kind : TokenKind) (net fee : Nat) : Delta H :=
  if kind = .CANONICAL then { locked := net } else { held := fee, supply := -net }

@[simp] lemma lockDelta_sent : (lockDelta kind net fee : Delta H).sent = [] := by
  unfold lockDelta
  split <;> rfl

lemma wp_mintFee (hg : w.store.reentrancy = 2) (hs : K.SolventBy localToken x w) (hx : 0 ≤ x)
    (hQ : ∀ w', K.Change localToken { held := fee, supply := fee } w w' → Q () w') :
    (lockOrBurn.mintFee K.toDeployment localToken fee).Wp K.rely K.Consistent Q w := by
  rw [lockOrBurn.mintFee, wp_ite]
  refine ⟨fun _ => wp_mint hg hs hx fun w' hc => hQ w' ?_, fun hfee => hQ w ?_⟩
  · rwa [entry_self] at hc
  · obtain rfl : fee = 0 := by omega
    exact Change.refl w

lemma wp_lockOrBurn (hsender : m.sender ≠ K.this)
    (hnet : net + fee = amount) (hg : w.store.reentrancy = 2)
    (hs : K.SolventBy localToken x w) (hx : 0 ≤ x) (hQ : ∀ w', K.Change localToken
      (lockDelta (w.store.config.tokenConfig localToken).kind net fee) w w' → Q () w') :
    (K.lockOrBurn m localToken amount net fee).Wp K.rely K.Consistent Q w := by
  simp only [lockOrBurn, wp_bind, wp_get, wp_ite]
  refine ⟨fun hkind => ?_, fun hkind => ?_⟩
  · simp only [liftM_eq_lift, wp_lift, wp_modify, checkedAdd_eq_ok]
    rintro locked ⟨_, rfl⟩
    refine hQ _ ?_
    rw [lockDelta, if_pos hkind]
    exact change_locked (by push_cast; rfl)
  · refine wp_totalSupply fun supplyBefore => ?_
    refine wp_burn hsender hg hs hx fun w1 hburn => ?_
    have hg1 : w1.store.reentrancy = 2 := hburn.guard.trans hg
    have hs1 := hs.change hburn
    refine wp_mintFee hg1 hs1 (by simpa [Delta.margin] using hx) fun w2 hmint => ?_
    refine wp_totalSupply fun supplyAfter => ?_
    simp only [liftM_eq_lift, wp_lift]
    intro _ _ _ _
    refine hQ w2 ?_
    have hc := hburn.trans hmint
    have hδ : ({ supply := -(amount : Int) } + { held := fee, supply := fee } : Delta H) =
        lockDelta (w.store.config.tokenConfig localToken).kind net fee := by
      rw [lockDelta, if_neg hkind]
      ext <;> simp
      omega
    rwa [hδ] at hc

lemma wp_accrueFee (hQ : ∀ w', K.Change localToken { accrued := fee } w w' → Q () w') :
    (accrueFee localToken fee).Wp K.rely K.Consistent Q w := by
  rw [accrueFee, wp_ite]
  refine ⟨fun _ => ?_, fun hfee => hQ w ?_⟩
  · simp only [wp_bind, wp_get, liftM_eq_lift, wp_lift, wp_modify, checkedAdd_eq_ok]
    rintro accrued ⟨_, rfl⟩
    exact hQ _ (change_accrued (by push_cast; rfl))
  · obtain rfl : fee = 0 := by omega
    exact Change.refl w

/-- What a transfer sent by a call is: its fields, from the call and the storage the call
found. -/
structure Outgoing (s : Store H) (m : Context) (localToken : Address) (amount : Nat)
    (recipient : Address) (t : BridgeTransfer) (fee : Nat) : Prop where
  guard : s.reentrancy = 1
  registered : (s.config.tokenConfig localToken).kind ≠ .UNREGISTERED
  value : m.value = if localToken = 0 then amount else 0
  amount : t.amount + fee = amount
  srcChainId : t.srcChainId = m.chainid % 2 ^ 64
  dstChainId : t.dstChainId = (s.config.tokenConfig localToken).remoteChainId
  nonce : t.nonce = s.outboundNonce + 1
  srcToken : t.srcToken = localToken
  dstToken : t.dstToken = (s.config.tokenConfig localToken).remoteToken
  sender : t.sender = m.sender
  recipient : t.recipient = recipient

/-- The books of `send`, the native coin that arrives with the call not counted. -/
def sendDelta (kind : TokenKind) (t : BridgeTransfer) (fee : Nat) : Delta H :=
  { held := pulled t.srcToken kind (t.amount + fee) } +
    (lockDelta kind t.amount fee + { accrued := fee, sent := [t] })

lemma wp_send {dstChainId : Nat} {recipient : Address} {Q : H → State H → Prop}
    (hsender : m.sender ≠ K.this) (hs : K.SolventBy localToken x w) (hx : 0 ≤ x)
    (hQ : ∀ id t fee w', Outgoing w.store m localToken amount recipient t fee →
      K.Change localToken (sendDelta (w.store.config.tokenConfig localToken).kind t fee) w w' →
      Q id w') : (K.send m localToken amount dstChainId recipient).Wp K.rely K.Consistent Q w := by
  refine wp_nonReentrant fun hguard => ?_
  simp only [wp_bind, wp_get, liftM_eq_lift, wp_lift, require_eq_ok, forall_unit]
  intro _ _ _
  refine wp_registeredConfig fun hreg => ?_
  intro _ hdst _
  refine wp_pullIn hsender rfl hs.raised hx fun w1 hvalue hpull => ?_
  refine wp_outboundRails fun w2 hrails => ?_
  refine wp_splitFee fun net fee hnet _ => ?_
  -- the route cannot have changed meanwhile: the token is registered
  have h2 := hpull.trans hrails
  rw [Delta.add_zero] at h2
  obtain ⟨hkind2, _, _⟩ := h2.config.routes localToken hreg
  refine wp_lockOrBurn hsender hnet h2.guard (hs.raised.change h2) ?_ fun w3 hlock => ?_
  · have hpulled : 0 ≤ pulled localToken (w.store.config.tokenConfig localToken).kind amount := by
      unfold pulled
      split <;> omega
    simp only [Delta.margin, raised]
    omega
  refine wp_accrueFee fun w4 haccrue => ?_
  have h4 := h2.trans (hlock.trans haccrue)
  obtain ⟨_, _, htoken4⟩ := h4.config.routes localToken hreg
  have hnonce4 : w4.store.outboundNonce = w.store.outboundNonce := by
    have h := h4.nonce
    rw [hkind2] at h
    simpa [raised] using h
  simp only [announce, wp_bind, wp_get, liftM_eq_lift, wp_lift,
    wp_modify, wp_pure, wp_emit, checkedAdd_eq_ok]
  rintro n ⟨_, rfl⟩
  let t : BridgeTransfer :=
    ⟨m.chainid % 2 ^ 64, dstChainId, w4.store.outboundNonce + 1, localToken,
      (w4.store.config.tokenConfig localToken).remoteToken, m.sender, recipient, net⟩
  have hnonce : t.nonce = w.store.outboundNonce + 1 := by
    show w4.store.outboundNonce + 1 = _
    rw [hnonce4]
  have hout : Outgoing w.store m localToken amount recipient t fee :=
    ⟨hguard, hreg, hvalue, hnet, rfl, hdst, hnonce, rfl, htoken4, rfl, rfl⟩
  refine hQ _ t fee _ hout (Change.guarded ?_ hguard)
  have hsent : K.Change localToken { sent := [t] } w4 _ := change_sent (K.transferIdOf t) t fee rfl
  have h5 := h4.trans hsent
  rw [hkind2] at h5
  have hδ : ({ held := pulled localToken (w.store.config.tokenConfig localToken).kind amount } +
      (lockDelta (w.store.config.tokenConfig localToken).kind net fee + { accrued := fee }) +
      { sent := [t] } : Delta H) = sendDelta (w.store.config.tokenConfig localToken).kind t fee := by
    rw [sendDelta, show t.amount + fee = amount from hnet]
    ext <;> simp [t]
  rw [← hδ]
  exact h5

end Outbound

/-! ### Inbound -/

section Inbound

variable [DecidableEq H] {t : BridgeTransfer} {id : H}

omit [DecidableEq H] in
lemma wp_inboundRails {localToken : Address} {amount : Nat}
    (hQ : ∀ w', K.Change localToken 0 w w' → Q () w') :
    (inboundRails m localToken amount).Wp K.rely K.Consistent Q w := by
  simp only [inboundRails, wp_bind, wp_get, liftM_eq_lift, wp_lift, wp_modify]
  intro _ _ window _
  exact hQ _ (Change.of_store rfl (.refl _) rfl rfl rfl rfl rfl rfl)

/-- **A release**: the collateral is written down first, and that is the slack the payout
uses. An armed transfer is paid the same way. -/
theorem wp_release [Zero H] (hrecipient : t.recipient ≠ K.this)
    (hg : w.store.reentrancy = 2) (hs : K.SolventBy t.dstToken x w) (hx : 0 ≤ x)
    (hQ : ∀ w', K.Change t.dstToken { held := -t.amount, locked := -t.amount } w w' → Q () w') :
    (K.release t id).Wp K.rely K.Consistent Q w := by
  simp only [release, wp_bind, wp_get, liftM_eq_lift, wp_lift, checkedSub_eq_ok]
  rintro locked ⟨hle, rfl⟩
  refine wp_write (u := t.dstToken) (change_locked (d := -t.amount) (by omega)) fun w1 hlock => ?_
  have hg1 := hlock.guard.trans hg
  have hδ : ({ locked := -t.amount } + { held := K.paid t.recipient t.amount } : Delta H) =
      { held := -t.amount, locked := -t.amount } := by
    rw [paid_of_ne hrecipient]
    ext <;> simp
  have hmargin : (t.amount : Int) ≤ x + ({ locked := -t.amount } : Delta H).margin := by
    simp only [Delta.margin]
    omega
  rw [wp_ite]
  refine ⟨fun _ => ?_, fun _ => ?_⟩
  · simp only [wp_bind]
    refine wp_write (u := t.dstToken)
      (Change.of_store rfl ⟨RoutesKept.refl, fun h => h⟩ rfl rfl rfl rfl rfl rfl)
      fun w2 hdisarm => ?_
    have h2 := hlock.trans hdisarm
    rw [Delta.add_zero] at h2
    refine wp_settle (h2.guard.trans hg) (hs.change h2) hmargin fun r w3 hpay => ?_
    refine wp_emit_quiet t.dstToken rfl rfl fun w4 hemit => hQ w4 ?_
    have h4 := h2.trans (hpay.trans hemit)
    rwa [Delta.add_zero, hδ] at h4
  · refine wp_payOut hg1 (hs.change hlock) hmargin fun w2 hpay => hQ w2 ?_
    have h2 := hlock.trans hpay
    rwa [hδ] at h2

omit [DecidableEq H] in
lemma wp_mintOut (hrecipient : t.recipient ≠ K.this)
    (hg : w.store.reentrancy = 2) (hs : K.SolventBy t.dstToken x w) (hx : 0 ≤ x)
    (hQ : ∀ w', K.Change t.dstToken { supply := t.amount } w w' → Q () w') :
    (mintOut t).Wp K.rely K.Consistent Q w := by
  simp only [mintOut, wp_bind, liftM_eq_lift, wp_lift]
  refine wp_balanceOf fun before _ => ?_
  refine wp_mint hg hs hx fun w' hmint => ?_
  refine wp_balanceOf fun after _ => ?_
  intro _ _ _ _
  rw [entry_of_ne _ hrecipient.symm] at hmint
  exact hQ w' hmint

/-- What `execute` checks of a transfer before anything moves. -/
structure Incoming (K : Chain H) (s : Store H) (m : Context) (t : BridgeTransfer)
    (sigs : List Signature) : Prop where
  guard : s.reentrancy = 1
  fresh : s.processed (K.transferIdOf t) = false
  registered : (s.config.tokenConfig t.dstToken).kind ≠ .UNREGISTERED
  dstChainId : t.dstChainId = m.chainid % 2 ^ 64
  srcChainId : (s.config.tokenConfig t.dstToken).remoteChainId = t.srcChainId
  srcToken : (s.config.tokenConfig t.dstToken).remoteToken = t.srcToken
  signed : K.verifySignatures s.config.isValidator s.config.threshold
    (K.hashTransfer m.chainid t) sigs = .ok ()

def executeDelta (kind : TokenKind) (t : BridgeTransfer) (id : H) : Delta H :=
  if kind = .CANONICAL then
    { held := -t.amount, locked := -t.amount, executed := [id], logged := [id] }
  else
    { supply := t.amount, executed := [id], logged := [id] }

lemma wp_execute [Zero H] {sigs : List Signature} (hs : K.Solvent w)
    (hQ : ∀ w', Incoming K w.store m t sigs → K.Change t.dstToken
      (executeDelta (w.store.config.tokenConfig t.dstToken).kind t (K.transferIdOf t)) w w' →
      Q () w') : (K.execute m t sigs).Wp K.rely K.Consistent Q w := by
  refine wp_nonReentrant fun hguard => ?_
  simp only [wp_bind, wp_get, liftM_eq_lift, wp_lift, require_eq_ok, forall_unit]
  intro _ hdst _ _ hrecipient _ hfresh
  refine wp_registeredConfig fun hreg => ?_
  intro _ hchain htoken
  refine wp_inboundRails fun w1 hrails => ?_
  intro hsigned
  refine wp_write (u := t.dstToken) change_processed fun w2 hmark => ?_
  have h2 := hrails.trans hmark
  rw [Delta.zero_add] at h2
  have hs2 := (hs.by t.dstToken).raised.change h2
  have hg2 : w2.store.reentrancy = 2 := h2.guard
  have hincoming : Incoming K w.store m t sigs :=
    ⟨hguard, hfresh, hreg, hdst, hchain, htoken, hsigned⟩
  rw [deliver, wp_ite]
  refine ⟨fun (hkind : (w.store.config.tokenConfig t.dstToken).kind = .CANONICAL) => ?_,
    fun (hkind : ¬ (w.store.config.tokenConfig t.dstToken).kind = .CANONICAL) => ?_⟩
  · refine wp_release hrecipient hg2 hs2 (by simp [Delta.margin]) fun w3 hrelease => ?_
    refine wp_write (u := t.dstToken) change_logged fun w4 hemit => hQ _ hincoming ?_
    have h4 := h2.trans (hrelease.trans hemit)
    refine Change.guarded ?_ hguard
    have hδ : ({ executed := [K.transferIdOf t] } +
        ({ held := -t.amount, locked := -t.amount } + { logged := [K.transferIdOf t] }) : Delta H) =
        executeDelta (w.store.config.tokenConfig t.dstToken).kind t (K.transferIdOf t) := by
      rw [executeDelta, if_pos hkind]
      ext <;> simp
    rwa [hδ] at h4
  · refine wp_mintOut hrecipient hg2 hs2 (by simp [Delta.margin]) fun w3 hmint => ?_
    refine wp_write (u := t.dstToken) change_logged fun w4 hemit => hQ _ hincoming ?_
    have h4 := h2.trans (hmint.trans hemit)
    refine Change.guarded ?_ hguard
    have hδ : ({ executed := [K.transferIdOf t] } +
        ({ supply := t.amount } + { logged := [K.transferIdOf t] }) : Delta H) =
        executeDelta (w.store.config.tokenConfig t.dstToken).kind t (K.transferIdOf t) := by
      rw [executeDelta, if_neg hkind]
      ext <;> simp
    rwa [hδ] at h4

end Inbound

/-! ### Fee sink and rescue -/

section Sinks

variable {token dest : Address} {amount : Nat}

lemma wp_heldBalance {Q : Nat → State H → Prop}
    (hQ : ∀ n, (K.honest token → n = K.held w token) → Q n w) :
    (K.heldBalance token).Wp K.rely K.Consistent Q w := by
  rw [heldBalance, wp_ite]
  refine ⟨fun h0 => ?_, fun _ => wp_balanceOf hQ⟩
  rw [wp_ask]
  refine ⟨fun w' hy => hy.elim, ?_⟩
  rintro n w' ⟨rfl, hn⟩
  exact hQ n fun _ => by rw [hn, h0]; rfl

lemma wp_surplusOf {Q : Nat → State H → Prop} (hQ : ∀ n, (K.honest token → 0 < n →
      w.store.lockedBalance token + w.store.accruedFees token + n ≤ K.held w token) → Q n w) :
    (K.surplusOf token).Wp K.rely K.Consistent Q w := by
  simp only [surplusOf, wp_bind, wp_get, liftM_eq_lift, wp_lift, wp_pure, checkedAdd_eq_ok]
  rintro reserved ⟨_, rfl⟩
  refine wp_heldBalance fun bal hbal => hQ _ fun hh hpos => ?_
  rw [hbal hh] at hpos ⊢
  split at hpos
  · rw [if_pos ‹_›]
    omega
  · omega

def sweepDelta (K : Chain H) (collector : Address) (amount : Nat) : Delta H :=
  { held := K.paid collector amount, accrued := -amount }

/-- **A fee sweep**: the fees are written off first, and that is the slack the payout uses. -/
theorem wp_withdrawFees (hs : K.Solvent w) (hQ : ∀ w', w.store.reentrancy = 1 → K.Change token
      (K.sweepDelta w.store.config.feeCollector (w.store.accruedFees token)) w w' → Q () w') :
    (K.withdrawFees m token).Wp K.rely K.Consistent Q w := by
  refine wp_nonReentrant fun hguard => ?_
  simp only [wp_bind, wp_get, liftM_eq_lift, wp_lift, require_eq_ok, forall_unit]
  intro _ _
  refine wp_heldBalance fun held _ => ?_
  intro _ _ _
  simp only [wp_modify]
  have hzero : K.Change token { accrued := -(w.store.accruedFees token : Int) } (raised w) _ :=
    change_accrued (v := 0) (by simp [raised])
  refine wp_payOut rfl ((hs.by token).raised.change hzero)
    (by simp [Delta.margin, raised]) fun w2 hpay => ?_
  refine wp_emit_quiet token rfl rfl fun w3 hemit => hQ _ hguard ?_
  have h3 := hzero.trans (hpay.trans hemit)
  refine Change.guarded ?_ hguard
  have hδ : ({ accrued := -(w.store.accruedFees token : Int) } +
      ({ held := K.paid w.store.config.feeCollector (w.store.accruedFees token) } + 0) :
        Delta H) = K.sweepDelta w.store.config.feeCollector (w.store.accruedFees token) := by
    rw [sweepDelta]
    ext <;> simp
  rwa [← hδ]

lemma wp_rescueAllowed (hQ : Q () w) :
    (gov (K.rescueAllowed m token)).Wp K.rely K.Consistent Q w := by
  rw [wp_gov, rescueAllowed]
  split
  · simp only [onlyOwner, post_bind, Gov.post_config, post_lift, List.map_nil, List.append_nil]
    exact fun _ _ _ _ => hQ
  · simpa using hQ

/-- **A rescue** can only take what is beyond the obligations. -/
theorem wp_rescue (hs : K.Solvent w) (hQ : ∀ w', w.store.reentrancy = 1 → (K.honest token →
        w.store.lockedBalance token + w.store.accruedFees token + amount ≤ K.held w token) →
      K.Change token { held := -amount } w w' → Q () w') :
    (K.rescue m token dest amount).Wp K.rely K.Consistent Q w := by
  refine wp_nonReentrant fun hguard => ?_
  simp only [wp_bind, liftM_eq_lift, wp_lift, require_eq_ok, forall_unit]
  refine wp_rescueAllowed ?_
  intro _ hdest hpos
  refine wp_surplusOf fun surplus hsurplus => ?_
  intro hle
  have hslack (hh : K.honest token) :
      w.store.lockedBalance token + w.store.accruedFees token + amount ≤ K.held w token :=
    (Nat.add_le_add_left hle _).trans (hsurplus hh (by omega))
  refine wp_payOut rfl (hs.slack hslack).raised le_rfl fun w1 hpay => ?_
  refine wp_emit_quiet token rfl rfl fun w2 hemit => hQ _ hguard hslack ?_
  have h2 := hpay.trans hemit
  rw [Delta.add_zero, paid_of_ne hdest] at h2
  exact h2.guarded hguard

end Sinks

/-! ### Registration, rotation, timelock -/

section Timelock

variable {localToken newBridge : Address}

lemma wp_onlySelf (hQ : Q () w) : (gov (K.onlySelf m)).Wp K.rely K.Consistent Q w := by
  rw [wp_gov]
  simpa [onlySelf] using fun _ => hQ

lemma wp_onlyOwner (hQ : Q () w) : (gov (onlyOwner m)).Wp K.rely K.Consistent Q w := by
  rw [wp_gov]
  simpa [onlyOwner] using fun _ => hQ

lemma wp_probe (hQ : Q () w) : (K.probe localToken).Wp K.rely K.Consistent Q w := by
  rw [probe, wp_ite]
  refine ⟨fun _ => ?_, fun _ => hQ⟩
  simp only [wp_bind]
  exact wp_requireCode (wp_balanceOf fun _ _ => hQ)

/-- An event ends a guarded body that has left the books alone. -/
lemma wp_emit_guarded {e : Event H} (he : sents [e] = []) (he' : executions [e] = [])
    (hguard : w.store.reentrancy = 1) (hquiet : K.Quiet (raised w) w')
    (hQ : ∀ w', K.Quiet w w' → Q () w') :
    (emit e).Wp K.rely K.Consistent (fun a w' => Q a (lowered w')) w' := by
  refine wp_emit_quiet 0 he he' fun w2 hemit => hQ _ ?_
  have h2 := hquiet.trans hemit
  rw [Delta.add_zero] at h2
  exact h2.guarded hguard

lemma wp_cancelWrapperBridgeRotation (hs : K.Solvent w) (hQ : ∀ w', K.Quiet w w' → Q () w') :
    (cancelWrapperBridgeRotation m localToken).Wp K.rely K.Consistent Q w := by
  rw [cancelWrapperBridgeRotation, wp_bind]
  refine wp_onlyOwner (wp_nonReentrant fun hguard => ?_)
  rw [wp_bind]
  refine wp_cancelBridgeRotation rfl hs fun w1 hquiet => ?_
  exact wp_emit_guarded rfl rfl hguard hquiet hQ

variable [DecidableEq H] [Zero H]

lemma wp_requirePinned (hQ : Q () w) : (requirePinned localToken).Wp K.rely K.Consistent Q w := by
  simp only [requirePinned, wp_bind, wp_get, liftM_eq_lift, wp_lift]
  intro _ _
  refine ⟨fun w' hy => hy.elim, ?_⟩
  rintro codehash w' rfl _ _
  exact hQ

lemma wp_proposeWrapperBridge (hs : K.Solvent w) (hQ : ∀ w', K.Quiet w w' → Q () w') :
    (K.proposeWrapperBridge m localToken newBridge).Wp K.rely K.Consistent Q w := by
  rw [proposeWrapperBridge, wp_bind]
  refine wp_onlySelf (wp_nonReentrant fun hguard => ?_)
  simp only [wp_bind, liftM_eq_lift, wp_lift]
  intro _ _ _ _
  refine ⟨fun w' hy => hy.elim, ?_⟩
  rintro identity w' rfl _ _
  refine wp_requirePinned (wp_proposeBridge rfl hs fun w1 hquiet => ?_)
  exact wp_emit_guarded rfl rfl hguard hquiet hQ

lemma wp_adoptWrapper (hs : K.Solvent w) (hQ : ∀ w', K.Quiet w w' → Q () w') :
    (adoptWrapper m localToken).Wp K.rely K.Consistent Q w := by
  rw [adoptWrapper, wp_bind]
  refine wp_onlyOwner (wp_nonReentrant fun hguard => ?_)
  simp only [wp_bind]
  refine wp_requirePinned (wp_acceptBridge rfl hs fun w1 hquiet => ?_)
  exact wp_emit_guarded rfl rfl hguard hquiet hQ

lemma wp_timelocked {call : Timelocked H} (hs : K.Solvent w)
    (hquiet : (∀ token dest amount, call ≠ .rescue token dest amount) →
      ∀ w', K.Quiet w w' → Q () w')
    (hrescue : ∀ token dest amount w', call = .rescue token dest amount → w.store.reentrancy = 1 →
      (K.honest token →
        w.store.lockedBalance token + w.store.accruedFees token + amount ≤ K.held w token) →
      K.Change token { held := -amount } w w' → Q () w') :
    (K.timelocked m call).Wp K.rely K.Consistent Q w := by
  cases call with
  | setter call =>
    exact wp_gov_quiet 0 (K.setter_kept m call) fun _ w' hc => hquiet (by simp) w' hc
  | registerCanonical =>
    rw [timelocked, registerCanonical, wp_bind]
    refine wp_onlySelf ?_
    rw [wp_bind]
    exact wp_probe (wp_gov_quiet 0 (register_kept m _ _ _ _ _ _) fun _ w' hc =>
      hquiet (by simp) w' hc)
  | registerWrapped =>
    rw [timelocked, registerWrapped, wp_bind]
    refine wp_onlySelf ?_
    simp only [wp_bind, liftM_eq_lift, wp_lift]
    intro _ _
    refine wp_requireCode (wp_requirePinned (wp_bridgeOf fun minter => ?_))
    intro _ _
    exact wp_gov_quiet 0 (register_kept m _ _ _ _ _ _) fun _ w' hc => hquiet (by simp) w' hc
  | proposeWrapperBridge => exact wp_proposeWrapperBridge hs (hquiet (by simp))
  | rescue token dest amount => exact wp_rescue hs fun w' => hrescue token dest amount w' rfl

lemma wp_executeAction {actionId : Nat} (hs : K.Solvent w)
    (hquiet : (∀ a token dest amount, w.store.config.actions[actionId]? = some a →
      a.data ≠ .encoded (.rescue token dest amount)) → ∀ w', K.Quiet w w' → Q () w')
    (hrescue : ∀ a token dest amount w', w.store.config.actions[actionId]? = some a →
      a.data = .encoded (.rescue token dest amount) → w.store.reentrancy = 1 → (K.honest token →
        w.store.lockedBalance token + w.store.accruedFees token + amount ≤ K.held w token) →
      K.Change token { held := -amount } w w' → Q () w') :
    (K.executeAction m actionId).Wp K.rely K.Consistent Q w := by
  rw [executeAction, wp_bind, wp_gov]
  refine (post_startAction m actionId).mono fun data s h => ?_
  obtain ⟨hkept, a, ha, hdata⟩ := h
  -- marking the action as executed is not on the books
  have hmark (u : Address) : K.Change u 0 w ⟨{ w.store with
      config := s.config, logs := w.store.logs ++ s.emitted.map .gov }, w.env⟩ :=
    Change.of_store rfl hkept rfl rfl (by simp) (by simp) rfl rfl
  rw [wp_bind]
  cases data with
  | short | raw => trivial
  | encoded =>
    refine wp_timelocked hs (fun hcall w1 hq => ?_) (fun token dest amount w1 hcall hg hsl hc => ?_)
    · refine wp_emit_quiet 0 rfl rfl fun w2 hemit => hquiet (fun a' token dest amount ha' hd => ?_) w2 ?_
      · obtain rfl : a = a' := Option.some.inj (ha.symm.trans ha')
        rw [hdata] at hd
        exact hcall token dest amount (CallData.encoded.inj hd)
      · have h := (hmark 0).trans (hq.trans hemit)
        rwa [Delta.add_zero, Delta.add_zero] at h
    · refine wp_emit_quiet token rfl rfl fun w2 hemit =>
        hrescue a token dest amount w2 ha (by rw [hdata, hcall]) hg hsl ?_
      have h := (hmark token).trans (hc.trans hemit)
      rwa [Delta.add_zero, Delta.zero_add] at h

end Timelock

/-! ### Every function -/

/-- The tokens whose books a call is about. -/
def Concerns (s : Store H) : Function H → Address → Prop
  | .send localToken _ _ _, u => u = localToken
  | .execute t _, u => u = t.dstToken
  | .withdrawFees token, u => u = token
  | .timelocked (.rescue token _ _), u => u = token
  | .executeAction actionId, u =>
    ∃ a dest amount, s.config.actions[actionId]? = some a ∧
      a.data = .encoded (.rescue u dest amount)
  | _, _ => False

/-- **The books of a successful call**: which token's, and by how much. -/
inductive Booked (K : Chain H) (w : State H) (m : Context) :
    Function H → Address → Delta H → Prop
  | send {localToken recipient : Address} {amount dstChainId fee : Nat} {t : BridgeTransfer}
      (hout : Outgoing w.store m localToken amount recipient t fee) :
      Booked K w m (.send localToken amount dstChainId recipient) localToken
        ({ held := if localToken = 0 then amount else 0 } +
          sendDelta (w.store.config.tokenConfig localToken).kind t fee)
  | execute {t : BridgeTransfer} {sigs : List Signature} (hin : Incoming K w.store m t sigs) :
      Booked K w m (.execute t sigs) t.dstToken
        (executeDelta (w.store.config.tokenConfig t.dstToken).kind t (K.transferIdOf t))
  | withdrawFees {token : Address} (hguard : w.store.reentrancy = 1) :
      Booked K w m (.withdrawFees token) token
        (K.sweepDelta w.store.config.feeCollector (w.store.accruedFees token))
  | rescue {token dest : Address} {amount : Nat} (hguard : w.store.reentrancy = 1)
      (hslack : K.honest token →
        w.store.lockedBalance token + w.store.accruedFees token + amount ≤ K.held w token) :
      Booked K w m (.timelocked (.rescue token dest amount)) token { held := -amount }
  | rescueAction {actionId : Nat} {a : Action H} {token dest : Address} {amount : Nat}
      (ha : w.store.config.actions[actionId]? = some a)
      (hdata : a.data = .encoded (.rescue token dest amount))
      (hguard : w.store.reentrancy = 1) (hslack : K.honest token →
        w.store.lockedBalance token + w.store.accruedFees token + amount ≤ K.held w token) :
      Booked K w m (.executeAction actionId) token { held := -amount }
  | quiet {f : Function H} (hf : ∀ u, ¬ Concerns w.store f u) : Booked K w m f 0 0

variable {f : Function H} {u : Address} {δ : Delta H}

lemma Booked.concerns (h : Booked K w m f u δ) : Concerns w.store f u ∨ δ = 0 := by
  cases h with
  | send | execute | withdrawFees | rescue => exact .inl rfl
  | rescueAction ha hdata => exact .inl ⟨_, _, _, ha, hdata⟩
  | quiet => exact .inr rfl

lemma Booked.eq_zero (h : Booked K w m f u δ) (hg : w.store.reentrancy = 2) : δ = 0 := by
  have hne : w.store.reentrancy ≠ 1 := by omega
  cases h with
  | send hout => exact absurd hout.guard hne
  | execute hin => exact absurd hin.guard hne
  | withdrawFees hguard | rescue hguard | rescueAction _ _ hguard => exact absurd hguard hne
  | quiet => rfl

lemma sendDelta_margin {kind : TokenKind} {t : BridgeTransfer} {fee : Nat} :
    (({ held := if t.srcToken = 0 then ((t.amount + fee : Nat) : Int) else 0 } : Delta H) +
      sendDelta kind t fee).margin ≥ 0 := by
  simp only [Delta.margin, sendDelta, lockDelta, pulled, Delta.add_held, Delta.add_locked,
    Delta.add_accrued]
  by_cases hkind : kind = .CANONICAL <;> by_cases h0 : t.srcToken = 0 <;>
    simp only [hkind, h0, ne_eq, not_true, not_false_eq_true, false_and, and_self, and_false,
      if_true, if_false] <;> omega

/-- **A call keeps the bridge solvent.** -/
theorem Booked.solvent (h : Booked K w m f u δ) (hs : K.Solvent w) (hc : K.Change u δ w w') :
    K.Solvent w' := by
  have hsolvent := (hs.by u).change hc
  cases h with
  | send hout =>
    obtain rfl := hout.srcToken
    refine hsolvent.solvent ?_
    rw [← hout.amount, zero_add]
    exact sendDelta_margin
  | execute =>
    refine hsolvent.solvent ?_
    unfold executeDelta
    split <;> simp [Delta.margin]
  | withdrawFees =>
    refine hsolvent.solvent ?_
    have hpaid : -((w.store.accruedFees u : Nat) : Int) ≤
        K.paid w.store.config.feeCollector (w.store.accruedFees u) := neg_le_paid
    simp only [sweepDelta, Delta.margin]
    omega
  | rescue _ hslack | rescueAction _ _ _ hslack =>
    refine ((hs.slack hslack).change hc).solvent ?_
    simp [Delta.margin]
  | quiet => exact hsolvent.solvent (by simp)

/-! ### The run of a call -/

lemma arrive_of_value_eq_zero (hv : m.value = 0) : K.arrive w m f = w := by rw [arrive, if_pos hv]

lemma arrive_store : (K.arrive w m f).store = w.store := by
  unfold arrive
  split
  · rfl
  · cases f <;> rfl

lemma change_arrive (hadm : K.Admissible w m) (hf : f ≠ .receive) :
    K.Change 0 { held := m.value } w (K.arrive w m f) := by
  by_cases hv : m.value = 0
  · rw [arrive_of_value_eq_zero hv, hv]
    exact Change.refl w
  · have harrive : K.arrive w m f = ⟨w.store, w.env.move 0 m.sender K.this m.value⟩ := by
      rw [arrive, if_neg hv]
      cases f <;> first | rfl | exact absurd rfl hf
    have hc : K.Change 0 { held := entry K.this m.value K.this - entry m.sender m.value K.this }
        w ⟨w.store, w.env.move 0 m.sender K.this m.value⟩ := change_move hadm.value
    rw [entry_self, entry_of_ne _ hadm.sender.symm, sub_zero] at hc
    rw [harrive]
    exact hc

lemma quiet_arrive (hadm : K.Admissible w m) : K.Quiet w (K.arrive w m .receive) := by
  by_cases hv : m.value = 0
  · rw [arrive_of_value_eq_zero hv]
    exact Change.refl w
  · have hc : K.Change 0 { held := entry K.this m.value K.this - entry m.sender m.value K.this }
        w ⟨w.store, w.env.move 0 m.sender K.this m.value⟩ := change_move hadm.value
    rw [entry_self, entry_of_ne _ hadm.sender.symm, sub_zero] at hc
    rw [arrive, if_neg hv]
    exact change_donate (by simpa using hc)

lemma wp_nonPayable {body : Contract H Unit} (hbody : body.Wp K.rely K.Consistent Q w) :
    (nonPayable m body).Wp K.rely K.Consistent Q (K.arrive w m f) := by
  simp only [nonPayable, wp_bind, liftM_eq_lift, wp_lift, require_eq_ok, forall_unit]
  intro hv
  rwa [arrive_of_value_eq_zero hv]

variable [DecidableEq H] [Zero H]

/-- **Every call that succeeds changes the books as listed**, and hands control out in
consistent worlds only. -/
theorem wp_run (hw : K.Consistent w) (hadm : K.Admissible w m) : (K.run m f).Wp K.rely K.Consistent
      (fun _ w' => ∃ u δ, Booked K w m f u δ ∧ K.Change u δ w w') (K.arrive w m f) := by
  have hs := hw.solvent
  cases f with
  | send localToken amount dstChainId recipient =>
    have harrive : K.Change 0 { held := m.value } w
        (K.arrive w m (.send localToken amount dstChainId recipient)) :=
      change_arrive hadm (by simp)
    have hs0 := ((hs.by 0).change harrive).solvent (by simp [Delta.margin])
    rw [run, wp_bind]
    refine wp_send hadm.sender (hs0.by localToken) le_rfl fun id t fee w' hout hc => ?_
    rw [arrive_store] at hout hc
    refine ⟨localToken, _, .send hout, Change.trans ?_ hc⟩
    have hvalue := hout.value
    by_cases h0 : localToken = 0
    · rw [if_pos h0] at hvalue
      subst h0 hvalue
      simpa using harrive
    · rw [if_neg h0] at hvalue
      rw [if_neg h0, arrive_of_value_eq_zero hvalue]
      exact Change.refl w
  | execute => exact wp_nonPayable (wp_execute hs fun w' hin hc => ⟨_, _, .execute hin, hc⟩)
  | withdrawFees =>
    exact wp_nonPayable (wp_withdrawFees hs fun w' hg hc => ⟨_, _, .withdrawFees hg, hc⟩)
  | timelocked call =>
    refine wp_nonPayable (wp_timelocked hs (fun hcall w' hc => ⟨_, _, .quiet ?_, hc⟩) ?_)
    · cases call with
      | rescue token dest amount => exact absurd rfl (hcall token dest amount)
      | _ => exact fun _ h => h
    · rintro token dest amount w' rfl hg hslack hc
      exact ⟨_, _, .rescue hg hslack, hc⟩
  | instant call =>
    exact wp_nonPayable (wp_gov_quiet 0 (call.run_kept m) fun _ w' hc =>
      ⟨_, _, .quiet fun _ h => h, hc⟩)
  | executeAction =>
    refine wp_nonPayable (wp_executeAction hs (fun hcall w' hc => ⟨_, _, .quiet ?_, hc⟩) ?_)
    · rintro u ⟨a, dest, amount, ha, hdata⟩
      exact hcall a u dest amount ha hdata
    · intro a token dest amount w' ha hdata hg hslack hc
      exact ⟨_, _, .rescueAction ha hdata hg hslack, hc⟩
  | cancelWrapperBridgeRotation =>
    exact wp_nonPayable (wp_cancelWrapperBridgeRotation hs fun w' hc =>
      ⟨_, _, .quiet fun _ h => h, hc⟩)
  | adoptWrapper =>
    exact wp_nonPayable (wp_adoptWrapper hs fun w' hc => ⟨_, _, .quiet fun _ h => h, hc⟩)
  | receive =>
    refine wp_emit_quiet 0 rfl rfl fun w' hc => ⟨_, _, .quiet fun _ h => h, ?_⟩
    have h := (quiet_arrive hadm).trans hc
    rwa [Delta.add_zero] at h

end Chain

end Ferminux.Bridge
