import Ferminux.Bridge.Solvency

/-!
# Bridge.Journal

**What the log of a bridge can be relied on for**, along every run on its chain. A transfer
that has been announced carries the id of the chain and a nonce no other transfer has, and
goes where the route of its token leads, then and ever after; no transfer is announced as
executed twice (`Journal`, kept by every step: `Journal.step`).

For this the calls of `Booked` come down to three: a send, an execution, and everything
else, which moves neither collateral nor supply (`Posting`).
-/

namespace Ferminux.Bridge

open Lib Ledger List Delta

variable {H : Type} {K : Chain H} {w w' : State H}

/-! ### Postings -/

/-- Neither collateral nor supply changes, and nothing is sent or executed. -/
structure Delta.Still (δ : Delta H) : Prop where
  locked : δ.locked = 0
  supply : δ.supply = 0
  sent : δ.sent = []
  executed : δ.executed = []
  logged : δ.logged = []

namespace Chain

abbrev Label (H : Type) := Option (Context × Function H)

/-- **What a step posts** on the books of token `u`. -/
inductive Posting (K : Chain H) (w : State H) (l : Label H) (u : Address) (δ : Delta H) : Prop
  | sent {m : Context} {amount fee : Nat} {recipient : Address} {t : BridgeTransfer}
      (hchain : m.chainid = K.cachedChainId)
      (hout : Outgoing w.store m u amount recipient t fee)
      (hlocked : δ.locked =
        if (w.store.config.tokenConfig u).kind = .CANONICAL then (t.amount : Int) else 0)
      (hsupply : δ.supply =
        if (w.store.config.tokenConfig u).kind = .CANONICAL then 0 else -(t.amount : Int))
      (hsent : δ.sent = [t]) (hexecuted : δ.executed = []) (hlogged : δ.logged = [])
  | executed {m : Context} {t : BridgeTransfer} {sigs : List Signature}
      (hchain : m.chainid = K.cachedChainId) (hl : l = some (m, .execute t sigs))
      (hin : Incoming K w.store m t sigs) (hu : u = t.dstToken)
      (hlocked : δ.locked =
        if (w.store.config.tokenConfig u).kind = .CANONICAL then -(t.amount : Int) else 0)
      (hsupply : δ.supply =
        if (w.store.config.tokenConfig u).kind = .CANONICAL then 0 else (t.amount : Int))
      (hsent : δ.sent = []) (hexecuted : δ.executed = [K.transferIdOf t])
      (hlogged : δ.logged = [K.transferIdOf t])
  | still (h : δ.Still)

variable {δ : Delta H} {t : BridgeTransfer} {m : Context} {u recipient : Address} {amount fee : Nat}

lemma Booked.posting {f : Function H}
    (hchain : m.chainid = K.cachedChainId) (h : Booked K w m f u δ) :
    Posting K w (some (m, f)) u δ := by
  cases h with
  | send hout =>
    refine .sent hchain hout ?_ ?_ ?_ ?_ ?_ <;>
      simp only [sendDelta, lockDelta, add_locked, add_supply, add_sent,
        add_executed, add_logged] <;> split <;> simp
  | execute hin =>
    refine .executed hchain rfl hin rfl ?_ ?_ ?_ ?_ ?_ <;> simp only [executeDelta] <;>
      split <;> simp
  | withdrawFees | rescue | rescueAction | quiet => exact .still ⟨rfl, rfl, rfl, rfl, rfl⟩

/-! ### The journal -/

/-- A transfer that has been announced, against the storage of the bridge that did. -/
structure Announced (K : Chain H) (s : Store H) (t : BridgeTransfer) : Prop where
  srcChainId : t.srcChainId = K.cachedChainId % 2 ^ 64
  nonce : t.nonce ≤ s.outboundNonce
  registered : (s.config.tokenConfig t.srcToken).kind ≠ .UNREGISTERED
  dstChainId : t.dstChainId = (s.config.tokenConfig t.srcToken).remoteChainId
  dstToken : t.dstToken = (s.config.tokenConfig t.srcToken).remoteToken

lemma Announced.change
    (h : Announced K w.store t) (hc : K.Change u δ w w') : Announced K w'.store t := by
  obtain ⟨hkind, hchain, htoken⟩ := hc.config.routes t.srcToken h.registered
  have hnonce := hc.nonce
  exact {
    srcChainId := h.srcChainId
    nonce := by
      have := h.nonce
      omega
    registered := hkind ▸ h.registered
    dstChainId := h.dstChainId.trans hchain.symm
    dstToken := h.dstToken.trans htoken.symm }

lemma Outgoing.announced (hchain : m.chainid = K.cachedChainId)
    (h : Outgoing w.store m u amount recipient t fee) (hc : K.Change u δ w w')
    (hsent : δ.sent = [t]) : Announced K w'.store t := by
  have hreg : (w.store.config.tokenConfig t.srcToken).kind ≠ .UNREGISTERED := by
    rw [h.srcToken]
    exact h.registered
  obtain ⟨hkind, hchainId, htoken⟩ := hc.config.routes t.srcToken hreg
  have hnonce := hc.nonce
  rw [hsent, length_singleton] at hnonce
  exact {
    srcChainId := by rw [h.srcChainId, hchain]
    nonce := by rw [h.nonce, hnonce]
    registered := hkind ▸ hreg
    dstChainId := by rw [hchainId, h.srcToken, h.dstChainId]
    dstToken := by rw [htoken, h.srcToken, h.dstToken] }

structure Journal (K : Chain H) (w : State H) : Prop where
  consistent : K.Consistent w
  /-- Nothing is executed without a signature. -/
  threshold : 1 ≤ w.store.config.threshold
  announced : ∀ t ∈ sents w.store.logs, Announced K w.store t
  ordered : (sents w.store.logs).Pairwise (·.nonce < ·.nonce)
  processed : ∀ id ∈ executions w.store.logs, w.store.processed id = true
  once : (executions w.store.logs).Nodup

lemma Deployed.journal [Zero H] (h : K.Deployed w) : Journal K w where
  consistent := h.consistent
  threshold := h.new.threshold
  announced := by simp [h.new.sents]
  ordered := by simp [h.new.sents]
  processed := by simp [h.new.executions]
  once := by simp [h.new.executions]

lemma Journal.nodup (h : Journal K w) : (sents w.store.logs).Nodup :=
  h.ordered.imp fun hlt heq => (heq ▸ hlt).false

lemma Journal.fresh (h : Journal K w)
    (hout : Outgoing w.store m u amount recipient t fee) : t ∉ sents w.store.logs := by
  intro ht
  have hle := (h.announced t ht).nonce
  rw [hout.nonce] at hle
  omega

lemma Journal.extend (h : Journal K w) (hconsistent : K.Consistent w') (hc : K.Change u δ w w')
    (hsent : ∀ t ∈ δ.sent, Announced K w'.store t ∧ w.store.outboundNonce < t.nonce)
    (hordered : δ.sent.Pairwise (·.nonce < ·.nonce))
    (hlogged : ∀ id ∈ δ.logged, id ∈ δ.executed ∧ w.store.processed id = false)
    (honce : δ.logged.Nodup) : Journal K w' where
  consistent := hconsistent
  threshold := hc.config.threshold h.threshold
  announced := by
    intro t ht
    rw [hc.sent, mem_append] at ht
    rcases ht with ht | ht
    · exact (h.announced t ht).change hc
    · exact (hsent t ht).1
  ordered := by
    rw [hc.sent, pairwise_append]
    refine ⟨h.ordered, hordered, fun t ht t' ht' => ?_⟩
    exact (h.announced t ht).nonce.trans_lt (hsent t' ht').2
  processed := by
    intro id hid
    rw [hc.logged, mem_append] at hid
    rw [hc.processed]
    exact hid.imp (h.processed id) fun hid => (hlogged id hid).1
  once := by
    rw [hc.logged, nodup_append']
    refine ⟨h.once, honce, fun id hid hid' => ?_⟩
    have hdone := h.processed id hid
    rw [(hlogged id hid').2] at hdone
    cases hdone

variable [DecidableEq H] [Zero H] {l : Label H}

/-- One step on a chain: other code acts, or somebody calls the bridge. -/
inductive Transition (K : Chain H) : State H → Label H → State H → Prop
  | foreign {w w' : State H} (h : K.Foreign w w') : Transition K w none w'
  | call {w w' : State H} {m : Context} {f : Function H} (h : K.Calls w m f w') :
      Transition K w (some (m, f)) w'

lemma Transition.posting (hw : K.Consistent w) (h : K.Transition w l w') :
    ∃ u δ, Posting K w l u δ ∧ K.Change u δ w w' := by
  cases h with
  | foreign h => exact ⟨0, 0, .still ⟨rfl, rfl, rfl, rfl, rfl⟩, h.quiet⟩
  | call h =>
    obtain ⟨u, δ, hbooked, hc⟩ := h.booked hw
    exact ⟨u, δ, hbooked.posting h.1.chainid, hc⟩

lemma Transition.consistent (hw : K.Consistent w) (h : K.Transition w l w') : K.Consistent w' := by
  cases h with
  | foreign h => exact Quiet.consistent hw h.quiet
  | call h =>
    obtain ⟨u, δ, hbooked, hc⟩ := h.booked hw
    exact hbooked.consistent hw hc

/-- One step of the bridge, or of others, keeps the journal. -/
theorem Journal.step {l : Label H} (h : Journal K w) (hstep : K.Transition w l w') :
    Journal K w' := by
  obtain ⟨u, δ, hposting, hc⟩ := hstep.posting h.consistent
  refine h.extend (hstep.consistent h.consistent) hc ?_ ?_ ?_ ?_
  all_goals
    cases hposting with
    | sent hchain hout _ _ hsent _ hlogged =>
      have hannounced := hout.announced hchain hc hsent
      have hnonce := hout.nonce
      simp [hsent, hlogged, hannounced, hnonce]
    | executed _ _ hin _ _ _ hsent hexecuted hlogged =>
      simp [hsent, hexecuted, hlogged, hin.fresh]
    | still hδ => simp [hδ.sent, hδ.logged]

end Chain

end Ferminux.Bridge
