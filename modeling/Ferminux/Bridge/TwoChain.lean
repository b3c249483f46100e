import Ferminux.Bridge.Journal
import Ferminux.Lib.Escrow

/-!
# Bridge.TwoChain

**Two bridges that work for each other.** Bridge `a` locks a token, bridge `b` mints a
wrapper for it, and validators carry messages between them: they sign only what the other
bridge really announced. Both bridges are called by anybody, in any order and with any code
in the middle; messages may be late, out of order or lost.

The pair is an **escrow** (`Lib.Escrow`): every step of either chain is a step of the
abstract protocol on one side's ledger and one channel, or leaves both alone
(`Pair.Step.escrow`). So the collateral is what is minted and what is under way.
-/

open Function (Injective)

namespace Ferminux.Bridge

open Lib Ledger List BridgeTransfer Channel

variable {H : Type}

/-- A token on one chain, and its wrapper on the other. -/
structure Pair (H : Type) where
  a : Chain H
  b : Chain H
  token : Address
  wrapper : Address
  wrapper_ne_zero : wrapper ≠ 0
  /-- Only the bridge creates or destroys the wrapper. -/
  wrapper_honest : b.honest wrapper

structure System (H : Type) where
  a : State H
  b : State H

/-! ### Messages between two bridges -/

namespace Chain

/-- The id of the chain as the transfers carry it. -/
def chainId64 (K : Chain H) : Nat := K.cachedChainId % 2 ^ 64

/-- The token is registered for this route, or not at all. -/
def MayRoute (s : Store H) (token : Address) (kind : TokenKind) (remoteChainId : Nat)
    (remoteToken : Address) : Prop :=
  (s.config.tokenConfig token).kind ≠ .UNREGISTERED → (s.config.tokenConfig token).kind = kind ∧
    (s.config.tokenConfig token).remoteChainId = remoteChainId ∧
    (s.config.tokenConfig token).remoteToken = remoteToken

variable {K L : Chain H} {w w' v : State H}

lemma MayRoute.of_change {u token remoteToken : Address} {kind : TokenKind}
    {remoteChainId : Nat} {δ : Delta H} (hc : K.Change u δ w w')
    (h : MayRoute w'.store token kind remoteChainId remoteToken) :
    MayRoute w.store token kind remoteChainId remoteToken := by
  intro hreg
  obtain ⟨hkind, hchain, htoken⟩ := hc.config.routes token hreg
  rw [← hkind, ← hchain, ← htoken]
  exact h (hkind ▸ hreg)

/-- **Validators of `K` sign only what `L` has announced**, of all that claims to come from
the chain of `L`. -/
def Attested (K L : Chain H) (w v : State H) (l : Label H) : Prop :=
  ∀ m t sigs, l = some (m, .execute t sigs) → t.srcChainId = L.chainId64 →
    ∀ sig ∈ sigs, ∀ signer, K.recover (K.hashTransfer m.chainid t) sig = .ok signer →
      w.store.config.isValidator signer = true →
      ∃ t' ∈ sents v.store.logs, K.hashTransfer m.chainid t' = K.hashTransfer m.chainid t

/-- Whatever `K` has executed from the chain of `L` has been announced there. -/
def Genuine (K L : Chain H) (w v : State H) : Prop :=
  ∀ t, K.transferIdOf t ∈ executions w.store.logs → t.srcChainId = L.chainId64 →
    t ∈ sents v.store.logs

lemma Incoming.announced {l : Label H} {m : Context} {t : BridgeTransfer}
    {sigs : List Signature} (hinj : Injective K.keccak256) (hw : Journal K w)
    (hatt : Attested K L w v l) (hl : l = some (m, .execute t sigs))
    (hin : Incoming K w.store m t sigs) (hsrc : t.srcChainId = L.chainId64) :
    t ∈ sents v.store.logs := by
  obtain ⟨sig, hsig, signer, hsigner, hvalidator⟩ :=
    Deployment.exists_signer_of_verifySignatures hw.threshold hin.signed
  obtain ⟨t', ht', hhash⟩ := hatt m t sigs hl hsrc sig hsig signer hsigner hvalidator
  rwa [← K.hashTransfer_injective hinj m.chainid hhash]

/-! ### The channel -/

def outbox (token : Address) (s : Store H) : Finset BridgeTransfer :=
  ((sents s.logs).filter (·.srcToken = token)).toFinset

/-- What the bridge with storage `src` has sent of a token, and what `K`, with storage
`dst`, has executed of that. -/
def channel (K : Chain H) [DecidableEq H] (token : Address) (src dst : Store H) :
    Channel BridgeTransfer where
  sent := outbox token src
  received := (outbox token src).filter fun t => K.transferIdOf t ∈ executions dst.logs
  genuine := Finset.filter_subset _ _

variable [DecidableEq H] {token : Address} {t : BridgeTransfer} {s s' dst dst' : Store H}

@[simp] lemma mem_channel_sent :
    t ∈ (K.channel token s dst).sent ↔ t ∈ sents s.logs ∧ t.srcToken = token := by
  simp [channel, outbox]

@[simp] lemma mem_channel_received : t ∈ (K.channel token s dst).received ↔
      (t ∈ sents s.logs ∧ t.srcToken = token) ∧ K.transferIdOf t ∈ executions dst.logs := by
  simp [channel, outbox]

lemma channel_congr (hs : sents s'.logs = sents s.logs)
    (hdst : executions dst'.logs = executions dst.logs) :
    K.channel token s' dst' = K.channel token s dst := by
  simp [channel, outbox, hs, hdst]

lemma channel_send_other (hs : sents s'.logs = sents s.logs ++ [t]) (ht : t.srcToken ≠ token) :
    K.channel token s' dst = K.channel token s dst := by
  have houtbox : outbox token s' = outbox token s := by simp [outbox, hs, ht]
  simp [channel, houtbox]

lemma channel_send (hs : sents s'.logs = sents s.logs ++ [t]) (ht : t.srcToken = token)
    (hnew : K.transferIdOf t ∉ executions dst.logs) :
    K.channel token s' dst = (K.channel token s dst).send t := by
  have houtbox : outbox token s' = insert t (outbox token s) := by simp [outbox, hs, ht]
  refine Channel.ext houtbox ?_
  simp [channel, Channel.send, houtbox, Finset.filter_insert, if_neg hnew]

variable (hinj : Injective K.keccak256)
include hinj

lemma channel_receive_other
    (hdst : executions dst'.logs = executions dst.logs ++ [K.transferIdOf t])
    (ht : t ∉ (K.channel token s dst).sent) : K.channel token s dst' = K.channel token s dst := by
  refine Channel.ext rfl (Finset.filter_congr fun t' ht' => ?_)
  rw [hdst, mem_append, mem_singleton, (K.transferIdOf_injective hinj).eq_iff]
  exact or_iff_left fun heq => ht (heq ▸ ht')

lemma channel_receive (hdst : executions dst'.logs = executions dst.logs ++ [K.transferIdOf t])
    (ht : t ∈ (K.channel token s dst).sent) :
    K.channel token s dst' = (K.channel token s dst).receive t ht := by
  refine Channel.ext rfl (Finset.ext fun t' => ?_)
  have ht' := mem_channel_sent.mp ht
  simp only [Channel.receive, mem_channel_received, Finset.mem_insert, hdst, mem_append,
    mem_singleton, (K.transferIdOf_injective hinj).eq_iff]
  constructor
  · rintro ⟨hsent, hdone | rfl⟩
    · exact .inr ⟨hsent, hdone⟩
    · exact .inl rfl
  · rintro (rfl | ⟨hsent, hdone⟩)
    · exact ⟨ht', .inr rfl⟩
    · exact ⟨hsent, .inl hdone⟩

omit hinj

/-- **What a step of `K` does to its two channels with `L`**: `token` goes out, `remote` is
what comes back for it. The amounts are what it adds to the collateral and the supply of
the token. -/
inductive Traffic (K L : Chain H) (token remote : Address) (kind : TokenKind)
    (w v w' : State H) : Int → Int → Prop
  | idle
      (hout : L.channel token w'.store v.store = L.channel token w.store v.store)
      (hin : K.channel remote v.store w'.store = K.channel remote v.store w.store) :
      Traffic K L token remote kind w v w' 0 0
  | sent (t : BridgeTransfer) (hnew : t ∉ (L.channel token w.store v.store).sent)
      (hout : L.channel token w'.store v.store = (L.channel token w.store v.store).send t)
      (hin : K.channel remote v.store w'.store = K.channel remote v.store w.store) :
      Traffic K L token remote kind w v w' (if kind = .CANONICAL then t.amount else 0)
        (if kind = .CANONICAL then 0 else -t.amount)
  | received (t : BridgeTransfer) (hsent : t ∈ (K.channel remote v.store w.store).sent)
      (hfresh : t ∉ (K.channel remote v.store w.store).received)
      (hout : L.channel token w'.store v.store = L.channel token w.store v.store)
      (hin : K.channel remote v.store w'.store =
        (K.channel remote v.store w.store).receive t hsent) :
      Traffic K L token remote kind w v w' (if kind = .CANONICAL then -t.amount else 0)
        (if kind = .CANONICAL then 0 else t.amount)

variable [Zero H] {remote : Address} {kind back : TokenKind} {l : Label H}

/-- **Every step is traffic on the channels**, given the route in both directions. -/
theorem Transition.traffic (hinj : Injective K.keccak256)
    (hw : Journal K w) (hv : Journal L v) (hgenuine : Genuine L K v w)
    (hroute : MayRoute w.store token kind L.chainId64 remote)
    (hback : MayRoute v.store remote back K.chainId64 token)
    (hatt : Attested K L w v l) (hstep : K.Transition w l w') : ∃ u δ, K.Change u δ w w' ∧
      Traffic K L token remote kind w v w' (entry u δ.locked token) (entry u δ.supply token) := by
  obtain ⟨u, δ, hposting, hc⟩ := hstep.posting hw.consistent
  refine ⟨u, δ, hc, ?_⟩
  have hs := hc.sent
  have hdst := hc.logged
  cases hposting with
  | still h =>
    rw [h.sent, append_nil] at hs
    rw [h.logged, append_nil] at hdst
    rw [h.locked, h.supply, entry_zero]
    exact .idle (channel_congr hs rfl) (channel_congr rfl hdst)
  | @sent m amount fee recipient t hchain hout hlocked hsupply hsent hexecuted hlogged =>
    rw [hsent] at hs
    rw [hlogged, append_nil] at hdst
    by_cases hu : u = token
    · subst hu
      have hnew := hw.fresh hout
      have hid : L.transferIdOf t ∉ executions v.store.logs := fun hid =>
        hnew (hgenuine t hid (by rw [hout.srcChainId, hchain]; rfl))
      rw [entry_self, entry_self, hlocked, hsupply, (hroute hout.registered).1]
      exact .sent t (fun h => hnew (mem_channel_sent.mp h).1)
        (channel_send hs hout.srcToken hid) (channel_congr rfl hdst)
    · rw [entry_of_ne _ (Ne.symm hu), entry_of_ne _ (Ne.symm hu)]
      exact .idle (channel_send_other hs (hout.srcToken ▸ hu)) (channel_congr rfl hdst)
  | @executed m t sigs hchain hl hin hu hlocked hsupply hsent hexecuted hlogged =>
    subst hu
    rw [hsent, append_nil] at hs
    rw [hlogged] at hdst
    by_cases ht : t.dstToken = token
    · subst ht
      obtain ⟨hkind, hchainId, htoken⟩ := hroute hin.registered
      have hannounced := hin.announced hinj hw hatt hl (hin.srcChainId.symm.trans hchainId)
      have hmem : t ∈ (K.channel remote v.store w.store).sent :=
        mem_channel_sent.mpr ⟨hannounced, hin.srcToken.symm.trans htoken⟩
      have hfresh : t ∉ (K.channel remote v.store w.store).received := fun h => by
        have hdone := hw.processed _ (mem_channel_received.mp h).2
        rw [hin.fresh] at hdone
        cases hdone
      rw [entry_self, entry_self, hlocked, hsupply, hkind]
      exact .received t hmem hfresh (channel_congr hs rfl) (channel_receive hinj hdst hmem)
    · have hmem : t ∉ (K.channel remote v.store w.store).sent := fun h => by
        obtain ⟨hsents, hsrc⟩ := mem_channel_sent.mp h
        have hannounced := hv.announced t hsents
        have hroute' := hback (hsrc ▸ hannounced.registered)
        exact ht (hannounced.dstToken.trans (hsrc ▸ hroute'.2.2))
      rw [entry_of_ne _ (Ne.symm ht), entry_of_ne _ (Ne.symm ht)]
      exact .idle (channel_congr hs rfl) (channel_receive_other hinj hdst hmem)

lemma Genuine.step (hinj : Injective K.keccak256) (hw : Journal K w)
    (h : Genuine K L w v) (hatt : Attested K L w v l) (hstep : K.Transition w l w') :
    Genuine K L w' v := by
  obtain ⟨u, δ, hposting, hc⟩ := hstep.posting hw.consistent
  intro t ht hsrc
  rw [hc.logged, mem_append] at ht
  rcases ht with ht | ht
  · exact h t ht hsrc
  · cases hposting with
    | sent _ _ _ _ _ _ hlogged => simp [hlogged] at ht
    | still hδ => simp [hδ.logged] at ht
    | executed _ hl hin _ _ _ _ _ hlogged =>
      rw [hlogged, mem_singleton] at ht
      obtain rfl := K.transferIdOf_injective hinj ht
      exact hin.announced hinj hw hatt hl hsrc

lemma Genuine.step_peer (hw : Journal K w) (h : Genuine L K v w)
    (hstep : K.Transition w l w') : Genuine L K v w' := by
  obtain ⟨u, δ, -, hc⟩ := hstep.posting hw.consistent
  intro t ht hsrc
  rw [hc.sent]
  exact mem_append_left _ (h t ht hsrc)

end Chain

/-! ### The pair as an escrow -/

namespace Pair

open Chain Relation

variable [DecidableEq H] [Zero H] (P : Pair H)

/-- A step on either chain; executions there are attested. -/
inductive Step : System H → System H → Prop
  | a {s : System H} {l : Label H} {a' : State H} (h : P.a.Transition s.a l a')
      (hatt : Attested P.a P.b s.a s.b l) : Step s ⟨a', s.b⟩
  | b {s : System H} {l : Label H} {b' : State H} (h : P.b.Transition s.b l b')
      (hatt : Attested P.b P.a s.b s.a l) : Step s ⟨s.a, b'⟩

structure Start (s : System H) : Prop where
  a : P.a.Deployed s.a
  b : P.b.Deployed s.b
  supply : s.b.env.supply P.wrapper = 0

omit [DecidableEq H] [Zero H] in
/-- The token and the wrapper are registered for each other, or not at all. -/
structure Linked (s : System H) : Prop where
  a : MayRoute s.a.store P.token .CANONICAL P.b.chainId64 P.wrapper
  b : MayRoute s.b.store P.wrapper .WRAPPED P.a.chainId64 P.token

omit [DecidableEq H] [Zero H] in
/-- Both journals, and executions on either side only of what the other announced. -/
structure Coherent (s : System H) : Prop where
  a : Journal P.a s.a
  b : Journal P.b s.b
  genuineA : Genuine P.a P.b s.a s.b
  genuineB : Genuine P.b P.a s.b s.a

omit [Zero H] in
def escrow (s : System H) : Escrow BridgeTransfer where
  locked := s.a.store.lockedBalance P.token
  issued := s.b.env.supply P.wrapper
  out := P.b.channel P.token s.a.store s.b.store
  home := P.a.channel P.wrapper s.b.store s.a.store

variable {P} {s s' : System H}

omit [DecidableEq H] in
lemma Start.coherent (h : P.Start s) : P.Coherent s where
  a := h.a.journal
  b := h.b.journal
  genuineA t ht := by simp [h.a.new.executions] at ht
  genuineB t ht := by simp [h.b.new.executions] at ht

lemma Start.escrow (h : P.Start s) : P.escrow s = .empty := by
  have hempty {K : Chain H} {token : Address} {src dst : Store H} (hsrc : sents src.logs = []) :
      K.channel token src dst = .empty := by
    ext t <;> simp [empty, hsrc]
  exact Escrow.ext (h.a.new.lockedBalance _) h.supply (hempty h.a.new.sents) (hempty h.b.new.sents)

lemma Step.linked (h : P.Step s s') (hs : P.Coherent s) (hs' : P.Linked s') : P.Linked s := by
  cases h with
  | a h =>
    obtain ⟨u, δ, -, hc⟩ := h.posting hs.a.consistent
    exact ⟨hs'.a.of_change hc, hs'.b⟩
  | b h =>
    obtain ⟨u, δ, -, hc⟩ := h.posting hs.b.consistent
    exact ⟨hs'.a, hs'.b.of_change hc⟩

section Injective

variable (ha : Injective P.a.keccak256) (hb : Injective P.b.keccak256)
include ha hb

lemma Step.coherent (h : P.Step s s') (hs : P.Coherent s) : P.Coherent s' := by
  cases h with
  | a h hatt =>
    exact ⟨hs.a.step h, hs.b, hs.genuineA.step ha hs.a hatt h, hs.genuineB.step_peer hs.a h⟩
  | b h hatt =>
    exact ⟨hs.a, hs.b.step h, hs.genuineA.step_peer hs.b h, hs.genuineB.step hb hs.b hatt h⟩

omit hb in
lemma escrow_stepA {l : Label H} {a' : State H} (hs : P.Coherent s) (hlinked : P.Linked s)
    (hatt : Attested P.a P.b s.a s.b l) (h : P.a.Transition s.a l a') :
    ReflGen (Escrow.Step amount) (P.escrow s) (P.escrow ⟨a', s.b⟩) := by
  obtain ⟨u, δ, hc, htraffic⟩ := h.traffic ha hs.a hs.b hs.genuineB hlinked.a hlinked.b hatt
  have hlocked := hc.locked P.token
  generalize entry u δ.locked P.token = dl at hlocked htraffic
  generalize entry u δ.supply P.token = ds at htraffic
  cases htraffic with
  | idle hout hin =>
    have heq : P.escrow ⟨a', s.b⟩ = P.escrow s :=
      Escrow.ext (by simp only [escrow]; omega) rfl hout hin
    rw [heq]
  | sent t hnew hout hin =>
    rw [if_pos rfl] at hlocked
    have heq : P.escrow ⟨a', s.b⟩ = { P.escrow s with
        locked := (P.escrow s).locked + t.amount, out := (P.escrow s).out.send t } :=
      Escrow.ext (by simp only [escrow]; omega) rfl hout hin
    rw [heq]
    exact .single (.lock t hnew)
  | received t hsent hfresh hout hin =>
    rw [if_pos rfl] at hlocked
    have heq : P.escrow ⟨a', s.b⟩ = { P.escrow s with
        locked := (P.escrow s).locked - t.amount, home := (P.escrow s).home.receive t hsent } :=
      Escrow.ext (by simp only [escrow]; omega) rfl hout hin
    rw [heq]
    exact .single (.release t hsent hfresh (by simp only [escrow]; omega))

omit ha in
lemma escrow_stepB {l : Label H} {b' : State H} (hs : P.Coherent s) (hlinked : P.Linked s)
    (hatt : Attested P.b P.a s.b s.a l) (h : P.b.Transition s.b l b') :
    ReflGen (Escrow.Step amount) (P.escrow s) (P.escrow ⟨s.a, b'⟩) := by
  obtain ⟨u, δ, hc, htraffic⟩ := h.traffic hb hs.b hs.a hs.genuineA hlinked.b hlinked.a hatt
  have hsupply := hc.supply P.wrapper P.wrapper_honest P.wrapper_ne_zero
  generalize entry u δ.locked P.wrapper = dl at htraffic
  generalize entry u δ.supply P.wrapper = ds at hsupply htraffic
  cases htraffic with
  | idle hout hin =>
    have heq : P.escrow ⟨s.a, b'⟩ = P.escrow s :=
      Escrow.ext rfl (by simp only [escrow]; omega) hin hout
    rw [heq]
  | sent t hnew hout hin =>
    rw [if_neg (by decide)] at hsupply
    have heq : P.escrow ⟨s.a, b'⟩ = { P.escrow s with
        issued := (P.escrow s).issued - t.amount, home := (P.escrow s).home.send t } :=
      Escrow.ext rfl (by simp only [escrow]; omega) hin hout
    rw [heq]
    exact .single (.retire t hnew (by simp only [escrow]; omega))
  | received t hsent hfresh hout hin =>
    rw [if_neg (by decide)] at hsupply
    have heq : P.escrow ⟨s.a, b'⟩ = { P.escrow s with
        issued := (P.escrow s).issued + t.amount, out := (P.escrow s).out.receive t hsent } :=
      Escrow.ext rfl (by simp only [escrow]; omega) hin hout
    rw [heq]
    exact .single (.issue t hsent hfresh)

/-- **Refinement**: a step of either chain is a step of the escrow, or none. -/
theorem Step.escrow (h : P.Step s s') (hs : P.Coherent s) (hlinked : P.Linked s) :
    ReflGen (Escrow.Step amount) (P.escrow s) (P.escrow s') := by
  cases h with
  | a h hatt => exact escrow_stepA ha hs hlinked hatt h
  | b h hatt => exact escrow_stepB hb hs hlinked hatt h

lemma run_escrow {s₀ : System H} (hstart : P.Start s₀) (hrun : ReflTransGen P.Step s₀ s) :
    P.Coherent s ∧ (P.Linked s → Escrow.Reachable amount (P.escrow s)) := by
  induction hrun with
  | refl =>
    refine ⟨hstart.coherent, fun _ => ?_⟩
    rw [hstart.escrow]
    exact .refl
  | tail _ hstep ih =>
    obtain ⟨hcoherent, hreach⟩ := ih
    refine ⟨hstep.coherent ha hb hcoherent, fun hlinked => ?_⟩
    have hlinked' := hstep.linked hcoherent hlinked
    exact (hreach hlinked').trans (hstep.escrow ha hb hcoherent hlinked').to_reflTransGen

end Injective

/-! ### Backing -/

end Pair

namespace Chain

variable [DecidableEq H]

/-- What has been sent of a token and not been executed by `K`. -/
def undelivered (K : Chain H) (token : Address) (src dst : Store H) : List BridgeTransfer :=
  (sents src.logs).filter fun t => t.srcToken = token ∧ K.transferIdOf t ∉ executions dst.logs

variable {K : Chain H} {token : Address} {src dst : Store H}

lemma pending_channel :
    (K.channel token src dst).pending = (K.undelivered token src dst).toFinset := by
  ext t
  simp only [pending, Finset.mem_sdiff, mem_channel_sent, mem_channel_received,
    undelivered, mem_toFinset, mem_filter, decide_eq_true_eq]
  tauto

lemma inFlight_channel (hnodup : (sents src.logs).Nodup) :
    (K.channel token src dst).inFlight amount =
      ((K.undelivered token src dst).map (·.amount)).sum := by
  rw [inFlight, pending_channel]
  exact sum_toFinset _ (hnodup.filter _)

end Chain

namespace Pair

open Chain Relation

variable [DecidableEq H] [Zero H] {pin : H}

/-- **Two-chain backing.** In every run of the two chains, the collateral is what is minted
and what is under way in either direction; nothing that was sent is executed twice; and
whatever is on its way home, the collateral covers it. -/
theorem two_chain_backing (P : Pair H) (ha : Injective P.a.keccak256)
    (hb : Injective P.b.keccak256) {s₀ s : System H} (hstart : P.Start s₀)
    (hrun : ReflTransGen P.Step s₀ s) (hlinked : P.Linked s) :
    s.a.store.lockedBalance P.token = s.b.env.supply P.wrapper +
      ((P.b.undelivered P.token s.a.store s.b.store).map (·.amount)).sum +
      ((P.a.undelivered P.wrapper s.b.store s.a.store).map (·.amount)).sum ∧
    (∀ t ∈ sents s.a.store.logs, (executions s.b.store.logs).count (P.b.transferIdOf t) ≤ 1) ∧
    (∀ t ∈ sents s.b.store.logs, (executions s.a.store.logs).count (P.a.transferIdOf t) ≤ 1) ∧
    ∀ t ∈ P.a.undelivered P.wrapper s.b.store s.a.store,
      ∃ left, checkedSub (s.a.store.lockedBalance t.dstToken) t.amount = .ok left := by
  obtain ⟨hcoherent, hreach⟩ := run_escrow ha hb hstart hrun
  have hbacked := (hreach hlinked).backed
  refine ⟨?_, ?_, ?_, ?_⟩
  · rw [← inFlight_channel hcoherent.a.nodup, ← inFlight_channel hcoherent.b.nodup]
    exact hbacked
  · exact fun t _ => nodup_iff_count_le_one.mp hcoherent.b.once _
  · exact fun t _ => nodup_iff_count_le_one.mp hcoherent.a.once _
  · intro t ht
    have hpending : t ∈ (P.a.channel P.wrapper s.b.store s.a.store).pending := by
      rw [pending_channel]
      exact mem_toFinset.mpr ht
    have hcovers := hbacked.covers hpending
    have hmem := mem_filter.mp ht
    have hannounced := hcoherent.b.announced t hmem.1
    have hsrc : t.srcToken = P.wrapper := by simpa using (of_decide_eq_true hmem.2).1
    have hdst : t.dstToken = P.token :=
      hannounced.dstToken.trans (hsrc ▸ (hlinked.b (hsrc ▸ hannounced.registered)).2.2)
    rw [hdst]
    exact ⟨_, checkedSub_eq_ok.mpr ⟨hcovers, rfl⟩⟩

/-! ### A run of both chains -/

inductive Move (H : Type) where
  | a (move : Chain.Move H)
  | b (move : Chain.Move H)

/-- What an execution needs: the other bridge has announced the transfer. -/
def attested (v : State H) : Chain.Move H → Bool
  | .call _ _ (.execute t _) => t ∈ sents v.store.logs
  | _ => true

def perform (P : Pair H) (pin : H) (s : System H) : Move H → Option (System H)
  | .a move => if attested s.b move then (P.a.perform pin s.a move).map (⟨·, s.b⟩) else none
  | .b move => if attested s.a move then (P.b.perform pin s.b move).map (⟨s.a, ·⟩) else none

lemma transition_of_perform {K L : Chain H} (hall : ∀ token, K.honest token)
    {w w' v : State H} {move : Chain.Move H} (hatt : attested v move = true)
    (h : K.perform pin w move = some w') : ∃ l, K.Transition w l w' ∧ Attested K L w v l := by
  cases move with
  | wait => exact ⟨none, .foreign (K.foreign_of_perform h), fun _ _ _ hl => by cases hl⟩
  | call =>
    refine ⟨_, .call (K.calls_of_perform hall h), ?_⟩
    intro m t sigs hl _ sig _ signer _ _
    obtain ⟨-, rfl⟩ := Prod.mk.inj (Option.some.inj hl)
    exact ⟨t, of_decide_eq_true hatt, rfl⟩

lemma step_of_perform {P : Pair H} (ha : ∀ token, P.a.honest token)
    (hb : ∀ token, P.b.honest token) {s s' : System H} {move : Move H}
    (h : P.perform pin s move = some s') : P.Step s s' := by
  cases move with
  | a =>
    obtain ⟨hatt, h⟩ := Option.ite_none_right_eq_some.mp h
    obtain ⟨a', ha', rfl⟩ := Option.map_eq_some_iff.mp h
    obtain ⟨l, hstep, hl⟩ := transition_of_perform ha hatt ha'
    exact .a hstep hl
  | b =>
    obtain ⟨hatt, h⟩ := Option.ite_none_right_eq_some.mp h
    obtain ⟨b', hb', rfl⟩ := Option.map_eq_some_iff.mp h
    obtain ⟨l, hstep, hl⟩ := transition_of_perform hb hatt hb'
    exact .b hstep hl

lemma steps_of_perform {P : Pair H} (ha : ∀ token, P.a.honest token)
    (hb : ∀ token, P.b.honest token) {moves : List (Move H)} {s s' : System H}
    (h : moves.foldlM (P.perform pin) s = some s') : ReflTransGen P.Step s s' := by
  induction moves generalizing s with
  | nil =>
    obtain rfl := Option.some.inj h
    exact .refl
  | cons _ _ ih =>
    obtain ⟨s1, hstep, hrest⟩ := Option.bind_eq_some_iff.mp h
    exact .head (step_of_perform ha hb hstep) (ih hrest)

/-- The native coin of chain `3961`, locked there, and its wrapper `300` on chain `1`. -/
def samplePair : Pair Digest where
  a := sampleChain 100 3961
  b := sampleChain 200 1
  token := 0
  wrapper := 300
  wrapper_ne_zero := by decide
  wrapper_honest := trivial

def sampleTransfer : BridgeTransfer where
  srcChainId := 3961
  dstChainId := 1
  nonce := 1
  srcToken := 0
  dstToken := 300
  sender := 41
  recipient := 51
  amount := 990

/-- The route is set up on both chains; a thousand is sent and executed, and half of it is
sent home. -/
def sampleMoves : List (Move Digest) :=
  sampleRoute.map .a ++
  [.b (.call 11 0 (.instant (.queue (.encoded (.setter (.setBridgeTokenCodehash samplePin)))))),
   .b (.call 11 0 (.instant (.queue (.encoded (.setter (.setRemoteBridge 3961 100)))))),
   .b (.call 11 0 (.instant (.queue (.encoded (.registerWrapped 300 3961 0 5000 10000))))),
   .b (.wait 3600),
   .b (.call 11 0 (.executeAction 0)),
   .b (.call 11 0 (.executeAction 1)),
   .b (.call 11 0 (.executeAction 2)),
   .a (.call 41 1000 (.send 0 1000 1 51)),
   .b (.call 61 0 (.execute sampleTransfer [⟨27, 21, 1⟩])),
   .b (.call 51 0 (.send 300 500 3961 41))]

def sampleStart : System Digest where
  a := (sampleDeployed samplePair.a).get (by decide +kernel)
  b := (sampleDeployed samplePair.b).get (by decide +kernel)

def sampleEnd : System Digest :=
  (sampleMoves.foldlM (samplePair.perform samplePin) sampleStart).get (by decide +kernel)

lemma samplePair_start : samplePair.Start sampleStart where
  a := sampleDeployed_deployed (by decide +kernel)
  b := sampleDeployed_deployed (by decide +kernel)
  supply := by decide +kernel

lemma samplePair_run : ReflTransGen samplePair.Step sampleStart sampleEnd :=
  steps_of_perform (fun _ => trivial) (fun _ => trivial) (Option.some_get _).symm

/-- Of `990` that are locked, `495` are minted and `495` are on their way home. -/
theorem two_chain_backing_sample :
    sampleEnd.a.store.lockedBalance 0 = 990 ∧ sampleEnd.b.env.supply 300 = 495 ∧
    ((samplePair.b.undelivered 0 sampleEnd.a.store sampleEnd.b.store).map (·.amount)).sum +
      ((samplePair.a.undelivered 300 sampleEnd.b.store sampleEnd.a.store).map (·.amount)).sum
        = 495 ∧
    (∀ t ∈ sents sampleEnd.a.store.logs,
      (executions sampleEnd.b.store.logs).count (samplePair.b.transferIdOf t) ≤ 1) ∧
    ∀ t ∈ samplePair.a.undelivered 300 sampleEnd.b.store sampleEnd.a.store,
      ∃ left, checkedSub (sampleEnd.a.store.lockedBalance t.dstToken) t.amount = .ok left := by
  have hlinked : samplePair.Linked sampleEnd :=
    ⟨fun _ => by decide +kernel, fun _ => by decide +kernel⟩
  obtain ⟨hbacked, honce, -, hcovered⟩ := two_chain_backing samplePair
    Digest.keccak256_injective Digest.keccak256_injective samplePair_start samplePair_run hlinked
  have hlocked : sampleEnd.a.store.lockedBalance 0 = 990 := by decide +kernel
  have hsupply : sampleEnd.b.env.supply 300 = 495 := by decide +kernel
  refine ⟨hlocked, hsupply, ?_, honce, hcovered⟩
  change sampleEnd.a.store.lockedBalance 0 = sampleEnd.b.env.supply 300 +
    ((samplePair.b.undelivered 0 sampleEnd.a.store sampleEnd.b.store).map (·.amount)).sum +
    ((samplePair.a.undelivered 300 sampleEnd.b.store sampleEnd.a.store).map (·.amount)).sum
    at hbacked
  omega

/-! ### What is for good -/

variable {K : Chain H} {w w' : State H}

/-- Any steps of one chain, attested or not. -/
abbrev Run (K : Chain H) : State H → State H → Prop :=
  ReflTransGen fun w w' => ∃ l, K.Transition w l w'

lemma Run.journal (hrun : Run K w w') (h : K.Deployed w) : Journal K w' := by
  induction hrun with
  | refl => exact h.journal
  | tail _ hstep ih => exact ih.step hstep.choose_spec

/-- **No replay.** In every run from the deployment on, no two announced transfers have a nonce
in common, none is executed twice, and one that was is refused whoever has signed it. -/
theorem replay_safe (h : K.Deployed w) (hrun : Run K w w') :
    (sents w'.store.logs).Pairwise (·.nonce < ·.nonce) ∧ (executions w'.store.logs).Nodup ∧
    ∀ t, K.transferIdOf t ∈ executions w'.store.logs →
      ∀ m sigs w'', ¬ K.Calls w' m (.execute t sigs) w'' := by
  have hjournal := hrun.journal h
  refine ⟨hjournal.ordered, hjournal.once, fun t ht m sigs w'' hcall => ?_⟩
  obtain ⟨u, δ, hbooked, -⟩ := hcall.booked hjournal.consistent
  have hdone := hjournal.processed _ ht
  cases hbooked with
  | execute hin => simp [hin.fresh] at hdone
  | quiet hf => exact hf t.dstToken rfl

lemma run_b {P : Pair H} {s s' : System H} (hrun : ReflTransGen P.Step s s') :
    Run P.b s.b s'.b := by
  refine hrun.lift' System.b fun s s' hstep => ?_
  cases hstep with
  | a => exact .refl
  | b h => exact .single ⟨_, h⟩

lemma sampleEnd_run : Run samplePair.b sampleStart.b sampleEnd.b := run_b samplePair_run

/-- The sample transfer has been executed, and nobody can execute it again. -/
theorem replay_safe_executed :
    samplePair.b.transferIdOf sampleTransfer ∈ executions sampleEnd.b.store.logs ∧
    ∀ m sigs w, ¬ samplePair.b.Calls sampleEnd.b m (.execute sampleTransfer sigs) w := by
  have hdone : samplePair.b.transferIdOf sampleTransfer ∈ executions sampleEnd.b.store.logs := by
    decide +kernel
  exact ⟨hdone, (replay_safe samplePair_start.b sampleEnd_run).2.2 _ hdone⟩

/-- **Routes are for good.** From any world of a run to any later one, a registered token keeps
its route, what was processed stays processed, and transfers are announced behind the old ones. -/
theorem routes_permanent {w₀ : State H} (h : K.Deployed w₀) (hrun : Run K w₀ w)
    (hlater : Run K w w') :
    RoutesKept w.store.config.tokenConfig w'.store.config.tokenConfig ∧
    (∀ id, w.store.processed id = true → w'.store.processed id = true) ∧
    sents w.store.logs <+: sents w'.store.logs := by
  induction hlater with
  | refl => exact ⟨.refl, fun _ => id, prefix_rfl⟩
  | tail hmid hstep ih =>
    obtain ⟨hroutes, hprocessed, hsents⟩ := ih
    obtain ⟨l, hstep⟩ := hstep
    obtain ⟨u, δ, -, hc⟩ := hstep.posting (Run.journal (hrun.trans hmid) h).consistent
    refine ⟨hroutes.trans hc.config.routes, fun id hid => ?_, hsents.trans ?_⟩
    · exact (hc.processed id).mpr (.inl (hprocessed id hid))
    · rw [hc.sent]
      exact prefix_append ..

/-- More is sent home. -/
def sampleLater : System Digest :=
  ([.b (.call 51 0 (.send 300 200 3961 41))].foldlM (samplePair.perform samplePin) sampleEnd).get
    (by decide +kernel)

/-- The wrapper keeps its route, the executed transfer stays processed, and the transfer that was
announced before stays the first. -/
theorem routes_permanent_sample :
    (sents sampleEnd.b.store.logs).length = 1 ∧ (sents sampleLater.b.store.logs).length = 2 ∧
    (sampleLater.b.store.config.tokenConfig 300).remoteChainId = 3961 ∧
    sampleLater.b.store.processed (samplePair.b.transferIdOf sampleTransfer) = true ∧
    sents sampleEnd.b.store.logs <+: sents sampleLater.b.store.logs := by
  have hlater : ReflTransGen samplePair.Step sampleEnd sampleLater :=
    steps_of_perform (fun _ => trivial) (fun _ => trivial) (Option.some_get _).symm
  obtain ⟨hroutes, hprocessed, hsents⟩ :=
    routes_permanent samplePair_start.b sampleEnd_run (run_b hlater)
  have hroute : (sampleEnd.b.store.config.tokenConfig 300).remoteChainId = 3961 := by
    decide +kernel
  refine ⟨by decide +kernel, by decide +kernel, ?_, hprocessed _ (by decide +kernel), hsents⟩
  rw [← hroute, (hroutes 300 (by decide +kernel)).2.1]

end Pair

end Ferminux.Bridge
