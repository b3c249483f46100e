import Ferminux.Bridge.Effect

/-!
# Bridge.Solvency

**The bridge holds what it owes, whenever anybody else has control**: after every call and
in the middle of every call, for the native coin and every honest token, whoever calls and
whatever code runs. The specifications of `Bridge.Effect` assume that the code which runs
in the middle of a call keeps the bridge consistent and does not touch the books behind the
guard; `host_sound` discharges the assumption, by induction on how deep the calls are
nested, since all that code can do is act on its own and call the bridge.
-/

namespace Ferminux.Bridge

open Lib Ledger Option

variable {H : Type} {K : Chain H} {w w' : State H}

namespace Chain

lemma Quiet.consistent (hw : K.Consistent w) (h : K.Quiet w w') : K.Consistent w' where
  guard := by
    rw [h.guard]
    exact hw.guard
  solvent := ((hw.solvent.by 0).change h).solvent (by simp)

variable {m : Context} {f : Function H}

lemma Booked.consistent {u : Address} {δ : Delta H}
    (h : Booked K w m f u δ) (hw : K.Consistent w) (hc : K.Change u δ w w') : K.Consistent w' where
  guard := by
    rw [hc.guard]
    exact hw.guard
  solvent := h.solvent hw.solvent hc

structure New (s : Store H) : Prop where
  reentrancy : s.reentrancy = 1
  lockedBalance : ∀ token, s.lockedBalance token = 0
  accruedFees : ∀ token, s.accruedFees token = 0
  threshold : 1 ≤ s.config.threshold
  sents : sents s.logs = []
  executions : executions s.logs = []

lemma Deployed.new [Zero H] (h : K.Deployed w) : New w.store := by
  obtain ⟨args, hargs⟩ := h
  simp only [Deployment.construct, bind_eq_ok, pure_eq_ok, require_eq_ok] at hargs
  obtain ⟨-, -, -, -, -, -, -, -, -, -, -, -, -, hthreshold, isValidator, -, hstore⟩ := hargs
  rw [← hstore]
  exact ⟨rfl, fun _ => rfl, fun _ => rfl, hthreshold.1, sents_gov, executions_gov⟩

lemma Deployed.consistent [Zero H] (h : K.Deployed w) : K.Consistent w where
  guard := .inl h.new.reentrancy
  solvent := by
    intro t _
    rw [h.new.lockedBalance, h.new.accruedFees]
    exact Nat.zero_le _

variable [DecidableEq H] [Zero H]

/-- **Nothing that other code does breaks the bridge.** -/
theorem host_sound (K : Chain H) : K.host.Sound K.Consistent K.Guarantee where
  refl w := ⟨rfl, fun _ => Change.refl w⟩
  trans h h' := by
    refine ⟨h'.1.trans h.1, fun hg => ?_⟩
    have hc := (h.2 hg).trans (h'.2 (h.1.trans hg))
    rwa [Delta.add_zero] at hc
  foreign h hw := ⟨Quiet.consistent hw h.quiet, h.quiet.guard, fun _ => h.quiet⟩
  entry := by
    rintro w p w0 hw ⟨m, f, hadm, rfl, rfl⟩
    refine (wp_run hw hadm).mono fun _ w' h => ?_
    obtain ⟨u, δ, hbooked, hc⟩ := h
    refine ⟨hbooked.consistent hw hc, hc.guard, fun hg => ?_⟩
    rw [hbooked.eq_zero hg] at hc
    exact hc.retarget 0

lemma Calls.booked (hw : K.Consistent w)
    (h : K.Calls w m f w') : ∃ u δ, Booked K w m f u δ ∧ K.Change u δ w w' :=
  (wp_run hw h.1).exec (h.2.mono K.host_sound.reentrant_le)

lemma Moment.consistent (h : K.Moment w) : K.Consistent w :=
  K.host_sound.moment (fun _ => Deployed.consistent) h

/-- **Local solvency.** Whenever anybody else has control, after every call and in the
middle of it, the bridge holds its collateral and its fees, of the native coin and of every
honest token. And a call that is not about a token changes neither its collateral nor its
fees nor the bridge's balance of it, plain transfers that came in meanwhile apart. -/
theorem local_solvency (K : Chain H) :
    (∀ w, K.Moment w → ∀ token, K.honest token →
      w.store.lockedBalance token + w.store.accruedFees token ≤ K.held w token) ∧
    ∀ w m f w', K.Moment w → K.Calls w m f w' → ∀ token, K.honest token →
      ¬ Concerns w.store f token → w'.store.lockedBalance token = w.store.lockedBalance token ∧
      w'.store.accruedFees token = w.store.accruedFees token ∧
      K.held w' token = K.held w token + (w'.env.donated token - w.env.donated token) := by
  refine ⟨fun w hw => hw.consistent.solvent, fun w m f w' hw hcall token hh hother => ?_⟩
  obtain ⟨u, δ, hbooked, hc⟩ := hcall.booked hw.consistent
  have hentry (n : Int) (hn : δ = 0 → n = 0) : entry u n token = 0 := by
    rcases hbooked.concerns with hu | h0
    · exact entry_of_ne n fun heq => hother (heq ▸ hu)
    · rw [hn h0, entry_zero]
  have hlocked := hc.locked token
  have haccrued := hc.accrued token
  have hheld := hc.held token hh
  have hdonated := hc.donated token
  rw [hentry _ fun h => by rw [h]; rfl] at hlocked haccrued hheld
  omega

/-! ### A run -/

/-- A bridge with symbolic digests among honest tokens, where a signature names its
signer. -/
def sampleChain (this : Address) (chainId : Nat) : Chain Digest where
  this
  cachedChainId := chainId
  keccak256 := Digest.keccak256
  ecrecover := fun _ _ r _ => BitVec.ofNat 160 r
  honest := fun _ => True
  native_honest := trivial

def sampleArguments : Deployment.Arguments where
  owner := 11
  validators := [21]
  threshold := 1
  feeCollector := 31
  feeBps := 100
  timelockDelay := 3600
  pauser := 0

def sampleEnv : Env where
  ledger := fun token =>
    if token = 0 then ⟨fun who => if who = 41 then 10000 else 0, 10000⟩ else ⟨fun _ => 0, 0⟩
  donated := fun _ => 0
  now := 1000

def samplePin : Digest := .text "BridgeToken"

def sampleDeployed (K : Chain Digest) : Option (State Digest) :=
  (K.construct sampleArguments).toOption.map (⟨·, sampleEnv⟩)

/-- The native coin gets a route to token `300` of the bridge `200` on chain `1`. -/
def sampleRoute : List (Move Digest) :=
  [.call 11 0 (.instant (.queue (.encoded (.setter (.setRemoteBridge 1 200))))),
   .call 11 0 (.instant (.queue (.encoded (.registerCanonical 0 1 300 5000 10000)))),
   .wait 3600,
   .call 11 0 (.executeAction 0),
   .call 11 0 (.executeAction 1)]

lemma sampleDeployed_deployed {K : Chain Digest} (h : (sampleDeployed K).isSome) :
    K.Deployed ((sampleDeployed K).get h) := by
  obtain ⟨s, hs, hw⟩ := map_eq_some_iff.mp (some_get h).symm
  rw [← hw]
  refine ⟨sampleArguments, ?_⟩
  cases hc : K.construct sampleArguments with
  | error =>
    rw [hc] at hs
    cases hs
  | ok =>
    rw [hc] at hs
    rw [Option.some.inj hs]

def sampleNew : State Digest := (sampleDeployed (sampleChain 100 3961)).get (by decide +kernel)

def sampleRouted : State Digest :=
  (sampleRoute.foldlM ((sampleChain 100 3961).perform samplePin) sampleNew).get (by decide +kernel)

def sampleSent : State Digest :=
  ((sampleChain 100 3961).perform samplePin sampleRouted
    (.call 41 1000 (.send 0 1000 1 51))).get (by decide +kernel)

lemma sampleRouted_moment : (sampleChain 100 3961).Moment sampleRouted :=
  moment_of_perform _ (fun _ => trivial) (.start (sampleDeployed_deployed _)) (some_get _).symm

lemma sampleSent_calls : (sampleChain 100 3961).Calls sampleRouted
    ((sampleChain 100 3961).contextOf sampleRouted 41 1000) (.send 0 1000 1 51) sampleSent :=
  calls_of_perform _ (fun _ => trivial) (some_get _).symm

/-- With `990` of collateral and `10` of fees the bridge is solvent after the call, and
nothing has changed for token `7`. -/
theorem local_solvency_send :
    sampleSent.store.lockedBalance 0 = 990 ∧ sampleSent.store.accruedFees 0 = 10 ∧
    sampleSent.store.lockedBalance 0 + sampleSent.store.accruedFees 0 ≤
      (sampleChain 100 3961).held sampleSent 0 ∧
    sampleSent.store.lockedBalance 7 = sampleRouted.store.lockedBalance 7 ∧
    sampleSent.store.accruedFees 7 = sampleRouted.store.accruedFees 7 ∧
    (sampleChain 100 3961).held sampleSent 7 = (sampleChain 100 3961).held sampleRouted 7 +
      (sampleSent.env.donated 7 - sampleRouted.env.donated 7) := by
  obtain ⟨hsolvent, hother⟩ := local_solvency (sampleChain 100 3961)
  refine ⟨by decide +kernel, by decide +kernel, hsolvent _ ?_ 0 trivial,
    hother _ _ _ _ sampleRouted_moment sampleSent_calls 7 trivial (by simp [Concerns])⟩
  exact .returned sampleRouted_moment ⟨_, _, sampleSent_calls.1, rfl, rfl⟩ sampleSent_calls.2

end Chain

end Ferminux.Bridge
